import UsbAudio.Spec.Device

/-!
# What each entry point can change

One inversion lemma per entry point, saying every state it can produce. The invariants over
reachable states are proved from these alone:

* the alt-setting switch (`Stream.setAltset_eq_some`) touches only `altset`, the voice's
  activity and the buffer;
* a control request (`usbAudioHandleControl_cases`) touches only `mute`, `vol` and the voice's
  volume, and pushes what it changed;
* a data transfer or a demand callback touches only the buffer of a direction that is not
  `ALTSET_OFF` (`usbAudioHandleData_cases`).
-/

namespace UsbAudio

variable {V : Type} {st st' : Stream V} {s s' : USBAudioState}

theorem altsetOff_ne_altsetOn : altsetOff ≠ altsetOn := by decide

namespace Stream

@[simp] theorem pushVolume_altset (lr : V → BitVec 8 × BitVec 8) :
    (st.pushVolume lr).altset = st.altset := rfl

theorem setAltset_eq_some {buffer a : BitVec 32} (h : st.setAltset buffer a = some st') :
    (a = altsetOff ∧ st' = { st with
      buf := streambufInit buffer st.buf.data, voice := { st.voice with active := false },
      altset := a }) ∨
    (a = altsetOn ∧ st' = { st with voice := { st.voice with active := true }, altset := a }) := by
  unfold setAltset at h
  split_ifs at h with h1 h2
  · exact .inl ⟨h1, (Option.some.inj h).symm⟩
  · exact .inr ⟨h2, (Option.some.inj h).symm⟩

@[simp] theorem setAltset_getD_mute (buffer a : BitVec 32) :
    ((st.setAltset buffer a).getD st).mute = st.mute := by
  unfold setAltset; split_ifs <;> rfl

@[simp] theorem setAltset_getD_vol (buffer a : BitVec 32) :
    ((st.setAltset buffer a).getD st).vol = st.vol := by
  unfold setAltset; split_ifs <;> rfl

theorem setAltset_eq_none {buffer a : BitVec 32} :
    st.setAltset buffer a = none ↔ a ≠ altsetOff ∧ a ≠ altsetOn := by
  unfold setAltset
  split_ifs <;> simp_all

end Stream

/-- The result of `usb_audio_set_control` in each of its four accepted cases: a write to the unit
the request addresses, pushed to its voice. -/
theorem usbAudioSetControl_eq_some {attrib : BitVec 8} {cscn idif : BitVec 16}
    {data : List UInt8} (h : usbAudioSetControl s attrib cscn idif data = some s') :
    (idif = 0x0200 ∧ ∃ m v,
      s' = { s with out := ({ s.out with mute := m, vol := v } : Stream _).pushVolume outLr }) ∨
    (idif = 0x0500 ∧ ∃ m v,
      s' = { s with «in» := ({ s.in with mute := m, vol := v } : Stream _).pushVolume inLr }) := by
  unfold usbAudioSetControl at h
  dsimp only at h
  split_ifs at h with h1 h2 h3 h4 h5 h6 <;> cases h <;> simp only [attribId_inj] at *
  · exact .inl ⟨h1.2.2, _, _, rfl⟩
  · exact .inl ⟨h2.2.2, _, _, rfl⟩
  · exact .inr ⟨h4.2.2, _, _, rfl⟩
  · exact .inr ⟨h5.2.2, _, _, rfl⟩

/-- A control request either changes nothing or is an accepted SET. -/
theorem usbAudioHandleControl_cases (request value index : BitVec 16) (data : List UInt8) :
    (usbAudioHandleControl s request value index data).1 = s ∨
      usbAudioSetControl s (request.setWidth 8) value index data =
        some (usbAudioHandleControl s request value index data).1 := by
  unfold usbAudioHandleControl
  dsimp only
  split_ifs
  · split <;> exact .inl rfl
  · split <;> rename_i h
    · exact .inl rfl
    · exact .inr h
  · exact .inl rfl

/-- A data transfer either changes nothing or moves the buffer of a direction that is not
`ALTSET_OFF`. -/
theorem usbAudioHandleData_cases (p : USBPacket) :
    (usbAudioHandleData s p).1 = s ∨
    (s.out.altset ≠ altsetOff ∧
      ∃ b, (usbAudioHandleData s p).1 = { s with out := { s.out with buf := b } }) ∨
    (s.in.altset ≠ altsetOff ∧
      ∃ b, (usbAudioHandleData s p).1 = { s with «in» := { s.in with buf := b } }) := by
  unfold usbAudioHandleData usbAudioHandleDataout usbAudioHandleDatain
  -- each branch returns `s`, or writes the buffer of the direction whose alt setting it tested
  split_ifs <;> (try split) <;>
    first
    | exact .inl rfl
    | exact .inr (.inl ⟨‹_›, _, rfl⟩)
    | exact .inr (.inr ⟨‹_›, _, rfl⟩)

theorem usbAudioSetOutputAltset_getD (a : BitVec 32) :
    (usbAudioSetOutputAltset s a).getD s = { s with out := (s.out.setAltset s.buffer a).getD s.out } := by
  unfold usbAudioSetOutputAltset
  cases s.out.setAltset s.buffer a <;> rfl

theorem usbAudioSetInputAltset_getD (a : BitVec 32) :
    (usbAudioSetInputAltset s a).getD s = { s with «in» := (s.in.setAltset s.buffer a).getD s.in } := by
  unfold usbAudioSetInputAltset
  cases s.in.setAltset s.buffer a <;> rfl

end UsbAudio
