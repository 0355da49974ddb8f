import UsbAudio.Proof.Frame

/-!
# The alt-setting invariant

In live operation each direction is `ALTSET_OFF` or `ALTSET_ON`, its voice is active exactly when
it is on, and it buffers nothing while off (`AltsetOk`). The buffer is emptied by re-creating it
on every transition to `ALTSET_OFF`, and kept empty because a data transfer stalls while off and
the demand callbacks only fire while the voice is active.

* `DeviceAltsetOk.step`: one live event keeps it in both directions; `DeviceAltsetOk.of_live`,
  by induction, every run of live events.
* `altset_invariant`: every state reached from `usb_audio_realize` by live events keeps it.
-/

namespace UsbAudio

variable {V : Type} {st st' : Stream V} {s : USBAudioState}

/-- **The alt-setting invariant** of one direction. -/
structure AltsetOk (st : Stream V) : Prop where
  valid : st.altset = altsetOff ∨ st.altset = altsetOn
  active_iff : st.voice.active = true ↔ st.altset = altsetOn
  empty_of_off : st.altset = altsetOff → st.buf.prod = st.buf.cons

namespace AltsetOk

/-- A successful alt-setting switch leaves the direction well formed, whatever it was before. -/
theorem of_setAltset {buffer a : BitVec 32} (h : st.setAltset buffer a = some st') :
    AltsetOk st' := by
  rcases Stream.setAltset_eq_some h with ⟨rfl, rfl⟩ | ⟨rfl, rfl⟩
  · exact ⟨.inl rfl, by simp [altsetOff_ne_altsetOn], fun _ => rfl⟩
  · exact ⟨.inr rfl, by simp, fun h => absurd h altsetOff_ne_altsetOn.symm⟩

theorem setAltset_getD (h : AltsetOk st) (buffer a : BitVec 32) :
    AltsetOk ((st.setAltset buffer a).getD st) := by
  cases hs : st.setAltset buffer a with
  | none => exact h
  | some st' => exact of_setAltset hs

/-- Moving the buffer of a direction that is not off. -/
theorem setBuf (h : AltsetOk st) (hne : st.altset ≠ altsetOff) (b : StreamBuf) :
    AltsetOk { st with buf := b } :=
  ⟨h.valid, h.active_iff, fun h' => absurd h' hne⟩

theorem altset_ne_off (h : AltsetOk st) (ha : st.voice.active = true) : st.altset ≠ altsetOff :=
  fun h' => altsetOff_ne_altsetOn (h' ▸ h.active_iff.1 ha)

/-- Anything that keeps `altset`, the voice's activity and the buffer. -/
theorem congr (h : AltsetOk st) (h1 : st'.altset = st.altset)
    (h2 : st'.voice.active = st.voice.active) (h3 : st'.buf = st.buf) : AltsetOk st' :=
  ⟨h1 ▸ h.valid, h1 ▸ h2 ▸ h.active_iff, h1 ▸ h3 ▸ h.empty_of_off⟩

end AltsetOk

/-- Both directions keep the invariant. -/
def DeviceAltsetOk (s : USBAudioState) : Prop := AltsetOk s.out ∧ AltsetOk s.in

theorem DeviceAltsetOk.setInterface (h : DeviceAltsetOk s) (iface value : BitVec 32) :
    DeviceAltsetOk (usbAudioSetInterface s iface value) := by
  unfold usbAudioSetInterface
  split_ifs
  · rw [usbAudioSetOutputAltset_getD]; exact ⟨h.1.setAltset_getD _ _, h.2⟩
  · rw [usbAudioSetInputAltset_getD]; exact ⟨h.1, h.2.setAltset_getD _ _⟩
  · exact h

theorem DeviceAltsetOk.reset (h : DeviceAltsetOk s) : DeviceAltsetOk (usbAudioHandleReset s) := by
  unfold usbAudioHandleReset
  rw [usbAudioSetOutputAltset_getD, usbAudioSetInputAltset_getD]
  exact ⟨h.1.setAltset_getD s.buffer altsetOff, h.2.setAltset_getD s.buffer altsetOff⟩

theorem DeviceAltsetOk.control (h : DeviceAltsetOk s) (request value index : BitVec 16)
    (data : List UInt8) :
    DeviceAltsetOk (usbAudioHandleControl s request value index data).1 := by
  rcases usbAudioHandleControl_cases (s := s) request value index data with he | he
  · rw [he]; exact h
  · rcases usbAudioSetControl_eq_some he with ⟨-, m, v, he'⟩ | ⟨-, m, v, he'⟩ <;> rw [he']
    · exact ⟨h.1.congr rfl rfl rfl, h.2⟩
    · exact ⟨h.1, h.2.congr rfl rfl rfl⟩

theorem DeviceAltsetOk.data (h : DeviceAltsetOk s) (p : USBPacket) :
    DeviceAltsetOk (usbAudioHandleData s p).1 := by
  rcases usbAudioHandleData_cases (s := s) p with he | ⟨hne, b, he⟩ | ⟨hne, b, he⟩ <;> rw [he]
  · exact h
  · exact ⟨h.1.setBuf hne b, h.2⟩
  · exact ⟨h.1, h.2.setBuf hne b⟩

theorem DeviceAltsetOk.realize (buffer : BitVec 32) (fresh : Nat → UInt8) :
    DeviceAltsetOk (usbAudioRealize buffer fresh) :=
  ⟨⟨.inl rfl, by simp [usbAudioRealize, altsetOff_ne_altsetOn], fun _ => rfl⟩,
   ⟨.inl rfl, by simp [usbAudioRealize, altsetOff_ne_altsetOn], fun _ => rfl⟩⟩

/-- A live event keeps the invariant. -/
theorem DeviceAltsetOk.step (h : DeviceAltsetOk s) (e : Event) (he : e.Live s) :
    DeviceAltsetOk (e.apply s) := by
  cases e with
  | reset => exact h.reset
  | setInterface iface value => exact h.setInterface iface value
  | control request value index data => exact h.control request value index data
  | data p => exact h.data p
  | output avail => exact ⟨h.1.setBuf (h.1.altset_ne_off he) _, h.2⟩
  | input avail pcm => exact ⟨h.1, h.2.setBuf (h.2.altset_ne_off he) _⟩
  | restore snap => exact he.elim

/-- Every state live operation reaches keeps the invariant. -/
theorem DeviceAltsetOk.of_live (h : Reachable Event.Live s) : DeviceAltsetOk s := by
  induction h with
  | realize buffer fresh => exact DeviceAltsetOk.realize buffer fresh
  | step e _ he ih => exact ih.step e he

/-- **Alt-setting invariant over live operation.** In every state reached from
`usb_audio_realize` by resets, set-interface requests with any interface and value, control
requests, data transfers, and demand callbacks fired while their voice is active, each direction
is `ALTSET_OFF` or `ALTSET_ON`, the last `AUD_set_active_*` call for its voice passed `true`
exactly when it is `ALTSET_ON`, and it holds no data (`prod = cons`) while `ALTSET_OFF`. -/
theorem altset_invariant (h : Reachable Event.Live s) : AltsetOk s.out ∧ AltsetOk s.in :=
  DeviceAltsetOk.of_live h

/-- The invariant after a reset and `SET_INTERFACE(1, 1)`. -/
theorem altset_invariant_realize :
    Reachable Event.Live ((Event.setInterface 1 1).apply (Event.reset.apply (usbAudioRealize 0 0))) ∧
      AltsetOk ((Event.setInterface 1 1).apply (Event.reset.apply (usbAudioRealize 0 0))).out ∧
      AltsetOk ((Event.setInterface 1 1).apply (Event.reset.apply (usbAudioRealize 0 0))).in :=
  have h := (Reachable.realize 0 0).step _ trivial |>.step (Event.setInterface 1 1) trivial
  ⟨h, altset_invariant h⟩

end UsbAudio
