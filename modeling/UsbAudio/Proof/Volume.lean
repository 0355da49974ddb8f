import UsbAudio.Proof.Frame

/-!
# The backend's volume mirrors the device's

Every path that writes a mute flag or a volume pushes the result to the voice: the SET_CUR
requests and `usb_audio_post_load`. Nothing else writes them.

* `volume_mirrors_state`: in every state reached from `usb_audio_realize` by any events, the
  restores included, the last `AUD_set_volume_out` carried `(out.mute, out.vol[0], out.vol[1])`
  and the last `AUD_set_volume_in` carried `(in.mute, in.vol, in.vol)`.
-/

namespace UsbAudio

variable {V : Type} {st st' : Stream V} {s : USBAudioState}

/-- The voice holds the direction's mute flag and volume, as `lr` passes them. -/
def Stream.Synced (st : Stream V) (lr : V → BitVec 8 × BitVec 8) : Prop :=
  st.voice.volume = (st.mute, lr st.vol)

namespace Stream

theorem pushVolume_synced (st : Stream V) (lr : V → BitVec 8 × BitVec 8) :
    (st.pushVolume lr).Synced lr := rfl

theorem Synced.pushVolume_eq {lr : V → BitVec 8 × BitVec 8} (h : st.Synced lr) :
    st.pushVolume lr = st := by
  unfold pushVolume; rw [← h]

theorem Synced.setAltset {lr : V → BitVec 8 × BitVec 8} (h : st.Synced lr) (buffer a : BitVec 32) :
    ((st.setAltset buffer a).getD st).Synced lr := by
  cases hs : st.setAltset buffer a with
  | none => exact h
  | some st' => rcases setAltset_eq_some hs with ⟨-, rfl⟩ | ⟨-, rfl⟩ <;> exact h

end Stream

/-- Both voices hold their direction's mute flag and volume. -/
def VolumeSynced (s : USBAudioState) : Prop := s.out.Synced outLr ∧ s.in.Synced inLr

theorem VolumeSynced.setInterface (h : VolumeSynced s) (iface value : BitVec 32) :
    VolumeSynced (usbAudioSetInterface s iface value) := by
  unfold usbAudioSetInterface
  split_ifs
  · rw [usbAudioSetOutputAltset_getD]; exact ⟨h.1.setAltset _ _, h.2⟩
  · rw [usbAudioSetInputAltset_getD]; exact ⟨h.1, h.2.setAltset _ _⟩
  · exact h

theorem VolumeSynced.reset (h : VolumeSynced s) : VolumeSynced (usbAudioHandleReset s) := by
  unfold usbAudioHandleReset
  rw [usbAudioSetOutputAltset_getD, usbAudioSetInputAltset_getD]
  exact ⟨h.1.setAltset s.buffer altsetOff, h.2.setAltset s.buffer altsetOff⟩

theorem VolumeSynced.control (h : VolumeSynced s) (request value index : BitVec 16)
    (data : List UInt8) :
    VolumeSynced (usbAudioHandleControl s request value index data).1 := by
  rcases usbAudioHandleControl_cases (s := s) request value index data with he | he
  · rw [he]; exact h
  · rcases usbAudioSetControl_eq_some he with ⟨-, m, v, he'⟩ | ⟨-, m, v, he'⟩ <;> rw [he']
    · exact ⟨Stream.pushVolume_synced _ _, h.2⟩
    · exact ⟨h.1, Stream.pushVolume_synced _ _⟩

theorem VolumeSynced.data (h : VolumeSynced s) (p : USBPacket) :
    VolumeSynced (usbAudioHandleData s p).1 := by
  rcases usbAudioHandleData_cases (s := s) p with he | ⟨-, b, he⟩ | ⟨-, b, he⟩ <;> rw [he]
  exacts [h, h, h]

/-- `usb_audio_post_load` pushes whatever was loaded. -/
theorem VolumeSynced.postLoad (s : USBAudioState) : VolumeSynced (usbAudioPostLoad s).2 := by
  unfold usbAudioPostLoad
  dsimp only
  rw [usbAudioSetOutputAltset_getD, usbAudioSetInputAltset_getD]
  exact ⟨(Stream.pushVolume_synced _ _).setAltset _ _,
    (Stream.pushVolume_synced _ _).setAltset _ _⟩

/-- Any event keeps the voices in step. -/
theorem VolumeSynced.step (h : VolumeSynced s) (e : Event) : VolumeSynced (e.apply s) := by
  cases e with
  | reset => exact h.reset
  | setInterface iface value => exact h.setInterface iface value
  | control request value index data => exact h.control request value index data
  | data p => exact h.data p
  | output avail => exact h
  | input avail pcm => exact h
  | restore snap => exact VolumeSynced.postLoad _

theorem VolumeSynced.of_reachable {ok : USBAudioState → Event → Prop} (h : Reachable ok s) :
    VolumeSynced s := by
  induction h with
  | realize buffer fresh => exact ⟨rfl, rfl⟩
  | step e _ _ ih => exact ih.step e

/-- **The backend volume mirrors the logical state.** In every state reached from
`usb_audio_realize` by any events (control and data transfers, resets, interface changes, demand
callbacks and snapshot restores), the last `AUD_set_volume_out` carried
`(out.mute, out.vol[0], out.vol[1])` and the last `AUD_set_volume_in` carried
`(in.mute, in.vol, in.vol)`. -/
theorem volume_mirrors_state (h : Reachable (fun _ _ => True) s) :
    s.out.voice.volume = (s.out.mute, s.out.vol.1, s.out.vol.2) ∧
      s.in.voice.volume = (s.in.mute, s.in.vol, s.in.vol) :=
  VolumeSynced.of_reachable h

/-- The invariant after a snapshot restore on the realized device. -/
theorem volume_mirrors_state_realize :
    Reachable (fun _ _ => True) ((Event.restore ⟨1, true, 10, 20, 7, false, 30⟩).apply
        (usbAudioRealize 0 0)) ∧
      ((Event.restore ⟨1, true, 10, 20, 7, false, 30⟩).apply (usbAudioRealize 0 0)).out.voice.volume =
        (true, 10, 20) ∧
      ((Event.restore ⟨1, true, 10, 20, 7, false, 30⟩).apply (usbAudioRealize 0 0)).in.voice.volume =
        (false, 30, 30) :=
  have h := (Reachable.realize 0 0).step (Event.restore ⟨1, true, 10, 20, 7, false, 30⟩) trivial
  ⟨h, volume_mirrors_state h⟩

end UsbAudio
