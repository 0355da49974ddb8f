import UsbAudio.Proof.Control

/-!
# Snapshot restore against live operation

`usb_audio_post_load` replays each loaded alt value through the live transition and drops the
transition's `-1`. A loaded value other than `ALTSET_OFF` and `ALTSET_ON` therefore survives the
restore, where the live path, given the same value, keeps the alt setting it had.

* `Stream.restore_eq_live`: one direction's restore is its live path with the loaded alt value
  written over the result.
* `restore_matches_live`: on a realized and reset device `usb_audio_post_load` returns 0, its
  result is the live one with each loaded alt value in place, and the two are equal exactly when
  both loaded alt values are `ALTSET_OFF` or `ALTSET_ON`.
* `restore_keeps_invalid_altset`: a loaded alt value 5 is kept, where the live path stays at
  `ALTSET_OFF`.
-/

namespace UsbAudio

namespace Stream

variable {V : Type}

theorem setAltset_getD_altset (st : Stream V) (buffer a : BitVec 32) :
    ((st.setAltset buffer a).getD st).altset =
      if a = altsetOff ∨ a = altsetOn then a else st.altset := by
  unfold setAltset
  split_ifs <;> simp_all

/-- **One direction's restore is its live path with the loaded alt value written over.** The
restore writes the loaded fields, pushes the volume, then replays the alt value; the live path
switches the alt setting, then writes the mute flag and volume and pushes them. -/
theorem restore_eq_live (st : Stream V) (lr : V → BitVec 8 × BitVec 8) (buffer a : BitVec 32)
    (m : Bool) (v : V) :
    ((({ st with altset := a, mute := m, vol := v } : Stream V).pushVolume lr).setAltset buffer a).getD
        (({ st with altset := a, mute := m, vol := v } : Stream V).pushVolume lr) =
      { ({ (st.setAltset buffer a).getD st with mute := m, vol := v } : Stream V).pushVolume lr with
        altset := a } := by
  unfold setAltset pushVolume
  split_ifs <;> rfl

end Stream

variable (s : USBAudioState) (snap : Snapshot)

/-- The live path in closed form: the two alt settings switched, then the mute flags and
volumes written and pushed. -/
theorem liveRestore_eq :
    liveRestore s snap =
      { s with
        out := ({ (s.out.setAltset s.buffer snap.outAltset).getD s.out with
          mute := snap.outMute, vol := (snap.outVol0, snap.outVol1) } : Stream _).pushVolume outLr
        «in» := ({ (s.in.setAltset s.buffer snap.inAltset).getD s.in with
          mute := snap.inMute, vol := snap.inVol } : Stream _).pushVolume inLr } := by
  unfold liveRestore
  rw [setCur_volume_capture (.inl rfl), setCur_mute_capture, setCur_volume_playback (.inr rfl),
    setCur_volume_playback (.inl rfl), setCur_mute_playback]
  simp [usbAudioSetInterface, usbAudioSetOutputAltset_getD, usbAudioSetInputAltset_getD,
    volDecode_volEncode, setVolAt, Stream.pushVolume]

/-- **The restore is the live path with the loaded alt values written over**, from any state. -/
theorem postLoad_eq_live :
    (usbAudioPostLoad (snap.load s)).2 =
      { liveRestore s snap with
        out := { (liveRestore s snap).out with altset := snap.outAltset }
        «in» := { (liveRestore s snap).in with altset := snap.inAltset } } := by
  rw [liveRestore_eq]
  simp only [usbAudioPostLoad, Snapshot.load, usbAudioSetOutputAltset_getD,
    usbAudioSetInputAltset_getD, Stream.pushVolume_altset, Stream.restore_eq_live]

theorem liveRestore_altset :
    (liveRestore s snap).out.altset = ((s.out.setAltset s.buffer snap.outAltset).getD s.out).altset ∧
      (liveRestore s snap).in.altset = ((s.in.setAltset s.buffer snap.inAltset).getD s.in).altset := by
  rw [liveRestore_eq]; exact ⟨rfl, rfl⟩

theorem reset_realize_altset (buffer : BitVec 32) (fresh : Nat → UInt8) :
    (usbAudioHandleReset (usbAudioRealize buffer fresh)).out.altset = altsetOff ∧
      (usbAudioHandleReset (usbAudioRealize buffer fresh)).in.altset = altsetOff := by
  simp [usbAudioHandleReset, usbAudioSetOutputAltset_getD, usbAudioSetInputAltset_getD,
    Stream.setAltset_getD_altset, usbAudioRealize]

/-- **Where a restore departs from live operation.** On a realized and reset device, for every
snapshot, `usb_audio_post_load` returns 0, whatever its transitions returned; its result is the
state the live path reaches (`usb_audio_set_interface(1, ·)`, `usb_audio_set_interface(2, ·)`,
then SET_CUR of the loaded mute flags and volumes) with each loaded alt value in place of the live
one; and the two states are equal exactly when both loaded alt values are `ALTSET_OFF` or
`ALTSET_ON`. -/
theorem restore_matches_live (buffer : BitVec 32) (fresh : Nat → UInt8) (snap : Snapshot) :
    (usbAudioPostLoad (snap.load (usbAudioHandleReset (usbAudioRealize buffer fresh)))).1 = 0 ∧
      (usbAudioPostLoad (snap.load (usbAudioHandleReset (usbAudioRealize buffer fresh)))).2 =
        { liveRestore (usbAudioHandleReset (usbAudioRealize buffer fresh)) snap with
          out := { (liveRestore (usbAudioHandleReset (usbAudioRealize buffer fresh)) snap).out with
            altset := snap.outAltset }
          «in» := { (liveRestore (usbAudioHandleReset (usbAudioRealize buffer fresh)) snap).in with
            altset := snap.inAltset } } ∧
      ((usbAudioPostLoad (snap.load (usbAudioHandleReset (usbAudioRealize buffer fresh)))).2 =
          liveRestore (usbAudioHandleReset (usbAudioRealize buffer fresh)) snap ↔
        (snap.outAltset = altsetOff ∨ snap.outAltset = altsetOn) ∧
          (snap.inAltset = altsetOff ∨ snap.inAltset = altsetOn)) := by
  refine ⟨rfl, postLoad_eq_live _ _, ?_⟩
  obtain ⟨ho, hi⟩ := reset_realize_altset buffer fresh
  obtain ⟨h1, h2⟩ := liveRestore_altset (usbAudioHandleReset (usbAudioRealize buffer fresh)) snap
  rw [Stream.setAltset_getD_altset, ho] at h1
  rw [Stream.setAltset_getD_altset, hi] at h2
  rw [postLoad_eq_live]
  generalize liveRestore (usbAudioHandleReset (usbAudioRealize buffer fresh)) snap = L at h1 h2
  rcases L with ⟨⟨a, _, _, _, _⟩, ⟨b, _, _, _, _⟩, _⟩
  simp only [USBAudioState.mk.injEq, Stream.mk.injEq, true_and, and_true] at h1 h2 ⊢
  subst h1 h2
  split_ifs <;> simp_all [altsetOff]

/-- A snapshot whose playback alt value is 5: `usb_audio_post_load` returns 0 and the playback
direction ends at alt value 5, neither `ALTSET_OFF` nor `ALTSET_ON`, where the live path stays at
`ALTSET_OFF`. -/
theorem restore_keeps_invalid_altset :
    (usbAudioPostLoad (Snapshot.load ⟨5, false, 240, 240, 0, false, 240⟩
        (usbAudioHandleReset (usbAudioRealize 0 0)))).1 = 0 ∧
      (usbAudioPostLoad (Snapshot.load ⟨5, false, 240, 240, 0, false, 240⟩
        (usbAudioHandleReset (usbAudioRealize 0 0)))).2.out.altset = 5 ∧
      (liveRestore (usbAudioHandleReset (usbAudioRealize 0 0))
        ⟨5, false, 240, 240, 0, false, 240⟩).out.altset = altsetOff := by
  decide

end UsbAudio
