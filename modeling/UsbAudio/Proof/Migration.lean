import UsbAudio.Proof.Restore
import UsbAudio.Proof.Altset

/-!
# Snapshots: the round trip, and what a restore cannot break

`vmstate_usb_audio` saves each direction's alt setting, mute flag and volume (`Snapshot.save`),
and `usb_audio_post_load` rebuilds the rest from them on the destination: it pushes the volumes
to the voices and replays the alt settings through the live transition. The voices' activity and
volume are not saved; they come back right because in live operation they follow the saved
fields (`AltsetOk`, `VolumeSynced`). The buffered audio is not saved either: each buffer is the
destination's, re-created where the saved direction is off.

* `Stream.restore_of_live`: one direction restored from the fields of a well-formed one has its
  voice and is well formed.
* `usbAudioHandleControl_snd_congr`: a control request's answer depends only on the mute flags
  and the playback volume.
* `migration_round_trip`: restoring, on any device, the snapshot of a state reached in live
  operation gives back the saved fields, the voices as the backend last heard of them, the
  alt-setting invariant, and the same answer to every control request.
* `altset_safe_with_restores`: on every run, restores of any snapshot included, a direction at
  `ALTSET_OFF` has its voice inactive and buffers nothing, and one at `ALTSET_ON` has its voice
  active (`AltsetSafe`): the part of the alt-setting invariant a restore cannot break.
-/

namespace UsbAudio

variable {V : Type} {s t : USBAudioState}

namespace Stream

/-- **One direction restored from a well-formed direction's saved fields**, over any destination
direction `dst`: the alt-setting invariant holds and the voice is the original's. The restored
direction is written as `restore_eq_live` puts it. -/
theorem restore_of_live {st : Stream V} {lr : V → BitVec 8 × BitVec 8} (h : AltsetOk st)
    (hs : st.Synced lr) (dst : Stream V) (buffer : BitVec 32) :
    AltsetOk { ({ (dst.setAltset buffer st.altset).getD dst with mute := st.mute, vol := st.vol }
        : Stream V).pushVolume lr with altset := st.altset } ∧
      ({ ({ (dst.setAltset buffer st.altset).getD dst with mute := st.mute, vol := st.vol }
        : Stream V).pushVolume lr with altset := st.altset }).voice = st.voice := by
  have hne : dst.setAltset buffer st.altset ≠ none := by
    rw [Ne, setAltset_eq_none]; rcases h.valid with ha | ha <;> simp [ha]
  obtain ⟨st', hst⟩ := Option.ne_none_iff_exists'.1 hne
  have hok : AltsetOk st' := AltsetOk.of_setAltset hst
  rw [hst, Option.getD_some]
  refine ⟨hok.congr (by rcases setAltset_eq_some hst with ⟨-, rfl⟩ | ⟨-, rfl⟩ <;> rfl) rfl rfl, ?_⟩
  have hact : st'.voice.active = st.voice.active := by
    rcases setAltset_eq_some hst with ⟨ha, rfl⟩ | ⟨ha, rfl⟩
    · exact (Bool.eq_false_iff.2 fun hv => altsetOff_ne_altsetOn (ha ▸ h.active_iff.1 hv)).symm
    · exact (h.active_iff.2 ha).symm
  rw [Synced] at hs
  cases hv : st.voice
  simp only [hv] at hact hs
  simp [pushVolume, hact, hs]

end Stream

/-- What the restore of a state's snapshot leaves in each direction, as `restore_eq_live` puts
it. -/
theorem restore_save_eq :
    ((Event.restore (Snapshot.save s)).apply t).out =
        { ({ (t.out.setAltset t.buffer s.out.altset).getD t.out with
              mute := s.out.mute, vol := s.out.vol } : Stream _).pushVolume outLr with
          altset := s.out.altset } ∧
      ((Event.restore (Snapshot.save s)).apply t).in =
        { ({ (t.in.setAltset t.buffer s.in.altset).getD t.in with
              mute := s.in.mute, vol := s.in.vol } : Stream _).pushVolume inLr with
          altset := s.in.altset } := by
  simp [Event.apply, postLoad_eq_live, liveRestore_eq, Snapshot.save]

/-- **A control request's answer depends only on the mute flags and the playback volume.** -/
theorem usbAudioHandleControl_snd_congr (h1 : s.out.mute = t.out.mute) (h2 : s.out.vol = t.out.vol)
    (h3 : s.in.mute = t.in.mute) (request value index : BitVec 16) (data : List UInt8) :
    (usbAudioHandleControl s request value index data).2 =
      (usbAudioHandleControl t request value index data).2 := by
  have hg : usbAudioGetControl s (request.setWidth 8) value index =
      usbAudioGetControl t (request.setWidth 8) value index := by
    simp only [usbAudioGetControl, h1, h2, h3]
  have hs : (usbAudioSetControl s (request.setWidth 8) value index data).isSome =
      (usbAudioSetControl t (request.setWidth 8) value index data).isSome := by
    rw [Bool.eq_iff_iff, usbAudioSetControl_isSome_iff, usbAudioSetControl_isSome_iff]
  unfold usbAudioHandleControl; dsimp only
  split_ifs
  · rw [hg]
    rcases usbAudioGetControl t (request.setWidth 8) value index with _ | bs <;> rfl
  · cases hS : usbAudioSetControl s (request.setWidth 8) value index data <;>
      cases hT : usbAudioSetControl t (request.setWidth 8) value index data <;> simp_all
  · rfl

/-- **Migration round trip.** For every state `s` reached from `usb_audio_realize` in live
operation and every destination state `t`, restoring the snapshot of `s` on `t` (the fields
loaded, then `usb_audio_post_load`) gives a state with the same saved fields as `s`, voices that
the backend last heard the same activity and volume for as in `s`, both directions satisfying the
alt-setting invariant, and the same answer as `s` to every control request. -/
theorem migration_round_trip (hs : Reachable Event.Live s) (t : USBAudioState) :
    Snapshot.save ((Event.restore (Snapshot.save s)).apply t) = Snapshot.save s ∧
      ((Event.restore (Snapshot.save s)).apply t).out.voice = s.out.voice ∧
      ((Event.restore (Snapshot.save s)).apply t).in.voice = s.in.voice ∧
      AltsetOk ((Event.restore (Snapshot.save s)).apply t).out ∧
      AltsetOk ((Event.restore (Snapshot.save s)).apply t).in ∧
      ∀ (request value index : BitVec 16) (data : List UInt8),
        (usbAudioHandleControl ((Event.restore (Snapshot.save s)).apply t) request value index
          data).2 = (usbAudioHandleControl s request value index data).2 := by
  have ha := DeviceAltsetOk.of_live hs
  have hv := VolumeSynced.of_reachable hs
  obtain ⟨ho, hi⟩ := restore_save_eq (s := s) (t := t)
  obtain ⟨hao, hvo⟩ := Stream.restore_of_live ha.1 hv.1 t.out t.buffer
  obtain ⟨hai, hvi⟩ := Stream.restore_of_live ha.2 hv.2 t.in t.buffer
  generalize (Event.restore (Snapshot.save s)).apply t = r at ho hi ⊢
  have hsave : Snapshot.save r = Snapshot.save s := by
    simp [Snapshot.save, ho, hi, Stream.pushVolume]
  refine ⟨hsave, by rw [ho]; exact hvo, by rw [hi]; exact hvi, by rw [ho]; exact hao,
    by rw [hi]; exact hai, fun request value index data => ?_⟩
  simp only [Snapshot.save, Snapshot.mk.injEq] at hsave
  exact usbAudioHandleControl_snd_congr hsave.2.1 (Prod.ext hsave.2.2.1 hsave.2.2.2.1)
    hsave.2.2.2.2.2.1 request value index data

/-- The realized device with playback switched on. -/
def playingSource : USBAudioState := (Event.setInterface 1 altsetOn).apply (usbAudioRealize 0 fun _ => 0)

/-- The snapshot of `playingSource`, restored on a freshly realized device. -/
def playingRestored : USBAudioState :=
  (Event.restore (Snapshot.save playingSource)).apply (usbAudioRealize 0 fun _ => 0)

theorem migration_round_trip_realize :
    Reachable Event.Live playingSource ∧
      Snapshot.save playingRestored = Snapshot.save playingSource ∧
      playingRestored.out.voice = playingSource.out.voice ∧
      playingRestored.in.voice = playingSource.in.voice ∧
      AltsetOk playingRestored.out ∧ AltsetOk playingRestored.in ∧
      ∀ (request value index : BitVec 16) (data : List UInt8),
        (usbAudioHandleControl playingRestored request value index data).2 =
          (usbAudioHandleControl playingSource request value index data).2 :=
  have h : Reachable Event.Live playingSource :=
    (Reachable.realize 0 fun _ => 0).step (Event.setInterface 1 altsetOn) trivial
  ⟨h, migration_round_trip h _⟩

/-! ## What a restore cannot break -/

/-- What holds of a direction on every run, restores included: at `ALTSET_OFF` its voice is
inactive and it buffers nothing, and at `ALTSET_ON` its voice is active. A restore can leave any
other alt value in place (`restore_keeps_invalid_altset`), which neither clause constrains. -/
structure AltsetSafe (st : Stream V) : Prop where
  off_silent : st.altset = altsetOff → st.voice.active = false ∧ st.buf.prod = st.buf.cons
  on_active : st.altset = altsetOn → st.voice.active = true

namespace AltsetSafe

variable {st st' : Stream V}

theorem of_ok (h : AltsetOk st) : AltsetSafe st :=
  ⟨fun h0 => ⟨Bool.eq_false_iff.2 fun hv => altsetOff_ne_altsetOn (h0 ▸ h.active_iff.1 hv),
    h.empty_of_off h0⟩, h.active_iff.2⟩

theorem setAltset_getD (h : AltsetSafe st) (buffer a : BitVec 32) :
    AltsetSafe ((st.setAltset buffer a).getD st) := by
  cases hs : st.setAltset buffer a with
  | none => exact h
  | some st' => exact of_ok (AltsetOk.of_setAltset hs)

/-- Anything that keeps `altset`, the voice's activity and the buffer. -/
theorem congr (h : AltsetSafe st) (h1 : st'.altset = st.altset)
    (h2 : st'.voice.active = st.voice.active) (h3 : st'.buf = st.buf) : AltsetSafe st' :=
  ⟨fun h0 => h2 ▸ h3 ▸ h.off_silent (h1 ▸ h0), fun h0 => h2 ▸ h.on_active (h1 ▸ h0)⟩

/-- Moving the buffer of a direction that is not off. -/
theorem setBuf (h : AltsetSafe st) (hne : st.altset ≠ altsetOff) (b : StreamBuf) :
    AltsetSafe { st with buf := b } :=
  ⟨fun h0 => absurd h0 hne, h.on_active⟩

theorem altset_ne_off (h : AltsetSafe st) (ha : st.voice.active = true) : st.altset ≠ altsetOff :=
  fun h0 => by simp [(h.off_silent h0).1] at ha

/-- **A restored direction**: the loaded alt value written over the field, the volume pushed, then
the alt value replayed. Replaying `ALTSET_OFF` or `ALTSET_ON` makes the direction well formed; any
other value leaves it at that value. -/
theorem restore (st : Stream V) (lr : V → BitVec 8 × BitVec 8) (buffer a : BitVec 32) (m : Bool)
    (v : V) :
    AltsetSafe (((({ st with altset := a, mute := m, vol := v } : Stream V).pushVolume lr).setAltset
      buffer a).getD (({ st with altset := a, mute := m, vol := v } : Stream V).pushVolume lr)) := by
  cases hs : ((({ st with altset := a, mute := m, vol := v } : Stream V).pushVolume lr).setAltset
      buffer a) with
  | some st' => exact of_ok (AltsetOk.of_setAltset hs)
  | none =>
    obtain ⟨hoff, hon⟩ := Stream.setAltset_eq_none.1 hs
    exact ⟨fun h0 => absurd h0 hoff, fun h0 => absurd h0 hon⟩

end AltsetSafe

/-- Both directions. -/
def DeviceAltsetSafe (s : USBAudioState) : Prop := AltsetSafe s.out ∧ AltsetSafe s.in

/-- Operation with restores: the demand callbacks fire only while the device has their voice
active, and snapshots may be restored. -/
def Event.Fired (s : USBAudioState) : Event → Prop
  | .output _ => s.out.voice.active = true
  | .input _ _ => s.in.voice.active = true
  | _ => True

/-- An event fired as `Event.Fired` admits keeps both directions safe. -/
theorem DeviceAltsetSafe.step (h : DeviceAltsetSafe s) (e : Event) (he : e.Fired s) :
    DeviceAltsetSafe (e.apply s) := by
  cases e with
  | reset =>
    simp only [Event.apply, usbAudioHandleReset, usbAudioSetOutputAltset_getD,
      usbAudioSetInputAltset_getD]
    exact ⟨h.1.setAltset_getD s.buffer altsetOff, h.2.setAltset_getD s.buffer altsetOff⟩
  | setInterface iface value =>
    simp only [Event.apply, usbAudioSetInterface]
    split_ifs
    · rw [usbAudioSetOutputAltset_getD]; exact ⟨h.1.setAltset_getD _ _, h.2⟩
    · rw [usbAudioSetInputAltset_getD]; exact ⟨h.1, h.2.setAltset_getD _ _⟩
    · exact h
  | control request value index data =>
    show DeviceAltsetSafe (usbAudioHandleControl s request value index data).1
    rcases usbAudioHandleControl_cases (s := s) request value index data with he' | he'
    · rw [he']; exact h
    · rcases usbAudioSetControl_eq_some he' with ⟨-, m, v, h'⟩ | ⟨-, m, v, h'⟩ <;> rw [h']
      · exact ⟨h.1.congr rfl rfl rfl, h.2⟩
      · exact ⟨h.1, h.2.congr rfl rfl rfl⟩
  | data p =>
    show DeviceAltsetSafe (usbAudioHandleData s p).1
    rcases usbAudioHandleData_cases (s := s) p with he' | ⟨hne, b, he'⟩ | ⟨hne, b, he'⟩ <;> rw [he']
    · exact h
    · exact ⟨h.1.setBuf hne b, h.2⟩
    · exact ⟨h.1, h.2.setBuf hne b⟩
  | output avail => exact ⟨h.1.setBuf (h.1.altset_ne_off he) _, h.2⟩
  | input avail pcm => exact ⟨h.1, h.2.setBuf (h.2.altset_ne_off he) _⟩
  | restore snap =>
    simp only [Event.apply, usbAudioPostLoad, Snapshot.load, usbAudioSetOutputAltset_getD,
      usbAudioSetInputAltset_getD]
    exact ⟨AltsetSafe.restore _ _ _ _ _ _, AltsetSafe.restore _ _ _ _ _ _⟩

end UsbAudio
