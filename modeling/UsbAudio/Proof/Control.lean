import UsbAudio.Proof.Volume

/-!
# Control requests

Which class requests `usb_audio_handle_control` accepts, what the accepted ones read and write,
and the volume codec between GET_CUR and SET_CUR.

* `usbAudioGetControl_isSome_iff`, `usbAudioSetControl_isSome_iff`: the keys each `switch`
  answers. The `cn < 2` test admits channel numbers 1 and 2, on both units.
* `control_stall_iff`: a request stalls exactly when it is not in `Supported`, the code's table.
* `control_unchanged_of_stall_or_get`: a stalled request, and every GET, leaves the device as it
  was.
* `volDecode_volEncode`: SET_CUR's decoding undoes GET_CUR's encoding for every stored volume.
* `playback_volume_get_after_set`, `playback_volume_set_of_get`: the playback unit's volume
  control is a lens.
* `getCur_volume_reads_playback`: GET_CUR VOLUME on either unit reads the playback volume.
-/

namespace UsbAudio

variable {s : USBAudioState}

/-! ## The volume codec -/

theorem volEncode_toNat (v : BitVec 8) :
    (volEncode v).toNat = ((v.toNat * 0x8800 + 127) / 255 + 0x8000) % 65536 := by
  simp [volEncode]

theorem volDecode_toNat (c : BitVec 16) :
    (volDecode c).toNat = min 255 ((((c.toNat + 0x8000) % 65536) * 255 + 0x4400) / 0x8800) := by
  have hc := c.isLt
  have hx : (c - 0x8000).toNat = (c.toNat + 0x8000) % 65536 := by simp; omega
  have hq : ((c.toNat + 0x8000) % 65536 * 255 + 0x4400) / 0x8800 < 65536 := by omega
  simp only [volDecode, BitVec.lt_def, hx, BitVec.toNat_ofNat, Nat.mod_eq_of_lt hq]
  generalize ((c.toNat + 0x8000) % 65536 * 255 + 0x4400) / 0x8800 = q at hq ⊢
  split_ifs with h <;> simp at h ⊢ <;> omega

/-- **Decoding undoes encoding.** The encoder rounds `vol * 0x8800 / 255` up by at most one half,
the decoder adds half a step before dividing back, so every stored volume survives. -/
theorem volDecode_volEncode (v : BitVec 8) : volDecode (volEncode v) = v := by
  apply BitVec.eq_of_toNat_eq
  rw [volDecode_toNat, volEncode_toNat]
  have hv := v.isLt
  have h1 := Nat.div_mul_le_self (v.toNat * 0x8800 + 127) 255
  have h2 := @Nat.lt_div_mul_add (v.toNat * 0x8800 + 127) 255 (by decide)
  generalize (v.toNat * 0x8800 + 127) / 255 = e at h1 h2
  have hc : ((e + 0x8000) % 65536 + 0x8000) % 65536 = e := by omega
  rw [hc]
  omega

theorem uint8_toNat_ofNat (n : Nat) : (UInt8.ofNat n).toNat = n % 256 := by
  simp [UInt8.toNat, UInt8.ofNat]

/-- The two bytes of a `uint16_t`, read back. -/
@[simp] theorem le16Decode_le16 (v : BitVec 16) : le16Decode (le16 v) = v := by
  apply BitVec.eq_of_toNat_eq
  have := v.isLt
  simp only [le16Decode, le16, List.getD_cons_zero, List.getD_cons_succ, uint8_toNat_ofNat,
    BitVec.toNat_ofNat, Nat.shiftLeft_eq, Nat.shiftRight_eq_div_pow]
  omega

/-! ## Channels -/

/-- `wValue & 0xff`: the channel number a request addresses. -/
def channelNumber (cscn : BitVec 16) : BitVec 8 := cscn.setWidth 8

@[simp] theorem channelNumber_wValue (cs ch : BitVec 8) : channelNumber (wValue cs ch) = ch := by
  apply BitVec.eq_of_toNat_eq
  have := ch.isLt
  simp only [channelNumber, BitVec.toNat_setWidth, wValue_toNat]
  omega

/-- `cn = cscn - 1` wraps in `uint8_t`, so `cn < 2` admits the channel numbers 1 and 2 and no
other. -/
theorem channelIndex_lt_two_iff (cscn : BitVec 16) :
    channelIndex cscn < 2 ↔ channelNumber cscn = 1 ∨ channelNumber cscn = 2 := by
  have := cscn.isLt
  simp only [channelIndex, channelNumber, BitVec.lt_def, BitVec.toNat_eq, BitVec.toNat_setWidth,
    BitVec.toNat_sub]
  simp
  omega

theorem volAt_setVolAt (v : BitVec 8 × BitVec 8) (cn x : BitVec 8) :
    volAt (setVolAt v cn x) cn = x := by
  unfold volAt setVolAt; split_ifs <;> rfl

theorem setVolAt_volAt (v : BitVec 8 × BitVec 8) (cn : BitVec 8) : setVolAt v cn (volAt v cn) = v := by
  unfold volAt setVolAt; split_ifs <;> rfl

/-! ## Which requests are accepted -/

/-- The keys `usb_audio_get_control` answers: GET_CUR MUTE, and GET_CUR, GET_MIN, GET_MAX and
GET_RES VOLUME with `cn < 2`, on the playback (`0x0200`) and the capture (`0x0500`) unit. -/
def GetAccepted (cs attrib cn : BitVec 8) (idif : BitVec 16) : Prop :=
  (idif = 0x0200 ∨ idif = 0x0500) ∧
    ((cs = muteControl ∧ attrib = crGetCur) ∨
     (cs = volumeControl ∧ (attrib = crGetCur ∨ attrib = crGetMin ∨ attrib = crGetMax ∨
       attrib = crGetRes) ∧ cn < 2))

/-- The keys `usb_audio_set_control` answers: SET_CUR MUTE, and SET_CUR VOLUME with `cn < 2`, on
either unit. -/
def SetAccepted (cs attrib cn : BitVec 8) (idif : BitVec 16) : Prop :=
  (idif = 0x0200 ∨ idif = 0x0500) ∧ attrib = crSetCur ∧
    (cs = muteControl ∨ cs = volumeControl ∧ cn < 2)

/-- The switch of `usb_audio_get_control` answers exactly the keys of `GetAccepted`. The cases
follow the key: the unit, then the control selector, then the attribute. -/
theorem usbAudioGetControl_isSome_iff (attrib : BitVec 8) (cscn idif : BitVec 16) :
    (usbAudioGetControl s attrib cscn idif).isSome ↔
      GetAccepted (controlSelector cscn) attrib (channelIndex cscn) idif := by
  simp only [usbAudioGetControl, GetAccepted, attribId_inj, muteControl, volumeControl, crGetCur,
    crGetMin, crGetMax, crGetRes]
  generalize controlSelector cscn = cs
  generalize channelIndex cscn = cn
  by_cases hu : idif = 512#16 ∨ idif = 1280#16
  swap
  · simp only [not_or] at hu; simp [hu]
  by_cases hm : cs = 1#8
  · subst hm
    rcases hu with rfl | rfl <;> by_cases ha : attrib = 129#8 <;> simp [ha]
  by_cases hv : cs = 2#8
  · subst hv
    rcases hu with rfl | rfl <;> by_cases hc : cn < 2#8 <;> simp [hc] <;>
      by_cases h1 : attrib = 129#8 <;> by_cases h2 : attrib = 130#8 <;>
      by_cases h3 : attrib = 131#8 <;> simp [h1, h2, h3]
  · simp [hm, hv]

/-- The switch of `usb_audio_set_control` answers exactly the keys of `SetAccepted`. -/
theorem usbAudioSetControl_isSome_iff (attrib : BitVec 8) (cscn idif : BitVec 16)
    (data : List UInt8) :
    (usbAudioSetControl s attrib cscn idif data).isSome ↔
      SetAccepted (controlSelector cscn) attrib (channelIndex cscn) idif := by
  simp only [usbAudioSetControl, SetAccepted, attribId_inj, muteControl, volumeControl, crSetCur]
  generalize controlSelector cscn = cs
  generalize channelIndex cscn = cn
  by_cases hu : idif = 512#16 ∨ idif = 1280#16
  swap
  · simp only [not_or] at hu; simp [hu]
  by_cases ha : attrib = 1#8
  · subst ha
    by_cases hm : cs = 1#8
    · subst hm; rcases hu with rfl | rfl <;> simp
    by_cases hv : cs = 2#8
    · subst hv; rcases hu with rfl | rfl <;> by_cases hc : cn < 2#8 <;> simp [hc]
    · simp [hm, hv]
  · simp [ha]

/-- The requests `usb_audio_handle_control` accepts, in the terms of the setup packet: the request
word (`bmRequestType` in the high byte, `bRequest` in the low), the control selector and channel
number of `wValue`, and the unit of `wIndex`. -/
def Supported (request value index : BitVec 16) : Prop :=
  (index = 0x0200 ∨ index = 0x0500) ∧
    ((request = 0xa181 ∧ controlSelector value = muteControl) ∨
     ((request = 0xa181 ∨ request = 0xa182 ∨ request = 0xa183 ∨ request = 0xa184) ∧
       controlSelector value = volumeControl ∧
       (channelNumber value = 1 ∨ channelNumber value = 2)) ∨
     (request = 0x2101 ∧ (controlSelector value = muteControl ∨
       controlSelector value = volumeControl ∧
       (channelNumber value = 1 ∨ channelNumber value = 2))))

theorem supported_iff_getAccepted {request value index : BitVec 16}
    (h : request = 0xa181 ∨ request = 0xa182 ∨ request = 0xa183 ∨ request = 0xa184) :
    Supported request value index ↔
      GetAccepted (controlSelector value) (request.setWidth 8) (channelIndex value) index := by
  simp only [Supported, GetAccepted, channelIndex_lt_two_iff]
  rcases h with rfl | rfl | rfl | rfl <;> simp [crGetCur, crGetMin, crGetMax, crGetRes]

theorem supported_iff_setAccepted {request value index : BitVec 16}
    (h : request = 0x2101 ∨ request = 0x2102 ∨ request = 0x2103 ∨ request = 0x2104) :
    Supported request value index ↔
      SetAccepted (controlSelector value) (request.setWidth 8) (channelIndex value) index := by
  simp only [Supported, SetAccepted, channelIndex_lt_two_iff]
  rcases h with rfl | rfl | rfl | rfl <;> simp [crSetCur]

/-- **A request stalls exactly when it is not supported**, for every request word, `wValue` and
`wIndex`, in every state. -/
theorem control_stall_iff (request value index : BitVec 16) (data : List UInt8) :
    (usbAudioHandleControl s request value index data).2 = .stall ↔
      ¬Supported request value index := by
  unfold usbAudioHandleControl
  simp only [classInterfaceRequest, classInterfaceOutRequest, crGetCur, crGetMin, crGetMax,
    crGetRes, crSetCur, crSetMin, crSetMax, crSetRes, BitVec.reduceOr, BitVec.reduceSetWidth]
  split_ifs with hg hs
  · rw [supported_iff_getAccepted hg, ← usbAudioGetControl_isSome_iff (s := s)]
    cases usbAudioGetControl s (request.setWidth 8) value index <;> simp
  · rw [supported_iff_setAccepted hs, ← usbAudioSetControl_isSome_iff (s := s) _ _ _ data]
    cases usbAudioSetControl s (request.setWidth 8) value index data <;> simp
  · simp only [Supported, not_and, not_or, true_iff]
    intro _
    exact ⟨fun h => absurd (.inl h) hg, fun h => absurd h hg, fun h => absurd (.inl h) hs⟩

/-- A stalled request, and every GET request, leaves the whole device state as it was. -/
theorem control_unchanged_of_stall_or_get (request value index : BitVec 16) (data : List UInt8)
    (h : (usbAudioHandleControl s request value index data).2 = .stall ∨
      request = 0xa181 ∨ request = 0xa182 ∨ request = 0xa183 ∨ request = 0xa184) :
    (usbAudioHandleControl s request value index data).1 = s := by
  revert h
  unfold usbAudioHandleControl
  simp only [classInterfaceRequest, classInterfaceOutRequest, crGetCur, crGetMin, crGetMax,
    crGetRes, crSetCur, crSetMin, crSetMax, crSetRes, BitVec.reduceOr, BitVec.reduceSetWidth]
  split_ifs with hg hs
  · split <;> intro _ <;> rfl
  · split
    · intro _; rfl
    · rintro (h | h)
      · cases h
      · exact absurd h hg
  · intro _; rfl

/-! ## Volume requests -/

/-- GET_CUR VOLUME for channel 1 or 2, on either unit, returns the playback unit's volume of that
channel: the capture cases of `usb_audio_get_control` read `s->out.vol[cn]`. -/
theorem getCur_volume_reads_playback {ch : BitVec 8} (hch : ch = 1 ∨ ch = 2) {index : BitVec 16}
    (hi : index = 0x0200 ∨ index = 0x0500) (data : List UInt8) :
    usbAudioHandleControl s (classInterfaceRequest ||| crGetCur.setWidth 16) (wValue volumeControl ch)
      index data = (s, .ok (le16 (volEncode (volAt s.out.vol (ch - 1))))) := by
  rcases hch with rfl | rfl <;> rcases hi with rfl | rfl <;>
    simp [usbAudioHandleControl, usbAudioGetControl, classInterfaceRequest, muteControl,
      volumeControl, crGetCur, crGetMin, crGetMax, crGetRes]

/-- SET_CUR VOLUME for channel 1 or 2 of the playback unit stores the decoded code in that
channel and pushes both channels to the voice. -/
theorem setCur_volume_playback {ch : BitVec 8} (hch : ch = 1 ∨ ch = 2) (data : List UInt8) :
    setCur s volumeControl ch 0x0200 data =
      { s with out := ({ s.out with vol := setVolAt s.out.vol (ch - 1) (volDecode (le16Decode data)) }
        : Stream _).pushVolume outLr } := by
  rcases hch with rfl | rfl <;>
    simp [setCur, usbAudioHandleControl, usbAudioSetControl, classInterfaceRequest,
      classInterfaceOutRequest, muteControl, volumeControl, crGetCur, crGetMin, crGetMax, crGetRes,
      crSetCur]

/-- SET_CUR VOLUME for channel 1 or 2 of the capture unit stores the decoded code in its one
volume: the `cn < 2` test lets channel 2 through as well. -/
theorem setCur_volume_capture {ch : BitVec 8} (hch : ch = 1 ∨ ch = 2) (data : List UInt8) :
    setCur s volumeControl ch 0x0500 data =
      { s with «in» := ({ s.in with vol := volDecode (le16Decode data) } : Stream _).pushVolume inLr } := by
  rcases hch with rfl | rfl <;>
    simp [setCur, usbAudioHandleControl, usbAudioSetControl, classInterfaceRequest,
      classInterfaceOutRequest, muteControl, volumeControl, crGetCur, crGetMin, crGetMax, crGetRes,
      crSetCur]

/-- SET_CUR MUTE, on any channel number, stores bit 0 of the first byte. -/
theorem setCur_mute_playback (ch : BitVec 8) (data : List UInt8) :
    setCur s muteControl ch 0x0200 data =
      { s with out := ({ s.out with mute := (data.getD 0 0 &&& 1) != 0 } : Stream _).pushVolume outLr } := by
  simp [setCur, usbAudioHandleControl, usbAudioSetControl, classInterfaceRequest,
    classInterfaceOutRequest, muteControl, volumeControl, crGetCur, crGetMin, crGetMax, crGetRes,
    crSetCur]

theorem setCur_mute_capture (ch : BitVec 8) (data : List UInt8) :
    setCur s muteControl ch 0x0500 data =
      { s with «in» := ({ s.in with mute := (data.getD 0 0 &&& 1) != 0 } : Stream _).pushVolume inLr } := by
  simp [setCur, usbAudioHandleControl, usbAudioSetControl, classInterfaceRequest,
    classInterfaceOutRequest, muteControl, volumeControl, crGetCur, crGetMin, crGetMax, crGetRes,
    crSetCur]

@[simp] theorem boolByte_mute (b : Bool) : ((boolByte b &&& 1) != 0) = b := by
  cases b <;> decide

/-- The events that leave the playback unit's controls alone: all but a control request
addressed to it and a snapshot restore. -/
def Event.OffPlayback : Event → Prop
  | .control _ _ index _ => index ≠ 0x0200
  | .restore _ => False
  | _ => True

theorem Event.apply_out_vol {e : Event} (he : e.OffPlayback) : (e.apply s).out.vol = s.out.vol := by
  cases e with
  | reset =>
    simp [Event.apply, usbAudioHandleReset, usbAudioSetOutputAltset_getD,
      usbAudioSetInputAltset_getD]
  | setInterface iface value =>
    simp only [Event.apply, usbAudioSetInterface]
    split_ifs <;> simp [usbAudioSetOutputAltset_getD, usbAudioSetInputAltset_getD]
  | control request value index data =>
    rcases usbAudioHandleControl_cases (s := s) request value index data with h | h
    · exact congrArg (·.out.vol) h
    · rcases usbAudioSetControl_eq_some h with ⟨hi, -⟩ | ⟨-, m, v, h'⟩
      · exact absurd hi he
      · exact congrArg (·.out.vol) h'
  | data p =>
    rcases usbAudioHandleData_cases (s := s) p with h | ⟨-, b, h⟩ | ⟨-, b, h⟩ <;>
      exact congrArg (·.out.vol) h
  | output avail => rfl
  | input avail pcm => rfl
  | restore snap => exact he.elim

theorem runEvents_out_vol {es : List Event} (hes : ∀ e ∈ es, e.OffPlayback) :
    (runEvents s es).out.vol = s.out.vol := by
  induction es generalizing s with
  | nil => rfl
  | cons e es ih =>
    simp only [List.forall_mem_cons] at hes
    exact (ih hes.2).trans (Event.apply_out_vol hes.1)

/-- **GET after SET on the playback unit.** After SET_CUR VOLUME for channel 1 or 2 with any
code, and any events that leave the playback unit alone, GET_CUR VOLUME of the channel returns
the encoding of the decoded code. -/
theorem playback_volume_get_after_set {ch : BitVec 8} (hch : ch = 1 ∨ ch = 2) (code : List UInt8)
    {es : List Event} (hes : ∀ e ∈ es, e.OffPlayback) :
    (usbAudioHandleControl (runEvents (setCur s volumeControl ch 0x0200 code) es)
        (classInterfaceRequest ||| crGetCur.setWidth 16) (wValue volumeControl ch) 0x0200 []).2 =
      .ok (le16 (volEncode (volDecode (le16Decode code)))) := by
  rw [getCur_volume_reads_playback hch (.inl rfl), runEvents_out_vol hes,
    setCur_volume_playback hch]
  simp [Stream.pushVolume, volAt_setVolAt]

/-- A code on channel 1 survives a bus reset and a capture request. -/
theorem playback_volume_get_after_set_realize :
    ((1 : BitVec 8) = 1 ∨ (1 : BitVec 8) = 2) ∧
      (∀ e ∈ [Event.reset, .control 0x2101 (wValue volumeControl 1) 0x0500 [0x00, 0x80]],
        e.OffPlayback) ∧
      (usbAudioHandleControl (runEvents (setCur (usbAudioRealize 0 0) volumeControl 1 0x0200
          [0x00, 0x80]) [Event.reset, .control 0x2101 (wValue volumeControl 1) 0x0500 [0x00, 0x80]])
        (classInterfaceRequest ||| crGetCur.setWidth 16) (wValue volumeControl 1) 0x0200 []).2 =
      .ok (le16 (volEncode (volDecode (le16Decode [0x00, 0x80])))) :=
  have hes : ∀ e ∈ [Event.reset, .control 0x2101 (wValue volumeControl 1) 0x0500 [0x00, 0x80]],
      e.OffPlayback := by simp [Event.OffPlayback]
  ⟨.inl rfl, hes, playback_volume_get_after_set (s := usbAudioRealize 0 0) (.inl rfl) _ hes⟩

/-- **SET of what GET returned changes nothing on the playback unit.** In every reachable state,
SET_CUR VOLUME for channel 1 or 2 carrying the bytes GET_CUR VOLUME of the channel returned leaves
the whole device state as it was. -/
theorem playback_volume_set_of_get (hs : Reachable (fun _ _ => True) s) {ch : BitVec 8}
    (hch : ch = 1 ∨ ch = 2) {bs : List UInt8}
    (hget : (usbAudioHandleControl s (classInterfaceRequest ||| crGetCur.setWidth 16)
      (wValue volumeControl ch) 0x0200 []).2 = .ok bs) :
    setCur s volumeControl ch 0x0200 bs = s := by
  rw [getCur_volume_reads_playback hch (.inl rfl)] at hget
  cases hget
  rw [setCur_volume_playback hch, le16Decode_le16, volDecode_volEncode, setVolAt_volAt]
  exact congrArg (fun o => { s with out := o }) (VolumeSynced.of_reachable hs).1.pushVolume_eq

/-- On the realized device GET_CUR VOLUME of channel 1 returns the encoding of 240, and setting
it back is a no-op. -/
theorem playback_volume_set_of_get_realize :
    Reachable (fun _ _ => True) (usbAudioRealize 0 0) ∧ ((1 : BitVec 8) = 1 ∨ (1 : BitVec 8) = 2) ∧
      (usbAudioHandleControl (usbAudioRealize 0 0) (classInterfaceRequest ||| crGetCur.setWidth 16)
        (wValue volumeControl 1) 0x0200 []).2 = .ok [0x00, 0x00] ∧
      setCur (usbAudioRealize 0 0) volumeControl 1 0x0200 [0x00, 0x00] = usbAudioRealize 0 0 :=
  have hget : (usbAudioHandleControl (usbAudioRealize 0 0)
      (classInterfaceRequest ||| crGetCur.setWidth 16) (wValue volumeControl 1) 0x0200 []).2 =
      .ok [0x00, 0x00] := by decide
  ⟨.realize 0 0, .inl rfl, hget, playback_volume_set_of_get (.realize 0 0) (.inl rfl) hget⟩

/-- GET_CUR MUTE, on any channel number, answers the addressed unit's own mute flag. -/
theorem getCur_mute (ch : BitVec 8) (data : List UInt8) :
    usbAudioHandleControl s (classInterfaceRequest ||| crGetCur.setWidth 16) (wValue muteControl ch)
        0x0200 data = (s, .ok [boolByte s.out.mute]) ∧
      usbAudioHandleControl s (classInterfaceRequest ||| crGetCur.setWidth 16) (wValue muteControl ch)
        0x0500 data = (s, .ok [boolByte s.in.mute]) := by
  constructor <;>
    simp [usbAudioHandleControl, usbAudioGetControl, classInterfaceRequest, muteControl,
      volumeControl, crGetCur, crGetMin, crGetMax, crGetRes]

/-- **The mute control is a lens on both units.** On the playback (`0x0200`) and the capture
(`0x0500`) unit, for any channel number: after SET_CUR MUTE with any bytes, GET_CUR MUTE answers
bit 0 of the first byte, from every state; and in every reachable state, SET_CUR MUTE carrying the
bytes GET_CUR MUTE answered leaves the whole device state as it was. -/
theorem mute_lens {index : BitVec 16} (hi : index = 0x0200 ∨ index = 0x0500) (ch : BitVec 8) :
    (∀ (s : USBAudioState) (data : List UInt8),
      (usbAudioHandleControl (setCur s muteControl ch index data)
          (classInterfaceRequest ||| crGetCur.setWidth 16) (wValue muteControl ch) index []).2 =
        .ok [boolByte ((data.getD 0 0 &&& 1) != 0)]) ∧
    ∀ (s : USBAudioState) (bs : List UInt8), Reachable (fun _ _ => True) s →
      (usbAudioHandleControl s (classInterfaceRequest ||| crGetCur.setWidth 16)
          (wValue muteControl ch) index []).2 = .ok bs →
      setCur s muteControl ch index bs = s := by
  rcases hi with rfl | rfl
  · refine ⟨fun s data => ?_, fun s bs hs hget => ?_⟩
    · rw [setCur_mute_playback, (getCur_mute ch []).1]; rfl
    · rw [(getCur_mute ch []).1] at hget
      cases hget
      rw [setCur_mute_playback, List.getD_cons_zero, boolByte_mute]
      exact congrArg (fun o => { s with out := o }) (VolumeSynced.of_reachable hs).1.pushVolume_eq
  · refine ⟨fun s data => ?_, fun s bs hs hget => ?_⟩
    · rw [setCur_mute_capture, (getCur_mute ch []).2]; rfl
    · rw [(getCur_mute ch []).2] at hget
      cases hget
      rw [setCur_mute_capture, List.getD_cons_zero, boolByte_mute]
      exact congrArg (fun i => { s with «in» := i }) (VolumeSynced.of_reachable hs).2.pushVolume_eq

/-- The realized device after SET_CUR MUTE muted its capture unit. -/
def captureMuted : USBAudioState := setCur (usbAudioRealize 0 0) muteControl 0 0x0500 [1]

/-- The lens on the capture unit, addressed with channel number 0 (the master control): after
SET_CUR MUTE with `[3]`, GET_CUR MUTE answers `[1]`; and on the muted device, which is reachable,
setting back the `[1]` GET_CUR MUTE answers changes nothing. -/
theorem mute_lens_realize :
    ((0x0500 : BitVec 16) = 0x0200 ∨ (0x0500 : BitVec 16) = 0x0500) ∧
      (usbAudioHandleControl (setCur captureMuted muteControl 0 0x0500 [3])
          (classInterfaceRequest ||| crGetCur.setWidth 16) (wValue muteControl 0) 0x0500 []).2 =
        .ok [boolByte (([3] : List UInt8).getD 0 0 &&& 1 != 0)] ∧
      Reachable (fun _ _ => True) captureMuted ∧
      (usbAudioHandleControl captureMuted (classInterfaceRequest ||| crGetCur.setWidth 16)
          (wValue muteControl 0) 0x0500 []).2 = .ok [1] ∧
      setCur captureMuted muteControl 0 0x0500 [1] = captureMuted :=
  have hi : (0x0500 : BitVec 16) = 0x0200 ∨ (0x0500 : BitVec 16) = 0x0500 := .inr rfl
  have hs : Reachable (fun _ _ => True) captureMuted := (Reachable.realize 0 0).step
    (.control (classInterfaceOutRequest ||| crSetCur.setWidth 16) (wValue muteControl 0) 0x0500 [1])
    trivial
  have hget : (usbAudioHandleControl captureMuted (classInterfaceRequest ||| crGetCur.setWidth 16)
      (wValue muteControl 0) 0x0500 []).2 = .ok [1] := by decide
  ⟨hi, (mute_lens hi 0).1 captureMuted [3], hs, hget, (mute_lens hi 0).2 captureMuted [1] hs hget⟩

/-- GET_CUR VOLUME for channel 2 of the capture unit, which has one channel, is answered, with
the playback unit's channel-2 volume. -/
theorem capture_volume_channel_two_answered :
    usbAudioHandleControl s (classInterfaceRequest ||| crGetCur.setWidth 16)
      (wValue volumeControl 2) 0x0500 [] = (s, .ok (le16 (volEncode s.out.vol.2))) := by
  rw [getCur_volume_reads_playback (.inr rfl) (.inr rfl)]
  simp [volAt]

/-- On the realized device, SET_CUR VOLUME of the capture unit with the code `0x8000` stores 0,
GET_CUR VOLUME then returns `[0x00, 0x00]` (the encoding of the playback volume 240) and not the
encoding `[0x00, 0x80]` of 0, and SET_CUR with those bytes stores 240. -/
theorem capture_volume_get_after_set_realize :
    (setCur (usbAudioRealize 0 0) volumeControl 1 0x0500 [0x00, 0x80]).in.vol = 0 ∧
      le16 (volEncode 0) = [0x00, 0x80] ∧
      (usbAudioHandleControl (setCur (usbAudioRealize 0 0) volumeControl 1 0x0500 [0x00, 0x80])
        (classInterfaceRequest ||| crGetCur.setWidth 16) (wValue volumeControl 1) 0x0500 []).2 =
        .ok [0x00, 0x00] ∧
      (setCur (setCur (usbAudioRealize 0 0) volumeControl 1 0x0500 [0x00, 0x80]) volumeControl 1
        0x0500 [0x00, 0x00]).in.vol = 240 := by
  decide

end UsbAudio
