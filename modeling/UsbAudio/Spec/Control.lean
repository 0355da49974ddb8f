import UsbAudio.Spec.State

/-!
# Class-specific control requests: mute and volume

`usb_audio_get_control`, `usb_audio_set_control` and the part of `usb_audio_handle_control`
after `usb_desc_handle_control` has left a request unhandled. The `switch` on
`ATTRIB_ID(cs, attrib, idif)` is an `if` chain on the same 32-bit key. A request that stalls
is `none`.

The request type words `ClassInterfaceRequest` and `ClassInterfaceOutRequest` come from `usb.h`,
which is not part of the source: they are the setup packet's `bmRequestType` (`0xa1`, `0x21`:
class request to an interface, device-to-host and host-to-device) in the high byte.
-/

namespace UsbAudio

/-- `CR_SET_CUR` -/
def crSetCur : BitVec 8 := 0x01
/-- `CR_GET_CUR` -/
def crGetCur : BitVec 8 := 0x81
/-- `CR_SET_MIN` -/
def crSetMin : BitVec 8 := 0x02
/-- `CR_GET_MIN` -/
def crGetMin : BitVec 8 := 0x82
/-- `CR_SET_MAX` -/
def crSetMax : BitVec 8 := 0x03
/-- `CR_GET_MAX` -/
def crGetMax : BitVec 8 := 0x83
/-- `CR_SET_RES` -/
def crSetRes : BitVec 8 := 0x04
/-- `CR_GET_RES` -/
def crGetRes : BitVec 8 := 0x84

/-- `MUTE_CONTROL` -/
def muteControl : BitVec 8 := 0x01
/-- `VOLUME_CONTROL` -/
def volumeControl : BitVec 8 := 0x02

/-- `ClassInterfaceRequest`: `(USB_DIR_IN | USB_TYPE_CLASS | USB_RECIP_INTERFACE) << 8`. -/
def classInterfaceRequest : BitVec 16 := 0xa100
/-- `ClassInterfaceOutRequest`: `(USB_DIR_OUT | USB_TYPE_CLASS | USB_RECIP_INTERFACE) << 8`. -/
def classInterfaceOutRequest : BitVec 16 := 0x2100

/-- `ATTRIB_ID(cs, attrib, idif)`: the `switch` key. -/
def attribId (cs attrib : BitVec 8) (idif : BitVec 16) : BitVec 32 :=
  (cs.setWidth 32 <<< 24) ||| (attrib.setWidth 32 <<< 16) ||| idif.setWidth 32

/-- The key is the three fields side by side. -/
theorem attribId_toNat (cs attrib : BitVec 8) (idif : BitVec 16) :
    (attribId cs attrib idif).toNat = cs.toNat * 2 ^ 24 + attrib.toNat * 2 ^ 16 + idif.toNat := by
  have h1 := cs.isLt; have h2 := attrib.isLt; have h3 := idif.isLt
  simp only [attribId, BitVec.toNat_or, BitVec.toNat_shiftLeft, BitVec.toNat_setWidth,
    Nat.shiftLeft_eq]
  rw [Nat.mod_eq_of_lt (by omega : cs.toNat % 2 ^ 32 * 2 ^ 24 < 2 ^ 32),
    Nat.mod_eq_of_lt (by omega : attrib.toNat % 2 ^ 32 * 2 ^ 16 < 2 ^ 32),
    Nat.mod_eq_of_lt (by omega : cs.toNat < 2 ^ 32), Nat.mod_eq_of_lt (by omega : attrib.toNat < 2 ^ 32),
    Nat.mod_eq_of_lt (by omega : idif.toNat < 2 ^ 32), Nat.mul_comm cs.toNat,
    ← Nat.mul_add_lt_is_or (by omega : attrib.toNat * 2 ^ 16 < 2 ^ 24),
    show 2 ^ 24 * cs.toNat + attrib.toNat * 2 ^ 16 = 2 ^ 16 * (2 ^ 8 * cs.toNat + attrib.toNat) by ring,
    ← Nat.mul_add_lt_is_or h3]

/-- **No two requests share a `switch` key.** -/
@[simp] theorem attribId_inj {cs attrib cs' attrib' : BitVec 8} {idif idif' : BitVec 16} :
    attribId cs attrib idif = attribId cs' attrib' idif' ↔
      cs = cs' ∧ attrib = attrib' ∧ idif = idif' := by
  refine ⟨fun h => ?_, fun ⟨h1, h2, h3⟩ => h1 ▸ h2 ▸ h3 ▸ rfl⟩
  have := congrArg BitVec.toNat h
  simp only [attribId_toNat] at this
  have := cs.isLt; have := attrib.isLt; have := idif.isLt
  have := cs'.isLt; have := attrib'.isLt; have := idif'.isLt
  exact ⟨BitVec.eq_of_toNat_eq (by omega), BitVec.eq_of_toNat_eq (by omega),
    BitVec.eq_of_toNat_eq (by omega)⟩

/-- `cs = cscn >> 8`: the control selector, the high byte of `wValue`. -/
def controlSelector (cscn : BitVec 16) : BitVec 8 := (cscn >>> 8).setWidth 8

/-- `cn = cscn - 1` in `uint8_t`: the channel index, `-1` for the non-present master control. -/
def channelIndex (cscn : BitVec 16) : BitVec 8 := (cscn - 1).setWidth 8

/-- The `wValue` of a feature unit request: control selector `cs` in the high byte, channel number
`ch` in the low byte. -/
def wValue (cs ch : BitVec 8) : BitVec 16 := (cs.setWidth 16 <<< 8) ||| ch.setWidth 16

theorem wValue_toNat (cs ch : BitVec 8) : (wValue cs ch).toNat = cs.toNat * 256 + ch.toNat := by
  have h1 := cs.isLt; have h2 := ch.isLt
  simp only [wValue, BitVec.toNat_or, BitVec.toNat_shiftLeft, BitVec.toNat_setWidth,
    Nat.shiftLeft_eq]
  rw [Nat.mod_eq_of_lt (by omega : cs.toNat % 2 ^ 16 * 2 ^ 8 < 2 ^ 16),
    Nat.mod_eq_of_lt (by omega : cs.toNat < 2 ^ 16), Nat.mod_eq_of_lt (by omega : ch.toNat < 2 ^ 16),
    Nat.mul_comm, ← Nat.mul_add_lt_is_or h2]
  ring

@[simp] theorem controlSelector_wValue (cs ch : BitVec 8) : controlSelector (wValue cs ch) = cs := by
  apply BitVec.eq_of_toNat_eq
  have := cs.isLt; have := ch.isLt
  simp only [controlSelector, BitVec.toNat_setWidth, BitVec.toNat_ushiftRight, wValue_toNat,
    Nat.shiftRight_eq_div_pow]
  omega

@[simp] theorem channelIndex_wValue (cs ch : BitVec 8) : channelIndex (wValue cs ch) = ch - 1 := by
  apply BitVec.eq_of_toNat_eq
  have := cs.isLt; have := ch.isLt
  simp only [channelIndex, BitVec.toNat_setWidth, BitVec.toNat_sub, wValue_toNat]
  simp
  omega

/-- GET_CUR VOLUME: `(vol * 0x8800 + 127) / 255 + 0x8000` in `uint16_t`. -/
def volEncode (v : BitVec 8) : BitVec 16 :=
  BitVec.ofNat 16 ((v.toNat * 0x8800 + 127) / 255 + 0x8000)

/-- SET_CUR VOLUME: `vol -= 0x8000; vol = (vol * 255 + 0x4400) / 0x8800;`, clamped to 255, in
`uint16_t`, then stored in a `uint8_t`. -/
def volDecode (code : BitVec 16) : BitVec 8 :=
  let v := code - 0x8000
  let v : BitVec 16 := BitVec.ofNat 16 ((v.toNat * 255 + 0x4400) / 0x8800)
  (if v > 255 then 255 else v).setWidth 8

/-- A `uint16_t` as `data[0]`, `data[1]`: little-endian. -/
def le16 (v : BitVec 16) : List UInt8 := [UInt8.ofNat v.toNat, UInt8.ofNat (v.toNat >>> 8)]

/-- `data[0] + (data[1] << 8)` in `uint16_t`. -/
def le16Decode (data : List UInt8) : BitVec 16 :=
  BitVec.ofNat 16 ((data.getD 0 0).toNat + (data.getD 1 0).toNat <<< 8)

/-- `s->out.vol[cn]`, for `cn < 2`. -/
def volAt (v : BitVec 8 × BitVec 8) (cn : BitVec 8) : BitVec 8 := if cn = 0 then v.1 else v.2

/-- `s->out.vol[cn] = x`, for `cn < 2`. -/
def setVolAt (v : BitVec 8 × BitVec 8) (cn x : BitVec 8) : BitVec 8 × BitVec 8 :=
  if cn = 0 then (x, v.2) else (v.1, x)

/-- A `bool` stored in a `uint8_t`. -/
def boolByte (b : Bool) : UInt8 := if b then 1 else 0

/-- `usb_audio_get_control`: the bytes returned (`ret` of them), or `none` for `USB_RET_STALL`.
The capture cases read the playback volume and test `cn < 2`, as the code does. -/
def usbAudioGetControl (s : USBAudioState) (attrib : BitVec 8) (cscn idif : BitVec 16) :
    Option (List UInt8) :=
  let cn := channelIndex cscn
  let aid := attribId (controlSelector cscn) attrib idif
  if aid = attribId muteControl crGetCur 0x0200 then some [boolByte s.out.mute]
  else if aid = attribId volumeControl crGetCur 0x0200 then
    if cn < 2 then some (le16 (volEncode (volAt s.out.vol cn))) else none
  else if aid = attribId volumeControl crGetMin 0x0200 then
    if cn < 2 then some [0x01, 0x80] else none
  else if aid = attribId volumeControl crGetMax 0x0200 then
    if cn < 2 then some [0x00, 0x08] else none
  else if aid = attribId volumeControl crGetRes 0x0200 then
    if cn < 2 then some [0x88, 0x00] else none
  else if aid = attribId muteControl crGetCur 0x0500 then some [boolByte s.in.mute]
  else if aid = attribId volumeControl crGetCur 0x0500 then
    if cn < 2 then some (le16 (volEncode (volAt s.out.vol cn))) else none
  else if aid = attribId volumeControl crGetMin 0x0500 then
    if cn < 2 then some [0x01, 0x80] else none
  else if aid = attribId volumeControl crGetMax 0x0500 then
    if cn < 2 then some [0x00] else none
  else if aid = attribId volumeControl crGetRes 0x0500 then
    if cn < 2 then some [0x88, 0x00] else none
  else none

/-- `usb_audio_set_control`: the new state, each change pushed to the voice, or `none` for
`USB_RET_STALL`. The capture volume case tests `cn < 2`, as the code does. -/
def usbAudioSetControl (s : USBAudioState) (attrib : BitVec 8) (cscn idif : BitVec 16)
    (data : List UInt8) : Option USBAudioState :=
  let cn := channelIndex cscn
  let aid := attribId (controlSelector cscn) attrib idif
  let mute := (data.getD 0 0 &&& 1) != 0
  if aid = attribId muteControl crSetCur 0x0200 then
    some { s with out := ({ s.out with mute := mute } : Stream _).pushVolume outLr }
  else if aid = attribId volumeControl crSetCur 0x0200 then
    if cn < 2 then
      some { s with out := ({ s.out with vol := setVolAt s.out.vol cn (volDecode (le16Decode data)) }
        : Stream _).pushVolume outLr }
    else none
  else if aid = attribId muteControl crSetCur 0x0500 then
    some { s with «in» := ({ s.in with mute := mute } : Stream _).pushVolume inLr }
  else if aid = attribId volumeControl crSetCur 0x0500 then
    if cn < 2 then
      some { s with «in» := ({ s.in with vol := volDecode (le16Decode data) } : Stream _).pushVolume inLr }
    else none
  else none

/-- How a control transfer ends: `USB_RET_STALL`, or success with the bytes returned. -/
inductive ControlResult
  | stall
  | ok (bytes : List UInt8)
  deriving DecidableEq

/-- `usb_audio_handle_control` for a request `usb_desc_handle_control` left unhandled. -/
def usbAudioHandleControl (s : USBAudioState) (request value index : BitVec 16)
    (data : List UInt8) : USBAudioState × ControlResult :=
  let attrib := request.setWidth 8
  if request = classInterfaceRequest ||| crGetCur.setWidth 16 ∨
      request = classInterfaceRequest ||| crGetMin.setWidth 16 ∨
      request = classInterfaceRequest ||| crGetMax.setWidth 16 ∨
      request = classInterfaceRequest ||| crGetRes.setWidth 16 then
    match usbAudioGetControl s attrib value index with
    | none => (s, .stall)
    | some bs => (s, .ok bs)
  else if request = classInterfaceOutRequest ||| crSetCur.setWidth 16 ∨
      request = classInterfaceOutRequest ||| crSetMin.setWidth 16 ∨
      request = classInterfaceOutRequest ||| crSetMax.setWidth 16 ∨
      request = classInterfaceOutRequest ||| crSetRes.setWidth 16 then
    match usbAudioSetControl s attrib value index data with
    | none => (s, .stall)
    | some s' => (s', .ok [])
  else (s, .stall)

end UsbAudio
