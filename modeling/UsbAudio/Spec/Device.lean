import UsbAudio.Spec.Control

/-!
# The device as a state machine

Every entry point of the device as one event: the transport's reset, set-interface, control and
data transfers, the backend's two demand callbacks, and a snapshot restore (`vmstate_usb_audio`
loading its fields, then `usb_audio_post_load`). `Reachable ok` is what the events `ok` admits
reach from `usb_audio_realize`.
-/

namespace UsbAudio

/-- The fields of `vmstate_usb_audio` other than the USB device state, as loaded. -/
structure Snapshot where
  outAltset : BitVec 32
  outMute : Bool
  outVol0 : BitVec 8
  outVol1 : BitVec 8
  inAltset : BitVec 32
  inMute : Bool
  inVol : BitVec 8

/-- The fields `vmstate_usb_audio` saves from a state, other than the USB device state. -/
def Snapshot.save (s : USBAudioState) : Snapshot where
  outAltset := s.out.altset
  outMute := s.out.mute
  outVol0 := s.out.vol.1
  outVol1 := s.out.vol.2
  inAltset := s.in.altset
  inMute := s.in.mute
  inVol := s.in.vol

/-- The state once the snapshot's fields are loaded, before `post_load` runs. -/
def Snapshot.load (snap : Snapshot) (s : USBAudioState) : USBAudioState :=
  { s with out := { s.out with altset := snap.outAltset, mute := snap.outMute,
                               vol := (snap.outVol0, snap.outVol1) }
           «in» := { s.in with altset := snap.inAltset, mute := snap.inMute, vol := snap.inVol } }

/-- `usb_audio_post_load`: push the loaded volumes, replay each loaded alt value through the
live transition (its `-1` dropped), and return 0. The `usb_desc_config` call is left out. -/
def usbAudioPostLoad (s : USBAudioState) : Int × USBAudioState :=
  let s := { s with out := s.out.pushVolume outLr }
  let s := (usbAudioSetOutputAltset s s.out.altset).getD s
  let s := { s with «in» := s.in.pushVolume inLr }
  let s := (usbAudioSetInputAltset s s.in.altset).getD s
  (0, s)

/-- One entry point of the device. -/
inductive Event
  | reset
  | setInterface (iface value : BitVec 32)
  | control (request value index : BitVec 16) (data : List UInt8)
  | data (p : USBPacket)
  | output (avail : Int)
  | input (avail : Int) (pcm : Nat → Chunk)
  | restore (snap : Snapshot)

/-- What an event does to the device. -/
def Event.apply (s : USBAudioState) : Event → USBAudioState
  | .reset => usbAudioHandleReset s
  | .setInterface iface value => usbAudioSetInterface s iface value
  | .control request value index bytes => (usbAudioHandleControl s request value index bytes).1
  | .data p => (usbAudioHandleData s p).1
  | .output avail => (outputCallback s avail).1
  | .input avail pcm => (inputCallback s avail pcm).1
  | .restore snap => (usbAudioPostLoad (snap.load s)).2

/-- The events `es`, in order, from `s`. -/
def runEvents (s : USBAudioState) (es : List Event) : USBAudioState := es.foldl Event.apply s

/-- Live operation: the demand callbacks fire only while the device has their voice active, and
no snapshot is restored. -/
def Event.Live (s : USBAudioState) : Event → Prop
  | .output _ => s.out.voice.active = true
  | .input _ _ => s.in.voice.active = true
  | .restore _ => False
  | _ => True

/-- The states reached from `usb_audio_realize` by events that `ok` admits. -/
inductive Reachable (ok : USBAudioState → Event → Prop) : USBAudioState → Prop
  | realize (buffer : BitVec 32) (fresh : Nat → UInt8) : Reachable ok (usbAudioRealize buffer fresh)
  | step {s : USBAudioState} (e : Event) : Reachable ok s → ok s e → Reachable ok (e.apply s)

/-- A SET_CUR request for control selector `cs`, channel `ch`, on the unit and interface
`index`. -/
def setCur (s : USBAudioState) (cs ch : BitVec 8) (index : BitVec 16) (data : List UInt8) :
    USBAudioState :=
  (usbAudioHandleControl s (classInterfaceOutRequest ||| crSetCur.setWidth 16) (wValue cs ch)
    index data).1

/-- The snapshot's state reached live: the two set-interface requests, then SET_CUR requests
carrying the loaded mute flags, and the loaded volumes in GET_CUR's encoding. -/
def liveRestore (s : USBAudioState) (snap : Snapshot) : USBAudioState :=
  let s := usbAudioSetInterface s 1 snap.outAltset
  let s := usbAudioSetInterface s 2 snap.inAltset
  let s := setCur s muteControl 0 0x0200 [boolByte snap.outMute]
  let s := setCur s volumeControl 1 0x0200 (le16 (volEncode snap.outVol0))
  let s := setCur s volumeControl 2 0x0200 (le16 (volEncode snap.outVol1))
  let s := setCur s muteControl 0 0x0500 [boolByte snap.inMute]
  setCur s volumeControl 1 0x0500 (le16 (volEncode snap.inVol))

end UsbAudio
