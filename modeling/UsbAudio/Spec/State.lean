import UsbAudio.Spec.Stream

/-!
# `USBAudioState` and the streaming half of the device

The device record, the alt-setting switch of each direction, and the transport and backend
entry points that move audio: `usb_audio_handle_reset`, `usb_audio_set_interface`,
`usb_audio_handle_data` and the two demand callbacks.

The `int` arguments the code only compares (`iface`, `value`, `altset`) are `BitVec 32`, the
same bits as the C value. The backend is recorded by what the device last told it about each
voice (`Voice`). `as` (fixed at `AUD_open_*` time) and `debug` (which only gates `fprintf`) are
left out.
-/

namespace UsbAudio

/-- `ALTSET_OFF`: no endpoint. -/
def altsetOff : BitVec 32 := 0x00

/-- `ALTSET_ON`: a single endpoint. -/
def altsetOn : BitVec 32 := 0x01

/-- What the audio backend last heard from the device about one voice. -/
structure Voice where
  /-- The argument of the last `AUD_set_active_out` or `AUD_set_active_in`. -/
  active : Bool
  /-- The arguments of the last `AUD_set_volume_out` or `AUD_set_volume_in`. -/
  volume : Bool × BitVec 8 × BitVec 8

/-- One direction's block of `USBAudioState`; `vol` is `uint8_t vol[2]` for `out` and
`uint8_t vol` for `in`. -/
structure Stream (V : Type) where
  altset : BitVec 32
  voice : Voice
  mute : Bool
  vol : V
  buf : StreamBuf

structure USBAudioState where
  out : Stream (BitVec 8 × BitVec 8)
  «in» : Stream (BitVec 8)
  buffer : BitVec 32

namespace Stream

variable {V : Type}

/-- The shared body of `usb_audio_set_output_altset` and `usb_audio_set_input_altset`.
`ALTSET_OFF` re-creates the buffer and deactivates the voice, `ALTSET_ON` activates it; any other
value is the `return -1` (`none`), which changes nothing. -/
def setAltset (st : Stream V) (buffer altset : BitVec 32) : Option (Stream V) :=
  if altset = altsetOff then
    some { st with buf := streambufInit buffer st.buf.data,
                   voice := { st.voice with active := false }, altset := altset }
  else if altset = altsetOn then
    some { st with voice := { st.voice with active := true }, altset := altset }
  else none

/-- `AUD_set_volume_*(voice, mute, l, r)`, with `(l, r)` read from the stream's volume. -/
def pushVolume (st : Stream V) (lr : V → BitVec 8 × BitVec 8) : Stream V :=
  { st with voice := { st.voice with volume := (st.mute, lr st.vol) } }

end Stream

/-- The channels `AUD_set_volume_out` is given: `vol[0]` and `vol[1]`. -/
def outLr (v : BitVec 8 × BitVec 8) : BitVec 8 × BitVec 8 := v

/-- The channels `AUD_set_volume_in` is given: `vol` twice. -/
def inLr (v : BitVec 8) : BitVec 8 × BitVec 8 := (v, v)

/-- `usb_audio_set_output_altset`. -/
def usbAudioSetOutputAltset (s : USBAudioState) (altset : BitVec 32) : Option USBAudioState :=
  (s.out.setAltset s.buffer altset).map fun o => { s with out := o }

/-- `usb_audio_set_input_altset`. -/
def usbAudioSetInputAltset (s : USBAudioState) (altset : BitVec 32) : Option USBAudioState :=
  (s.in.setAltset s.buffer altset).map fun i => { s with «in» := i }

/-- `usb_audio_set_interface`: interface 1 is playback, 2 capture; the `-1` of an unknown alt
value is dropped. -/
def usbAudioSetInterface (s : USBAudioState) (iface value : BitVec 32) : USBAudioState :=
  if iface = 1 then (usbAudioSetOutputAltset s value).getD s
  else if iface = 2 then (usbAudioSetInputAltset s value).getD s
  else s

/-- `usb_audio_handle_reset`: both directions to `ALTSET_OFF`. -/
def usbAudioHandleReset (s : USBAudioState) : USBAudioState :=
  let s := (usbAudioSetOutputAltset s altsetOff).getD s
  (usbAudioSetInputAltset s altsetOff).getD s

/-- `p->pid` of a data packet. -/
inductive Pid
  | setup
  | tokenIn
  | tokenOut
  deriving DecidableEq

/-- The parts of a `USBPacket` the data path reads: the token, `p->ep->nr`, and the bytes of the
transfer's I/O vector `p->iov` (of an IN transfer only its length matters: the device writes
into it). -/
structure USBPacket where
  pid : Pid
  ep : Nat
  iov : List UInt8

/-- `p->iov.size`. -/
def USBPacket.size (p : USBPacket) : Nat := p.iov.length

/-- What `usb_packet_copy(p, ptr, USBAUDIO_PACKET_SIZE)` takes from a fresh OUT packet: the first
192 bytes of its I/O vector, or `none` where the copy's `assert(p->actual_length + bytes <=
iov->size)` fails. -/
def USBPacket.outPayload (p : USBPacket) : Option Chunk :=
  if h : usbaudioPacketSize ≤ p.iov.length then
    some ⟨p.iov.take usbaudioPacketSize, by rw [List.length_take, Nat.min_eq_left h]⟩
  else none

/-- How a data transfer ends: `USB_RET_STALL`, success with `actual_length` and the bytes the
device returned, or a failed assertion, which aborts the process with the state as it stood. -/
inductive Transfer
  | stall
  | ok (actualLength : Nat) (bytes : List UInt8)
  | abort
  deriving DecidableEq

/-- `usb_audio_handle_dataout`: stall while `ALTSET_OFF`, else `streambuf_put`. That returns 0
on a full buffer, and an overrun drops the packet and still succeeds; otherwise it copies 192
bytes out of the packet, and on a shorter OUT transfer `usb_packet_copy`'s assertion fails before
anything is written. -/
def usbAudioHandleDataout (s : USBAudioState) (p : USBPacket) : USBAudioState × Transfer :=
  if s.out.altset = altsetOff then (s, .stall)
  else match p.outPayload with
    | some c =>
      let r := streambufPut s.out.buf c
      ({ s with out := { s.out with buf := r.2 } }, .ok r.1 [])
    | none => if s.out.buf.free = 0 then (s, .ok 0 []) else (s, .abort)

/-- `usb_audio_handle_datain`: stall while `ALTSET_OFF` or on underrun, else up to one packet. -/
def usbAudioHandleDatain (s : USBAudioState) (p : USBPacket) : USBAudioState × Transfer :=
  if s.in.altset = altsetOff then (s, .stall)
  else match datainGet s.in.buf p.size with
    | none => (s, .stall)
    | some (buf, _, bs) => ({ s with «in» := { s.in with buf := buf } }, .ok bs.length bs)

/-- `usb_audio_handle_data`: endpoint 1 OUT is playback, endpoint 1 IN capture, the rest
stalls. -/
def usbAudioHandleData (s : USBAudioState) (p : USBPacket) : USBAudioState × Transfer :=
  if p.pid = .tokenOut ∧ p.ep = 1 then usbAudioHandleDataout s p
  else if p.pid = .tokenIn ∧ p.ep = 1 then usbAudioHandleDatain s p
  else (s, .stall)

/-- `output_callback`: the packets passed to `AUD_write`. -/
def outputCallback (s : USBAudioState) (avail : Int) : USBAudioState × List (List UInt8) :=
  let r := outputLoop avail.toNat s.out.buf avail
  ({ s with out := { s.out with buf := r.1 } }, r.2.map Prod.snd)

/-- `input_callback`, `pcm k` being what its `k`-th `AUD_read` delivers: the packets filled. -/
def inputCallback (s : USBAudioState) (avail : Int) (pcm : Nat → Chunk) :
    USBAudioState × List (List UInt8) :=
  let r := inputLoop avail.toNat s.in.buf avail pcm
  ({ s with «in» := { s.in with buf := r.1 } }, r.2.map Prod.snd)

/-- `usb_audio_realize`. `buffer` is the field's value on entry: `out.buf` is created from it,
before the field is set to 64 packets and `in.buf` created from that. `fresh` is what the new
`g_malloc` blocks hold. -/
def usbAudioRealize (buffer : BitVec 32) (fresh : Nat → UInt8) : USBAudioState :=
  let vol0 : BitVec 8 := 240
  { out := { altset := altsetOff, voice := { active := false, volume := (false, vol0, vol0) },
             mute := false, vol := (vol0, vol0), buf := streambufInit buffer fresh }
    «in» := { altset := altsetOff, voice := { active := false, volume := (false, vol0, vol0) },
              mute := false, vol := vol0,
              buf := streambufInit (BitVec.ofNat 32 (64 * usbaudioPacketSize)) fresh }
    buffer := BitVec.ofNat 32 (64 * usbaudioPacketSize) }

end UsbAudio
