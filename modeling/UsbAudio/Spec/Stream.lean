import UsbAudio.Spec.StreamBuf

/-!
# The two streams' producers and consumers

What the device does to one direction's `streambuf`, with the data moved:

* playback (`out.buf`): `usb_audio_handle_dataout` puts the 192 bytes `usb_packet_copy` takes
  from an OUT packet, `output_callback` gets packets for `AUD_write`;
* capture (`in.buf`): `input_callback` allocates packets that `AUD_read` fills,
  `usb_audio_handle_datain` gets `MIN(USBAUDIO_PACKET_SIZE, iov->size)` bytes for the host.

The two callback loops run on `fuel`, which their callers set to `avail.toNat`: each iteration
takes 192 from `avail`, so the loop exits on its own test first (`outputLoop_spec`,
`inputLoop_spec` hold for every fuel of at least `avail`).

`outRun` and `inRun` run a list of these operations and keep a `Trace`: the offset and the
bytes of every copy into the storage and of every copy out of it.
-/

namespace UsbAudio

open StreamBuf

/-- The `for (;;)` loop of `output_callback`: while the backend has room for a packet and one is
buffered, pass it to `AUD_write`. Returns the buffer and the packets written, each with the
offset it was read from. -/
def outputLoop : Nat → StreamBuf → Int → StreamBuf × List (Nat × List UInt8)
  | 0, buf, _ => (buf, [])
  | fuel + 1, buf, avail =>
    if avail < usbaudioPacketSize then (buf, [])
    else match streambufGet buf usbaudioPacketSize with
      | none => (buf, [])
      | some (off, buf') =>
        let r := outputLoop fuel buf' (avail - usbaudioPacketSize)
        (r.1, (off, readBytes buf.data off usbaudioPacketSize) :: r.2)

/-- The `while (avail > USBAUDIO_PACKET_SIZE)` loop of `input_callback`: reserve a packet and let
`AUD_read` fill it, `pcm k` being what the `k`-th read delivers. Returns the buffer and the packets
filled, each with its offset. -/
def inputLoop : Nat → StreamBuf → Int → (Nat → Chunk) → StreamBuf × List (Nat × List UInt8)
  | 0, buf, _, _ => (buf, [])
  | fuel + 1, buf, avail, pcm =>
    if (usbaudioPacketSize : Int) < avail then
      match streambufAlloc buf usbaudioPacketSize with
      | none => (buf, [])
      | some (off, buf') =>
        let r := inputLoop fuel { buf' with data := writeBytes buf'.data off (pcm 0).bytes }
          (avail - usbaudioPacketSize) (fun k => pcm (k + 1))
        (r.1, (off, (pcm 0).bytes) :: r.2)
    else (buf, [])

/-- `usb_audio_handle_datain` past its `ALTSET_OFF` test, for an IN transfer of `size` bytes: the
offset and the bytes `usb_packet_copy` gives the host, or `none` for the stall on underrun. -/
def datainGet (buf : StreamBuf) (size : Nat) : Option (StreamBuf × Nat × List UInt8) :=
  let len := min usbaudioPacketSize size
  (streambufGet buf len).map fun r => (r.2, r.1, readBytes buf.data r.1 len)

/-- The states of `out.buf` under the operations the device issues on it: `streambuf_init` (at
realize and on each `ALTSET_OFF`), `streambuf_put` of a packet, `streambuf_get` of a packet. -/
inductive OutReach : StreamBuf → Prop
  | init (size : BitVec 32) (fresh : Nat → UInt8) : OutReach (streambufInit size fresh)
  | put {buf : StreamBuf} (p : Chunk) : OutReach buf → OutReach (streambufPut buf p).2
  | get {buf buf' : StreamBuf} {off : Nat} :
      OutReach buf → streambufGet buf usbaudioPacketSize = some (off, buf') → OutReach buf'

/-- The states of `in.buf` under the operations the device issues on it: `streambuf_init`,
`streambuf_alloc` of a packet filled by `AUD_read`, and `streambuf_get` of
`MIN(USBAUDIO_PACKET_SIZE, n)` bytes for any `n`. -/
inductive InReach : StreamBuf → Prop
  | init (size : BitVec 32) (fresh : Nat → UInt8) : InReach (streambufInit size fresh)
  | alloc {buf buf' : StreamBuf} {off : Nat} (c : Chunk) :
      InReach buf → streambufAlloc buf usbaudioPacketSize = some (off, buf') →
      InReach { buf' with data := writeBytes buf'.data off c.bytes }
  | get {buf buf' : StreamBuf} {off : Nat} (n : Nat) :
      InReach buf → streambufGet buf (min usbaudioPacketSize n) = some (off, buf') → InReach buf'

/-- The copies a run made into a buffer's storage (`fills`) and out of it (`drains`), in order:
each an offset and the bytes copied. -/
structure Trace where
  fills : List (Nat × List UInt8)
  drains : List (Nat × List UInt8)

instance : Append Trace := ⟨fun a b => ⟨a.fills ++ b.fills, a.drains ++ b.drains⟩⟩

/-- The bytes the producer had accepted, in order. -/
def Trace.accepted (t : Trace) : List UInt8 := (t.fills.map Prod.snd).flatten

/-- The bytes the consumer delivered, in order. -/
def Trace.delivered (t : Trace) : List UInt8 := (t.drains.map Prod.snd).flatten

/-- Every copy stayed inside the `size` bytes of storage. -/
def Trace.InBounds (t : Trace) (size : Nat) : Prop :=
  ∀ a ∈ t.fills ++ t.drains, a.1 + a.2.length ≤ size

/-- One step of the playback stream while it is `ALTSET_ON`. -/
inductive OutOp
  /-- `usb_audio_handle_dataout` of an OUT packet of at least 192 bytes, `p` being its first
  192. -/
  | dataout (p : Chunk)
  /-- `output_callback(avail)`. -/
  | output (avail : Int)

/-- One step of the capture stream while it is `ALTSET_ON`. -/
inductive InOp
  /-- `input_callback(avail)`, `pcm k` being what its `k`-th `AUD_read` delivers. -/
  | input (avail : Int) (pcm : Nat → Chunk)
  /-- `usb_audio_handle_datain` for an IN transfer of `size` bytes. -/
  | datain (size : Nat)

def OutOp.step : OutOp → StreamBuf → StreamBuf × Trace
  | .dataout p, buf =>
    let r := streambufPut buf p
    (r.2, ⟨if r.1 = 0 then [] else [(buf.prodOff, p.bytes)], []⟩)
  | .output avail, buf =>
    let r := outputLoop avail.toNat buf avail
    (r.1, ⟨[], r.2⟩)

def InOp.step : InOp → StreamBuf → StreamBuf × Trace
  | .input avail pcm, buf =>
    let r := inputLoop avail.toNat buf avail pcm
    (r.1, ⟨r.2, []⟩)
  | .datain size, buf =>
    match datainGet buf size with
    | none => (buf, ⟨[], []⟩)
    | some (buf', off, bs) => (buf', ⟨[], [(off, bs)]⟩)

/-- A run of the playback stream: the final buffer and the trace. -/
def outRun : StreamBuf → List OutOp → StreamBuf × Trace
  | buf, [] => (buf, ⟨[], []⟩)
  | buf, op :: ops =>
    let r := op.step buf
    let r' := outRun r.1 ops
    (r'.1, r.2 ++ r'.2)

/-- A run of the capture stream: the final buffer and the trace. -/
def inRun : StreamBuf → List InOp → StreamBuf × Trace
  | buf, [] => (buf, ⟨[], []⟩)
  | buf, op :: ops =>
    let r := op.step buf
    let r' := inRun r.1 ops
    (r'.1, r.2 ++ r'.2)

end UsbAudio
