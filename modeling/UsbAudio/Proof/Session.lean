import UsbAudio.Proof.Ring
import UsbAudio.Proof.Transfer

/-!
# Each stream of the device is a queue

The device touches a direction's buffer in two ways only: it re-creates it when the direction
goes to `ALTSET_OFF` (a reset, `SET_INTERFACE` with `ALTSET_OFF`, a restore of a snapshot with
`ALTSET_OFF`), and otherwise it runs the stream operations of `Spec.Stream` on it. Between two
re-creations the buffer therefore follows the stream model, and the queue results of `Ring`
carry over to the device.

* `Event.outOps`, `Event.inOps`: the stream operations an event performs;
  `Event.out_buf_eq`, `Event.in_buf_eq`: the buffer an event leaves, re-created or run.
* `Reachable.bufs_reach`: on every run of the device each buffer is a state of its stream, so
  `device_occupancy`: no reachable state can fail the assertion of `streambuf_put`.
* `Event.playbackIo`, `Event.captureIo`: the audio an event takes in and hands out, read off its
  results, and equal to the projected trace (`Event.playbackIo_eq`, `Event.captureIo_eq`).
* `playback_session_fifo`, `capture_session_fifo`: through any events that do not re-create the
  buffer, starting from a fresh one, the audio handed out followed by the audio still buffered
  is the audio taken in, and every copy stays inside the storage.
-/

namespace UsbAudio

open StreamBuf

/-! ## The stream operations of an event -/

/-- The playback operations an event performs: an OUT transfer on endpoint 1 while playback is
not `ALTSET_OFF` is a `streambuf_put` of what `usb_packet_copy` takes from it (a shorter packet
puts nothing: it is dropped on a full buffer and aborts otherwise), and `output_callback` runs
its loop. -/
def Event.outOps (s : USBAudioState) : Event → List OutOp
  | .data p =>
    if p.pid = .tokenOut ∧ p.ep = 1 ∧ s.out.altset ≠ altsetOff then
      match p.outPayload with
      | some c => [.dataout c]
      | none => []
    else []
  | .output avail => [.output avail]
  | _ => []

/-- The capture operations an event performs: an IN transfer on endpoint 1 while capture is not
`ALTSET_OFF` is a `streambuf_get`, and `input_callback` runs its loop. -/
def Event.inOps (s : USBAudioState) : Event → List InOp
  | .data p =>
    if p.pid = .tokenIn ∧ p.ep = 1 ∧ s.in.altset ≠ altsetOff then [.datain p.size] else []
  | .input avail pcm => [.input avail pcm]
  | _ => []

/-- The events that re-create the playback buffer. -/
def Event.OutReinit : Event → Prop
  | .reset => True
  | .setInterface iface value => iface = 1 ∧ value = altsetOff
  | .restore snap => snap.outAltset = altsetOff
  | _ => False

/-- The events that re-create the capture buffer. -/
def Event.InReinit : Event → Prop
  | .reset => True
  | .setInterface iface value => iface = 2 ∧ value = altsetOff
  | .restore snap => snap.inAltset = altsetOff
  | _ => False

instance : DecidablePred Event.OutReinit
  | .reset => inferInstanceAs (Decidable True)
  | .setInterface iface value => inferInstanceAs (Decidable (iface = 1 ∧ value = altsetOff))
  | .control _ _ _ _ | .data _ | .output _ | .input _ _ => inferInstanceAs (Decidable False)
  | .restore snap => inferInstanceAs (Decidable (snap.outAltset = altsetOff))

instance : DecidablePred Event.InReinit
  | .reset => inferInstanceAs (Decidable True)
  | .setInterface iface value => inferInstanceAs (Decidable (iface = 2 ∧ value = altsetOff))
  | .control _ _ _ _ | .data _ | .output _ | .input _ _ => inferInstanceAs (Decidable False)
  | .restore snap => inferInstanceAs (Decidable (snap.inAltset = altsetOff))

/-- Every IN transfer on endpoint 1 asks for at least a packet. -/
def Event.FullRead : Event → Prop
  | .data p => p.pid = .tokenIn ∧ p.ep = 1 → usbaudioPacketSize ≤ p.size
  | _ => True

instance : DecidablePred Event.FullRead
  | .data p => inferInstanceAs (Decidable (p.pid = .tokenIn ∧ p.ep = 1 → usbaudioPacketSize ≤ p.size))
  | .reset | .setInterface _ _ | .control _ _ _ _ | .output _ | .input _ _ | .restore _ =>
    inferInstanceAs (Decidable True)

/-! ## What an event does to a buffer -/

variable {V : Type} {s : USBAudioState}

@[simp] theorem Stream.setAltset_getD_buf (st : Stream V) (buffer a : BitVec 32) :
    ((st.setAltset buffer a).getD st).buf =
      if a = altsetOff then streambufInit buffer st.buf.data else st.buf := by
  unfold Stream.setAltset
  split_ifs <;> rfl

@[simp] theorem Stream.pushVolume_buf (st : Stream V) (lr : V → BitVec 8 × BitVec 8) :
    (st.pushVolume lr).buf = st.buf := rfl

/-- A control request moves neither buffer. -/
theorem usbAudioHandleControl_buf (request value index : BitVec 16) (data : List UInt8) :
    (usbAudioHandleControl s request value index data).1.out.buf = s.out.buf ∧
      (usbAudioHandleControl s request value index data).1.in.buf = s.in.buf := by
  rcases usbAudioHandleControl_cases request value index data with h | h
  · rw [h]; exact ⟨rfl, rfl⟩
  · rcases usbAudioSetControl_eq_some h with ⟨-, _, _, h'⟩ | ⟨-, _, _, h'⟩ <;>
      exact ⟨by simp [h'], by simp [h']⟩

/-- **What an event leaves in the playback buffer**: a fresh buffer if it re-creates it, else
the result of its playback operations. -/
theorem Event.out_buf_eq (e : Event) (s : USBAudioState) :
    (e.apply s).out.buf =
      if e.OutReinit then streambufInit s.buffer s.out.buf.data
      else (outRun s.out.buf (e.outOps s)).1 := by
  cases e with
  | reset =>
    simp [Event.apply, Event.OutReinit, usbAudioHandleReset, usbAudioSetOutputAltset_getD,
      usbAudioSetInputAltset_getD]
  | setInterface iface value =>
    simp only [Event.apply, Event.OutReinit, Event.outOps, usbAudioSetInterface]
    by_cases h1 : iface = 1#32
    · by_cases h2 : value = altsetOff <;> simp [h1, h2, usbAudioSetOutputAltset_getD, outRun]
    · by_cases h2 : iface = 2#32 <;> simp [h1, h2, usbAudioSetInputAltset_getD, outRun]
  | control request value index data =>
    simp [Event.apply, Event.OutReinit, Event.outOps, outRun, usbAudioHandleControl_buf]
  | data p =>
    simp only [Event.apply, Event.OutReinit, Event.outOps, if_false]
    rcases usbAudioHandleData_route (s := s) p with ⟨h1, h2, hd⟩ | ⟨h1, -, hd⟩ | ⟨h1, -, hd⟩ <;>
      rw [hd]
    · by_cases hoff : s.out.altset = altsetOff
      · simp [usbAudioHandleDataout_off hoff, hoff, outRun]
      rw [if_pos ⟨h1, h2, hoff⟩]
      rcases hc : p.outPayload with _ | c
      · -- a short packet puts nothing: it is dropped, or it aborts
        by_cases hf : s.out.buf.free = 0
        · rw [usbAudioHandleDataout_full hoff hf]; rfl
        · rw [usbAudioHandleDataout_short hoff hf (USBPacket.outPayload_eq_none.1 hc)]; rfl
      · rw [usbAudioHandleDataout_put hoff hc]; rfl
    · simp [h1, outRun]
    · rw [if_neg (by tauto)]; rfl
  | output avail => rfl
  | input avail pcm => rfl
  | restore snap =>
    simp only [Event.apply, Event.OutReinit, Event.outOps]
    by_cases h : snap.outAltset = altsetOff <;>
      simp [h, usbAudioPostLoad, Snapshot.load, usbAudioSetOutputAltset_getD,
        usbAudioSetInputAltset_getD, outRun]

/-- **What an event leaves in the capture buffer**: a fresh buffer if it re-creates it, else the
result of its capture operations. -/
theorem Event.in_buf_eq (e : Event) (s : USBAudioState) :
    (e.apply s).in.buf =
      if e.InReinit then streambufInit s.buffer s.in.buf.data
      else (inRun s.in.buf (e.inOps s)).1 := by
  cases e with
  | reset =>
    simp [Event.apply, Event.InReinit, usbAudioHandleReset, usbAudioSetOutputAltset_getD,
      usbAudioSetInputAltset_getD]
  | setInterface iface value =>
    simp only [Event.apply, Event.InReinit, Event.inOps, usbAudioSetInterface]
    by_cases h1 : iface = 1#32
    · simp [h1, usbAudioSetOutputAltset_getD, inRun]
    · by_cases h2 : iface = 2#32
      · by_cases h3 : value = altsetOff <;> simp [h1, h2, h3, usbAudioSetInputAltset_getD, inRun]
      · simp [h1, h2, inRun]
  | control request value index data =>
    simp [Event.apply, Event.InReinit, Event.inOps, inRun, usbAudioHandleControl_buf]
  | data p =>
    simp only [Event.apply, Event.InReinit, Event.inOps, if_false]
    rcases usbAudioHandleData_route (s := s) p with ⟨h1, -, hd⟩ | ⟨h1, h2, hd⟩ | ⟨-, h1, hd⟩ <;>
      rw [hd]
    · simp [h1, inRun]
    · by_cases h : s.in.altset = altsetOff
      · simp [usbAudioHandleDatain, h, inRun]
      · simp only [usbAudioHandleDatain, h1, h2, h, if_false, ne_eq, not_false_eq_true, and_self,
          if_true, inRun, InOp.step]
        rcases datainGet s.in.buf p.size with _ | ⟨b, o, bs⟩ <;> rfl
    · rw [if_neg (by tauto)]; rfl
  | output avail => rfl
  | input avail pcm => rfl
  | restore snap =>
    simp only [Event.apply, Event.InReinit, Event.inOps]
    by_cases h : snap.inAltset = altsetOff <;>
      simp [h, usbAudioPostLoad, Snapshot.load, usbAudioSetOutputAltset_getD,
        usbAudioSetInputAltset_getD, inRun]

/-! ## Runs of events -/

/-- The playback operations of a run of events. -/
def outOpsOf : USBAudioState → List Event → List OutOp
  | _, [] => []
  | s, e :: es => e.outOps s ++ outOpsOf (e.apply s) es

/-- The capture operations of a run of events. -/
def inOpsOf : USBAudioState → List Event → List InOp
  | _, [] => []
  | s, e :: es => e.inOps s ++ inOpsOf (e.apply s) es

theorem runEvents_cons (s : USBAudioState) (e : Event) (es : List Event) :
    runEvents s (e :: es) = runEvents (e.apply s) es := rfl

/-- Between two re-creations, the playback buffer follows the stream model. -/
theorem runEvents_out_buf (es : List Event) : ∀ s : USBAudioState, (∀ e ∈ es, ¬e.OutReinit) →
    (runEvents s es).out.buf = (outRun s.out.buf (outOpsOf s es)).1 := by
  induction es with
  | nil => intro s _; rfl
  | cons e es ih =>
    intro s h
    rw [runEvents_cons, ih _ fun e' he' => h e' (List.mem_cons_of_mem _ he'), Event.out_buf_eq,
      if_neg (h e (List.mem_cons_self _ _)), outOpsOf, outRun_append]

/-- Between two re-creations, the capture buffer follows the stream model. -/
theorem runEvents_in_buf (es : List Event) : ∀ s : USBAudioState, (∀ e ∈ es, ¬e.InReinit) →
    (runEvents s es).in.buf = (inRun s.in.buf (inOpsOf s es)).1 := by
  induction es with
  | nil => intro s _; rfl
  | cons e es ih =>
    intro s h
    rw [runEvents_cons, ih _ fun e' he' => h e' (List.mem_cons_of_mem _ he'), Event.in_buf_eq,
      if_neg (h e (List.mem_cons_self _ _)), inOpsOf, inRun_append]

theorem inOpsOf_fullRead (es : List Event) (h : ∀ e ∈ es, e.FullRead) :
    ∀ s, ∀ op ∈ inOpsOf s es, op.FullRead := by
  induction es with
  | nil => intro s op hop; cases hop
  | cons e es ih =>
    intro s op hop
    rcases List.mem_append.1 hop with hop | hop
    · cases e with
      | data p =>
        simp only [Event.inOps] at hop
        split_ifs at hop with hc
        · rw [List.mem_singleton.1 hop]
          exact h _ (List.mem_cons_self _ _) ⟨hc.1, hc.2.1⟩
        · cases hop
      | input avail pcm => rw [List.mem_singleton.1 hop]; trivial
      | _ => cases hop
    · exact ih (fun e' he' => h e' (List.mem_cons_of_mem _ he')) _ _ hop

/-! ## Every buffer the device reaches is a stream state -/

theorem outRun_reach (ops : List OutOp) : ∀ buf : StreamBuf, OutReach buf → OutReach (outRun buf ops).1 := by
  induction ops with
  | nil => intro buf h; exact h
  | cons op ops ih =>
    intro buf h
    refine ih _ ?_
    cases op with
    | dataout p => exact h.put p
    | output avail => exact outputLoop_reach _ _ _ h

theorem inRun_reach (ops : List InOp) : ∀ buf : StreamBuf, InReach buf → InReach (inRun buf ops).1 := by
  induction ops with
  | nil => intro buf h; exact h
  | cons op ops ih =>
    intro buf h
    refine ih _ ?_
    cases op with
    | input avail pcm => exact (inputLoop_spec _ _ _ pcm h le_rfl).2.2.1
    | datain size =>
      simp only [InOp.step]
      rcases hd : datainGet buf size with _ | ⟨b, o, bs⟩
      · exact h
      · simp only [datainGet, Option.map_eq_some'] at hd
        obtain ⟨⟨o', b'⟩, hg, he⟩ := hd
        cases he
        exact h.get size hg

/-- On every run of the device, with any events, each buffer is a state its stream reaches. -/
theorem Reachable.bufs_reach {ok : USBAudioState → Event → Prop} (h : Reachable ok s) :
    OutReach s.out.buf ∧ InReach s.in.buf := by
  induction h with
  | realize buffer fresh => exact ⟨.init _ _, .init _ _⟩
  | step e _ _ ih =>
    rw [Event.out_buf_eq, Event.in_buf_eq]
    constructor
    · split_ifs
      · exact .init _ _
      · exact outRun_reach _ _ ih.1
    · split_ifs
      · exact .init _ _
      · exact inRun_reach _ _ ih.2

/-- **`streambuf_put`'s assertion cannot fail on the device.** In every state reached from
`usb_audio_realize` by any events, `assert(free >= USBAUDIO_PACKET_SIZE)` holds on the playback
buffer, and neither buffer holds more than its size. -/
theorem device_occupancy {ok : USBAudioState → Event → Prop} (h : Reachable ok s) :
    putAssert s.out.buf ∧ s.out.buf.used.toNat ≤ s.out.buf.size.toNat ∧
      s.in.buf.used.toNat ≤ s.in.buf.size.toNat :=
  have hr := h.bufs_reach
  ⟨hr.1.occupancy.putAssert, hr.1.occupancy.used_le, hr.2.occupancy.used_le⟩

/-- An OUT transfer of one packet of silence on endpoint 1. -/
def silentOut : USBPacket := ⟨.tokenOut, 1, zeroChunk.bytes⟩

/-- An IN transfer of one packet on endpoint 1. -/
def packetIn : USBPacket := ⟨.tokenIn, 1, zeroChunk.bytes⟩

/-- The realized device after a reset, `SET_INTERFACE(1, 1)` and one OUT packet. -/
def playingDevice : USBAudioState :=
  (Event.data silentOut).apply ((Event.setInterface 1 1).apply (Event.reset.apply (usbAudioRealize 0 0)))

theorem device_occupancy_realize :
    Reachable (fun _ _ => True) playingDevice ∧
      (putAssert playingDevice.out.buf ∧
        playingDevice.out.buf.used.toNat ≤ playingDevice.out.buf.size.toNat ∧
        playingDevice.in.buf.used.toNat ≤ playingDevice.in.buf.size.toNat) :=
  have h : Reachable (fun _ _ => True) playingDevice :=
    (((Reachable.realize 0 0).step _ trivial).step _ trivial).step _ trivial
  ⟨h, device_occupancy h⟩

/-! ## The audio an event moves -/

/-- The audio an event moves on the playback side, read off its results: the 192 bytes taken from
an OUT transfer the device acknowledged in full, and the packets `output_callback` passed to
`AUD_write`. -/
def Event.playbackIo (s : USBAudioState) : Event → List UInt8 × List UInt8
  | .data p =>
    if p.pid = .tokenOut ∧ (usbAudioHandleData s p).2 = .ok usbaudioPacketSize [] then
      (p.iov.take usbaudioPacketSize, [])
    else ([], [])
  | .output avail => ([], (outputCallback s avail).2.flatten)
  | _ => ([], [])

/-- The audio an event moves on the capture side: the packets `input_callback` took from
`AUD_read`, and the bytes an IN transfer returned to the host. -/
def Event.captureIo (s : USBAudioState) : Event → List UInt8 × List UInt8
  | .input avail pcm => ((inputCallback s avail pcm).2.flatten, [])
  | .data p =>
    match (usbAudioHandleData s p).2 with
    | .ok _ bytes => ([], bytes)
    | .stall | .abort => ([], [])
  | _ => ([], [])

@[simp] theorem outRun_nil_trace (buf : StreamBuf) : (outRun buf []).2 = ⟨[], []⟩ := rfl

@[simp] theorem inRun_nil_trace (buf : StreamBuf) : (inRun buf []).2 = ⟨[], []⟩ := rfl

/-- The audio an event moves on the playback side is the trace of its playback operations. -/
theorem Event.playbackIo_eq (e : Event) (s : USBAudioState) :
    e.playbackIo s =
      ((outRun s.out.buf (e.outOps s)).2.accepted, (outRun s.out.buf (e.outOps s)).2.delivered) := by
  cases e with
  | data p =>
    simp only [Event.playbackIo, Event.outOps]
    rcases usbAudioHandleData_route (s := s) p with ⟨h1, h2, hd⟩ | ⟨h1, -, hd⟩ | ⟨h1, -, hd⟩ <;>
      rw [hd]
    · by_cases hoff : s.out.altset = altsetOff
      · simp [usbAudioHandleDataout_off hoff, hoff, Trace.accepted, Trace.delivered]
      have hon : p.pid = .tokenOut ∧ p.ep = 1 ∧ s.out.altset ≠ altsetOff := ⟨h1, h2, hoff⟩
      rw [if_pos hon]
      rcases hc : p.outPayload with _ | c
      · -- a short packet: dropped, or an abort
        by_cases hf : s.out.buf.free = 0
        · simp [usbAudioHandleDataout_full hoff hf, Trace.accepted, Trace.delivered]
        · simp [usbAudioHandleDataout_short hoff hf (USBPacket.outPayload_eq_none.1 hc),
            Trace.accepted, Trace.delivered]
      · -- a packet `streambuf_put` copies unless the buffer is full
        rw [usbAudioHandleDataout_put hoff hc]
        by_cases hf : s.out.buf.free = 0
        · simp [outRun, OutOp.step, streambufPut_full c hf, Trace.accepted, Trace.delivered]
        · simp [h1, outRun, OutOp.step, streambufPut_copy c hf, (USBPacket.outPayload_eq_some hc).2,
            Trace.accepted, Trace.delivered]
    · simp [h1, Trace.accepted, Trace.delivered]
    · rw [if_neg (by simp), if_neg (by tauto)]
      rfl
  | output avail =>
    simp [Event.playbackIo, Event.outOps, outRun, OutOp.step, outputCallback, Trace.accepted,
      Trace.delivered]
  | _ => simp [Event.playbackIo, Event.outOps, Trace.accepted, Trace.delivered]

/-- An OUT transfer moves no capture audio. -/
theorem Event.captureIo_dataout {p : USBPacket}
    (hd : usbAudioHandleData s p = usbAudioHandleDataout s p) : (Event.data p).captureIo s = ([], []) := by
  simp only [Event.captureIo, hd]
  rcases hr : (usbAudioHandleDataout s p).2 with _ | ⟨n, bs⟩ | _
  · rfl
  · rw [usbAudioHandleDataout_no_bytes hr]
  · rfl

/-- The audio an event moves on the capture side is the trace of its capture operations. -/
theorem Event.captureIo_eq (e : Event) (s : USBAudioState) :
    e.captureIo s =
      ((inRun s.in.buf (e.inOps s)).2.accepted, (inRun s.in.buf (e.inOps s)).2.delivered) := by
  cases e with
  | data p =>
    rcases usbAudioHandleData_route (s := s) p with ⟨h1, -, hd⟩ | ⟨h1, h2, hd⟩ | ⟨-, h1, hd⟩
    · rw [Event.captureIo_dataout hd]
      simp [Event.inOps, h1, Trace.accepted, Trace.delivered]
    all_goals simp only [Event.captureIo, Event.inOps, hd]
    · unfold usbAudioHandleDatain
      by_cases h : s.in.altset = altsetOff
      · simp [h, Trace.accepted, Trace.delivered]
      · simp only [h1, h2, h, if_false, ne_eq, not_false_eq_true, and_self, if_true, inRun,
          InOp.step]
        rcases datainGet s.in.buf p.size with _ | ⟨b, o, bs⟩ <;> simp [Trace.accepted, Trace.delivered]
    · rw [if_neg (by tauto)]
      rfl
  | input avail pcm =>
    simp [Event.captureIo, Event.inOps, inRun, InOp.step, inputCallback, Trace.accepted,
      Trace.delivered]
  | _ => simp [Event.captureIo, Event.inOps, Trace.accepted, Trace.delivered]

/-- The audio a run of events takes in and hands out on the playback side. -/
def playbackIoOf : USBAudioState → List Event → List UInt8 × List UInt8
  | _, [] => ([], [])
  | s, e :: es =>
    ((e.playbackIo s).1 ++ (playbackIoOf (e.apply s) es).1,
      (e.playbackIo s).2 ++ (playbackIoOf (e.apply s) es).2)

/-- The audio a run of events takes in and hands out on the capture side. -/
def captureIoOf : USBAudioState → List Event → List UInt8 × List UInt8
  | _, [] => ([], [])
  | s, e :: es =>
    ((e.captureIo s).1 ++ (captureIoOf (e.apply s) es).1,
      (e.captureIo s).2 ++ (captureIoOf (e.apply s) es).2)

theorem playbackIoOf_eq (es : List Event) : ∀ s : USBAudioState, (∀ e ∈ es, ¬e.OutReinit) →
    playbackIoOf s es =
      ((outRun s.out.buf (outOpsOf s es)).2.accepted, (outRun s.out.buf (outOpsOf s es)).2.delivered) := by
  induction es with
  | nil => intro s _; rfl
  | cons e es ih =>
    intro s h
    rw [playbackIoOf, ih _ fun e' he' => h e' (List.mem_cons_of_mem _ he'), Event.playbackIo_eq,
      Event.out_buf_eq, if_neg (h e (List.mem_cons_self _ _)), outOpsOf, outRun_append,
      Trace.accepted_append, Trace.delivered_append]

theorem captureIoOf_eq (es : List Event) : ∀ s : USBAudioState, (∀ e ∈ es, ¬e.InReinit) →
    captureIoOf s es =
      ((inRun s.in.buf (inOpsOf s es)).2.accepted, (inRun s.in.buf (inOpsOf s es)).2.delivered) := by
  induction es with
  | nil => intro s _; rfl
  | cons e es ih =>
    intro s h
    rw [captureIoOf, ih _ fun e' he' => h e' (List.mem_cons_of_mem _ he'), Event.captureIo_eq,
      Event.in_buf_eq, if_neg (h e (List.mem_cons_self _ _)), inOpsOf, inRun_append,
      Trace.accepted_append, Trace.delivered_append]

/-! ## The device's streams are queues -/

/-- **The device plays back what the host sent, in order.** From any state whose playback buffer
is fresh (after `usb_audio_realize`, a reset, `SET_INTERFACE(1, ALTSET_OFF)` or a restore of
`ALTSET_OFF`), through any events that do not re-create it, as long as fewer than `2^32` bytes
have been taken in: every copy into or out of the storage stays inside it, and the bytes of the
OUT transfers the device acknowledged are the bytes it passed to `AUD_write`, in order, followed
by the bytes still buffered. -/
theorem playback_session_fifo (s : USBAudioState) (size : BitVec 32) (fresh : Nat → UInt8)
    (h0 : s.out.buf = streambufInit size fresh) (es : List Event)
    (hr : ∀ e ∈ es, ¬e.OutReinit) (hw : (playbackIoOf s es).1.length < 2 ^ 32) :
    (outRun s.out.buf (outOpsOf s es)).2.InBounds s.out.buf.size.toNat ∧
      (playbackIoOf s es).1 = (playbackIoOf s es).2 ++ (runEvents s es).out.buf.contents := by
  rw [playbackIoOf_eq es s hr] at hw ⊢
  rw [runEvents_out_buf es s hr]
  rw [h0] at hw ⊢
  have h := outRun_fifo _ _ (Aligned.init size fresh) (by simpa [streambufInit] using hw)
  exact ⟨h.bounds, by simpa using h.fifo⟩

/-- A playback session on a device realized with a two-packet buffer: playback on, two OUT
packets of silence, then `output_callback(192)`. -/
def playbackSession : List Event :=
  [.setInterface 1 altsetOn, .data silentOut, .data silentOut, .output usbaudioPacketSize]

set_option maxRecDepth 4000 in
theorem playback_session_fifo_realize :
    (usbAudioRealize 384 fun _ => 0).out.buf = streambufInit 384 (fun _ => 0) ∧
      (∀ e ∈ playbackSession, ¬e.OutReinit) ∧
      (playbackIoOf (usbAudioRealize 384 fun _ => 0) playbackSession).1.length < 2 ^ 32 ∧
      (outRun (usbAudioRealize 384 fun _ => 0).out.buf
          (outOpsOf (usbAudioRealize 384 fun _ => 0) playbackSession)).2.InBounds
        (usbAudioRealize 384 fun _ => 0).out.buf.size.toNat ∧
      (playbackIoOf (usbAudioRealize 384 fun _ => 0) playbackSession).1 =
        (playbackIoOf (usbAudioRealize 384 fun _ => 0) playbackSession).2 ++
          (runEvents (usbAudioRealize 384 fun _ => 0) playbackSession).out.buf.contents :=
  have h0 : (usbAudioRealize 384 fun _ => 0).out.buf = streambufInit 384 (fun _ => 0) := rfl
  have hr : ∀ e ∈ playbackSession, ¬e.OutReinit := by decide
  have hw : (playbackIoOf (usbAudioRealize 384 fun _ => 0) playbackSession).1.length < 2 ^ 32 := by
    decide
  ⟨h0, hr, hw, playback_session_fifo _ _ _ h0 _ hr hw⟩

/-- **The device records what the backend captured, in order, when the host reads whole
packets.** From any state whose capture buffer is fresh, through any events that do not
re-create it and in which every IN transfer on endpoint 1 asks for at least 192 bytes, as long as
fewer than `2^32` bytes have been taken in: every copy stays inside the storage, and the bytes
`input_callback` took from `AUD_read` are the bytes the IN transfers returned to the host, in
order, followed by the bytes still buffered. -/
theorem capture_session_fifo (s : USBAudioState) (size : BitVec 32) (fresh : Nat → UInt8)
    (h0 : s.in.buf = streambufInit size fresh) (es : List Event)
    (hr : ∀ e ∈ es, ¬e.InReinit) (hfull : ∀ e ∈ es, e.FullRead)
    (hw : (captureIoOf s es).1.length < 2 ^ 32) :
    (inRun s.in.buf (inOpsOf s es)).2.InBounds s.in.buf.size.toNat ∧
      (captureIoOf s es).1 = (captureIoOf s es).2 ++ (runEvents s es).in.buf.contents := by
  rw [captureIoOf_eq es s hr] at hw ⊢
  rw [runEvents_in_buf es s hr]
  have hops := inOpsOf_fullRead es hfull s
  rw [h0] at hw ⊢
  have h := inRun_fifo _ hops _ (Aligned.init size fresh) (by simpa [streambufInit] using hw)
  exact ⟨h.bounds, by simpa using h.fifo⟩

/-- A capture session on the realized device: capture on, `input_callback(385)` fills two
packets, and one IN transfer of a packet. -/
def captureSession : List Event :=
  [.setInterface 2 altsetOn, .input 385 (fun _ => zeroChunk),
    .data packetIn]

set_option maxRecDepth 4000 in
theorem capture_session_fifo_realize :
    (usbAudioRealize 0 fun _ => 0).in.buf =
        streambufInit (BitVec.ofNat 32 (64 * usbaudioPacketSize)) (fun _ => 0) ∧
      (∀ e ∈ captureSession, ¬e.InReinit) ∧ (∀ e ∈ captureSession, e.FullRead) ∧
      (captureIoOf (usbAudioRealize 0 fun _ => 0) captureSession).1.length < 2 ^ 32 ∧
      (inRun (usbAudioRealize 0 fun _ => 0).in.buf
          (inOpsOf (usbAudioRealize 0 fun _ => 0) captureSession)).2.InBounds
        (usbAudioRealize 0 fun _ => 0).in.buf.size.toNat ∧
      (captureIoOf (usbAudioRealize 0 fun _ => 0) captureSession).1 =
        (captureIoOf (usbAudioRealize 0 fun _ => 0) captureSession).2 ++
          (runEvents (usbAudioRealize 0 fun _ => 0) captureSession).in.buf.contents :=
  have h0 : (usbAudioRealize 0 fun _ => 0).in.buf =
      streambufInit (BitVec.ofNat 32 (64 * usbaudioPacketSize)) (fun _ => 0) := rfl
  have hr : ∀ e ∈ captureSession, ¬e.InReinit := by decide
  have hfull : ∀ e ∈ captureSession, e.FullRead := by decide
  have hw : (captureIoOf (usbAudioRealize 0 fun _ => 0) captureSession).1.length < 2 ^ 32 := by
    decide
  ⟨h0, hr, hfull, hw, capture_session_fifo _ _ _ h0 _ hr hfull hw⟩

end UsbAudio
