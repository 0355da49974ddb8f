import UsbAudio.Proof.Session

/-!
# The streams stay queues across re-creations

`Session` follows a buffer between two re-creations. Here the runs are unrestricted: a reset,
`SET_INTERFACE` with `ALTSET_OFF` or a restore of `ALTSET_OFF` re-creates the buffer, and the
bytes it held are gone (`Event.outFlush`, `Event.inFlush`: what `streambuf_init` discards). The
bytes a run takes out of a buffer are then those handed out and those discarded, in order
(`playbackOutOf`, `captureOutOf`), and the queue equation of `Ring` holds across the whole run.

* `Event.playback_flush_step`, `Event.capture_flush_step`: one event keeps the buffer aligned,
  copies inside the storage, and takes out of the queue what it hands out or discards.
* `playback_flush_run`, `capture_flush_run`: the same over every run, by induction.
* `playback_device_fifo`, `capture_device_fifo`: from a fresh buffer, through any events, every
  copy stays inside the storage, the bytes taken in are the bytes handed out and discarded
  followed by those still buffered, and so the audio handed out is a subsequence of the audio
  taken in: nothing is duplicated, reordered or invented, over resets and restores too.
* `playback_silent_before_reinit`: a device realized with less than a packet in `s->buffer` has
  a playback buffer of size 0, and moves no playback audio until it is re-created.
-/

namespace UsbAudio

open StreamBuf List

/-- The bytes an event discards from the playback buffer: all of them, if it re-creates it. -/
def Event.outFlush (s : USBAudioState) (e : Event) : List UInt8 :=
  if e.OutReinit then s.out.buf.contents else []

/-- The bytes an event discards from the capture buffer: all of them, if it re-creates it. -/
def Event.inFlush (s : USBAudioState) (e : Event) : List UInt8 :=
  if e.InReinit then s.in.buf.contents else []

/-- The bytes a run takes out of the playback buffer, in order: the packets `output_callback`
passes to `AUD_write`, and the bytes each re-creation of the buffer discards. -/
def playbackOutOf : USBAudioState → List Event → List UInt8
  | _, [] => []
  | s, e :: es => (e.playbackIo s).2 ++ e.outFlush s ++ playbackOutOf (e.apply s) es

/-- The bytes a run takes out of the capture buffer, in order: the bytes IN transfers return to
the host, and the bytes each re-creation of the buffer discards. -/
def captureOutOf : USBAudioState → List Event → List UInt8
  | _, [] => []
  | s, e :: es => (e.captureIo s).2 ++ e.inFlush s ++ captureOutOf (e.apply s) es

/-- `P` holds of every event of a run, in the state the event is applied to. -/
def EveryStep (P : USBAudioState → Event → Prop) : USBAudioState → List Event → Prop
  | _, [] => True
  | s, e :: es => P s e ∧ EveryStep P (e.apply s) es

/-- Every copy an event makes into or out of the playback storage lies inside it. -/
def Event.PlaybackInBounds (s : USBAudioState) (e : Event) : Prop :=
  (outRun s.out.buf (e.outOps s)).2.InBounds s.out.buf.size.toNat

/-- Every copy an event makes into or out of the capture storage lies inside it. -/
def Event.CaptureInBounds (s : USBAudioState) (e : Event) : Prop :=
  (inRun s.in.buf (e.inOps s)).2.InBounds s.in.buf.size.toNat

variable {s : USBAudioState}

theorem Event.outOps_of_outReinit {e : Event} (h : e.OutReinit) : e.outOps s = [] := by
  cases e <;> first | rfl | exact h.elim

theorem Event.inOps_of_inReinit {e : Event} (h : e.InReinit) : e.inOps s = [] := by
  cases e <;> first | rfl | exact h.elim

theorem Event.inOps_fullRead {e : Event} (h : e.FullRead) : ∀ op ∈ e.inOps s, op.FullRead := by
  intro op hop
  cases e with
  | data p =>
    simp only [Event.inOps] at hop
    split_ifs at hop with hc
    · rw [List.mem_singleton.1 hop]; exact h ⟨hc.1, hc.2.1⟩
    · cases hop
  | input avail pcm => rw [List.mem_singleton.1 hop]; trivial
  | _ => cases hop

/-! ## One event -/

/-- **One event on the playback buffer.** From an aligned buffer, below `2^32`: the buffer stays
aligned, `prod` grows by at most the bytes taken in, every copy stays inside the storage, and the
queue followed by the bytes taken in is the bytes handed out, then those discarded, then the
queue after. -/
theorem Event.playback_flush_step (e : Event) (h : s.out.buf.Aligned)
    (hw : s.out.buf.prod.toNat + (e.playbackIo s).1.length < 2 ^ 32) :
    (e.apply s).out.buf.Aligned ∧
      (e.apply s).out.buf.prod.toNat ≤ s.out.buf.prod.toNat + (e.playbackIo s).1.length ∧
      e.PlaybackInBounds s ∧
      s.out.buf.contents ++ (e.playbackIo s).1 =
        (e.playbackIo s).2 ++ e.outFlush s ++ (e.apply s).out.buf.contents := by
  rw [Event.playbackIo_eq] at hw ⊢
  rw [Event.out_buf_eq, Event.outFlush, Event.PlaybackInBounds]
  by_cases hr : e.OutReinit
  · rw [Event.outOps_of_outReinit hr, if_pos hr, if_pos hr]
    exact ⟨Aligned.init _ _, by simp [streambufInit], by simp [Trace.InBounds],
      by simp [Trace.accepted, Trace.delivered]⟩
  · have hs := outRun_fifo (e.outOps s) _ h hw
    simp only [if_neg hr, List.append_nil]
    exact ⟨hs.aligned, hs.prod_eq.le, hs.bounds, hs.fifo⟩

/-- **One event on the capture buffer**, when an IN transfer it makes asks for a whole packet. -/
theorem Event.capture_flush_step (e : Event) (hfull : e.FullRead) (h : s.in.buf.Aligned)
    (hw : s.in.buf.prod.toNat + (e.captureIo s).1.length < 2 ^ 32) :
    (e.apply s).in.buf.Aligned ∧
      (e.apply s).in.buf.prod.toNat ≤ s.in.buf.prod.toNat + (e.captureIo s).1.length ∧
      e.CaptureInBounds s ∧
      s.in.buf.contents ++ (e.captureIo s).1 =
        (e.captureIo s).2 ++ e.inFlush s ++ (e.apply s).in.buf.contents := by
  rw [Event.captureIo_eq] at hw ⊢
  rw [Event.in_buf_eq, Event.inFlush, Event.CaptureInBounds]
  by_cases hr : e.InReinit
  · rw [Event.inOps_of_inReinit hr, if_pos hr, if_pos hr]
    exact ⟨Aligned.init _ _, by simp [streambufInit], by simp [Trace.InBounds],
      by simp [Trace.accepted, Trace.delivered]⟩
  · have hs := inRun_fifo (e.inOps s) (Event.inOps_fullRead hfull) _ h hw
    simp only [if_neg hr, List.append_nil]
    exact ⟨hs.aligned, hs.prod_eq.le, hs.bounds, hs.fifo⟩

/-! ## Every run -/

/-- **Every run on the playback buffer**, from an aligned buffer, below `2^32`. -/
theorem playback_flush_run (es : List Event) : ∀ s : USBAudioState, s.out.buf.Aligned →
    s.out.buf.prod.toNat + (playbackIoOf s es).1.length < 2 ^ 32 →
    EveryStep Event.PlaybackInBounds s es ∧
      s.out.buf.contents ++ (playbackIoOf s es).1 =
        playbackOutOf s es ++ (runEvents s es).out.buf.contents := by
  induction es with
  | nil => intro s _ _; simp [EveryStep, playbackIoOf, playbackOutOf, runEvents]
  | cons e es ih =>
    intro s h hw
    simp only [playbackIoOf, List.length_append] at hw
    obtain ⟨ha, hp, hb, hf⟩ := e.playback_flush_step h (by omega)
    obtain ⟨hbs, hfs⟩ := ih (e.apply s) ha (by omega)
    refine ⟨⟨hb, hbs⟩, ?_⟩
    calc s.out.buf.contents ++ (playbackIoOf s (e :: es)).1
        = (s.out.buf.contents ++ (e.playbackIo s).1) ++ (playbackIoOf (e.apply s) es).1 := by
          simp [playbackIoOf]
      _ = (e.playbackIo s).2 ++ e.outFlush s ++
            ((e.apply s).out.buf.contents ++ (playbackIoOf (e.apply s) es).1) := by
          rw [hf, List.append_assoc]
      _ = playbackOutOf s (e :: es) ++ (runEvents s (e :: es)).out.buf.contents := by
          rw [hfs]; simp [playbackOutOf, runEvents_cons]

/-- **Every run on the capture buffer** in which each IN transfer asks for a whole packet, from
an aligned buffer, below `2^32`. -/
theorem capture_flush_run (es : List Event) (hfull : ∀ e ∈ es, e.FullRead) :
    ∀ s : USBAudioState, s.in.buf.Aligned →
    s.in.buf.prod.toNat + (captureIoOf s es).1.length < 2 ^ 32 →
    EveryStep Event.CaptureInBounds s es ∧
      s.in.buf.contents ++ (captureIoOf s es).1 =
        captureOutOf s es ++ (runEvents s es).in.buf.contents := by
  induction es with
  | nil => intro s _ _; simp [EveryStep, captureIoOf, captureOutOf, runEvents]
  | cons e es ih =>
    intro s h hw
    simp only [captureIoOf, List.length_append] at hw
    obtain ⟨ha, hp, hb, hf⟩ :=
      e.capture_flush_step (hfull e (List.mem_cons_self _ _)) h (by omega)
    obtain ⟨hbs, hfs⟩ :=
      ih (fun e' he' => hfull e' (List.mem_cons_of_mem _ he')) (e.apply s) ha (by omega)
    refine ⟨⟨hb, hbs⟩, ?_⟩
    calc s.in.buf.contents ++ (captureIoOf s (e :: es)).1
        = (s.in.buf.contents ++ (e.captureIo s).1) ++ (captureIoOf (e.apply s) es).1 := by
          simp [captureIoOf]
      _ = (e.captureIo s).2 ++ e.inFlush s ++
            ((e.apply s).in.buf.contents ++ (captureIoOf (e.apply s) es).1) := by
          rw [hf, List.append_assoc]
      _ = captureOutOf s (e :: es) ++ (runEvents s (e :: es)).in.buf.contents := by
          rw [hfs]; simp [captureOutOf, runEvents_cons]

/-- What a run hands out of the playback buffer is part of what it takes out. -/
theorem playbackIoOf_sublist (es : List Event) :
    ∀ s : USBAudioState, (playbackIoOf s es).2 <+ playbackOutOf s es := by
  induction es with
  | nil => intro s; exact List.Sublist.slnil
  | cons e es ih =>
    intro s
    rw [playbackIoOf, playbackOutOf, List.append_assoc]
    exact (List.sublist_append_of_sublist_right (ih _)).append_left _

/-- What a run hands out of the capture buffer is part of what it takes out. -/
theorem captureIoOf_sublist (es : List Event) :
    ∀ s : USBAudioState, (captureIoOf s es).2 <+ captureOutOf s es := by
  induction es with
  | nil => intro s; exact List.Sublist.slnil
  | cons e es ih =>
    intro s
    rw [captureIoOf, captureOutOf, List.append_assoc]
    exact (List.sublist_append_of_sublist_right (ih _)).append_left _

/-! ## The device -/

/-- **The device plays back what the host sent, in order, over every run.** From any state whose
playback buffer is fresh, through any events (resets, interface changes and restores included),
as long as fewer than `2^32` bytes have been taken in: every copy into or out of the playback
storage stays inside it; the bytes of the OUT transfers the device acknowledged are the bytes it
passed to `AUD_write` and the bytes each re-creation discarded, in order, followed by the bytes
still buffered; so what `AUD_write` received is a subsequence of what the host sent. -/
theorem playback_device_fifo (s : USBAudioState) (size : BitVec 32) (fresh : Nat → UInt8)
    (h0 : s.out.buf = streambufInit size fresh) (es : List Event)
    (hw : (playbackIoOf s es).1.length < 2 ^ 32) :
    EveryStep Event.PlaybackInBounds s es ∧
      (playbackIoOf s es).1 = playbackOutOf s es ++ (runEvents s es).out.buf.contents ∧
      (playbackIoOf s es).2 <+ (playbackIoOf s es).1 := by
  have h := playback_flush_run es s (h0 ▸ Aligned.init size fresh) (by simpa [h0, streambufInit] using hw)
  rw [h0, contents_init, List.nil_append] at h
  refine ⟨h.1, h.2, ?_⟩
  rw [h.2]
  exact (playbackIoOf_sublist es s).trans (List.sublist_append_left _ _)

/-- A playback session, then `SET_INTERFACE(1, ALTSET_OFF)` discarding the packet still
buffered. -/
def playbackFlushSession : List Event := playbackSession ++ [.setInterface 1 altsetOff]

set_option maxRecDepth 4000 in
theorem playback_device_fifo_realize :
    (usbAudioRealize 384 fun _ => 0).out.buf = streambufInit 384 (fun _ => 0) ∧
      (playbackIoOf (usbAudioRealize 384 fun _ => 0) playbackFlushSession).1.length < 2 ^ 32 ∧
      EveryStep Event.PlaybackInBounds (usbAudioRealize 384 fun _ => 0) playbackFlushSession ∧
      (playbackIoOf (usbAudioRealize 384 fun _ => 0) playbackFlushSession).1 =
        playbackOutOf (usbAudioRealize 384 fun _ => 0) playbackFlushSession ++
          (runEvents (usbAudioRealize 384 fun _ => 0) playbackFlushSession).out.buf.contents ∧
      (playbackIoOf (usbAudioRealize 384 fun _ => 0) playbackFlushSession).2 <+
        (playbackIoOf (usbAudioRealize 384 fun _ => 0) playbackFlushSession).1 :=
  have h0 : (usbAudioRealize 384 fun _ => 0).out.buf = streambufInit 384 (fun _ => 0) := rfl
  have hw : (playbackIoOf (usbAudioRealize 384 fun _ => 0) playbackFlushSession).1.length <
      2 ^ 32 := by decide
  ⟨h0, hw, playback_device_fifo _ _ _ h0 _ hw⟩

/-- **The device returns what the backend captured, in order, over every run in which the host
reads whole packets.** From any state whose capture buffer is fresh, through any events in which
every IN transfer on endpoint 1 asks for at least 192 bytes, as long as fewer than `2^32` bytes
have been taken in: every copy stays inside the capture storage; the bytes `input_callback` took
from `AUD_read` are the bytes IN transfers returned to the host and the bytes each re-creation
discarded, in order, followed by the bytes still buffered; so what the host received is a
subsequence of what was captured. -/
theorem capture_device_fifo (s : USBAudioState) (size : BitVec 32) (fresh : Nat → UInt8)
    (h0 : s.in.buf = streambufInit size fresh) (es : List Event)
    (hfull : ∀ e ∈ es, e.FullRead) (hw : (captureIoOf s es).1.length < 2 ^ 32) :
    EveryStep Event.CaptureInBounds s es ∧
      (captureIoOf s es).1 = captureOutOf s es ++ (runEvents s es).in.buf.contents ∧
      (captureIoOf s es).2 <+ (captureIoOf s es).1 := by
  have h := capture_flush_run es hfull s (h0 ▸ Aligned.init size fresh)
    (by simpa [h0, streambufInit] using hw)
  rw [h0, contents_init, List.nil_append] at h
  refine ⟨h.1, h.2, ?_⟩
  rw [h.2]
  exact (captureIoOf_sublist es s).trans (List.sublist_append_left _ _)

/-- A capture session, then a reset discarding the packet still buffered. -/
def captureFlushSession : List Event := captureSession ++ [.reset]

set_option maxRecDepth 4000 in
theorem capture_device_fifo_realize :
    (usbAudioRealize 0 fun _ => 0).in.buf =
        streambufInit (BitVec.ofNat 32 (64 * usbaudioPacketSize)) (fun _ => 0) ∧
      (∀ e ∈ captureFlushSession, e.FullRead) ∧
      (captureIoOf (usbAudioRealize 0 fun _ => 0) captureFlushSession).1.length < 2 ^ 32 ∧
      EveryStep Event.CaptureInBounds (usbAudioRealize 0 fun _ => 0) captureFlushSession ∧
      (captureIoOf (usbAudioRealize 0 fun _ => 0) captureFlushSession).1 =
        captureOutOf (usbAudioRealize 0 fun _ => 0) captureFlushSession ++
          (runEvents (usbAudioRealize 0 fun _ => 0) captureFlushSession).in.buf.contents ∧
      (captureIoOf (usbAudioRealize 0 fun _ => 0) captureFlushSession).2 <+
        (captureIoOf (usbAudioRealize 0 fun _ => 0) captureFlushSession).1 :=
  have h0 : (usbAudioRealize 0 fun _ => 0).in.buf =
      streambufInit (BitVec.ofNat 32 (64 * usbaudioPacketSize)) (fun _ => 0) := rfl
  have hfull : ∀ e ∈ captureFlushSession, e.FullRead := by decide
  have hw : (captureIoOf (usbAudioRealize 0 fun _ => 0) captureFlushSession).1.length <
      2 ^ 32 := by decide
  ⟨h0, hfull, hw, capture_device_fifo _ _ _ h0 _ hfull hw⟩

/-! ## Before the first re-creation

`usb_audio_realize` creates `out.buf` from `s->buffer` before it sets `s->buffer` to 64 packets,
so the playback buffer has the size the field had on entry, rounded down to whole packets: none,
when that was less than a packet (a zeroed device object has 0). Such a buffer refuses every put
(`free` is 0) and every get (`used` is 0), so until it is re-created the playback stream moves
nothing. -/

variable {buf : StreamBuf}

/-- On an empty buffer of size 0 every playback operation is refused and copies nothing. -/
theorem OutOp.step_size_zero (op : OutOp) (hs : buf.size = 0) (h0 : buf.used = 0) :
    op.step buf = (buf, ⟨[], []⟩) := by
  cases op with
  | dataout p =>
    have hf : buf.free = 0 := by simp [free, hs, h0]
    simp only [OutOp.step, streambufPut_full p hf, ↓reduceIte]
  | output avail =>
    have hu : buf.used.toNat = 0 := by rw [h0]; rfl
    simp only [OutOp.step]
    cases avail.toNat with
    | zero => rfl
    | succ k => rw [outputLoop_succ, if_pos (.inr (by rw [hu]; decide))]

theorem outRun_size_zero (ops : List OutOp) (hs : buf.size = 0) (h0 : buf.used = 0) :
    outRun buf ops = (buf, ⟨[], []⟩) := by
  induction ops with
  | nil => rfl
  | cons op ops ih => simp only [outRun, op.step_size_zero hs h0, ih]; rfl

/-- **Playback is dead until its buffer is re-created, when the device was realized with less
than a packet of buffer.** If `s->buffer` held less than 192 on entry to `usb_audio_realize`,
then through any events none of which re-creates the playback buffer (no reset, no
`SET_INTERFACE(1, ALTSET_OFF)`, no restore of playback `ALTSET_OFF`), no OUT transfer is
acknowledged with its 192 bytes, nothing reaches `AUD_write`, and the playback buffer is the one
`usb_audio_realize` created. -/
theorem playback_silent_before_reinit (buffer : BitVec 32) (fresh : Nat → UInt8)
    (hb : buffer.toNat < usbaudioPacketSize) (es : List Event) (hr : ∀ e ∈ es, ¬e.OutReinit) :
    playbackIoOf (usbAudioRealize buffer fresh) es = ([], []) ∧
      (runEvents (usbAudioRealize buffer fresh) es).out.buf = streambufInit buffer fresh := by
  have hs : (streambufInit buffer fresh).size = 0 := by
    apply BitVec.eq_of_toNat_eq
    rw [streambufInit_size, Nat.mod_eq_of_lt hb, Nat.sub_self]; rfl
  have hbuf : (usbAudioRealize buffer fresh).out.buf = streambufInit buffer fresh := rfl
  have h := outRun_size_zero (outOpsOf (usbAudioRealize buffer fresh) es) hs
    (streambufInit_used buffer fresh)
  rw [playbackIoOf_eq es _ hr, runEvents_out_buf es _ hr, hbuf, h]
  exact ⟨rfl, rfl⟩

/-- A device realized with `s->buffer` at 0, playback switched on, two OUT packets and
`output_callback(192)`: nothing is played. -/
theorem playback_silent_before_reinit_realize :
    (0 : BitVec 32).toNat < usbaudioPacketSize ∧ (∀ e ∈ playbackSession, ¬e.OutReinit) ∧
      playbackIoOf (usbAudioRealize 0 fun _ => 0) playbackSession = ([], []) ∧
      (runEvents (usbAudioRealize 0 fun _ => 0) playbackSession).out.buf =
        streambufInit 0 fun _ => 0 :=
  have hb : (0 : BitVec 32).toNat < usbaudioPacketSize := by decide
  have hr : ∀ e ∈ playbackSession, ¬e.OutReinit := by decide
  ⟨hb, hr, playback_silent_before_reinit 0 _ hb _ hr⟩

end UsbAudio
