import UsbAudio.Proof.Callback

/-!
# Runs of one stream

A run of `outRun` or `inRun` splits at any point, a step that copies nothing changes nothing,
and the two runs the faults are built from have a closed form.

* `outRun_append`, `inRun_append`: the run of `ops ++ ops'` is the run of `ops`, then the run
  of `ops'` from where it stopped.
* `refused_step_unchanged`: a step that copies no byte leaves the cursors and the storage as
  they were.
* `inRun_datain_replicate`: `n` full IN transfers read `n` packets at successive offsets.
* `outRun_pairs`: from an empty buffer, `n` rounds of an OUT packet and `output_callback(192)`
  move both cursors by `192 * n`.
-/

namespace UsbAudio

open StreamBuf

variable {buf : StreamBuf}

@[simp] theorem Trace.fills_append (a b : Trace) : (a ++ b).fills = a.fills ++ b.fills := rfl

@[simp] theorem Trace.drains_append (a b : Trace) : (a ++ b).drains = a.drains ++ b.drains := rfl

theorem Trace.append_assoc (a b c : Trace) : a ++ b ++ c = a ++ (b ++ c) := by
  show Trace.mk _ _ = Trace.mk _ _
  simp only [Trace.fills_append, Trace.drains_append, List.append_assoc]

theorem outRun_append (buf : StreamBuf) (ops ops' : List OutOp) :
    outRun buf (ops ++ ops') =
      ((outRun (outRun buf ops).1 ops').1, (outRun buf ops).2 ++ (outRun (outRun buf ops).1 ops').2) := by
  induction ops generalizing buf with
  | nil => rfl
  | cons op ops ih => simp only [List.cons_append, outRun, List.append_eq, ih, Trace.append_assoc]

theorem inRun_append (buf : StreamBuf) (ops ops' : List InOp) :
    inRun buf (ops ++ ops') =
      ((inRun (inRun buf ops).1 ops').1, (inRun buf ops).2 ++ (inRun (inRun buf ops).1 ops').2) := by
  induction ops generalizing buf with
  | nil => rfl
  | cons op ops ih => simp only [List.cons_append, inRun, List.append_eq, ih, Trace.append_assoc]

/-! ## Refused steps -/

theorem outputLoop_eq_self_of_nil {fuel : Nat} {avail : Int}
    (h : (outputLoop fuel buf avail).2 = []) : (outputLoop fuel buf avail).1 = buf := by
  cases fuel with
  | zero => rfl
  | succ k =>
    rw [outputLoop_succ] at h ⊢
    split_ifs at h ⊢
    rfl

theorem inputLoop_eq_self_of_nil {fuel : Nat} {avail : Int} {pcm : Nat → Chunk}
    (h : (inputLoop fuel buf avail pcm).2 = []) : (inputLoop fuel buf avail pcm).1 = buf := by
  cases fuel with
  | zero => rfl
  | succ k =>
    rw [inputLoop_succ] at h ⊢
    split_ifs at h ⊢
    rfl

/-- On either stream, a step that copies no byte into or out of the storage (a put or an alloc
with no room, a get with fewer bytes buffered than asked, a callback that moves no packet) leaves
the cursors and the stored bytes as they were. -/
theorem refused_step_unchanged :
    (∀ (op : OutOp) (buf : StreamBuf), (op.step buf).2 = ⟨[], []⟩ → (op.step buf).1 = buf) ∧
      (∀ (op : InOp) (buf : StreamBuf), (op.step buf).2 = ⟨[], []⟩ → (op.step buf).1 = buf) := by
  constructor
  · rintro (p | avail) buf h
    · by_cases hf : buf.free = 0
      · simp only [OutOp.step, streambufPut_full p hf]
      · simp [OutOp.step, streambufPut_copy p hf] at h
    · exact outputLoop_eq_self_of_nil (Trace.mk.inj h).2
  · rintro (avail | size) buf h
    · exact inputLoop_eq_self_of_nil (Trace.mk.inj h).1
    · simp only [InOp.step] at h ⊢
      split at h
      · rfl
      · simp at h

/-! ## Closed forms -/

theorem datainGet_packet {n : Nat} (hn : usbaudioPacketSize ≤ n)
    (h : usbaudioPacketSize ≤ buf.used.toNat) :
    datainGet buf n = some ({ buf with cons := buf.cons + BitVec.ofNat 32 usbaudioPacketSize },
      buf.consOff, readBytes buf.data buf.consOff usbaudioPacketSize) := by
  simp only [datainGet, Nat.min_eq_left hn]
  rw [streambufGet_of_pos (by decide), if_neg (by omega)]
  rfl

/-- `n` full IN transfers, with at least `n` packets buffered, read `n` packets at the offsets
of `cons`, `cons + 192`, … -/
theorem inRun_datain_replicate (n : Nat) : ∀ buf : StreamBuf,
    usbaudioPacketSize * n ≤ buf.used.toNat →
    (inRun buf (List.replicate n (.datain usbaudioPacketSize))).2 =
      ⟨[], (List.range n).map fun i =>
        (({ buf with cons := buf.cons + BitVec.ofNat 32 (usbaudioPacketSize * i) } : StreamBuf).consOff,
          readBytes buf.data
            ({ buf with cons := buf.cons + BitVec.ofNat 32 (usbaudioPacketSize * i) } : StreamBuf).consOff
            usbaudioPacketSize)⟩ := by
  induction n with
  | zero => intro buf _; rfl
  | succ n ih =>
    intro buf h
    have h1 : usbaudioPacketSize ≤ buf.used.toNat := by simp only [usbaudioPacketSize_eq] at *; omega
    have hu := used_advance_cons buf usbaudioPacketSize h1
    have hstep : ∀ i, buf.cons + BitVec.ofNat 32 usbaudioPacketSize +
        BitVec.ofNat 32 (usbaudioPacketSize * i) = buf.cons + BitVec.ofNat 32 (usbaudioPacketSize * (i + 1)) := by
      intro i
      rw [BitVec.add_assoc, BitVec.ofNat_add_ofNat, Nat.mul_succ, Nat.add_comm (_ * i)]
    rw [List.replicate_succ, inRun, InOp.step, datainGet_packet le_rfl h1]
    dsimp only
    rw [ih _ (by simp only [usbaudioPacketSize_eq] at *; omega), List.range_succ_eq_map]
    show Trace.mk _ _ = Trace.mk _ _
    simp only [List.nil_append, List.singleton_append, List.map_cons, List.map_map,
      Function.comp_def, hstep, Nat.mul_zero, BitVec.ofNat_eq_ofNat, BitVec.add_zero]

/-- One round of an OUT packet and `output_callback(192)` on an empty buffer: the packet goes in
and comes straight out. -/
theorem outRun_pair (p : Chunk) (h0 : buf.used = 0) (hs : usbaudioPacketSize ≤ buf.size.toNat) :
    (outRun buf [.dataout p, .output usbaudioPacketSize]).1 =
      { buf with data := writeBytes buf.data buf.prodOff p.bytes,
                 prod := buf.prod + BitVec.ofNat 32 usbaudioPacketSize,
                 cons := buf.cons + BitVec.ofNat 32 usbaudioPacketSize } := by
  have hu : buf.used.toNat = 0 := by rw [h0]; rfl
  have hf : buf.free ≠ 0 := by
    intro h
    have := free_toNat buf (by omega)
    rw [h, hu] at this
    simp only [usbaudioPacketSize_eq] at hs
    simp at this; omega
  simp only [outRun, OutOp.step, streambufPut_copy p hf]
  rw [show ((usbaudioPacketSize : Int)).toNat = 191 + 1 from rfl, outputLoop_succ,
    if_neg (by simp only [used, usbaudioPacketSize_eq] at h0 ⊢; bv_omega), outputLoop_succ,
    if_pos (Or.inl (by decide))]

/-- `n` rounds of an OUT packet and `output_callback(192)` from an empty buffer: both cursors move
by `192 * n` (modulo `2^32`), and the buffer is empty again. -/
theorem outRun_pairs (p : Chunk) (n : Nat) : ∀ buf : StreamBuf, buf.used = 0 →
    usbaudioPacketSize ≤ buf.size.toNat →
    (outRun buf ((List.replicate n [.dataout p, .output usbaudioPacketSize]).flatten)).1.prod =
        buf.prod + BitVec.ofNat 32 (usbaudioPacketSize * n) ∧
      (outRun buf ((List.replicate n [.dataout p, .output usbaudioPacketSize]).flatten)).1.used = 0 ∧
      (outRun buf ((List.replicate n [.dataout p, .output usbaudioPacketSize]).flatten)).1.size =
        buf.size := by
  induction n with
  | zero => intro buf h0 _; exact ⟨by simp [outRun], h0, rfl⟩
  | succ n ih =>
    intro buf h0 hs
    rw [List.replicate_succ, List.flatten_cons, outRun_append, outRun_pair p h0 hs]
    have h0' : ({ buf with
        data := writeBytes buf.data buf.prodOff p.bytes,
        prod := buf.prod + BitVec.ofNat 32 usbaudioPacketSize,
        cons := buf.cons + BitVec.ofNat 32 usbaudioPacketSize } : StreamBuf).used = 0 := by
      simp only [used] at h0 ⊢
      bv_omega
    obtain ⟨h1, h2, h3⟩ := ih _ h0' hs
    refine ⟨?_, h2, h3⟩
    rw [h1, BitVec.add_assoc, BitVec.ofNat_add_ofNat, Nat.mul_succ, Nat.add_comm (_ * n)]

end UsbAudio
