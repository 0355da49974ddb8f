import UsbAudio.Proof.Misalign

/-!
# The stream buffer is a queue of bytes

What `streambuf` is for: the bytes buffered (`StreamBuf.contents`, read from the consumer offset
on, around the end of the storage) form a queue, a put or an allocation appends a packet to it,
and a get of a packet takes the first one. That holds while the buffer stays `Aligned`: whole
packets only, and neither cursor past `2^32`.

* `Aligned.push`, `Aligned.pop`: `streambuf_put` (and `streambuf_alloc` with the packet
  `AUD_read` fills) appends, `streambuf_get` of a packet pops, and each copies inside the
  storage.
* `StepOk`: what a stretch of a run keeps, closed under composition (`StepOk.trans`); each
  operation of either stream is a `StepOk` step (`OutOp.step_fifo`, `InOp.step_fifo`), and so is
  every run (`outRun_fifo`, `inRun_fifo`).
* `playback_fifo`, `capture_fifo`: on every run from `streambuf_init` below `2^32` bytes (and,
  for capture, with every IN transfer asking for at least a packet), every copy stays inside the
  storage and `accepted = delivered ++ contents`: the bytes taken in are the bytes handed out,
  in order, followed by the bytes still buffered.
-/

namespace UsbAudio

open StreamBuf

namespace StreamBuf

/-- The bytes buffered, in the order the consumer reads them: `used` bytes from the consumer
offset on, around the end of the storage. -/
def contents (buf : StreamBuf) : List UInt8 :=
  (List.range buf.used.toNat).map fun i => buf.data ((buf.cons.toNat + i) % buf.size.toNat)

@[simp] theorem length_contents (buf : StreamBuf) : buf.contents.length = buf.used.toNat := by
  simp [contents]

theorem getElem_contents (buf : StreamBuf) (i : Nat) (h : i < buf.contents.length) :
    buf.contents[i] = buf.data ((buf.cons.toNat + i) % buf.size.toNat) := by
  simp [contents]

/-- The invariant under which the buffer is a queue: the storage and both cursors sit on packet
boundaries, and `prod` has not wrapped past `cons`. -/
structure Aligned (buf : StreamBuf) : Prop where
  size_dvd : usbaudioPacketSize ∣ buf.size.toNat
  cons_dvd : usbaudioPacketSize ∣ buf.cons.toNat
  used_dvd : usbaudioPacketSize ∣ buf.used.toNat
  used_le : buf.used.toNat ≤ buf.size.toNat
  no_wrap : buf.cons.toNat + buf.used.toNat = buf.prod.toNat

theorem consOff_eq (buf : StreamBuf) : buf.consOff = buf.cons.toNat % buf.size.toNat := by
  simp [consOff, BitVec.toNat_umod]

theorem prodOff_eq (buf : StreamBuf) : buf.prodOff = buf.prod.toNat % buf.size.toNat := by
  simp [prodOff, BitVec.toNat_umod]

end StreamBuf

/-- Up to one wrap, an offset past `c` is a sum or a difference. -/
theorem add_mod_of_le {S i : Nat} (c : Nat) (hS : 0 < S) (hi : i ≤ S) :
    (c + i) % S = if c % S + i < S then c % S + i else c % S + i - S := by
  have hc := Nat.mod_lt c hS
  rw [← Nat.mod_add_mod]
  split_ifs with h
  · exact Nat.mod_eq_of_lt h
  · rw [Nat.mod_eq_sub_mod (by omega), Nat.mod_eq_of_lt (by omega)]

/-- Moving a cursor by a packet does not wrap while it stays below `2^32`. -/
theorem toNat_add_packet {x : BitVec 32} (h : x.toNat + usbaudioPacketSize < 2 ^ 32) :
    (x + BitVec.ofNat 32 usbaudioPacketSize).toNat = x.toNat + usbaudioPacketSize := by
  rw [BitVec.toNat_add, BitVec.toNat_ofNat, Nat.mod_eq_of_lt (by decide : usbaudioPacketSize < 2 ^ 32),
    Nat.mod_eq_of_lt h]

theorem Aligned.init (size : BitVec 32) (fresh : Nat → UInt8) : (streambufInit size fresh).Aligned where
  size_dvd := streambufInit_size size fresh ▸ Nat.dvd_sub_mod _
  cons_dvd := by simp [streambufInit]
  used_dvd := by simp
  used_le := by simp
  no_wrap := by rw [streambufInit_used]; rfl

@[simp] theorem contents_init (size : BitVec 32) (fresh : Nat → UInt8) :
    (streambufInit size fresh).contents = [] := by
  simp [contents]

namespace StreamBuf.Aligned

variable {buf : StreamBuf}

/-- **A put appends.** `streambuf_put` on an aligned buffer with room copies the packet inside
the storage, appends it to the contents, and keeps the buffer aligned, as long as `prod` does
not reach `2^32`. The same holds for `streambuf_alloc` followed by `AUD_read` filling the packet. -/
theorem push (h : buf.Aligned) (hf : buf.free ≠ 0)
    (hw : buf.prod.toNat + usbaudioPacketSize < 2 ^ 32) (bs : List UInt8)
    (hbs : bs.length = usbaudioPacketSize) :
    ({ buf with
        data := writeBytes buf.data buf.prodOff bs,
        prod := buf.prod + BitVec.ofNat 32 usbaudioPacketSize } : StreamBuf).Aligned ∧
      ({ buf with
        data := writeBytes buf.data buf.prodOff bs,
        prod := buf.prod + BitVec.ofNat 32 usbaudioPacketSize } : StreamBuf).contents =
        buf.contents ++ bs ∧
      buf.prodOff + usbaudioPacketSize ≤ buf.size.toNat := by
  obtain ⟨hsd, hcd, hud, hul, hnw⟩ := h
  have hfu : buf.used.toNat < buf.size.toNat := by
    have := free_toNat buf hul
    have : buf.free.toNat ≠ 0 := fun h0 => hf (BitVec.eq_of_toNat_eq h0)
    omega
  have hS : 0 < buf.size.toNat := by omega
  have hu' : ({ buf with
      data := writeBytes buf.data buf.prodOff bs,
      prod := buf.prod + BitVec.ofNat 32 usbaudioPacketSize } : StreamBuf).used.toNat =
      buf.used.toNat + usbaudioPacketSize :=
    used_advance_prod buf _ (by omega)
  have hp' := toNat_add_packet hw
  have hpo : buf.prodOff = (buf.cons.toNat + buf.used.toNat) % buf.size.toNat := by
    rw [prodOff_eq, hnw]
  have hod := (Nat.dvd_mod_iff hsd).2 (Nat.dvd_add hcd hud)
  have hol := Nat.mod_lt (buf.cons.toNat + buf.used.toNat) hS
  rw [usbaudioPacketSize_eq] at hsd hcd hud hod hu' hp' hbs ⊢
  have hwin : buf.prodOff + 192 ≤ buf.size.toNat := by rw [hpo]; omega
  refine ⟨⟨?_, hcd, ?_, ?_, ?_⟩, ?_, hwin⟩
  -- the size and `cons` are untouched; `used` grows by a packet, within the size, without a wrap
  · rw [usbaudioPacketSize_eq]; exact hsd
  · rw [hu', usbaudioPacketSize_eq]; omega
  · rw [hu']; show _ ≤ buf.size.toNat; omega
  · rw [hu']; show buf.cons.toNat + _ = (buf.prod + _).toNat; rw [hp']; omega
  -- the contents gain `bs` at their end
  · have hoc := (Nat.dvd_mod_iff hsd).2 hcd
    have hol' := Nat.mod_lt buf.cons.toNat hS
    refine List.ext_getElem (by simp only [length_contents, hu', List.length_append, hbs]) fun i h1 _ => ?_
    have hiS : i < buf.used.toNat + 192 := by simpa only [length_contents, hu'] using h1
    have e1 := add_mod_of_le buf.cons.toNat hS (i := i) (by omega)
    have e2 := add_mod_of_le buf.cons.toNat hS (i := buf.used.toNat) (by omega)
    rw [getElem_contents]
    show writeBytes buf.data buf.prodOff bs ((buf.cons.toNat + i) % buf.size.toNat) = _
    unfold writeBytes
    rw [hpo, hbs]
    by_cases hi : i < buf.used.toNat
    · -- an old byte lies outside the window just written
      have hout : ¬((buf.cons.toNat + buf.used.toNat) % buf.size.toNat ≤ (buf.cons.toNat + i) % buf.size.toNat ∧
          (buf.cons.toNat + i) % buf.size.toNat < (buf.cons.toNat + buf.used.toNat) % buf.size.toNat + 192) := by
        rw [e1, e2]; split_ifs <;> omega
      rw [List.getElem_append_left (by simpa using hi), getElem_contents, if_neg hout]
    · -- a new byte is byte `i - used` of the window
      have hin : (buf.cons.toNat + i) % buf.size.toNat =
          (buf.cons.toNat + buf.used.toNat) % buf.size.toNat + (i - buf.used.toNat) := by
        rw [e1, e2]; split_ifs <;> omega
      rw [List.getElem_append_right (by simpa using hi), hin, if_pos (by omega),
        List.getD_eq_getElem _ _ (by omega)]
      simp only [length_contents, Nat.add_sub_cancel_left]

/-- **A get of a packet pops.** `streambuf_get(192)` on an aligned buffer holding a packet reads
it from inside the storage, the bytes read are the first 192 of the contents, and the rest stay
in order. -/
theorem pop (h : buf.Aligned) (hu : usbaudioPacketSize ≤ buf.used.toNat) :
    ({ buf with cons := buf.cons + BitVec.ofNat 32 usbaudioPacketSize } : StreamBuf).Aligned ∧
      ({ buf with cons := buf.cons + BitVec.ofNat 32 usbaudioPacketSize } : StreamBuf).contents =
        buf.contents.drop usbaudioPacketSize ∧
      readBytes buf.data buf.consOff usbaudioPacketSize = buf.contents.take usbaudioPacketSize ∧
      buf.consOff + usbaudioPacketSize ≤ buf.size.toNat := by
  obtain ⟨hsd, hcd, hud, hul, hnw⟩ := h
  have hu' := used_advance_cons buf _ hu
  have hc' := toNat_add_packet (x := buf.cons) (by have := buf.prod.isLt; omega)
  have hS : 0 < buf.size.toNat := by simp only [usbaudioPacketSize_eq] at hu; omega
  have hoc := (Nat.dvd_mod_iff hsd).2 hcd
  have hol := Nat.mod_lt buf.cons.toNat hS
  rw [consOff_eq]
  rw [usbaudioPacketSize_eq] at hsd hcd hud hoc hu hu' hc' ⊢
  have hwin : buf.cons.toNat % buf.size.toNat + 192 ≤ buf.size.toNat := by omega
  refine ⟨⟨?_, ?_, ?_, ?_, ?_⟩, ?_, ?_, hwin⟩
  · rw [usbaudioPacketSize_eq]; exact hsd
  · show _ ∣ (buf.cons + _).toNat; rw [hc', usbaudioPacketSize_eq]; omega
  · rw [hu', usbaudioPacketSize_eq]; omega
  · rw [hu']; show _ ≤ buf.size.toNat; omega
  · rw [hu']; show (buf.cons + _).toNat + _ = buf.prod.toNat; rw [hc']; omega
  · refine List.ext_getElem (by simp only [length_contents, hu', List.length_drop]) fun i _ _ => ?_
    rw [getElem_contents, List.getElem_drop, getElem_contents]
    show buf.data (((buf.cons + BitVec.ofNat 32 192).toNat + i) % buf.size.toNat) = _
    rw [hc', Nat.add_assoc]
  · refine List.ext_getElem (by simp only [readBytes_length, List.length_take, length_contents]; omega)
      fun t h1 _ => ?_
    rw [readBytes_length] at h1
    rw [List.getElem_take, getElem_contents, add_mod_of_le _ hS (by omega), if_pos (by omega)]
    simp [readBytes]

end StreamBuf.Aligned

/-! ## Steps and runs -/

@[simp] theorem Trace.accepted_append (a b : Trace) : (a ++ b).accepted = a.accepted ++ b.accepted := by
  simp [Trace.accepted, Trace.fills_append]

@[simp] theorem Trace.delivered_append (a b : Trace) : (a ++ b).delivered = a.delivered ++ b.delivered := by
  simp [Trace.delivered, Trace.drains_append]

/-- What a stretch of a run keeps, from `buf` to `buf'` with trace `t`: the buffer stays aligned,
the bytes taken in come out in order (the queue before, followed by what was accepted, is what
was delivered followed by the queue after), every copy stays inside the storage, and `prod`
counts the bytes taken in. -/
structure StepOk (buf buf' : StreamBuf) (t : Trace) : Prop where
  aligned : buf'.Aligned
  fifo : buf.contents ++ t.accepted = t.delivered ++ buf'.contents
  bounds : t.InBounds buf.size.toNat
  size_eq : buf'.size = buf.size
  prod_eq : buf'.prod.toNat = buf.prod.toNat + t.accepted.length

namespace StepOk

variable {buf buf' buf'' : StreamBuf} {t t' : Trace}

theorem refl (h : buf.Aligned) : StepOk buf buf ⟨[], []⟩ where
  aligned := h
  fifo := by simp [Trace.accepted, Trace.delivered]
  bounds := by simp [Trace.InBounds]
  size_eq := rfl
  prod_eq := by simp [Trace.accepted]

theorem trans (h : StepOk buf buf' t) (h' : StepOk buf' buf'' t') : StepOk buf buf'' (t ++ t') where
  aligned := h'.aligned
  fifo := by
    calc buf.contents ++ (t ++ t').accepted
        = (buf.contents ++ t.accepted) ++ t'.accepted := by simp
      _ = t.delivered ++ (buf'.contents ++ t'.accepted) := by rw [h.fifo, List.append_assoc]
      _ = (t ++ t').delivered ++ buf''.contents := by simp [h'.fifo]
  bounds a ha := by
    simp only [Trace.fills_append, Trace.drains_append, List.mem_append] at ha
    have b := h.bounds a
    have b' := h'.bounds a
    simp only [h.size_eq, List.mem_append] at b b'
    rcases ha with (ha | ha) | ha | ha
    exacts [b (.inl ha), b' (.inl ha), b (.inr ha), b' (.inr ha)]
  size_eq := h'.size_eq.trans h.size_eq
  prod_eq := by simp only [h'.prod_eq, h.prod_eq, Trace.accepted_append, List.length_append]; omega

/-- A put of a packet, as a step. -/
theorem push (h : buf.Aligned) (hf : buf.free ≠ 0)
    (hw : buf.prod.toNat + usbaudioPacketSize < 2 ^ 32) (bs : List UInt8)
    (hbs : bs.length = usbaudioPacketSize) :
    StepOk buf
      { buf with data := writeBytes buf.data buf.prodOff bs,
                 prod := buf.prod + BitVec.ofNat 32 usbaudioPacketSize }
      ⟨[(buf.prodOff, bs)], []⟩ := by
  obtain ⟨ha, hc, hb⟩ := h.push hf hw bs hbs
  refine ⟨ha, ?_, by simpa [Trace.InBounds, hbs] using hb, rfl,
    by simpa [Trace.accepted, hbs] using toNat_add_packet hw⟩
  simp only [Trace.accepted, Trace.delivered, hc, List.map_nil, List.map_cons, List.flatten_nil,
    List.flatten_cons, List.append_nil, List.nil_append]

/-- A get of a packet, as a step. -/
theorem pop (h : buf.Aligned) (hu : usbaudioPacketSize ≤ buf.used.toNat) :
    StepOk buf { buf with cons := buf.cons + BitVec.ofNat 32 usbaudioPacketSize }
      ⟨[], [(buf.consOff, readBytes buf.data buf.consOff usbaudioPacketSize)]⟩ := by
  obtain ⟨ha, hc, hr, hb⟩ := h.pop hu
  refine ⟨ha, ?_, by simpa [Trace.InBounds] using hb, rfl, by simp [Trace.accepted]⟩
  simp only [Trace.accepted, Trace.delivered, hc, hr, List.map_nil, List.map_cons, List.flatten_nil,
    List.flatten_cons, List.append_nil, List.take_append_drop]

end StepOk

/-- **`output_callback`'s loop pops packets in order.** -/
theorem outputLoop_fifo (fuel : Nat) : ∀ (buf : StreamBuf) (avail : Int), buf.Aligned →
    StepOk buf (outputLoop fuel buf avail).1 ⟨[], (outputLoop fuel buf avail).2⟩ := by
  induction fuel with
  | zero => intro buf avail h; exact StepOk.refl h
  | succ n ih =>
    intro buf avail h
    rw [outputLoop_succ]
    split_ifs with hs
    · exact StepOk.refl h
    · have hu : usbaudioPacketSize ≤ buf.used.toNat := by omega
      exact (StepOk.pop h hu).trans (ih _ _ (h.pop hu).1)

/-- **`input_callback`'s loop pushes the packets `AUD_read` fills, in order**, while `prod` stays
below `2^32`. -/
theorem inputLoop_fifo (fuel : Nat) : ∀ (buf : StreamBuf) (avail : Int) (pcm : Nat → Chunk),
    buf.Aligned →
    buf.prod.toNat + (⟨(inputLoop fuel buf avail pcm).2, []⟩ : Trace).accepted.length < 2 ^ 32 →
    StepOk buf (inputLoop fuel buf avail pcm).1 ⟨(inputLoop fuel buf avail pcm).2, []⟩ := by
  induction fuel with
  | zero => intro buf avail pcm h _; exact StepOk.refl h
  | succ n ih =>
    intro buf avail pcm h hw
    rw [inputLoop_succ] at hw ⊢
    split_ifs at hw ⊢ with hs
    · exact StepOk.refl h
    · have hf : buf.free ≠ 0 := fun h0 => hs (.inr (by rw [h0]; decide))
      simp only [Trace.accepted, List.map_cons, List.flatten_cons, List.length_append,
        (pcm 0).length_eq] at hw
      have hw1 : buf.prod.toNat + usbaudioPacketSize < 2 ^ 32 := by omega
      refine (StepOk.push h hf hw1 _ (pcm 0).length_eq).trans (ih _ _ _ (h.push hf hw1 _ (pcm 0).length_eq).1 ?_)
      simp only [Trace.accepted, toNat_add_packet hw1]
      omega

/-- An IN transfer that asks for at least a packet, so that `usb_audio_handle_datain` gets all
192 bytes. -/
def InOp.FullRead : InOp → Prop
  | .input _ _ => True
  | .datain size => usbaudioPacketSize ≤ size

instance : DecidablePred InOp.FullRead
  | .input _ _ => inferInstanceAs (Decidable True)
  | .datain size => inferInstanceAs (Decidable (usbaudioPacketSize ≤ size))

variable {buf : StreamBuf}

theorem OutOp.step_fifo (op : OutOp) (h : buf.Aligned)
    (hw : buf.prod.toNat + (op.step buf).2.accepted.length < 2 ^ 32) :
    StepOk buf (op.step buf).1 (op.step buf).2 := by
  cases op with
  | dataout p =>
    by_cases hf : buf.free = 0
    · simp only [OutOp.step, streambufPut_full p hf, if_pos rfl]
      exact StepOk.refl h
    · simp only [OutOp.step, streambufPut_copy p hf, if_neg (by decide : usbaudioPacketSize ≠ 0)] at hw ⊢
      simp only [Trace.accepted, List.map_cons, List.map_nil, List.flatten_cons, List.flatten_nil,
        List.append_nil, p.length_eq] at hw
      exact StepOk.push h hf hw _ p.length_eq
  | output avail => exact outputLoop_fifo _ _ _ h

theorem InOp.step_fifo (op : InOp) (hop : op.FullRead) (h : buf.Aligned)
    (hw : buf.prod.toNat + (op.step buf).2.accepted.length < 2 ^ 32) :
    StepOk buf (op.step buf).1 (op.step buf).2 := by
  cases op with
  | input avail pcm => exact inputLoop_fifo _ _ _ _ h hw
  | datain size =>
    by_cases hu : usbaudioPacketSize ≤ buf.used.toNat
    · simp only [InOp.step, datainGet_packet hop hu]
      exact StepOk.pop h hu
    · have hn : datainGet buf size = none := by
        simp only [datainGet, Nat.min_eq_left hop]
        rw [streambufGet_of_pos (by decide), if_pos (by omega)]
        rfl
      simp only [InOp.step, hn]
      exact StepOk.refl h

theorem outRun_fifo (ops : List OutOp) : ∀ buf : StreamBuf, buf.Aligned →
    buf.prod.toNat + (outRun buf ops).2.accepted.length < 2 ^ 32 →
    StepOk buf (outRun buf ops).1 (outRun buf ops).2 := by
  induction ops with
  | nil => intro buf h _; exact StepOk.refl h
  | cons op ops ih =>
    intro buf h hw
    simp only [outRun, Trace.accepted_append, List.length_append] at hw ⊢
    have h1 := op.step_fifo h (by omega)
    exact h1.trans (ih _ h1.aligned (by rw [h1.prod_eq]; omega))

theorem inRun_fifo (ops : List InOp) (hops : ∀ op ∈ ops, op.FullRead) : ∀ buf : StreamBuf,
    buf.Aligned → buf.prod.toNat + (inRun buf ops).2.accepted.length < 2 ^ 32 →
    StepOk buf (inRun buf ops).1 (inRun buf ops).2 := by
  induction ops with
  | nil => intro buf h _; exact StepOk.refl h
  | cons op ops ih =>
    intro buf h hw
    simp only [inRun, Trace.accepted_append, List.length_append] at hw ⊢
    have h1 := op.step_fifo (hops op (List.mem_cons_self _ _)) h (by omega)
    exact h1.trans (ih (fun o ho => hops o (List.mem_cons_of_mem _ ho)) _ h1.aligned
      (by rw [h1.prod_eq]; omega))

/-! ## The two streams are queues -/

/-- **The playback stream is a queue.** On every run of OUT packets and `output_callback` calls
from `streambuf_init`, as long as fewer than `2^32` bytes have been put, every copy stays inside
the storage and the bytes `AUD_write` received are the bytes the host sent, in order, with the
bytes still buffered after them. -/
theorem playback_fifo (size : BitVec 32) (fresh : Nat → UInt8) (ops : List OutOp)
    (hw : (outRun (streambufInit size fresh) ops).2.accepted.length < 2 ^ 32) :
    (outRun (streambufInit size fresh) ops).2.InBounds (streambufInit size fresh).size.toNat ∧
      (outRun (streambufInit size fresh) ops).2.accepted =
        (outRun (streambufInit size fresh) ops).2.delivered ++
          (outRun (streambufInit size fresh) ops).1.contents := by
  have h := outRun_fifo ops _ (Aligned.init size fresh) (by simpa [streambufInit] using hw)
  exact ⟨h.bounds, by simpa using h.fifo⟩

set_option maxRecDepth 4000 in
/-- Two OUT packets and `output_callback(192)` on a two-packet buffer: the first packet reaches
`AUD_write`, the second stays buffered. -/
theorem playback_fifo_realize :
    (outRun (streambufInit 384 fun _ => 0) [.dataout zeroChunk, .dataout zeroChunk,
        .output usbaudioPacketSize]).2.accepted.length < 2 ^ 32 ∧
      (outRun (streambufInit 384 fun _ => 0) [.dataout zeroChunk, .dataout zeroChunk,
        .output usbaudioPacketSize]).2.InBounds (streambufInit 384 fun _ => 0).size.toNat ∧
      (outRun (streambufInit 384 fun _ => 0) [.dataout zeroChunk, .dataout zeroChunk,
        .output usbaudioPacketSize]).2.accepted =
        (outRun (streambufInit 384 fun _ => 0) [.dataout zeroChunk, .dataout zeroChunk,
          .output usbaudioPacketSize]).2.delivered ++
          (outRun (streambufInit 384 fun _ => 0) [.dataout zeroChunk, .dataout zeroChunk,
            .output usbaudioPacketSize]).1.contents :=
  have hw : (outRun (streambufInit 384 fun _ => 0) [.dataout zeroChunk, .dataout zeroChunk,
      .output usbaudioPacketSize]).2.accepted.length < 2 ^ 32 := by decide
  ⟨hw, playback_fifo _ _ _ hw⟩

/-- **The capture stream is a queue when the host reads whole packets.** On every run of
`input_callback` calls and IN transfers of at least 192 bytes from `streambuf_init`, as long as
fewer than `2^32` bytes have been allocated, every copy stays inside the storage and the bytes
the host received are the bytes `AUD_read` delivered, in order, with the bytes still buffered
after them. -/
theorem capture_fifo (size : BitVec 32) (fresh : Nat → UInt8) (ops : List InOp)
    (hops : ∀ op ∈ ops, op.FullRead)
    (hw : (inRun (streambufInit size fresh) ops).2.accepted.length < 2 ^ 32) :
    (inRun (streambufInit size fresh) ops).2.InBounds (streambufInit size fresh).size.toNat ∧
      (inRun (streambufInit size fresh) ops).2.accepted =
        (inRun (streambufInit size fresh) ops).2.delivered ++
          (inRun (streambufInit size fresh) ops).1.contents := by
  have h := inRun_fifo ops hops _ (Aligned.init size fresh) (by simpa [streambufInit] using hw)
  exact ⟨h.bounds, by simpa using h.fifo⟩

set_option maxRecDepth 4000 in
/-- `input_callback(385)` fills both packets of a two-packet buffer, and one full IN transfer
takes the first. -/
theorem capture_fifo_realize :
    (∀ op ∈ [.input 385 (fun _ => zeroChunk), .datain usbaudioPacketSize], InOp.FullRead op) ∧
      (inRun (streambufInit 384 fun _ => 0) [.input 385 (fun _ => zeroChunk),
        .datain usbaudioPacketSize]).2.accepted.length < 2 ^ 32 ∧
      (inRun (streambufInit 384 fun _ => 0) [.input 385 (fun _ => zeroChunk),
        .datain usbaudioPacketSize]).2.InBounds (streambufInit 384 fun _ => 0).size.toNat ∧
      (inRun (streambufInit 384 fun _ => 0) [.input 385 (fun _ => zeroChunk),
        .datain usbaudioPacketSize]).2.accepted =
        (inRun (streambufInit 384 fun _ => 0) [.input 385 (fun _ => zeroChunk),
          .datain usbaudioPacketSize]).2.delivered ++
          (inRun (streambufInit 384 fun _ => 0) [.input 385 (fun _ => zeroChunk),
            .datain usbaudioPacketSize]).1.contents :=
  have hops : ∀ op ∈ [.input 385 (fun _ => zeroChunk), .datain usbaudioPacketSize],
      InOp.FullRead op := by decide
  have hw : (inRun (streambufInit 384 fun _ => 0) [.input 385 (fun _ => zeroChunk),
      .datain usbaudioPacketSize]).2.accepted.length < 2 ^ 32 := by decide
  ⟨hops, hw, capture_fifo _ _ _ hops hw⟩

end UsbAudio
