import UsbAudio.Proof.Run

/-!
# Where the cursors lose their alignment

The bounds of `streambuf_get` and `streambuf_alloc`, and the order of the bytes, rest on both
cursors staying multiples of 192 modulo the storage size. Two things break that.

* A capture IN transfer shorter than a packet: `usb_audio_handle_datain` asks for
  `MIN(USBAUDIO_PACKET_SIZE, iov->size)` bytes, so `cons` moves by less than 192. Every later full
  read is off by the difference, and the one that reaches the end of the storage reads past it
  (`capture_short_read_overruns`) and hands the host bytes no producer wrote
  (`capture_short_read_breaks_fifo`).
* The `uint32_t` cursors wrap at `2^32`, which is not a multiple of 192: after 22369622 packets
  the playback producer writes 128 bytes past a packet boundary, and 63 packets later past the
  end of the storage (`playback_wrap_overruns`).
-/

namespace UsbAudio

open StreamBuf

/-! ## A short capture read -/

/-- A packet of silence. -/
def zeroChunk : Chunk := ⟨List.replicate usbaudioPacketSize 0, List.length_replicate _ _⟩

/-- The capture run: `input_callback(12289)` fills the empty 64-packet buffer, a 1-byte IN
transfer, a full one, `input_callback(193)` refills one packet, then 63 full IN transfers. -/
def shortReadOps (pcm : Nat → Chunk) : List InOp :=
  [.input 12289 pcm, .datain 1, .datain usbaudioPacketSize, .input 193 pcm] ++
    List.replicate 63 (.datain usbaudioPacketSize)

/-- Every byte a capture run copies into the storage is one of a packet `AUD_read` delivered. -/
theorem inputLoop_fill_bytes (fuel : Nat) : ∀ (buf : StreamBuf) (avail : Int) (pcm : Nat → Chunk),
    ∀ a ∈ (inputLoop fuel buf avail pcm).2, ∃ k, a.2 = (pcm k).bytes := by
  induction fuel with
  | zero => intro buf avail pcm a ha; simp [inputLoop] at ha
  | succ n ih =>
    intro buf avail pcm a ha
    rw [inputLoop_succ] at ha
    split_ifs at ha
    · simp at ha
    · rcases List.mem_cons.1 ha with rfl | ha
      · exact ⟨0, rfl⟩
      · obtain ⟨k, hk⟩ := ih _ _ _ a ha
        exact ⟨k + 1, hk⟩

theorem inRun_fill_bytes (ops : List InOp) : ∀ (buf : StreamBuf), ∀ a ∈ (inRun buf ops).2.fills,
    ∃ avail pcm k, InOp.input avail pcm ∈ ops ∧ a.2 = (pcm k).bytes := by
  induction ops with
  | nil => intro buf a ha; simp [inRun] at ha
  | cons op ops ih =>
    intro buf a ha
    simp only [inRun, Trace.fills_append, List.mem_append] at ha
    rcases ha with ha | ha
    · cases op with
      | input avail pcm =>
        obtain ⟨k, hk⟩ := inputLoop_fill_bytes _ _ _ _ a ha
        exact ⟨avail, pcm, k, List.mem_cons_self _ _, hk⟩
      | datain size =>
        simp only [InOp.step] at ha
        split at ha <;> simp at ha
    · obtain ⟨avail, pcm, k, hm, hk⟩ := ih _ a ha
      exact ⟨avail, pcm, k, List.mem_cons_of_mem _ hm, hk⟩

/-- The cursors after the first four steps: the consumer is one byte past a packet boundary. -/
theorem shortRead_prefix :
    (inRun (streambufInit 12288 fun _ => 1)
        [.input 12289 (fun _ => zeroChunk), .datain 1, .datain usbaudioPacketSize,
          .input 193 (fun _ => zeroChunk)]).1.cons = 193 ∧
      (inRun (streambufInit 12288 fun _ => 1)
        [.input 12289 (fun _ => zeroChunk), .datain 1, .datain usbaudioPacketSize,
          .input 193 (fun _ => zeroChunk)]).1.size = 12288 ∧
      (inRun (streambufInit 12288 fun _ => 1)
        [.input 12289 (fun _ => zeroChunk), .datain 1, .datain usbaudioPacketSize,
          .input 193 (fun _ => zeroChunk)]).1.used.toNat = 12287 := by
  decide

set_option maxRecDepth 8000 in
/-- The byte just past the storage is still what the allocation left there. -/
theorem shortRead_prefix_data :
    (inRun (streambufInit 12288 fun _ => 1)
        [.input 12289 (fun _ => zeroChunk), .datain 1, .datain usbaudioPacketSize,
          .input 193 (fun _ => zeroChunk)]).1.data 12288 = 1 := by
  decide

/-- The last of the 63 full reads starts at offset 12097 and reads the byte at 12288. -/
theorem shortRead_last_drain :
    (12097, readBytes (inRun (streambufInit 12288 fun _ => 1)
        [.input 12289 (fun _ => zeroChunk), .datain 1, .datain usbaudioPacketSize,
          .input 193 (fun _ => zeroChunk)]).1.data 12097 usbaudioPacketSize) ∈
      (inRun (streambufInit 12288 fun _ => 1) (shortReadOps fun _ => zeroChunk)).2.drains := by
  obtain ⟨hc, hs, hu⟩ := shortRead_prefix
  rw [shortReadOps, inRun_append, inRun_datain_replicate 63 _ (by rw [hu]; decide)]
  refine List.mem_append_right _ (List.mem_map.2 ⟨62, List.mem_range.2 (by decide), ?_⟩)
  simp only [consOff, hc, hs]
  rfl

/-- **A short IN transfer makes a later read cross the end of the storage.** On the device's
64-packet capture buffer, the run `shortReadOps` gets 192 bytes at offset 12097, past the 12288
bytes of storage. -/
theorem capture_short_read_overruns :
    ¬(inRun (streambufInit 12288 fun _ => 1) (shortReadOps fun _ => zeroChunk)).2.InBounds 12288 :=
  fun h => absurd (h _ (List.mem_append_right _ shortRead_last_drain)) (by simp)

/-- **A short IN transfer breaks the order of the capture stream.** Every packet `AUD_read`
delivers in `shortReadOps` is silence, but the host receives the byte past the storage, which no
producer wrote. -/
theorem capture_short_read_breaks_fifo :
    ¬((inRun (streambufInit 12288 fun _ => 1) (shortReadOps fun _ => zeroChunk)).2.delivered <+:
      (inRun (streambufInit 12288 fun _ => 1) (shortReadOps fun _ => zeroChunk)).2.accepted) := by
  intro hp
  have hd : (1 : UInt8) ∈
      (inRun (streambufInit 12288 fun _ => 1) (shortReadOps fun _ => zeroChunk)).2.delivered := by
    refine List.mem_flatten.2 ⟨_, List.mem_map.2 ⟨_, shortRead_last_drain, rfl⟩, ?_⟩
    refine List.mem_map.2 ⟨191, List.mem_range.2 (by decide), ?_⟩
    exact shortRead_prefix_data
  obtain ⟨_, hl, hx⟩ := List.mem_flatten.1 (hp.subset hd)
  obtain ⟨a, ha, rfl⟩ := List.mem_map.1 hl
  obtain ⟨avail, pcm, k, hm, hk⟩ := inRun_fill_bytes _ _ a ha
  have hpcm : pcm = fun _ => zeroChunk := by
    simp only [shortReadOps, List.mem_append, List.mem_cons, InOp.input.injEq, reduceCtorEq,
      List.mem_replicate, List.not_mem_nil, and_false, false_and, or_false, false_or] at hm
    rcases hm with ⟨-, h⟩ | ⟨-, h⟩ <;> exact h
  subst hpcm
  rw [hk] at hx
  exact absurd (List.eq_of_mem_replicate hx) (by decide)

/-! ## The `2^32` wrap -/

/-- **The cursor wrap makes a put cross the end of the storage.** From the empty 64-packet
playback buffer, after 22369685 rounds of an OUT packet and `output_callback(192)`, both cursors
have wrapped to 12224, and the next OUT packet is copied to offsets 12224 to 12415 of the 12288
bytes of storage. -/
theorem playback_wrap_overruns (fresh : Nat → UInt8) (p : Chunk) :
    ¬(outRun (streambufInit 12288 fresh)
      ((List.replicate 22369685 [.dataout p, .output usbaudioPacketSize]).flatten ++
        [.dataout p])).2.InBounds 12288 := by
  obtain ⟨hp, hu, hs⟩ := outRun_pairs p 22369685 (streambufInit 12288 fresh)
    (streambufInit_used _ _) (by rw [streambufInit_size]; decide)
  rw [outRun_append]
  generalize outRun (streambufInit 12288 fresh)
    (List.replicate 22369685 [.dataout p, .output usbaudioPacketSize]).flatten = r at hp hu hs ⊢
  have hf : r.1.free ≠ 0 := by
    simp only [free, hu, hs, streambufInit]
    decide
  simp only [outRun, OutOp.step, streambufPut_copy p hf, if_neg (by decide : usbaudioPacketSize ≠ 0)]
  intro h
  have := h (r.1.prodOff, p.bytes) (by simp)
  rw [p.length_eq] at this
  simp only [prodOff, hp, hs, streambufInit] at this
  exact absurd this (by decide)

end UsbAudio
