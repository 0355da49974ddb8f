import UsbAudio.Proof.Occupancy
import UsbAudio.Spec.State

/-!
# The demand callbacks move whole packets

* `outputLoop_spec`, `inputLoop_spec`: what each loop does, for every fuel of at least `avail`:
  each turn takes 192 from `avail`, so the loops exit by their own tests, never for lack of fuel,
  and the model runs the C loops to their end.
* `callbacks_move_whole_packets`: `output_callback(avail)` forwards
  `min(⌊avail/192⌋, ⌊used/192⌋)` packets and `input_callback(avail)` fills
  `min(⌊(avail-1)/192⌋, ⌊free/192⌋)`, each moving the occupancy by one packet.
-/

namespace UsbAudio

open StreamBuf

variable {buf : StreamBuf}

/-- One turn of the `output_callback` loop in closed form. -/
theorem outputLoop_succ (k : Nat) (buf : StreamBuf) (avail : Int) :
    outputLoop (k + 1) buf avail =
      if avail < usbaudioPacketSize ∨ buf.used.toNat < usbaudioPacketSize then (buf, [])
      else
        let r := outputLoop k { buf with cons := buf.cons + BitVec.ofNat 32 usbaudioPacketSize }
          (avail - usbaudioPacketSize)
        (r.1, (buf.consOff, readBytes buf.data buf.consOff usbaudioPacketSize) :: r.2) := by
  rw [outputLoop, streambufGet_of_pos (by decide)]
  simp only [usbaudioPacketSize_eq, Nat.cast_ofNat]
  by_cases ha : avail < 192
  · simp [ha]
  · by_cases hu : buf.used.toNat < 192 <;> simp [ha, hu]

/-- One turn of the `input_callback` loop in closed form. -/
theorem inputLoop_succ (k : Nat) (buf : StreamBuf) (avail : Int) (pcm : Nat → Chunk) :
    inputLoop (k + 1) buf avail pcm =
      if avail ≤ usbaudioPacketSize ∨ buf.free.toNat < usbaudioPacketSize then (buf, [])
      else
        let r := inputLoop k { buf with data := writeBytes buf.data buf.prodOff (pcm 0).bytes,
                                        prod := buf.prod + BitVec.ofNat 32 usbaudioPacketSize }
          (avail - usbaudioPacketSize) (fun k => pcm (k + 1))
        (r.1, (buf.prodOff, (pcm 0).bytes) :: r.2) := by
  rw [inputLoop, streambufAlloc_of_pos (by decide)]
  simp only [usbaudioPacketSize_eq, Nat.cast_ofNat]
  by_cases ha : avail ≤ 192
  · simp [ha]
  · by_cases hf : buf.free.toNat < 192 <;> simp [ha, hf]

@[simp] theorem readBytes_length (m : Nat → UInt8) (off len : Nat) :
    (readBytes m off len).length = len := by
  simp [readBytes]

/-- One more packet on both sides of the count. -/
theorem min_div_packet {a u : Nat} (ha : usbaudioPacketSize ≤ a) (hu : usbaudioPacketSize ≤ u) :
    min ((a - usbaudioPacketSize) / usbaudioPacketSize) ((u - usbaudioPacketSize) / usbaudioPacketSize) + 1 =
      min (a / usbaudioPacketSize) (u / usbaudioPacketSize) := by
  rw [Nat.div_eq_sub_div (by decide) ha, Nat.div_eq_sub_div (by decide) hu, min_add_add_right]

/-- **What `output_callback`'s loop does**, given at least `avail` fuel: it forwards
`min ⌊avail/192⌋ ⌊used/192⌋` whole packets and consumes them. -/
theorem outputLoop_spec (fuel : Nat) : ∀ (buf : StreamBuf) (avail : Int), avail.toNat ≤ fuel →
    (outputLoop fuel buf avail).2.length =
        min (avail.toNat / usbaudioPacketSize) (buf.used.toNat / usbaudioPacketSize) ∧
      (outputLoop fuel buf avail).1.used.toNat =
        buf.used.toNat - usbaudioPacketSize * (outputLoop fuel buf avail).2.length ∧
      ∀ pk ∈ (outputLoop fuel buf avail).2, pk.2.length = usbaudioPacketSize := by
  induction fuel with
  | zero => intro buf avail h; simp [outputLoop]; omega
  | succ k ih =>
    intro buf avail h
    rw [outputLoop_succ]
    split_ifs with hc
    · simp only [List.length_nil, Nat.mul_zero, Nat.sub_zero, List.not_mem_nil, false_imp_iff,
        imp_true_iff, and_true, true_and, usbaudioPacketSize_eq] at hc ⊢
      omega
    · simp only [usbaudioPacketSize_eq, not_or, not_lt] at hc
      have hu := used_advance_cons buf 192 (by omega)
      obtain ⟨h1, h2, h3⟩ := ih _ (avail - 192) (by omega)
      have ha : (avail - 192).toNat = avail.toNat - 192 := by omega
      simp only [usbaudioPacketSize_eq, Nat.cast_ofNat, List.length_cons, List.mem_cons, forall_eq_or_imp,
        readBytes_length, true_and] at h1 h2 h3 hu ⊢
      rw [ha, hu] at h1
      rw [hu] at h2
      refine ⟨by rw [h1]; exact min_div_packet (by rw [usbaudioPacketSize_eq]; omega) hc.2,
        by rw [h2]; omega, h3⟩

theorem outputLoop_reach (fuel : Nat) : ∀ (buf : StreamBuf) (avail : Int), OutReach buf →
    OutReach (outputLoop fuel buf avail).1 := by
  induction fuel with
  | zero => intro buf avail h; exact h
  | succ k ih =>
    intro buf avail h
    rw [outputLoop_succ]
    split_ifs with hc
    · exact h
    · exact ih _ _ (h.get (by rw [streambufGet_of_pos (by decide), if_neg (by omega)]))

/-- **What `input_callback`'s loop does**, given at least `avail` fuel: it fills
`min ⌊(avail-1)/192⌋ ⌊free/192⌋` whole packets, each added to the buffer. -/
theorem inputLoop_spec (fuel : Nat) : ∀ (buf : StreamBuf) (avail : Int) (pcm : Nat → Chunk),
    InReach buf → avail.toNat ≤ fuel →
    (inputLoop fuel buf avail pcm).2.length =
        min ((avail - 1).toNat / usbaudioPacketSize) (buf.free.toNat / usbaudioPacketSize) ∧
      (inputLoop fuel buf avail pcm).1.used.toNat =
        buf.used.toNat + usbaudioPacketSize * (inputLoop fuel buf avail pcm).2.length ∧
      InReach (inputLoop fuel buf avail pcm).1 ∧
      ∀ pk ∈ (inputLoop fuel buf avail pcm).2, pk.2.length = usbaudioPacketSize := by
  induction fuel with
  | zero =>
    -- no fuel: `avail` is at most 0, so no packet fits
    intro buf avail pcm h ha
    simp only [inputLoop, List.length_nil, List.not_mem_nil, false_imp_iff, imp_true_iff,
      usbaudioPacketSize_eq]
    exact ⟨by omega, by simp, h, trivial⟩
  | succ k ih =>
    intro buf avail pcm h ha
    rw [inputLoop_succ]
    split_ifs with hc
    · -- the loop exits: `avail` is at most a packet, or no packet is free
      simp only [List.length_nil, Nat.mul_zero, Nat.add_zero, List.not_mem_nil, false_imp_iff,
        imp_true_iff, and_true, true_and, usbaudioPacketSize_eq] at hc ⊢
      exact ⟨by omega, h⟩
    · -- one packet is allocated and filled, and the rest of the loop runs from there
      have hal : streambufAlloc buf usbaudioPacketSize =
          some (buf.prodOff, { buf with prod := buf.prod + BitVec.ofNat 32 usbaudioPacketSize }) := by
        rw [streambufAlloc_of_pos (by decide), if_neg (by omega)]
      have h' := InReach.alloc (pcm 0) h hal
      have hu : ({ buf with
          data := writeBytes buf.data buf.prodOff (pcm 0).bytes,
          prod := buf.prod + BitVec.ofNat 32 usbaudioPacketSize } : StreamBuf).used.toNat =
          buf.used.toNat + usbaudioPacketSize :=
        (streambufAlloc_used h.occupancy hal).1
      generalize hnb : ({ buf with
        data := writeBytes buf.data buf.prodOff (pcm 0).bytes,
        prod := buf.prod + BitVec.ofNat 32 usbaudioPacketSize } : StreamBuf) = nb at h' hu ⊢
      have hs : nb.size = buf.size := by rw [← hnb]
      have hf := h.occupancy.free_toNat
      have hf' := h'.occupancy.free_toNat
      obtain ⟨h1, h2, h3, h4⟩ := ih nb (avail - 192) (fun k => pcm (k + 1)) h' (by omega)
      rw [hs] at hf'
      simp only [usbaudioPacketSize_eq, Nat.cast_ofNat, List.length_cons, List.mem_cons,
        forall_eq_or_imp, (pcm 0).length_eq, true_and, not_or, not_le, not_lt] at hc h1 h2 h4 hu ⊢
      have ha : (avail - 192 - 1).toNat = (avail - 1).toNat - 192 := by omega
      have hfree : nb.free.toNat = buf.free.toNat - 192 := by omega
      rw [ha, hfree] at h1
      refine ⟨by rw [h1]; exact min_div_packet (by rw [usbaudioPacketSize_eq]; omega) hc.2,
        by omega, h3, h4⟩

/-- **The demand callbacks move exactly the whole packets that fit**, for every `avail` and every
reachable buffer: `output_callback` forwards `min(⌊avail/192⌋, ⌊used/192⌋)` packets of 192 bytes
(none below 192) and lowers the occupancy by 192 each; `input_callback` fills
`min(⌊(avail-1)/192⌋, ⌊free/192⌋)` (none up to 192) and raises it by 192 each. -/
theorem callbacks_move_whole_packets :
    (∀ (s : USBAudioState) (avail : Int), OutReach s.out.buf →
      (outputCallback s avail).2.length =
          min (avail.toNat / usbaudioPacketSize) (s.out.buf.used.toNat / usbaudioPacketSize) ∧
        (avail < usbaudioPacketSize → (outputCallback s avail).2 = []) ∧
        (∀ pk ∈ (outputCallback s avail).2, pk.length = usbaudioPacketSize) ∧
        (outputCallback s avail).1.out.buf.used.toNat =
          s.out.buf.used.toNat - usbaudioPacketSize * (outputCallback s avail).2.length) ∧
    (∀ (s : USBAudioState) (avail : Int) (pcm : Nat → Chunk), InReach s.in.buf →
      (inputCallback s avail pcm).2.length =
          min ((avail - 1).toNat / usbaudioPacketSize) (s.in.buf.free.toNat / usbaudioPacketSize) ∧
        (avail ≤ usbaudioPacketSize → (inputCallback s avail pcm).2 = []) ∧
        (∀ pk ∈ (inputCallback s avail pcm).2, pk.length = usbaudioPacketSize) ∧
        (inputCallback s avail pcm).1.in.buf.used.toNat =
          s.in.buf.used.toNat + usbaudioPacketSize * (inputCallback s avail pcm).2.length) := by
  constructor
  · intro s avail _
    obtain ⟨h1, h2, h3⟩ := outputLoop_spec avail.toNat s.out.buf avail le_rfl
    simp only [outputCallback, List.length_map, List.mem_map, forall_exists_index, and_imp,
      forall_apply_eq_imp_iff₂, List.map_eq_nil_iff, ← List.length_eq_zero]
    refine ⟨h1, fun ha => ?_, h3, h2⟩
    rw [h1, usbaudioPacketSize_eq] at *; omega
  · intro s avail pcm h
    obtain ⟨h1, h2, -, h4⟩ := inputLoop_spec avail.toNat s.in.buf avail pcm h le_rfl
    simp only [inputCallback, List.length_map, List.mem_map, forall_exists_index, and_imp,
      forall_apply_eq_imp_iff₂, List.map_eq_nil_iff, ← List.length_eq_zero]
    refine ⟨h1, fun ha => ?_, h4, h2⟩
    rw [h1, usbaudioPacketSize_eq] at *; omega

end UsbAudio
