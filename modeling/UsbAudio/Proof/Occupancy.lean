import UsbAudio.Spec.Stream

/-!
# The occupancy invariant of the stream buffers

`used = prod - cons` is computed in `uint32_t`, and both cursors wrap at `2^32` at different
moments; still `used` never exceeds `size` on either buffer (`Occupancy`), and on `out.buf` it is
always whole packets (`OutOccupancy`), so `free` never wraps and the assertion in
`streambuf_put` never fails.

* `occupancy_bounded`: every reachable state of `out.buf` and of `in.buf` keeps the invariant.
-/

namespace UsbAudio

open StreamBuf

variable {buf buf' : StreamBuf} {off len : Nat}

/-- **The occupancy invariant**: at most `size` bytes buffered, `size` whole packets. -/
structure Occupancy (buf : StreamBuf) : Prop where
  used_le : buf.used.toNat ≤ buf.size.toNat
  size_dvd : usbaudioPacketSize ∣ buf.size.toNat

/-- On `out.buf` whole packets are buffered too. -/
structure OutOccupancy (buf : StreamBuf) extends Occupancy buf : Prop where
  used_dvd : usbaudioPacketSize ∣ buf.used.toNat

theorem Occupancy.free_toNat (h : Occupancy buf) :
    buf.free.toNat = buf.size.toNat - buf.used.toNat :=
  StreamBuf.free_toNat buf h.used_le

theorem free_eq_zero_iff : buf.free = 0 ↔ buf.free.toNat = 0 := by
  rw [BitVec.toNat_eq]; rfl

theorem Occupancy.init (size : BitVec 32) (fresh : Nat → UInt8) :
    OutOccupancy (streambufInit size fresh) := by
  exact ⟨⟨by simp, streambufInit_size size fresh ▸ Nat.dvd_sub_mod _⟩, by simp⟩

/-- A copying `streambuf_put` adds a packet to `used`. -/
theorem streambufPut_used (p : Chunk) (h0 : buf.free ≠ 0)
    (h : buf.used.toNat + usbaudioPacketSize < 2 ^ 32) :
    (streambufPut buf p).2.used.toNat = buf.used.toNat + usbaudioPacketSize := by
  rw [streambufPut_copy p h0]; exact used_advance_prod buf _ h

theorem streambufGet_used (hg : streambufGet buf len = some (off, buf')) :
    buf'.used.toNat = buf.used.toNat - len ∧ len ≤ buf.used.toNat ∧ buf'.size = buf.size := by
  obtain ⟨-, hl, -, rfl⟩ := streambufGet_eq_some.1 hg
  exact ⟨used_advance_cons buf len hl, hl, rfl⟩

theorem streambufAlloc_used (h : Occupancy buf) (ha : streambufAlloc buf len = some (off, buf')) :
    buf'.used.toNat = buf.used.toNat + len ∧ len ≤ buf.free.toNat ∧ buf'.size = buf.size := by
  obtain ⟨-, hl, -, rfl⟩ := streambufAlloc_eq_some.1 ha
  have := h.free_toNat; have := buf.size.isLt
  exact ⟨used_advance_prod buf len (by omega), hl, rfl⟩

/-- `streambuf_put` keeps whole packets buffered, and copies exactly when one fits. -/
theorem OutOccupancy.put (h : OutOccupancy buf) (p : Chunk) :
    OutOccupancy (streambufPut buf p).2 := by
  by_cases h0 : buf.free = 0
  · rw [streambufPut_full p h0]; exact h
  have hf : buf.free.toNat ≠ 0 := mt free_eq_zero_iff.2 h0
  have := h.free_toNat; have := h.size_dvd; have := h.used_dvd; have := buf.size.isLt
  have hu := streambufPut_used p h0 (by simp only [usbaudioPacketSize_eq] at *; omega)
  have hs : (streambufPut buf p).2.size = buf.size := by rw [streambufPut_copy p h0]
  refine ⟨⟨?_, hs ▸ h.size_dvd⟩, ?_⟩ <;> rw [hu] <;> try rw [hs]
  all_goals simp only [usbaudioPacketSize_eq] at *; omega

/-- The assertion in `streambuf_put` holds while whole packets are buffered. -/
theorem OutOccupancy.putAssert (h : OutOccupancy buf) : putAssert buf := by
  intro h0
  have hf : buf.free.toNat ≠ 0 := mt free_eq_zero_iff.2 h0
  have := h.free_toNat; have := h.size_dvd; have := h.used_dvd
  simp only [usbaudioPacketSize_eq] at *
  omega

theorem Occupancy.get (h : Occupancy buf) (hg : streambufGet buf len = some (off, buf')) :
    Occupancy buf' := by
  obtain ⟨hu, hl, hs⟩ := streambufGet_used hg
  exact ⟨by rw [hu, hs]; exact le_trans (Nat.sub_le _ _) h.used_le, hs ▸ h.size_dvd⟩

theorem OutOccupancy.get (h : OutOccupancy buf)
    (hg : streambufGet buf usbaudioPacketSize = some (off, buf')) : OutOccupancy buf' := by
  obtain ⟨hu, hl, -⟩ := streambufGet_used hg
  exact ⟨h.toOccupancy.get hg, hu ▸ Nat.dvd_sub' h.used_dvd (Nat.dvd_refl _)⟩

theorem Occupancy.alloc (h : Occupancy buf) (ha : streambufAlloc buf len = some (off, buf'))
    (d : Nat → UInt8) : Occupancy { buf' with data := d } := by
  obtain ⟨hu, hl, hs⟩ := streambufAlloc_used h ha
  have := h.free_toNat
  refine ⟨?_, hs ▸ h.size_dvd⟩
  have := h.used_le
  simp only [used_setData]; rw [hu, hs]; omega

theorem OutReach.occupancy (h : OutReach buf) : OutOccupancy buf := by
  induction h with
  | init size fresh => exact Occupancy.init size fresh
  | put p _ ih => exact ih.put p
  | get _ hg ih => exact ih.get hg

theorem InReach.occupancy (h : InReach buf) : Occupancy buf := by
  induction h with
  | init size fresh => exact (Occupancy.init size fresh).toOccupancy
  | alloc c _ ha ih => exact ih.alloc ha _
  | get n _ hg ih => exact ih.get hg

/-- **Occupancy invariant.** On every reachable state of either buffer, `used` (in `uint32_t`)
is at most `size`, so `free = size - used` does not wrap; on `out.buf` it is whole packets, so
`assert(free >= USBAUDIO_PACKET_SIZE)` holds. -/
theorem occupancy_bounded :
    (∀ buf, OutReach buf →
      buf.used.toNat ≤ buf.size.toNat ∧ buf.free.toNat = buf.size.toNat - buf.used.toNat ∧
        usbaudioPacketSize ∣ buf.used.toNat ∧ putAssert buf) ∧
    (∀ buf, InReach buf →
      buf.used.toNat ≤ buf.size.toNat ∧ buf.free.toNat = buf.size.toNat - buf.used.toNat) :=
  ⟨fun _ h => let o := h.occupancy; ⟨o.used_le, o.free_toNat, o.used_dvd, o.putAssert⟩,
   fun _ h => let o := h.occupancy; ⟨o.used_le, o.free_toNat⟩⟩

end UsbAudio
