import Mathlib

/-!
# `struct streambuf`: the byte ring between USB transfers and the audio backend

A translation of `streambuf_init`, `streambuf_put`, `streambuf_get` and `streambuf_alloc`
from `dev-audio.c`. The three `uint32_t` fields are `BitVec 32`, so the cursors wrap as the
code's do. The storage is the memory from `buf->data` on, as a function of the offset: the
code never checks an offset against `size`, and the bounds theorems are about the offsets it
hands out.

`assert(free >= USBAUDIO_PACKET_SIZE)` in `streambuf_put` is the predicate `putAssert`;
`streambufPut` is the code past it.
-/

namespace UsbAudio

/-- `USBAUDIO_PACKET_SIZE`: one 1 ms frame of 48 kHz 16-bit stereo. -/
def usbaudioPacketSize : Nat := 192

@[simp] theorem usbaudioPacketSize_eq : usbaudioPacketSize = 192 := rfl

/-- A packet-sized run of bytes: the payload `usb_packet_copy` takes from an OUT transfer, or
what one `AUD_read` delivers. -/
structure Chunk where
  bytes : List UInt8
  length_eq : bytes.length = usbaudioPacketSize

/-- `len` bytes of memory from offset `off`. -/
def readBytes (m : Nat → UInt8) (off len : Nat) : List UInt8 :=
  (List.range len).map fun t => m (off + t)

/-- Memory after copying `bs` to offset `off`. -/
def writeBytes (m : Nat → UInt8) (off : Nat) (bs : List UInt8) : Nat → UInt8 :=
  fun i => if off ≤ i ∧ i < off + bs.length then bs.getD (i - off) 0 else m i

structure StreamBuf where
  data : Nat → UInt8
  size : BitVec 32
  prod : BitVec 32
  cons : BitVec 32

namespace StreamBuf

/-- `buf->prod - buf->cons`, in `uint32_t`. -/
def used (buf : StreamBuf) : BitVec 32 := buf.prod - buf.cons

/-- `buf->size - (buf->prod - buf->cons)`, in `uint32_t`. -/
def free (buf : StreamBuf) : BitVec 32 := buf.size - buf.used

/-- The offset `buf->prod % buf->size` where the producer writes. -/
def prodOff (buf : StreamBuf) : Nat := (buf.prod % buf.size).toNat

/-- The offset `buf->cons % buf->size` where the consumer reads. -/
def consOff (buf : StreamBuf) : Nat := (buf.cons % buf.size).toNat

end StreamBuf

open StreamBuf

/-- `streambuf_init`: `size` rounded down to whole packets, both cursors at zero. `fresh` is
what the new `g_malloc` block holds. -/
def streambufInit (size : BitVec 32) (fresh : Nat → UInt8) : StreamBuf where
  data := fresh
  size := size - size % BitVec.ofNat 32 usbaudioPacketSize
  prod := 0
  cons := 0

/-- The assertion `free >= USBAUDIO_PACKET_SIZE` that `streambuf_put` makes once `free` is
nonzero. -/
def putAssert (buf : StreamBuf) : Prop :=
  buf.free ≠ 0 → usbaudioPacketSize ≤ buf.free.toNat

/-- `streambuf_put`: copy one packet at the producer offset, or nothing when `free` is zero.
Returns the bytes copied. `p` is what `usb_packet_copy` takes from the USB packet; a packet too
short for it is `usbAudioHandleDataout`'s concern. -/
def streambufPut (buf : StreamBuf) (p : Chunk) : Nat × StreamBuf :=
  if buf.free = 0 then (0, buf)
  else (usbaudioPacketSize,
    { buf with data := writeBytes buf.data buf.prodOff p.bytes,
               prod := buf.prod + BitVec.ofNat 32 usbaudioPacketSize })

/-- `streambuf_get`: the consumer offset, and `len` bytes consumed, or `NULL` (`none`) when
fewer than `len` bytes, or none at all, are buffered. -/
def streambufGet (buf : StreamBuf) (len : Nat) : Option (Nat × StreamBuf) :=
  if buf.used = 0 ∨ buf.used.toNat < len then none
  else some (buf.consOff, { buf with cons := buf.cons + BitVec.ofNat 32 len })

/-- `streambuf_alloc`: the producer offset, with `len` bytes reserved for the caller to fill,
or `NULL` (`none`) when fewer than `len` bytes, or none at all, are free. -/
def streambufAlloc (buf : StreamBuf) (len : Nat) : Option (Nat × StreamBuf) :=
  if buf.free = 0 ∨ buf.free.toNat < len then none
  else some (buf.prodOff, { buf with prod := buf.prod + BitVec.ofNat 32 len })

/-! ### What each operation does -/

namespace StreamBuf

variable (buf : StreamBuf) (k : Nat)

/-- Moving the producer by `k` bytes adds `k` to `used`, when the sum stays below `2^32`. -/
theorem used_advance_prod (h : buf.used.toNat + k < 2 ^ 32) :
    ({ buf with prod := buf.prod + BitVec.ofNat 32 k } : StreamBuf).used.toNat = buf.used.toNat + k := by
  simp only [used] at *; bv_omega

/-- Moving the consumer by `k ≤ used` bytes takes `k` from `used`. -/
theorem used_advance_cons (h : k ≤ buf.used.toNat) :
    ({ buf with cons := buf.cons + BitVec.ofNat 32 k } : StreamBuf).used.toNat = buf.used.toNat - k := by
  simp only [used] at *; bv_omega

/-- While `used ≤ size`, `free` does not wrap. -/
theorem free_toNat (h : buf.used.toNat ≤ buf.size.toNat) :
    buf.free.toNat = buf.size.toNat - buf.used.toNat := by
  simp only [free] at *; bv_omega

@[simp] theorem used_setData (d : Nat → UInt8) : ({ buf with data := d } : StreamBuf).used = buf.used :=
  rfl

@[simp] theorem free_setData (d : Nat → UInt8) : ({ buf with data := d } : StreamBuf).free = buf.free :=
  rfl

end StreamBuf

@[simp] theorem streambufInit_used (size : BitVec 32) (fresh : Nat → UInt8) :
    (streambufInit size fresh).used = 0 := BitVec.sub_self 0

theorem streambufInit_size (size : BitVec 32) (fresh : Nat → UInt8) :
    (streambufInit size fresh).size.toNat = size.toNat - size.toNat % usbaudioPacketSize := by
  have h := Nat.mod_le size.toNat 192
  simp only [streambufInit, BitVec.toNat_sub, BitVec.toNat_umod, BitVec.toNat_ofNat,
    usbaudioPacketSize, Nat.reducePow, Nat.reduceMod]
  omega

variable {buf buf' : StreamBuf} {off len : Nat}

theorem streambufPut_full (p : Chunk) (h : buf.free = 0) : streambufPut buf p = (0, buf) := by
  simp only [streambufPut, if_pos h]

theorem streambufPut_copy (p : Chunk) (h : buf.free ≠ 0) :
    streambufPut buf p = (usbaudioPacketSize,
      { buf with data := writeBytes buf.data buf.prodOff p.bytes,
                 prod := buf.prod + BitVec.ofNat 32 usbaudioPacketSize }) := by
  simp only [streambufPut, if_neg h]

theorem streambufGet_eq_some :
    streambufGet buf len = some (off, buf') ↔
      buf.used ≠ 0 ∧ len ≤ buf.used.toNat ∧ off = buf.consOff ∧
        buf' = { buf with cons := buf.cons + BitVec.ofNat 32 len } := by
  unfold streambufGet
  by_cases h0 : buf.used = 0 <;> by_cases h1 : buf.used.toNat < len <;> simp [h0, h1, eq_comm]
  omega

theorem streambufAlloc_eq_some :
    streambufAlloc buf len = some (off, buf') ↔
      buf.free ≠ 0 ∧ len ≤ buf.free.toNat ∧ off = buf.prodOff ∧
        buf' = { buf with prod := buf.prod + BitVec.ofNat 32 len } := by
  unfold streambufAlloc
  by_cases h0 : buf.free = 0 <;> by_cases h1 : buf.free.toNat < len <;> simp [h0, h1, eq_comm]
  omega

/-- For a positive length the `!used` test is subsumed by `used < len`. -/
theorem streambufGet_of_pos (h : 0 < len) :
    streambufGet buf len = if buf.used.toNat < len then none
      else some (buf.consOff, { buf with cons := buf.cons + BitVec.ofNat 32 len }) := by
  by_cases h0 : buf.used = 0
  · have : buf.used.toNat = 0 := by rw [h0]; rfl
    simp [streambufGet, h0, this, h]
  · simp only [streambufGet, h0, false_or]

/-- For a positive length the `!free` test is subsumed by `free < len`. -/
theorem streambufAlloc_of_pos (h : 0 < len) :
    streambufAlloc buf len = if buf.free.toNat < len then none
      else some (buf.prodOff, { buf with prod := buf.prod + BitVec.ofNat 32 len }) := by
  by_cases h0 : buf.free = 0
  · have : buf.free.toNat = 0 := by rw [h0]; rfl
    simp [streambufAlloc, h0, this, h]
  · simp only [streambufAlloc, h0, false_or]

end UsbAudio
