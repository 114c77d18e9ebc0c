import Mathlib.Order.Bounds.Defs
import ScopeLink.Wire.Frame
/-!
# Headers and frames on the wire

A header is read back from the bytes it was written as, and written back to the bytes it was read from, but for
the four reserved ones (`encode_of_decode`). A frame is laid over a buffer in steps that each change the buffer
as the step before left it (`lay`): all of them are made, and the buffer `Holds` the frame, or none of them.
-/

namespace ScopeLink

namespace Header

/-- Only the reserved bytes are lost. -/
theorem encode_of_decode {b : Bytes} {h : Header} (hb : decode b = some h) :
    h.encode = ((((b.take byteCount).set 3 0).set 9 0).set 10 0).set 11 0 := by
  unfold decode at hb
  split at hb
  · cases hb
  · rename_i hlong
    cases hb
    have hlong : 12 ≤ b.length := Nat.le_of_not_lt hlong
    have hsize : ((b.drop 4).take 4).length = 4 := by simp; omega
    have hnat : (UInt32.ofNat (Bytes.ofLittleEndian ((b.drop 4).take 4))).toNat =
        Bytes.ofLittleEndian ((b.drop 4).take 4) :=
      UInt32.toNat_ofNat_of_lt' (Bytes.ofLittleEndian_lt hsize)
    have hdigits := Bytes.littleEndian_ofLittleEndian ((b.drop 4).take 4)
    rw [hsize] at hdigits
    have hfour : (b.drop 4).take 4 = ((b.take 12).drop 4).take 4 := by
      rw [List.drop_take, List.take_take]
      rfl
    simp only [encode, hnat, hdigits]
    rw [hfour, byteCount, Bytes.take_eq_map_getD hlong]
    rfl

end Header

namespace Frame

/-! ## Laying a frame -/

/-- Lays the frame of `payload` over the front of `buffer`, part by part as `frame_message` does: the header, the
payload, and zeros up to the end of the frame. The answer is the length of the frame, if there is one, and with
it goes the buffer as it was left. -/
def lay (buffer : Bytes) (tag : UInt8) (payload : Bytes) : Option Nat × Bytes :=
  let stop := len payload.length
  if buffer.length < stop then (none, buffer)
  else if UInt32.size ≤ payload.length then (none, buffer)
  else
    let header := Header.out tag (UInt32.ofNat payload.length) true
    let start := Header.byteCount + payload.length
    let buffer := Bytes.splice buffer 0 header.encode
    let buffer := Bytes.splice buffer Header.byteCount payload
    (some stop, Bytes.splice buffer start (Bytes.zeros (stop - start)))

/-- The parts make up the frame, and what stood behind it is still there. -/
theorem lay_of_fits {buffer payload : Bytes} (tag : UInt8) (hfits : len payload.length ≤ buffer.length)
    (small : payload.length < UInt32.size) : lay buffer tag payload =
      (some (len payload.length), message tag payload ++ buffer.drop (len payload.length)) := by
  have hpadded := le_paddedLen payload.length
  have hrest : len payload.length - (Header.byteCount + payload.length) =
      paddedLen payload.length - payload.length := by
    simp only [len]
    omega
  simp only [lay, if_neg (Nat.not_lt.mpr hfits), if_neg (Nat.not_le.mpr small), message, encode, hrest]
  generalize hheader : (Header.out tag (UInt32.ofNat payload.length) true).encode = header
  have hcount : header.length = Header.byteCount := by rw [← hheader, Header.length_encode]
  have hfirst : Bytes.splice buffer 0 header = header ++ buffer.drop Header.byteCount := by
    rw [← hcount]
    exact Bytes.splice_append [] buffer header
  have hsecond := Bytes.splice_append header (buffer.drop Header.byteCount) payload
  have hthird := Bytes.splice_append (header ++ payload) ((buffer.drop Header.byteCount).drop payload.length)
    (Bytes.zeros (paddedLen payload.length - payload.length))
  rw [List.length_append, hcount, Bytes.length_zeros, List.drop_drop, List.drop_drop] at hthird
  rw [hcount, List.drop_drop] at hsecond
  have hstop : Header.byteCount + payload.length + (paddedLen payload.length - payload.length) =
      len payload.length := by
    simp only [len]
    omega
  rw [hfirst, hsecond, hthird, hstop]

/-- A buffer that is too short, or a payload whose size cannot be stated, is noticed before the first part. -/
theorem lay_of_not_fits {buffer payload : Bytes} (tag : UInt8)
    (h : buffer.length < len payload.length ∨ UInt32.size ≤ payload.length) :
    lay buffer tag payload = (none, buffer) := by
  rcases h with h | h
  · simp only [lay, if_pos h]
  · simp only [lay, if_pos h, ite_self]

/-- Laid part by part, the buffer is as when it is written at once. -/
theorem write_eq_lay (buffer : Bytes) (tag : UInt8) (payload : Bytes) :
    write buffer tag payload = (lay buffer tag payload).1.map fun n => (n, (lay buffer tag payload).2) := by
  unfold write
  split
  · rename_i h
    rw [lay_of_not_fits tag h]
    rfl
  · rename_i h
    rw [not_or, Nat.not_lt, Nat.not_le] at h
    rw [lay_of_fits tag h.1 h.2, Bytes.overlay, length_message, List.take_of_length_le (by simpa using h.1)]
    rfl

/-! ## Reading a frame back -/

/-- The first `n` bytes of the buffer are the frame of the payload: a header with the id of a message, the tag
and its complement, the size of the payload and the mark of the end, then the payload and zeros. Behind them the
buffer is as it was. -/
structure Holds (buffer : Bytes) (tag : UInt8) (payload : Bytes) (n : Nat) (after : Bytes) : Prop where
  header : ∃ h, Header.decode after = some h ∧ h.messageId = 1 ∧ h.tag = tag ∧ h.inverse.toNat = 255 - tag.toNat ∧
    h.size.toNat = payload.length ∧ h.endOfMessage = true
  data : (after.drop 12).take payload.length = payload
  padding : ∀ byte ∈ (after.take n).drop (12 + payload.length), byte = 0
  behind : after.drop n = buffer.drop n
  length : after.length = buffer.length

theorem holds_message {buffer payload : Bytes} (tag : UInt8) (hfits : len payload.length ≤ buffer.length)
    (small : payload.length < UInt32.size) :
    Holds buffer tag payload (len payload.length) (message tag payload ++ buffer.drop (len payload.length)) := by
  have hlength := length_message tag payload
  have hbytes : ∀ rest, message tag payload ++ rest = (Header.out tag (UInt32.ofNat payload.length) true).encode ++
      (payload ++ (Bytes.zeros (paddedLen payload.length - payload.length) ++ rest)) := fun rest => by
    simp only [message, encode, List.append_assoc]
  refine ⟨⟨Header.out tag (UInt32.ofNat payload.length) true, ?_, rfl, rfl, Tag.toNat_complement tag,
    UInt32.toNat_ofNat_of_lt' small, Header.endOfMessage_out _ _ _⟩, ?_, ?_, ?_, ?_⟩
  · rw [hbytes, Header.decode_encode_append]
  · rw [hbytes, show 12 = Header.byteCount from rfl, List.drop_left' (Header.length_encode _), List.take_left]
  · intro byte hbyte
    rw [List.take_left' hlength, ← List.append_nil (message tag payload), hbytes, ← List.append_assoc,
      List.drop_left' (by simp [Header.byteCount]), List.append_nil] at hbyte
    exact List.eq_of_mem_replicate hbyte
  · exact List.drop_left' hlength
  · rw [List.length_append, hlength, List.length_drop]
    omega

theorem paddedLen_isLeast (n : Nat) : IsLeast {m | 4 ∣ m ∧ n ≤ m} (paddedLen n) := by
  constructor
  · exact ⟨alignment_dvd_paddedLen n, le_paddedLen n⟩
  · rintro m ⟨hm, hn⟩
    exact paddedLen_le hn hm

/-- **The wire format.** A header is read back whatever follows it. Bytes can be read as one exactly if there are
twelve, and written back they are those twelve with zeros for the reserved ones. Laying a frame fails exactly if
the buffer is shorter than a header with the padded payload behind it, and then has changed nothing; otherwise
the buffer holds the frame and what it held behind it. -/
theorem wire_format_round_trip :
    (∀ (h : Header) (rest : Bytes), Header.decode (h.encode ++ rest) = some h) ∧
    (∀ b : Bytes, Header.decode b = none ↔ b.length < 12) ∧
    (∀ (b : Bytes) (h : Header), Header.decode b = some h →
      h.encode = ((((b.take 12).set 3 0).set 9 0).set 10 0).set 11 0) ∧
    (∀ n, IsLeast {m | 4 ∣ m ∧ n ≤ m} (paddedLen n)) ∧
    ∀ (buffer : Bytes) (tag : UInt8) (payload : Bytes), payload.length < 4294967296 →
      ((lay buffer tag payload).1 = none ↔ buffer.length < 12 + paddedLen payload.length) ∧
      ((lay buffer tag payload).1 = none → (lay buffer tag payload).2 = buffer) ∧
      (∀ n, (lay buffer tag payload).1 = some n → n = 12 + paddedLen payload.length ∧
        Holds buffer tag payload n (lay buffer tag payload).2) ∧
      write buffer tag payload = (lay buffer tag payload).1.map fun n => (n, (lay buffer tag payload).2) := by
  refine ⟨Header.decode_encode_append, fun b => Header.decode_eq_none_iff, fun b h => Header.encode_of_decode,
    paddedLen_isLeast, ?_⟩
  intro buffer tag payload small
  by_cases hshort : buffer.length < 12 + paddedLen payload.length
  · have hlay : lay buffer tag payload = (none, buffer) := lay_of_not_fits tag (.inl hshort)
    refine ⟨?_, ?_, ?_, write_eq_lay buffer tag payload⟩
    · simp [hlay, hshort]
    · simp [hlay]
    · simp [hlay]
  · have hfits : len payload.length ≤ buffer.length := Nat.le_of_not_lt hshort
    have hlay := lay_of_fits tag hfits small
    refine ⟨?_, ?_, ?_, write_eq_lay buffer tag payload⟩
    · simp [hlay, hshort]
    · simp [hlay]
    · intro n hn
      rw [hlay, Option.some.injEq] at hn
      subst hn
      rw [hlay]
      exact ⟨rfl, holds_message tag hfits small⟩

/-- Bytes where zeros are expected: in the reserved places of a header, and all over the buffer. -/
theorem wire_format_round_trip_in_dirty_buffer :
    let received : Bytes := [2, 7, 248, 9, 3, 0, 0, 0, 1, 9, 9, 9, 82, 85, 78]
    let buffer := List.replicate 20 170
    let payload : Bytes := [82, 85, 78]
    (∃ h, Header.decode received = some h ∧ h.encode = [2, 7, 248, 0, 3, 0, 0, 0, 1, 0, 0, 0]) ∧
      payload.length < 4294967296 ∧ (lay buffer 7 payload).1 = some 16 ∧
      Holds buffer 7 payload 16 (lay buffer 7 payload).2 := by
  intro received buffer payload
  obtain ⟨-, -, hencode, -, hlay⟩ := wire_format_round_trip
  have small : payload.length < 4294967296 := by decide
  have hsome : (lay buffer 7 payload).1 = some 16 := by decide +kernel
  have hdecode : Header.decode received = some ⟨2, 7, 248, 3, 1⟩ := by decide +kernel
  obtain ⟨-, -, hholds, -⟩ := hlay buffer 7 payload small
  exact ⟨⟨_, hdecode, hencode received _ hdecode⟩, small, hsome, (hholds 16 hsome).2⟩

end Frame

end ScopeLink
