import ScopeLink.Wire.Header
/-!
# Frames

A message to the device is one frame: a header that marks the end of the message, the payload, and
zeros up to a multiple of four bytes. A frame is laid over the front of a buffer that has room for
all of it, or nothing is written.
-/

namespace ScopeLink.Frame

/-- Payloads are padded to words of this size (`TRANSFER_ALIGNMENT`). -/
def alignment : Nat := 4

/-- The least multiple of the alignment that is not below `n` (`padded_len`). -/
def paddedLen (n : Nat) : Nat := (n + (alignment - 1)) / alignment * alignment

/-- The number of bytes of a frame with `n` bytes of payload. -/
def len (n : Nat) : Nat := Header.byteCount + paddedLen n

def encode (h : Header) (payload : Bytes) : Bytes :=
  h.encode ++ payload ++ Bytes.zeros (paddedLen payload.length - payload.length)

/-- The frame that carries `payload` to the device. -/
def message (tag : UInt8) (payload : Bytes) : Bytes :=
  encode (Header.out tag (UInt32.ofNat payload.length) true) payload

/-- Lays the frame of `payload` over the front of `buffer` (`frame_message`). The answer is the length
of the frame and the buffer after it; nothing if the buffer is too short, or the payload too long for its size
to be stated in four bytes. -/
def write (buffer : Bytes) (tag : UInt8) (payload : Bytes) : Option (Nat × Bytes) :=
  if buffer.length < len payload.length ∨ UInt32.size ≤ payload.length then none
  else some (len payload.length, Bytes.overlay buffer (message tag payload))

theorem le_paddedLen (n : Nat) : n ≤ paddedLen n := by
  simp only [paddedLen, alignment]
  omega

theorem alignment_dvd_paddedLen (n : Nat) : alignment ∣ paddedLen n := ⟨_, Nat.mul_comm _ _⟩

/-- No smaller multiple will do. -/
theorem paddedLen_le {n m : Nat} (h : n ≤ m) (hm : alignment ∣ m) : paddedLen n ≤ m := by
  obtain ⟨k, rfl⟩ := hm
  simp only [paddedLen, alignment] at *
  omega

theorem len_mono {n m : Nat} (h : n ≤ m) : len n ≤ len m := by
  simp only [len, paddedLen, alignment]
  omega

theorem length_encode (h : Header) (payload : Bytes) :
    (encode h payload).length = len payload.length := by
  have := le_paddedLen payload.length
  simp only [encode, len, List.length_append, Header.length_encode, Bytes.length_zeros]
  omega

@[simp] theorem length_message (tag : UInt8) (payload : Bytes) :
    (message tag payload).length = len payload.length := length_encode _ _

/-- The header of a frame, whatever payload follows it. -/
theorem decode_encode (h : Header) (payload : Bytes) : Header.decode (encode h payload) = some h := by
  rw [encode, List.append_assoc]
  exact Header.decode_encode_append _ _

/-- The payload of a frame, without the padding. -/
theorem payload_encode (h : Header) (payload : Bytes) :
    ((encode h payload).drop Header.byteCount).take payload.length = payload := by
  rw [encode, List.append_assoc, List.drop_left' (Header.length_encode h), List.take_left]

theorem decode_message (tag : UInt8) (payload : Bytes) :
    Header.decode (message tag payload) =
      some (Header.out tag (UInt32.ofNat payload.length) true) := decode_encode _ _

/-- What was laid over a buffer is sent as it is. -/
theorem write_eq_some {buffer payload outBuf : Bytes} {tag : UInt8} {n : Nat}
    (h : write buffer tag payload = some (n, outBuf)) :
    outBuf.take n = message tag payload ∧ outBuf.length = buffer.length := by
  unfold write at h
  split at h
  · cases h
  · rename_i hfit
    have hle : (message tag payload).length ≤ buffer.length := by
      rw [length_message]
      omega
    cases h
    rw [← length_message tag payload]
    exact ⟨Bytes.take_overlay hle, Bytes.length_overlay _ _⟩

theorem write_eq_none_iff {buffer payload : Bytes} {tag : UInt8} :
    write buffer tag payload = none ↔
      buffer.length < len payload.length ∨ UInt32.size ≤ payload.length := by
  unfold write
  split <;> simp_all

end ScopeLink.Frame
