/-!
# Bytes

Buffers and messages are lists of bytes. A transfer never changes the length of a buffer: data is
laid over the front of it, or spliced in at an offset, and the rest stays as it was.
-/

namespace ScopeLink

abbrev Bytes := List UInt8

namespace Bytes

def zeros (n : Nat) : Bytes := List.replicate n 0

/-- `front` laid over the start of `buffer` and cut to its length. -/
def overlay (buffer front : Bytes) : Bytes :=
  front.take buffer.length ++ buffer.drop front.length

/-- `data` laid over `buffer` from offset `start` on. -/
def splice (buffer : Bytes) (start : Nat) (data : Bytes) : Bytes :=
  buffer.take start ++ data ++ buffer.drop (start + data.length)

/-- The lowest `width` base-256 digits of `n`, least significant first. -/
def littleEndian : Nat → Nat → Bytes
  | 0, _ => []
  | width + 1, n => UInt8.ofNat n :: littleEndian width (n / 256)

/-- The number whose base-256 digits are given, least significant first. -/
def ofLittleEndian : Bytes → Nat
  | [] => 0
  | b :: bs => b.toNat + 256 * ofLittleEndian bs

/-- The UTF-8 form of a text. -/
def ofChars (cs : List Char) : Bytes := cs.flatMap String.utf8EncodeChar

def ofString (s : String) : Bytes := ofChars s.toList

/-- The text these bytes are the UTF-8 form of, if they are well-formed. -/
def text? (b : Bytes) : Option String := String.fromUTF8? b.toByteArray

/-! ## Lemmas -/

@[simp] theorem length_zeros (n : Nat) : (zeros n).length = n := by simp [zeros]

@[simp] theorem length_overlay (buffer front : Bytes) :
    (overlay buffer front).length = buffer.length := by
  simp only [overlay, List.length_append, List.length_take, List.length_drop]
  omega

/-- Data no longer than the buffer is found at the front of it. -/
theorem take_overlay {buffer front : Bytes} (h : front.length ≤ buffer.length) :
    (overlay buffer front).take front.length = front := by
  simp [overlay, List.take_of_length_le h]

theorem length_splice {buffer data : Bytes} {start : Nat}
    (h : start + data.length ≤ buffer.length) :
    (splice buffer start data).length = buffer.length := by
  simp only [splice, List.length_append, List.length_take, List.length_drop]
  omega

theorem take_splice {buffer data : Bytes} {start : Nat} (h : start ≤ buffer.length) :
    (splice buffer start data).take (start + data.length) = buffer.take start ++ data := by
  have hlen : (buffer.take start ++ data).length = start + data.length := by
    simp only [List.length_append, List.length_take]
    omega
  rw [splice, ← hlen, List.take_left]

theorem drop_splice {buffer data : Bytes} {start n : Nat} (h : start ≤ buffer.length)
    (hn : start + data.length ≤ n) : (splice buffer start data).drop n = buffer.drop n := by
  have hlen : (buffer.take start ++ data).length = start + data.length := by
    simp only [List.length_append, List.length_take]
    omega
  rw [splice, List.drop_append, List.drop_of_length_le (by omega), List.nil_append, List.drop_drop, hlen]
  congr 1
  omega

/-- Data laid behind the front of a buffer. -/
theorem splice_append (front rest data : Bytes) :
    splice (front ++ rest) front.length data = front ++ data ++ rest.drop data.length := by
  simp [splice]

/-- The front of a buffer, byte by byte. -/
theorem take_eq_map_getD {b : Bytes} {n : Nat} (h : n ≤ b.length) :
    b.take n = (List.range n).map fun i => b.getD i 0 := by
  refine List.ext_getElem (by simp [h]) fun i hi _ => ?_
  simp only [List.length_take] at hi
  have hib : i < b.length := by omega
  simp [List.getD_eq_getElem?_getD, hib]

@[simp] theorem length_littleEndian : ∀ (width n : Nat), (littleEndian width n).length = width
  | 0, _ => rfl
  | width + 1, n => by simp [littleEndian, length_littleEndian width]

/-- Four digits read back as the number, less what is above 32 bits. -/
theorem ofLittleEndian_littleEndian_four (n : Nat) :
    ofLittleEndian (littleEndian 4 n) = n % 4294967296 := by
  simp only [littleEndian, ofLittleEndian, UInt8.toNat_ofNat', Nat.reducePow]
  omega

/-- Four digits read as a number of 32 bits. -/
theorem ofLittleEndian_lt {b : Bytes} (h : b.length = 4) : ofLittleEndian b < UInt32.size := by
  match b, h with
  | [x, y, z, w], _ =>
    have hx := x.toNat_lt
    have hy := y.toNat_lt
    have hz := z.toNat_lt
    have hw := w.toNat_lt
    simp only [ofLittleEndian, UInt32.size]
    omega

/-- Any bytes are the digits of the number they read as. -/
theorem littleEndian_ofLittleEndian :
    ∀ b : Bytes, littleEndian b.length (ofLittleEndian b) = b
  | [] => rfl
  | x :: xs => by
    have hx : x.toNat < 256 := x.toNat_lt
    have h1 : UInt8.ofNat (x.toNat + 256 * ofLittleEndian xs) = x := by
      apply UInt8.toNat_inj.1
      simp
    have h2 : (x.toNat + 256 * ofLittleEndian xs) / 256 = ofLittleEndian xs := by omega
    simp [littleEndian, ofLittleEndian, h1, h2, littleEndian_ofLittleEndian xs]

theorem ofChars_append (a b : List Char) : ofChars (a ++ b) = ofChars a ++ ofChars b := by
  simp [ofChars]

/-- What a text was written as reads back as the text. -/
@[simp] theorem text?_ofString (s : String) : text? (ofString s) = some s := by
  have h : (ofString s).toByteArray = s.toByteArray := by
    rw [ofString, ofChars, ← List.utf8Encode, ← String.toByteArray_ofList, String.ofList_toList]
  simp only [text?, h, String.fromUTF8?, String.isValidUTF8, dite_true]
  rfl

end Bytes

end ScopeLink
