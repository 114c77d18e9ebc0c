import ScopeLink.Bytes
/-!
# Packed bytes

A buffer may be of any size that can be named, and nearly all of a large one is one byte over and over. Packed
bytes are a row of stretches, each of a number of times one byte, so that a buffer takes the room of what
differs in it. `bytes` spells them out, and every operation on packed bytes is the operation on the bytes
they stand for.
-/

namespace ScopeLink

inductive Packed where
  | nil
  /-- So many times one byte, with the rest behind. -/
  | stretch (count : Nat) (byte : UInt8) (rest : Packed)
deriving DecidableEq, Repr

namespace Packed

/-- The bytes in full. -/
def bytes : Packed → Bytes
  | .nil => []
  | .stretch count byte rest => List.replicate count byte ++ rest.bytes

def uniform (count : Nat) (byte : UInt8) : Packed := .stretch count byte .nil

def ofBytes : Bytes → Packed
  | [] => .nil
  | b :: bs => .stretch 1 b (ofBytes bs)

def length : Packed → Nat
  | .nil => 0
  | .stretch count _ rest => count + rest.length

def append : Packed → Packed → Packed
  | .nil, q => q
  | .stretch count byte rest, q => .stretch count byte (rest.append q)

def take : Nat → Packed → Packed
  | _, .nil => .nil
  | n, .stretch count byte rest =>
    if n ≤ count then uniform n byte else .stretch count byte (rest.take (n - count))

def drop : Nat → Packed → Packed
  | _, .nil => .nil
  | n, .stretch count byte rest =>
    if n < count then .stretch (count - n) byte rest else rest.drop (n - count)

/-- `front` laid over the start of `buffer` and cut to its length. -/
def overlay (buffer front : Packed) : Packed := (front.take buffer.length).append (buffer.drop front.length)

/-- `data` laid over `buffer` from offset `start` on. -/
def splice (buffer : Packed) (start : Nat) (data : Packed) : Packed :=
  ((buffer.take start).append data).append (buffer.drop (start + data.length))

/-- The byte at `i` replaced, if there is one. -/
def set (p : Packed) (i : Nat) (byte : UInt8) : Packed :=
  if i < p.length then (p.take i).append (.stretch 1 byte (p.drop (i + 1))) else p

/-! ## Lemmas -/

section

variable (p q : Packed)

@[simp] theorem bytes_uniform (count : Nat) (byte : UInt8) :
    (uniform count byte).bytes = List.replicate count byte := List.append_nil _

@[simp] theorem bytes_ofBytes : ∀ b : Bytes, (ofBytes b).bytes = b
  | [] => rfl
  | b :: bs => by rw [ofBytes, bytes, bytes_ofBytes bs]; rfl

@[simp] theorem length_bytes : p.bytes.length = p.length := by
  induction p with
  | nil => rfl
  | stretch count byte rest ih => rw [bytes, List.length_append, List.length_replicate, ih, length]

@[simp] theorem bytes_append : (p.append q).bytes = p.bytes ++ q.bytes := by
  induction p with
  | nil => rfl
  | stretch count byte rest ih => rw [append, bytes, ih, bytes, List.append_assoc]

@[simp] theorem bytes_take (n : Nat) : (p.take n).bytes = p.bytes.take n := by
  induction p generalizing n with
  | nil => simp [take, bytes]
  | stretch count byte rest ih =>
    rw [take, bytes, List.take_append, List.length_replicate, List.take_replicate]
    split
    · rename_i hle
      rw [bytes_uniform, Nat.min_eq_left hle, Nat.sub_eq_zero_of_le hle, List.take_zero, List.append_nil]
    · rename_i hlt
      rw [bytes, ih, Nat.min_eq_right (by omega)]

@[simp] theorem bytes_drop (n : Nat) : (p.drop n).bytes = p.bytes.drop n := by
  induction p generalizing n with
  | nil => simp [drop, bytes]
  | stretch count byte rest ih =>
    rw [drop, bytes, List.drop_append, List.length_replicate, List.drop_replicate]
    split
    · rename_i hlt
      rw [bytes, Nat.sub_eq_zero_of_le (by omega : n ≤ count), List.drop_zero]
    · rename_i hle
      rw [ih, Nat.sub_eq_zero_of_le (by omega : count ≤ n), List.replicate_zero, List.nil_append]

@[simp] theorem bytes_overlay : (p.overlay q).bytes = p.bytes.overlay q.bytes := by
  simp [overlay, Bytes.overlay]

@[simp] theorem bytes_splice (start : Nat) : (p.splice start q).bytes = p.bytes.splice start q.bytes := by
  simp [splice, Bytes.splice]

@[simp] theorem bytes_set (i : Nat) (byte : UInt8) : (p.set i byte).bytes = p.bytes.set i byte := by
  rw [set, List.set_eq_take_append_cons_drop, length_bytes]
  split
  · simp [bytes]
  · rfl

example : ((((uniform 4 9).overlay (ofBytes [1, 2])).set 2 0).splice 3 (uniform 1 7)).bytes = [1, 2, 0, 7] := by
  decide

end

end Packed

end ScopeLink
