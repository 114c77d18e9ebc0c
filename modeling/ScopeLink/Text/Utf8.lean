import ScopeLink.Bytes
/-!
# UTF-8 with replacement

A device may be sent any bytes, and it reads them as text all the same: each longest run of bytes
that starts a character without completing it becomes one replacement character, and so does a
byte that can start none. The byte after the first is bounded by the first, so that no surrogate,
no overlong form and no code point above 10FFFF is read.
-/

namespace ScopeLink.Utf8

def replacement : Char := '\uFFFD'

/-- Where a reader stands between two bytes. -/
inductive State where
  | between
  /-- Inside a character: its bits so far, how many bytes it still owes, and the bounds of the next
  of them. -/
  | inside (bits owed : Nat) (low high : UInt8)
deriving DecidableEq, Repr

/-- What a byte gives that comes between characters: the text complete with it, and the state. -/
def enter (b : UInt8) : List Char × State :=
  if b < 0x80 then ([Char.ofNat b.toNat], .between)
  else if b < 0xC2 then ([replacement], .between)
  else if b < 0xE0 then ([], .inside (b.toNat % 32) 1 0x80 0xBF)
  else if b == 0xE0 then ([], .inside 0 2 0xA0 0xBF)
  else if b == 0xED then ([], .inside 13 2 0x80 0x9F)
  else if b < 0xF0 then ([], .inside (b.toNat % 16) 2 0x80 0xBF)
  else if b == 0xF0 then ([], .inside 0 3 0x90 0xBF)
  else if b < 0xF4 then ([], .inside (b.toNat % 8) 3 0x80 0xBF)
  else if b == 0xF4 then ([], .inside 4 3 0x80 0x8F)
  else ([replacement], .between)

/-- What the next byte gives. A byte that does not continue the character it falls into ends that
character and is read again as the first of another. -/
def advance : State → UInt8 → List Char × State
  | .between, b => enter b
  | .inside bits owed low high, b =>
    if low ≤ b && b ≤ high then
      if owed ≤ 1 then ([Char.ofNat (bits * 64 + b.toNat % 64)], .between)
      else ([], .inside (bits * 64 + b.toNat % 64) (owed - 1) 0x80 0xBF)
    else (replacement :: (enter b).1, (enter b).2)

/-- What the end of the bytes gives. -/
def State.finish : State → List Char
  | .between => []
  | .inside .. => [replacement]

def decodeFrom : State → Bytes → List Char
  | s, [] => s.finish
  | s, b :: bs => (advance s b).1 ++ decodeFrom (advance s b).2 bs

/-- The text of `b`, with a replacement character for each part that is not well-formed. -/
def decodeLossy (b : Bytes) : List Char := decodeFrom .between b

/-! ## Reading what was written -/

theorem enter_two : ∀ h < 32, 2 ≤ h → enter (UInt8.ofNat (h + 192)) = ([], .inside h 1 0x80 0xBF) := by
  decide

theorem enter_three : ∀ h < 16, enter (UInt8.ofNat (h + 224)) =
    ([], .inside h 2 (if h = 0 then 0xA0 else 0x80) (if h = 13 then 0x9F else 0xBF)) := by
  decide

theorem enter_four : ∀ h < 5, enter (UInt8.ofNat (h + 240)) =
    ([], .inside h 3 (if h = 0 then 0x90 else 0x80) (if h = 4 then 0x8F else 0xBF)) := by
  decide

theorem advance_between (b : UInt8) : advance .between b = enter b := rfl

/-- A byte with six bits of a character is taken for them, within the bounds there are. -/
theorem advance_inside {bits owed d : Nat} {low high : UInt8} (hd : d < 64)
    (hlow : low.toNat ≤ d + 128) (hhigh : d + 128 ≤ high.toNat) :
    advance (.inside bits owed low high) (UInt8.ofNat (d + 128)) =
      if owed ≤ 1 then ([Char.ofNat (bits * 64 + d)], .between)
      else ([], .inside (bits * 64 + d) (owed - 1) 0x80 0xBF) := by
  have hbyte : (UInt8.ofNat (d + 128)).toNat = d + 128 := UInt8.toNat_ofNat_of_lt' (by
    show d + 128 < 256
    omega)
  have hbits : (d + 128) % 64 = d := by omega
  have hwithin : (low ≤ UInt8.ofNat (d + 128) && UInt8.ofNat (d + 128) ≤ high) = true := by
    rw [Bool.and_eq_true, decide_eq_true_eq, decide_eq_true_eq, UInt8.le_iff_toNat_le, UInt8.le_iff_toNat_le,
      hbyte]
    exact ⟨hlow, hhigh⟩
  rw [advance, if_pos hwithin, hbyte, hbits]

theorem advance_tail {bits owed d : Nat} (hd : d < 64) :
    advance (.inside bits owed 0x80 0xBF) (UInt8.ofNat (d + 128)) =
      if owed ≤ 1 then ([Char.ofNat (bits * 64 + d)], .between)
      else ([], .inside (bits * 64 + d) (owed - 1) 0x80 0xBF) :=
  advance_inside hd (Nat.le_add_left 128 d) (show d + 128 ≤ 191 by omega)

/-- A character is read from its own bytes, whatever follows them. -/
theorem decodeFrom_encodeChar (c : Char) (rest : Bytes) :
    decodeFrom .between (String.utf8EncodeChar c ++ rest) = c :: decodeFrom .between rest := by
  have hc : Char.ofNat c.val.toNat = c := Char.ofNat_toNat c
  have hvalid : c.val.toNat < 0xD800 ∨ 0xDFFF < c.val.toNat ∧ c.val.toNat < 0x110000 := c.valid
  generalize hv : c.val.toNat = v at hc hvalid
  unfold String.utf8EncodeChar
  rw [hv]
  dsimp only
  split
  · -- one byte
    have hlt : UInt8.ofNat v < 0x80 := by
      rw [UInt8.lt_iff_toNat_lt, UInt8.toNat_ofNat_of_lt' (by show v < 256; omega)]
      show v < 128
      omega
    have hbyte : (UInt8.ofNat v).toNat = v := UInt8.toNat_ofNat_of_lt' (by show v < 256; omega)
    simp [decodeFrom, advance, enter, hlt, hbyte, hc]
  split
  · -- two bytes
    have hall : v / 64 % 32 * 64 + v % 64 = v := by omega
    simp only [List.cons_append, List.nil_append, decodeFrom, advance_between,
      enter_two (v / 64 % 32) (by omega) (by omega)]
    rw [advance_tail (by omega), if_pos (Nat.le_refl 1), hall, hc]
    rfl
  split
  · -- three bytes, the second of which keeps clear of overlong forms and of surrogates
    have hall : (v / 4096 % 16 * 64 + v / 64 % 64) * 64 + v % 64 = v := by omega
    have hlow : (if v / 4096 % 16 = 0 then (0xA0 : UInt8) else 0x80).toNat ≤ v / 64 % 64 + 128 := by
      split
      · show 160 ≤ _
        omega
      · show 128 ≤ _
        omega
    have hhigh : v / 64 % 64 + 128 ≤ (if v / 4096 % 16 = 13 then (0x9F : UInt8) else 0xBF).toNat := by
      split
      · show _ ≤ 159
        omega
      · show _ ≤ 191
        omega
    simp only [List.cons_append, List.nil_append, decodeFrom, advance_between, enter_three (v / 4096 % 16) (by omega)]
    rw [advance_inside (by omega) hlow hhigh, if_neg (by omega)]
    simp only [List.nil_append]
    rw [advance_tail (by omega), if_pos (Nat.le_refl 1), hall, hc]
    rfl
  · -- four bytes, the second of which keeps clear of overlong forms and of what is above 10FFFF
    have hall : ((v / 262144 % 8 * 64 + v / 4096 % 64) * 64 + v / 64 % 64) * 64 + v % 64 = v := by omega
    have hlow : (if v / 262144 % 8 = 0 then (0x90 : UInt8) else 0x80).toNat ≤ v / 4096 % 64 + 128 := by
      split
      · show 144 ≤ _
        omega
      · show 128 ≤ _
        omega
    have hhigh : v / 4096 % 64 + 128 ≤ (if v / 262144 % 8 = 4 then (0x8F : UInt8) else 0xBF).toNat := by
      split
      · show _ ≤ 143
        omega
      · show _ ≤ 191
        omega
    simp only [List.cons_append, List.nil_append, decodeFrom, advance_between, enter_four (v / 262144 % 8) (by omega)]
    rw [advance_inside (by omega) hlow hhigh, if_neg (by omega)]
    simp only [List.nil_append]
    rw [advance_tail (by omega), if_neg (by omega)]
    simp only [List.nil_append]
    rw [advance_tail (by omega), if_pos (Nat.le_refl 1), hall, hc]
    rfl

/-- Text is read as it is. -/
theorem decodeLossy_ofChars : ∀ cs : List Char, decodeLossy (Bytes.ofChars cs) = cs
  | [] => rfl
  | c :: cs => by
    rw [Bytes.ofChars, List.flatMap_cons, decodeLossy, decodeFrom_encodeChar]
    exact congrArg (c :: ·) (decodeLossy_ofChars cs)

end ScopeLink.Utf8
