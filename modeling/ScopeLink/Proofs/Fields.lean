import Mathlib.Data.List.Forall2
import ScopeLink.Text.Fields
/-!
# What the fields of a text are

`Stripped` says what is left of a text without the characters of a set at its ends, and `Cut` how a text falls
into at most so many pieces with a delimiter between each two. There is one text and one list of pieces that
fit, and these are what trimming and cutting give (`trimSet_eq_iff`, `cut_pieces`, `pieces_of_cut`).
-/

namespace ScopeLink.Text

/-- What may stand between two fields. -/
def delimiters : List Char := [',', ';', '\n']

theorem isDelimiter_iff {c : Char} : isDelimiter c = true ↔ c ∈ delimiters := by
  simp [isDelimiter, delimiters, or_assoc]

theorem isDelimiter_eq_false_iff {c : Char} : isDelimiter c = false ↔ c ∉ delimiters := by
  rw [← isDelimiter_iff, Bool.not_eq_true]

/-- The number of delimiters in a text. -/
def delimiterCount (text : List Char) : Nat := text.count ',' + text.count ';' + text.count '\n'

theorem countP_isDelimiter (text : List Char) : text.countP isDelimiter = delimiterCount text := by
  induction text with
  | nil => rfl
  | cons c text ih =>
    simp only [delimiterCount, List.countP_cons, List.count_cons, ih, isDelimiter, Bool.or_eq_true, beq_iff_eq]
    by_cases hcomma : c = ','
    · subst hcomma
      simp
      omega
    · by_cases hsemicolon : c = ';'
      · subst hsemicolon
        simp
        omega
      · simp [hcomma, hsemicolon]
        omega

/-! ## Stripped text -/

/-- `core` is `text` without characters of `set` in front of it and behind it, and it neither begins nor ends
with one. -/
structure Stripped (set text core : List Char) : Prop where
  within : ∃ front back, text = front ++ core ++ back ∧ (∀ c ∈ front, c ∈ set) ∧ ∀ c ∈ back, c ∈ set
  begins : ∀ c, core.head? = some c → c ∉ set
  ends : ∀ c, core.getLast? = some c → c ∉ set

/-- Trimming gives the one text that is stripped of the set. -/
theorem trimSet_eq_iff {set text core : List Char} : trimSet set text = core ↔ Stripped set text core := by
  have hset : ∀ c, set.contains c = true ↔ c ∈ set := fun c => by simp
  constructor
  · rintro rfl
    obtain ⟨front, back, htext, hfront, hback⟩ := exists_trim_eq (fun c => set.contains c) text
    obtain ⟨hbegins, hends⟩ := trimmed_trim (fun c => set.contains c) text
    refine ⟨⟨front, back, htext, ?_, ?_⟩, ?_, ?_⟩
    · exact fun c hc => (hset c).mp (hfront c hc)
    · exact fun c hc => (hset c).mp (hback c hc)
    · exact fun c hc => by simpa using hbegins c hc
    · exact fun c hc => by simpa using hends c hc
  · rintro ⟨⟨front, back, rfl, hfront, hback⟩, hbegins, hends⟩
    have htrimmed : Trimmed (fun c => set.contains c) core :=
      ⟨fun c hc => by simpa using hbegins c hc, fun c hc => by simpa using hends c hc⟩
    calc trimSet set (front ++ core ++ back)
      _ = trimSet set (front ++ core) := trim_append_of_back (fun c hc => (hset c).mpr (hback c hc)) _
      _ = trimSet set core := trim_append_of_front (fun c hc => (hset c).mpr (hfront c hc)) _
      _ = core := trim_of_trimmed htrimmed

/-- Text that neither begins nor ends with a character of the set has nothing to lose. -/
theorem stripped_self {set core : List Char} (hbegins : ∀ c, core.head? = some c → c ∉ set)
    (hends : ∀ c, core.getLast? = some c → c ∉ set) : Stripped set core core :=
  ⟨⟨[], [], by simp, by simp, by simp⟩, hbegins, hends⟩

theorem Stripped.mem {set text core : List Char} (h : Stripped set text core) {c : Char} (hc : c ∈ core) :
    c ∈ text := by
  obtain ⟨front, back, rfl, -, -⟩ := h.within
  simp [hc]

/-! ## Cut text -/

/-- There is no delimiter in the text. -/
def Undivided (text : List Char) : Prop := ∀ c ∈ text, c ∉ delimiters

/-- The first delimiter of the text has `front` before it and `rest` behind it. -/
def Halves (text front rest : List Char) : Prop := ∃ d ∈ delimiters, text = front ++ d :: rest ∧ Undivided front

theorem undivided_iff {text : List Char} : Undivided text ↔ text.countP isDelimiter = 0 := by
  simp only [Undivided, List.countP_eq_zero, isDelimiter_iff]

theorem halves_or_undivided (text : List Char) : (∃ front rest, Halves text front rest) ∨ Undivided text := by
  by_cases h : 0 < text.countP isDelimiter
  · obtain ⟨front, d, rest, htext, hd, hfront, -⟩ := exists_cut h
    exact .inl ⟨front, rest, d, isDelimiter_iff.mp hd, htext, fun c hc => isDelimiter_eq_false_iff.mp (hfront c hc)⟩
  · exact .inr (undivided_iff.mpr (Nat.eq_zero_of_not_pos h))

theorem pieces_of_halves {text front rest : List Char} (h : Halves text front rest) (n : Nat) :
    pieces (n + 2) text = front :: pieces (n + 1) rest := by
  obtain ⟨d, hd, rfl, hfront⟩ := h
  exact pieces_append (isDelimiter_iff.mpr hd) n rest fun c hc => isDelimiter_eq_false_iff.mpr (hfront c hc)

theorem pieces_of_undivided {text : List Char} (h : Undivided text) : ∀ n : Nat, pieces (n + 1) text = [text]
  | 0 => rfl
  | n + 1 => by rw [pieces, cutField_of_none (undivided_iff.mp h)]

/-- The pieces with the delimiters between them. -/
def interleave : List (List Char) → List Char → List Char
  | [], _ => []
  | piece :: _, [] => piece
  | piece :: pieces, d :: ds => piece ++ d :: interleave pieces ds

/-- The pieces and the delimiters between them make up the text. There are at most `n` pieces, and none is
divided but the last one, and that only if it is the `n`-th. -/
structure Cut (n : Nat) (text : List Char) (pieces : List (List Char)) (ds : List Char) : Prop where
  length : pieces.length = ds.length + 1
  atMost : pieces.length ≤ n
  whole : text = interleave pieces ds
  between : ∀ d ∈ ds, d ∈ delimiters
  front : ∀ piece ∈ pieces.dropLast, Undivided piece
  last : pieces.length ≠ n → ∀ piece, pieces.getLast? = some piece → Undivided piece

theorem cut_whole {n : Nat} {text : List Char} (h : n ≠ 0 → Undivided text) : Cut (n + 1) text [text] [] where
  length := rfl
  atMost := by simp
  whole := rfl
  between := by simp
  front := by simp
  last := by simpa using h

theorem cut_cons {n : Nat} {d : Char} {ds front rest : List Char} {pieces : List (List Char)}
    (hfront : Undivided front) (hd : d ∈ delimiters) (h : Cut n rest pieces ds) :
    Cut (n + 1) (front ++ d :: rest) (front :: pieces) (d :: ds) := by
  obtain ⟨hlength, hle, rfl, hbetween, hfront', hlast⟩ := h
  rcases pieces with _ | ⟨next, pieces⟩
  · simp at hlength
  · refine ⟨by simpa using hlength, by simpa using hle, rfl, ?_, ?_, ?_⟩
    · simpa using ⟨hd, hbetween⟩
    · rw [List.dropLast_cons_cons, List.forall_mem_cons]
      exact ⟨hfront, hfront'⟩
    · intro hne
      rw [List.getLast?_cons_cons]
      exact hlast (by simpa using hne)

/-- A text is cut into its pieces. -/
theorem cut_pieces : ∀ (n : Nat) (text : List Char), ∃ ds, Cut (n + 1) text (pieces (n + 1) text) ds
  | 0, text => ⟨[], cut_whole (by simp)⟩
  | n + 1, text => by
    rcases halves_or_undivided text with ⟨front, rest, halves⟩ | undivided
    · rw [pieces_of_halves halves]
      obtain ⟨d, hd, rfl, hfront⟩ := halves
      obtain ⟨ds, hcut⟩ := cut_pieces n rest
      exact ⟨d :: ds, cut_cons hfront hd hcut⟩
    · rw [pieces_of_undivided undivided]
      exact ⟨[], cut_whole fun _ => undivided⟩

/-- No other pieces will do. -/
theorem pieces_of_cut : ∀ {n : Nat} {text : List Char} {raw : List (List Char)} {ds : List Char},
    Cut (n + 1) text raw ds → pieces (n + 1) text = raw
  | n, text, [], ds, h => by simpa using h.length
  | n, text, [piece], d :: ds, h => by simpa using h.length
  | n, text, piece :: next :: raw, [], h => by simpa using h.length
  | 0, text, piece :: next :: raw, d :: ds, h => by simpa using h.atMost
  | 0, text, [piece], [], h => by rw [h.whole, interleave, pieces]
  | n + 1, text, [piece], [], h => by
    have hpiece : Undivided piece := h.last (by simp) piece rfl
    rw [h.whole, interleave, pieces_of_undivided hpiece]
  | n + 1, text, piece :: next :: raw, d :: ds, h => by
    obtain ⟨hlength, hle, rfl, hbetween, hfront, hlast⟩ := h
    rw [List.dropLast_cons_cons, List.forall_mem_cons] at hfront
    rw [List.getLast?_cons_cons] at hlast
    rw [List.forall_mem_cons] at hbetween
    have hrest : Cut (n + 1) (interleave (next :: raw) ds) (next :: raw) ds :=
      ⟨by simpa using hlength, by simpa using hle, rfl, hbetween.2, hfront.2,
        fun hne => hlast (by simpa using hne)⟩
    have halves : Halves (interleave (piece :: next :: raw) (d :: ds)) piece (interleave (next :: raw) ds) :=
      ⟨d, hbetween.1, rfl, hfront.1⟩
    rw [pieces_of_halves halves, pieces_of_cut hrest]

/-- How many pieces are asked for makes no difference to those in front of the last. -/
theorem take_pieces : ∀ {k n : Nat} (text : List Char), k ≤ n →
    (pieces (n + 1) text).take k = (pieces (k + 1) text).take k
  | 0, _, _, _ => by simp
  | k + 1, 0, _, h => by simp at h
  | k + 1, n + 1, text, h => by
    rcases halves_or_undivided text with ⟨front, rest, halves⟩ | undivided
    · rw [pieces_of_halves halves, pieces_of_halves halves, List.take_succ_cons, List.take_succ_cons,
        take_pieces rest (Nat.le_of_succ_le_succ h)]
    · rw [pieces_of_undivided undivided, pieces_of_undivided undivided]

/-! ## Fields -/

/-- The field of a piece is what is left of it without spaces, carriage returns, newlines and tabs at its
ends. -/
def FieldOf (piece field : List Char) : Prop := Stripped [' ', '\r', '\n', '\t'] piece field

theorem trimField_eq_iff {piece field : List Char} : trimField piece = field ↔ FieldOf piece field :=
  trimSet_eq_iff

theorem fieldOf_trimField (piece : List Char) : FieldOf piece (trimField piece) := trimField_eq_iff.mp rfl

/-- The fields of a text are those of its pieces. -/
theorem fields_eq_iff {n : Nat} {text : List Char} {found : List (List Char)} :
    fields (n + 1) text = found ↔ ∃ raw ds, Cut (n + 1) text raw ds ∧ List.Forall₂ FieldOf raw found := by
  have hmap : ∀ raw, List.Forall₂ FieldOf raw found ↔ raw.map trimField = found := by
    intro raw
    have heach : FieldOf = fun piece field => trimField piece = field := by
      funext piece field
      exact propext trimField_eq_iff.symm
    rw [heach, ← List.forall₂_map_left_iff, List.forall₂_eq_eq_eq]
  simp only [hmap]
  constructor
  · rintro rfl
    obtain ⟨ds, hcut⟩ := cut_pieces n text
    exact ⟨_, ds, hcut, rfl⟩
  · rintro ⟨raw, ds, hcut, rfl⟩
    rw [fields, pieces_of_cut hcut]

theorem length_fields (n : Nat) (text : List Char) :
    (fields n text).length = min n (1 + delimiterCount text) := by
  rw [fields, List.length_map, length_pieces, countP_isDelimiter]

theorem take_fields {k n : Nat} (text : List Char) (h : k ≤ n) :
    (fields (n + 1) text).take k = (fields (k + 1) text).take k := by
  rw [fields, fields, ← List.map_take, ← List.map_take, take_pieces text h]

/-- **The fields of a text.** If at most `n` fields are asked for, there are one more than there are delimiters,
but at most `n`. Unless none are asked for, they are the stripped pieces of the one way to cut the text, and
those in front of the last do not depend on how many are asked for. For any set of characters, trimming gives the
one text that is stripped of them, and trimming that changes nothing; so no field begins or ends with a
character that is trimmed off. -/
theorem fields_specified (text : List Char) :
    (∀ n, (fields n text).length = min n (1 + delimiterCount text)) ∧
    (∀ n found, fields (n + 1) text = found ↔
      ∃ raw ds, Cut (n + 1) text raw ds ∧ List.Forall₂ FieldOf raw found) ∧
    (∀ n m, (fields (n + 1) text).take (min n m) = (fields (m + 1) text).take (min n m)) ∧
    (∀ set core, trimSet set text = core ↔ Stripped set text core) ∧
    (∀ set, trimSet set (trimSet set text) = trimSet set text) ∧
    ∀ n, ∀ field ∈ fields n text, ∀ c, field.head? = some c ∨ field.getLast? = some c →
      c ∉ [' ', '\r', '\n', '\t'] := by
  refine ⟨fun n => length_fields n text, fun n found => fields_eq_iff, ?_, fun set core => trimSet_eq_iff, ?_, ?_⟩
  · intro n m
    rw [take_fields text (Nat.min_le_left n m), take_fields text (Nat.min_le_right n m)]
  · intro set
    have hstripped : Stripped set text (trimSet set text) := trimSet_eq_iff.mp rfl
    exact trimSet_eq_iff.mpr (stripped_self hstripped.begins hstripped.ends)
  · intro n field hfield c hc
    obtain ⟨piece, -, rfl⟩ := List.mem_map.mp hfield
    have hstripped := fieldOf_trimField piece
    rcases hc with hc | hc
    · exact hstripped.begins c hc
    · exact hstripped.ends c hc

/-- A newline that is a delimiter, one that is trimmed off, and a delimiter beyond the last piece. -/
theorem fields_specified_of_mixed_text :
    let text := "a \n\t,b\n".toList
    (∃ raw ds, Cut 2 text raw ds ∧ List.Forall₂ FieldOf raw ["a".toList, ",b".toList]) ∧
      (fields 2 text).take 1 = (fields 4 text).take 1 ∧ ',' ∉ [' ', '\r', '\n', '\t'] := by
  intro text
  obtain ⟨-, hcut, htake, -, -, hstripped⟩ := fields_specified text
  have hfields : fields 2 text = ["a".toList, ",b".toList] := by decide +kernel
  refine ⟨(hcut 1 _).mp hfields, htake 1 3, hstripped 2 ",b".toList ?_ ',' (.inl rfl)⟩
  rw [hfields]
  exact List.mem_cons_of_mem _ List.mem_cons_self

end ScopeLink.Text
