import ScopeLink.Text.Trim
/-!
# Fields of a reply

A reply is fields between delimiters: comma, semicolon or newline. A reader asks for at most so
many of them; the last one it asks for keeps whatever follows, delimiters included. Each field is
trimmed of spaces, carriage returns, newlines and tabs.
-/

namespace ScopeLink.Text

/-- What fields are cut at (`is_delimiter`). -/
def isDelimiter (c : Char) : Bool := c == ',' || c == ';' || c == '\n'

/-- The characters trimmed off a field (`STRIP_CHARS`). -/
def strip : List Char := [' ', '\r', '\n', '\t']

def trimField (cs : List Char) : List Char := trimSet strip cs

/-- The text before the first delimiter, and what comes after it if there is one. -/
def cutField : List Char → List Char × Option (List Char)
  | [] => ([], none)
  | c :: cs =>
    if isDelimiter c then ([], some cs)
    else (c :: (cutField cs).1, (cutField cs).2)

/-- At most `n` pieces of a text, cut at delimiters, untrimmed. -/
def pieces : Nat → List Char → List (List Char)
  | 0, _ => []
  | 1, cs => [cs]
  | n + 2, cs =>
    match cutField cs with
    | (piece, none) => [piece]
    | (piece, some rest) => piece :: pieces (n + 1) rest

/-- At most `n` fields of a text (`tokenize`). -/
def fields (n : Nat) (cs : List Char) : List (List Char) := (pieces n cs).map trimField

/-! ## Lemmas -/

theorem cutField_none {cs piece : List Char} (h : cutField cs = (piece, none)) :
    piece = cs ∧ ∀ c ∈ cs, isDelimiter c = false := by
  induction cs generalizing piece with
  | nil => simp_all [cutField]
  | cons c cs ih =>
    by_cases hc : isDelimiter c = true
    · simp [cutField, hc] at h
    · simp only [cutField, hc, if_false, Prod.mk.injEq, Bool.false_eq_true] at h
      obtain ⟨rfl, h2⟩ := h
      have e : cutField cs = ((cutField cs).1, none) := Prod.ext rfl h2
      obtain ⟨h1, h3⟩ := ih e
      exact ⟨by rw [h1], by simpa [hc] using h3⟩

theorem cutField_some {cs piece rest : List Char} (h : cutField cs = (piece, some rest)) :
    ∃ d, isDelimiter d = true ∧ cs = piece ++ d :: rest ∧ ∀ c ∈ piece, isDelimiter c = false := by
  induction cs generalizing piece with
  | nil => simp [cutField] at h
  | cons c cs ih =>
    by_cases hc : isDelimiter c = true
    · simp only [cutField, hc, if_true, Prod.mk.injEq, Option.some.injEq] at h
      obtain ⟨rfl, rfl⟩ := h
      exact ⟨c, hc, rfl, by simp⟩
    · simp only [cutField, hc, if_false, Prod.mk.injEq, Bool.false_eq_true] at h
      obtain ⟨rfl, h2⟩ := h
      have e : cutField cs = ((cutField cs).1, some rest) := Prod.ext rfl h2
      obtain ⟨d, hd, h1, h3⟩ := ih e
      exact ⟨d, hd, by rw [h1]; simp [← h1], by simpa [hc] using h3⟩

theorem trimField_append_singleton {c : Char} (hc : strip.contains c = true) (cs : List Char) :
    trimField (cs ++ [c]) = trimField cs :=
  trim_append_singleton hc cs

/-- Text without a delimiter is not cut. -/
theorem cutField_of_none : ∀ {cs : List Char}, cs.countP isDelimiter = 0 → cutField cs = (cs, none)
  | [], _ => rfl
  | c :: cs, h => by
    obtain ⟨hc, hcs⟩ : isDelimiter c = false ∧ cs.countP isDelimiter = 0 := by
      simpa [List.countP_cons, and_comm] using h
    rw [cutField, if_neg (by simp [hc]), cutField_of_none hcs]

/-- A piece is cut off at the delimiter behind it. -/
theorem cutField_append {d : Char} (hd : isDelimiter d = true) (rest : List Char) : ∀ {piece : List Char},
    (∀ c ∈ piece, isDelimiter c = false) → cutField (piece ++ d :: rest) = (piece, some rest)
  | [], _ => by simp [cutField, hd]
  | c :: piece, h => by
    have hc : isDelimiter c = false := h c List.mem_cons_self
    have ih := cutField_append hd rest fun c' hc' => h c' (List.mem_cons_of_mem _ hc')
    rw [List.cons_append, cutField, if_neg (by simp [hc]), ih]

theorem pieces_append {d : Char} (hd : isDelimiter d = true) (n : Nat) (rest : List Char) {piece : List Char}
    (h : ∀ c ∈ piece, isDelimiter c = false) :
    pieces (n + 2) (piece ++ d :: rest) = piece :: pieces (n + 1) rest := by
  rw [pieces, cutField_append hd rest h]

theorem countP_isDelimiter_append {d : Char} (hd : isDelimiter d = true) (rest : List Char) {piece : List Char}
    (h : ∀ c ∈ piece, isDelimiter c = false) :
    (piece ++ d :: rest).countP isDelimiter = 1 + rest.countP isDelimiter := by
  have hnone : piece.countP isDelimiter = 0 := List.countP_eq_zero.mpr fun c hc => by simp [h c hc]
  rw [List.countP_append, hnone, List.countP_cons_of_pos hd]
  omega

/-- Text with a delimiter is cut at the first of them. -/
theorem exists_cut {cs : List Char} (h : 0 < cs.countP isDelimiter) : ∃ piece d rest, cs = piece ++ d :: rest ∧
    isDelimiter d = true ∧ (∀ c ∈ piece, isDelimiter c = false) ∧
    cs.countP isDelimiter = 1 + rest.countP isDelimiter := by
  cases hcut : cutField cs with
  | mk piece rest =>
    cases rest with
    | none =>
      obtain ⟨c, hc, hdelimiter⟩ := List.countP_pos_iff.mp h
      rw [(cutField_none hcut).2 c hc] at hdelimiter
      cases hdelimiter
    | some rest =>
      obtain ⟨d, hd, rfl, hpiece⟩ := cutField_some hcut
      exact ⟨piece, d, rest, rfl, hd, hpiece, countP_isDelimiter_append hd rest hpiece⟩

/-- There is a piece more than there are delimiters, if so many are asked for. -/
theorem length_pieces : ∀ (n : Nat) (cs : List Char), (pieces n cs).length = min n (1 + cs.countP isDelimiter)
  | 0, _ => by simp [pieces]
  | 1, _ => by
    rw [pieces, List.length_singleton]
    omega
  | n + 2, cs => by
    by_cases h : 0 < cs.countP isDelimiter
    · obtain ⟨piece, d, rest, rfl, hd, hpiece, hcount⟩ := exists_cut h
      rw [pieces_append hd n rest hpiece, List.length_cons, length_pieces (n + 1) rest, hcount]
      omega
    · have hcount : cs.countP isDelimiter = 0 := Nat.eq_zero_of_not_pos h
      rw [pieces, cutField_of_none hcount, hcount]
      simp

end ScopeLink.Text
