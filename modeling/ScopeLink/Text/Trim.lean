/-!
# Cutting text

Text is a list of characters here. `trim` cuts the characters of a class off both ends, `splitOn`
cuts at every occurrence of one character.
-/

namespace ScopeLink.Text

def trimEnd (p : Char → Bool) (cs : List Char) : List Char := (cs.reverse.dropWhile p).reverse

/-- The text without the characters of `p` at its two ends. -/
def trim (p : Char → Bool) (cs : List Char) : List Char := trimEnd p (cs.dropWhile p)

/-- The text without the characters of `set` at its two ends (`trim`, with its cut set). -/
def trimSet (set : List Char) (cs : List Char) : List Char := trim (fun c => set.contains c) cs

/-- The pieces between the occurrences of `sep`; one more than there are occurrences. -/
def splitOn (sep : Char) : List Char → List (List Char)
  | [] => [[]]
  | c :: cs =>
    if c == sep then [] :: splitOn sep cs
    else match splitOn sep cs with
      | [] => [[c]]
      | piece :: pieces => (c :: piece) :: pieces

/-- Pieces put together again, with `sep` between each two. -/
def joinWith (sep : Char) : List (List Char) → List Char
  | [] => []
  | [piece] => piece
  | piece :: pieces => piece ++ sep :: joinWith sep pieces

theorem splitOn_ne_nil (sep : Char) : ∀ cs : List Char, splitOn sep cs ≠ []
  | [] => by simp [splitOn]
  | c :: cs => by
    unfold splitOn
    split
    · simp
    · split <;> simp

/-- Nothing is lost in splitting. -/
theorem joinWith_splitOn (sep : Char) : ∀ cs : List Char, joinWith sep (splitOn sep cs) = cs
  | [] => rfl
  | c :: cs => by
    have ih := joinWith_splitOn sep cs
    cases h : splitOn sep cs with
    | nil => exact absurd h (splitOn_ne_nil sep cs)
    | cons piece pieces =>
      rw [h] at ih
      by_cases hc : c = sep
      · simp [splitOn, hc, h, joinWith, ih]
      · cases pieces <;> simp_all [splitOn, joinWith]

theorem splitOn_eq (sep : Char) : ∀ cs : List Char, splitOn sep cs = cs.splitOn sep
  | [] => rfl
  | c :: cs => by
    rw [splitOn, splitOn_eq sep cs, List.splitOn_eq_splitOnP, List.splitOn_eq_splitOnP,
      List.splitOnP_cons_eq_if_modifyHead]
    cases h : cs.splitOnP (· == sep) with
    | nil => exact absurd h (List.splitOnP_ne_nil _ _)
    | cons piece pieces => rfl

/-- Text without a separator is one piece. -/
theorem splitOn_of_not_mem {sep : Char} : ∀ {cs : List Char}, sep ∉ cs → splitOn sep cs = [cs]
  | [], _ => rfl
  | c :: cs, h => by
    obtain ⟨hc, hcs⟩ := not_or.mp (mt List.mem_cons.mpr h)
    rw [splitOn, if_neg (by simpa using Ne.symm hc), splitOn_of_not_mem hcs]

/-- A character that is no separator stands in the first piece. -/
theorem splitOn_cons {sep c : Char} (hc : c ≠ sep) (cs : List Char) :
    ∃ piece pieces, splitOn sep (c :: cs) = (c :: piece) :: pieces := by
  rw [splitOn, if_neg (by simpa using hc)]
  cases hsplit : splitOn sep cs with
  | nil => exact ⟨[], [], rfl⟩
  | cons piece pieces => exact ⟨piece, pieces, rfl⟩

/-- A piece is cut off at the separator behind it. -/
theorem splitOn_append {sep : Char} (cs : List Char) : ∀ {piece : List Char}, sep ∉ piece →
    splitOn sep (piece ++ sep :: cs) = piece :: splitOn sep cs
  | [], _ => by simp [splitOn]
  | c :: piece, h => by
    obtain ⟨hc, hpiece⟩ := not_or.mp (mt List.mem_cons.mpr h)
    rw [List.cons_append, splitOn, if_neg (by simpa using Ne.symm hc), splitOn_append cs hpiece]

/-- Pieces without a separator are found again in what they are joined to. -/
theorem splitOn_joinWith {sep : Char} : ∀ {pieces : List (List Char)}, pieces ≠ [] →
    (∀ piece ∈ pieces, sep ∉ piece) → splitOn sep (joinWith sep pieces) = pieces
  | [], hne, _ => absurd rfl hne
  | [piece], _, h => splitOn_of_not_mem (h piece List.mem_cons_self)
  | piece :: piece' :: pieces, _, h => by
    rw [joinWith, splitOn_append _ (h piece List.mem_cons_self),
      splitOn_joinWith (List.cons_ne_nil _ _) fun p hp => h p (List.mem_cons_of_mem _ hp)]
    nofun

theorem head?_joinWith {sep : Char} {piece : List Char} {pieces : List (List Char)} (hne : piece ≠ []) :
    (joinWith sep (piece :: pieces)).head? = piece.head? := by
  cases pieces with
  | nil => rfl
  | cons piece' pieces =>
    obtain ⟨c, cs, rfl⟩ := List.exists_cons_of_ne_nil hne
    rfl

theorem mem_of_mem_joinWith {sep c : Char} : ∀ {pieces : List (List Char)}, c ∈ joinWith sep pieces →
    c = sep ∨ ∃ piece ∈ pieces, c ∈ piece
  | [piece], h => .inr ⟨piece, List.mem_cons_self, h⟩
  | piece :: piece' :: pieces, h => by
    rw [joinWith, List.mem_append, List.mem_cons] at h
    · obtain h | rfl | h := h
      · exact .inr ⟨piece, List.mem_cons_self, h⟩
      · exact .inl rfl
      · obtain rfl | ⟨p, hp, hc⟩ := mem_of_mem_joinWith h
        · exact .inl rfl
        · exact .inr ⟨p, List.mem_cons_of_mem _ hp, hc⟩
    · nofun

/-- The pieces of a text are made of its characters, without the separator. -/
theorem mem_of_mem_splitOn {sep c : Char} : ∀ {cs piece : List Char}, piece ∈ splitOn sep cs → c ∈ piece →
    c ∈ cs ∧ c ≠ sep
  | [], piece, hpiece, hc => by
    rw [splitOn, List.mem_singleton] at hpiece
    rw [hpiece] at hc
    cases hc
  | d :: cs, piece, hpiece, hc => by
    have rest {p : List Char} (hp : p ∈ splitOn sep cs) (hc : c ∈ p) : c ∈ d :: cs ∧ c ≠ sep := by
      obtain ⟨hmem, hne⟩ := mem_of_mem_splitOn hp hc
      exact ⟨List.mem_cons_of_mem _ hmem, hne⟩
    rw [splitOn] at hpiece
    split at hpiece
    · obtain rfl | hpiece := List.mem_cons.mp hpiece
      · cases hc
      · exact rest hpiece hc
    · rename_i hd
      cases hsplit : splitOn sep cs with
      | nil => exact absurd hsplit (splitOn_ne_nil sep cs)
      | cons first pieces =>
        rw [hsplit] at hpiece rest
        obtain rfl | hpiece := List.mem_cons.mp hpiece
        · obtain rfl | hc := List.mem_cons.mp hc
          · exact ⟨List.mem_cons_self, by simpa using hd⟩
          · exact rest List.mem_cons_self hc
        · exact rest (List.mem_cons_of_mem _ hpiece) hc

/-! ## Trimmed text -/

/-- Text with no character of `p` at either end. -/
def Trimmed (p : Char → Bool) (cs : List Char) : Prop :=
  (∀ c, cs.head? = some c → p c = false) ∧ ∀ c, cs.getLast? = some c → p c = false

theorem dropWhile_of_head? {p : Char → Bool} {cs : List Char} (h : ∀ c, cs.head? = some c → p c = false) :
    cs.dropWhile p = cs := by
  cases cs with
  | nil => rfl
  | cons c cs => exact List.dropWhile_cons_of_neg (by simp [h c rfl])

theorem head?_dropWhile {p : Char → Bool} {cs : List Char} :
    ∀ c, (cs.dropWhile p).head? = some c → p c = false := by
  intro c hc
  have hnot := List.head?_dropWhile_not p cs
  rw [hc] at hnot
  simpa using hnot

theorem trim_of_trimmed {p : Char → Bool} {cs : List Char} (h : Trimmed p cs) : trim p cs = cs := by
  rw [trim, dropWhile_of_head? h.1, trimEnd, dropWhile_of_head?, List.reverse_reverse]
  intro c hc
  rw [List.head?_reverse] at hc
  exact h.2 c hc

/-- A character of the class at the end is cut off. -/
theorem trim_append_singleton {p : Char → Bool} {c : Char} (hc : p c = true) (cs : List Char) :
    trim p (cs ++ [c]) = trim p cs := by
  have hend (cs : List Char) : trimEnd p (cs ++ [c]) = trimEnd p cs := by
    rw [trimEnd, List.reverse_append, List.reverse_singleton, List.singleton_append,
      List.dropWhile_cons_of_pos hc, trimEnd]
  rw [trim, List.dropWhile_append]
  split
  · rename_i hempty
    rw [trim, List.isEmpty_iff.mp hempty, List.dropWhile_cons_of_pos hc]
    rfl
  · exact hend _

theorem trim_append_of_front {p : Char → Bool} {front : List Char} (h : ∀ c ∈ front, p c = true)
    (cs : List Char) : trim p (front ++ cs) = trim p cs := by
  rw [trim, List.dropWhile_append_of_pos h, trim]

theorem trim_append_of_back {p : Char → Bool} {back : List Char} (h : ∀ c ∈ back, p c = true)
    (cs : List Char) : trim p (cs ++ back) = trim p cs := by
  induction back generalizing cs with
  | nil => rw [List.append_nil]
  | cons c back ih =>
    rw [List.forall_mem_cons] at h
    rw [List.append_cons, ih h.2, trim_append_singleton h.1]

/-- What is cut off stands in front of what is left and behind it. -/
theorem exists_trim_eq (p : Char → Bool) (cs : List Char) : ∃ front back, cs = front ++ trim p cs ++ back ∧
    (∀ c ∈ front, p c = true) ∧ ∀ c ∈ back, p c = true := by
  refine ⟨cs.takeWhile p, ((cs.dropWhile p).reverse.takeWhile p).reverse, ?_, ?_, ?_⟩
  · rw [trim, trimEnd, List.append_assoc, ← List.reverse_append, List.takeWhile_append_dropWhile,
      List.reverse_reverse, List.takeWhile_append_dropWhile]
  · exact List.all_eq_true.mp List.all_takeWhile
  · intro c hc
    exact List.all_eq_true.mp List.all_takeWhile c (List.mem_reverse.mp hc)

theorem front_trimEnd (p : Char → Bool) (cs : List Char) : trimEnd p cs <+: cs := by
  rw [trimEnd, ← List.reverse_suffix, List.reverse_reverse]
  exact List.dropWhile_suffix p

theorem trimmed_trim (p : Char → Bool) (cs : List Char) : Trimmed p (trim p cs) := by
  constructor
  · intro c hc
    obtain ⟨rest, hrest⟩ := front_trimEnd p (cs.dropWhile p)
    have hfront : (cs.dropWhile p).head? = some c := by
      rw [← hrest, List.head?_append, show (trimEnd p (cs.dropWhile p)).head? = some c from hc]
      rfl
    exact head?_dropWhile c hfront
  · intro c hc
    rw [trim, trimEnd, List.getLast?_reverse] at hc
    exact head?_dropWhile c hc

theorem mem_of_mem_trim {p : Char → Bool} {cs : List Char} {c : Char} (h : c ∈ trim p cs) : c ∈ cs :=
  (List.dropWhile_suffix p).subset ((front_trimEnd p _).subset h)

end ScopeLink.Text
