import ScopeLink.Proofs.Emulator.Compound
import ScopeLink.Proofs.Instrument.Reports
/-!
# Questions for the identity

The identity is the answer to a common query, whose mnemonic begins with an asterisk. The short form of that
mnemonic is the capitals of its printed form, as it is of any other, and so has no asterisk: a unit is answered
with the identity exactly if its header is the common question (`CommonQuestion`) or the same without the
asterisk (`BareQuestion`), and then only where nothing of a path is put in front of it. What any other unit
contributes to a reply does not depend on the identity at all.
-/

namespace ScopeLink.Emulator

open Instrument (Spells eqIgnoreCase_iff_spells)
open Text (splitOn trimEnd)

/-! ## What a unit contributes -/

/-- The acquisition behind units, the latest of them first. -/
def acquisitionBehind (e : Emulator) : List (List Char) → Acquisition
  | [] => e.acquisition
  | u :: before =>
    let words := wordsBehind (subsystem before) (header u)
    (execute e.identity.toList (acquisitionBehind e before) words (argument u)).2

/-- What a unit contributes to the reply behind others, the latest of them first. -/
def contribution (e : Emulator) (before : List (List Char)) (u : List Char) : Option (List Char) :=
  let words := wordsBehind (subsystem before) (header u)
  (execute e.identity.toList (acquisitionBehind e before) words (argument u)).1

/-- What units contribute, each behind those before it. -/
def contributions (e : Emulator) : (before us : List (List Char)) → List (List Char)
  | _, [] => []
  | before, u :: us => (contribution e before u).toList ++ contributions e (u :: before) us

theorem executeUnits_contributions (e : Emulator) : ∀ us before : List (List Char),
    (executeUnits e.identity.toList (subsystem before) (acquisitionBehind e before) us).1 =
      contributions e before us
  | [], _ => rfl
  | u :: us, before => by
    dsimp only [executeUnits]
    rw [pathAfter_subsystem, resolve_eq_wordsBehind]
    exact congrArg _ (executeUnits_contributions e us (u :: before))

/-- The unit is answered with the identity, whatever that is. -/
def Identifies (e : Emulator) (before : List (List Char)) (u : List Char) : Prop :=
  ∀ identity : String, contribution { e with identity } before u = some identity.toList

/-- The mnemonics ask, and they are taken for the question for the identity. -/
def Inquires (words : Words) : Prop :=
  isQuery words = true ∧ wordsMatch ["*IDN"] (withoutMarks words) = true

theorem acquisitionBehind_identity (e : Emulator) (identity : String) : ∀ before : List (List Char),
    acquisitionBehind { e with identity } before = acquisitionBehind e before
  | [] => rfl
  | u :: before => by
    dsimp only [acquisitionBehind]
    rw [acquisitionBehind_identity e identity before]
    by_cases hquery : isQuery (wordsBehind (subsystem before) (header u)) = true
    · rw [execute_of_isQuery _ _ _ hquery, execute_of_isQuery _ _ _ hquery]
    · -- a command is obeyed without a look at the identity
      rw [execute, execute, if_neg hquery, if_neg hquery]

theorem contribution_of_inquires (e : Emulator) {before : List (List Char)} {u : List Char}
    (h : Inquires (wordsBehind (subsystem before) (header u))) (identity : String) :
    contribution { e with identity } before u = some identity.toList := by
  rw [contribution, execute, if_pos h.1]
  exact if_pos h.2

theorem contribution_of_not_inquires (e : Emulator) {before : List (List Char)} {u : List Char}
    (h : ¬ Inquires (wordsBehind (subsystem before) (header u))) (identity : String) :
    contribution { e with identity } before u = contribution e before u := by
  dsimp only [contribution]
  rw [acquisitionBehind_identity]
  by_cases hquery : isQuery (wordsBehind (subsystem before) (header u)) = true
  · have hother : ¬ wordsMatch ["*IDN"] (withoutMarks (wordsBehind (subsystem before) (header u))) = true :=
      fun hmatch => h ⟨hquery, hmatch⟩
    rw [execute, execute, if_pos hquery, if_pos hquery, answer, answer, if_neg hother, if_neg hother]
  · have hcommand := eq_false_of_ne_true hquery
    rw [execute_reply_of_not_isQuery _ _ _ hcommand, execute_reply_of_not_isQuery _ _ _ hcommand]

theorem identifies_iff_inquires {e : Emulator} {before : List (List Char)} {u : List Char} :
    Identifies e before u ↔ Inquires (wordsBehind (subsystem before) (header u)) := by
  constructor
  · intro identifies
    by_contra h
    -- what does not depend on the identity cannot be two of them
    have hempty := contribution_of_not_inquires e h ""
    have hother := contribution_of_not_inquires e h "?"
    rw [identifies] at hempty hother
    rw [← hempty] at hother
    simp at hother
  · exact contribution_of_inquires e

/-! ## Headers of one mnemonic -/

/-- A header that stands for one mnemonic is that, behind colons at most, and has no path put in front. -/
theorem wordsBehind_eq_singleton_iff {path : Words} {h w : List Char} :
    wordsBehind path h = [w] ↔ ':' ∉ w ∧ (isAbsolute h = true ∨ path = []) ∧
      ∃ colons, h = colons ++ w ∧ ∀ c ∈ colons, c = ':' := by
  have hfront : h.takeWhile (· == ':') ++ h.dropWhile (· == ':') = h := List.takeWhile_append_dropWhile
  rw [← resolve_eq_wordsBehind]
  constructor
  · intro hresolve
    rw [resolve, List.append_eq_singleton_iff] at hresolve
    rcases hresolve with ⟨hpath, hsplit⟩ | ⟨-, hsplit⟩
    · have hw : h.dropWhile (· == ':') = w := by
        rw [← Text.joinWith_splitOn ':' (h.dropWhile _), hsplit]
        rfl
      refine ⟨fun hcolon => ?_, ?_, h.takeWhile (· == ':'), by rw [← hw, hfront], ?_⟩
      · exact (Text.mem_of_mem_splitOn (hsplit ▸ List.mem_singleton_self w) hcolon).2 rfl
      · by_cases habsolute : isAbsolute h = true
        · exact .inl habsolute
        · rw [if_neg habsolute] at hpath
          exact .inr hpath
      · intro c hc
        simpa using List.all_eq_true.mp List.all_takeWhile c hc
    · exact absurd hsplit (Text.splitOn_ne_nil _ _)
  · rintro ⟨hcolon, hpath, colons, rfl, hcolons⟩
    have hdrop : (colons ++ w).dropWhile (· == ':') = w := by
      rw [List.dropWhile_append_of_pos (by simpa using hcolons)]
      apply Text.dropWhile_of_head?
      intro c hc
      have hmem : c ∈ w := List.mem_of_head? hc
      simpa using fun heq : c = ':' => hcolon (heq ▸ hmem)
    have hnone : (if isAbsolute (colons ++ w) = true then [] else path) = [] := by
      rcases hpath with habsolute | rfl
      · rw [if_pos habsolute]
      · exact ite_self _
    rw [resolve, hnone, hdrop, Text.splitOn_of_not_mem hcolon, List.nil_append]

theorem wordsMatch_singleton {printed : String} {words : Words} :
    wordsMatch [printed] words = true ↔ ∃ w, words = [w] ∧ mnemonicMatches printed.toList w = true := by
  rcases words with _ | ⟨w, _ | ⟨w', words⟩⟩ <;> simp [wordsMatch]

theorem isQuery_singleton {w : List Char} : isQuery [w] = true ↔ w.getLast? = some '?' := by
  simp [isQuery]

/-! ## The mnemonic of the identity -/

/-- The common mnemonic: an asterisk and three letters of either case. -/
def CommonName (word : List Char) : Prop := ∃ letters, word = '*' :: letters ∧ Spells "IDN" letters

theorem mnemonicMatches_iff {word : List Char} :
    mnemonicMatches "*IDN".toList word = true ↔ Spells "IDN" word ∨ CommonName word := by
  have hshort : shortForm "*IDN".toList = "IDN".toList := by decide +kernel
  have hletters (letters : List Char) := eqIgnoreCase_iff_spells "IDN" letters (by decide +kernel)
  have hlong : Text.eqIgnoreCase word "*IDN".toList = true ↔ CommonName word := by
    rcases word with _ | ⟨c, letters⟩
    · simp [CommonName, Text.eqIgnoreCase]
    · have hcons : Text.eqIgnoreCase (c :: letters) "*IDN".toList = true ↔
          c.toLower = '*' ∧ Text.eqIgnoreCase letters "IDN".toList = true := by
        simp [Text.eqIgnoreCase]
      rw [hcons, hletters, Text.toLower_eq_iff_of_not_letter (by decide) (by decide)]
      simp [CommonName]
  rw [mnemonicMatches, Bool.or_eq_true, hshort, hletters, hlong]

theorem ne_nil_of_spells {word : List Char} (h : Spells "IDN" word) : word ≠ [] := by
  have hletters : List.Forall₂ (fun w c => c = w ∨ c = w.toLower) ['I', 'D', 'N'] word := h
  rcases hletters with _ | _
  exact List.cons_ne_nil _ _

/-- There are letters only in the word. -/
theorem not_mem_of_spells {word : List Char} {c : Char} (h : Spells "IDN" word) (hc : c.isAlpha = false) :
    c ∉ word := by
  have hletters : List.Forall₂ (fun w c => c = w ∨ c = w.toLower) ['I', 'D', 'N'] word := h
  rcases hletters with _ | ⟨hi, _ | ⟨hd, _ | ⟨hn, ⟨⟩⟩⟩⟩
  intro hmem
  simp only [List.mem_cons, List.not_mem_nil, or_false] at hmem
  rcases hmem with rfl | rfl | rfl
  · rcases hi with rfl | rfl <;> simp at hc
  · rcases hd with rfl | rfl <;> simp at hc
  · rcases hn with rfl | rfl <;> simp at hc

theorem not_mem_of_commonName {word : List Char} {c : Char} (h : CommonName word) (hc : c.isAlpha = false)
    (hne : c ≠ '*') : c ∉ word := by
  obtain ⟨letters, rfl, hspells⟩ := h
  intro hmem
  rcases List.mem_cons.mp hmem with hfirst | hmem
  · exact hne hfirst
  · exact not_mem_of_spells hspells hc hmem

/-- Neither form has anything in it that a header is cut at. -/
theorem uncut_of_mnemonic {word : List Char} (h : Spells "IDN" word ∨ CommonName word) :
    ':' ∉ word ∧ '?' ∉ word := by
  rcases h with hspells | hcommon
  · exact ⟨not_mem_of_spells hspells (by decide), not_mem_of_spells hspells (by decide)⟩
  · exact ⟨not_mem_of_commonName hcommon (by decide) (by decide),
      not_mem_of_commonName hcommon (by decide) (by decide)⟩

/-! ## Questions -/

/-- A header is colons, if any, one word and question marks. -/
structure Question (h colons word marks : List Char) : Prop where
  parts : h = colons ++ (word ++ marks)
  front : ∀ c ∈ colons, c = ':'
  back : ∀ c ∈ marks, c = '?'
  asks : marks ≠ []

/-- The common question. -/
def CommonQuestion (h : List Char) : Prop := ∃ colons word marks, Question h colons word marks ∧ CommonName word

/-- The question without the asterisk, from the root. -/
def BareQuestion (path : Words) (h : List Char) : Prop :=
  ∃ colons word marks, Question h colons word marks ∧ Spells "IDN" word ∧ (colons = [] → path = [])

/-- A mnemonic that asks is cut into a word and the marks behind it. -/
theorem exists_marks {w : List Char} (h : w.getLast? = some '?') :
    ∃ marks, w = trimEnd (· == '?') w ++ marks ∧ (∀ c ∈ marks, c = '?') ∧ marks ≠ [] := by
  refine ⟨(w.reverse.takeWhile (· == '?')).reverse, ?_, fun c hc => ?_, fun hnil => ?_⟩
  · rw [trimEnd, ← List.reverse_append, List.takeWhile_append_dropWhile, List.reverse_reverse]
  · simpa using List.all_eq_true.mp List.all_takeWhile c (List.mem_reverse.mp hc)
  · rw [← List.head?_reverse] at h
    obtain ⟨rest, hrest⟩ := List.head?_eq_some_iff.mp h
    simp [hrest] at hnil

theorem trimEnd_append_marks {word marks : List Char} (hword : '?' ∉ word) (hmarks : ∀ c ∈ marks, c = '?') :
    trimEnd (· == '?') (word ++ marks) = word := by
  have hback : ∀ c ∈ marks.reverse, (c == '?') = true := by simpa using hmarks
  rw [trimEnd, List.reverse_append, List.dropWhile_append_of_pos hback, Text.dropWhile_of_head?,
    List.reverse_reverse]
  intro c hc
  have hmem : c ∈ word := List.mem_reverse.mp (List.mem_of_head? hc)
  simpa using fun heq : c = '?' => hword (heq ▸ hmem)

section

variable {h colons word marks : List Char} (question : Question h colons word marks)
include question

theorem Question.getLast? : (word ++ marks).getLast? = some '?' := by
  have hlast := List.getLast?_eq_some_getLast question.asks
  rw [List.getLast?_append, hlast, question.back _ (List.getLast_mem question.asks)]
  rfl

theorem Question.colon_not_mem (hword : ':' ∉ word) : ':' ∉ word ++ marks := by
  intro hmem
  rcases List.mem_append.mp hmem with hmem | hmem
  · exact hword hmem
  · exact absurd (question.back _ hmem) (by decide)

/-- A question is taken for the one for the identity if its word is, and nothing is put in front of it. -/
theorem Question.inquires {path : Words} (hword : Spells "IDN" word ∨ CommonName word)
    (hroot : isAbsolute h = true ∨ path = []) : Inquires (wordsBehind path h) := by
  obtain ⟨hcolon, hmarks⟩ := uncut_of_mnemonic hword
  have hwords : wordsBehind path h = [word ++ marks] := by
    rw [wordsBehind_eq_singleton_iff]
    exact ⟨question.colon_not_mem hcolon, hroot, colons, question.parts, question.front⟩
  rw [hwords]
  refine ⟨isQuery_singleton.mpr question.getLast?, wordsMatch_singleton.mpr ⟨word, ?_, ?_⟩⟩
  · rw [withoutMarks, List.map_singleton, trimEnd_append_marks hmarks question.back]
  · exact mnemonicMatches_iff.mpr hword

theorem Question.isAbsolute_of_colons (hcolons : colons ≠ []) : isAbsolute h = true := by
  obtain ⟨c, rest, rfl⟩ := List.exists_cons_of_ne_nil hcolons
  rw [question.parts, question.front c List.mem_cons_self]
  rfl

end

/-- A word of letters is at the root by itself only if there is no path. -/
theorem Question.root_of_spells {h word marks : List Char} {path : Words} (question : Question h [] word marks)
    (hspells : Spells "IDN" word) (hroot : isAbsolute h = true ∨ path = []) : path = [] := by
  rcases hroot with habsolute | hroot
  · obtain ⟨c, rest, rfl⟩ := List.exists_cons_of_ne_nil (ne_nil_of_spells hspells)
    have hcolon : ':' ≠ c := List.ne_of_not_mem_cons (not_mem_of_spells hspells (by decide))
    have hasterisk : '*' ≠ c := List.ne_of_not_mem_cons (not_mem_of_spells hspells (by decide))
    rw [question.parts] at habsolute
    simp [isAbsolute, isCommon, hcolon.symm, hasterisk.symm] at habsolute
  · exact hroot

theorem inquires_iff {path : Words} {h : List Char} :
    Inquires (wordsBehind path h) ↔ CommonQuestion h ∨ BareQuestion path h := by
  constructor
  · rintro ⟨hquery, hmatch⟩
    obtain ⟨word, hwords, hword⟩ := wordsMatch_singleton.mp hmatch
    obtain ⟨w, hbehind, rfl⟩ := List.map_eq_singleton_iff.mp hwords
    rw [hbehind, isQuery_singleton] at hquery
    obtain ⟨-, hroot, colons, hparts, hcolons⟩ := wordsBehind_eq_singleton_iff.mp hbehind
    obtain ⟨marks, hw, hmarks, hasks⟩ := exists_marks hquery
    have question : Question h colons (trimEnd (· == '?') w) marks := ⟨hw ▸ hparts, hcolons, hmarks, hasks⟩
    rcases mnemonicMatches_iff.mp hword with hspells | hcommon
    · refine .inr ⟨colons, _, marks, question, hspells, ?_⟩
      rintro rfl
      exact question.root_of_spells hspells hroot
    · exact .inl ⟨colons, _, marks, question, hcommon⟩
  · rintro (⟨colons, word, marks, question, hcommon⟩ | ⟨colons, word, marks, question, hspells, hpath⟩)
    · apply question.inquires (.inr hcommon)
      by_cases hcolons : colons = []
      · obtain ⟨letters, rfl, -⟩ := hcommon
        rw [question.parts, hcolons]
        exact .inl rfl
      · exact .inl (question.isAbsolute_of_colons hcolons)
    · apply question.inquires (.inl hspells)
      by_cases hcolons : colons = []
      · exact .inr (hpath hcolons)
      · exact .inl (question.isAbsolute_of_colons hcolons)

/-! ## The rule -/

/-- The last mnemonic of a header, without the question marks behind it. -/
def lastWord (h : List Char) : List Char :=
  trimEnd (· == '?') ((splitOn ':' h).getLast (Text.splitOn_ne_nil ':' h))

/-- The identity is kept for the common query: a unit that is answered with it has the common mnemonic for the
last one of its header, and one without an asterisk in its header is not. -/
structure Reserved (e : Emulator) (before : List (List Char)) (u : List Char) : Prop where
  common : Identifies e before u → CommonName (lastWord (header u))
  asterisk : '*' ∉ header u → ¬ Identifies e before u

theorem getLast?_splitOn {colons w : List Char} (hcolons : ∀ c ∈ colons, c = ':') (hw : ':' ∉ w) :
    (splitOn ':' (colons ++ w)).getLast? = some w := by
  induction colons with
  | nil => rw [List.nil_append, Text.splitOn_of_not_mem hw, List.getLast?_singleton]
  | cons c colons ih =>
    rw [List.forall_mem_cons] at hcolons
    obtain ⟨rfl, hcolons⟩ := hcolons
    have hsplit : splitOn ':' (':' :: (colons ++ w)) = [] :: splitOn ':' (colons ++ w) := rfl
    rw [List.cons_append, hsplit, List.getLast?_cons, ih hcolons]
    rfl

theorem Question.lastWord_eq {h colons word marks : List Char} (question : Question h colons word marks)
    (hword : Spells "IDN" word ∨ CommonName word) : lastWord h = word := by
  obtain ⟨hcolon, hmark⟩ := uncut_of_mnemonic hword
  have hlast := getLast?_splitOn question.front (question.colon_not_mem hcolon)
  rw [← question.parts, List.getLast?_eq_some_getLast (Text.splitOn_ne_nil ':' h)] at hlast
  rw [lastWord, Option.some.inj hlast, trimEnd_append_marks hmark question.back]

theorem reserved_iff {e : Emulator} {before : List (List Char)} {u : List Char} :
    Reserved e before u ↔ ¬ BareQuestion (subsystem before) (header u) := by
  constructor
  · rintro reserved ⟨colons, word, marks, question, hspells, hpath⟩
    have identifies : Identifies e before u :=
      identifies_iff_inquires.mpr (inquires_iff.mpr (.inr ⟨colons, word, marks, question, hspells, hpath⟩))
    obtain ⟨letters, hlast, -⟩ := reserved.common identifies
    rw [question.lastWord_eq (.inl hspells)] at hlast
    have hasterisk : '*' ∉ word := not_mem_of_spells hspells (by decide)
    rw [hlast] at hasterisk
    exact hasterisk List.mem_cons_self
  · intro hbare
    have common (identifies : Identifies e before u) : CommonQuestion (header u) :=
      (inquires_iff.mp (identifies_iff_inquires.mp identifies)).resolve_right hbare
    constructor
    · intro identifies
      obtain ⟨colons, word, marks, question, hname⟩ := common identifies
      rwa [question.lastWord_eq (.inr hname)]
    · intro hasterisk identifies
      obtain ⟨colons, word, marks, question, letters, rfl, -⟩ := common identifies
      refine hasterisk ?_
      rw [question.parts]
      simp

/-- **Who is told the identity.** Whatever the state of the device, the reply to a message is what its units
contribute, in order. A unit contributes the identity exactly if its header is the common question, or the bare
one at the root, and otherwise nothing that depends on the identity; and the identity is kept for the common
query exactly by the units whose header is not the bare question. -/
theorem identity_reserved_iff (e : Emulator) (message : Bytes) :
    e.replyTo message = replyBytes (contributions e [] (units (Utf8.decodeLossy message))) ∧
    ∀ before u,
      (Identifies e before u ↔ CommonQuestion (header u) ∨ BareQuestion (subsystem before) (header u)) ∧
      (¬ Identifies e before u → ∀ identity, contribution { e with identity } before u = contribution e before u) ∧
      (Reserved e before u ↔ ¬ BareQuestion (subsystem before) (header u)) := by
  refine ⟨?_, fun before u => ⟨?_, fun h identity => ?_, reserved_iff⟩⟩
  · rw [← executeUnits_contributions e _ []]
    rfl
  · rw [identifies_iff_inquires, inquires_iff]
  · rw [identifies_iff_inquires] at h
    exact contribution_of_not_inquires e h identity

/-- Behind a path the question without the asterisk is not known; from the root it is. -/
example :
    let e : Emulator := { identity := "A,B,C,D" }
    contributions e [] (units "ACQ:STATE?; IDN?; *idn?; :IDN??".toList) =
      ["0".toList, "A,B,C,D".toList, "A,B,C,D".toList] := by decide +kernel

/-- A new device that is asked `IDN?`, with no asterisk, tells its identity. -/
theorem identity_told_without_asterisk :
    let e : Emulator := {}
    let u := "IDN?".toList
    units (Utf8.decodeLossy (Bytes.ofString "IDN?")) = [u] ∧ '*' ∉ header u ∧ Identifies e [] u ∧
      e.replyTo (Bytes.ofString "IDN?") = Bytes.ofString "PAUL ROUKEMA,TMCEMU,0,01-02\n" ∧
      ¬ Reserved e [] u := by
  intro e u
  have hheader : '*' ∉ header u := by decide +kernel
  have identifies : Identifies e [] u := contribution_of_inquires e ⟨by decide +kernel, by decide +kernel⟩
  exact ⟨by decide +kernel, hheader, identifies, by decide +kernel,
    fun reserved => reserved.asterisk hheader identifies⟩

end ScopeLink.Emulator
