import ScopeLink.Proofs.Emulator.Exchange
/-!
# Compound messages

A message of several units does what the units do when each is sent as a message of its own, with its
header in full: the path from the root in front of a header that is relative to the unit before it. The
replies come in one line instead of one for each unit.

Which mnemonics a header has behind a path is read off its first character (`wordsBehind`), and the device
resolves it to those (`resolve_eq_wordsBehind`).

The path is carried from unit to unit. What makes a unit readable on its own is that every path is `Proper`:
none of its mnemonics has a blank or one of the separators in it, and the first one is not empty, so that
splitting finds them again behind the colon of a full header (`resolve_fullHeader`).
-/

namespace ScopeLink.Emulator

open Text (Trimmed isBlank joinWith splitOn)

/-! ## Units in full -/

/-- The mnemonics of a header behind a path. A colon in front says that it starts from the root, as does an
asterisk, which is a part of the first mnemonic; any other header goes on from the path. Each piece between
colons is a mnemonic. -/
def wordsBehind (path : Words) : List Char → Words
  | ':' :: h => wordsBehind [] h
  | '*' :: h => ('*' :: h).splitOn ':'
  | h => path ++ h.splitOn ':'

/-- The path that holds behind units, the latest of them first: all but the last mnemonic of the header of
the nearest one that is not common, or the root. -/
def subsystem : List (List Char) → Words
  | [] => []
  | u :: before =>
    if isCommon (header u) then subsystem before else (wordsBehind (subsystem before) (header u)).dropLast

/-- The header that stands for these mnemonics wherever it is; a common one does already. -/
def fullHeader (h : List Char) (words : Words) : List Char :=
  if isCommon h then h else ':' :: joinWith ':' words

/-- A unit by its header and its argument. -/
def compose (h arg : List Char) : List Char := h ++ if arg = [] then [] else ' ' :: arg

/-- A unit behind `path`, with its header in full. -/
def inFull (path : Words) (u : List Char) : List Char :=
  compose (fullHeader (header u) (wordsBehind path (header u))) (argument u)

/-- Units in full, each behind those before it. -/
def allInFull : (before us : List (List Char)) → List (List Char)
  | _, [] => []
  | before, u :: us => inFull (subsystem before) u :: allInFull (u :: before) us

/-- The replies to messages, one by one. -/
def replies (e : Emulator) : List Bytes → List Bytes
  | [] => []
  | m :: ms => e.replyTo m :: (e.receive m).replies ms

/-- Replies in one line: each without its newline, with semicolons between them and one newline at the
end. Where nothing was replied there is nothing. -/
def inOneLine (lines : List Bytes) : Bytes :=
  match lines.filter fun line => !line.isEmpty with
  | [] => []
  | lines => [59].intercalate (lines.map List.dropLast) ++ [10]

/-! ## A unit and its parts -/

/-- The characters of a header. -/
def Bare (cs : List Char) : Prop := ∀ c ∈ cs, isBlank c = false ∧ c ≠ ';'

/-- What the units of a message are. -/
structure IsUnit (u : List Char) : Prop where
  ne_nil : u ≠ []
  trimmed : Trimmed isBlank u
  single : ';' ∉ u

theorem isUnit_of_mem_units {message u : List Char} (h : u ∈ units message) : IsUnit u := by
  obtain ⟨hmem, hne⟩ := List.mem_filter.mp h
  obtain ⟨piece, hpiece, rfl⟩ := List.mem_map.mp hmem
  refine ⟨by simpa using hne, Text.trimmed_trim _ _, fun hsep => ?_⟩
  exact (Text.mem_of_mem_splitOn hpiece (Text.mem_of_mem_trim hsep)).2 rfl

theorem IsUnit.bare_header {u : List Char} (unit : IsUnit u) : Bare (header u) := by
  intro c hc
  refine ⟨by simpa using List.all_eq_true.mp List.all_takeWhile c hc, ?_⟩
  rintro rfl
  exact unit.single ((List.takeWhile_prefix _).subset hc)

theorem trimmed_argument (u : List Char) : Trimmed isBlank (argument u) := by
  unfold argument
  split
  · exact ⟨nofun, nofun⟩
  · exact Text.trimmed_trim _ _

theorem IsUnit.single_argument {u : List Char} (unit : IsUnit u) : ';' ∉ argument u := by
  intro hsep
  unfold argument at hsep
  split at hsep
  · cases hsep
  · rename_i rest hdrop
    have hmem : ';' ∈ u.dropWhile fun c => !isBlank c := by
      rw [hdrop]
      exact List.mem_cons_of_mem _ (Text.mem_of_mem_trim hsep)
    exact unit.single ((List.dropWhile_suffix _).subset hmem)

section

variable {h arg : List Char} (bare : Bare h)
include bare

theorem header_compose : header (compose h arg) = h := by
  have hall : ∀ c ∈ h, (!isBlank c) = true := fun c hc => by simp [(bare c hc).1]
  rw [header, compose, List.takeWhile_append_of_pos hall]
  split
  · simp
  · simp [show isBlank ' ' = true by decide]

theorem argument_compose (trimmed : Trimmed isBlank arg) : argument (compose h arg) = arg := by
  have hall : ∀ c ∈ h, (!isBlank c) = true := fun c hc => by simp [(bare c hc).1]
  rw [argument, compose, List.dropWhile_append_of_pos hall]
  by_cases none : arg = []
  · rw [if_pos none, none]
    rfl
  · rw [if_neg none, List.dropWhile_cons_of_neg (by decide)]
    exact Text.trim_of_trimmed trimmed

/-- A header and an argument make up one unit. -/
theorem units_compose (hne : h ≠ []) (trimmed : Trimmed isBlank arg) (single : ';' ∉ arg) :
    units (compose h arg) = [compose h arg] := by
  have hsingle : ';' ∉ compose h arg := by
    rw [compose, List.mem_append]
    rintro (hmem | hmem)
    · exact (bare _ hmem).2 rfl
    · split at hmem
      · cases hmem
      · obtain heq | hmem := List.mem_cons.mp hmem
        · cases heq
        · exact single hmem
  have htrimmed : Trimmed isBlank (compose h arg) := by
    constructor
    · intro c hc
      obtain ⟨first, rest, rfl⟩ := List.exists_cons_of_ne_nil hne
      cases hc
      exact (bare _ List.mem_cons_self).1
    · intro c hc
      rw [compose] at hc
      by_cases none : arg = []
      · rw [if_pos none, List.append_nil] at hc
        exact (bare c (List.mem_of_getLast? hc)).1
      · have hlast := List.getLast?_eq_some_getLast none
        rw [if_neg none, List.append_cons, List.getLast?_append, hlast] at hc
        cases hc
        exact trimmed.2 _ hlast
  have hsome : compose h arg ≠ [] := by simp [compose, hne]
  rw [units, Text.splitOn_of_not_mem hsingle, List.map_singleton, Text.trimBlank,
    Text.trim_of_trimmed htrimmed, List.filter_cons_of_pos (by simpa using hsome), List.filter_nil]

end

/-! ## Paths -/

/-- A path that a header can be written behind. -/
structure Proper (path : Words) : Prop where
  word : ∀ w ∈ path, Bare w ∧ ':' ∉ w
  /-- A colon before the first mnemonic stands alone. -/
  first : ∀ w, path.head? = some w → w ≠ []

theorem proper_nil : Proper [] := ⟨nofun, nofun⟩

/-- The device resolves a header to its mnemonics: by induction on the colons in front. -/
theorem resolve_eq_wordsBehind (path : Words) (h : List Char) : resolve path h = wordsBehind path h := by
  fun_induction wordsBehind path h with
  | case1 path h ih =>
    rw [← ih, resolve, resolve, List.dropWhile_cons_of_pos (by decide), ite_self]
    rfl
  | case2 path h =>
    rw [resolve, List.dropWhile_cons_of_neg (by decide), ← Text.splitOn_eq]
    rfl
  | case3 path h hcolon hasterisk =>
    cases h with
    | nil => rfl
    | cons c h =>
      have notColon : c ≠ ':' := by
        rintro rfl
        exact hcolon h rfl
      have notAsterisk : c ≠ '*' := by
        rintro rfl
        exact hasterisk h rfl
      rw [resolve, List.dropWhile_cons_of_neg (by simpa using notColon), ← Text.splitOn_eq,
        if_neg (by simp [isAbsolute, isCommon, notColon, notAsterisk])]

/-- The path that a unit leaves for the next one. -/
theorem pathAfter_subsystem (u : List Char) (before : List (List Char)) :
    pathAfter (subsystem before) (header u) = subsystem (u :: before) := by
  rw [pathAfter, subsystem, resolve_eq_wordsBehind]

/-- A header is resolved by its own mnemonics, behind the path or the root. -/
theorem resolve_eq {path : Words} (proper : Proper path) (h : List Char) :
    ∃ front, Proper front ∧ resolve path h = front ++ splitOn ':' (h.dropWhile (· == ':')) := by
  unfold resolve
  split
  · exact ⟨[], proper_nil, rfl⟩
  · exact ⟨path, proper, rfl⟩

theorem word_resolve {path : Words} {h : List Char} (proper : Proper path) (bare : Bare h) :
    ∀ w ∈ resolve path h, Bare w ∧ ':' ∉ w := by
  obtain ⟨front, hfront, hresolve⟩ := resolve_eq proper h
  intro w hw
  rw [hresolve, List.mem_append] at hw
  obtain hw | hw := hw
  · exact hfront.word w hw
  · refine ⟨fun c hc => ?_, fun hcolon => (Text.mem_of_mem_splitOn hw hcolon).2 rfl⟩
    exact bare c ((List.dropWhile_suffix _).subset (Text.mem_of_mem_splitOn hw hc).1)

theorem resolve_ne_nil (path : Words) (h : List Char) : resolve path h ≠ [] :=
  List.append_ne_nil_of_right_ne_nil _ (Text.splitOn_ne_nil _ _)

/-- Mnemonics that a header is resolved to do not begin with a colon. -/
theorem head?_joinWith_resolve {path : Words} (proper : Proper path) (h : List Char) :
    ∀ c, (joinWith ':' (resolve path h)).head? = some c → (c == ':') = false := by
  obtain ⟨front, hfront, hresolve⟩ := resolve_eq proper h
  rw [hresolve]
  intro c hc
  cases front with
  | nil =>
    rw [List.nil_append, Text.joinWith_splitOn] at hc
    exact Text.head?_dropWhile c hc
  | cons w front =>
    rw [List.cons_append, Text.head?_joinWith (hfront.first w rfl)] at hc
    have hmem : c ∈ w := List.mem_of_head? hc
    have hcolon := (hfront.word w List.mem_cons_self).2
    by_cases heq : c = ':'
    · exact absurd (heq ▸ hmem) hcolon
    · simpa using heq

/-- A header in full is resolved to the same mnemonics from the root. -/
theorem resolve_fullHeader {path : Words} {h : List Char} (proper : Proper path) (bare : Bare h) :
    resolve [] (fullHeader h (resolve path h)) = resolve path h := by
  unfold fullHeader
  by_cases common : isCommon h = true
  · simp [common, resolve, isAbsolute]
  · have hwords := word_resolve proper bare
    have hhead := head?_joinWith_resolve proper h
    have hne := resolve_ne_nil path h
    generalize resolve path h = words at hwords hhead hne ⊢
    have habsolute : isAbsolute (':' :: joinWith ':' words) = true := by simp [isAbsolute]
    rw [if_neg common, resolve, habsolute, if_pos rfl, List.nil_append,
      List.dropWhile_cons_of_pos (by decide), Text.dropWhile_of_head? hhead,
      Text.splitOn_joinWith hne fun w hw => (hwords w hw).2]

theorem bare_fullHeader {path : Words} {h : List Char} (proper : Proper path) (bare : Bare h) :
    Bare (fullHeader h (resolve path h)) := by
  have hcolon : isBlank ':' = false ∧ ':' ≠ ';' := by decide
  unfold fullHeader
  split
  · exact bare
  · intro c hc
    obtain rfl | hc := List.mem_cons.mp hc
    · exact hcolon
    · obtain rfl | ⟨w, hw, hc⟩ := Text.mem_of_mem_joinWith hc
      · exact hcolon
      · exact (word_resolve proper bare w hw).1 c hc

theorem fullHeader_ne_nil (h : List Char) (words : Words) : fullHeader h words ≠ [] := by
  unfold fullHeader
  split
  · rename_i common
    rintro rfl
    cases common
  · exact List.cons_ne_nil _ _

/-- Behind a header the path is proper if it was before. -/
theorem Proper.after {path : Words} {h : List Char} (proper : Proper path) (bare : Bare h) :
    Proper (resolve path h).dropLast := by
  refine ⟨fun w hw => word_resolve proper bare w ((List.dropLast_prefix _).subset hw), fun w hw => ?_⟩
  obtain ⟨front, hfront, hresolve⟩ := resolve_eq proper h
  rw [hresolve, List.dropLast_append_of_ne_nil (Text.splitOn_ne_nil _ _)] at hw
  cases front with
  | cons v front => exact hfront.first w hw
  | nil =>
    -- a header without a mnemonic before its first colon has that colon stripped
    rw [List.nil_append] at hw
    have hhead : ∀ c, (h.dropWhile (· == ':')).head? = some c → (c == ':') = false := Text.head?_dropWhile
    cases hdrop : h.dropWhile (· == ':') with
    | nil =>
      rw [hdrop] at hw
      cases hw
    | cons c cs =>
      rw [hdrop] at hw hhead
      have hcolon : c ≠ ':' := by simpa using hhead c rfl
      obtain ⟨piece, pieces, hsplit⟩ := Text.splitOn_cons hcolon cs
      rw [hsplit] at hw
      cases pieces with
      | nil => cases hw
      | cons piece' pieces =>
        cases hw
        exact List.cons_ne_nil _ _

theorem proper_subsystem : ∀ {before : List (List Char)}, (∀ u ∈ before, IsUnit u) → Proper (subsystem before)
  | [], _ => proper_nil
  | u :: before, units => by
    have proper := proper_subsystem fun v hv => units v (List.mem_cons_of_mem _ hv)
    unfold subsystem
    split
    · exact proper
    · rw [← resolve_eq_wordsBehind]
      exact proper.after (units u List.mem_cons_self).bare_header

/-! ## One unit, one message -/

/-- A unit in full, sent on its own, is executed as it is in its place. -/
theorem executeUnits_inFull {path : Words} {u : List Char} (proper : Proper path) (unit : IsUnit u)
    (identity : List Char) (a : Acquisition) :
    executeUnits identity [] a (units (inFull path u)) =
      ((execute identity a (resolve path (header u)) (argument u)).1.toList,
        (execute identity a (resolve path (header u)) (argument u)).2) := by
  have bare := bare_fullHeader proper unit.bare_header
  rw [inFull, ← resolve_eq_wordsBehind,
    units_compose bare (fullHeader_ne_nil _ _) (trimmed_argument u) unit.single_argument]
  simp only [executeUnits, header_compose bare, argument_compose bare (trimmed_argument u),
    resolve_fullHeader proper unit.bare_header, List.append_nil]

theorem receive_inFull {path : Words} {u : List Char} (proper : Proper path) (unit : IsUnit u) (e : Emulator) :
    let r := execute e.identity.toList e.acquisition (resolve path (header u)) (argument u)
    e.replyTo (Bytes.ofChars (inFull path u)) = replyBytes r.1.toList ∧
      (e.receive (Bytes.ofChars (inFull path u))).acquisition = r.2 := by
  have hrun := executeUnits_inFull proper unit e.identity.toList e.acquisition
  rw [← Utf8.decodeLossy_ofChars (inFull path u)] at hrun
  constructor
  · rw [replyTo, hrun]
  · exact congrArg Prod.snd hrun

/-! ## Replies in one line -/

/-- Lines that say something, without the newline at their end. -/
def contents (lines : List Bytes) : List Bytes := (lines.filter fun line => !line.isEmpty).map List.dropLast

theorem contents_cons (line : Bytes) (lines : List Bytes) :
    contents (line :: lines) = contents [line] ++ contents lines := by
  rw [← List.singleton_append, contents, List.filter_append, List.map_append]
  rfl

theorem contents_replyBytes (reply : Option (List Char)) :
    contents [replyBytes reply.toList] = reply.toList.map Bytes.ofChars := by
  cases reply with
  | none => rfl
  | some text =>
    have hline : replyBytes [text] = Bytes.ofChars text ++ [10] := Bytes.ofChars_append _ _
    simp [contents, hline]

theorem ofChars_joinWith : ∀ texts : List (List Char),
    Bytes.ofChars (joinWith ';' texts) = [59].intercalate (texts.map Bytes.ofChars)
  | [] => rfl
  | [text] => by simp [joinWith]
  | text :: text' :: texts => by
    have hjoin : joinWith ';' (text :: text' :: texts) = text ++ ([';'] ++ joinWith ';' (text' :: texts)) := rfl
    have hsep : Bytes.ofChars [';'] = [59] := by decide
    rw [hjoin, Bytes.ofChars_append, Bytes.ofChars_append, ofChars_joinWith (text' :: texts), hsep]
    simp [List.intercalate]

/-- Replies are put in one line as the device puts them, if that is what they say. -/
theorem inOneLine_eq {lines : List Bytes} {texts : List (List Char)}
    (h : contents lines = texts.map Bytes.ofChars) : inOneLine lines = replyBytes texts := by
  unfold contents at h
  unfold inOneLine
  split
  · rename_i hnone
    rw [hnone] at h
    rw [List.map_eq_nil_iff.mp h.symm]
    rfl
  · rename_i hsome
    have htexts : texts ≠ [] := by
      rintro rfl
      exact hsome (List.map_eq_nil_iff.mp h)
    obtain ⟨text, texts, rfl⟩ := List.exists_cons_of_ne_nil htexts
    show _ = Bytes.ofChars (joinWith ';' (text :: texts) ++ ['\n'])
    rw [h, ← ofChars_joinWith, Bytes.ofChars_append]
    rfl

/-! ## Units one by one -/

/-- Units in full, sent one by one, are executed as the units are in a row: by induction on the units, the
path of which is that of the units before. -/
theorem receive_allInFull : ∀ (us before : List (List Char)) (e : Emulator), (∀ u ∈ before, IsUnit u) →
    (∀ u ∈ us, IsUnit u) →
    let singles := (allInFull before us).map Bytes.ofChars
    let r := executeUnits e.identity.toList (subsystem before) e.acquisition us
    contents (e.replies singles) = r.1.map Bytes.ofChars ∧ (singles.foldl receive e).acquisition = r.2
  | [], _, _, _, _ => ⟨rfl, rfl⟩
  | u :: us, before, e, hbefore, hus => by
    have unit := hus u List.mem_cons_self
    obtain ⟨hreply, hacquisition⟩ := receive_inFull (proper_subsystem hbefore) unit e
    obtain ⟨hreplies, hlast⟩ := receive_allInFull us (u :: before)
      (e.receive (Bytes.ofChars (inFull (subsystem before) u)))
      (by simpa [unit] using hbefore) fun v hv => hus v (List.mem_cons_of_mem _ hv)
    rw [hacquisition] at hreplies hlast
    dsimp only [executeUnits]
    rw [pathAfter_subsystem]
    refine ⟨?_, hlast⟩
    rw [allInFull, List.map_cons, replies, contents_cons, hreply, contents_replyBytes, List.map_append]
    exact congrArg _ hreplies

/-- **Compound messages.** Whatever the state of the device and the bytes of a message, executing it leaves
the acquisition that its units leave when each of them is sent as a message of its own, in order and with
its header in full, and it queues the replies to those in one line. -/
theorem receive_compound (e : Emulator) (message : Bytes) :
    let singles := (allInFull [] (units (Utf8.decodeLossy message))).map Bytes.ofChars
    (e.receive message).acquisition = (singles.foldl receive e).acquisition ∧
      (e.receive message).queue = e.queue ++ inOneLine (e.replies singles) := by
  intro singles
  obtain ⟨hreplies, hacquisition⟩ := receive_allInFull (units (Utf8.decodeLossy message)) [] e nofun
    fun u hu => isUnit_of_mem_units hu
  refine ⟨hacquisition.symm, ?_⟩
  rw [queue_receive, inOneLine_eq hreplies]
  rfl

/-- A relative header behind a common one, in full. -/
example : allInFull [] (units "ACQ:STATE RUN;*IDN?; STATE? ;".toList) =
    [":ACQ:STATE RUN".toList, "*IDN?".toList, ":ACQ:STATE?".toList] := by decide

end ScopeLink.Emulator
