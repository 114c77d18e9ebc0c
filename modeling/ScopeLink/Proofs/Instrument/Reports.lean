import ScopeLink.Instrument.Reply
import ScopeLink.Proofs.Fields
/-!
# Reports of the acquisition state

Each of the two forms of a report has a grammar: `ModeReport` is a stop-after mode and a flag on the two sides of
the first delimiter, `MnemonicReport` is one word. A reader takes the texts of its grammar and no others
(`state_reports_classified`). For a text of neither it names the part that is wrong, the mode before the flag
(`ModeRefusal`).
-/

namespace ScopeLink.Instrument

open Text (Halves Undivided FieldOf)

/-! ## Words -/

/-- The word, which is given in capitals, in letters of either case. -/
def Spells (word : String) (field : List Char) : Prop :=
  List.Forall₂ (fun w c => c = w ∨ c = w.toLower) word.toList field

theorem eqIgnoreCase_iff_spells (word : String) (field : List Char) (hword : word.toList.all Char.isUpper = true) :
    Text.eqIgnoreCase field word.toList = true ↔ Spells word field := by
  rw [Text.eqIgnoreCase, beq_iff_eq, Spells]
  generalize word.toList = capitals at hword
  induction capitals generalizing field with
  | nil => simp
  | cons w capitals ih =>
    rw [List.all_cons, Bool.and_eq_true] at hword
    rcases field with _ | ⟨c, field⟩
    · simp
    · simp [Text.toLower_eq_iff hword.1, ih field hword.2]

/-- A stop-after mode, and the state of an acquisition that runs under it. -/
inductive Mode : List Char → State → Prop
  | running {field : List Char} : Spells "RUNSTOP" field → Mode field .running
  | single {field : List Char} : Spells "SEQUENCE" field → Mode field .single

/-- A flag, and the state it makes of the one that the mode stands for. -/
inductive Flag (meant : State) : List Char → State → Prop
  | off : Flag meant ['0'] .stopped
  | on : Flag meant ['1'] meant

/-- A word that stands for a state by itself. -/
inductive Mnemonic : List Char → State → Prop
  | running {field : List Char} : Spells "RUN" field → Mnemonic field .running
  | single {field : List Char} : Spells "SING" field → Mnemonic field .single
  | stopped {field : List Char} : Spells "STOP" field → Mnemonic field .stopped

theorem stopAfterMode_eq_some_iff {field : List Char} {state : State} :
    stopAfterMode field = some state ↔ Mode field state := by
  have hrunning := eqIgnoreCase_iff_spells "RUNSTOP" field (by decide +kernel)
  have hsingle := eqIgnoreCase_iff_spells "SEQUENCE" field (by decide +kernel)
  constructor
  · intro h
    unfold stopAfterMode at h
    split at h
    · cases h
      exact .running (hrunning.mp ‹_›)
    · split at h
      · cases h
        exact .single (hsingle.mp ‹_›)
      · cases h
  · rintro (h | h)
    · rw [stopAfterMode, if_pos (hrunning.mpr h)]
    · have hother := Text.eqIgnoreCase_congr (hsingle.mpr h)
      simp only [stopAfterMode, hother]
      decide +kernel

theorem stopAfterMode_eq_none_iff {field : List Char} :
    stopAfterMode field = none ↔ ∀ meant, ¬ Mode field meant := by
  simp only [Option.eq_none_iff_forall_ne_some, ne_eq, stopAfterMode_eq_some_iff]

theorem runMnemonic_eq_some_iff {field : List Char} {state : State} :
    runMnemonic field = some state ↔ Mnemonic field state := by
  have hrunning := eqIgnoreCase_iff_spells "RUN" field (by decide +kernel)
  have hsingle := eqIgnoreCase_iff_spells "SING" field (by decide +kernel)
  have hstopped := eqIgnoreCase_iff_spells "STOP" field (by decide +kernel)
  constructor
  · intro h
    unfold runMnemonic at h
    split at h
    · cases h
      exact .running (hrunning.mp ‹_›)
    · split at h
      · cases h
        exact .single (hsingle.mp ‹_›)
      · split at h
        · cases h
          exact .stopped (hstopped.mp ‹_›)
        · cases h
  · rintro (h | h | h)
    · rw [runMnemonic, if_pos (hrunning.mpr h)]
    · have hother := Text.eqIgnoreCase_congr (hsingle.mpr h)
      simp only [runMnemonic, hother]
      decide +kernel
    · have hother := Text.eqIgnoreCase_congr (hstopped.mpr h)
      simp only [runMnemonic, hother]
      decide +kernel

theorem runMnemonic_eq_none_iff {field : List Char} :
    runMnemonic field = none ↔ ∀ state, ¬ Mnemonic field state := by
  simp only [Option.eq_none_iff_forall_ne_some, ne_eq, runMnemonic_eq_some_iff]

/-! ## Mode and flag -/

/-- A stop-after mode before the first delimiter and a flag behind it. -/
def ModeReport (text : List Char) (state : State) : Prop :=
  ∃ front rest mode flag meant, Halves text front rest ∧ FieldOf front mode ∧ FieldOf rest flag ∧
    Mode mode meant ∧ Flag meant flag state

/-- What is wrong with any other text. -/
inductive ModeRefusal (text : List Char) : InstrumentError → Prop
  | undivided : Undivided text → ModeRefusal text (.fieldCount 2 1)
  | mode {front rest mode : List Char} : Halves text front rest → FieldOf front mode →
    (∀ meant, ¬ Mode mode meant) → ModeRefusal text (.unrecognized (String.ofList mode))
  | flag {front rest mode flag : List Char} {meant : State} : Halves text front rest → FieldOf front mode →
    Mode mode meant → FieldOf rest flag → flag ≠ ['0'] → flag ≠ ['1'] →
    ModeRefusal text (.unrecognized (String.ofList flag))

theorem readAcquireState_of_halves {reply : String} {front rest : List Char}
    (h : Halves reply.toList front rest) :
    readAcquireState reply = readModeAndFlag (Text.trimField front) (Text.trimField rest) := by
  rw [readAcquireState, Text.fields, Text.pieces_of_halves h]
  rfl

theorem readAcquireState_of_undivided {reply : String} (h : Undivided reply.toList) :
    readAcquireState reply = .error (.fieldCount 2 1) := by
  rw [readAcquireState, Text.fields, Text.pieces_of_undivided h]
  rfl

theorem readModeAndFlag_eq_ok_iff {mode flag : List Char} {state : State} :
    readModeAndFlag mode flag = .ok state ↔ ∃ meant, Mode mode meant ∧ Flag meant flag state := by
  constructor
  · intro h
    unfold readModeAndFlag at h
    split at h
    · cases h
    · rename_i meant hmode
      refine ⟨meant, stopAfterMode_eq_some_iff.mp hmode, ?_⟩
      split at h
      · subst flag
        cases h
        exact .off
      · split at h
        · subst flag
          cases h
          exact .on
        · cases h
  · rintro ⟨meant, hmode, hflag⟩
    rw [readModeAndFlag, stopAfterMode_eq_some_iff.mpr hmode]
    cases hflag <;> rfl

theorem readAcquireState_eq_ok_iff {reply : String} {state : State} :
    readAcquireState reply = .ok state ↔ ModeReport reply.toList state := by
  constructor
  · intro h
    rcases Text.halves_or_undivided reply.toList with ⟨front, rest, halves⟩ | undivided
    · rw [readAcquireState_of_halves halves, readModeAndFlag_eq_ok_iff] at h
      obtain ⟨meant, hmode, hflag⟩ := h
      exact ⟨front, rest, _, _, meant, halves, Text.fieldOf_trimField front, Text.fieldOf_trimField rest,
        hmode, hflag⟩
    · rw [readAcquireState_of_undivided undivided] at h
      cases h
  · rintro ⟨front, rest, mode, flag, meant, halves, hfront, hrest, hmode, hflag⟩
    rw [readAcquireState_of_halves halves, Text.trimField_eq_iff.mpr hfront, Text.trimField_eq_iff.mpr hrest]
    exact readModeAndFlag_eq_ok_iff.mpr ⟨meant, hmode, hflag⟩

theorem readAcquireState_eq_error_iff {reply : String} {e : InstrumentError} :
    readAcquireState reply = .error e ↔ ModeRefusal reply.toList e := by
  constructor
  · intro h
    rcases Text.halves_or_undivided reply.toList with ⟨front, rest, halves⟩ | undivided
    · have hfront := Text.fieldOf_trimField front
      have hrest := Text.fieldOf_trimField rest
      rw [readAcquireState_of_halves halves, readModeAndFlag] at h
      split at h
      · rename_i hnone
        cases h
        exact .mode halves hfront (stopAfterMode_eq_none_iff.mp hnone)
      · rename_i meant hmode
        split at h
        · cases h
        · split at h
          · cases h
          · rename_i hoff hon
            cases h
            exact .flag halves hfront (stopAfterMode_eq_some_iff.mp hmode) hrest hoff hon
    · rw [readAcquireState_of_undivided undivided] at h
      cases h
      exact .undivided undivided
  · rintro (undivided | ⟨halves, hfront, hnone⟩ | ⟨halves, hfront, hmode, hrest, hoff, hon⟩)
    · exact readAcquireState_of_undivided undivided
    · rw [readAcquireState_of_halves halves, Text.trimField_eq_iff.mpr hfront, readModeAndFlag,
        stopAfterMode_eq_none_iff.mpr hnone]
    · rw [readAcquireState_of_halves halves, Text.trimField_eq_iff.mpr hfront, Text.trimField_eq_iff.mpr hrest]
      simp only [readModeAndFlag, stopAfterMode_eq_some_iff.mpr hmode, if_neg hoff, if_neg hon]

/-! ## One mnemonic -/

/-- A word that stands for a state, and nothing else. -/
def MnemonicReport (text : List Char) (state : State) : Prop :=
  ∃ word, FieldOf text word ∧ Mnemonic word state

/-- The word of any other text. -/
inductive MnemonicRefusal (text : List Char) : InstrumentError → Prop
  | word {word : List Char} : FieldOf text word → (∀ state, ¬ Mnemonic word state) →
    MnemonicRefusal text (.unrecognized (String.ofList word))

/-- There is one word in every text, delimiters or not. -/
theorem readRunState_eq (reply : String) : readRunState reply =
    match runMnemonic (Text.trimField reply.toList) with
    | some state => .ok state
    | none => .error (.unrecognized (String.ofList (Text.trimField reply.toList))) := rfl

theorem readRunState_eq_ok_iff {reply : String} {state : State} :
    readRunState reply = .ok state ↔ MnemonicReport reply.toList state := by
  rw [readRunState_eq]
  constructor
  · intro h
    split at h
    · rename_i hword
      cases h
      exact ⟨_, Text.fieldOf_trimField _, runMnemonic_eq_some_iff.mp hword⟩
    · cases h
  · rintro ⟨word, hword, hmnemonic⟩
    rw [Text.trimField_eq_iff.mpr hword, runMnemonic_eq_some_iff.mpr hmnemonic]

theorem readRunState_eq_error_iff {reply : String} {e : InstrumentError} :
    readRunState reply = .error e ↔ MnemonicRefusal reply.toList e := by
  rw [readRunState_eq]
  constructor
  · intro h
    split at h
    · cases h
    · rename_i hnone
      cases h
      exact .word (Text.fieldOf_trimField _) (runMnemonic_eq_none_iff.mp hnone)
  · rintro ⟨hword, hnone⟩
    rw [Text.trimField_eq_iff.mpr hword, runMnemonic_eq_none_iff.mpr hnone]

/-- **Reports of a state.** Whatever the reply, either reader takes it for exactly the states of which it is a
report in the form of that reader, and refuses it with exactly the error that says what is wrong with it: that
there is no delimiter, or the first part if it is no mode, or the rest if it is no flag, or the word if it is no
mnemonic. -/
theorem state_reports_classified (reply : String) :
    (∀ state, readAcquireState reply = .ok state ↔ ModeReport reply.toList state) ∧
    (∀ e, readAcquireState reply = .error e ↔ ModeRefusal reply.toList e) ∧
    (∀ state, readRunState reply = .ok state ↔ MnemonicReport reply.toList state) ∧
    (∀ e, readRunState reply = .error e ↔ MnemonicRefusal reply.toList e) := by
  refine ⟨?_, ?_, ?_, ?_⟩
  · exact fun state => readAcquireState_eq_ok_iff
  · exact fun e => readAcquireState_eq_error_iff
  · exact fun state => readRunState_eq_ok_iff
  · exact fun e => readRunState_eq_error_iff

/-- The first delimiter counts, and the newline at the end is trimmed off. -/
example : readAcquireState "sEQUENCE\t;1\r\n" = .ok .single ∧
    readAcquireState "RUNSTOP,1,EXTRA" = .error (.unrecognized "1,EXTRA") := by decide +kernel

end ScopeLink.Instrument
