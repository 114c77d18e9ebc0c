import ScopeLink.Emulator.Acquisition
import ScopeLink.Text.Blank
/-!
# Program messages

A program message is units between semicolons. A unit is a header and, after a blank, an argument;
a header is mnemonics between colons, and asks something if its last mnemonic ends in a question
mark. A mnemonic is spelled out or shortened to the capitals of its printed form, in either case.

Headers of one message form paths: one that begins with neither a colon nor an asterisk starts
where the unit before it left off, in the subsystem of that unit's last mnemonic. A common header,
which begins with an asterisk, neither uses the path nor moves it.

A query never changes the acquisition (`execute_of_isQuery`).
-/

namespace ScopeLink.Emulator

/-- The mnemonics of a header, or of a path. -/
abbrev Words := List (List Char)

/-! ## Units and paths -/

/-- The units of a message, trimmed; empty ones do not count. -/
def units (message : List Char) : List (List Char) :=
  ((Text.splitOn ';' message).map Text.trimBlank).filter fun u => !u.isEmpty

/-- The header of a unit: what stands before its first blank. -/
def header (unit : List Char) : List Char := unit.takeWhile fun c => !Text.isBlank c

/-- The argument of a unit: what stands after its first blank, trimmed. -/
def argument (unit : List Char) : List Char :=
  match unit.dropWhile fun c => !Text.isBlank c with
  | [] => []
  | _ :: rest => Text.trimBlank rest

def isCommon (header : List Char) : Bool := header.head? == some '*'

/-- Whether a header starts from the root whatever came before it. -/
def isAbsolute (header : List Char) : Bool := header.head? == some ':' || isCommon header

/-- The mnemonics a header stands for after `path`. -/
def resolve (path : Words) (header : List Char) : Words :=
  (if isAbsolute header then [] else path) ++
    Text.splitOn ':' (header.dropWhile (· == ':'))

/-- The path that a header leaves for the next one. -/
def pathAfter (path : Words) (header : List Char) : Words :=
  if isCommon header then path else (resolve path header).dropLast

/-! ## Mnemonics -/

/-- The short form of a mnemonic: the capitals of its printed form. -/
def shortForm (printed : List Char) : List Char := printed.filter Char.isUpper

/-- Whether a word spells a mnemonic, in its short form or in full (`mnemonic_matches`). -/
def mnemonicMatches (printed word : List Char) : Bool :=
  Text.eqIgnoreCase word (shortForm printed) || Text.eqIgnoreCase word printed

/-- Whether the words of a header spell the mnemonics of a printed one (`header_matches`). -/
def wordsMatch : List String → Words → Bool
  | [], [] => true
  | p :: ps, w :: ws => mnemonicMatches p.toList w && wordsMatch ps ws
  | _, _ => false

def isQuery (words : Words) : Bool := words.getLast?.any fun w => w.getLast? == some '?'

/-- The mnemonics without the question marks behind them. -/
def withoutMarks (words : Words) : Words := words.map (Text.trimEnd (· == '?'))

/-! ## Execution -/

/-- The answer to a query; nothing if it is not known. -/
def answer (identity : List Char) (a : Acquisition) (words : Words) : Option (List Char) :=
  if wordsMatch ["*IDN"] words then some identity
  else if wordsMatch ["RSTate"] words then
    some (match a.state with
      | .stopped => "STOP".toList
      | .running => "RUN".toList
      | .single => "SING".toList)
  else if wordsMatch ["ACQuire", "STOPAfter"] words then
    some (match a.stopAfter with
      | .runStop => "RUNSTOP".toList
      | .sequence => "SEQUENCE".toList)
  else if wordsMatch ["ACQuire", "STATE"] words then some (if a.running then ['1'] else ['0'])
  else none

/-- Whether an argument turns the acquisition on or off, if it does either. -/
def onOff (arg : List Char) : Option Bool :=
  if mnemonicMatches "RUN".toList arg || arg == ['1'] || mnemonicMatches "ON".toList arg then
    some true
  else if mnemonicMatches "STOP".toList arg || arg == ['0'] || mnemonicMatches "OFF".toList arg then
    some false
  else none

def stopAfterArgument (arg : List Char) : Option StopAfter :=
  if mnemonicMatches "RUNSTop".toList arg then some .runStop
  else if mnemonicMatches "SEQuence".toList arg then some .sequence
  else none

/-- The acquisition after a command; one that is not known changes nothing. -/
def obey (a : Acquisition) (words : Words) (arg : List Char) : Acquisition :=
  if wordsMatch ["RUN"] words then a.set .running
  else if wordsMatch ["SINGle"] words then a.set .single
  else if wordsMatch ["STOP"] words then a.set .stopped
  else if wordsMatch ["ACQuire", "STATE"] words then
    { a with running := (onOff arg).getD a.running }
  else if wordsMatch ["ACQuire", "STOPAfter"] words then
    { a with stopAfter := (stopAfterArgument arg).getD a.stopAfter }
  else a

/-- Executes one header with its argument (`execute_unit`): the reply to a query, and the acquisition
after it. -/
def execute (identity : List Char) (a : Acquisition) (words : Words) (arg : List Char) :
    Option (List Char) × Acquisition :=
  if isQuery words then (answer identity a (withoutMarks words), a)
  else (none, obey a (withoutMarks words) arg)

/-- Executes units in order, starting at `path` (the loop of `execute`): their replies, and the acquisition
after them. -/
def executeUnits (identity : List Char) :
    Words → Acquisition → List (List Char) → List (List Char) × Acquisition
  | _, a, [] => ([], a)
  | path, a, u :: us =>
    let r := execute identity a (resolve path (header u)) (argument u)
    let rest := executeUnits identity (pathAfter path (header u)) r.2 us
    (r.1.toList ++ rest.1, rest.2)

/-- The bytes that answer a message: its replies with semicolons between them and a newline at the
end, or nothing if there are none. -/
def replyBytes : List (List Char) → Bytes
  | [] => []
  | replies => Bytes.ofChars (Text.joinWith ';' replies ++ ['\n'])

theorem execute_of_isQuery (identity : List Char) (a : Acquisition) {words : Words}
    (arg : List Char) (h : isQuery words = true) : (execute identity a words arg).2 = a := by
  simp [execute, h]

theorem execute_reply_of_not_isQuery (identity : List Char) (a : Acquisition) {words : Words}
    (arg : List Char) (h : isQuery words = false) : (execute identity a words arg).1 = none := by
  simp [execute, h]

end ScopeLink.Emulator
