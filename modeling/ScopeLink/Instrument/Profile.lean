import ScopeLink.Instrument.Reply
/-!
# Profiles

A profile is the dialect of one family of instruments: the command for each acquisition state, and
the query that reads the state back with the form of its reply. A table of rows picks the profile
for a vendor and a model; the first row that matches wins.
-/

namespace ScopeLink.Instrument

/-- The form in which a state is reported; each stands for a `StateQuery`, its query and its parser. -/
inductive StatusForm where
  /-- A stop-after mode and a flag. -/
  | modeAndFlag
  /-- One mnemonic. -/
  | mnemonic
deriving DecidableEq, Repr

def StatusForm.query : StatusForm → String
  | .modeAndFlag => "ACQuire:STOPAfter?;STATE?"
  | .mnemonic => "RSTate?"

def StatusForm.read : StatusForm → String → Except InstrumentError State
  | .modeAndFlag => readAcquireState
  | .mnemonic => readRunState

/-- An `InstrumentProfile`: its name, its `StateCommands` and the form of its status. -/
structure Profile where
  name : String
  stop : String
  run : String
  single : String
  status : StatusForm
deriving DecidableEq, Repr

namespace Profile

def command (p : Profile) : State → String
  | .stopped => p.stop
  | .running => p.run
  | .single => p.single

/-- The profile `TEKTRONIX`. -/
def tektronix : Profile where
  name := "Tektronix"
  stop := "ACQuire:STATE STOP"
  run := "ACQuire:STOPAfter RUNSTOP; STATE RUN"
  single := "ACQuire:STOPAfter SEQUENCE; STATE RUN"
  status := .modeAndFlag

/-- The profile `KEYSIGHT`. -/
def keysight : Profile where
  name := "Keysight"
  stop := "STOP"
  run := "RUN"
  single := "SINGle"
  status := .mnemonic

/-- The profile `TMCEMU`: the emulated instrument takes commands in one dialect and reports its state in
another. -/
def emulated : Profile := { tektronix with name := "TMCEMU", status := .mnemonic }

/-- The profiles by name. -/
def all : List Profile := [tektronix, keysight, emulated]

end Profile

/-- A row of a detection table (`ProfileMatch`); a part that is missing matches anything. -/
structure ProfileRow where
  vendor : Option String := none
  model : Option String := none
  profile : Profile
deriving DecidableEq, Repr

/-- Whether vendor and model match the row, regardless of case (`matches`). -/
def ProfileRow.admits (row : ProfileRow) (vendor model : String) : Bool :=
  row.vendor.all (fun v => Text.eqIgnoreCase v.toList vendor.toList) &&
    row.model.all (fun m => Text.eqIgnoreCase m.toList model.toList)

/-- The profile of the first row that matches, if one does (`match_profile`). -/
def matchProfile (table : List ProfileRow) (vendor model : String) : Option Profile :=
  (table.find? fun row => row.admits vendor model).map ProfileRow.profile

/-- The rows an instrument is detected by (`PROFILES`). -/
def detectionTable : List ProfileRow :=
  [{ vendor := some "Tektronix", profile := .tektronix },
    { vendor := some "KEYSIGHT TECHNOLOGIES", profile := .keysight },
    { vendor := some "AGILENT TECHNOLOGIES", profile := .keysight },
    { model := some "TMCEMU", profile := .emulated }]

end ScopeLink.Instrument
