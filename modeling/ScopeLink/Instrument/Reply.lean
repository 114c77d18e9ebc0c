import ScopeLink.Instrument.Error
import ScopeLink.Text.Fields
import ScopeLink.Text.Letters
/-!
# Replies of an oscilloscope

Two families report their acquisition state in two forms: a stop-after mode and a flag, or one
mnemonic. An identification is four fields: vendor, model, serial number and revision. Mnemonics
are read regardless of case.
-/

namespace ScopeLink.Instrument

/-- What the acquisition of an instrument does (`ScopeState`). -/
inductive State where
  | stopped
  | running
  | single
deriving DecidableEq, Repr

def State.name : State → String
  | .stopped => "stopped"
  | .running => "running"
  | .single => "single"

/-! ## Acquisition state -/

/-- The state of a running acquisition with this stop-after mode. -/
def stopAfterMode (field : List Char) : Option State :=
  if Text.eqIgnoreCase field "RUNSTOP".toList then some .running
  else if Text.eqIgnoreCase field "SEQUENCE".toList then some .single
  else none

/-- A mode and a flag: with flag 1 the mode tells the state, with flag 0 it is stopped. -/
def readModeAndFlag (mode flag : List Char) : Except InstrumentError State :=
  match stopAfterMode mode with
  | none => .error (.unrecognized (String.ofList mode))
  | some state =>
    if flag = ['0'] then .ok .stopped
    else if flag = ['1'] then .ok state
    else .error (.unrecognized (String.ofList flag))

/-- Reads a reply of two fields, a stop-after mode and a flag (`parse_acquire_state`). -/
def readAcquireState (reply : String) : Except InstrumentError State :=
  match Text.fields 2 reply.toList with
  | [mode, flag] => readModeAndFlag mode flag
  | found => .error (.fieldCount 2 found.length)

def runMnemonic (field : List Char) : Option State :=
  if Text.eqIgnoreCase field "RUN".toList then some .running
  else if Text.eqIgnoreCase field "SING".toList then some .single
  else if Text.eqIgnoreCase field "STOP".toList then some .stopped
  else none

/-- Reads a reply that is one mnemonic (`parse_run_state`). -/
def readRunState (reply : String) : Except InstrumentError State :=
  match Text.fields 1 reply.toList with
  | [field] =>
    match runMnemonic field with
    | some state => .ok state
    | none => .error (.unrecognized (String.ofList field))
  | found => .error (.fieldCount 1 found.length)

/-! ## Identification -/

/-- The four fields of an identification (`Identity`). -/
structure Identity where
  vendor : String
  model : String
  serial : String
  revision : String
deriving DecidableEq, Repr

namespace Identity

/-- Reads an identification (`parse`). -/
def read (reply : String) : Except InstrumentError Identity :=
  match Text.fields 4 reply.toList with
  | [vendor, model, serial, revision] =>
    .ok {
      vendor := String.ofList vendor
      model := String.ofList model
      serial := String.ofList serial
      revision := String.ofList revision }
  | found => .error (.fieldCount 4 found.length)

/-- The four fields with commas between them. -/
def print (i : Identity) : String :=
  i.vendor ++ "," ++ i.model ++ "," ++ i.serial ++ "," ++ i.revision

end Identity

end ScopeLink.Instrument
