import ScopeLink.Session.Error
/-!
# What goes wrong with an instrument

An operation on an instrument fails with the session under it, or because what the instrument
answered is not what was asked for.
-/

namespace ScopeLink

/-- Why an operation on an instrument failed (`ScopeError`). -/
inductive InstrumentError where
  | session (error : SessionError)
  | shortWrite (written expected : Nat)
  /-- The answer is not well-formed text. -/
  | notText
  | fieldCount (expected found : Nat)
  | unrecognized (field : String)
deriving DecidableEq, Repr

namespace InstrumentError

def message : InstrumentError → String
  | .session e => e.message
  | .shortWrite written expected => s!"only {written} of {expected} command bytes written"
  | .notText => "response is not valid text"
  | .fieldCount expected found => s!"expected {expected} fields in response, found {found}"
  | .unrecognized field => "unrecognized response token '" ++ field ++ "'"

def cause : InstrumentError → Option FramingError
  | .session e => e.cause
  | _ => none

end InstrumentError

end ScopeLink
