import ScopeLink.Session.Basic
/-!
# Class requests

Requests on the control endpoint need neither a ready session nor its tag or buffers, so they may
fall anywhere between the transfers of an exchange. Each is answered into a buffer of its own; the
first byte of an answer is a status.
-/

namespace ScopeLink

/-- What an interface can do beyond the plain exchange of messages (`Capabilities`). -/
structure Capabilities where
  /-- The version of the interface's specification, in binary-coded decimal. -/
  version : UInt16
  indicatorPulse : Bool
  talkOnly : Bool
  listenOnly : Bool
  /-- Whether a reply can be ended by a terminating character. -/
  termChar : Bool
deriving DecidableEq, Repr

namespace Control

/-- The codes of the two requests (`GET_CAPABILITIES` and `INDICATOR_PULSE`). -/
def capabilitiesRequest : UInt8 := 7
def pulseRequest : UInt8 := 64

/-- The statuses that are told apart (`STATUS_SUCCESS` and `STATUS_FAILED`). -/
def success : UInt8 := 0x01
def unspecifiedFailure : UInt8 := 0x80

/-- The size of the buffers the answers go into. -/
def capabilitiesRoom : Nat := 24
def pulseRoom : Nat := 1

end Control

/-- Reads the answer to a capabilities request (`from_bytes`). One too short to hold the capability bytes counts
as an unspecified failure of the device. -/
def Capabilities.ofBytes : Bytes → Except SessionError Capabilities
  | status :: _ :: versionLow :: versionHigh :: interface :: device :: _ =>
    if status ≠ Control.success then .error (.status status)
    else .ok {
      version := UInt16.ofNat (Bytes.ofLittleEndian [versionLow, versionHigh])
      indicatorPulse := interface &&& 0b100 != 0
      talkOnly := interface &&& 0b010 != 0
      listenOnly := interface &&& 0b001 != 0
      termChar := device &&& 0b001 != 0 }
  | _ => .error (.status Control.unspecifiedFailure)

/-- Whether the answer to a pulse request reports success. -/
def Control.checkPulse : Bytes → Except SessionError Unit
  | [status] => if status = Control.success then .ok () else .error (.status status)
  | _ => .error (.status Control.unspecifiedFailure)

namespace Session

/-- A class request with a zero value, and what `decode` makes of the bytes that were reported. -/
def control {α : Type} (s : Session) (request : UInt8) (room : Nat)
    (decode : Bytes → Except SessionError α) : Dialogue Port (Outcome SessionError α) := do
  let delivery ← Port.controlIn request 0 room s.config.timeout
  match delivery.count with
  | .error e => return .failed (.ofTransfer e)
  | .ok len =>
    if room < len then return .halted .overrun
    else return .ofExcept (decode ((delivery.into (Bytes.zeros room) room).take len))

/-- Asks which optional features the interface has (`get_capabilities`). -/
def capabilities (s : Session) : Dialogue Port (Outcome SessionError Capabilities) :=
  s.control Control.capabilitiesRequest Control.capabilitiesRoom Capabilities.ofBytes

/-- Asks the device to blink its activity light (`indicator_pulse`). -/
def pulse (s : Session) : Dialogue Port (Outcome SessionError Unit) :=
  s.control Control.pulseRequest Control.pulseRoom Control.checkPulse

end Session

end ScopeLink
