import ScopeLink.Port
import ScopeLink.Text.Numeral
/-!
# What goes wrong in a session

A reply may contradict the request it should answer (`FramingError`), and an operation may fail for
that or for a reason of its own (`SessionError`). `message` gives the text of each, and `cause` the
error that another one stands for.
-/

namespace ScopeLink

/-- How a reply contradicts the request it should answer (`FramingError`). -/
inductive FramingError where
  | messageId (found expected : UInt8)
  | tag (found inverse expected : UInt8)
  | overRequest (size requested : Nat)
  | overBuffer (size remaining : Nat)
  | short (received expected : Nat)
deriving DecidableEq, Repr

def FramingError.message : FramingError → String
  | .messageId found expected =>
    s!"unexpected message id {found.toNat}, expected {expected.toNat}"
  | .tag found inverse expected =>
    "bad tag " ++ Text.hexByte found ++ " with inverse " ++ Text.hexByte inverse ++ ", expected "
      ++ Text.hexByte expected
  | .overRequest size requested => s!"transfer size {size} larger than requested {requested}"
  | .overBuffer size remaining => s!"transfer size {size} larger than remaining buffer {remaining}"
  | .short received expected => s!"received {received} bytes, header indicated {expected}"

/-- Why an operation of a session failed (`Error`). -/
inductive SessionError where
  | notReady
  | tooLarge (len max : Nat)
  | timeout
  | transport (error : TransferError)
  | framing (error : FramingError)
  /-- The device answered a control request with a status other than success. -/
  | status (code : UInt8)
deriving DecidableEq, Repr

namespace SessionError

/-- A transfer that timed out is a time-out of the operation. -/
def ofTransfer : TransferError → SessionError
  | .timeout => .timeout
  | e => .transport e

/-- A transfer that took another number of bytes than it was given. -/
def partialTransfer (sent len : Nat) : SessionError :=
  .transport (.other s!"bulk out sent {sent} of {len} bytes")

def message : SessionError → String
  | .notReady => "session is not ready"
  | .tooLarge len max =>
    s!"message size {len} exceeds max packet size {max}; multi-packet transfers are not supported"
  | .timeout => "transfer timed out"
  | .transport e => "transfer error: " ++ e.message
  | .framing e => "framing error: " ++ e.message
  | .status code => "control request returned status " ++ Text.hexByte code

def cause : SessionError → Option FramingError
  | .framing e => some e
  | _ => none

end SessionError

end ScopeLink
