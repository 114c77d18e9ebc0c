import ScopeLink.Port
/-!
# Errors of the USB host

The host controller's calls answer with an integer, zero for success. Each negative code up to -12
has a meaning of its own, all others are one error. A transfer knows three of them by name.
-/

namespace ScopeLink

inductive UsbError where
  | io
  | invalidParam
  | access
  | noDevice
  | notFound
  | busy
  | timeout
  | overflow
  | pipe
  | interrupted
  | noMemory
  | notSupported
  | badDescriptor
  | other
deriving DecidableEq, Repr

namespace UsbError

/-- The error that a code other than zero stands for. -/
def ofCode : Int → UsbError
  | -1 => .io
  | -2 => .invalidParam
  | -3 => .access
  | -4 => .noDevice
  | -5 => .notFound
  | -6 => .busy
  | -7 => .timeout
  | -8 => .overflow
  | -9 => .pipe
  | -10 => .interrupted
  | -11 => .noMemory
  | -12 => .notSupported
  | _ => .other

def message : UsbError → String
  | .io => "Input/Output Error"
  | .invalidParam => "Invalid parameter"
  | .access => "Access denied (insufficient permissions)"
  | .noDevice => "No such device (it may have been disconnected)"
  | .notFound => "Entity not found"
  | .busy => "Resource busy"
  | .timeout => "Operation timed out"
  | .overflow => "Overflow"
  | .pipe => "Pipe error"
  | .interrupted => "System call interrupted (perhaps due to signal)"
  | .noMemory => "Insufficient memory"
  | .notSupported => "Operation not supported or unimplemented on this platform"
  | .badDescriptor => "Malformed descriptor"
  | .other => "Other error"

/-- What the error means to a transfer (`from` of `TransferError`). -/
def toTransfer : UsbError → TransferError
  | .timeout => .timeout
  | .pipe => .stall
  | .noDevice => .disconnected
  | e => .other e.message

end UsbError

end ScopeLink
