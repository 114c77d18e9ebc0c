import ScopeLink.Usb.Descriptor
import ScopeLink.Usb.Error
/-!
# The USB host

The calls on a host controller: finding devices, reading what they say of themselves, opening one,
and working with its interfaces and endpoints. A device is named by its place in the enumeration.
Closing a device gives back the interfaces of it that are still claimed.

A bulk transfer that ends in a time-out or an interruption after some bytes went through counts as
a transfer of these bytes.
-/

namespace ScopeLink.Usb

/-- What a device says of itself as a whole. -/
structure DeviceDescriptor where
  id : DeviceId
  configurationCount : Nat
deriving DecidableEq, Repr

/-- How a bulk transfer ended. -/
structure Completion where
  /-- The bytes written over the front of the buffer, for a transfer in. -/
  written : Bytes
  count : Nat
  error : Option UsbError
deriving DecidableEq, Repr

/-- The number of bytes a bulk transfer counts as. -/
def Completion.result (c : Completion) : Except UsbError Nat :=
  match c.error with
  | none => .ok c.count
  | some e =>
    if (e = .timeout ∨ e = .interrupted) ∧ 0 < c.count then .ok c.count else .error e

namespace Host

inductive Call where
  | init
  | enumerate
  | deviceDescriptor (device : Nat)
  | configuration (device index : Nat)
  | openDevice (device : Nat)
  | close (device : Nat)
  | driverActive (device : Nat) (interface : UInt8)
  | detachDriver (device : Nat) (interface : UInt8)
  | attachDriver (device : Nat) (interface : UInt8)
  | setConfiguration (device : Nat) (number : UInt8)
  | claim (device : Nat) (interface : UInt8)
  | release (device : Nat) (interface : UInt8)
  | setAlternate (device : Nat) (interface setting : UInt8)
  | clearHalt (device : Nat) (endpoint : UInt8)
  | bulkOut (device : Nat) (endpoint : UInt8) (data : Bytes) (timeout : UInt32)
  | bulkIn (device : Nat) (endpoint : UInt8) (room : Nat) (timeout : UInt32)
  | controlIn (device : Nat) (requestType request : UInt8) (value index : UInt16) (room : Nat)
    (timeout : UInt32)
deriving DecidableEq, Repr

/-- The bytes a control transfer wrote, and the count or the error it reports. -/
structure ControlAnswer where
  written : Bytes
  count : Except UsbError Nat

def Call.Answer : Call → Type
  | .enumerate => Except UsbError (List Location)
  | .deviceDescriptor .. => Except UsbError DeviceDescriptor
  | .configuration .. => Except UsbError Configuration
  | .driverActive .. => Except UsbError Bool
  | .close .. => Unit
  | .bulkOut .. => Completion
  | .bulkIn .. => Completion
  | .controlIn .. => ControlAnswer
  | .init | .openDevice .. | .detachDriver .. | .attachDriver .. | .setConfiguration .. | .claim ..
  | .release .. | .setAlternate .. | .clearHalt .. => Except UsbError Unit

end Host

abbrev Host : Interface := ⟨Host.Call, Host.Call.Answer⟩

/-- One call on the host. -/
def Host.ask (c : Host.Call) : Dialogue Host c.Answer := Dialogue.ask (I := Host) c

/-- A dialogue that begins with a call is the call with the rest behind it. -/
@[simp] theorem Host.ask_bind {α : Type} (c : Host.Call) (f : c.Answer → Dialogue Host α) :
    (Host.ask c >>= f) = .call (I := Host) c f := rfl

end ScopeLink.Usb
