import ScopeLink.Usb.Discovery
/-!
# A link to a device

A link is an open device in the mode found for it: its endpoints, whether a kernel driver had to
make room, and whether the link has claimed the interface. It is a port: opening the endpoints
claims the interface, selects the setting and clears both bulk endpoints; closing them releases the
interface if it is claimed. The claim is noted as soon as it succeeds and forgotten before the
release is tried, so each claim is released once, whatever else fails.
-/

namespace ScopeLink.Usb

/-- The state of a `RusbTransport`. -/
structure Link where
  device : Nat
  mode : Mode
  /-- Whether a kernel driver was detached, and has to be attached again. -/
  driverDetached : Bool
  endpoints : Endpoints
  claimed : Bool := false
deriving DecidableEq, Repr

/-- The type of a class request to an interface that is answered. -/
def classRequestIn : UInt8 := 0xA1

/-- Detaches the kernel driver of an interface if one is known to be active, and tells whether it
did (`detach_kernel_driver`). -/
def detachDriver (device : Nat) (interface : UInt8) :
    Dialogue Host (Except DiscoveryError Bool) := do
  match ← Host.ask (.driverActive device interface) with
  | .ok true =>
    match ← Host.ask (.detachDriver device interface) with
    | .ok () => return .ok true
    | .error e => return .error (.usb e)
  | _ => return .ok false

/-- Finds mode and endpoints of an open device, and puts it into its configuration. -/
def prepare (device : Nat) : Dialogue Host (Outcome DiscoveryError Link) := do
  match ← selectMode device with
  | .error e => return .failed e
  | .ok mode =>
    match ← detachDriver device mode.interface with
    | .error e => return .failed e
    | .ok driverDetached =>
      match ← findEndpoints device mode with
      | .failed e => return .failed e
      | .halted h => return .halted h
      | .ok endpoints =>
        match ← Host.ask (.setConfiguration device mode.configuration) with
        | .error e => return .failed (.usb e)
        | .ok () => return .ok { device, mode, driverDetached, endpoints }

/-- Opens a device that the filter accepts and prepares it (`connect`); one that cannot be prepared is closed
again. -/
def connect (filter : Filter) : Dialogue Host (Outcome DiscoveryError Link) := do
  match ← openDevice filter with
  | .error e => return .failed e
  | .ok device =>
    match ← prepare device with
    | .ok link => return .ok link
    | .failed e =>
      Host.ask (.close device)
      return .failed e
    | .halted h =>
      Host.ask (.close device)
      return .halted h

namespace Link

/-- Releases the interface if the link has claimed it (`release`). -/
def release (l : Link) : Dialogue Host Link := do
  if l.claimed then
    let _ ← Host.ask (.release l.device l.mode.interface)
    return { l with claimed := false }
  else return l

/-- Claims the interface, selects the setting and clears both endpoints (`open_endpoints`). -/
def openEndpoints (l : Link) : Dialogue Host (Except TransferError Unit × Link) := do
  match ← Host.ask (.claim l.device l.mode.interface) with
  | .error e => return (.error e.toTransfer, l)
  | .ok () =>
    let l := { l with claimed := true }
    match ← Host.ask (.setAlternate l.device l.mode.interface l.mode.setting) with
    | .error e => return (.error e.toTransfer, l)
    | .ok () =>
      match ← Host.ask (.clearHalt l.device l.endpoints.bulkOut.address) with
      | .error e => return (.error e.toTransfer, l)
      | .ok () =>
        match ← Host.ask (.clearHalt l.device l.endpoints.bulkIn.address) with
        | .error e => return (.error e.toTransfer, l)
        | .ok () => return (.ok (), l)

/-- The end of a link (`drop`): the interface is released, the kernel driver attached again if it had to
make room, and the device closed. -/
def drop (l : Link) : Dialogue Host Unit := do
  let l ← l.release
  if l.driverDetached then
    let _ ← Host.ask (.attachDriver l.device l.mode.interface)
  Host.ask (.close l.device)

/-- Serves a call on the port of a link by calls on the host, which keeps times in 32 bits. -/
def serve : (c : Port.Call) → Link → Dialogue Host (c.Answer × Link)
  | .openEndpoints, l => l.openEndpoints
  | .closeEndpoints, l => do
    let l ← l.release
    return ((), l)
  | .maxPacket, l => return (l.endpoints.bulkOut.maxPacket.toNat, l)
  | .bulkOut data timeout, l => do
    let c ← Host.ask (.bulkOut l.device l.endpoints.bulkOut.address data (UInt32.ofNat timeout))
    return (c.result.mapError UsbError.toTransfer, l)
  | .bulkIn room timeout, l => do
    let c ← Host.ask (.bulkIn l.device l.endpoints.bulkIn.address room (UInt32.ofNat timeout))
    return ({ written := c.written, count := c.result.mapError UsbError.toTransfer }, l)
  | .controlIn request value room timeout, l => do
    let a ← Host.ask (.controlIn l.device classRequestIn request value l.mode.interface.toUInt16
      room (UInt32.ofNat timeout))
    return ({ written := a.written, count := a.count.mapError UsbError.toTransfer }, l)

/-- The port of a link over a host. -/
def port {σ : Type} (host : Handler Host σ) : Handler Port (Link × σ) := .through serve host

end Link

end ScopeLink.Usb
