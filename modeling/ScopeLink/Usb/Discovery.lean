import ScopeLink.Outcome
import ScopeLink.Usb.Host
/-!
# Finding an instrument on the bus

Devices are listed, and one is opened, if some readable configuration of theirs has a setting for
test and measurement; a device whose descriptor cannot be read is passed over, and one that cannot
be opened too. The setting that a connection uses is looked for in a second pass over the
configurations, which takes the first one and does not pass over what it cannot read.
-/

namespace ScopeLink

/-- Why no device was found or prepared (`Error`, and what the bus reported). -/
inductive DiscoveryError where
  | deviceNotFound
  | deviceIncompatible
  | interfaceNotFound
  | settingNotFound
  | bulkOutNotFound
  | bulkInNotFound
  | usb (error : UsbError)
deriving DecidableEq, Repr

def DiscoveryError.message : DiscoveryError → String
  | .deviceNotFound => "device not found"
  | .deviceIncompatible => "device is not compatible with USBTMC"
  | .interfaceNotFound => "specified interface not found"
  | .settingNotFound => "specified interface setting not found"
  | .bulkOutNotFound => "bulk out endpoint not found"
  | .bulkInNotFound => "bulk in endpoint not found"
  | .usb e => e.message

namespace Usb

/-! ## Listing and opening -/

/-- Whether one of the configurations with these indices can be read and offers a setting for test
and measurement (`is_tmc_device`). -/
def anyOffers (device : Nat) : List Nat → Dialogue Host Bool
  | [] => return false
  | index :: rest => do
    match ← Host.ask (.configuration device index) with
    | .ok c => if c.offersTestAndMeasurement then return true else anyOffers device rest
    | .error _ => anyOffers device rest

/-- What is known of a device for test and measurement; nothing for any other. -/
def examine (device : Nat) (location : Location) : Dialogue Host (Option DeviceInfo) := do
  match ← Host.ask (.deviceDescriptor device) with
  | .error _ => return none
  | .ok d =>
    if ← anyOffers device (List.range d.configurationCount) then return some ⟨d.id, location⟩
    else return none

/-- The devices for test and measurement among these, the first of which has place `device` in the
enumeration. -/
def examineAll : Nat → List Location → Dialogue Host (List DeviceInfo)
  | _, [] => return []
  | device, location :: rest => do
    let found ← examine device location
    let more ← examineAll (device + 1) rest
    return found.toList ++ more

/-- The devices for test and measurement on the bus, in the order of enumeration (`list_devices` in a
context of its own, as `devices` calls it). -/
def devices : Dialogue Host (Except UsbError (List DeviceInfo)) := do
  match ← Host.ask .init with
  | .error e => return .error e
  | .ok () =>
    match ← Host.ask .enumerate with
    | .error e => return .error e
    | .ok locations => return .ok (← examineAll 0 locations)

/-- Opens the first device for test and measurement among these that the filter accepts and that
can be opened: the search of `open_device`. -/
def openFirst (filter : Filter) : Nat → List Location → Dialogue Host (Option Nat)
  | _, [] => return none
  | device, location :: rest => do
    match ← examine device location with
    | none => openFirst filter (device + 1) rest
    | some info =>
      if filter.accepts info then
        match ← Host.ask (.openDevice device) with
        | .ok () => return some device
        | .error _ => openFirst filter (device + 1) rest
      else openFirst filter (device + 1) rest

/-- Opens a device that the filter accepts (`open_device`). -/
def openDevice (filter : Filter) : Dialogue Host (Except DiscoveryError Nat) := do
  match ← Host.ask .init with
  | .error e => return .error (.usb e)
  | .ok () =>
    match ← Host.ask .enumerate with
    | .error e => return .error (.usb e)
    | .ok locations =>
      match ← openFirst filter 0 locations with
      | some device => return .ok device
      | none => return .error .deviceNotFound

/-! ## Mode and endpoints -/

/-- The setting a connection works in (`DeviceMode`). -/
structure Mode where
  configuration : UInt8
  interface : UInt8
  setting : UInt8
deriving DecidableEq, Repr

/-- The endpoints a connection works with (`UsbtmcEndpoints`). -/
structure Endpoints where
  bulkOut : Endpoint
  bulkIn : Endpoint
  interrupt : Option Endpoint
deriving DecidableEq, Repr

/-- The first setting for test and measurement in the configurations with these indices. -/
def firstMode (device : Nat) : List Nat → Dialogue Host (Except DiscoveryError Mode)
  | [] => return .error .deviceIncompatible
  | index :: rest => do
    match ← Host.ask (.configuration device index) with
    | .error e => return .error (.usb e)
    | .ok c =>
      match c.firstTestAndMeasurement with
      | some s => return .ok ⟨c.number, s.interface, s.number⟩
      | none => firstMode device rest

/-- The mode of a device (`get_usbtmc_mode`). -/
def selectMode (device : Nat) : Dialogue Host (Except DiscoveryError Mode) := do
  match ← Host.ask (.deviceDescriptor device) with
  | .error e => return .error (.usb e)
  | .ok d => firstMode device (List.range d.configurationCount)

/-- The configuration with a number, among those with these indices (`find_config`). -/
def findConfiguration (device : Nat) (number : UInt8) :
    List Nat → Dialogue Host (Except DiscoveryError Configuration)
  | [] => return .error .deviceIncompatible
  | index :: rest => do
    match ← Host.ask (.configuration device index) with
    | .error e => return .error (.usb e)
    | .ok c => if c.number = number then return .ok c else findConfiguration device number rest

/-- The interface with a number, which is that of its first setting. An interface without settings
has no number to compare. -/
def findInterface (number : UInt8) : List Settings → Outcome DiscoveryError Settings
  | [] => .failed .interfaceNotFound
  | [] :: _ => .halted .malformed
  | (first :: others) :: rest =>
    if first.interface = number then .ok (first :: others) else findInterface number rest

/-- The endpoints of a setting that a connection uses. -/
def Setting.connectionEndpoints (s : Setting) : Except DiscoveryError Endpoints :=
  match s.endpoint? .bulk .outward, s.endpoint? .bulk .inward with
  | none, _ => .error .bulkOutNotFound
  | some _, none => .error .bulkInNotFound
  | some bulkOut, some bulkIn => .ok ⟨bulkOut, bulkIn, s.endpoint? .interrupt .inward⟩

/-- The endpoints of the setting of a mode, within the configuration of that mode. -/
def Mode.endpointsIn (mode : Mode) (c : Configuration) : Outcome DiscoveryError Endpoints :=
  (findInterface mode.interface c.interfaces).andThen fun settings =>
    match settings.find? fun s => s.number == mode.setting with
    | none => .failed .settingNotFound
    | some s => .ofExcept s.connectionEndpoints

/-- The endpoints of the setting of a mode (`get_endpoints`). -/
def findEndpoints (device : Nat) (mode : Mode) : Dialogue Host (Outcome DiscoveryError Endpoints) := do
  match ← Host.ask (.deviceDescriptor device) with
  | .error e => return .failed (.usb e)
  | .ok d =>
    match ← findConfiguration device mode.configuration (List.range d.configurationCount) with
    | .error e => return .failed e
    | .ok c => return mode.endpointsIn c

end Usb

end ScopeLink
