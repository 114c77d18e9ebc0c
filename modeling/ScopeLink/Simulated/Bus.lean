import ScopeLink.Emulator.Basic
import ScopeLink.Simulated.Reply
import ScopeLink.Usb.Host
/-!
# A simulated bus

A bus of devices that answer by their descriptors, by queued transfers, by faults set on single
calls, and by an emulated instrument behind a device. It keeps a log of the calls that change
something, one line each, with the code of a call that failed; descriptors, enumeration and the
query for a kernel driver go unlogged.

A fault is set on a call by its whole line or by the first word of it; the whole line goes first,
and a fault of code 0 is none.
-/

namespace ScopeLink.Simulated

/-- What a bulk transfer out comes to: a code, and the count if it is not the natural one. -/
structure BusOut where
  code : Int := 0
  sent : Option Nat := none
deriving DecidableEq, Repr

/-- What a bulk transfer in comes to: a code, and the reply if one is delivered. -/
structure BusIn where
  code : Int := 0
  reply : Option Reply := none
deriving DecidableEq, Repr

/-- What a control transfer comes to. -/
inductive BusControl where
  | code (code : Int)
  | answer (data : Bytes)
deriving DecidableEq, Repr

structure Device where
  info : Usb.DeviceInfo
  kernelDriver : Bool := false
  /-- Each configuration, or the code that reading it ends in. -/
  configurations : List (Except Int Usb.Configuration) := []
  faults : List (String × Int) := []
  outs : List BusOut := []
  ins : List BusIn := []
  controls : List BusControl := []
  emulator : Option Emulator := none
  requestTag : UInt8 := 0
  /-- The interfaces claimed through the open device. -/
  claimed : List UInt8 := []

structure Bus where
  devices : List Device := []
  /-- The codes that setting up and enumerating end in. -/
  initCode : Int := 0
  enumerateCode : Option Int := none
  log : List String := []

/-- An empty bus. -/
def Bus.empty : Bus := {}

/-- An error for a code other than zero. -/
def checked (code : Int) : Except UsbError Unit :=
  if code = 0 then .ok () else .error (.ofCode code)

/-- A line of the log. -/
def logLine (line : String) (code : Int) : String :=
  if code = 0 then line else s!"{line} = {code}"

namespace Device

/-- The code of the fault set on a call, 0 if there is none. -/
def fault (d : Device) (word line : String) : Int :=
  ((d.faults.lookup line).orElse fun _ => d.faults.lookup word).getD 0

/-- The code a transfer error of the emulated instrument comes out as. -/
def emulatorCode : TransferError → Int
  | .timeout => -7
  | .stall => -9
  | .disconnected => -4
  | .other _ => -99

def claim (d : Device) (interface : UInt8) : Device :=
  { d with
    claimed := if d.claimed.contains interface then d.claimed else d.claimed ++ [interface]
    emulator := d.emulator.map Emulator.openEndpoints }

def release (d : Device) (interface : UInt8) : Device :=
  { d with
    claimed := d.claimed.filter (· != interface)
    emulator := d.emulator.map Emulator.closeEndpoints }

/-- The code and the count of a bulk transfer out, and the device after it. -/
def bulkOut (d : Device) (data : Bytes) : Int × Nat × Device :=
  let d := { d with requestTag := requestTagAfter d.requestTag data }
  match d.outs with
  | entry :: rest =>
    let natural := if entry.code = 0 then data.length else 0
    (entry.code, entry.sent.getD natural, { d with outs := rest })
  | [] =>
    match d.emulator with
    | none => (0, data.length, d)
    | some e =>
      match e.bulkOut data with
      | (.ok sent, e) => (0, sent, { d with emulator := some e })
      | (.error err, e) => (emulatorCode err, 0, { d with emulator := some e })

/-- The code, the bytes written and the count of a bulk transfer in, and the device after it. -/
def bulkIn (d : Device) (room : Nat) : Int × Bytes × Nat × Device :=
  match d.ins with
  | entry :: rest =>
    let data := match entry.reply with
      | some reply => (reply.bytes d.requestTag).take room
      | none => []
    (entry.code, data, data.length, { d with ins := rest })
  | [] =>
    match d.emulator with
    | none => (-7, [], 0, d)
    | some e =>
      match Emulator.port (.bulkIn room 0) e with
      | (⟨data, .ok count⟩, e) => (0, data, count, { d with emulator := some e })
      | (⟨data, .error err⟩, e) => (emulatorCode err, data, 0, { d with emulator := some e })

/-- The bytes written by a control transfer, its count or negative code, and the device after it. -/
def controlIn (d : Device) (request : UInt8) (room : Nat) : Bytes × Int × Device :=
  match d.controls with
  | .code code :: rest => ([], code, { d with controls := rest })
  | .answer data :: rest =>
    let data := data.take room
    (data, data.length, { d with controls := rest })
  | [] =>
    match d.emulator with
    | none => ([], -9, d)
    | some e =>
      match e.controlIn request room with
      | (⟨data, .ok count⟩, e) => (data, count, { d with emulator := some e })
      | (⟨data, .error err⟩, e) => (data, emulatorCode err, { d with emulator := some e })

end Device

namespace Bus

/-- The bus with one device changed and one line added to the log. -/
def put (b : Bus) (i : Nat) (d : Device) (line : String) : Bus :=
  { b with devices := b.devices.set i d, log := b.log ++ [line] }

/-- A call that either fails by a fault or changes the device by `effect`. -/
def perform (b : Bus) (i : Nat) (word rest : String) (effect : Device → Device) :
    Except UsbError Unit × Bus :=
  match b.devices[i]? with
  | none => (.error .noDevice, b)
  | some d =>
    let line := word ++ " " ++ rest
    let code := d.fault word line
    (checked code, b.put i (if code = 0 then effect d else d) (logLine line code))

def release (b : Bus) (i : Nat) (interface : UInt8) : Except UsbError Unit × Bus :=
  b.perform i "release" (toString interface.toNat) fun d => d.release interface

/-- Gives back the claimed interfaces in ascending order, and closes the device. -/
def close (b : Bus) (i : Nat) : Bus :=
  match b.devices[i]? with
  | none => b
  | some d =>
    let b := (d.claimed.mergeSort (· ≤ ·)).foldl (fun b interface => (b.release i interface).2) b
    match b.devices[i]? with
    | none => b
    | some d => b.put i { d with claimed := [] } "close"

/-- Reads something of a device that is not logged. -/
def inspect {α : Type} (b : Bus) (i : Nat) (f : Device → Except UsbError α) :
    Except UsbError α :=
  match b.devices[i]? with
  | none => .error .noDevice
  | some d => f d

def descriptor (d : Device) : Except UsbError Usb.DeviceDescriptor :=
  (checked (d.fault "descriptor" "descriptor")).map fun _ =>
    { id := d.info.id, configurationCount := d.configurations.length }

def configuration (index : Nat) (d : Device) : Except UsbError Usb.Configuration :=
  match d.configurations[index]? with
  | some (.ok c) => .ok c
  | some (.error code) => .error (.ofCode code)
  | none => .error .notFound

/-- The answer to the query for a kernel driver; as a code, 1 tells that one is active. -/
def driverActive (d : Device) : Except UsbError Bool :=
  match d.fault "driver_active" "driver_active" with
  | 0 => .ok d.kernelDriver
  | 1 => .ok true
  | code => .error (.ofCode code)

def bulkOut (b : Bus) (i : Nat) (endpoint : UInt8) (data : Bytes) (timeout : UInt32) :
    Usb.Completion × Bus :=
  match b.devices[i]? with
  | none => (⟨[], 0, some .noDevice⟩, b)
  | some d =>
    let (code, count, d) := d.bulkOut data
    let line := s!"out {endpoint.toNat} ms={timeout.toNat} " ++ Text.hexBytes data
    (⟨[], count, if code = 0 then none else some (.ofCode code)⟩, b.put i d (logLine line code))

def bulkIn (b : Bus) (i : Nat) (endpoint : UInt8) (room : Nat) (timeout : UInt32) :
    Usb.Completion × Bus :=
  match b.devices[i]? with
  | none => (⟨[], 0, some .noDevice⟩, b)
  | some d =>
    let (code, data, count, d) := d.bulkIn room
    let line := s!"in {endpoint.toNat} ms={timeout.toNat} len={room}"
    (⟨data, count, if code = 0 then none else some (.ofCode code)⟩,
      b.put i d (logLine line code))

def controlIn (b : Bus) (i : Nat) (requestType request : UInt8) (value index : UInt16)
    (room : Nat) (timeout : UInt32) : Usb.Host.ControlAnswer × Bus :=
  match b.devices[i]? with
  | none => (⟨[], .error .noDevice⟩, b)
  | some d =>
    let (data, count, d) := d.controlIn request room
    let line := s!"control {requestType.toNat} {request.toNat} {value.toNat} {index.toNat} " ++
      s!"ms={timeout.toNat} len={room}"
    if count < 0 then (⟨data, .error (.ofCode count)⟩, b.put i d (logLine line count))
    else (⟨data, .ok count.toNat⟩, b.put i d line)

/-- The bus as a host. -/
def host : Handler Usb.Host Bus
  | .init, b => (checked b.initCode, b)
  | .enumerate, b =>
    match b.enumerateCode with
    | none => (.ok (b.devices.map fun d => d.info.location), b)
    | some code => (.error (.ofCode code), b)
  | .deviceDescriptor i, b => (b.inspect i descriptor, b)
  | .configuration i index, b => (b.inspect i (configuration index), b)
  | .openDevice i, b => b.perform i "open" (toString i) fun d => { d with claimed := [] }
  | .close i, b => ((), b.close i)
  | .driverActive i _, b => (b.inspect i driverActive, b)
  | .detachDriver i interface, b =>
    b.perform i "detach" (toString interface.toNat) fun d => { d with kernelDriver := false }
  | .attachDriver i interface, b =>
    b.perform i "attach" (toString interface.toNat) fun d => { d with kernelDriver := true }
  | .setConfiguration i number, b => b.perform i "set_config" (toString number.toNat) id
  | .claim i interface, b =>
    b.perform i "claim" (toString interface.toNat) fun d => d.claim interface
  | .release i interface, b => b.release i interface
  | .setAlternate i interface setting, b =>
    b.perform i "set_alt" s!"{interface.toNat} {setting.toNat}" id
  | .clearHalt i endpoint, b => b.perform i "clear_halt" (toString endpoint.toNat) id
  | .bulkOut i endpoint data timeout, b => b.bulkOut i endpoint data timeout
  | .bulkIn i endpoint room timeout, b => b.bulkIn i endpoint room timeout
  | .controlIn i requestType request value index room timeout, b =>
    b.controlIn i requestType request value index room timeout

end Bus

end ScopeLink.Simulated
