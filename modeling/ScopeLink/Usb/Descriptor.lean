import ScopeLink.Text.Numeral
/-!
# Descriptors

What a USB device says of itself: ids, and configurations of interfaces, each interface in one or
more alternate settings with endpoints of their own. A setting is one for test and measurement if
its class, subclass and protocol say so, in the plain protocol or the one with a bus subset.
-/

namespace ScopeLink.Usb

structure DeviceId where
  vendor : UInt16
  product : UInt16
deriving DecidableEq, Repr

/-- Where a device is attached (`DeviceAddr`). -/
structure Location where
  bus : UInt8
  address : UInt8
deriving DecidableEq, Repr

/-- What a listing tells of a device (`DeviceInfo`). -/
structure DeviceInfo where
  id : DeviceId
  location : Location
deriving DecidableEq, Repr

/-- Bus and address in three decimal digits each, the ids in four hexadecimal ones. -/
def DeviceInfo.print (d : DeviceInfo) : String :=
  Text.decimal 3 d.location.bus.toNat ++ ":" ++ Text.decimal 3 d.location.address.toNat ++ " " ++
    Text.hex 4 d.id.vendor.toNat ++ ":" ++ Text.hex 4 d.id.product.toNat

/-- Which devices are wanted, by what is known of them (`DeviceFilter` with its `apply_filter`). -/
structure Filter where
  accepts : DeviceInfo → Bool

namespace Filter

def any : Filter := ⟨fun _ => true⟩

def attachedAt (location : Location) : Filter := ⟨fun d => d.location == location⟩

def withId (id : DeviceId) : Filter := ⟨fun d => d.id == id⟩

def exactly (info : DeviceInfo) : Filter := ⟨fun d => d == info⟩

end Filter

/-! ## Endpoints and settings -/

inductive TransferType where
  | control
  | isochronous
  | bulk
  | interrupt
deriving DecidableEq, Repr

inductive Direction where
  | inward
  | outward
deriving DecidableEq, Repr

structure Endpoint where
  address : UInt8
  attributes : UInt8
  maxPacket : UInt16
deriving DecidableEq, Repr

/-- The two lowest attribute bits. -/
def Endpoint.transferType (e : Endpoint) : TransferType :=
  match e.attributes.toNat % 4 with
  | 0 => .control
  | 1 => .isochronous
  | 2 => .bulk
  | _ => .interrupt

/-- The highest bit of the address. -/
def Endpoint.direction (e : Endpoint) : Direction :=
  if e.address.toNat < 128 then .outward else .inward

structure Setting where
  /-- The number of the interface this is a setting of. -/
  interface : UInt8
  number : UInt8
  classCode : UInt8
  subclass : UInt8
  protocol : UInt8
  endpoints : List Endpoint
deriving DecidableEq, Repr

/-- The alternate settings of one interface. -/
abbrev Settings := List Setting

structure Configuration where
  number : UInt8
  interfaces : List Settings
deriving DecidableEq, Repr

/-- Whether the setting is one for test and measurement (`is_tmc_interface`). -/
def Setting.isTestAndMeasurement (s : Setting) : Bool :=
  s.classCode == 0xFE && s.subclass == 0x03 && (s.protocol == 0x00 || s.protocol == 0x01)

/-- Whether some setting of the configuration is one for test and measurement. -/
def Configuration.offersTestAndMeasurement (c : Configuration) : Bool :=
  c.interfaces.any fun settings => settings.any Setting.isTestAndMeasurement

/-- The first setting for test and measurement, interface by interface. -/
def Configuration.firstTestAndMeasurement (c : Configuration) : Option Setting :=
  c.interfaces.findSome? fun settings => settings.find? Setting.isTestAndMeasurement

/-- The first endpoint of a type and a direction. -/
def Setting.endpoint? (s : Setting) (type : TransferType) (direction : Direction) :
    Option Endpoint :=
  s.endpoints.find? fun e => e.transferType == type && e.direction == direction

/-- A configuration offers what can be found in it. -/
theorem isSome_firstTestAndMeasurement (c : Configuration) :
    c.firstTestAndMeasurement.isSome = c.offersTestAndMeasurement := by
  simp only [Configuration.firstTestAndMeasurement, Configuration.offersTestAndMeasurement]
  induction c.interfaces with
  | nil => rfl
  | cons settings rest ih =>
    cases h : settings.find? Setting.isTestAndMeasurement with
    | some s =>
      have : settings.any Setting.isTestAndMeasurement = true :=
        List.any_eq_true.2 ⟨s, List.mem_of_find?_eq_some h, List.find?_some h⟩
      simp [h, this]
    | none =>
      have : settings.any Setting.isTestAndMeasurement = false := by
        simpa [List.find?_eq_none] using h
      simp [h, this, ih]

end ScopeLink.Usb
