import ScopeLink.Dialogue
import ScopeLink.Bytes
/-!
# Ports

A port is one test-and-measurement interface of a device, seen from the host: bulk endpoints that
are opened and closed, transfers on them, and class requests on the control endpoint. A session
talks to a port and knows nothing else of the device, so a handler for `Port` may be a bus, a
simulated instrument or a script.

A transfer into a buffer answers with what was written over the front of the buffer and, apart
from that, with the count it reports or the error it ended in; the two need not agree.
-/

namespace ScopeLink

/-- Why a transfer did not take place (`TransferError`). -/
inductive TransferError where
  | timeout
  | stall
  | disconnected
  | other (reason : String)
deriving DecidableEq, Repr

def TransferError.message : TransferError → String
  | .timeout => "transfer timed out"
  | .stall => "endpoint stalled"
  | .disconnected => "device disconnected"
  | .other reason => "transfer failed: " ++ reason

namespace Port

/-- The methods of `UsbTransport`: `open_endpoints`, `close_endpoints`, `max_packet_size_out`, `bulk_out`,
`bulk_in` and `control_in`. -/
inductive Call where
  | openEndpoints
  | closeEndpoints
  /-- The packet size of the bulk-out endpoint. -/
  | maxPacket
  | bulkOut (data : Bytes) (timeout : Nat)
  /-- A transfer into a buffer of `room` bytes. -/
  | bulkIn (room : Nat) (timeout : Nat)
  /-- A class request to the interface, answered into a buffer of `room` bytes. -/
  | controlIn (request : UInt8) (value : UInt16) (room : Nat) (timeout : Nat)
deriving DecidableEq, Repr

/-- What became of a transfer into a buffer. -/
structure Delivery where
  /-- The bytes written over the front of the buffer. -/
  written : Bytes
  count : Except TransferError Nat

/-- A transfer that wrote nothing and failed. -/
def Delivery.failed (e : TransferError) : Delivery := ⟨[], .error e⟩

/-- A transfer that reports what it wrote. -/
def Delivery.full (data : Bytes) : Delivery := ⟨data, .ok data.length⟩

/-- A buffer after a transfer into its first `room` bytes. -/
def Delivery.into (d : Delivery) (buffer : Bytes) (room : Nat) : Bytes :=
  Bytes.overlay buffer (d.written.take room)

@[simp] theorem Delivery.length_into (d : Delivery) (buffer : Bytes) (room : Nat) :
    (d.into buffer room).length = buffer.length := by simp [Delivery.into]

abbrev Call.Answer : Call → Type
  | .openEndpoints => Except TransferError Unit
  | .closeEndpoints => Unit
  | .maxPacket => Nat
  | .bulkOut .. => Except TransferError Nat
  | .bulkIn .. => Delivery
  | .controlIn .. => Delivery

end Port

abbrev Port : Interface := ⟨Port.Call, Port.Call.Answer⟩

namespace Port

def openEndpoints : Dialogue Port (Except TransferError Unit) := Dialogue.ask (I := Port) .openEndpoints

def closeEndpoints : Dialogue Port Unit := Dialogue.ask (I := Port) .closeEndpoints

def maxPacket : Dialogue Port Nat := Dialogue.ask (I := Port) .maxPacket

def bulkOut (data : Bytes) (timeout : Nat) : Dialogue Port (Except TransferError Nat) :=
  Dialogue.ask (I := Port) (.bulkOut data timeout)

def bulkIn (room timeout : Nat) : Dialogue Port Delivery :=
  Dialogue.ask (I := Port) (.bulkIn room timeout)

def controlIn (request : UInt8) (value : UInt16) (room timeout : Nat) : Dialogue Port Delivery :=
  Dialogue.ask (I := Port) (.controlIn request value room timeout)

/-! ## A call first

A dialogue that begins with a call is the call with the rest behind it. -/

variable {α : Type}

@[simp] theorem openEndpoints_bind (f : Except TransferError Unit → Dialogue Port α) :
    (openEndpoints >>= f) = .call (I := Port) .openEndpoints f := rfl

@[simp] theorem closeEndpoints_bind (f : Unit → Dialogue Port α) :
    (closeEndpoints >>= f) = .call (I := Port) .closeEndpoints f := rfl

@[simp] theorem maxPacket_bind (f : Nat → Dialogue Port α) :
    (maxPacket >>= f) = .call (I := Port) .maxPacket f := rfl

@[simp] theorem bulkOut_bind (data : Bytes) (timeout : Nat)
    (f : Except TransferError Nat → Dialogue Port α) :
    (bulkOut data timeout >>= f) = .call (I := Port) (.bulkOut data timeout) f := rfl

@[simp] theorem bulkIn_bind (room timeout : Nat) (f : Delivery → Dialogue Port α) :
    (bulkIn room timeout >>= f) = .call (I := Port) (.bulkIn room timeout) f := rfl

@[simp] theorem controlIn_bind (request : UInt8) (value : UInt16) (room timeout : Nat)
    (f : Delivery → Dialogue Port α) :
    (controlIn request value room timeout >>= f) =
      .call (I := Port) (.controlIn request value room timeout) f := rfl

end Port

end ScopeLink
