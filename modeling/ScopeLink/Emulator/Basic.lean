import ScopeLink.Emulator.Program
import ScopeLink.Port
import ScopeLink.Text.Utf8
import ScopeLink.Wire.Frame
/-!
# An emulated oscilloscope

The device's side of the bulk protocol in front of a small oscilloscope. A message is executed when
it arrives and its replies are queued; a request is kept until the next transfer in, which hands
out as much of the queue as was requested and there is room for, and marks the end of the message
when the queue is empty behind it. A transfer in that finds no request or an empty queue times out,
and takes the request all the same.

A transfer out stalls, and changes nothing but the count of transfers, if it is longer than a
packet, if its header is cut short or contradicts itself, if it is neither message nor request, if
its length is not that of its kind, or if it is a message that does not end with it.
-/

namespace ScopeLink

/-- The device behind an `Emulator`; one that is just switched on has closed endpoints and nothing queued. -/
structure Emulator where
  identity : String := "PAUL ROUKEMA,TMCEMU,0,01-02"
  maxPacket : Nat := 64
  isOpen : Bool := false
  acquisition : Emulator.Acquisition := {}
  /-- Reply bytes not yet handed out. -/
  queue : Bytes := []
  /-- Tag and size of the latest request not yet answered. -/
  pending : Option (UInt8 × Nat) := none
  /-- The messages received, oldest first. -/
  messages : List String := []
  outCount : Nat := 0
  inCount : Nat := 0
  pulses : Nat := 0
deriving DecidableEq, Repr

namespace Emulator

open Port

def openEndpoints (e : Emulator) : Emulator := { e with isOpen := true }

/-- A request that waits is forgotten, queued replies are kept. -/
def closeEndpoints (e : Emulator) : Emulator := { e with isOpen := false, pending := none }

/-- Executes one program message and queues its replies (`execute`). -/
def receive (e : Emulator) (payload : Bytes) : Emulator :=
  let text := Utf8.decodeLossy payload
  let r := executeUnits e.identity.toList [] e.acquisition (units text)
  { e with
    messages := e.messages ++ [String.ofList text]
    queue := e.queue ++ replyBytes r.1
    acquisition := r.2 }

/-- What the device does with a transfer it takes; nothing if it takes none such. -/
def accept (e : Emulator) (data : Bytes) : Option Emulator :=
  match Header.decode data with
  | none => none
  | some h =>
    let size := h.size.toNat
    if e.maxPacket < data.length ∨ h.tagConsistent = false then none
    else if h.messageId = Header.outId then
      if data.length = Frame.len size ∧ h.endOfMessage = true then
        some (e.receive ((data.drop Header.byteCount).take size))
      else none
    else if h.messageId = Header.requestId then
      if data.length = Header.byteCount then some { e with pending := some (h.tag, size) }
      else none
    else none

/-- A transfer out (`bulk_out`). -/
def bulkOut (e : Emulator) (data : Bytes) : Except TransferError Nat × Emulator :=
  if e.isOpen then
    let e := { e with outCount := e.outCount + 1 }
    match e.accept data with
    | some e => (.ok data.length, e)
    | none => (.error .stall, e)
  else (.error .disconnected, e)

/-- The transfer that answers a request for `requested` bytes into `room` bytes, header and padding
included, and the queue left behind it. -/
def answerRequest (queue : Bytes) (tag : UInt8) (requested room : Nat) : Bytes × Bytes :=
  let size := min (min requested (room - Header.byteCount)) queue.length
  let h := Header.reply tag (UInt32.ofNat size) (size = queue.length)
  ((Frame.encode h (queue.take size)).take room, queue.drop size)

/-- A transfer in (`bulk_in`). It has no answer if a reply is due and the buffer cannot even hold a header. -/
def bulkIn (e : Emulator) (room : Nat) : Option Delivery × Emulator :=
  if e.isOpen then
    let e' := { e with inCount := e.inCount + 1, pending := none }
    match e.pending with
    | none => (some (.failed .timeout), e')
    | some (tag, requested) =>
      if e.queue = [] then (some (.failed .timeout), e')
      else if room < Header.byteCount then (none, e')
      else
        let r := answerRequest e.queue tag requested room
        (some (.full r.1), { e' with queue := r.2 })
  else (some (.failed .disconnected), e)

/-- What the device answers a capabilities request with: version 1.0, and it blinks. -/
def capabilityBytes : Bytes := [0x01, 0x00, 0x00, 0x01, 0b100, 0x00]

/-- A class request (`control_in`). A pulse is counted even if there is no room for its answer. -/
def controlIn (e : Emulator) (request : UInt8) (room : Nat) : Delivery × Emulator :=
  if request = 7 then (.full (capabilityBytes.take room), e)
  else if request = 64 then (.full ([0x01].take room), { e with pulses := e.pulses + 1 })
  else (.failed .stall, e)

/-- The emulator as the port of a session, which never offers less room than a header needs. -/
def port : Handler Port Emulator
  | .openEndpoints, e => (.ok (), e.openEndpoints)
  | .closeEndpoints, e => ((), e.closeEndpoints)
  | .maxPacket, e => (e.maxPacket, e)
  | .bulkOut data _, e => e.bulkOut data
  | .bulkIn room _, e =>
    let (delivery, e) := e.bulkIn room
    (delivery.getD (.failed .stall), e)
  | .controlIn request _ room _, e => e.controlIn request room

/-! ## Lemmas -/

/-- A transfer fills the room it is given at most. -/
theorem length_answerRequest_le (queue : Bytes) (tag : UInt8) (requested room : Nat) :
    (answerRequest queue tag requested room).1.length ≤ room := by
  simp only [answerRequest, List.length_take]
  exact Nat.min_le_left _ _

theorem bulkIn_eq_none {e : Emulator} {room : Nat} (h : (e.bulkIn room).1 = none) :
    room < Header.byteCount := by
  unfold bulkIn at h
  split at h
  · simp only at h
    split at h
    · cases h
    · split at h
      · cases h
      · split at h
        · assumption
        · cases h
  · cases h

end Emulator

end ScopeLink
