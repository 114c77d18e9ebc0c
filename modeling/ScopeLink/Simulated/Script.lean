import ScopeLink.Port
import ScopeLink.Simulated.Reply
/-!
# A scripted port

A port that plays back what it is given: one queue for each kind of call, whose entries say what
the next call of that kind comes to. An empty queue opens and sends without fail, times out a
transfer in and stalls a control request. With `echo`, a message sent out comes back as a reply.
The port does not mind whether its endpoints are open, and keeps no record of the calls.
-/

namespace ScopeLink.Simulated

/-- What a transfer out comes to. -/
inductive OutEntry where
  | fail (error : TransferError)
  /-- The transfer is taken, and counts as all of its bytes unless another count is given. -/
  | take (sent : Option Nat)
deriving DecidableEq, Repr

/-- What a transfer in comes to. -/
inductive InEntry where
  | fail (error : TransferError)
  /-- The reply is cut to the room there is, and its length reported unless another count is. -/
  | deliver (reply : Reply) (received : Option Nat)
deriving DecidableEq, Repr

/-- What a control request comes to. -/
inductive ControlEntry where
  | fail (error : TransferError)
  | answer (data : Bytes)
deriving DecidableEq, Repr

structure Script where
  maxPacket : Nat := 64
  echo : Bool := false
  /-- The tag of the latest request sent. -/
  requestTag : UInt8 := 0
  opens : List (Option TransferError) := []
  outs : List OutEntry := []
  ins : List InEntry := []
  controls : List ControlEntry := []
deriving DecidableEq, Repr

namespace Script

/-- The script after a message that was taken. -/
def observe (s : Script) (data : Bytes) : Script :=
  match Header.decode data with
  | none => s
  | some h =>
    if h.messageId = Header.requestId then { s with requestTag := h.tag }
    else if s.echo then
      let payload := (data.drop Header.byteCount).take h.size.toNat
      { s with ins := s.ins ++ [.deliver { payload } none] }
    else s

def bulkOut (s : Script) (data : Bytes) : Except TransferError Nat × Script :=
  match s.outs with
  | .fail e :: rest => (.error e, { s with outs := rest })
  | .take sent :: rest => (.ok (sent.getD data.length), { s with outs := rest }.observe data)
  | [] => (.ok data.length, s.observe data)

def bulkIn (s : Script) (room : Nat) : Port.Delivery × Script :=
  match s.ins with
  | .fail e :: rest => (.failed e, { s with ins := rest })
  | .deliver reply received :: rest =>
    let data := (reply.bytes s.requestTag).take room
    ({ written := data, count := .ok (received.getD data.length) }, { s with ins := rest })
  | [] => (.failed .timeout, s)

def controlIn (s : Script) (room : Nat) : Port.Delivery × Script :=
  match s.controls with
  | .fail e :: rest => (.failed e, { s with controls := rest })
  | .answer data :: rest => (.full (data.take room), { s with controls := rest })
  | [] => (.failed .stall, s)

def port : Handler Port Script
  | .openEndpoints, s =>
    match s.opens with
    | some e :: rest => (.error e, { s with opens := rest })
    | none :: rest => (.ok (), { s with opens := rest })
    | [] => (.ok (), s)
  | .closeEndpoints, s => ((), s)
  | .maxPacket, s => (s.maxPacket, s)
  | .bulkOut data _, s => s.bulkOut data
  | .bulkIn room _, s => s.bulkIn room
  | .controlIn _ _ room _, s => s.controlIn room

/-- The script with more entries behind those it has. -/
def append (s more : Script) : Script :=
  { s with
    opens := s.opens ++ more.opens, outs := s.outs ++ more.outs
    ins := s.ins ++ more.ins, controls := s.controls ++ more.controls }

end Script

end ScopeLink.Simulated
