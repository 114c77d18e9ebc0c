import ScopeLink.Wire.Frame
/-!
# Scripted replies

A reply that a simulated device gives is bytes taken as they are, or a header and a payload. What
an entry leaves out is filled in so that the reply answers the latest request.
-/

namespace ScopeLink.Simulated

structure Reply where
  /-- The bytes of the reply; if they are given, nothing else counts. -/
  raw : Option Bytes := none
  payload : Bytes := []
  /-- Whether zeros follow the payload up to a multiple of the alignment. -/
  padded : Bool := true
  messageId : UInt8 := Header.replyId
  tag : Option UInt8 := none
  inverse : Option UInt8 := none
  size : Option UInt32 := none
  attributes : UInt8 := Header.endOfMessageBit
deriving DecidableEq, Repr

namespace Reply

def header (r : Reply) (requestTag : UInt8) : Header :=
  let tag := r.tag.getD requestTag
  { messageId := r.messageId, tag, inverse := r.inverse.getD (Tag.complement tag)
    size := r.size.getD (UInt32.ofNat r.payload.length), attributes := r.attributes }

/-- The bytes of the reply to a request with this tag. -/
def bytes (r : Reply) (requestTag : UInt8) : Bytes :=
  match r.raw with
  | some b => b
  | none =>
    if r.padded then Frame.encode (r.header requestTag) r.payload
    else (r.header requestTag).encode ++ r.payload

end Reply

/-- The tag of the latest request, after a transfer out. -/
def requestTagAfter (requestTag : UInt8) (data : Bytes) : UInt8 :=
  match Header.decode data with
  | some h => if h.messageId = Header.requestId then h.tag else requestTag
  | none => requestTag

end ScopeLink.Simulated
