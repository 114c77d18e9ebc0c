import ScopeLink.Packed
import ScopeLink.Session.Exchange
/-!
# Sessions with packed buffers

The same session, with buffers that are kept packed, and its operations on them. The settings name any size of
buffer, and a session whose buffers take gigabytes runs here as it would with all of them spelled out.
-/

namespace ScopeLink

structure PackedSession where
  config : Config
  state : Session.State
  lastTag : UInt8
  outBuf : Packed
  inBuf : Packed
deriving DecidableEq, Repr

/-- Lays the frame of `payload` over the front of a packed buffer, as `Frame.write` does. -/
def Packed.writeFrame (buffer : Packed) (tag : UInt8) (payload : Bytes) : Option (Nat × Packed) :=
  if buffer.length < Frame.len payload.length ∨ UInt32.size ≤ payload.length then none
  else some (Frame.len payload.length, buffer.overlay (.ofBytes (Frame.message tag payload)))

namespace PackedSession

open Session (send)

/-- The session with its buffers spelled out. -/
def unpack (s : PackedSession) : Session :=
  { config := s.config, state := s.state, lastTag := s.lastTag
    outBuf := s.outBuf.bytes, inBuf := s.inBuf.bytes }

/-- The session without its buffers, for what makes no use of them. -/
def bare (s : PackedSession) : Session :=
  { config := s.config, state := s.state, lastTag := s.lastTag, outBuf := [], inBuf := [] }

def new (config : Config) : PackedSession :=
  let config := config.withBufferSize config.bufferSize
  { config, state := .active, lastTag := 0
    outBuf := .uniform config.bufferSize 0, inBuf := .uniform config.bufferSize 0 }

def start (s : PackedSession) : Dialogue Port (Except SessionError Unit × PackedSession) := do
  let (r, t) ← s.bare.start
  return (r, { s with state := t.state })

def stop (s : PackedSession) : Dialogue Port PackedSession := do
  let t ← s.bare.stop
  return { s with state := t.state }

def unload (s : PackedSession) : Dialogue Port PackedSession := do
  let s ← s.stop
  return { s with state := .stopped }

def drop (s : PackedSession) : Dialogue Port Unit := s.bare.drop

/-! ## Exchanges -/

def write (s : PackedSession) (data : Bytes) (timeout : Nat) :
    Dialogue Port (Except SessionError Nat × PackedSession) := do
  let max ← Port.maxPacket
  if max < data.length + Header.byteCount then return (.error (.tooLarge data.length max), s)
  else if s.state ≠ .ready then return (.error .notReady, s)
  else if s.outBuf.length < Frame.len data.length then
    return (.error (.tooLarge data.length s.outBuf.length), s)
  else
    let s := { s with lastTag := Tag.next s.lastTag }
    match s.outBuf.writeFrame s.lastTag data with
    | none => return (.error (.tooLarge data.length max), s)
    | some (len, outBuf) =>
      let s := { s with outBuf }
      match ← send (outBuf.take len).bytes timeout with
      | .error e => return (.error e, s)
      | .ok () => return (.ok data.length, s)

/-- The checks of `Session.acceptReply`, on what they read of a reply: its header, if it is long enough for
one, and how many bytes arrived. -/
def acceptHeader (policy : TagPolicy) (requestTag : UInt8) (requested remaining : Nat)
    (header : Option Header) (arrived : Nat) : Except FramingError Header :=
  match header with
  | none => .error (.short arrived Header.byteCount)
  | some h =>
    let size := h.size.toNat
    if h.messageId ≠ Header.replyId then .error (.messageId h.messageId Header.replyId)
    else if !(h.tagConsistent && policy.admits h.tag requestTag) then
      .error (.tag h.tag h.inverse requestTag)
    else if requested < size then .error (.overRequest size requested)
    else if remaining < size then .error (.overBuffer size remaining)
    else if arrived < Header.byteCount + size then .error (.short arrived (Header.byteCount + size))
    else .ok h

structure Reading where
  session : PackedSession
  output : Packed
  got : Nat

namespace Reading

def unpack (r : Reading) : Session.Reading :=
  { session := r.session.unpack, output := r.output.bytes, got := r.got }

def remaining (r : Reading) : Nat := r.output.length - r.got

def requested (r : Reading) : Nat := min r.remaining r.session.config.chunk

def append (r : Reading) (payload : Packed) : Reading :=
  { r with
    output := (r.output.splice r.got payload).set (r.got + payload.length) 0
    got := r.got + payload.length }

end Reading

def round (timeout : Nat) (r : Reading) : Dialogue Port (Outcome SessionError Bool × Reading) := do
  let s := r.session
  let tag := Tag.next s.lastTag
  let request := Header.request tag (UInt32.ofNat r.requested)
  let s := { s with lastTag := tag, outBuf := s.outBuf.overlay (.ofBytes request.encode) }
  match ← send (s.outBuf.take Header.byteCount).bytes timeout with
  | .error e => return (.failed e, { r with session := s })
  | .ok () =>
    let room := min (Frame.len r.requested) s.inBuf.length
    let delivery ← Port.bulkIn room timeout
    let s := { s with inBuf := s.inBuf.overlay (.ofBytes (delivery.written.take room)) }
    match delivery.count with
    | .error e => return (.failed (.ofTransfer e), { r with session := s })
    | .ok received =>
      if s.inBuf.length < received then return (.halted .overrun, { r with session := s })
      else
        let reply := s.inBuf.take received
        let header := Header.decode (reply.take Header.byteCount).bytes
        match acceptHeader s.config.tagPolicy tag r.requested r.remaining header reply.length with
        | .error e => return (.failed (.framing e), { r with session := s })
        | .ok h =>
          let payload := (reply.drop Header.byteCount).take h.size.toNat
          return (.ok h.endOfMessage, { r with session := s }.append payload)

def readRounds (timeout : Nat) : Nat → Reading → Dialogue Port (Outcome SessionError Nat × Reading)
  | rounds, r =>
    if r.output.length ≤ r.got then return (.ok r.got, r)
    else match rounds with
      | 0 => return (.halted .unfinished, r)
      | rounds + 1 => do
        match ← round timeout r with
        | (.ok true, r) => return (.ok r.got, r)
        | (.ok false, r) => readRounds timeout rounds r
        | (.failed e, r) => return (.failed e, r)
        | (.halted h, r) => return (.halted h, r)

structure ReadResult where
  outcome : Outcome SessionError Nat
  output : Packed
  session : PackedSession

def ReadResult.unpack (r : ReadResult) : Session.ReadResult :=
  { outcome := r.outcome, output := r.output.bytes, session := r.session.unpack }

def read (s : PackedSession) (patience : Nat) (output : Packed) (timeout : Nat) : Dialogue Port ReadResult :=
  if s.state ≠ .ready then return ⟨.failed .notReady, output, s⟩
  else do
    let (outcome, r) ← readRounds timeout (output.length + patience) ⟨s, output, 0⟩
    return ⟨outcome, r.output, r.session⟩

def ask (s : PackedSession) (patience : Nat) (query : Bytes) (output : Packed) (timeout : Nat) :
    Dialogue Port ReadResult := do
  match ← s.write query timeout with
  | (.error e, s) => return ⟨.failed e, output, s⟩
  | (.ok _, s) => s.read patience output timeout

end PackedSession

end ScopeLink
