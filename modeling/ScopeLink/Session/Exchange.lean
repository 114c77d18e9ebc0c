import ScopeLink.Session.Basic
/-!
# Exchanges

`write` sends a message in one frame, `read` collects a reply in rounds of one request and one
transfer each, and `ask` does both. A message is refused before anything is sent if it does not fit
in one packet or in the buffer. A read stops at the end of the message or when the output is full,
and at the first reply that fails one of the checks of `acceptReply`; the byte behind what has been
read, if there is one, is zero then.

Nothing in that bounds the rounds of a read: a reply may bring no byte and not end the message. A read is
given the patience of its reader, which is how many rounds it may take beyond one for each byte of the
output. No setting of a session says anything of it, and what is shown of reads is shown for any.

Each operation gives its outcome and the session after it, and a read the output buffer too: what
earlier rounds put there stays when a later one fails.
-/

namespace ScopeLink.Session

/-- Sends `data` (`send`); a transfer that takes less or more than all of it is an error. -/
def send (data : Bytes) (timeout : Nat) : Dialogue Port (Except SessionError Unit) := do
  match ← Port.bulkOut data timeout with
  | .error e => return .error (.ofTransfer e)
  | .ok sent =>
    if sent = data.length then return .ok ()
    else return .error (.partialTransfer sent data.length)

/-- Sends `data` as one message (`try_write`). The outcome is the length of `data`. -/
def write (s : Session) (data : Bytes) (timeout : Nat) :
    Dialogue Port (Except SessionError Nat × Session) := do
  let max ← Port.maxPacket
  if max < data.length + Header.byteCount then return (.error (.tooLarge data.length max), s)
  else if s.state ≠ .ready then return (.error .notReady, s)
  else if s.outBuf.length < Frame.len data.length then
    return (.error (.tooLarge data.length s.outBuf.length), s)
  else
    let s := { s with lastTag := Tag.next s.lastTag }
    match Frame.write s.outBuf s.lastTag data with
    | none => return (.error (.tooLarge data.length max), s)
    | some (len, outBuf) =>
      let s := { s with outBuf }
      match ← send (outBuf.take len) timeout with
      | .error e => return (.error e, s)
      | .ok () => return (.ok data.length, s)

/-- The header of a reply, if the reply answers the request (`validate_in_header`): the id is that of a
reply, the tag is consistent and one the policy admits, and the size is within what was requested, what
the output has room for, and what arrived. -/
def acceptReply (policy : TagPolicy) (requestTag : UInt8) (requested remaining : Nat)
    (reply : Bytes) : Except FramingError Header :=
  match Header.decode reply with
  | none => .error (.short reply.length Header.byteCount)
  | some h =>
    let size := h.size.toNat
    if h.messageId ≠ Header.replyId then .error (.messageId h.messageId Header.replyId)
    else if !(h.tagConsistent && policy.admits h.tag requestTag) then
      .error (.tag h.tag h.inverse requestTag)
    else if requested < size then .error (.overRequest size requested)
    else if remaining < size then .error (.overBuffer size remaining)
    else if reply.length < Header.byteCount + size then
      .error (.short reply.length (Header.byteCount + size))
    else .ok h

/-- A read between two rounds. -/
structure Reading where
  session : Session
  output : Bytes
  /-- How much of the output has been read. -/
  got : Nat

namespace Reading

def remaining (r : Reading) : Nat := r.output.length - r.got

/-- What the next request asks for. -/
def requested (r : Reading) : Nat := min r.remaining r.session.config.chunk

/-- The output with `payload` appended to what has been read, and a zero behind it. -/
def append (r : Reading) (payload : Bytes) : Reading :=
  { r with
    output := (Bytes.splice r.output r.got payload).set (r.got + payload.length) 0
    got := r.got + payload.length }

end Reading

/-- One request and the transfer that answers it, a turn of the loop of `try_read`. The outcome is whether
the message is complete. -/
def round (timeout : Nat) (r : Reading) : Dialogue Port (Outcome SessionError Bool × Reading) := do
  let s := r.session
  let tag := Tag.next s.lastTag
  let request := Header.request tag (UInt32.ofNat r.requested)
  let s := { s with lastTag := tag, outBuf := Bytes.overlay s.outBuf request.encode }
  match ← send (s.outBuf.take Header.byteCount) timeout with
  | .error e => return (.failed e, { r with session := s })
  | .ok () =>
    let room := min (Frame.len r.requested) s.inBuf.length
    let delivery ← Port.bulkIn room timeout
    let s := { s with inBuf := delivery.into s.inBuf room }
    match delivery.count with
    | .error e => return (.failed (.ofTransfer e), { r with session := s })
    | .ok received =>
      if s.inBuf.length < received then return (.halted .overrun, { r with session := s })
      else
        let reply := s.inBuf.take received
        match acceptReply s.config.tagPolicy tag r.requested r.remaining reply with
        | .error e => return (.failed (.framing e), { r with session := s })
        | .ok h =>
          let payload := (reply.drop Header.byteCount).take h.size.toNat
          return (.ok h.endOfMessage, { r with session := s }.append payload)

/-- Rounds until the message is complete, the output is full or a round fails; `rounds` of them at
the most. -/
def readRounds (timeout : Nat) : Nat → Reading → Dialogue Port (Outcome SessionError Nat × Reading)
  | rounds, r =>
    if r.output.length ≤ r.got then return (.ok r.got, r)
    else match rounds with
      | 0 => return (.halted .unfinished, r)
      | rounds + 1 => do
        match ← round timeout r with
        | (.ok true, r) => return (.ok r.got, r)
        | (.ok false, r) => readRounds timeout rounds r
        | (.failed e, r) => return (.failed e, r)
        | (.halted h, r) => return (.halted h, r)

/-- What a read leaves: its outcome, the output buffer and the session. -/
structure ReadResult where
  outcome : Outcome SessionError Nat
  output : Bytes
  session : Session

/-- The patience of a reader that does not mean to give up. -/
def usualPatience : Nat := 4294967296

/-- Reads one reply into `output` (`try_read`). The outcome is the number of bytes read. -/
def read (s : Session) (patience : Nat) (output : Bytes) (timeout : Nat) : Dialogue Port ReadResult :=
  if s.state ≠ .ready then return ⟨.failed .notReady, output, s⟩
  else do
    let (outcome, r) ← readRounds timeout (output.length + patience) ⟨s, output, 0⟩
    return ⟨outcome, r.output, r.session⟩

/-- Writes `query` and reads the reply to it (`try_ask`); a query that could not be written is not read for. -/
def ask (s : Session) (patience : Nat) (query output : Bytes) (timeout : Nat) : Dialogue Port ReadResult := do
  match ← s.write query timeout with
  | (.error e, s) => return ⟨.failed e, output, s⟩
  | (.ok _, s) => s.read patience output timeout

/-! ## Lengths alone

The same operations for callers that only ask how much was transferred (`write`, `read` and `ask`); any
failure counts as 0. -/

def writeLength (s : Session) (data : Bytes) (timeout : Nat) : Dialogue Port (Nat × Session) := do
  match ← s.write data timeout with
  | (.ok n, s) => return (n, s)
  | (.error _, s) => return (0, s)

def readLength (s : Session) (patience : Nat) (output : Bytes) (timeout : Nat) : Dialogue Port ReadResult := do
  let r ← s.read patience output timeout
  return { r with outcome := r.outcome.orElse 0 }

def askLength (s : Session) (patience : Nat) (query output : Bytes) (timeout : Nat) :
    Dialogue Port ReadResult := do
  let r ← s.ask patience query output timeout
  return { r with outcome := r.outcome.orElse 0 }

/-! ## Lemmas -/

/-- An accepted reply holds all of its payload, and no more than was asked for. -/
theorem size_le_of_acceptReply {policy : TagPolicy} {tag : UInt8} {requested remaining : Nat}
    {reply : Bytes} {h : Header}
    (ok : acceptReply policy tag requested remaining reply = .ok h) :
    h.size.toNat ≤ requested ∧ h.size.toNat ≤ remaining ∧
      Header.byteCount + h.size.toNat ≤ reply.length := by
  unfold acceptReply at ok
  split at ok
  · cases ok
  · simp only at ok
    split at ok; · cases ok
    split at ok; · cases ok
    split at ok; · cases ok
    split at ok; · cases ok
    split at ok; · cases ok
    cases ok
    omega

theorem readRounds_of_full {timeout rounds : Nat} {r : Reading} (h : r.output.length ≤ r.got) :
    readRounds timeout rounds r = .done (.ok r.got, r) := by
  unfold readRounds
  rw [if_pos h]
  rfl

theorem readRounds_succ {timeout rounds : Nat} {r : Reading} (h : ¬ r.output.length ≤ r.got) :
    readRounds timeout (rounds + 1) r = round timeout r >>= fun
      | (.ok true, r) => .done (.ok r.got, r)
      | (.ok false, r) => readRounds timeout rounds r
      | (.failed e, r) => .done (.failed e, r)
      | (.halted h, r) => .done (.halted h, r) := by
  rw [readRounds.eq_def]
  dsimp only
  rw [if_neg h]
  rfl

theorem Reading.length_append {r : Reading} {payload : Bytes}
    (h : r.got + payload.length ≤ r.output.length) :
    (r.append payload).output.length = r.output.length := by
  simp [Reading.append, Bytes.length_splice h]

/-- Two payloads one after the other are one longer payload: the zero behind the first is written
over by the second, or by the zero behind that. -/
theorem Reading.append_append {r : Reading} {p q : Bytes}
    (h : r.got + p.length + q.length ≤ r.output.length) :
    (r.append p).append q = r.append (p ++ q) := by
  have hout : ((r.append p).append q).output = (r.append (p ++ q)).output := by
    simp only [Reading.append, List.length_append, ← Nat.add_assoc]
    cases q with
    | nil => simp [Bytes.splice]
    | cons b q =>
      congr 1
      rw [Bytes.splice, List.take_set_of_le (Nat.le_refl _), Bytes.take_splice (by omega),
        List.drop_set_of_lt (by simp), Bytes.drop_splice (by omega) (by omega)]
      simp only [Bytes.splice, List.append_assoc, List.length_append, List.length_cons, Nat.add_assoc]
  simp only [Reading.append, List.length_append, ← Nat.add_assoc] at hout ⊢
  rw [hout]

end ScopeLink.Session
