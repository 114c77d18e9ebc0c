import ScopeLink.Proofs.Client
/-!
# Checked operations

The operations of a session once more, with every step spelled out that may go wrong on a machine: sums,
products and differences of lengths, which have 64 bits, places in a list, and ranges of a buffer. The first
step that does go wrong ends an operation with a `Fault`. What has no such step in it is taken over as it is.
-/

namespace ScopeLink

/-- What goes wrong with a step. -/
inductive Fault where
  /-- A sum or a product above the lengths there are, or a difference below zero. -/
  | overflow
  /-- A place or a range that is not within the list. -/
  | range (start stop length : Nat)
  /-- Bytes that do not fill the range they are copied to. -/
  | mismatch (room length : Nat)
deriving DecidableEq, Repr

namespace Checked

/-! ## Lengths and ranges -/

/-- Lengths are the numbers below this. -/
def lengthSize : Nat := 18446744073709551616

def add (a b : Nat) : Except Fault Nat := if a + b < lengthSize then .ok (a + b) else .error .overflow

def mul (a b : Nat) : Except Fault Nat := if a * b < lengthSize then .ok (a * b) else .error .overflow

def sub (a b : Nat) : Except Fault Nat := if b ≤ a then .ok (a - b) else .error .overflow

def item {α : Type} (xs : List α) (i : Nat) : Except Fault α :=
  match xs[i]? with
  | some x => .ok x
  | none => .error (.range i (i + 1) xs.length)

def put (b : Bytes) (i : Nat) (x : UInt8) : Except Fault Bytes :=
  if i < b.length then .ok (b.set i x) else .error (.range i (i + 1) b.length)

/-- The bytes from `start` up to `stop`. -/
def slice (b : Bytes) (start stop : Nat) : Except Fault Bytes :=
  if start ≤ stop ∧ stop ≤ b.length then .ok ((b.take stop).drop start)
  else .error (.range start stop b.length)

/-- Copies `data` over the bytes from `start` up to `stop`. -/
def store (b : Bytes) (start stop : Nat) (data : Bytes) : Except Fault Bytes :=
  if start ≤ stop ∧ stop ≤ b.length then
    if data.length = stop - start then .ok (Bytes.splice b start data)
    else .error (.mismatch (stop - start) data.length)
  else .error (.range start stop b.length)

/-- Zeros the bytes from `start` on. -/
def clear (b : Bytes) (start : Nat) : Except Fault Bytes :=
  if start ≤ b.length then .ok (b.take start ++ Bytes.zeros (b.length - start))
  else .error (.range start b.length b.length)

/-! ## Headers and frames -/

/-- Tags are bytes. -/
def nextTag (last : UInt8) : Except Fault UInt8 :=
  if (last % 255).toNat + 1 < UInt8.size then .ok (Tag.next last) else .error .overflow

def paddedLen (n : Nat) : Except Fault Nat := do
  let words ← if 0 < n % Frame.alignment then add (n / Frame.alignment) 1 else pure (n / Frame.alignment)
  mul words Frame.alignment

def frameLen (n : Nat) : Except Fault Nat := do
  let padded ← paddedLen n
  add Header.byteCount padded

def encode (h : Header) : Except Fault Bytes := do
  let b ← put (Bytes.zeros Header.byteCount) 0 h.messageId
  let b ← put b 1 h.tag
  let b ← put b 2 h.inverse
  let b ← store b 4 8 (Bytes.littleEndian 4 h.size.toNat)
  put b 8 h.attributes

def decode (b : Bytes) : Except Fault (Option Header) :=
  if b.length < Header.byteCount then return none
  else do
    let header ← slice b 0 Header.byteCount
    let messageId ← item header 0
    let tag ← item header 1
    let inverse ← item header 2
    let size := [← item header 4, ← item header 5, ← item header 6, ← item header 7]
    let attributes ← item header 8
    return some { messageId, tag, inverse, size := UInt32.ofNat (Bytes.ofLittleEndian size), attributes }

/-- Lays the frame of `payload` over the front of `buffer`, part by part (`frame_message`). -/
def frame (buffer : Bytes) (tag : UInt8) (payload : Bytes) : Except Fault (Option (Nat × Bytes)) := do
  let len ← frameLen payload.length
  if buffer.length < len ∨ UInt32.size ≤ payload.length then return none
  else
    let header ← encode (Header.out tag (UInt32.ofNat payload.length) true)
    let front ← store (buffer.take len) 0 Header.byteCount header
    let stop ← add Header.byteCount payload.length
    let front ← store front Header.byteCount stop payload
    let front ← clear front stop
    return some (len, Bytes.overlay buffer front)

/-! ## Exchanges -/

/-- A dialogue that ends with the first fault. -/
abbrev Guarded (α : Type) := ExceptT Fault (Dialogue Port) α

def write (s : Session) (data : Bytes) (timeout : Nat) :
    Guarded (Except SessionError Nat × Session) := do
  let max ← Port.maxPacket
  let total ← add data.length Header.byteCount
  if max < total then return (.error (.tooLarge data.length max), s)
  else if s.state ≠ .ready then return (.error .notReady, s)
  else
    let len ← frameLen data.length
    if s.outBuf.length < len then return (.error (.tooLarge data.length s.outBuf.length), s)
    else
      let lastTag ← nextTag s.lastTag
      match ← frame s.outBuf lastTag data with
      | none => return (.error (.tooLarge data.length max), { s with lastTag })
      | some (len, outBuf) =>
        let message ← slice outBuf 0 len
        match ← Session.send message timeout with
        | .error e => return (.error e, { s with lastTag, outBuf })
        | .ok () => return (.ok data.length, { s with lastTag, outBuf })

/-- The checks of a reply. -/
def acceptReply (policy : TagPolicy) (requestTag : UInt8) (requested remaining : Nat) (reply : Bytes) :
    Except Fault (Except FramingError Header) := do
  match ← decode reply with
  | none => return .error (.short reply.length Header.byteCount)
  | some h =>
    let size := h.size.toNat
    if h.messageId ≠ Header.replyId then return .error (.messageId h.messageId Header.replyId)
    else if !(h.tagConsistent && policy.admits h.tag requestTag) then
      return .error (.tag h.tag h.inverse requestTag)
    else if requested < size then return .error (.overRequest size requested)
    else if remaining < size then return .error (.overBuffer size remaining)
    else
      let whole ← add Header.byteCount size
      if reply.length < whole then return .error (.short reply.length whole)
      else return .ok h

def chunk (config : Config) : Except Fault Nat :=
  let room := config.bufferSize - Header.byteCount
  sub room (room % Frame.alignment)

/-- What becomes of a read with the `received` bytes at the front of its in-buffer. -/
def collect (r : Session.Reading) (requested remaining received : Nat) :
    Except Fault (Outcome SessionError Bool × Session.Reading) := do
  let s := r.session
  let reply ← slice s.inBuf 0 received
  match ← acceptReply s.config.tagPolicy s.lastTag requested remaining reply with
  | .error e => return (.failed (.framing e), r)
  | .ok h =>
    let got ← add r.got h.size.toNat
    let stop ← add Header.byteCount h.size.toNat
    let payload ← slice s.inBuf Header.byteCount stop
    let output ← store r.output r.got got payload
    return (.ok h.endOfMessage, { r with output := output.set got 0, got })

def round (timeout : Nat) (r : Session.Reading) : Guarded (Outcome SessionError Bool × Session.Reading) := do
  let s := r.session
  let remaining ← sub r.output.length r.got
  let chunk ← chunk s.config
  let requested := min remaining chunk
  let lastTag ← nextTag s.lastTag
  let request ← encode (Header.request lastTag (UInt32.ofNat requested))
  let outBuf ← store s.outBuf 0 Header.byteCount request
  let request ← slice outBuf 0 Header.byteCount
  let s := { s with lastTag, outBuf }
  match ← Session.send request timeout with
  | .error e => return (.failed e, { r with session := s })
  | .ok () =>
    let len ← frameLen requested
    let room := min len s.inBuf.length
    let _ ← slice s.inBuf 0 room
    let delivery ← Port.bulkIn room timeout
    let s := { s with inBuf := delivery.into s.inBuf room }
    match delivery.count with
    | .error e => return (.failed (.ofTransfer e), { r with session := s })
    | .ok received => collect { r with session := s } requested remaining received

def readRounds (timeout : Nat) : Nat → Session.Reading → Guarded (Outcome SessionError Nat × Session.Reading)
  | rounds, r =>
    if r.output.length ≤ r.got then return (.ok r.got, r)
    else match rounds with
      | 0 => return (.halted .unfinished, r)
      | rounds + 1 => do
        match ← round timeout r with
        | (.ok true, r) => return (.ok r.got, r)
        | (.ok false, r) => readRounds timeout rounds r
        | (.failed e, r) => return (.failed e, r)
        | (.halted h, r) => return (.halted h, r)

def read (s : Session) (patience : Nat) (output : Bytes) (timeout : Nat) : Guarded Session.ReadResult :=
  if s.state ≠ .ready then return ⟨.failed .notReady, output, s⟩
  else do
    let (outcome, r) ← readRounds timeout (output.length + patience) ⟨s, output, 0⟩
    return ⟨outcome, r.output, r.session⟩

def ask (s : Session) (patience : Nat) (query output : Bytes) (timeout : Nat) :
    Guarded Session.ReadResult := do
  match ← write s query timeout with
  | (.error e, s) => return ⟨.failed e, output, s⟩
  | (.ok _, s) => read s patience output timeout

def control {α : Type} (s : Session) (request : UInt8) (room : Nat)
    (decode : Bytes → Except SessionError α) : Guarded (Outcome SessionError α) := do
  let delivery ← Port.controlIn request 0 room s.config.timeout
  match delivery.count with
  | .error e => return .failed (.ofTransfer e)
  | .ok len =>
    let answer ← slice (delivery.into (Bytes.zeros room) room) 0 len
    return .ofExcept (decode answer)

/-! ## Instruments -/

/-- The fields of a reply, which are as many as expected (`expect_tokens`). -/
def expectFields (n : Nat) (reply : String) : Except InstrumentError (List (List Char)) :=
  let found := Text.fields n reply.toList
  if found.length ≠ n then .error (.fieldCount n found.length) else .ok found

def readAcquireState (reply : String) : Except Fault (Except InstrumentError Instrument.State) :=
  match expectFields 2 reply with
  | .error e => return .error e
  | .ok found => do
    let mode ← item found 0
    let flag ← item found 1
    return Instrument.readModeAndFlag mode flag

def readRunState (reply : String) : Except Fault (Except InstrumentError Instrument.State) :=
  match expectFields 1 reply with
  | .error e => return .error e
  | .ok found => do
    let field ← item found 0
    match Instrument.runMnemonic field with
    | some state => return .ok state
    | none => return .error (.unrecognized (String.ofList field))

def readStatus : Instrument.StatusForm → String → Except Fault (Except InstrumentError Instrument.State)
  | .modeAndFlag => readAcquireState
  | .mnemonic => readRunState

def readIdentity (reply : String) : Except Fault (Except InstrumentError Instrument.Identity) :=
  match expectFields 4 reply with
  | .error e => return .error e
  | .ok found => do
    let vendor ← item found 0
    let model ← item found 1
    let serial ← item found 2
    let revision ← item found 3
    return .ok {
      vendor := String.ofList vendor
      model := String.ofList model
      serial := String.ofList serial
      revision := String.ofList revision }

def query {α : Type} (s : Session) (patience : Nat) (question : String) (room : Nat)
    (interpret : String → Except Fault (Except InstrumentError α)) :
    Guarded (Outcome InstrumentError α × Session) := do
  let r ← ask s patience (Bytes.ofString question) (Bytes.zeros room) s.config.timeout
  match r.outcome with
  | .failed e => return (.failed (.session e), r.session)
  | .halted h => return (.halted h, r.session)
  | .ok len =>
    let answer ← slice r.output 0 len
    match Instrument.answerText answer with
    | .error e => return (.failed e, r.session)
    | .ok text =>
      let result ← interpret text
      return (.ofExcept result, r.session)

def identify (s : Session) (patience : Nat) :
    Guarded (Outcome InstrumentError Instrument.Identity × Session) :=
  query s patience Instrument.identityQuery Instrument.identityRoom readIdentity

def detect (s : Session) (patience : Nat) :
    Guarded (Outcome InstrumentError (Option Instrument.Profile) × Session) := do
  let (outcome, s) ← identify s patience
  let found := outcome.andThen fun identity =>
    .ok (Instrument.matchProfile Instrument.detectionTable identity.vendor identity.model)
  return (found.orElse none, s)

def setState (s : Session) (profile : Instrument.Profile) (state : Instrument.State) :
    Guarded (Except InstrumentError Unit × Session) := do
  let command := Bytes.ofString (profile.command state)
  match ← write s command s.config.timeout with
  | (.error e, s) => return (.error (.session e), s)
  | (.ok written, s) =>
    if written = command.length then return (.ok (), s)
    else return (.error (.shortWrite written command.length), s)

/-! ## Every operation -/

def serve (patience : Nat) : (op : Session.Operation) → Session → Guarded (op.Answer × Session)
  | .start, s => s.start
  | .stop, s => do
    let s ← s.stop
    return ((), s)
  | .unload, s => do
    let s ← s.unload
    return ((), s)
  | .write data timeout, s => write s data timeout
  | .read output timeout, s => do return (← read s patience output timeout).answered
  | .ask query output timeout, s => do return (← ask s patience query output timeout).answered
  | .writeLength data timeout, s => do
    match ← write s data timeout with
    | (.ok n, s) => return (n, s)
    | (.error _, s) => return (0, s)
  | .readLength output timeout, s => do
    let r ← read s patience output timeout
    return ((r.outcome.orElse 0, r.output), r.session)
  | .askLength query output timeout, s => do
    let r ← ask s patience query output timeout
    return ((r.outcome.orElse 0, r.output), r.session)
  | .pulse, s => do return (← control s Control.pulseRequest Control.pulseRoom Control.checkPulse, s)
  | .capabilities, s => do
    return (← control s Control.capabilitiesRequest Control.capabilitiesRoom Capabilities.ofBytes, s)
  | .identify, s => identify s patience
  | .detect, s => detect s patience
  | .setState profile state, s => setState s profile state
  | .getState profile, s =>
    query s patience profile.status.query Instrument.statusRoom (readStatus profile.status)

end Checked

end ScopeLink
