import ScopeLink.Instrument.Control
import ScopeLink.Session.Control
import ScopeLink.Proofs.Runs
/-!
# Clients of a session

The operations a client may call, as an interface, and a session with its port as a handler of it.
Every operation holds the lock of the session from its first transfer to its last, so what any
number of clients do to a session is one list of operations, in the order in which they got the
lock.

A session is `Sized` when its buffers have the size of its settings; `Kept` is what every operation
leaves alone.
-/

namespace ScopeLink.Session

/-! ## Operations -/

inductive Operation where
  | start
  | stop
  | unload
  | write (data : Bytes) (timeout : Nat)
  | read (output : Bytes) (timeout : Nat)
  | ask (query output : Bytes) (timeout : Nat)
  | writeLength (data : Bytes) (timeout : Nat)
  | readLength (output : Bytes) (timeout : Nat)
  | askLength (query output : Bytes) (timeout : Nat)
  | pulse
  | capabilities
  | identify
  | detect
  | setState (profile : Instrument.Profile) (state : Instrument.State)
  | getState (profile : Instrument.Profile)
deriving DecidableEq, Repr

/-- What an operation answers; a read also answers the output buffer. -/
abbrev Operation.Answer : Operation → Type
  | .start => Except SessionError Unit
  | .stop | .unload => Unit
  | .write .. => Except SessionError Nat
  | .writeLength .. => Nat
  | .read .. | .ask .. | .readLength .. | .askLength .. => Outcome SessionError Nat × Bytes
  | .pulse => Outcome SessionError Unit
  | .capabilities => Outcome SessionError Capabilities
  | .identify => Outcome InstrumentError Instrument.Identity
  | .detect => Outcome InstrumentError (Option Instrument.Profile)
  | .setState .. => Except InstrumentError Unit
  | .getState .. => Outcome InstrumentError Instrument.State

/-- The operations that leave the life of a session alone. -/
def Operation.IsExchange : Operation → Prop
  | .start | .stop | .unload => False
  | _ => True

abbrev Client : Interface := ⟨Operation, Operation.Answer⟩

/-- What a read answers, and the session it leaves. -/
def ReadResult.answered (r : ReadResult) : (Outcome SessionError Nat × Bytes) × Session :=
  ((r.outcome, r.output), r.session)

/-- Carries out an operation on a session, with this patience where it reads. -/
def serve (patience : Nat) : (op : Operation) → Session → Dialogue Port (op.Answer × Session)
  | .start, s => s.start
  | .stop, s => (fun s => ((), s)) <$> s.stop
  | .unload, s => (fun s => ((), s)) <$> s.unload
  | .write data timeout, s => s.write data timeout
  | .read output timeout, s => ReadResult.answered <$> s.read patience output timeout
  | .ask query output timeout, s => ReadResult.answered <$> s.ask patience query output timeout
  | .writeLength data timeout, s => s.writeLength data timeout
  | .readLength output timeout, s => ReadResult.answered <$> s.readLength patience output timeout
  | .askLength query output timeout, s => ReadResult.answered <$> s.askLength patience query output timeout
  | .pulse, s => (fun r => (r, s)) <$> s.pulse
  | .capabilities, s => (fun r => (r, s)) <$> s.capabilities
  | .identify, s => Instrument.identify s patience
  | .detect, s => Instrument.detect s patience
  | .setState profile state, s => Instrument.setState s profile state
  | .getState profile, s => Instrument.getState s patience profile

/-- A session over a port, as its clients see it. -/
def operate {σ : Type} (patience : Nat) (port : Handler Port σ) : Handler Client (Session × σ) :=
  .through (serve patience) port

variable {patience : Nat}

theorem operate_apply {σ : Type} (patience : Nat) (port : Handler Port σ) (op : Operation) (s : Session) (x : σ) :
    operate patience port op (s, x) =
      (((serve patience op s).run port x).1.1,
        ((serve patience op s).run port x).1.2, ((serve patience op s).run port x).2) := rfl

/-! ## What operations leave alone -/

/-- Both buffers have the size of the settings, which is no less than the least size. -/
structure Sized (s : Session) : Prop where
  out : s.outBuf.length = s.config.bufferSize
  inn : s.inBuf.length = s.config.bufferSize
  least : Config.minBufferSize ≤ s.config.bufferSize

theorem sized_new (config : Config) : (new config).Sized :=
  ⟨length_outBuf_new config, length_inBuf_new config, minBufferSize_le_new config⟩

/-- A size below 4 GiB is not raised above it. -/
theorem small_new {config : Config} (small : config.bufferSize < UInt32.size) :
    (new config).config.bufferSize < UInt32.size := by
  simp only [new, Config.withBufferSize, Config.minBufferSize, Header.byteCount, Frame.alignment,
    UInt32.size] at small ⊢
  omega

/-- `s'` has the settings of `s`, and buffers of the same size. -/
structure Kept (s s' : Session) : Prop where
  config : s'.config = s.config
  sized : s.Sized → s'.Sized

theorem Kept.refl (s : Session) : Kept s s := ⟨rfl, id⟩

theorem Kept.trans {s s' s'' : Session} (h : Kept s s') (h' : Kept s' s'') : Kept s s'' :=
  ⟨h'.config.trans h.config, h'.sized ∘ h.sized⟩

/-- Where its life stands is no matter of either. -/
theorem kept_state (s : Session) (state : State) : Kept s { s with state } :=
  ⟨rfl, fun sized => ⟨sized.out, sized.inn, sized.least⟩⟩

/-! ## The frame of a write -/

/-- The session that sends `data`. -/
def writing (s : Session) (data : Bytes) : Session :=
  { s with
    lastTag := Tag.next s.lastTag
    outBuf := Bytes.overlay s.outBuf (Frame.message (Tag.next s.lastTag) data) }

theorem kept_writing (s : Session) (data : Bytes) : Kept s (s.writing data) :=
  ⟨rfl, fun sized => ⟨(Bytes.length_overlay _ _).trans sized.out, sized.inn, sized.least⟩⟩

/-- A message that fits the buffer is sent in one frame, since the size of a buffer below 4 GiB can
be stated in four bytes. -/
theorem write_eq {s : Session} (sized : s.Sized) (small : s.config.bufferSize < UInt32.size)
    (data : Bytes) (timeout : Nat) :
    s.write data timeout = Port.maxPacket >>= fun (max : Nat) =>
      if max < data.length + Header.byteCount then .done (.error (.tooLarge data.length max), s)
      else if s.state ≠ .ready then .done (.error .notReady, s)
      else if s.outBuf.length < Frame.len data.length then
        .done (.error (.tooLarge data.length s.outBuf.length), s)
      else send (Frame.message (Tag.next s.lastTag) data) timeout >>= fun answer =>
        .done (answer.map fun _ => data.length, s.writing data) := by
  unfold write
  congr 1
  funext max
  split; · rfl
  split; · rfl
  split; · rfl
  rename_i hbuffer
  have hpad := Frame.le_paddedLen data.length
  have hfits : ¬ (s.outBuf.length < Frame.len data.length ∨ UInt32.size ≤ data.length) := by
    have := sized.out
    simp only [Frame.len] at hbuffer ⊢
    omega
  have htake : (s.writing data).outBuf.take (Frame.len data.length) =
      Frame.message (Tag.next s.lastTag) data := by
    rw [← Frame.length_message (Tag.next s.lastTag) data]
    exact Bytes.take_overlay (by rw [Frame.length_message]; omega)
  dsimp only [Frame.write]
  rw [if_neg hfits]
  show send ((s.writing data).outBuf.take (Frame.len data.length)) timeout >>= _ = _
  rw [htake]
  congr 1
  funext answer
  cases answer <;> rfl

/-! ## The request of a round -/

/-- The header that asks for the next part of a reply. -/
def Reading.request (r : Reading) : Header :=
  .request (Tag.next r.session.lastTag) (UInt32.ofNat r.requested)

/-- The session that sends it. -/
def Reading.requesting (r : Reading) : Session :=
  { r.session with
    lastTag := Tag.next r.session.lastTag
    outBuf := Bytes.overlay r.session.outBuf r.request.encode }

theorem Reading.kept_requesting (r : Reading) (inBuf : Bytes)
    (h : inBuf.length = r.session.inBuf.length) : Kept r.session { r.requesting with inBuf } :=
  ⟨rfl, fun sized => ⟨(Bytes.length_overlay _ _).trans sized.out, h.trans sized.inn, sized.least⟩⟩

/-- The header is all that is sent of the buffer it was laid over. -/
theorem Reading.take_requesting {r : Reading} (sized : r.session.Sized) :
    r.requesting.outBuf.take Header.byteCount = r.request.encode := by
  have hle : r.request.encode.length ≤ r.session.outBuf.length := by
    have := sized.least
    rw [Header.length_encode, sized.out]
    simp only [Config.minBufferSize, Header.byteCount] at *
    omega
  rw [← Header.length_encode r.request]
  exact Bytes.take_overlay hle

/-- There is room in the buffer for what is asked for. -/
theorem Reading.len_requested_le {r : Reading} (sized : r.session.Sized) :
    Frame.len r.requested ≤ r.session.inBuf.length := by
  obtain ⟨-, hdvd, hchunk⟩ := Config.chunk_bounds sized.least
  have hpad := Frame.paddedLen_le (Nat.min_le_right r.remaining _) hdvd
  have hin := sized.inn
  simp only [Frame.len, Reading.requested]
  omega

/-- What a session with buffers below 4 GiB asks for can be stated in four bytes. -/
theorem Reading.requested_small {r : Reading} (sized : r.session.Sized)
    (small : r.session.config.bufferSize < UInt32.size) : r.requested < UInt32.size := by
  obtain ⟨-, -, hchunk⟩ := Config.chunk_bounds sized.least
  have hle : r.requested ≤ r.session.config.chunk := Nat.min_le_right _ _
  omega

/-- The end of a round, once the request has been answered by a transfer into `room` bytes. -/
def Reading.receiving (r : Reading) (room : Nat) (delivery : Port.Delivery) :
    Outcome SessionError Bool × Reading :=
  let inBuf := delivery.into r.session.inBuf room
  let r' := { r with session := { r.requesting with inBuf } }
  match delivery.count with
  | .error e => (.failed (.ofTransfer e), r')
  | .ok received =>
    if inBuf.length < received then (.halted .overrun, r')
    else
      let reply := inBuf.take received
      match acceptReply r.session.config.tagPolicy (Tag.next r.session.lastTag) r.requested r.remaining
        reply with
      | .error e => (.failed (.framing e), r')
      | .ok h => (.ok h.endOfMessage, r'.append ((reply.drop Header.byteCount).take h.size.toNat))

/-- A round is a request and, if it was sent, one transfer in. -/
theorem round_eq {r : Reading} (sized : r.session.Sized) (timeout : Nat) :
    round timeout r = send r.request.encode timeout >>= fun
      | .error e => .done (.failed e, { r with session := r.requesting })
      | .ok () =>
        let room := min (Frame.len r.requested) r.session.inBuf.length
        Port.bulkIn room timeout >>= fun delivery => .done (r.receiving room delivery) := by
  unfold round
  show send (r.requesting.outBuf.take Header.byteCount) timeout >>= _ = _
  rw [Reading.take_requesting sized]
  congr 1
  funext answer
  cases answer with
  | error e => rfl
  | ok u =>
    dsimp only
    congr 1
    funext delivery
    unfold Reading.receiving
    dsimp only
    cases delivery.count with
    | error e => rfl
    | ok received =>
      dsimp only
      split
      · rfl
      · cases acceptReply _ _ _ _ _ <;> rfl

/-! ## Transfers -/

/-- One transfer, which has taken all of the data if the sending succeeds. -/
theorem send_answer (data : Bytes) (timeout : Nat) :
    (send data timeout).Always fun log outcome => ∃ answer, log = [⟨.bulkOut data timeout, answer⟩] ∧
      (outcome = .ok () → answer = .ok data.length) := by
  unfold send
  rw [Port.bulkOut_bind]
  intro answer
  cases answer with
  | error e => exact ⟨.error e, rfl, nofun⟩
  | ok sent =>
    dsimp only
    split
    · rename_i hall
      exact ⟨.ok sent, rfl, fun _ => by rw [hall]⟩
    · exact ⟨.ok sent, rfl, nofun⟩

theorem send_transfer (data : Bytes) (timeout : Nat) :
    (send data timeout).Always fun log _ => ∃ answer, log = [⟨.bulkOut data timeout, answer⟩] :=
  (send_answer data timeout).mono fun _ _ ⟨answer, hlog, _⟩ => ⟨answer, hlog⟩

theorem control_transfer {α : Type} (s : Session) (request : UInt8) (room : Nat)
    (decode : Bytes → Except SessionError α) :
    (s.control request room decode).Always fun log _ =>
      ∃ delivery, log = [⟨.controlIn request 0 room s.config.timeout, delivery⟩] := by
  unfold control
  rw [Port.controlIn_bind]
  intro delivery
  dsimp only
  cases delivery.count with
  | error e => exact ⟨delivery, rfl⟩
  | ok len =>
    dsimp only
    split
    · exact ⟨delivery, rfl⟩
    · exact ⟨delivery, rfl⟩

/-- All that a write can do: refuse the message, which draws a tag only if the buffer would hold what
no header can state, or send it in one frame. -/
inductive Written (s : Session) (data : Bytes) (timeout : Nat) : List (Event Port) → Session → Prop
  | refused {max} : Written s data timeout [⟨.maxPacket, max⟩] s
  | unstated {max} : Frame.len data.length ≤ s.outBuf.length →
    Frame.write s.outBuf (Tag.next s.lastTag) data = none →
    Written s data timeout [⟨.maxPacket, max⟩] { s with lastTag := Tag.next s.lastTag }
  | sent {max answer n outBuf} : Frame.write s.outBuf (Tag.next s.lastTag) data = some (n, outBuf) →
    Written s data timeout [⟨.maxPacket, max⟩, ⟨.bulkOut (outBuf.take n) timeout, answer⟩]
      { s with lastTag := Tag.next s.lastTag, outBuf }

theorem Written.kept {s s' : Session} {data : Bytes} {timeout : Nat} {log : List (Event Port)}
    (h : Written s data timeout log s') : Kept s s' := by
  cases h with
  | refused => exact .refl s
  | unstated => exact ⟨rfl, fun sized => ⟨sized.out, sized.inn, sized.least⟩⟩
  | sent hsome =>
    have hlen := (Frame.write_eq_some hsome).2
    exact ⟨rfl, fun sized => ⟨hlen.trans sized.out, sized.inn, sized.least⟩⟩

theorem write_written (s : Session) (data : Bytes) (timeout : Nat) :
    (s.write data timeout).Always fun log r => Written s data timeout log r.2 := by
  unfold write
  rw [Port.maxPacket_bind]
  intro max
  dsimp only
  split
  · exact .refused
  split
  · exact .refused
  split
  · exact .refused
  rename_i hroom
  split
  · rename_i hnone
    exact .unstated (Nat.not_lt.mp hroom) hnone
  · rename_i n outBuf hsome
    rw [Dialogue.always_bind]
    refine (send_transfer _ _).mono ?_
    rintro _ (e | u) ⟨answer, rfl⟩
    · exact .sent hsome
    · exact .sent hsome

/-- All that a round can do: fail to send its request, or send it and take one transfer in. -/
inductive Turned (timeout : Nat) (r : Reading) : List (Event Port) → Session → Prop
  | unsent {answer} :
    Turned timeout r [⟨.bulkOut (r.requesting.outBuf.take Header.byteCount) timeout, answer⟩] r.requesting
  | taken {answer room delivery} :
    Turned timeout r [⟨.bulkOut (r.requesting.outBuf.take Header.byteCount) timeout, answer⟩,
      ⟨.bulkIn room timeout, delivery⟩] { r.requesting with inBuf := delivery.into r.session.inBuf room }

theorem Turned.state {timeout : Nat} {r : Reading} {log : List (Event Port)} {s : Session}
    (h : Turned timeout r log s) : s.state = r.session.state := by
  cases h <;> rfl

theorem Turned.kept {timeout : Nat} {r : Reading} {log : List (Event Port)} {s : Session}
    (h : Turned timeout r log s) : Kept r.session s := by
  cases h with
  | unsent => exact r.kept_requesting _ rfl
  | taken => exact r.kept_requesting _ (Port.Delivery.length_into _ _ _)

theorem round_turned (timeout : Nat) (r : Reading) :
    (round timeout r).Always fun log p => Turned timeout r log p.2.session := by
  unfold round
  rw [Dialogue.always_bind]
  refine (send_transfer _ _).mono ?_
  rintro _ (e | u) ⟨answer, rfl⟩
  · exact .unsent
  · dsimp only
    rw [Port.bulkIn_bind]
    intro delivery
    dsimp only
    cases delivery.count with
    | error e => exact .taken
    | ok received =>
      dsimp only
      split
      · exact .taken
      · split
        · exact .taken
        · exact .taken

/-! ## Relations along a run -/

/-- What an operation does, whatever the port answers, it does over any port. -/
theorem operate_always {σ : Type} {op : Operation} {s : Session}
    {Q : List (Event Port) → op.Answer × Session → Prop} (h : (serve patience op s).Always Q)
    (port : Handler Port σ) (x : σ) (log : List (Event Port)) :
    ∃ calls answer s' x', operate patience port.recorded op (s, x, log) = (answer, s', x', log ++ calls) ∧
      Q calls (answer, s') := by
  obtain ⟨calls, hlog, hq⟩ := Dialogue.always_run h port x log
  exact ⟨calls, _, _, _, by rw [operate_apply, ← hlog], hq⟩

/-- A relation that composes, and that every operation carries, is carried by a run. -/
theorem after_of_serve {R : Session → List (Event Port) → Session → Prop} (refl : ∀ s, R s [] s)
    (trans : ∀ {s s' s'' log log'}, R s log s' → R s' log' s'' → R s (log ++ log') s'')
    (step : ∀ op s, (serve patience op s).Always fun log r => R s log r.2) {σ : Type} (port : Handler Port σ)
    (ops : List Operation) (s : Session) (x : σ) (log : List (Event Port)) :
    ∃ calls, ((operate patience port.recorded).after ops (s, x, log)).2.2 = log ++ calls ∧
      R s calls ((operate patience port.recorded).after ops (s, x, log)).1 := by
  induction ops generalizing s x log with
  | nil => exact ⟨[], by simp [Handler.after], refl s⟩
  | cons op ops ih =>
    obtain ⟨calls, answer, s', x', hnext, hr⟩ := operate_always (step op s) port x log
    obtain ⟨calls', hlog', hr'⟩ := ih s' x' (log ++ calls)
    rw [Handler.after, hnext]
    exact ⟨calls ++ calls', by rw [hlog', List.append_assoc], trans hr hr'⟩

/-- A relation between a session, the calls made on its port and the session behind them that
composes, and that holds of everything an exchange is put together from. -/
structure Carried (R : Session → List (Event Port) → Session → Prop) : Prop where
  refl : ∀ s, R s [] s
  trans : ∀ {s s' s'' log log'}, R s log s' → R s' log' s'' → R s (log ++ log') s''
  write : ∀ s data timeout, (write s data timeout).Always fun log r => R s log r.2
  round : ∀ timeout r, r.session.state = .ready →
    (round timeout r).Always fun log p => R r.session log p.2.session
  control : ∀ (s : Session) {α : Type} request room (decode : Bytes → Except SessionError α),
    (s.control request room decode).Always fun log _ => R s log s

/-- One that also holds of the steps in the life of a session. -/
structure Lasting (R : Session → List (Event Port) → Session → Prop) : Prop extends Carried R where
  start : ∀ s, (start s).Always fun log r => R s log r.2
  stop : ∀ s, (stop s).Always fun log s' => R s log s'
  unload : ∀ s, (unload s).Always fun log s' => R s log s'

namespace Carried

variable {R : Session → List (Event Port) → Session → Prop} (h : Carried R)
include h

theorem readRounds (timeout : Nat) : ∀ (rounds : Nat) (r : Reading), r.session.state = .ready →
    (readRounds timeout rounds r).Always fun log p => R r.session log p.2.session
  | rounds, r, ready => by
    unfold Session.readRounds
    split
    · exact h.refl _
    · cases rounds with
      | zero => exact h.refl _
      | succ rounds =>
        have hround := (h.round timeout r ready).and ((round_turned timeout r).mono fun _ _ hp =>
          hp.state.trans ready)
        refine Dialogue.Always.bind_trans_of h.trans (g := fun p => p.2.session) hround ?_
        rintro ⟨outcome, r'⟩ ready'
        cases outcome with
        | ok last =>
          cases last with
          | true => exact h.refl _
          | false => exact readRounds timeout rounds r' ready'
        | failed e => exact h.refl _
        | halted e => exact h.refl _

theorem read (s : Session) (output : Bytes) (timeout : Nat) :
    (s.read patience output timeout).Always fun log r => R s log r.session := by
  unfold Session.read
  split
  · exact h.refl s
  · rename_i ready
    refine Dialogue.Always.bind_trans h.trans (g := fun p => p.2.session)
      (h.readRounds timeout _ ⟨s, output, 0⟩ (Decidable.not_not.mp ready)) ?_
    rintro ⟨outcome, r⟩
    exact h.refl r.session

theorem ask (s : Session) (query output : Bytes) (timeout : Nat) :
    (s.ask patience query output timeout).Always fun log r => R s log r.session := by
  refine Dialogue.Always.bind_trans h.trans (g := Prod.snd) (h.write s query timeout) ?_
  rintro ⟨outcome, s'⟩
  cases outcome with
  | error e => exact h.refl s'
  | ok n => exact h.read s' output timeout

/-- A dialogue followed by something that asks nothing and keeps the session. -/
theorem andDone {α β : Type} {s : Session} {d : Dialogue Port α} {g : α → Session} {k : β → Session}
    {f : α → β} (hd : d.Always fun log a => R s log (g a)) (hk : ∀ a, k (f a) = g a) :
    (d >>= fun a => .done (f a)).Always fun log b => R s log (k b) :=
  Dialogue.Always.bind_trans h.trans hd fun a => by
    rw [Dialogue.always_done, hk]
    exact h.refl (g a)

theorem query {α : Type} (s : Session) (question : String) (room : Nat)
    (interpret : String → Except InstrumentError α) :
    (Instrument.query s patience question room interpret).Always fun log r => R s log r.2 :=
  h.andDone (h.ask s _ _ _) fun _ => rfl

/-- Every exchange carries the relation. -/
theorem exchange (op : Operation) (hop : op.IsExchange) (s : Session) :
    (Session.serve patience op s).Always fun log r => R s log r.2 := by
  cases op with
  | start => exact hop.elim
  | stop => exact hop.elim
  | unload => exact hop.elim
  | write data timeout => exact h.write s data timeout
  | read output timeout => exact h.andDone (h.read s output timeout) fun _ => rfl
  | ask query output timeout => exact h.andDone (h.ask s query output timeout) fun _ => rfl
  | writeLength data timeout =>
    refine Dialogue.Always.bind_trans h.trans (g := Prod.snd) (h.write s data timeout) ?_
    rintro ⟨outcome, s'⟩
    cases outcome <;> exact h.refl s'
  | readLength output timeout =>
    exact h.andDone (h.andDone (h.read s output timeout) fun _ => rfl) fun _ => rfl
  | askLength query output timeout =>
    exact h.andDone (h.andDone (h.ask s query output timeout) fun _ => rfl) fun _ => rfl
  | pulse => exact h.andDone (h.control s _ _ _) fun _ => rfl
  | capabilities => exact h.andDone (h.control s _ _ _) fun _ => rfl
  | identify => exact h.query s _ _ _
  | detect => exact h.andDone (h.query s _ _ _) fun _ => rfl
  | setState profile state =>
    refine Dialogue.Always.bind_trans h.trans (g := Prod.snd) (h.write s _ _) ?_
    rintro ⟨outcome, s'⟩
    cases outcome with
    | error e => exact h.refl s'
    | ok written =>
      dsimp only
      split <;> exact h.refl s'
  | getState profile => exact h.query s _ _ _

end Carried

namespace Lasting

variable {R : Session → List (Event Port) → Session → Prop} (h : Lasting R)
include h

theorem serve (op : Operation) (s : Session) :
    (Session.serve patience op s).Always fun log r => R s log r.2 := by
  cases op with
  | start => exact h.start s
  | stop => exact h.andDone (h.stop s) fun _ => rfl
  | unload => exact h.andDone (h.unload s) fun _ => rfl
  | _ =>
    refine h.exchange _ ?_ s
    trivial

/-- A run of operations over any port carries the relation along its log. -/
theorem after {σ : Type} (port : Handler Port σ) (ops : List Operation) (s : Session) (x : σ)
    (log : List (Event Port)) :
    ∃ calls, ((operate patience port.recorded).after ops (s, x, log)).2.2 = log ++ calls ∧
      R s calls ((operate patience port.recorded).after ops (s, x, log)).1 :=
  after_of_serve h.refl h.trans h.serve port ops s x log

end Lasting

end ScopeLink.Session
