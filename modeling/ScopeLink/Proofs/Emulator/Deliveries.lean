import ScopeLink.Proofs.Emulator.Answers
import ScopeLink.Proofs.Tags
import ScopeLink.Proofs.Reads
/-!
# Messages arrive once and in order

An operation that sends a message does so first, and whatever it does then is `Unheard`: requests, transfers
in and class requests, of which the emulator executes nothing (`Operation.Parts`). So the messages that the
emulator has executed behind a run are those of the operations whose message was sent, one for each and in
order (`messages_delivered`).
-/

namespace ScopeLink

namespace Emulator

/-- Calls that execute nothing and leave the endpoints as they are. -/
def Unheard : Port.Call → Prop
  | .bulkOut data _ => ∃ tag size, data = (Header.request tag size).encode
  | .openEndpoints | .closeEndpoints => False
  | .maxPacket | .bulkIn .. | .controlIn .. => True

/-- A request leaves the messages alone, whether the device takes it or not. -/
theorem bulkOut_request (e : Emulator) (tag : UInt8) (size : UInt32) :
    ∃ pending outCount, (e.bulkOut (Header.request tag size).encode).2 = { e with pending, outCount } := by
  by_cases isOpen : e.isOpen = true
  · by_cases room : Header.byteCount ≤ e.maxPacket
    · rw [bulkOut_accepted isOpen (accept_request room)]
      exact ⟨_, _, rfl⟩
    · rw [bulkOut_refused isOpen (accept_of_long (by rw [Header.length_encode]; exact Nat.not_le.mp room))]
      exact ⟨_, _, rfl⟩
  · unfold bulkOut
    rw [if_neg isOpen]
    exact ⟨e.pending, e.outCount, rfl⟩

theorem bulkIn_leaves (e : Emulator) (room : Nat) :
    ∃ queue pending inCount, (e.bulkIn room).2 = { e with queue, pending, inCount } := by
  unfold bulkIn
  split
  · dsimp only
    split
    · exact ⟨e.queue, none, _, rfl⟩
    split
    · exact ⟨e.queue, none, _, rfl⟩
    split
    · exact ⟨e.queue, none, _, rfl⟩
    · exact ⟨_, none, _, rfl⟩
  · exact ⟨e.queue, e.pending, e.inCount, rfl⟩

theorem controlIn_leaves (e : Emulator) (request : UInt8) (room : Nat) :
    ∃ pulses, (e.controlIn request room).2 = { e with pulses } := by
  unfold controlIn
  split
  · exact ⟨e.pulses, rfl⟩
  split
  · exact ⟨_, rfl⟩
  · exact ⟨e.pulses, rfl⟩

theorem port_of_unheard {c : Port.Call} (h : Unheard c) (e : Emulator) :
    (port c e).2.messages = e.messages ∧ (port c e).2.isOpen = e.isOpen := by
  cases c with
  | openEndpoints => exact h.elim
  | closeEndpoints => exact h.elim
  | maxPacket => exact ⟨rfl, rfl⟩
  | bulkOut data timeout =>
    obtain ⟨tag, size, rfl⟩ := h
    obtain ⟨pending, outCount, hnext⟩ := e.bulkOut_request tag size
    simp [port, hnext]
  | bulkIn room timeout =>
    obtain ⟨queue, pending, inCount, hnext⟩ := e.bulkIn_leaves room
    simp [port, hnext]
  | controlIn request value room timeout =>
    obtain ⟨pulses, hnext⟩ := e.controlIn_leaves request room
    simp [port, hnext]

end Emulator

namespace Session

variable {patience : Nat}

/-! ## What is said, and what is not -/

/-- The message that an operation sends, and how long it may take, under the settings of the session. -/
def Operation.message (config : Config) : Operation → Option (Bytes × Nat)
  | .write data timeout | .writeLength data timeout => some (data, timeout)
  | .ask query _ timeout | .askLength query _ timeout => some (query, timeout)
  | .identify | .detect => some (Bytes.ofString Instrument.identityQuery, config.timeout)
  | .setState profile state => some (Bytes.ofString (profile.command state), config.timeout)
  | .getState profile => some (Bytes.ofString profile.status.query, config.timeout)
  | .start | .stop | .unload | .read .. | .readLength .. | .pulse | .capabilities => none

/-- A dialogue that the emulator executes nothing of. -/
def Unheard {α : Type} (d : Dialogue Port α) : Prop :=
  d.Always fun log _ => ∀ event ∈ log, Emulator.Unheard event.call

theorem unheard_done {α : Type} (a : α) : Unheard (.done a) := fun _ h => (nomatch h)

theorem Unheard.bind {α β : Type} {d : Dialogue Port α} {f : α → Dialogue Port β} (hd : Unheard d)
    (hf : ∀ a, Unheard (f a)) : Unheard (d >>= f) := Dialogue.Always.bind_forall hd hf

theorem Unheard.map {α β : Type} {d : Dialogue Port α} (hd : Unheard d) (f : α → β) : Unheard (f <$> d) :=
  hd.bind fun _ => unheard_done _

/-- What the emulator does not execute leaves its messages and its endpoints alone. -/
theorem Unheard.run {α : Type} {d : Dialogue Port α} (hd : Unheard d) (e : Emulator) :
    (d.run Emulator.port e).2.messages = e.messages ∧ (d.run Emulator.port e).2.isOpen = e.isOpen := by
  obtain ⟨calls, hcalls, hafter⟩ := Dialogue.Always.run hd Emulator.port e
  rw [hafter]
  refine Handler.after_of_forall (h := Emulator.port) (C := Emulator.Unheard)
    (fun e' : Emulator => e'.messages = e.messages ∧ e'.isOpen = e.isOpen) ?_ _ e ?_ ⟨rfl, rfl⟩
  · rintro e' c hc ⟨hmessages, hopen⟩
    obtain ⟨hnext, hopen'⟩ := Emulator.port_of_unheard hc e'
    exact ⟨hnext.trans hmessages, hopen'.trans hopen⟩
  · intro c hc
    obtain ⟨event, hevent, rfl⟩ := List.mem_map.mp hc
    exact hcalls event hevent

theorem Reading.unheard_exchange (r : Reading) (timeout : Nat) (delivery : Port.Delivery) :
    ∀ event ∈ r.exchange timeout delivery, Emulator.Unheard event.call := by
  intro event he
  simp only [exchange, List.mem_cons, List.not_mem_nil, or_false] at he
  obtain rfl | rfl := he
  · exact ⟨_, _, rfl⟩
  · trivial

theorem Rounds.unheard {timeout : Nat} {r r' : Reading} {log : List (Event Port)}
    (h : Rounds timeout r log r') : ∀ event ∈ log, Emulator.Unheard event.call := by
  induction h with
  | nil => exact fun _ he => (nomatch he)
  | cons _ _ _ ih => exact fun event he =>
      (List.mem_append.mp he).elim (Reading.unheard_exchange _ _ _ event) (ih event)

theorem LastRound.unheard {timeout : Nat} {r r' : Reading} {log : List (Event Port)}
    {outcome : Outcome SessionError Nat} (h : LastRound timeout r log outcome r') :
    ∀ event ∈ log, Emulator.Unheard event.call := by
  cases h with
  | full | unfinished => exact fun _ he => (nomatch he)
  | unsent =>
    intro event he
    rw [List.mem_singleton.mp he]
    exact ⟨_, _, rfl⟩
  | answered => exact Reading.unheard_exchange _ _ _

/-- A read is requests and transfers in, however many rounds it takes and however it ends. -/
theorem unheard_read {s : Session} (sized : s.Sized) (output : Bytes) (timeout : Nat) :
    Unheard (s.read patience output timeout) := by
  unfold read
  split
  · exact unheard_done _
  · refine Unheard.bind ((readRounds_rounds timeout _ ⟨s, output, 0⟩ sized).mono ?_) fun _ => unheard_done _
    rintro log ⟨outcome, r⟩ ⟨before, r', last, rfl, hrounds, hlast⟩ event he
    exact (List.mem_append.mp he).elim (hrounds.unheard event) (hlast.unheard event)

theorem unheard_control {α : Type} (s : Session) (request : UInt8) (room : Nat)
    (decode : Bytes → Except SessionError α) : Unheard (s.control request room decode) := by
  refine (control_transfer s request room decode).mono ?_
  rintro _ outcome ⟨delivery, rfl⟩ event he
  rw [List.mem_singleton.mp he]
  trivial

/-- An operation that sends a message does nothing before, and nothing that is executed behind it. -/
inductive Operation.Parts (patience : Nat) (s : Session) (op : Operation) : Prop
  | said {data timeout} (rest : Except SessionError Nat × Session → Dialogue Port (op.Answer × Session)) :
    op.message s.config = some (data, timeout) → serve patience op s = s.write data timeout >>= rest →
    (∀ outcome s', s'.Sized → Unheard (rest (outcome, s'))) → Parts patience s op
  | unsaid : op.message s.config = none → Unheard (serve patience op s) → Parts patience s op

theorem ask_parts {β : Type} (patience : Nat) {s : Session} (query output : Bytes) (timeout : Nat)
    (f : ReadResult → Dialogue Port β) (hf : ∀ r, Unheard (f r)) :
    ∃ rest : Except SessionError Nat × Session → Dialogue Port β,
      s.ask patience query output timeout >>= f = s.write query timeout >>= rest ∧
      ∀ outcome s', s'.Sized → Unheard (rest (outcome, s')) := by
  refine ⟨_, Dialogue.bind_assoc _ _ f, fun outcome s' sized => ?_⟩
  cases outcome with
  | error e => exact hf _
  | ok n => exact (unheard_read sized output timeout).bind hf

theorem parts (patience : Nat) (op : Operation) (hop : op.IsExchange) {s : Session} (sized : s.Sized) :
    op.Parts patience s := by
  -- what is done with a result asks nothing more
  have hdone {α β : Type} (f : α → β) : ∀ a, Unheard (.done (f a)) := fun a => unheard_done (f a)
  cases op with
  | start => exact hop.elim
  | stop => exact hop.elim
  | unload => exact hop.elim
  | write data timeout =>
    exact .said .done rfl (Dialogue.bind_done _).symm fun _ _ _ => unheard_done _
  | writeLength data timeout =>
    refine .said _ rfl rfl fun outcome s' _ => ?_
    cases outcome <;> exact unheard_done _
  | read output timeout => exact .unsaid rfl ((unheard_read sized output timeout).map _)
  | readLength output timeout =>
    exact .unsaid rfl (((unheard_read sized output timeout).bind fun _ => unheard_done _).map _)
  | pulse => exact .unsaid rfl ((unheard_control s _ _ _).map _)
  | capabilities => exact .unsaid rfl ((unheard_control s _ _ _).map _)
  | ask query output timeout =>
    obtain ⟨rest, hserve, hrest⟩ := ask_parts patience (s := s) query output timeout _
      (hdone ReadResult.answered)
    exact .said rest rfl hserve hrest
  | askLength query output timeout =>
    obtain ⟨rest, hserve, hrest⟩ := ask_parts patience (s := s) query output timeout
      (fun r => .done (ReadResult.answered { r with outcome := r.outcome.orElse 0 })) fun _ => unheard_done _
    refine .said rest rfl ?_ hrest
    rw [← hserve]
    exact Dialogue.bind_assoc _ _ _
  | identify =>
    obtain ⟨rest, hserve, hrest⟩ := ask_parts patience (s := s) _ _ _ _ (hdone _)
    exact .said rest rfl hserve hrest
  | getState profile =>
    obtain ⟨rest, hserve, hrest⟩ := ask_parts patience (s := s) _ _ _ _ (hdone _)
    exact .said rest rfl hserve hrest
  | detect =>
    obtain ⟨rest, hserve, hrest⟩ := ask_parts patience (s := s) _ _ _ _ (hdone _)
    refine .said rest rfl ?_ hrest
    rw [← hserve]
    exact Dialogue.bind_assoc _ _ _
  | setState profile state =>
    refine .said _ rfl rfl fun outcome s' _ => ?_
    cases outcome with
    | error e => exact unheard_done _
    | ok written =>
      dsimp only
      split <;> exact unheard_done _

/-! ## One operation -/

/-- A session of the sizes of its settings, and a device whose endpoints are open while it is ready. -/
structure Attached (s : Session) (e : Emulator) : Prop where
  sized : s.Sized
  small : s.config.bufferSize < UInt32.size
  isOpen : s.state = .ready → e.isOpen = true

theorem attached_new (e : Emulator) {config : Config} (small : config.bufferSize < UInt32.size) :
    Attached (new config) e :=
  ⟨sized_new config, small_new small, fun ready => (nomatch ready)⟩

/-- What an operation adds to the messages of the device: the text of what it sends, if that was sent. -/
def delivery (s : Session) (e : Emulator) (op : Operation) : List String :=
  match op.message s.config with
  | none => []
  | some (data, timeout) =>
    match written s e data timeout with
    | .ok _ => [String.ofList (Utf8.decodeLossy data)]
    | .error _ => []

theorem run_write_messages {s : Session} {e : Emulator} (h : Attached s e) (data : Bytes) (timeout : Nat) :
    let r := (s.write data timeout).run Emulator.port e
    r.1.2.Sized ∧ r.2.isOpen = e.isOpen ∧ r.2.messages = e.messages ++
      match written s e data timeout with
      | .ok _ => [String.ofList (Utf8.decodeLossy data)]
      | .error _ => [] := by
  obtain ⟨s', halike, ⟨-, hrun⟩ | ⟨-, err, n, hrun⟩⟩ := run_write data timeout h.sized h.small h.isOpen
  · have hwritten : written s e data timeout = .ok data.length := by rw [written, hrun]
    rw [hrun, hwritten]
    exact ⟨halike.sized h.sized, rfl, rfl⟩
  · have hwritten : written s e data timeout = .error err := by rw [written, hrun]
    rw [hrun, hwritten]
    exact ⟨halike.sized h.sized, rfl, (List.append_nil _).symm⟩

/-- An exchange adds the one message it sends. -/
theorem run_exchange_messages {s : Session} {e : Emulator} (h : Attached s e) (op : Operation)
    (hop : op.IsExchange) :
    ((serve patience op s).run Emulator.port e).2.isOpen = e.isOpen ∧
      ((serve patience op s).run Emulator.port e).2.messages = e.messages ++ delivery s e op := by
  unfold delivery
  cases parts patience op hop h.sized with
  | unsaid hmessage hserve =>
    obtain ⟨hmessages, hopen⟩ := hserve.run e
    rw [hmessage, List.append_nil]
    exact ⟨hopen, hmessages⟩
  | @said data timeout rest hmessage hserve hrest =>
    obtain ⟨sized, hopen, hmessages⟩ := run_write_messages h data timeout
    obtain ⟨hmessages', hopen'⟩ := (hrest _ _ sized).run ((s.write data timeout).run Emulator.port e).2
    rw [hmessage, hserve, Dialogue.run_bind]
    exact ⟨hopen'.trans hopen, hmessages'.trans hmessages⟩

theorem Moved.state {s s' : Session} {op : Operation} {calls : List (Event Port)} (h : Moved s op calls s')
    (hop : op.IsExchange) : s'.state = s.state := by
  cases h with
  | exchanged _ hc => exact hc.state
  | _ => exact hop.elim

/-- A step in the life of a session adds nothing, and the endpoints are open behind it if it is ready. -/
theorem Moved.attends {s s' : Session} {op : Operation} {calls : List (Event Port)} (h : Moved s op calls s')
    (hop : ¬ op.IsExchange) {e : Emulator} (isOpen : s.state = .ready → e.isOpen = true) :
    (s'.state = .ready → (Emulator.port.after (calls.map Event.call) e).isOpen = true) ∧
      (Emulator.port.after (calls.map Event.call) e).messages = e.messages := by
  cases h with
  | exchanged hexchange => exact absurd hexchange hop
  | undisturbed | idle => exact ⟨isOpen, rfl⟩
  | refused | started => exact ⟨fun _ => rfl, rfl⟩
  | stopped | unloaded | lost => exact ⟨nofun, rfl⟩

theorem attached_step {s : Session} {e : Emulator} (op : Operation) (h : Attached s e) :
    (operate patience Emulator.port op (s, e)).2.2.messages = e.messages ++ delivery s e op ∧
      Attached (operate patience Emulator.port op (s, e)).2.1
        (operate patience Emulator.port op (s, e)).2.2 := by
  obtain ⟨calls, ⟨hnumbered, hmoved⟩, hafter⟩ :=
    ((numbered_lasting.serve op s).and (serve_moved op s)).run Emulator.port e
  have sized := hnumbered.kept.sized h.sized
  have small : ((serve patience op s).run Emulator.port e).1.2.config.bufferSize < UInt32.size := by
    rw [hnumbered.kept.config]
    exact h.small
  rw [operate_apply]
  by_cases hop : op.IsExchange
  · obtain ⟨hopen, hmessages⟩ := run_exchange_messages h op hop
    refine ⟨hmessages, sized, small, fun ready => ?_⟩
    rw [hopen]
    exact h.isOpen ((hmoved.state hop).symm.trans ready)
  · obtain ⟨hopen, hmessages⟩ := hmoved.attends hop h.isOpen
    rw [← hafter] at hopen hmessages
    have hnone : delivery s e op = [] := by
      cases op with
      | start | stop | unload => rfl
      | _ => exact absurd trivial hop
    exact ⟨by rw [hmessages, hnone, List.append_nil], sized, small, hopen⟩

/-! ## Whole runs -/

/-- The device has executed one more message for an operation that sent one, and none for the others. -/
def Delivers : Session × Emulator → (op : Operation) → op.Answer → Session × Emulator → Prop
  | (s, e), op, _, (_, e') => e'.messages = e.messages ++ delivery s e op

/-- What the operations of a run add to the messages of the device. -/
def deliveries (patience : Nat) : List Operation → Session × Emulator → List String
  | [], _ => []
  | op :: ops, x => delivery x.1 x.2 op ++ deliveries patience ops (operate patience Emulator.port op x).2

theorem after_deliveries : ∀ (ops : List Operation) (x : Session × Emulator), Attached x.1 x.2 →
    ((operate patience Emulator.port).after ops x).2.messages = x.2.messages ++ deliveries patience ops x
  | [], x, _ => (List.append_nil _).symm
  | op :: ops, (s, e), h => by
    obtain ⟨hmessages, h'⟩ := attached_step op h
    rw [Handler.after, after_deliveries ops _ h', hmessages, deliveries, List.append_assoc]

/-- **Messages arrive once and in order.** Whatever the emulator, its packets and the settings of the session,
every operation of a run adds one message to those the emulator has executed if it sent one, the text of
exactly the bytes it was given, and nothing otherwise; so behind a run they are those of the operations that
sent one, in order. -/
theorem messages_delivered (patience : Nat) (e : Emulator) {config : Config}
    (small : config.bufferSize < UInt32.size) (ops : List Operation) :
    (operate patience Emulator.port).EachStep Delivers ops (new config, e) ∧
      ((operate patience Emulator.port).after ops (new config, e)).2.messages =
        e.messages ++ deliveries patience ops (new config, e) := by
  have h := attached_new e small
  refine ⟨?_, after_deliveries ops _ h⟩
  refine Handler.eachStep_of_step (h := operate patience Emulator.port) (fun x => Attached x.1 x.2) ?_ ops _ h
  rintro ⟨s, e⟩ op h
  exact attached_step op h

/-- Packets of 17 bytes take a message of up to four bytes; one of five the host sends and the device refuses,
and one of six is not sent. A byte that is no text is replaced. -/
theorem messages_delivered_between_limits :
    let config : Config := { bufferSize := 64 }
    let e : Emulator := { maxPacket := 17 }
    let ops : List Operation := [.write [0x52] 1, .start, .write [0x52, 0x55, 0x4E] 1,
      .ask [0x2A, 0x49, 0x44, 0x4E, 0x3F] (Bytes.zeros 8) 1, .ask [0xFF, 0x3F] (Bytes.zeros 8) 1,
      .write (Bytes.zeros 6) 1, .stop, .unload]
    config.bufferSize < UInt32.size ∧ deliveries usualPatience ops (new config, e) = ["RUN", "\uFFFD?"] ∧
      (operate usualPatience Emulator.port).EachStep Delivers ops (new config, e) ∧
        ((operate usualPatience Emulator.port).after ops (new config, e)).2.messages =
          e.messages ++ deliveries usualPatience ops (new config, e) := by
  intro config e ops
  have small : config.bufferSize < UInt32.size := by decide
  exact ⟨small, by decide, messages_delivered usualPatience e small ops⟩

end Session

end ScopeLink
