import ScopeLink.Proofs.Emulator.Exchange
/-!
# Answers of the emulator

Every ask gets the answer to its own question. Between two operations a session and its emulator are
`Settled`: nothing is queued and no request waits. A message that asks something fills the queue, and
the read behind it empties it again; every other way out of an operation leaves the queue alone.

`asks_answered` is the theorem over whole runs. What clients owe for it is `Heeded`: no message that
is only written asks something, and an answer buffer is not empty and holds the answer.
-/

namespace ScopeLink.Session

variable {patience : Nat}

/-! ## Settled devices -/

/-- Between two operations the device owes nothing and nothing is asked of it. -/
structure Settled (s : Session) (e : Emulator) : Prop where
  sized : s.Sized
  small : s.config.bufferSize < UInt32.size
  isOpen : s.state = .ready → e.isOpen = true
  queue : e.queue = []
  pending : e.pending = none

theorem settled_new (identity : String) (maxPacket : Nat) {config : Config}
    (small : config.bufferSize < UInt32.size) : Settled (new config) { identity, maxPacket } :=
  ⟨sized_new config, small_new small, fun h => (nomatch h), rfl, rfl⟩

theorem Settled.alike {s s' : Session} {e e' : Emulator} (h : Settled s e) (halike : Alike s s')
    (isOpen : e'.isOpen = e.isOpen) (queue : e'.queue = []) (pending : e'.pending = none) :
    Settled s' e' :=
  ⟨halike.sized h.sized, by rw [halike.config]; exact h.small,
    fun ready => by rw [isOpen]; exact h.isOpen (by rwa [← halike.state]), queue, pending⟩

/-- Starting opens the endpoints at most. -/
theorem Settled.start {s : Session} {e : Emulator} (h : Settled s e) :
    ∃ answer s' isOpen, s.start.run Emulator.port e = ((answer, s'), { e with isOpen }) ∧
      Settled s' { e with isOpen } := by
  unfold Session.start
  cases hs : s.state with
  | ready => exact ⟨.ok (), s, e.isOpen, rfl, h⟩
  | stopped => exact ⟨.error .notReady, s, e.isOpen, rfl, h⟩
  | active =>
    exact ⟨.ok (), { s with state := .ready }, true, rfl, (kept_state s .ready).sized h.sized, h.small,
      fun _ => rfl, h.queue, h.pending⟩

/-- Stopping closes them at most, as there is no request to be forgotten. -/
theorem Settled.stop {s : Session} {e : Emulator} (h : Settled s e) :
    ∃ s' isOpen, s.stop.run Emulator.port e = (s', { e with isOpen }) ∧ Settled s' { e with isOpen } := by
  unfold Session.stop
  cases hs : s.state with
  | ready =>
    refine ⟨{ s with state := .active }, false, ?_, (kept_state s .active).sized h.sized, h.small,
      fun ready => (nomatch ready), h.queue, h.pending⟩
    show (_, { e with isOpen := false, pending := none }) = _
    rw [h.pending]
  | active => exact ⟨s, e.isOpen, rfl, h⟩
  | stopped => exact ⟨s, e.isOpen, rfl, h⟩

/-- What became of sending a message. -/
def written (s : Session) (e : Emulator) (message : Bytes) (timeout : Nat) : Except SessionError Nat :=
  ((s.write message timeout).run Emulator.port e).1.1

theorem written_of_fits {s : Session} {e : Emulator} {message : Bytes} (timeout : Nat) (h : Settled s e)
    (fits : Fits s e message.length) : written s e message timeout = .ok message.length := by
  obtain ⟨s', -, ⟨-, hrun⟩ | ⟨hfits, -⟩⟩ := run_write message timeout h.sized h.small h.isOpen
  · rw [written, hrun]
  · exact absurd fits hfits

/-- What a client is told of an answer: a time-out if there is none, and otherwise its length, with
the answer at the front of the buffer, a zero behind it, and the rest as it was. -/
def told (reply output : Bytes) : Outcome SessionError Nat × Bytes :=
  if reply = [] then (.failed .timeout, output)
  else (.ok reply.length, (reply ++ output.drop reply.length).set reply.length 0)

/-- A read into a buffer that holds all that is queued leaves nothing queued. -/
theorem run_read_all {s : Session} {e : Emulator} {output : Bytes} (timeout : Nat) (sized : s.Sized)
    (small : s.config.bufferSize < UInt32.size) (ready : s.state = .ready) (isOpen : e.isOpen = true)
    (room : Header.byteCount ≤ e.maxPacket) (hasRoom : output ≠ [])
    (enough : e.queue.length ≤ output.length) :
    ∃ s' i j, Alike s s' ∧ (s.read patience output timeout).run Emulator.port e =
      (⟨(told e.queue output).1, (told e.queue output).2, s'⟩,
        { e with outCount := i, inCount := j, queue := [], pending := none }) := by
  by_cases empty : e.queue = []
  · obtain ⟨s', halike, hrun⟩ := run_read_of_empty timeout sized ready isOpen room empty hasRoom
    refine ⟨s', e.outCount + 1, e.inCount + 1, halike, ?_⟩
    rw [hrun, told, if_pos empty, empty]
  · have hsmall : min output.length s.config.chunk < UInt32.size :=
      Reading.requested_small (r := ⟨s, output, 0⟩) sized small
    obtain ⟨s', halike, hrun⟩ := run_read timeout sized hsmall ready isOpen room empty hasRoom
      (Nat.min_eq_right enough)
    refine ⟨s', e.outCount + s.config.rounds e.queue.length, e.inCount + s.config.rounds e.queue.length,
      halike, ?_⟩
    rw [hrun, told, if_neg empty, List.take_length, List.drop_length]
    simp only [Reading.append, Bytes.splice, List.take_zero, List.nil_append, Nat.zero_add]

/-- What an ask comes to while nothing is queued, whether or not a request is left over: the client is told the
answer to its question, and nothing stays queued; a question that does not fit is not executed. -/
theorem run_ask {s : Session} {e : Emulator} {query output : Bytes} (timeout : Nat) (sized : s.Sized)
    (small : s.config.bufferSize < UInt32.size) (isOpen : s.state = .ready → e.isOpen = true)
    (queue : e.queue = []) (hasRoom : output ≠ [])
    (enough : Fits s e query.length → (e.replyTo query).length ≤ output.length) :
    ∃ s', Alike s s' ∧
      ((Fits s e query.length ∧ ∃ i j, (s.ask patience query output timeout).run Emulator.port e =
          (⟨(told (e.replyTo query) output).1, (told (e.replyTo query) output).2, s'⟩,
            { e.receive query with outCount := i, inCount := j, queue := [], pending := none })) ∨
        (¬ Fits s e query.length ∧ ∃ err n, written s e query timeout = .error err ∧
          (s.ask patience query output timeout).run Emulator.port e =
            (⟨.failed err, output, s'⟩, { e with outCount := n }))) := by
  obtain ⟨s', halike, ⟨hfits, hwrite⟩ | ⟨hfits, err, n, hwrite⟩⟩ := run_write query timeout sized small isOpen
  · have hqueue : ({ e with outCount := e.outCount + 1 }.receive query).queue = e.replyTo query := by
      rw [Emulator.queue_receive]
      show e.queue ++ e.replyTo query = _
      rw [queue, List.nil_append]
    obtain ⟨s'', i, j, halike', hread⟩ := run_read_all timeout
      (e := { e with outCount := e.outCount + 1 }.receive query) (halike.sized sized)
      (by rw [halike.config]; exact small) (halike.state.trans hfits.1) (isOpen hfits.1)
      (Nat.le_trans (Nat.le_add_right _ _) hfits.2.1) hasRoom (by rw [hqueue]; exact enough hfits)
    refine ⟨s'', halike.trans halike', .inl ⟨hfits, i, j, ?_⟩⟩
    unfold ask
    rw [Dialogue.run_bind, hwrite]
    dsimp only
    rw [hread, hqueue]
    rfl
  · refine ⟨s', halike, .inr ⟨hfits, err, n, by rw [written, hwrite], ?_⟩⟩
    unfold ask
    rw [Dialogue.run_bind, hwrite]
    rfl

/-! ## Whole runs -/

/-- What clients owe: a message that is only written, and gets through, asks nothing, and the buffer
of an ask is not empty and holds the answer, if the question gets through. No other operation takes
part. -/
def Heeded : Session × Emulator → (op : Operation) → op.Answer → Session × Emulator → Prop
  | _, .start, _, _ => True
  | _, .stop, _, _ => True
  | (s, e), .write message timeout, _, _ => (written s e message timeout).isOk → e.replyTo message = []
  | (s, e), .ask query output timeout, _, _ =>
    output ≠ [] ∧ ((written s e query timeout).isOk → (e.replyTo query).length ≤ output.length)
  | _, _, _, _ => False

/-- What they get: an ask whose question gets through is told what the device answers to it in the
state that it is asked in, one whose question does not is told why, and nothing is left over. -/
def Answered : Session × Emulator → (op : Operation) → op.Answer → Session × Emulator → Prop
  | (s, e), .ask query output timeout, answer, (_, e') =>
    (match written s e query timeout with
      | .ok _ => answer = told (e.replyTo query) output
      | .error err => answer = (.failed err, output)) ∧
      e'.queue = [] ∧ e'.pending = none
  | _, _, _, (_, e') => e'.queue = [] ∧ e'.pending = none

/-- One operation of heedful clients keeps a device settled. -/
theorem settled_step {s : Session} {e : Emulator} (op : Operation) (h : Settled s e)
    (heeded : Heeded (s, e) op (operate patience Emulator.port op (s, e)).1
      (operate patience Emulator.port op (s, e)).2) :
    Answered (s, e) op (operate patience Emulator.port op (s, e)).1
        (operate patience Emulator.port op (s, e)).2 ∧
      Settled (operate patience Emulator.port op (s, e)).2.1 (operate patience Emulator.port op (s, e)).2.2 := by
  have left : ∀ {s' : Session} {e' : Emulator}, Settled s' e' →
      (e'.queue = [] ∧ e'.pending = none) ∧ Settled s' e' := fun h' => ⟨⟨h'.queue, h'.pending⟩, h'⟩
  cases op with
  | start =>
    obtain ⟨answer, s', isOpen, hrun, h'⟩ := h.start
    rw [operate_apply, serve, hrun]
    exact left h'
  | stop =>
    obtain ⟨s', isOpen, hrun, h'⟩ := h.stop
    rw [operate_apply, serve, Dialogue.map_def, Dialogue.run_bind, hrun]
    exact left h'
  | write message timeout =>
    obtain ⟨s', halike, ⟨hfits, hrun⟩ | ⟨-, err, n, hrun⟩⟩ :=
      run_write message timeout h.sized h.small h.isOpen
    · have hsilent : e.replyTo message = [] := heeded (by rw [written_of_fits timeout h hfits]; rfl)
      rw [operate_apply, serve, hrun]
      refine left (h.alike halike rfl ?_ h.pending)
      show e.queue ++ e.replyTo message = []
      rw [h.queue, hsilent]
      rfl
    · rw [operate_apply, serve, hrun]
      exact left (h.alike halike rfl h.queue h.pending)
  | ask query output timeout =>
    obtain ⟨hasRoom, enough⟩ := heeded
    obtain ⟨s', halike, ⟨hfits, i, j, hrun⟩ | ⟨-, err, n, herr, hrun⟩⟩ :=
      run_ask timeout h.sized h.small h.isOpen h.queue hasRoom
        fun fits => enough (by rw [written_of_fits timeout h fits]; rfl)
    · rw [operate_apply, serve, Dialogue.map_def, Dialogue.run_bind, hrun]
      refine ⟨⟨?_, rfl, rfl⟩, h.alike halike rfl rfl rfl⟩
      rw [written_of_fits timeout h hfits]
      rfl
    · rw [operate_apply, serve, Dialogue.map_def, Dialogue.run_bind, hrun]
      refine ⟨⟨?_, h.queue, h.pending⟩, h.alike halike rfl h.queue h.pending⟩
      rw [herr]
      rfl
  | _ => exact heeded.elim

/-- **Every ask gets its own answer.** Whatever the identity of the device, the size of its packets
and the settings of the session, a run of heedful clients on a device just switched on tells each of
them the answer to its own question, and leaves nothing queued and no request waiting behind any
operation. -/
theorem asks_answered (patience : Nat) (identity : String) (maxPacket : Nat) {config : Config}
    (small : config.bufferSize < UInt32.size) (ops : List Operation)
    (heeded : (operate patience Emulator.port).EachStep Heeded ops (new config, { identity, maxPacket })) :
    (operate patience Emulator.port).EachStep Answered ops (new config, { identity, maxPacket }) := by
  refine Handler.eachStep_of_invariant (h := operate patience Emulator.port) (fun x => Settled x.1 x.2) ?_ ops _
    (settled_new identity maxPacket small) heeded
  rintro ⟨s, e⟩ op h heeded
  exact settled_step op h heeded

theorem asks_answered_behind_command :
    let x : Session × Emulator := (new { bufferSize := 20 }, { identity := "ACME,M,0,1", maxPacket := 20 })
    let ops : List Operation := [.start, .write (Bytes.ofString "RUN") 1000,
      .ask (Bytes.ofString "RSTate?") (Bytes.zeros 8) 1000,
      .ask (Bytes.ofString "*IDN?") (Bytes.zeros 16) 1000,
      .ask (Bytes.ofString "STOP") (Bytes.zeros 8) 1000, .stop]
    (operate usualPatience Emulator.port).EachStep Heeded ops x ∧
      (operate usualPatience Emulator.port).EachStep Answered ops x := by
  intro x ops
  have heeded : (operate usualPatience Emulator.port).EachStep Heeded ops x :=
    ⟨trivial, fun _ => by decide, ⟨by decide, fun _ => by decide⟩, ⟨by decide, fun _ => by decide⟩,
      ⟨by decide, fun _ => by decide⟩, trivial, trivial⟩
  exact ⟨heeded, asks_answered _ _ _ (by decide) ops heeded⟩

end ScopeLink.Session
