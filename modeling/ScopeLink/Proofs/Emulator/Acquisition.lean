import ScopeLink.Proofs.Emulator.Answers
/-!
# The acquisition seen through a session

An emulated oscilloscope behind a session is a machine with one variable, the state of its
acquisition: a command that succeeds sets it, one that fails does not, and a query that succeeds
reads it, whichever dialect each of them is spoken in and whatever was said before in another.

The commands and queries of the dialects are executed once, for any acquisition (`receive_command`,
`receive_query`); what a run adds is that the device is `Settled` whenever one of them arrives.
`acquisition_refines` is the theorem over whole runs.
-/

namespace ScopeLink

open Instrument

theorem Instrument.answerText_ofString (text : String) :
    answerText (Bytes.ofString text) = .ok (String.ofList (Text.trimField text.toList)) := by
  rw [answerText, Bytes.text?_ofString]

namespace Emulator

/-! ## The dialects -/

/-- The replies that report an acquisition in a form. -/
def report : StatusForm → Acquisition → List String
  | .modeAndFlag, a =>
    [if a.stopAfter = .runStop then "RUNSTOP" else "SEQUENCE", if a.running then "1" else "0"]
  | .mnemonic, a =>
    [match a.state with
      | .stopped => "STOP"
      | .running => "RUN"
      | .single => "SING"]

theorem units_query (f : StatusForm) :
    units (Utf8.decodeLossy (Bytes.ofString f.query)) =
      match f with
      | .modeAndFlag => ["ACQuire:STOPAfter?".toList, "STATE?".toList]
      | .mnemonic => ["RSTate?".toList] := by
  cases f <;> decide

/-- The second header of the longer query is relative to the path of the first. -/
theorem executeUnits_query (f : StatusForm) (identity : List Char) (a : Acquisition) :
    executeUnits identity [] a (units (Utf8.decodeLossy (Bytes.ofString f.query))) =
      ((report f a).map String.toList, a) := by
  rw [units_query]
  obtain ⟨stopAfter, running⟩ := a
  cases f <;> cases stopAfter <;> cases running <;> rfl

/-- The line a report is sent as. -/
def reportLine (f : StatusForm) (a : Acquisition) : Bytes := replyBytes ((report f a).map String.toList)

theorem reportLine_bounds (f : StatusForm) (a : Acquisition) :
    reportLine f a ≠ [] ∧ (reportLine f a).length ≤ statusRoom := by
  obtain ⟨stopAfter, running⟩ := a
  cases f <;> cases stopAfter <;> cases running <;> exact ⟨by decide, by decide⟩

/-- A report is read for the state it reports. -/
theorem read_reportLine (f : StatusForm) (a : Acquisition) :
    (answerText (reportLine f a) >>= f.read) = .ok a.state := by
  have hline : reportLine f a = Bytes.ofString (";".intercalate (report f a) ++ "\n") := by
    obtain ⟨stopAfter, running⟩ := a
    cases f <;> cases stopAfter <;> cases running <;> rfl
  rw [hline, answerText_ofString]
  obtain ⟨stopAfter, running⟩ := a
  cases f <;> cases stopAfter <;> cases running <;> rfl

/-- A query is answered with a report, and changes nothing of what it reports. -/
theorem receive_query (f : StatusForm) (e : Emulator) :
    e.replyTo (Bytes.ofString f.query) = reportLine f e.acquisition ∧
      (e.receive (Bytes.ofString f.query)).acquisition = e.acquisition := by
  have hrun := executeUnits_query f e.identity.toList e.acquisition
  constructor
  · rw [replyTo, hrun]
    rfl
  · exact congrArg Prod.snd hrun

/-- The command for a state brings any acquisition into it, and is not answered. -/
theorem receive_command {p : Profile} (known : p ∈ Profile.all) (q : Instrument.State) (e : Emulator) :
    e.replyTo (Bytes.ofString (p.command q)) = [] ∧
      (e.receive (Bytes.ofString (p.command q))).acquisition.state = q := by
  obtain ⟨identity, maxPacket, isOpen, ⟨stopAfter, running⟩, queue, pending, messages, i, j, k⟩ := e
  simp only [Profile.all, List.mem_cons, List.not_mem_nil, or_false] at known
  rcases known with rfl | rfl | rfl <;> cases q <;> cases stopAfter <;> cases running <;>
    exact ⟨rfl, rfl⟩

theorem receive_identityQuery (e : Emulator) :
    e.replyTo (Bytes.ofString identityQuery) = Bytes.ofChars (e.identity.toList ++ ['\n']) ∧
      (e.receive (Bytes.ofString identityQuery)).acquisition = e.acquisition := ⟨rfl, rfl⟩

/-- The identification ends in a newline, and can be read if there is room for it. -/
theorem identification_bounds {e : Emulator} (short : (Bytes.ofString e.identity).length < identityRoom) :
    (e.replyTo (Bytes.ofString identityQuery)).length ≤ identityRoom ∧
      e.replyTo (Bytes.ofString identityQuery) ≠ [] := by
  have hreply : e.replyTo (Bytes.ofString identityQuery) = Bytes.ofString e.identity ++ [10] := by
    rw [e.receive_identityQuery.1, Bytes.ofChars_append]
    rfl
  rw [hreply]
  refine ⟨?_, by simp⟩
  rw [List.length_append]
  exact short

end Emulator

namespace Session

variable {patience : Nat}

/-! ## Standing devices -/

/-- Between two actions the device is settled, and its identification can be read. -/
structure Standing (s : Session) (e : Emulator) : Prop extends Settled s e where
  identity : (Bytes.ofString e.identity).length < identityRoom

theorem Standing.next {s s' : Session} {e e' : Emulator} (h : Standing s e) (settled : Settled s' e')
    (identity : e'.identity = e.identity) : Standing s' e' :=
  ⟨settled, by rw [identity]; exact h.identity⟩

/-- Neither the state of the acquisition nor the count of pulses matters. -/
theorem Standing.aside {s : Session} {e : Emulator} (h : Standing s e) (acquisition : Emulator.Acquisition)
    (pulses : Nat) : Standing s { e with acquisition, pulses } :=
  h.next ⟨h.sized, h.small, h.isOpen, h.queue, h.pending⟩ rfl

/-! ## One operation -/

/-- What was told of an answer begins with the answer. -/
theorem take_told {reply : Bytes} (output : Bytes) (h : reply ≠ []) :
    (told reply output).2.take reply.length = reply := by
  rw [told, if_neg h, List.take_set_of_le (Nat.le_refl _), List.take_left]

/-- A query interprets the answer that its ask is told. -/
theorem run_query_of_told {α σ : Type} {port : Handler Port σ} {s s' : Session} {x x' : σ} {question : String}
    {room : Nat} {reply : Bytes} (interpret : String → Except InstrumentError α) (answered : reply ≠ [])
    (asked : (s.ask patience (Bytes.ofString question) (Bytes.zeros room) s.config.timeout).run port x =
      (⟨(told reply (Bytes.zeros room)).1, (told reply (Bytes.zeros room)).2, s'⟩, x')) :
    (query s patience question room interpret).run port x =
      ((.ofExcept (answerText reply >>= interpret), s'), x') := by
  have htold : (told reply (Bytes.zeros room)).1 = .ok reply.length := by rw [told, if_neg answered]
  have htake := take_told (Bytes.zeros room) answered
  unfold query
  rw [Dialogue.run_bind, asked, htold]
  dsimp only [Outcome.mapError, Outcome.andThen]
  rw [htake]
  cases answerText reply <;> rfl

/-- What a query that changes nothing comes to: its answer is interpreted if the question fits. -/
theorem run_query {α : Type} {s : Session} {e : Emulator} {question : String} {room : Nat}
    (interpret : String → Except InstrumentError α) (h : Standing s e) (hasRoom : 0 < room)
    (enough : (e.replyTo (Bytes.ofString question)).length ≤ room)
    (answered : e.replyTo (Bytes.ofString question) ≠ [])
    (quiet : (e.receive (Bytes.ofString question)).acquisition = e.acquisition) :
    ∃ outcome s' e', (query s patience question room interpret).run Emulator.port e = ((outcome, s'), e') ∧
      Standing s' e' ∧ e'.acquisition = e.acquisition ∧
      ((Fits s e (Bytes.ofString question).length ∧
          outcome = .ofExcept (answerText (e.replyTo (Bytes.ofString question)) >>= interpret)) ∨
        (¬ Fits s e (Bytes.ofString question).length ∧ ∃ err, outcome = .failed err)) := by
  have hzeros : Bytes.zeros room ≠ [] := by
    rw [← List.length_pos_iff, Bytes.length_zeros]
    exact hasRoom
  obtain ⟨s', halike, ⟨hfits, i, j, hrun⟩ | ⟨hfits, err, n, -, hrun⟩⟩ :=
    run_ask s.config.timeout h.sized h.small h.isOpen h.queue hzeros fun _ => by rwa [Bytes.length_zeros]
  · have h' : Settled s' { e.receive (Bytes.ofString question) with
        outCount := i, inCount := j, queue := [], pending := none } := h.alike halike rfl rfl rfl
    exact ⟨_, s', _, run_query_of_told interpret answered hrun, h.next h' rfl, quiet, .inl ⟨hfits, rfl⟩⟩
  · refine ⟨.failed (.session err), s', { e with outCount := n }, ?_,
      h.next (h.alike halike rfl h.queue h.pending) rfl, rfl, .inr ⟨hfits, _, rfl⟩⟩
    unfold query
    rw [Dialogue.run_bind, hrun]
    rfl

theorem run_identify {s : Session} {e : Emulator} (h : Standing s e) :
    ∃ outcome s' e', (identify s patience).run Emulator.port e = ((outcome, s'), e') ∧ Standing s' e' ∧
      e'.acquisition = e.acquisition := by
  obtain ⟨outcome, s', e', hrun, h', hacquisition, -⟩ := run_query Identity.read h
    (show 0 < identityRoom by decide) (Emulator.identification_bounds h.identity).1
    (Emulator.identification_bounds h.identity).2 (Emulator.receive_identityQuery e).2
  exact ⟨outcome, s', e', hrun, h', hacquisition⟩

/-- A state query is answered with the state if it fits, in whichever form it is asked. -/
theorem run_getState (p : Profile) {s : Session} {e : Emulator} (h : Standing s e) :
    ∃ outcome s' e', (getState s patience p).run Emulator.port e = ((outcome, s'), e') ∧ Standing s' e' ∧
      e'.acquisition = e.acquisition ∧
      ((Fits s e (Bytes.ofString p.status.query).length ∧ outcome = .ok e.acquisition.state) ∨
        (¬ Fits s e (Bytes.ofString p.status.query).length ∧ ∃ err, outcome = .failed err)) := by
  obtain ⟨hreply, hquiet⟩ := Emulator.receive_query p.status e
  obtain ⟨hne, hlen⟩ := Emulator.reportLine_bounds p.status e.acquisition
  obtain ⟨outcome, s', e', hrun, h', hacquisition, houtcome⟩ := run_query p.status.read h
    (show 0 < statusRoom by decide) (by rwa [hreply]) (by rwa [hreply]) hquiet
  rw [hreply, Emulator.read_reportLine] at houtcome
  exact ⟨outcome, s', e', hrun, h', hacquisition, houtcome⟩

/-- A command that gets through brings the acquisition into its state, and one that does not leaves it
alone. -/
theorem run_setState {p : Profile} (known : p ∈ Profile.all) (q : Instrument.State) {s : Session}
    {e : Emulator} (h : Standing s e) :
    ∃ answer s' e', (setState s p q).run Emulator.port e = ((answer, s'), e') ∧ Standing s' e' ∧
      ((answer = .ok () ∧ e'.acquisition.state = q) ∨
        (∃ err, answer = .error err ∧ e'.acquisition = e.acquisition)) := by
  obtain ⟨hsilent, hstate⟩ := Emulator.receive_command known q { e with outCount := e.outCount + 1 }
  obtain ⟨s', halike, ⟨-, hrun⟩ | ⟨-, err, n, hrun⟩⟩ :=
    run_write (Bytes.ofString (p.command q)) s.config.timeout h.sized h.small h.isOpen
  · have h' : Settled s' ({ e with outCount := e.outCount + 1 }.receive (Bytes.ofString (p.command q))) := by
      refine h.alike halike rfl ?_ h.pending
      rw [Emulator.queue_receive, hsilent, List.append_nil]
      exact h.queue
    refine ⟨.ok (), s', _, ?_, h.next h' rfl, .inl ⟨rfl, hstate⟩⟩
    rw [setState, Dialogue.run_bind, hrun]
    dsimp only
    rw [if_pos rfl]
    rfl
  · refine ⟨.error (.session err), s', { e with outCount := n }, ?_,
      h.next (h.alike halike rfl h.queue h.pending) rfl, .inr ⟨_, rfl, rfl⟩⟩
    rw [setState, Dialogue.run_bind, hrun]
    rfl

/-- A class request counts a pulse at most. -/
theorem run_control {α : Type} (s : Session) (e : Emulator) (request : UInt8) (room : Nat)
    (decode : Bytes → Except SessionError α) :
    ∃ outcome n, (s.control request room decode).run Emulator.port e = (outcome, { e with pulses := n }) := by
  obtain ⟨delivery, n, hanswer⟩ : ∃ delivery n, e.controlIn request room = (delivery, { e with pulses := n }) := by
    unfold Emulator.controlIn
    split
    · exact ⟨_, e.pulses, rfl⟩
    · split
      · exact ⟨_, e.pulses + 1, rfl⟩
      · exact ⟨_, e.pulses, rfl⟩
  unfold control
  rw [Emulator.run_controlIn, hanswer]
  dsimp only
  cases delivery.count with
  | error err => exact ⟨_, n, rfl⟩
  | ok len =>
    dsimp only
    split
    · exact ⟨_, n, rfl⟩
    · exact ⟨_, n, rfl⟩

/-! ## The machine -/

/-- What happens to an oscilloscope and its session: an operation of a client, or a turn of the
acquisition at the device itself. -/
inductive Action where
  | client (op : Operation)
  | turn (state : Instrument.State)

abbrev Action.Answer : Action → Type
  | .client op => op.Answer
  | .turn _ => Unit

abbrev Bench : Interface := ⟨Action, Action.Answer⟩

/-- A session on an emulator that is also at hand. -/
def bench (patience : Nat) : Handler Bench (Session × Emulator)
  | .client op, x => operate patience Emulator.port op x
  | .turn state, (s, e) => ((), s, { e with acquisition := e.acquisition.set state })

theorem bench_client (op : Operation) (s : Session) (e : Emulator) :
    bench patience (.client op) (s, e) = (((serve patience op s).run Emulator.port e).1.1,
      ((serve patience op s).run Emulator.port e).1.2, ((serve patience op s).run Emulator.port e).2) := rfl

/-- The operations that take part, in one of the dialects there are. -/
def Action.OfScope : Action → Prop
  | .turn _ => True
  | .client .start => True
  | .client .stop => True
  | .client .identify => True
  | .client .detect => True
  | .client .pulse => True
  | .client .capabilities => True
  | .client (.setState p _) => p ∈ Profile.all
  | .client (.getState p) => p ∈ Profile.all
  | _ => False

/-- The machine, which goes from `q` to `q'`: its one variable is set by a command that succeeds and
at the device, is read by a query that succeeds, and is left alone otherwise. -/
def Permits (q : Instrument.State) : (a : Action) → a.Answer → (q' : Instrument.State) → Prop
  | .turn state, _, q' => q' = state
  | .client (.setState _ state), .ok _, q' => q' = state
  | .client (.getState _), .ok state, q' => state = q ∧ q' = q
  | _, _, q' => q' = q

/-- A query does succeed if its frame fits and the session is ready. -/
def Prompt (s : Session) (e : Emulator) : (a : Action) → a.Answer → Prop
  | .client (.getState p), answer =>
    Fits s e (Bytes.ofString p.status.query).length → answer = .ok e.acquisition.state
  | _, _ => True

/-- An action is one of the machine. -/
def Refines : Session × Emulator → (a : Action) → a.Answer → Session × Emulator → Prop
  | (s, e), a, answer, (_, e') =>
    Permits e.acquisition.state a answer e'.acquisition.state ∧ Prompt s e a answer

/-- One action of a device that stands is one of the machine, and the device still stands. -/
theorem standing_step {s : Session} {e : Emulator} (a : Action) (h : Standing s e) (ha : a.OfScope) :
    Refines (s, e) a (bench patience a (s, e)).1 (bench patience a (s, e)).2 ∧
      Standing (bench patience a (s, e)).2.1 (bench patience a (s, e)).2.2 := by
  cases a with
  | turn state => exact ⟨⟨Emulator.Acquisition.state_set _ _, trivial⟩, h.aside _ e.pulses⟩
  | client op =>
    rw [bench_client]
    cases op with
    | start =>
      obtain ⟨answer, s', isOpen, hrun, h'⟩ := h.start
      rw [serve, hrun]
      exact ⟨⟨rfl, trivial⟩, h.next h' rfl⟩
    | stop =>
      obtain ⟨s', isOpen, hrun, h'⟩ := h.stop
      rw [serve, Dialogue.map_def, Dialogue.run_bind, hrun]
      exact ⟨⟨rfl, trivial⟩, h.next h' rfl⟩
    | pulse =>
      obtain ⟨outcome, n, hrun⟩ := run_control s e Control.pulseRequest Control.pulseRoom Control.checkPulse
      rw [serve, Dialogue.map_def, Dialogue.run_bind, pulse, hrun]
      exact ⟨⟨rfl, trivial⟩, h.aside e.acquisition n⟩
    | capabilities =>
      obtain ⟨outcome, n, hrun⟩ := run_control s e Control.capabilitiesRequest Control.capabilitiesRoom
        Capabilities.ofBytes
      rw [serve, Dialogue.map_def, Dialogue.run_bind, capabilities, hrun]
      exact ⟨⟨rfl, trivial⟩, h.aside e.acquisition n⟩
    | identify =>
      obtain ⟨outcome, s', e', hrun, h', hacquisition⟩ := run_identify h
      rw [serve, hrun]
      exact ⟨⟨congrArg Emulator.Acquisition.state hacquisition, trivial⟩, h'⟩
    | detect =>
      obtain ⟨outcome, s', e', hrun, h', hacquisition⟩ := run_identify h
      rw [serve, detect, Dialogue.run_bind, hrun]
      exact ⟨⟨congrArg Emulator.Acquisition.state hacquisition, trivial⟩, h'⟩
    | setState p state =>
      obtain ⟨answer, s', e', hrun, h', ⟨rfl, hstate⟩ | ⟨err, rfl, hacquisition⟩⟩ := run_setState ha state h
      · rw [serve, hrun]
        exact ⟨⟨hstate, trivial⟩, h'⟩
      · rw [serve, hrun]
        exact ⟨⟨congrArg Emulator.Acquisition.state hacquisition, trivial⟩, h'⟩
    | getState p =>
      obtain ⟨outcome, s', e', hrun, h', hacquisition, houtcome⟩ := run_getState p h
      have hsame : e'.acquisition.state = e.acquisition.state := by rw [hacquisition]
      rw [serve, hrun]
      obtain ⟨hfits, rfl⟩ | ⟨hfits, err, rfl⟩ := houtcome
      · exact ⟨⟨⟨rfl, hsame⟩, fun _ => rfl⟩, h'⟩
      · exact ⟨⟨hsame, fun fits => absurd fits hfits⟩, h'⟩
    | _ => exact ha.elim

/-! ## Whole runs -/

/-- **The scope layer is a machine with one variable.** Whatever the identity of at most 254 bytes,
the size of packets and the settings of the session, every action of a run on a device just switched
on is one of the machine, and a query whose frame fits succeeds in a ready session. -/
theorem acquisition_refines (patience : Nat) {identity : String} (short : (Bytes.ofString identity).length ≤ 254)
    (maxPacket : Nat) {config : Config} (small : config.bufferSize < UInt32.size)
    (actions : List Action) (ofScope : ∀ a ∈ actions, a.OfScope) :
    (bench patience).EachStep Refines actions (new config, { identity, maxPacket }) := by
  have hstart : Standing (new config) { identity, maxPacket } :=
    ⟨settled_new identity maxPacket small, Nat.lt_succ_of_le short⟩
  have hscope : (bench patience).EachStep (fun _ a _ _ => a.OfScope) actions
      (new config, { identity, maxPacket }) := Handler.eachStep_of_mem (h := bench patience) actions _ ofScope
  refine Handler.eachStep_of_invariant (h := bench patience) (fun x => Standing x.1 x.2) ?_ actions _ hstart hscope
  rintro ⟨s, e⟩ a h ha
  exact standing_step a h ha

theorem acquisition_refines_across_dialects :
    let actions : List Action := [.client .start, .client (.setState .tektronix .single),
      .client (.getState .keysight), .turn .stopped, .client (.getState .tektronix),
      .client (.setState .keysight .running), .client (.getState .emulated), .client .detect]
    (Bytes.ofString "ACME,TMCEMU,0,1").length ≤ 254 ∧ (∀ a ∈ actions, a.OfScope) ∧
      (bench usualPatience).EachStep Refines actions
        (new { bufferSize := 64 }, { identity := "ACME,TMCEMU,0,1", maxPacket := 64 }) := by
  intro actions
  have short : (Bytes.ofString "ACME,TMCEMU,0,1").length ≤ 254 := by decide
  have ofScope : ∀ a ∈ actions, a.OfScope := by
    intro a ha
    simp only [actions, List.mem_cons, List.not_mem_nil, or_false] at ha
    rcases ha with rfl | rfl | rfl | rfl | rfl | rfl | rfl | rfl
    · trivial
    · exact List.mem_cons_self
    · exact List.mem_cons_of_mem _ List.mem_cons_self
    · trivial
    · exact List.mem_cons_self
    · exact List.mem_cons_of_mem _ List.mem_cons_self
    · exact List.mem_cons_of_mem _ (List.mem_cons_of_mem _ List.mem_cons_self)
    · trivial
  exact ⟨short, ofScope, acquisition_refines usualPatience short 64 (by decide) actions ofScope⟩

end Session

end ScopeLink
