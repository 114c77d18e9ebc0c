import ScopeLink.Proofs.Lifecycle
import ScopeLink.Proofs.Rounds
/-!
# Operations that read

Reading and asking, their flattened forms and the queries to an instrument read into a buffer and answer by
what they read (`Operation.reader`); the other operations take nothing in. `ReadInto` says all that one of
them can do: behind what it writes there are rounds of a read. `ReadInto.split` looks at a single transfer of
it: the call right before is the request of a read that has collected what the replies before have brought.
-/

namespace ScopeLink.Session

variable {patience : Nat}

/-! ## What an operation reads -/

/-- What a query makes of what was read. -/
def understood {α : Type} (interpret : String → Except InstrumentError α) (r : ReadResult) :
    Outcome InstrumentError α :=
  (r.outcome.mapError .session).andThen fun len =>
    (Outcome.ofExcept (Instrument.answerText (r.output.take len))).andThen fun text =>
      .ofExcept (interpret text)

/-- The buffer that an operation reads into, and what it answers by what was read. -/
def Operation.reader : (op : Operation) → Option (Bytes × (ReadResult → op.Answer))
  | .read output _ | .ask _ output _ => some (output, fun r => (r.outcome, r.output))
  | .readLength output _ | .askLength _ output _ => some (output, fun r => (r.outcome.orElse 0, r.output))
  | .identify => some (Bytes.zeros Instrument.identityRoom, understood Instrument.Identity.read)
  | .detect => some (Bytes.zeros Instrument.identityRoom, fun r =>
      ((understood Instrument.Identity.read r).andThen fun identity => .ok (Instrument.matchProfile
        Instrument.detectionTable identity.vendor identity.model)).orElse none)
  | .getState profile => some (Bytes.zeros Instrument.statusRoom, understood profile.status.read)
  | .start | .stop | .unload | .write .. | .writeLength .. | .pulse | .capabilities | .setState .. => none

/-- All that reading into a buffer can do: fail before anything is read, or read in rounds behind what was
written. -/
inductive ReadInto (s : Session) (given : Bytes) : List (Event Port) → ReadResult → Prop
  | unread {calls e s'} : Quiet calls → ReadInto s given calls ⟨.failed e, given, s'⟩
  | rounds {wrote s₁ timeout before r last outcome r'} : Quiet wrote → Kept s s₁ → s₁.inBuf = s.inBuf →
    Rounds timeout ⟨s₁, given, 0⟩ before r → LastRound timeout r last outcome r' →
    ReadInto s given (wrote ++ (before ++ last)) ⟨outcome, r'.output, r'.session⟩

/-- A write takes nothing in. -/
structure Outgoing (s : Session) (log : List (Event Port)) (s' : Session) : Prop where
  quiet : Quiet log
  kept : Kept s s'
  inBuf : s'.inBuf = s.inBuf

theorem Written.outgoing {s s' : Session} {data : Bytes} {timeout : Nat} {log : List (Event Port)}
    (h : Written s data timeout log s') : Outgoing s log s' := by
  have kept := h.kept
  cases h <;> exact ⟨by simp [Quiet, TakesIn], kept, rfl⟩

theorem write_outgoing (s : Session) (data : Bytes) (timeout : Nat) :
    (s.write data timeout).Always fun log r => Outgoing s log r.2 :=
  (write_written s data timeout).mono fun _ _ h => h.outgoing

theorem ReadInto.behind {s s' : Session} {given : Bytes} {log calls : List (Event Port)} {result : ReadResult}
    (hwrite : Outgoing s log s') (h : ReadInto s' given calls result) :
    ReadInto s given (log ++ calls) result := by
  have append {wrote : List (Event Port)} (quiet : Quiet wrote) : Quiet (log ++ wrote) := fun event he =>
    (List.mem_append.mp he).elim (hwrite.quiet event) (quiet event)
  cases h with
  | unread quiet => exact .unread (append quiet)
  | rounds quiet kept hin hrounds hlast =>
    rw [← List.append_assoc]
    exact .rounds (append quiet) (hwrite.kept.trans kept) (hin.trans hwrite.inBuf) hrounds hlast

theorem read_into {s : Session} (sized : s.Sized) (given : Bytes) (timeout : Nat) :
    (s.read patience given timeout).Always (ReadInto s given) := by
  unfold Session.read
  split
  · exact .unread fun _ h => (nomatch h)
  · refine (readRounds_rounds timeout _ ⟨s, given, 0⟩ sized).bind_done ?_
    rintro log ⟨outcome, r⟩ ⟨before, r', last, rfl, hrounds, hlast⟩
    rw [← List.nil_append (before ++ last)]
    exact .rounds (fun _ h => (nomatch h)) (.refl s) rfl hrounds hlast

theorem ask_into {s : Session} (sized : s.Sized) (query given : Bytes) (timeout : Nat) :
    (s.ask patience query given timeout).Always (ReadInto s given) := by
  unfold Session.ask
  rw [Dialogue.always_bind]
  refine (write_outgoing s query timeout).mono ?_
  rintro log ⟨outcome, s'⟩ hwrite
  cases outcome with
  | error e =>
    show ReadInto s given (log ++ []) _
    rw [List.append_nil]
    exact .unread hwrite.quiet
  | ok n => exact (read_into (hwrite.kept.sized sized) given timeout).mono fun _ _ h => h.behind hwrite

/-! ## One transfer in -/

/-- What is collected of a read comes from its rounds alone. -/
theorem collected_eq {s s₁ : Session} {given : Bytes} {wrote before sent : List (Event Port)}
    (hwrote : Quiet wrote) (hsent : Quiet sent) (hin : s₁.inBuf = s.inBuf) :
    collected s given (wrote ++ (before ++ sent)) =
      ((payloads s₁.inBuf before).foldl Reading.append ⟨s₁, given, 0⟩).output := by
  rw [collected, payloads_append, payloads_append, payloads_of_quiet hwrote, foldl_laidOver_of_quiet hwrote,
    payloads_of_quiet hsent, List.nil_append, List.append_nil, ← hin]
  have h := congrArg Reading.output (foldl_append_session s (payloads s₁.inBuf before) ⟨s₁, given, 0⟩)
  exact h

/-- A read as a reply comes in, with these calls of its operation made: the last of them is the request. -/
structure Awaiting (s : Session) (given : Bytes) (earlier : List (Event Port)) (r : Reading) : Prop where
  request : ∃ timeout, earlier.getLast? = some ⟨.bulkOut r.request.encode timeout, .ok Header.byteCount⟩
  config : r.session.config = s.config
  inBuf : r.session.inBuf = earlier.foldl laidOver s.inBuf
  output : r.output = collected s given earlier

/-- Every transfer in of an operation answers the request of a read. -/
theorem ReadInto.split {s : Session} {given : Bytes} {calls earlier later : List (Event Port)}
    {result : ReadResult} {room time : Nat} {delivery : Port.Delivery} (h : ReadInto s given calls result)
    (hsplit : calls = earlier ++ ⟨.bulkIn room time, delivery⟩ :: later) :
    ∃ r, Awaiting s given earlier r ∧ Concluded r room delivery later result := by
  cases h with
  | unread quiet =>
    rw [hsplit] at quiet
    exact absurd trivial (quiet ⟨.bulkIn room time, delivery⟩ (by simp))
  | @rounds wrote s₁ timeout before r last outcome r' quiet kept hin hrounds hlast =>
    obtain ⟨earlier', rfl, hsplit'⟩ := quiet.split hsplit
    obtain ⟨before', r₀, hrounds', rfl, hconcluded⟩ := hrounds.split hlast hsplit'
    have hprogress := hrounds'.progress
    have hsent : Quiet [⟨.bulkOut r₀.request.encode timeout, .ok Header.byteCount⟩] := by simp [Quiet, TakesIn]
    refine ⟨r₀, ⟨⟨timeout, by simp⟩, hprogress.kept.config.trans kept.config, ?_, ?_⟩, hconcluded⟩
    · rw [hprogress.inBuf, List.foldl_append, List.foldl_append, foldl_laidOver_of_quiet quiet,
        foldl_laidOver_of_quiet hsent, hin]
    · rw [collected_eq quiet hsent hin, hprogress.collected]

/-! ## Every operation -/

/-- An operation that reads answers by what it reads, and the others take nothing in. -/
def Told (s : Session) (op : Operation) (calls : List (Event Port)) (answer : op.Answer) : Prop :=
  match op.reader with
  | none => Quiet calls
  | some (given, report) => ∃ result, ReadInto s given calls result ∧ answer = report result

theorem Moved.quiet {s s' : Session} {op : Operation} {calls : List (Event Port)} (h : Moved s op calls s')
    (hop : ¬ op.IsExchange) : Quiet calls := by
  cases h with
  | exchanged hexchange => exact absurd hexchange hop
  | _ => simp [Quiet, TakesIn]

theorem control_quiet {α : Type} (s : Session) (request : UInt8) (room : Nat)
    (decode : Bytes → Except SessionError α) :
    (s.control request room decode).Always fun calls _ => Quiet calls := by
  refine (control_transfer s request room decode).mono ?_
  rintro calls outcome ⟨delivery, rfl⟩
  simp [Quiet, TakesIn]

theorem query_told {α : Type} {s : Session} (sized : s.Sized) (question : String) (room : Nat)
    (interpret : String → Except InstrumentError α) :
    (Instrument.query s patience question room interpret).Always fun calls r =>
      ∃ result, ReadInto s (Bytes.zeros room) calls result ∧ r.1 = understood interpret result :=
  (ask_into sized _ _ _).bind_done fun _ result h => ⟨result, h, rfl⟩

theorem serve_told (patience : Nat) (op : Operation) {s : Session} (sized : s.Sized) :
    (serve patience op s).Always fun calls r => Told s op calls r.1 := by
  have hwrite (data : Bytes) (timeout : Nat) : (s.write data timeout).Always fun calls _ => Quiet calls :=
    (write_outgoing s data timeout).mono fun _ _ h => h.quiet
  -- a flattened read loses the error, and keeps the rest of the result
  have hflat {d : Dialogue Port ReadResult} {given : Bytes} (hd : d.Always (ReadInto s given)) :
      (d >>= fun r => .done { r with outcome := r.outcome.orElse 0 }).Always fun calls r =>
        ∃ result, ReadInto s given calls result ∧ r = { result with outcome := result.outcome.orElse 0 } :=
    hd.bind_done fun _ result h => ⟨result, h, rfl⟩
  cases op with
  | start => exact (serve_moved .start s).mono fun _ _ h => h.quiet id
  | stop => exact (serve_moved .stop s).mono fun _ _ h => h.quiet id
  | unload => exact (serve_moved .unload s).mono fun _ _ h => h.quiet id
  | write data timeout => exact hwrite data timeout
  | read output timeout => exact (read_into sized output timeout).bind_done fun _ result h => ⟨result, h, rfl⟩
  | ask query output timeout =>
    exact (ask_into sized query output timeout).bind_done fun _ result h => ⟨result, h, rfl⟩
  | writeLength data timeout =>
    refine (hwrite data timeout).bind_forall ?_
    rintro ⟨outcome, s'⟩
    cases outcome <;> exact fun _ h => (nomatch h)
  | readLength output timeout =>
    refine (hflat (read_into sized output timeout)).bind_done ?_
    rintro calls _ ⟨result, h, rfl⟩
    exact ⟨result, h, rfl⟩
  | askLength query output timeout =>
    refine (hflat (ask_into sized query output timeout)).bind_done ?_
    rintro calls _ ⟨result, h, rfl⟩
    exact ⟨result, h, rfl⟩
  | pulse => exact (control_quiet s _ _ _).bind_done fun _ _ h => h
  | capabilities => exact (control_quiet s _ _ _).bind_done fun _ _ h => h
  | identify => exact query_told sized _ _ _
  | detect =>
    refine (query_told sized _ _ _).bind_done ?_
    rintro calls ⟨outcome, s'⟩ ⟨result, h, rfl⟩
    exact ⟨result, h, rfl⟩
  | setState profile state =>
    refine (hwrite _ _).bind_forall ?_
    rintro ⟨outcome, s'⟩
    cases outcome with
    | error e => exact fun _ h => (nomatch h)
    | ok written =>
      dsimp only
      split <;> exact fun _ h => (nomatch h)
  | getState profile => exact query_told sized _ _ _

end ScopeLink.Session
