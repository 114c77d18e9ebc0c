import ScopeLink.Command.Perform
import ScopeLink.Proofs.Lifecycle
import ScopeLink.Proofs.Messages
/-!
# Changing the acquisition of an unknown instrument

What the commands that change the acquisition say to an instrument, whatever it answers. They ask for its
identity, `toggle` asks for its state in the dialect the identity is matched to, and one command follows in
that dialect. A stage that fails is the last (`Cautious`), so no instrument is sent a command in a dialect
that was not found in its own reply.

`Heard` is an exchange that went well: the question was sent, and the payloads that a read took up to its
end are a text. `Driven` adds the start of the session and its stop, which closes the endpoints once.
-/

namespace ScopeLink

namespace Session

/-! ## A session behind exchanges -/

/-- `s'` is `s` behind these calls, which neither open nor close the endpoints: its settings and where its life
stands are the same, and its in-buffer holds what the calls laid over it. -/
structure Behind (s : Session) (log : List (Event Port)) (s' : Session) : Prop where
  kept : Kept s s'
  plain : ∀ event ∈ log, Plain event.call
  state : s'.state = s.state
  inBuf : s'.inBuf = log.foldl laidOver s.inBuf

theorem Behind.trans {s s' s'' : Session} {log log' : List (Event Port)} (h : Behind s log s')
    (h' : Behind s' log' s'') : Behind s (log ++ log') s'' where
  kept := h.kept.trans h'.kept
  plain event hevent := (List.mem_append.mp hevent).elim (h.plain event) (h'.plain event)
  state := h'.state.trans h.state
  inBuf := by rw [h'.inBuf, h.inBuf, List.foldl_append]

theorem behind_carried : Carried Behind where
  refl s := ⟨.refl s, nofun, rfl, rfl⟩
  trans := Behind.trans
  write s data timeout := (write_written s data timeout).mono fun log r h => by
    have kept := h.kept
    generalize r.2 = s' at h kept
    cases h <;> exact ⟨kept, by simp [Plain], rfl, rfl⟩
  round timeout r _ := (round_turned timeout r).mono fun log p h => by
    have kept := h.kept
    generalize p.2.session = s' at h kept
    cases h <;> exact ⟨kept, by simp [Plain], rfl, rfl⟩
  control s α request room decode := (control_transfer s request room decode).mono fun _ _ h => by
    obtain ⟨delivery, rfl⟩ := h
    exact ⟨.refl s, by simp [Plain], rfl, rfl⟩

/-! ## Questions -/

/-- The outcome of calls that come to nothing: an error, or a halt for which the port gave the reason, a count
beyond the room there was or more replies than there is patience for. -/
inductive Unsuccessful {ε α : Type} (patience : Nat) (calls : List (Event Port)) : Outcome ε α → Prop
  | failed (e) : Unsuccessful patience calls (.failed e)
  | overrun {event} : event ∈ calls → ¬ Checked.Within event.call event.answer →
    Unsuccessful patience calls (.halted .overrun)
  | unfinished : patience < calls.countP reported → Unsuccessful patience calls (.halted .unfinished)

/-- A failure by another name is one. -/
theorem Unsuccessful.cast {ε ε' α β : Type} {patience : Nat} {calls : List (Event Port)} {halt : Halt}
    (h : Unsuccessful patience calls (.halted halt : Outcome ε α)) :
    Unsuccessful patience calls (.halted halt : Outcome ε' β) := by
  cases h with
  | overrun hevent hbeyond => exact .overrun hevent hbeyond
  | unfinished hfew => exact .unfinished hfew

/-- Behind the calls `earlier` the question was sent, and the reply that was read to its end is this text. -/
inductive Heard (s : Session) (earlier : List (Event Port)) (question : String) (room : Nat) :
    List (Event Port) → String → Prop
  | intro {wrote read s₁ payloads text} : messages wrote = [Bytes.ofString question] →
    Behind s (earlier ++ wrote) s₁ →
    Course s.config.timeout ⟨s₁, Bytes.zeros room, 0⟩ read payloads (.ok ()) →
    Instrument.answerText payloads.flatten = .ok text →
    Heard s earlier question room (wrote ++ read) text

theorem Heard.messages_eq {s : Session} {earlier calls : List (Event Port)} {question text : String}
    {room : Nat} (h : Heard s earlier question room calls text) :
    messages calls = [Bytes.ofString question] := by
  obtain ⟨hwrote, -, course, -⟩ := h
  rw [messages_append, hwrote, messages_of_asking course.asking, List.append_nil]

/-- An exchange that is read to some end. -/
structure Replied (patience : Nat) (s : Session) (query output : Bytes) (timeout : Nat)
    (calls : List (Event Port)) (result : ReadResult) (wrote read : List (Event Port)) (s₁ : Session)
    (payloads : List Bytes) (ending : Outcome SessionError Unit) : Prop where
  calls : calls = wrote ++ read
  said : messages wrote = [query]
  behind : Behind s wrote s₁
  course : Course timeout ⟨s₁, output, 0⟩ read payloads ending
  outcome : result.outcome = ending.andThen fun _ => .ok payloads.flatten.length
  filled : Filled output payloads result.output
  rounds : ending = .halted .unfinished → output.length + patience ≤ payloads.length

theorem ask_replied (patience : Nat) {s : Session} (sized : s.Sized) (query output : Bytes) (timeout : Nat) :
    (s.ask patience query output timeout).Always fun calls result =>
      (messages calls <+: [query] ∧ ∃ e, result.outcome = .failed e) ∨
      ∃ wrote read s₁ payloads ending,
        Replied patience s query output timeout calls result wrote read s₁ payloads ending := by
  unfold ask
  rw [Dialogue.always_bind]
  refine ((write_messages s query timeout).and (behind_carried.write s query timeout)).mono ?_
  rintro wrote ⟨answer, s₁⟩ ⟨⟨hfront, hsaid⟩, behind⟩
  cases answer with
  | error e => exact .inl ⟨by rwa [List.append_nil], e, rfl⟩
  | ok n =>
    by_cases ready : s₁.state = .ready
    · refine (read_course patience (behind.kept.sized sized) ready output timeout).mono ?_
      rintro read result ⟨payloads, ending, course, houtcome, hfilled, hpatience⟩
      exact .inr ⟨wrote, read, s₁, payloads, ending, rfl, hsaid ⟨n, rfl⟩, behind, course, houtcome,
        hfilled, hpatience⟩
    · dsimp only [read]
      rw [if_pos ready]
      exact .inl ⟨by rwa [List.append_nil], _, rfl⟩

/-- What asking a question, behind other calls, comes to. -/
structure Inquired {α : Type} (patience : Nat) (s : Session) (earlier : List (Event Port))
    (question : String) (room : Nat) (interpret : String → Except InstrumentError α)
    (calls : List (Event Port)) (outcome : Outcome InstrumentError α) : Prop where
  said : messages calls <+: [Bytes.ofString question]
  result : (∃ text a, Heard s earlier question room calls text ∧ interpret text = .ok a ∧ outcome = .ok a) ∨
    Unsuccessful patience calls outcome

/-- A reply whose read halts gives the reason for it. -/
theorem Replied.unsuccessful {α ε : Type} {patience timeout : Nat} {s s₁ : Session} {query output : Bytes}
    {calls wrote read : List (Event Port)} {result : ReadResult} {payloads : List Bytes} {halt : Halt}
    (h : Replied patience s query output timeout calls result wrote read s₁ payloads (.halted halt)) :
    Unsuccessful patience calls (.halted halt : Outcome ε α) := by
  obtain ⟨rfl, event, hevent, hbeyond⟩ | ⟨rfl, hmore⟩ := h.course.halted rfl
  · have hmem : event ∈ calls := by
      rw [h.calls]
      exact List.mem_append_right _ hevent
    exact .overrun hmem hbeyond
  · have hrounds := h.rounds rfl
    have hcount := h.course.length_le
    dsimp only at hmore
    refine .unfinished ?_
    rw [h.calls, List.countP_append]
    omega

theorem query_inquired {α : Type} (patience : Nat) {s s' : Session} {earlier : List (Event Port)}
    (behind : Behind s earlier s') (sized : s.Sized) (question : String) (room : Nat)
    (interpret : String → Except InstrumentError α) :
    (Instrument.query s' patience question room interpret).Always fun calls r =>
      Inquired patience s earlier question room interpret calls r.1 := by
  have hconfig := behind.kept.config
  refine (ask_replied patience (behind.kept.sized sized) _ _ _).bind_done ?_
  rintro calls result (⟨hfront, e, he⟩ | ⟨wrote, read, s₁, payloads, ending, h⟩)
  · refine ⟨hfront, .inr ?_⟩
    rw [he]
    exact .failed _
  have hsaid : messages calls = [Bytes.ofString question] := by
    rw [h.calls, messages_append, h.said, messages_of_asking h.course.asking, List.append_nil]
  refine ⟨⟨[], by rw [List.append_nil, hsaid]⟩, ?_⟩
  cases ending with
  | failed e =>
    simp only [h.outcome, Outcome.andThen, Outcome.mapError]
    exact .inr (.failed _)
  | halted halt =>
    simp only [h.outcome, Outcome.andThen, Outcome.mapError]
    exact .inr h.unsuccessful
  | ok u =>
    simp only [h.outcome, Outcome.andThen, Outcome.mapError, h.filled.front]
    cases htext : Instrument.answerText payloads.flatten with
    | error e => exact .inr (.failed _)
    | ok text =>
      have heard : Heard s earlier question room calls text := by
        have course := h.course
        rw [hconfig] at course
        rw [h.calls]
        exact .intro h.said (behind.trans h.behind) course htext
      simp only [Outcome.ofExcept]
      cases hinterpret : interpret text with
      | error e => exact .inr (.failed _)
      | ok a => exact .inl ⟨text, a, heard, hinterpret, rfl⟩

end Session

namespace Command

open Instrument

open Session (messages messages_append Behind behind_carried Unsuccessful Heard query_inquired write_messages)

/-! ## What is known of an instrument -/

/-- The reply to the question for the identity is an identity, and the profile that of the first row of the
table that admits it. -/
inductive Identified (s : Session) : List (Event Port) → Profile → Prop
  | intro {calls text identity row before after} :
    Heard s [] identityQuery identityRoom calls text → Identity.read text = .ok identity →
    detectionTable = before ++ row :: after → row.admits identity.vendor identity.model = true →
    (∀ other ∈ before, other.admits identity.vendor identity.model = false) →
    Identified s calls row.profile

/-- The reply to the question for the state, asked in the dialect of a profile, reads as this state. -/
inductive Reported (s : Session) (earlier : List (Event Port)) (profile : Profile) :
    List (Event Port) → State → Prop
  | intro {calls text state} : Heard s earlier profile.status.query statusRoom calls text →
    profile.status.read text = .ok state → Reported s earlier profile calls state

/-- The state that a task is to bring about, with the calls that it asks for the present one in. -/
inductive Target (s : Session) (asked : List (Event Port)) (profile : Profile) :
    Task → List (Event Port) → State → Prop
  | run : Target s asked profile .run [] .running
  | stop : Target s asked profile .stop [] .stopped
  | single : Target s asked profile .single [] .single
  | toggle {queried state} : Reported s asked profile queried state →
    Target s asked profile .toggle queried (if state = .stopped then .running else .stopped)

/-- All that a task that changes the acquisition can do in a session. -/
inductive Cautious (patience : Nat) (s : Session) (task : Task) :
    List (Event Port) → Outcome Failure String → Prop
  /-- The instrument is not identified. -/
  | unidentified {calls outcome} : messages calls <+: [Bytes.ofString identityQuery] →
    Unsuccessful patience calls outcome → Cautious patience s task calls outcome
  /-- Its state is not found. -/
  | unread {asked queried profile outcome} : task = .toggle → Identified s asked profile →
    messages queried <+: [Bytes.ofString profile.status.query] →
    Unsuccessful patience queried outcome → Cautious patience s task (asked ++ queried) outcome
  /-- A command is sent, or refused before that. -/
  | commanded {asked queried sent profile state outcome} : Identified s asked profile →
    Target s asked profile task queried state →
    messages sent <+: [Bytes.ofString (profile.command state)] →
    (messages sent = [Bytes.ofString (profile.command state)] ∧ ∃ output, outcome = .ok output) ∨
      (∃ e, outcome = .failed e) →
    Cautious patience s task (asked ++ queried ++ sent) outcome

/-! ## Stages -/

theorem detect_identified (patience : Nat) {s : Session} (sized : s.Sized) :
    (Instrument.detect s patience).Always fun calls r =>
      messages calls <+: [Bytes.ofString identityQuery] ∧
      ((∃ profile, Identified s calls profile ∧ r.1 = .ok (some profile)) ∨ r.1 = .ok none ∨
        ∃ halt, r.1 = .halted halt ∧ Unsuccessful patience calls r.1) := by
  refine (query_inquired patience (behind_carried.refl s) sized identityQuery identityRoom
    Identity.read).bind_done ?_
  rintro calls ⟨outcome, s'⟩ ⟨hsaid, hresult⟩
  refine ⟨hsaid, ?_⟩
  obtain ⟨text, identity, heard, hread, rfl⟩ | hresult := hresult
  · dsimp only [Outcome.andThen, Outcome.orElse, matchProfile]
    cases hrow : detectionTable.find? fun row => row.admits identity.vendor identity.model with
    | none => exact .inr (.inl rfl)
    | some row =>
      obtain ⟨hadmits, before, after, htable, hbefore⟩ := List.find?_eq_some_iff_append.mp hrow
      refine .inl ⟨row.profile, .intro heard hread htable hadmits fun other hother => ?_, rfl⟩
      simpa using hbefore other hother
  · cases hresult with
    | failed e => exact .inr (.inl rfl)
    | overrun hevent hbeyond => exact .inr (.inr ⟨_, rfl, .overrun hevent hbeyond⟩)
    | unfinished hfew => exact .inr (.inr ⟨_, rfl, .unfinished hfew⟩)

section

variable {α : Type} {patience : Nat} {s : Session} {Q : List (Event Port) → Performed α → Prop}

/-- What holds of a failed detection, and of what follows a successful one behind its calls, holds of both. -/
theorem withProfile_always (sized : s.Sized) {next : Session → Profile → Dialogue Port (Performed α)}
    (unidentified : ∀ calls outcome s', Behind s calls s' →
      messages calls <+: [Bytes.ofString identityQuery] → Unsuccessful patience calls outcome →
      Q calls (outcome, s'))
    (identified : ∀ asked profile s', Behind s asked s' → Identified s asked profile →
      (next s' profile).Always fun calls p => Q (asked ++ calls) p) :
    (withProfile s patience next).Always Q := by
  unfold withProfile
  rw [Dialogue.always_bind]
  refine ((detect_identified patience sized).and (behind_carried.exchange .detect trivial s)).mono ?_
  rintro calls ⟨outcome, s'⟩ ⟨⟨hsaid, hresult⟩, behind⟩
  dsimp only at hresult
  obtain ⟨profile, hidentified, rfl⟩ | rfl | ⟨halt, rfl, hhalt⟩ := hresult
  · exact identified calls profile s' behind hidentified
  · rw [← List.append_nil calls] at hsaid behind
    exact unidentified _ _ _ behind hsaid (.failed _)
  · rw [← List.append_nil calls] at hsaid behind hhalt
    exact unidentified _ _ _ behind hsaid hhalt.cast

theorem withState_always {s₀ : Session} {asked : List (Event Port)} (behind₀ : Behind s₀ asked s)
    (sized : s₀.Sized) {profile : Profile} {next : Session → State → Dialogue Port (Performed α)}
    (unread : ∀ queried outcome s', Behind s queried s' →
      messages queried <+: [Bytes.ofString profile.status.query] →
      Unsuccessful patience queried outcome → Q queried (outcome, s'))
    (read : ∀ queried state s', Behind s queried s' → Reported s₀ asked profile queried state →
      (next s' state).Always fun calls p => Q (queried ++ calls) p) :
    (withState s patience profile next).Always Q := by
  unfold withState
  rw [Dialogue.always_bind]
  refine ((query_inquired patience behind₀ sized profile.status.query statusRoom profile.status.read).and
    (behind_carried.exchange (.getState profile) trivial s)).mono ?_
  rintro calls ⟨outcome, s'⟩ ⟨⟨hsaid, hresult⟩, behind⟩
  dsimp only at hresult
  obtain ⟨text, state, heard, hread, rfl⟩ | hresult := hresult
  · exact read calls state s' behind (.intro heard hread)
  rw [← List.append_nil calls] at hsaid behind hresult
  cases outcome with
  | ok a => nomatch hresult
  | failed e => exact unread _ _ _ behind hsaid (.failed _)
  | halted halt => exact unread _ _ _ behind hsaid hresult.cast

end

theorem change_messages (s : Session) (profile : Profile) (state : State) (output : String) :
    (change s profile state output).Always fun sent p => Behind s sent p.2 ∧
      messages sent <+: [Bytes.ofString (profile.command state)] ∧
      ((messages sent = [Bytes.ofString (profile.command state)] ∧ ∃ output, p.1 = .ok output) ∨
        ∃ e, p.1 = .failed e) := by
  unfold change setState
  dsimp only
  rw [Dialogue.bind_assoc, Dialogue.always_bind]
  refine ((write_messages s _ _).and (behind_carried.write s _ _)).mono ?_
  rintro sent ⟨outcome, s'⟩ ⟨⟨hfront, hsaid⟩, behind⟩
  rw [← List.append_nil sent] at hfront behind hsaid
  cases outcome with
  | error e => exact ⟨behind, hfront, .inr ⟨_, rfl⟩⟩
  | ok n =>
    dsimp only
    split
    · exact ⟨behind, hfront, .inl ⟨hsaid ⟨n, rfl⟩, output, rfl⟩⟩
    · exact ⟨behind, hfront, .inr ⟨_, rfl⟩⟩

/-! ## A task from start to stop -/

theorem toggled_eq (state : State) : toggled state = if state = .stopped then .running else .stopped := by
  cases state <;> rfl

/-- The tasks that change the acquisition. -/
def changing : List Task := [.run, .stop, .single, .toggle]

theorem perform_cautious (patience : Nat) {s : Session} (sized : s.Sized) {task : Task}
    (htask : task ∈ changing) :
    (perform s patience task).Always fun calls p =>
      Behind s calls p.2 ∧ Cautious patience s task calls p.1 := by
  -- a task that names its state sends the command right behind the detection
  have named {task : Task} {state : State}
      (target : ∀ asked profile, Target s asked profile task [] state) :
      (withProfile s patience fun s profile => change s profile state "").Always fun calls p =>
        Behind s calls p.2 ∧ Cautious patience s task calls p.1 := by
    refine withProfile_always sized ?_ ?_
    · exact fun calls outcome s' behind hsaid hresult => ⟨behind, .unidentified hsaid hresult⟩
    · intro asked profile s' behind hidentified
      refine (change_messages s' profile state "").mono ?_
      rintro sent p ⟨behind', hfront, hresult⟩
      refine ⟨behind.trans behind', ?_⟩
      rw [← List.append_nil asked]
      exact .commanded hidentified (target asked profile) hfront hresult
  simp only [changing, List.mem_cons, List.not_mem_nil, or_false] at htask
  obtain rfl | rfl | rfl | rfl := htask
  · exact named fun _ _ => .run
  · exact named fun _ _ => .stop
  · exact named fun _ _ => .single
  · refine withProfile_always sized ?_ ?_
    · exact fun calls outcome s' behind hsaid hresult => ⟨behind, .unidentified hsaid hresult⟩
    · intro asked profile s' behind hidentified
      refine withState_always behind sized ?_ ?_
      · exact fun queried outcome s'' behind' hsaid hresult =>
          ⟨behind.trans behind', .unread rfl hidentified hsaid hresult⟩
      · intro queried state s'' behind' hreported
        refine (change_messages s'' profile (toggled state) _).mono ?_
        rintro sent p ⟨behind'', hfront, hresult⟩
        refine ⟨behind.trans (behind'.trans behind''), ?_⟩
        rw [toggled_eq] at hfront hresult
        rw [← List.append_assoc]
        exact .commanded hidentified (.toggle hreported) hfront hresult

/-- The start of a session, with what it calls if it succeeds. -/
inductive Started (s : Session) : List (Event Port) → Prop
  | opened : s.state = .active → Started s [⟨.openEndpoints, .ok ()⟩]
  | open : s.state = .ready → Started s []

/-- All that carrying out a task that changes the acquisition can do: fail to start, or start, be cautious, and
close the endpoints. -/
inductive Driven (patience : Nat) (s : Session) (task : Task) :
    List (Event Port) → Outcome Failure String → Prop
  | unopened {e} : s.state = .active →
    Driven patience s task [⟨.openEndpoints, .error e⟩] (.failed (.session (.ofTransfer e)))
  | stopped : s.state = .stopped → Driven patience s task [] (.failed (.session .notReady))
  | started {opening calls outcome} : Started s opening →
    Cautious patience { s with state := .ready } task calls outcome →
    (∀ event ∈ calls, Session.Plain event.call) →
    Driven patience s task (opening ++ calls ++ [⟨.closeEndpoints, ()⟩]) outcome

theorem drive_driven (patience : Nat) {s : Session} (sized : s.Sized) {task : Task}
    (htask : task ∈ changing) :
    (drive s patience task).Always fun log outcome => Driven patience s task log outcome := by
  -- the session is ready behind the task, so its stop closes the endpoints and its drop does not
  have ready {opening : List (Event Port)} (started : Started s opening) :
      (perform { s with state := .ready } patience task >>= fun p => p.2.stop >>= fun s' =>
        s'.drop >>= fun _ => .done p.1).Always fun log outcome =>
          Driven patience s task (opening ++ log) outcome := by
    rw [Dialogue.always_bind]
    refine (perform_cautious patience ((Session.kept_state s .ready).sized sized) htask).mono ?_
    rintro calls ⟨outcome, s'⟩ ⟨behind, cautious⟩
    have hstate : s'.state = .ready := behind.state
    dsimp only [Session.stop]
    rw [hstate]
    intro answer
    show Driven patience s task (opening ++ (calls ++ [⟨.closeEndpoints, ()⟩])) outcome
    rw [← List.append_assoc]
    exact .started started cautious behind.plain
  unfold drive Session.start
  obtain ⟨config, state, lastTag, outBuf, inBuf⟩ := s
  cases state with
  | stopped => exact .stopped rfl
  | ready => exact ready (.open rfl)
  | active =>
    rintro (e | ⟨⟩)
    · exact .unopened rfl
    · exact ready (.opened rfl)

/-! ## The messages -/

/-- What a task says, in the dialect of a profile, to bring an instrument into a state. -/
def agenda (task : Task) (profile : Profile) (state : State) : List Bytes :=
  [Bytes.ofString identityQuery] ++
    (if task = .toggle then [Bytes.ofString profile.status.query] else []) ++
    [Bytes.ofString (profile.command state)]

theorem Identified.messages_eq {s : Session} {asked : List (Event Port)} {profile : Profile}
    (h : Identified s asked profile) : messages asked = [Bytes.ofString identityQuery] := by
  obtain ⟨heard, -, -, -, -⟩ := h
  exact heard.messages_eq

theorem Target.messages_eq {s : Session} {asked queried : List (Event Port)} {profile : Profile} {task : Task}
    {state : State} (h : Target s asked profile task queried state) :
    messages queried = if task = .toggle then [Bytes.ofString profile.status.query] else [] := by
  cases h with
  | run | stop | single => rfl
  | toggle hreported =>
    obtain ⟨heard, -⟩ := hreported
    rw [heard.messages_eq, if_pos rfl]

theorem Cautious.messages_prefix {patience : Nat} {s : Session} {task : Task} {calls : List (Event Port)}
    {outcome : Outcome Failure String} (h : Cautious patience s task calls outcome) :
    ∃ profile state, messages calls <+: agenda task profile state := by
  cases h with
  | unidentified hsaid =>
    refine ⟨.tektronix, .running, hsaid.trans ?_⟩
    rw [agenda, List.append_assoc]
    exact List.prefix_append _ _
  | @unread asked queried profile outcome htask hidentified hsaid =>
    refine ⟨profile, .running, ?_⟩
    rw [messages_append, hidentified.messages_eq, agenda, if_pos htask]
    exact ((List.prefix_append_right_inj _).mpr hsaid).trans (List.prefix_append _ _)
  | @commanded asked queried sent profile state outcome hidentified target hsaid =>
    refine ⟨profile, state, ?_⟩
    rw [messages_append, messages_append, hidentified.messages_eq, target.messages_eq, agenda]
    exact (List.prefix_append_right_inj _).mpr hsaid

theorem Driven.messages_prefix {patience : Nat} {s : Session} {task : Task} {log : List (Event Port)}
    {outcome : Outcome Failure String} (h : Driven patience s task log outcome) :
    ∃ profile state, messages log <+: agenda task profile state := by
  cases h with
  | unopened | stopped => exact ⟨.tektronix, .running, List.nil_prefix⟩
  | @started opening calls outcome started cautious =>
    have hopening : messages opening = [] := by cases started <;> rfl
    have hclosing : messages [⟨.closeEndpoints, ()⟩] = [] := rfl
    rw [messages_append, messages_append, hopening, hclosing, List.nil_append, List.append_nil]
    exact cautious.messages_prefix

/-- **No command in a guessed dialect.** Whatever the port answers, a task that changes the acquisition asks
who the instrument is, asks for its state if it has to toggle that, and sends one command at most, in the
dialect of the profile that the reply is matched to; it comes to an error where a reply is missing or is not
understood, and once it has started, it closes the endpoints at the end. -/
theorem changes_identified {σ : Type} (patience : Nat) (port : Handler Port σ) (x : σ) {s : Session}
    (sized : s.Sized) {task : Task} (htask : task ∈ changing) :
    let r := (drive s patience task).run port.recorded (x, [])
    Driven patience s task r.2.2 r.1 ∧ ∃ profile state, messages r.2.2 <+: agenda task profile state := by
  obtain ⟨calls, hlog, hdriven⟩ := Dialogue.always_run (drive_driven patience sized htask) port x []
  rw [List.nil_append] at hlog
  dsimp only
  rw [hlog]
  exact ⟨hdriven, hdriven.messages_prefix⟩

/-- The emulated instrument is stopped at first, and runs behind a toggle. -/
theorem changes_identified_by_toggle :
    let s := Session.new {}
    let r := (drive s Session.usualPatience .toggle).run Emulator.port.recorded ({}, [])
    s.Sized ∧ Task.toggle ∈ changing ∧ r.1 = .ok "running\n" ∧
      messages r.2.2 = agenda .toggle .emulated .running ∧
      Driven Session.usualPatience s .toggle r.2.2 r.1 ∧
      ∃ profile state, messages r.2.2 <+: agenda .toggle profile state := by
  intro s
  have sized : s.Sized := Session.sized_new {}
  have htask : Task.toggle ∈ changing := by decide
  exact ⟨sized, htask, by decide +kernel, by decide +kernel,
    changes_identified Session.usualPatience Emulator.port {} sized htask⟩

end Command

end ScopeLink
