import ScopeLink.Proofs.Client
/-!
# The life of a session

A session opens its endpoints when it starts and closes them when it stops, is unloaded or dropped.
Whatever the port answers, opens and closes are paired but for the open of a ready session, and
transfers are made in a ready session only, so behind an open that no close has undone.

`Moved` says all that one operation can do to the life of a session, with the calls it makes on the
port; `Paired` is the invariant it keeps, and `lifecycle` what follows for whole runs.
-/

namespace ScopeLink.Session

variable {patience : Nat}

/-! ## Calls on the endpoints -/

/-- A transfer on the bulk endpoints. -/
def IsTransfer : Port.Call → Prop
  | .bulkOut .. | .bulkIn .. => True
  | _ => False

/-- A call that neither opens nor closes the endpoints. -/
def Plain : Port.Call → Prop
  | .openEndpoints | .closeEndpoints => False
  | _ => True

/-- The endpoints were opened, and have not been closed since. -/
def Opened (log : List (Event Port)) : Prop :=
  ∃ before after, log = before ++ ⟨.openEndpoints, .ok ()⟩ :: after ∧
    ∀ event ∈ after, event.call ≠ .closeEndpoints

/-- How often the endpoints were opened with success. -/
def opens (log : List (Event Port)) : Nat :=
  log.countP fun
    | ⟨.openEndpoints, .ok ()⟩ => true
    | _ => false

/-- How often the endpoints were closed. -/
def closes (log : List (Event Port)) : Nat := log.countP fun event => event.call = .closeEndpoints

theorem opens_append (log log' : List (Event Port)) : opens (log ++ log') = opens log + opens log' :=
  List.countP_append

theorem closes_append (log log' : List (Event Port)) :
    closes (log ++ log') = closes log + closes log' := List.countP_append

theorem opens_of_plain {log : List (Event Port)} (plain : ∀ event ∈ log, Plain event.call) :
    opens log = 0 := by
  refine List.countP_eq_zero.mpr fun event he => ?_
  have := plain event he
  obtain ⟨call, answer⟩ := event
  cases call with
  | openEndpoints => exact this.elim
  | _ => simp

theorem closes_of_plain {log : List (Event Port)} (plain : ∀ event ∈ log, Plain event.call) :
    closes log = 0 := by
  refine List.countP_eq_zero.mpr fun event he => ?_
  have := plain event he
  rw [decide_eq_true_eq]
  intro h
  rw [h] at this
  exact this

theorem opened_snoc {log : List (Event Port)} {event : Event Port} :
    Opened (log ++ [event]) ↔
      event = ⟨.openEndpoints, .ok ()⟩ ∨ Opened log ∧ event.call ≠ .closeEndpoints := lasts_snoc

theorem opened_append_of_plain {log calls : List (Event Port)} (plain : ∀ event ∈ calls, Plain event.call) :
    Opened (log ++ calls) ↔ Opened log := by
  refine lasts_append_of_other fun event he => ?_
  have hevent := plain event he
  constructor
  · rintro rfl
    exact hevent
  · intro h
    rw [h] at hevent
    exact hevent

/-! ## Exchanges -/

/-- An exchange neither opens nor closes the endpoints, leaves the life of the session where it stands,
and makes no transfer unless the session is ready. -/
structure Conducted (s : Session) (log : List (Event Port)) (s' : Session) : Prop where
  plain : ∀ event ∈ log, Plain event.call
  state : s'.state = s.state
  ready : s.state ≠ .ready → ∀ event ∈ log, ¬ IsTransfer event.call

theorem Conducted.trans {s s' s'' : Session} {log log' : List (Event Port)} (h : Conducted s log s')
    (h' : Conducted s' log' s'') : Conducted s (log ++ log') s'' := by
  refine ⟨fun event he => ?_, h'.state.trans h.state, fun hs event he => ?_⟩
  · exact (List.mem_append.mp he).elim (h.plain event) (h'.plain event)
  · exact (List.mem_append.mp he).elim (h.ready hs event) (h'.ready (by rwa [h.state]) event)

theorem conducted_refusal (s : Session) (max : Nat) : Conducted s [⟨.maxPacket, max⟩] s :=
  ⟨by simp [Plain], rfl, fun _ => by simp [IsTransfer]⟩

theorem Written.conducted {s s' : Session} {data : Bytes} {timeout : Nat} {log : List (Event Port)}
    (h : Written s data timeout log s') (ready : s.state = .ready) : Conducted s log s' := by
  cases h <;> exact ⟨by simp [Plain], rfl, fun hs => absurd ready hs⟩

theorem Turned.conducted {timeout : Nat} {r : Reading} {log : List (Event Port)} {s' : Session}
    (h : Turned timeout r log s') (ready : r.session.state = .ready) : Conducted r.session log s' := by
  cases h <;> exact ⟨by simp [Plain], rfl, fun hs => absurd ready hs⟩

theorem conducted_write (s : Session) (data : Bytes) (timeout : Nat) :
    (s.write data timeout).Always fun log r => Conducted s log r.2 := by
  by_cases ready : s.state = .ready
  · refine (write_written s data timeout).mono ?_
    rintro log ⟨answer, s'⟩ h
    exact h.conducted ready
  · -- the packet size is asked for first, and the session is not ready to go on
    unfold write
    rw [Port.maxPacket_bind]
    intro max
    dsimp only
    split
    · exact conducted_refusal s max
    · exact conducted_refusal s max

theorem conducted_carried : Carried Conducted where
  refl s := ⟨fun _ h => (nomatch h), rfl, fun _ _ h => (nomatch h)⟩
  trans := Conducted.trans
  write := conducted_write
  round timeout r ready := (round_turned timeout r).mono fun _ _ h => h.conducted ready
  control s α request room decode := (control_transfer s request room decode).mono fun _ _ h => by
    obtain ⟨delivery, rfl⟩ := h
    exact ⟨by simp [Plain], rfl, fun _ => by simp [IsTransfer]⟩

/-! ## One operation -/

/-- All that an operation can do to the life of a session, and to the endpoints. -/
inductive Moved (s : Session) : Operation → List (Event Port) → Session → Prop
  | exchanged {op calls s'} : op.IsExchange → Conducted s calls s' → Moved s op calls s'
  | undisturbed : s.state ≠ .active → Moved s .start [] s
  | refused {e} : s.state = .active → Moved s .start [⟨.openEndpoints, .error e⟩] s
  | started : s.state = .active → Moved s .start [⟨.openEndpoints, .ok ()⟩] { s with state := .ready }
  | idle : s.state ≠ .ready → Moved s .stop [] s
  | stopped : s.state = .ready → Moved s .stop [⟨.closeEndpoints, ()⟩] { s with state := .active }
  | lost : s.state ≠ .ready → Moved s .unload [] { s with state := .stopped }
  | unloaded : s.state = .ready →
    Moved s .unload [⟨.closeEndpoints, ()⟩] { s with state := .stopped }

theorem start_moved (s : Session) : s.start.Always fun calls r => Moved s .start calls r.2 := by
  unfold start
  cases hs : s.state with
  | ready => exact .undisturbed (by simp [hs])
  | stopped => exact .undisturbed (by simp [hs])
  | active =>
    rw [Port.openEndpoints_bind]
    rintro (e | ⟨⟩)
    · exact .refused hs
    · exact .started hs

theorem stop_moved (s : Session) : s.stop.Always fun calls s' => Moved s .stop calls s' := by
  unfold stop
  cases hs : s.state with
  | active => exact .idle (by simp [hs])
  | stopped => exact .idle (by simp [hs])
  | ready => exact fun _ => .stopped hs

theorem unload_moved (s : Session) : s.unload.Always fun calls s' => Moved s .unload calls s' := by
  refine Dialogue.Always.bind_done (stop_moved s) fun calls s' h => ?_
  cases h with
  | exchanged hop => exact hop.elim
  | idle hs => exact .lost hs
  | stopped hs => exact .unloaded hs

theorem serve_moved (op : Operation) (s : Session) :
    (serve patience op s).Always fun calls r => Moved s op calls r.2 := by
  cases op with
  | start => exact start_moved s
  | stop => exact (stop_moved s).bind_done fun _ _ h => h
  | unload => exact (unload_moved s).bind_done fun _ _ h => h
  | _ =>
    refine (conducted_carried.exchange _ ?_ s).mono fun _ _ h => .exchanged ?_ h
    · trivial
    · trivial

/-- Only exchanges make transfers. -/
theorem Moved.conducted {s s' : Session} {op : Operation} {calls : List (Event Port)} {event : Event Port}
    (h : Moved s op calls s') (hmem : event ∈ calls) (htransfer : IsTransfer event.call) :
    Conducted s calls s' := by
  cases h with
  | exchanged hop hc => exact hc
  | undisturbed | idle | lost => cases hmem
  | refused | started | stopped | unloaded =>
    rw [List.mem_singleton.mp hmem] at htransfer
    exact htransfer.elim

/-! ## What every operation keeps -/

/-- The endpoints are open exactly while the session is ready, and closed as often as they were opened
but for that. -/
structure Paired (s : Session) (log : List (Event Port)) : Prop where
  opened : s.state = .ready ↔ Opened log
  count : opens log = closes log + if s.state = .ready then 1 else 0

theorem paired_new (config : Config) : Paired (new config) [] :=
  ⟨iff_of_false nofun not_lasts_nil, rfl⟩

/-- What an operation does to a session on whose port the calls of `log` were made before it. -/
structure Orderly (log : List (Event Port)) (s : Session) (op : Operation) (calls : List (Event Port))
    (s' : Session) : Prop where
  /-- Behind it, there is one open more than there are closes if the session is ready, else as many. -/
  count : opens (log ++ calls) = closes (log ++ calls) + if s'.state = .ready then 1 else 0
  /-- Every transfer of it is made in a ready session, behind an open and with no close since. -/
  transfer : ∀ before event after, calls = before ++ event :: after → IsTransfer event.call →
    s.state = .ready ∧ s'.state = .ready ∧ Opened (log ++ before)
  /-- An exchange leaves the life of the session where it stands. -/
  exchange : op.IsExchange → s'.state = s.state
  /-- An open that fails leaves the session active. -/
  refused : ∀ e, ⟨.openEndpoints, .error e⟩ ∈ calls → s'.state = .active
  unloaded : op = .unload → s'.state = .stopped

theorem Paired.moved {s s' : Session} {op : Operation} {log calls : List (Event Port)} (h : Paired s log)
    (hmove : Moved s op calls s') : Paired s' (log ++ calls) := by
  have hcount := h.count
  cases hmove with
  | exchanged hop hc =>
    refine ⟨?_, ?_⟩
    · rw [hc.state, opened_append_of_plain hc.plain]
      exact h.opened
    · rw [opens_append, closes_append, opens_of_plain hc.plain, closes_of_plain hc.plain, hc.state]
      omega
  | undisturbed | idle => rwa [List.append_nil]
  | refused hs =>
    have hclosed : ¬ Opened log := by rw [← h.opened, hs]; nofun
    refine ⟨iff_of_false (by rw [hs]; nofun) ?_, ?_⟩
    · rw [opened_snoc]
      rintro (h | h)
      · cases h
      · exact hclosed h.1
    · rw [opens_append, closes_append, hcount]
      simp [opens, closes]
  | started hs =>
    refine ⟨iff_of_true rfl (opened_snoc.mpr (.inl rfl)), ?_⟩
    rw [opens_append, closes_append, hcount, hs]
    simp [opens, closes]
  | stopped hs | unloaded hs =>
    refine ⟨iff_of_false nofun ?_, ?_⟩
    · simp [opened_snoc]
    · rw [opens_append, closes_append, hcount, hs]
      simp [opens, closes]
  | lost hs =>
    rw [List.append_nil]
    refine ⟨iff_of_false nofun (by rwa [← h.opened]), ?_⟩
    rw [hcount, if_neg hs]
    rfl

theorem Paired.orderly {s s' : Session} {op : Operation} {log calls : List (Event Port)}
    (h : Paired s log) (hmove : Moved s op calls s') : Orderly log s op calls s' where
  count := (h.moved hmove).count
  transfer before event after hcalls htransfer := by
    have hc := hmove.conducted (by simp [hcalls]) htransfer
    have ready : s.state = .ready := Decidable.byContradiction fun hs =>
      hc.ready hs event (by simp [hcalls]) htransfer
    have hplain : ∀ e ∈ before, Plain e.call := fun e he => hc.plain e (by simp [hcalls, he])
    exact ⟨ready, hc.state.trans ready, (opened_append_of_plain hplain).mpr (h.opened.mp ready)⟩
  exchange hop := by
    cases hmove with
    | exchanged _ hc => exact hc.state
    | _ => exact hop.elim
  refused e hmem := by
    cases hmove with
    | exchanged _ hc => exact (hc.plain _ hmem).elim
    | refused hs => exact hs
    | _ => simp at hmem
  unloaded hop := by
    cases hmove with
    | exchanged h => rw [hop] at h; exact h.elim
    | lost => rfl
    | unloaded => rfl
    | _ => cases hop

/-! ## Behind an unload -/

/-- A stopped session stays stopped, with its endpoints left alone. -/
def Silent (s : Session) (calls : List (Event Port)) (s' : Session) : Prop :=
  s.state = .stopped → s'.state = .stopped ∧
    ∀ event ∈ calls, event.call ≠ .openEndpoints ∧ ¬ IsTransfer event.call

theorem Silent.trans {s s' s'' : Session} {calls calls' : List (Event Port)} (h : Silent s calls s')
    (h' : Silent s' calls' s'') : Silent s (calls ++ calls') s'' := by
  intro hs
  obtain ⟨hs', hcalls⟩ := h hs
  obtain ⟨hs'', hcalls'⟩ := h' hs'
  exact ⟨hs'', fun event he => (List.mem_append.mp he).elim (hcalls event) (hcalls' event)⟩

theorem Moved.silent {s s' : Session} {op : Operation} {calls : List (Event Port)}
    (h : Moved s op calls s') : Silent s calls s' := by
  intro hs
  cases h with
  | exchanged hop hc =>
    refine ⟨hc.state.trans hs, fun event he => ⟨fun hopen => ?_, hc.ready (by simp [hs]) event he⟩⟩
    have := hc.plain event he
    rw [hopen] at this
    exact this
  | undisturbed | idle => exact ⟨hs, fun _ h => (nomatch h)⟩
  | lost => exact ⟨rfl, fun _ h => (nomatch h)⟩
  | refused h | started h | stopped h | unloaded h => exact absurd (hs.symm.trans h) nofun

/-! ## Whole runs -/

section

variable {σ : Type}

/-- A session, and its port with a log of the calls on it. -/
abbrev Attended (σ : Type) := Session × σ × List (Event Port)

/-- The end of a session behind a run of operations: the log is closed with the session. -/
def dropped (port : Handler Port σ) (a : Attended σ) : List (Event Port) :=
  (a.1.drop.run port.recorded a.2).2.2

/-- What holds of every run of operations on a session over a port. -/
structure Lifecycle (patience : Nat) (port : Handler Port σ) (start : Attended σ) (ops : List Operation) :
    Prop where
  each : (operate patience port.recorded).EachStep
    (fun (s, _, log) op _ (s', _, log') => ∃ calls, log' = log ++ calls ∧ Orderly log s op calls s') ops start
  /-- An unload is for good: the session stays stopped, and neither an open nor a transfer follows. -/
  unloaded : ∀ before after, ops = before ++ .unload :: after →
    let unloaded := (operate patience port.recorded).after (before ++ [.unload]) start
    let last := (operate patience port.recorded).after ops start
    last.1.state = .stopped ∧ ∃ calls, dropped port last = unloaded.2.2 ++ calls ∧
      ∀ event ∈ calls, event.call ≠ .openEndpoints ∧ ¬ IsTransfer event.call
  /-- Dropping the session closes what is open, and does nothing else. -/
  dropped :
    let last := (operate patience port.recorded).after ops start
    opens (dropped port last) = closes (dropped port last) ∧
      ∃ calls, dropped port last = last.2.2 ++ calls ∧ ∀ event ∈ calls, event.call = .closeEndpoints

theorem dropped_moved (port : Handler Port σ) (s : Session) (x : σ) (log : List (Event Port)) :
    ∃ calls s', dropped port (s, x, log) = log ++ calls ∧ Moved s .stop calls s' ∧ s'.state ≠ .ready := by
  have hdrop : s.drop.Always fun calls _ => ∃ s', Moved s .stop calls s' ∧ s'.state ≠ .ready := by
    refine Dialogue.Always.bind_done (stop_moved s) fun calls s' h => ⟨s', h, ?_⟩
    cases h with
    | exchanged hop => exact hop.elim
    | idle hs => exact hs
    | stopped => nofun
  obtain ⟨calls, hlog, s', hmove, hs'⟩ := Dialogue.always_run hdrop port x log
  exact ⟨calls, s', hlog, hmove, hs'⟩

/-- One operation of a run keeps the endpoints accounted for, and does nothing out of order. -/
theorem operate_paired (port : Handler Port σ) (op : Operation) {s : Session} (x : σ)
    {log : List (Event Port)} (h : Paired s log) :
    ∃ calls answer s' x', operate patience port.recorded op (s, x, log) = (answer, s', x', log ++ calls) ∧
      Orderly log s op calls s' ∧ Paired s' (log ++ calls) := by
  obtain ⟨calls, answer, s', x', hnext, hmove⟩ := operate_always (serve_moved op s) port x log
  exact ⟨calls, answer, s', x', hnext, h.orderly hmove, h.moved hmove⟩

theorem after_paired (port : Handler Port σ) (x : σ) (config : Config) (ops : List Operation) :
    let last := (operate patience port.recorded).after ops (new config, x, [])
    Paired last.1 last.2.2 := by
  refine Handler.after_of_invariant (h := operate patience port.recorded)
    (fun a : Attended σ => Paired a.1 a.2.2) ?_ ops (new config, x, []) (paired_new config)
  rintro ⟨s, x, log⟩ op h
  obtain ⟨calls, answer, s', x', hnext, -, h'⟩ := operate_paired port op x h
  rw [hnext]
  exact h'

/-- Dropping a session closes its endpoints if they are open. -/
theorem Paired.dropped (port : Handler Port σ) {a : Attended σ} (h : Paired a.1 a.2.2) :
    opens (dropped port a) = closes (dropped port a) ∧
      ∃ calls, dropped port a = a.2.2 ++ calls ∧ ∀ event ∈ calls, event.call = .closeEndpoints := by
  obtain ⟨s, x, log⟩ := a
  obtain ⟨calls, s', hdropped, hmove, hs'⟩ := dropped_moved port s x log
  rw [hdropped]
  refine ⟨?_, calls, rfl, ?_⟩
  · rw [(h.moved hmove).count, if_neg hs', Nat.add_zero]
  · cases hmove with
    | exchanged hop => exact hop.elim
    | idle => exact fun _ h => (nomatch h)
    | stopped => simp

/-- A session that has been unloaded is stopped behind every further run, and its drop too is silent. -/
theorem dropped_of_unloaded (port : Handler Port σ) (a : Attended σ) (ops : List Operation) :
    let unloaded := (operate patience port.recorded .unload a).2
    let last := (operate patience port.recorded).after ops unloaded
    last.1.state = .stopped ∧ ∃ calls, dropped port last = unloaded.2.2 ++ calls ∧
      ∀ event ∈ calls, event.call ≠ .openEndpoints ∧ ¬ IsTransfer event.call := by
  obtain ⟨s, x, log⟩ := a
  obtain ⟨calls, answer, s', x', hnext, hmove⟩ := operate_always (serve_moved .unload s) port x log
  have hs' : s'.state = .stopped := by
    cases hmove with
    | exchanged hop => exact hop.elim
    | lost | unloaded => rfl
  rw [hnext]
  dsimp only
  have silent : ∀ op s, (serve patience op s).Always fun calls r => Silent s calls r.2 := fun op s =>
    (serve_moved op s).mono fun _ _ h => h.silent
  obtain ⟨calls', hlog, hrun⟩ := after_of_serve (R := Silent) (fun s hs => ⟨hs, fun _ h => (nomatch h)⟩)
    Silent.trans silent port ops s' x' (log ++ calls)
  generalize (operate patience port.recorded).after ops (s', x', log ++ calls) = last at hlog hrun
  obtain ⟨last, x'', log''⟩ := last
  obtain ⟨calls'', s'', hdropped, hend, -⟩ := dropped_moved port last x'' log''
  obtain ⟨hlast, hcalls'⟩ := hrun hs'
  refine ⟨hlast, calls' ++ calls'', ?_, ?_⟩
  · rw [hdropped, ← List.append_assoc]
    exact congrArg (· ++ calls'') hlog
  · exact fun event he => (List.mem_append.mp he).elim (hcalls' event) ((hend.silent hlast).2 event)

/-- **The life of a session.** Whatever the port answers, over every run of operations and the drop behind
it, opens and closes are paired, transfers are made in a ready session only, an exchange or an open that
fails leaves the session where it was, and an unload is for good. -/
theorem lifecycle (patience : Nat) (port : Handler Port σ) (x : σ) (config : Config) (ops : List Operation) :
    Lifecycle patience port (new config, x, []) ops where
  each := by
    refine Handler.eachStep_of_step (h := operate patience port.recorded)
      (fun a : Attended σ => Paired a.1 a.2.2) ?_ ops (new config, x, []) (paired_new config)
    rintro ⟨s, x, log⟩ op h
    obtain ⟨calls, answer, s', x', hnext, horder, h'⟩ := operate_paired port op x h
    rw [hnext]
    exact ⟨⟨calls, rfl, horder⟩, h'⟩
  unloaded before after hops := by
    let unloading := (operate patience port.recorded).after before (new config, x, [])
    have hlast : (operate patience port.recorded).after ops (new config, x, []) =
        (operate patience port.recorded).after after (operate patience port.recorded .unload unloading).2 := by
      rw [hops, Handler.after_append]
      rfl
    rw [Handler.after_append, hlast]
    exact dropped_of_unloaded port _ after
  dropped := (after_paired port x config ops).dropped port

end

end ScopeLink.Session
