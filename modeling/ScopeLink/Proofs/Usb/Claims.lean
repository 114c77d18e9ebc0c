import ScopeLink.Usb.Link
import ScopeLink.Simulated.Bus
import ScopeLink.Proofs.Lifecycle
/-!
# When an interface is held

A session over a link claims its interface when it starts and gives it back when it stops. Starting
takes four calls on the host after which it may fail, and only the first of them is the claim: a
start that fails behind a claim leaves the interface held, and as the session is not ready then,
neither stopping nor unloading gives it back.

`Served` says all that an operation can do to session and link: `Started` and `Stopped` tell it of
the steps in the life of a session, and an exchange neither claims nor releases. From it
`unheld_outside_ready_iff`: no interface is held outside the ready state exactly in the runs in which
no start fails behind its claim.
-/

namespace ScopeLink.Usb

/-! ## Held interfaces -/

/-- The interface was claimed, and has not been released since. -/
def Held (device : Nat) (interface : UInt8) (log : List (Event Host)) : Prop :=
  ∃ before after, log = before ++ ⟨.claim device interface, .ok ()⟩ :: after ∧
    ∀ event ∈ after, event.call ≠ .release device interface

variable {device : Nat} {interface : UInt8}

/-- The latest call decides, if it is about the interface. -/
theorem held_snoc {log : List (Event Host)} {event : Event Host} :
    Held device interface (log ++ [event]) ↔
      event = ⟨.claim device interface, .ok ()⟩ ∨
        Held device interface log ∧ event.call ≠ .release device interface := lasts_snoc

/-- A call that takes nothing and gives nothing back: neither an interface nor its kernel driver. -/
def Host.Call.IsOther : Host.Call → Prop
  | .claim .. | .release .. | .detachDriver .. | .attachDriver .. => False
  | _ => True

theorem held_append_of_other {log calls : List (Event Host)} (other : ∀ event ∈ calls, event.call.IsOther) :
    Held device interface (log ++ calls) ↔ Held device interface log := by
  refine lasts_append_of_other fun event he => ?_
  have hevent := other event he
  constructor
  · rintro rfl
    exact hevent
  · intro h
    rw [h] at hevent
    exact hevent

theorem held_claim {log calls : List (Event Host)} (other : ∀ event ∈ calls, event.call.IsOther) :
    Held device interface (log ++ ⟨.claim device interface, .ok ()⟩ :: calls) := by
  rw [List.append_cons, held_append_of_other other]
  exact held_snoc.mpr (.inl rfl)

theorem held_refused {log : List (Event Host)} {err : UsbError} :
    Held device interface (log ++ [⟨.claim device interface, .error err⟩]) ↔
      Held device interface log := by
  rw [held_snoc]
  constructor
  · rintro (h | ⟨h, -⟩)
    · cases h
    · exact h
  · exact fun h => .inr ⟨h, by simp⟩

theorem not_held_release {log : List (Event Host)} {answer : Except UsbError Unit} :
    ¬ Held device interface (log ++ [⟨.release device interface, answer⟩]) := by
  rw [held_snoc]
  rintro (h | ⟨-, h⟩)
  · cases h
  · exact h rfl

/-! ## The life of a session over a link -/

open Session (Operation Plain serve operate usualPatience)

variable {patience : Nat}

/-- Opening the endpoints ends in a claim that is refused, or goes on behind one that is not. -/
inductive Opened (l : Link) : List (Event Host) → Except TransferError Unit → Link → Prop
  | refused {e err} : Opened l [⟨.claim l.device l.mode.interface, .error e⟩] (.error err) l
  | claimed {calls answer} : (∀ event ∈ calls, event.call.IsOther) →
    Opened l (⟨.claim l.device l.mode.interface, .ok ()⟩ :: calls) answer { l with claimed := true }

theorem always_openEndpoints (l : Link) :
    l.openEndpoints.Always fun calls r => Opened l calls r.1 r.2 := by
  unfold Link.openEndpoints
  rw [Host.ask_bind]
  rintro (e | ⟨⟩)
  · exact .refused
  have other : ∀ {calls : List (Event Host)}, (∀ event ∈ calls, event.call.IsOther) →
      ∀ answer, Opened l (⟨.claim l.device l.mode.interface, .ok ()⟩ :: calls) answer
        { l with claimed := true } := fun h _ => .claimed h
  dsimp only
  rw [Host.ask_bind]
  rintro (e | ⟨⟩)
  · exact other (by simp [Host.Call.IsOther]) _
  dsimp only
  rw [Host.ask_bind]
  rintro (e | ⟨⟩)
  · exact other (by simp [Host.Call.IsOther]) _
  dsimp only
  rw [Host.ask_bind]
  rintro (e | ⟨⟩)
  · exact other (by simp [Host.Call.IsOther]) _
  · exact other (by simp [Host.Call.IsOther]) _

/-- All that a start can do to session and link, with the calls it makes on the host: nothing, if the
session is not active; a claim that is refused; a claim and a failure behind it; or everything. -/
inductive Started (s : Session) (l : Link) :
    List (Event Host) → Except SessionError Unit → Session → Link → Prop
  | idle {answer} : s.state ≠ .active → Started s l [] answer s l
  | refused {e err} : s.state = .active →
    Started s l [⟨.claim l.device l.mode.interface, .error e⟩] (.error err) s l
  | spoilt {calls err} : s.state = .active → (∀ event ∈ calls, event.call.IsOther) →
    Started s l (⟨.claim l.device l.mode.interface, .ok ()⟩ :: calls) (.error err) s
      { l with claimed := true }
  | opened {calls} : s.state = .active → (∀ event ∈ calls, event.call.IsOther) →
    Started s l (⟨.claim l.device l.mode.interface, .ok ()⟩ :: calls) (.ok ())
      { s with state := .ready } { l with claimed := true }

theorem lower_start (s : Session) (l : Link) :
    (s.start.lower Link.serve l).Always fun calls r => Started s l calls r.1.1 r.1.2 r.2 := by
  unfold Session.start
  cases hs : s.state with
  | ready => exact .idle (by simp [hs])
  | stopped => exact .idle (by simp [hs])
  | active =>
    rw [Port.openEndpoints_bind, Dialogue.lower]
    refine Dialogue.always_bind.mpr ((always_openEndpoints l).mono ?_)
    rintro calls ⟨answer, l'⟩ (_ | other)
    · exact .refused hs
    · -- the rest of a start asks nothing more
      cases answer with
      | error e =>
        show Started s l (_ ++ []) _ _ _
        rw [List.append_nil]
        exact .spoilt hs other
      | ok u =>
        show Started s l (_ ++ []) _ _ _
        rw [List.append_nil]
        exact .opened hs other

/-- All that a stop can do: nothing, if the session is not ready, and a release of what is claimed. -/
inductive Stopped (s : Session) (l : Link) : List (Event Host) → Session → Link → Prop
  | idle : s.state ≠ .ready → Stopped s l [] s l
  | unclaimed : s.state = .ready → l.claimed = false → Stopped s l [] { s with state := .active } l
  | released {answer} : s.state = .ready →
    Stopped s l [⟨.release l.device l.mode.interface, answer⟩] { s with state := .active }
      { l with claimed := false }

theorem lower_stop (s : Session) (l : Link) :
    (s.stop.lower Link.serve l).Always fun calls r => Stopped s l calls r.1 r.2 := by
  unfold Session.stop
  cases hs : s.state with
  | active => exact .idle (by simp [hs])
  | stopped => exact .idle (by simp [hs])
  | ready =>
    rw [Port.closeEndpoints_bind, Dialogue.lower, Link.serve, Link.release]
    cases hl : l.claimed with
    | false => exact .unclaimed hs hl
    | true => exact fun answer => .released hs

/-- Unloading is stopping, for good. -/
theorem lower_unload (s : Session) (l : Link) :
    (s.unload.lower Link.serve l).Always fun calls r =>
      ∃ s', Stopped s l calls s' r.2 ∧ r.1 = { s' with state := .stopped } := by
  unfold Session.unload
  rw [Dialogue.lower_bind]
  exact (lower_stop s l).bind_done fun _ _ h => ⟨_, h, rfl⟩

theorem serve_plain {c : Port.Call} (hc : Plain c) (l : Link) :
    (Link.serve c l).Always fun calls r => (∀ event ∈ calls, event.call.IsOther) ∧ r.2 = l := by
  cases c with
  | openEndpoints => exact hc.elim
  | closeEndpoints => exact hc.elim
  | maxPacket => exact ⟨fun _ h => (nomatch h), rfl⟩
  | bulkOut data timeout => exact fun answer => ⟨by simp [Host.Call.IsOther], rfl⟩
  | bulkIn room timeout => exact fun answer => ⟨by simp [Host.Call.IsOther], rfl⟩
  | controlIn request value room timeout => exact fun answer => ⟨by simp [Host.Call.IsOther], rfl⟩

/-- A dialogue that makes plain calls on the port makes others on the host, and keeps the link. -/
theorem lower_plain {α : Type} {d : Dialogue Port α} {Q : α → Prop}
    (h : d.Always fun (log : List (Event Port)) a => (∀ event ∈ log, Plain event.call) ∧ Q a)
    (l : Link) :
    (d.lower Link.serve l).Always fun (calls : List (Event Host)) r =>
      (∀ event ∈ calls, event.call.IsOther) ∧ r.2 = l ∧ Q r.1 := by
  induction d generalizing Q l with
  | done a => exact ⟨fun _ h => (nomatch h), rfl, h.2⟩
  | call c next ih =>
    rw [Dialogue.lower, Dialogue.always_bind]
    by_cases hc : Plain c
    · refine (serve_plain hc l).mono ?_
      rintro calls ⟨answer, l'⟩ ⟨hcalls, rfl⟩
      have hnext := ih answer ((h answer).mono fun log a hlog =>
        ⟨fun event he => hlog.1 event (List.mem_cons_of_mem _ he), hlog.2⟩) l'
      refine hnext.mono fun calls' r hr => ⟨fun event he => ?_, hr.2⟩
      exact (List.mem_append.mp he).elim (hcalls event) (hr.1 event)
    · -- there is no way through a call that is not plain
      refine Dialogue.always_of_forall fun calls r => ?_
      have hnext := ih r.1 (Q := fun _ => False) ((h r.1).mono fun log a hlog =>
        absurd (hlog.1 _ List.mem_cons_self) hc) r.2
      exact hnext.mono fun _ _ hr => hr.2.2.elim

/-- An exchange neither claims nor releases, and keeps session and link where they stand. -/
theorem lower_exchange {op : Operation} (hop : op.IsExchange) (s : Session) (l : Link) :
    ((serve patience op s).lower Link.serve l).Always fun (calls : List (Event Host)) r =>
      (∀ event ∈ calls, event.call.IsOther) ∧ r.2 = l ∧ r.1.2.state = s.state :=
  lower_plain ((Session.conducted_carried.exchange op hop s).mono fun _ _ h => ⟨h.plain, h.state⟩) l

/-- All that an operation can do to session and link, with the calls it makes on the host. -/
inductive Served (s : Session) (l : Link) :
    (op : Operation) → List (Event Host) → op.Answer → Session → Link → Prop
  | exchanged {op calls answer s'} : op.IsExchange → (∀ event ∈ calls, event.call.IsOther) →
    s'.state = s.state → Served s l op calls answer s' l
  | started {calls answer s' l'} : Started s l calls answer s' l' → Served s l .start calls answer s' l'
  | stopped {calls s' l'} : Stopped s l calls s' l' → Served s l .stop calls () s' l'
  | unloaded {calls s' l'} : Stopped s l calls s' l' →
    Served s l .unload calls () { s' with state := .stopped } l'

theorem lower_serve (patience : Nat) (op : Operation) (s : Session) (l : Link) :
    ((serve patience op s).lower Link.serve l).Always fun calls r =>
      Served s l op calls r.1.1 r.1.2 r.2 := by
  by_cases hop : op.IsExchange
  · refine (lower_exchange hop s l).mono ?_
    rintro calls ⟨⟨answer, s'⟩, l'⟩ ⟨other, rfl, hstate⟩
    exact .exchanged hop other hstate
  cases op with
  | start => exact (lower_start s l).mono fun _ _ h => .started h
  | stop =>
    rw [serve, Dialogue.map_def, Dialogue.lower_bind]
    exact (lower_stop s l).bind_done fun _ _ h => .stopped h
  | unload =>
    rw [serve, Dialogue.map_def, Dialogue.lower_bind]
    refine (lower_unload s l).bind_done ?_
    rintro calls ⟨s', l'⟩ ⟨s'', h, rfl⟩
    exact .unloaded h
  | _ => exact absurd trivial hop

/-! ## Whole runs -/

section

variable {σ : Type}

/-- A session, the link under it, and the host with a log of the calls on it. -/
abbrev Attached (σ : Type) := Session × Link × σ × List (Event Host)

/-- Outside the ready state the interface is not held. -/
def Unheld : Attached σ → (op : Operation) → op.Answer → Attached σ → Prop
  | _, _, _, (s', l', _, log') => s'.state ≠ .ready → ¬ Held l'.device l'.mode.interface log'

/-- A start fails behind its claim. -/
def Spoilt : Attached σ → (op : Operation) → op.Answer → Attached σ → Prop
  | (_, l, _, log), .start, .error _, (_, _, _, log') =>
    ∃ calls, log' = log ++ calls ∧ ⟨.claim l.device l.mode.interface, .ok ()⟩ ∈ calls
  | _, _, _, _ => False

/-- The link knows whether it holds the interface, and does so in a ready session. -/
structure Accounted (s : Session) (l : Link) (log : List (Event Host)) : Prop where
  held : Held l.device l.mode.interface log ↔ l.claimed = true
  ready : l.claimed = true ↔ s.state = .ready

theorem Accounted.not_held {s : Session} {l : Link} {log : List (Event Host)} (h : Accounted s l log)
    (notReady : s.state ≠ .ready) : ¬ Held l.device l.mode.interface log :=
  fun held => notReady (h.ready.mp (h.held.mp held))

theorem Accounted.stop {s s' : Session} {l l' : Link} {log calls : List (Event Host)}
    (h : Accounted s l log) (hstop : Stopped s l calls s' l') :
    Accounted s' l' (log ++ calls) ∧ s'.state ≠ .ready := by
  cases hstop with
  | idle hs => exact ⟨by rw [List.append_nil]; exact h, hs⟩
  | unclaimed hs hl => exact absurd ((h.ready.mpr hs).symm.trans hl) (by decide)
  | released hs =>
    exact ⟨⟨iff_of_false not_held_release Bool.false_ne_true, iff_of_false Bool.false_ne_true nofun⟩, nofun⟩

/-- An operation leaves the interface unheld outside the ready state unless it is a start that fails
behind its claim, and then session and link keep account of it. -/
structure Accountable (a : Attached σ) (op : Operation) (answer : op.Answer) (b : Attached σ) : Prop where
  iff : Unheld a op answer b ↔ ¬ Spoilt a op answer b
  accounted : Unheld a op answer b → Accounted b.1 b.2.1 b.2.2.2

theorem Accounted.accountable {a : Attached σ} {op : Operation} {answer : op.Answer} {s : Session} {l : Link}
    {log : List (Event Host)} (x : σ) (h : Accounted s l log) (sound : ¬ Spoilt a op answer (s, l, x, log)) :
    Accountable a op answer (s, l, x, log) :=
  ⟨⟨fun _ => sound, fun _ => h.not_held⟩, fun _ => h⟩

theorem accountable_start {s s' : Session} {l l' : Link} {log calls : List (Event Host)}
    {answer : Except SessionError Unit} (x x' : σ) (h : Accounted s l log)
    (hstart : Started s l calls answer s' l') :
    Accountable (s, l, x, log) .start answer (s', l', x', log ++ calls) := by
  cases hstart with
  | idle hs =>
    refine Accounted.accountable x' (by rw [List.append_nil]; exact h) ?_
    cases answer with
    | ok u => exact id
    | error e =>
      rintro ⟨calls, hcalls, hmem⟩
      rw [← List.append_cancel_left hcalls] at hmem
      cases hmem
  | refused hs =>
    refine Accounted.accountable x' ⟨held_refused.trans h.held, h.ready⟩ ?_
    rintro ⟨calls, hcalls, hmem⟩
    rw [← List.append_cancel_left hcalls, List.mem_singleton] at hmem
    cases hmem
  | spoilt hs other =>
    -- nothing releases the interface behind the claim, and the session is not ready
    have hheld : Held l.device l.mode.interface (log ++ ⟨.claim l.device l.mode.interface, .ok ()⟩ :: _) :=
      held_claim other
    have notReady : s.state ≠ .ready := by
      rw [hs]
      decide
    exact ⟨⟨fun hu => absurd hheld (hu notReady), fun hn => absurd ⟨_, rfl, List.mem_cons_self⟩ hn⟩,
      fun hu => absurd hheld (hu notReady)⟩
  | opened hs other =>
    exact Accounted.accountable x' ⟨iff_of_true (held_claim other) rfl, iff_of_true rfl rfl⟩ id

/-- An operation on a session over a link does what it can do to session and link. -/
theorem operate_served (patience : Nat) (host : Handler Host σ) (op : Operation) (s : Session) (l : Link) (x : σ)
    (log : List (Event Host)) :
    ∃ calls answer s' l' x',
      operate patience (Link.port host.recorded) op (s, l, x, log) = (answer, s', l', x', log ++ calls) ∧
        Served s l op calls answer s' l' := by
  obtain ⟨calls, hlog, hserved⟩ := Dialogue.always_run (lower_serve patience op s l) host x log
  have hover := Session.operate_apply patience (Link.port host.recorded) op s (l, x, log)
  rw [Link.port, Dialogue.run_through] at hover
  generalize ((serve patience op s).lower Link.serve l).run host.recorded (x, log) = r at hlog hserved hover
  obtain ⟨⟨⟨answer, s'⟩, l'⟩, x', log'⟩ := r
  obtain rfl : log' = log ++ calls := hlog
  exact ⟨calls, answer, s', l', x', hover, hserved⟩

/-- Every operation is accountable: opening claims, closing releases, and the others do neither. -/
theorem accountable_step (host : Handler Host σ) (op : Operation) {s : Session} {l : Link} {x : σ}
    {log : List (Event Host)} (h : Accounted s l log) :
    let next := operate patience (Link.port host.recorded) op (s, l, x, log)
    Accountable (s, l, x, log) op next.1 next.2 := by
  obtain ⟨calls, answer, s', l', x', hnext, hserved⟩ := operate_served patience host op s l x log
  rw [hnext]
  cases hserved with
  | exchanged hop other hstate =>
    refine Accounted.accountable x' ⟨(held_append_of_other other).trans h.held, by rw [hstate]; exact h.ready⟩ ?_
    cases op with
    | start => exact hop.elim
    | _ => exact id
  | started hstart => exact accountable_start x x' h hstart
  | stopped hstop => exact (h.stop hstop).1.accountable x' id
  | unloaded hstop =>
    obtain ⟨h', notReady⟩ := h.stop hstop
    exact Accounted.accountable x' ⟨h'.held, h'.ready.trans (iff_of_false notReady nofun)⟩ id

/-- **When no interface is held outside the ready state.** Whatever the host answers, a run of
operations on a session over a link that has claimed nothing leaves the interface unheld whenever the
session is not ready exactly if no start of the run fails behind its claim. -/
theorem unheld_outside_ready_iff (patience : Nat) (host : Handler Host σ) (x : σ) {l : Link}
    (fresh : l.claimed = false) (config : Config) (ops : List Operation) :
    (operate patience (Link.port host.recorded)).EachStep Unheld ops (Session.new config, l, x, []) ↔
      (operate patience (Link.port host.recorded)).EachStep (fun a op answer b => ¬ Spoilt a op answer b) ops
        (Session.new config, l, x, []) := by
  have hstart : Accounted (Session.new config) l [] :=
    ⟨iff_of_false not_lasts_nil (by rw [fresh]; decide), iff_of_false (by rw [fresh]; decide) nofun⟩
  refine Handler.eachStep_congr (h := operate patience (Link.port host.recorded))
    (fun y => Accounted y.1 y.2.1 y.2.2.2) ?_ ?_ ops _ hstart
  · rintro ⟨s, l, x, log⟩ op h
    exact (accountable_step host op h).iff
  · rintro ⟨s, l, x, log⟩ op h
    exact (accountable_step host op h).accounted

theorem unheld_outside_ready_around_use :
    let l : Link := {
      device := 0, mode := ⟨1, 0, 0⟩, driverDetached := false
      endpoints := ⟨⟨1, 2, 64⟩, ⟨130, 2, 64⟩, none⟩ }
    let bus : Simulated.Bus := { devices := [{ info := ⟨⟨1689, 1040⟩, ⟨1, 2⟩⟩ }] }
    l.claimed = false ∧ (operate usualPatience (Link.port Simulated.Bus.host.recorded)).EachStep Unheld
      [.start, .stop] (Session.new { bufferSize := 16 }, l, bus, []) := by
  intro l bus
  refine ⟨rfl, (unheld_outside_ready_iff usualPatience Simulated.Bus.host bus rfl _ _).mpr ?_⟩
  exact ⟨fun h => h, fun h => h, trivial⟩

/-- Selecting the setting fails, and unloading does not give back what was claimed for it. -/
theorem held_behind_failed_start :
    let l : Link := {
      device := 0, mode := ⟨1, 0, 0⟩, driverDetached := false
      endpoints := ⟨⟨1, 2, 64⟩, ⟨130, 2, 64⟩, none⟩ }
    let bus : Simulated.Bus := {
      devices := [{ info := ⟨⟨1689, 1040⟩, ⟨1, 2⟩⟩, faults := [("set_alt", -9)] }] }
    let last := (operate usualPatience (Link.port Simulated.Bus.host.recorded)).after [.start, .unload]
      (Session.new { bufferSize := 16 }, l, bus, [])
    last.1.state ≠ .ready ∧ Held l.device l.mode.interface last.2.2.2 := by
  intro l bus last
  refine ⟨by decide, [], [⟨.setAlternate 0 0 0, .error .pipe⟩], rfl, ?_⟩
  intro event h
  rw [List.mem_singleton.mp h]
  simp

end

end ScopeLink.Usb
