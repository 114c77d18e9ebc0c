import ScopeLink.Proofs.Usb.Claims
/-!
# What a connection takes and gives back

A connection takes two things from the host: the kernel driver of its interface, which it detaches
when it connects and attaches again when it ends, and the interface itself, which it claims when the
session starts and releases when the session stops.

`uses` is what the calls of a log take and give back. Over the life of a connection that was made, what
is taken is given back (`resources_balanced`). One that fails behind the detachment of the driver has no
end that could attach it again: `drivers_kept_iff`.
-/

namespace ScopeLink.Usb

/-! ## Uses -/

/-- Something taken, or tried to be given back. -/
inductive Use where
  | detached (device : Nat) (interface : UInt8)
  | claimed (device : Nat) (interface : UInt8)
  | released (device : Nat) (interface : UInt8)
  | attached (device : Nat) (interface : UInt8)
deriving DecidableEq, Repr

/-- A detachment or a claim takes something if it succeeds; a release or an attachment counts whatever
comes of it. -/
def Use.ofEvent? : Event Host → Option Use
  | ⟨.detachDriver device interface, .ok ()⟩ => some (.detached device interface)
  | ⟨.claim device interface, .ok ()⟩ => some (.claimed device interface)
  | ⟨.release device interface, _⟩ => some (.released device interface)
  | ⟨.attachDriver device interface, _⟩ => some (.attached device interface)
  | _ => none

def uses (log : List (Event Host)) : List Use := log.filterMap Use.ofEvent?

@[simp] theorem uses_append (log log' : List (Event Host)) : uses (log ++ log') = uses log ++ uses log' :=
  List.filterMap_append

theorem uses_of_other {calls : List (Event Host)} (other : ∀ event ∈ calls, event.call.IsOther) :
    uses calls = [] := by
  refine List.filterMap_eq_nil_iff.mpr fun event he => ?_
  have hevent := other event he
  obtain ⟨call, answer⟩ := event
  cases call with
  | claim | release | detachDriver | attachDriver => exact hevent.elim
  | _ => rfl

/-! ## Dialogues that take nothing -/

variable {α β : Type}

/-- A dialogue that neither takes nor gives back anything. -/
abbrev Idle (d : Dialogue Host α) : Prop := d.Always fun calls _ => uses calls = []

/-- What goes before without a use does not count. -/
theorem Idle.before {d : Dialogue Host α} {f : α → Dialogue Host β} {P : List Use → β → Prop} (hd : Idle d)
    (hf : ∀ a, (f a).Always fun calls b => P (uses calls) b) :
    (d >>= f).Always fun calls b => P (uses calls) b := by
  rw [Dialogue.always_bind]
  refine hd.mono fun calls a hcalls => (hf a).mono fun calls' b hb => ?_
  rwa [uses_append, hcalls, List.nil_append]

theorem Idle.bind {d : Dialogue Host α} {f : α → Dialogue Host β} (hd : Idle d) (hf : ∀ a, Idle (f a)) :
    Idle (d >>= f) := hd.before (P := fun taken _ => taken = []) hf

theorem idle_ask {c : Host.Call} (other : c.IsOther) : Idle (Host.ask c) := fun answer =>
  uses_of_other fun event he => by rwa [List.mem_singleton.mp he]

theorem idle_ask_bind {c : Host.Call} {f : c.Answer → Dialogue Host α} (other : c.IsOther)
    (hf : ∀ answer, Idle (f answer)) : Idle (Host.ask c >>= f) := (idle_ask other).bind hf

theorem idle_anyOffers (device : Nat) : ∀ indices : List Nat, Idle (anyOffers device indices)
  | [] => rfl
  | index :: rest => by
    unfold anyOffers
    refine idle_ask_bind trivial fun answer => ?_
    cases answer with
    | error e => exact idle_anyOffers device rest
    | ok c =>
      dsimp only
      split
      · rfl
      · exact idle_anyOffers device rest

theorem idle_examine (device : Nat) (location : Location) : Idle (examine device location) := by
  unfold examine
  refine idle_ask_bind trivial fun answer => ?_
  cases answer with
  | error e => rfl
  | ok d => exact (idle_anyOffers device _).bind fun offers => by cases offers <;> rfl

theorem idle_openFirst (filter : Filter) : ∀ (device : Nat) (locations : List Location),
    Idle (openFirst filter device locations)
  | _, [] => rfl
  | device, location :: rest => by
    unfold openFirst
    refine (idle_examine device location).bind fun found => ?_
    cases found with
    | none => exact idle_openFirst filter (device + 1) rest
    | some info =>
      dsimp only
      split
      · refine idle_ask_bind trivial fun answer => ?_
        cases answer with
        | error e => exact idle_openFirst filter (device + 1) rest
        | ok u => rfl
      · exact idle_openFirst filter (device + 1) rest

theorem idle_openDevice (filter : Filter) : Idle (openDevice filter) := by
  unfold openDevice
  refine idle_ask_bind trivial fun answer => ?_
  cases answer with
  | error e => rfl
  | ok u =>
    refine idle_ask_bind trivial fun answer => ?_
    cases answer with
    | error e => rfl
    | ok locations => exact (idle_openFirst filter 0 locations).bind fun found => by cases found <;> rfl

theorem idle_firstMode (device : Nat) : ∀ indices : List Nat, Idle (firstMode device indices)
  | [] => rfl
  | index :: rest => by
    unfold firstMode
    refine idle_ask_bind trivial fun answer => ?_
    cases answer with
    | error e => rfl
    | ok c =>
      dsimp only
      split
      · rfl
      · exact idle_firstMode device rest

theorem idle_selectMode (device : Nat) : Idle (selectMode device) := by
  unfold selectMode
  refine idle_ask_bind trivial fun answer => ?_
  cases answer with
  | error e => rfl
  | ok d => exact idle_firstMode device _

theorem idle_findConfiguration (device : Nat) (number : UInt8) : ∀ indices : List Nat,
    Idle (findConfiguration device number indices)
  | [] => rfl
  | index :: rest => by
    unfold findConfiguration
    refine idle_ask_bind trivial fun answer => ?_
    cases answer with
    | error e => rfl
    | ok c =>
      dsimp only
      split
      · rfl
      · exact idle_findConfiguration device number rest

theorem idle_findEndpoints (device : Nat) (mode : Mode) : Idle (findEndpoints device mode) := by
  unfold findEndpoints
  refine idle_ask_bind trivial fun answer => ?_
  cases answer with
  | error e => rfl
  | ok d => exact (idle_findConfiguration device _ _).bind fun found => by cases found <;> rfl

/-! ## Connecting -/

/-- What connecting took, for a link that was made. -/
def Link.taken (l : Link) : List Use :=
  if l.driverDetached then [.detached l.device l.mode.interface] else []

/-- What ending the link has to give back of it. -/
def Link.returned (l : Link) : List Use :=
  if l.driverDetached then [.attached l.device l.mode.interface] else []

/-- All that connecting can take: the driver of the interface of the link, which notes it, or of that of a
link which is not made. -/
def Connected (taken : List Use) : Outcome DiscoveryError Link → Prop
  | .ok l => taken = l.taken ∧ l.claimed = false
  | .failed _ | .halted _ => taken = [] ∨ ∃ device interface, taken = [.detached device interface]

theorem detachDriver_uses (device : Nat) (interface : UInt8) :
    (detachDriver device interface).Always fun calls r => uses calls =
      match r with
      | .ok true => [.detached device interface]
      | _ => [] := by
  unfold detachDriver
  rw [Host.ask_bind]
  rintro (e | active)
  · rfl
  cases active with
  | false => rfl
  | true =>
    dsimp only
    rw [Host.ask_bind]
    rintro (e | ⟨⟩) <;> rfl

theorem prepare_connected (device : Nat) :
    (prepare device).Always fun calls r => Connected (uses calls) r := by
  unfold prepare
  refine (idle_selectMode device).before (P := Connected) fun mode => ?_
  cases mode with
  | error e => exact .inl rfl
  | ok mode =>
    dsimp only
    rw [Dialogue.always_bind]
    refine (detachDriver_uses device mode.interface).mono fun calls detached htaken => ?_
    simp only [uses_append]
    cases detached with
    | error e =>
      rw [htaken]
      exact .inl rfl
    | ok driverDetached =>
      -- nothing more is taken, and the link notes whether the driver was
      have hlink (endpoints : Endpoints) : Connected (uses calls ++ [])
          (.ok { device, mode, driverDetached, endpoints }) := by
        rw [htaken]
        cases driverDetached <;> exact ⟨rfl, rfl⟩
      have hlost : uses calls ++ [] = [] ∨
          ∃ device interface, uses calls ++ [] = [.detached device interface] := by
        rw [htaken]
        cases driverDetached with
        | false => exact .inl rfl
        | true => exact .inr ⟨_, _, rfl⟩
      refine (idle_findEndpoints device mode).before (P := fun taken => Connected (uses calls ++ taken))
        fun found => ?_
      cases found with
      | failed e | halted h => exact hlost
      | ok endpoints =>
        have other : (Host.Call.setConfiguration device mode.configuration).IsOther := trivial
        refine (idle_ask other).before (P := fun taken => Connected (uses calls ++ taken)) fun answer => ?_
        cases answer with
        | error e => exact hlost
        | ok u => exact hlink endpoints

theorem connect_connected (filter : Filter) :
    (connect filter).Always fun calls r => Connected (uses calls) r := by
  unfold connect
  refine (idle_openDevice filter).before (P := Connected) fun opened => ?_
  cases opened with
  | error e => exact .inl rfl
  | ok device =>
    dsimp only
    rw [Dialogue.always_bind]
    refine (prepare_connected device).mono fun calls r hr => ?_
    simp only [uses_append]
    -- closing the device is no use of it
    rw [← List.append_nil (uses calls)] at hr
    cases r with
    | ok l => exact hr
    | failed e => exact fun _ => hr
    | halted h => exact fun _ => hr

/-! ## Behind a failed connection -/

/-- The interfaces with a kernel driver behind these uses, out of those that had one before. -/
def drivers (had : Nat → UInt8 → Prop) : List Use → Nat → UInt8 → Prop
  | [] => had
  | .detached device interface :: rest => drivers (fun d i => had d i ∧ ¬ (d = device ∧ i = interface)) rest
  | .attached device interface :: rest => drivers (fun d i => had d i ∨ d = device ∧ i = interface) rest
  | _ :: rest => drivers had rest

theorem mem_uses_detached {log : List (Event Host)} {device : Nat} {interface : UInt8} :
    .detached device interface ∈ uses log ↔ ⟨.detachDriver device interface, .ok ()⟩ ∈ log := by
  rw [uses, List.mem_filterMap]
  constructor
  · rintro ⟨⟨call, answer⟩, hmem, huse⟩
    cases call with
    | detachDriver d i =>
      cases answer with
      | error e => cases huse
      | ok u =>
        cases huse
        exact hmem
    | claim d i => cases answer <;> cases huse
    | _ => cases huse
  · exact fun hmem => ⟨_, hmem, rfl⟩

/-- A connection that fails leaves exactly the drivers that it has not detached. -/
theorem Connected.drivers {taken : List Use} {e : DiscoveryError} (h : Connected taken (.failed e))
    (had : Nat → UInt8 → Prop) (device : Nat) (interface : UInt8) :
    Usb.drivers had taken device interface ↔ had device interface ∧ .detached device interface ∉ taken := by
  obtain rfl | ⟨d, i, rfl⟩ := h
  · simp [Usb.drivers]
  · simp [Usb.drivers]

section

variable {σ : Type}

/-- **When a failed connection gives the drivers back.** Every interface that had a kernel driver when
connecting began has one when it has failed exactly if no such driver was detached: a failure behind the
detachment gives nothing back. -/
theorem drivers_kept_iff (host : Handler Host σ) {x x' : σ} {filter : Filter} {e : DiscoveryError}
    {log : List (Event Host)}
    (failed : (connect filter).run host.recorded (x, []) = (.failed e, x', log)) (had : Nat → UInt8 → Prop) :
    (∀ device interface, had device interface → drivers had (uses log) device interface) ↔
      ∀ device interface, had device interface →
        ⟨.detachDriver device interface, .ok ()⟩ ∉ log := by
  obtain ⟨calls, hlog, hconnected⟩ := Dialogue.always_run (connect_connected filter) host x []
  rw [failed] at hlog hconnected
  obtain rfl : log = calls := hlog
  constructor
  · intro kept device interface hhad hmem
    exact ((hconnected.drivers had device interface).mp (kept device interface hhad)).2
      (mem_uses_detached.mpr hmem)
  · intro undetached device interface hhad
    refine (hconnected.drivers had device interface).mpr ⟨hhad, fun hmem => ?_⟩
    exact undetached device interface hhad (mem_uses_detached.mp hmem)

theorem drivers_kept_by_refused_detachment :
    let bus : Simulated.Bus := {
      devices := [{
        info := ⟨⟨1689, 1040⟩, ⟨1, 2⟩⟩, kernelDriver := true, faults := [("detach", -3)]
        configurations := [.ok ⟨1, [[⟨0, 0, 254, 3, 0, [⟨1, 2, 64⟩, ⟨130, 2, 64⟩]⟩]]⟩] }] }
    let had := fun device interface => device = 0 ∧ interface = 0
    let last := (connect .any).run Simulated.Bus.host.recorded (bus, [])
    last.1 = .failed (.usb .access) ∧
      ∀ device interface, had device interface → drivers had (uses last.2.2) device interface := by
  intro bus had last
  have failed : last = (.failed (.usb .access), last.2) := rfl
  refine ⟨rfl, (drivers_kept_iff Simulated.Bus.host failed had).mpr ?_⟩
  intro device interface _ hmem
  have hnone : uses last.2.2 = [] := by decide +kernel
  have hused : .detached device interface ∈ uses last.2.2 := mem_uses_detached.mpr hmem
  rw [hnone] at hused
  cases hused

/-- The configuration cannot be set, and the driver that was detached for it stays away. -/
theorem driver_lost_behind_failed_connection :
    let bus : Simulated.Bus := {
      devices := [{
        info := ⟨⟨1689, 1040⟩, ⟨1, 2⟩⟩, kernelDriver := true, faults := [("set_config", -5)]
        configurations := [.ok ⟨1, [[⟨0, 0, 254, 3, 0, [⟨1, 2, 64⟩, ⟨130, 2, 64⟩]⟩]]⟩] }] }
    let last := (connect .any).run Simulated.Bus.host.recorded (bus, [])
    last.1 = .failed (.usb .notFound) ∧
      bus.devices.map (·.kernelDriver) = [true] ∧ last.2.1.devices.map (·.kernelDriver) = [false] := by
  intro bus last
  exact ⟨rfl, rfl, by decide +kernel⟩

/-! ## Over the life of a connection -/

open Session (Operation serve operate usualPatience)

variable {patience : Nat}

/-- Successful claims of the interface of a link, one or more in a row, and the release behind them. -/
def Link.stretch (l : Link) (more : Nat) : List Use :=
  List.replicate (more + 1) (.claimed l.device l.mode.interface) ++ [.released l.device l.mode.interface]

/-- What is taken over the life of a connection is given back: every stretch of successful claims ends in
one release, nothing else is released, and behind the last release the driver that was detached by
connecting, if one was, is attached again, once. -/
structure Balanced (l : Link) (connecting life : List (Event Host)) : Prop where
  connecting : uses connecting = l.taken
  life : ∃ stretches : List Nat, uses life = l.taken ++ stretches.flatMap l.stretch ++ l.returned

/-- The end of a connection behind a run of operations, the session first and then the link: the log is
closed with it. -/
def ended (host : Handler Host σ) (a : Attached σ) : List (Event Host) :=
  let last := (a.1.drop.run (Link.port host.recorded) a.2).2
  (last.1.drop.run host.recorded last.2).2.2

/-- Between two operations, the link that was made has claimed its interface since the last release if it
says so, and does say so in a ready session. -/
structure Tracked (made : Link) (s : Session) (l : Link) (log : List (Event Host)) : Prop where
  link : ∃ claimed, l = { made with claimed }
  ready : s.state = .ready → l.claimed = true
  uses : ∃ (stretches : List Nat) (pending : Nat),
    uses log = made.taken ++ stretches.flatMap made.stretch ++
      List.replicate pending (.claimed made.device made.mode.interface) ∧ (l.claimed = true ↔ pending ≠ 0)

variable {made l l' : Link} {s s' : Session} {log calls : List (Event Host)}

/-- Where a connection begins. -/
theorem tracked_new (hconnected : Connected (uses log) (.ok l)) (config : Config) :
    Tracked l (Session.new config) l log := by
  obtain ⟨htaken, hclaimed⟩ := hconnected
  exact ⟨⟨l.claimed, rfl⟩, nofun, [], 0, by simp [htaken], by simp [hclaimed]⟩

theorem Tracked.other (h : Tracked made s l log) (hnone : Usb.uses calls = [])
    (hstate : s'.state = .ready → s.state = .ready) : Tracked made s' l (log ++ calls) :=
  ⟨h.link, fun hs => h.ready (hstate hs), by rw [uses_append, hnone, List.append_nil]; exact h.uses⟩

/-- A claim lengthens the stretch, or begins one. -/
theorem Tracked.claimed (h : Tracked made s l log) (other : ∀ event ∈ calls, event.call.IsOther) :
    Tracked made s' { l with claimed := true }
      (log ++ ⟨.claim l.device l.mode.interface, .ok ()⟩ :: calls) := by
  obtain ⟨⟨claimed, rfl⟩, -, stretches, pending, huses, -⟩ := h
  refine ⟨⟨true, rfl⟩, fun _ => rfl, stretches, pending + 1, ?_, by simp⟩
  rw [uses_append, huses, List.replicate_succ', ← List.append_assoc]
  congr 1
  exact congrArg (Use.claimed _ _ :: ·) (uses_of_other other)

/-- A release of what is claimed ends the stretch. -/
theorem Tracked.released (h : Tracked made s l log) (hclaimed : l.claimed = true) (hstate : s'.state ≠ .ready)
    {answer : Except UsbError Unit} : Tracked made s' { l with claimed := false }
      (log ++ [⟨.release l.device l.mode.interface, answer⟩]) := by
  obtain ⟨⟨claimed, rfl⟩, -, stretches, pending, huses, hpending⟩ := h
  obtain ⟨more, rfl⟩ := Nat.exists_eq_succ_of_ne_zero (hpending.mp hclaimed)
  refine ⟨⟨false, rfl⟩, fun hs => absurd hs hstate, stretches ++ [more], 0, ?_, by simp⟩
  rw [uses_append, huses]
  simp [Link.stretch, Usb.uses, Use.ofEvent?]

theorem Tracked.started {answer : Except SessionError Unit} (h : Tracked made s l log)
    (hstart : Started s l calls answer s' l') : Tracked made s' l' (log ++ calls) := by
  cases hstart with
  | idle => exact h.other rfl id
  | refused => exact h.other rfl id
  | spoilt hs other => exact h.claimed other
  | opened hs other => exact h.claimed other

theorem Tracked.stopped (h : Tracked made s l log) (hstop : Stopped s l calls s' l') :
    Tracked made s' l' (log ++ calls) ∧ s'.state ≠ .ready := by
  cases hstop with
  | idle hs => exact ⟨h.other rfl id, hs⟩
  | unclaimed hs hl => exact absurd ((h.ready hs).symm.trans hl) (by decide)
  | released hs =>
    have notReady : ({ s with state := .active } : Session).state ≠ .ready := nofun
    exact ⟨h.released (h.ready hs) notReady, notReady⟩

theorem Tracked.served {op : Operation} {answer : op.Answer} (h : Tracked made s l log)
    (hserved : Served s l op calls answer s' l') : Tracked made s' l' (log ++ calls) := by
  cases hserved with
  | exchanged hop other hstate => exact h.other (uses_of_other other) (by rw [hstate]; exact id)
  | started hstart => exact h.started hstart
  | stopped hstop => exact (h.stopped hstop).1
  | unloaded hstop =>
    obtain ⟨h', -⟩ := h.stopped hstop
    exact ⟨h'.link, nofun, h'.uses⟩

theorem Tracked.after (host : Handler Host σ) (x : σ) (h : Tracked made s l log) (ops : List Operation) :
    let last := (operate patience (Link.port host.recorded)).after ops (s, l, x, log)
    Tracked made last.1 last.2.1 last.2.2.2 := by
  refine Handler.after_of_invariant (h := operate patience (Link.port host.recorded))
    (fun a : Attached σ => Tracked made a.1 a.2.1 a.2.2.2) ?_ ops (s, l, x, log) h
  rintro ⟨s, l, x, log⟩ op h
  obtain ⟨calls, answer, s', l', x', hnext, hserved⟩ := operate_served patience host op s l x log
  rw [hnext]
  exact h.served hserved

/-! ## The end of a connection -/

/-- The end of a session is a last stop. -/
theorem lower_drop (s : Session) (l : Link) :
    (s.drop.lower Link.serve l).Always fun calls r => ∃ s', Stopped s l calls s' r.2 := by
  unfold Session.drop
  rw [Dialogue.lower_bind]
  exact (lower_stop s l).bind_done fun _ _ h => ⟨_, h⟩

/-- The end of a link gives back the interface if it is claimed, and the driver if it was detached. -/
theorem Link.drop_uses (l : Link) : l.drop.Always fun calls _ =>
    uses calls = (if l.claimed then [.released l.device l.mode.interface] else []) ++ l.returned := by
  obtain ⟨device, mode, driverDetached, endpoints, claimed⟩ := l
  cases claimed with
  | false =>
    cases driverDetached with
    | false => exact fun _ => rfl
    | true => exact fun _ _ => rfl
  | true =>
    cases driverDetached with
    | false => exact fun _ _ => rfl
    | true => exact fun _ _ _ => rfl

theorem Tracked.ended (host : Handler Host σ) (x : σ) (h : Tracked made s l log) :
    ∃ stretches : List Nat, Usb.uses (Usb.ended host (s, l, x, log)) =
      made.taken ++ stretches.flatMap made.stretch ++ made.returned := by
  obtain ⟨calls, hlog, s', hstop⟩ := Dialogue.always_run (lower_drop s l) host x log
  unfold Usb.ended
  rw [Link.port, Dialogue.run_through]
  generalize (s.drop.lower Link.serve l).run host.recorded (x, log) = r at hlog hstop
  obtain ⟨⟨⟨⟩, l'⟩, x', log'⟩ := r
  obtain rfl : log' = log ++ calls := hlog
  obtain ⟨calls', hlog', hdrop⟩ := Dialogue.always_run l'.drop_uses host x' (log ++ calls)
  obtain ⟨⟨⟨claimed, rfl⟩, -, stretches, pending, huses, hpending⟩, -⟩ := h.stopped hstop
  dsimp only
  rw [hlog', uses_append, huses, hdrop]
  cases claimed with
  | false =>
    obtain rfl : pending = 0 := Decidable.byContradiction fun hne => Bool.false_ne_true (hpending.mpr hne)
    exact ⟨stretches, by simp [Link.returned]⟩
  | true =>
    obtain ⟨more, rfl⟩ := Nat.exists_eq_succ_of_ne_zero (hpending.mp rfl)
    exact ⟨stretches ++ [more], by simp [Link.stretch, Link.returned]⟩

/-- **The balance of a connection.** Whatever the host answers, over the life of a session over a link that
could be made, from connecting to the end of session and link, everything taken is given back, once. -/
theorem resources_balanced (patience : Nat) (host : Handler Host σ) {x x' : σ} {filter : Filter}
    (connected : (connect filter).run host.recorded (x, []) = (.ok l, x', log)) (config : Config)
    (ops : List Operation) :
    let last := (operate patience (Link.port host.recorded)).after ops (Session.new config, l, x', log)
    Balanced l log (ended host last) := by
  obtain ⟨calls, hlog, hconnected⟩ := Dialogue.always_run (connect_connected filter) host x []
  rw [connected] at hlog hconnected
  obtain rfl : log = calls := hlog
  exact ⟨hconnected.1, ((tracked_new hconnected config).after host x' ops).ended host _⟩

/-- Two starts that fail behind their claims, and an unload that has nothing to stop. -/
theorem resources_balanced_over_failed_starts :
    let bus : Simulated.Bus := {
      devices := [{
        info := ⟨⟨1689, 1040⟩, ⟨1, 2⟩⟩, kernelDriver := true, faults := [("set_alt", -9)]
        configurations := [.ok ⟨1, [[⟨0, 0, 254, 3, 0, [⟨1, 2, 64⟩, ⟨130, 2, 64⟩]⟩]]⟩] }] }
    let l : Link := {
      device := 0, mode := ⟨1, 0, 0⟩, driverDetached := true
      endpoints := ⟨⟨1, 2, 64⟩, ⟨130, 2, 64⟩, none⟩ }
    let connection := (connect .any).run Simulated.Bus.host.recorded (bus, [])
    let last := (operate usualPatience (Link.port Simulated.Bus.host.recorded)).after [.start, .start, .unload]
      (Session.new { bufferSize := 16 }, l, connection.2)
    connection.1 = .ok l ∧ Balanced l connection.2.2 (ended Simulated.Bus.host last) := by
  intro bus l connection last
  have connected : connection = (.ok l, connection.2) := rfl
  exact ⟨rfl, resources_balanced usualPatience Simulated.Bus.host connected { bufferSize := 16 }
    [.start, .start, .unload]⟩

end

end ScopeLink.Usb
