import ScopeLink.Proofs.Runs
import ScopeLink.Simulated.Bus
import ScopeLink.Usb.Link
/-!
# Two scans of the configurations

A device is listed, and opened, if a scan of its configurations finds a setting for test and measurement;
which setting a connection works in is found by another scan. The first scan passes over a configuration
that cannot be read, the second ends there. Of a device that says the same of itself each time, they agree
exactly if no such configuration stands before the first that offers a setting (`Readings.Obscured`): a
device for which one does is listed and can be opened, and no connection to it is made.

What a scan finds is stated under the condition that everything read is what the device says (`Steadily`).
-/

namespace ScopeLink.Usb

/-! ## What devices say -/

/-- What a device says of itself, or why it cannot be read. -/
structure Readings where
  descriptor : Except UsbError DeviceDescriptor
  configuration : Nat → Except UsbError Configuration

/-- A configuration that can be read, and has a setting for test and measurement. -/
def Offering : Except UsbError Configuration → Prop
  | .ok c => c.offersTestAndMeasurement = true
  | .error _ => False

/-- A configuration that can be read, and has no such setting. -/
def Plain : Except UsbError Configuration → Prop
  | .ok c => c.offersTestAndMeasurement = false
  | .error _ => False

/-- An unreadable configuration stands before the first that offers a setting. -/
def Obscured (e : UsbError) (configurations : List (Except UsbError Configuration)) : Prop :=
  ∃ before after, configurations = before ++ .error e :: after ∧ (∀ c ∈ before, Plain c) ∧
    ∃ c ∈ after, Offering c

namespace Readings

/-- The configurations, by their indices; none without a descriptor. -/
def configurations (r : Readings) : List (Except UsbError Configuration) :=
  match r.descriptor with
  | .ok d => (List.range d.configurationCount).map r.configuration
  | .error _ => []

/-- Those of them that can be read. -/
def readable (r : Readings) : List Configuration := r.configurations.filterMap Except.toOption

/-- The device is one for test and measurement. -/
def Offers (r : Readings) : Prop := ∃ c ∈ r.configurations, Offering c

def Obscured (r : Readings) (e : UsbError) : Prop := Usb.Obscured e r.configurations

theorem mem_readable_iff {r : Readings} {c : Configuration} : c ∈ r.readable ↔ .ok c ∈ r.configurations := by
  rw [readable, List.mem_filterMap]
  constructor
  · rintro ⟨reading, hmem, hread⟩
    cases reading with
    | error e => cases hread
    | ok c' =>
      cases hread
      exact hmem
  · exact fun h => ⟨.ok c, h, rfl⟩

end Readings

/-- What is read is what the device says. -/
def Faithful (readings : Nat → Readings) : Event Host → Prop
  | ⟨.deviceDescriptor device, answer⟩ => answer = (readings device).descriptor
  | ⟨.configuration device index, answer⟩ => answer = (readings device).configuration index
  | _ => True

abbrev Steady (readings : Nat → Readings) (log : List (Event Host)) : Prop :=
  ∀ event ∈ log, Faithful readings event

instance decidableEqExcept {ε α : Type} [DecidableEq ε] [DecidableEq α] : DecidableEq (Except ε α)
  | .ok a, .ok b => decidable_of_iff (a = b) ⟨congrArg _, Except.ok.inj⟩
  | .error d, .error e => decidable_of_iff (d = e) ⟨congrArg _, Except.error.inj⟩
  | .ok _, .error _ | .error _, .ok _ => .isFalse nofun

instance decidableFaithful (readings : Nat → Readings) : ∀ event, Decidable (Faithful readings event)
  | ⟨.deviceDescriptor device, answer⟩ =>
    (decidableEqExcept : DecidableEq (Except UsbError DeviceDescriptor)) answer (readings device).descriptor
  | ⟨.configuration device index, answer⟩ =>
    (decidableEqExcept : DecidableEq (Except UsbError Configuration)) answer ((readings device).configuration index)
  | ⟨.init, _⟩ | ⟨.enumerate, _⟩ | ⟨.openDevice .., _⟩ | ⟨.close .., _⟩ | ⟨.driverActive .., _⟩
  | ⟨.detachDriver .., _⟩ | ⟨.attachDriver .., _⟩ | ⟨.setConfiguration .., _⟩ | ⟨.claim .., _⟩
  | ⟨.release .., _⟩ | ⟨.setAlternate .., _⟩ | ⟨.clearHalt .., _⟩ | ⟨.bulkOut .., _⟩ | ⟨.bulkIn .., _⟩
  | ⟨.controlIn .., _⟩ => .isTrue trivial

/-! ## Dialogues with a steady host -/

section

variable {α β : Type} {readings : Nat → Readings}

/-- Whatever the host answers, as long as devices say the same each time, the calls made and the result
satisfy `Q`. -/
abbrev Steadily (readings : Nat → Readings) (d : Dialogue Host α) (Q : List (Event Host) → α → Prop) : Prop :=
  d.Always fun log a => Steady readings log → Q log a

theorem steadily_ask {c : Host.Call} {f : c.Answer → Dialogue Host α} {Q : List (Event Host) → α → Prop}
    (h : ∀ answer, Faithful readings ⟨c, answer⟩ →
      Steadily readings (f answer) fun log a => Q (⟨c, answer⟩ :: log) a) :
    Steadily readings (Host.ask c >>= f) Q := by
  intro answer
  by_cases faithful : Faithful readings ⟨c, answer⟩
  · exact (h answer faithful).mono fun log a ha steady => ha fun event hevent =>
      steady event (List.mem_cons_of_mem _ hevent)
  · exact Dialogue.always_of_forall fun log a steady =>
      absurd (steady ⟨c, answer⟩ List.mem_cons_self) faithful

theorem Steadily.bind {d : Dialogue Host α} {f : α → Dialogue Host β} {P : List (Event Host) → α → Prop}
    {Q : List (Event Host) → β → Prop} (hd : Steadily readings d P)
    (hf : ∀ log a, P log a → Steadily readings (f a) fun log' b => Q (log ++ log') b) :
    Steadily readings (d >>= f) Q := by
  rw [Steadily, Dialogue.always_bind]
  refine hd.mono fun log a ha => ?_
  by_cases steady : Steady readings log
  · exact (hf log a (ha steady)).mono fun log' b hb steady' => hb fun event hevent =>
      steady' event (List.mem_append_right _ hevent)
  · exact Dialogue.always_of_forall fun log' b steady' =>
      absurd (fun event hevent => steady' event (List.mem_append_left _ hevent)) steady

/-- What holds of every steady run holds of one that is recorded, of the calls behind those before. -/
theorem Steadily.run {σ : Type} {d : Dialogue Host α} {Q : List (Event Host) → α → Prop}
    (h : Steadily readings d Q) {host : Handler Host σ} {x : σ} {log : List (Event Host)}
    (steady : Steady readings (d.run host.recorded (x, log)).2.2) :
    ∃ calls, (d.run host.recorded (x, log)).2.2 = log ++ calls ∧ Q calls (d.run host.recorded (x, log)).1 := by
  obtain ⟨calls, hlog, hq⟩ := Dialogue.always_run h host x log
  rw [hlog] at steady
  exact ⟨calls, hlog, hq fun event hevent => steady event (List.mem_append_right _ hevent)⟩

/-- The second of two dialogues in a row goes on with the result of the first, behind its calls. -/
theorem Steadily.run_bind {σ : Type} {d : Dialogue Host α} {f : α → Dialogue Host β} {a : α}
    {Q : List (Event Host) → β → Prop} (h : Steadily readings (f a) Q) {host : Handler Host σ} {x : σ}
    {log : List (Event Host)} (first : (d.run host.recorded (x, log)).1 = a)
    (steady : Steady readings ((d >>= f).run host.recorded (x, log)).2.2) :
    ∃ calls, ((d >>= f).run host.recorded (x, log)).2.2 = (d.run host.recorded (x, log)).2.2 ++ calls ∧
      Q calls ((d >>= f).run host.recorded (x, log)).1 := by
  rw [Dialogue.run_bind, first] at steady ⊢
  exact h.run steady

end

/-! ## The scan for listing and opening -/

section

variable {readings : Nat → Readings}

theorem anyOffers_iff (device : Nat) : ∀ indices : List Nat,
    Steadily readings (anyOffers device indices) fun _ offers =>
      offers = true ↔ ∃ c ∈ indices.map (readings device).configuration, Offering c
  | [] => fun _ => by simp
  | index :: rest => by
    unfold anyOffers
    refine steadily_ask fun answer (faithful : answer = _) => ?_
    rw [List.map_cons, ← faithful]
    cases answer with
    | error e =>
      refine (anyOffers_iff device rest).mono fun log offers h steady => (h steady).trans ?_
      simp [Offering]
    | ok c =>
      dsimp only
      split
      · rename_i hoffers
        exact fun _ => by simp [Offering, hoffers]
      · rename_i hplain
        refine (anyOffers_iff device rest).mono fun log offers h steady => (h steady).trans ?_
        simp [Offering, hplain]

/-- What is listed of a device: its ids, at the place where it is attached. -/
structure Listed (r : Readings) (location : Location) (info : DeviceInfo) : Prop where
  offers : r.Offers
  id : ∃ d, r.descriptor = .ok d ∧ info = ⟨d.id, location⟩

theorem examine_offers (device : Nat) (location : Location) :
    Steadily readings (examine device location) fun _ found =>
      (found.isSome = true ↔ (readings device).Offers) ∧
        ∀ info, found = some info → Listed (readings device) location info := by
  unfold examine
  refine steadily_ask fun answer (faithful : answer = _) => ?_
  cases answer with
  | error e =>
    refine fun _ => ⟨?_, nofun⟩
    simp [Readings.Offers, Readings.configurations, ← faithful]
  | ok d =>
    have hoffers : (readings device).Offers ↔
        ∃ c ∈ (List.range d.configurationCount).map (readings device).configuration, Offering c := by
      rw [Readings.Offers, Readings.configurations, ← faithful]
    refine (anyOffers_iff device _).bind fun log offers h => ?_
    rw [← hoffers] at h
    cases offers with
    | false => exact fun _ => ⟨by simpa using h, nofun⟩
    | true =>
      refine fun _ => ⟨by simpa using h, fun info hinfo => ?_⟩
      cases hinfo
      exact ⟨h.mp rfl, d, faithful.symm, rfl⟩

theorem examineAll_listed : ∀ (locations : List Location) (device : Nat),
    Steadily readings (examineAll device locations) fun _ infos => ∀ info ∈ infos,
      ∃ place location, locations[place]? = some location ∧ Listed (readings (device + place)) location info
  | [], _ => fun _ => nofun
  | location :: rest, device => by
    unfold examineAll
    refine (examine_offers device location).bind fun _ found ⟨_, hfound⟩ => ?_
    refine (examineAll_listed rest (device + 1)).bind fun _ more hmore => ?_
    refine fun _ info hinfo => ?_
    obtain hinfo | hinfo := List.mem_append.mp hinfo
    · exact ⟨0, location, rfl, hfound info (by simpa using hinfo)⟩
    · obtain ⟨place, location', hplace, hlisted⟩ := hmore info hinfo
      exact ⟨place + 1, location', hplace, by rwa [Nat.add_right_comm] at hlisted⟩

theorem devices_listed :
    Steadily readings devices fun log r => ∀ infos, r = .ok infos → ∃ locations,
      ⟨.enumerate, .ok locations⟩ ∈ log ∧ ∀ info ∈ infos, ∃ device location,
        locations[device]? = some location ∧ Listed (readings device) location info := by
  unfold devices
  refine steadily_ask fun answer _ => ?_
  cases answer with
  | error e => exact fun _ => nofun
  | ok u =>
    refine steadily_ask fun answer _ => ?_
    cases answer with
    | error e => exact fun _ => nofun
    | ok locations =>
      refine (examineAll_listed locations 0).bind fun log found hfound => ?_
      rintro - infos hinfos
      cases hinfos
      refine ⟨locations, by simp, fun info hinfo => ?_⟩
      obtain ⟨device, location, hplace, hlisted⟩ := hfound info hinfo
      exact ⟨device, location, hplace, by rwa [Nat.zero_add] at hlisted⟩

theorem openFirst_offers (filter : Filter) : ∀ (locations : List Location) (device : Nat),
    Steadily readings (openFirst filter device locations) fun _ opened => ∀ place, opened = some place →
      (readings place).Offers
  | [], _ => fun _ => nofun
  | location :: rest, device => by
    unfold openFirst
    refine (examine_offers device location).bind fun _ found ⟨hoffers, _⟩ => ?_
    have others := openFirst_offers filter rest (device + 1)
    cases found with
    | none => exact others
    | some info =>
      dsimp only
      split
      · refine steadily_ask fun answer _ => ?_
        cases answer with
        | error e => exact others
        | ok u =>
          rintro - place hplace
          cases hplace
          exact hoffers.mp rfl
      · exact others

theorem openDevice_offers (filter : Filter) :
    Steadily readings (openDevice filter) fun _ r => ∀ place, r = .ok place → (readings place).Offers := by
  unfold openDevice
  refine steadily_ask fun answer _ => ?_
  cases answer with
  | error e => exact fun _ => nofun
  | ok u =>
    refine steadily_ask fun answer _ => ?_
    cases answer with
    | error e => exact fun _ => nofun
    | ok locations =>
      refine (openFirst_offers filter locations 0).bind fun _ opened hopened => ?_
      cases opened with
      | none => exact fun _ => nofun
      | some device =>
        rintro - place hplace
        cases hplace
        exact hopened device rfl

/-! ## The scan for a mode -/

/-- What the second scan makes of the configurations, one after the other. -/
inductive Selected : List (Except UsbError Configuration) → Except DiscoveryError Mode → Prop
  | none : Selected [] (.error .deviceIncompatible)
  | found {c s rest} : c.firstTestAndMeasurement = some s →
    Selected (.ok c :: rest) (.ok ⟨c.number, s.interface, s.number⟩)
  | unreadable {e rest} : Selected (.error e :: rest) (.error (.usb e))
  | other {c rest mode} : c.firstTestAndMeasurement = Option.none → Selected rest mode →
    Selected (.ok c :: rest) mode

theorem firstMode_selected (device : Nat) : ∀ indices : List Nat,
    Steadily readings (firstMode device indices) fun _ mode =>
      Selected (indices.map (readings device).configuration) mode
  | [] => fun _ => .none
  | index :: rest => by
    unfold firstMode
    refine steadily_ask fun answer (faithful : answer = _) => ?_
    rw [List.map_cons, ← faithful]
    cases answer with
    | error e => exact fun _ => .unreadable
    | ok c =>
      dsimp only
      split
      · rename_i s hfound
        exact fun _ => .found hfound
      · rename_i hnone
        exact (firstMode_selected device rest).mono fun _ _ h steady => .other hnone (h steady)

theorem offering_of_found {c : Configuration} {s : Setting} (h : c.firstTestAndMeasurement = some s) :
    Offering (.ok c) := by
  rw [Offering, ← isSome_firstTestAndMeasurement, h]
  rfl

theorem plain_of_none {c : Configuration} (h : c.firstTestAndMeasurement = none) : Plain (.ok c) := by
  rw [Plain, ← isSome_firstTestAndMeasurement, h]
  rfl

theorem not_offering_of_plain : ∀ {c : Except UsbError Configuration}, Plain c → ¬ Offering c
  | .ok c, h => by
    rw [Plain] at h
    simp [Offering, h]
  | .error _, h => h.elim

theorem obscured_cons {c : Except UsbError Configuration} {rest : List (Except UsbError Configuration)}
    {e : UsbError} (plain : Plain c) : Obscured e (c :: rest) ↔ Obscured e rest := by
  constructor
  · rintro ⟨before, after, hsplit, hbefore, hafter⟩
    cases before with
    | nil =>
      obtain ⟨rfl, -⟩ := List.cons.inj hsplit
      exact plain.elim
    | cons first before =>
      obtain ⟨-, rfl⟩ := List.cons.inj hsplit
      exact ⟨before, after, rfl, fun d hd => hbefore d (List.mem_cons_of_mem _ hd), hafter⟩
  · rintro ⟨before, after, rfl, hbefore, hafter⟩
    refine ⟨c :: before, after, rfl, fun d hd => ?_, hafter⟩
    obtain rfl | hd := List.mem_cons.mp hd
    · exact plain
    · exact hbefore d hd

/-- A mode is selected exactly of a device that offers one and is not obscured, and the scan of one that is
obscured ends with the error of the configuration in front. -/
structure Chosen (configurations : List (Except UsbError Configuration)) (mode : Except DiscoveryError Mode) :
    Prop where
  selects : (∃ m, mode = .ok m) ↔ (∃ c ∈ configurations, Offering c) ∧ ¬ ∃ e, Obscured e configurations
  obscured : ∀ e, Obscured e configurations → mode = .error (.usb e)

theorem Selected.chosen {configurations : List (Except UsbError Configuration)}
    {mode : Except DiscoveryError Mode} (h : Selected configurations mode) : Chosen configurations mode := by
  induction h with
  | none =>
    refine ⟨by simp, ?_⟩
    rintro e ⟨before, after, hsplit, -⟩
    simp at hsplit
  | @found c s rest hfound =>
    have offering := offering_of_found hfound
    have clear (e : UsbError) : ¬ Obscured e (.ok c :: rest) := by
      rintro ⟨before, after, hsplit, hbefore, -⟩
      cases before with
      | nil => cases hsplit
      | cons first before =>
        obtain ⟨rfl, -⟩ := List.cons.inj hsplit
        exact not_offering_of_plain (hbefore _ List.mem_cons_self) offering
    refine ⟨iff_of_true ⟨_, rfl⟩ ⟨⟨_, List.mem_cons_self, offering⟩, fun ⟨e, he⟩ => clear e he⟩, ?_⟩
    exact fun e he => absurd he (clear e)
  | @unreadable e rest =>
    refine ⟨iff_of_false nofun ?_, ?_⟩
    · rintro ⟨⟨c, hc, offering⟩, clear⟩
      obtain rfl | hc := List.mem_cons.mp hc
      · exact offering
      · exact clear ⟨e, [], rest, rfl, nofun, c, hc, offering⟩
    · rintro e' ⟨before, after, hsplit, hbefore, -⟩
      cases before with
      | nil =>
        cases hsplit
        rfl
      | cons first before =>
        obtain ⟨rfl, -⟩ := List.cons.inj hsplit
        exact (hbefore _ List.mem_cons_self).elim
  | @other c rest mode hnone _ ih =>
    have plain := plain_of_none hnone
    refine ⟨?_, fun e he => ih.obscured e ((obscured_cons plain).mp he)⟩
    simp only [ih.selects, obscured_cons plain, List.mem_cons, exists_eq_or_imp, not_offering_of_plain plain,
      false_or]

theorem selectMode_chosen (device : Nat) :
    Steadily readings (selectMode device) fun _ mode => Chosen (readings device).configurations mode := by
  unfold selectMode
  refine steadily_ask fun answer (faithful : answer = _) => ?_
  rw [Readings.configurations, ← faithful]
  cases answer with
  | error e =>
    refine fun _ => ⟨by simp, ?_⟩
    rintro e' ⟨before, after, hsplit, -⟩
    simp at hsplit
  | ok d => exact (firstMode_selected device _).mono fun _ _ h steady => (h steady).chosen

/-! ## Both scans of a device -/

/-- The two scans of a device: whether it is listed and opened, and which mode is selected of it. -/
def scans (device : Nat) (location : Location) :
    Dialogue Host (Option DeviceInfo × Except DiscoveryError Mode) := do
  let found ← examine device location
  let mode ← selectMode device
  return (found, mode)

/-- What the two scans find of a device that says the same in both. -/
structure Scanned (r : Readings) (found : Option DeviceInfo) (mode : Except DiscoveryError Mode) : Prop where
  accepted : found.isSome = true ↔ r.Offers
  chosen : Chosen r.configurations mode

theorem scans_scanned (device : Nat) (location : Location) :
    Steadily readings (scans device location) fun _ p => Scanned (readings device) p.1 p.2 := by
  unfold scans
  refine (examine_offers device location).bind fun _ found ⟨hoffers, _⟩ => ?_
  exact (selectMode_chosen device).bind fun _ mode hchosen _ => ⟨hoffers, hchosen⟩

theorem Scanned.agree_iff {r : Readings} {found : Option DeviceInfo} {mode : Except DiscoveryError Mode}
    (h : Scanned r found mode) :
    (found.isSome = true ↔ ∃ m, mode = .ok m) ↔ ¬ ∃ e, r.Obscured e := by
  rw [h.accepted, h.chosen.selects]
  constructor
  · rintro agree ⟨e, before, after, hsplit, hbefore, c, hc, offering⟩
    have hoffers : r.Offers := ⟨c, by rw [hsplit]; simp [hc], offering⟩
    exact (agree.mp hoffers).2 ⟨e, before, after, hsplit, hbefore, c, hc, offering⟩
  · intro clear
    exact ⟨fun hoffers => ⟨hoffers, clear⟩, fun h => h.1⟩

/-! ## Connecting -/

theorem detachDriver_asks (device : Nat) (interface : UInt8) :
    (detachDriver device interface).Always fun log _ =>
      ∃ answer, ⟨.driverActive device interface, answer⟩ ∈ log := by
  unfold detachDriver
  rw [Host.ask_bind]
  exact fun answer => Dialogue.always_of_forall fun log _ => ⟨answer, List.mem_cons_self⟩

/-- The preparation of a device fails in the scan for a mode if the device is obscured, and goes on to its
kernel driver if a mode is found. -/
structure Prepared (r : Readings) (device : Nat) (log : List (Event Host)) (result : Outcome DiscoveryError Link) :
    Prop where
  obscured : ∀ e, r.Obscured e → result = .failed (.usb e)
  clear : r.Offers → (¬ ∃ e, r.Obscured e) →
    ∃ interface answer, ⟨.driverActive device interface, answer⟩ ∈ log

theorem prepare_prepared (device : Nat) :
    Steadily readings (prepare device) fun log result => Prepared (readings device) device log result := by
  unfold prepare
  refine (selectMode_chosen device).bind fun _ mode hchosen => ?_
  cases mode with
  | error e =>
    refine fun _ => ⟨fun e' he' => ?_, fun hoffers clear => ?_⟩
    · have herror := hchosen.obscured e' he'
      cases herror
      rfl
    · obtain ⟨m, hm⟩ := hchosen.selects.mpr ⟨hoffers, clear⟩
      cases hm
  | ok m =>
    have clear : ¬ ∃ e, (readings device).Obscured e := (hchosen.selects.mp ⟨m, rfl⟩).2
    rw [Steadily, Dialogue.always_bind]
    refine (detachDriver_asks device m.interface).mono fun log detached ⟨answer, hmem⟩ => ?_
    refine Dialogue.always_of_forall fun log' result _ => ⟨fun e he => absurd ⟨e, he⟩ clear, fun _ _ => ?_⟩
    exact ⟨m.interface, answer, List.mem_append_right _ (List.mem_append_left _ hmem)⟩

theorem Prepared.append {r : Readings} {device : Nat} {log : List (Event Host)}
    {result : Outcome DiscoveryError Link} (h : Prepared r device log result) (before after : List (Event Host)) :
    Prepared r device (before ++ log ++ after) result := by
  refine ⟨h.obscured, fun hoffers clear => ?_⟩
  obtain ⟨interface, answer, hmem⟩ := h.clear hoffers clear
  exact ⟨interface, answer, List.mem_append_left _ (List.mem_append_right _ hmem)⟩

/-- A connection comes to what the preparation of the opened device comes to. -/
theorem connect_prepared {σ : Type} {host : Handler Host σ} {x : σ} {filter : Filter} {place : Nat}
    (opened : ((openDevice filter).run host.recorded (x, [])).1 = .ok place)
    (steady : Steady readings ((connect filter).run host.recorded (x, [])).2.2) :
    (readings place).Offers ∧ Prepared (readings place) place ((connect filter).run host.recorded (x, [])).2.2
      ((connect filter).run host.recorded (x, [])).1 := by
  unfold connect at steady ⊢
  have hrun := Steadily.run_bind (Q := Prepared (readings place) place) ?_ opened steady
  · obtain ⟨calls, hlog, hprepared⟩ := hrun
    rw [hlog] at steady ⊢
    obtain ⟨_, -, hoffers⟩ := (openDevice_offers filter).run fun event hevent =>
      steady event (List.mem_append_left _ hevent)
    have hbehind := hprepared.append ((openDevice filter).run host.recorded (x, [])).2.2 []
    rw [List.append_nil] at hbehind
    exact ⟨hoffers place opened, hbehind⟩
  · refine (prepare_prepared place).bind fun log result h => ?_
    cases result with
    | ok link => exact fun _ => h.append [] []
    | failed e | halted e => exact fun _ _ => h.append [] _

end

/-- **When the scans agree.** Of devices that say the same of themselves each time, the scan for listing and
opening accepts one exactly when the scan for a mode succeeds on it, unless an unreadable configuration stands
before the first that offers a mode. Every device that is listed or opened offers one, and a connection fails
in the scan for a mode with the error of such a configuration, and otherwise not. -/
theorem scans_agree_iff {σ : Type} (host : Handler Host σ) (x : σ) {readings : Nat → Readings} (device : Nat)
    (location : Location) (filter : Filter)
    (scanned : Steady readings ((scans device location).run host.recorded (x, [])).2.2)
    (listed : Steady readings (devices.run host.recorded (x, [])).2.2)
    (connected : Steady readings ((connect filter).run host.recorded (x, [])).2.2) :
    let both := ((scans device location).run host.recorded (x, [])).1
    let connection := (connect filter).run host.recorded (x, [])
    ((both.1.isSome = true ↔ ∃ mode, both.2 = .ok mode) ↔ ¬ ∃ e, (readings device).Obscured e) ∧
      (∀ infos, (devices.run host.recorded (x, [])).1 = .ok infos → ∃ locations,
        ⟨.enumerate, .ok locations⟩ ∈ (devices.run host.recorded (x, [])).2.2 ∧ ∀ info ∈ infos,
          ∃ place location, locations[place]? = some location ∧ Listed (readings place) location info) ∧
      ∀ place, ((openDevice filter).run host.recorded (x, [])).1 = .ok place → (readings place).Offers ∧
        (∀ e, (readings place).Obscured e → connection.1 = .failed (.usb e)) ∧
        ((¬ ∃ e, (readings place).Obscured e) →
          ∃ interface answer, ⟨.driverActive place interface, answer⟩ ∈ connection.2.2) := by
  obtain ⟨_, -, hscanned⟩ := (scans_scanned device location).run scanned
  obtain ⟨calls, hlog, hlisted⟩ := devices_listed.run listed
  rw [List.nil_append] at hlog
  refine ⟨hscanned.agree_iff, fun infos hinfos => ?_, fun place opened => ?_⟩
  · rw [hlog]
    exact hlisted infos hinfos
  · obtain ⟨hoffers, hprepared⟩ := connect_prepared opened connected
    exact ⟨hoffers, hprepared.obscured, hprepared.clear hoffers⟩

/-- What the devices of a simulated bus say. -/
def heard (bus : Simulated.Bus) (device : Nat) : Readings where
  descriptor := (Simulated.Bus.host (.deviceDescriptor device) bus).1
  configuration index := (Simulated.Bus.host (.configuration device index) bus).1

/-- A configuration of another class stands in front of the one with the setting, an unreadable one behind. -/
theorem scans_agree_iff_of_last_unreadable :
    let bus : Simulated.Bus := {
      devices := [{
        info := ⟨⟨1689, 1040⟩, ⟨1, 2⟩⟩
        configurations := [.ok ⟨1, [[⟨0, 0, 8, 6, 80, []⟩]]⟩,
          .ok ⟨2, [[⟨0, 0, 254, 3, 0, [⟨1, 2, 64⟩, ⟨130, 2, 64⟩]⟩]]⟩, .error (-1)] }] }
    let both := (scans 0 ⟨1, 2⟩).run Simulated.Bus.host.recorded (bus, [])
    Steady (heard bus) both.2.2 ∧ Steady (heard bus) (devices.run Simulated.Bus.host.recorded (bus, [])).2.2 ∧
      Steady (heard bus) ((connect .any).run Simulated.Bus.host.recorded (bus, [])).2.2 ∧
      both.1.1 = some ⟨⟨1689, 1040⟩, ⟨1, 2⟩⟩ ∧
      ((both.1.1.isSome = true ↔ ∃ mode, both.1.2 = .ok mode) ↔ ¬ ∃ e, (heard bus 0).Obscured e) := by
  intro bus both
  have scanned : Steady (heard bus) both.2.2 := by decide +kernel
  have listed : Steady (heard bus) (devices.run Simulated.Bus.host.recorded (bus, [])).2.2 := by decide +kernel
  have connected : Steady (heard bus) ((connect .any).run Simulated.Bus.host.recorded (bus, [])).2.2 := by
    decide +kernel
  exact ⟨scanned, listed, connected, by decide +kernel,
    (scans_agree_iff Simulated.Bus.host bus 0 ⟨1, 2⟩ .any scanned listed connected).1⟩

/-- The first configuration cannot be read: the device is listed for the second, and no mode is selected. -/
theorem scans_disagree_behind_unreadable :
    let bus : Simulated.Bus := {
      devices := [{
        info := ⟨⟨1689, 1040⟩, ⟨1, 2⟩⟩, kernelDriver := true
        configurations := [.error (-1), .ok ⟨1, [[⟨0, 0, 254, 3, 0, [⟨1, 2, 64⟩, ⟨130, 2, 64⟩]⟩]]⟩] }] }
    let both := (scans 0 ⟨1, 2⟩).run Simulated.Bus.host.recorded (bus, [])
    let listed := devices.run Simulated.Bus.host.recorded (bus, [])
    let connection := (connect .any).run Simulated.Bus.host.recorded (bus, [])
    Steady (heard bus) both.2.2 ∧ Steady (heard bus) listed.2.2 ∧ Steady (heard bus) connection.2.2 ∧
      both.1 = (some ⟨⟨1689, 1040⟩, ⟨1, 2⟩⟩, .error (.usb .io)) ∧
      listed.1 = .ok [⟨⟨1689, 1040⟩, ⟨1, 2⟩⟩] ∧ connection.1 = .failed (.usb .io) ∧
      connection.2.1.log = ["open 0", "close"] := by
  decide +kernel

end ScopeLink.Usb
