import ScopeLink.Proofs.Usb.Scans
/-!
# Listing and opening

Listing and opening examine the devices of an enumeration one after the other. Of devices that say the same
of themselves each time both find the same ones, the `catalogue`. Opening tries those that its filter accepts,
in order, until one opens (`Tried`), and touches no others.
-/

namespace ScopeLink.Usb

/-! ## The devices that are listed -/

/-- What is listed of a device, if it is listed. -/
def Readings.info (r : Readings) (location : Location) : Option DeviceInfo :=
  match r.descriptor with
  | .error _ => none
  | .ok d => if r.readable.any Configuration.offersTestAndMeasurement then some ⟨d.id, location⟩ else none

theorem Readings.offers_iff {r : Readings} :
    r.Offers ↔ r.readable.any Configuration.offersTestAndMeasurement = true := by
  rw [List.any_eq_true, Readings.Offers]
  constructor
  · rintro ⟨reading, hmem, offering⟩
    cases reading with
    | error e => exact offering.elim
    | ok c => exact ⟨c, mem_readable_iff.mpr hmem, offering⟩
  · rintro ⟨c, hmem, offers⟩
    exact ⟨.ok c, mem_readable_iff.mp hmem, offers⟩

theorem Readings.info_eq_some_iff {r : Readings} {location : Location} {info : DeviceInfo} :
    r.info location = some info ↔ Listed r location info := by
  unfold Readings.info
  cases hd : r.descriptor with
  | error e =>
    refine ⟨nofun, fun ⟨_, d, hd', _⟩ => ?_⟩
    rw [hd] at hd'
    cases hd'
  | ok d =>
    dsimp only
    rw [Option.ite_none_right_eq_some, ← Readings.offers_iff, Option.some.injEq]
    constructor
    · rintro ⟨hoffers, rfl⟩
      exact ⟨hoffers, d, hd, rfl⟩
    · rintro ⟨hoffers, d', hd', rfl⟩
      cases hd.symm.trans hd'
      exact ⟨hoffers, rfl⟩

/-- The devices that are listed, each with its place in the enumeration. The first of these locations has
place `device`. -/
def catalogue (readings : Nat → Readings) (device : Nat) (locations : List Location) :
    List (Nat × DeviceInfo) :=
  (locations.zipIdx device).filterMap fun (location, place) =>
    ((readings place).info location).map fun info => (place, info)

section

variable {readings : Nat → Readings}

theorem catalogue_of_unlisted {device : Nat} {location : Location} (h : (readings device).info location = none)
    (rest : List Location) :
    catalogue readings device (location :: rest) = catalogue readings (device + 1) rest := by
  rw [catalogue, List.zipIdx_cons, List.filterMap_cons]
  dsimp only
  rw [h]
  rfl

theorem catalogue_of_listed {device : Nat} {location : Location} {info : DeviceInfo}
    (h : (readings device).info location = some info) (rest : List Location) :
    catalogue readings device (location :: rest) = (device, info) :: catalogue readings (device + 1) rest := by
  rw [catalogue, List.zipIdx_cons, List.filterMap_cons]
  dsimp only
  rw [h]
  rfl

theorem mem_catalogue_iff {locations : List Location} {place : Nat} {info : DeviceInfo} :
    (place, info) ∈ catalogue readings 0 locations ↔
      ∃ location, locations[place]? = some location ∧ Listed (readings place) location info := by
  rw [catalogue, List.mem_filterMap]
  constructor
  · rintro ⟨⟨location, place'⟩, hmem, hinfo⟩
    obtain ⟨info', hinfo', heq⟩ := Option.map_eq_some_iff.mp hinfo
    cases heq
    exact ⟨location, List.mk_mem_zipIdx_iff_getElem?.mp hmem, Readings.info_eq_some_iff.mp hinfo'⟩
  · rintro ⟨location, hplace, listed⟩
    refine ⟨(location, place), List.mk_mem_zipIdx_iff_getElem?.mpr hplace, ?_⟩
    dsimp only
    rw [Readings.info_eq_some_iff.mpr listed]
    rfl

/-- Each device is listed once, in the order of enumeration. -/
theorem catalogue_ascends (device : Nat) (locations : List Location) :
    ((catalogue readings device locations).map Prod.fst).Pairwise (· < ·) := by
  have hplaces : (locations.zipIdx device).Pairwise fun a b => a.2 < b.2 := by
    rw [← List.pairwise_map, List.zipIdx_map_snd]
    exact List.pairwise_lt_range' 1
  rw [List.pairwise_map, catalogue, List.pairwise_filterMap]
  refine hplaces.imp fun {a b} hlt p hp q hq => ?_
  obtain ⟨_, -, rfl⟩ := Option.map_eq_some_iff.mp hp
  obtain ⟨_, -, rfl⟩ := Option.map_eq_some_iff.mp hq
  exact hlt

/-! ## Attempts to open -/

/-- The device that a call tries to open, and what came of it. -/
def attempt? : Event Host → Option (Nat × Except UsbError Unit)
  | ⟨.openDevice device, answer⟩ => some (device, answer)
  | _ => none

/-- The attempts to open a device among these calls. -/
def attempts (log : List (Event Host)) : List (Nat × Except UsbError Unit) := log.filterMap attempt?

theorem attempts_append (log log' : List (Event Host)) :
    attempts (log ++ log') = attempts log ++ attempts log' :=
  List.filterMap_append

theorem anyOffers_attempts (device : Nat) : ∀ indices : List Nat,
    (anyOffers device indices).Always fun log _ => attempts log = []
  | [] => rfl
  | index :: rest => by
    unfold anyOffers
    rw [Host.ask_bind]
    intro answer
    cases answer with
    | error e => exact anyOffers_attempts device rest
    | ok c =>
      dsimp only
      split
      · rfl
      · exact anyOffers_attempts device rest

theorem examine_attempts (device : Nat) (location : Location) :
    (examine device location).Always fun log _ => attempts log = [] := by
  unfold examine
  rw [Host.ask_bind]
  intro answer
  cases answer with
  | error e => rfl
  | ok d =>
    refine (Dialogue.always_bind (Q := fun log _ => attempts log = [])).mpr ?_
    refine (anyOffers_attempts device _).mono fun log offers h => ?_
    cases offers <;> simpa using h

/-- A device is examined without being opened, and found to be what is listed of it. -/
theorem examine_info (device : Nat) (location : Location) :
    Steadily readings (examine device location) fun log found =>
      attempts log = [] ∧ found = (readings device).info location := by
  have hoffers := @examine_offers readings device location
  refine ((examine_attempts device location).and hoffers).mono ?_
  rintro log found ⟨hattempts, hfound⟩ steady
  obtain ⟨hsome, hlisted⟩ := hfound steady
  refine ⟨hattempts, ?_⟩
  cases found with
  | some info => exact (Readings.info_eq_some_iff.mpr (hlisted info rfl)).symm
  | none =>
    cases hinfo : (readings device).info location with
    | none => rfl
    | some info =>
      have hmissed := hsome.mpr (Readings.info_eq_some_iff.mp hinfo).offers
      cases hmissed

theorem examineAll_catalogue : ∀ (locations : List Location) (device : Nat),
    Steadily readings (examineAll device locations) fun _ infos =>
      infos = (catalogue readings device locations).map Prod.snd
  | [], _ => fun _ => rfl
  | location :: rest, device => by
    unfold examineAll
    refine (examine_info device location).bind ?_
    rintro _ found ⟨-, rfl⟩
    refine (examineAll_catalogue rest (device + 1)).bind ?_
    rintro _ more rfl
    intro _
    cases hinfo : (readings device).info location with
    | none => rw [catalogue_of_unlisted hinfo]; rfl
    | some info => rw [catalogue_of_listed hinfo]; rfl

/-! ## Opening one after the other -/

/-- The attempts to open these devices, the first that succeeds of which ends them. -/
inductive Tried : List (Nat × DeviceInfo) → List (Nat × Except UsbError Unit) → Option Nat → Prop
  | none : Tried [] [] none
  | opened {place info rest} : Tried ((place, info) :: rest) [(place, .ok ())] (some place)
  | failed {place info rest e tries opened} : Tried rest tries opened →
    Tried ((place, info) :: rest) ((place, .error e) :: tries) opened

theorem openFirst_tried (filter : Filter) : ∀ (locations : List Location) (device : Nat),
    Steadily readings (openFirst filter device locations) fun log opened =>
      Tried ((catalogue readings device locations).filter fun p => filter.accepts p.2) (attempts log) opened
  | [], _ => fun _ => .none
  | location :: rest, device => by
    unfold openFirst
    refine (examine_info device location).bind ?_
    rintro log found ⟨hlog, rfl⟩
    simp only [attempts_append, hlog, List.nil_append]
    cases hinfo : (readings device).info location with
    | none =>
      rw [catalogue_of_unlisted hinfo]
      exact openFirst_tried filter rest (device + 1)
    | some info =>
      rw [catalogue_of_listed hinfo]
      dsimp only
      split
      · rename_i accepts
        simp only [List.filter_cons, if_pos accepts]
        refine steadily_ask fun answer _ => ?_
        cases answer with
        | error e =>
          exact (openFirst_tried filter rest (device + 1)).mono fun _ _ h steady => .failed (h steady)
        | ok u => exact fun _ => .opened
      · rename_i refuses
        simp only [List.filter_cons, if_neg refuses]
        exact openFirst_tried filter rest (device + 1)

end

/-- Of the wanted devices the first that opens is opened, and those up to it are tried. -/
structure FirstOpened (opens : Nat → Except UsbError Unit) (wanted : List (Nat × DeviceInfo)) (tried : List Nat)
    (opened : Option Nat) : Prop where
  found : ∀ place, opened = some place ↔ ∃ info, Foremost (fun p => opens p.1 = .ok ()) wanted (place, info)
  missing : opened = none ↔ ∀ p ∈ wanted, opens p.1 ≠ .ok ()
  tried : tried = (wanted.map Prod.fst).takeWhile (fun place => !(opens place).isOk) ++ opened.toList

theorem Tried.opened_of_answered {opens : Nat → Except UsbError Unit} {wanted : List (Nat × DeviceInfo)}
    {tries : List (Nat × Except UsbError Unit)} {opened : Option Nat} (tried : Tried wanted tries opened)
    (answered : ∀ t ∈ tries, t.2 = opens t.1) : FirstOpened opens wanted (tries.map Prod.fst) opened := by
  induction tried with
  | none => exact ⟨fun place => iff_of_false nofun fun ⟨_, h⟩ => not_foremost_nil h, by simp, rfl⟩
  | @opened place info rest =>
    have hopens : opens place = .ok () := (answered _ List.mem_cons_self).symm
    refine ⟨fun place' => ?_, iff_of_false nofun fun h => h _ List.mem_cons_self hopens, ?_⟩
    · simp [foremost_cons, hopens, eq_comm]
    · simp [hopens, Except.isOk, Except.toBool]
  | @failed place info rest e tries opened _ ih =>
    have hopens : opens place = .error e := (answered _ List.mem_cons_self).symm
    obtain ⟨hfound, hmissing, htried⟩ := ih fun t ht => answered t (List.mem_cons_of_mem _ ht)
    refine ⟨fun place' => ?_, ?_, ?_⟩
    · simp [foremost_cons, hopens, hfound]
    · simp [hopens, hmissing]
    · simp [hopens, htried, Except.isOk, Except.toBool]

/-! ## On a host -/

/-- The calls begin with an enumeration, which finds devices at these locations. -/
def Enumerated (locations : List Location) (log : List (Event Host)) : Prop :=
  ∃ more, log = ⟨.init, .ok ()⟩ :: ⟨.enumerate, .ok locations⟩ :: more

section

variable {readings : Nat → Readings}

theorem devices_catalogue :
    Steadily readings devices fun log r => ∀ locations, Enumerated locations log →
      r = .ok ((catalogue readings 0 locations).map Prod.snd) := by
  unfold devices
  refine steadily_ask fun answer _ => ?_
  cases answer with
  | error e => rintro - locations ⟨_, ⟨⟩⟩
  | ok u =>
    refine steadily_ask fun answer _ => ?_
    cases answer with
    | error e => rintro - locations ⟨_, ⟨⟩⟩
    | ok locations =>
      refine (examineAll_catalogue locations 0).bind ?_
      rintro log infos rfl - locations' ⟨more, hlog⟩
      cases hlog
      rfl

theorem openDevice_tried (filter : Filter) :
    Steadily readings (openDevice filter) fun log r => ∀ locations, Enumerated locations log →
      ∃ opened,
        Tried ((catalogue readings 0 locations).filter fun p => filter.accepts p.2) (attempts log) opened ∧
        r = (opened.map Except.ok).getD (.error .deviceNotFound) := by
  unfold openDevice
  refine steadily_ask fun answer _ => ?_
  cases answer with
  | error e => rintro - locations ⟨_, ⟨⟩⟩
  | ok u =>
    refine steadily_ask fun answer _ => ?_
    cases answer with
    | error e => rintro - locations ⟨_, ⟨⟩⟩
    | ok locations =>
      refine (openFirst_tried filter locations 0).bind fun log opened htried => ?_
      have htried' : Tried ((catalogue readings 0 locations).filter fun p => filter.accepts p.2)
          (attempts (log ++ [])) opened := by rwa [List.append_nil]
      cases opened with
      | none =>
        rintro - locations' ⟨more, hlog⟩
        cases hlog
        exact ⟨none, htried', rfl⟩
      | some device =>
        rintro - locations' ⟨more, hlog⟩
        cases hlog
        exact ⟨some device, htried', rfl⟩

end

/-- **Opening agrees with listing.** Of devices that say the same of themselves each time, listing gives the
ones for test and measurement, each once and in the order of enumeration. Opening tries those of them that the
filter accepts, in this order and no others, up to the first that opens, and fails exactly if none does. So a
filter for just what is listed of a device opens a device with these ids at this place, or none. -/
theorem opening_agrees_with_listing {σ : Type} (host : Handler Host σ) (x y : σ) {readings : Nat → Readings}
    {locations : List Location} {opens : Nat → Except UsbError Unit} (filter : Filter)
    (enumerated : Enumerated locations (devices.run host.recorded (x, [])).2.2)
    (listed : Steady readings (devices.run host.recorded (x, [])).2.2)
    (enumerated' : Enumerated locations ((openDevice filter).run host.recorded (y, [])).2.2)
    (examined : Steady readings ((openDevice filter).run host.recorded (y, [])).2.2)
    (answered : ∀ t ∈ attempts ((openDevice filter).run host.recorded (y, [])).2.2, t.2 = opens t.1) :
    ∃ found : List (Nat × DeviceInfo),
      (devices.run host.recorded (x, [])).1 = .ok (found.map Prod.snd) ∧
      (found.map Prod.fst).Pairwise (· < ·) ∧
      (∀ place info, (place, info) ∈ found ↔
        ∃ location, locations[place]? = some location ∧ Listed (readings place) location info) ∧
      let wanted := found.filter fun p => filter.accepts p.2
      let opening := (openDevice filter).run host.recorded (y, [])
      (∀ place, opening.1 = .ok place ↔
        ∃ info, Foremost (fun p => opens p.1 = .ok ()) wanted (place, info)) ∧
      (opening.1 = .error .deviceNotFound ↔ ∀ p ∈ wanted, opens p.1 ≠ .ok ()) ∧
      (attempts opening.2.2).map Prod.fst =
        (wanted.map Prod.fst).takeWhile (fun place => !(opens place).isOk) ++ opening.1.toOption.toList ∧
      ∀ info place, filter = .exactly info → opening.1 = .ok place → (place, info) ∈ found := by
  obtain ⟨calls, hlog, hdevices⟩ := devices_catalogue.run listed
  rw [List.nil_append] at hlog
  rw [hlog] at enumerated
  refine ⟨catalogue readings 0 locations, hdevices locations enumerated, catalogue_ascends 0 locations,
    fun place info => mem_catalogue_iff, ?_⟩
  intro wanted opening
  obtain ⟨calls', hlog', hopening⟩ := (openDevice_tried filter).run examined
  rw [List.nil_append] at hlog'
  rw [hlog'] at enumerated' answered
  obtain ⟨opened, htried, hresult⟩ := hopening locations enumerated'
  obtain ⟨hfound, hmissing, hattempts⟩ := htried.opened_of_answered answered
  have hok (place : Nat) : opening.1 = .ok place ↔ opened = some place := by
    rw [hresult]
    cases opened <;> simp
  have herror : opening.1 = .error .deviceNotFound ↔ opened = none := by
    rw [hresult]
    cases opened <;> simp
  refine ⟨fun place => (hok place).trans (hfound place), herror.trans hmissing, ?_, ?_⟩
  · show (attempts ((openDevice filter).run host.recorded (y, [])).2.2).map Prod.fst = _
    rw [hlog', hattempts, hresult]
    cases opened <;> rfl
  · rintro info place rfl hplace
    obtain ⟨info', hfirst⟩ := (hfound place).mp ((hok place).mp hplace)
    obtain ⟨hmem, haccepts⟩ := List.mem_filter.mp hfirst.mem
    obtain rfl : info' = info := by simpa [Filter.exactly] using haccepts
    exact hmem

/-- Of three devices with the wanted ids, behind one of another class, the first cannot be opened and the third
is not tried. One configuration of the second cannot be read. -/
theorem second_of_three_opened :
    let scope : Configuration := ⟨1, [[⟨0, 0, 254, 3, 0, [⟨1, 2, 64⟩, ⟨130, 2, 64⟩]⟩]]⟩
    let bus : Simulated.Bus := {
      devices := [{ info := ⟨⟨1689, 1040⟩, ⟨1, 1⟩⟩, configurations := [.ok ⟨1, [[⟨0, 0, 8, 6, 80, []⟩]]⟩] },
        { info := ⟨⟨1689, 1040⟩, ⟨1, 2⟩⟩, configurations := [.ok scope], faults := [("open", -3)] },
        { info := ⟨⟨1689, 1040⟩, ⟨1, 3⟩⟩, configurations := [.error (-1), .ok scope] },
        { info := ⟨⟨1689, 1040⟩, ⟨2, 1⟩⟩, configurations := [.ok scope] }] }
    let locations : List Location := [⟨1, 1⟩, ⟨1, 2⟩, ⟨1, 3⟩, ⟨2, 1⟩]
    let opens : Nat → Except UsbError Unit := fun place => if place = 1 then .error .access else .ok ()
    let wanted : Filter := .withId ⟨1689, 1040⟩
    Enumerated locations (devices.run Simulated.Bus.host.recorded (bus, [])).2.2 ∧
      Steady (heard bus) (devices.run Simulated.Bus.host.recorded (bus, [])).2.2 ∧
      Enumerated locations ((openDevice wanted).run Simulated.Bus.host.recorded (bus, [])).2.2 ∧
      Steady (heard bus) ((openDevice wanted).run Simulated.Bus.host.recorded (bus, [])).2.2 ∧
      (∀ t ∈ attempts ((openDevice wanted).run Simulated.Bus.host.recorded (bus, [])).2.2, t.2 = opens t.1) ∧
      ((openDevice wanted).run Simulated.Bus.host.recorded (bus, [])).1 = .ok 2 ∧
      (attempts ((openDevice wanted).run Simulated.Bus.host.recorded (bus, [])).2.2).map Prod.fst = [1, 2] ∧
      ∃ found : List (Nat × DeviceInfo),
        (devices.run Simulated.Bus.host.recorded (bus, [])).1 = .ok (found.map Prod.snd) ∧
        ∃ info, Foremost (fun p => opens p.1 = .ok ()) (found.filter fun p => wanted.accepts p.2) (2, info) := by
  intro scope bus locations opens wanted
  have enumerated : Enumerated locations (devices.run Simulated.Bus.host.recorded (bus, [])).2.2 := ⟨_, rfl⟩
  have listed : Steady (heard bus) (devices.run Simulated.Bus.host.recorded (bus, [])).2.2 := by decide +kernel
  have enumerated' : Enumerated locations
      ((openDevice wanted).run Simulated.Bus.host.recorded (bus, [])).2.2 := ⟨_, rfl⟩
  have examined : Steady (heard bus)
      ((openDevice wanted).run Simulated.Bus.host.recorded (bus, [])).2.2 := by decide +kernel
  have answered : ∀ t ∈ attempts ((openDevice wanted).run Simulated.Bus.host.recorded (bus, [])).2.2,
      t.2 = opens t.1 := by decide +kernel
  have hopened : ((openDevice wanted).run Simulated.Bus.host.recorded (bus, [])).1 = .ok 2 := by decide +kernel
  obtain ⟨found, hlisting, -, -, hopening, -⟩ := opening_agrees_with_listing Simulated.Bus.host bus bus wanted
    enumerated listed enumerated' examined answered
  exact ⟨enumerated, listed, enumerated', examined, answered, hopened, by decide +kernel,
    found, hlisting, (hopening 2).mp hopened⟩

end ScopeLink.Usb
