import ScopeLink.Proofs.Usb.Scans
/-!
# From a mode to its endpoints

A mode is three numbers, those of the first setting for test and measurement that a device has, and the
endpoints of a connection are looked for by these numbers in a search of its own. Of a device whose numbers
tell its configurations, interfaces and settings apart (`Numbered`) the two meet: numbers that are taken from
a setting lead back to it within its configuration (`reached_of_numbered`), and to that configuration
(`findEndpoints_reached`).
-/

namespace ScopeLink.Usb

/-! ## Numbers -/

/-- All settings of an interface have its number. Interfaces are told apart by their numbers, and so are the
settings of each of them. An interface without settings would have no number. -/
structure Configuration.Numbered (c : Configuration) : Prop where
  settled : ∀ settings ∈ c.interfaces, settings ≠ []
  shared : ∀ settings ∈ c.interfaces, ∀ s ∈ settings, ∀ s' ∈ settings, s.interface = s'.interface
  apart : c.interfaces.Pairwise fun settings settings' =>
    ∀ s ∈ settings, ∀ s' ∈ settings', s.interface ≠ s'.interface
  settings : ∀ settings ∈ c.interfaces, (settings.map Setting.number).Nodup

instance decidableNumbered (c : Configuration) : Decidable c.Numbered :=
  decidable_of_iff ((∀ settings ∈ c.interfaces, settings ≠ []) ∧
      (∀ settings ∈ c.interfaces, ∀ s ∈ settings, ∀ s' ∈ settings, s.interface = s'.interface) ∧
      (c.interfaces.Pairwise fun settings settings' =>
        ∀ s ∈ settings, ∀ s' ∈ settings', s.interface ≠ s'.interface) ∧
      ∀ settings ∈ c.interfaces, (settings.map Setting.number).Nodup)
    ⟨fun ⟨settled, shared, apart, settings⟩ => ⟨settled, shared, apart, settings⟩,
      fun h => ⟨h.settled, h.shared, h.apart, h.settings⟩⟩

namespace Readings

/-- The configurations that can be read are told apart by their numbers, and so is what is in them. -/
structure Numbered (r : Readings) : Prop where
  apart : (r.readable.map Configuration.number).Nodup
  each : ∀ c ∈ r.readable, c.Numbered

instance decidableNumbered (r : Readings) : Decidable r.Numbered :=
  decidable_of_iff ((r.readable.map Configuration.number).Nodup ∧ ∀ c ∈ r.readable, c.Numbered)
    ⟨fun ⟨apart, each⟩ => ⟨apart, each⟩, fun h => ⟨h.apart, h.each⟩⟩

/-- No other configuration with its number stands in front of one that can be read. -/
theorem Numbered.number_ne {r : Readings} (numbered : r.Numbered) {c d : Configuration}
    {before after : List (Except UsbError Configuration)} (hsplit : r.configurations = before ++ .ok c :: after)
    (hd : .ok d ∈ before) : d.number ≠ c.number := by
  have hapart := numbered.apart
  rw [readable, hsplit, List.filterMap_append, List.map_append, List.nodup_append] at hapart
  refine hapart.2.2 d.number (List.mem_map_of_mem (List.mem_filterMap.mpr ⟨.ok d, hd, rfl⟩)) c.number ?_
  exact List.mem_map_of_mem (List.mem_filterMap.mpr ⟨.ok c, List.mem_cons_self, rfl⟩)

end Readings

/-! ## From numbers to a setting -/

theorem findInterface_append {number : UInt8} {settings : Settings} {after : List Settings}
    (settled : settings ≠ []) (shared : ∀ s ∈ settings, s.interface = number) : ∀ before : List Settings,
    (∀ others ∈ before, others ≠ [] ∧ ∀ s ∈ others, s.interface ≠ number) →
      findInterface number (before ++ settings :: after) = .ok settings
  | [], _ => by
    cases settings with
    | nil => exact absurd rfl settled
    | cons first rest => exact if_pos (shared first List.mem_cons_self)
  | [] :: _, h => absurd rfl (h [] List.mem_cons_self).1
  | (first :: others) :: before, h => by
    have hfirst : first.interface ≠ number := (h _ List.mem_cons_self).2 first List.mem_cons_self
    rw [List.cons_append, findInterface, if_neg hfirst]
    exact findInterface_append settled shared before fun others hothers =>
      h others (List.mem_cons_of_mem _ hothers)

theorem find?_number {settings : Settings} (nodup : (settings.map Setting.number).Nodup) {s : Setting}
    (hs : s ∈ settings) : (settings.find? fun s' => s'.number == s.number) = some s := by
  obtain ⟨before, after, rfl⟩ := List.append_of_mem hs
  rw [List.map_append, List.nodup_append] at nodup
  obtain ⟨-, -, hapart⟩ := nodup
  rw [← foremost_iff_find?]
  refine ⟨before, after, rfl, by simp, fun s' hs' => ?_⟩
  have hne := hapart s'.number (List.mem_map_of_mem hs') s.number (by simp)
  simpa using hne

theorem findInterface_of_numbered {c : Configuration} (numbered : c.Numbered) {settings : Settings}
    (hsettings : settings ∈ c.interfaces) {s : Setting} (hs : s ∈ settings) :
    findInterface s.interface c.interfaces = .ok settings := by
  obtain ⟨before, after, hsplit⟩ := List.append_of_mem hsettings
  have hapart := numbered.apart
  rw [hsplit, List.pairwise_append] at hapart
  rw [hsplit]
  refine findInterface_append (numbered.settled _ hsettings)
    (fun s' hs' => numbered.shared _ hsettings s' hs' s hs) before fun others hothers => ⟨?_, ?_⟩
  · exact numbered.settled _ (by rw [hsplit]; exact List.mem_append_left _ hothers)
  · exact fun s' hs' => hapart.2.2 others hothers settings List.mem_cons_self s' hs' s hs

/-- A search by the numbers of a mode ends at a setting: the last configuration that is read is the one it is
in, and its interface and it are what is found there. -/
structure Reached (device : Nat) (mode : Mode) (c : Configuration) (settings : Settings) (s : Setting)
    (log : List (Event Host)) (result : Outcome DiscoveryError Endpoints) : Prop where
  configuration : ∃ before index, log = before ++ [⟨.configuration device index, .ok c⟩]
  interface : findInterface mode.interface c.interfaces = .ok settings
  setting : (settings.find? fun s => s.number == mode.setting) = some s
  endpoints : result = .ofExcept s.connectionEndpoints

/-- The numbers of a setting lead to it in its configuration. -/
theorem reached_of_numbered {device : Nat} {c : Configuration} (numbered : c.Numbered) {settings : Settings}
    (hsettings : settings ∈ c.interfaces) {s : Setting} (hs : s ∈ settings) {log : List (Event Host)}
    (configuration : ∃ before index, log = before ++ [⟨.configuration device index, .ok c⟩]) :
    Reached device ⟨c.number, s.interface, s.number⟩ c settings s log
      (Mode.endpointsIn ⟨c.number, s.interface, s.number⟩ c) := by
  have hinterface := findInterface_of_numbered numbered hsettings hs
  have hsetting := find?_number (numbered.settings _ hsettings) hs
  refine ⟨configuration, hinterface, hsetting, ?_⟩
  simp only [Mode.endpointsIn, hinterface, Outcome.andThen, hsetting]

/-! ## Where a mode is from -/

/-- A setting is found in the first interface that has one, and is the first there. -/
theorem foremost_of_firstTestAndMeasurement {c : Configuration} {s : Setting}
    (h : c.firstTestAndMeasurement = some s) : ∃ settings,
      Foremost (fun settings => ∃ s ∈ settings, s.isTestAndMeasurement = true) c.interfaces settings ∧
      Foremost (fun s => s.isTestAndMeasurement = true) settings s := by
  obtain ⟨before, settings, after, hsplit, hfound, hbefore⟩ := List.findSome?_eq_some_iff.mp h
  refine ⟨settings, ⟨before, after, hsplit, ?_, fun others hothers => ?_⟩, foremost_iff_find?.mpr hfound⟩
  · exact ⟨s, List.mem_of_find?_eq_some hfound, List.find?_some hfound⟩
  · simpa using List.find?_eq_none.mp (hbefore others hothers)

/-- All configurations in front of the one that a mode is selected from can be read and offer none. -/
theorem Selected.foremost {configurations : List (Except UsbError Configuration)}
    {selected : Except DiscoveryError Mode} (h : Selected configurations selected) :
    ∀ mode, selected = .ok mode → ∃ c s, Foremost (fun c => ¬ Plain c) configurations (.ok c) ∧
      c.firstTestAndMeasurement = some s ∧ mode = ⟨c.number, s.interface, s.number⟩ := by
  induction h with
  | none | unreadable => exact nofun
  | @found c s rest hfound =>
    rintro mode hmode
    have hplain : ¬ Plain (.ok c) := fun plain => not_offering_of_plain plain (offering_of_found hfound)
    exact ⟨c, s, foremost_cons.mpr (.inl ⟨hplain, rfl⟩), hfound, (Except.ok.inj hmode).symm⟩
  | other hnone _ ih =>
    intro mode hmode
    obtain ⟨c, s, hfirst, hfound, rfl⟩ := ih mode hmode
    exact ⟨c, s, foremost_cons.mpr (.inr ⟨not_not_intro (plain_of_none hnone), hfirst⟩), hfound, rfl⟩

section

variable {readings : Nat → Readings}

theorem selectMode_foremost (device : Nat) :
    Steadily readings (selectMode device) fun _ selected => ∀ mode, selected = .ok mode → ∃ c s,
      Foremost (fun c => ¬ Plain c) (readings device).configurations (.ok c) ∧
      c.firstTestAndMeasurement = some s ∧ mode = ⟨c.number, s.interface, s.number⟩ := by
  unfold selectMode
  refine steadily_ask fun answer (faithful : answer = _) => ?_
  rw [Readings.configurations, ← faithful]
  cases answer with
  | error e =>
    intro _ mode hmode
    cases hmode
  | ok d => exact (firstMode_selected device _).mono fun _ _ h steady => (h steady).foremost

/-! ## The search for a configuration -/

/-- A configuration that can be read, and has another number. -/
def Other (number : UInt8) : Except UsbError Configuration → Prop
  | .ok c => c.number ≠ number
  | .error _ => False

theorem findConfiguration_foremost (device : Nat) (number : UInt8) :
    ∀ indices : List Nat, Steadily readings (findConfiguration device number indices) fun log found => ∀ c,
      Foremost (fun c => ¬ Other number c) (indices.map (readings device).configuration) (.ok c) →
        found = .ok c ∧ ∃ before index, log = before ++ [⟨.configuration device index, .ok c⟩]
  | [] => fun _ c h => absurd h not_foremost_nil
  | index :: rest => by
    unfold findConfiguration
    refine steadily_ask fun answer (faithful : answer = _) => ?_
    rw [List.map_cons, ← faithful]
    cases answer with
    | error e =>
      intro _ c hc
      obtain ⟨-, hc⟩ | ⟨hother, -⟩ := foremost_cons.mp hc
      · cases hc
      · exact absurd id hother
    | ok d =>
      dsimp only
      split
      · rename_i hnumber
        intro _ c hc
        obtain ⟨-, hc⟩ | ⟨hother, -⟩ := foremost_cons.mp hc
        · cases hc
          exact ⟨rfl, [], index, rfl⟩
        · exact absurd (fun other => other hnumber) hother
      · rename_i hnumber
        refine (findConfiguration_foremost device number rest).mono fun log found h steady c hc => ?_
        obtain ⟨hother, -⟩ | ⟨-, hc⟩ := foremost_cons.mp hc
        · exact absurd hnumber hother
        · obtain ⟨hfound, before, last, rfl⟩ := h steady c hc
          exact ⟨hfound, ⟨.configuration device index, .ok d⟩ :: before, last, rfl⟩

/-- The numbers of a setting lead to it, in the configuration it was found in. -/
theorem findEndpoints_reached {device : Nat} (numbered : (readings device).Numbered) {c : Configuration}
    (first : Foremost (fun c => ¬ Plain c) (readings device).configurations (.ok c)) {settings : Settings}
    (hsettings : settings ∈ c.interfaces) {s : Setting} (hs : s ∈ settings) :
    Steadily readings (findEndpoints device ⟨c.number, s.interface, s.number⟩) fun log result =>
      Reached device ⟨c.number, s.interface, s.number⟩ c settings s log result := by
  have hc : c ∈ (readings device).readable := Readings.mem_readable_iff.mpr first.mem
  have hfirst : Foremost (fun c' => ¬ Other c.number c') (readings device).configurations (.ok c) := by
    obtain ⟨before, after, hsplit, -, hbefore⟩ := first
    -- all in front can be read, and so have numbers other than that of `c`
    refine ⟨before, after, hsplit, fun other => other rfl, fun d hd => not_not_intro ?_⟩
    have plain := Classical.not_not.mp (hbefore d hd)
    cases d with
    | ok d => exact numbered.number_ne hsplit hd
    | error e => exact plain.elim
  unfold findEndpoints
  refine steadily_ask fun answer (faithful : answer = _) => ?_
  rw [Readings.configurations, ← faithful] at hfirst
  cases answer with
  | error e => exact absurd hfirst not_foremost_nil
  | ok d =>
    refine (findConfiguration_foremost device c.number _).bind fun log found hfound => ?_
    obtain ⟨rfl, before, index, rfl⟩ := hfound c hfirst
    refine fun _ => reached_of_numbered (numbered.each c hc) hsettings hs ?_
    exact ⟨⟨.deviceDescriptor device, .ok d⟩ :: before, index, by rw [List.append_nil]; rfl⟩

end

/-! ## The endpoints of a setting -/

/-- The endpoint is of this type and direction. -/
def Endpoint.Serves (type : TransferType) (direction : Direction) (e : Endpoint) : Prop :=
  e.transferType = type ∧ e.direction = direction

section

variable {s : Setting} {type : TransferType} {direction : Direction}

theorem endpoint?_eq_some_iff {e : Endpoint} :
    s.endpoint? type direction = some e ↔ Foremost (Endpoint.Serves type direction) s.endpoints e := by
  rw [Setting.endpoint?, ← foremost_iff_find?]
  simp only [Bool.and_eq_true, beq_iff_eq]
  rfl

theorem endpoint?_eq_none_iff :
    s.endpoint? type direction = none ↔ ∀ e ∈ s.endpoints, ¬ e.Serves type direction := by
  simp [Setting.endpoint?, List.find?_eq_none, Endpoint.Serves]

end

/-- What is made of the endpoints of a setting: the first of each kind in the order of their descriptors, of
which one for interrupts may be missing. -/
structure Equipped (s : Setting) (result : Outcome DiscoveryError Endpoints) : Prop where
  found : ∀ endpoints, result = .ok endpoints ↔
    Foremost (Endpoint.Serves .bulk .outward) s.endpoints endpoints.bulkOut ∧
    Foremost (Endpoint.Serves .bulk .inward) s.endpoints endpoints.bulkIn ∧
    ∀ e, endpoints.interrupt = some e ↔ Foremost (Endpoint.Serves .interrupt .inward) s.endpoints e
  noBulkOut : result = .failed .bulkOutNotFound ↔ ∀ e ∈ s.endpoints, ¬ e.Serves .bulk .outward
  noBulkIn : result = .failed .bulkInNotFound ↔
    (∃ e ∈ s.endpoints, e.Serves .bulk .outward) ∧ ∀ e ∈ s.endpoints, ¬ e.Serves .bulk .inward
  /-- Nothing else goes wrong. -/
  only : (∃ endpoints, result = .ok endpoints) ∨ result = .failed .bulkOutNotFound ∨
    result = .failed .bulkInNotFound

theorem equipped_connectionEndpoints (s : Setting) : Equipped s (.ofExcept s.connectionEndpoints) := by
  unfold Setting.connectionEndpoints
  cases hout : s.endpoint? .bulk .outward with
  | none =>
    have hnone := endpoint?_eq_none_iff.mp hout
    refine ⟨fun endpoints => iff_of_false nofun fun h => ?_, iff_of_true rfl hnone, iff_of_false nofun ?_,
      .inr (.inl rfl)⟩
    · exact hnone _ h.1.mem h.1.holds
    · rintro ⟨⟨e, he, serves⟩, -⟩
      exact hnone e he serves
  | some bulkOut =>
    have hfirst := endpoint?_eq_some_iff.mp hout
    have hsome : ¬ ∀ e ∈ s.endpoints, ¬ e.Serves .bulk .outward := fun h => h _ hfirst.mem hfirst.holds
    cases hin : s.endpoint? .bulk .inward with
    | none =>
      have hnone := endpoint?_eq_none_iff.mp hin
      refine ⟨fun endpoints => iff_of_false nofun fun h => ?_, iff_of_false nofun hsome,
        iff_of_true rfl ⟨⟨_, hfirst.mem, hfirst.holds⟩, hnone⟩, .inr (.inr rfl)⟩
      exact hnone _ h.2.1.mem h.2.1.holds
    | some bulkIn =>
      have hfirst' := endpoint?_eq_some_iff.mp hin
      refine ⟨fun endpoints => ?_, iff_of_false nofun hsome,
        iff_of_false nofun fun h => h.2 _ hfirst'.mem hfirst'.holds, .inl ⟨_, rfl⟩⟩
      simp only [← endpoint?_eq_some_iff, hout, hin, Outcome.ofExcept]
      constructor
      · intro h
        cases h
        exact ⟨rfl, rfl, fun e => Iff.rfl⟩
      · rintro ⟨hbulkOut, hbulkIn, hinterrupt⟩
        obtain ⟨_, _, interrupt⟩ := endpoints
        cases hbulkOut
        cases hbulkIn
        obtain rfl : interrupt = s.endpoint? .interrupt .inward := Option.ext hinterrupt
        rfl

/-- **From a mode to its endpoints.** Of a device whose configurations, interfaces and settings are told apart
by their numbers, and which says the same of itself each time, a mode that was selected leads back to the first
setting for test and measurement, interface by interface of the first configuration that offers one. Its
endpoints are those of that setting, or else one that is needed is missing there. -/
theorem endpoints_of_selected {σ : Type} (host : Handler Host σ) (x y : σ) {readings : Nat → Readings}
    {device : Nat} (numbered : (readings device).Numbered) {mode : Mode}
    (selected : ((selectMode device).run host.recorded (x, [])).1 = .ok mode)
    (scanned : Steady readings ((selectMode device).run host.recorded (x, [])).2.2)
    (searched : Steady readings ((findEndpoints device mode).run host.recorded (y, [])).2.2) :
    ∃ c settings s, Foremost Offering (readings device).configurations (.ok c) ∧
      Foremost (fun settings => ∃ s ∈ settings, s.isTestAndMeasurement = true) c.interfaces settings ∧
      Foremost (fun s => s.isTestAndMeasurement = true) settings s ∧
      mode = ⟨c.number, s.interface, s.number⟩ ∧
      let found := (findEndpoints device mode).run host.recorded (y, [])
      Reached device mode c settings s found.2.2 found.1 ∧ Equipped s found.1 := by
  obtain ⟨_, -, hmode⟩ := (selectMode_foremost device).run scanned
  obtain ⟨c, s, hfirst, hfound, rfl⟩ := hmode mode selected
  obtain ⟨settings, hsettings, hs⟩ := foremost_of_firstTestAndMeasurement hfound
  obtain ⟨calls, hlog, hreached⟩ := (findEndpoints_reached numbered hfirst hsettings.mem hs.mem).run searched
  rw [List.nil_append] at hlog
  have hoffering : Foremost Offering (readings device).configurations (.ok c) := by
    obtain ⟨before, after, hsplit, -, hbefore⟩ := hfirst
    refine ⟨before, after, hsplit, offering_of_found hfound, fun d hd => ?_⟩
    exact not_offering_of_plain (Classical.not_not.mp (hbefore d hd))
  refine ⟨c, settings, s, hoffering, hsettings, hs, rfl, ?_, ?_⟩
  · rw [hlog]
    exact hreached
  · rw [hreached.endpoints]
    exact equipped_connectionEndpoints s

/-- The setting stands behind one of another class in its interface, and one endpoint of each kind behind
others. The interface in front has a setting with its number, and a configuration behind cannot be read. -/
theorem endpoints_of_selected_behind_others :
    let bus : Simulated.Bus := {
      devices := [{
        info := ⟨⟨1689, 1040⟩, ⟨1, 2⟩⟩
        configurations := [.ok ⟨2, [[⟨0, 1, 8, 6, 80, [⟨1, 2, 64⟩]⟩]]⟩,
          .ok ⟨1, [[⟨0, 0, 8, 6, 80, []⟩, ⟨0, 1, 255, 0, 0, [⟨1, 2, 64⟩, ⟨129, 2, 64⟩]⟩],
            [⟨3, 0, 10, 0, 0, []⟩,
              ⟨3, 1, 254, 3, 1, [⟨131, 3, 8⟩, ⟨130, 2, 512⟩, ⟨2, 2, 512⟩, ⟨132, 2, 64⟩, ⟨4, 2, 64⟩]⟩]]⟩,
          .error (-1)] }] }
    let selected := (selectMode 0).run Simulated.Bus.host.recorded (bus, [])
    let found := (findEndpoints 0 ⟨1, 3, 1⟩).run Simulated.Bus.host.recorded (bus, [])
    (heard bus 0).Numbered ∧ selected.1 = .ok ⟨1, 3, 1⟩ ∧ Steady (heard bus) selected.2.2 ∧
      Steady (heard bus) found.2.2 ∧ found.1 = .ok ⟨⟨2, 2, 512⟩, ⟨130, 2, 512⟩, some ⟨131, 3, 8⟩⟩ ∧
      ∃ c settings s, Foremost Offering (heard bus 0).configurations (.ok c) ∧
        Foremost (fun settings => ∃ s ∈ settings, s.isTestAndMeasurement = true) c.interfaces settings ∧
        Foremost (fun s => s.isTestAndMeasurement = true) settings s ∧
        ⟨1, 3, 1⟩ = Mode.mk c.number s.interface s.number ∧
        Reached 0 ⟨1, 3, 1⟩ c settings s found.2.2 found.1 ∧ Equipped s found.1 := by
  intro bus selected found
  have numbered : (heard bus 0).Numbered := by decide +kernel
  have hselected : selected.1 = .ok ⟨1, 3, 1⟩ := by decide +kernel
  have scanned : Steady (heard bus) selected.2.2 := by decide +kernel
  have searched : Steady (heard bus) found.2.2 := by decide +kernel
  exact ⟨numbered, hselected, scanned, searched, by decide +kernel,
    endpoints_of_selected Simulated.Bus.host bus bus numbered hselected scanned searched⟩

end ScopeLink.Usb
