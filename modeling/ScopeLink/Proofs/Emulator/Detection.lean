import ScopeLink.Proofs.Emulator.Acquisition
import ScopeLink.Proofs.Emulator.Deliveries
/-!
# Detection

The identification of a device comes back through a session as it was, less the blanks at its two ends, and of
what is left only the vendor and the model count (`Names`). A device is detected by the first row of the table
that fits them.
-/

namespace ScopeLink

open Text (isDelimiter trimField)

/-! ## What a text names -/

/-- The vendor stands in front of the first delimiter and the model between that and the second, both with
blanks around them. There must be a third delimiter. -/
inductive Names : (text vendor model : List Char) → Prop
  | intro {vendor model rest : List Char} {d d' : Char} : (∀ c ∈ vendor, isDelimiter c = false) →
    isDelimiter d = true → (∀ c ∈ model, isDelimiter c = false) → isDelimiter d' = true →
    (∃ c ∈ rest, isDelimiter c = true) →
    Names (vendor ++ d :: (model ++ d' :: rest)) (trimField vendor) (trimField model)

theorem exists_names_iff {text : List Char} :
    (∃ vendor model, Names text vendor model) ↔ 3 ≤ text.countP isDelimiter := by
  constructor
  · rintro ⟨_, _, ⟨-, hd, -, hd', hrest⟩⟩
    have hpos := List.countP_pos_iff.mpr hrest
    rw [List.countP_append, List.countP_cons_of_pos hd, List.countP_append, List.countP_cons_of_pos hd']
    omega
  · intro hcount
    have hpos : 0 < text.countP isDelimiter := by omega
    obtain ⟨vendor, d, rest, rfl, hd, hvendor, hcut⟩ := Text.exists_cut hpos
    have hpos' : 0 < rest.countP isDelimiter := by omega
    obtain ⟨model, d', rest', rfl, hd', hmodel, hcut'⟩ := Text.exists_cut hpos'
    have hmore : ∃ c ∈ rest', isDelimiter c = true := List.countP_pos_iff.mp (by omega)
    exact ⟨_, _, .intro hvendor hd hmodel hd' hmore⟩

namespace Instrument

/-- An identification is read for what it names. -/
theorem read_of_names {text : String} {vendor model : List Char} (names : Names text.toList vendor model) :
    ∃ serial revision, Identity.read text =
      .ok ⟨String.ofList vendor, String.ofList model, serial, revision⟩ := by
  generalize htext : text.toList = cs at names
  cases names with
  | @intro first second rest d d' hvendor hd hmodel hd' hrest =>
    -- the fourth piece is the last asked for, and keeps any more delimiters there are
    obtain ⟨serial, d'', revision, rfl, hd'', hserial, -⟩ := Text.exists_cut (List.countP_pos_iff.mpr hrest)
    have hpieces : Text.pieces 4 (first ++ d :: (second ++ d' :: (serial ++ d'' :: revision))) =
        [first, second, serial, revision] := by
      rw [Text.pieces_append hd 2 _ hvendor, Text.pieces_append hd' 1 _ hmodel,
        Text.pieces_append hd'' 0 _ hserial, Text.pieces]
    refine ⟨String.ofList (trimField serial), String.ofList (trimField revision), ?_⟩
    rw [Identity.read, htext, Text.fields, hpieces]
    rfl

theorem read_of_few_delimiters {text : String} (few : text.toList.countP isDelimiter < 3) :
    ∃ e, Identity.read text = .error e := by
  have hlength : (Text.fields 4 text.toList).length < 4 := by
    rw [Text.fields, List.length_map, Text.length_pieces]
    omega
  unfold Identity.read
  split
  · rename_i hfields
    rw [hfields] at hlength
    simp at hlength
  · exact ⟨_, rfl⟩

/-- What a row of the table asks for is there, regardless of the case of letters. -/
structure ProfileRow.Fits (row : ProfileRow) (vendor model : List Char) : Prop where
  vendor : ∀ wanted, row.vendor = some wanted → wanted.toList.map Char.toLower = vendor.map Char.toLower
  model : ∀ wanted, row.model = some wanted → wanted.toList.map Char.toLower = model.map Char.toLower

theorem ProfileRow.admits_iff {row : ProfileRow} {vendor model : List Char} :
    row.admits (String.ofList vendor) (String.ofList model) = true ↔ row.Fits vendor model := by
  simp only [ProfileRow.admits, Bool.and_eq_true, Option.all_eq_true, Text.eqIgnoreCase, beq_iff_eq,
    String.toList_ofList]
  constructor
  · rintro ⟨hvendor, hmodel⟩
    exact ⟨hvendor, hmodel⟩
  · rintro ⟨hvendor, hmodel⟩
    exact ⟨hvendor, hmodel⟩

/-- The case of the letters is of no account. -/
theorem ProfileRow.fits_congr {row : ProfileRow} {vendor vendor' model model' : List Char}
    (hvendor : vendor.map Char.toLower = vendor'.map Char.toLower)
    (hmodel : model.map Char.toLower = model'.map Char.toLower) :
    row.Fits vendor model ↔ row.Fits vendor' model' := by
  constructor
  · rintro ⟨h, h'⟩
    exact ⟨fun wanted hw => (h wanted hw).trans hvendor, fun wanted hw => (h' wanted hw).trans hmodel⟩
  · rintro ⟨h, h'⟩
    exact ⟨fun wanted hw => (h wanted hw).trans hvendor.symm, fun wanted hw => (h' wanted hw).trans hmodel.symm⟩

theorem matchProfile_eq_some_iff {table : List ProfileRow} {vendor model : List Char} {profile : Profile} :
    matchProfile table (String.ofList vendor) (String.ofList model) = some profile ↔
      ∃ row, Foremost (fun row => row.Fits vendor model) table row ∧ row.profile = profile := by
  rw [matchProfile, Option.map_eq_some_iff]
  simp only [← ProfileRow.admits_iff, foremost_iff_find?]

end Instrument

namespace Session

variable {patience : Nat}

open Instrument

/-! ## Detection of an emulator -/

/-- A ready session on a device with nothing queued, whose identification fits the room for it. The frame of
the question for it has 20 bytes. -/
structure Identifiable (s : Session) (e : Emulator) : Prop extends Attached s e where
  ready : s.state = .ready
  queue : e.queue = []
  buffer : 20 ≤ s.config.bufferSize
  packet : 20 ≤ e.maxPacket
  identity : (Bytes.ofString e.identity).length ≤ 254

/-- The identification is read without the blanks around it and the newline that it was sent with. -/
theorem run_identify_of_identifiable {s : Session} {e : Emulator} (h : Identifiable s e) :
    ∃ s' e', (identify s patience).run Emulator.port e =
      ((.ofExcept (Identity.read (String.ofList (trimField e.identity.toList))), s'), e') := by
  have hreply := e.receive_identityQuery.1
  obtain ⟨hlength, hne⟩ := Emulator.identification_bounds (e := e) (Nat.lt_succ_of_le h.identity)
  have hfits : Fits s e (Bytes.ofString identityQuery).length := ⟨h.ready, h.packet, h.buffer⟩
  have hroom : Bytes.zeros identityRoom ≠ [] := by decide
  obtain ⟨s', -, ⟨-, i, j, hrun⟩ | ⟨hunfit, -⟩⟩ :=
    run_ask s.config.timeout h.sized h.small h.isOpen h.queue hroom fun _ => by rwa [Bytes.length_zeros]
  · have hread : (answerText (e.replyTo (Bytes.ofString identityQuery)) >>= Identity.read) =
        Identity.read (String.ofList (trimField e.identity.toList)) := by
      have hanswer := answerText_ofString (String.ofList (e.identity.toList ++ ['\n']))
      rw [Bytes.ofString, String.toList_ofList, ← hreply, Text.trimField_append_singleton (by decide)] at hanswer
      rw [hanswer]
      exact pure_bind _ _
    have hquery := run_query_of_told Identity.read hne hrun
    rw [hread] at hquery
    exact ⟨s', _, hquery⟩
  · exact absurd hfits hunfit

theorem run_detect_of_identifiable {s : Session} {e : Emulator} (h : Identifiable s e) :
    ((detect s patience).run Emulator.port e).1.1 =
      .ok (match Identity.read (String.ofList (trimField e.identity.toList)) with
        | .ok identity => matchProfile detectionTable identity.vendor identity.model
        | .error _ => none) := by
  obtain ⟨s', e', hrun⟩ := run_identify_of_identifiable h
  unfold detect
  rw [Dialogue.run_bind, hrun]
  cases Identity.read (String.ofList (trimField e.identity.toList)) <;> rfl

/-- What a device is detected as, if its identification names a vendor and a model. -/
theorem run_detect_of_names {s : Session} {e : Emulator} (h : Identifiable s e) {vendor model : List Char}
    (names : Names (trimField e.identity.toList) vendor model) :
    ((detect s patience).run Emulator.port e).1.1 =
      .ok (matchProfile detectionTable (String.ofList vendor) (String.ofList model)) := by
  rw [← String.toList_ofList (l := trimField e.identity.toList)] at names
  obtain ⟨serial, revision, hread⟩ := read_of_names names
  rw [run_detect_of_identifiable h, hread]

/-- Nothing is detected of one that has too few fields. -/
theorem run_detect_of_not_names {s : Session} {e : Emulator} (h : Identifiable s e)
    (unnamed : ¬ ∃ vendor model, Names (trimField e.identity.toList) vendor model) :
    ((detect s patience).run Emulator.port e).1.1 = .ok none := by
  rw [exists_names_iff, Nat.not_le] at unnamed
  rw [← String.toList_ofList (l := trimField e.identity.toList)] at unnamed
  obtain ⟨err, hread⟩ := read_of_few_delimiters unnamed
  rw [run_detect_of_identifiable h, hread]

/-- **Detection by vendor and model.** Whatever the identification of a device, a ready session with nothing
left over from before detects the profile of the first row that fits the vendor and the model named there, and
none if no row does or none are named, which is so exactly if there are fewer than three delimiters. Nothing
else makes a difference, and of what is named the case of letters does not. -/
theorem detection_by_vendor_and_model (patience : Nat) {s : Session} {e : Emulator} (h : Identifiable s e) :
    let text := trimField e.identity.toList
    let detected := ((detect s patience).run Emulator.port e).1.1
    (∃ found, detected = .ok found) ∧
    (∀ profile, detected = .ok (some profile) ↔ ∃ vendor model row, Names text vendor model ∧
      Foremost (fun row => row.Fits vendor model) detectionTable row ∧ row.profile = profile) ∧
    ((∃ vendor model, Names text vendor model) ↔ 3 ≤ text.countP isDelimiter) ∧
    ∀ (patience' : Nat) (s' : Session) (e' : Emulator) (vendor vendor' model model' : List Char),
      Identifiable s' e' → Names text vendor model → Names (trimField e'.identity.toList) vendor' model' →
      vendor.map Char.toLower = vendor'.map Char.toLower → model.map Char.toLower = model'.map Char.toLower →
      ((detect s' patience').run Emulator.port e').1.1 = detected := by
  intro text detected
  refine ⟨⟨_, run_detect_of_identifiable h⟩, fun profile => ?_, exists_names_iff, ?_⟩
  · constructor
    · intro hdetected
      by_cases named : ∃ vendor model, Names text vendor model
      · obtain ⟨vendor, model, names⟩ := named
        have hmatch := Outcome.ok.inj ((run_detect_of_names h names).symm.trans hdetected)
        obtain ⟨row, hrow, hprofile⟩ := matchProfile_eq_some_iff.mp hmatch
        exact ⟨vendor, model, row, names, hrow, hprofile⟩
      · cases (run_detect_of_not_names h named).symm.trans hdetected
    · rintro ⟨vendor, model, row, names, hrow, hprofile⟩
      have hmatch := matchProfile_eq_some_iff.mpr ⟨row, hrow, hprofile⟩
      exact (run_detect_of_names h names).trans (congrArg Outcome.ok hmatch)
  · intro patience' s' e' vendor vendor' model model' h' names names' hvendor hmodel
    have hmatch : matchProfile detectionTable (String.ofList vendor') (String.ofList model') =
        matchProfile detectionTable (String.ofList vendor) (String.ofList model) := by
      refine Option.ext fun profile => ?_
      simp only [matchProfile_eq_some_iff, ProfileRow.fits_congr hvendor hmodel]
    calc ((detect s' patience').run Emulator.port e').1.1
      _ = .ok (matchProfile detectionTable (String.ofList vendor') (String.ofList model')) :=
        run_detect_of_names h' names'
      _ = .ok (matchProfile detectionTable (String.ofList vendor) (String.ofList model)) := by rw [hmatch]
      _ = detected := (run_detect_of_names h names).symm

/-- Other blanks and delimiters than usual, other letters than in the table, and a request left over from
before; the buffers and the packets are as small as may be. -/
theorem detection_of_odd_identity :
    let s : Session := { new { bufferSize := 20, tagPolicy := .matchRequest } with state := .ready }
    let e : Emulator := {
      identity := "\tAgilent technologies ;DSO\n,,1;2\r\n"
      maxPacket := 20, isOpen := true, pending := some (7, 4) }
    Identifiable s e ∧
      ((detect s usualPatience).run Emulator.port e).1.1 = .ok (some Profile.keysight) := by
  intro s e
  have sized : s.Sized := (kept_state _ _).sized (sized_new _)
  have h : Identifiable s e := {
    sized, small := by decide, isOpen := fun _ => rfl, ready := rfl, queue := rfl, buffer := by decide
    packet := by decide, identity := by decide +kernel }
  refine ⟨h, ((detection_by_vendor_and_model usualPatience h).2.1 Profile.keysight).mpr ?_⟩
  have htext : trimField e.identity.toList =
      "Agilent technologies ".toList ++ ';' :: ("DSO".toList ++ '\n' :: ",,1;2".toList) := by decide +kernel
  have hvendor : trimField "Agilent technologies ".toList = "Agilent technologies".toList := by decide +kernel
  rw [htext]
  refine ⟨_, _, { vendor := some "AGILENT TECHNOLOGIES", profile := .keysight },
    .intro (by simp [isDelimiter]) (by decide) (by simp [isDelimiter]) (by decide) (by simp [isDelimiter]), ?_, rfl⟩
  rw [hvendor]
  simp only [← ProfileRow.admits_iff]
  exact foremost_iff_find?.mpr (by decide +kernel)

end Session

end ScopeLink
