import ScopeLink.Instrument.Reply
import ScopeLink.Proofs.Fields
/-!
# Printed identities

An identity is printed with commas between its fields and read back from any three delimiters. `Readable` is
what it takes for that to give the same identity: no delimiter in front of the revision, and no blanks at the
ends of a field. Every identity that was read is so (`readable_of_read`), whatever delimiters it was read from.
-/

namespace ScopeLink.Instrument.Identity

open Text (delimiterCount Undivided FieldOf Cut)

/-- Vendor, model, serial number and revision, in this order. -/
def fields (i : Identity) : List String := [i.vendor, i.model, i.serial, i.revision]

/-- No field in front of the revision has a delimiter in it, and none of the four begins or ends with a space, a
carriage return, a newline or a tab. -/
structure Readable (i : Identity) : Prop where
  undivided : ∀ field ∈ [i.vendor, i.model, i.serial], Undivided field.toList
  begins : ∀ field ∈ i.fields, ∀ c, field.toList.head? = some c → c ∉ [' ', '\r', '\n', '\t']
  ends : ∀ field ∈ i.fields, ∀ c, field.toList.getLast? = some c → c ∉ [' ', '\r', '\n', '\t']

/-! ## Reading -/

theorem read_eq_ok_iff_fields {text : String} {i : Identity} :
    read text = .ok i ↔ Text.fields 4 text.toList = i.fields.map String.toList := by
  unfold read
  split
  · rename_i vendor model serial revision hfields
    rw [hfields]
    obtain ⟨v, m, s, r⟩ := i
    simp [fields, ← String.toList_inj]
  · rename_i found hfound
    constructor
    · nofun
    · intro h
      exact absurd h (hfound _ _ _ _)

/-- The text is cut into four pieces, of which the fields are what is left without blanks at the ends. Only the
last piece may have a delimiter in it. -/
theorem read_eq_ok_iff {text : String} {i : Identity} : read text = .ok i ↔
    ∃ raw ds, Cut 4 text.toList raw ds ∧ List.Forall₂ FieldOf raw (i.fields.map String.toList) := by
  rw [read_eq_ok_iff_fields, Text.fields_eq_iff]

/-- Below four fields the error tells how many there were. -/
theorem read_eq_error_iff {text : String} {e : InstrumentError} : read text = .error e ↔
    delimiterCount text.toList < 3 ∧ e = .fieldCount 4 (1 + delimiterCount text.toList) := by
  have hlength := Text.length_fields 4 text.toList
  unfold read
  split
  · rename_i hfields
    rw [hfields] at hlength
    simp only [List.length_cons, List.length_nil] at hlength
    constructor
    · nofun
    · rintro ⟨hfew, -⟩
      omega
  · rename_i hfound
    have hfew : (Text.fields 4 text.toList).length ≠ 4 := by
      intro hfour
      match hfields : Text.fields 4 text.toList, hfour with
      | [_, _, _, _], _ => exact hfound _ _ _ _ hfields
    rw [Except.error.injEq, hlength]
    constructor
    · rintro rfl
      refine ⟨by omega, ?_⟩
      congr 1
      omega
    · rintro ⟨hcount, rfl⟩
      congr 1
      omega

theorem exists_read_iff {text : String} : (∃ i, read text = .ok i) ↔ 3 ≤ delimiterCount text.toList := by
  constructor
  · rintro ⟨i, h⟩
    by_contra hfew
    have herror := read_eq_error_iff.mpr ⟨Nat.lt_of_not_le hfew, rfl⟩
    rw [h] at herror
    cases herror
  · intro hcount
    cases h : read text with
    | ok i => exact ⟨i, rfl⟩
    | error e =>
      have hfew := (read_eq_error_iff.mp h).1
      omega

/-- What was read is readable again. -/
theorem readable_of_read {text : String} {i : Identity} (h : read text = .ok i) : Readable i := by
  obtain ⟨raw, ds, hcut, hfields⟩ := read_eq_ok_iff.mp h
  simp only [fields, List.map_cons, List.map_nil, List.forall₂_cons_right_iff,
    List.forall₂_nil_right_iff] at hfields
  obtain ⟨vendor, _, hvendor, ⟨model, _, hmodel, ⟨serial, _, hserial, ⟨revision, _, hrevision, rfl, rfl⟩, rfl⟩,
    rfl⟩, rfl⟩ := hfields
  have hfront := hcut.front
  simp only [List.dropLast_cons_cons, List.dropLast_singleton, List.forall_mem_cons] at hfront
  obtain ⟨hvendor', hmodel', hserial', -⟩ := hfront
  refine ⟨?_, ?_, ?_⟩
  · simp only [List.forall_mem_cons]
    exact ⟨fun c hc => hvendor' c (hvendor.mem hc), fun c hc => hmodel' c (hmodel.mem hc),
      fun c hc => hserial' c (hserial.mem hc), nofun⟩
  · simp only [fields, List.forall_mem_cons]
    exact ⟨hvendor.begins, hmodel.begins, hserial.begins, hrevision.begins, nofun⟩
  · simp only [fields, List.forall_mem_cons]
    exact ⟨hvendor.ends, hmodel.ends, hserial.ends, hrevision.ends, nofun⟩

/-! ## Printing -/

theorem toList_print (i : Identity) :
    i.print.toList = Text.interleave (i.fields.map String.toList) [',', ',', ','] := by
  simp [print, fields, Text.interleave]

theorem read_print_of_readable {i : Identity} (h : Readable i) : read i.print = .ok i := by
  rw [read_eq_ok_iff]
  refine ⟨i.fields.map String.toList, [',', ',', ','], ⟨rfl, by simp [fields], toList_print i, ?_, ?_, ?_⟩, ?_⟩
  · simp [Text.delimiters]
  · have hundivided := h.undivided
    simpa [fields] using hundivided
  · intro hne
    exact absurd rfl hne
  · rw [List.forall₂_same, List.forall_mem_map]
    exact fun field hfield => Text.stripped_self (h.begins field hfield) (h.ends field hfield)

theorem read_print_iff {i : Identity} : read i.print = .ok i ↔ Readable i := by
  constructor
  · exact readable_of_read
  · exact read_print_of_readable

/-- **Printed identities.** What an identity is printed as reads as that identity exactly if it is `Readable`.
Whatever was read is, so that printing and reading it again gives the same. A text can be read exactly if there
are three delimiters in it, and is refused for the number of its fields otherwise; delimiters behind the third
stay in the piece of the revision. -/
theorem printed_identities_read_back :
    (∀ i : Identity, read i.print = .ok i ↔ Readable i) ∧
    (∀ text i, read text = .ok i → Readable i ∧ read i.print = .ok i) ∧
    (∀ text, (∃ i, read text = .ok i) ↔ 3 ≤ delimiterCount text.toList) ∧
    (∀ text e, read text = .error e ↔
      delimiterCount text.toList < 3 ∧ e = .fieldCount 4 (1 + delimiterCount text.toList)) ∧
    ∀ text i, read text = .ok i ↔
      ∃ raw ds, Cut 4 text.toList raw ds ∧ List.Forall₂ FieldOf raw (i.fields.map String.toList) := by
  refine ⟨fun i => read_print_iff, ?_, fun text => exists_read_iff, fun text e => read_eq_error_iff,
    fun text i => read_eq_ok_iff⟩
  intro text i h
  have hreadable := readable_of_read h
  exact ⟨hreadable, read_print_of_readable hreadable⟩

/-- Three other delimiters than commas, an empty field, and more of them in the revision. -/
theorem printed_identities_read_back_of_mixed_text :
    let text := " ACME ;\tX1\n;4711,v1;v2 \r\n"
    let i : Identity := { vendor := "ACME", model := "X1", serial := "", revision := "4711,v1;v2" }
    read text = .ok i ∧ Readable i ∧ read i.print = .ok i ∧ i.print = "ACME,X1,,4711,v1;v2" := by
  intro text i
  have hread : read text = .ok i := by decide +kernel
  obtain ⟨hreadable, hprinted⟩ := printed_identities_read_back.2.1 text i hread
  exact ⟨hread, hreadable, hprinted, by decide +kernel⟩

end ScopeLink.Instrument.Identity
