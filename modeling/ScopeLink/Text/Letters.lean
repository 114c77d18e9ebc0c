/-!
# Letters regardless of case

Vendors, mnemonics and replies are compared without regard to the case of the letters A to Z; any
other character, accented letters included, equals only itself.
-/

namespace ScopeLink.Text

def eqIgnoreCase (a b : List Char) : Bool := a.map Char.toLower == b.map Char.toLower

/-- Texts that differ in the case of letters only equal the same texts. -/
theorem eqIgnoreCase_congr {a b : List Char} (h : eqIgnoreCase a b = true) (cs : List Char) :
    eqIgnoreCase a cs = eqIgnoreCase b cs := by
  rw [eqIgnoreCase, eqIgnoreCase, eq_of_beq h]

/-- A capital is met by itself and by its small letter. -/
theorem toLower_eq_iff {w c : Char} (hw : w.isUpper = true) : c.toLower = w.toLower ↔ c = w ∨ c = w.toLower := by
  have hcapital : w.val ≥ 'A'.val ∧ w.val ≤ 'Z'.val := of_decide_eq_true hw
  have hshifted : w.toLower.val = w.val + ('a'.val - 'A'.val) := congrArg Char.val (dif_pos hcapital)
  have hother {x : Char} (hx : ¬ (x.val ≥ 'A'.val ∧ x.val ≤ 'Z'.val)) : x.toLower = x := dif_neg hx
  constructor
  · intro h
    by_cases hc : c.val ≥ 'A'.val ∧ c.val ≤ 'Z'.val
    · have hshifted' : c.toLower.val = c.val + ('a'.val - 'A'.val) := congrArg Char.val (dif_pos hc)
      rw [h, hshifted, UInt32.add_left_inj] at hshifted'
      exact .inl (Char.ext hshifted'.symm)
    · rw [hother hc] at h
      exact .inr h
  · rintro (rfl | rfl)
    · rfl
    · refine hother ?_
      rw [hshifted]
      grind [UInt32.toNat_add, UInt32.le_iff_toNat_le]

/-- A character that is no letter is met by itself alone. -/
theorem toLower_eq_iff_of_not_letter {w c : Char} (hupper : w.isUpper = false) (hlower : w.isLower = false) :
    c.toLower = w ↔ c = w := by
  by_cases hc : c.isUpper = true
  · have hcapital : c.val ≥ 'A'.val ∧ c.val ≤ 'Z'.val := of_decide_eq_true hc
    have hshifted : c.toLower.val = c.val + ('a'.val - 'A'.val) := congrArg Char.val (dif_pos hcapital)
    constructor
    · rintro rfl
      have hsmall : (decide (c.toLower.val ≥ 'a'.val) && decide (c.toLower.val ≤ 'z'.val)) = false := hlower
      rw [hshifted] at hsmall
      grind [UInt32.toNat_add, UInt32.le_iff_toNat_le]
    · rintro rfl
      rw [hc] at hupper
      cases hupper
  · have hsame : c.toLower = c := dif_neg fun h => hc (decide_eq_true h)
    rw [hsame]

end ScopeLink.Text
