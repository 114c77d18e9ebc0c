import ScopeLink.Text.Trim
/-!
# Blanks

The characters with the Unicode property White_Space. Program messages are cut at these, and a
printed reply loses those at its end.
-/

namespace ScopeLink.Text

/-- The code points with the property White_Space, as closed ranges. -/
def blankRanges : List (Nat × Nat) :=
  [(0x0009, 0x000D), (0x0020, 0x0020), (0x0085, 0x0085), (0x00A0, 0x00A0), (0x1680, 0x1680),
    (0x2000, 0x200A), (0x2028, 0x2029), (0x202F, 0x202F), (0x205F, 0x205F), (0x3000, 0x3000)]

def isBlank (c : Char) : Bool := blankRanges.any fun (lo, hi) => lo ≤ c.toNat && c.toNat ≤ hi

def trimBlank (cs : List Char) : List Char := trim isBlank cs

/-- The property has 25 code points. -/
example : (blankRanges.map fun (lo, hi) => hi + 1 - lo).sum = 25 := by decide

end ScopeLink.Text
