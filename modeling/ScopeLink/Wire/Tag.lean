/-!
# Transfer tags

Every bulk-out transfer carries a tag, one above that of the transfer before it. Tags run from 1 to
255 and start over at 1; 0 stands for "no transfer yet" and is never sent. Beside the tag goes its
complement.
-/

namespace ScopeLink.Tag

/-- The tag after `last` (`next` of a `Tag`). -/
def next (last : UInt8) : UInt8 := last % 255 + 1

def complement (tag : UInt8) : UInt8 := ~~~tag

theorem toNat_next (last : UInt8) : (next last).toNat = last.toNat % 255 + 1 := by
  have h : last.toNat % 255 < 255 := Nat.mod_lt _ (by decide)
  simp only [next, UInt8.toNat_add, UInt8.toNat_mod, UInt8.reduceToNat]
  omega

theorem toNat_complement (tag : UInt8) : (complement tag).toNat = 255 - tag.toNat := by
  rw [complement, UInt8.toNat_not]
  have := tag.toNat_lt
  simp [UInt8.size]

end ScopeLink.Tag
