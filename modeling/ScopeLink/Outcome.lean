/-!
# Outcomes

An operation that talks to a device gives a value, fails for a cause it names, or halts. A halt is
no answer at all: the device reported more bytes than there was room for, described itself in a way
no device may, or kept a read busy past the reader's patience.
-/

namespace ScopeLink

inductive Halt where
  /-- More bytes were reported than the buffer has. -/
  | overrun
  /-- An interface has no setting at all. -/
  | malformed
  /-- The rounds allotted to a read ran out before the message ended. -/
  | unfinished
deriving DecidableEq, Repr

inductive Outcome (ε α : Type) where
  | ok (value : α)
  | failed (error : ε)
  | halted (halt : Halt)
deriving DecidableEq, Repr

namespace Outcome

variable {ε ε' α β : Type}

def ofExcept : Except ε α → Outcome ε α
  | .ok a => .ok a
  | .error e => .failed e

def mapError (f : ε → ε') : Outcome ε α → Outcome ε' α
  | .ok a => .ok a
  | .failed e => .failed (f e)
  | .halted h => .halted h

def andThen : Outcome ε α → (α → Outcome ε β) → Outcome ε β
  | .ok a, f => f a
  | .failed e, _ => .failed e
  | .halted h, _ => .halted h

/-- A failure counts as `a`; a halt stays one. -/
def orElse (a : α) : Outcome ε α → Outcome ε' α
  | .ok b => .ok b
  | .failed _ => .ok a
  | .halted h => .halted h

end Outcome

end ScopeLink
