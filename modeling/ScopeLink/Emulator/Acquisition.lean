import ScopeLink.Instrument.Reply
/-!
# The acquisition of an oscilloscope

An oscilloscope keeps two things about its acquisition: whether it runs, and whether it stops after
one sweep. The mode is kept while it stands still.
-/

namespace ScopeLink.Emulator

inductive StopAfter where
  | runStop
  | sequence
deriving DecidableEq, Repr

structure Acquisition where
  stopAfter : StopAfter := .runStop
  running : Bool := false
deriving DecidableEq, Repr

namespace Acquisition

/-- The state the two tell (`acquisition`). -/
def state (a : Acquisition) : Instrument.State :=
  match a.running, a.stopAfter with
  | false, _ => .stopped
  | true, .runStop => .running
  | true, .sequence => .single

/-- The acquisition brought into a state (`set_acquisition`); stopping keeps the mode. -/
def set (a : Acquisition) : Instrument.State → Acquisition
  | .stopped => { a with running := false }
  | .running => ⟨.runStop, true⟩
  | .single => ⟨.sequence, true⟩

@[simp] theorem state_set (a : Acquisition) (s : Instrument.State) : (a.set s).state = s := by
  cases s <;> rfl

end Acquisition

end ScopeLink.Emulator
