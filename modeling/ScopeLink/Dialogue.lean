/-!
# Dialogues

A dialogue is a program that asks calls of something outside and goes on with the answers: a tree
with a call at each inner node and one branch for each answer the call may get. What stands
outside is a handler, a function from a call and its own state to an answer and its next state, so
the same dialogue runs against a device, a simulation or any handler a statement quantifies over.

`run_bind` says that a dialogue run in two parts is the two parts run in order, and
`run_recorded` that writing the calls down changes nothing else.
-/

namespace ScopeLink

/-- The calls that can be asked, and what answers each of them. -/
structure Interface where
  Call : Type
  Answer : Call → Type

inductive Dialogue (I : Interface) (α : Type) where
  | done (result : α)
  | call (c : I.Call) (next : I.Answer c → Dialogue I α)

/-- Answers every call, given a state, and moves the state on. -/
abbrev Handler (I : Interface) (σ : Type) := (c : I.Call) → σ → I.Answer c × σ

/-- A call together with the answer it got. -/
structure Event (I : Interface) where
  call : I.Call
  answer : I.Answer call

namespace Dialogue

variable {I : Interface} {α β γ σ : Type}

def bind : Dialogue I α → (α → Dialogue I β) → Dialogue I β
  | .done a, f => f a
  | .call c next, f => .call c fun answer => (next answer).bind f

instance : Monad (Dialogue I) where
  pure := .done
  bind := Dialogue.bind

/-- One call, with its answer for a result. -/
def ask (c : I.Call) : Dialogue I (I.Answer c) := .call c .done

def run (h : Handler I σ) : Dialogue I α → σ → α × σ
  | .done a, s => (a, s)
  | .call c next, s => (next (h c s).1).run h (h c s).2

@[simp] theorem pure_def (a : α) : (pure a : Dialogue I α) = .done a := rfl

@[simp] theorem call_bind (c : I.Call) (next : I.Answer c → Dialogue I α)
    (f : α → Dialogue I β) :
    (.call c next >>= f) = .call c fun answer => next answer >>= f := rfl

@[simp] theorem ask_bind (c : I.Call) (f : I.Answer c → Dialogue I β) :
    (ask c >>= f) = .call c f := rfl

theorem bind_done (d : Dialogue I α) : (d >>= .done) = d := by
  induction d with
  | done a => rfl
  | call c next ih => rw [call_bind]; congr 1; funext answer; exact ih answer

theorem bind_assoc (d : Dialogue I α) (f : α → Dialogue I β) (g : β → Dialogue I γ) :
    ((d >>= f) >>= g) = (d >>= fun a => f a >>= g) := by
  induction d with
  | done a => rfl
  | call c next ih => simp only [call_bind]; congr 1; funext answer; exact ih answer

instance : LawfulMonad (Dialogue I) :=
  LawfulMonad.mk' (Dialogue I) (fun d => bind_done d) (fun _ _ => rfl) bind_assoc

@[simp] theorem run_done (h : Handler I σ) (a : α) (s : σ) :
    (done a : Dialogue I α).run h s = (a, s) := rfl

@[simp] theorem run_call (h : Handler I σ) (c : I.Call) (next : I.Answer c → Dialogue I α) (s : σ) :
    (call c next).run h s = (next (h c s).1).run h (h c s).2 := rfl

/-- A dialogue run in two parts is the two parts run in order. -/
theorem run_bind (h : Handler I σ) (d : Dialogue I α) (f : α → Dialogue I β) (s : σ) :
    (d >>= f).run h s = (f (d.run h s).1).run h (d.run h s).2 := by
  induction d generalizing s with
  | done a => rfl
  | call c next ih => exact ih _ _

end Dialogue

namespace Handler

variable {I J : Interface} {α σ τ : Type}

/-- The same handler, with every call and its answer appended to a log. -/
def recorded (h : Handler I σ) : Handler I (σ × List (Event I)) := fun c (s, log) =>
  ((h c s).1, (h c s).2, log ++ [⟨c, (h c s).1⟩])

/-- Writing the calls down changes neither a result nor the state behind it. -/
theorem run_recorded (h : Handler I σ) (d : Dialogue I α) (s : σ) (log : List (Event I)) :
    (d.run h.recorded (s, log)).1 = (d.run h s).1 ∧
      (d.run h.recorded (s, log)).2.1 = (d.run h s).2 := by
  induction d generalizing s log with
  | done a => exact ⟨rfl, rfl⟩
  | call c next ih => exact ih _ _ _

/-- A handler for `I` out of one for `J`: each call of `I` is a dialogue in `J`, carried out with a
state of its own beside that of the handler below. -/
def through (serve : (c : I.Call) → τ → Dialogue J (I.Answer c × τ)) (h : Handler J σ) :
    Handler I (τ × σ) := fun c (t, s) =>
  let r := (serve c t).run h s
  (r.1.1, r.1.2, r.2)

end Handler

end ScopeLink
