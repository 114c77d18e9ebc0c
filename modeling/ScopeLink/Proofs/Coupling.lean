import ScopeLink.Proofs.Runs
/-!
# Two dialogues side by side

`Alongside E Q d d'` says that two dialogues make the same calls as long as the answers to them agree by
`E`, and come to results related by `Q` then. It composes like a dialogue does (`Alongside.bind`), and two
handlers that are `Coupled` run two such dialogues to related results and states (`Coupled.run`), call by
call (`Coupled.recorded`).
-/

namespace ScopeLink

variable {I J : Interface} {α β γ δ σ τ υ φ : Type}

/-! ## Dialogues -/

namespace Dialogue

/-- The same calls are made as long as the answers agree by `E`, and the results are related by `Q`. -/
inductive Alongside (E : (c : I.Call) → I.Answer c → I.Answer c → Prop) (Q : α → β → Prop) :
    Dialogue I α → Dialogue I β → Prop
  | done {a b} : Q a b → Alongside E Q (.done a) (.done b)
  | call {c next next'} :
    (∀ answer answer', E c answer answer' → Alongside E Q (next answer) (next' answer')) →
      Alongside E Q (.call c next) (.call c next')

variable {E : (c : I.Call) → I.Answer c → I.Answer c → Prop}

theorem Alongside.mono {Q R : α → β → Prop} {d : Dialogue I α} {d' : Dialogue I β}
    (h : Alongside E Q d d') (hqr : ∀ a b, Q a b → R a b) : Alongside E R d d' := by
  induction h with
  | done hab => exact .done (hqr _ _ hab)
  | call _ ih => exact .call ih

/-- Two dialogues in two parts go alongside if each of the parts does. -/
theorem Alongside.bind {Q : α → β → Prop} {R : γ → δ → Prop} {d : Dialogue I α} {d' : Dialogue I β}
    {f : α → Dialogue I γ} {f' : β → Dialogue I δ} (h : Alongside E Q d d')
    (hf : ∀ a b, Q a b → Alongside E R (f a) (f' b)) : Alongside E R (d >>= f) (d' >>= f') := by
  induction h with
  | done hab => exact hf _ _ hab
  | call _ ih => exact .call ih

end Dialogue

/-! ## Handlers -/

namespace Handler

/-- In states related by `S`, two handlers give answers that agree by `E`, and go on to related states. -/
def Coupled (E : (c : I.Call) → I.Answer c → I.Answer c → Prop) (S : σ → τ → Prop) (h : Handler I σ)
    (h' : Handler I τ) : Prop :=
  ∀ c s s', S s s' → E c (h c s).1 (h' c s').1 ∧ S (h c s).2 (h' c s').2

namespace Coupled

variable {E : (c : I.Call) → I.Answer c → I.Answer c → Prop} {S : σ → τ → Prop} {h : Handler I σ}
  {h' : Handler I τ}

/-- What runs alongside comes to related results, and leaves related states. -/
theorem run (coupled : Coupled E S h h') {Q : α → β → Prop} {d : Dialogue I α} {d' : Dialogue I β}
    (hd : d.Alongside E Q d') {s : σ} {s' : τ} (hs : S s s') :
    Q (d.run h s).1 (d'.run h' s').1 ∧ S (d.run h s).2 (d'.run h' s').2 := by
  induction hd generalizing s s' with
  | done hab => exact ⟨hab, hs⟩
  | call _ ih =>
    obtain ⟨hanswer, hnext⟩ := coupled _ s s' hs
    exact ih _ _ hanswer hnext

/-- Two logs stay related along coupled handlers if they do so call by call. -/
theorem recorded (coupled : Coupled E S h h') {L : List (Event I) → List (Event I) → Prop}
    (snoc : ∀ log log' c answer answer', L log log' → E c answer answer' →
      L (log ++ [⟨c, answer⟩]) (log' ++ [⟨c, answer'⟩])) :
    Coupled E (fun x x' => S x.1 x'.1 ∧ L x.2 x'.2) h.recorded h'.recorded := by
  rintro c ⟨s, log⟩ ⟨s', log'⟩ ⟨hs, hlog⟩
  obtain ⟨hanswer, hnext⟩ := coupled c s s' hs
  exact ⟨hanswer, hnext, snoc log log' c _ _ hlog hanswer⟩

/-- Handlers built by one rule on coupled ones are coupled, if the rule serves every call alongside. -/
theorem through {F : (c : J.Call) → J.Answer c → J.Answer c → Prop} {T : υ → υ → Prop}
    (coupled : Coupled E S h h') {serve : (c : J.Call) → υ → Dialogue I (J.Answer c × υ)}
    (hserve : ∀ c t t', T t t' →
      (serve c t).Alongside E (fun r r' => F c r.1 r'.1 ∧ T r.2 r'.2) (serve c t')) :
    Coupled F (fun x x' => T x.1 x'.1 ∧ S x.2 x'.2) (Handler.through serve h)
      (Handler.through serve h') := by
  rintro c ⟨t, s⟩ ⟨t', s'⟩ ⟨ht, hs⟩
  obtain ⟨⟨hanswer, hnext⟩, hstate⟩ := coupled.run (hserve c t t' ht) hs
  exact ⟨hanswer, hnext, hstate⟩

/-- Coupled handlers stay in related states over a run. -/
theorem after (coupled : Coupled E S h h') : ∀ (cs : List I.Call) (s : σ) (s' : τ), S s s' →
    S (h.after cs s) (h'.after cs s')
  | [], _, _, hs => hs
  | c :: cs, _, _, hs => coupled.after cs _ _ (coupled c _ _ hs).2

end Coupled

end Handler

end ScopeLink
