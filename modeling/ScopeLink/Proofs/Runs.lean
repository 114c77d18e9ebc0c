import ScopeLink.Dialogue
/-!
# Runs

Two ways to speak of everything a dialogue or a handler may do.

A dialogue over every answer: `d.Always Q` says that whatever `d` is answered, the calls it makes,
with their answers, and its result satisfy `Q`. `always_bind` composes it, `always_run` carries it
over to any handler that keeps a log.

A handler over any calls: `after` is its state behind a list of them, and `EachStep` states a
property of every call of the list. `eachStep_of_invariant` and `eachStep_congr` are the inductions
over a run, made once.

`run_through` says that a dialogue run against a handler built on another is a dialogue with the
one below.

Of a log it is often asked whether something happened that nothing has undone since: that is `Lasts`,
which the last entry decides (`lasts_snoc`). Of what is searched in order it is asked what comes first: that
is `Foremost`, which the first entry decides (`foremost_cons`).
-/

namespace ScopeLink

variable {I J : Interface} {α β σ τ : Type}

/-! ## What lasts -/

/-- `a` happened, and nothing behind it undoes it. -/
def Lasts (a : α) (undoes : α → Prop) (log : List α) : Prop :=
  ∃ before after, log = before ++ a :: after ∧ ∀ b ∈ after, ¬ undoes b

section

variable {a b : α} {undoes : α → Prop} {log : List α}

theorem not_lasts_nil : ¬ Lasts a undoes [] := by
  rintro ⟨before, after, h, -⟩
  simp at h

theorem lasts_snoc : Lasts a undoes (log ++ [b]) ↔ b = a ∨ Lasts a undoes log ∧ ¬ undoes b := by
  constructor
  · rintro ⟨before, after, h, hafter⟩
    obtain rfl | ⟨after, last, rfl⟩ := List.eq_nil_or_concat after
    · obtain ⟨-, hb⟩ := List.append_inj' h rfl
      exact .inl (List.cons.inj hb).1
    · rw [List.concat_eq_append] at h hafter
      rw [← List.cons_append, ← List.append_assoc] at h
      obtain ⟨rfl, hb⟩ := List.append_inj' h rfl
      obtain ⟨rfl, -⟩ := List.cons.inj hb
      exact .inr ⟨⟨before, after, rfl, fun e he => hafter e (List.mem_append_left _ he)⟩,
        hafter b (List.mem_append_right _ List.mem_cons_self)⟩
  · rintro (rfl | ⟨⟨before, after, rfl, hafter⟩, hb⟩)
    · exact ⟨log, [], rfl, fun _ h => (nomatch h)⟩
    · refine ⟨before, after ++ [b], by simp, fun e he => ?_⟩
      obtain he | he := List.mem_append.mp he
      · exact hafter e he
      · rw [List.mem_singleton.mp he]
        exact hb

/-- What neither does nor undoes it is of no account. -/
theorem lasts_append_of_other {more : List α} (other : ∀ b ∈ more, b ≠ a ∧ ¬ undoes b) :
    Lasts a undoes (log ++ more) ↔ Lasts a undoes log := by
  induction more generalizing log with
  | nil => rw [List.append_nil]
  | cons b more ih =>
    obtain ⟨hne, hundo⟩ := other b List.mem_cons_self
    rw [List.append_cons, ih fun e he => other e (List.mem_cons_of_mem _ he), lasts_snoc]
    simp [hne, hundo]

end

/-! ## What comes first -/

/-- `a` has the property, and nothing in front of it does. -/
def Foremost (p : α → Prop) (as : List α) (a : α) : Prop :=
  ∃ before after, as = before ++ a :: after ∧ p a ∧ ∀ b ∈ before, ¬ p b

section

variable {p : α → Prop} {as : List α} {a b : α}

theorem not_foremost_nil : ¬ Foremost p [] a := by
  rintro ⟨before, after, h, -⟩
  simp at h

theorem foremost_cons : Foremost p (b :: as) a ↔ p b ∧ a = b ∨ ¬ p b ∧ Foremost p as a := by
  constructor
  · rintro ⟨before, after, h, ha, hbefore⟩
    cases before with
    | nil =>
      obtain ⟨rfl, -⟩ := List.cons.inj h
      exact .inl ⟨ha, rfl⟩
    | cons first before =>
      obtain ⟨rfl, rfl⟩ := List.cons.inj h
      exact .inr ⟨hbefore b List.mem_cons_self, before, after, rfl, ha,
        fun d hd => hbefore d (List.mem_cons_of_mem _ hd)⟩
  · rintro (⟨hb, rfl⟩ | ⟨hb, before, after, rfl, ha, hbefore⟩)
    · exact ⟨[], as, rfl, hb, nofun⟩
    · refine ⟨b :: before, after, rfl, ha, fun d hd => ?_⟩
      obtain rfl | hd := List.mem_cons.mp hd
      · exact hb
      · exact hbefore d hd

theorem Foremost.mem (h : Foremost p as a) : a ∈ as := by
  obtain ⟨before, after, rfl, -⟩ := h
  exact List.mem_append_right _ List.mem_cons_self

theorem Foremost.holds (h : Foremost p as a) : p a := by
  obtain ⟨-, -, -, ha, -⟩ := h
  exact ha

/-- It is what a search finds. -/
theorem foremost_iff_find? {q : α → Bool} : Foremost (fun a => q a = true) as a ↔ as.find? q = some a := by
  rw [List.find?_eq_some_iff_append]
  simp only [Foremost, Bool.not_eq_true, Bool.not_eq_eq_eq_not, Bool.not_true]
  constructor
  · rintro ⟨before, after, h, ha, hbefore⟩
    exact ⟨ha, before, after, h, hbefore⟩
  · rintro ⟨ha, before, after, h, hbefore⟩
    exact ⟨before, after, h, ha, hbefore⟩

end

namespace Dialogue

/-! ## Every answer -/

/-- Whatever the answers, the calls made and the result satisfy `Q`. -/
def Always : Dialogue I α → (List (Event I) → α → Prop) → Prop
  | .done a, Q => Q [] a
  | .call c next, Q => ∀ answer, (next answer).Always fun log a => Q (⟨c, answer⟩ :: log) a

@[simp] theorem always_done {a : α} {Q : List (Event I) → α → Prop} : (done a).Always Q ↔ Q [] a :=
  Iff.rfl

@[simp] theorem always_call {c : I.Call} {next : I.Answer c → Dialogue I α}
    {Q : List (Event I) → α → Prop} :
    (call c next).Always Q ↔
      ∀ answer, (next answer).Always fun log a => Q (⟨c, answer⟩ :: log) a := Iff.rfl

theorem Always.mono {d : Dialogue I α} {Q R : List (Event I) → α → Prop} (h : d.Always Q)
    (hqr : ∀ log a, Q log a → R log a) : d.Always R := by
  induction d generalizing Q R with
  | done a => exact hqr _ _ h
  | call c next ih => exact fun answer => ih answer (h answer) fun log a => hqr _ a

theorem always_of_forall {d : Dialogue I α} {Q : List (Event I) → α → Prop} (h : ∀ log a, Q log a) :
    d.Always Q := by
  induction d generalizing Q with
  | done a => exact h [] a
  | call c next ih => exact fun answer => ih answer fun log a => h _ a

theorem always_bind {d : Dialogue I α} {f : α → Dialogue I β} {Q : List (Event I) → β → Prop} :
    (d >>= f).Always Q ↔
      d.Always fun log a => (f a).Always fun log' b => Q (log ++ log') b := by
  induction d generalizing Q with
  | done a => exact Iff.rfl
  | call c next ih =>
    rw [call_bind]
    exact forall_congr' fun answer => ih answer

theorem map_def (f : α → β) (d : Dialogue I α) : f <$> d = d >>= fun a => done (f a) := rfl

/-- What is done behind a dialogue without a call adds nothing to its log. -/
theorem Always.bind_done {d : Dialogue I α} {f : α → β} {Q : List (Event I) → α → Prop}
    {R : List (Event I) → β → Prop} (h : d.Always Q) (hqr : ∀ log a, Q log a → R log (f a)) :
    (d >>= fun a => done (f a)).Always R := by
  rw [always_bind]
  refine h.mono fun log a ha => ?_
  rw [always_done, List.append_nil]
  exact hqr log a ha

/-- What holds of every call holds of every call of two dialogues in a row. -/
theorem Always.bind_forall {P : Event I → Prop} {d : Dialogue I α} {f : α → Dialogue I β}
    (hd : d.Always fun log _ => ∀ event ∈ log, P event)
    (hf : ∀ a, (f a).Always fun log _ => ∀ event ∈ log, P event) :
    (d >>= f).Always fun log _ => ∀ event ∈ log, P event := by
  rw [always_bind]
  refine hd.mono fun log a hlog => (hf a).mono fun log' b hlog' event he => ?_
  exact (List.mem_append.mp he).elim (hlog event) (hlog' event)

theorem Always.and {d : Dialogue I α} {Q R : List (Event I) → α → Prop} (hq : d.Always Q)
    (hr : d.Always R) : d.Always fun log a => Q log a ∧ R log a := by
  induction d generalizing Q R with
  | done a => exact ⟨hq, hr⟩
  | call c next ih => exact fun answer => ih answer (hq answer) (hr answer)

/-- A relation that composes along logs composes along dialogues, the second of which may count on what
the first one says of its result. -/
theorem Always.bind_trans_of {ρ : Type} {R : ρ → List (Event I) → ρ → Prop}
    (trans : ∀ {x y z log log'}, R x log y → R y log' z → R x (log ++ log') z)
    {d : Dialogue I α} {f : α → Dialogue I β} {x : ρ} {g : α → ρ} {k : β → ρ} {P : α → Prop}
    (hd : d.Always fun log a => R x log (g a) ∧ P a)
    (hf : ∀ a, P a → (f a).Always fun log b => R (g a) log (k b)) :
    (d >>= f).Always fun log b => R x log (k b) := by
  rw [always_bind]
  exact hd.mono fun log a ha => (hf a ha.2).mono fun log' b hb => trans ha.1 hb

theorem Always.bind_trans {ρ : Type} {R : ρ → List (Event I) → ρ → Prop}
    (trans : ∀ {x y z log log'}, R x log y → R y log' z → R x (log ++ log') z)
    {d : Dialogue I α} {f : α → Dialogue I β} {x : ρ} {g : α → ρ} {k : β → ρ}
    (hd : d.Always fun log a => R x log (g a))
    (hf : ∀ a, (f a).Always fun log b => R (g a) log (k b)) :
    (d >>= f).Always fun log b => R x log (k b) :=
  Always.bind_trans_of trans (P := fun _ => True) (hd.mono fun _ _ ha => ⟨ha, trivial⟩) fun a _ => hf a

/-- What holds over every answer holds of the answers of a handler. -/
theorem always_run {d : Dialogue I α} {Q : List (Event I) → α → Prop} (hd : d.Always Q)
    (h : Handler I σ) (s : σ) (log : List (Event I)) :
    ∃ calls, (d.run h.recorded (s, log)).2.2 = log ++ calls ∧
      Q calls (d.run h.recorded (s, log)).1 := by
  induction d generalizing s log Q with
  | done a => exact ⟨[], by simp, hd⟩
  | call c next ih =>
    obtain ⟨calls, hlog, hq⟩ := ih _ (hd (h c s).1) (h c s).2 (log ++ [⟨c, (h c s).1⟩])
    exact ⟨⟨c, (h c s).1⟩ :: calls, by rw [run_call]; simpa [Handler.recorded] using hlog, hq⟩

/-- A relation between the states of a handler before and behind the calls of a log, which composes and holds
of every call that a dialogue may make, holds of the dialogue. -/
theorem run_related {h : Handler I σ} {R : σ → List (Event I) → σ → Prop} {P : I.Call → Prop}
    (refl : ∀ s, R s [] s)
    (trans : ∀ {s s' s'' log log'}, R s log s' → R s' log' s'' → R s (log ++ log') s'')
    (step : ∀ c s, P c → R s [⟨c, (h c s).1⟩] (h c s).2) {d : Dialogue I α}
    (hd : d.Always fun log _ => ∀ event ∈ log, P event.call) (s : σ) (log : List (Event I)) :
    ∃ calls, (d.run h.recorded (s, log)).2.2 = log ++ calls ∧ R s calls (d.run h.recorded (s, log)).2.1 := by
  induction d generalizing s log with
  | done a => exact ⟨[], by simp, refl s⟩
  | call c next ih =>
    have hnext := hd (h c s).1
    have hc : P c := by
      obtain ⟨calls, -, hcalls⟩ := always_run hnext h s log
      exact hcalls ⟨c, (h c s).1⟩ List.mem_cons_self
    obtain ⟨calls, hlog, hrelated⟩ := ih (h c s).1
      (hnext.mono fun _ _ hall event hevent => hall event (List.mem_cons_of_mem _ hevent))
      (h c s).2 (log ++ [⟨c, (h c s).1⟩])
    exact ⟨⟨c, (h c s).1⟩ :: calls, hlog.trans (by simp), trans (step c s hc) hrelated⟩

/-- The first call of a log got the answer of the handler in its first state. -/
theorem first_answer {d : Dialogue I α} {h : Handler I σ} {s : σ} {c : I.Call} {answer : I.Answer c}
    {log : List (Event I)} (hlog : (d.run h.recorded (s, [])).2.2 = ⟨c, answer⟩ :: log) :
    answer = (h c s).1 := by
  cases d with
  | done a => cases hlog
  | call c' next =>
    have hnext : (next (h c' s).1).Always fun _ _ => True := always_of_forall fun _ _ => trivial
    obtain ⟨calls, hcalls, -⟩ := always_run hnext h (h c' s).2 [⟨c', (h c' s).1⟩]
    cases hcalls.symm.trans hlog
    rfl

/-! ## A handler on top of another -/

/-- The dialogue below, when each call is served by a dialogue with a state of its own. -/
def lower (serve : (c : I.Call) → τ → Dialogue J (I.Answer c × τ)) :
    Dialogue I α → τ → Dialogue J (α × τ)
  | .done a, t => .done (a, t)
  | .call c next, t => serve c t >>= fun r => (next r.1).lower serve r.2

theorem lower_bind (serve : (c : I.Call) → τ → Dialogue J (I.Answer c × τ)) (d : Dialogue I α)
    (f : α → Dialogue I β) (t : τ) :
    (d >>= f).lower serve t = d.lower serve t >>= fun r => (f r.1).lower serve r.2 := by
  induction d generalizing t with
  | done a => rfl
  | call c next ih =>
    rw [call_bind, lower, lower, bind_assoc]
    congr 1
    funext r
    exact ih r.1 r.2

theorem run_through (serve : (c : I.Call) → τ → Dialogue J (I.Answer c × τ)) (h : Handler J σ)
    (d : Dialogue I α) (t : τ) (s : σ) :
    d.run (Handler.through serve h) (t, s) =
      (((d.lower serve t).run h s).1.1, ((d.lower serve t).run h s).1.2,
        ((d.lower serve t).run h s).2) := by
  induction d generalizing t s with
  | done a => rfl
  | call c next ih =>
    rw [run_call, lower, run_bind]
    exact ih _ _ _

end Dialogue

namespace Handler

/-! ## Runs of a handler -/

/-- The state behind a list of calls. -/
def after (h : Handler I σ) : List I.Call → σ → σ
  | [], s => s
  | c :: cs, s => h.after cs (h c s).2

theorem after_append (h : Handler I σ) : ∀ (cs ds : List I.Call) (s : σ),
    h.after (cs ++ ds) s = h.after ds (h.after cs s)
  | [], _, _ => rfl
  | _ :: cs, ds, _ => after_append h cs ds _

/-- What every call keeps, a run keeps. -/
theorem after_of_invariant {h : Handler I σ} (Inv : σ → Prop) (step : ∀ s c, Inv s → Inv (h c s).2) :
    ∀ (cs : List I.Call) (s : σ), Inv s → Inv (h.after cs s)
  | [], _, hs => hs
  | c :: cs, s, hs => after_of_invariant Inv step cs _ (step s c hs)

/-- What the calls of a list keep, whichever of them come, the list keeps. -/
theorem after_of_forall {h : Handler I σ} {C : I.Call → Prop} (Inv : σ → Prop)
    (step : ∀ s c, C c → Inv s → Inv (h c s).2) :
    ∀ (cs : List I.Call) (s : σ), (∀ c ∈ cs, C c) → Inv s → Inv (h.after cs s)
  | [], _, _, hs => hs
  | c :: cs, s, hc, hs => after_of_forall Inv step cs _ (fun d hd => hc d (List.mem_cons_of_mem c hd))
    (step s c (hc c List.mem_cons_self) hs)

/-- `P` holds of every call of a run: of the state it is made in, its answer and the state behind. -/
def EachStep (h : Handler I σ) (P : σ → (c : I.Call) → I.Answer c → σ → Prop) :
    List I.Call → σ → Prop
  | [], _ => True
  | c :: cs, s => P s c (h c s).1 (h c s).2 ∧ h.EachStep P cs (h c s).2

theorem eachStep_of_mem {h : Handler I σ} {A : I.Call → Prop} : ∀ (cs : List I.Call) (s : σ),
    (∀ c ∈ cs, A c) → h.EachStep (fun _ c _ _ => A c) cs s
  | [], _, _ => trivial
  | c :: cs, _, hc =>
    ⟨hc c List.mem_cons_self, eachStep_of_mem cs _ fun d hd => hc d (List.mem_cons_of_mem c hd)⟩

/-- An invariant that holds at the start and is kept by every call the run admits brings `P` with it
at each of them. -/
theorem eachStep_of_invariant {h : Handler I σ} (Inv : σ → Prop)
    {A P : σ → (c : I.Call) → I.Answer c → σ → Prop}
    (step : ∀ s c, Inv s → A s c (h c s).1 (h c s).2 →
      P s c (h c s).1 (h c s).2 ∧ Inv (h c s).2) :
    ∀ (cs : List I.Call) (s : σ), Inv s → h.EachStep A cs s → h.EachStep P cs s
  | [], _, _, _ => trivial
  | c :: cs, s, hs, ha =>
    have ⟨hp, hn⟩ := step s c hs ha.1
    ⟨hp, eachStep_of_invariant Inv step cs _ hn ha.2⟩

/-- A run that admits every call. -/
theorem eachStep_of_step {h : Handler I σ} (Inv : σ → Prop)
    {P : σ → (c : I.Call) → I.Answer c → σ → Prop}
    (step : ∀ s c, Inv s → P s c (h c s).1 (h c s).2 ∧ Inv (h c s).2) (cs : List I.Call) (s : σ)
    (hs : Inv s) : h.EachStep P cs s :=
  eachStep_of_invariant Inv (A := fun _ _ _ _ => True) (fun s c hs _ => step s c hs) cs s hs
    (eachStep_of_mem (A := fun _ => True) cs s fun _ _ => trivial)

/-- Two properties that agree on every call made under an invariant agree on every run, if the first of
them keeps the invariant. -/
theorem eachStep_congr {h : Handler I σ} (Inv : σ → Prop) {A P : σ → (c : I.Call) → I.Answer c → σ → Prop}
    (agree : ∀ s c, Inv s → (A s c (h c s).1 (h c s).2 ↔ P s c (h c s).1 (h c s).2))
    (keep : ∀ s c, Inv s → A s c (h c s).1 (h c s).2 → Inv (h c s).2) :
    ∀ (cs : List I.Call) (s : σ), Inv s → (h.EachStep A cs s ↔ h.EachStep P cs s)
  | [], _, _ => Iff.rfl
  | c :: cs, s, hs => by
    constructor
    · rintro ⟨hc, hcs⟩
      exact ⟨(agree s c hs).mp hc, (eachStep_congr Inv agree keep cs _ (keep s c hs hc)).mp hcs⟩
    · rintro ⟨hc, hcs⟩
      have ha := (agree s c hs).mpr hc
      exact ⟨ha, (eachStep_congr Inv agree keep cs _ (keep s c hs ha)).mpr hcs⟩

end Handler

/-- What holds over every answer holds of the calls that a handler is asked, and it is behind these calls
then. -/
theorem Dialogue.Always.run {d : Dialogue I α} {Q : List (Event I) → α → Prop} (hd : d.Always Q)
    (h : Handler I σ) (s : σ) :
    ∃ calls, Q calls (d.run h s).1 ∧ (d.run h s).2 = h.after (calls.map Event.call) s := by
  induction d generalizing s Q with
  | done a => exact ⟨[], hd, rfl⟩
  | call c next ih =>
    obtain ⟨calls, hq, hafter⟩ := ih _ (hd (h c s).1) (h c s).2
    exact ⟨⟨c, (h c s).1⟩ :: calls, hq, hafter⟩

end ScopeLink
