import Mathlib.Logic.Relation

/-! # Programs and their steps

What a program does to the state of a pass, told as a sequence of steps of a given kind, together
with what holds of its result and of the state at its end.
-/

namespace ScriptGraph

variable {σ α β ε : Type} {step : σ → σ → Prop} {P P' : σ → Prop}

/-- From states with a property, the program takes steps of a kind, and its result and last state
fit. -/
def Takes (step : σ → σ → Prop) (P : σ → Prop) (x : StateM σ α) (Q : α → σ → Prop) : Prop :=
  ∀ s, P s → Relation.ReflTransGen step s (x.run s).2 ∧ Q (x.run s).1 (x.run s).2

namespace Takes

variable {x : StateM σ α} {f : α → StateM σ β} {Q Q' : α → σ → Prop} {R : β → σ → Prop}

theorem pure {a : α} (h : ∀ s, P s → Q a s) : Takes step P (Pure.pure a) Q :=
  fun s hs => ⟨.refl, h s hs⟩

theorem bind (hx : Takes step P x Q) (hf : ∀ a, Takes step (Q a) (f a) R) :
    Takes step P (x >>= f) R := by
  intro s hs
  obtain ⟨steps, hq⟩ := hx s hs
  obtain ⟨steps', hr⟩ := hf _ _ hq
  exact ⟨steps.trans steps', hr⟩

/-- A program that takes a single step. -/
theorem single (h : ∀ s, P s → step s (x.run s).2 ∧ Q (x.run s).1 (x.run s).2) :
    Takes step P x Q :=
  fun s hs => ⟨.single (h s hs).1, (h s hs).2⟩

theorem conseq (h : Takes step P x Q) (hp : ∀ s, P' s → P s) (hq : ∀ a s, Q a s → Q' a s) :
    Takes step P' x Q' :=
  fun s hs => ⟨(h s (hp s hs)).1, hq _ _ (h s (hp s hs)).2⟩

theorem mono (h : Takes step P x Q) (hq : ∀ a s, Q a s → Q' a s) : Takes step P x Q' :=
  h.conseq (fun _ hs => hs) hq

theorem ite {c : Prop} [Decidable c] {y : StateM σ α} (hx : c → Takes step P x Q)
    (hy : ¬ c → Takes step P y Q) : Takes step P (if c then x else y) Q := by
  split
  next h => exact hx h
  next h => exact hy h

/-- Facts that do not speak of the state can be taken out of what is known of it. -/
theorem assuming {p : Prop} (h : p → Takes step P x Q) : Takes step (fun s => p ∧ P s) x Q :=
  fun s hs => h hs.1 s hs.2

/-- Each step may be told as several of another kind. -/
theorem expand {step' : σ → σ → Prop} (h : Takes step P x Q)
    (hs : ∀ s s', step s s' → Relation.ReflTransGen step' s s') : Takes step' P x Q := by
  intro s hp
  obtain ⟨steps, hq⟩ := h s hp
  exact ⟨Relation.reflTransGen_closed hs _ _ steps, hq⟩

/-- What each step keeps holds in the end. -/
theorem keeping {I : σ → Prop} (h : Takes step (fun _ => True) x Q)
    (hk : ∀ s s', step s s' → I s → I s') : Takes step I x fun _ => I := by
  intro s hs
  obtain ⟨steps, -⟩ := h s trivial
  refine ⟨steps, ?_⟩
  generalize (x.run s).2 = s' at steps
  induction steps with
  | refl => exact hs
  | tail _ last ih => exact hk _ _ last ih

/-- What is done at each entry of a list. -/
theorem forM {l : List β} {f : β → StateM σ PUnit}
    (h : ∀ b ∈ l, Takes step P (f b) fun _ => P) : Takes step P (l.forM f) fun _ => P := by
  induction l with
  | nil => exact .pure fun _ hs => hs
  | cons b l ih =>
    exact (h b List.mem_cons_self).bind fun _ => ih fun b' hb => h b' (List.mem_cons_of_mem b hb)

end Takes

/-! ### Programs that may fail -/

/-- From states with a property, the program takes steps of a kind, and if it succeeds its result
and last state fit. -/
def Tries (step : σ → σ → Prop) (P : σ → Prop) (x : ExceptT ε (StateM σ) α) (Q : α → σ → Prop) :
    Prop :=
  Takes step P x.run fun result s => ∀ a, result = .ok a → Q a s

namespace Tries

variable {x : ExceptT ε (StateM σ) α} {f : α → ExceptT ε (StateM σ) β} {Q : α → σ → Prop}
  {R : β → σ → Prop}

theorem pure {a : α} (h : ∀ s, P s → Q a s) :
    Tries step P (Pure.pure a : ExceptT ε (StateM σ) α) Q := by
  refine Takes.pure fun s hs b hb => ?_
  obtain rfl := Except.ok.inj hb
  exact h s hs

theorem throw (e : ε) : Tries step P (MonadExcept.throw e : ExceptT ε (StateM σ) α) Q :=
  Takes.pure fun _ _ _ h => nomatch h

theorem lift {y : StateM σ α} (h : Takes step P y Q) :
    Tries step P (liftM y : ExceptT ε (StateM σ) α) Q := by
  intro s hs
  refine ⟨(h s hs).1, fun a ha => ?_⟩
  obtain rfl := Except.ok.inj ha
  exact (h s hs).2

/-- What is decided without looking at the state. -/
theorem liftExcept {y : Except ε α} (h : ∀ a s, P s → y = .ok a → Q a s) :
    Tries step P (liftM y : ExceptT ε (StateM σ) α) Q :=
  Takes.pure fun s hs a ha => h a s hs ha

theorem bind (hx : Tries step P x Q) (hf : ∀ a, Tries step (Q a) (f a) R) :
    Tries step P (x >>= f) R := by
  unfold Tries
  rw [ExceptT.run_bind]
  refine Takes.bind hx fun result => ?_
  cases result with
  | ok a => exact (hf a).conseq (fun _ hs => hs a rfl) fun _ _ h => h
  | error e => exact .pure fun _ _ _ h => nomatch h

theorem keeping {I : σ → Prop} (h : Tries step (fun _ => True) x Q)
    (hk : ∀ s s', step s s' → I s → I s') : Tries step I x fun _ => I :=
  (Takes.keeping h hk).mono fun _ _ hs _ _ => hs

theorem expand {step' : σ → σ → Prop} (h : Tries step P x Q)
    (hs : ∀ s s', step s s' → Relation.ReflTransGen step' s s') : Tries step' P x Q :=
  Takes.expand h hs

theorem assuming {p : Prop} (h : p → Tries step P x Q) : Tries step (fun s => p ∧ P s) x Q :=
  fun s hs => h hs.1 s hs.2

theorem ite {c : Prop} [Decidable c] {y : ExceptT ε (StateM σ) α} (hx : c → Tries step P x Q)
    (hy : ¬ c → Tries step P y Q) : Tries step P (if c then x else y) Q := by
  split
  next h => exact hx h
  next h => exact hy h

/-- A fault may be handled. -/
theorem caught {handle : ε → ExceptT ε (StateM σ) α} {R : Except ε α → σ → Prop}
    (hx : Tries step P x Q) (ho : ∀ a s, Q a s → R (.ok a) s)
    (he : ∀ e, Takes step (fun _ => True) (handle e).run R) :
    Takes step P (tryCatch x handle).run R := by
  change Takes step P (ExceptT.tryCatch x handle) R
  unfold ExceptT.tryCatch
  refine Takes.bind hx fun result => ?_
  cases result with
  | ok a => exact Takes.pure fun s hs => ho a s (hs a rfl)
  | error e => exact (he e).conseq (fun _ _ => trivial) fun _ _ h => h

theorem throw_bind (e : ε) (f : α → ExceptT ε (StateM σ) β) :
    (MonadExcept.throw e >>= f : ExceptT ε (StateM σ) β) = MonadExcept.throw e :=
  rfl

/-- What is left to do behind a check that fails or passes. -/
theorem check {c : Prop} [Decidable c] {e : ε} {y : Unit → ExceptT ε (StateM σ) α}
    (hy : ¬ c → Tries step P (y ()) Q) :
    Tries step P (if c then MonadExcept.throw e >>= y else y ()) Q :=
  .ite (fun _ => (throw_bind e y) ▸ throw e) hy

end Tries

/-! ### Runs of programs that may fail -/

section

variable {x : ExceptT ε (StateM σ) α} {f : α → ExceptT ε (StateM σ) β} {s s' : σ}

theorem run_bind_of_ok {a : α} (h : x.run.run s = (.ok a, s')) :
    (x >>= f).run.run s = (f a).run.run s' := by
  rw [ExceptT.run_bind, StateT.run_bind, h]
  rfl

theorem run_bind_of_error {e : ε} (h : x.run.run s = (.error e, s')) :
    (x >>= f).run.run s = (.error e, s') := by
  rw [ExceptT.run_bind, StateT.run_bind, h]
  rfl

theorem run_lift_bind {y : StateM σ α} {a : α} (h : y.run s = (a, s')) :
    ((liftM y : ExceptT ε (StateM σ) α) >>= f).run.run s = (f a).run.run s' := by
  refine run_bind_of_ok ?_
  change (Except.ok (y.run s).1, (y.run s).2) = _
  rw [h]

theorem liftM_ok_bind (a : α) (f : α → ExceptT ε (StateM σ) β) :
    ((liftM (Except.ok a : Except ε α) : ExceptT ε (StateM σ) α) >>= f) = f a :=
  rfl

end

end ScriptGraph
