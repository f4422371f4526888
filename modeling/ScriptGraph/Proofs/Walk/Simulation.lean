import Mathlib.Data.List.Forall2
import ScriptGraph.Graph.Walk

/-! # Programs side by side

Two programs over states of a pass that stay related: whatever the one does, the other does as well,
and they give the same result. Walks go side by side over two graphs if related nodes lead to
related nodes.
-/

namespace ScriptGraph

variable {σ τ α β ε : Type} {R : σ → τ → Prop}

/-- From related states two programs give the same result and go to related states. -/
def Simulates (R : σ → τ → Prop) (x : StateM σ α) (y : StateM τ α) : Prop :=
  ∀ s t, R s t → (x.run s).1 = (y.run t).1 ∧ R (x.run s).2 (y.run t).2

namespace Simulates

variable {x x' : StateM σ α} {y y' : StateM τ α} {f : α → StateM σ β} {g : α → StateM τ β}

theorem pure (a : α) : Simulates R (Pure.pure a) (Pure.pure a) :=
  fun _ _ h => ⟨rfl, h⟩

theorem bind (hx : Simulates R x y) (hf : ∀ a, Simulates R (f a) (g a)) :
    Simulates R (x >>= f) (y >>= g) := by
  intro s t h
  obtain ⟨same, related⟩ := hx s t h
  rw [StateT.run_bind, StateT.run_bind]
  change ((f (x.run s).1).run (x.run s).2).1 = ((g (y.run t).1).run (y.run t).2).1 ∧
    R ((f (x.run s).1).run (x.run s).2).2 ((g (y.run t).1).run (y.run t).2).2
  rw [same]
  exact hf _ _ _ related

theorem of_eq {z z' : StateM σ α} (h : z = z') : Simulates Eq z z' := by
  rintro s _ rfl
  rw [h]
  exact ⟨rfl, rfl⟩

theorem ite {c : Prop} [Decidable c] (hx : Simulates R x y) (hx' : Simulates R x' y') :
    Simulates R (if c then x else x') (if c then y else y') := by
  split
  next => exact hx
  next => exact hx'

theorem forM₂ {ι κ : Type} {N : ι → κ → Prop} {visit : ι → StateM σ Unit}
    {visit' : κ → StateM τ Unit} {is : List ι} {js : List κ} (hn : List.Forall₂ N is js)
    (h : ∀ i j, N i j → Simulates R (visit i) (visit' j)) :
    Simulates R (is.forM visit) (js.forM visit') := by
  induction hn with
  | nil => exact .pure ()
  | cons hij _ ih => exact (h _ _ hij).bind fun _ => ih

theorem forM {ι : Type} {visit : ι → StateM σ Unit} {visit' : ι → StateM τ Unit} {is : List ι}
    (h : ∀ i, Simulates R (visit i) (visit' i)) :
    Simulates R (is.forM visit) (is.forM visit') := by
  refine .forM₂ (List.forall₂_eq_eq_eq ▸ rfl) fun i j hij => ?_
  exact hij ▸ h i

theorem mapM {ι : Type} {f : ι → StateM σ α} {g : ι → StateM τ α}
    (h : ∀ i, Simulates R (f i) (g i)) (is : List ι) : Simulates R (is.mapM f) (is.mapM g) := by
  induction is with
  | nil => exact .pure []
  | cons i is ih =>
    rw [List.mapM_cons, List.mapM_cons]
    exact (h i).bind fun _ => ih.bind fun _ => .pure _

section

variable {w w' : Workspace} {enter : NodeId → StateM σ Bool} {enter' : NodeId → StateM τ Bool}
  {act : (Node → StateM σ Unit) → Node → StateM σ Flow}
  {act' : (Node → StateM τ Unit) → Node → StateM τ Flow}

/-- Walks over two graphs go side by side if related nodes lead to related nodes and what is done at
them goes side by side. -/
theorem walk₂ {N : Node → Node → Prop}
    (hs : ∀ v v' port, N v v' →
      List.Forall₂ N (w.controlSuccessors v port) (w'.controlSuccessors v' port))
    (he : ∀ v v', N v v' → Simulates R (enter v.id) (enter' v'.id))
    (ha : ∀ visit visit', (∀ u u', N u u' → Simulates R (visit u) (visit' u')) →
      ∀ v v', N v v' → Simulates R (act visit v) (act' visit' v'))
    (depth : Nat) (v v' : Node) (hv : N v v') :
    Simulates R (ScriptGraph.walk w enter act depth v)
      (ScriptGraph.walk w' enter' act' depth v') := by
  induction depth generalizing v v' with
  | zero => exact .pure ()
  | succ depth ih =>
    unfold ScriptGraph.walk
    refine (he v v' hv).bind fun isNew => .ite ?_ (.pure ())
    refine (ha _ _ ih v v' hv).bind fun flow => ?_
    cases flow with
    | proceed => exact .forM₂ (hs v v' none hv) ih
    | follow port => exact .forM₂ (hs v v' (some port) hv) ih
    | halt => exact .pure ()

/-- Walks over graphs that look the same go side by side if what is done at each node does. -/
theorem walk (hs : ∀ v port, w.controlSuccessors v port = w'.controlSuccessors v port)
    (he : ∀ id, Simulates R (enter id) (enter' id))
    (ha : ∀ visit visit', (∀ u, Simulates R (visit u) (visit' u)) →
      ∀ v, Simulates R (act visit v) (act' visit' v)) (depth : Nat) (v : Node) :
    Simulates R (ScriptGraph.walk w enter act depth v)
      (ScriptGraph.walk w' enter' act' depth v) := by
  refine .walk₂ (N := Eq) ?_ ?_ ?_ depth v v rfl
  · rintro v _ port rfl
    rw [List.forall₂_eq_eq_eq]
    exact hs v port
  · rintro v _ rfl
    exact he v.id
  · rintro visit visit' hv v _ rfl
    exact ha visit visit' (fun u => hv u u rfl) v

end

end Simulates

/-! ### Programs that may fail -/

/-- From related states two programs give the same result or the same fault, and go to related
states. -/
def Attempts (R : σ → τ → Prop) (x : ExceptT ε (StateM σ) α) (y : ExceptT ε (StateM τ) α) : Prop :=
  Simulates R x.run y.run

namespace Attempts

variable {x x' : ExceptT ε (StateM σ) α} {y y' : ExceptT ε (StateM τ) α}
  {f : α → ExceptT ε (StateM σ) β} {g : α → ExceptT ε (StateM τ) β}

theorem pure (a : α) : Attempts R (Pure.pure a : ExceptT ε (StateM σ) α) (Pure.pure a) :=
  fun _ _ h => ⟨rfl, h⟩

theorem throw (e : ε) : Attempts R (MonadExcept.throw e : ExceptT ε (StateM σ) α)
    (MonadExcept.throw e) :=
  fun _ _ h => ⟨rfl, h⟩

theorem lift {z : StateM σ α} {z' : StateM τ α} (h : Simulates R z z') :
    Attempts R (liftM z : ExceptT ε (StateM σ) α) (liftM z') := by
  intro s t hst
  obtain ⟨same, related⟩ := h s t hst
  exact ⟨congrArg Except.ok same, related⟩

/-- What is decided without looking at the state. -/
theorem liftExcept (z : Except ε α) : Attempts R (liftM z : ExceptT ε (StateM σ) α) (liftM z) :=
  fun _ _ h => ⟨rfl, h⟩

theorem bind (hx : Attempts R x y) (hf : ∀ a, Attempts R (f a) (g a)) :
    Attempts R (x >>= f) (y >>= g) := by
  unfold Attempts
  rw [ExceptT.run_bind, ExceptT.run_bind]
  refine Simulates.bind hx fun result => ?_
  cases result with
  | ok a => exact hf a
  | error e => exact .pure (Except.error e)

theorem ite {c : Prop} [Decidable c] (hx : Attempts R x y) (hx' : Attempts R x' y') :
    Attempts R (if c then x else x') (if c then y else y') := by
  split
  next => exact hx
  next => exact hx'

/-- What is left to do behind a check that fails or passes. -/
theorem check {c : Prop} [Decidable c] {e : ε} {z : Unit → ExceptT ε (StateM σ) α}
    {z' : Unit → ExceptT ε (StateM τ) α} (h : Attempts R (z ()) (z' ())) :
    Attempts R (if c then MonadExcept.throw e >>= z else z ())
      (if c then MonadExcept.throw e >>= z' else z' ()) :=
  .ite (throw e) h

/-- A fault may be handled. -/
theorem caught {handle : ε → ExceptT ε (StateM σ) α} {handle' : ε → ExceptT ε (StateM τ) α}
    (hx : Attempts R x y) (he : ∀ e, Attempts R (handle e) (handle' e)) :
    Attempts R (tryCatch x handle) (tryCatch y handle') := by
  change Simulates R (ExceptT.tryCatch x handle) (ExceptT.tryCatch y handle')
  unfold ExceptT.tryCatch
  refine Simulates.bind hx fun result => ?_
  cases result with
  | ok a => exact .pure (Except.ok a)
  | error e => exact he e

end Attempts

end ScriptGraph
