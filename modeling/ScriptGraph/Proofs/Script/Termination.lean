import Mathlib.Algebra.BigOperators.Ring.Finset
import Mathlib.Algebra.Order.BigOperators.Group.Finset
import ScriptGraph.Proofs.Script.Traversal

/-! # Runs end

A round of a loop forgets what it has entered, so the nodes that are left to enter do not bound a
run by themselves. They bound what one visit can do: it executes one node, and then walks a route
with at most as many rounds as a loop may have, where one node fewer is left to enter.
-/

namespace ScriptGraph

namespace Route

/-- How many parts of a route are walked in a scope of their own. -/
def rounds : Route → Nat
  | stop => 0
  | visit _ rest => rest.rounds
  | inside _ rest => rest.rounds + 1

/-- No part of the route that is walked in a scope of its own has such parts itself. -/
def Shallow : Route → Prop
  | stop => True
  | visit _ rest => rest.Shallow
  | inside body rest => body.rounds = 0 ∧ body.Shallow ∧ rest.Shallow

@[simp] theorem rounds_append (r r' : Route) : (r ++ r').rounds = r.rounds + r'.rounds := by
  induction r with
  | stop => simp [rounds]
  | visit node rest ih => simpa [rounds] using ih
  | inside body rest _ ih =>
    simp only [inside_append, rounds, ih]
    omega

@[simp] theorem shallow_append (r r' : Route) : (r ++ r').Shallow ↔ r.Shallow ∧ r'.Shallow := by
  induction r with
  | stop => simp [Shallow]
  | visit node rest ih => simpa [Shallow] using ih
  | inside body rest _ ih => simp [Shallow, ih, and_assoc]

@[simp] theorem rounds_ofNodes (ns : List Node) : (ofNodes ns).rounds = 0 := by
  induction ns with
  | nil => rfl
  | cons node ns ih => exact ih

@[simp] theorem shallow_ofNodes (ns : List Node) : (ofNodes ns).Shallow := by
  induction ns with
  | nil => trivial
  | cons node ns ih => exact ih

@[simp] theorem rounds_times (body : Route) (count : Nat) : (body.times count).rounds = count := by
  induction count with
  | zero => rfl
  | succ count ih => simp [times, rounds, ih]

theorem shallow_times {body : Route} (h : body.Shallow) (hr : body.rounds = 0) (count : Nat) :
    (body.times count).Shallow := by
  induction count with
  | zero => trivial
  | succ count ih => exact ⟨hr, h, ih⟩

end Route

namespace Script

/-- How many nodes are executed at most where so many are left to enter. -/
def bound (limit left : Nat) : Nat :=
  ∑ k ∈ Finset.range left, (limit + 1) ^ k

theorem bound_succ (limit left : Nat) :
    bound limit (left + 1) = 1 + (limit + 1) * bound limit left := by
  rw [bound, Finset.sum_range_succ', bound, Finset.mul_sum, pow_zero, Nat.add_comm]
  simp only [pow_succ']

theorem bound_mono {limit left left' : Nat} (h : left ≤ left') :
    bound limit left ≤ bound limit left' :=
  Finset.sum_le_sum_of_subset (Finset.range_mono h)

variable {s : Setting} {m m' : Machine} {r : Route}

/-- How many nodes are left to enter. -/
def left (s : Setting) (m : Machine) : Nat :=
  s.graph.unentered m.visited.visited

theorem rounds_le_of_leads {limit : Nat} {has : PortRef → Bool} {v : Node}
    (h : s.Leads limit has v r) : r.rounds ≤ limit ∧ r.Shallow := by
  cases h with
  | all => simp
  | nowhere => exact ⟨Nat.zero_le _, trivial⟩
  | choice => simp
  | rounds _ _ hc => simpa using ⟨hc, Route.shallow_times (Route.shallow_ofNodes _) (by simp) _⟩

theorem left_eq_of_visited (h : m'.visited = m.visited) : left s m' = left s m := by
  rw [left, h, left]

theorem left_le_of_walks (h : Walks (traversal s) s.toWorkspace m r m') : left s m' ≤ left s m :=
  Graph.unentered_le_of_subset (h.visited_subset (traversal_lawful s))

/-- What a walk executes, and what could still be executed by one visit after it, is bounded by what
one visit could execute before it, once for the walk and once more for each round. -/
theorem executed_of_walks (h : Walks (traversal s) s.toWorkspace m r m') (hr : r.Shallow) :
    m'.executed.length + bound s.maxLoopIterations (left s m') ≤
      m.executed.length + (r.rounds + 1) * bound s.maxLoopIterations (left s m) := by
  let B (m : Machine) : Nat := bound s.maxLoopIterations (left s m)
  induction h with
  | stop => simp [Route.rounds]
  | pause hp _ ih =>
    obtain ⟨_, _, _, own⟩ := hp
    have ih := ih hr
    rwa [Own.executed_eq own, left_eq_of_visited (Own.visited_eq own)] at ih
  | seen _ _ ih => exact ih hr
  | @enter m m₁ m₂ m' v inner rest hn hv hw hi hrest ihi ihr =>
    obtain ⟨hle, hs⟩ := rounds_le_of_leads hw.route
    have begun : m₁.executed.length = m.executed.length + 1 := by
      rw [hw.own.executed_eq]
      exact (congrArg List.length (executed_began v m)).trans List.length_append
    have fewer : left s m₁ + 1 = left s m := by
      rw [left_eq_of_visited hw.own.visited_eq]
      exact Graph.unentered_cons hn hv
    have inside : m₂.executed.length + B m₂ ≤ m.executed.length + B m := by
      have more : (inner.rounds + 1) * B m₁ ≤ (s.maxLoopIterations + 1) * B m₁ :=
        Nat.mul_le_mul_right _ (Nat.succ_le_succ hle)
      have step : B m = 1 + (s.maxLoopIterations + 1) * B m₁ := by
        change bound _ (left s m) = _
        rw [← fewer, bound_succ]
      have := ihi hs
      change m₂.executed.length + B m₂ ≤ m₁.executed.length + (inner.rounds + 1) * B m₁ at this
      omega
    have later : rest.rounds * B m₂ ≤ rest.rounds * B m := by
      refine Nat.mul_le_mul_left _ (bound_mono ?_)
      have := left_le_of_walks hi
      omega
    have := ihr hr
    change m'.executed.length + B m' ≤ m₂.executed.length + (rest.rounds + 1) * B m₂ at this
    change m'.executed.length + B m' ≤ m.executed.length + (rest.rounds + 1) * B m
    rw [Nat.add_mul, Nat.one_mul] at this ⊢
    omega
  | @inside m _ m₂ _ m' body rest ho hb hc hrest ihb ihr =>
    obtain ⟨hz, hs, hr⟩ := hr
    obtain ⟨_, rfl⟩ := ho
    obtain rfl := hc
    have round : m₂.executed.length + B m₂ ≤ m.executed.length + B m := by
      have := ihb hs
      rw [hz, Machine.executed_logged] at this
      change m₂.executed.length + bound _ (left s m₂) ≤ m.executed.length + bound _ (left s m)
      simpa [nodesOf, left, Machine.logged] using this
    have := ihr hr
    change m'.executed.length + B m' ≤ m₂.executed.length + (rest.rounds + 1) * B m at this
    change m'.executed.length + B m' ≤ m.executed.length + (rest.rounds + 1 + 1) * B m
    rw [Nat.add_mul _ 1 (B m), Nat.one_mul]
    omega

/-- A run of the built-in interpreter ends, however deep visits are nested: what would be done at a
new node below as many levels as there are ids is never done. What it executes is bounded by the
number of ids and by the number of rounds that one execution of a loop may have. -/
theorem run_bounded (limit : Nat) (exchange : Http.Exchange) (draws : Draws) (graph : Graph) :
    let i := builtin limit exchange draws
    let s := i.setting graph
    (∀ (stuck : Node → RunM Unit) (depth : Nat), graph.ids.card ≤ depth →
      ((s.entryNodes.forM (walkOr s.toWorkspace Interpreter.enter (i.execute s) stuck depth)).run
        {}).2 = i.machine graph) ∧
    (i.run graph).visited.length ≤ ∑ k ∈ Finset.range graph.ids.card, (limit + 1) ^ k := by
  intro i s
  constructor
  · intro stuck depth hdepth
    have performs := forM_walkOr_performs stuck
      (Interpreter.governs limit exchange draws s) hdepth
      graph.card_ids_le
    exact congrArg Prod.snd (performs {} (List.nil_subset _) rfl).1
  · have h := executed_of_walks (Interpreter.walks_machine limit exchange draws graph)
      (Route.shallow_ofNodes _)
    have all : bound limit (left s {}) ≤ bound limit graph.ids.card :=
      bound_mono Graph.unentered_le_card_ids
    have none : ({} : Machine).executed.length = 0 := rfl
    rw [Route.rounds_ofNodes] at h
    change (i.machine graph).executed.length + bound limit _ ≤
      ({} : Machine).executed.length + (0 + 1) * bound limit (left s {}) at h
    change (i.machine graph).executed.length ≤ bound limit graph.ids.card
    omega

end Script

end ScriptGraph
