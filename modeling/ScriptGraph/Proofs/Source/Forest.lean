import Mathlib.Algebra.Order.Group.Multiset
import Mathlib.Data.List.Flatten
import Mathlib.Tactic.Abel
import ScriptGraph.Proofs.Source.Traversal

/-! # Generation of forests

Where the control edges of a graph form a forest, a walk of the generator never comes to a node
again: what it has entered, what lies ahead on its route and the targets of the nodes that it has
not entered yet are all different.
-/

namespace ScriptGraph

namespace Workspace

variable (w : Workspace)

/-- The nodes that control can come to. -/
inductive Reachable : Node → Prop where
  | entry {v : Node} : v ∈ w.entryNodes → Reachable v
  | step {u v : Node} : Reachable u → v ∈ w.controlSuccessors u none → Reachable v

/-- The ids of the nodes that the control edges of certain nodes lead to, once for each edge. -/
def targets (nodes : List Node) : List NodeId :=
  (nodes.flatMap fun u => w.controlSuccessors u none).map (·.id)

/-- No two control edges lead to one node and none leads to an entry node, so that the nodes that
control can come to form a forest. None of them is a loop. -/
structure BranchingForest : Prop where
  ids : (w.graph.nodes.toList.map (·.id)).Nodup
  /-- Every node is the target of at most one control edge. -/
  targets : (w.targets w.graph.nodes.toList).Nodup
  /-- Entry nodes are the target of none. -/
  entries : ∀ v ∈ w.entryNodes, v.id ∉ w.targets w.graph.nodes.toList
  loopless : ∀ v, w.Reachable v → v.kind ≠ Kind.whileLoop.name ∧ v.kind ≠ Kind.forLoop.name

/-- The nodes that have not been entered. -/
def unentered (entered : List NodeId) : List Node :=
  w.graph.nodes.toList.filter (·.id ∉ entered)

/-- Nothing that has been entered lies ahead, and nothing lies ahead twice. -/
def Fresh (entered ahead : List NodeId) : Prop :=
  (entered + ahead + w.targets (w.unentered entered) : Multiset NodeId).Nodup

variable {w} {u v : Node}

theorem mem_nodes_of_reachable (h : w.Reachable v) : v ∈ w.graph.nodes.toList := by
  cases h with
  | entry h => exact List.mem_of_mem_filter h
  | step _ h => exact mem_nodes_of_mem_controlSuccessors h

theorem BranchingForest.of_nodes (ids : (w.graph.nodes.toList.map (·.id)).Nodup)
    (targets : (w.targets w.graph.nodes.toList).Nodup)
    (entries : ∀ v ∈ w.entryNodes, v.id ∉ w.targets w.graph.nodes.toList)
    (loopless : ∀ v ∈ w.graph.nodes.toList,
      v.kind ≠ Kind.whileLoop.name ∧ v.kind ≠ Kind.forLoop.name) : w.BranchingForest :=
  ⟨ids, targets, entries, fun v hv => loopless v (mem_nodes_of_reachable hv)⟩

/-- Control comes to the entry nodes, and to nodes that are found by their ids. -/
theorem Reachable.entry_or_found (h : w.Reachable v) :
    v ∈ w.entryNodes ∨ w.graph.findNode v.id = some v := by
  cases h with
  | entry h => exact .inl h
  | step _ h => exact .inr (findNode_of_mem_controlSuccessors h)

theorem BranchingForest.not_loops (h : w.BranchingForest) (hv : w.Reachable v) :
    ∀ kind ∈ Kind.ofName? v.kind, kind.loops = false := by
  intro kind hk
  obtain ⟨hw, hf⟩ := h.loopless v hv
  have hname := Kind.ofName?_eq_some_iff.mp hk
  cases kind with
  | whileLoop => exact absurd hname hw
  | forLoop => exact absurd hname hf
  | _ => rfl

theorem kind_of_entry (hr : w.registry = .builtin) (h : v ∈ w.entryNodes) :
    v.kind = Kind.onStart.name := by
  have entry : w.registry.isEntry v.kind := (List.mem_filter.mp h).2
  rw [hr, Registry.isEntry, Registry.get?_builtin] at entry
  cases hk : Kind.ofName? v.kind with
  | none => simp [hk] at entry
  | some kind =>
    rw [Kind.ofName?_eq_some_iff.mp hk]
    rw [hk] at entry
    cases kind with
    | onStart => rfl
    | _ => cases entry

theorem cons_unentered_subperm {entered : List NodeId} (hn : v ∈ w.graph.nodes.toList)
    (hv : v.id ∉ entered) : (v :: w.unentered (v.id :: entered)).Subperm (w.unentered entered) := by
  have others : w.unentered (v.id :: entered) =
      (w.unentered entered).filter fun u => !decide (u.id = v.id) := by
    unfold unentered
    rw [List.filter_filter]
    refine List.filter_congr fun u _ => ?_
    by_cases h : u.id = v.id <;> simp [h]
  have first : [v].Sublist ((w.unentered entered).filter fun u => decide (u.id = v.id)) := by
    rw [List.singleton_sublist]
    simp [unentered, hn, hv]
  rw [others]
  exact (first.append (List.Sublist.refl _)).subperm.trans
    (List.filter_append_perm _ _).subperm

theorem targets_subperm {nodes nodes' : List Node} (h : nodes.Subperm nodes') :
    (w.targets nodes).Subperm (w.targets nodes') := by
  obtain ⟨l, hp, hs⟩ := h
  exact ((hp.symm.flatMap_right _).map _).subperm.trans ((hs.flatMap _).map _).subperm

/-- Entering a node puts what it leads to on the route, and takes it off the targets. -/
theorem Fresh.enter {entered ahead : List NodeId} {route : List Node}
    (h : w.Fresh entered (v.id :: ahead)) (hn : v ∈ w.graph.nodes.toList) (hv : v.id ∉ entered)
    (hr : route.Subperm (w.controlSuccessors v none)) :
    w.Fresh (v.id :: entered) (route.map (·.id) ++ ahead) := by
  let old := w.targets (w.unentered entered)
  let new := w.targets (w.unentered (v.id :: entered))
  have less : (route.map (·.id) ++ new).Subperm old := by
    obtain ⟨route', hp, hs⟩ := hr
    have first : (route.map (·.id)).Subperm ((w.controlSuccessors v none).map (·.id)) :=
      ⟨_, hp.map _, hs.map _⟩
    refine (first.append (List.Subperm.refl _)).trans ?_
    have all : (w.targets (v :: w.unentered (v.id :: entered))).Subperm old :=
      targets_subperm (cons_unentered_subperm hn hv)
    rwa [targets, List.flatMap_cons, List.map_append] at all
  refine Multiset.nodup_of_le ?_ h
  rw [← Multiset.coe_add, ← Multiset.cons_coe, ← Multiset.cons_coe]
  calc (v.id ::ₘ entered + (route.map (·.id) + ahead) + new : Multiset NodeId)
      = entered + (v.id ::ₘ ahead) + (route.map (·.id) + new : Multiset NodeId) := by
        simp only [← Multiset.singleton_add]
        abel
    _ ≤ entered + (v.id ::ₘ ahead) + old := by
        refine add_le_add_right ?_ _
        rw [Multiset.coe_add]
        exact less

theorem Fresh.not_mem {entered ahead : List NodeId} {id : NodeId} (h : w.Fresh entered ahead)
    (ha : id ∈ ahead) : id ∉ entered := by
  unfold Fresh at h
  rw [Multiset.nodup_add, Multiset.nodup_add] at h
  exact fun he => Multiset.disjoint_left.mp h.1.2.2 he ha

theorem BranchingForest.fresh (h : w.BranchingForest) : w.Fresh [] (w.entryNodes.map (·.id)) := by
  have all : w.unentered [] = w.graph.nodes.toList := by
    simp [unentered]
  unfold Fresh
  rw [all, Multiset.coe_add, Multiset.coe_add, Multiset.coe_nodup, List.nil_append,
    List.nodup_append]
  refine ⟨h.ids.sublist (List.filter_sublist.map _), h.targets, ?_⟩
  rintro id he _ ht rfl
  obtain ⟨v, hv, rfl⟩ := List.mem_map.mp he
  exact h.entries v hv ht

end Workspace

namespace Source

variable {s : Setting} {v : Node} {d d' : Draft} {r : Route}

theorem Works.nodes_subperm (h : Works s v d r d') :
    r.nodes.Subperm (s.controlSuccessors v none) := by
  rw [h.route]
  exact Workspace.nodes_textRoute_subperm

theorem Works.fresh (h : Works s v (began v d) r d') (hn : v ∈ s.graph.nodes.toList)
    (hv : v.id ∉ d.visited.visited) {ahead : List NodeId}
    (hf : s.Fresh d.visited.visited (v.id :: ahead)) :
    s.Fresh d'.visited.visited (r.nodes.map (·.id) ++ ahead) := by
  have entered : d'.visited.visited = v.id :: d.visited.visited :=
    congrArg VisitSet.visited h.own.visited_eq
  rw [entered]
  exact hf.enter hn hv h.nodes_subperm

/-- A walk leaves fresh what lies ahead of it. -/
theorem fresh_of_walks (h : Walks (traversal s) s.toWorkspace d r d') {ahead : List NodeId}
    (hf : s.Fresh d.visited.visited (r.nodes.map (·.id) ++ ahead)) :
    s.Fresh d'.visited.visited ahead := by
  induction h generalizing ahead with
  | stop => exact hf
  | pause hp _ ih =>
    obtain ⟨es, -, rfl⟩ := hp
    exact ih hf
  | seen hv _ _ => exact absurd hv (hf.not_mem (by simp [Route.nodes]))
  | enter hn hv hw _ _ ihi ihr => exact ihr (ihi (Works.fresh hw hn hv hf))
  | inside ho _ hc _ ihb ihr =>
    obtain rfl := ho
    obtain rfl := hc
    refine ihr (ihb ?_)
    rwa [Route.nodes, List.map_append, List.append_assoc] at hf

end Source

end ScriptGraph
