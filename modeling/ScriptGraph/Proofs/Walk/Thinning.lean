import ScriptGraph.Proofs.Graph.Thinning
import ScriptGraph.Proofs.Walk.Depth
import ScriptGraph.Proofs.Walk.Simulation

/-! # Walks over thinned graphs

What is left out where a graph is thinned has been entered when its turn comes, and a visit of it
does nothing. So two walks, over a graph and over one that looks thinned from its nodes, stay related
if what is done at each node does.
-/

namespace ScriptGraph

variable {σ α : Type} {R : σ → σ → Prop} {visited : σ → List NodeId}
  {entered entered' seen : List NodeId} {us us' : List Node}

/-- Related states of two passes after certain nodes have been entered. -/
def Beyond (visited : σ → List NodeId) (entered : List NodeId) (R : σ → σ → Prop) (s t : σ) : Prop :=
  entered ⊆ visited s ∧ R s t

theorem Beyond.mono {s t : σ} (h : Beyond visited entered' R s t) (he : entered ⊆ entered') :
    Beyond visited entered R s t :=
  ⟨List.Subset.trans he h.1, h.2⟩

/-- Programs that take no node back go side by side after any nodes. -/
theorem Simulates.beyond {x y : StateM σ α} (h : Simulates R x y)
    (hv : ∀ s, visited s ⊆ visited (x.run s).2) (entered : List NodeId) :
    Simulates (Beyond visited entered R) x y := by
  intro s t ⟨he, hst⟩
  obtain ⟨same, related⟩ := h s t hst
  exact ⟨same, List.Subset.trans he (hv s), related⟩

/-- Two ways to visit some nodes go side by side, each node is entered by its visit, and the first
does nothing at nodes that have been entered. -/
structure Accords (visited : σ → List NodeId) (R : σ → σ → Prop) (N : Node → Prop)
    (visit visit' : Node → StateM σ Unit) : Prop where
  enters {u : Node} (hu : N u) {entered : List NodeId} {s t : σ}
    (h : Beyond visited entered R s t) :
    Beyond visited (u.id :: entered) R ((visit u).run s).2 ((visit' u).run t).2
  seen {u : Node} {s : σ} (h : u.id ∈ visited s) : (visit u).run s = ((), s)

theorem Accords.forM {N : Node → Prop} {visit visit' : Node → StateM σ Unit}
    (h : Accords visited R N visit visit') (ht : Thins Node.id seen us us') (hs : seen ⊆ entered)
    (hN : ∀ u ∈ us, N u) :
    Simulates (Beyond visited entered R) (us.forM visit) (us'.forM visit') := by
  induction ht generalizing entered with
  | nil => exact .pure ()
  | @keep seen u us us' _ ih =>
    obtain ⟨hu, rest⟩ := List.forall_mem_cons.mp hN
    intro s t hst
    have later := ih (List.cons_subset_cons u.id hs) rest _ _ (h.enters hu hst)
    exact ⟨later.1, later.2.mono (List.subset_cons_self _ _)⟩
  | @skip seen u us us' hm _ ih =>
    intro s t hst
    have idle : ((u :: us).forM visit).run s = (us.forM visit).run s := by
      change (visit u >>= fun _ => us.forM visit).run s = _
      rw [StateT.run_bind, h.seen (hst.1 (hs hm))]
      rfl
    rw [idle]
    exact ih hs (List.forall_mem_cons.mp hN).2 s t hst

section

variable {c c' : Conduct σ} {w w' : Workspace} {enter : NodeId → StateM σ Bool}
  {mark mark' : NodeId → σ → σ} {act act' : (Node → StateM σ Unit) → Node → StateM σ Flow}
  (hg : c.Governs w enter mark act) (hm : ∀ id s, c.visited (mark id s) = id :: c.visited s)
  (hR : ∀ id, Simulates R (enter id) (enter id)) (ht : w.Thinned w')
  (ha : ∀ {visit visit'}, Accords c.visited R (· ∈ w.graph.nodes.toList) visit visit' →
    ∀ {v}, v ∈ w.graph.nodes.toList → ∀ entered,
      Simulates (Beyond c.visited entered R) (act visit v) (act' visit' v))

include hg hm hR in
/-- After a visit its node has been entered, and what is done at a new node goes side by side. -/
theorem beyond_enter {id : NodeId} {x y : StateM σ Unit} {s t : σ}
    (h : Beyond c.visited entered R s t)
    (hxy : Simulates (Beyond c.visited (id :: entered) R) x y) :
    Beyond c.visited (id :: entered) R
      ((enter id >>= fun isNew => if isNew then x else pure ()).run s).2
      ((enter id >>= fun isNew => if isNew then y else pure ()).run t).2 := by
  obtain ⟨same, related⟩ := hR id s t h.2
  have marked : id :: entered ⊆ c.visited ((enter id).run s).2 := by
    by_cases hseen : id ∈ c.visited s
    · rw [hg.enter_seen hseen]
      exact List.cons_subset.mpr ⟨hseen, h.1⟩
    · rw [hg.enter_new hseen]
      change id :: entered ⊆ c.visited (mark id s)
      rw [hm]
      exact List.cons_subset_cons id h.1
  have rest : Simulates (Beyond c.visited (id :: entered) R)
      (if ((enter id).run s).1 then x else pure ())
      (if ((enter id).run t).1 then y else pure ()) := by
    rw [same]
    exact .ite hxy (.pure ())
  rw [StateT.run_bind, StateT.run_bind]
  exact (rest _ _ ⟨marked, related⟩).2

include ht in
theorem Accords.visitFlow {visit visit' : Node → StateM σ Unit}
    (h : Accords visited R (· ∈ w.graph.nodes.toList) visit visit') {v : Node}
    (hv : v ∈ w.graph.nodes.toList) (flow : Flow) :
    Simulates (Beyond visited entered R) (w.visitFlow visit v flow) (w'.visitFlow visit' v flow) := by
  have along (port : Option Nat) : Simulates (Beyond visited entered R)
      ((w.controlSuccessors v port).forM visit) ((w'.controlSuccessors v port).forM visit') :=
    h.forM (ht.successors hv port) (List.nil_subset _) fun _ hu =>
      w.mem_nodes_of_mem_controlSuccessors hu
  cases flow with
  | proceed => exact along none
  | follow port => exact along (some port)
  | halt => exact .pure ()

include hg hm hR ht ha in
theorem accords_walkOr (depth : Nat) :
    Accords c.visited R (· ∈ w.graph.nodes.toList)
      (walkOr w enter act (fun _ => pure ()) depth)
      (walkOr w' enter act' (fun _ => pure ()) depth) := by
  refine ⟨fun {v} hv {entered s t} h => ?_, fun h => walkOr_seen _ hg h _⟩
  induction depth generalizing v entered s t with
  | zero => exact beyond_enter hg hm hR h (.pure ())
  | succ depth ih =>
    have accords : Accords c.visited R (· ∈ w.graph.nodes.toList)
        (walkOr w enter act (fun _ => pure ()) depth)
        (walkOr w' enter act' (fun _ => pure ()) depth) :=
      ⟨fun hv _ _ _ h => ih hv h, fun h => walkOr_seen _ hg h _⟩
    refine beyond_enter hg hm hR h ?_
    exact (ha accords hv _).bind fun flow => accords.visitFlow ht hv flow

include hg hm hR ht ha in
/-- Passes over a graph and over one that looks thinned from it end in related states. -/
theorem related_of_thinned (hg' : c'.Governs w' enter mark' act') {s t : σ} (hst : R s t)
    (hi : c.invariant s) (hi' : c'.invariant t) :
    R ((w.entryNodes.forM (walk w enter act w.graph.nodes.size)).run s).2
      ((w'.entryNodes.forM (walk w' enter act' w'.graph.nodes.size)).run t).2 := by
  -- with as many levels as both graphs have nodes, neither walk comes to its last level
  let depth := w.graph.nodes.size + w'.graph.nodes.size
  have enough : w.graph.ids.card ≤ depth := w.graph.card_ids_le.trans (Nat.le_add_right _ _)
  have enough' : w'.graph.ids.card ≤ depth := w'.graph.card_ids_le.trans (Nat.le_add_left _ _)
  have first := forM_walkOr_performs (fun _ => pure ()) hg enough w.graph.card_ids_le
  have second := forM_walkOr_performs (fun _ => pure ()) hg' enough' w'.graph.card_ids_le
  rw [← (first s (List.nil_subset _) hi).1, ← (second t (List.nil_subset _) hi').1]
  have pass := (accords_walkOr hg hm hR ht ha depth).forM ht.entries (List.nil_subset [])
    fun _ hu => List.mem_of_mem_filter hu
  exact (pass s t ⟨List.nil_subset _, hst⟩).2.2

end

end ScriptGraph
