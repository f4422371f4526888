import Mathlib.Data.Finset.Card
import ScriptGraph.Proofs.Graph.Successors
import ScriptGraph.Proofs.Walk.Route

/-! # The depth of walks

Nested visits enter a new node each time, so that as many levels as there are ids in the graph are
enough for every walk: what would be done at a new node below the last level is never done. Within
that depth a pass that works as its conduct says walks along the routes of its nodes.
-/

namespace ScriptGraph

variable {σ : Type}

/-- The ids that occur in a graph. -/
def Graph.ids (g : Graph) : Finset NodeId :=
  (g.nodes.toList.map (·.id)).toFinset

theorem Graph.id_mem_ids {g : Graph} {node : Node} (h : node ∈ g.nodes.toList) :
    node.id ∈ g.ids :=
  List.mem_toFinset.mpr (List.mem_map_of_mem h)

theorem Graph.card_ids_le (g : Graph) : g.ids.card ≤ g.nodes.size := by
  simpa [Graph.ids] using List.toFinset_card_le (g.nodes.toList.map (·.id))

namespace Graph

variable (g : Graph)

/-- How many ids have not been entered. -/
def unentered (entered : List NodeId) : Nat :=
  (g.ids.filter (· ∉ entered)).card

variable {g} {entered entered' : List NodeId} {node : Node}

theorem unentered_le_card_ids : g.unentered entered ≤ g.ids.card :=
  Finset.card_filter_le _ _

theorem unentered_le_of_subset (h : entered ⊆ entered') :
    g.unentered entered' ≤ g.unentered entered := by
  refine Finset.card_le_card fun id hid => ?_
  rw [Finset.mem_filter] at hid ⊢
  exact ⟨hid.1, fun hm => hid.2 (h hm)⟩

theorem unentered_cons (hn : node ∈ g.nodes.toList) (h : node.id ∉ entered) :
    g.unentered (node.id :: entered) + 1 = g.unentered entered := by
  have hm : node.id ∈ g.ids.filter (· ∉ entered) :=
    Finset.mem_filter.mpr ⟨id_mem_ids hn, h⟩
  have he : g.ids.filter (· ∉ node.id :: entered) =
      (g.ids.filter (· ∉ entered)).erase node.id := by
    ext id
    simp only [Finset.mem_filter, Finset.mem_erase, List.mem_cons, not_or]
    tauto
  rw [unentered, he, Finset.card_erase_add_one hm, unentered]

end Graph

/-- What is visited behind a node. -/
def Workspace.visitFlow {m : Type → Type} [Monad m] (w : Workspace) (visit : Node → m Unit)
    (node : Node) : Flow → m Unit
  | .proceed => (w.controlSuccessors node none).forM visit
  | .follow port => w.branch visit node port
  | .halt => pure ()

/-- A walk that does something of its own at a new node below the last level. -/
def walkOr {m : Type → Type} [Monad m] (w : Workspace) (enter : NodeId → m Bool)
    (act : (visit : Node → m Unit) → Node → m Flow) (stuck : Node → m Unit) :
    (depth : Nat) → Node → m Unit
  | 0, node => do if ← enter node.id then stuck node
  | depth + 1, node => do
    if ← enter node.id then
      let visit := walkOr w enter act stuck depth
      w.visitFlow visit node (← act visit node)

/-- A pass enters and works at nodes as its conduct says, whichever way it visits others. -/
structure Conduct.Governs (c : Conduct σ) (w : Workspace) (enter : NodeId → StateM σ Bool)
    (mark : NodeId → σ → σ) (act : (visit : Node → StateM σ Unit) → Node → StateM σ Flow) :
    Prop where
  lawful : c.Lawful
  enter_seen {id : NodeId} {s : σ} (h : id ∈ c.visited s) : (enter id).run s = (false, s)
  enter_new {id : NodeId} {s : σ} (h : id ∉ c.visited s) : (enter id).run s = (true, mark id s)
  act {visit visit' : Node → StateM σ Unit} {v : Node} {s : σ}
    (hn : v ∈ w.graph.nodes.toList) (hv : v.id ∉ c.visited s) (hs : c.invariant s)
    (h : ∀ u ∈ w.graph.nodes.toList,
      Performs c w (v.id :: c.visited s) (visit u) (visit' u) (.visit u .stop)) :
    (act visit v).run (mark v.id s) = (act visit' v).run (mark v.id s) ∧
      ∃ inner s₁, c.work v (c.begin v s)
          (inner ++ w.flowRoute v ((act visit v).run (mark v.id s)).1) s₁ ∧
        Walks c w s₁ inner ((act visit v).run (mark v.id s)).2

section

variable {c : Conduct σ} {w : Workspace} {enter : NodeId → StateM σ Bool}
  {mark : NodeId → σ → σ} {act : (visit : Node → StateM σ Unit) → Node → StateM σ Flow}
  (stuck : Node → StateM σ Unit)

theorem walk_seen (hg : c.Governs w enter mark act) {v : Node} {s : σ} (h : v.id ∈ c.visited s)
    (depth : Nat) : (walk w enter act depth v).run s = ((), s) := by
  cases depth with
  | zero => rfl
  | succ depth =>
    unfold walk
    rw [StateT.run_bind, hg.enter_seen h]
    rfl

theorem walkOr_seen (hg : c.Governs w enter mark act) {v : Node} {s : σ}
    (h : v.id ∈ c.visited s) (depth : Nat) :
    (walkOr w enter act stuck depth v).run s = ((), s) := by
  cases depth <;>
  · unfold walkOr
    rw [StateT.run_bind, hg.enter_seen h]
    rfl

theorem walk_new (hg : c.Governs w enter mark act) {v : Node} {s : σ} (h : v.id ∉ c.visited s)
    (depth : Nat) :
    (walk w enter act (depth + 1) v).run s =
      (act (walk w enter act depth) v >>= w.visitFlow (walk w enter act depth) v).run
        (mark v.id s) := by
  unfold walk
  rw [StateT.run_bind, hg.enter_new h]
  rfl

theorem walkOr_new (hg : c.Governs w enter mark act) {v : Node} {s : σ}
    (h : v.id ∉ c.visited s) (depth : Nat) :
    (walkOr w enter act stuck (depth + 1) v).run s =
      (act (walkOr w enter act stuck depth) v >>=
        w.visitFlow (walkOr w enter act stuck depth) v).run (mark v.id s) := by
  unfold walkOr
  rw [StateT.run_bind, hg.enter_new h]
  rfl

theorem Performs.visitFlow {entered : List NodeId} {visit visit' : Node → StateM σ Unit}
    (hl : c.Lawful)
    (h : ∀ u ∈ w.graph.nodes.toList,
      Performs c w entered (visit u) (visit' u) (.visit u .stop)) (v : Node) (flow : Flow) :
    Performs c w entered (w.visitFlow visit v flow) (w.visitFlow visit' v flow)
      (w.flowRoute v flow) := by
  cases flow with
  | proceed => exact .forM hl fun u hu => h u (w.mem_nodes_of_mem_controlSuccessors hu)
  | follow port => exact .forM hl fun u hu => h u (w.mem_nodes_of_mem_controlSuccessors hu)
  | halt => exact .pure ()

/-- With as many levels as there are new ids, a visit is a walk, and neither more levels nor what
is done below the last one make a difference. -/
theorem walkOr_performs (hg : c.Governs w enter mark act) (depth depth' : Nat)
    {entered : List NodeId} (h : w.graph.unentered entered ≤ depth)
    (h' : w.graph.unentered entered ≤ depth') {v : Node} (hv : v ∈ w.graph.nodes.toList) :
    Performs c w entered (walkOr w enter act stuck depth v) (walk w enter act depth' v)
      (.visit v .stop) := by
  induction depth generalizing depth' entered v with
  | zero =>
    intro s hs _
    have hseen : v.id ∈ c.visited s := by
      by_contra hnew
      have := Graph.unentered_cons hv fun hm => hnew (hs hm)
      omega
    rw [walkOr_seen stuck hg hseen, walk_seen hg hseen]
    exact ⟨rfl, .seen hseen .stop⟩
  | succ depth ih =>
    intro s hs hi
    by_cases hseen : v.id ∈ c.visited s
    · rw [walkOr_seen stuck hg hseen, walk_seen hg hseen]
      exact ⟨rfl, .seen hseen .stop⟩
    · have hle : w.graph.unentered (v.id :: c.visited s) + 1 ≤ w.graph.unentered entered := by
        rw [Graph.unentered_cons hv hseen]
        exact Graph.unentered_le_of_subset hs
      obtain ⟨depth', rfl⟩ : ∃ k, depth' = k + 1 := ⟨depth' - 1, by omega⟩
      have hvisit : ∀ u ∈ w.graph.nodes.toList,
          Performs c w (v.id :: c.visited s) (walkOr w enter act stuck depth u)
            (walk w enter act depth' u) (.visit u .stop) :=
        fun u hu => ih depth' (by omega) (by omega) hu
      rw [walkOr_new stuck hg hseen, walk_new hg hseen]
      obtain ⟨he, inner, s₁, hwork, hinner⟩ := hg.act hv hseen hi hvisit
      have hmore : v.id :: c.visited s ⊆
          c.visited ((act (walkOr w enter act stuck depth) v).run (mark v.id s)).2 := by
        have := hinner.visited_subset hg.lawful
        rwa [hg.lawful.visited_work hwork, hg.lawful.visited_begin] at this
      have hi' := hinner.invariant hg.lawful
        (hg.lawful.invariant_work (hg.lawful.invariant_begin hi v) hwork)
      obtain ⟨hf, hflow⟩ := Performs.visitFlow hg.lawful hvisit v _ _ hmore hi'
      rw [StateT.run_bind, StateT.run_bind, ← he]
      exact ⟨hf, .enter hv hseen hwork (hinner.append hflow) .stop⟩

/-- Whatever is done below the last level, visits from all entry nodes do the same, and they are a
walk. -/
theorem forM_walkOr_performs (hg : c.Governs w enter mark act) {depth depth' : Nat}
    (h : w.graph.ids.card ≤ depth) (h' : w.graph.ids.card ≤ depth') :
    Performs c w [] (w.entryNodes.forM (walkOr w enter act stuck depth))
      (w.entryNodes.forM (walk w enter act depth')) (.ofNodes w.entryNodes) :=
  .forM hg.lawful fun _ hv =>
    walkOr_performs stuck hg depth depth' (Graph.unentered_le_card_ids.trans h)
      (Graph.unentered_le_card_ids.trans h') (List.mem_of_mem_filter hv)

end

end ScriptGraph
