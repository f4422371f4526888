import ScriptGraph.Proofs.Kind.Branches
import ScriptGraph.Proofs.Kind.Results
import ScriptGraph.Proofs.Walk.Route

/-! # Routes of the generator

Where each kind of node leads the generator, as a function of the graph and of the outputs that have
been recorded on. With few exceptions a node leads to all its control successors.
-/

namespace ScriptGraph.Workspace

/-- What the text of a node leads to. -/
def textRoute (w : Workspace) (has : PortRef → Bool) (v : Node) : Route :=
  match Kind.ofName? v.kind with
  | some .ifThen =>
    if w.offers has v 1 && w.offers has v 2 then w.scopes v [0, 1] else .stop
  | some .condition => w.scopes v [0, 1]
  | some .switch => if w.offers has v 1 then .inside (w.scopes v (w.casePorts v)) .stop else .stop
  | some .whileLoop => w.scopes v [0] ++ .ofNodes (w.controlSuccessors v (some 1))
  | some .forLoop =>
    (if w.loopStep v == 0 then .stop else w.scopes v [0]) ++
      .ofNodes (w.controlSuccessors v (some 1))
  | _ => .ofNodes (w.controlSuccessors v none)

variable {w : Workspace} {has : PortRef → Bool} {u v : Node}

theorem nodup_casePorts (w : Workspace) (v : Node) : (w.casePorts v).Nodup := by
  rw [casePorts, List.nodup_append]
  refine ⟨List.nodup_range', List.nodup_singleton 0, fun port hp other ho => ?_⟩
  rw [List.mem_range'_1] at hp
  rw [List.mem_singleton] at ho
  omega

theorem textRoute_of_not_branches (h : ∀ kind ∈ Kind.ofName? v.kind, kind.branches = false) :
    w.textRoute has v = .ofNodes (w.controlSuccessors v none) := by
  unfold textRoute
  cases hk : Kind.ofName? v.kind with
  | none => rfl
  | some kind =>
    have hb := h kind hk
    cases kind with
    | ifThen | condition | switch | whileLoop | forLoop => cases hb
    | _ => rfl

/-- The text of a node leads to control successors, and to each along one edge. -/
theorem nodes_textRoute_subperm :
    (w.textRoute has u).nodes.Subperm (w.controlSuccessors u none) := by
  have along {ports : List Nat} (h : ports.Nodup) :
      (w.scopes u ports).nodes.Subperm (w.controlSuccessors u none) := by
    rw [nodes_scopes]
    exact flatMap_controlSuccessors_subperm h
  have loop : (w.scopes u [0] ++ .ofNodes (w.controlSuccessors u (some 1))).nodes =
      (w.scopes u [0, 1]).nodes := by
    simp [nodes_scopes]
  unfold textRoute
  split
  · split
    · exact along (by decide)
    · exact List.nil_subperm
  · exact along (by decide)
  · split
    · simpa [Route.nodes] using along (w.nodup_casePorts u)
    · exact List.nil_subperm
  · rw [loop]
    exact along (by decide)
  · split
    · simpa [nodes_scopes] using along (List.nodup_singleton 1)
    · rw [loop]
      exact along (by decide)
  · rw [Route.nodes_ofNodes]

/-- The text of a node does not lead to a control successor: a decision has no value to decide on,
or a counting loop does not count. -/
def Withholds (w : Workspace) (has : PortRef → Bool) (u v : Node) : Prop :=
  (∃ kind ∈ Kind.ofName? u.kind, ∃ index ∈ kind.decisive, w.offers has u index = false) ∨
    (u.kind = Kind.forLoop.name ∧ (w.loopStep u == 0) = true ∧
      v ∈ w.controlSuccessors u (some 0))

/-- With the exceptions above the text of a node leads to all its control successors. -/
theorem mem_nodes_textRoute (hr : w.registry = .builtin) (hv : v ∈ w.controlSuccessors u none) :
    v ∈ (w.textRoute has u).nodes ∨ w.Withholds has u v := by
  unfold textRoute
  cases hk : Kind.ofName? u.kind with
  | none => exact .inl (by rwa [Route.nodes_ofNodes])
  | some kind =>
    by_cases hb : kind.branches = false
    · cases kind with
      | ifThen | condition | switch | whileLoop | forLoop => cases hb
      | _ => exact .inl (by rwa [Route.nodes_ofNodes])
    obtain ⟨port, hport, hv⟩ := exists_branchPort hr hk (by simpa using hb) hv
    have along (ports : List Nat) (h : port ∈ ports) : v ∈ (w.scopes u ports).nodes := by
      rw [nodes_scopes]
      exact List.mem_flatMap.mpr ⟨port, h, hv⟩
    have loop {r : Route} (h : port = 0 → v ∈ r.nodes) (hp : port ∈ [0, 1]) :
        v ∈ (r ++ .ofNodes (w.controlSuccessors u (some 1))).nodes := by
      rw [Route.nodes_append, Route.nodes_ofNodes, List.mem_append]
      rcases List.mem_pair.mp hp with rfl | rfl
      · exact .inl (h rfl)
      · exact .inr hv
    cases kind with
    | ifThen =>
      by_cases ha : w.offers has u 1
      · by_cases hb : w.offers has u 2
        · exact .inl (by simpa [ha, hb] using along [0, 1] hport)
        · exact .inr (.inl ⟨_, hk, 2, by simp [Kind.decisive], by simpa using hb⟩)
      · exact .inr (.inl ⟨_, hk, 1, by simp [Kind.decisive], by simpa using ha⟩)
    | condition => exact .inl (along _ hport)
    | switch =>
      by_cases ha : w.offers has u 1
      · exact .inl (by simpa [ha, Route.nodes] using along (w.casePorts u) hport)
      · exact .inr (.inl ⟨_, hk, 1, by simp [Kind.decisive], by simpa using ha⟩)
    | whileLoop => exact .inl (loop (fun h => along _ (by simp [h])) hport)
    | forLoop =>
      by_cases hz : (w.loopStep u == 0) = true
      · by_cases hp : port = 0
        · exact .inr (.inr ⟨Kind.ofName?_eq_some_iff.mp hk, hz, hp ▸ hv⟩)
        · exact .inl (loop (fun h => absurd h hp) hport)
      · exact .inl (loop (fun h => by simpa [hz] using along [0] (by simp [h])) hport)
    | _ => exact absurd rfl hb

end ScriptGraph.Workspace
