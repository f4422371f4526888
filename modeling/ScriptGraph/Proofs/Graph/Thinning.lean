import ScriptGraph.Proofs.Graph.Successors

/-! # Thinned lists and graphs

A walk enters a node once, so it makes no difference whether a list of nodes to visit names one
again. A list is thinned by leaving out entries whose key has occurred before, and a graph looks
thinned from the nodes of another where its lists of control successors are.
-/

namespace ScriptGraph

variable {α β κ μ : Type}

/-- Entries of a list are left out whose key has been seen, before the list or in it. -/
inductive Thins (key : α → κ) : (seen : List κ) → List α → List α → Prop where
  | nil {seen : List κ} : Thins key seen [] []
  | keep {seen : List κ} {a : α} {as bs : List α} : Thins key (key a :: seen) as bs →
      Thins key seen (a :: as) (a :: bs)
  | skip {seen : List κ} {a : α} {as bs : List α} : key a ∈ seen → Thins key seen as bs →
      Thins key seen (a :: as) bs

namespace Thins

variable {key : α → κ} {seen seen' : List κ} {as bs : List α}

theorem refl (key : α → κ) (seen : List κ) (as : List α) : Thins key seen as as := by
  induction as generalizing seen with
  | nil => exact .nil
  | cons a as ih => exact .keep (ih _)

theorem mono (h : Thins key seen as bs) (hs : seen ⊆ seen') : Thins key seen' as bs := by
  induction h generalizing seen' with
  | nil => exact .nil
  | keep _ ih => exact .keep (ih (List.cons_subset_cons _ hs))
  | skip ha _ ih => exact .skip (hs ha) (ih hs)

theorem sublist (h : Thins key seen as bs) : bs.Sublist as := by
  induction h with
  | nil => exact .slnil
  | keep _ ih => exact ih.cons_cons _
  | skip _ _ ih => exact ih.cons _

/-- As long as nothing has been seen, nothing is left out. -/
theorem head?_eq (h : Thins key [] as bs) : as.head? = bs.head? := by
  cases h with
  | nil | keep => rfl
  | skip ha => exact absurd ha List.not_mem_nil

/-- What entries with one key are taken to has one key as well. -/
theorem filterMap {f : α → Option β} {key' : β → μ} {seen' : List μ} (h : Thins key seen as bs)
    (hf : ∀ a a' b, key a = key a' → f a = some b → ∃ b', f a' = some b' ∧ key' b' = key' b)
    (hs : ∀ a b, key a ∈ seen → f a = some b → key' b ∈ seen') :
    Thins key' seen' (as.filterMap f) (bs.filterMap f) := by
  induction h generalizing seen' with
  | nil => exact .nil
  | @keep seen a as bs _ ih =>
    cases hfa : f a with
    | none =>
      rw [List.filterMap_cons_none hfa, List.filterMap_cons_none hfa]
      refine ih fun a' b' ha' hb' => ?_
      rcases List.mem_cons.mp ha' with same | ha'
      · obtain ⟨b, hb, -⟩ := hf a' a b' same hb'
        cases hfa.symm.trans hb
      · exact hs a' b' ha' hb'
    | some b =>
      rw [List.filterMap_cons_some hfa, List.filterMap_cons_some hfa]
      refine .keep (ih fun a' b' ha' hb' => ?_)
      rcases List.mem_cons.mp ha' with same | ha'
      · obtain ⟨c, hc, hk⟩ := hf a a' b same.symm hfa
        obtain rfl := Option.some.inj (hb'.symm.trans hc)
        exact hk ▸ List.mem_cons_self
      · exact List.mem_cons_of_mem _ (hs a' b' ha' hb')
  | @skip seen a as bs ha _ ih =>
    cases hfa : f a with
    | none =>
      rw [List.filterMap_cons_none hfa]
      exact ih hs
    | some b =>
      rw [List.filterMap_cons_some hfa]
      exact .skip (hs a b ha hfa) (ih hs)

end Thins

/-- Whether a list has an entry of a sort can be told from the entries of the sort. -/
theorem any_eq_of_filter_eq {p : α → Bool} {as bs : List α} (h : as.filter p = bs.filter p) :
    as.any p = bs.any p := by
  have sort (cs : List α) : cs.any p = (cs.filter p).any p := by simp [List.any_filter]
  rw [sort as, h, ← sort]

/-! ### Lists without surplus entries -/

/-- The entries of a list that are not surplus to those before them. -/
def withoutSurplus (surplus : (before : List α) → α → Bool) : (before : List α) → List α → List α
  | _, [] => []
  | before, a :: as =>
    if surplus before a then withoutSurplus surplus (before ++ [a]) as
    else a :: withoutSurplus surplus (before ++ [a]) as

section

variable {surplus : List α → α → Bool} {before as : List α} {p : α → Bool}

theorem withoutSurplus_sublist : (withoutSurplus surplus before as).Sublist as := by
  induction as generalizing before with
  | nil => exact .slnil
  | cons a as ih =>
    unfold withoutSurplus
    split
    · exact ih.cons _
    · exact ih.cons_cons _

/-- The entries of a sort stay if none of them is surplus. -/
theorem filter_withoutSurplus
    (hs : ∀ first a rest, as = first ++ a :: rest → surplus (before ++ first) a → ¬ p a) :
    (withoutSurplus surplus before as).filter p = as.filter p := by
  induction as generalizing before with
  | nil => rfl
  | cons a as ih =>
    have rest : (withoutSurplus surplus (before ++ [a]) as).filter p = as.filter p := by
      refine ih fun first a' rest he hd => ?_
      rw [List.append_assoc] at hd
      exact hs (a :: first) a' rest (congrArg (a :: ·) he) hd
    unfold withoutSurplus
    split
    next hd =>
      rw [rest, List.filter_cons_of_neg (hs [] a as rfl (by rwa [List.append_nil]))]
    next => rw [List.filter_cons, List.filter_cons, rest]

/-- Entries of a sort are left out behind others with the same key only. -/
theorem thins_filter_withoutSurplus {key : α → κ} {seen : List κ}
    (hb : ∀ b ∈ before, p b → key b ∈ seen)
    (hs : ∀ first a rest, as = first ++ a :: rest → surplus (before ++ first) a → p a →
      ∃ b ∈ before ++ first, p b ∧ key b = key a) :
    Thins key seen (as.filter p) ((withoutSurplus surplus before as).filter p) := by
  induction as generalizing before seen with
  | nil => exact .nil
  | cons a as ih =>
    have rest {seen : List κ} (hb : ∀ b ∈ before, p b → key b ∈ seen) (ha : p a → key a ∈ seen) :
        Thins key seen (as.filter p) ((withoutSurplus surplus (before ++ [a]) as).filter p) := by
      refine ih (List.forall_mem_append.mpr ⟨hb, List.forall_mem_singleton.mpr ha⟩) ?_
      intro first a' rest he hd hp
      rw [List.append_assoc] at hd ⊢
      exact hs (a :: first) a' rest (congrArg (a :: ·) he) hd hp
    unfold withoutSurplus
    by_cases hp : p a
    · rw [List.filter_cons_of_pos hp]
      split
      next hd =>
        obtain ⟨b, hm, hpb, hk⟩ := hs [] a as rfl (by rwa [List.append_nil]) hp
        rw [List.append_nil] at hm
        exact .skip (hk ▸ hb b hm hpb) (rest hb fun _ => hk ▸ hb b hm hpb)
      next =>
        rw [List.filter_cons_of_pos hp]
        exact .keep (rest (fun b hm hpb => List.mem_cons_of_mem _ (hb b hm hpb))
          fun _ => List.mem_cons_self)
    · have left := rest hb fun h => absurd h hp
      rw [List.filter_cons_of_neg hp]
      split
      next => exact left
      next => rwa [List.filter_cons_of_neg hp]

/-- The first entry of a sort is found again if none is surplus but to others of the sort. -/
theorem find?_withoutSurplus (hs : ∀ before a, surplus before a → p a → ∃ b ∈ before, p b) :
    (withoutSurplus surplus [] as).find? p = as.find? p := by
  have thins : Thins (fun _ => ()) [] (as.filter p) ((withoutSurplus surplus [] as).filter p) := by
    refine thins_filter_withoutSurplus (by simp) fun first a _ _ hd hp => ?_
    obtain ⟨b, hm, hb⟩ := hs first a hd hp
    exact ⟨b, hm, hb, rfl⟩
  rw [← List.head?_filter, ← List.head?_filter, thins.head?_eq]

end

/-! ### Edges in the order of their ports -/

/-- Where control goes along an edge: the output that it leaves, and the node that it leads to. -/
def Edge.course (edge : Edge) : PortRef × NodeId :=
  (edge.source.ref, edge.target.node)

namespace Workspace

variable {key : Edge → κ} {seen : List κ} {edge : Edge} {edges edges' : List Edge}

theorem insertByPort_of_le (h : ∀ e ∈ edges, edge.source.port ≤ e.source.port) :
    insertByPort edge edges = edge :: edges := by
  cases edges with
  | nil => rfl
  | cons e edges => exact if_pos (h e List.mem_cons_self)

theorem thins_insertByPort_skip (h : Thins key seen edges edges') (he : key edge ∈ seen) :
    Thins key seen (insertByPort edge edges) edges' := by
  induction h with
  | nil => exact .skip he .nil
  | keep h ih =>
    unfold insertByPort
    split
    · exact .skip he (.keep h)
    · exact .keep (ih (List.mem_cons_of_mem _ he))
  | skip ha h ih =>
    unfold insertByPort
    split
    · exact .skip he (.skip ha h)
    · exact .skip ha (ih he)

theorem thins_insertByPort {seen' : List κ}
    (hk : ∀ e, key e = key edge → e.source.port = edge.source.port)
    (hs : edges.Pairwise (·.source.port ≤ ·.source.port)) (h : Thins key seen' edges edges')
    (hseen : seen' ⊆ key edge :: seen) :
    Thins key seen (insertByPort edge edges) (insertByPort edge edges') := by
  induction h generalizing seen with
  | nil => exact .keep .nil
  | @keep _ e es es' h ih =>
    unfold insertByPort
    split
    · exact .keep ((Thins.keep h).mono hseen)
    · refine .keep (ih (List.pairwise_cons.mp hs).2 ?_)
      exact List.Subset.trans (List.cons_subset_cons _ hseen) (List.Perm.swap ..).subset
  | @skip _ e es es' he h ih =>
    obtain ⟨first, rest⟩ := List.pairwise_cons.mp hs
    by_cases hle : edge.source.port ≤ e.source.port
    · have least : ∀ u ∈ es', edge.source.port ≤ u.source.port :=
        fun u hu => Nat.le_trans hle (first u (h.sublist.subset hu))
      rw [insertByPort, if_pos hle, insertByPort_of_le least]
      exact .keep ((Thins.skip he h).mono hseen)
    · have other : key e ≠ key edge := fun same => hle (Nat.le_of_eq (hk e same).symm)
      rw [insertByPort, if_neg hle]
      exact .skip ((List.mem_cons.mp (hseen he)).resolve_left other) (ih rest hseen)

theorem thins_sortByPort (hk : ∀ e e', key e = key e' → e.source.port = e'.source.port)
    (h : Thins key seen edges edges') : Thins key seen (sortByPort edges) (sortByPort edges') := by
  induction h with
  | nil => exact .nil
  | keep _ ih => exact thins_insertByPort (hk · _) (sorted_sortByPort _) ih (List.Subset.refl _)
  | skip ha _ ih => exact thins_insertByPort_skip ih ha

/-- Whether an edge carries control from a node, along a port if one is given. -/
def leads (w : Workspace) (v : Node) (port : Option Nat) (edge : Edge) : Bool :=
  decide (edge.source.node = v.id) && (port.all (edge.source.port = ·) && w.isControl v edge)

theorem controlSuccessors_eq_filterMap (w : Workspace) (v : Node) (port : Option Nat) :
    w.controlSuccessors v port =
      (sortByPort (w.graph.edges.toList.filter (w.leads v port))).filterMap
        fun edge => w.graph.findNode edge.target.node := by
  unfold controlSuccessors
  dsimp only
  rw [Graph.toList_edgesFrom, List.filter_filter]
  congr 3
  funext edge
  exact Bool.and_comm ..

/-- At a node two workspaces read the same inputs. -/
structure SameInputs (w w' : Workspace) (v : Node) : Prop where
  registry : w.registry = w'.registry
  producer (index : Nat) : w.producer? v index = w'.producer? v index

/-- From the nodes of the first workspace the second looks the same, but that a node may be left out
of those to visit where it has been named before. -/
structure Thinned (w w' : Workspace) : Prop where
  inputs {v : Node} (hv : v ∈ w.graph.nodes.toList) : w.SameInputs w' v
  successors {v : Node} (hv : v ∈ w.graph.nodes.toList) (port : Option Nat) :
    Thins Node.id [] (w.controlSuccessors v port) (w'.controlSuccessors v port)
  entries : Thins Node.id [] w.entryNodes w'.entryNodes

variable {w w' : Workspace} {v : Node}

theorem SameInputs.of_edgeInto (hr : w.registry = w'.registry)
    (he : ∀ index, w.graph.edgeInto v.id index = w'.graph.edgeInto v.id index)
    (hf : ∀ e ∈ w.graph.edges.toList,
      w.graph.findNode e.source.node = w'.graph.findNode e.source.node) : w.SameInputs w' v := by
  refine ⟨hr, fun index => ?_⟩
  unfold producer?
  rw [← he]
  cases h : w.graph.edgeInto v.id index with
  | none => rfl
  | some e =>
    rw [Graph.edgeInto_eq_find?] at h
    simp only [Option.bind_eq_bind, Option.bind_some, hf e (List.mem_of_find?_eq_some h)]

/-- Where edges are left out behind others of the same course, so are successors behind others. -/
theorem thins_controlSuccessors {port : Option Nat}
    (he : Thins Edge.course [] (w.graph.edges.toList.filter (w.leads v port))
      (w'.graph.edges.toList.filter (w'.leads v port)))
    (hf : ∀ e ∈ w.graph.edges.toList,
      w.graph.findNode e.target.node = w'.graph.findNode e.target.node) :
    Thins Node.id [] (w.controlSuccessors v port) (w'.controlSuccessors v port) := by
  have sorted := thins_sortByPort (fun e e' h => congrArg (·.1.port) h) he
  have found : (sortByPort (w'.graph.edges.toList.filter (w'.leads v port))).filterMap
      (fun edge => w'.graph.findNode edge.target.node) =
      (sortByPort (w'.graph.edges.toList.filter (w'.leads v port))).filterMap
        fun edge => w.graph.findNode edge.target.node := by
    refine List.filterMap_congr fun e h => (hf e ?_).symm
    have listed := sorted.sublist.subset h
    exact List.mem_of_mem_filter ((sortByPort_perm _).mem_iff.mp listed)
  rw [controlSuccessors_eq_filterMap, controlSuccessors_eq_filterMap, found]
  refine sorted.filterMap (fun e e' u h hu => ⟨u, ?_, rfl⟩) fun _ _ h => absurd h List.not_mem_nil
  rwa [← show e.target.node = e'.target.node from congrArg Prod.snd h]

end Workspace

end ScriptGraph
