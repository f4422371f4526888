import ScriptGraph.Graph.Walk
import ScriptGraph.Proofs.Kind.Names

/-! # Offers and results

Which inputs of a node something flows into depends on what has been recorded only through the
outputs that have been recorded on. The same is true of the outputs on which a node can record.
-/

namespace ScriptGraph

theorem Props.isSome_nonEmpty? (p : Props) (name : String) :
    (p.nonEmpty? name).isSome = decide (p.text name ≠ "") := by
  unfold nonEmpty?
  by_cases h : p.text name = "" <;> simp [h]

theorem Props.nonEmpty?_eq_some_iff {p : Props} {name text : String} :
    p.nonEmpty? name = some text ↔ p.text name = text ∧ text ≠ "" := by
  simp only [nonEmpty?, String.isEmpty_iff, Option.ite_none_left_eq_some, Option.some.injEq]
  constructor
  · rintro ⟨hne, rfl⟩
    exact ⟨rfl, hne⟩
  · rintro ⟨rfl, hne⟩
    exact ⟨hne, rfl⟩

/-- Whether nodes of the kind compute one result. -/
def Kind.hasResult : Kind → Bool
  | .mathOperation | .random | .arrayOperation | .objectOperation => true
  | .jsonParse | .jsonStringify | .base64Encode | .base64Decode => true
  | _ => false

namespace Workspace

variable (w : Workspace) (has : PortRef → Bool) (node : Node)

/-- Whether something flows into an input, given the outputs that have been recorded on. A variable
without a name has no value. -/
def offers (input : Nat) : Bool :=
  match w.producer? node input with
  | none => false
  | some (producer, output) =>
    if producer.kind = Kind.var.name then (w.registry.props producer).text "name" ≠ ""
    else has ⟨producer.id, output⟩ || producer.kind = Kind.constant.name

/-- The output for the result of a node. -/
def primary? : Option Nat :=
  (w.registry.portsOf? node).bind (·.primaryOutput?)

/-- Nodes record on the output for their result. Requests leave their answers on three outputs. -/
def Outlet (port : Nat) : Prop :=
  port ∈ w.primary? node ∨ node.kind = Kind.httpRequest.name ∧ port ∈ [1, 2, 3]

/-- The registry lists the output among those for data. -/
def IsData (port : Nat) : Prop :=
  (w.registry.portsOf? node).bind (·.outputKind? port) = some .data

instance (port : Nat) : Decidable (w.IsData node port) :=
  inferInstanceAs (Decidable (_ = _))

/-- Whether a node of a kind with one result has what the result is made of, and is asked for
something that its kind can do. -/
def computes : Kind → Bool
  | .mathOperation => w.offers has node 1 && w.offers has node 2
  | .random =>
    ["number", "string", "boolean"].contains ((w.registry.props node).text "type")
  | .arrayOperation =>
    w.offers has node 1 && ["push", "unshift", "pop", "shift", "slice"].contains
      ((w.registry.props node).text "operation")
  | .objectOperation =>
    w.offers has node 1 && ["get", "set", "delete", "has"].contains
      ((w.registry.props node).text "operation")
  | .jsonParse | .jsonStringify | .base64Encode | .base64Decode => w.offers has node 1
  | _ => false

/-- The outputs on which a node can record. -/
def results : List Nat :=
  match Kind.ofName? node.kind with
  | some .httpRequest => [1, 2, 3]
  | some kind => if w.computes has node kind then (w.primary? node).toList else []
  | none => []

/-- The outputs on which an execution of a node records if it succeeds. -/
def products : List Nat :=
  match Kind.ofName? node.kind with
  | some .httpRequest => [1, 2, 3]
  | some kind => if kind.hasResult then (w.primary? node).toList else []
  | none => []

variable {w has node}

theorem isData_of_primary? {port : Nat} (h : port ∈ w.primary? node) : w.IsData node port := by
  obtain ⟨ports, hp, hi⟩ := Option.bind_eq_some_iff.mp h
  obtain ⟨hlt, hk, -⟩ := List.findIdx?_eq_some_iff_getElem.mp hi
  unfold IsData
  rw [hp, Option.bind_some, Ports.outputKind?, List.getElem?_eq_getElem hlt]
  simpa using hk

/-- With the built-in registry values are recorded on outputs for data. -/
theorem Outlet.isData (hr : w.registry = .builtin) {port : Nat} (h : w.Outlet node port) :
    w.IsData node port := by
  rcases h with h | ⟨hk, hp⟩
  · exact isData_of_primary? h
  · unfold IsData
    rw [hr, Registry.portsOf?_builtin hk]
    simp only [List.mem_cons, List.not_mem_nil, or_false] at hp
    rcases hp with rfl | rfl | rfl <;> rfl

theorem products_of_hasResult {kind : Kind} (hk : Kind.ofName? node.kind = some kind)
    (h : kind.hasResult) : w.products node = (w.primary? node).toList := by
  unfold products
  rw [hk]
  cases kind <;> first | rfl | cases h

theorem products_eq_nil
    (h : ∀ kind ∈ Kind.ofName? node.kind, kind.hasResult = false ∧ kind ≠ .httpRequest) :
    w.products node = [] := by
  unfold products
  split
  next hk => exact absurd rfl (h _ hk).2
  next kind _ hk => simp [(h kind hk).1]
  next => rfl

theorem mem_results {kind : Kind} (hk : Kind.ofName? node.kind = some kind)
    (hne : kind ≠ .httpRequest) {port : Nat} :
    port ∈ w.results has node ↔ w.computes has node kind ∧ port ∈ w.primary? node := by
  have hr : w.results has node =
      if w.computes has node kind then (w.primary? node).toList else [] := by
    unfold results
    rw [hk]
    cases kind <;> first | rfl | exact absurd rfl hne
  rw [hr]
  by_cases hc : w.computes has node kind <;> simp [hc]

/-- Variables and constants have no results, and other nodes have them on their outlets. -/
theorem outlet_of_mem_results {port : Nat} (h : port ∈ w.results has node) :
    (node.kind ≠ Kind.var.name ∧ node.kind ≠ Kind.constant.name) ∧ w.Outlet node port := by
  cases hk : Kind.ofName? node.kind with
  | none => simp [results, hk] at h
  | some kind =>
    have named := Kind.ofName?_eq_some_iff.mp hk
    by_cases hh : kind = .httpRequest
    · subst hh
      rw [results, hk] at h
      rw [named]
      exact ⟨by decide, .inr ⟨named, h⟩⟩
    · obtain ⟨hc, hp⟩ := (mem_results hk hh).mp h
      refine ⟨⟨fun he => ?_, fun he => ?_⟩, .inl hp⟩
      · obtain rfl := Kind.eq_of_name hk he
        cases hc
      · obtain rfl := Kind.eq_of_name hk he
        cases hc

theorem results_of_unknown (hk : Kind.ofName? node.kind = none) : w.results has node = [] := by
  simp [results, hk]

variable {has' : PortRef → Bool} (h : ∀ output, has output → has' output)
include h

theorem offers_mono {input : Nat} (ho : w.offers has node input) : w.offers has' node input := by
  unfold offers at ho ⊢
  cases hp : w.producer? node input with
  | none => simp [hp] at ho
  | some source =>
    obtain ⟨producer, output⟩ := source
    simp only [hp] at ho ⊢
    split at ho
    next hv => simpa [hv] using ho
    next hv =>
      rw [if_neg hv, Bool.or_eq_true]
      rw [Bool.or_eq_true] at ho
      exact ho.imp_left (h _)

theorem computes_mono {kind : Kind} (hc : w.computes has node kind) :
    w.computes has' node kind := by
  cases kind <;> simp only [computes, Bool.and_eq_true, Bool.false_eq_true] at hc ⊢
  case mathOperation => exact ⟨offers_mono h hc.1, offers_mono h hc.2⟩
  case random => exact hc
  case arrayOperation | objectOperation => exact ⟨offers_mono h hc.1, hc.2⟩
  all_goals exact offers_mono h hc

theorem results_mono {port : Nat} (hr : port ∈ w.results has node) :
    port ∈ w.results has' node := by
  unfold results at hr ⊢
  split at hr
  next => exact hr
  next =>
    split at hr
    next hc => simpa [computes_mono h hc] using hr
    next => simp at hr
  next => simp at hr

end Workspace

end ScriptGraph
