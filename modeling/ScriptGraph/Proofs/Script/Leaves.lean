import ScriptGraph.Proofs.Kind.Branches
import ScriptGraph.Proofs.Script.Outcome
import ScriptGraph.Proofs.Script.Reading

/-! # Executors that do not branch

Each executor that leaves the walk alone does operations of its own node only. If it succeeds it
ends by recording on all outputs that are for results, and goes on along every output; if it fails
it has recorded nothing.
-/

namespace ScriptGraph.Script

open Json (Value)

variable {s : Setting} {v : Node} {kind : Kind} {ports : List Nat} {reports : Bool}
  {outputs : Table PortRef Value} (visit : Node → RunM Unit)

theorem tries_trace (text : String) :
    Tries (Operation v ports reports) (Knows outputs) (trace text : ExceptT Fault RunM Unit)
      fun _ => Knows outputs :=
  .lift (takes_trace text)

theorem tries_onStart :
    Tries (Operation v ports reports) (Knows outputs) (Execute.onStart s visit v) Proceeds :=
  (tries_trace _).bind fun _ => .pure fun _ _ => rfl

theorem tries_waitForSeconds :
    Tries (Operation v ports reports) (Knows outputs) (Execute.waitForSeconds s visit v)
      Proceeds := by
  refine .check fun _ => .check fun _ => ?_
  refine (tries_trace _).bind fun _ => ?_
  exact (Tries.lift (takes_tell rfl)).bind fun _ => .pure fun _ _ => rfl

theorem tries_var :
    Tries (Operation v ports reports) (Knows outputs) (Execute.var s visit v) Proceeds := by
  unfold Execute.var
  cases hn : (s.props v).nonEmpty? "name" with
  | none => exact .throw _
  | some name =>
    have hne : name ≠ "" := (Props.nonEmpty?_eq_some_iff.mp hn).2
    -- Every way through the node ends by showing the variable.
    have shows {f : Option Value → ExceptT Fault RunM Flow} (hn : f none = pure .proceed)
        (hs : ∀ value, f (some value) = (do
          trace s!"Variable {name} = {display value}"
          return .proceed)) :
        Tries (Operation v ports reports) (Knows outputs) (liftM (variableValue? name) >>= f)
          Proceeds := by
      refine (Tries.lift (reads_variableValue? (s := s) name).takes).bind fun value => ?_
      cases value with
      | none =>
        rw [hn]
        exact .pure fun _ _ => rfl
      | some value =>
        rw [hs]
        exact (tries_trace _).bind fun _ => .pure fun _ _ => rfl
    refine (Tries.lift (takes_input 1)).bind fun assigned => .assuming fun _ => ?_
    cases assigned with
    | some assigned =>
      exact (Tries.lift (takes_setVariable hne assigned)).bind fun _ => shows rfl fun _ => rfl
    | none =>
      refine (Tries.lift (reads_variableValue? (s := s) name).takes).bind fun value => ?_
      refine .ite (fun _ => ?_) fun _ => shows rfl fun _ => rfl
      exact (Tries.lift (takes_setVariable hne _)).bind fun _ => shows rfl fun _ => rfl

theorem yields_mathOperation (hk : Kind.ofName? v.kind = some .mathOperation) :
    Yields s v outputs.contains (Knows outputs) (Execute.mathOperation s visit v) := by
  unfold Execute.mathOperation
  refine .bind (tries_requireInput 1) fun a => .assuming fun ha => ?_
  refine .bind (tries_requireInput 2) fun b => .assuming fun hb => ?_
  refine .bind (.liftExcept fun _ _ hm _ => hm) fun result => ?_
  refine .bind (tries_trace _) fun _ => yields_finish hk rfl ?_ result
  simp [Workspace.computes, ha, hb]

theorem tries_randomValue :
    Tries (Operation v ports reports) (Knows outputs) (Execute.randomValue s v) fun _ m =>
      s.computes outputs.contains v .random ∧ Knows outputs m := by
  unfold Execute.randomValue
  dsimp only
  have known {type : String} (ht : (s.props v).text "type" = type)
      (hm : type ∈ ["number", "string", "boolean"]) :
      s.computes outputs.contains v .random :=
    List.contains_iff_mem.mpr (ht ▸ hm)
  split
  next ht =>
    refine (Tries.lift reads_draw.takes).bind fun word => .liftExcept fun _ _ hm _ => ?_
    exact ⟨known ht (by simp), hm⟩
  next ht =>
    refine .check fun _ => (Tries.lift (reads_drawText _ _ _).takes).bind fun text => ?_
    exact .pure fun _ hm => ⟨known ht (by simp), hm⟩
  next ht =>
    refine (Tries.lift reads_draw.takes).bind fun word => .pure fun _ hm => ?_
    exact ⟨known ht (by simp), hm⟩
  next => exact .throw _

theorem yields_random (hk : Kind.ofName? v.kind = some .random) :
    Yields s v outputs.contains (Knows outputs) (Execute.random s visit v) := by
  unfold Execute.random
  refine .bind tries_randomValue fun result => .assuming fun hc => ?_
  exact .bind (tries_trace _) fun _ => yields_finish hk rfl hc result

/-- A variable that offers its value can be given another. -/
theorem takes_writeBack {index : Nat} (ho : s.offers outputs.contains v index) (value : Value) :
    Takes (Operation v ports reports) (Knows outputs) (s.writeBack v index value) fun _ =>
      Knows outputs := by
  unfold Setting.writeBack
  cases hp : s.producerVariable? v index with
  | none => exact .pure fun _ hm => hm
  | some producer => exact takes_setVariable (s.named_of_offers ho hp) value

theorem yields_apply (hk : Kind.ofName? v.kind = some kind) (hr : kind.hasResult)
    (hc : s.computes outputs.contains v kind) (ho : s.offers outputs.contains v 1)
    (u : Execute.Update) :
    Yields s v outputs.contains (Knows outputs)
      (do u.apply s v; return .proceed : ExceptT Fault RunM Flow) := by
  unfold Execute.Update.apply
  cases u.stored with
  | none => exact yields_finish hk hr hc u.result
  | some value =>
    change Yields s v _ _ (do
      s.writeBack v 1 value
      s.recordPrimary v u.result
      return .proceed)
    exact .bind (.lift (takes_writeBack ho value)) fun _ => yields_finish hk hr hc u.result

theorem tries_argumentValue (s : Setting) (text : String) :
    Tries (Operation v ports reports) (Knows outputs)
      (Execute.argumentValue text : ExceptT Fault RunM Value) fun _ => Knows outputs :=
  .lift (reads_argumentValue (s := s) text).takes

include s in
theorem tries_updateArray (operation argument : String) (items : List Value) :
    Tries (Operation v ports reports) (Knows outputs) (Execute.updateArray operation argument items)
      fun _ m => operation ∈ ["push", "unshift", "pop", "shift", "slice"] ∧ Knows outputs m := by
  unfold Execute.updateArray
  split
  · exact (tries_argumentValue s _).bind fun _ => .pure fun _ hm => ⟨by simp, hm⟩
  · exact (tries_argumentValue s _).bind fun _ => .pure fun _ hm => ⟨by simp, hm⟩
  · exact .pure fun _ hm => ⟨by simp, hm⟩
  · exact .pure fun _ hm => ⟨by simp, hm⟩
  · refine (Tries.liftExcept fun _ _ hm _ => hm).bind fun _ => .pure fun _ hm => ⟨by simp, hm⟩
  · exact .throw _

theorem yields_arrayOperation (hk : Kind.ofName? v.kind = some .arrayOperation) :
    Yields s v outputs.contains (Knows outputs) (Execute.arrayOperation s visit v) := by
  unfold Execute.arrayOperation
  refine .bind (tries_requireInput 1) fun value => .assuming fun ho => ?_
  split
  · refine .bind (tries_updateArray (s := s) _ _ _) fun update => .assuming fun hop => ?_
    have hc : s.computes outputs.contains v .arrayOperation :=
      Bool.and_eq_true_iff.mpr ⟨ho, List.contains_iff_mem.mpr hop⟩
    exact yields_apply hk rfl hc ho update
  · exact .throw _

include s in
theorem tries_updateObject (operation key value : String) (members : Json.Members) :
    Tries (Operation v ports reports) (Knows outputs)
      (Execute.updateObject operation key value members)
      fun _ m => operation ∈ ["get", "set", "delete", "has"] ∧ Knows outputs m := by
  unfold Execute.updateObject
  split
  · exact .pure fun _ hm => ⟨by simp, hm⟩
  · exact (tries_argumentValue s _).bind fun _ => .pure fun _ hm => ⟨by simp, hm⟩
  · exact .pure fun _ hm => ⟨by simp, hm⟩
  · exact .pure fun _ hm => ⟨by simp, hm⟩
  · exact .throw _

theorem yields_objectOperation (hk : Kind.ofName? v.kind = some .objectOperation) :
    Yields s v outputs.contains (Knows outputs) (Execute.objectOperation s visit v) := by
  unfold Execute.objectOperation
  refine .bind (tries_requireInput 1) fun value => .assuming fun ho => ?_
  split
  · refine .bind (tries_updateObject (s := s) _ _ _ _) fun update => .assuming fun hop => ?_
    have hc : s.computes outputs.contains v .objectOperation :=
      Bool.and_eq_true_iff.mpr ⟨ho, List.contains_iff_mem.mpr hop⟩
    exact yields_apply hk rfl hc ho update
  · exact .throw _

theorem tries_log :
    Tries (Operation v ports reports) (Knows outputs) (Execute.log s visit v) Proceeds := by
  unfold Execute.log
  refine (Tries.lift (takes_input 1)).bind fun value => .assuming fun _ => ?_
  exact (Tries.lift (takes_tell rfl)).bind fun _ => .pure fun _ _ => rfl

theorem yields_convert (c : Execute.Conversion) (hk : Kind.ofName? v.kind = some kind)
    (hr : kind.hasResult)
    (hc : s.computes outputs.contains v kind = s.offers outputs.contains v 1) :
    Yields s v outputs.contains (Knows outputs) (Execute.convert c s visit v) := by
  unfold Execute.convert
  refine .bind (tries_requireInput 1) fun input => .assuming fun ho => ?_
  refine .bind (.liftExcept fun _ _ hm _ => hm) fun result => ?_
  exact .bind (tries_trace _) fun _ => yields_finish hk hr (hc.trans ho) result

theorem yields_httpRequest (hk : Kind.ofName? v.kind = some .httpRequest) :
    Yields s v outputs.contains (Knows outputs) (Execute.httpRequest s visit v) := by
  have hp : s.products v = [1, 2, 3] := by
    simp [Workspace.products, hk]
  have hr : s.results outputs.contains v = [1, 2, 3] := by
    simp [Workspace.results, hk]
  unfold Execute.httpRequest
  dsimp only
  refine .check fun _ => .bind (tries_trace _) fun _ => ?_
  refine .bind (.liftExcept fun _ _ hm _ => hm) fun request => ?_
  refine .bind (checks_sendRequest request).tries fun result => ?_
  obtain ⟨response, body⟩ := result
  refine .bind (tries_trace _) fun _ => .bind (tries_trace _) fun _ => ?_
  refine .bind (tries_trace _) fun _ m _ => ?_
  exact .yields [(1, .string body), (2, .number (.ofUInt16 response.status)),
    (3, .object response.headerFields)] .refl hp.symm (by rw [hp, hr]; exact List.Subset.refl _)

/-- Nodes that do not branch record on all outputs for results if they succeed, and on none if they
fail. -/
theorem yields_leaf (hk : Kind.ofName? v.kind = some kind) (hb : kind.branches = false) :
    Yields s v outputs.contains (Knows outputs) (Execute.builtin kind s visit v) := by
  have none (h : kind.hasResult = false ∧ kind ≠ .httpRequest) : s.products v = [] := by
    refine Workspace.products_eq_nil fun kind' hk' => ?_
    obtain rfl : kind = kind' := Option.some.inj (hk.symm.trans hk')
    exact h
  cases kind with
  | onStart => exact Tries.yields (tries_onStart (s := s) visit) (none (by decide))
  | constant => exact .nothing (none (by decide))
  | waitForSeconds => exact Tries.yields (tries_waitForSeconds visit) (none (by decide))
  | var => exact Tries.yields (tries_var visit) (none (by decide))
  | mathOperation => exact yields_mathOperation visit hk
  | random => exact yields_random visit hk
  | arrayOperation => exact yields_arrayOperation visit hk
  | objectOperation => exact yields_objectOperation visit hk
  | function => exact .throw _
  | log => exact Tries.yields (tries_log visit) (none (by decide))
  | httpRequest => exact yields_httpRequest visit hk
  | jsonParse => exact yields_convert visit _ hk rfl rfl
  | jsonStringify => exact yields_convert visit _ hk rfl rfl
  | base64Encode => exact yields_convert visit _ hk rfl rfl
  | base64Decode => exact yields_convert visit _ hk rfl rfl
  | ifThen | condition | switch | whileLoop | forLoop => cases hb

end ScriptGraph.Script
