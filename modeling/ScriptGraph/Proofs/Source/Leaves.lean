import ScriptGraph.Proofs.Kind.Branches
import ScriptGraph.Proofs.Source.Operation

/-! # Emitters that do not branch

Each emitter that leaves the walk alone does operations of its own node only, goes on along every
output, and records a result wherever the node can have one.
-/

namespace ScriptGraph.Source

variable {s : Setting} {v : Node} {outputs : Table PortRef String} {kind : Kind}
  {names : List String} (visit : Node → EmitM Unit) (due : ∀ d, Due v d)

/-- An emitter has written its node, and has recorded a result if the node computes one. -/
def Finished (s : Setting) (v : Node) (outputs : Table PortRef String) (kind : Kind) (flow : Flow)
    (d : Draft) : Prop :=
  flow = .proceed ∧ (s.computes outputs.contains v kind → Recorded s v d)

theorem takes_finish {P : Draft → Prop} {x : EmitM Unit}
    (h : Takes (Operation s v) P x
      fun _ d => s.computes outputs.contains v kind → Recorded s v d) :
    Takes (Operation s v) P (x >>= fun _ => pure .proceed) (Finished s v outputs kind) :=
  h.bind fun _ => .pure fun _ hd => ⟨rfl, hd⟩

theorem takes_proceed {P : Draft → Prop} (hc : s.computes outputs.contains v kind = false) :
    Takes (Operation s v) P (pure .proceed) (Finished s v outputs kind) :=
  .pure fun _ _ => ⟨rfl, fun h => absurd h (by simp [hc])⟩

/-- Where there is nothing to record, prose is enough. -/
theorem takes_prose {x : EmitM Unit} (hc : s.computes outputs.contains v kind = false)
    (h : Prints [] x) :
    Takes (Operation s v) (OutputsAre outputs) (x >>= fun _ => pure .proceed)
      (Finished s v outputs kind) :=
  takes_finish <| h.takes.mono fun _ _ _ h => absurd h (by simp [hc])

theorem takes_isDeclared {P : Draft → Prop} (name : String) :
    Takes (Operation s v) P (isDeclared name)
      fun declared d => P d ∧ d.names.isDeclared name = declared :=
  fun _ hd => ⟨.refl, hd, rfl⟩

theorem takes_literalOrReference {P : Draft → Prop} (text : String) :
    Takes (Operation s v) P (literalOrReference text) fun _ => P := by
  unfold literalOrReference
  refine (takes_isDeclared _).bind fun declared => ?_
  refine .ite (fun _ => .pure fun _ h => h.1) fun _ => ?_
  exact .ite (fun _ => .pure fun _ h => h.1) fun _ => .pure fun _ h => h.1

include due in
theorem takes_bindResult {base : String} (hb : base ≠ "") (value : String) :
    Takes (Operation s v) (OutputsAre outputs) (Emit.bindResult s v base value)
      fun _ => Recorded s v := by
  unfold Emit.bindResult
  refine (takes_firstName hb).bind fun result => ?_
  refine (takes_bind (.declare s.resultKeyword result (some value)) rfl).bind fun _ => ?_
  exact takes_recordPrimary result fun d _ => due d

include due in
theorem takes_recorded {P : Draft → Prop} (expression : String) :
    Takes (Operation s v) P (s.recordPrimary v expression >>= fun _ => pure .proceed)
      (Finished s v outputs kind) :=
  takes_finish ((takes_recordPrimary expression fun d _ => due d).mono fun _ _ h _ => h)

include due in
theorem takes_result {base : String} (hb : base ≠ "") (value : String) :
    Takes (Operation s v) (OutputsAre outputs)
      (Emit.bindResult s v base value >>= fun _ => pure .proceed) (Finished s v outputs kind) :=
  takes_finish ((takes_bindResult due hb value).mono fun _ _ h _ => h)

theorem takes_waitForSeconds :
    Takes (Operation s v) (OutputsAre outputs) (Emit.waitForSeconds s visit v)
      (Finished s v outputs .waitForSeconds) :=
  takes_prose rfl (.line _)

theorem takes_last_read (index : Nat) {P : Draft → Prop} :
    Takes (Operation s v) P (s.input v index)
      fun expression d => [.read ⟨v.id, index⟩ expression] <:+ d.log.toList := by
  refine .single fun d _ => ⟨.read d index, ?_⟩
  rw [Setting.input_run, Draft.log_logged]
  exact List.suffix_append _ _

theorem takes_var (hk : v.kind = Kind.var.name) :
    Takes (Operation s v) (OutputsAre outputs) (Emit.var s visit v)
      (Finished s v outputs .var) := by
  unfold Emit.var
  cases hn : (s.props v).nonEmpty? "name" with
  | none => exact takes_prose rfl (.warn _)
  | some name =>
    refine (takes_last_read 1).bind fun assigned => ?_
    refine (takes_isDeclared name).bind fun declared => ?_
    cases declared with
    | false =>
      refine takes_finish (.single fun d hd => ⟨.declare assigned hk hn hd.2, ?_⟩)
      exact fun h => absurd h (by simp [Workspace.computes])
    | true =>
      cases assigned with
      | none => exact takes_proceed rfl
      | some value =>
        change Takes _ _ (if value ≠ name then _ else _) _
        refine .ite (fun hne => ?_) fun _ => takes_proceed rfl
        refine takes_finish (.single fun d hd => ?_)
        rw [write_run]
        exact ⟨.assign hk hn hd.2 hne hd.1, fun h => absurd h (by simp [Workspace.computes])⟩

theorem takes_mathOperation (hk : Kind.ofName? v.kind = some .mathOperation) :
    Takes (Operation s v) (OutputsAre outputs) (Emit.mathOperation s visit v)
      (Finished s v outputs .mathOperation) := by
  suffices h : Takes (Operation s v) (HasRead s v outputs []) (Emit.mathOperation s visit v)
      (Finished s v outputs .mathOperation) from
    h.conseq (fun _ hd => ⟨hd, fun _ hi => absurd hi List.not_mem_nil⟩) fun _ _ h => h
  have due (d : Draft) (hd : HasRead s v outputs [1, 2] d) : Due v d := by
    constructor
    · exact fun h => nomatch Kind.eq_of_name hk h
    · exact ⟨fun h => (nomatch Kind.eq_of_name hk h), fun h => (nomatch Kind.eq_of_name hk h)⟩
    · exact fun _ => hd.reads
  unfold Emit.mathOperation
  refine (takes_read 1).bind fun a => .assuming fun ha => ?_
  refine (takes_read 2).bind fun b => .assuming fun hb => ?_
  have warned (h : a = none ∨ b = none) (message : String) :
      Takes (Operation s v) (HasRead s v outputs [1, 2])
        (warn message >>= fun _ => pure .proceed) (Finished s v outputs .mathOperation) := by
    refine (takes_prose ?_ (.warn message)).conseq (fun _ hd => hd.1) fun _ _ h => h
    simp only [Workspace.computes, ← Setting.isSome_given, ← ha, ← hb]
    rcases h with rfl | rfl <;> simp
  cases a with
  | none => exact warned (.inl rfl) _
  | some a =>
    cases b with
    | none => exact warned (.inr rfl) _
    | some b => exact takes_finish ((takes_recordPrimary _ due).mono fun _ _ h _ => h)

include due in
theorem takes_random :
    Takes (Operation s v) (OutputsAre outputs) (Emit.random s visit v)
      (Finished s v outputs .random) := by
  unfold Emit.random
  refine .ite (fun _ => takes_result due (by decide) _) fun hn => ?_
  refine .ite (fun _ => ?_) fun hs => ?_
  · refine (takes_firstName (by decide)).bind fun index => ?_
    refine (takes_freshName (by decide)).bind fun result => ?_
    have bound : Takes (Operation s v) (Takings outputs ([index] ++ [result]))
        (write (.declare .letBinding result (some "''"))) fun _ => Knows outputs [result] :=
      (takes_bind_let _ rfl rfl).conseq (fun _ hd => hd.suffix (List.suffix_append _ _))
        fun _ _ hd => hd
    refine bound.bind fun _ => ?_
    refine (Prints.line _).takes_knowing.bind fun _ => ?_
    have added (value : String) : Prints [result] (write (.append result value)) :=
      .write rfl (List.Subset.refl _)
    refine (added _).block.takes_knowing.bind fun _ => ?_
    refine (Prints.line _).takes_knowing.bind fun _ => ?_
    exact takes_recorded due _
  · refine .ite (fun _ => takes_result due (by decide) _) fun hb => ?_
    refine takes_prose ?_ (.warn _)
    simpa [Workspace.computes] using ⟨hn, hs, hb⟩

include due in
theorem takes_arrayOperation :
    Takes (Operation s v) (OutputsAre outputs) (Emit.arrayOperation s visit v)
      (Finished s v outputs .arrayOperation) := by
  unfold Emit.arrayOperation
  refine (takes_input 1).bind fun array => .assuming fun ha => ?_
  cases array with
  | none =>
    refine takes_prose ?_ (.warn _)
    simp [Workspace.computes, ← Setting.isSome_given, ← ha]
  | some array =>
    refine .ite (fun _ => ?_) fun hp => ?_
    · refine (takes_literalOrReference _).bind fun value => ?_
      refine (Prints.line _).takes.bind fun _ => ?_
      exact takes_recorded due _
    refine .ite (fun _ => takes_result due (by decide) _) fun hq => ?_
    refine .ite (fun _ => takes_result due (by decide) _) fun hr => ?_
    refine takes_prose ?_ (.warn _)
    simp only [List.contains_eq_mem, List.mem_cons, not_or, decide_eq_true_eq] at hp hq hr
    refine Bool.and_eq_false_imp.mpr fun _ => ?_
    simpa using ⟨hp.1, hp.2, hq.1, hq.2, hr.1⟩

include due in
theorem takes_objectOperation :
    Takes (Operation s v) (OutputsAre outputs) (Emit.objectOperation s visit v)
      (Finished s v outputs .objectOperation) := by
  unfold Emit.objectOperation
  refine (takes_input 1).bind fun object => .assuming fun ho => ?_
  cases object with
  | none =>
    refine takes_prose ?_ (.warn _)
    simp [Workspace.computes, ← Setting.isSome_given, ← ho]
  | some object =>
    refine .ite (fun _ => takes_result due (by decide) _) fun hg => ?_
    refine .ite (fun _ => ?_) fun hs => ?_
    · refine (takes_literalOrReference _).bind fun value => ?_
      refine (Prints.line _).takes.bind fun _ => ?_
      exact takes_recorded due _
    refine .ite (fun _ => ?_) fun hd => ?_
    · refine (Prints.line _).takes.bind fun _ => ?_
      exact takes_recorded due _
    refine .ite (fun _ => takes_result due (by decide) _) fun hh => ?_
    refine takes_prose ?_ (.warn _)
    refine Bool.and_eq_false_imp.mpr fun _ => ?_
    simpa using ⟨hg, hs, hd, hh⟩

theorem takes_arguments (indices : List Nat) :
    Takes (Operation s v) (OutputsAre outputs)
      (indices.mapM fun index => do return (← s.input v (index + 1)).getD "undefined")
      fun _ => OutputsAre outputs := by
  induction indices with
  | nil => exact .pure fun _ h => h
  | cons index indices ih =>
    rw [List.mapM_cons]
    refine .bind (Q := fun _ => OutputsAre outputs) ?_ fun _ => ih.bind fun _ => .pure fun _ h => h
    exact (takes_input _).bind fun _ => .pure fun _ h => h.2

include due in
theorem takes_function :
    Takes (Operation s v) (OutputsAre outputs) (Emit.function s visit v)
      (Finished s v outputs .function) := by
  unfold Emit.function
  dsimp only
  cases (s.props v).nonEmpty? "name" with
  | none => exact takes_prose rfl (.warn _)
  | some name =>
    refine (takes_arguments _).bind fun arguments => ?_
    refine .ite (fun _ => takes_prose rfl (.line _)) fun _ => ?_
    have named : s!"{name}Result" ≠ "" := by
      intro h
      have empty := congrArg String.length h
      simp [String.length_append] at empty
      exact absurd empty.2 (by decide)
    exact takes_result due named _

theorem takes_log :
    Takes (Operation s v) (OutputsAre outputs) (Emit.log s visit v)
      (Finished s v outputs .log) := by
  unfold Emit.log
  refine (takes_input 1).bind fun wired => .assuming fun _ => ?_
  exact takes_prose rfl (.line _)

theorem Prints.guarded {body handler : EmitM Unit} (hb : Prints temporaries body)
    (hh : Prints temporaries handler) : Prints temporaries (Emit.guarded body handler) :=
  (Prints.line _).andThen <| hb.block.andThen <| (Prints.line _).andThen <|
    hh.block.andThen (.line _)

theorem Prints.assign {name : String} (h : name ∈ temporaries) (value : String) :
    Prints temporaries (Source.write (.assign name value)) :=
  .write rfl (List.cons_subset.mpr ⟨h, List.nil_subset _⟩)

include due in
theorem takes_convert {c : Emit.Conversion}
    (hc : s.computes outputs.contains v kind = s.offers outputs.contains v 1) (hb : c.base ≠ "") :
    Takes (Operation s v) (OutputsAre outputs) (Emit.convert c s visit v)
      (Finished s v outputs kind) := by
  unfold Emit.convert
  refine (takes_input 1).bind fun input => .assuming fun hi => ?_
  cases input with
  | none =>
    refine takes_prose ?_ (.warn _)
    rw [hc, ← Setting.isSome_given, ← hi]
    rfl
  | some input =>
    refine (takes_firstName hb).bind fun result => ?_
    have bound : result ∈ [result] := List.mem_singleton_self result
    refine (takes_bind_let (.declare .letBinding result none) rfl rfl).bind fun _ => ?_
    have body := Prints.assign bound (c.call input (s.props v))
    have handler := (Prints.line s!"console.error('{c.label}:', error)").andThen
      (.assign bound c.fallback)
    refine (body.guarded handler).takes_knowing.bind fun _ => ?_
    exact takes_recorded due _

include due in
theorem takes_httpRequest (hk : v.kind = Kind.httpRequest.name) :
    Takes (Operation s v) (OutputsAre outputs) (Emit.httpRequest s visit v)
      fun flow d => flow = .proceed ∧ ∀ port ∈ [1, 2, 3], d.outputs.contains ⟨v.id, port⟩ := by
  unfold Emit.httpRequest
  refine (takes_firstName (by decide)).bind fun bodyName => ?_
  refine (takes_freshName (by decide)).bind fun statusName => ?_
  refine (takes_freshName (by decide)).bind fun headersName => ?_
  have bound : Takes (Operation s v) (Takings outputs ([bodyName] ++ [statusName] ++ [headersName]))
      (write (.declareAll [bodyName, statusName, headersName]))
      fun _ => Knows outputs [bodyName, statusName, headersName] :=
    takes_bind_let (.declareAll _) rfl rfl
  refine bound.bind fun _ => ?_
  refine (Prints.guarded ?body (.line _)).takes_knowing.bind fun _ => ?_
  case body =>
    refine (Prints.line _).andThen <| (Prints.block ?settings).andThen <| (Prints.line _).andThen ?_
    case settings =>
      refine (Prints.line _).andThen <| (Prints.line _).andThen ?_
      split
      · exact .line _
      · exact .skip
    exact (Prints.assign (by simp) _).andThen <| (Prints.assign (by simp) _).andThen <|
      .assign (by simp) _
  have outlet {port : Nat} (hp : port ∈ [1, 2, 3]) : s.Outlet v port := .inr ⟨hk, hp⟩
  have first : Takes (Operation s v) (OutputsAre outputs) (record v 1 bodyName)
      fun _ => OutputsAre (outputs.insert ⟨v.id, 1⟩ bodyName) :=
    takes_record (outlet (by simp)) bodyName due
  refine (first.conseq (fun _ hd => hd.1) fun _ _ h => h).bind fun _ => ?_
  refine (takes_record (outlet (by simp)) _ due).bind fun _ => ?_
  refine (takes_record (outlet (by simp)) _ due).bind fun _ => ?_
  refine .pure fun d hd => ⟨rfl, ?_⟩
  intro port hport
  rw [show d.outputs = _ from hd]
  simp only [List.mem_cons, List.not_mem_nil, or_false] at hport
  rcases hport with rfl | rfl | rfl <;> simp [Table.contains, Table.get?_insert]

/-- Nodes that do not branch do operations of their own, go on along every output, and record
wherever they can. -/
theorem takes_leaf (hk : Kind.ofName? v.kind = some kind) (hb : kind.branches = false) :
    Takes (Operation s v) (OutputsAre outputs) (Emit.builtin kind s visit v) fun flow d =>
      flow = .proceed ∧ ∀ port ∈ s.results outputs.contains v, d.outputs.contains ⟨v.id, port⟩ := by
  by_cases hh : kind = .httpRequest
  · subst hh
    have named := Kind.ofName?_eq_some_iff.mp hk
    refine (takes_httpRequest visit (.of_kind hk (by decide)) named).mono fun flow d hd =>
      ⟨hd.1, fun port hp => hd.2 port ?_⟩
    simpa [Workspace.results, hk] using hp
  have finished (e : Takes (Operation s v) (OutputsAre outputs) (Emit.builtin kind s visit v)
      (Finished s v outputs kind)) :
      Takes (Operation s v) (OutputsAre outputs) (Emit.builtin kind s visit v) fun flow d =>
        flow = .proceed ∧
          ∀ port ∈ s.results outputs.contains v, d.outputs.contains ⟨v.id, port⟩ := by
    refine e.mono fun flow d hd => ⟨hd.1, fun port hp => ?_⟩
    obtain ⟨hc, hp⟩ := (Workspace.mem_results hk hh).mp hp
    exact hd.2 hc port hp
  apply finished
  cases kind with
  | onStart => exact takes_proceed rfl
  | constant => exact takes_proceed rfl
  | waitForSeconds => exact takes_waitForSeconds visit
  | var => exact takes_var visit (Kind.ofName?_eq_some_iff.mp hk)
  | mathOperation => exact takes_mathOperation visit hk
  | random => exact takes_random visit (.of_kind hk (by decide))
  | arrayOperation => exact takes_arrayOperation visit (.of_kind hk (by decide))
  | objectOperation => exact takes_objectOperation visit (.of_kind hk (by decide))
  | function => exact takes_function visit (.of_kind hk (by decide))
  | log => exact takes_log visit
  | jsonParse => exact takes_convert visit (.of_kind hk (by decide)) rfl (by decide)
  | jsonStringify => exact takes_convert visit (.of_kind hk (by decide)) rfl (by decide)
  | base64Encode => exact takes_convert visit (.of_kind hk (by decide)) rfl (by decide)
  | base64Decode => exact takes_convert visit (.of_kind hk (by decide)) rfl (by decide)
  | httpRequest => exact absurd rfl hh
  | ifThen | condition | switch | whileLoop | forLoop => cases hb

end ScriptGraph.Source
