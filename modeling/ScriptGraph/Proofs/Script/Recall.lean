import ScriptGraph.Proofs.Script.Debugging
import ScriptGraph.Proofs.Script.Store

/-! # What a run recalls

Readers of an output are given the value that was recorded there last. A node that is executed again
and then fails records nothing, and nothing is taken back: readers are given what an earlier
execution has recorded.
-/

namespace ScriptGraph.Script

open Json (Value)

/-! ### The executions of a node -/

/-- The executions of a node after the latest of them has done some more. -/
def prolong (executions : List (List Event)) (deeds : List Event) : List (List Event) :=
  match executions with
  | latest :: earlier => (latest ++ deeds) :: earlier
  | [] => if deeds.isEmpty then [] else [deeds]

/-- The executions of a node after an event. -/
def resume (id : NodeId) (executions : List (List Event)) (e : Event) : List (List Event) :=
  match e with
  | .node id' => if id' = id then [] :: executions else executions
  | e => prolong executions (deedsOf id [e])

/-- What a node has recorded and how it has failed in each of its executions, the latest first. -/
def executionsOf (id : NodeId) (es : List Event) : List (List Event) :=
  es.foldl (resume id) []

/-- The value that an event records on an output. -/
def Event.recordedOn? (output : PortRef) : Event → Option Value
  | .record output' value => if output' = output then some value else none
  | _ => none

/-- The value that is recorded last on an output. -/
def lastRecord? (es : List Event) (output : PortRef) : Option Value :=
  es.reverse.findSome? (·.recordedOn? output)

/-- The value that the latest execution of a node has recorded on one of its outputs. -/
def latest? (es : List Event) (output : PortRef) : Option Value :=
  (executionsOf output.node es).head?.bind (lastRecord? · output)

/-- No execution of the node has recorded anything on the output. -/
def Unrecorded (es : List Event) (output : PortRef) : Prop :=
  ∀ deeds ∈ executionsOf output.node es, lastRecord? deeds output = none

/-- The latest execution of a node has failed. -/
def FailedLast (es : List Event) (id : NodeId) : Prop :=
  ∃ deeds ∈ (executionsOf id es).head?, ∃ d, .failure d ∈ deeds

/-- No execution of a node goes on: what it does later belongs to later executions. -/
def AtRest (before after : List Event) (id : NodeId) : Prop :=
  executionsOf id before <:+ executionsOf id (before ++ after)

section

variable {executions : List (List Event)} {es es' : List Event} {id : NodeId} {output : PortRef}

@[simp] theorem prolong_nil (executions : List (List Event)) :
    prolong executions [] = executions := by
  cases executions <;> simp [prolong]

theorem prolong_append (executions : List (List Event)) (es es' : List Event) :
    prolong (prolong executions es) es' = prolong executions (es ++ es') := by
  cases executions with
  | cons latest earlier => simp [prolong]
  | nil =>
    cases es with
    | nil => rw [prolong_nil, List.nil_append]
    | cons e es => rfl

theorem executionsOf_concat (id : NodeId) (es : List Event) (e : Event) :
    executionsOf id (es ++ [e]) = resume id (executionsOf id es) e := by
  simp [executionsOf]

theorem executionsOf_node (id : NodeId) (es : List Event) :
    executionsOf id (es ++ [.node id]) = [] :: executionsOf id es := by
  rw [executionsOf_concat]
  simp [resume]

theorem resume_of_not_begins {e : Event} (h : id ∉ nodesOf [e]) :
    resume id executions e = prolong executions (deedsOf id [e]) := by
  cases e with
  | node id' =>
    have hne : id' ≠ id := fun he => h (by simp [nodesOf, he])
    simp [resume, hne, deedsOf, Event.deedOf?]
  | _ => rfl

/-- As long as a node does not begin anew, its latest execution is prolonged. -/
theorem executionsOf_append (h : id ∉ nodesOf es') :
    executionsOf id (es ++ es') = prolong (executionsOf id es) (deedsOf id es') := by
  induction es' using List.reverseRecOn with
  | nil => simp [deedsOf]
  | append_singleton es' e ih =>
    rw [nodesOf_append, List.mem_append, not_or] at h
    rw [← List.append_assoc, executionsOf_concat, resume_of_not_begins h.2, ih h.1,
      prolong_append, deedsOf_append]

theorem recordedOn?_eq_some_iff {e : Event} {value : Value} :
    e.recordedOn? output = some value ↔ e = .record output value := by
  cases e with
  | record output' value' =>
    simp only [Event.recordedOn?, Option.ite_none_right_eq_some, Option.some.injEq,
      Event.record.injEq]
  | _ => exact iff_of_false nofun nofun

theorem lastRecord?_append (es es' : List Event) (output : PortRef) :
    lastRecord? (es ++ es') output = (lastRecord? es' output).or (lastRecord? es output) := by
  simp [lastRecord?, List.findSome?_append]

theorem lastRecord?_singleton (e : Event) (output : PortRef) :
    lastRecord? [e] output = e.recordedOn? output := by
  simp [lastRecord?]

theorem mem_of_lastRecord? {value : Value} (h : lastRecord? es output = some value) :
    .record output value ∈ es := by
  obtain ⟨e, he, hr⟩ := List.exists_of_findSome?_eq_some h
  obtain rfl := recordedOn?_eq_some_iff.mp hr
  exact List.mem_reverse.mp he

theorem isSome_lastRecord? {value : Value} (h : .record output value ∈ es) :
    (lastRecord? es output).isSome :=
  List.findSome?_isSome_iff.mpr
    ⟨_, List.mem_reverse.mpr h, by rw [recordedOn?_eq_some_iff.mpr rfl]; rfl⟩

/-- What is recorded in a state is what the log says was recorded last. -/
theorem Machine.Told.get?_outputs {m : Machine} (hm : m.Told) (output : PortRef) :
    m.outputs.get? output = lastRecord? m.log.toList output := by
  rw [hm.outputs]
  induction m.log.toList using List.reverseRecOn with
  | nil => rfl
  | append_singleton es e ih =>
    rw [Table.replay_concat, lastRecord?_append, lastRecord?_singleton, ← ih]
    cases e with
    | record output' value =>
      simp only [Table.heard, Event.record?, Event.recordedOn?, Table.get?_insert, eq_comm]
      split <;> rfl
    | _ => rfl

theorem findSome?_prolong (executions : List (List Event)) (es : List Event) :
    (prolong executions es).findSome? (lastRecord? · output) =
      (lastRecord? es output).or (executions.findSome? (lastRecord? · output)) := by
  cases executions with
  | cons latest earlier =>
    simp only [prolong, List.findSome?_cons, lastRecord?_append]
    cases lastRecord? es output <;> rfl
  | nil =>
    cases es with
    | nil => rfl
    | cons e es =>
      simp only [prolong, List.isEmpty_cons, Bool.false_eq_true, if_false, List.findSome?_cons,
        List.findSome?_nil]
      cases lastRecord? (e :: es) output <;> rfl

/-- Of what happens, only what a node does matters for its outputs. -/
theorem lastRecord?_deedsOf (e : Event) (output : PortRef) :
    lastRecord? (deedsOf output.node [e]) output = lastRecord? [e] output := by
  by_cases h : e.deedOf? = some output.node
  · rw [deedsOf_self (List.forall_mem_singleton.mpr h)]
  · have none : deedsOf output.node [e] = [] := by simp [deedsOf, h]
    rw [none, lastRecord?_singleton]
    refine (Option.eq_none_iff_forall_not_mem.mpr fun value hv => h ?_).symm
    obtain rfl := recordedOn?_eq_some_iff.mp hv
    rfl

/-- The value on an output is the one of the latest execution that has recorded one. -/
theorem lastRecord?_eq_findSome? (es : List Event) (output : PortRef) :
    lastRecord? es output = (executionsOf output.node es).findSome? (lastRecord? · output) := by
  induction es using List.reverseRecOn with
  | nil => rfl
  | append_singleton es e ih =>
    rw [lastRecord?_append]
    by_cases h : output.node ∈ nodesOf [e]
    · obtain rfl : e = .node output.node := by
        cases e with
        | node id => simpa [nodesOf, eq_comm] using h
        | _ => simp [nodesOf] at h
      rw [executionsOf_node, ih]
      rfl
    · rw [executionsOf_concat, resume_of_not_begins h, findSome?_prolong, lastRecord?_deedsOf, ih]

end

/-! ### How executions end -/

section

variable {s : Setting} {v : Node} {es deeds : List Event} {output : PortRef}

namespace Ending

/-- A node records on outputs for results only. -/
theorem mem_products (h : Ending s v deeds) {value : Value} (hr : .record output value ∈ deeds) :
    output.port ∈ s.products v := by
  cases h with
  | idle _ hn => exact absurd hr (hn output value)
  | results results hp =>
    obtain ⟨result, hm, he⟩ := List.mem_map.mp hr
    obtain ⟨rfl, rfl⟩ := Event.record.inj he
    exact hp ▸ List.mem_map_of_mem hm
  | failure fault => cases List.mem_singleton.mp hr

/-- A node with a result fails exactly if it has not recorded it. -/
theorem isSome_lastRecord?_iff (h : Ending s v deeds) (ho : output.node = v.id)
    (hp : output.port ∈ s.products v) :
    (lastRecord? deeds output).isSome ↔ ¬ ∃ d, .failure d ∈ deeds := by
  cases h with
  | idle hn => simp [hn] at hp
  | results results hr =>
    obtain ⟨result, hm, hport⟩ := List.mem_map.mp (hr ▸ hp)
    have mem : .record output result.2 ∈
        results.map fun result => Event.record ⟨v.id, result.1⟩ result.2 :=
      List.mem_map.mpr ⟨result, hm, by rw [hport, ← ho]⟩
    refine iff_of_true (isSome_lastRecord? mem) ?_
    rintro ⟨d, hd⟩
    obtain ⟨_, _, he⟩ := List.mem_map.mp hd
    cases he
  | failure fault =>
    rw [lastRecord?_singleton]
    exact iff_of_false nofun (not_not_intro ⟨_, List.mem_singleton_self _⟩)

end Ending

/-- Every execution is one of a node of the graph, and ends as executions of the node do. -/
def Settled (s : Setting) (es : List Event) : Prop :=
  ∀ id, ∀ deeds ∈ executionsOf id es, ∃ v ∈ s.graph.nodes.toList, v.id = id ∧ Ending s v deeds

namespace Settled

/-- What is not done by a node leaves its executions as they are. -/
theorem executionsOf_eq {ports : List Nat} {reports : Bool} {id : NodeId} {more : List Event}
    (h : ∀ e ∈ more, e.IsOwn v ports reports) (hv : v.id ≠ id) :
    executionsOf id (es ++ more) = executionsOf id es := by
  have new : id ∉ nodesOf more := by simp [Event.IsOwn.nodesOf_eq h]
  rw [executionsOf_append new, Event.IsOwn.deedsOf_eq_nil h hv, prolong_nil]

theorem event (h : Settled s es) {e : Event} (hd : e.deedOf? = none) (hn : nodesOf [e] = []) :
    Settled s (es ++ [e]) := by
  intro id
  have none : deedsOf id [e] = [] := by simp [deedsOf, hd]
  rw [executionsOf_append (by simp [hn]), none, prolong_nil]
  exact h id

/-- A node is executed once more. -/
theorem enter (h : Settled s es) {ports : List Nat} {more : List Event}
    (hv : v ∈ s.graph.nodes.toList) (hm : ∀ e ∈ more, e.IsOwn v ports true)
    (ending : Ending s v (deedsOf v.id more)) : Settled s (es ++ [.node v.id] ++ more) := by
  intro id deeds hdeeds
  by_cases hid : v.id = id
  · subst hid
    have new : v.id ∉ nodesOf more := by simp [Event.IsOwn.nodesOf_eq hm]
    rw [executionsOf_append new, executionsOf_node, prolong, List.nil_append] at hdeeds
    rcases List.mem_cons.mp hdeeds with rfl | hdeeds
    · exact ⟨v, hv, rfl, ending⟩
    · exact h v.id deeds hdeeds
  · have other : id ∉ nodesOf [.node v.id] := by simpa [nodesOf, eq_comm] using hid
    have none : deedsOf id [.node v.id] = [] := rfl
    rw [executionsOf_eq hm hid, executionsOf_append other, none, prolong_nil] at hdeeds
    exact h id deeds hdeeds

/-- A node without outputs for results does more. -/
theorem idle (h : Settled s es) (hids : (s.graph.nodes.toList.map (·.id)).Nodup)
    {more : List Event} (hv : v ∈ s.graph.nodes.toList) (hp : s.products v = [])
    (hm : ∀ e ∈ more, e.IsOwn v [] true) : Settled s (es ++ more) := by
  intro id deeds hdeeds
  by_cases hid : v.id = id
  · subst hid
    have new : v.id ∉ nodesOf more := by simp [Event.IsOwn.nodesOf_eq hm]
    have unrecorded : ∀ output value, .record output value ∉ deedsOf v.id more :=
      fun output value hr => Event.IsOwn.not_record hm output value (mem_deedsOf.mp hr).1
    have settled := h v.id
    rw [executionsOf_append new] at hdeeds
    cases he : executionsOf v.id es with
    | nil =>
      rw [he, prolong] at hdeeds
      split at hdeeds
      next => cases hdeeds
      next =>
        obtain rfl := List.mem_singleton.mp hdeeds
        exact ⟨v, hv, rfl, .idle hp unrecorded⟩
    | cons latest earlier =>
      rw [he] at hdeeds settled
      rcases List.mem_cons.mp hdeeds with rfl | hdeeds
      · obtain ⟨u, hu, hid, ending⟩ := settled latest List.mem_cons_self
        obtain rfl : u = v := List.inj_on_of_nodup_map hids hu hv hid
        refine ⟨u, hu, rfl, .idle hp fun output value hr => ?_⟩
        rcases List.mem_append.mp hr with hr | hr
        · simpa [hp] using ending.mem_products hr
        · exact unrecorded output value hr
      · exact settled deeds (List.mem_cons_of_mem latest hdeeds)
  · rw [executionsOf_eq hm hid] at hdeeds
    exact h id deeds hdeeds

end Settled

variable {m m' : Machine}

theorem Works.settled {r : Route} (h : Works s v (began v m) r m') (hv : v ∈ s.graph.nodes.toList)
    (hm : Settled s m.log.toList) : Settled s m'.log.toList := by
  obtain ⟨es, he, hes⟩ := Operation.steps_log_eq h.own
  obtain ⟨es', he', ending⟩ := h.ending
  obtain rfl : es = es' := List.append_cancel_left (he.symm.trans he')
  rw [he, show (began v m).log.toList = _ from m.log_logged [.node v.id]]
  exact hm.enter hv hes ending

theorem settled_of_walks {r : Route} (hids : (s.graph.nodes.toList.map (·.id)).Nodup)
    (h : Walks (traversal s) s.toWorkspace m r m') (hm : Settled s m.log.toList) :
    Settled s m'.log.toList := by
  induction h with
  | stop => exact hm
  | pause hp _ ih =>
    obtain ⟨v, hv, ⟨kind, hk, hl⟩, own⟩ := hp
    obtain ⟨es, he, hes⟩ := Operation.steps_log_eq own
    exact ih (he ▸ hm.idle hids hv (products_of_branches hk (Kind.branches_of_loops hl)) hes)
  | seen _ _ ih => exact ih hm
  | enter hn _ hw _ _ ihi ihr => exact ihr (ihi (Works.settled hw hn hm))
  | @inside m _ _ _ _ _ _ ho _ hc _ ihb ihr =>
    obtain ⟨body, rfl⟩ := ho
    obtain rfl := hc
    refine ihr (ihb ?_)
    rw [Machine.log_logged]
    exact hm.event rfl rfl

end

/-! ### Readers of outputs -/

section

variable {s : Setting} {es : List Event} {output : PortRef}

/-- What was recorded last belongs to the latest execution, unless that has not recorded anything
there though others have. -/
theorem lastRecord?_eq_latest?_iff (es : List Event) (output : PortRef) :
    lastRecord? es output = latest? es output ↔
      (latest? es output).isSome ∨ Unrecorded es output := by
  unfold latest? Unrecorded
  rw [lastRecord?_eq_findSome?]
  cases executionsOf output.node es with
  | nil => simp
  | cons latest earlier =>
    rw [List.findSome?_cons, List.head?_cons, Option.bind_some]
    cases hlast : lastRecord? latest output with
    | some value => simp
    | none =>
      have others : earlier.findSome? (lastRecord? · output) = none ↔
          ∀ deeds ∈ earlier, lastRecord? deeds output = none := List.findSome?_eq_none_iff
      simp [hlast, others]

/-- While a node is not being executed, its latest execution has failed exactly if it has not
recorded on the outputs on which it has recorded before. -/
theorem Settled.isSome_latest?_iff (h : ∀ deeds ∈ executionsOf output.node es,
      ∃ v ∈ s.graph.nodes.toList, v.id = output.node ∧ Ending s v deeds)
    (hids : (s.graph.nodes.toList.map (·.id)).Nodup) (ho : ¬ Unrecorded es output) :
    (latest? es output).isSome ↔ ¬ FailedLast es output.node := by
  obtain ⟨deeds, hdeeds, ho⟩ : ∃ deeds ∈ executionsOf output.node es,
      lastRecord? deeds output ≠ none := by simpa [Unrecorded] using ho
  obtain ⟨value, hvalue⟩ := Option.ne_none_iff_exists'.mp ho
  obtain ⟨v, hv, hid, ending⟩ := h deeds hdeeds
  -- Some execution has recorded on the output, so it is one for results.
  have product : output.port ∈ s.products v := ending.mem_products (mem_of_lastRecord? hvalue)
  unfold latest? FailedLast
  cases hG : executionsOf output.node es with
  | nil => simp [hG] at hdeeds
  | cons latest earlier =>
    rw [hG] at h
    obtain ⟨u, hu, huid, last⟩ := h latest List.mem_cons_self
    obtain rfl : u = v := List.inj_on_of_nodup_map hids hu hv (huid.trans hid.symm)
    simpa using last.isSome_lastRecord?_iff huid.symm product

end

/-- What a run recalls of the executions of its nodes, in every state that occurs. -/
structure Interpreter.Recalls (i : Interpreter) (graph : Graph) : Prop where
  course : i.Course graph
  /-- Who is wired to a node that keeps no value by itself is given what is recorded. -/
  read {m : Machine} (hm : i.Occurs graph m) {v u : Node} {index port : Nat}
    (hp : (i.setting graph).producer? v index = some (u, port))
    (hk : u.kind ≠ Kind.var.name ∧ u.kind ≠ Kind.constant.name) :
    (((i.setting graph).input v index).run m).1 = m.outputs.get? ⟨u.id, port⟩
  /-- What is recorded on an output is what the latest execution has recorded there of those that
  have recorded anything there. -/
  recorded {m : Machine} (hm : i.Occurs graph m) (output : PortRef) :
    m.outputs.get? output =
      (executionsOf output.node m.log.toList).findSome? (lastRecord? · output)
  /-- This is what the very latest execution has recorded there exactly if that has recorded
  anything there, or if none has. -/
  latest_iff {m : Machine} (hm : i.Occurs graph m) (output : PortRef) :
    m.outputs.get? output = latest? m.log.toList output ↔
      (latest? m.log.toList output).isSome ∨ Unrecorded m.log.toList output
  /-- While the node is not being executed, this is so exactly if the latest execution has not
  failed, or if none has recorded anything there. -/
  failing_iff (hids : (graph.nodes.toList.map (·.id)).Nodup) {m : Machine}
    (hm : i.Occurs graph m) {after : List Event} (he : (i.run graph).log = m.log.toList ++ after)
    {output : PortRef} (hrest : AtRest m.log.toList after output.node) :
    m.outputs.get? output = latest? m.log.toList output ↔
      ¬ FailedLast m.log.toList output.node ∨ Unrecorded m.log.toList output

/-- In all runs: readers are given what the latest execution of a node has recorded that has
recorded anything, be it the very latest or not. -/
theorem run_recalls (limit : Nat) (exchange : Http.Exchange) (draws : Draws) (debug : Bool)
    (graph : Graph) : ((builtin limit exchange draws).withDebug debug).Recalls graph where
  course := Interpreter.course .builtin limit exchange draws debug graph
  read _ _ _ _ _ hp hk := input_eq_recorded hp hk
  recorded hm output := by
    rw [hm.told.get?_outputs]
    exact lastRecord?_eq_findSome? _ output
  latest_iff hm output := by
    rw [hm.told.get?_outputs]
    exact lastRecord?_eq_latest?_iff _ output
  failing_iff hids m hm after he output hrest := by
    let s := (builtin limit exchange draws).setting graph
    have settled : Settled s (m.log.toList ++ after) := by
      rw [← he, Interpreter.run_withDebug]
      refine settled_of_walks hids (Interpreter.walks_machine limit exchange draws graph) ?_
      intro id deeds hdeeds
      cases hdeeds
    have ended : ∀ deeds ∈ executionsOf output.node m.log.toList, ∃ v ∈ graph.nodes.toList,
        v.id = output.node ∧ Ending s v deeds :=
      fun deeds hdeeds => settled output.node deeds (hrest.subset hdeeds)
    rw [hm.told.get?_outputs, lastRecord?_eq_latest?_iff]
    by_cases ho : Unrecorded m.log.toList output
    · simp [ho]
    · simp only [ho, or_false]
      exact Settled.isSome_latest?_iff (s := s) ended hids ho

/-- When a run has ended nothing is executed any more. -/
theorem Interpreter.Recalls.ends_iff {i : Interpreter} {graph : Graph} (h : i.Recalls graph)
    (hids : (graph.nodes.toList.map (·.id)).Nodup) (output : PortRef) :
    let m := i.machine graph
    m.outputs.get? output = latest? m.log.toList output ↔
      ¬ FailedLast m.log.toList output.node ∨ Unrecorded m.log.toList output := by
  intro m
  have rest : AtRest m.log.toList [] output.node := by simp [AtRest]
  exact h.failing_iff hids h.course.ends (List.append_nil _).symm rest

/-- A loop whose body reads a value out of a text and then changes the text, and a line that shows
the value. -/
def changedText : Graph :=
  .ofLists
    [{ id := .ofNat 1, kind := Kind.onStart.name },
      { id := .ofNat 2, kind := Kind.whileLoop.name },
      { id := .ofNat 3, kind := Kind.jsonParse.name },
      { id := .ofNat 4, kind := Kind.var.name
        properties := [("name", .string "x"), ("initialValue", .string "true")] },
      { id := .ofNat 5, kind := Kind.log.name },
      { id := .ofNat 6, kind := Kind.constant.name
        properties := [("value", .string "?")] }]
    [.between (.ofNat 1) 0 (.ofNat 2) 0, .between (.ofNat 2) 0 (.ofNat 3) 0,
      .between (.ofNat 3) 0 (.ofNat 4) 0, .between (.ofNat 2) 1 (.ofNat 5) 0,
      .between (.ofNat 4) 1 (.ofNat 3) 1, .between (.ofNat 6) 0 (.ofNat 4) 1,
      .between (.ofNat 3) 1 (.ofNat 5) 1]

/-- When a run in which every loop has two rounds at most has ended and nothing is executed any
more, the value of the first round is still there, though nothing could be read in the second. This
is what the line has shown. -/
theorem changedText_recalls_stale :
    let i := builtin 2 .unreachable (.ofSeed 0)
    let m := i.machine changedText
    (¬ ∀ v ∈ changedText.nodes.toList, v.kind ≠ Kind.var.name → v.kind ≠ Kind.constant.name →
      ∀ port, m.outputs.get? ⟨v.id, port⟩ = latest? m.log.toList ⟨v.id, port⟩) ∧
    i.console changedText = [⟨.log, "true"⟩] := by
  intro i m
  constructor
  · intro h
    have stale := h { id := .ofNat 3, kind := Kind.jsonParse.name }
      (List.mem_of_getElem? (i := 2) rfl) (by decide) (by decide) 1
    have recorded : (m.outputs.get? ⟨.ofNat 3, 1⟩).isSome := by decide +kernel
    have none : (latest? m.log.toList ⟨.ofNat 3, 1⟩).isSome = false := by decide +kernel
    rw [show m.outputs.get? _ = _ from stale, none] at recorded
    cases recorded
  · decide +kernel

/-- As nothing is executed any more, the latest execution of the node must have failed, after an
earlier one has recorded the value. -/
theorem changedText_failed :
    let i := (builtin 2 .unreachable (.ofSeed 0)).withDebug false
    let m := i.machine changedText
    (changedText.nodes.toList.map (·.id)).Nodup ∧ i.Occurs changedText m ∧
      FailedLast m.log.toList (.ofNat 3) ∧ ¬ Unrecorded m.log.toList ⟨.ofNat 3, 1⟩ := by
  intro i m
  have ids : (changedText.nodes.toList.map (·.id)).Nodup := by decide +kernel
  have recalls : i.Recalls changedText := run_recalls 2 .unreachable (.ofSeed 0) false changedText
  have recorded : (m.outputs.get? ⟨.ofNat 3, 1⟩).isSome := by decide +kernel
  have none : (latest? m.log.toList ⟨.ofNat 3, 1⟩).isSome = false := by decide +kernel
  have stale : ¬ m.outputs.get? ⟨.ofNat 3, 1⟩ = latest? m.log.toList ⟨.ofNat 3, 1⟩ := by
    intro he
    rw [he, none] at recorded
    cases recorded
  obtain ⟨failed, recorded⟩ := not_or.mp ((recalls.ends_iff ids ⟨.ofNat 3, 1⟩).not.mp stale)
  exact ⟨ids, recalls.course.ends, not_not.mp failed, recorded⟩

end ScriptGraph.Script
