import ScriptGraph.Proofs.Script.Container

/-! # Parts of lists

A list is cut between two bounds, which may be any decimals at all: infinite, below zero, beyond the
end, no number, or in the wrong order. The places that they mean never lie outside of the list.
-/

namespace ScriptGraph.Script

open Json (Value)

/-- A part of a list, from one place of it up to another. Where the second comes before the first,
the part is empty. -/
structure CutsOut (items : List Value) (start stop : Nat) (part : List Value) : Prop where
  start_le : start ≤ items.length
  stop_le : stop ≤ items.length
  /-- Both places have been found in the list. -/
  found : Execute.between? items start (max stop start) = some part
  around : items.take start ++ part ++ items.drop (max stop start) = items
  length_eq : part.length = stop - start

/-- The execution of a node has done no more than to record its result. -/
structure OnlyRecords (s : Setting) (v : Node) (result : Value) (m m' : Machine) : Prop where
  bindings : m'.bindings = m.bindings
  recorded {port : Nat} (h : port ∈ s.primary? v) : m'.outputs.get? ⟨v.id, port⟩ = some result
  outputs {output : PortRef} (h : ∀ port ∈ s.primary? v, output ≠ ⟨v.id, port⟩) :
    m'.outputs.get? output = m.outputs.get? output
  log : m'.log.toList = m.log.toList ++
    (s.primary? v).toList.map fun port => .record ⟨v.id, port⟩ result

variable {s : Setting} {v : Node} {items part : List Value} {bounds : List Float} {start stop : Nat}

theorem onlyRecords_recordPrimary (s : Setting) (v : Node) (result : Value) (m : Machine) :
    OnlyRecords s v result m ((s.recordPrimary v result).run m).2 := by
  rw [recordPrimary_run]
  cases hp : s.primary? v with
  | none =>
    exact {
      bindings := rfl
      recorded := fun h => absurd (hp ▸ h) (Option.not_mem_none _)
      outputs := fun _ => rfl
      log := by simp [hp] }
  | some port =>
    exact {
      bindings := rfl
      recorded := fun h => by
        obtain rfl := Option.some.inj (hp ▸ h)
        exact Table.get?_insert_self ..
      outputs := fun h => Table.get?_insert_of_ne _ _ (h port (hp ▸ rfl))
      log := by rw [hp]; exact m.log_logged _ }

theorem slicePosition_le (length : Nat) (bound : Float) :
    Execute.slicePosition length bound ≤ length := by
  unfold Execute.slicePosition
  split
  · exact Nat.sub_le ..
  · exact Nat.min_le_right ..

theorem sliceEnds_le (length : Nat) (bounds : List Float) :
    (Execute.sliceEnds length bounds).1 ≤ length ∧
      (Execute.sliceEnds length bounds).2 ≤ length := by
  have position (bound : Option Float) {missing : Nat} (h : missing ≤ length) :
      (bound.map (Execute.slicePosition length)).getD missing ≤ length := by
    cases bound with
    | none => exact h
    | some bound => exact slicePosition_le length bound
  exact ⟨position _ (Nat.zero_le _), position _ (Nat.le_refl _)⟩

/-- Between two places of a list there is a part of it. -/
theorem exists_cutsOut (hs : start ≤ items.length) (ht : stop ≤ items.length) :
    ∃ part, CutsOut items start stop part := by
  have inside : start ≤ max stop start ∧ max stop start ≤ items.length :=
    ⟨Nat.le_max_right .., Nat.max_le.mpr ⟨ht, hs⟩⟩
  refine ⟨(items.take (max stop start)).drop start, hs, ht, if_pos inside, ?_, ?_⟩
  · have front : items.take start = (items.take (max stop start)).take start := by
      rw [List.take_take, Nat.min_eq_left inside.1]
    rw [front, List.take_append_drop, List.take_append_drop]
  · rw [List.length_drop, List.length_take, Nat.min_eq_left inside.2]
    omega

theorem CutsOut.slice_eq (h : CutsOut items (Execute.sliceEnds items.length bounds).1
    (Execute.sliceEnds items.length bounds).2 part) : Execute.slice items bounds = part := by
  unfold Execute.slice
  simp only [h.found, Option.getD_some]

/-- Bounds are read from their texts one by one. -/
theorem exists_sliceBounds {argument : String}
    (h : ∀ text ∈ Execute.boundTexts argument, (Decimal.read? text).isSome) :
    ∃ bounds, Execute.sliceBounds argument = .ok bounds ∧
      bounds.map some = (Execute.boundTexts argument).map Decimal.read? := by
  unfold Execute.sliceBounds
  generalize Execute.boundTexts argument = texts at h
  induction texts with
  | nil => exact ⟨[], rfl, rfl⟩
  | cons text texts ih =>
    obtain ⟨bound, hb⟩ := Option.isSome_iff_exists.mp (h text List.mem_cons_self)
    obtain ⟨bounds, run, read⟩ := ih fun t ht => h t (List.mem_cons_of_mem _ ht)
    refine ⟨bound :: bounds, ?_, ?_⟩
    · rw [List.mapM_cons, hb, run]
      rfl
    · rw [List.map_cons, List.map_cons, hb, read]

/-- A slice of a list between bounds that can be read always succeeds. The places that the bounds
mean are places of the list, and the result is what lies between them; it is recorded, and nothing
else changes. -/
theorem slice_within (s : Setting) (visit : Node → RunM Unit) (v : Node) (m : Machine)
    (slices : (s.props v).text "operation" = "slice")
    (given : ((s.input v 1).run m).1 = some (.array items))
    (numbers : ∀ text ∈ Execute.boundTexts ((s.props v).text "argument"),
      (Decimal.read? text).isSome) :
    ∃ bounds part m',
      bounds.map some = (Execute.boundTexts ((s.props v).text "argument")).map Decimal.read? ∧
      CutsOut items (Execute.sliceEnds items.length bounds).1
        (Execute.sliceEnds items.length bounds).2 part ∧
      (Execute.builtin .arrayOperation s visit v).run.run m = (.ok .proceed, m') ∧
      OnlyRecords s v (.array part) (s.withProducer v 1 m) m' := by
  obtain ⟨bounds, read, texts⟩ := exists_sliceBounds numbers
  obtain ⟨start_le, stop_le⟩ := sliceEnds_le items.length bounds
  obtain ⟨part, cuts⟩ := exists_cutsOut start_le stop_le
  refine ⟨bounds, part, _, texts, cuts, ?_, onlyRecords_recordPrimary s v (.array part) _⟩
  have input : (s.input v 1).run m = (some (.array items), s.withProducer v 1 m) :=
    Prod.ext given (by rw [s.input_run])
  have update : (Execute.updateArray "slice" ((s.props v).text "argument") items).run.run
      (s.withProducer v 1 m) = (.ok ⟨.array part, none⟩, s.withProducer v 1 m) := by
    unfold Execute.updateArray
    simp only [read, liftM_ok_bind, cuts.slice_eq]
    rfl
  change (Execute.arrayOperation s visit v).run.run m = _
  rw [arrayOperation_eq, operate, run_bind_of_ok (s.requireInput_of_some input), itemsOf,
    liftM_ok_bind, slices, run_bind_of_ok update]
  rfl

/-- A part of a list that a text has been read as, from a place between two of its items to far
beyond its end. -/
def farSlice : Setting where
  graph := .ofLists
    [{ id := .ofNat 1, kind := Kind.jsonParse.name },
      { id := .ofNat 2, kind := Kind.arrayOperation.name
        properties := [("operation", .string "slice"), ("argument", .string " -3.5,, 1e400, x")] }]
    [.between (.ofNat 1) 1 (.ofNat 2) 1]
  registry := .builtin
  maxLoopIterations := 1
  exchange := .unreachable
  draws := .ofSeed 0

/-- The state in which the text has been read. -/
def farSliceRead : Machine where
  outputs := ⟨[(⟨.ofNat 1, 1⟩, .array [.bool true, .null, .bool false, .array []])]⟩

theorem farSlice_within :
    let v := farSlice.graph.nodes[1]
    Execute.boundTexts ((farSlice.props v).text "argument") = ["-3.5", "1e400"] ∧
      ∃ m', (Execute.builtin .arrayOperation farSlice (fun _ => pure ()) v).run.run farSliceRead =
          (.ok .proceed, m') ∧
        m'.outputs.get? ⟨v.id, 1⟩ = some (.array [.null, .bool false, .array []]) := by
  intro v
  have listed : Execute.boundTexts ((farSlice.props v).text "argument") = ["-3.5", "1e400"] := by
    decide +kernel
  have numbers : ∀ text ∈ ["-3.5", "1e400"], (Decimal.read? text).isSome := by decide +kernel
  have given : ((farSlice.input farSlice.graph.nodes[1] 1).run farSliceRead).1 =
      some (.array [.bool true, .null, .bool false, .array []]) := by rfl
  obtain ⟨bounds, part, m', texts, cuts, run, records⟩ :=
    slice_within farSlice (fun _ => pure ()) v farSliceRead (by decide +kernel) given
      (listed ▸ numbers)
  have read : bounds = [-3.5, 1.0 / 0.0] := by
    refine List.map_injective_iff.mpr (Option.some_injective Float) (texts.trans ?_)
    rw [listed]
    decide +kernel
  have ends : Execute.sliceEnds 4 bounds = (1, 4) := by
    rw [read]
    decide +kernel
  obtain rfl : [.null, .bool false, .array []] = part := by
    have found := cuts.found
    rw [show List.length _ = 4 from rfl, ends] at found
    exact Option.some.inj found
  exact ⟨listed, m', run, records.recorded (by decide +kernel)⟩

end ScriptGraph.Script
