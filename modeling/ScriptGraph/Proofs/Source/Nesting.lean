import ScriptGraph.Proofs.Source.Traversal

/-! # Nested blocks

Whoever opens a block ends it: prose does, an emitter does around the branches that it walks, and so
does the routine. What a visit writes, with everything that it walks on to, ends the blocks that it
opened and no others, whatever the depth at which it begins.
-/

namespace ScriptGraph.Source

/-- Steps that end every block that they open, and no other. -/
inductive Nested : List Step → Prop where
  | nil : Nested []
  | step {t : Step} {ts : List Step} : t ≠ .indent → t ≠ .dedent → Nested ts → Nested (t :: ts)
  | block {body ts : List Step} : Nested body → Nested ts →
      Nested (.indent :: (body ++ .dedent :: ts))

/-- The writer after some steps. -/
def Writer.after (w : Writer) (ts : List Step) : Writer :=
  ts.foldl Writer.apply w

namespace Writer

@[simp] theorem after_nil (w : Writer) : w.after [] = w := rfl

@[simp] theorem after_cons (w : Writer) (t : Step) (ts : List Step) :
    w.after (t :: ts) = (w.apply t).after ts := rfl

@[simp] theorem after_append (w : Writer) (ts ts' : List Step) :
    w.after (ts ++ ts') = (w.after ts).after ts' :=
  List.foldl_append

@[simp] theorem depth_apply_indent (w : Writer) : (w.apply .indent).depth = w.depth + 1 := rfl

@[simp] theorem depth_apply_dedent (w : Writer) : (w.apply .dedent).depth = w.depth - 1 := rfl

theorem depth_apply_of_ne {t : Step} (hi : t ≠ .indent) (hd : t ≠ .dedent) (w : Writer) :
    (w.apply t).depth = w.depth := by
  cases t with
  | indent => exact absurd rfl hi
  | dedent => exact absurd rfl hd
  | _ => rfl

/-- What begins a block and ends it does not move a writer, if the body does not. -/
theorem depth_block {w : Writer} {body : List Step}
    (h : ((w.apply .indent).after body).depth = (w.apply .indent).depth) :
    (((w.apply .indent).after body).apply .dedent).depth = w.depth := by
  rw [depth_apply_dedent, h, depth_apply_indent, Nat.add_sub_cancel]

end Writer

namespace Nested

variable {ts ts' : List Step}

theorem append (h : Nested ts) (h' : Nested ts') : Nested (ts ++ ts') := by
  induction h with
  | nil => exact h'
  | step hi hd _ ih => exact .step hi hd ih
  | block hb _ _ ih => simpa using Nested.block hb ih

theorem line {text : String} (h : Nested ts) : Nested (.line text :: ts) :=
  .step Step.noConfusion Step.noConfusion h

theorem blank (h : Nested ts) : Nested (.blank :: ts) :=
  .step Step.noConfusion Step.noConfusion h

theorem close {text : String} (h : Nested ts) : Nested (.close text :: ts) :=
  .step Step.noConfusion Step.noConfusion h

/-- A writer is at the depth again at which it was. -/
theorem depth_after (h : Nested ts) (w : Writer) : (w.after ts).depth = w.depth := by
  induction h generalizing w with
  | nil => rfl
  | step hi hd _ ih => rw [Writer.after_cons, ih, Writer.depth_apply_of_ne hi hd]
  | block _ _ ihb ih =>
    rw [Writer.after_cons, Writer.after_append, Writer.after_cons, ih, Writer.depth_block (ihb _)]

/-- In between a writer is never at a lower depth, and at a greater one where a block ends. -/
theorem le_depth (h : Nested ts) {before after : List Step} (hs : ts = before ++ after)
    (w : Writer) :
    w.depth ≤ (w.after before).depth ∧
      (after.head? = some .dedent → w.depth < (w.after before).depth) := by
  induction h generalizing before after w with
  | nil =>
    obtain ⟨rfl, rfl⟩ := List.append_eq_nil_iff.mp hs.symm
    exact ⟨le_rfl, fun h => nomatch h⟩
  | @step t ts hi hd _ ih =>
    cases before with
    | nil =>
      obtain rfl : t :: ts = after := hs
      exact ⟨le_rfl, fun h => absurd (Option.some.inj h) hd⟩
    | cons t' before =>
      obtain ⟨rfl, rest⟩ := List.cons.inj hs
      rw [Writer.after_cons, ← Writer.depth_apply_of_ne hi hd w]
      exact ih rest _
  | @block body ts hb _ ihb ih =>
    cases before with
    | nil =>
      obtain rfl : .indent :: (body ++ .dedent :: ts) = after := hs
      exact ⟨le_rfl, fun h => nomatch h⟩
    | cons t before =>
      obtain ⟨rfl, parts⟩ := List.cons.inj hs
      rw [Writer.after_cons]
      have inner {part rest : List Step} (hp : body = part ++ rest) :
          w.depth + 1 ≤ ((w.apply .indent).after part).depth :=
        (ihb hp (w.apply .indent)).1
      -- the split lies in the body, at its end, or behind the end of the block
      rcases List.append_eq_append_iff.mp parts with ⟨rest, rfl, hrest⟩ | ⟨rest, hrest, -⟩
      · cases rest with
        | nil =>
          have := inner (List.append_nil body).symm
          rw [List.append_nil]
          exact ⟨by omega, fun _ => by omega⟩
        | cons t rest =>
          obtain ⟨rfl, later⟩ := List.cons.inj hrest
          have outer := Writer.depth_block (hb.depth_after (w.apply .indent))
          rw [Writer.after_append, Writer.after_cons, ← outer]
          exact ih later _
      · have := inner hrest
        exact ⟨by omega, fun _ => by omega⟩

end Nested

/-! ### What a pass writes -/

theorem Prose.nested {temporaries : List String} {es : List Event} (h : Prose temporaries es) :
    Nested (es.filterMap Event.step?) := by
  induction h with
  | nil => exact .nil
  | line _ _ _ ih => exact .line ih
  | blank _ ih => exact .blank ih
  | block _ _ ihb ih =>
    rw [List.filterMap_cons, List.filterMap_append, List.filterMap_cons]
    exact .block ihb ih

theorem nested_of_flat {es : List Event} (h : ∀ e ∈ es, e.isFlat) :
    Nested (es.filterMap Event.step?) := by
  induction es with
  | nil => exact .nil
  | cons e es ih =>
    obtain ⟨flat, rest⟩ := List.forall_mem_cons.mp h
    cases e with
    | node | indent | dedent => cases flat
    | write st => exact .line (ih rest)
    | blank => exact .blank (ih rest)
    | _ => exact ih rest

/-- From one state of a pass to another, what is written ends the blocks that it opens, and the
depth is the same again. -/
def Nests (d d' : Draft) : Prop :=
  ∃ es, d'.log.toList = d.log.toList ++ es ∧ Nested (es.filterMap Event.step?) ∧ d'.depth = d.depth

namespace Nests

variable {s : Setting} {v : Node} {d d₁ d₂ d' : Draft} {r : Route}

theorem refl (d : Draft) : Nests d d :=
  ⟨[], (List.append_nil _).symm, .nil, rfl⟩

theorem trans (h : Nests d d₁) (h' : Nests d₁ d') : Nests d d' := by
  obtain ⟨es, hl, hn, hd⟩ := h
  obtain ⟨es', hl', hn', hd'⟩ := h'
  refine ⟨es ++ es', by rw [hl', hl, List.append_assoc], ?_, hd'.trans hd⟩
  rw [List.filterMap_append]
  exact hn.append hn'

theorem prose {temporaries : List String} {es : List Event} (h : Prose temporaries es) :
    Nests d (d.logged es) :=
  ⟨es, d.log_logged es, h.nested, rfl⟩

theorem began (v : Node) (d : Draft) : Nests d (began v d) :=
  ⟨[.node v.id], d.log_logged _, .nil, rfl⟩

theorem block (h : Nests (opened d) d₁) : Nests d (closed d₁) := by
  obtain ⟨es, hl, hn, hd⟩ := h
  have first : (opened d).log.toList = d.log.toList ++ [.indent] := d.log_logged _
  have last : (closed d₁).log.toList = d₁.log.toList ++ [.dedent] := d₁.log_logged _
  refine ⟨.indent :: (es ++ [.dedent]), by simp [first, last, hl], ?_, ?_⟩
  · rw [List.filterMap_cons, List.filterMap_append]
    exact .block hn .nil
  · change d₁.depth - 1 = d.depth
    rw [hd]
    exact Nat.add_sub_cancel _ _

theorem of_operation (h : Operation s v d d') : Nests d d' := by
  obtain ⟨es, hl, hn⟩ := h.log_eq
  have depth : d'.depth = d.depth := by
    cases h with
    | read index =>
      rw [Setting.input_run]
      change (s.withProducer v index d).depth = d.depth
      unfold Setting.withProducer
      split <;> rfl
    | declare assigned => rw [Setting.declareVariable_run]; rfl
    | _ => rfl
  refine ⟨es, hl, ?_, depth⟩
  obtain ⟨_, prose⟩ | flat := hn
  · exact prose.nested
  · exact nested_of_flat flat

theorem of_own (h : Own s v d d') : Nests d d' := by
  induction h with
  | refl => exact .refl d
  | tail _ last ih => exact ih.trans (.of_operation last)

theorem of_walks (h : Walks (traversal s) s.toWorkspace d r d') : Nests d d' := by
  induction h with
  | stop => exact .refl _
  | pause hp _ ih =>
    obtain ⟨es, hp, rfl⟩ := hp
    exact (prose hp).trans ih
  | seen _ _ ih => exact ih
  | @enter d _ _ _ v _ _ _ _ hw _ _ ihi ihr =>
    exact (began v d).trans ((of_own hw.own).trans (ihi.trans ihr))
  | inside ho _ hc _ ihb ihr =>
    obtain rfl := ho
    obtain rfl := hc
    exact (block ihb).trans ihr

end Nests

namespace Generator

variable (options : Options) (registry : Registry) (graph : Graph)

/-- A visit nests if it has as many levels as there are nodes that have not been entered. -/
theorem nests_walk {v : Node} (hv : v ∈ graph.nodes.toList) (d : Draft) {depth : Nat}
    (h : graph.unentered d.visited.visited ≤ depth) :
    let g := withRegistry options registry
    Nests d ((walk (g.setting graph).toWorkspace enter (g.emit (g.setting graph)) depth v).run
      d).2 := by
  intro g
  obtain ⟨same, walks⟩ := walkOr_performs (fun _ => pure ())
    (governs options (g.setting graph)) depth depth h h hv d (List.Subset.refl _) trivial
  rw [same] at walks
  exact .of_walks walks

/-- So does a walk to whatever an output leads to, and it leaves no more nodes to be entered. -/
theorem nests_branch (v : Node) (port : Nat) (d : Draft) {depth : Nat}
    (h : graph.unentered d.visited.visited ≤ depth) :
    let s := (withRegistry options registry).setting graph
    let visit := walk s.toWorkspace enter ((withRegistry options registry).emit s) depth
    let d' := ((s.branch visit v port).run d).2
    Nests d d' ∧ graph.unentered d'.visited.visited ≤ depth := by
  intro s visit d'
  have visits := fun u hu =>
    walkOr_performs (v := u) (fun _ => pure ()) (governs options s) depth depth h h hu
  obtain ⟨same, walks⟩ := Performs.visitFlow (traversal_lawful s) visits v (.follow port) d
    (List.Subset.refl _) trivial
  rw [same] at walks
  have more := walks.visited_subset (traversal_lawful s)
  exact ⟨.of_walks walks, (Graph.unentered_le_of_subset more).trans h⟩

theorem nested_log :
    Nested (((withRegistry options registry).draft graph).log.toList.filterMap Event.step?) := by
  obtain ⟨es, hl, hn, -⟩ := Nests.of_walks (walks_withRegistry options registry graph)
  rw [hl]
  exact hn

/-- The lines before the body end with the first block. -/
theorem header_eq (g : Generator) : ∃ lead, Nested lead ∧ g.header graph = lead ++ [.indent] := by
  unfold header
  cases g.options.emitStrictHeader with
  | true => exact ⟨[_, _, _], .line (.blank (.line .nil)), rfl⟩
  | false => exact ⟨[_], .line .nil, rfl⟩

theorem nested_hoistedLine (d : Draft) : Nested (hoistedLine d) := by
  unfold hoistedLine
  split
  · exact .nil
  · exact .line .nil

/-- A text is a block with the body of the routine, between a few lines. -/
theorem steps_eq (g : Generator) : ∃ lead, Nested lead ∧ g.header graph = lead ++ [.indent] ∧
    g.steps graph = lead ++ .indent :: (hoistedLine (g.draft graph) ++
      (g.draft graph).log.toList.filterMap Event.step? ++
        .dedent :: [.close "\x7d", .blank, .line "main()"]) := by
  obtain ⟨lead, nested, header⟩ := g.header_eq graph
  exact ⟨lead, nested, header, by simp [steps, footer, header]⟩

/-- The writer of a text before anything has been written. -/
def writer (g : Generator) : Writer :=
  { semicolons := g.options.emitSemicolons }

end Generator

/-- Steps that leave every writer at the depth at which they find it, and never take it below. -/
structure Returns (ts : List Step) : Prop where
  ends (w : Writer) : (w.after ts).depth = w.depth
  above (w : Writer) {before after : List Step} (h : ts = before ++ after) :
    w.depth ≤ (w.after before).depth

theorem Nested.returns {ts : List Step} (h : Nested ts) : Returns ts :=
  ⟨h.depth_after, fun w _ _ hs => (h.le_depth hs w).1⟩

/-- The blocks of a generated text are well nested. -/
structure WellNested (g : Generator) (graph : Graph) : Prop where
  /-- A visit, with everything that it walks on to. -/
  visits {v : Node} (hv : v ∈ graph.nodes.toList) (d : Draft) {depth : Nat}
    (h : graph.unentered d.visited.visited ≤ depth) :
    let visit := walk (g.setting graph).toWorkspace Generator.enter (g.emit (g.setting graph)) depth
    ∃ es, (visit v |>.run d).2.log.toList = d.log.toList ++ es ∧
      (visit v |>.run d).2.depth = d.depth ∧ Returns (es.filterMap Event.step?)
  balanced : Nested (g.steps graph)
  /-- No block ends outside of all blocks. -/
  dedents {before after : List Step} (h : g.steps graph = before ++ .dedent :: after) :
    0 < (g.writer.after before).depth
  /-- The brace that closes the routine stands outside of all blocks. -/
  closing : ∃ before, g.steps graph = before ++ [.close "\x7d", .blank, .line "main()"] ∧
    (g.writer.after before).depth = 0
  /-- Whatever happens in a pass happens inside of the routine. -/
  inside {before after : List Event} (h : (g.draft graph).log.toList = before ++ after) :
    routineDepth ≤ (g.writer.after (g.header graph ++ Generator.hoistedLine (g.draft graph) ++
      before.filterMap Event.step?)).depth

/-- Whatever the options and the kinds, the built-in emitters keep blocks well nested. -/
theorem wellNested (options : Options) (registry : Registry) (graph : Graph) :
    WellNested (withRegistry options registry) graph := by
  have visits {v : Node} (hv : v ∈ graph.nodes.toList) (d : Draft) {depth : Nat}
      (h : graph.unentered d.visited.visited ≤ depth) :=
    Generator.nests_walk options registry graph hv d h
  have log := Generator.nested_log options registry graph
  generalize withRegistry options registry = g at visits log ⊢
  have body := (Generator.nested_hoistedLine (g.draft graph)).append log
  obtain ⟨lead, nested, header, steps⟩ := g.steps_eq graph
  have balanced : Nested (g.steps graph) :=
    steps ▸ nested.append (.block body (.close (.blank (.line .nil))))
  constructor
  case visits =>
    intro v hv d depth h
    obtain ⟨es, hl, hn, hd⟩ := visits hv d h
    exact ⟨es, hl, hd, hn.returns⟩
  case balanced => exact balanced
  case dedents =>
    intro before after h
    exact (balanced.le_depth h g.writer).2 rfl
  case closing =>
    refine ⟨lead ++ .indent :: (Generator.hoistedLine (g.draft graph) ++
      (g.draft graph).log.toList.filterMap Event.step? ++ [.dedent]), by simp [steps], ?_⟩
    exact (nested.append (.block body .nil)).depth_after g.writer
  case inside =>
    intro before after h
    have begun : (g.writer.after (g.header graph)).depth = routineDepth := by
      rw [header, Writer.after_append, Writer.after_cons, Writer.after_nil,
        Writer.depth_apply_indent, nested.depth_after]
      rfl
    rw [h, List.filterMap_append, ← List.append_assoc] at body
    have above := (body.le_depth rfl (g.writer.after (g.header graph))).1
    rwa [begun, ← Writer.after_append, ← List.append_assoc] at above

end ScriptGraph.Source
