import ScriptGraph.Proofs.Source.Variables

/-! # Temporaries

The names that a pass takes for temporaries are all different, and none of them belongs to a
variable of the graph. Names of variables are reserved before the pass begins, so that it does not
matter when a variable is declared, or whether it is declared at all.
-/

namespace ScriptGraph.Source

/-- The temporary that an event takes. -/
def Event.taken? : Event → Option String
  | .fresh name => some name
  | _ => none

/-- The temporaries that a log takes, in their order. -/
def temporariesOf (es : List Event) : List String :=
  es.filterMap Event.taken?

@[simp] theorem temporariesOf_append (es es' : List Event) :
    temporariesOf (es ++ es') = temporariesOf es ++ temporariesOf es' :=
  List.filterMap_append

variable {s : Setting} {d d' : Draft} {es : List Event} {x : String}

theorem mem_temporariesOf : x ∈ temporariesOf es ↔ .fresh x ∈ es := by
  unfold temporariesOf
  rw [List.mem_filterMap]
  constructor
  · rintro ⟨e, he, hx⟩
    cases e <;> cases hx
    exact he
  · exact fun h => ⟨_, h, rfl⟩

/-- Names derived from a base are no shorter than the base. -/
theorem Names.candidate_ne_empty {base : String} (hb : base ≠ "") (counter : Nat) :
    candidate base counter ≠ "" := by
  cases counter with
  | zero => exact hb
  | succ counter =>
    intro h
    have empty := congrArg String.length h
    rw [candidate, String.length_append, String.length_empty, Nat.add_eq_zero_iff] at empty
    exact hb (String.length_eq_zero_iff.mp empty.1)

theorem Names.unique_ne_empty (n : Names) {base : String} (hb : base ≠ "") :
    (n.unique base).1 ≠ "" := by
  obtain ⟨counter, -, he, -, -⟩ := n.unique_eq base
  rw [he]
  exact candidate_ne_empty hb counter

/-! ### Acts and temporaries -/

theorem Prose.temporariesOf_eq {temporaries : List String} (h : Prose temporaries es) :
    temporariesOf es = [] := by
  refine List.filterMap_eq_nil_iff.mpr fun e he => ?_
  have prose := h.isProse e he
  cases e with
  | write | blank | indent | dedent => rfl
  | _ => cases prose

theorem Setting.temporariesOf_declaration (s : Setting) (v : Node) (assigned : Option String)
    (depth : Nat) : temporariesOf (s.declaration v assigned depth) = [] := by
  unfold declaration
  split
  · cases s.declaredValue v assigned <;> rfl
  · rfl

/-- A pass goes on without taking a temporary. -/
structure Keeps (d d' : Draft) : Prop where
  temporaries : d'.names.temporaries = d.names.temporaries
  log : ∃ es, d'.log.toList = d.log.toList ++ es ∧ temporariesOf es = []

/-- An act takes one temporary or none. -/
theorem Act.fresh_or_keeps (h : Act s d d') :
    (∃ base, base ≠ "" ∧ d' = ((freshName base).run d).2) ∨ Keeps d d' := by
  cases h with
  | @fresh base hb => exact .inl ⟨base, hb, rfl⟩
  | prose hp => exact .inr ⟨rfl, _, d.log_logged _, hp.temporariesOf_eq⟩
  | declare assigned =>
    exact .inr ⟨rfl, _, s.log_declared _ _ _, s.temporariesOf_declaration _ _ _⟩
  | record port expression => exact .inr ⟨rfl, _, log_record _ port expression d, rfl⟩
  | _ => exact .inr ⟨rfl, _, d.log_logged [_], rfl⟩

/-- What is known of the temporaries that have been taken. -/
structure Supplied (d : Draft) : Prop where
  known (x : String) : x ∈ d.names.temporaries ↔ x ∈ temporariesOf d.log.toList
  once : (temporariesOf d.log.toList).Nodup
  named : "" ∉ temporariesOf d.log.toList

theorem Supplied.keeps (hd : Supplied d) (h : Keeps d d') : Supplied d' := by
  obtain ⟨ht, es, he, hn⟩ := h
  have same : temporariesOf d'.log.toList = temporariesOf d.log.toList := by
    rw [he, temporariesOf_append, hn, List.append_nil]
  refine ⟨fun x => ?_, same ▸ hd.once, same ▸ hd.named⟩
  rw [ht, same]
  exact hd.known x

theorem Supplied.fresh (hd : Supplied d) {base : String} (hb : base ≠ "") :
    Supplied ((freshName base).run d).2 := by
  have new : (d.names.unique base).1 ∉ d.names.temporaries := by
    have free := d.names.isTaken_unique base
    simp only [Names.isTaken, Bool.or_eq_false_iff, List.contains_eq_mem,
      decide_eq_false_iff_not] at free
    exact free.2
  have more : temporariesOf ((freshName base).run d).2.log.toList =
      temporariesOf d.log.toList ++ [(d.names.unique base).1] := by
    rw [log_freshName, temporariesOf_append]
    rfl
  refine ⟨fun x => ?known, ?once, ?named⟩
  case known =>
    rw [more, List.mem_append, ← hd.known, List.mem_singleton]
    change x ∈ (d.names.unique base).1 :: d.names.temporaries ↔ _
    rw [List.mem_cons, or_comm]
  case once =>
    rw [more]
    refine List.Nodup.append hd.once (List.nodup_singleton _) ?_
    rw [List.disjoint_singleton, ← hd.known]
    exact new
  case named =>
    rw [more, List.mem_append, List.mem_singleton, not_or]
    exact ⟨hd.named, (d.names.unique_ne_empty hb).symm⟩

theorem Supplied.act (hd : Supplied d) (h : Act s d d') : Supplied d' := by
  obtain ⟨base, hb, rfl⟩ | keeps := h.fresh_or_keeps
  · exact hd.fresh hb
  · exact hd.keeps keeps

/-! ### Whole passes -/

theorem supplied_start (g : Generator) (graph : Graph) : Supplied (g.start graph) where
  known _ := Iff.rfl
  once := List.nodup_nil
  named := List.not_mem_nil

theorem supplied_draft (options : Options) (registry : Registry) (graph : Graph) :
    Supplied ((withRegistry options registry).draft graph) :=
  holds_of_acts (acts_draft options registry graph) (supplied_start _ graph)
    fun _ _ h hd => hd.act h

/-- No variable of the graph has the name of a temporary, a variable without name included. -/
theorem Supplied.disjoint (hd : Supplied d) (ha : Apart s d) :
    List.Disjoint (temporariesOf d.log.toList)
      ((s.graph.nodesOfKind Kind.var.name).map s.variableName) := by
  intro x ht hx
  have nonempty : x ≠ "" := by
    rintro rfl
    exact hd.named ht
  have named : x ∈ s.variableNames := List.mem_filter.mpr ⟨hx, by simpa using nonempty⟩
  exact ha.temporaries x ((hd.known x).mpr ht) named

/-- The temporaries of a pass never collide: they are all different from each other, and from the
names of all variables of the graph, whether these are declared before, later or never. -/
theorem temporaries_never_collide (options : Options) (registry : Registry) (graph : Graph) :
    let log := ((withRegistry options registry).draft graph).log.toList
    let s := (withRegistry options registry).setting graph
    (temporariesOf log).Nodup ∧
      List.Disjoint (temporariesOf log) ((graph.nodesOfKind Kind.var.name).map s.variableName) := by
  intro log s
  have supplied : Supplied ((withRegistry options registry).draft graph) :=
    supplied_draft options registry graph
  exact ⟨supplied.once, supplied.disjoint (orderly_draft options registry graph).apart⟩

end ScriptGraph.Source
