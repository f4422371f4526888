import Mathlib.Data.String.Basic
import ScriptGraph.Proofs.Json.Equality
import ScriptGraph.Script.Value

/-! # Comparing values

Values of any two shapes can be compared, but not all of them lie to each other in some way. The
operators agree on which do, and none tells another story of two values than their order turned
round does.
-/

namespace ScriptGraph.Script

open Json (Value)

/-! ### Relations -/

namespace Relation

/-- The relation as it is seen from the other side. -/
def swap : Relation → Relation
  | .less => .greater
  | .greater => .less
  | .equal => .equal
  | .unordered => .unordered

/-- The relation of two doubles that lie to each other in a way. -/
def ofOrder? : Option Ordering → Relation
  | some .lt => .less
  | some .eq => .equal
  | some .gt => .greater
  | none => .unordered

@[simp] theorem swap_swap (r : Relation) : r.swap.swap = r := by cases r <;> rfl

@[simp] theorem swap_eq_less {r : Relation} : r.swap = .less ↔ r = .greater := by
  cases r <;> decide

@[simp] theorem swap_eq_equal {r : Relation} : r.swap = .equal ↔ r = .equal := by
  cases r <;> decide

theorem ofOrder?_swap (o : Option Ordering) :
    ofOrder? (o.map Ordering.swap) = (ofOrder? o).swap := by
  cases o with
  | none => rfl
  | some o => cases o <;> rfl

end Relation

theorem relationOfFloats_eq (x y : Float) :
    relationOfFloats x y = .ofOrder? (Decimal.order? x y) := by
  unfold relationOfFloats
  simp only [Decimal.lt_iff, Decimal.beq_iff, Decimal.order?_swap x y]
  cases Decimal.order? x y with
  | none => rfl
  | some o => cases o <;> rfl

theorem relationOfFloats_swap (x y : Float) :
    relationOfFloats y x = (relationOfFloats x y).swap := by
  rw [relationOfFloats_eq, relationOfFloats_eq, Decimal.order?_swap x y, Relation.ofOrder?_swap]

theorem relationOfStrings_swap (s t : String) :
    relationOfStrings t s = (relationOfStrings s t).swap := by
  unfold relationOfStrings
  obtain h | rfl | h := lt_trichotomy s t
  · rw [if_pos h, if_neg h.not_gt, if_neg h.ne']
    rfl
  · rw [if_neg (lt_irrefl s), if_pos rfl]
    rfl
  · rw [if_pos h, if_neg h.not_gt, if_neg h.ne']
    rfl

/-- Two values lie to each other in a way: as texts if both are, and otherwise as the numbers that
they stand for. -/
inductive Lie : Value → Value → Relation → Prop where
  | texts (s t : String) : Lie (.string s) (.string t) (relationOfStrings s t)
  | numbers {a b : Value} {x y : Float} : (∀ s t, a = .string s → b ≠ .string t) →
      toNumber? a = some x → toNumber? b = some y → Lie a b (relationOfFloats x y)

section

variable {operator : String} {a b : Value}

theorem Lie.swap {r : Relation} (h : Lie a b r) : Lie b a r.swap := by
  cases h with
  | texts s t =>
    rw [← relationOfStrings_swap]
    exact .texts t s
  | numbers mixed hx hy =>
    rw [← relationOfFloats_swap]
    exact .numbers (fun t s ht hs => mixed s t hs ht) hy hx

theorem requireNumber_eq_ok_iff {x : Float} :
    requireNumber a operator = .ok x ↔ toNumber? a = some x := by
  unfold requireNumber
  cases toNumber? a <;> simp

/-- The operator only names itself in the fault. -/
theorem relation_eq_ok_iff (operator : String) {r : Relation} :
    relation operator a b = .ok r ↔ Lie a b r := by
  unfold relation
  constructor
  · intro h
    split at h
    next s t =>
      obtain rfl := Except.ok.inj h
      exact .texts s t
    next mixed =>
      cases hx : requireNumber a operator with
      | error fault => rw [hx] at h; cases h
      | ok x =>
        cases hy : requireNumber b operator with
        | error fault => rw [hx, hy] at h; cases h
        | ok y =>
          rw [hx, hy] at h
          obtain rfl := Except.ok.inj h
          exact .numbers mixed (requireNumber_eq_ok_iff.mp hx) (requireNumber_eq_ok_iff.mp hy)
  · rintro (⟨s, t⟩ | ⟨mixed, hx, hy⟩)
    · rfl
    · split
      next s t => exact absurd rfl (mixed s t rfl)
      next =>
        rw [requireNumber_eq_ok_iff.mpr hx, requireNumber_eq_ok_iff.mpr hy]
        rfl

end

/-! ### Equality -/

/-- Equality of structure if a value is a list or an object, and else that of the numbers. -/
def equalsConverted (a b : Value) : Bool :=
  if isContainer a || isContainer b then a == b
  else match toNumber? a, toNumber? b with
    | some x, some y => x == y
    | _, _ => false

theorem equalsConverted_comm (a b : Value) : equalsConverted b a = equalsConverted a b := by
  unfold equalsConverted
  rw [Bool.or_comm]
  split
  · exact Value.beq_comm a b
  · cases toNumber? a with
    | none => cases toNumber? b <;> rfl
    | some x =>
      cases toNumber? b with
      | none => rfl
      | some y => exact Decimal.beq_comm x y

theorem looseEquals_eq {a b : Value} (ha : a ≠ .null) (hb : b ≠ .null)
    (mixed : ∀ s t, a = .string s → b ≠ .string t) : looseEquals a b = equalsConverted a b := by
  unfold looseEquals
  split
  · exact absurd rfl ha
  · exact absurd rfl ha
  · exact absurd rfl hb
  · exact absurd rfl (mixed _ _ rfl)
  · rfl

theorem looseEquals_self (a : Value) : looseEquals a a = true := by
  cases a with
  | null => rfl
  | bool b => cases b <;> exact Decimal.beq_self (by decide)
  | number n => exact Decimal.beq_self n.isNaN_toFloat
  | string s => exact decide_eq_true rfl
  | array items => exact Value.beqItems_self items
  | object members => exact Value.beqMembers_self members

theorem looseEquals_comm (a b : Value) : looseEquals b a = looseEquals a b := by
  by_cases ha : a = .null
  · subst ha
    cases b <;> rfl
  by_cases hb : b = .null
  · subst hb
    cases a <;> rfl
  by_cases texts : ∃ s t, a = .string s ∧ b = .string t
  · obtain ⟨s, t, rfl, rfl⟩ := texts
    exact decide_eq_decide.mpr eq_comm
  rw [looseEquals_eq ha hb fun s t hs ht => texts ⟨s, t, hs, ht⟩,
    looseEquals_eq hb ha fun t s ht hs => texts ⟨s, t, hs, ht⟩]
  exact equalsConverted_comm a b

theorem strictEquals_self (a : Value) : strictEquals a a = true := by
  cases a with
  | number n => exact Decimal.beq_self n.isNaN_toFloat
  | null | bool | string | array | object => exact Value.beq_self _

theorem strictEquals_comm (a b : Value) : strictEquals b a = strictEquals a b := by
  cases a with
  | number m =>
    cases b with
    | number n => exact Decimal.beq_comm _ _
    | null | bool | string | array | object => rfl
  | null | bool | string | array | object => cases b <;> exact Value.beq_comm _ _

theorem looseEquals_of_strictEquals {a b : Value} (h : strictEquals a b = true) :
    looseEquals a b = true := by
  cases a with
  | null =>
    cases b with
    | null => rfl
    | bool | number | string | array | object => cases h
  | bool p =>
    cases b with
    | bool q =>
      have same : (p == q) = true := h
      obtain rfl := eq_of_beq same
      exact looseEquals_self _
    | null | number | string | array | object => cases h
  | number m =>
    cases b with
    | number n => exact h
    | null | bool | string | array | object => cases h
  | string s =>
    cases b with
    | string t =>
      have same : (s == t) = true := h
      exact decide_eq_true (eq_of_beq same)
    | null | bool | number | array | object => cases h
  | array vs =>
    cases b with
    | array ws => exact h
    | null | bool | number | string | object => cases h
  | object ms =>
    cases b with
    | object ns => exact h
    | null | bool | number | string | array => cases h

/-! ### Operators -/

/-- The operators that test for equality. -/
def equalities : List String :=
  ["==", "==="]

/-- The operators that test for an order. -/
def orderings : List String :=
  ["<", ">", "<=", ">="]

/-- The operator does not say anything of the two values. -/
def Fails (operator : String) (a b : Value) : Prop :=
  ∃ fault, compare operator a b = .error fault

/-- What the operators say of two values fits together. -/
structure Coherent (a b : Value) : Prop where
  reflexive {operator : String} (h : operator ∈ equalities) : compare operator a a = .ok true
  symmetric {operator : String} (h : operator ∈ equalities) :
    ∃ answer, compare operator a b = .ok answer ∧ compare operator b a = .ok answer
  loosened : compare "===" a b = .ok true → compare "==" a b = .ok true
  negated : compare "!=" a b = Bool.not <$> compare "==" a b
  strictlyNegated : compare "!==" a b = Bool.not <$> compare "===" a b
  /-- The operators that test for an order fail together, whichever value comes first. -/
  failAlike {operator operator' : String} (h : operator ∈ orderings) (h' : operator' ∈ orderings) :
    Fails operator a b ↔ Fails operator' a b
  failSwapped {operator : String} (h : operator ∈ orderings) :
    Fails operator a b ↔ Fails operator b a
  lessIff {answer : Bool} : compare "<" a b = .ok answer ↔ compare ">" b a = .ok answer
  atMostIff {answer : Bool} : compare "<=" a b = .ok answer ↔ compare ">=" b a = .ok answer
  weakened : compare "<" a b = .ok true → compare "<=" a b = .ok true
  exclusive : compare "<" a b = .ok true → compare ">" a b = .ok false

section

variable {operator : String} {a b : Value}

/-- An operator that tests for an order tests the relation of the two values. -/
theorem exists_test (h : operator ∈ orderings) :
    ∃ test : Relation → Bool, ∀ a b, compare operator a b = test <$> relation operator a b := by
  simp only [orderings, List.mem_cons, List.not_mem_nil, or_false] at h
  obtain rfl | rfl | rfl | rfl := h <;> exact ⟨_, fun _ _ => rfl⟩

theorem fails_iff (h : operator ∈ orderings) : Fails operator a b ↔ ¬ ∃ r, Lie a b r := by
  obtain ⟨test, he⟩ := exists_test h
  unfold Fails
  rw [he]
  simp only [← relation_eq_ok_iff operator]
  cases relation operator a b <;> simp

theorem compare_eq_ok_iff {test : Relation → Bool} {answer : Bool}
    (h : compare operator a b = test <$> relation operator a b) :
    compare operator a b = .ok answer ↔ ∃ r, Lie a b r ∧ test r = answer := by
  rw [h]
  simp only [← relation_eq_ok_iff operator]
  cases relation operator a b <;> simp

end

theorem lie_comm {a b : Value} {p : Relation → Prop} :
    (∃ r, Lie a b r ∧ p r) ↔ ∃ r, Lie b a r ∧ p r.swap :=
  ⟨fun ⟨r, h, hp⟩ => ⟨r.swap, h.swap, r.swap_swap.symm ▸ hp⟩,
    fun ⟨r, h, hp⟩ => ⟨r.swap, h.swap, hp⟩⟩

/-- What the operators say of any two values fits together. -/
theorem compare_coherent (a b : Value) : Coherent a b where
  reflexive {operator} h := by
    simp only [equalities, List.mem_cons, List.not_mem_nil, or_false] at h
    obtain rfl | rfl := h
    · exact congrArg Except.ok (looseEquals_self a)
    · exact congrArg Except.ok (strictEquals_self a)
  symmetric {operator} h := by
    simp only [equalities, List.mem_cons, List.not_mem_nil, or_false] at h
    obtain rfl | rfl := h
    · exact ⟨_, rfl, congrArg Except.ok (looseEquals_comm a b)⟩
    · exact ⟨_, rfl, congrArg Except.ok (strictEquals_comm a b)⟩
  loosened h := congrArg Except.ok (looseEquals_of_strictEquals (Except.ok.inj h))
  negated := rfl
  strictlyNegated := rfl
  failAlike h h' := by rw [fails_iff h, fails_iff h']
  failSwapped h := by
    rw [fails_iff h, fails_iff h]
    exact not_congr ⟨fun ⟨r, lie⟩ => ⟨_, lie.swap⟩, fun ⟨r, lie⟩ => ⟨_, lie.swap⟩⟩
  lessIff {answer} := by
    rw [compare_eq_ok_iff rfl, compare_eq_ok_iff rfl, lie_comm]
    simp
  atMostIff {answer} := by
    rw [compare_eq_ok_iff rfl, compare_eq_ok_iff rfl, lie_comm]
    simp
  weakened h := by
    obtain ⟨r, lie, less⟩ := (compare_eq_ok_iff rfl).mp h
    exact (compare_eq_ok_iff rfl).mpr ⟨r, lie, by simp_all⟩
  exclusive h := by
    obtain ⟨r, lie, less⟩ := (compare_eq_ok_iff rfl).mp h
    exact (compare_eq_ok_iff rfl).mpr ⟨r, lie, by simp_all⟩

end ScriptGraph.Script
