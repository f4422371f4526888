import ScriptGraph.Json.Value
import ScriptGraph.Proofs.Decimal.Comparison

/-! # Equality of JSON values

Doubles are compared as numbers, so that zero equals its negation. Still every value equals itself,
because none of its numbers lacks a value.
-/

namespace ScriptGraph.Json

namespace Number

theorem isNaN_floatOfInt (n : Int) : (floatOfInt n).isNaN = false := by
  unfold floatOfInt
  split
  · exact Decimal.isNaN_toFloat _
  · exact Decimal.isNaN_neg (Decimal.isNaN_toFloat _)

theorem isNaN_toFloat : (n : Number) → n.toFloat.isNaN = false
  | .int n _ => isNaN_floatOfInt n
  | .float _ finite => Decimal.isNaN_of_isFinite finite

theorem beq_self : (n : Number) → (n == n) = true
  | .int n _ => beq_self_eq_true n
  | .float _ finite => Decimal.beq_self (Decimal.isNaN_of_isFinite finite)

theorem beq_comm (m n : Number) : (n == m) = (m == n) := by
  cases m with
  | int m =>
    cases n with
    | int n => exact BEq.comm (a := n)
    | float => rfl
  | float x =>
    cases n with
    | int => rfl
    | float y => exact Decimal.beq_comm x y

end Number

namespace Value

mutual

theorem beq_self : (v : Value) → beq v v = true
  | .null => rfl
  | .bool b => beq_self_eq_true b
  | .number n => n.beq_self
  | .string s => beq_self_eq_true s
  | .array items => beqItems_self items
  | .object members => beqMembers_self members

theorem beqItems_self : (items : List Value) → beqItems items items = true
  | [] => rfl
  | v :: items => by rw [beqItems, beq_self v, beqItems_self items]; rfl

theorem beqMembers_self : (members : Members) → beqMembers members members = true
  | [] => rfl
  | (key, v) :: members => by
    rw [beqMembers, beq_self v, beqMembers_self members, beq_self_eq_true key]
    rfl

end

mutual

theorem beq_comm : (v w : Value) → beq w v = beq v w
  | .null, w => by cases w <;> rfl
  | .bool a, w => by
    cases w with
    | bool b => exact BEq.comm (a := b)
    | null | number | string | array | object => rfl
  | .number m, w => by
    cases w with
    | number n => exact m.beq_comm n
    | null | bool | string | array | object => rfl
  | .string s, w => by
    cases w with
    | string t => exact BEq.comm (a := t)
    | null | bool | number | array | object => rfl
  | .array vs, w => by
    cases w with
    | array ws => exact beqItems_comm vs ws
    | null | bool | number | string | object => rfl
  | .object ms, w => by
    cases w with
    | object ns => exact beqMembers_comm ms ns
    | null | bool | number | string | array => rfl

theorem beqItems_comm : (vs ws : List Value) → beqItems ws vs = beqItems vs ws
  | [], ws => by cases ws <;> rfl
  | _ :: _, [] => rfl
  | v :: vs, w :: ws => by rw [beqItems, beqItems, beq_comm v w, beqItems_comm vs ws]

theorem beqMembers_comm : (ms ns : Members) → beqMembers ns ms = beqMembers ms ns
  | [], ns => by cases ns <;> rfl
  | _ :: _, [] => rfl
  | (k, v) :: ms, (l, w) :: ns => by
    rw [beqMembers, beqMembers, beq_comm v w, beqMembers_comm ms ns, BEq.comm (a := l)]

end

end Value

end ScriptGraph.Json
