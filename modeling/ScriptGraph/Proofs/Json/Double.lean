import ScriptGraph.Proofs.Decimal.Characters
import ScriptGraph.Proofs.Json.Fits
import ScriptGraph.Proofs.Json.Numeral

/-! # Doubles that are read back

Not every double is read from the text that is written of it. If it is, then also in front of
anything that does not prolong the number.
-/

namespace ScriptGraph.Json

open Reader

/-- The text that is written of the double stands for it. -/
def Legible (x : Float) : Prop :=
  ∃ finite, parse (Decimal.scientific x) = .ok (.number (.float x finite))

instance (x : Float) : Decidable (Legible x) :=
  match h : parse (Decimal.scientific x) with
  | .ok (.number (.float y finite)) =>
    if e : y = x then
      isTrue ⟨e ▸ finite, by subst e; exact h⟩
    else isFalse fun ⟨_, he⟩ => e (by rw [h] at he; cases he; rfl)
  | .ok .null | .ok (.bool _) | .ok (.number (.int ..)) | .ok (.string _) | .ok (.array _)
  | .ok (.object _) | .error _ => isFalse fun ⟨_, he⟩ => by rw [h] at he; cases he

/-! ### Texts without blanks -/

/-- No blank occurs in the text. -/
def Unbroken (s : String) : Prop :=
  ∀ c ∈ s.toList, isSpace c = false

instance (s : String) : Decidable (Unbroken s) :=
  decidable_of_iff (s.toList.all fun c => !isSpace c) (by simp [Unbroken])

namespace Unbroken

variable {s s' : String}

theorem append (h : Unbroken s) (h' : Unbroken s') : Unbroken (s ++ s') :=
  Decimal.Consists.append h h'

theorem digitText (n : Nat) : Unbroken (Decimal.digitText n) :=
  Decimal.Consists.digitText (fun _ => isSpace_of_isDigit) n

theorem zeros (n : Nat) : Unbroken (Decimal.zeros n) :=
  Decimal.Consists.zeros (P := (isSpace · = false)) rfl n

theorem pointAfter (h : Unbroken s) (n : Nat) : Unbroken (Decimal.pointAfter n s) :=
  Decimal.Consists.pointAfter (P := (isSpace · = false)) rfl h n

theorem digits_scientific (d : Decimal.Digits) : Unbroken d.scientific := by
  unfold Decimal.Digits.scientific
  dsimp only
  split
  next => exact ((digitText _).append (zeros _)).append (by decide)
  next =>
    split
    next => exact (digitText _).pointAfter _
    next =>
      split
      next => exact (append (by decide) (zeros _)).append (digitText _)
      next =>
        have mantissa (digits : String) (h : Unbroken digits) :
            Unbroken (if digits.length = 1 then digits else Decimal.pointAfter 1 digits) := by
          split
          next => exact h
          next => exact h.pointAfter 1
        have sign (negative : Prop) [Decidable negative] :
            Unbroken (if negative then "-" else "+") := by
          split <;> decide
        exact (((mantissa _ (digitText _)).append (by decide)).append (sign _)).append (digitText _)

theorem scientific (x : Float) : Unbroken (Decimal.scientific x) := by
  have unsigned : Unbroken (if x == 0 then "0.0" else (Decimal.ofFloat x .even).scientific) := by
    split
    next => decide
    next => exact digits_scientific _
  unfold Decimal.scientific Decimal.signed
  split
  next => exact append (by decide) unsigned
  next => exact unsigned

end Unbroken

/-! ### Reading the text of a double -/

theorem numeral_of_number {negative : Bool} {cs rest : List Char} {x : Float}
    {finite : x.isFinite = true}
    (h : number negative cs = .ok (.number (.float x finite), rest)) :
    numeral negative cs = .ok (.float x, rest) := by
  unfold number at h
  obtain ⟨⟨n, tail⟩, hn, h⟩ := exists_of_bind_eq_ok h
  dsimp only at h
  split at h
  next n' he =>
    cases h
    unfold Numeral.number? Number.ofInt? Number.ofFloat? at he
    cases n with
    | int n =>
      dsimp only at he
      split_ifs at he
      cases he
    | float y =>
      dsimp only at he
      split_ifs at he
      cases he
      exact hn
  next => cases h

/-- A double is read from a number, with a sign or without. -/
theorem numeral_of_value {depth : Nat} {c : Char} {cs rest : List Char} {x : Float}
    {finite : x.isFinite = true} (hc : isSpace c = false)
    (h : value depth (c :: cs) = .ok (.number (.float x finite), rest)) :
    c = '-' ∧ numeral true cs = .ok (.float x, rest) ∨
      c.isDigit ∧ numeral false (c :: cs) = .ok (.float x, rest) := by
  obtain ⟨c', tail, hs, read⟩ := exists_readAs_of_value h
  rw [show skipSpace (c :: cs) = c :: cs by simp [skipSpace, hc]] at hs
  obtain ⟨rfl, rfl⟩ := List.cons.inj hs
  cases read with
  | negative minus hn => exact .inl ⟨minus, numeral_of_number hn⟩
  | positive digit hn => exact .inr ⟨digit, numeral_of_number hn⟩

/-- What a reader gives for a whole text, it gives at the front of the text, and leaves blanks. -/
theorem exists_of_run_eq_ok {α : Type} {read : List Char → Except Failure (α × List Char)}
    {text : String} {a : α} (h : run read text = .ok a) :
    ∃ rest, read text.toList = .ok (a, rest) ∧ skipSpace rest = [] := by
  unfold run at h
  split at h
  next he =>
    cases h
    obtain ⟨⟨_, rest⟩, hr, he⟩ := exists_of_bind_eq_ok he
    dsimp only at he
    split at he
    next hs =>
      cases he
      exact ⟨rest, hr, hs⟩
    next => cases he
  next => cases h

/-- Nothing is left of the text of a legible double. -/
theorem Legible.isNumeral {x : Float} (h : Legible x) :
    IsNumeral (.float x) (Decimal.scientific x).toList := by
  obtain ⟨finite, h⟩ := h
  obtain ⟨rest, hv, blank⟩ := exists_of_run_eq_ok h
  have unbroken := Unbroken.scientific x
  unfold Unbroken at unbroken
  cases hs : (Decimal.scientific x).toList with
  | nil =>
    rw [hs] at hv
    cases hv
  | cons c cs =>
    rw [hs] at hv unbroken
    -- What is left is blank, but no blank occurs in the text.
    have nothing (h : rest <:+ c :: cs) : rest = [] := by
      cases rest with
      | nil => rfl
      | cons d rest =>
        have := unbroken d (h.mem List.mem_cons_self)
        simp [skipSpace, this] at blank
    obtain ⟨rfl, read⟩ | ⟨digit, read⟩ := numeral_of_value (unbroken c List.mem_cons_self) hv
    · obtain rfl := nothing ((suffix_and_le_of_numeral read).1.trans (List.suffix_cons _ _))
      exact .negative read
    · obtain rfl := nothing (suffix_and_le_of_numeral read).1
      exact .positive digit read

end ScriptGraph.Json
