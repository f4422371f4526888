import Mathlib.Tactic.SplitIfs
import ScriptGraph.Json.Printer
import ScriptGraph.Json.Reader

/-! # Quoted texts

A text is read back from its quoted form, whatever its characters and whatever follows it.
-/

namespace ScriptGraph.Json.Reader

/-- A digit of base sixteen is read as what it stands for. -/
theorem hexValue?_hexDigit : ∀ n < 16, Text.hexValue? (hexDigit n) = some n := by
  decide

/-- Control characters are read back from their numbers. -/
theorem unicodeEscape_control {c : Char} (h : c.toNat < 32) (cs : List Char) :
    unicodeEscape ('0' :: '0' :: hexDigit (c.toNat / 16) :: hexDigit (c.toNat % 16) :: cs) =
      .ok (c, cs) := by
  have high := hexValue?_hexDigit (c.toNat / 16) (by omega)
  have low := hexValue?_hexDigit (c.toNat % 16) (by omega)
  have zero : Text.hexValue? '0' = some 0 := by decide
  have number : ((0 * 16 + 0) * 16 + c.toNat / 16) * 16 + c.toNat % 16 = c.toNat := by omega
  unfold unicodeEscape hexFour
  simp only [zero, high, low, number]
  change (if 0xDC00 ≤ c.toNat ∧ c.toNat ≤ 0xDFFF then _ else
    if c.toNat < 0xD800 ∨ 0xDBFF < c.toNat then Except.ok (Char.ofNat c.toNat, cs) else _) = _
  rw [if_neg (by omega), if_pos (by omega), Char.ofNat_toNat]

/-- What stands for a character inside of quotes is read as that character. -/
theorem stringTail_escape (c : Char) (steps : Nat) (reversed cs : List Char) :
    stringTail (steps + 1) reversed (escape c ++ cs) = stringTail steps (c :: reversed) cs := by
  unfold escape
  split_ifs with quote backslash backspace tab newline feed return' control
  all_goals subst_vars
  · rfl
  · rfl
  · rfl
  · rfl
  · rfl
  · rfl
  · rfl
  · simp only [List.cons_append, List.nil_append]
    rw [stringTail.eq_def]
    simp only [Char.reduceEq, if_false, if_true, escaped, unicodeEscape_control control]
  · rw [List.singleton_append, stringTail]
    rw [if_neg quote, if_neg backslash, if_neg control]

theorem stringTail_quoted (cs : List Char) {steps : Nat} (hs : cs.length < steps)
    (reversed more : List Char) :
    stringTail steps reversed (cs.flatMap escape ++ '"' :: more) =
      .ok (String.ofList (reversed.reverse ++ cs), more) := by
  induction cs generalizing steps reversed with
  | nil =>
    obtain ⟨steps, rfl⟩ := Nat.exists_eq_add_of_lt hs
    simp [stringTail]
  | cons c cs ih =>
    obtain ⟨steps, rfl⟩ := Nat.exists_eq_add_of_lt hs
    rw [List.flatMap_cons, List.append_assoc, stringTail_escape, ih (by simp; omega)]
    simp

theorem length_le_flatMap_escape (cs : List Char) : cs.length ≤ (cs.flatMap escape).length := by
  induction cs with
  | nil => simp
  | cons c cs ih =>
    have : 0 < (escape c).length := by
      unfold escape
      split_ifs <;> simp
    rw [List.flatMap_cons, List.length_append, List.length_cons]
    omega

/-- A text is read back from what follows its opening quote. -/
theorem string_quoted (s : String) (more : List Char) :
    string (s.toList.flatMap escape ++ '"' :: more) = .ok (s, more) := by
  have long := length_le_flatMap_escape s.toList
  unfold string
  rw [stringTail_quoted s.toList (by rw [List.length_append, List.length_cons]; omega)]
  simp

end ScriptGraph.Json.Reader
