import Mathlib.Data.List.TakeWhile
import ScriptGraph.Text.Blank

/-! # The ends of texts

What is left of a text from whose ends the characters of a class are taken.
-/

namespace ScriptGraph.Text

variable {p : Char → Bool} {cs cs' : List Char} {c : Char}

theorem isBlank_eq_false (h : 33 ≤ c.toNat ∧ c.toNat ≤ 126) : isBlank c = false := by
  simp only [isBlank, inRanges, blankRanges, List.any_cons, List.any_nil, Bool.or_eq_false_iff,
    Bool.and_eq_false_iff, decide_eq_false_iff_not, and_true]
  omega

/-- The characters go on being taken from the first part once nothing is left of the second. -/
theorem dropEndWhile_append (p : Char → Bool) (cs cs' : List Char) :
    dropEndWhile p (cs ++ cs') =
      if dropEndWhile p cs' = [] then dropEndWhile p cs else cs ++ dropEndWhile p cs' := by
  unfold dropEndWhile
  rw [List.reverse_append, List.dropWhile_append]
  simp only [List.isEmpty_iff, List.reverse_eq_nil_iff]
  split
  · rfl
  · rw [List.reverse_append, List.reverse_reverse]

theorem dropEndWhile_concat_of_neg (h : p c = false) (cs : List Char) :
    dropEndWhile p (cs ++ [c]) = cs ++ [c] := by
  rw [dropEndWhile_append, dropEndWhile, List.reverse_singleton,
    List.dropWhile_cons_of_neg (Bool.not_eq_true _ ▸ h)]
  exact if_neg (List.cons_ne_nil _ _)

theorem dropEndWhile_concat_of_pos (h : p c = true) (cs : List Char) :
    dropEndWhile p (cs ++ [c]) = dropEndWhile p cs := by
  rw [dropEndWhile_append, dropEndWhile, List.reverse_singleton, List.dropWhile_cons_of_pos h]
  exact if_pos rfl

/-- Nothing is taken from before a character that is not of the class. -/
theorem dropEndWhile_append_of_neg (h : p c = false) (cs cs' : List Char) :
    dropEndWhile p (cs ++ c :: cs') = cs ++ c :: dropEndWhile p cs' := by
  rw [List.append_cons, dropEndWhile_append, dropEndWhile_concat_of_neg h]
  split
  next he => rw [he]
  next => exact (List.append_cons ..).symm

theorem dropEndWhile_cons_of_pos (h : p c = true) (cs : List Char) :
    dropEndWhile p (c :: cs) = if dropEndWhile p cs = [] then [] else c :: dropEndWhile p cs := by
  have all : dropEndWhile p [c] = [] := dropEndWhile_concat_of_pos h []
  rw [← List.singleton_append, dropEndWhile_append, all, List.singleton_append]

theorem dropWhile_append_of_neg (h : p c = false) (cs cs' : List Char) :
    (cs ++ c :: cs').dropWhile p = cs.dropWhile p ++ c :: cs' := by
  rw [List.dropWhile_append, List.dropWhile_cons_of_neg (Bool.not_eq_true _ ▸ h)]
  split
  next he => rw [List.isEmpty_iff.mp he, List.nil_append]
  next => rfl

theorem getLast?_dropEndWhile (h : c ∈ (dropEndWhile p cs).getLast?) : p c = false := by
  have := List.head?_dropWhile_not p cs.reverse
  rw [dropEndWhile, List.getLast?_reverse] at h
  rwa [h] at this

/-- What is taken from the end is of the class. -/
theorem exists_eq_dropEndWhile_append (p : Char → Bool) (cs : List Char) :
    ∃ taken, cs = dropEndWhile p cs ++ taken ∧ ∀ c ∈ taken, p c := by
  refine ⟨(cs.reverse.takeWhile p).reverse, ?_, fun c hc =>
    List.mem_takeWhile_imp (List.mem_reverse.mp hc)⟩
  rw [dropEndWhile, ← List.reverse_append, List.takeWhile_append_dropWhile, List.reverse_reverse]

theorem dropEndWhile_isPrefix (p : Char → Bool) (cs : List Char) : dropEndWhile p cs <+: cs :=
  have ⟨taken, parts, _⟩ := exists_eq_dropEndWhile_append p cs
  ⟨taken, parts.symm⟩

/-- A text without blanks stays as it is. -/
theorem trim_ofList (h : ∀ c ∈ cs, isBlank c = false) :
    trim (String.ofList cs) = String.ofList cs := by
  have front : cs.dropWhile isBlank = cs := by
    cases cs with
    | nil => rfl
    | cons c cs => exact List.dropWhile_cons_of_neg (Bool.not_eq_true _ ▸ h c List.mem_cons_self)
  have back : dropEndWhile isBlank cs = cs := by
    rcases List.eq_nil_or_concat cs with rfl | ⟨cs, c, rfl⟩
    · rfl
    · rw [List.concat_eq_append] at h ⊢
      exact dropEndWhile_concat_of_neg (h c (List.mem_concat_self ..)) cs
  rw [trim, String.toList_ofList, front, back]

end ScriptGraph.Text
