import ScriptGraph.Decimal.Layout

/-! # Characters of written decimals

A class of characters that has all digits in it, and the point, has every character of a decimal in
positional notation.
-/

namespace ScriptGraph.Decimal

/-- Every character of the text is of a class. -/
def Consists (P : Char → Prop) (s : String) : Prop :=
  ∀ c ∈ s.toList, P c

namespace Consists

variable {P : Char → Prop} {s s' : String}

theorem append (h : Consists P s) (h' : Consists P s') : Consists P (s ++ s') := by
  intro c hc
  rw [String.toList_append] at hc
  exact (List.mem_append.mp hc).elim (h c) (h' c)

theorem ofList {cs : List Char} (h : ∀ c ∈ cs, P c) : Consists P (String.ofList cs) := by
  intro c hc
  rw [String.toList_ofList] at hc
  exact h c hc

theorem digitText (h : ∀ c : Char, c.isDigit → P c) (n : Nat) : Consists P (digitText n) := by
  intro c hc
  unfold Decimal.digitText at hc
  rw [Nat.toString_eq_repr, Nat.toList_repr] at hc
  exact h c (Nat.isDigit_of_mem_toDigits (by decide) (by decide) hc)

theorem zeros (h : P '0') (n : Nat) : Consists P (zeros n) :=
  .ofList fun _ hc => List.eq_of_mem_replicate hc ▸ h

theorem pointAfter (hp : P '.') (h : Consists P s) (n : Nat) : Consists P (pointAfter n s) := by
  have front : Consists P (String.ofList (s.toList.take n)) :=
    .ofList fun c hc => h c (List.mem_of_mem_take hc)
  have back : Consists P (String.ofList (s.toList.drop n)) :=
    .ofList fun c hc => h c (List.mem_of_mem_drop hc)
  have point : Consists P "." := .ofList fun _ hc => List.mem_singleton.mp hc ▸ hp
  exact (front.append point).append back

/-- Positional notation has digits and points. -/
theorem plain (hd : ∀ c : Char, c.isDigit → P c) (hp : P '.') (d : Digits) :
    Consists P d.plain := by
  have digits := digitText hd
  have zeros := zeros (hd '0' rfl)
  unfold Digits.plain
  dsimp only
  split
  · exact (digits _).append (zeros _)
  split
  · exact (digits _).pointAfter hp _
  · have lead : Consists P "0." :=
      .ofList (List.forall_mem_cons.mpr ⟨hd '0' rfl, List.forall_mem_singleton.mpr hp⟩)
    exact (lead.append (zeros _)).append (digits _)

end Consists

end ScriptGraph.Decimal
