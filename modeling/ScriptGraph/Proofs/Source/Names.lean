import Mathlib.Data.List.Nodup
import Mathlib.Data.List.Perm.Subperm
import ScriptGraph.Source.Names

/-! # Fresh names

The numbered names of a base are all different, so that no more of them can be taken than there are
names in use. The search for a free name therefore ends at the first free one.
-/

namespace ScriptGraph.Source.Names

variable {n : Names} {base name : String}

theorem candidate_injective (base : String) : Function.Injective (candidate base) := by
  have digits {i j : Nat} (h : toString i = toString j) : i = j := by
    have : Nat.toDigits 10 i = Nat.toDigits 10 j := by
      simpa [Nat.toString_eq_repr, Nat.toList_repr] using congrArg String.toList h
    simpa using congrArg (fun digits => Nat.ofDigitChars 10 digits 0) this
  have numbered (i : Nat) : toString (i + 1) ≠ "" := by
    intro h
    simpa [Nat.toString_eq_repr, Nat.toList_repr] using congrArg String.toList h
  intro i j h
  cases i with
  | zero =>
    cases j with
    | zero => rfl
    | succ j => exact absurd (String.append_eq_left_iff.mp h.symm) (numbered j)
  | succ i =>
    cases j with
    | zero => exact absurd (String.append_eq_left_iff.mp h) (numbered i)
    | succ j => exact digits ((String.append_right_inj base).mp h)

/-- The names in use. -/
def taken (n : Names) : List String :=
  n.declared.keys ++ n.reserved ++ n.temporaries

theorem length_taken (n : Names) : n.taken.length = n.size := by
  simp [taken, size, Table.keys, Nat.add_assoc]

theorem isTaken_iff_mem_taken : n.isTaken name ↔ name ∈ n.taken := by
  simp [isTaken, isDeclared, taken, Table.contains_iff_mem_keys, or_assoc]

/-- The search stops at the first free name, or when it has no tries left. -/
theorem firstFree_eq (n : Names) (base : String) (tries counter : Nat) :
    ∃ k ≤ tries, n.firstFree base tries counter = candidate base (counter + k) ∧
      (∀ j < k, n.isTaken (candidate base (counter + j))) ∧
        (k < tries → n.isTaken (candidate base (counter + k)) = false) := by
  induction tries generalizing counter with
  | zero => exact ⟨0, Nat.le_refl 0, rfl, by simp, by simp⟩
  | succ tries ih =>
    cases ht : n.isTaken (candidate base counter) with
    | false => exact ⟨0, by simp, by simp [firstFree, ht], by simp, fun _ => ht⟩
    | true =>
      obtain ⟨k, hk, he, before, free⟩ := ih (counter + 1)
      refine ⟨k + 1, by omega, ?_, fun j hj => ?_, fun h => ?_⟩
      · rw [firstFree, if_pos ht, he, Nat.add_right_comm, Nat.add_assoc]
      · cases j with
        | zero => exact ht
        | succ j =>
          rw [Nat.add_comm j, ← Nat.add_assoc]
          exact before j (by omega)
      · rw [Nat.add_comm k, ← Nat.add_assoc]
        exact free (by omega)

/-- A fresh name is the first candidate that is free. No more candidates come before it than there
are names in use. -/
theorem unique_eq (n : Names) (base : String) :
    ∃ k ≤ n.size, (n.unique base).1 = candidate base k ∧
      (∀ j < k, n.isTaken (candidate base j)) ∧ n.isTaken (candidate base k) = false := by
  obtain ⟨k, hk, he, before, free⟩ := n.firstFree_eq base n.size 0
  simp only [Nat.zero_add] at he before free
  refine ⟨k, hk, he, before, ?_⟩
  rcases Nat.lt_or_eq_of_le hk with hk | rfl
  · exact free hk
  -- All names in use have been passed over, so that the next candidate cannot be one of them.
  · by_contra hk
    have different : ((List.range (n.size + 1)).map (candidate base)).Nodup :=
      (List.nodup_map_iff (candidate_injective base)).mpr List.nodup_range
    have inUse : (List.range (n.size + 1)).map (candidate base) ⊆ n.taken := by
      intro name hname
      obtain ⟨j, hj, rfl⟩ := List.mem_map.mp hname
      rw [List.mem_range, Nat.lt_succ_iff] at hj
      apply isTaken_iff_mem_taken.mp
      rcases Nat.lt_or_eq_of_le hj with hj | rfl
      · exact before j hj
      · simpa using hk
    have := (List.subperm_of_subset different inUse).length_le
    rw [List.length_map, List.length_range, length_taken] at this
    omega

theorem isTaken_unique (n : Names) (base : String) : n.isTaken (n.unique base).1 = false := by
  obtain ⟨k, -, he, -, free⟩ := n.unique_eq base
  rw [he, free]

end ScriptGraph.Source.Names
