import Mathlib.Data.List.Induction
import ScriptGraph.Table

/-! # Replaying a log

A log tells which entries were made in a table, so the table can be had from the log alone, at its
end and at any moment before.
-/

namespace ScriptGraph.Table

variable {κ α ε : Type} [DecidableEq κ]

/-- The table after an event that may make an entry. -/
def heard (put? : ε → Option (κ × α)) (t : Table κ α) (e : ε) : Table κ α :=
  match put? e with
  | some (key, value) => t.insert key value
  | none => t

/-- The table that events make, out of an empty one. -/
def replay (put? : ε → Option (κ × α)) (es : List ε) : Table κ α :=
  es.foldl (heard put?) {}

variable {put? : ε → Option (κ × α)} {es es' : List ε} {key : κ}

theorem contains_insert (t : Table κ α) (other : κ) (value : α) :
    (t.insert key value).contains other ↔ other = key ∨ t.contains other := by
  unfold contains
  rw [get?_insert]
  split <;> simp [*]

theorem replay_concat (es : List ε) (e : ε) :
    replay put? (es ++ [e]) = heard put? (replay put? es) e := by
  simp [replay]

theorem replay_append_of_none (h : ∀ e ∈ es', put? e = none) :
    replay put? (es ++ es') = replay put? es := by
  induction es' using List.reverseRecOn with
  | nil => rw [List.append_nil]
  | append_singleton es' e ih =>
    rw [← List.append_assoc, replay_concat, heard, h e (by simp)]
    exact ih fun e he => h e (List.mem_append_left _ he)

/-- What was entered last counts. -/
theorem get?_replay_append (es es' : List ε) (key : κ) :
    (replay put? (es ++ es')).get? key =
      ((replay put? es').get? key).or ((replay put? es).get? key) := by
  induction es' using List.reverseRecOn with
  | nil =>
    rw [List.append_nil]
    rfl
  | append_singleton es' e ih =>
    rw [← List.append_assoc, replay_concat, replay_concat]
    unfold heard
    split
    next other value _ =>
      rw [get?_insert, get?_insert]
      split
      next => rfl
      next => exact ih
    next => exact ih

/-- Entries are not taken back. -/
theorem contains_replay_append (h : (replay put? es).contains key) (es' : List ε) :
    (replay put? (es ++ es')).contains key := by
  unfold contains at h ⊢
  rw [get?_replay_append, Option.isSome_or, h, Bool.or_true]

end ScriptGraph.Table
