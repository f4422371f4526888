/-! # Tables

A finite map kept as a list of entries. A key is listed once, with the value that was inserted last.
-/

namespace ScriptGraph

/-- Keys with their values. -/
structure Table (κ α : Type) where
  entries : List (κ × α) := []

namespace Table

variable {κ α : Type} [DecidableEq κ]

/-- Replaces the value of a listed key in place, and appends a new key. -/
def insertEntry (key : κ) (value : α) : List (κ × α) → List (κ × α)
  | [] => [(key, value)]
  | entry :: rest =>
    if entry.1 = key then (key, value) :: rest else entry :: insertEntry key value rest

def insert (t : Table κ α) (key : κ) (value : α) : Table κ α :=
  ⟨insertEntry key value t.entries⟩

def get? (t : Table κ α) (key : κ) : Option α :=
  (t.entries.find? (·.1 = key)).map (·.2)

def contains (t : Table κ α) (key : κ) : Bool :=
  (t.get? key).isSome

def keys (t : Table κ α) : List κ :=
  t.entries.map (·.1)

theorem get?_insert (t : Table κ α) (key other : κ) (value : α) :
    (t.insert key value).get? other = if other = key then some value else t.get? other := by
  obtain ⟨entries⟩ := t
  simp only [insert, get?]
  induction entries with
  | nil => by_cases h : other = key <;> simp [insertEntry, h, eq_comm]
  | cons entry rest ih =>
    by_cases he : entry.1 = key
    · by_cases h : other = key
      · simp [insertEntry, he, h]
      · have hk : ¬ key = other := fun e => h e.symm
        simp [insertEntry, he, h, hk]
    · by_cases ho : entry.1 = other
      · have : ¬ other = key := fun e => he (ho.trans e)
        simp [insertEntry, ho, this]
      · simpa [insertEntry, he, ho] using ih

@[simp] theorem get?_insert_self (t : Table κ α) (key : κ) (value : α) :
    (t.insert key value).get? key = some value := by
  simp [get?_insert]

theorem get?_insert_of_ne (t : Table κ α) {key other : κ} (value : α) (h : other ≠ key) :
    (t.insert key value).get? other = t.get? other := by
  simp [get?_insert, h]

theorem contains_iff_mem_keys {t : Table κ α} {key : κ} : t.contains key ↔ key ∈ t.keys := by
  simp [contains, get?, keys, List.find?_isSome]

theorem length_insertEntry (key : κ) (value : α) (entries : List (κ × α)) :
    (insertEntry key value entries).length ≤ entries.length + 1 := by
  induction entries with
  | nil => exact Nat.le_refl 1
  | cons entry rest ih =>
    unfold insertEntry
    split
    · exact Nat.le_succ _
    · exact Nat.succ_le_succ ih

end Table

end ScriptGraph
