import ScriptGraph.Proofs.Source.Names

/-! # The supply of names

Names are reserved, declared and handed out in any order. What is handed out is the first of the
names of a base that has not come up before, and it does not come up again: every name is handed out
once at most.
-/

namespace ScriptGraph.Source.Names

/-- What can be asked of the names of a routine. -/
inductive Call where
  | reserve (name : String)
  | declare (name type : String)
  | unique (base : String)

/-- The names that a call brings along. -/
def Call.named : Call → List String
  | .reserve name => [name]
  | .declare name _ => [name]
  | .unique _ => []

/-- The name that a call hands out, if it does, and what it leaves. -/
def call (n : Names) : Call → Option String × Names
  | .reserve name => (none, n.reserve name)
  | .declare name type => (none, n.declare name type)
  | .unique base => ((n.unique base).1, (n.unique base).2)

/-- What calls leave. -/
def after (n : Names) (calls : List Call) : Names :=
  calls.foldl (fun n c => (n.call c).2) n

/-- The names that calls hand out, in their order. -/
def handedOut (n : Names) : List Call → List String
  | [] => []
  | c :: calls => (n.call c).1.toList ++ (n.call c).2.handedOut calls

/-- A name that has come up in calls, before which no name was in use. -/
inductive InUse (calls : List Call) (name : String) : Prop where
  | reserved : .reserve name ∈ calls → InUse calls name
  | declared {type : String} : .declare name type ∈ calls → InUse calls name
  | handedOut : name ∈ handedOut {} calls → InUse calls name

/-- The search for a free name from a counter on, which no number of tries ends. -/
inductive Search (n : Names) (base : String) : (counter : Nat) → String → Prop where
  | found {counter : Nat} : n.isTaken (candidate base counter) = false →
      Search n base counter (candidate base counter)
  | next {counter : Nat} {name : String} : n.isTaken (candidate base counter) = true →
      Search n base (counter + 1) name → Search n base counter name

variable {n : Names} {c : Call} {calls : List Call} {base name x : String}

theorem Search.of_isTaken {k counter : Nat}
    (before : ∀ j < k, n.isTaken (candidate base (counter + j)))
    (free : n.isTaken (candidate base (counter + k)) = false) :
    n.Search base counter (candidate base (counter + k)) := by
  induction k generalizing counter with
  | zero => exact .found free
  | succ k ih =>
    have shift (j : Nat) : counter + (j + 1) = counter + 1 + j := by omega
    rw [shift] at free ⊢
    refine .next (before 0 k.succ_pos) (ih (fun j hj => ?_) free)
    rw [← shift]
    exact before (j + 1) (Nat.succ_lt_succ hj)

/-! ### One call -/

theorem isTaken_reserve : (n.reserve name).isTaken x ↔ x = name ∨ n.isTaken x := by
  simp only [isTaken, isDeclared, reserve]
  grind

theorem isTaken_declare {type : String} :
    (n.declare name type).isTaken x ↔ x = name ∨ n.isTaken x := by
  simp only [isTaken, isDeclared, declare, Table.contains, Table.get?_insert]
  grind

theorem isTaken_after_unique :
    (n.unique base).2.isTaken x ↔ x = (n.unique base).1 ∨ n.isTaken x := by
  simp only [isTaken, isDeclared, unique]
  grind

/-- A call puts the names in use that it brings along or hands out, and no others. -/
theorem isTaken_call : (n.call c).2.isTaken x ↔
    x ∈ c.named ∨ some x = (n.call c).1 ∨ n.isTaken x := by
  cases c with
  | reserve name => simp [call, Call.named, isTaken_reserve]
  | declare name type => simp [call, Call.named, isTaken_declare]
  | unique base => simp [call, Call.named, isTaken_after_unique]

theorem not_isTaken_unique (n : Names) (base : String) : ¬ n.isTaken (n.unique base).1 := by
  simp [n.isTaken_unique base]

theorem not_isTaken_of_call (h : some x = (n.call c).1) : ¬ n.isTaken x := by
  cases c with
  | unique base => exact Option.some.inj h ▸ n.not_isTaken_unique base
  | _ => cases h

theorem size_call : (n.call c).2.size ≤ n.size + 1 := by
  cases c with
  | declare name type =>
    have := Table.length_insertEntry name type n.declared.entries
    simp only [call, declare, size, Table.insert]
    omega
  | _ => simp only [call, reserve, unique, size, List.length_cons]; omega

/-! ### Calls one after the other -/

theorem isTaken_after : (n.after calls).isTaken x ↔
    (∃ c ∈ calls, x ∈ c.named) ∨ x ∈ n.handedOut calls ∨ n.isTaken x := by
  induction calls generalizing n with
  | nil => simp [after, handedOut]
  | cons c calls ih =>
    change ((n.call c).2.after calls).isTaken x ↔ _
    rw [ih, isTaken_call]
    simp only [handedOut, List.mem_append, Option.mem_toList, List.mem_cons, exists_eq_or_imp]
    grind

theorem size_after : (n.after calls).size ≤ n.size + calls.length := by
  induction calls generalizing n with
  | nil => exact Nat.le_refl _
  | cons c calls ih =>
    have : ((n.call c).2.after calls).size ≤ (n.call c).2.size + calls.length := ih
    have := n.size_call (c := c)
    change ((n.call c).2.after calls).size ≤ _
    rw [List.length_cons]
    omega

/-- What calls hand out has been free before them. -/
theorem not_isTaken_of_mem_handedOut (h : x ∈ n.handedOut calls) : ¬ n.isTaken x := by
  induction calls generalizing n with
  | nil => cases h
  | cons c calls ih =>
    rcases List.mem_append.mp h with h | h
    · exact not_isTaken_of_call (Option.mem_toList.mp h).symm
    · exact fun taken => ih h (isTaken_call.mpr (.inr (.inr taken)))

theorem nodup_handedOut (n : Names) (calls : List Call) : (n.handedOut calls).Nodup := by
  induction calls generalizing n with
  | nil => exact List.nodup_nil
  | cons c calls ih =>
    refine List.nodup_append.mpr ⟨?_, ih _, fun x hx y hy => ?_⟩
    · cases (n.call c).1 <;> simp
    · rintro rfl
      have taken := isTaken_call.mpr (.inr (.inl (Option.mem_toList.mp hx).symm))
      exact not_isTaken_of_mem_handedOut hy taken

/-- What is taken is what has come up. -/
theorem isTaken_after_iff_inUse : (after {} calls).isTaken x ↔ InUse calls x := by
  have unused : ({} : Names).isTaken x = false := rfl
  rw [isTaken_after, unused]
  constructor
  · rintro (⟨c, hc, hx⟩ | hx | hx)
    · cases c with
      | reserve name => exact List.mem_singleton.mp hx ▸ .reserved hc
      | declare name type => exact List.mem_singleton.mp hx ▸ .declared hc
      | unique base => cases hx
    · exact .handedOut hx
    · cases hx
  · rintro (h | h | h)
    · exact .inl ⟨_, h, List.mem_singleton_self x⟩
    · exact .inl ⟨_, h, List.mem_singleton_self x⟩
    · exact .inr (.inl h)

/-- What a call for a name of a base does to names that other calls have left. -/
structure HandsOutLeast (calls : List Call) (base name : String) (n n' : Names) : Prop where
  /-- The search for a free name ends. -/
  ends : n.Search base 0 name
  /-- The candidates before the name have all come up. There are no more of them than calls. -/
  least : ∃ k ≤ calls.length, name = candidate base k ∧ ∀ j < k, InUse calls (candidate base j)
  new : ¬ InUse calls name
  declared (x : String) : n'.typeOf? x = n.typeOf? x
  reserved : n'.reserved = n.reserved
  taken (x : String) : n'.isTaken x ↔ x = name ∨ n.isTaken x
  /-- Whatever is called later, the name stays taken and is not handed out again. -/
  stays (later : List Call) : (n'.after later).isTaken name ∧ name ∉ n'.handedOut later

theorem handsOutLeast_unique (calls : List Call) (base : String) :
    let n := after {} calls
    HandsOutLeast calls base (n.unique base).1 n (n.unique base).2 := by
  intro n
  obtain ⟨k, hk, he, before, free⟩ := n.unique_eq base
  have taken : (n.unique base).2.isTaken (n.unique base).1 := isTaken_after_unique.mpr (.inl rfl)
  constructor
  case ends =>
    have search : n.Search base 0 (candidate base (0 + k)) := .of_isTaken (by simpa) (by simpa)
    rwa [Nat.zero_add, ← he] at search
  case least =>
    have few : n.size ≤ 0 + calls.length := size_after
    exact ⟨k, by omega, he, fun j hj => isTaken_after_iff_inUse.mp (before j hj)⟩
  case new => exact fun h => n.not_isTaken_unique base (isTaken_after_iff_inUse.mpr h)
  case declared => exact fun _ => rfl
  case reserved => rfl
  case taken => exact fun _ => isTaken_after_unique
  case stays =>
    exact fun later => ⟨isTaken_after.mpr (.inr (.inr taken)),
      fun h => not_isTaken_of_mem_handedOut h taken⟩

/-- After whatever calls, a call for a name ends with the least name of its base that has not come
up, and takes it for good. So no calls hand out a name twice. -/
theorem unique_least (calls : List Call) :
    (∀ base, let n := after {} calls
      HandsOutLeast calls base (n.unique base).1 n (n.unique base).2) ∧
      (handedOut {} calls).Nodup :=
  ⟨handsOutLeast_unique calls, nodup_handedOut {} calls⟩

example : handedOut {} [.unique "i1", .reserve "i2", .unique "i", .unique "i",
    .declare "i4" "number", .unique "i", .unique "i1"] = ["i1", "i", "i3", "i5", "i11"] := by
  decide

end ScriptGraph.Source.Names
