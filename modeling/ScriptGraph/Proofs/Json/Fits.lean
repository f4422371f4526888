import Mathlib.Data.String.Basic
import Mathlib.Tactic.SplitIfs
import ScriptGraph.Json.Record

/-! # Values that readers give

Whatever is read respects the limit on nesting, and the members of every object in it are listed in
the order of their keys.
-/

namespace ScriptGraph.Json

namespace Members

/-- The members stand in the order of their keys, each key once. -/
def Sorted (members : Members) : Prop :=
  members.Pairwise fun m m' => m.1 < m'.1

variable {members : Members} {key : String} {value : Value}

theorem mem_insert {m : String × Value} (h : m ∈ insert key value members) :
    m = (key, value) ∨ m ∈ members := by
  induction members with
  | nil => exact .inl (List.mem_singleton.mp h)
  | cons other members ih =>
    obtain ⟨k, v⟩ := other
    unfold insert at h
    split at h
    next => exact List.mem_cons.mp h
    next =>
      split at h
      next => exact (List.mem_cons.mp h).imp_right (List.mem_cons_of_mem _)
      next =>
        obtain rfl | h := List.mem_cons.mp h
        · exact .inr List.mem_cons_self
        · exact (ih h).imp_right (List.mem_cons_of_mem _)

theorem Sorted.insert (h : Sorted members) (key : String) (value : Value) :
    Sorted (insert key value members) := by
  induction members with
  | nil => exact List.pairwise_singleton ..
  | cons other members ih =>
    obtain ⟨k, v⟩ := other
    obtain ⟨least, rest⟩ := List.pairwise_cons.mp h
    unfold Members.insert
    split
    next hk =>
      refine List.pairwise_cons.mpr ⟨?_, h⟩
      exact List.forall_mem_cons.mpr ⟨hk, fun m hm => hk.trans (least m hm)⟩
    next hk =>
      split
      next he => exact List.pairwise_cons.mpr ⟨he ▸ least, rest⟩
      next he =>
        refine List.pairwise_cons.mpr ⟨fun m hm => ?_, ih rest⟩
        obtain rfl | hm := mem_insert hm
        · exact lt_of_le_of_ne (not_lt.mp hk) (Ne.symm he)
        · exact least m hm

theorem sorted_ofList (members : List (String × Value)) : Sorted (ofList members) := by
  unfold ofList
  suffices ∀ collected : Members, Sorted collected →
      Sorted (members.foldl (fun collected m => insert m.1 m.2 collected) collected) from
    this [] .nil
  induction members with
  | nil => exact fun _ h => h
  | cons m members ih => exact fun _ h => ih _ (h.insert m.1 m.2)

theorem mem_of_mem_ofList {members : List (String × Value)} {m : String × Value}
    (h : m ∈ ofList members) : m ∈ members := by
  unfold ofList at h
  suffices ∀ collected : Members,
      m ∈ members.foldl (fun collected m => insert m.1 m.2 collected) collected →
        m ∈ collected ∨ m ∈ members from (this [] h).resolve_left List.not_mem_nil
  clear h
  induction members with
  | nil => exact fun _ h => .inl h
  | cons other members ih =>
    intro collected h
    obtain h | h := ih _ h
    · exact (mem_insert h).elim (fun he => .inr (he ▸ List.mem_cons_self)) .inl
    · exact .inr (List.mem_cons_of_mem _ h)

/-- A member whose key comes after all others is listed last. -/
theorem insert_eq_append (h : ∀ m ∈ members, m.1 < key) (value : Value) :
    insert key value members = members ++ [(key, value)] := by
  induction members with
  | nil => rfl
  | cons m members ih =>
    obtain ⟨last, rest⟩ := List.forall_mem_cons.mp h
    unfold insert
    rw [if_neg last.not_gt, if_neg last.ne', ih rest]
    rfl

/-- Members that stand in order are collected as they are. -/
theorem Sorted.ofList_eq (h : Sorted members) : ofList members = members := by
  unfold ofList
  suffices ∀ collected : Members, Sorted (collected ++ members) →
      members.foldl (fun collected m => Members.insert m.1 m.2 collected) collected =
        collected ++ members from this [] h
  clear h
  induction members with
  | nil => simp
  | cons m members ih =>
    intro collected h
    have before : ∀ other ∈ collected, other.1 < m.1 :=
      fun other ho => (List.pairwise_append.mp h).2.2 other ho m List.mem_cons_self
    rw [List.foldl_cons, insert_eq_append before, ih _ (by simpa using h)]
    simp

end Members

/-- At most so many lists and objects are nested in the value, and the members of every object in it
stand in order. -/
inductive Value.Fits : (depth : Nat) → Value → Prop where
  | null (depth : Nat) : Fits depth .null
  | bool (depth : Nat) (b : Bool) : Fits depth (.bool b)
  | number (depth : Nat) (n : Number) : Fits depth (.number n)
  | string (depth : Nat) (s : String) : Fits depth (.string s)
  | array {depth : Nat} {items : List Value} : (∀ v ∈ items, Fits depth v) →
      Fits (depth + 1) (.array items)
  | object {depth : Nat} {members : Members} : members.Sorted →
      (∀ m ∈ members, Fits depth m.2) → Fits (depth + 1) (.object members)

theorem Value.Fits.of_object {depth : Nat} {members : Members}
    (h : (Value.object members).Fits (depth + 1)) :
    members.Sorted ∧ ∀ m ∈ members, m.2.Fits depth := by
  cases h with
  | object sorted fits => exact ⟨sorted, fits⟩

namespace Reader

variable {α β : Type}

theorem ok_bind {ε : Type} (a : α) (f : α → Except ε β) : (Except.ok a >>= f) = f a :=
  rfl

theorem exists_of_bind_eq_ok {ε : Type} {x : Except ε α} {f : α → Except ε β} {b : β}
    (h : x >>= f = .ok b) : ∃ a, x = .ok a ∧ f a = .ok b := by
  cases x with
  | error e => cases h
  | ok a => exact ⟨a, rfl, h⟩

theorem bind_ne_ok {ε : Type} {x : Except ε α} {f : α → Except ε β} {b : β}
    (h : ∀ a, f a ≠ .ok b) : (x >>= f) ≠ .ok b := by
  intro he
  obtain ⟨a, -, he⟩ := exists_of_bind_eq_ok he
  exact h a he

/-- Whatever is read has a property. -/
def Gives (read : List Char → Except Failure (α × List Char)) (P : α → Prop) : Prop :=
  ∀ cs a rest, read cs = .ok (a, rest) → P a

theorem gives_items {item : List Char → Except Failure (α × List Char)} {P : α → Prop}
    (h : Gives item P) (steps : Nat) (first : Bool) {reversed : List α}
    (hr : ∀ a ∈ reversed, P a) :
    Gives (items item steps first reversed) fun as => ∀ a ∈ as, P a := by
  intro cs as rest he
  induction steps generalizing first reversed cs with
  | zero => cases he
  | succ steps ih =>
    rw [items] at he
    obtain ⟨next, -, he⟩ := exists_of_bind_eq_ok he
    cases next with
    | none =>
      cases he
      simpa using hr
    | some cs =>
      obtain ⟨⟨a, rest⟩, ha, he⟩ := exists_of_bind_eq_ok he
      exact ih false (List.forall_mem_cons.mpr ⟨h _ _ _ ha, hr⟩) _ he

theorem gives_members {value : List Char → Except Failure (α × List Char)} {P : α → Prop}
    (h : Gives value P) (steps : Nat) (first : Bool) {reversed : List (String × α)}
    (hr : ∀ m ∈ reversed, P m.2) :
    Gives (members value steps first reversed) fun ms => ∀ m ∈ ms, P m.2 := by
  intro cs ms rest he
  induction steps generalizing first reversed cs with
  | zero => cases he
  | succ steps ih =>
    rw [members] at he
    obtain ⟨next, -, he⟩ := exists_of_bind_eq_ok he
    cases next with
    | none =>
      cases he
      simpa using hr
    | some cs =>
      obtain ⟨⟨key, tail⟩, -, he⟩ := exists_of_bind_eq_ok he
      obtain ⟨behind, -, he⟩ := exists_of_bind_eq_ok he
      obtain ⟨⟨v, rest⟩, hv, he⟩ := exists_of_bind_eq_ok he
      exact ih false (List.forall_mem_cons.mpr ⟨h _ _ _ hv, hr⟩) _ he

/-- Members that fit are an object that fits. -/
theorem fits_ofList {depth : Nat} {members : List (String × Value)}
    (h : ∀ m ∈ members, m.2.Fits depth) :
    (Value.object (Members.ofList members)).Fits (depth + 1) :=
  .object (Members.sorted_ofList members) fun m hm => h m (Members.mem_of_mem_ofList hm)

theorem gives_number (negative : Bool) (depth : Nat) :
    Gives (number negative) (Value.Fits depth) := by
  intro cs v rest h
  unfold number at h
  obtain ⟨⟨n, tail⟩, -, h⟩ := exists_of_bind_eq_ok h
  dsimp only at h
  split at h
  next => cases h; exact .number ..
  next => cases h

/-- The value that a text is read as which begins with the character, and what has been read inside
of it. -/
inductive ReadAs (depth : Nat) (c : Char) (cs rest : List Char) : Value → Prop where
  | null : c = 'n' → literal ['u', 'l', 'l'] cs = .ok rest → ReadAs depth c cs rest .null
  | yes : c = 't' → literal ['r', 'u', 'e'] cs = .ok rest → ReadAs depth c cs rest (.bool true)
  | no : c = 'f' → literal ['a', 'l', 's', 'e'] cs = .ok rest →
      ReadAs depth c cs rest (.bool false)
  | negative {v : Value} : c = '-' → number true cs = .ok (v, rest) → ReadAs depth c cs rest v
  | positive {v : Value} : c.isDigit → number false (c :: cs) = .ok (v, rest) →
      ReadAs depth c cs rest v
  | string {s : String} : c = '"' → Reader.string cs = .ok (s, rest) →
      ReadAs depth c cs rest (.string s)
  | array {inner : Nat} {vs : List Value} {tail : List Char} : c = '[' → depth = inner + 1 →
      items (value inner) (cs.length + 1) true [] cs = .ok (vs, tail) →
      ReadAs depth c cs rest (.array vs)
  | object {inner : Nat} {ms : List (String × Value)} {tail : List Char} : c = '{' →
      depth = inner + 1 → members (value inner) (cs.length + 1) true [] cs = .ok (ms, tail) →
      ReadAs depth c cs rest (.object (Members.ofList ms))

theorem exists_readAs_of_value {depth : Nat} {cs rest : List Char} {v : Value}
    (h : value depth cs = .ok (v, rest)) :
    ∃ c tail, skipSpace cs = c :: tail ∧ ReadAs depth c tail rest v := by
  unfold value at h
  split at h
  next => cases h
  next c tail hs =>
    refine ⟨c, tail, hs, ?_⟩
    split_ifs at h with null true' false' minus digit quote bracket brace
    · obtain ⟨_, hl, h⟩ := exists_of_bind_eq_ok h
      cases h
      exact .null null hl
    · obtain ⟨_, hl, h⟩ := exists_of_bind_eq_ok h
      cases h
      exact .yes true' hl
    · obtain ⟨_, hl, h⟩ := exists_of_bind_eq_ok h
      cases h
      exact .no false' hl
    · exact .negative minus h
    · exact .positive digit h
    · obtain ⟨⟨s, _⟩, hs, h⟩ := exists_of_bind_eq_ok h
      cases h
      exact .string quote hs
    · cases depth with
      | zero => cases h
      | succ depth =>
        obtain ⟨⟨vs, _⟩, hvs, h⟩ := exists_of_bind_eq_ok h
        obtain ⟨_, -, h⟩ := exists_of_bind_eq_ok h
        cases h
        exact .array bracket rfl hvs
    · cases depth with
      | zero => cases h
      | succ depth =>
        obtain ⟨⟨ms, _⟩, hms, h⟩ := exists_of_bind_eq_ok h
        obtain ⟨_, -, h⟩ := exists_of_bind_eq_ok h
        cases h
        exact .object brace rfl hms
    · cases h

/-- Whatever is read fits the limit on nesting. -/
theorem gives_value (depth : Nat) : Gives (value depth) (Value.Fits depth) := by
  induction depth using Nat.strongRecOn with
  | ind depth ih =>
    intro cs v rest h
    obtain ⟨c, tail, -, read⟩ := exists_readAs_of_value h
    cases read with
    | null => exact .null depth
    | yes => exact .bool depth true
    | no => exact .bool depth false
    | negative _ hn => exact gives_number true depth _ _ _ hn
    | positive _ hn => exact gives_number false depth _ _ _ hn
    | @string s => exact .string depth s
    | @array inner _ _ _ hd hvs =>
      subst hd
      have inside := ih inner inner.lt_succ_self
      exact .array (gives_items inside _ true (List.forall_mem_nil _) _ _ _ hvs)
    | @object inner _ _ _ hd hms =>
      subst hd
      have inside := ih inner inner.lt_succ_self
      exact fits_ofList (gives_members inside _ true (List.forall_mem_nil _) _ _ _ hms)

end Reader

end ScriptGraph.Json
