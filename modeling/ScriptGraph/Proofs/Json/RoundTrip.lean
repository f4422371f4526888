import ScriptGraph.Proofs.Json.Double
import ScriptGraph.Proofs.Json.Written

/-! # Values that are read back

What is written of a value is read as that value, in every style, if it fits the limit on nesting
and its doubles are read back.
-/

namespace ScriptGraph.Json

open Reader

namespace Value

mutual

/-- The doubles that occur in a value. -/
def floats : Value → List Float
  | .number (.float x _) => [x]
  | .array items => floatsOfItems items
  | .object members => floatsOfMembers members
  | _ => []

def floatsOfItems : List Value → List Float
  | [] => []
  | v :: vs => v.floats ++ floatsOfItems vs

def floatsOfMembers : List (String × Value) → List Float
  | [] => []
  | (_, v) :: ms => v.floats ++ floatsOfMembers ms

end

theorem mem_floats_array {items : List Value} {v : Value} {x : Float} (hv : v ∈ items)
    (hx : x ∈ v.floats) : x ∈ (Value.array items).floats := by
  have all : floatsOfItems items = items.flatMap floats := by
    clear hv
    induction items with
    | nil => rfl
    | cons v vs ih => rw [floatsOfItems, ih, List.flatMap_cons]
  rw [floats, all]
  exact List.mem_flatMap.mpr ⟨v, hv, hx⟩

theorem mem_floats_object {members : Members} {m : String × Value} {x : Float} (hm : m ∈ members)
    (hx : x ∈ m.2.floats) : x ∈ (Value.object members).floats := by
  have all : floatsOfMembers members = members.flatMap fun m => m.2.floats := by
    clear hm
    induction members with
    | nil => rfl
    | cons m ms ih => rw [floatsOfMembers, ih, List.flatMap_cons]
  rw [floats, all]
  exact List.mem_flatMap.mpr ⟨m, hm, hx⟩

theorem renderings_eq (items : List Value) : renderings items = items.map rendering := by
  induction items with
  | nil => rfl
  | cons v vs ih => rw [renderings, ih, List.map_cons]

theorem memberRenderings_eq (members : List (String × Value)) :
    memberRenderings members = members.map fun m => (m.1, m.2.rendering) := by
  induction members with
  | nil => rfl
  | cons m ms ih => rw [memberRenderings, ih, List.map_cons]

end Value

section

variable {depth : Nat} {negative : Bool} {r : Numeral} {n : Number} {cs more : List Char}

theorem number_append (h : numeral negative cs = .ok (r, [])) (hn : r.number? = some n)
    (hm : Ends more) : number negative (cs ++ more) = .ok (.number n, more) := by
  unfold number
  rw [numeral_append hm h, ok_bind]
  dsimp only
  rw [hn]
  rfl

/-- A value that is a number is read from its text. -/
theorem Reads.number {text : String} (h : IsNumeral r text.toList) (hn : r.number? = some n) :
    Reads (value depth) (.raw text) (.number n) where
  begins _ _ := h.begins
  ok style level {blanks more} hb hm := by
    unfold Rendering.raw
    cases hs : text.toList with
    | nil => rw [hs] at h; cases h
    | cons c cs =>
      rw [hs] at h
      cases h with
      | negative read =>
        rw [List.cons_append, value, skipSpace_blank hb rfl]
        exact number_append read hn hm
      | positive digit read =>
        rw [List.cons_append, value, skipSpace_blank hb (isSpace_of_isDigit digit)]
        dsimp only
        rw [if_neg (ne_of_isDigit digit rfl), if_neg (ne_of_isDigit digit rfl),
          if_neg (ne_of_isDigit digit rfl), if_neg (ne_of_isDigit digit rfl), if_pos digit]
        exact number_append read hn hm

theorem Reads.integer {k : Int} (word : IsWord k) :
    Reads (value depth) (.raw (toString k)) (.number (.int k word)) :=
  .number (isNumeral_int word) (by simp [Numeral.number?, Number.ofInt?, word])

theorem Reads.null : Reads (value depth) (.raw "null") .null where
  begins _ _ := ⟨'n', ['u', 'l', 'l'], rfl, by decide⟩
  ok style level {blanks more} hb _ := by
    rw [show Rendering.raw "null" style level ++ more = 'n' :: 'u' :: 'l' :: 'l' :: more from rfl,
      value, skipSpace_blank hb rfl]
    rfl

theorem Reads.bool (b : Bool) : Reads (value depth) (.bool b) (.bool b) where
  begins := Rendering.bool_begins b
  ok style level {blanks more} hb _ := by
    cases b with
    | true =>
      rw [show Rendering.bool true style level ++ more = 't' :: 'r' :: 'u' :: 'e' :: more from rfl,
        value, skipSpace_blank hb rfl]
      rfl
    | false =>
      rw [show Rendering.bool false style level ++ more =
        'f' :: 'a' :: 'l' :: 's' :: 'e' :: more from rfl, value, skipSpace_blank hb rfl]
      rfl

theorem Reads.string (s : String) : Reads (value depth) (.string s) (.string s) where
  begins := Rendering.string_begins s
  ok _ _ {blanks more} hb _ := by
    unfold Rendering.string quoteChars
    rw [List.cons_append, List.cons_append, value, skipSpace_blank hb rfl, List.append_assoc]
    change (Reader.string _ >>= fun read => Except.ok (Value.string read.1, read.2)) = _
    rw [List.singleton_append, string_quoted]
    rfl

theorem Reads.array {rs : List Rendering} {vs : List Value}
    (h : List.Forall₂ (Reads (value depth)) rs vs) :
    Reads (value (depth + 1)) (.array rs) (.array vs) where
  begins := Rendering.array_begins rs
  ok style level {blanks more} hb _ := by
    obtain ⟨cs, inner, hi, he, read⟩ := items_enclosed h style level more
    rw [he, value, skipSpace_blank hb rfl]
    change (items (value depth) _ true [] _ >>= fun read => endList read.2 >>= fun rest =>
      Except.ok (Value.array read.1, rest)) = _
    rw [read]
    change (endList _ >>= fun rest => Except.ok (Value.array vs, rest)) = _
    rw [endList_blank hi]
    rfl

theorem Reads.object {rs : List (String × Rendering)} {ms : Members} (hs : ms.Sorted)
    (h : List.Forall₂ (ReadsMember (value depth)) rs ms) :
    Reads (value (depth + 1)) (.object rs) (.object ms) where
  begins := Rendering.object_begins rs
  ok style level {blanks more} hb _ := by
    obtain ⟨cs, inner, hi, he, read⟩ := members_enclosed h style level more
    rw [he, value, skipSpace_blank hb rfl]
    change (members (value depth) _ true [] _ >>= fun read => endObject read.2 >>= fun rest =>
      Except.ok (Value.object (Members.ofList read.1), rest)) = _
    rw [read]
    change (endObject _ >>= fun rest => Except.ok (Value.object (Members.ofList ms), rest)) = _
    rw [endObject_blank hi, hs.ofList_eq]
    rfl

end

theorem readsMembers {depth : Nat} {members : Members}
    (h : ∀ m ∈ members, Reads (value depth) m.2.rendering m.2) :
    List.Forall₂ (ReadsMember (value depth)) (Value.memberRenderings members) members := by
  rw [Value.memberRenderings_eq]
  exact List.forall₂_map_left_iff.mpr (List.forall₂_same.mpr fun m hm => ⟨rfl, h m hm⟩)

/-- A value that fits the limit on nesting is read back if its doubles are. -/
theorem Value.Fits.reads {depth : Nat} {v : Value} (h : v.Fits depth)
    (floats : ∀ x ∈ v.floats, Legible x) : Reads (value depth) v.rendering v := by
  induction h with
  | null => exact .null
  | bool depth b => exact .bool b
  | number depth n =>
    cases n with
    | int n word => exact .integer word
    | float x finite =>
      have legible : Legible x := floats x (List.mem_singleton_self x)
      exact .number legible.isNumeral (by simp [Numeral.number?, Number.ofFloat?, finite])
  | string depth s => exact .string s
  | array _ ih =>
    unfold Value.rendering
    rw [Value.renderings_eq]
    refine .array (List.forall₂_map_left_iff.mpr (List.forall₂_same.mpr fun v hv => ?_))
    exact ih v hv fun x hx => floats x (Value.mem_floats_array hv hx)
  | object sorted _ ih =>
    refine .object sorted (readsMembers fun m hm => ?_)
    exact ih m hm fun x hx => floats x (Value.mem_floats_object hm hx)

end ScriptGraph.Json
