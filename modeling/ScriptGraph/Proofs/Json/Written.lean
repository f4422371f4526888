import Mathlib.Data.List.Forall2
import ScriptGraph.Proofs.Json.Fits
import ScriptGraph.Proofs.Json.Numeral
import ScriptGraph.Proofs.Json.Text

/-! # Reading what was written

Lists and objects are read back from what is written of them, in every style and at every depth, if
their items are.
-/

namespace ScriptGraph.Json

open Reader

/-- The text consists of what stands between the pieces of JSON. -/
def Blank (cs : List Char) : Prop :=
  ∀ c ∈ cs, isSpace c = true

theorem Blank.nil : Blank [] :=
  nofun

theorem Style.blank_newline (style : Style) (depth : Nat) : Blank (style.newline depth) := by
  cases style with
  | compact => exact nofun
  | indented width =>
    intro c hc
    obtain rfl | hc := List.mem_cons.mp hc
    · rfl
    · rw [List.eq_of_mem_replicate hc]
      rfl

namespace Reader

variable {α : Type} {blanks : List Char} {c : Char}

theorem skipSpace_blank (hb : Blank blanks) (hc : isSpace c = false) (cs : List Char) :
    skipSpace (blanks ++ c :: cs) = c :: cs := by
  unfold skipSpace
  rw [List.dropWhile_append_of_pos hb, List.dropWhile_cons, if_neg (by simp [hc])]

theorem Ends.blank (hb : Blank blanks) (hc : prolongs c = false) (cs : List Char) :
    Ends (blanks ++ c :: cs) := by
  cases blanks with
  | nil => exact .cons hc cs
  | cons b blanks =>
    refine .cons ?_ _
    have space := hb b List.mem_cons_self
    unfold isSpace at space
    simp only [Bool.or_eq_true, decide_eq_true_eq] at space
    obtain ((rfl | rfl) | rfl) | rfl := space <;> decide

/-- What separates an item from those before it. -/
def separator (first : Bool) : List Char :=
  if first then [] else [',']

theorem nextItem_item (first : Bool) (hb : Blank blanks) (hc : isSpace c = false ∧ c ≠ ']')
    (cs : List Char) :
    nextItem first (separator first ++ (blanks ++ c :: cs)) = .ok (some (c :: cs)) := by
  cases first with
  | true =>
    change nextItem true (blanks ++ c :: cs) = _
    unfold nextItem
    rw [skipSpace_blank hb hc.1]
    split
    next heq => cases heq
    next heq => exact absurd (List.cons.inj heq).1 hc.2
    next heq => rw [if_pos rfl, heq]
  | false =>
    change nextItem false (',' :: (blanks ++ c :: cs)) = _
    unfold nextItem
    rw [show skipSpace (',' :: (blanks ++ c :: cs)) = ',' :: (blanks ++ c :: cs) from rfl]
    change (if false = true then _ else if ',' = ',' then _ else _) = _
    rw [if_neg Bool.false_ne_true, if_pos rfl, skipSpace_blank hb hc.1]
    split
    next heq => cases heq
    next heq => exact absurd (List.cons.inj heq).1 hc.2
    next => rfl

theorem nextItem_end (first : Bool) (hb : Blank blanks) (cs : List Char) :
    nextItem first (blanks ++ ']' :: cs) = .ok none := by
  unfold nextItem
  rw [skipSpace_blank hb rfl]
  rfl

theorem endList_blank (hb : Blank blanks) (cs : List Char) :
    endList (blanks ++ ']' :: cs) = .ok cs := by
  unfold endList
  rw [skipSpace_blank hb rfl]
  rfl

theorem nextKey_key (first : Bool) (hb : Blank blanks) (cs : List Char) :
    nextKey first (separator first ++ (blanks ++ '"' :: cs)) = .ok (some cs) := by
  cases first with
  | true =>
    change nextKey true (blanks ++ '"' :: cs) = _
    unfold nextKey
    rw [skipSpace_blank hb rfl]
    rfl
  | false =>
    change nextKey false (',' :: (blanks ++ '"' :: cs)) = _
    unfold nextKey
    rw [show skipSpace (',' :: (blanks ++ '"' :: cs)) = ',' :: (blanks ++ '"' :: cs) from rfl]
    change (if false = true then _ else if ',' = ',' then _ else _) = _
    rw [if_neg Bool.false_ne_true, if_pos rfl, skipSpace_blank hb rfl]
    rfl

theorem nextKey_end (first : Bool) (hb : Blank blanks) (cs : List Char) :
    nextKey first (blanks ++ '}' :: cs) = .ok none := by
  unfold nextKey
  rw [skipSpace_blank hb rfl]
  rfl

theorem endObject_blank (hb : Blank blanks) (cs : List Char) :
    endObject (blanks ++ '}' :: cs) = .ok cs := by
  unfold endObject
  rw [skipSpace_blank hb rfl]
  rfl

theorem colon_blank (style : Style) :
    ∃ blanks, Blank blanks ∧ ∀ cs, colon (style.colon ++ cs) = .ok (blanks ++ cs) := by
  cases style with
  | compact => exact ⟨[], .nil, fun _ => rfl⟩
  | indented width => exact ⟨[' '], by rintro _ (_ | ⟨_, ⟨⟩⟩); rfl, fun _ => rfl⟩

end Reader

/-- A reader finds a result in what is written of it, with blanks in front of it and anything behind
it that does not prolong it. -/
structure Reads {α : Type} (read : List Char → Except Failure (α × List Char)) (r : Rendering)
    (a : α) : Prop where
  begins (style : Style) (depth : Nat) :
    ∃ c cs, r style depth = c :: cs ∧ isSpace c = false ∧ c ≠ ']'
  ok (style : Style) (depth : Nat) {blanks more : List Char} : Blank blanks → Ends more →
    read (blanks ++ (r style depth ++ more)) = .ok (a, more)

/-- A whole text is read back from what is written of it. -/
theorem Reads.run {α : Type} {read : List Char → Except Failure (α × List Char)} {r : Rendering}
    {a : α} (h : Reads read r a) (style : Style) : Reader.run read (r.toString style) = .ok a := by
  have whole := h.ok style 0 .nil .nil
  rw [List.nil_append, List.append_nil] at whole
  unfold Reader.run Rendering.toString
  rw [String.toList_ofList, whole]
  rfl

namespace Rendering

/-- Pieces of JSON one after the other. -/
def series (style : Style) (depth : Nat) : (first : Bool) → List Rendering → List Char
  | _, [] => []
  | first, r :: rs =>
    separator first ++ (style.newline depth ++ (r style depth ++ series style depth false rs))

theorem series_eq_rest (style : Style) (depth : Nat) (rs : List Rendering) :
    series style depth false rs = rest style depth rs := by
  induction rs with
  | nil => rfl
  | cons r rs ih => simp [series, rest, separator, ih]

/-- What is written in brackets begins with the first of them. -/
theorem enclose_begins {left : Char} (hl : isSpace left = false ∧ left ≠ ']') (right : Char)
    (rs : List Rendering) (style : Style) (depth : Nat) :
    ∃ c cs, enclose left right rs style depth = c :: cs ∧ isSpace c = false ∧ c ≠ ']' := by
  cases rs with
  | nil => exact ⟨left, _, rfl, hl⟩
  | cons r rs => exact ⟨left, _, rfl, hl⟩

theorem array_begins (rs : List Rendering) (style : Style) (depth : Nat) :
    ∃ c cs, array rs style depth = c :: cs ∧ isSpace c = false ∧ c ≠ ']' :=
  enclose_begins (by decide) ']' rs style depth

theorem object_begins (rs : List (String × Rendering)) (style : Style) (depth : Nat) :
    ∃ c cs, object rs style depth = c :: cs ∧ isSpace c = false ∧ c ≠ ']' :=
  enclose_begins (by decide) '}' _ style depth

theorem string_begins (s : String) (style : Style) (depth : Nat) :
    ∃ c cs, Rendering.string s style depth = c :: cs ∧ isSpace c = false ∧ c ≠ ']' :=
  ⟨'"', _, rfl, by decide⟩

theorem bool_begins (b : Bool) (style : Style) (depth : Nat) :
    ∃ c cs, Rendering.bool b style depth = c :: cs ∧ isSpace c = false ∧ c ≠ ']' := by
  cases b with
  | true => exact ⟨'t', ['r', 'u', 'e'], rfl, by decide⟩
  | false => exact ⟨'f', ['a', 'l', 's', 'e'], rfl, by decide⟩

/-- What is written between brackets. -/
theorem exists_enclose_append_eq (left right : Char) (rs : List Rendering) (style : Style)
    (depth : Nat) (more : List Char) :
    ∃ blanks, Blank blanks ∧ enclose left right rs style depth ++ more =
      left :: (series style (depth + 1) true rs ++ (blanks ++ right :: more)) := by
  cases rs with
  | nil => exact ⟨[], .nil, rfl⟩
  | cons r rs =>
    refine ⟨style.newline depth, style.blank_newline depth, ?_⟩
    simp [enclose, series, separator, series_eq_rest]

theorem length_le_series (style : Style) (depth : Nat) {rs : List Rendering}
    (h : ∀ r ∈ rs, r style depth ≠ []) (first : Bool) :
    rs.length ≤ (series style depth first rs).length := by
  induction rs generalizing first with
  | nil => exact Nat.zero_le _
  | cons r rs ih =>
    obtain ⟨hr, hrs⟩ := List.forall_mem_cons.mp h
    have := List.length_pos_iff.mpr hr
    have := ih hrs false
    simp only [series, List.length_append, List.length_cons]
    omega

theorem ends_series (style : Style) (depth : Nat) (rs : List Rendering) {blanks : List Char}
    (hb : Blank blanks) {c : Char} (hc : prolongs c = false) (cs : List Char) :
    Ends (series style depth false rs ++ (blanks ++ c :: cs)) := by
  cases rs with
  | nil => exact .blank hb hc cs
  | cons r rs => exact .cons (by decide) _

theorem member_append (key : String) (r : Rendering) (style : Style) (depth : Nat)
    (more : List Char) : member key r style depth ++ more =
      '"' :: (key.toList.flatMap escape ++ '"' :: (style.colon ++ (r style depth ++ more))) := by
  simp [member, quoteChars]

theorem members_ne_nil (rs : List (String × Rendering)) (style : Style) (depth : Nat) :
    ∀ r ∈ rs.map fun r => member r.1 r.2, r style depth ≠ [] :=
  List.forall_mem_map.mpr fun _ _ => nofun

end Rendering

section

variable {α : Type} {read : List Char → Except Failure (α × List Char)}
  {rs : List Rendering} {as : List α} {blanks : List Char}

/-- The items of a list are read one after the other, up to the bracket that closes it. -/
theorem items_series (h : List.Forall₂ (Reads read) rs as) (style : Style) (depth : Nat)
    (first : Bool) {steps : Nat} (hs : rs.length < steps) (reversed : List α)
    (hb : Blank blanks) (more : List Char) :
    items read steps first reversed
        (Rendering.series style depth first rs ++ (blanks ++ ']' :: more)) =
      .ok (reversed.reverse ++ as, blanks ++ ']' :: more) := by
  induction h generalizing first steps reversed with
  | nil =>
    obtain ⟨steps, rfl⟩ := Nat.exists_eq_add_of_lt hs
    rw [items, Rendering.series, List.nil_append, nextItem_end first hb]
    rw [List.append_nil]
    rfl
  | @cons r a rs as hr _ ih =>
    obtain ⟨steps, rfl⟩ := Nat.exists_eq_add_of_lt hs
    have ends := Rendering.ends_series style depth rs hb (c := ']') (by decide) more
    have found := hr.ok style depth .nil ends
    obtain ⟨c, cs, he, hc⟩ := hr.begins style depth
    have next := nextItem_item first (style.blank_newline depth) hc
      (cs ++ (Rendering.series style depth false rs ++ (blanks ++ ']' :: more)))
    rw [List.nil_append, he, List.cons_append] at found
    rw [items]
    simp only [Rendering.series, List.append_assoc, he, List.cons_append]
    rw [next, ok_bind]
    dsimp only
    rw [found, ok_bind]
    dsimp only
    rw [ih false (by rw [List.length_cons]; omega) (a :: reversed)]
    simp

theorem Reads.ne_nil {r : Rendering} {a : α} (h : Reads read r a) (style : Style) (depth : Nat) :
    r style depth ≠ [] := by
  obtain ⟨c, cs, he, -⟩ := h.begins style depth
  rw [he]
  exact List.cons_ne_nil c cs

theorem reads_series_ne_nil (h : List.Forall₂ (Reads read) rs as) (style : Style) (depth : Nat) :
    ∀ r ∈ rs, r style depth ≠ [] := by
  induction h with
  | nil => exact List.forall_mem_nil _
  | cons hr _ ih => exact List.forall_mem_cons.mpr ⟨hr.ne_nil style depth, ih⟩

theorem items_enclosed (h : List.Forall₂ (Reads read) rs as) (style : Style) (depth : Nat)
    (more : List Char) : ∃ cs blanks, Blank blanks ∧
      Rendering.array rs style depth ++ more = '[' :: cs ∧
      items read (cs.length + 1) true [] cs = .ok (as, blanks ++ ']' :: more) := by
  obtain ⟨blanks, hb, he⟩ := Rendering.exists_enclose_append_eq '[' ']' rs style depth more
  have long := Rendering.length_le_series _ _ (reads_series_ne_nil h style (depth + 1)) true
  refine ⟨_, blanks, hb, he, ?_⟩
  exact items_series h style (depth + 1) true (by rw [List.length_append]; omega) [] hb more

/-- A member of an object is read back if its value is. -/
def ReadsMember (read : List Char → Except Failure (α × List Char)) (r : String × Rendering)
    (m : String × α) : Prop :=
  r.1 = m.1 ∧ Reads read r.2 m.2

/-- The members of an object are read one after the other, up to the brace that closes it. -/
theorem members_series {rs : List (String × Rendering)} {ms : List (String × α)}
    (h : List.Forall₂ (ReadsMember read) rs ms) (style : Style) (depth : Nat)
    (first : Bool) {steps : Nat} (hs : rs.length < steps) (reversed : List (String × α))
    (hb : Blank blanks) (more : List Char) :
    members read steps first reversed
        (Rendering.series style depth first (rs.map fun r => .member r.1 r.2) ++
          (blanks ++ '}' :: more)) =
      .ok (reversed.reverse ++ ms, blanks ++ '}' :: more) := by
  induction h generalizing first steps reversed with
  | nil =>
    obtain ⟨steps, rfl⟩ := Nat.exists_eq_add_of_lt hs
    rw [members, List.map_nil, Rendering.series, List.nil_append, nextKey_end first hb]
    rw [List.append_nil]
    rfl
  | @cons r m rs ms hr _ ih =>
    obtain ⟨steps, rfl⟩ := Nat.exists_eq_add_of_lt hs
    obtain ⟨key, value⟩ := r
    obtain ⟨_, v⟩ := m
    obtain ⟨rfl, hr⟩ := hr
    have ends := Rendering.ends_series style depth (rs.map fun r => .member r.1 r.2) hb (c := '}')
      (by decide) more
    obtain ⟨gap, hgap, colon_eq⟩ := colon_blank style
    rw [members, List.map_cons, Rendering.series]
    simp only [List.append_assoc]
    rw [Rendering.member_append, nextKey_key first (style.blank_newline depth), ok_bind]
    dsimp only
    rw [string_quoted, ok_bind]
    dsimp only
    rw [colon_eq, ok_bind, hr.ok style depth hgap ends, ok_bind]
    dsimp only
    rw [ih false (by rw [List.length_cons]; omega)]
    simp

theorem members_enclosed {rs : List (String × Rendering)} {ms : List (String × α)}
    (h : List.Forall₂ (ReadsMember read) rs ms) (style : Style) (depth : Nat) (more : List Char) :
    ∃ cs blanks, Blank blanks ∧ Rendering.object rs style depth ++ more = '{' :: cs ∧
      members read (cs.length + 1) true [] cs = .ok (ms, blanks ++ '}' :: more) := by
  obtain ⟨blanks, hb, he⟩ := Rendering.exists_enclose_append_eq '{' '}'
    (rs.map fun r => .member r.1 r.2) style depth more
  have long := Rendering.length_le_series style (depth + 1) (Rendering.members_ne_nil rs _ _) true
  rw [List.length_map] at long
  refine ⟨_, blanks, hb, he, ?_⟩
  exact members_series h style (depth + 1) true (by rw [List.length_append]; omega) [] hb more

end

end ScriptGraph.Json
