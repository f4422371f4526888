import Mathlib.Data.List.Nodup
import ScriptGraph.Json.Record
import ScriptGraph.Proofs.Json.RoundTrip

/-! # Records that are read back

A record is read back from what is written of it if all its fields are. What a record is known to
hold, whatever it is read from, follows from what is known of its fields.
-/

namespace ScriptGraph.Json

open Reader

variable {α σ : Type} {blanks more : List Char}

/-! ### Written records -/

theorem atValue_blank (hb : Blank blanks) {c : Char} (hc : isSpace c = false) (cs : List Char)
    (read : List Char → Except Failure α) :
    atValue read (blanks ++ c :: cs) = read (c :: cs) := by
  unfold atValue
  rw [skipSpace_blank hb hc]

theorem insideList_blank {read : List Char → Except Failure (α × List Char)} {cs : List Char}
    {a : α} (h : read cs = .ok (a, blanks ++ ']' :: more)) (hb : Blank blanks) :
    insideList read cs = .ok (a, more) := by
  unfold insideList
  rw [h, ok_bind]
  dsimp only
  rw [endList_blank hb]
  rfl

theorem insideObject_blank {read : List Char → Except Failure (α × List Char)} {cs : List Char}
    {a : α} (h : read cs = .ok (a, blanks ++ '}' :: more)) (hb : Blank blanks) :
    insideObject read cs = .ok (a, more) := by
  unfold insideObject
  rw [h, ok_bind]
  dsimp only
  rw [endObject_blank hb]
  rfl

theorem reads_text (s : String) : Reads text (.string s) s where
  begins := Rendering.string_begins s
  ok _ _ {blanks more} hb _ := by
    unfold Rendering.string quoteChars text textAs
    rw [List.cons_append, List.cons_append, atValue_blank hb rfl, List.append_assoc,
      List.singleton_append]
    exact string_quoted s more

theorem reads_boolean (b : Bool) : Reads boolean (.bool b) b where
  begins := Rendering.bool_begins b
  ok _ _ {blanks more} hb _ := by
    cases b with
    | true => exact atValue_blank hb rfl ('r' :: 'u' :: 'e' :: more) _
    | false => exact atValue_blank hb rfl ('a' :: 'l' :: 's' :: 'e' :: more) _

theorem reads_anyNumber (expected : String) {text : String} {r : Numeral}
    (h : IsNumeral r text.toList) : Reads (anyNumber expected) (.raw text) r where
  begins _ _ := h.begins
  ok _ _ {blanks more} hb hm := by
    unfold Rendering.raw anyNumber
    cases hs : text.toList with
    | nil => rw [hs] at h; cases h
    | cons c cs =>
      rw [hs] at h
      cases h with
      | negative read =>
        rw [List.cons_append, atValue_blank hb rfl]
        exact numeral_append hm read
      | positive digit read =>
        rw [List.cons_append, atValue_blank hb (isSpace_of_isDigit digit)]
        split
        next heq => exact absurd (List.cons.inj heq).1 (ne_of_isDigit digit rfl)
        next =>
          rw [if_pos (show startsWithDigit (c :: _) from digit)]
          exact numeral_append hm read

/-- A number that is read as a numeral first. -/
theorem Reads.of_numeral {expected : String} {r : Rendering} {n : Numeral} {a : α}
    {f : Numeral × List Char → Except Failure (α × List Char)}
    (h : Reads (anyNumber expected) r n) (hf : ∀ rest, f (n, rest) = .ok (a, rest)) :
    Reads (fun cs => anyNumber expected cs >>= f) r a where
  begins := h.begins
  ok style depth {blanks more} hb hm := by
    rw [h.ok style depth hb hm]
    exact hf more

theorem reads_count {n : Nat} (h : n ≤ significandLimit) :
    Reads count (.raw (toString n)) n :=
  .of_numeral (reads_anyNumber "usize" (isNumeral_nat h)) fun rest => by
    dsimp only
    rw [if_neg (by omega)]
    rfl

theorem reads_double {x : Float} (h : Legible x) : Reads double (.raw (Decimal.scientific x)) x :=
  .of_numeral (reads_anyNumber "f64" h.isNumeral) fun _ => rfl

/-- A list is read from what stands for its items if each of them is. -/
theorem Reads.list_map {β : Type}
    {item : (depth : Nat) → List Char → Except Failure (α × List Char)} {limit : Nat}
    {rendering : β → Rendering} {result : β → α} {bs : List β}
    (h : ∀ b ∈ bs, Reads (item limit) (rendering b) (result b)) :
    Reads (Reader.list item (limit + 1)) (.array (bs.map rendering)) (bs.map result) where
  begins := Rendering.array_begins (bs.map rendering)
  ok style depth {blanks more} hb _ := by
    have listed : List.Forall₂ (Reads (item limit)) (bs.map rendering) (bs.map result) := by
      rw [List.forall₂_map_left_iff, List.forall₂_map_right_iff]
      exact List.forall₂_same.mpr h
    obtain ⟨cs, inner, hi, he, read⟩ := items_enclosed listed style depth more
    unfold Reader.list
    rw [he, atValue_blank hb rfl]
    exact insideList_blank read hi

/-- A list is read back if its items are. -/
theorem Reads.list {item : (depth : Nat) → List Char → Except Failure (α × List Char)}
    {limit : Nat} {rendering : α → Rendering} {as : List α}
    (h : ∀ a ∈ as, Reads (item limit) (rendering a) a) :
    Reads (Reader.list item (limit + 1)) (.array (as.map rendering)) as := by
  have all : Reads _ _ (as.map id) := .list_map h
  rwa [List.map_id] at all

theorem reads_freeObject {depth : Nat} {ms : Members} (h : (Value.object ms).Fits (depth + 1))
    (floats : ∀ x ∈ (Value.object ms).floats, Legible x) :
    Reads (freeObject (depth + 1)) (Value.object ms).rendering ms where
  begins := Rendering.object_begins (Value.memberRenderings ms)
  ok style level {blanks more} hb _ := by
    obtain ⟨sorted, fits⟩ := h.of_object
    have listed := readsMembers fun m hm =>
      (fits m hm).reads fun x hx => floats x (Value.mem_floats_object hm hx)
    obtain ⟨cs, inner, hi, he, read⟩ := members_enclosed listed style level more
    unfold freeObject Value.rendering
    rw [he, atValue_blank hb rfl]
    dsimp only [nested]
    refine insideObject_blank ?_ hi
    rw [read, ok_bind]
    dsimp only
    rw [sorted.ofList_eq]
    rfl

variable {fields : List (RecordField σ)} {limit : Nat}

theorem Reader.RecordField.reads_of {name : String} {required : Bool}
    {read : (depth : Nat) → List Char → Except Failure (α × List Char)} {store : σ → α → σ}
    {r : Rendering} {a : α} (h : Reads (read limit) r a) (record : σ) :
    Reads ((RecordField.of name required read store).read limit record) r (store record a) where
  begins := h.begins
  ok style depth {blanks more} hb hm := by
    change (read limit _ >>= fun found => Except.ok (store record found.1, found.2)) = _
    rw [h.ok style depth hb hm]
    rfl

theorem Reader.RecordField.reads_orAlias {f : RecordField σ} {name : String} {r : Rendering}
    {record record' : σ} (h : Reads (f.read limit record) r record') :
    Reads ((f.orAlias name).read limit record) r record' :=
  h

/-- A record that has been read in part becomes another one with the fields that are left. -/
inductive ReadsFields (fields : List (RecordField σ)) (limit : Nat) :
    (seen : List String) → σ → List (String × Rendering) → σ → Prop where
  | done {seen : List String} (record : σ) :
      (fields.find? fun f => f.required && !seen.contains f.name) = none →
      ReadsFields fields limit seen record [] record
  | field {seen : List String} {record record' last : σ} {f : RecordField σ} {key : String}
      {r : Rendering} {rs : List (String × Rendering)} :
      fields.find? (·.answersTo key) = some f → seen.contains f.name = false →
      Reads (f.read limit record) r record' →
      ReadsFields fields limit (f.name :: seen) record' rs last →
      ReadsFields fields limit seen record ((key, r) :: rs) last

/-- The fields of a record are read in any order, each once, if none is missing that is required. -/
theorem ReadsFields.of_entries {ε : Type} {key name : ε → String} {rendering : ε → Rendering}
    {store : σ → ε → σ}
    (known : ∀ e, ∃ f, fields.find? (·.answersTo (key e)) = some f ∧ f.name = name e ∧
      ∀ record, Reads (f.read limit record) (rendering e) (store record e))
    {es : List ε} {seen : List String} (distinct : (seen ++ es.map name).Nodup)
    (complete : ∀ f ∈ fields, f.required → f.name ∈ seen ++ es.map name) (record : σ) :
    ReadsFields fields limit seen record (es.map fun e => (key e, rendering e))
      (es.foldl store record) := by
  induction es generalizing seen record with
  | nil =>
    refine .done record (List.find?_eq_none.mpr fun f hf => ?_)
    have present := complete f hf
    simp_all
  | cons e es ih =>
    obtain ⟨f, hf, hn, hr⟩ := known e
    rw [List.map_cons, List.nodup_middle] at distinct
    have new : f.name ∉ seen := by
      rw [hn]
      exact fun h => (List.nodup_cons.mp distinct).1 (List.mem_append_left _ h)
    apply ReadsFields.field hf (by simpa using new) (hr record)
    rw [hn]
    apply ih distinct
    intro f hf required
    have := complete f hf required
    simp only [List.map_cons, List.mem_append, List.mem_cons] at this ⊢
    tauto

theorem recordMembers_series {seen : List String} {record last : σ}
    {rs : List (String × Rendering)} (h : ReadsFields fields limit seen record rs last)
    (style : Style) (depth : Nat) (first : Bool) {steps : Nat} (hs : rs.length < steps)
    (hb : Blank blanks) (more : List Char) :
    recordMembers fields limit steps seen first record
        (Rendering.series style depth first (rs.map fun r => .member r.1 r.2) ++
          (blanks ++ '}' :: more)) =
      .ok (last, blanks ++ '}' :: more) := by
  induction h generalizing first steps with
  | done record hf =>
    obtain ⟨steps, rfl⟩ := Nat.exists_eq_add_of_lt hs
    rw [recordMembers, List.map_nil, Rendering.series, List.nil_append, nextKey_end first hb]
    rw [ok_bind]
    dsimp only
    rw [hf]
    rfl
  | @field seen record record' last f key r rs known new hr _ ih =>
    obtain ⟨steps, rfl⟩ := Nat.exists_eq_add_of_lt hs
    have ends := Rendering.ends_series style depth (rs.map fun r => .member r.1 r.2) hb (c := '}')
      (by decide) more
    obtain ⟨gap, hgap, colon_eq⟩ := colon_blank style
    rw [recordMembers, List.map_cons, Rendering.series]
    simp only [List.append_assoc]
    rw [Rendering.member_append, nextKey_key first (style.blank_newline depth), ok_bind]
    dsimp only
    rw [string_quoted, ok_bind]
    dsimp only
    rw [known]
    dsimp only
    rw [if_neg (Bool.eq_false_iff.mp new), colon_eq, ok_bind, hr.ok style depth hgap ends, ok_bind]
    exact ih false (by rw [List.length_cons]; omega)

/-- A record is read back if its fields are. -/
theorem Reads.record {type : String} {start a : σ} {rs : List (String × Rendering)}
    (h : ReadsFields fields limit [] start rs a) :
    Reads (Reader.record type fields start (limit + 1)) (.object rs) a where
  begins := Rendering.object_begins rs
  ok style level {blanks more} hb _ := by
    obtain ⟨inner, hi, he⟩ := Rendering.exists_enclose_append_eq '{' '}'
      (rs.map fun r => .member r.1 r.2) style level more
    have long := Rendering.length_le_series style (level + 1) (Rendering.members_ne_nil rs _ _) true
    rw [List.length_map] at long
    unfold Reader.record Rendering.object
    rw [he, atValue_blank hb rfl]
    refine insideObject_blank ?_ hi
    exact recordMembers_series h style _ true (by rw [List.length_append]; omega) hi more

end ScriptGraph.Json

/-! ### What records hold -/

namespace ScriptGraph.Json.Reader

variable {α σ : Type} {P : α → Prop}

theorem failAt_ne_ok (cause : Cause) (rest : List Char) (a : α) : failAt cause rest ≠ .ok a := by
  intro h
  cases h

/-- A value of another shape than the one expected is never read. -/
theorem unexpected_ne_ok (expected : String) (cs : List Char) (a : α) :
    unexpected expected cs ≠ .ok a := by
  intro h
  unfold unexpected at h
  dsimp only at h
  split at h
  next => cases h
  next c rest =>
    split_ifs at h
    · exact absurd h (bind_ne_ok fun _ => failAt_ne_ok _ _ _)
    · exact absurd h (bind_ne_ok fun _ => failAt_ne_ok _ _ _)
    · exact absurd h (bind_ne_ok fun _ => failAt_ne_ok _ _ _)
    · refine absurd h (bind_ne_ok fun read => ?_)
      obtain ⟨_ | _, _⟩ := read <;> exact failAt_ne_ok _ _ _
    · refine absurd h (bind_ne_ok fun read => ?_)
      obtain ⟨_ | _, _⟩ := read <;> exact failAt_ne_ok _ _ _
    · exact absurd h (bind_ne_ok fun _ => failAt_ne_ok _ _ _)
    all_goals cases h

theorem place_eq_ok {settle : List Char → List Char} {outcome : Except Failure α} {a : α} :
    place settle outcome = .ok a ↔ outcome = .ok a := by
  cases outcome with
  | ok => exact Iff.rfl
  | error failure =>
    unfold place
    dsimp only
    split <;> simp

theorem Gives.atValue {read : List Char → Except Failure (α × List Char)} (h : Gives read P) :
    Gives (atValue read) P := by
  intro cs a rest he
  unfold Reader.atValue at he
  split at he
  next => cases he
  next => exact h _ _ _ he

theorem Gives.insideList {read : List Char → Except Failure (α × List Char)} (h : Gives read P) :
    Gives (insideList read) P := by
  intro cs a rest he
  obtain ⟨⟨a, tail⟩, ha, he⟩ := exists_of_bind_eq_ok (place_eq_ok.mp he)
  obtain ⟨_, -, he⟩ := exists_of_bind_eq_ok he
  cases he
  exact h _ _ _ ha

theorem Gives.insideObject {read : List Char → Except Failure (α × List Char)} (h : Gives read P) :
    Gives (insideObject read) P := by
  intro cs a rest he
  obtain ⟨⟨a, tail⟩, ha, he⟩ := exists_of_bind_eq_ok (place_eq_ok.mp he)
  obtain ⟨_, -, he⟩ := exists_of_bind_eq_ok he
  cases he
  exact h _ _ _ ha

theorem gives_list {item : (depth : Nat) → List Char → Except Failure (α × List Char)}
    {depth : Nat} (h : Gives (item depth) P) :
    Gives (list item (depth + 1)) fun as => ∀ a ∈ as, P a := by
  refine Gives.atValue fun cs as rest he => ?_
  split at he
  next tail =>
    exact (gives_items h (tail.length + 1) true (List.forall_mem_nil _)).insideList _ _ _ he
  next => exact absurd he (unexpected_ne_ok _ _ _)

theorem gives_freeObject (depth : Nat) :
    Gives (freeObject (depth + 1)) fun ms => (Value.object ms).Fits (depth + 1) := by
  refine Gives.atValue fun cs ms rest he => ?_
  split at he
  next tail =>
    dsimp only [nested] at he
    refine Gives.insideObject (P := fun ms => (Value.object ms).Fits (depth + 1))
      (fun cs ms rest he => ?_) _ _ _ he
    obtain ⟨⟨ms, _⟩, hms, he⟩ := exists_of_bind_eq_ok he
    cases he
    exact fits_ofList (gives_members (gives_value depth) _ true (List.forall_mem_nil _) _ _ _ hms)
  next => exact absurd he (unexpected_ne_ok _ _ _)

/-- Whatever counts something is at most as large as a significand. -/
theorem gives_count : Gives count fun n => n ≤ significandLimit := by
  intro cs n rest he
  obtain ⟨⟨r, tail⟩, hr, he⟩ := exists_of_bind_eq_ok he
  have integer : Gives (anyNumber "usize") fun r =>
      ∀ k : Int, r = .int k → k ≤ significandLimit := by
    refine Gives.atValue fun cs r rest he => ?_
    split at he
    next => exact (suffix_and_le_of_numeral he).2
    next =>
      split at he
      next => exact (suffix_and_le_of_numeral he).2
      next => exact absurd he (unexpected_ne_ok _ _ _)
  cases r with
  | int k =>
    have bounded := integer _ _ _ hr k rfl
    dsimp only at he
    split at he
    next => cases he
    next =>
      cases he
      omega
  | float x => cases he

variable {P : σ → Prop} {fields : List (RecordField σ)} {depth : Nat}

theorem gives_any (read : List Char → Except Failure (α × List Char)) : Gives read fun _ => True :=
  fun _ _ _ _ => trivial

/-- A field that stores what has a property keeps a property of the record. -/
theorem RecordField.gives_of {Q : α → Prop} {name : String} {required : Bool}
    {read : (depth : Nat) → List Char → Except Failure (α × List Char)} {store : σ → α → σ}
    {record : σ} (h : Gives (read depth) Q) (hs : ∀ a, Q a → P (store record a)) :
    Gives ((RecordField.of name required read store).read depth record) P := by
  intro cs record' rest he
  obtain ⟨⟨a, _⟩, ha, he⟩ := exists_of_bind_eq_ok he
  cases he
  exact hs a (h _ _ _ ha)

theorem RecordField.gives_orAlias {f : RecordField σ} {name : String} {record : σ}
    (h : Gives (f.read depth record) P) : Gives ((f.orAlias name).read depth record) P :=
  h

/-- Reading any of the fields keeps a property of the record. -/
def Keeps (fields : List (RecordField σ)) (depth : Nat) (P : σ → Prop) : Prop :=
  ∀ f ∈ fields, ∀ record, P record → Gives (f.read depth record) P

theorem Keeps.nil : Keeps [] depth P :=
  nofun

theorem Keeps.cons {f : RecordField σ}
    (hf : ∀ record, P record → Gives (f.read depth record) P) (h : Keeps fields depth P) :
    Keeps (f :: fields) depth P :=
  List.forall_mem_cons.mpr ⟨hf, h⟩

theorem gives_recordMembers (h : Keeps fields depth P) (steps : Nat) (seen : List String)
    (first : Bool) {record : σ} (hr : P record) :
    Gives (recordMembers fields depth steps seen first record) P := by
  intro cs last rest he
  induction steps generalizing seen first record cs with
  | zero => cases he
  | succ steps ih =>
    rw [recordMembers] at he
    obtain ⟨next, -, he⟩ := exists_of_bind_eq_ok he
    cases next with
    | none =>
      dsimp only at he
      split at he
      next => cases he
      next =>
        cases he
        exact hr
    | some cs =>
      obtain ⟨⟨key, tail⟩, -, he⟩ := exists_of_bind_eq_ok he
      dsimp only at he
      split at he
      next =>
        obtain ⟨_, -, he⟩ := exists_of_bind_eq_ok he
        obtain ⟨_, -, he⟩ := exists_of_bind_eq_ok he
        exact ih _ false hr _ he
      next f known =>
        split at he
        next => cases he
        next =>
          obtain ⟨_, -, he⟩ := exists_of_bind_eq_ok he
          obtain ⟨⟨record', _⟩, hf, he⟩ := exists_of_bind_eq_ok he
          exact ih _ false (h f (List.mem_of_find?_eq_some known) record hr _ _ _ hf) _ he

theorem gives_recordItems (h : Keeps fields depth P) (expected : String) (index : Nat)
    {record : σ} (hr : P record) : Gives (recordItems expected depth fields index record) P := by
  intro cs last rest he
  induction fields generalizing index record cs with
  | nil =>
    cases he
    exact hr
  | cons f fields ih =>
    have others : Keeps fields depth P := fun f hf => h f (List.mem_cons_of_mem _ hf)
    rw [recordItems] at he
    obtain ⟨next, -, he⟩ := exists_of_bind_eq_ok he
    cases next with
    | none =>
      dsimp only at he
      split at he
      next => cases he
      next => exact ih others _ hr _ he
    | some cs =>
      obtain ⟨⟨record', _⟩, hf, he⟩ := exists_of_bind_eq_ok he
      exact ih others _ (h f List.mem_cons_self record hr _ _ _ hf) _ he

/-- A record has a property if it starts out with it and no field that is read breaks it, whether it
stands as an object or as a list. -/
theorem gives_record (type : String) {start : σ} (hs : P start) (h : Keeps fields depth P) :
    Gives (record type fields start (depth + 1)) P := by
  refine Gives.atValue fun cs a rest he => ?_
  split at he
  next => exact (gives_recordItems h _ 0 hs).insideList _ _ _ he
  next => exact (gives_recordMembers h _ [] true hs).insideObject _ _ _ he
  next => exact absurd he (unexpected_ne_ok _ _ _)

end ScriptGraph.Json.Reader
