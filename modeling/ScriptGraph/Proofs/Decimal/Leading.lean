import ScriptGraph.Kind.Properties
import ScriptGraph.Proofs.Decimal.Plain

/-! # Numbers at the front of texts

A text that begins with a digit, perhaps behind a sign, is cut between two characters. The number
that is read of it is its longest decimal, or that of the whole text where it is a number itself.
Only where a second point follows the decimal nothing is read.
-/

namespace ScriptGraph.Decimal

variable {text : String} {cs : List Char} {offset stop : Nat}

/-! ### Cuts -/

/-- A text is cut in two between any two of its characters. -/
theorem before?_append (s t : String) : before? (s ++ t) s.utf8ByteSize = some s := by
  have valid : String.Pos.Raw.IsValid (s ++ t) ⟨s.utf8ByteSize⟩ :=
    String.Pos.Raw.isValid_iff_exists_append.mpr ⟨s, t, rfl, rfl⟩
  have splits : ((s ++ t).pos ⟨s.utf8ByteSize⟩ valid).Splits s t := ⟨rfl, rfl⟩
  rw [before?, dif_pos (String.Pos.Raw.isValid_eq_true_iff.mpr valid), splits.copy_sliceTo_eq]

/-- The leading characters that a decimal without exponent may have. -/
def numericPrefix : List Char → List Char
  | [] => []
  | c :: cs => if isNumeric c || isSign c then c :: cs.takeWhile isNumeric else []

theorem numericPrefix_isPrefix (cs : List Char) : numericPrefix cs <+: cs := by
  cases cs with
  | nil => exact List.nil_prefix
  | cons c cs =>
    by_cases h : (isNumeric c || isSign c) = true
    · rw [numericPrefix, if_pos h, List.cons_prefix_cons]
      exact ⟨rfl, List.takeWhile_prefix _⟩
    · rw [numericPrefix, if_neg h]
      exact List.nil_prefix

/-- Behind the first character signs are not taken any more. -/
theorem takeWhile_atOffsets_of_pos (h : 0 < offset) (cs : List Char) :
    (atOffsets offset cs).takeWhile (fun (offset, c) => isNumericAt offset c) =
      atOffsets offset (cs.takeWhile isNumeric) := by
  induction cs generalizing offset with
  | nil => rfl
  | cons c cs ih =>
    have numeric : isNumericAt offset c = isNumeric c := by
      simp [isNumericAt, Nat.ne_of_gt h]
    simp only [atOffsets, List.takeWhile_cons, numeric]
    split
    · rw [ih (by omega), atOffsets]
    · rfl

theorem takeWhile_atOffsets (cs : List Char) :
    (atOffsets 0 cs).takeWhile (fun (offset, c) => isNumericAt offset c) =
      atOffsets 0 (numericPrefix cs) := by
  cases cs with
  | nil => rfl
  | cons c cs =>
    have numeric : isNumericAt 0 c = (isNumeric c || isSign c) := by simp [isNumericAt]
    simp only [atOffsets, List.takeWhile_cons, numeric, numericPrefix]
    split
    · rw [takeWhile_atOffsets_of_pos (by have := c.utf8Size_pos; omega), atOffsets]
    · rfl

/-- The last of the characters ends where their text does. -/
theorem getLast?_atOffsets (h : cs ≠ []) (offset : Nat) :
    (atOffsets offset cs).getLast?.map (fun (offset, c) => offset + c.utf8Size) =
      some (offset + (String.ofList cs).utf8ByteSize) := by
  induction cs generalizing offset with
  | nil => exact absurd rfl h
  | cons c cs ih =>
    rw [String.ofList_cons, String.utf8ByteSize_append, String.utf8ByteSize_singleton]
    cases cs with
    | nil => simp [atOffsets]
    | cons d cs =>
      rw [atOffsets, atOffsets, List.getLast?_cons_cons, ← atOffsets, ih (List.cons_ne_nil _ _)]
      congr 1
      omega

theorem numericEnd?_eq (text : String) :
    numericEnd? text =
      if numericPrefix text.toList = [] then none
      else some (String.ofList (numericPrefix text.toList)).utf8ByteSize := by
  unfold numericEnd?
  dsimp only
  rw [takeWhile_atOffsets]
  split
  next h =>
    rw [h]
    rfl
  next h => rw [getLast?_atOffsets h, Nat.zero_add]

/-- No character is cut apart. -/
theorem before?_of_numericEnd? (h : numericEnd? text = some stop) :
    before? text stop = some (String.ofList (numericPrefix text.toList)) := by
  rw [numericEnd?_eq] at h
  split at h
  next => cases h
  next =>
    obtain rfl := Option.some.inj h
    obtain ⟨rest, hr⟩ := numericPrefix_isPrefix text.toList
    have cut := before?_append (String.ofList (numericPrefix text.toList)) (String.ofList rest)
    rwa [← String.ofList_append, hr, String.ofList_toList] at cut

/-- What is read where the text is no number is read of its leading characters alone. -/
theorem leading?_eq (text : String) :
    leading? text = (read? (Text.trim text)).or
      (read? (String.ofList (numericPrefix (Text.trim text).toList))) := by
  unfold leading?
  dsimp only
  cases read? (Text.trim text) with
  | some x => rfl
  | none =>
    cases hs : numericEnd? (Text.trim text) with
    | none =>
      rw [numericEnd?_eq] at hs
      split at hs
      next nothing =>
        rw [nothing]
        rfl
      next => cases hs
    | some stop =>
      simp [before?_of_numericEnd? hs]

/-- The characters that are cut off are those of the decimal and all digits and points behind it. -/
theorem numericPrefix_append (d : Plain) (rest : List Char) :
    numericPrefix (d.chars ++ rest) = d.chars ++ rest.takeWhile isNumeric := by
  obtain ⟨c, cs, hc⟩ := List.exists_cons_of_ne_nil d.chars_ne_nil
  have first : (isNumeric c || isSign c) = true := by
    rw [Bool.or_eq_true]
    exact Plain.numeric_or_sign_of_mem_head? (d := d) (by simp [hc])
  have others : ∀ c ∈ cs, isNumeric c := fun c h =>
    Plain.isNumeric_of_mem_tail (d := d) (by simpa [hc] using h)
  rw [hc, List.cons_append, numericPrefix, if_pos first, List.takeWhile_append_of_pos others,
    List.cons_append]

/-! ### Leading numbers -/

theorem exists_numericEnd? {d : Plain} (h : d.chars <+: text.toList) :
    ∃ stop, numericEnd? text = some stop := by
  obtain ⟨rest, hr⟩ := h
  have some_front : numericPrefix text.toList ≠ [] := by
    simp [← hr, numericPrefix_append, d.chars_ne_nil]
  rw [numericEnd?_eq, if_neg some_front]
  exact ⟨_, rfl⟩

/-- Of a text that begins with a decimal the number is read, unless a point follows the longest
decimal. -/
theorem leading?_of_isLongest {d : Plain} (h : d.IsLongest (Text.trim text).toList) :
    leading? text =
      if d.chars ++ ['.'] <+: (Text.trim text).toList then none
      else some ((read? (Text.trim text)).getD d.value) := by
  obtain ⟨rest, hr⟩ := h.isPrefix
  rw [← hr] at h
  have ends := h.ends
  have whole : read? (Text.trim text) = (exponent? rest).map d.scaled := by
    rw [← d.read?_append ends, hr, String.ofList_toList]
  rw [leading?_eq, ← hr, numericPrefix_append]
  simp only [List.prefix_append_right_inj]
  split
  next followed =>
    obtain ⟨more, rfl⟩ := followed
    -- The point and what follows it are no exponent, in the whole text as in what is cut off.
    have unread (more : List Char) : exponent? ('.' :: more) = none := by simp [exponent?]
    have cut : ('.' :: more).takeWhile isNumeric = '.' :: more.takeWhile isNumeric :=
      List.takeWhile_cons_of_pos rfl
    have still : d.Ends ('.' :: more.takeWhile isNumeric) := ends
    rw [whole, List.singleton_append, unread, cut, d.read?_append still, unread]
    rfl
  next alone =>
    have nothing : rest.takeWhile isNumeric = [] := by
      cases rest with
      | nil => rfl
      | cons c rest =>
        have pointless : c ≠ '.' := by
          rintro rfl
          exact alone (List.cons_prefix_cons.mpr ⟨rfl, List.nil_prefix⟩)
        simp [isNumeric, (ends c rfl).1, pointless]
    rw [nothing, List.append_nil, d.read?_chars]
    cases read? (Text.trim text) <;> rfl

/-- A text that begins with a digit, perhaps behind a sign, is cut between two characters, and the
number is read of it that the text is, or else its longest decimal, unless a point follows that
decimal. Then there is no number, for a property with this text either. -/
theorem leading?_longest_iff (text : String) {sign : Option Char} {digit : Char} {more : List Char}
    (hs : ∀ c ∈ sign, isSign c) (hd : digit.isDigit)
    (ht : (Text.trim text).toList = sign.toList ++ digit :: more) :
    let trimmed := Text.trim text
    (∃ stop front, numericEnd? trimmed = some stop ∧ before? trimmed stop = some front) ∧
      (∃ d : Plain, d.IsLongest trimmed.toList) ∧
      ∀ d : Plain, d.IsLongest trimmed.toList →
        let followed := d.chars ++ ['.'] <+: trimmed.toList
        (leading? text = some ((read? trimmed).getD d.value) ↔ ¬ followed) ∧
        (leading? text = none ↔ followed) ∧
        ∀ (p : Props) (name : String), p.get? name = some (.string text) →
          p.number? name = leading? text := by
  have some_longest : ∃ d : Plain, d.IsLongest (Text.trim text).toList := by
    rw [ht]
    exact Plain.exists_isLongest_of_digit hs hd
  intro trimmed
  refine ⟨?cut, some_longest, fun d longest => ?_⟩
  case cut =>
    obtain ⟨d, longest⟩ := some_longest
    obtain ⟨stop, h⟩ := exists_numericEnd? longest.isPrefix
    exact ⟨stop, _, h, before?_of_numericEnd? h⟩
  have read := leading?_of_isLongest longest
  intro followed
  refine ⟨?_, ?_, fun p name h => by rw [Props.number?, h]⟩
  all_goals
    rw [read]
    split <;> simp_all [trimmed, followed]

def onePointTwo : Plain where
  sign := none
  whole := ['1']
  fraction := some ['2']
  isSign_sign := nofun
  whole_ne_nil := by simp
  isDigit_whole := by simp
  isDigit_fraction := by simp

theorem em_onePointTwo :
    (∀ c ∈ (none : Option Char), isSign c) ∧ '1'.isDigit ∧
      (Text.trim " 1.2em").toList = (none : Option Char).toList ++ '1' :: ['.', '2', 'e', 'm'] ∧
      leading? " 1.2em" = some onePointTwo.value := by
  have unsigned : ∀ c ∈ (none : Option Char), isSign c := nofun
  have digit : '1'.isDigit := rfl
  have trimmed : (Text.trim " 1.2em").toList =
      (none : Option Char).toList ++ '1' :: ['.', '2', 'e', 'm'] := by decide +kernel
  have ends : onePointTwo.Ends ['e', 'm'] := by simp [Plain.Ends]
  have longest : onePointTwo.IsLongest (Text.trim " 1.2em").toList := by
    rw [trimmed]
    exact ends.isLongest
  have number : read? (Text.trim " 1.2em") = none := by decide +kernel
  obtain ⟨-, -, read⟩ := leading?_longest_iff " 1.2em" unsigned digit trimmed
  have alone : ¬ onePointTwo.chars ++ ['.'] <+: (Text.trim " 1.2em").toList := by
    rw [trimmed]
    decide
  have promised := (read onePointTwo longest).1.mpr alone
  rw [number] at promised
  exact ⟨unsigned, digit, trimmed, promised⟩

/-- Of a decimal with a second point behind it no number is read. -/
theorem secondPoint_unread :
    onePointTwo.IsLongest (Text.trim "1.2.3").toList ∧ read? (Text.trim "1.2.3") = none ∧
      leading? "1.2.3" = none := by
  have ends : onePointTwo.Ends ['.', '3'] := by simp [Plain.Ends, onePointTwo]
  have longest : onePointTwo.IsLongest (Text.trim "1.2.3").toList := by
    rw [show (Text.trim "1.2.3").toList = onePointTwo.chars ++ ['.', '3'] by decide +kernel]
    exact ends.isLongest
  exact ⟨longest, by decide +kernel, by decide +kernel⟩

example : leading? " 1.2em" = some 1.2 := by
  decide +kernel

end ScriptGraph.Decimal
