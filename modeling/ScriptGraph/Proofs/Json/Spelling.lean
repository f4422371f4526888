import Mathlib.Data.List.TakeDrop
import Mathlib.Data.List.TakeWhile
import ScriptGraph.Decimal.Reader
import ScriptGraph.Proofs.Decimal.Plain
import ScriptGraph.Proofs.Json.RoundTrip
import ScriptGraph.Proofs.Text.Blank

/-! # Numbers and truth values in texts

A text without blanks at its ends that stands for a JSON value can be written as it is, as a decimal
or the name of a truth value, exactly if the value is a number or a truth value.
-/

namespace ScriptGraph

/-! ### Texts without blanks at their ends -/

namespace Text

/-- Neither the first character nor the last is a blank. -/
structure Trimmed (cs : List Char) : Prop where
  first : ∀ c ∈ cs.head?, isBlank c = false
  last : ∀ c ∈ cs.getLast?, isBlank c = false

theorem head?_dropWhile {p : Char → Bool} {cs : List Char} {c : Char}
    (h : c ∈ (cs.dropWhile p).head?) : p c = false := by
  have := List.head?_dropWhile_not p cs
  rwa [h] at this

theorem trimmed_trim (s : String) : Trimmed (trim s).toList := by
  unfold trim
  rw [String.toList_ofList]
  constructor
  · intro c hc
    obtain ⟨rest, hr⟩ := dropEndWhile_isPrefix isBlank (s.toList.dropWhile isBlank)
    have hh : c ∈ (s.toList.dropWhile isBlank).head? := by
      rw [← hr, List.head?_append, hc]
      rfl
    exact head?_dropWhile hh
  · intro c hc
    unfold dropEndWhile at hc
    rw [List.getLast?_reverse] at hc
    exact head?_dropWhile hc

theorem length_trim_le (s : String) : (trim s).length ≤ s.length := by
  unfold trim
  rw [String.length_ofList, ← String.length_toList (s := s)]
  exact (dropEndWhile_isPrefix _ _).length_le.trans (List.dropWhile_suffix _).length_le

end Text

open Text (Trimmed)

namespace Json.Reader

variable {cs rest : List Char}

theorem isSpace_of_isBlank {c : Char} (h : Text.isBlank c = false) : isSpace c = false := by
  by_contra hc
  simp only [isSpace, Bool.not_eq_false, Bool.or_eq_true, decide_eq_true_eq] at hc
  rcases hc with ((rfl | rfl) | rfl) | rfl <;> exact absurd h (by decide)

theorem skipSpace_of_trimmed (h : Trimmed cs) : skipSpace cs = cs := by
  cases cs with
  | nil => rfl
  | cons c cs => simp [skipSpace, isSpace_of_isBlank (h.first c rfl)]

/-- If only blanks are left of a text that does not end with a blank, nothing is left. -/
theorem eq_nil_of_trimmed (h : Trimmed cs) (hs : rest <:+ cs) (hb : skipSpace rest = []) :
    rest = [] := by
  rcases List.eq_nil_or_concat rest with rfl | ⟨front, c, rfl⟩
  · rfl
  · obtain ⟨before, rfl⟩ := hs
    have blank := isSpace_of_isBlank (h.last c (by simp))
    have space := List.dropWhile_eq_nil_iff.mp hb c (by simp)
    simp [blank] at space

/-! ### Numbers as decimals -/

section

variable {negative : Bool} {significand : Nat} {start : Int} {r : Numeral} {limit n count : Nat}

theorem takeDigits_of_not_digit (h : startsWithDigit cs = false) :
    takeDigits limit n count cs = (n, count, cs) := by
  cases cs with
  | nil => rfl
  | cons c cs => simp [takeDigits, show c.isDigit = false from h]

/-- Whichever digits are counted, all that follow are passed over. -/
theorem dropWhile_takeDigits (limit n count : Nat) (cs : List Char) :
    (takeDigits limit n count cs).2.2.dropWhile Char.isDigit = cs.dropWhile Char.isDigit := by
  induction cs generalizing n count with
  | nil => rfl
  | cons c cs ih =>
    unfold takeDigits
    split
    next h =>
      dsimp only
      split
      next => rfl
      next => rw [ih, List.dropWhile_cons_of_pos h]
    next => rfl

theorem dropWhile_of_not_digit (h : startsWithDigit cs = false) :
    cs.dropWhile Char.isDigit = cs := by
  cases cs with
  | nil => rfl
  | cons c cs => simp [show c.isDigit = false from h]

theorem rest_of_assemble (h : assemble negative significand start cs = .ok (r, rest)) :
    rest = cs := by
  unfold assemble at h
  split at h <;> cases h
  rfl

theorem rest_of_exponentDigits {down : Bool}
    (h : exponentDigits negative down significand start cs = .ok (r, rest)) :
    startsWithDigit cs ∧ rest = cs.dropWhile Char.isDigit := by
  cases cs with
  | nil => cases h
  | cons c cs =>
    have passed := dropWhile_takeDigits exponentLimit 0 0 (c :: cs)
    unfold exponentDigits at h
    generalize takeDigits exponentLimit 0 0 (c :: cs) = result at h passed
    obtain ⟨n, count, tail⟩ := result
    dsimp only at h passed
    split at h
    next => cases h
    next hc =>
      refine ⟨by simpa [startsWithDigit] using hc, ?_⟩
      rw [← passed]
      split at h
      next d more =>
        split at h
        next hd =>
          split at h <;> cases h
          rw [List.dropWhile_cons_of_pos hd]
        next hd =>
          rw [List.dropWhile_cons_of_neg hd]
          exact rest_of_assemble h
      next => exact rest_of_assemble h

theorem rest_of_exponent (h : exponent negative significand start cs = .ok (r, rest)) :
    startsWithDigit (Decimal.takeSign cs).2 ∧
      rest = (Decimal.takeSign cs).2.dropWhile Char.isDigit := by
  unfold exponent at h
  split at h
  next => exact rest_of_exponentDigits h
  next => exact rest_of_exponentDigits h
  next plus minus =>
    have unsigned : Decimal.takeSign cs = (false, cs) := by
      unfold Decimal.takeSign
      split
      next cs => exact absurd rfl (minus cs)
      next cs => exact absurd rfl (plus cs)
      next => rfl
    rw [unsigned]
    exact rest_of_exponentDigits h

theorem isSome_exponent?_of_exponent {c : Char} (hc : isExponentMark c)
    (h : exponent negative significand start cs = .ok (r, [])) :
    (Decimal.exponent? (c :: cs)).isSome := by
  obtain ⟨digit, none⟩ := rest_of_exponent h
  have mark : c = 'e' ∨ c = 'E' := by simpa [isExponentMark] using hc
  have all := List.all_eq_true.mpr (List.dropWhile_eq_nil_iff.mp none.symm)
  unfold Decimal.exponent?
  dsimp only
  rw [if_pos mark]
  generalize Decimal.takeSign cs = signed at digit all
  obtain ⟨minus, digits⟩ := signed
  cases digits with
  | nil => cases digit
  | cons d digits => simp only [all, List.isEmpty_cons, Bool.not_true, Bool.or_self,
      Bool.false_eq_true, if_false, Option.isSome_some]

theorem isSome_exponent?_of_optionalExponent
    (h : optionalExponent negative significand start cs = .ok (r, [])) :
    (Decimal.exponent? cs).isSome := by
  unfold optionalExponent at h
  split at h
  next c cs =>
    split at h
    next hc => exact isSome_exponent?_of_exponent hc h
    next => cases rest_of_assemble h
  next => rfl

theorem exponent?_of_fraction (h : fraction negative significand start cs = .ok (r, [])) :
    startsWithDigit cs ∧ (Decimal.exponent? (cs.dropWhile Char.isDigit)).isSome := by
  have passed := dropWhile_takeDigits significandLimit significand 0 cs
  have digit (h : (takeDigits significandLimit significand 0 cs).2.1 ≠ 0 ∨
      startsWithDigit (takeDigits significandLimit significand 0 cs).2.2) : startsWithDigit cs := by
    by_contra hn
    rw [takeDigits_of_not_digit (by simpa using hn)] at h
    simp_all
  unfold fraction at h
  generalize takeDigits significandLimit significand 0 cs = result at h passed digit
  obtain ⟨n, count, tail⟩ := result
  dsimp only at h passed digit
  rw [← passed]
  split at h
  next hs => exact ⟨digit (.inr hs), isSome_exponent?_of_optionalExponent h⟩
  next hs =>
    rw [dropWhile_of_not_digit (by simpa using hs)]
    split at h
    next => split at h <;> cases h
    next hc => exact ⟨digit (.inl hc), isSome_exponent?_of_optionalExponent h⟩

theorem drop_digits (cs : List Char) :
    cs.drop (cs.takeWhile Char.isDigit).length = cs.dropWhile Char.isDigit := by
  have split : cs.takeWhile Char.isDigit ++ cs.dropWhile Char.isDigit = cs :=
    List.takeWhile_append_dropWhile
  nth_rewrite 2 [← split]
  exact List.drop_left

/-- Digits with an exponent behind them are a decimal, also with a point and digits in between. -/
theorem isSome_unsigned? (hd : startsWithDigit cs)
    (h : (Decimal.exponent? (cs.dropWhile Char.isDigit)).isSome ∨
      ∃ after, cs.dropWhile Char.isDigit = '.' :: after ∧
        (Decimal.exponent? (after.dropWhile Char.isDigit)).isSome) :
    (Decimal.unsigned? cs).isSome := by
  have whole : (cs.takeWhile Char.isDigit).isEmpty = false := by
    cases cs with
    | nil => cases hd
    | cons c cs => simp [show c.isDigit from hd]
  unfold Decimal.unsigned? Decimal.spanDigits
  simp only [List.span_eq_takeWhile_dropWhile]
  generalize cs.dropWhile Char.isDigit = tail at h
  split
  next after =>
    rcases h with h | ⟨after', he, h⟩
    · simp [Decimal.exponent?] at h
    · obtain ⟨-, rfl⟩ := List.cons.inj he
      simpa [whole] using h
  next hne =>
    rcases h with h | ⟨after, rfl, -⟩
    · simpa [whole] using h
    · exact absurd rfl (hne after)

/-- A number without a sign that is all of a text is a decimal. -/
theorem isSome_unsigned?_of_numeral (h : numeral negative cs = .ok (r, [])) :
    (Decimal.unsigned? cs).isSome := by
  cases cs with
  | nil => cases h
  | cons c cs =>
    have passed := dropWhile_takeDigits significandLimit 0 0 (c :: cs)
    unfold numeral at h
    generalize takeDigits significandLimit 0 0 (c :: cs) = result at h passed
    obtain ⟨n, count, tail⟩ := result
    dsimp only at h passed
    split at h
    next => cases h
    next hc =>
      have digit : startsWithDigit (c :: cs) := by simpa [startsWithDigit] using hc
      split at h
      next => cases h
      rw [drop_digits, passed] at h
      have finished {cs' : List Char}
          (h : numeral.finish negative n (tail.takeWhile Char.isDigit).length cs' = .ok (r, [])) :
          cs' = [] := by
        unfold numeral.finish at h
        split at h
        next => exact (rest_of_assemble h).symm
        next => split_ifs at h <;> exact (Prod.mk.inj (Except.ok.inj h)).2
      apply isSome_unsigned? digit
      split at h
      next after he =>
        exact .inr ⟨after, he, (exponent?_of_fraction h).2⟩
      next mark after _ he =>
        split at h
        next hm => exact .inl (he ▸ isSome_exponent?_of_exponent hm h)
        next => cases he ▸ finished h
      next he =>
        rw [he]
        exact .inl rfl

end

/-! ### Names and strings -/

theorem eq_append_of_literal {name : List Char} (h : literal name cs = .ok rest) :
    cs = name ++ rest := by
  induction name generalizing cs with
  | nil =>
    cases h
    rfl
  | cons expected name ih =>
    cases cs with
    | nil => cases h
    | cons c cs =>
      unfold literal at h
      split at h
      next hc => rw [hc, ih h, List.cons_append]
      next => cases h

theorem length_of_hexFour {n : Nat} (h : hexFour cs = .ok (n, rest)) :
    rest.length < cs.length := by
  unfold hexFour at h
  split at h
  next =>
    split at h <;> cases h
    simp only [List.length_cons]
    omega
  next =>
    split at h
    next => cases h
    next => cases h

theorem length_of_unicodeEscape {c : Char} (h : unicodeEscape cs = .ok (c, rest)) :
    rest.length < cs.length := by
  unfold unicodeEscape at h
  obtain ⟨⟨high, tail⟩, hh, h⟩ := exists_of_bind_eq_ok h
  have first := length_of_hexFour hh
  dsimp only at h
  split_ifs at h
  · cases h
  · cases h
    exact first
  · split at h
    next => cases h
    next => cases h
    next after =>
      obtain ⟨⟨low, tail⟩, hl, h⟩ := exists_of_bind_eq_ok h
      have second := length_of_hexFour hl
      dsimp only at h
      split_ifs at h
      · cases h
      · obtain rfl := (Prod.mk.inj (Except.ok.inj h)).2
        simp only [List.length_cons] at first
        omega
    next => cases h
    next => cases h

theorem length_of_escaped {c : Char} (h : escaped cs = .ok (c, rest)) :
    rest.length < cs.length := by
  unfold escaped at h
  split at h
  next => cases h
  next c cs =>
    split at h
    next =>
      have := length_of_unicodeEscape h
      simp only [List.length_cons]
      omega
    next =>
      split at h <;> cases h
      simp

/-- A string has no more characters than the text that it is read from. -/
theorem length_of_stringTail {steps : Nat} {reversed : List Char} {s : String}
    (h : stringTail steps reversed cs = .ok (s, rest)) :
    s.length ≤ reversed.length + cs.length := by
  induction steps generalizing reversed cs with
  | zero => cases h
  | succ steps ih =>
    cases cs with
    | nil => cases h
    | cons c cs =>
      unfold stringTail at h
      simp only [List.length_cons]
      split_ifs at h
      · cases h
        simp
      · split at h
        next he =>
          have shorter := length_of_escaped he
          have := ih h
          simp only [List.length_cons] at this
          omega
        next => cases h
      · cases h
      · have := ih h
        simp only [List.length_cons] at this
        omega

/-! ### Whole texts -/

/-- A text without blanks at its ends is read from its first character to its last. -/
theorem exists_readAs_of_parse {text : String} {v : Value} (ht : Trimmed text.toList)
    (h : parse text = .ok v) :
    ∃ c cs rest, text.toList = c :: cs ∧ skipSpace rest = [] ∧ ReadAs maxDepth c cs rest v := by
  obtain ⟨rest, hv, blank⟩ := exists_of_run_eq_ok h
  obtain ⟨c, cs, he, read⟩ := exists_readAs_of_value hv
  exact ⟨c, cs, rest, skipSpace_of_trimmed ht ▸ he, blank, read⟩

theorem exists_numeral_of_number {negative : Bool} {v : Value}
    (h : number negative cs = .ok (v, rest)) :
    (∃ n, v = .number n) ∧ ∃ r, numeral negative cs = .ok (r, rest) := by
  unfold number at h
  obtain ⟨⟨r, tail⟩, hr, h⟩ := exists_of_bind_eq_ok h
  dsimp only at h
  split at h <;> cases h
  exact ⟨⟨_, rfl⟩, _, hr⟩

end Json.Reader

namespace Json

open Reader

/-- Numbers and truth values, which are spelled without quotes and brackets. -/
def Value.isBare : Value → Bool
  | .bool _ | .number _ => true
  | _ => false

variable {text : String} {v : Value}

/-- What begins with a quote or a bracket is no decimal. -/
theorem read?_of_bracket {c : Char} (hc : c ∈ ['"', '[', '\x7b']) (cs : List Char) :
    Decimal.read? (String.ofList (c :: cs)) = none := by
  have unsigned : Decimal.takeSign (c :: cs) = (false, c :: cs) := by
    simp only [List.mem_cons, List.not_mem_nil, or_false] at hc
    rcases hc with rfl | rfl | rfl <;> rfl
  have unnamed : c.toLower ≠ 'i' ∧ c.toLower ≠ 'n' := by
    simp only [List.mem_cons, List.not_mem_nil, or_false] at hc
    rcases hc with rfl | rfl | rfl <;> decide
  have digits : Decimal.unsigned? (c :: cs) = none := by
    simp only [List.mem_cons, List.not_mem_nil, or_false] at hc
    rcases hc with rfl | rfl | rfl <;> simp [Decimal.unsigned?, Decimal.spanDigits]
  rw [Decimal.read?, String.toList_ofList, unsigned]
  dsimp only
  rw [Decimal.magnitude?_cons unnamed.1 unnamed.2, digits]
  rfl

/-- The text can be written as it is where a number or a truth value is meant. -/
def IsBare (text : String) : Prop :=
  text = "true" ∨ text = "false" ∨ (Decimal.read? text).isSome

instance (text : String) : Decidable (IsBare text) :=
  inferInstanceAs (Decidable (_ ∨ _))

theorem not_isBare_of_bracket {c : Char} (hc : c ∈ ['"', '[', '\x7b']) (cs : List Char) :
    ¬ IsBare (String.ofList (c :: cs)) := by
  have other {name : String} (hn : c ∉ name.toList) : String.ofList (c :: cs) ≠ name := by
    rintro rfl
    simp at hn
  simp only [IsBare, read?_of_bracket hc, not_or, Option.isSome_none]
  simp only [List.mem_cons, List.not_mem_nil, or_false] at hc
  rcases hc with rfl | rfl | rfl <;> exact ⟨other (by decide), other (by decide), nofun⟩

theorem isSome_read?_of_unsigned? {negative : Bool} {cs : List Char}
    (hs : Decimal.takeSign text.toList = (negative, cs))
    (h : (Decimal.unsigned? cs).isSome) : (Decimal.read? text).isSome := by
  rw [Decimal.read?, hs]
  dsimp only
  rw [Option.isSome_map, Decimal.magnitude?]
  split_ifs
  · rfl
  · rfl
  · exact h

/-- A text that stands for a value can be written as it is if the value is a number or a truth
value, and only then. -/
theorem isBare_iff (ht : Trimmed text.toList) (h : parse text = .ok v) :
    IsBare text ↔ v.isBare := by
  obtain ⟨c, cs, rest, he, blank, read⟩ := exists_readAs_of_parse ht h
  have nothing (hs : rest <:+ cs) : rest = [] :=
    eq_nil_of_trimmed ht (he ▸ hs.trans (List.suffix_cons c cs)) blank
  have text_eq : text = String.ofList (c :: cs) := by rw [← he, String.ofList_toList]
  have spelled {name : List Char} (hl : literal name cs = .ok rest) :
      text = String.ofList (c :: name) := by
    have split := eq_append_of_literal hl
    obtain rfl := nothing (split ▸ List.suffix_append _ _)
    rw [text_eq, split, List.append_nil]
  have bracket (hc : c ∈ ['"', '[', '\x7b']) : ¬ IsBare text :=
    text_eq ▸ not_isBare_of_bracket hc cs
  cases read with
  | null hc hl =>
    rw [spelled hl, hc]
    exact iff_of_false (by unfold IsBare; decide) nofun
  | yes hc hl => exact iff_of_true (.inl (by rw [spelled hl, hc])) rfl
  | no hc hl => exact iff_of_true (.inr (.inl (by rw [spelled hl, hc]))) rfl
  | negative hc hn =>
    obtain ⟨⟨n, rfl⟩, r, hr⟩ := exists_numeral_of_number hn
    obtain rfl := nothing (suffix_and_le_of_numeral hr).1
    refine iff_of_true (.inr (.inr ?_)) rfl
    exact isSome_read?_of_unsigned? (by rw [he, hc]; rfl) (isSome_unsigned?_of_numeral hr)
  | positive hc hn =>
    obtain ⟨⟨n, rfl⟩, r, hr⟩ := exists_numeral_of_number hn
    obtain rfl := eq_nil_of_trimmed ht (he ▸ (suffix_and_le_of_numeral hr).1) blank
    refine iff_of_true (.inr (.inr ?_)) rfl
    have unsigned : Decimal.takeSign text.toList = (false, c :: cs) := by
      rw [he, Decimal.takeSign_of_digit hc]
    exact isSome_read?_of_unsigned? unsigned (isSome_unsigned?_of_numeral hr)
  | string hc => exact iff_of_false (bracket (by simp [hc])) nofun
  | array hc => exact iff_of_false (bracket (by simp [hc])) nofun
  | object hc => exact iff_of_false (bracket (by simp [hc])) nofun

/-- A string has fewer characters than the text that it is read from. -/
theorem length_lt_of_parse {s : String} (ht : Trimmed text.toList)
    (h : parse text = .ok (.string s)) : s.length < text.length := by
  obtain ⟨c, cs, rest, he, -, read⟩ := exists_readAs_of_parse ht h
  rw [← String.length_toList (s := text), he]
  cases read with
  | string _ hs =>
    have := length_of_stringTail hs
    simp only [List.length_nil, List.length_cons] at this ⊢
    omega
  | negative _ hn =>
    obtain ⟨⟨_, hv⟩, -⟩ := exists_numeral_of_number hn
    cases hv
  | positive _ hn =>
    obtain ⟨⟨_, hv⟩, -⟩ := exists_numeral_of_number hn
    cases hv

theorem parse_quote (s : String) : parse (quote s) = .ok (.string s) :=
  (Reads.string s).run .compact

end Json

end ScriptGraph
