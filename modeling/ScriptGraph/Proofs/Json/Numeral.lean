import ScriptGraph.Json.Reader

/-! # Numerals

How a number is read does not depend on what follows it, as long as that does not prolong the
number. The text of an integer is read as that integer.
-/

namespace ScriptGraph.Json.Reader

/-- The character belongs to the number that it stands behind. -/
def prolongs (c : Char) : Bool :=
  c.isDigit || c = '.' || isExponentMark c

/-- The text does not prolong a number in front of it. -/
def Ends (cs : List Char) : Prop :=
  ∀ c ∈ cs.head?, prolongs c = false

variable {more : List Char}

namespace Ends

theorem nil : Ends [] :=
  nofun

theorem cons {c : Char} (h : prolongs c = false) (cs : List Char) : Ends (c :: cs) :=
  fun _ hc => Option.some.inj hc ▸ h

theorem of_cons {c : Char} {cs : List Char} (h : Ends (c :: cs)) :
    c.isDigit = false ∧ c ≠ '.' ∧ isExponentMark c = false := by
  simpa [prolongs, and_assoc] using h c rfl

theorem startsWithDigit_eq (h : Ends more) : startsWithDigit more = false := by
  cases more with
  | nil => rfl
  | cons c cs => exact h.of_cons.1

end Ends

theorem startsWithDigit_append (h : Ends more) (cs : List Char) :
    startsWithDigit (cs ++ more) = startsWithDigit cs := by
  cases cs with
  | nil => exact h.startsWithDigit_eq
  | cons c cs => rfl

theorem takeDigits_append (h : Ends more) (limit n count : Nat) (cs : List Char) :
    takeDigits limit n count (cs ++ more) =
      let (n', count', rest) := takeDigits limit n count cs
      (n', count', rest ++ more) := by
  induction cs generalizing n count with
  | nil =>
    cases more with
    | nil => rfl
    | cons c cs => simp [takeDigits, h.of_cons.1]
  | cons c cs ih =>
    simp only [List.cons_append, takeDigits]
    split
    · split
      · rfl
      · exact ih _ _
    · rfl

theorem dropDigits_append (h : Ends more) (cs : List Char) :
    (cs ++ more).dropWhile Char.isDigit = cs.dropWhile Char.isDigit ++ more := by
  induction cs with
  | nil =>
    cases more with
    | nil => rfl
    | cons c cs => simp [h.of_cons.1]
  | cons c cs ih =>
    simp only [List.cons_append, List.dropWhile_cons]
    split
    · exact ih
    · rfl

theorem assemble_append {negative : Bool} {significand : Nat} {e : Int} {rest rest' : List Char}
    {r : Numeral} (h : assemble negative significand e rest = .ok (r, rest')) :
    assemble negative significand e (rest ++ more) = .ok (r, rest' ++ more) := by
  unfold assemble at h ⊢
  cases hs : scale 4 (UInt64.ofNat significand).toFloat e with
  | none => simp [hs, failAt] at h
  | some x =>
    simp only [hs, Except.ok.injEq, Prod.mk.injEq] at h ⊢
    exact ⟨h.1, h.2 ▸ rfl⟩

variable {negative : Bool} {significand : Nat} {start : Int} {cs rest : List Char} {r : Numeral}

theorem exponentDigits_append (hm : Ends more) {down : Bool}
    (h : exponentDigits negative down significand start cs = .ok (r, rest)) :
    exponentDigits negative down significand start (cs ++ more) = .ok (r, rest ++ more) := by
  cases cs with
  | nil => cases h
  | cons c cs =>
    unfold exponentDigits at h ⊢
    rw [takeDigits_append hm]
    generalize takeDigits exponentLimit 0 0 (c :: cs) = taken at h ⊢
    obtain ⟨n, count, tail⟩ := taken
    dsimp only [List.cons_append] at h ⊢
    split at h
    next => cases h
    next =>
      rw [if_neg ‹_›]
      cases tail with
      | nil =>
        cases more with
        | nil => exact assemble_append h
        | cons d more =>
          dsimp only [List.nil_append]
          rw [if_neg (by simp [hm.of_cons.1])]
          exact assemble_append h
      | cons d tail =>
        dsimp only [List.cons_append] at h ⊢
        split at h
        next hd =>
          rw [if_pos hd]
          split at h
          next => cases h
          next hs =>
            rw [if_neg hs, dropDigits_append hm]
            cases h
            rfl
        next hd =>
          rw [if_neg hd]
          exact assemble_append h

theorem exponent_append (hm : Ends more)
    (h : exponent negative significand start cs = .ok (r, rest)) :
    exponent negative significand start (cs ++ more) = .ok (r, rest ++ more) := by
  unfold exponent at h
  split at h
  next => exact exponentDigits_append hm h
  next => exact exponentDigits_append hm h
  next plus minus =>
    -- No sign can come from behind: some digit has been read.
    cases cs with
    | nil => cases h
    | cons c cs =>
      unfold exponent
      split
      next heq => exact absurd (by rw [(List.cons.inj heq).1]) (plus cs)
      next heq => exact absurd (by rw [(List.cons.inj heq).1]) (minus cs)
      next => exact exponentDigits_append hm h

theorem optionalExponent_append (hm : Ends more)
    (h : optionalExponent negative significand start cs = .ok (r, rest)) :
    optionalExponent negative significand start (cs ++ more) = .ok (r, rest ++ more) := by
  cases cs with
  | nil =>
    cases more with
    | nil => exact assemble_append h
    | cons c more =>
      unfold optionalExponent
      dsimp only [List.nil_append]
      rw [if_neg (by simp [hm.of_cons.2.2])]
      exact assemble_append h
  | cons c cs =>
    unfold optionalExponent at h ⊢
    dsimp only [List.cons_append] at h ⊢
    split at h
    next hc => rw [if_pos hc]; exact exponent_append hm h
    next hc => rw [if_neg hc]; exact assemble_append h

theorem fraction_append (hm : Ends more)
    (h : fraction negative significand start cs = .ok (r, rest)) :
    fraction negative significand start (cs ++ more) = .ok (r, rest ++ more) := by
  unfold fraction at h ⊢
  rw [takeDigits_append hm]
  generalize takeDigits significandLimit significand 0 cs = taken at h ⊢
  obtain ⟨n, count, tail⟩ := taken
  dsimp only at h ⊢
  rw [startsWithDigit_append hm, dropDigits_append hm]
  split at h
  next hd => rw [if_pos hd]; exact optionalExponent_append hm h
  next hd =>
    rw [if_neg hd]
    split at h
    next => split at h <;> cases h
    next hc => rw [if_neg hc]; exact optionalExponent_append hm h

theorem finish_append {n extra : Nat} (h : numeral.finish negative n extra cs = .ok (r, rest)) :
    numeral.finish negative n extra (cs ++ more) = .ok (r, rest ++ more) := by
  unfold numeral.finish at h ⊢
  split at h
  next he => rw [if_pos he]; exact assemble_append h
  next he =>
    rw [if_neg he]
    split at h
    next hn => rw [if_pos hn]; cases h; rfl
    next hn =>
      rw [if_neg hn]
      split at h
      next hz => rw [if_pos hz]; cases h; rfl
      next hz => rw [if_neg hz]; cases h; rfl

theorem takeWhile_digits_append (h : Ends more) (cs : List Char) :
    (cs ++ more).takeWhile Char.isDigit = cs.takeWhile Char.isDigit := by
  induction cs with
  | nil =>
    cases more with
    | nil => rfl
    | cons c cs => simp [h.of_cons.1]
  | cons c cs ih =>
    simp only [List.cons_append, List.takeWhile_cons, ih]

theorem numeral_append (hm : Ends more) (h : numeral negative cs = .ok (r, rest)) :
    numeral negative (cs ++ more) = .ok (r, rest ++ more) := by
  cases cs with
  | nil => cases h
  | cons c cs =>
    unfold numeral at h ⊢
    dsimp only [List.cons_append] at h ⊢
    rw [startsWithDigit_append hm]
    split at h
    next => cases h
    next hc =>
      rw [if_neg hc]
      split at h
      next => cases h
      next hz =>
        rw [if_neg hz, ← List.cons_append, takeDigits_append hm]
        generalize takeDigits significandLimit 0 0 (c :: cs) = taken at h ⊢
        obtain ⟨n, count, tail⟩ := taken
        dsimp only at h ⊢
        have long := (tail.takeWhile_prefix Char.isDigit).length_le
        rw [takeWhile_digits_append hm, List.drop_append_of_le_length long]
        generalize tail.drop (tail.takeWhile Char.isDigit).length = left at h ⊢
        -- Behind the digits stands a point, some other character, or nothing.
        split at h
        next => exact fraction_append hm h
        next mark after point =>
          dsimp only [List.cons_append]
          split
          next heq => exact absurd (List.cons.inj heq).1 point
          next heq =>
            obtain ⟨rfl, rfl⟩ := List.cons.inj heq
            split at h
            next he => rw [if_pos he]; exact exponent_append hm h
            next he => rw [if_neg he]; exact finish_append h
          next heq => cases heq
        next =>
          cases more with
          | nil => exact finish_append h
          | cons d more =>
            obtain ⟨-, point, mark⟩ := hm.of_cons
            dsimp only [List.nil_append]
            split
            next heq => exact absurd (List.cons.inj heq).1 point
            next heq =>
              obtain ⟨rfl, rfl⟩ := List.cons.inj heq
              rw [if_neg (by simp [mark])]
              exact finish_append h
            next heq => cases heq

/-! ### What is read, and what is left -/

theorem takeDigits_suffix (limit n count : Nat) (cs : List Char) :
    (takeDigits limit n count cs).2.2 <:+ cs := by
  induction cs generalizing n count with
  | nil => exact List.suffix_rfl
  | cons c cs ih =>
    unfold takeDigits
    split
    · dsimp only
      split
      · exact List.suffix_rfl
      · exact (ih _ _).trans (List.suffix_cons c cs)
    · exact List.suffix_rfl

theorem takeDigits_le {limit n : Nat} (h : n ≤ limit) (count : Nat) (cs : List Char) :
    (takeDigits limit n count cs).1 ≤ limit := by
  induction cs generalizing n count with
  | nil => exact h
  | cons c cs ih =>
    unfold takeDigits
    split
    · dsimp only
      split
      · exact h
      · exact ih (by omega) _
    · exact h

/-- A double has been read, and what is left is a rest of the text. -/
def GivesFloat (cs : List Char) (r : Numeral) (rest : List Char) : Prop :=
  (∃ x, r = .float x) ∧ rest <:+ cs

theorem GivesFloat.behind {cs' : List Char} (h : GivesFloat cs' r rest) (hs : cs' <:+ cs) :
    GivesFloat cs r rest :=
  ⟨h.1, h.2.trans hs⟩

theorem givesFloat_of_assemble (h : assemble negative significand start cs = .ok (r, rest)) :
    GivesFloat cs r rest := by
  unfold assemble at h
  split at h <;> cases h
  exact ⟨⟨_, rfl⟩, List.suffix_rfl⟩

theorem givesFloat_of_exponentDigits {down : Bool}
    (h : exponentDigits negative down significand start cs = .ok (r, rest)) :
    GivesFloat cs r rest := by
  cases cs with
  | nil => cases h
  | cons c cs =>
    have taken := takeDigits_suffix exponentLimit 0 0 (c :: cs)
    unfold exponentDigits at h
    generalize takeDigits exponentLimit 0 0 (c :: cs) = result at h taken
    obtain ⟨n, count, tail⟩ := result
    dsimp only at h taken
    split at h
    next => cases h
    next =>
      split at h
      next d more =>
        split at h
        next =>
          split at h <;> cases h
          refine ⟨⟨_, rfl⟩, List.IsSuffix.trans ?_ taken⟩
          exact (List.dropWhile_suffix _).trans (List.suffix_cons d more)
        next => exact (givesFloat_of_assemble h).behind taken
      next => exact (givesFloat_of_assemble h).behind taken

theorem givesFloat_of_exponent (h : exponent negative significand start cs = .ok (r, rest)) :
    GivesFloat cs r rest := by
  unfold exponent at h
  split at h
  next => exact (givesFloat_of_exponentDigits h).behind (List.suffix_cons _ _)
  next => exact (givesFloat_of_exponentDigits h).behind (List.suffix_cons _ _)
  next => exact givesFloat_of_exponentDigits h

theorem givesFloat_of_optionalExponent
    (h : optionalExponent negative significand start cs = .ok (r, rest)) :
    GivesFloat cs r rest := by
  unfold optionalExponent at h
  split at h
  next =>
    split at h
    next => exact (givesFloat_of_exponent h).behind (List.suffix_cons _ _)
    next => exact givesFloat_of_assemble h
  next => exact givesFloat_of_assemble h

theorem givesFloat_of_fraction (h : fraction negative significand start cs = .ok (r, rest)) :
    GivesFloat cs r rest := by
  have taken := takeDigits_suffix significandLimit significand 0 cs
  unfold fraction at h
  generalize takeDigits significandLimit significand 0 cs = result at h taken
  obtain ⟨n, count, tail⟩ := result
  dsimp only at h taken
  split at h
  next => exact (givesFloat_of_optionalExponent h).behind ((List.dropWhile_suffix _).trans taken)
  next =>
    split at h
    next => split at h <;> cases h
    next => exact (givesFloat_of_optionalExponent h).behind taken

/-- An integer in the text is at most as large as a significand. -/
theorem suffix_and_le_of_finish {n extra : Nat} (hn : n ≤ significandLimit)
    (h : numeral.finish negative n extra cs = .ok (r, rest)) :
    rest <:+ cs ∧ ∀ k : Int, r = .int k → k ≤ significandLimit := by
  unfold numeral.finish at h
  split at h
  next =>
    obtain ⟨⟨x, rfl⟩, suffix⟩ := givesFloat_of_assemble h
    exact ⟨suffix, nofun⟩
  next =>
    split at h
    next =>
      cases h
      refine ⟨List.suffix_rfl, ?_⟩
      rintro k ⟨⟩
      exact Int.ofNat_le.mpr hn
    next =>
      split at h
      next =>
        cases h
        exact ⟨List.suffix_rfl, nofun⟩
      next =>
        cases h
        refine ⟨List.suffix_rfl, ?_⟩
        rintro k ⟨⟩
        omega

/-- What is left behind a number is a rest of the text, and an integer in the text is at most as
large as a significand. -/
theorem suffix_and_le_of_numeral (h : numeral negative cs = .ok (r, rest)) :
    rest <:+ cs ∧ ∀ k : Int, r = .int k → k ≤ significandLimit := by
  have float {cs' : List Char} (hs : cs' <:+ cs) (h : GivesFloat cs' r rest) :
      rest <:+ cs ∧ ∀ k : Int, r = .int k → k ≤ significandLimit := by
    obtain ⟨⟨x, rfl⟩, suffix⟩ := h
    exact ⟨suffix.trans hs, nofun⟩
  cases cs with
  | nil => cases h
  | cons c cs =>
    have taken := takeDigits_suffix significandLimit 0 0 (c :: cs)
    have bounded := takeDigits_le (Nat.zero_le significandLimit) 0 (c :: cs)
    unfold numeral at h
    generalize takeDigits significandLimit 0 0 (c :: cs) = result at h taken bounded
    obtain ⟨n, count, tail⟩ := result
    dsimp only at h taken bounded
    split at h
    next => cases h
    split at h
    next => cases h
    have left := (List.drop_suffix (tail.takeWhile Char.isDigit).length tail).trans taken
    generalize tail.drop (tail.takeWhile Char.isDigit).length = behind at h left
    have finish (h : numeral.finish negative n (tail.takeWhile Char.isDigit).length behind =
        .ok (r, rest)) : rest <:+ c :: cs ∧ ∀ k : Int, r = .int k → k ≤ significandLimit :=
      (suffix_and_le_of_finish bounded h).imp_left (·.trans left)
    split at h
    next =>
      exact float ((List.suffix_cons _ _).trans left) (givesFloat_of_fraction h)
    next =>
      split at h
      next => exact float ((List.suffix_cons _ _).trans left) (givesFloat_of_exponent h)
      next => exact finish h
    next => exact finish h

/-! ### Integers -/

theorem takeDigits_ofDigitChars (limit : Nat) (digits : List Char)
    (hd : ∀ c ∈ digits, c.isDigit) (n count : Nat) (h : Nat.ofDigitChars 10 digits n ≤ limit) :
    takeDigits limit n count digits =
      (Nat.ofDigitChars 10 digits n, count + digits.length, []) := by
  induction digits generalizing n count with
  | nil => rfl
  | cons c digits ih =>
    rw [Nat.ofDigitChars_cons] at h
    have next : n * 10 + (c.toNat - '0'.toNat) = 10 * n + (c.toNat - '0'.toNat) := by omega
    have within : 10 * n + (c.toNat - '0'.toNat) ≤ limit := by
      rw [Nat.ofDigitChars_eq_ofDigitChars_zero] at h
      have := Nat.le_mul_of_pos_left (10 * n + (c.toNat - '0'.toNat))
        (Nat.pow_pos (n := digits.length) (show 0 < 10 by decide))
      omega
    unfold takeDigits
    rw [if_pos (hd c List.mem_cons_self)]
    dsimp only
    rw [next, if_neg (by omega), ih (fun d h => hd d (List.mem_cons_of_mem _ h)) _ _ h,
      Nat.ofDigitChars_cons, List.length_cons, Nat.add_assoc, Nat.add_comm 1]

/-- Nothing stands behind a leading zero. -/
theorem eq_nil_of_toDigits_eq {n : Nat} {digits : List Char}
    (h : Nat.toDigits 10 n = '0' :: digits) : digits = [] := by
  induction n using Nat.strongRecOn generalizing digits with
  | ind n ih =>
    by_cases hn : n < 10
    · rw [Nat.toDigits_of_lt_base hn] at h
      exact (List.cons.inj h).2.symm
    · rw [Nat.toDigits_of_base_le (by decide) (by omega)] at h
      cases hq : Nat.toDigits 10 (n / 10) with
      | nil => exact absurd hq Nat.toDigits_ne_nil
      | cons c rest =>
        rw [hq] at h
        obtain ⟨rfl, -⟩ := List.cons.inj h
        obtain rfl := ih (n / 10) (by omega) hq
        have zero := Nat.ofDigitChars_ten_toDigits (n := n / 10)
        rw [hq] at zero
        exact absurd zero (by simp [Nat.ofDigitChars]; omega)

/-- The digits of a number that is not too large are read as that number. -/
theorem numeral_toDigits (negative : Bool) {n : Nat} (h : n ≤ significandLimit) :
    numeral negative (Nat.toDigits 10 n) = numeral.finish negative n 0 [] := by
  have digit (c : Char) (hc : c ∈ Nat.toDigits 10 n) : c.isDigit :=
    Nat.isDigit_of_mem_toDigits (by decide) (by decide) hc
  have taken := takeDigits_ofDigitChars significandLimit _ digit 0 0
    (by rwa [Nat.ofDigitChars_ten_toDigits])
  rw [Nat.ofDigitChars_ten_toDigits] at taken
  cases hds : Nat.toDigits 10 n with
  | nil => exact absurd hds Nat.toDigits_ne_nil
  | cons c digits =>
    rw [hds] at digit taken
    unfold numeral
    dsimp only
    rw [if_neg (by simp [digit c]), taken]
    by_cases hc : c = '0'
    · subst hc
      obtain rfl := eq_nil_of_toDigits_eq hds
      rfl
    · rw [if_neg (by simp [hc])]
      rfl

theorem ne_of_isDigit {c d : Char} (hc : c.isDigit) (hd : d.isDigit = false) : c ≠ d := by
  rintro rfl
  rw [hc] at hd
  cases hd

theorem isSpace_of_isDigit {c : Char} (h : c.isDigit) : isSpace c = false := by
  simp [isSpace, ne_of_isDigit h (d := ' ') rfl, ne_of_isDigit h (d := '\n') rfl,
    ne_of_isDigit h (d := '\t') rfl, ne_of_isDigit h (d := '\r') rfl]

/-- The text is all of it a number. -/
inductive IsNumeral (r : Numeral) : List Char → Prop where
  | negative {cs : List Char} : numeral true cs = .ok (r, []) → IsNumeral r ('-' :: cs)
  | positive {c : Char} {cs : List Char} : c.isDigit → numeral false (c :: cs) = .ok (r, []) →
      IsNumeral r (c :: cs)

theorem IsNumeral.begins (h : IsNumeral r cs) :
    ∃ c tail, cs = c :: tail ∧ isSpace c = false ∧ c ≠ ']' := by
  cases h with
  | @negative tail => exact ⟨'-', tail, rfl, by decide⟩
  | @positive c tail digit =>
    exact ⟨c, tail, rfl, isSpace_of_isDigit digit, ne_of_isDigit digit rfl⟩

theorem isNumeral_nat {n : Nat} (h : n ≤ significandLimit) :
    IsNumeral (.int n) (toString n).toList := by
  rw [Nat.toString_eq_repr, Nat.toList_repr]
  have digit (c : Char) (hc : c ∈ Nat.toDigits 10 n) : c.isDigit :=
    Nat.isDigit_of_mem_toDigits (by decide) (by decide) hc
  have read := numeral_toDigits false h
  cases hds : Nat.toDigits 10 n with
  | nil => exact absurd hds Nat.toDigits_ne_nil
  | cons c digits =>
    rw [hds] at digit read
    exact .positive (digit c List.mem_cons_self) read

/-- Every integer that is kept as it is can be read from its text. -/
theorem isNumeral_int {n : Int} (h : IsWord n) : IsNumeral (.int n) (toString n).toList := by
  unfold IsWord signedLimit unsignedLimit at h
  by_cases hn : 0 ≤ n
  · have text := isNumeral_nat (n := n.toNat) (by unfold significandLimit; omega)
    rw [Int.toNat_of_nonneg hn] at text
    rwa [Int.toString_eq_repr, Int.repr_eq_if, if_pos hn]
  · have read := numeral_toDigits true (n := (-n).toNat) (by unfold significandLimit; omega)
    have finish : numeral.finish true (-n).toNat 0 [] = .ok (.int n, []) := by
      unfold numeral.finish signedLimit
      rw [if_neg (by decide), if_neg (by decide), if_neg (by omega), Int.toNat_of_nonneg (by omega),
        Int.neg_neg]
    rw [Int.toString_eq_repr, Int.repr_eq_if, if_neg hn, String.toList_append, Nat.toList_repr]
    exact .negative (read.trans finish)

end ScriptGraph.Json.Reader
