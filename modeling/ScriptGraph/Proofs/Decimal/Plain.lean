import Mathlib.Data.List.TakeDrop
import Mathlib.Data.List.TakeWhile
import Mathlib.Tactic.ByContra
import Mathlib.Tactic.Push
import ScriptGraph.Decimal.Leading

/-! # Decimals without exponent

Characters that begin with a decimal begin with a longest one. Neither a digit follows it nor a
point that would be its first. It is read as the nearest double, with an exponent behind it or not.
-/

namespace ScriptGraph.Decimal

variable {c : Char} {cs rest : List Char}

/-! ### Characters -/

theorem isDigit_of_isNumeric (h : isNumeric c) : c.isDigit ∨ c = '.' := by
  simpa [isNumeric] using h

theorem ne_point_of_isSign (h : isSign c) : c ≠ '.' := by
  simp only [isSign, Bool.or_eq_true, decide_eq_true_eq] at h
  rcases h with rfl | rfl <;> decide

theorem spanDigits_append {digits : List Char} (h : ∀ c ∈ digits, c.isDigit)
    (hr : ∀ c ∈ rest.head?, c.isDigit = false) : spanDigits (digits ++ rest) = (digits, rest) := by
  have others : rest.takeWhile Char.isDigit = [] ∧ rest.dropWhile Char.isDigit = rest := by
    cases rest with
    | nil => simp
    | cons c rest => simp [hr c rfl]
  rw [spanDigits, List.span_eq_takeWhile_dropWhile, List.takeWhile_append_of_pos h,
    List.dropWhile_append_of_pos h, others.1, others.2, List.append_nil]

/-- There are two letters that the names of special doubles begin with. -/
theorem magnitude?_cons (hi : c.toLower ≠ 'i') (hn : c.toLower ≠ 'n') (cs : List Char) :
    magnitude? (c :: cs) = unsigned? (c :: cs) := by
  have unnamed {name : String} (h : name.toList.head? ≠ some c.toLower) :
      String.ofList ((c :: cs).map Char.toLower) ≠ name := by
    rintro rfl
    simp at h
  have infinite : "inf".toList.head? ≠ some c.toLower ∧ "infinity".toList.head? ≠ some c.toLower :=
    ⟨by simpa using hi.symm, by simpa using hi.symm⟩
  have undefined : "nan".toList.head? ≠ some c.toLower := by simpa using hn.symm
  rw [magnitude?, if_neg (not_or.mpr ⟨unnamed infinite.1, unnamed infinite.2⟩),
    if_neg (unnamed undefined)]

theorem magnitude?_of_digit (h : c.isDigit) (cs : List Char) :
    magnitude? (c :: cs) = unsigned? (c :: cs) := by
  have lower : c.toLower = c := by
    simp only [Char.isDigit, Bool.and_eq_true, decide_eq_true_eq] at h
    apply dif_neg
    rintro ⟨capital, -⟩
    exact absurd (UInt32.le_trans capital h.2) (by decide)
  apply magnitude?_cons
  all_goals
    rw [lower]
    rintro rfl
    exact absurd h (by decide)

theorem takeSign_of_digit (h : c.isDigit) (cs : List Char) :
    takeSign (c :: cs) = (false, c :: cs) := by
  unfold takeSign
  split
  next he =>
    obtain rfl := (List.cons.inj he).1
    exact absurd h (by decide)
  next he =>
    obtain rfl := (List.cons.inj he).1
    exact absurd h (by decide)
  next => rfl

/-! ### Decimals -/

/-- A decimal without exponent: digits, perhaps with a sign before them, and with a point behind
them, which other digits may follow. -/
structure Plain where
  sign : Option Char
  whole : List Char
  fraction : Option (List Char)
  isSign_sign : ∀ c ∈ sign, isSign c
  whole_ne_nil : whole ≠ []
  isDigit_whole : ∀ c ∈ whole, c.isDigit
  isDigit_fraction : ∀ digits ∈ fraction, ∀ c ∈ digits, c.isDigit

/-- The point and what follows it. -/
def pointed : Option (List Char) → List Char
  | none => []
  | some digits => '.' :: digits

namespace Plain

def chars (d : Plain) : List Char :=
  d.sign.toList ++ d.whole ++ pointed d.fraction

/-- The double that is nearest to the decimal times a power of ten. -/
def scaled (d : Plain) (exponent : Int) : Float :=
  let fraction := d.fraction.getD []
  let x := nearest (natOfDigits (d.whole ++ fraction)) (exponent - fraction.length)
  if d.sign = some '-' then -x else x

/-- The double that is nearest to the decimal. -/
def value (d : Plain) : Float :=
  d.scaled 0

/-- Among the decimals that the characters begin with, this one is the longest. -/
structure IsLongest (d : Plain) (cs : List Char) : Prop where
  isPrefix : d.chars <+: cs
  length_le (d' : Plain) : d'.chars <+: cs → d'.chars.length ≤ d.chars.length

/-- The decimal does not go on with the characters behind it. -/
def Ends (d : Plain) (rest : List Char) : Prop :=
  ∀ c ∈ rest.head?, c.isDigit = false ∧ (c = '.' → d.fraction.isSome)

variable {d : Plain}

/-! ### The longest decimal -/

theorem chars_ne_nil (d : Plain) : d.chars ≠ [] := by
  simp [chars, d.whole_ne_nil]

/-- A digit can be put behind any decimal. -/
theorem exists_chars_digit (d : Plain) (h : c.isDigit) :
    ∃ d' : Plain, d'.chars = d.chars ++ [c] := by
  obtain ⟨sign, whole, fraction, hs, hn, hw, hf⟩ := d
  cases fraction with
  | none =>
    refine ⟨⟨sign, whole ++ [c], none, hs, by simp, ?_, nofun⟩, by simp [chars, pointed]⟩
    simpa [or_imp, forall_and, h] using hw
  | some digits =>
    refine ⟨⟨sign, whole, some (digits ++ [c]), hs, hn, hw, ?_⟩, by simp [chars, pointed]⟩
    simpa [or_imp, forall_and, h] using hf

/-- A first point can be put behind a decimal. -/
theorem exists_chars_point (h : d.fraction = none) : ∃ d' : Plain, d'.chars = d.chars ++ ['.'] := by
  refine ⟨{ d with fraction := some [], isDigit_fraction := ?_ }, by simp [chars, pointed, h]⟩
  simp

theorem isNumeric_of_mem_pointed (h : c ∈ pointed d.fraction) : isNumeric c := by
  have digits := d.isDigit_fraction
  cases hf : d.fraction with
  | none => simp [hf, pointed] at h
  | some ds =>
    rw [hf] at h digits
    rcases List.mem_cons.mp h with rfl | h
    · rfl
    · simp [isNumeric, digits ds rfl c h]

theorem isNumeric_of_mem_whole (h : c ∈ d.whole) : isNumeric c := by
  simp [isNumeric, d.isDigit_whole c h]

/-- There is no more than one point in a decimal. -/
theorem count_point (d : Plain) : d.chars.count '.' = if d.fraction.isSome then 1 else 0 := by
  have sign : d.sign.toList.count '.' = 0 := by
    rw [List.count_eq_zero]
    intro h
    exact ne_point_of_isSign (d.isSign_sign _ (Option.mem_toList.mp h)) rfl
  have digits {ds : List Char} (h : ∀ c ∈ ds, c.isDigit) : ds.count '.' = 0 := by
    rw [List.count_eq_zero]
    intro hm
    exact absurd (h _ hm) (by decide)
  rw [chars, List.count_append, List.count_append, sign, digits d.isDigit_whole]
  cases hf : d.fraction with
  | none => rfl
  | some ds => simp [pointed, digits (d.isDigit_fraction ds hf)]

/-- A decimal begins with a digit or with its sign. -/
theorem numeric_or_sign_of_mem_head? (h : c ∈ d.chars.head?) : isNumeric c ∨ isSign c := by
  obtain ⟨digit, digits, hw⟩ := List.exists_cons_of_ne_nil d.whole_ne_nil
  unfold chars at h
  cases hs : d.sign with
  | none =>
    rw [hs, hw] at h
    obtain rfl := Option.some.inj h
    exact .inl (isNumeric_of_mem_whole (d := d) (by simp [hw]))
  | some sign =>
    rw [hs] at h
    obtain rfl := Option.some.inj h
    exact .inr (d.isSign_sign sign hs)

/-- Behind its first character a decimal has no sign. -/
theorem isNumeric_of_mem_tail (h : c ∈ d.chars.tail) : isNumeric c := by
  have unsigned {c : Char} (h : c ∈ d.whole ++ pointed d.fraction) : isNumeric c := by
    rcases List.mem_append.mp h with h | h
    · exact isNumeric_of_mem_whole h
    · exact isNumeric_of_mem_pointed h
  unfold chars at h
  cases hs : d.sign with
  | none =>
    rw [hs] at h
    exact unsigned (List.mem_of_mem_tail h)
  | some sign =>
    rw [hs] at h
    exact unsigned h

/-- A longer decimal would go on with a digit, or with a point that is the first. -/
theorem Ends.isLongest (h : d.Ends rest) : d.IsLongest (d.chars ++ rest) := by
  constructor
  · exact List.prefix_append _ _
  · intro d' hd
    by_contra! longer
    obtain ⟨more, hm⟩ : d.chars <+: d'.chars :=
      List.prefix_of_prefix_length_le (List.prefix_append _ _) hd longer.le
    cases more with
    | nil => simp [← hm] at longer
    | cons c more =>
      have next : c ∈ rest.head? := by
        rw [← hm, List.prefix_append_right_inj] at hd
        obtain ⟨_, rfl⟩ := hd
        rfl
      obtain ⟨other, point⟩ := h c next
      have numeric : isNumeric c := by
        apply isNumeric_of_mem_tail (d := d')
        simp [← hm, List.tail_append_of_ne_nil d.chars_ne_nil]
      rcases isDigit_of_isNumeric numeric with digit | rfl
      · simp [digit] at other
      · -- The first point is in the decimal already, and a longer one would have two.
        have once := d.count_point
        have twice := d'.count_point
        rw [if_pos (point rfl)] at once
        rw [← hm, List.count_append, List.count_cons_self, once] at twice
        split at twice <;> omega

theorem IsLongest.ends (h : d.IsLongest (d.chars ++ rest)) : d.Ends rest := by
  intro c hc
  obtain ⟨more, rfl⟩ : ∃ more, rest = c :: more := List.head?_eq_some_iff.mp hc
  have noLonger (d' : Plain) (hd : d'.chars = d.chars ++ [c]) : False := by
    have := h.length_le d' ⟨more, by simp [hd]⟩
    rw [hd, List.length_append, List.length_singleton] at this
    omega
  constructor
  · by_contra digit
    obtain ⟨d', hd⟩ := d.exists_chars_digit (Bool.not_eq_false _ ▸ digit)
    exact noLonger d' hd
  · rintro rfl
    by_contra pointless
    obtain ⟨d', hd⟩ := exists_chars_point (Option.not_isSome_iff_eq_none.mp pointless)
    exact noLonger d' hd

/-- If there is a decimal at the front, there is a longest one. -/
theorem exists_isLongest {d : Plain} (h : d.chars <+: cs) : ∃ d : Plain, d.IsLongest cs := by
  by_cases longest : ∀ d' : Plain, d'.chars <+: cs → d'.chars.length ≤ d.chars.length
  · exact ⟨d, h, longest⟩
  · push Not at longest
    obtain ⟨d', h', longer⟩ := longest
    have := h'.length_le
    exact exists_isLongest h'
termination_by cs.length - d.chars.length

theorem exists_isLongest_of_digit {sign : Option Char} {digit : Char} {more : List Char}
    (hs : ∀ c ∈ sign, isSign c) (hd : digit.isDigit) :
    ∃ d : Plain, d.IsLongest (sign.toList ++ digit :: more) := by
  apply exists_isLongest (d := ⟨sign, [digit], none, hs, by simp, by simpa using hd, nofun⟩)
  simp [chars, pointed]

/-! ### Reading decimals -/

/-- What ends a decimal is read as its exponent. -/
theorem unsigned?_append (h : d.Ends rest) :
    unsigned? (d.whole ++ pointed d.fraction ++ rest) =
      (exponent? rest).map fun exponent =>
        nearest (natOfDigits (d.whole ++ d.fraction.getD []))
          (exponent - (d.fraction.getD []).length) := by
  have other : ∀ c ∈ rest.head?, c.isDigit = false := fun c hc => (h c hc).1
  have some_digit : d.whole.isEmpty = false := by simpa using d.whole_ne_nil
  unfold unsigned?
  cases hf : d.fraction with
  | none =>
    have pointless : ∀ more, rest ≠ '.' :: more := by
      rintro more rfl
      simpa [hf] using (h '.' rfl).2 rfl
    rw [pointed, List.append_nil, spanDigits_append d.isDigit_whole other]
    dsimp only
    split
    next more => exact absurd rfl (pointless more)
    next => simp [some_digit]
  | some digits =>
    rw [pointed, List.append_assoc, List.cons_append,
      spanDigits_append d.isDigit_whole (by simp)]
    simp [spanDigits_append (d.isDigit_fraction digits hf) other, some_digit]

theorem takeSign_append (d : Plain) (h : c.isDigit) (cs : List Char) :
    takeSign (d.sign.toList ++ c :: cs) = (decide (d.sign = some '-'), c :: cs) := by
  cases hs : d.sign with
  | none => simpa using takeSign_of_digit h cs
  | some sign =>
    have := d.isSign_sign sign hs
    simp only [isSign, Bool.or_eq_true, decide_eq_true_eq] at this
    rcases this with rfl | rfl <;> rfl

/-- A decimal is read with the exponent that follows it, and with nothing else behind it. -/
theorem read?_append (h : d.Ends rest) :
    read? (String.ofList (d.chars ++ rest)) = (exponent? rest).map d.scaled := by
  obtain ⟨c, cs, hc⟩ := List.exists_cons_of_ne_nil d.whole_ne_nil
  have digit : c.isDigit := d.isDigit_whole c (by simp [hc])
  have unsigned : magnitude? (d.whole ++ (pointed d.fraction ++ rest)) =
      unsigned? (d.whole ++ pointed d.fraction ++ rest) := by
    rw [hc, List.append_assoc]
    exact magnitude?_of_digit digit _
  have signed : takeSign (d.chars ++ rest) =
      (decide (d.sign = some '-'), d.whole ++ (pointed d.fraction ++ rest)) := by
    rw [chars, List.append_assoc, List.append_assoc, hc]
    exact d.takeSign_append digit _
  rw [read?, String.toList_ofList, signed]
  dsimp only
  rw [unsigned, unsigned?_append h, Option.map_map]
  congr 1
  funext exponent
  simp [scaled]

theorem read?_chars (d : Plain) : read? (String.ofList d.chars) = some d.value := by
  have ends : d.Ends [] := nofun
  have read := read?_append ends
  rwa [List.append_nil] at read

end Plain

end ScriptGraph.Decimal
