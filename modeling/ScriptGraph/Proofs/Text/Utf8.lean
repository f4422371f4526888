import Mathlib.Tactic.SplitIfs
import ScriptGraph.Text.Utf8

/-! # Reading the bytes of a text

The bytes of a text are read as the text itself. Each character is recognised by the first of its
bytes, and those that follow belong to it.
-/

namespace ScriptGraph.Text.Utf8

variable {a b c d : UInt8} {rest : List UInt8}

/-! ### The front of a byte sequence -/

theorem isContinuation_iff : isContinuation b ↔ 128 ≤ b.toNat ∧ b.toNat ≤ 191 := by
  simp [isContinuation, UInt8.le_iff_toNat_le]

theorem inSecondRange_iff : inSecondRange a b ↔
    (if a.toNat = 224 then 160 else if a.toNat = 240 then 144 else 128) ≤ b.toNat ∧
      b.toNat ≤ if a.toNat = 237 then 159 else if a.toNat = 244 then 143 else 191 := by
  unfold inSecondRange secondRange
  simp only [← UInt8.toNat_inj, UInt8.le_iff_toNat_le, Bool.and_eq_true, decide_eq_true_eq,
    UInt8.reduceToNat]
  split_ifs <;> simp_all

theorem front_one (ha : a.toNat < 128) : front a rest = .char (Char.ofNat a.toNat) 1 := by
  simp [front, UInt8.lt_iff_toNat_lt, ha]

theorem front_two (ha : 194 ≤ a.toNat) (ha' : a.toNat < 224) (hb : isContinuation b) :
    front a (b :: rest) = .char (Char.ofNat (a.toNat % 32 * 64 + payload b)) 2 := by
  have long : ¬ a.toNat < 128 := by omega
  have valid : ¬ (a.toNat < 194 ∨ 244 < a.toNat) := by omega
  simp [front, UInt8.lt_iff_toNat_lt, long, valid, ha', hb]

theorem front_three (ha : 224 ≤ a.toNat) (ha' : a.toNat < 240) (hb : inSecondRange a b)
    (hc : isContinuation c) : front a (b :: c :: rest) =
      .char (Char.ofNat ((a.toNat % 16 * 64 + payload b) * 64 + payload c)) 3 := by
  have long : ¬ a.toNat < 128 := by omega
  have valid : ¬ (a.toNat < 194 ∨ 244 < a.toNat) := by omega
  have longer : ¬ a.toNat < 224 := by omega
  simp [front, UInt8.lt_iff_toNat_lt, long, valid, longer, ha', hb, hc]

theorem front_four (ha : 240 ≤ a.toNat) (ha' : a.toNat ≤ 244) (hb : inSecondRange a b)
    (hc : isContinuation c) (hd : isContinuation d) : front a (b :: c :: d :: rest) =
      .char (Char.ofNat (((a.toNat % 8 * 64 + payload b) * 64 + payload c) * 64 + payload d))
        4 := by
  have long : ¬ a.toNat < 128 := by omega
  have valid : ¬ (a.toNat < 194 ∨ 244 < a.toNat) := by omega
  have longer : ¬ a.toNat < 224 := by omega
  have longest : ¬ a.toNat < 240 := by omega
  simp [front, UInt8.lt_iff_toNat_lt, long, valid, longer, longest, hb, hc, hd]

/-! ### The bytes of a character -/

theorem toNat_continuation (n : Nat) : (UInt8.ofNat (n % 64 + 128)).toNat = n % 64 + 128 := by
  rw [UInt8.toNat_ofNat', Nat.mod_eq_of_lt (by omega)]

theorem isContinuation_ofNat (n : Nat) : isContinuation (UInt8.ofNat (n % 64 + 128)) := by
  rw [isContinuation_iff, toNat_continuation]
  omega

theorem payload_ofNat (n : Nat) : payload (UInt8.ofNat (n % 64 + 128)) = n % 64 := by
  rw [payload, toNat_continuation]
  omega

/-- The bytes of a character are read as the character, whatever follows them. -/
theorem front_utf8EncodeChar (c : Char) (rest : List UInt8) :
    ∃ lead tail, String.utf8EncodeChar c = lead :: tail ∧
      front lead (tail ++ rest) = .char c (tail.length + 1) := by
  have valid : c.toNat < 0xD800 ∨ 0xDFFF < c.toNat ∧ c.toNat < 0x110000 := c.valid
  have self {n : Nat} (h : n = c.toNat) : Char.ofNat n = c := h ▸ c.ofNat_toNat
  simp only [String.utf8EncodeChar, Char.toNat_val]
  by_cases one : c.toNat ≤ 127
  · have lead : (UInt8.ofNat c.toNat).toNat = c.toNat := by
      rw [UInt8.toNat_ofNat', Nat.mod_eq_of_lt (by omega)]
    refine ⟨_, [], if_pos one, ?_⟩
    rw [front_one (by omega), self lead]
    rfl
  rw [if_neg one]
  by_cases two : c.toNat ≤ 0x7FF
  · have lead : (UInt8.ofNat (c.toNat / 64 % 32 + 192)).toNat = c.toNat / 64 + 192 := by
      rw [UInt8.toNat_ofNat', Nat.mod_eq_of_lt (by omega)]
      omega
    refine ⟨_, [_], if_pos two, ?_⟩
    rw [List.singleton_append, front_two (by omega) (by omega) (isContinuation_ofNat _),
      payload_ofNat, lead, self (by omega)]
    rfl
  rw [if_neg two]
  by_cases three : c.toNat ≤ 0xFFFF
  · have lead : (UInt8.ofNat (c.toNat / 4096 % 16 + 224)).toNat = c.toNat / 4096 + 224 := by
      rw [UInt8.toNat_ofNat', Nat.mod_eq_of_lt (by omega)]
      omega
    have second : inSecondRange (UInt8.ofNat (c.toNat / 4096 % 16 + 224))
        (UInt8.ofNat (c.toNat / 64 % 64 + 128)) := by
      rw [inSecondRange_iff, lead, toNat_continuation]
      split_ifs <;> omega
    refine ⟨_, [_, _], if_pos three, ?_⟩
    rw [List.cons_append, List.singleton_append,
      front_three (by omega) (by omega) second (isContinuation_ofNat _),
      payload_ofNat, payload_ofNat, lead, self (by omega)]
    rfl
  · have lead : (UInt8.ofNat (c.toNat / 262144 % 8 + 240)).toNat = c.toNat / 262144 + 240 := by
      rw [UInt8.toNat_ofNat', Nat.mod_eq_of_lt (by omega)]
      omega
    have second : inSecondRange (UInt8.ofNat (c.toNat / 262144 % 8 + 240))
        (UInt8.ofNat (c.toNat / 4096 % 64 + 128)) := by
      rw [inSecondRange_iff, lead, toNat_continuation]
      split_ifs <;> omega
    refine ⟨_, [_, _, _], if_neg three, ?_⟩
    rw [List.cons_append, List.cons_append, List.singleton_append,
      front_four (by omega) (by omega) second (isContinuation_ofNat _) (isContinuation_ofNat _),
      payload_ofNat, payload_ofNat, payload_ofNat, lead, self (by omega)]
    rfl

/-! ### Whole texts -/

theorem decodeFrom_skip (index : Nat) (bytes rest : List UInt8) :
    decodeFrom index bytes.length (bytes ++ rest) = decodeFrom (index + bytes.length) 0 rest := by
  induction bytes generalizing index with
  | nil => rfl
  | cons b bytes ih =>
    rw [List.length_cons, List.cons_append, decodeFrom, ih, Nat.add_right_comm, Nat.add_assoc]

theorem decodeFrom_utf8EncodeChar (index : Nat) (c : Char) (rest : List UInt8) :
    decodeFrom index 0 (String.utf8EncodeChar c ++ rest) =
      (c :: ·) <$> decodeFrom (index + (String.utf8EncodeChar c).length) 0 rest := by
  obtain ⟨lead, tail, he, read⟩ := front_utf8EncodeChar c rest
  rw [he, List.cons_append, decodeFrom, read]
  dsimp only
  rw [Nat.add_sub_cancel, decodeFrom_skip, List.length_cons, Nat.add_right_comm, Nat.add_assoc]

theorem decodeFrom_flatMap (index : Nat) (cs : List Char) :
    decodeFrom index 0 (cs.flatMap String.utf8EncodeChar) = .ok cs := by
  induction cs generalizing index with
  | nil => rfl
  | cons c cs ih =>
    rw [List.flatMap_cons, decodeFrom_utf8EncodeChar, ih]
    rfl

/-- The bytes of a text are read as the text. -/
theorem decode_encode (s : String) : decode (encode s) = .ok s := by
  unfold decode encode
  rw [decodeFrom_flatMap]
  exact congrArg Except.ok s.ofList_toList

end ScriptGraph.Text.Utf8
