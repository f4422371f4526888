import ScriptGraph.Text.Base64

/-! # Base64 and back

What is written for bytes are symbols of the alphabet in whole groups of four, filled up with
padding at the end. They are read as the same bytes.
-/

namespace ScriptGraph.Text.Base64

/-- The characters of the alphabet. -/
def IsSymbol (c : Char) : Prop :=
  ('A' ≤ c ∧ c ≤ 'Z') ∨ ('a' ≤ c ∧ c ≤ 'z') ∨ ('0' ≤ c ∧ c ≤ '9') ∨ c = '+' ∨ c = '/'

instance (c : Char) : Decidable (IsSymbol c) :=
  inferInstanceAs (Decidable (_ ∨ _))

/-- How many characters complete the last group for so many bytes. -/
def padding (count : Nat) : Nat :=
  (3 - count % 3) % 3

/-- What is written for so many bytes: a symbol for every six bits that are begun, and padding that
completes the last group of four. -/
structure Padded (count : Nat) (cs : List Char) : Prop where
  split : ∃ symbols, cs = symbols ++ List.replicate (padding count) '=' ∧
    (∀ c ∈ symbols, IsSymbol c) ∧ symbols.length = (8 * count + 5) / 6
  length_eq : cs.length = 4 * ((count + 2) / 3)

/-- The byte of a character that has no other. -/
def byteOf (c : Char) : UInt8 :=
  UInt8.ofNat c.toNat

variable {n base offset pads : Nat} {values : List Nat} {rest : List UInt8}

/-! ### Symbols -/

/-- The symbol of a six bit number is read as the number, and is no padding. -/
theorem symbol_reads (h : n < 64) : IsSymbol (symbol n) ∧
    value? (byteOf (symbol n)) = some n ∧ byteOf (symbol n) ≠ pad :=
  (by decide : ∀ n < 64, IsSymbol (symbol n) ∧ value? (byteOf (symbol n)) = some n ∧
    byteOf (symbol n) ≠ pad) n h

theorem isSymbol_symbol (h : n < 64) : IsSymbol (symbol n) :=
  (symbol_reads h).1

theorem valueAt_symbol (h : n < 64) (offset : Nat) :
    valueAt (byteOf (symbol n)) offset = .ok n := by
  rw [valueAt, (symbol_reads h).2.1]

theorem le_toNat_of_isSymbol {c : Char} (h : IsSymbol c) : 43 ≤ c.toNat ∧ c.toNat ≤ 122 := by
  have order {a b : Char} (h : a ≤ b) : a.toNat ≤ b.toNat := UInt32.le_iff_toNat_le.mp h
  rcases h with ⟨low, high⟩ | ⟨low, high⟩ | ⟨low, high⟩ | rfl | rfl
  · exact ⟨Nat.le_trans (by decide) (order low), Nat.le_trans (order high) (by decide)⟩
  · exact ⟨Nat.le_trans (by decide) (order low), order high⟩
  · exact ⟨Nat.le_trans (by decide) (order low), Nat.le_trans (order high) (by decide)⟩
  · decide
  · decide

/-- Symbols and padding are visible characters of a single byte. -/
theorem Padded.le_toNat {count : Nat} {cs : List Char} (h : Padded count cs) {c : Char}
    (hc : c ∈ cs) : 43 ≤ c.toNat ∧ c.toNat ≤ 122 := by
  obtain ⟨symbols, rfl, hs, -⟩ := h.split
  rcases List.mem_append.mp hc with hc | hc
  · exact le_toNat_of_isSymbol (hs c hc)
  · rw [List.eq_of_mem_replicate hc]
    decide

theorem padded_encodeChars (bytes : List UInt8) : Padded bytes.length (encodeChars bytes) := by
  fun_induction encodeChars bytes with
  | case1 => exact ⟨⟨[], rfl, by simp, rfl⟩, rfl⟩
  | case2 a n =>
    have := a.toNat_lt
    refine ⟨⟨[symbol (n / 64), symbol (n % 64)], rfl, ?_, by simp⟩, by simp⟩
    simp only [List.forall_mem_cons]
    exact ⟨isSymbol_symbol (by omega), isSymbol_symbol (by omega), List.forall_mem_nil _⟩
  | case3 a b n =>
    have := a.toNat_lt
    have := b.toNat_lt
    refine ⟨⟨[symbol (n / 4096), symbol (n / 64 % 64), symbol (n % 64)], rfl, ?_, by simp⟩,
      by simp⟩
    simp only [List.forall_mem_cons]
    exact ⟨isSymbol_symbol (by omega), isSymbol_symbol (by omega), isSymbol_symbol (by omega),
      List.forall_mem_nil _⟩
  | case4 a b c rest n ih =>
    have := a.toNat_lt
    have := b.toNat_lt
    have := c.toNat_lt
    obtain ⟨⟨symbols, he, hs, hl⟩, hw⟩ := ih
    have same : padding (a :: b :: c :: rest).length = padding rest.length := by
      simp only [padding, List.length_cons]
      omega
    refine ⟨⟨symbol (n / 262144) :: symbol (n / 4096 % 64) :: symbol (n / 64 % 64) ::
      symbol (n % 64) :: symbols, ?_, ?_, ?_⟩, ?_⟩
    · rw [same, he]
      rfl
    · simp only [List.forall_mem_cons]
      exact ⟨isSymbol_symbol (by omega), isSymbol_symbol (by omega), isSymbol_symbol (by omega),
        isSymbol_symbol (by omega), hs⟩
    · simp only [List.length_cons, hl]
      omega
    · simp only [List.length_cons, hw]
      omega

/-! ### Groups -/

theorem lastValues_symbol (h : n < 64) :
    lastValues base offset values none pads (byteOf (symbol n) :: rest) =
      lastValues base (offset + 1) (values ++ [n]) none pads rest := by
  rw [lastValues.eq_def]
  simp only [if_neg (symbol_reads h).2.2, valueAt_symbol h]
  rfl

theorem lastValues_pad (h : base + 2 ≤ offset) (first : Option Nat) :
    lastValues base offset values first pads (byteOf '=' :: rest) =
      lastValues base (offset + 1) values (first.or (some offset)) (pads + 1) rest := by
  rw [lastValues.eq_def]
  simp only [if_neg (Nat.not_lt.mpr h)]
  rfl

theorem decodeLast_two (base : Nat) {v w : Nat} (hv : v < 64) (hw : w < 64) (whole : w % 16 = 0) :
    decodeLast base ([symbol v, symbol w, '=', '='].map byteOf) =
      .ok [UInt8.ofNat (v * 4 + w / 16)] := by
  simp only [decodeLast, List.map_cons, List.map_nil, lastValues_symbol hv, lastValues_symbol hw,
    lastValues_pad (Nat.le_refl _), lastValues_pad (Nat.le_succ _)]
  simp only [lastValues, bind, Except.bind, List.nil_append, List.singleton_append, whole]
  rfl

theorem decodeLast_three (base : Nat) {v w x : Nat} (hv : v < 64) (hw : w < 64) (hx : x < 64)
    (whole : x % 4 = 0) :
    decodeLast base ([symbol v, symbol w, symbol x, '='].map byteOf) =
      .ok [UInt8.ofNat (v * 4 + w / 16), UInt8.ofNat (w % 16 * 16 + x / 4)] := by
  simp only [decodeLast, List.map_cons, List.map_nil, lastValues_symbol hv, lastValues_symbol hw,
    lastValues_symbol hx, lastValues_pad (Nat.le_succ _)]
  simp only [lastValues, bind, Except.bind, List.nil_append, List.cons_append, whole]
  rfl

theorem decodeLast_four (base : Nat) {v w x y : Nat} (hv : v < 64) (hw : w < 64) (hx : x < 64)
    (hy : y < 64) :
    decodeLast base ([symbol v, symbol w, symbol x, symbol y].map byteOf) =
      .ok [UInt8.ofNat (v * 4 + w / 16), UInt8.ofNat (w % 16 * 16 + x / 4),
        UInt8.ofNat (x % 4 * 64 + y)] := by
  simp only [decodeLast, List.map_cons, List.map_nil, lastValues_symbol hv, lastValues_symbol hw,
    lastValues_symbol hx, lastValues_symbol hy]
  simp only [lastValues, bind, Except.bind, List.nil_append, List.cons_append]
  rfl

/-- A group that something follows is read like the last one. -/
theorem decodeFrom_group (offset : Nat) {v w x y : Nat} (hv : v < 64) (hw : w < 64) (hx : x < 64)
    (hy : y < 64) (hr : rest ≠ []) :
    decodeFrom offset ([symbol v, symbol w, symbol x, symbol y].map byteOf ++ rest) =
      ([UInt8.ofNat (v * 4 + w / 16), UInt8.ofNat (w % 16 * 16 + x / 4),
        UInt8.ofNat (x % 4 * 64 + y)] ++ ·) <$> decodeFrom (offset + 4) rest := by
  obtain ⟨next, rest, rfl⟩ := List.exists_cons_of_ne_nil hr
  simp only [List.map_cons, List.map_nil, List.cons_append, List.nil_append, decodeFrom,
    valueAt_symbol hv, valueAt_symbol hw, valueAt_symbol hx, valueAt_symbol hy]
  cases decodeFrom (offset + 4) (next :: rest) <;> rfl

theorem ofNat_eq {a : UInt8} (h : n = a.toNat) : UInt8.ofNat n = a := by
  rw [h, UInt8.ofNat_toNat]

/-! ### Whole texts -/

theorem encodeChars_ne_nil {bytes : List UInt8} (h : bytes ≠ []) : encodeChars bytes ≠ [] := by
  fun_cases encodeChars bytes with
  | case1 => exact absurd rfl h
  | _ => exact List.cons_ne_nil _ _

theorem decodeFrom_encodeChars {bytes : List UInt8} (h : bytes ≠ []) (offset : Nat) :
    decodeFrom offset ((encodeChars bytes).map byteOf) = .ok bytes := by
  fun_induction encodeChars bytes generalizing offset with
  | case1 => exact absurd rfl h
  | case2 a n =>
    have := a.toNat_lt
    have read := decodeLast_two offset (show n / 64 < 64 by omega)
      (show n % 64 < 64 by omega) (by omega)
    rw [ofNat_eq (a := a) (by omega)] at read
    exact read
  | case3 a b n =>
    have := a.toNat_lt
    have := b.toNat_lt
    have read := decodeLast_three offset (show n / 4096 < 64 by omega)
      (show n / 64 % 64 < 64 by omega) (show n % 64 < 64 by omega) (by omega)
    rw [ofNat_eq (a := a) (by omega), ofNat_eq (a := b) (by omega)] at read
    exact read
  | case4 a b c rest n ih =>
    have := a.toNat_lt
    have := b.toNat_lt
    have := c.toNat_lt
    have first : n / 262144 < 64 := by omega
    have second : n / 4096 % 64 < 64 := by omega
    have third : n / 64 % 64 < 64 := by omega
    have fourth : n % 64 < 64 := by omega
    have bytes : [UInt8.ofNat (n / 262144 * 4 + n / 4096 % 64 / 16),
        UInt8.ofNat (n / 4096 % 64 % 16 * 16 + n / 64 % 64 / 4),
        UInt8.ofNat (n / 64 % 64 % 4 * 64 + n % 64)] = [a, b, c] := by
      rw [ofNat_eq (a := a) (by omega), ofNat_eq (a := b) (by omega), ofNat_eq (a := c) (by omega)]
    by_cases hr : rest = []
    · subst hr
      have read := decodeLast_four offset first second third fourth
      rw [bytes] at read
      exact read
    · have more : (encodeChars rest).map byteOf ≠ [] := fun he =>
        encodeChars_ne_nil hr (List.map_eq_nil_iff.mp he)
      have read := decodeFrom_group offset first second third fourth more
      rw [bytes, ih hr] at read
      exact read

/-- The symbols of bytes are read as the bytes. -/
theorem decode_encodeChars (bytes : List UInt8) :
    decode ((encodeChars bytes).map byteOf) = .ok bytes := by
  by_cases he : bytes = []
  · rw [he]
    rfl
  have groups : ((encodeChars bytes).map byteOf).length % 4 ≠ 1 := by
    rw [List.length_map, (padded_encodeChars bytes).length_eq]
    omega
  have some := List.getLast?_eq_some_getLast (fun empty =>
    encodeChars_ne_nil he (List.map_eq_nil_iff.mp empty) : (encodeChars bytes).map byteOf ≠ [])
  rw [decode, some]
  dsimp only
  rw [if_neg fun single => groups single.1, decodeFrom_encodeChars he]

example : encodeChars [0xC3, 0xA9, 0x21, 0x3F] = "w6khPw==".toList := by
  decide

end ScriptGraph.Text.Base64
