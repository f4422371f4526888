import ScriptGraph.Proofs.Json.RoundTrip
import ScriptGraph.Script.Execute.Outside

/-! # Values as texts and back

A value is written on one line, or with an indent of at most ten blanks. What is written is read as
the value itself, so that all its forms mean the same.
-/

namespace ScriptGraph.Script.Execute

open Json (Legible Style Value)
open Json.Reader (maxDepth)

/-- The styles in which a text is written. -/
inductive Offered : Style → Prop where
  | compact : Offered .compact
  | indented {width : Nat} : 1 ≤ width → width ≤ maxIndent → Offered (.indented width)

theorem clampToNat_le (limit : Nat) (x : Float) : Decimal.clampToNat limit x ≤ limit := by
  unfold Decimal.clampToNat
  split
  · exact Nat.zero_le _
  · cases Decimal.truncate? x with
    | none => exact Nat.le_refl _
    | some n => exact Nat.min_le_right ..

theorem offered_styleOf (space : Float) : Offered (styleOf space) := by
  unfold styleOf
  cases h : Decimal.clampToNat maxIndent space with
  | zero => exact .compact
  | succ width => exact .indented width.succ_pos (h ▸ clampToNat_le maxIndent space)

theorem jsonParse_apply_eq_ok_iff {text : String} {v : Value} {props : Props} :
    jsonParse.apply (.string text) props = .ok v ↔ Json.parse text = .ok v := by
  have run : jsonParse.apply (.string text) props = parseText (.string text) := rfl
  rw [run, parseText, requireText, Json.Reader.ok_bind]
  cases h : Json.parse text with
  | ok result => simp [pure, Except.pure]
  | error error => simp [throw, throwThe, MonadExceptOf.throw]

/-- A text is read as a value only if that is nested no deeper than the reader goes. -/
theorem fits_of_parse {text : String} {v : Value} (h : Json.parse text = .ok v) :
    v.Fits maxDepth := by
  obtain ⟨rest, read, -⟩ := Json.exists_of_run_eq_ok h
  exact Json.Reader.gives_value maxDepth _ _ _ read

/-- Every value is written as a text in one of the styles, whatever a node asks for. In each style
the text is read as the value itself, unless that is nested deeper than the reader goes, if every
double in the value is read from the text that is written of it. -/
theorem jsonParse_jsonStringify {v : Value} (floats : ∀ x ∈ v.floats, Legible x) (props : Props) :
    ∃ style, Offered style ∧
      jsonStringify.apply v props = .ok (.string (v.rendering.toString style)) ∧
      ∀ style props', jsonParse.apply (.string (v.rendering.toString style)) props' = .ok v ↔
        v.Fits maxDepth :=
  ⟨_, offered_styleOf _, rfl, fun style _ => jsonParse_apply_eq_ok_iff.trans
    ⟨fits_of_parse, fun fits => (fits.reads floats).run style⟩⟩

/-- A value with empty containers, the extreme integers, doubles, and a key that is escaped. -/
def assorted : Value :=
  .object [("\n\"", .array [.null, .object [], .array [], .string "\x08\\/é",
      .number (.int 0xFFFFFFFFFFFFFFFF (by decide)), .number (.int (-0x8000000000000000) (by decide))]),
    ("x", .array [.number (.float (-0.0) (by decide)), .number (.float 1.5e-7 (by decide)),
      .bool false])]

theorem assorted_jsonParse_jsonStringify :
    let props : Props := ⟨[("space", .string " 3.9 blanks")], none⟩
    (∀ x ∈ assorted.floats, Legible x) ∧ assorted.Fits maxDepth ∧
      ∃ text, jsonStringify.apply assorted props = .ok (.string text) ∧
        jsonParse.apply (.string text) props = .ok assorted := by
  intro props
  have legible : ∀ x ∈ assorted.floats, Legible x := by decide +kernel
  have fits : assorted.Fits maxDepth := by
    refine .object (by unfold Json.Members.Sorted; decide +kernel) ?_
    simp only [List.forall_mem_cons]
    refine ⟨.array ?_, .array ?_, List.forall_mem_nil _⟩ <;> simp only [List.forall_mem_cons]
    · exact ⟨.null _, .object .nil (List.forall_mem_nil _), .array (List.forall_mem_nil _),
        .string .., .number .., .number .., List.forall_mem_nil _⟩
    · exact ⟨.number .., .number .., .bool .., List.forall_mem_nil _⟩
  obtain ⟨style, -, written, read⟩ := jsonParse_jsonStringify legible props
  exact ⟨legible, fits, _, written, (read style props).mpr fits⟩

end ScriptGraph.Script.Execute
