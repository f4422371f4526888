import ScriptGraph.Proofs.Json.Spelling
import ScriptGraph.Script.Execute.Data
import ScriptGraph.Source.Pass

/-! # Arguments

An argument is a text that may name a variable. Where it does not, the generator writes a number or
a truth value as it stands and quotes any other text, and the interpreter takes whatever the text
spells out as JSON. The two agree on numbers, on truth values and on what is not JSON.
-/

namespace ScriptGraph

open Json (IsBare Value)
open Script (Machine)
open Source (Draft)

variable {d : Draft} {m : Machine} {text : String}

namespace Source

/-- What an argument is written as. -/
theorem literalOrReference_run (d : Draft) (text : String) :
    (literalOrReference text).run d =
      (if d.names.isDeclared (Text.trim text) then Text.trim text
        else if IsBare (Text.trim text) then Text.trim text
        else Json.quote text, d) := by
  unfold literalOrReference
  rw [StateT.run_bind]
  change StateT.run (if d.names.isDeclared (Text.trim text) then pure _ else _) d = _
  split
  next => rfl
  next =>
    split
    next bare =>
      rw [if_pos (show IsBare _ from bare)]
      rfl
    next bare =>
      rw [if_neg (show ¬ IsBare _ from bare)]
      rfl

end Source

namespace Script

/-- What an argument that names no variable stands for. -/
theorem argumentValue_run (hm : m.bindings.get? (Text.trim text) = none) :
    (Execute.argumentValue text).run m =
      ((Json.parse (Text.trim text)).toOption.getD (.string text), m) := by
  have unbound : (variableValue? (Text.trim text)).run m = (none, m) := congrArg (·, m) hm
  unfold Execute.argumentValue
  rw [StateT.run_bind, unbound]
  cases Json.parse (Text.trim text) <;> rfl

end Script

section

variable (hd : d.names.isDeclared (Text.trim text) = false)
  (hm : m.bindings.get? (Text.trim text) = none)
include hd hm

/-- Of the empty value, of texts in quotes and of structured values the generator writes the text,
and the interpreter takes the value. -/
theorem written_taken_of_not_isBare {v : Value} (hv : Json.parse (Text.trim text) = .ok v)
    (structured : v.isBare = false) :
    ((Source.literalOrReference text).run d).1 = Json.quote text ∧
      ((Script.Execute.argumentValue text).run m).1 = v := by
  have quoted : ¬ IsBare (Text.trim text) := by
    rw [Json.isBare_iff (Text.trimmed_trim text) hv, structured]
    decide
  rw [Script.argumentValue_run hm, Source.literalOrReference_run, if_neg (by simp [hd]),
    if_neg quoted, hv]
  exact ⟨rfl, rfl⟩

theorem parse_written_iff
    (hs : (Decimal.read? (Text.trim text)).isSome → ∃ v, Json.parse (Text.trim text) = .ok v) :
    ∃ v, Json.parse ((Source.literalOrReference text).run d).1 = .ok v ∧
      (v = ((Script.Execute.argumentValue text).run m).1 ↔
        ∀ v', Json.parse (Text.trim text) = .ok v' → v'.isBare) := by
  have trimmed := Text.trimmed_trim text
  rw [Script.argumentValue_run hm, Source.literalOrReference_run, if_neg (by simp [hd])]
  by_cases bare : IsBare (Text.trim text)
  · obtain ⟨v, hv⟩ : ∃ v, Json.parse (Text.trim text) = .ok v := by
      rcases bare with h | h | h
      · exact ⟨.bool true, h ▸ rfl⟩
      · exact ⟨.bool false, h ▸ rfl⟩
      · exact hs h
    rw [if_pos bare, hv]
    refine ⟨v, rfl, iff_of_true rfl fun v' hv' => ?_⟩
    obtain rfl := Except.ok.inj hv'
    exact (Json.isBare_iff trimmed hv).mp bare
  · rw [if_neg bare, Json.parse_quote]
    refine ⟨.string text, rfl, ?_⟩
    cases hv : Json.parse (Text.trim text) with
    | error => exact iff_of_true rfl nofun
    | ok v =>
      refine iff_of_false (fun he => ?_) fun h => bare ((Json.isBare_iff trimmed hv).mpr (h v rfl))
      -- The text would have to be in quotes inside of itself.
      obtain rfl : Value.string text = v := he
      have shorter := Json.length_lt_of_parse trimmed hv
      have := Text.length_trim_le text
      omega

end

end ScriptGraph
