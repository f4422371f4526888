import Mathlib.Data.List.Basic
import ScriptGraph.Proofs.Text.Base64
import ScriptGraph.Proofs.Text.Blank
import ScriptGraph.Proofs.Text.Utf8
import ScriptGraph.Script.Execute.Outside

/-! # Texts as Base64 and back

What is displayed of a value is written in Base64. The symbols are read as the text that was
displayed, which of a text is the text itself.
-/

namespace ScriptGraph

namespace Text

variable {cs : List Char}

/-- A character of a single byte is written as the byte. -/
theorem Utf8.encode_ofList (h : ∀ c ∈ cs, c.toNat ≤ 127) :
    Utf8.encode (String.ofList cs) = cs.map Base64.byteOf := by
  rw [Utf8.encode, String.toList_ofList, List.map_eq_flatMap]
  exact List.flatMap_congr fun c hc => if_pos (h c hc)

end Text

namespace Script.Execute

open Json (Value)
open Text.Base64 (Padded byteOf encodeChars padded_encodeChars)

/-- The symbols for bytes reach the decoder as they are. -/
theorem encode_trim (bytes : List UInt8) :
    Text.Utf8.encode (Text.trim (Text.Base64.encode bytes)) = (encodeChars bytes).map byteOf := by
  have bounds {c : Char} (hc : c ∈ encodeChars bytes) := (padded_encodeChars bytes).le_toNat hc
  rw [Text.Base64.encode, Text.trim_ofList, Text.Utf8.encode_ofList]
  · intro c hc
    have := bounds hc
    omega
  · intro c hc
    have := bounds hc
    exact Text.isBlank_eq_false (by omega)

theorem decodeText_encodeText (v : Value) :
    decodeText (encodeText v) = .ok (.string (display v)) := by
  unfold decodeText encodeText requireText
  simp only [bind, Except.bind, encode_trim, Text.Base64.decode_encodeChars,
    Text.Utf8.decode_encode]
  rfl

/-- Every value is encoded, as symbols and padding in whole groups of four. They are decoded as what
is displayed of the value, and that is the value itself if it is a text. -/
theorem base64Decode_base64Encode (v : Value) (props props' : Props) :
    ∃ text, base64Encode.apply v props = .ok (.string text) ∧
      Padded (Text.Utf8.encode (display v)).length text.toList ∧
      base64Decode.apply (.string text) props' = .ok (.string (display v)) ∧
      ∀ s, v = .string s → display v = s := by
  refine ⟨_, rfl, ?_, decodeText_encodeText v, ?_⟩
  · rw [Text.Base64.encode, String.toList_ofList]
    exact padded_encodeChars _
  · rintro s rfl
    rfl

end Script.Execute

end ScriptGraph
