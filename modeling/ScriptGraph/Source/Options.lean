import ScriptGraph.Json.Record

/-! # Options of generation

Switches that shape the generated text. Settings files use older names for them, and both spellings
are read.
-/

namespace ScriptGraph.Source

structure Options where
  emitStrictHeader : Bool := true
  emitSemicolons : Bool := true
  preferConst : Bool := false
  emitComments : Bool := true
  deriving DecidableEq

namespace Options

/-- Every switch off. -/
def minimal : Options := ⟨false, false, false, false⟩

open Json.Reader

def read : (depth : Nat) → List Char → Except Json.Failure (Options × List Char) :=
  let switch (name older : String) (store : Options → Bool → Options) : RecordField Options :=
    (RecordField.of name false (fun _ => boolean) store).orAlias older
  record "GeneratorOptions" [
    switch "emitStrictHeader" "useStrict" fun o b => { o with emitStrictHeader := b },
    switch "emitSemicolons" "useSemicolons" fun o b => { o with emitSemicolons := b },
    switch "preferConstOverMutable" "useConst" fun o b => { o with preferConst := b },
    switch "emitExplanatoryComments" "generateComments" fun o b => { o with emitComments := b }]
    {}

/-- The options that a JSON text holds; what it does not name has its default. -/
def ofJson (text : String) : Except Json.ReadError Options :=
  run (read maxDepth) text

end Options

end ScriptGraph.Source
