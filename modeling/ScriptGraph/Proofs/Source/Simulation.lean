import ScriptGraph.Proofs.Kind.Properties
import ScriptGraph.Proofs.Walk.Simulation
import ScriptGraph.Source.Generator

/-! # Emitters side by side

Two passes stay related over everything that the built-in emitters do if they do over the few things
that emitters are made of. The nodes that they emit may differ, as long as they have the same
properties.
-/

namespace ScriptGraph.Source

open Emit

/-- The kinds whose emitters tell which kind of node lacks its input. -/
def conversions : List Kind :=
  [.jsonParse, .jsonStringify, .base64Encode, .base64Decode]

/-- Two passes do alike at two nodes whatever emitters are made of, as far as a relation can
tell. -/
structure Setting.Similar (R : Draft → Draft → Prop) (s s' : Setting) (v v' : Node) : Prop where
  props : (s.props v).Agree (s'.props v')
  log (e : Event) : Simulates R (log e) (log e)
  indent : Simulates R indent indent
  dedent : Simulates R dedent dedent
  freshName (base : String) : Simulates R (freshName base) (freshName base)
  isDeclared (name : String) : Simulates R (isDeclared name) (isDeclared name)
  record (port : Nat) (expression : String) :
    Simulates R (record v port expression) (record v' port expression)
  /-- The first input is the one that control comes by. -/
  input {index : Nat} (hi : index ≠ 0) : Simulates R (s.input v index) (s'.input v' index)
  declareVariable (assigned : Option String) :
    Simulates R (s.declareVariable v assigned) (s'.declareVariable v' assigned)
  declareResult (name value : String) :
    Simulates R (write (.declare s.resultKeyword name (some value)))
      (write (.declare s'.resultKeyword name (some value)))
  recordPrimary (expression : String) :
    Simulates R (s.recordPrimary v expression) (s'.recordPrimary v' expression)

variable {R : Draft → Draft → Prop} {s s' : Setting} {v v' : Node}

namespace Setting.Similar

variable (h : s.Similar R s' v v')
include h

theorem write (statement : Statement) : Simulates R (write statement) (write statement) :=
  h.log _

theorem line (text : String) : Simulates R (line text) (line text) :=
  h.log _

theorem warn (message : String) : Simulates R (warn message) (warn message) :=
  h.log _

theorem block {x y : EmitM Unit} (hx : Simulates R x y) : Simulates R (block x) (block y) :=
  h.indent.bind fun _ => hx.bind fun _ => h.dedent

theorem guarded {body body' handler handler' : EmitM Unit} (hb : Simulates R body body')
    (hh : Simulates R handler handler') :
    Simulates R (guarded body handler) (guarded body' handler') := by
  refine (h.line _).bind fun _ => (h.block hb).bind fun _ => ?_
  exact (h.line _).bind fun _ => (h.block hh).bind fun _ => h.line _

theorem bindResult (base value : String) :
    Simulates R (bindResult s v base value) (bindResult s' v' base value) := by
  refine (h.freshName base).bind fun result => ?_
  exact (h.declareResult result value).bind fun _ => h.recordPrimary result

theorem literalOrReference (text : String) :
    Simulates R (literalOrReference text) (literalOrReference text) :=
  (h.isDeclared _).bind fun _ => .ite (.pure _) (.ite (.pure _) (.pure _))

theorem conditionOf : Simulates R (conditionOf s v) (conditionOf s' v') := by
  unfold Emit.conditionOf
  rw [h.props.nonEmpty?_eq]
  exact (h.input (by decide)).bind fun _ => .pure _

end Setting.Similar

section

variable (visit visit' : Node → EmitM Unit) (h : s.Similar R s' v v')
include h

theorem simulates_mathOperation :
    Simulates R (mathOperation s visit v) (mathOperation s' visit' v') := by
  unfold mathOperation
  rw [h.props.nonEmpty?_eq]
  refine (h.input (by decide)).bind fun a => (h.input (by decide)).bind fun b => ?_
  cases a with
  | none => exact (h.warn _).bind fun _ => .pure _
  | some a =>
    cases b with
    | none => exact (h.warn _).bind fun _ => .pure _
    | some b => exact (h.recordPrimary _).bind fun _ => .pure _

theorem simulates_var : Simulates R (var s visit v) (var s' visit' v') := by
  unfold var
  rw [h.props.nonEmpty?_eq]
  cases (s'.props v').nonEmpty? "name" with
  | none => exact (h.warn _).bind fun _ => .pure _
  | some name =>
    refine (h.input (by decide)).bind fun assigned => (h.isDeclared name).bind fun declared => ?_
    refine .ite ((h.declareVariable assigned).bind fun _ => .pure _) ?_
    cases assigned with
    | none => exact .pure _
    | some value => exact .ite ((h.write _).bind fun _ => .pure _) (.pure _)

theorem simulates_random : Simulates R (random s visit v) (random s' visit' v') := by
  unfold random
  dsimp only
  simp only [h.props.text_eq, h.props.number?_eq, h.props.nonEmpty?_eq]
  refine .ite ((h.bindResult _ _).bind fun _ => .pure _) (.ite ?_ (.ite ?_ ?_))
  · refine (h.freshName _).bind fun index => (h.freshName _).bind fun result => ?_
    refine (h.write _).bind fun _ => (h.line _).bind fun _ => ?_
    refine (h.block (h.write _)).bind fun _ => (h.line _).bind fun _ => ?_
    exact (h.recordPrimary _).bind fun _ => .pure _
  · exact (h.bindResult _ _).bind fun _ => .pure _
  · exact (h.warn _).bind fun _ => .pure _

theorem simulates_arrayOperation :
    Simulates R (arrayOperation s visit v) (arrayOperation s' visit' v') := by
  unfold arrayOperation
  dsimp only
  simp only [h.props.text_eq]
  refine (h.input (by decide)).bind fun array => ?_
  cases array with
  | none => exact (h.warn _).bind fun _ => .pure _
  | some array =>
    refine .ite ?_ (.ite ?_ (.ite ?_ ?_))
    · refine (h.literalOrReference _).bind fun value => (h.line _).bind fun _ => ?_
      exact (h.recordPrimary _).bind fun _ => .pure _
    · exact (h.bindResult _ _).bind fun _ => .pure _
    · exact (h.bindResult _ _).bind fun _ => .pure _
    · exact (h.warn _).bind fun _ => .pure _

theorem simulates_objectOperation :
    Simulates R (objectOperation s visit v) (objectOperation s' visit' v') := by
  unfold objectOperation
  dsimp only
  simp only [h.props.text_eq]
  refine (h.input (by decide)).bind fun object => ?_
  cases object with
  | none => exact (h.warn _).bind fun _ => .pure _
  | some object =>
    refine .ite ?_ (.ite ?_ (.ite ?_ (.ite ?_ ?_)))
    · exact (h.bindResult _ _).bind fun _ => .pure _
    · refine (h.literalOrReference _).bind fun value => (h.line _).bind fun _ => ?_
      exact (h.recordPrimary _).bind fun _ => .pure _
    · exact (h.line _).bind fun _ => (h.recordPrimary _).bind fun _ => .pure _
    · exact (h.bindResult _ _).bind fun _ => .pure _
    · exact (h.warn _).bind fun _ => .pure _

theorem simulates_function : Simulates R (function s visit v) (function s' visit' v') := by
  unfold function
  dsimp only
  simp only [h.props.nonEmpty?_eq, h.props "parameters"]
  cases (s'.props v').nonEmpty? "name" with
  | none => exact (h.warn _).bind fun _ => .pure _
  | some name =>
    refine
      (Simulates.mapM (fun index => (h.input index.succ_ne_zero).bind fun _ => .pure _) _).bind ?_
    intro arguments
    exact .ite ((h.line _).bind fun _ => .pure _) ((h.bindResult _ _).bind fun _ => .pure _)

theorem simulates_log : Simulates R (Emit.log s visit v) (Emit.log s' visit' v') := by
  unfold Emit.log
  dsimp only
  rw [h.props.nonEmpty?_eq, h.props.nonEmpty?_eq]
  exact (h.input (by decide)).bind fun _ => (h.line _).bind fun _ => .pure _

theorem simulates_httpRequest :
    Simulates R (httpRequest s visit v) (httpRequest s' visit' v') := by
  unfold httpRequest
  dsimp only
  simp only [h.props.text_eq, h.props.nonEmpty?_eq, h.props.members_eq]
  refine (h.freshName _).bind fun body => (h.freshName _).bind fun status => ?_
  refine (h.freshName _).bind fun headers => (h.write _).bind fun _ => ?_
  refine (h.guarded ?_ (h.line _)).bind fun _ => ?_
  · refine (h.line _).bind fun _ => (h.block ?_).bind fun _ => ?_
    · exact (h.line _).bind fun _ => (h.line _).bind fun _ => .ite (h.line _) (.pure _)
    · refine (h.line _).bind fun _ => (h.write _).bind fun _ => ?_
      exact (h.write _).bind fun _ => h.write _
  · refine (h.record _ _).bind fun _ => (h.record _ _).bind fun _ => ?_
    exact (h.record _ _).bind fun _ => .pure _

theorem simulates_convert (c : Conversion) (hk : v.kind = v'.kind)
    (hc : ∀ input, c.call input (s.props v) = c.call input (s'.props v')) :
    Simulates R (convert c s visit v) (convert c s' visit' v') := by
  unfold convert
  rw [hk]
  simp only [hc]
  refine (h.input (by decide)).bind fun input => ?_
  cases input with
  | none => exact (h.warn _).bind fun _ => .pure _
  | some input =>
    refine (h.freshName _).bind fun result => (h.write _).bind fun _ => ?_
    refine (h.guarded (h.write _) ((h.line _).bind fun _ => h.write _)).bind fun _ => ?_
    exact (h.recordPrimary _).bind fun _ => .pure _

theorem simulates_waitForSeconds :
    Simulates R (waitForSeconds s visit v) (waitForSeconds s' visit' v') := by
  unfold waitForSeconds
  rw [h.props.number?_eq]
  exact (h.line _).bind fun _ => .pure _

/-! ### Emitters that branch -/

variable {visit visit'}
  (hb : ∀ port, Simulates R (s.branch visit v port) (s'.branch visit' v' port))
include hb

theorem simulates_twoWay (condition : String) :
    Simulates R (twoWay s visit v condition) (twoWay s' visit' v' condition) := by
  refine (h.line _).bind fun _ => (h.block (hb 0)).bind fun _ => ?_
  refine (h.line _).bind fun _ => (h.block (hb 1)).bind fun _ => ?_
  exact (h.line _).bind fun _ => .pure _

theorem simulates_ifThen : Simulates R (ifThen s visit v) (ifThen s' visit' v') := by
  unfold ifThen
  rw [h.props.nonEmpty?_eq]
  refine (h.input (by decide)).bind fun a => (h.input (by decide)).bind fun b => ?_
  cases a with
  | none => exact (h.warn _).bind fun _ => .pure _
  | some a =>
    cases b with
    | none => exact (h.warn _).bind fun _ => .pure _
    | some b => exact simulates_twoWay h hb _

theorem simulates_caseBlock (label : String) (port : Nat) :
    Simulates R (caseBlock s visit v label port) (caseBlock s' visit' v' label port) :=
  (h.line _).bind fun _ => h.block ((hb port).bind fun _ => h.line _)

theorem simulates_caseBlocks (ignoreCase : Bool) (index : Nat) (cases : List SwitchCase) :
    Simulates R (caseBlocks s visit v ignoreCase index cases)
      (caseBlocks s' visit' v' ignoreCase index cases) := by
  induction cases generalizing index with
  | nil => exact .pure ()
  | cons c cases ih => exact (simulates_caseBlock h hb _ _).bind fun _ => ih (index + 1)

theorem simulates_switch : Simulates R (switch s visit v) (switch s' visit' v') := by
  unfold switch
  dsimp only
  rw [h.props.flag_eq, h.props]
  refine (h.input (by decide)).bind fun value => ?_
  cases value with
  | none => exact (h.warn _).bind fun _ => .pure _
  | some value =>
    refine (h.line _).bind fun _ => (h.block ?_).bind fun _ => (h.line _).bind fun _ => .pure _
    exact (simulates_caseBlocks h hb _ _ _).bind fun _ => simulates_caseBlock h hb _ _

theorem simulates_loop (header : String) :
    Simulates R (loop s visit v header) (loop s' visit' v' header) := by
  refine (h.line _).bind fun _ => (h.block (hb 0)).bind fun _ => ?_
  exact (h.line _).bind fun _ => .pure _

theorem simulates_forLoop : Simulates R (forLoop s visit v) (forLoop s' visit' v') := by
  unfold forLoop
  dsimp only
  simp only [h.props.number?_eq]
  refine .ite ((h.warn _).bind fun _ => .pure _) ?_
  exact (h.freshName _).bind fun index => simulates_loop h hb _

/-- The built-in emitters are made of things that two similar passes do alike. Those of conversions
also name the kind of their node. -/
theorem simulates_builtin (kind : Kind) (hk : kind ∈ conversions → v.kind = v'.kind) :
    Simulates R (Emit.builtin kind s visit v) (Emit.builtin kind s' visit' v') := by
  cases kind with
  | onStart | constant => exact .pure _
  | ifThen => exact simulates_ifThen h hb
  | condition => exact h.conditionOf.bind fun _ => simulates_twoWay h hb _
  | switch => exact simulates_switch h hb
  | whileLoop => exact h.conditionOf.bind fun _ => simulates_loop h hb _
  | forLoop => exact simulates_forLoop h hb
  | waitForSeconds => exact simulates_waitForSeconds visit visit' h
  | var => exact simulates_var visit visit' h
  | mathOperation => exact simulates_mathOperation visit visit' h
  | random => exact simulates_random visit visit' h
  | arrayOperation => exact simulates_arrayOperation visit visit' h
  | objectOperation => exact simulates_objectOperation visit visit' h
  | function => exact simulates_function visit visit' h
  | log => exact simulates_log visit visit' h
  | httpRequest => exact simulates_httpRequest visit visit' h
  | jsonParse => exact simulates_convert visit visit' h _ (hk (by decide)) fun _ => rfl
  | jsonStringify =>
    refine simulates_convert visit visit' h _ (hk (by decide)) fun input => ?_
    unfold jsonStringify
    dsimp only
    rw [h.props.number?_eq]
  | base64Encode => exact simulates_convert visit visit' h _ (hk (by decide)) fun _ => rfl
  | base64Decode => exact simulates_convert visit visit' h _ (hk (by decide)) fun _ => rfl

end

end ScriptGraph.Source
