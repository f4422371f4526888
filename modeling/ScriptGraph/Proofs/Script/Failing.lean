import ScriptGraph.Proofs.Script.Reading

/-! # Failing executions

An execution that fails leaves nothing behind but the variables that it was the first to read: what
else it stores or records comes after the last of its checks.
-/

namespace ScriptGraph.Script

open Json (Value)

variable {s : Setting} {v : Node} {m m' m'' : Machine} {α : Type}

/-- A variable has the value that it had, or it had none and now has what a variable node behind an
input of the node gives it at first. -/
inductive FirstRead (s : Setting) (v : Node) (m m' : Machine) (name : String) : Prop where
  | kept : m'.bindings.get? name = m.bindings.get? name → FirstRead s v m m' name
  | initial {index : Nat} {producer : Node} : m.bindings.get? name = none →
      s.producerVariable? v index = some producer → s.variableName producer = name →
      m'.bindings.get? name = some (s.initialValue producer) → FirstRead s v m m' name

/-- What has been recorded, entered and begun is the same, and so are the variables but for some
that have been read for the first time. -/
structure FirstReads (s : Setting) (v : Node) (m m' : Machine) : Prop where
  outputs : m'.outputs = m.outputs
  visited : m'.visited = m.visited
  executed : m'.executed = m.executed
  bindings (name : String) : FirstRead s v m m' name

namespace FirstReads

theorem refl : FirstReads s v m m :=
  ⟨rfl, rfl, rfl, fun _ => .kept rfl⟩

/-- What has been read for the first time keeps its value. -/
theorem trans (h : FirstReads s v m m') (h' : FirstReads s v m' m'') : FirstReads s v m m'' where
  outputs := h'.outputs.trans h.outputs
  visited := h'.visited.trans h.visited
  executed := h'.executed.trans h.executed
  bindings name := by
    cases h.bindings name with
    | kept same =>
      cases h'.bindings name with
      | kept same' => exact .kept (same'.trans same)
      | initial unbound source hn bound => exact .initial (same ▸ unbound) source hn bound
    | initial unbound source hn bound =>
      cases h'.bindings name with
      | kept same => exact .initial unbound source hn (same.trans bound)
      | initial unbound' => rw [bound] at unbound'; cases unbound'

theorem logged {e : Event} (he : e.isQuiet) : FirstReads s v m (m.logged [e]) where
  outputs := rfl
  visited := rfl
  executed := m.executed_logged_of_silent (nodesOf_quiet he)
  bindings _ := .kept rfl

/-- What reads an input may give one variable its first value. -/
theorem withProducer (index : Nat) : FirstReads s v m (s.withProducer v index m) := by
  unfold Setting.withProducer
  cases h : s.unbound? m v index with
  | none => exact refl
  | some producer =>
    obtain ⟨source, -, unbound⟩ := s.of_unbound? h
    refine ⟨rfl, rfl, m.executed_logged_of_silent rfl, fun name => ?_⟩
    by_cases hn : s.variableName producer = name
    · subst hn
      exact .initial unbound source rfl (Table.get?_insert_self ..)
    · exact .kept (Table.get?_insert_of_ne _ _ (Ne.symm hn))

theorem of_reading (h : Reading s v m m') : FirstReads s v m m' := by
  cases h with
  | tell he => exact logged he
  | draw => exact ⟨rfl, rfl, rfl, fun _ => .kept rfl⟩
  | send => exact ⟨rfl, rfl, rfl, fun _ => .kept rfl⟩
  | input index => exact withProducer index

theorem of_steps (h : Relation.ReflTransGen (Reading s v) m m') : FirstReads s v m m' := by
  induction h with
  | refl => exact refl
  | tail _ h ih => exact ih.trans (of_reading h)

end FirstReads

/-! ### Programs that do not fail -/

/-- The program does not fail. -/
def Succeeds (x : ExceptT Fault RunM α) : Prop :=
  ∀ m, ∃ a, (x.run.run m).1 = .ok a

namespace Succeeds

theorem pure (a : α) : Succeeds (Pure.pure a) :=
  fun _ => ⟨a, rfl⟩

theorem lift_bind {β : Type} (x : RunM β) {f : β → ExceptT Fault RunM α}
    (hf : ∀ b, Succeeds (f b)) : Succeeds (liftM x >>= f) :=
  fun m => hf _ (x.run m).2

theorem caught (x : ExceptT Fault RunM α) {handle : Fault → ExceptT Fault RunM α}
    (h : ∀ fault, Succeeds (handle fault)) : Succeeds (tryCatch x handle) := by
  have any : Tries (fun _ _ => True) (fun _ => True) x fun _ (_ : Machine) => True :=
    fun _ _ => ⟨.single trivial, fun _ _ => trivial⟩
  have handled (fault : Fault) : Takes (fun _ _ => True) (fun _ => True) (handle fault).run
      fun result (_ : Machine) => ∃ a, result = .ok a :=
    .single fun m _ => ⟨trivial, h fault m⟩
  exact fun m => (any.caught (fun a _ _ => ⟨a, rfl⟩) handled m trivial).2

/-- A decision that fails is reported and leads nowhere. -/
theorem deciding (decision : ExceptT Fault RunM Flow) : Succeeds (Execute.deciding v decision) :=
  caught decision fun _ => lift_bind _ fun _ => pure _

end Succeeds

/-! ### Executions -/

/-- If the program fails, it has done no more than to read. -/
def ChecksFirst (s : Setting) (v : Node) (x : ExceptT Fault RunM α) : Prop :=
  ∀ m fault, (x.run.run m).1 = .error fault → FirstReads s v m (x.run.run m).2

namespace ChecksFirst

theorem of_succeeds {x : ExceptT Fault RunM α} (h : Succeeds x) : ChecksFirst s v x := by
  intro m fault he
  obtain ⟨a, ha⟩ := h m
  rw [ha] at he
  cases he

theorem of_checks {x : ExceptT Fault RunM α} (h : Checks s v x) : ChecksFirst s v x :=
  fun m _ _ => .of_steps (h m trivial).1

theorem bind {β : Type} {x : ExceptT Fault RunM β} {f : β → ExceptT Fault RunM α}
    (hx : Checks s v x) (hf : ∀ b, ChecksFirst s v (f b)) : ChecksFirst s v (x >>= f) := by
  intro m fault he
  have steps := FirstReads.of_steps (hx m trivial).1
  rw [ExceptT.run_bind, StateT.run_bind] at he ⊢
  generalize x.run.run m = result at he steps ⊢
  obtain ⟨result, m₁⟩ := result
  cases result with
  | ok b => exact steps.trans (hf b m₁ fault he)
  | error fault => exact steps

theorem check {c : Prop} [Decidable c] {fault : Fault} {y : Unit → ExceptT Fault RunM α}
    (hy : ¬ c → ChecksFirst s v (y ())) :
    ChecksFirst s v (if c then MonadExcept.throw fault >>= y else y ()) := by
  split
  next => exact of_checks (Tries.throw fault)
  next h => exact hy h

end ChecksFirst

theorem checksFirst_var (visit : Node → RunM Unit) : ChecksFirst s v (Execute.var s visit v) := by
  unfold Execute.var
  cases (s.props v).nonEmpty? "name" with
  | none => exact .of_checks (.throw _)
  | some name =>
    -- Every way through the node ends by showing the variable.
    have shows {f : Option Value → ExceptT Fault RunM Flow} (hn : f none = pure .proceed)
        (hs : ∀ value, f (some value) = (do
          trace s!"Variable {name} = {display value}"
          return .proceed)) : Succeeds (liftM (variableValue? name) >>= f) := by
      refine .lift_bind _ fun value => ?_
      cases value with
      | none => rw [hn]; exact .pure _
      | some value => rw [hs]; exact .lift_bind _ fun _ => .pure _
    refine .of_succeeds (.lift_bind _ fun assigned => ?_)
    cases assigned with
    | some assigned => exact .lift_bind _ fun _ => shows rfl fun _ => rfl
    | none =>
      refine .lift_bind _ fun value => ?_
      dsimp only
      split
      · exact .lift_bind _ fun _ => shows rfl fun _ => rfl
      · exact shows rfl fun _ => rfl

theorem checksFirst_mathOperation (visit : Node → RunM Unit) :
    ChecksFirst s v (Execute.mathOperation s visit v) := by
  refine .bind (checks_requireInput 1) fun a => .bind (checks_requireInput 2) fun b => ?_
  refine .bind (checks_except _) fun result => ?_
  exact .of_succeeds (.lift_bind _ fun _ => .lift_bind _ fun _ => .pure _)

theorem checksFirst_random (visit : Node → RunM Unit) :
    ChecksFirst s v (Execute.random s visit v) := by
  refine .bind checks_randomValue fun result => ?_
  exact .of_succeeds (.lift_bind _ fun _ => .lift_bind _ fun _ => .pure _)

theorem checksFirst_arrayOperation (visit : Node → RunM Unit) :
    ChecksFirst s v (Execute.arrayOperation s visit v) := by
  unfold Execute.arrayOperation
  refine .bind (checks_requireInput 1) fun value => ?_
  split
  · refine .bind (checks_updateArray _ _ _) fun update => ?_
    exact .of_succeeds (.lift_bind _ fun _ => .pure _)
  · exact .of_checks (.throw _)

theorem checksFirst_objectOperation (visit : Node → RunM Unit) :
    ChecksFirst s v (Execute.objectOperation s visit v) := by
  unfold Execute.objectOperation
  refine .bind (checks_requireInput 1) fun value => ?_
  split
  · refine .bind (checks_updateObject _ _ _ _) fun update => ?_
    exact .of_succeeds (.lift_bind _ fun _ => .pure _)
  · exact .of_checks (.throw _)

/-- All that can go wrong with a request has gone wrong before something of it is recorded. -/
theorem checksFirst_httpRequest (visit : Node → RunM Unit) :
    ChecksFirst s v (Execute.httpRequest s visit v) := by
  unfold Execute.httpRequest
  dsimp only
  refine .check fun _ => .bind (.lift (reads_trace _)) fun _ => ?_
  refine .bind (checks_except _) fun request => .bind (checks_sendRequest request) fun answer => ?_
  refine .of_succeeds (.lift_bind _ fun _ => .lift_bind _ fun _ => .lift_bind _ fun _ => ?_)
  exact .lift_bind _ fun _ => .lift_bind _ fun _ => .lift_bind _ fun _ => .pure _

theorem checksFirst_convert (c : Execute.Conversion) (visit : Node → RunM Unit) :
    ChecksFirst s v (Execute.convert c s visit v) := by
  refine .bind (checks_requireInput 1) fun input => .bind (checks_except _) fun result => ?_
  exact .of_succeeds (.lift_bind _ fun _ => .lift_bind _ fun _ => .pure _)

theorem checksFirst_builtin (kind : Kind) (visit : Node → RunM Unit) :
    ChecksFirst s v (Execute.builtin kind s visit v) := by
  cases kind with
  | onStart => exact .of_succeeds (.lift_bind _ fun _ => .pure _)
  | constant => exact .of_succeeds (.pure _)
  | ifThen | condition | switch => exact .of_succeeds (.deciding _)
  | whileLoop => exact .of_succeeds (.lift_bind _ fun _ => .lift_bind _ fun _ => .pure _)
  | forLoop =>
    exact .check fun _ => .of_succeeds (.lift_bind _ fun _ => .lift_bind _ fun _ => .pure _)
  | waitForSeconds =>
    refine .check fun _ => .check fun _ => .of_succeeds ?_
    exact .lift_bind _ fun _ => .lift_bind _ fun _ => .pure _
  | var => exact checksFirst_var visit
  | mathOperation => exact checksFirst_mathOperation visit
  | random => exact checksFirst_random visit
  | arrayOperation => exact checksFirst_arrayOperation visit
  | objectOperation => exact checksFirst_objectOperation visit
  | function => exact .of_checks (.throw _)
  | log => exact .of_succeeds (.lift_bind _ fun _ => .lift_bind _ fun _ => .pure _)
  | httpRequest => exact checksFirst_httpRequest visit
  | jsonParse | jsonStringify | base64Encode | base64Decode => exact checksFirst_convert _ visit

/-- An execution that fails has recorded nothing, entered no node and begun none, and the only
variables that it has changed are some that had no value before: each of them has been given its
initial value, by a variable node that an input of the failing node is wired to. -/
theorem firstReads_of_error (kind : Kind) (s : Setting) (visit : Node → RunM Unit) (v : Node)
    (m : Machine) {fault : Fault}
    (h : ((Execute.builtin kind s visit v).run.run m).1 = .error fault) :
    FirstReads s v m ((Execute.builtin kind s visit v).run.run m).2 :=
  checksFirst_builtin kind visit m fault h

/-- A sum of which only the first input is wired, to a variable. -/
def halfWired : Setting where
  graph := .ofLists
    [{ id := .ofNat 1, kind := Kind.var.name
       properties := [("name", .string "x"), ("initialValue", .string "one")] },
      { id := .ofNat 2, kind := Kind.mathOperation.name }]
    [.between (.ofNat 1) 1 (.ofNat 2) 1]
  registry := .builtin
  maxLoopIterations := 1
  exchange := .unreachable
  draws := .ofSeed 0

/-- The sum has no second input, but the variable has been read. -/
theorem halfWired_firstReads :
    let sum := { id := .ofNat 2, kind := Kind.mathOperation.name : Node }
    let ending := (Execute.builtin .mathOperation halfWired (fun _ => pure ()) sum).run.run {}
    ending.1 = .error (.missingInput "B") ∧
      ending.2.bindings.get? "x" = some (.string "one") ∧ FirstReads halfWired sum {} ending.2 := by
  have missing : ((Execute.builtin .mathOperation halfWired (fun _ => pure ())
      { id := .ofNat 2, kind := Kind.mathOperation.name }).run.run {}).1 =
        .error (.missingInput "B") := by rfl
  exact ⟨missing, by rfl, firstReads_of_error .mathOperation halfWired _ _ _ missing⟩

end ScriptGraph.Script
