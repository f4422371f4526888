import ScriptGraph.Proofs.Arguments
import ScriptGraph.Proofs.Json.Fits
import ScriptGraph.Proofs.Script.Store

/-! # Lists and objects of variables

An operation on a list or an object takes what its input gives. If it changes that, it stores the
new list or object in the variable that the input is wired to, and in no other. Its result is
recorded on one output.
-/

namespace ScriptGraph

namespace Json.Members

variable {members : Members} {key other : String}

theorem get?_cons (m : String × Value) (members : Members) (key : String) :
    get? (m :: members) key = if m.1 = key then some m.2 else members.get? key := by
  by_cases h : m.1 = key <;> simp [get?, h]

theorem get?_insert (members : Members) (key other : String) (value : Value) :
    (members.insert key value).get? other =
      if key = other then some value else members.get? other := by
  induction members with
  | nil => exact get?_cons ..
  | cons m members ih =>
    obtain ⟨k, v⟩ := m
    unfold insert
    split
    next => exact get?_cons ..
    next =>
      split
      next he =>
        subst he
        rw [get?_cons, get?_cons]
        split_ifs <;> rfl
      next he =>
        rw [get?_cons, get?_cons, ih]
        by_cases ho : k = other
        · simp [ho, show key ≠ other from ho ▸ he]
        · simp [ho]

theorem get?_erase (members : Members) (key other : String) :
    (members.erase key).get? other = if key = other then none else members.get? other := by
  induction members with
  | nil => simp [erase, get?]
  | cons m members ih =>
    have step : erase (m :: members) key =
        if m.1 = key then erase members key else m :: erase members key := by
      by_cases hm : m.1 = key <;> simp [erase, hm]
    rw [step, get?_cons]
    by_cases hm : m.1 = key
    · rw [if_pos hm, ih, hm]
      split_ifs <;> rfl
    · rw [if_neg hm, get?_cons, ih]
      by_cases ho : m.1 = other
      · simp [ho, show key ≠ other from fun h => hm (ho.trans h.symm)]
      · simp [ho]

theorem erase_of_get?_eq_none (h : members.get? key = none) : members.erase key = members := by
  refine List.filter_eq_self.mpr fun m hm => ?_
  have absent := List.find?_eq_none.mp (Option.map_eq_none_iff.mp h) m hm
  simpa using absent

end Json.Members

namespace Script

open Json (Value Members)

variable {s : Setting} {v : Node} {m : Machine}

/-! ### What an operation makes of a list or an object -/

/-- What the text of an argument stands for. -/
inductive Denotes (m : Machine) (text : String) : Value → Prop where
  | variable {value : Value} : m.bindings.get? (Text.trim text) = some value →
      Denotes m text value
  | spelled {value : Value} : m.bindings.get? (Text.trim text) = none →
      Json.parse (Text.trim text) = .ok value → Denotes m text value
  | itself {e : Json.ReadError} : m.bindings.get? (Text.trim text) = none →
      Json.parse (Text.trim text) = .error e → Denotes m text (.string text)

/-- The operations that change lists. -/
def listChanges : List String :=
  ["push", "unshift", "pop", "shift"]

/-- The operations that add to a list, each with the one that takes away at the same end. -/
def opposites : List (String × String) :=
  [("push", "pop"), ("unshift", "shift")]

/-- The operations that change objects. -/
def objectChanges : List String :=
  ["set", "delete"]

theorem mem_listChanges_of_opposites {added removed : String} (h : (added, removed) ∈ opposites) :
    added ∈ listChanges ∧ removed ∈ listChanges :=
  (by decide : ∀ pair ∈ opposites, pair.1 ∈ listChanges ∧ pair.2 ∈ listChanges) _ h

/-- An operation with an argument turns one list into another and yields a value. -/
inductive ChangesList (argument : Value) : String → List Value → List Value → Value → Prop where
  | push (items : List Value) :
      ChangesList argument "push" items (items ++ [argument]) (.array (items ++ [argument]))
  | unshift (items : List Value) :
      ChangesList argument "unshift" items (argument :: items) (.array (argument :: items))
  | pop (items : List Value) (last : Value) :
      ChangesList argument "pop" (items ++ [last]) items last
  | popNone : ChangesList argument "pop" [] [] .null
  | shift (first : Value) (items : List Value) :
      ChangesList argument "shift" (first :: items) items first
  | shiftNone : ChangesList argument "shift" [] [] .null

/-- An operation with a key and an argument turns one object into another: it has the argument for
the key, or nothing, and what it had for all other keys. -/
inductive ChangesObject (key : String) (argument : Value) (before after : Members) :
    String → Prop where
  | set : (∀ other, after.get? other = if key = other then some argument else before.get? other) →
      (before.Sorted → after.Sorted) → ChangesObject key argument before after "set"
  | delete : (∀ other, after.get? other = if key = other then none else before.get? other) →
      (before.Sorted → after.Sorted) → (before.get? key = none → after = before) →
      ChangesObject key argument before after "delete"

theorem denotes_argumentValue (text : String) (m : Machine) :
    ∃ value, Denotes m text value ∧ (Execute.argumentValue text).run m = (value, m) := by
  cases hb : m.bindings.get? (Text.trim text) with
  | some value =>
    have bound : (variableValue? (Text.trim text)).run m = (some value, m) := congrArg (·, m) hb
    refine ⟨value, .variable hb, ?_⟩
    unfold Execute.argumentValue
    rw [StateT.run_bind, bound]
    rfl
  | none =>
    rw [argumentValue_run hb]
    refine ⟨_, ?_, rfl⟩
    cases hj : Json.parse (Text.trim text) with
    | ok value => exact .spelled hb hj
    | error e => exact .itself hb hj

theorem ChangesList.pop_push {argument unused result : Value} {items after : List Value}
    (h : ChangesList unused "pop" (items ++ [argument]) after result) :
    after = items ∧ result = argument := by
  generalize hb : items ++ [argument] = before at h
  generalize ho : "pop" = operation at h
  cases h with
  | pop items' last =>
    obtain ⟨rfl, last⟩ := List.append_inj' hb rfl
    exact ⟨rfl, (List.singleton_inj.mp last).symm⟩
  | popNone => exact absurd hb (List.append_ne_nil_of_right_ne_nil _ (List.cons_ne_nil _ _))
  | _ => exact absurd ho (by decide)

theorem ChangesList.shift_unshift {argument unused result : Value} {items after : List Value}
    (h : ChangesList unused "shift" (argument :: items) after result) :
    after = items ∧ result = argument := by
  generalize hb : argument :: items = before at h
  generalize ho : "shift" = operation at h
  cases h with
  | shift first items' =>
    obtain ⟨rfl, rfl⟩ := List.cons.inj hb
    exact ⟨rfl, rfl⟩
  | shiftNone => exact absurd hb (List.cons_ne_nil _ _)
  | _ => exact absurd ho (by decide)

/-- What has been added to an end of a list is what is taken from that end. -/
theorem ChangesList.undo {argument unused result result' : Value} {items after after' : List Value}
    {added removed : String} (h : (added, removed) ∈ opposites)
    (first : ChangesList argument added items after result)
    (second : ChangesList unused removed after after' result') :
    after' = items ∧ result' = argument := by
  cases first with
  | push =>
    obtain rfl : removed = "pop" := by simpa [opposites] using h
    exact second.pop_push
  | unshift =>
    obtain rfl : removed = "shift" := by simpa [opposites] using h
    exact second.shift_unshift
  | _ => simp [opposites] at h

/-- An operation that changes lists always succeeds, and does no more than to read its argument. -/
theorem updateArray_run {operation : String} (h : operation ∈ listChanges)
    (text : String) (items : List Value) (m : Machine) :
    ∃ argument after result, Denotes m text argument ∧
      ChangesList argument operation items after result ∧
      (Execute.updateArray operation text items).run.run m =
        (.ok ⟨result, some (.array after)⟩, m) := by
  obtain ⟨argument, denotes, evaluated⟩ := denotes_argumentValue text m
  simp only [listChanges, List.mem_cons, List.not_mem_nil, or_false] at h
  rcases h with rfl | rfl | rfl | rfl
  · exact ⟨argument, _, _, denotes, .push items, run_lift_bind evaluated⟩
  · exact ⟨argument, _, _, denotes, .unshift items, run_lift_bind evaluated⟩
  · rcases List.eq_nil_or_concat' items with rfl | ⟨items, last, rfl⟩
    · exact ⟨argument, _, _, denotes, .popNone, rfl⟩
    · refine ⟨argument, _, _, denotes, .pop items last, ?_⟩
      change (Except.ok (Execute.Update.mk _ (some (.array (items ++ [last]).dropLast))), m) = _
      rw [List.getLast?_concat, List.dropLast_concat]
      rfl
  · cases items with
    | nil => exact ⟨argument, _, _, denotes, .shiftNone, rfl⟩
    | cons first items => exact ⟨argument, _, _, denotes, .shift first items, rfl⟩

theorem updateObject_run {operation : String} (h : operation ∈ objectChanges)
    (key text : String) (members : Members) (m : Machine) :
    ∃ argument after, Denotes m text argument ∧
      ChangesObject key argument members after operation ∧
      (Execute.updateObject operation key text members).run.run m =
        (.ok ⟨.object after, some (.object after)⟩, m) := by
  obtain ⟨argument, denotes, evaluated⟩ := denotes_argumentValue text m
  simp only [objectChanges, List.mem_cons, List.not_mem_nil, or_false] at h
  rcases h with rfl | rfl
  · exact ⟨argument, _, denotes, .set (members.get?_insert key · argument) (·.insert key argument),
      run_lift_bind evaluated⟩
  · exact ⟨argument, _, denotes, .delete (members.get?_erase key) (List.Pairwise.filter _)
      Members.erase_of_get?_eq_none, rfl⟩

/-- The other operations leave the state as it is, and have nothing to store. -/
theorem updateArray_of_not_mem {operation : String} (h : operation ∉ listChanges)
    (text : String) (items : List Value) (m : Machine) :
    ∃ ending, (Execute.updateArray operation text items).run.run m = (ending, m) ∧
      ∀ u, ending = .ok u → u.stored = none := by
  unfold Execute.updateArray
  split
  · simp [listChanges] at h
  · simp [listChanges] at h
  · simp [listChanges] at h
  · simp [listChanges] at h
  · cases Execute.sliceBounds text with
    | ok bounds => exact ⟨_, rfl, fun u hu => by cases hu; rfl⟩
    | error fault => exact ⟨_, rfl, nofun⟩
  · exact ⟨_, rfl, nofun⟩

theorem updateObject_of_not_mem {operation : String} (h : operation ∉ objectChanges)
    (key text : String) (members : Members) (m : Machine) :
    ∃ ending, (Execute.updateObject operation key text members).run.run m = (ending, m) ∧
      ∀ u, ending = .ok u → u.stored = none := by
  unfold Execute.updateObject
  split
  · exact ⟨_, rfl, fun u hu => by cases hu; rfl⟩
  · simp [objectChanges] at h
  · simp [objectChanges] at h
  · exact ⟨_, rfl, fun u hu => by cases hu; rfl⟩
  · exact ⟨_, rfl, nofun⟩

/-- Whatever the operation, it leaves the state as it is until it stores something. -/
theorem exists_updateArray_run (operation text : String) (items : List Value) (m : Machine) :
    ∃ ending, (Execute.updateArray operation text items).run.run m = (ending, m) := by
  by_cases h : operation ∈ listChanges
  · obtain ⟨_, _, _, -, -, run⟩ := updateArray_run h text items m
    exact ⟨_, run⟩
  · obtain ⟨_, run, -⟩ := updateArray_of_not_mem h text items m
    exact ⟨_, run⟩

theorem exists_updateObject_run (operation key text : String) (members : Members) (m : Machine) :
    ∃ ending, (Execute.updateObject operation key text members).run.run m = (ending, m) := by
  by_cases h : operation ∈ objectChanges
  · obtain ⟨_, _, -, -, run⟩ := updateObject_run h key text members m
    exact ⟨_, run⟩
  · obtain ⟨_, run, -⟩ := updateObject_of_not_mem h key text members m
    exact ⟨_, run⟩

/-! ### Where contents come from and go to -/

/-- The first input of a node is wired to a variable with this name, which has this value once it
has been read. -/
structure Finds (s : Setting) (v : Node) (m : Machine) (name : String) (value : Value) : Prop where
  wired : ∃ u, s.producerVariable? v 1 = some u ∧ s.variableName u = name
  named : name ≠ ""
  holds : (s.withProducer v 1 m).bindings.get? name = some value

/-- One variable has a new value and no other has, and the result stands on the output for results
and nothing new on any other. -/
structure Stores (s : Setting) (v : Node) (name : String) (value result : Value)
    (m m' : Machine) : Prop where
  stored : m'.bindings.get? name = some value
  others {other : String} (h : other ≠ name) : m'.bindings.get? other = m.bindings.get? other
  recorded {port : Nat} (h : port ∈ s.primary? v) : m'.outputs.get? ⟨v.id, port⟩ = some result
  outputs {output : PortRef} (h : ∀ port ∈ s.primary? v, output ≠ ⟨v.id, port⟩) :
    m'.outputs.get? output = m.outputs.get? output

theorem bindings_recordPrimary (value : Value) (m : Machine) :
    ((s.recordPrimary v value).run m).2.bindings = m.bindings := by
  rw [recordPrimary_run]
  cases s.primary? v <;> rfl

theorem stores_apply {u : Node} (h : s.producerVariable? v 1 = some u) (value result : Value)
    (m : Machine) :
    Stores s v (s.variableName u) value result m
      (((⟨result, some value⟩ : Execute.Update).apply s v).run m).2 := by
  have run : ((⟨result, some value⟩ : Execute.Update).apply s v).run m =
      (s.recordPrimary v result).run (m.bound (s.variableName u) value) := by
    unfold Execute.Update.apply Setting.writeBack
    simp only [h]
    rw [StateT.run_bind, setVariable_run]
    rfl
  rw [run, recordPrimary_run]
  cases hp : s.primary? v with
  | none =>
    exact {
      stored := Table.get?_insert_self ..
      others := Table.get?_insert_of_ne _ _
      recorded := fun h => absurd (hp ▸ h) (Option.not_mem_none _)
      outputs := fun _ => rfl }
  | some port =>
    exact {
      stored := Table.get?_insert_self ..
      others := Table.get?_insert_of_ne _ _
      recorded := fun h => by
        obtain rfl := Option.some.inj (hp ▸ h)
        exact Table.get?_insert_self ..
      outputs := fun h => Table.get?_insert_of_ne _ _ (h port (hp ▸ rfl)) }

/-- Where there is nothing to store, or nowhere, no variable changes. -/
theorem bindings_apply {u : Execute.Update}
    (h : u.stored = none ∨ s.producerVariable? v 1 = none) (m : Machine) :
    ((u.apply s v).run m).2.bindings = m.bindings := by
  have run : (u.apply s v).run m = (s.recordPrimary v u.result).run m := by
    unfold Execute.Update.apply Setting.writeBack
    rcases h with h | h
    · simp only [h]
    · rw [h]
      cases u.stored <;> rfl
  rw [run, bindings_recordPrimary]

theorem requireInput_run (index : Nat) (m : Machine) :
    ∃ ending, (s.requireInput v index).run.run m = (ending, s.withProducer v index m) := by
  have read := s.input_run v index m
  cases hr : s.resolveInput (s.outputSource (s.withProducer v index m)) v index with
  | none => exact ⟨_, s.requireInput_of_none (hr ▸ read)⟩
  | some value => exact ⟨_, s.requireInput_of_some (hr ▸ read)⟩

theorem Finds.requireInput_run {name : String} {value : Value} (h : Finds s v m name value) :
    (s.requireInput v 1).run.run m = (.ok value, s.withProducer v 1 m) := by
  obtain ⟨u, wired, rfl⟩ := h.wired
  obtain ⟨hk, output, hp⟩ := s.producer?_of_producerVariable? wired
  refine s.requireInput_of_some (Prod.ext ?_ (by rw [s.input_run]))
  rw [input_of_producer hp hk, s.input_run]
  exact h.holds

/-! ### Operations on contents -/

/-- Executes an operation, given how it takes the contents of a value and what it makes of them. -/
def operate {α : Type} (s : Setting) (v : Node) (contents : Value → Except Fault α)
    (update : α → ExceptT Fault RunM Execute.Update) : ExceptT Fault RunM Flow := do
  let value ← s.requireInput v 1
  let contained ← (contents value : Except Fault α)
  let u ← update contained
  u.apply s v
  return .proceed

def itemsOf : Value → Except Fault (List Value)
  | .array items => .ok items
  | other => .error (.typeMismatch "array operation" "Array" other)

def membersOf : Value → Except Fault Members
  | .object members => .ok members
  | other => .error (.typeMismatch "object operation" "Object" other)

theorem arrayOperation_eq (visit : Node → RunM Unit) :
    Execute.arrayOperation s visit v = operate s v itemsOf
      (Execute.updateArray ((s.props v).text "operation") ((s.props v).text "argument")) :=
  bind_congr fun value => by cases value <;> rfl

theorem objectOperation_eq (visit : Node → RunM Unit) :
    Execute.objectOperation s visit v = operate s v membersOf
      (Execute.updateObject ((s.props v).text "operation") ((s.props v).text "key")
        ((s.props v).text "value")) :=
  bind_congr fun value => by cases value <;> rfl

section

variable {α : Type} {contents : Value → Except Fault α}
  {update : α → ExceptT Fault RunM Execute.Update}

/-- An operation that has something to store stores it where it has found the contents. -/
theorem stores_operate (contents : Value → Except Fault α) {name : String}
    {value after result : Value} {contained : α} (found : Finds s v m name value)
    (hc : contents value = .ok contained)
    (hu : (update contained).run.run (s.withProducer v 1 m) =
      (.ok ⟨result, some after⟩, s.withProducer v 1 m)) :
    ∃ m', (operate s v contents update).run.run m = (.ok .proceed, m') ∧
      Stores s v name after result (s.withProducer v 1 m) m' := by
  obtain ⟨u, wired, rfl⟩ := found.wired
  refine ⟨_, ?_, stores_apply wired after result _⟩
  unfold operate
  rw [run_bind_of_ok found.requireInput_run, hc, liftM_ok_bind, run_bind_of_ok hu]
  rfl

/-- An operation that has nothing to store, or finds no variable to store it in, changes no variable
by more than to read it. -/
theorem bindings_operate (h : ∀ contained m, ∃ ending, (update contained).run.run m = (ending, m) ∧
      ∀ u, ending = .ok u → u.stored = none ∨ s.producerVariable? v 1 = none) :
    ((operate s v contents update).run.run m).2.bindings =
      (s.withProducer v 1 m).bindings := by
  obtain ⟨read, hr⟩ := requireInput_run (s := s) (v := v) 1 m
  unfold operate
  cases read with
  | error fault => rw [run_bind_of_error hr]
  | ok value =>
    rw [run_bind_of_ok hr]
    cases contents value with
    | error fault => rfl
    | ok contained =>
      obtain ⟨ending, hu, nothing⟩ := h contained (s.withProducer v 1 m)
      rw [liftM_ok_bind]
      cases ending with
      | error fault => rw [run_bind_of_error hu]
      | ok u =>
        rw [run_bind_of_ok hu]
        exact bindings_apply (nothing u rfl) _

end

/-- With the built-in registry the results of operations stand on the first output behind control.
-/
theorem primary?_of_operation (hr : s.registry = .builtin)
    (hk : v.kind = Kind.arrayOperation.name ∨ v.kind = Kind.objectOperation.name) :
    s.primary? v = some 1 := by
  unfold Workspace.primary?
  rw [hr]
  rcases hk with hk | hk
  · rw [Registry.portsOf?_builtin hk]
    rfl
  · rw [Registry.portsOf?_builtin hk]
    rfl

/-- How the execution of operations on lists and objects changes variables. -/
structure Setting.UpdatesVariables (s : Setting) (execute : Node → ExceptT Fault RunM Flow) :
    Prop where
  /-- An operation that changes lists succeeds and stores the new list. -/
  list {v : Node} (hk : v.kind = Kind.arrayOperation.name) {m : Machine} {name : String}
    {items : List Value} (found : Finds s v m name (.array items))
    (changes : (s.props v).text "operation" ∈ listChanges) :
    ∃ argument after result m',
      Denotes (s.withProducer v 1 m) ((s.props v).text "argument") argument ∧
      ChangesList argument ((s.props v).text "operation") items after result ∧
      (execute v).run.run m = (.ok .proceed, m') ∧
      Stores s v name (.array after) result (s.withProducer v 1 m) m'
  /-- An operation that changes objects succeeds, and stores and records the new object. -/
  object {v : Node} (hk : v.kind = Kind.objectOperation.name) {m : Machine} {name : String}
    {members : Members} (found : Finds s v m name (.object members))
    (changes : (s.props v).text "operation" ∈ objectChanges) :
    ∃ argument after m',
      Denotes (s.withProducer v 1 m) ((s.props v).text "value") argument ∧
      ChangesObject ((s.props v).text "key") argument members after
        ((s.props v).text "operation") ∧
      (execute v).run.run m = (.ok .proceed, m') ∧
      Stores s v name (.object after) (.object after) (s.withProducer v 1 m) m'
  /-- The other operations, whether they succeed or not, change no variable by more than to read it.
  -/
  reads_list {v : Node} (hk : v.kind = Kind.arrayOperation.name) {m : Machine}
    (h : (s.props v).text "operation" ∉ listChanges) :
    ((execute v).run.run m).2.bindings = (s.withProducer v 1 m).bindings
  reads_object {v : Node} (hk : v.kind = Kind.objectOperation.name) {m : Machine}
    (h : (s.props v).text "operation" ∉ objectChanges) :
    ((execute v).run.run m).2.bindings = (s.withProducer v 1 m).bindings
  /-- Away from variables no operation changes any. -/
  unwired {v : Node} (hk : v.kind = Kind.arrayOperation.name ∨ v.kind = Kind.objectOperation.name)
    {m : Machine} (h : s.producerVariable? v 1 = none) :
    ((execute v).run.run m).2.bindings = m.bindings
  /-- What one node has added to an end of the list of a variable another node takes away, as long
  as the variable has the list that the first node has left. -/
  undone {added removed : String} (h : (added, removed) ∈ opposites) {v : Node}
    (hk : v.kind = Kind.arrayOperation.name) {m : Machine} {name : String} {items : List Value}
    (found : Finds s v m name (.array items)) (adds : (s.props v).text "operation" = added) :
    ∃ argument m₁, Denotes (s.withProducer v 1 m) ((s.props v).text "argument") argument ∧
      (execute v).run.run m = (.ok .proceed, m₁) ∧
      ∀ {v' u : Node} {m₂ : Machine}, v'.kind = Kind.arrayOperation.name →
        s.producerVariable? v' 1 = some u → s.variableName u = name →
        (s.props v').text "operation" = removed →
        m₂.bindings.get? name = m₁.bindings.get? name →
        ∃ m₃, (execute v').run.run m₂ = (.ok .proceed, m₃) ∧
          Stores s v' name (.array items) argument m₂ m₃
  /-- There is an output for results. -/
  primary (hr : s.registry = .builtin) {v : Node}
    (hk : v.kind = Kind.arrayOperation.name ∨ v.kind = Kind.objectOperation.name) :
    s.primary? v = some 1

theorem arrayOperation_stores (visit : Node → RunM Unit) {name : String} {items : List Value}
    (found : Finds s v m name (.array items))
    (changes : (s.props v).text "operation" ∈ listChanges) :
    ∃ argument after result m',
      Denotes (s.withProducer v 1 m) ((s.props v).text "argument") argument ∧
      ChangesList argument ((s.props v).text "operation") items after result ∧
      (Execute.arrayOperation s visit v).run.run m = (.ok .proceed, m') ∧
      Stores s v name (.array after) result (s.withProducer v 1 m) m' := by
  obtain ⟨argument, after, result, denotes, changed, run⟩ :=
    updateArray_run changes ((s.props v).text "argument") items (s.withProducer v 1 m)
  obtain ⟨m', executed, stores⟩ := stores_operate itemsOf found rfl run
  rw [arrayOperation_eq]
  exact ⟨argument, after, result, m', denotes, changed, executed, stores⟩

/-- With the built-in executors, whatever the registry: an operation that changes a list or an
object changes the variable that it is wired to and no other, and others change none. -/
theorem updatesVariables (registry : Registry) (limit : Nat) (exchange : Http.Exchange)
    (draws : Draws) (debug : Bool) (graph : Graph) (visit : Node → RunM Unit) :
    let i : Interpreter := { registry, maxLoopIterations := limit, exchange, draws, debug }
    let s := i.setting graph
    s.UpdatesVariables fun v => i.executorOf v.kind s visit v := by
  intro i s
  have executor {v : Node} {kind : Kind} (hk : v.kind = kind.name) :
      i.executorOf v.kind s visit v = Execute.builtin kind s visit v := by
    change (builtin limit exchange draws).executorOf v.kind s visit v = _
    rw [Interpreter.executorOf_builtin, hk, Kind.ofName?_name]
  have lists {v : Node} (hk : v.kind = Kind.arrayOperation.name) :
      i.executorOf v.kind s visit v = Execute.arrayOperation s visit v :=
    executor hk
  have objects {v : Node} (hk : v.kind = Kind.objectOperation.name) :
      i.executorOf v.kind s visit v = Execute.objectOperation s visit v :=
    executor hk
  constructor
  case list =>
    intro v hk m name items found changes
    rw [lists hk]
    exact arrayOperation_stores visit found changes
  case object =>
    intro v hk m name members found changes
    obtain ⟨argument, after, denotes, changed, run⟩ := updateObject_run changes
      ((s.props v).text "key") ((s.props v).text "value") members (s.withProducer v 1 m)
    obtain ⟨m', executed, stores⟩ := stores_operate membersOf found rfl run
    rw [objects hk, objectOperation_eq]
    exact ⟨argument, after, m', denotes, changed, executed, stores⟩
  case reads_list =>
    intro v hk m h
    rw [lists hk, arrayOperation_eq]
    refine bindings_operate fun items m => ?_
    obtain ⟨ending, run, nothing⟩ := updateArray_of_not_mem h _ items m
    exact ⟨ending, run, fun u hu => .inl (nothing u hu)⟩
  case reads_object =>
    intro v hk m h
    rw [objects hk, objectOperation_eq]
    refine bindings_operate fun members m => ?_
    obtain ⟨ending, run, nothing⟩ := updateObject_of_not_mem h _ _ members m
    exact ⟨ending, run, fun u hu => .inl (nothing u hu)⟩
  case unwired =>
    intro v hk m h
    rcases hk with hk | hk
    · rw [lists hk, arrayOperation_eq, bindings_operate fun items m => ?_,
        s.withProducer_of_unwired h m]
      obtain ⟨ending, run⟩ := exists_updateArray_run _ _ items m
      exact ⟨ending, run, fun _ _ => .inr h⟩
    · rw [objects hk, objectOperation_eq, bindings_operate fun members m => ?_,
        s.withProducer_of_unwired h m]
      obtain ⟨ending, run⟩ := exists_updateObject_run _ _ _ members m
      exact ⟨ending, run, fun _ _ => .inr h⟩
  case undone =>
    intro added removed h v hk m name items found adds
    obtain ⟨adding, removing⟩ := mem_listChanges_of_opposites h
    obtain ⟨argument, after, result, m₁, denotes, changed, run, stores⟩ :=
      arrayOperation_stores visit found (adds ▸ adding)
    rw [lists hk]
    refine ⟨argument, m₁, denotes, run, fun {v' u m₂} hk' wired same removes kept => ?_⟩
    have holds : m₂.bindings.get? name = some (.array after) := kept.trans stores.stored
    have unread : s.withProducer v' 1 m₂ = m₂ := s.withProducer_of_bound wired (same ▸ holds)
    have found' : Finds s v' m₂ name (.array after) :=
      ⟨⟨u, wired, same⟩, found.named, unread.symm ▸ holds⟩
    obtain ⟨unused, after', result', m₃, -, changed', run', stores'⟩ :=
      arrayOperation_stores visit found' (removes ▸ removing)
    rw [adds] at changed
    rw [removes] at changed'
    obtain ⟨rfl, rfl⟩ := changed.undo h changed'
    rw [unread] at stores'
    rw [lists hk']
    exact ⟨m₃, run', stores'⟩
  case primary => exact fun hr _ hk => primary?_of_operation hr hk

/-- A list that is added to itself. -/
def selfContaining : Graph :=
  .ofLists
    [{ id := .ofNat 1, kind := Kind.onStart.name },
      { id := .ofNat 2, kind := Kind.var.name, properties := [("name", .string "list")] },
      { id := .ofNat 3, kind := Kind.arrayOperation.name
        properties := [("operation", .string "push"), ("argument", .string "list")] }]
    [.between (.ofNat 1) 0 (.ofNat 3) 0, .between (.ofNat 2) 1 (.ofNat 3) 1]

example :
    let s := (builtin 0 .unreachable (.ofSeed 0)).setting selfContaining
    let m : Machine := { bindings := ⟨[("list", .array [.null])]⟩ }
    ∃ v ∈ selfContaining.findNode (.ofNat 3), Finds s v m "list" (.array [.null]) ∧
      (s.props v).text "operation" = "push" ∧
      Denotes (s.withProducer v 1 m) ((s.props v).text "argument") (.array [.null]) := by
  intro s m
  let v := selfContaining.nodes[2]
  obtain ⟨u, wired, named⟩ := Option.map_eq_some_iff.mp
    (by decide +kernel : (s.producerVariable? v 1).map s.variableName = some "list")
  have argument : Text.trim ((s.props v).text "argument") = "list" := by decide +kernel
  have bound : m.bindings.get? "list" = some (.array [.null]) := rfl
  have unread : s.withProducer v 1 m = m := s.withProducer_of_bound wired (named ▸ bound)
  exact ⟨v, rfl, ⟨⟨u, wired, named⟩, by decide, unread.symm ▸ bound⟩, by decide +kernel,
    .variable (unread.symm ▸ argument.symm ▸ bound)⟩

end Script

end ScriptGraph
