import ScriptGraph.Proofs.Kind.Names

/-! # Registrations

A registry is filled with descriptors of kinds, and with kinds it knows under other names. Its list
of names and its table of kinds stay in step: however often a name is registered, it is listed once,
where it came up first, and stands for the descriptor that was registered last.
-/

namespace ScriptGraph

/-- The descriptor that was the last to be registered under a name. -/
def latest? (history : List KindDescriptor) (name : String) : Option KindDescriptor :=
  history.reverse.find? (·.name = name)

namespace Registry

/-- What a registry can be filled with. -/
inductive Call where
  | register (d : KindDescriptor)
  /-- A kind once more under a name of the user's, as generators and interpreters map kinds. -/
  | withAlias (name kind : String)

def call (r : Registry) : Call → Registry
  | .register d => r.register d
  | .withAlias name kind => r.withAlias name kind

/-- What calls leave. -/
def after (r : Registry) (calls : List Call) : Registry :=
  calls.foldl call r

/-- The descriptors that a call registers when others have been registered before. -/
def Call.registered (history : List KindDescriptor) : Call → List KindDescriptor
  | .register d => [d]
  | .withAlias name kind => (latest? history kind).toList.map ({ · with name })

/-- All descriptors that have been registered after calls, in their order. -/
def registered (history : List KindDescriptor) (calls : List Call) : List KindDescriptor :=
  calls.foldl (fun history c => history ++ c.registered history) history

/-- A registry as registrations leave it. -/
structure Knows (r : Registry) (history : List KindDescriptor) : Prop where
  /-- Each name is listed where it came up first, -/
  names : r.descriptors.map (·.name) = (history.map (·.name)).eraseDups
  /-- and not again. -/
  once : (r.descriptors.map (·.name)).Nodup
  /-- What is listed is what was registered last under its name. -/
  listed {d : KindDescriptor} : d ∈ r.descriptors → latest? history d.name = some d
  get? (name : String) : r.get? name = latest? history name
  contains (name : String) : r.contains name = (latest? history name).isSome
  isEntry (name : String) : r.isEntry name = (latest? history name).any (·.entry)
  requiresAsync (name : String) :
    r.requiresAsync name = (latest? history name).any (·.requiresAsync)

/-- The two parts of a registry are in step with what has been registered. -/
structure Records (r : Registry) (history : List KindDescriptor) : Prop where
  order : r.order = (history.map (·.name)).eraseDups
  nodup : r.order.Nodup
  get? (name : String) : r.get? name = latest? history name

variable {r : Registry} {history : List KindDescriptor} {d : KindDescriptor} {name : String}

theorem latest?_concat (history : List KindDescriptor) (d : KindDescriptor) (name : String) :
    latest? (history ++ [d]) name = if name = d.name then some d else latest? history name := by
  by_cases h : d.name = name
  · simp [latest?, h]
  · simp [latest?, h, Ne.symm h]

theorem name_of_latest? (h : latest? history name = some d) : d.name = name := by
  simpa using List.find?_some h

theorem isSome_latest?_iff : (latest? history name).isSome ↔ name ∈ history.map (·.name) := by
  simp [latest?, List.find?_isSome]

theorem eraseDups_concat {α : Type} [DecidableEq α] (as : List α) (a : α) :
    (as ++ [a]).eraseDups = if a ∈ as then as.eraseDups else as.eraseDups ++ [a] := by
  by_cases h : a ∈ as <;> simp [List.eraseDups_append, List.eraseDups_cons, List.removeAll, h]

namespace Records

/-- A name is known to the one part exactly if it is to the other. -/
theorem contains_iff (h : r.Records history) : r.kinds.contains name ↔ name ∈ r.order := by
  have known : r.kinds.contains name = (latest? history name).isSome := by
    rw [← h.get?]
    rfl
  rw [known, isSome_latest?_iff, h.order, List.mem_eraseDups]

theorem empty : Records empty [] where
  order := rfl
  nodup := List.nodup_nil
  get? _ := rfl

theorem register (h : r.Records history) (d : KindDescriptor) :
    (r.register d).Records (history ++ [d]) where
  order := by
    rw [List.map_append, List.map_singleton, eraseDups_concat, ← h.order]
    simp only [Registry.register, h.contains_iff, h.order, List.mem_eraseDups]
  nodup := by
    simp only [Registry.register, h.contains_iff]
    split
    next => exact h.nodup
    next new =>
      refine List.nodup_append.mpr ⟨h.nodup, List.nodup_singleton d.name, ?_⟩
      rintro name hn _ hd rfl
      exact new (List.mem_singleton.mp hd ▸ hn)
  get? name := by
    rw [latest?_concat, ← h.get?]
    exact Table.get?_insert ..

theorem call (h : r.Records history) (c : Call) :
    (r.call c).Records (history ++ c.registered history) := by
  cases c with
  | register d => exact h.register d
  | withAlias name kind =>
    unfold Registry.call Registry.withAlias Call.registered
    dsimp only
    rw [h.get?]
    cases latest? history kind with
    | none => simpa using h
    | some d => exact h.register { d with name }

theorem after (h : r.Records history) (calls : List Call) :
    (r.after calls).Records (Registry.registered history calls) := by
  induction calls generalizing r history with
  | nil => exact h
  | cons c calls ih => exact ih (h.call c)

theorem builtin : Records builtin (Kind.all.map (·.descriptor)) := by
  have filled (kinds : List Kind) {r : Registry} {history : List KindDescriptor}
      (h : r.Records history) :
      (kinds.foldl (fun r kind => r.register kind.descriptor) r).Records
        (history ++ kinds.map (·.descriptor)) := by
    induction kinds generalizing r history with
    | nil => simpa using h
    | cons kind kinds ih => simpa using ih (h.register kind.descriptor)
  exact filled Kind.all .empty

theorem latest?_of_mem_descriptors (h : r.Records history) (hd : d ∈ r.descriptors) :
    latest? history d.name = some d := by
  obtain ⟨name, -, hn⟩ := List.mem_filterMap.mp hd
  rw [h.get?] at hn
  rw [name_of_latest? hn, hn]

/-- The listing leaves no name out. -/
theorem names_eq_order (h : r.Records history) : r.descriptors.map (·.name) = r.order := by
  have known {name : String} (hn : name ∈ r.order) : (r.get? name).map (·.name) = some name := by
    obtain ⟨d, hd⟩ := Option.isSome_iff_exists.mp (h.contains_iff.mpr hn)
    have latest : latest? history name = some d := h.get? name ▸ hd
    rw [show r.get? name = some d from hd, Option.map_some, name_of_latest? latest]
  calc r.descriptors.map (·.name)
      = r.order.filterMap fun name => (r.get? name).map (·.name) := List.map_filterMap
    _ = r.order.filterMap some := List.filterMap_congr fun _ => known
    _ = r.order := List.filterMap_some

theorem knows (h : r.Records history) : r.Knows history where
  names := by rw [h.names_eq_order, h.order]
  once := by
    rw [h.names_eq_order]
    exact h.nodup
  listed := h.latest?_of_mem_descriptors
  get? := h.get?
  contains name := by rw [← h.get?]; rfl
  isEntry name := by rw [← h.get?]; rfl
  requiresAsync name := by rw [← h.get?]; rfl

end Records

/-- However a registry has been filled, from nothing or on top of the built-in kinds: it lists each
name once, in the order in which the names came up, and answers from the descriptor that was
registered last under a name. -/
theorem knows_after (calls : List Call) :
    (empty.after calls).Knows (registered [] calls) ∧
      (builtin.after calls).Knows (registered (Kind.all.map (·.descriptor)) calls) :=
  ⟨(Records.empty.after calls).knows, (Records.builtin.after calls).knows⟩

example : (empty.after [.register Kind.onStart.descriptor, .withAlias "Say" "Log",
    .register Kind.log.descriptor, .withAlias "Say" "Log",
    .withAlias "OnStart" "Say"]).descriptors.map (fun d => (d.name, d.entry)) =
      [("OnStart", false), ("Log", false), ("Say", false)] := by
  decide

end Registry

end ScriptGraph
