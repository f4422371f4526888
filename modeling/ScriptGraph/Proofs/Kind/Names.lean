import Mathlib.Data.List.Nodup
import ScriptGraph.Kind.Registry

/-! # Kinds by name

The built-in kinds have different names, so that a table filled with one entry for each kind gives
the entry of the kind that has the name, and nothing for other names.
-/

namespace ScriptGraph

namespace Kind

theorem nodup_names : (all.map name).Nodup := by
  decide

@[simp] theorem ofName?_name (kind : Kind) : ofName? kind.name = some kind := by
  cases kind <;> rfl

theorem ofName?_eq_some_iff {text : String} {kind : Kind} :
    ofName? text = some kind ↔ text = kind.name := by
  constructor
  · intro h
    have := List.find?_some h
    exact (by simpa using this : kind.name = text).symm
  · rintro rfl
    exact ofName?_name kind

theorem eq_of_name {text : String} {kind kind' : Kind} (hk : ofName? text = some kind)
    (h : text = kind'.name) : kind = kind' := by
  rw [h, ofName?_name] at hk
  exact (Option.some.inj hk).symm

end Kind

variable {α : Type}

theorem Table.get?_foldl_insert (f : Kind → α) (kinds : List Kind) (hn : (kinds.map (·.name)).Nodup)
    (t : Table String α) (text : String) :
    (kinds.foldl (fun t kind => t.insert kind.name (f kind)) t).get? text =
      ((kinds.find? (·.name = text)).map f).or (t.get? text) := by
  induction kinds generalizing t with
  | nil => simp
  | cons kind kinds ih =>
    obtain ⟨hk, hn⟩ := List.nodup_cons.mp hn
    rw [List.foldl_cons, ih hn, Table.get?_insert, List.find?_cons]
    by_cases h : kind.name = text
    · have hnone : kinds.find? (·.name = text) = none := by
        simp only [List.find?_eq_none, decide_eq_true_eq]
        rintro other ho rfl
        exact hk (List.mem_map.mpr ⟨other, ho, h.symm⟩)
      simp [h, hnone]
    · have hne : ¬ text = kind.name := fun e => h e.symm
      simp [h, hne]

/-- The table with one entry for each built-in kind. -/
theorem Table.get?_ofKinds (f : Kind → α) (text : String) :
    (Kind.all.foldl (fun t kind => t.insert kind.name (f kind)) {} : Table String α).get? text =
      (Kind.ofName? text).map f := by
  rw [get?_foldl_insert f Kind.all Kind.nodup_names]
  simp [Kind.ofName?, Table.get?]

/-- What the built-in registry knows of a kind. -/
theorem Registry.get?_builtin (text : String) :
    builtin.get? text = (Kind.ofName? text).map (·.descriptor) := by
  rw [← Table.get?_ofKinds (·.descriptor) text]
  have h (kinds : List Kind) (r : Registry) :
      (kinds.foldl (fun r kind => r.register kind.descriptor) r).kinds =
        kinds.foldl (fun t kind => t.insert kind.name kind.descriptor) r.kinds := by
    induction kinds generalizing r with
    | nil => rfl
    | cons kind kinds ih =>
      rw [List.foldl_cons, List.foldl_cons, ih]
      cases kind <;> rfl
  exact congrArg (·.get? text) (h Kind.all empty)

/-- The ports of a node of a built-in kind. -/
theorem Registry.portsOf?_builtin {v : Node} {kind : Kind} (h : v.kind = kind.name) :
    builtin.portsOf? v = some (kind.descriptor.ports v.properties) := by
  rw [portsOf?, derivePorts?, get?_builtin, h, Kind.ofName?_name]
  rfl

end ScriptGraph
