import ScriptGraph.Kind.Properties

/-! # Properties that agree

Nodes are described by their own properties and by the defaults of their kinds. Whoever reads a
property reads the same from two descriptions that agree on what is stored.
-/

namespace ScriptGraph

/-- Whatever property is asked for, both have the same. -/
def Props.Agree (p p' : Props) : Prop :=
  ∀ name, p.get? name = p'.get? name

namespace Props.Agree

theorem refl (p : Props) : p.Agree p :=
  fun _ => rfl

variable {p p' : Props} (h : p.Agree p') (name : String)
include h

theorem text_eq : p.text name = p'.text name := by
  unfold text
  rw [h name]

theorem nonEmpty?_eq : p.nonEmpty? name = p'.nonEmpty? name := by
  unfold nonEmpty?
  rw [h.text_eq]

theorem number?_eq : p.number? name = p'.number? name := by
  unfold number?
  rw [h name]

theorem flag_eq : p.flag name = p'.flag name := by
  unfold flag
  rw [h name]

theorem members_eq : p.members name = p'.members name := by
  unfold members
  rw [h.text_eq]

end Props.Agree

end ScriptGraph
