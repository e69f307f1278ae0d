import Amd64Effects.Table

/-!
# Revisions of a table

A table can be tried out with other entries than its own: an override gives an opcode a new entry,
and restoring the opcode takes all its overrides away. Of several overrides of one opcode the last
counts, and no other opcode notices (`Revision.entry_override`, `Revision.entry_restore`).
-/

namespace Amd64Effects

/-- A classification with overrides, the latest first. -/
structure Revision where
  base : Opcode → Descriptor
  overrides : List (Opcode × Descriptor) := []

namespace Revision

/-- A change of the overrides. -/
inductive Change where
  | override (op : Opcode) (d : Descriptor)
  | restore (op : Opcode)

def apply (r : Revision) : Change → Revision
  | .override op d => { r with overrides := (op, d) :: r.overrides }
  | .restore op => { r with overrides := r.overrides.filter fun o => o.1 != op }

/-- The entry that is in force for an opcode. -/
def entry (r : Revision) (op : Opcode) : Descriptor :=
  match r.overrides.find? fun o => o.1 == op with
  | some o => o.2
  | none => r.base op

/-- The table of the entries that are in force. -/
def table (r : Revision) : Table := Table.ofFn r.entry

theorem entry_override (r : Revision) (op x : Opcode) (d : Descriptor) :
    (r.apply (.override op d)).entry x = if x = op then d else r.entry x := by
  unfold apply entry
  by_cases h : x = op
  · subst h
    simp
  · have hne : (op == x) = false := by simpa using fun heq => h heq.symm
    simp [hne, h]

theorem entry_restore (r : Revision) (op x : Opcode) :
    (r.apply (.restore op)).entry x = if x = op then r.base x else r.entry x := by
  unfold apply entry
  by_cases h : x = op
  · subst h
    have hnone : (r.overrides.filter fun o => o.1 != x).find? (fun o => o.1 == x) = none := by
      simp [List.find?_eq_none]
    simp only [hnone, if_true]
  · have hsame : (r.overrides.filter fun o => o.1 != op).find? (fun o => o.1 == x) =
        r.overrides.find? fun o => o.1 == x := by
      rw [List.find?_filter]
      congr 1
      funext o
      by_cases ho : o.1 = x
      · simp [ho, h]
      · simp [ho]
    simp only [hsame, if_neg h]

end Revision

end Amd64Effects
