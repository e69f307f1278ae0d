import Amd64Effects.Inspector.Run

/-!
# Outcomes one after the other

Outcomes compose like lists of items up to the first fault: `andThen` is associative with the empty
outcome as its unit, so a sequence may be cut anywhere (`sequence_append`), and the fault of a
sequence is the first one in it (`fault_sequence`). Whatever is printed before, the fault of an
outcome is printed last (`output_of_some`).
-/

namespace Amd64Effects.Inspector.Outcome

/-! ## Two outcomes -/

section

variable {a b c : Outcome}

theorem andThen_of_none (h : a.fault = none) :
    a.andThen b = { items := a.items ++ b.items, fault := b.fault } := by
  unfold andThen
  rw [h]

theorem andThen_of_some {f : Fault} (h : a.fault = some f) : a.andThen b = a := by
  unfold andThen
  rw [h]

@[simp] theorem empty_andThen : andThen {} b = b := by
  rw [andThen_of_none rfl, List.nil_append]

@[simp] theorem andThen_empty : a.andThen {} = a := by
  cases h : a.fault with
  | none =>
    rw [andThen_of_none h, List.append_nil, ← h]
  | some f => exact andThen_of_some h

@[simp] theorem fault_andThen : (a.andThen b).fault = a.fault.or b.fault := by
  cases h : a.fault with
  | none => rw [andThen_of_none h, Option.none_or]
  | some f => rw [andThen_of_some h, h, Option.some_or]

/-- An outcome without items adds nothing to what is printed before it. -/
theorem items_andThen_of_nil (h : b.items = []) : (a.andThen b).items = a.items := by
  cases hfault : a.fault with
  | some f => rw [andThen_of_some hfault]
  | none => rw [andThen_of_none hfault, h, List.append_nil]

theorem andThen_assoc : (a.andThen b).andThen c = a.andThen (b.andThen c) := by
  cases ha : a.fault with
  | some f => rw [andThen_of_some ha, andThen_of_some ha, andThen_of_some ha]
  | none =>
    cases hb : b.fault with
    | some f =>
      have hab : (a.andThen b).fault = some f := by rw [fault_andThen, ha, hb, Option.none_or]
      rw [andThen_of_some hb, andThen_of_some hab]
    | none =>
      have hab : (a.andThen b).fault = none := by rw [fault_andThen, ha, hb, Option.none_or]
      rw [andThen_of_none hab, andThen_of_none ha, andThen_of_none ha, andThen_of_none hb,
        List.append_assoc]

end

/-! ## Sequences -/

@[simp] theorem sequence_nil : sequence [] = {} := rfl

@[simp] theorem sequence_cons (o : Outcome) (rest : List Outcome) :
    sequence (o :: rest) = o.andThen (sequence rest) := rfl

theorem sequence_append (front back : List Outcome) :
    sequence (front ++ back) = (sequence front).andThen (sequence back) := by
  induction front with
  | nil => simp
  | cons o rest ih => rw [List.cons_append, sequence_cons, sequence_cons, ih, andThen_assoc]

/-- The first fault is the one that ends a sequence. -/
theorem fault_sequence (outcomes : List Outcome) :
    (sequence outcomes).fault = outcomes.findSome? fault := by
  induction outcomes with
  | nil => rfl
  | cons o rest ih =>
    rw [sequence_cons, fault_andThen, ih, List.findSome?_cons]
    cases o.fault <;> rfl

/-! ## What is printed -/

/-- The fault is printed behind all items. -/
theorem output_of_some {o : Outcome} {f : Fault} (h : o.fault = some f) :
    o.output = String.join (o.items.map Item.text) ++ (f.report ++ "\n") := by
  unfold output
  rw [h]

/-- What is printed first does not depend on what follows. -/
theorem output_andThen_of_none {a b : Outcome} (h : a.fault = none) :
    (a.andThen b).output = String.join (a.items.map Item.text) ++ b.output := by
  rw [andThen_of_none h, output, output, List.map_append, String.join_append, String.append_assoc]

theorem diagnostics_of_some {o : Outcome} {f : Fault} (h : o.fault = some f) :
    o.diagnostics = "Error: " ++ f.diagnostic ++ "\n" := by
  unfold diagnostics
  rw [h]

theorem exitCode_eq_zero_iff {o : Outcome} : o.exitCode = 0 ↔ o.fault = none := by
  unfold exitCode
  cases o.fault <;> simp

theorem exitCode_of_some {o : Outcome} {f : Fault} (h : o.fault = some f) : o.exitCode = 1 := by
  unfold exitCode
  rw [h]
  rfl

end Amd64Effects.Inspector.Outcome
