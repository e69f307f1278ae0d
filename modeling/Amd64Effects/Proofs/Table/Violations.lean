import Amd64Effects.Proofs.Table.Policy
import Mathlib.Data.List.Nodup

/-!
# The report of the self-check

The self-check of a table reports a rule for an opcode exactly if the entry of the opcode breaks it.
It reports nothing twice, and in order: by the place of the opcode in the table, and then by the
place of the rule (`violations_ofFn`).

Both follow from the shape of the report, which puts the reports of single entries behind each
other. What is reported of an entry does not depend on the others: it is what the self-check says of
a table without violations in which this entry alone was replaced (`violations_update`).
-/

namespace Amd64Effects

/-! ## Order -/

namespace Rule

/-- The place of a rule in the order in which the rules are checked. -/
def place (r : Rule) : Nat := all.idxOf r

theorem pairwise_place_all : all.Pairwise fun a b => a.place < b.place := by
  decide

/-- A report can be read back: no two rules are told by the same words. -/
theorem text_injective : Function.Injective text := by
  have hall : ∀ a ∈ all, ∀ b ∈ all, a.text = b.text → a = b := by decide
  exact fun a b h => hall a (mem_all a) b (mem_all b) h

end Rule

/-- Violations by the place of their opcode, and for the same opcode by the place of their rule. -/
def Violation.Precedes (v w : Violation) : Prop :=
  v.opcode.index < w.opcode.index ∨ v.opcode = w.opcode ∧ v.rule.place < w.rule.place

theorem Violation.Precedes.ne {v w : Violation} (h : v.Precedes w) : v ≠ w := by
  rintro rfl
  rcases h with hlt | ⟨-, hlt⟩
  · exact Nat.lt_irrefl _ hlt
  · exact Nat.lt_irrefl _ hlt

/-! ## The report of one entry -/

/-- What is reported of an opcode, from its entry. -/
def Violation.ofEntry (op : Opcode) (d : Descriptor) : List Violation :=
  d.brokenRules.map (Violation.mk op)

theorem Violation.opcode_of_mem_ofEntry {op : Opcode} {d : Descriptor} {v : Violation}
    (h : v ∈ ofEntry op d) : v.opcode = op := by
  obtain ⟨rule, -, rfl⟩ := List.mem_map.mp h
  rfl

theorem Violation.pairwise_ofEntry (op : Opcode) (d : Descriptor) :
    (ofEntry op d).Pairwise Precedes := by
  unfold ofEntry Descriptor.brokenRules
  rw [List.pairwise_map]
  exact (Rule.pairwise_place_all.filter _).imp fun hlt => Or.inr ⟨rfl, hlt⟩

theorem Violation.ofEntry_eq_nil_iff {op : Opcode} {d : Descriptor} :
    ofEntry op d = [] ↔ ∀ rule : Rule, rule.Holds d := by
  unfold ofEntry Descriptor.brokenRules
  rw [List.map_eq_nil_iff, List.filter_eq_nil_iff]
  simp only [Rule.mem_all, forall_const, Bool.not_eq_true, Rule.isBrokenBy_eq_false_iff]

/-! ## The report of a table -/

namespace Table

theorem violations_eq_flatMap (t : Table) :
    t.violations = Opcode.all.flatMap fun op => Violation.ofEntry op (t.get op) := rfl

theorem mem_violations_iff {t : Table} {op : Opcode} {rule : Rule} :
    ⟨op, rule⟩ ∈ t.violations ↔ ¬rule.Holds (t.get op) := by
  rw [mem_violations, ← Rule.isBrokenBy_eq_false_iff, Bool.not_eq_false]

theorem pairwise_violations (t : Table) : t.violations.Pairwise Violation.Precedes := by
  rw [violations_eq_flatMap, List.pairwise_flatMap]
  constructor
  · exact fun op _ => Violation.pairwise_ofEntry op (t.get op)
  · refine Opcode.pairwise_index_all.imp fun hlt v hv w hw => Or.inl ?_
    rwa [Violation.opcode_of_mem_ofEntry hv, Violation.opcode_of_mem_ofEntry hw]

/-- Nothing is reported twice, not even in other words. -/
theorem nodup_map_violations (t : Table) :
    (t.violations.map fun v => (v.opcode, v.rule.text)).Nodup := by
  have hnodup : t.violations.Nodup := t.pairwise_violations.imp Violation.Precedes.ne
  refine hnodup.map ?_
  rintro ⟨op, rule⟩ ⟨op', rule'⟩ heq
  obtain ⟨hop, htext⟩ := Prod.mk.inj heq
  rw [Violation.mk.injEq]
  exact ⟨hop, Rule.text_injective htext⟩

/-- In a table without violations, one entry can be checked alone. -/
theorem violations_update {clean : Opcode → Descriptor} (h : (ofFn clean).violations = [])
    (op : Opcode) (d : Descriptor) :
    (ofFn (Function.update clean op d)).violations = Violation.ofEntry op d := by
  have hother : ∀ x, x ≠ op →
      Violation.ofEntry x ((ofFn (Function.update clean op d)).get x) = [] := by
    intro x hx
    rw [get_ofFn, Function.update_of_ne hx, Violation.ofEntry_eq_nil_iff]
    intro rule
    simpa using violations_eq_nil_iff.mp h x rule
  obtain ⟨front, back, hall⟩ := List.append_of_mem (Opcode.mem_all op)
  have hnodup := Opcode.nodup_all
  rw [hall, List.nodup_middle, List.nodup_cons, List.mem_append, not_or] at hnodup
  obtain ⟨⟨hfront, hback⟩, -⟩ := hnodup
  -- the entries in front of the replaced one and behind it are reported in no way
  have hnil : ∀ part : List Opcode, op ∉ part → (part.flatMap fun x =>
      Violation.ofEntry x ((ofFn (Function.update clean op d)).get x)) = [] := by
    intro part hpart
    rw [List.flatMap_eq_nil_iff]
    intro x hx
    refine hother x ?_
    rintro rfl
    exact hpart hx
  rw [violations_eq_flatMap, hall, List.flatMap_append, List.flatMap_cons, hnil front hfront,
    hnil back hback, get_ofFn, Function.update_self, List.nil_append, List.append_nil]

/--
What the self-check reports of any classification: a rule and an opcode exactly if the opcode's
entry breaks the rule, nothing twice, by opcode and then by rule. The report consists of those of
the entries, one opcode behind the other, each of which is the report of the amd64 table with that
entry alone replaced. An opcode is reported as not classified exactly if none of its occurrences has
a descriptor.
-/
theorem violations_ofFn (classify : Opcode → Descriptor) :
    (∀ op (rule : Rule),
      ⟨op, rule⟩ ∈ (ofFn classify).violations ↔ ¬rule.Holds (classify op)) ∧
    ((ofFn classify).violations.map fun v => (v.opcode, v.rule.text)).Nodup ∧
    (ofFn classify).violations.Pairwise Violation.Precedes ∧
    (ofFn classify).violations =
      Opcode.all.flatMap (fun op => Violation.ofEntry op (classify op)) ∧
    (∀ op, Violation.ofEntry op (classify op) =
      (ofFn (Function.update Opcode.entry op (classify op))).violations) ∧
    ∀ op, ⟨op, .classified⟩ ∈ (ofFn classify).violations ↔
      ∀ i : Instruction, i.opcode = op → ∃ cause, (ofFn classify).resolve i = .error cause := by
  have hmem : ∀ op (rule : Rule),
      ⟨op, rule⟩ ∈ (ofFn classify).violations ↔ ¬rule.Holds (classify op) := by
    intro op rule
    rw [mem_violations_iff, get_ofFn]
  refine ⟨hmem, nodup_map_violations _, pairwise_violations _, ?_, ?_, ?_⟩
  · rw [violations_eq_flatMap]
    simp only [get_ofFn]
  · exact fun op => (violations_update violations_amd64 op (classify op)).symm
  · intro op
    rw [hmem, Rule.Holds, ne_eq, not_not]
    constructor
    · rintro hempty i rfl
      exact ⟨_, resolve_eq_error_iff.mpr ⟨by rwa [get_ofFn], rfl⟩⟩
    · intro hall
      obtain ⟨cause, hcause⟩ := hall { opcode := op } rfl
      have hempty := (resolve_eq_error_iff.mp hcause).1
      rwa [get_ofFn] at hempty

end Table

end Amd64Effects
