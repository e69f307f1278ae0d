import Amd64Effects.Proofs.Table.Violations
import Amd64Effects.Table.Revision
import Mathlib.Data.Set.Insert

/-!
# Overrides are local

An entry that is replaced makes no difference to other opcodes: tables whose entries differ only for
some opcodes cannot be told apart by the others, neither by reading them nor by resolving
occurrences nor by the self-check (`AgreeOutside`, `agreeOutside_ofFn`).

A table that was revised many times is therefore known from the last change of each opcode alone
(`Revision.lastEntry`, `Revision.table_applyAll`). What a single change does is told by
`Revision.entry_apply`, and the rest is an induction over the changes.
-/

namespace Amd64Effects

namespace Table

/-! ## Tables that differ for some opcodes only -/

/-- Nothing that concerns an opcode outside of `changed` tells two tables apart. -/
structure AgreeOutside (changed : Set Opcode) [DecidablePred (· ∈ changed)] (t u : Table) :
    Prop where
  get_eq : ∀ op ∉ changed, t.get op = u.get op
  resolve_eq : ∀ i : Instruction, i.opcode ∉ changed → t.resolve i = u.resolve i
  violations_eq : (t.violations.filter fun v => v.opcode ∉ changed) =
    u.violations.filter fun v => v.opcode ∉ changed

/-- The descriptor of an occurrence depends on no other entry than that of its opcode. -/
theorem resolve_eq_of_get_eq {t u : Table} {i : Instruction} (h : t.get i.opcode = u.get i.opcode) :
    t.resolve i = u.resolve i := by
  unfold resolve
  rw [h]

/-- What is reported of the opcodes of one kind depends on no other entries than theirs. -/
theorem filter_violations_eq {p : Opcode → Bool} {t u : Table}
    (h : ∀ op, p op = true → t.get op = u.get op) :
    (t.violations.filter fun v => p v.opcode) = u.violations.filter fun v => p v.opcode := by
  rw [violations_eq_flatMap, violations_eq_flatMap, List.filter_flatMap, List.filter_flatMap]
  refine List.flatMap_congr fun op _ => ?_
  cases hp : p op with
  | true => rw [h op hp]
  | false =>
    have hnil : ∀ d, ((Violation.ofEntry op d).filter fun v => p v.opcode) = [] := by
      intro d
      rw [List.filter_eq_nil_iff]
      intro v hv
      rw [Violation.opcode_of_mem_ofEntry hv, hp]
      exact Bool.false_ne_true
    rw [hnil, hnil]

theorem agreeOutside_of_get_eq {changed : Set Opcode} [DecidablePred (· ∈ changed)] {t u : Table}
    (h : ∀ op ∉ changed, t.get op = u.get op) : AgreeOutside changed t u where
  get_eq := h
  resolve_eq i hi := resolve_eq_of_get_eq (h i.opcode hi)
  violations_eq := by
    refine filter_violations_eq (p := fun op => op ∉ changed) fun op hop => h op ?_
    simpa using hop

end Table

/-! ## Revisions -/

namespace Revision

/-- The opcode whose entry is changed. -/
def Change.opcode : Change → Opcode
  | .override op _ => op
  | .restore op => op

/-- The entry that a change leaves to its opcode. -/
def Change.entry (base : Opcode → Descriptor) : Change → Descriptor
  | .override _ d => d
  | .restore op => base op

/-- One change after the other. -/
def applyAll (r : Revision) (changes : List Change) : Revision :=
  changes.foldl apply r

/-- The last change of an opcode. -/
def lastChange? (changes : List Change) (op : Opcode) : Option Change :=
  changes.reverse.find? fun c => c.opcode == op

/-- The entry that the last change of an opcode leaves, or its own entry if there was none. -/
def lastEntry (base : Opcode → Descriptor) (changes : List Change) (op : Opcode) : Descriptor :=
  ((lastChange? changes op).map (Change.entry base)).getD (base op)

theorem lastChange?_cons (c : Change) (changes : List Change) (op : Opcode) :
    lastChange? (c :: changes) op =
      (lastChange? changes op).or (if c.opcode = op then some c else none) := by
  unfold lastChange?
  rw [List.reverse_cons, List.find?_append, List.find?_singleton]
  simp

/-- A change does to the entry of its own opcode what it says, and nothing to the others. -/
theorem entry_apply (r : Revision) (c : Change) (op : Opcode) :
    (r.apply c).entry op = if c.opcode = op then c.entry r.base else r.entry op := by
  cases c with
  | override x d =>
    rw [entry_override]
    simp only [Change.opcode, Change.entry, eq_comm]
  | restore x =>
    rw [entry_restore]
    by_cases hx : x = op
    · simp [Change.opcode, Change.entry, hx]
    · simp [Change.opcode, hx, Ne.symm hx]

theorem base_apply (r : Revision) (c : Change) : (r.apply c).base = r.base := by
  cases c <;> rfl

/-- After any changes an entry is what the last change of its opcode left. -/
theorem entry_applyAll (r : Revision) (changes : List Change) (op : Opcode) :
    (r.applyAll changes).entry op =
      ((lastChange? changes op).map (Change.entry r.base)).getD (r.entry op) := by
  induction changes generalizing r with
  | nil => rfl
  | cons c changes ih =>
    have hstep : (r.applyAll (c :: changes)).entry op =
        ((r.apply c).applyAll changes).entry op := rfl
    rw [hstep, ih, base_apply, entry_apply, lastChange?_cons]
    cases lastChange? changes op with
    | some last => rfl
    | none =>
      by_cases hc : c.opcode = op
      · simp [hc]
      · simp [hc]

theorem table_applyAll (base : Opcode → Descriptor) (changes : List Change) :
    (applyAll { base } changes).table = Table.ofFn (lastEntry base changes) := by
  unfold table
  congr 1
  funext op
  exact entry_applyAll { base } changes op

end Revision

/-! ## Locality -/

namespace Table

/--
Classifications that agree outside of some opcodes have tables that agree there, and each other
opcode has the entry that it was given. So it is with revisions: the table that is left by any
changes is that of the last entries, and where these agree for the other opcodes, whatever was
changed in between, the tables do.
-/
theorem agreeOutside_ofFn {f g : Opcode → Descriptor} {changed : Set Opcode}
    [DecidablePred (· ∈ changed)] (h : ∀ op ∉ changed, f op = g op) :
    (∀ op ∉ changed, (ofFn f).get op = f op ∧ (ofFn g).get op = f op) ∧
    AgreeOutside changed (ofFn f) (ofFn g) ∧
    (∀ base changes,
      (Revision.applyAll { base } changes).table = ofFn (Revision.lastEntry base changes)) ∧
    ∀ base base' changes changes',
      (∀ op ∉ changed, Revision.lastEntry base changes op = Revision.lastEntry base' changes' op) →
        AgreeOutside changed (Revision.applyAll { base } changes).table
          (Revision.applyAll { base := base' } changes').table := by
  have hagree : ∀ f g : Opcode → Descriptor, (∀ op ∉ changed, f op = g op) →
      AgreeOutside changed (ofFn f) (ofFn g) := by
    intro f g h
    refine agreeOutside_of_get_eq fun op hop => ?_
    rw [get_ofFn, get_ofFn, h op hop]
  refine ⟨?_, hagree f g h, Revision.table_applyAll, ?_⟩
  · intro op hop
    rw [get_ofFn, get_ofFn, h op hop]
    exact ⟨rfl, rfl⟩
  · intro base base' changes changes' hlast
    rw [Revision.table_applyAll, Revision.table_applyAll]
    exact hagree _ _ hlast

/-- The amd64 entries, but for a conditional jump that is not said to use the carry bit. -/
def carrylessJump : Opcode → Descriptor :=
  Function.update Opcode.entry .jeq { flags := {.conditionalJump} }

theorem agreeOutside_ofFn_jeq :
    (∀ op ∉ ({.jeq} : Set Opcode), Opcode.entry op = carrylessJump op) ∧
      AgreeOutside {.jeq} amd64 (ofFn carrylessJump) ∧
      AgreeOutside {.jeq} amd64 (Revision.applyAll { base := Opcode.entry }
        [.override .addq .empty, .override .jeq .empty, .restore .addq]).table := by
  have hentry : ∀ op ∉ ({.jeq} : Set Opcode), Opcode.entry op = carrylessJump op :=
    fun op hop => (Function.update_of_ne hop _ _).symm
  obtain ⟨-, hagree, -, hrevisions⟩ := agreeOutside_ofFn hentry
  refine ⟨hentry, hagree, hrevisions Opcode.entry Opcode.entry [] _ fun op hop => ?_⟩
  have hjeq : op ≠ .jeq := hop
  by_cases haddq : op = .addq
  · subst haddq
    rfl
  · simp [Revision.lastEntry, Revision.lastChange?, Revision.Change.opcode, hjeq.symm,
      Ne.symm haddq]

end Table

end Amd64Effects
