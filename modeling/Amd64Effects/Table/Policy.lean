import Amd64Effects.Table

/-!
# The policy of a table

Nine rules that the entries of a well-made table keep. A rule looks at one entry at a time, so the
violations of a table are those of its entries, in table order and then in the order of the rules.
-/

namespace Amd64Effects

/-- A rule of the policy. -/
inductive Rule where
  | classified
  | singleSize
  | conditionalJump
  | jump
  | move
  | conversion
  | shift
  | pseudo
  | addressing
  deriving DecidableEq, Repr

namespace Rule

/-- The rules, in the order in which they are checked. -/
def all : List Rule :=
  [classified, singleSize, conditionalJump, jump, move, conversion, shift, pseudo, addressing]

theorem mem_all (r : Rule) : r ∈ all := by
  cases r <;> decide

/-- Whether an entry breaks the rule. -/
def isBrokenBy (d : Descriptor) : Rule → Bool
  | classified => d.flags.isEmpty
  | singleSize => 1 < d.flags.sizes.length
  | conditionalJump => d.flags.contains .conditionalJump && !d.flags.contains .useCarry
  | jump => d.flags.contains .jump && !d.flags.containsAll [.breaksFlow, .killCarry]
  | move =>
    d.flags.contains .move &&
      (!d.flags.containsAll [.leftRead, .rightWrite] || d.flags.affectsCarry)
  | conversion => d.flags.contains .conversion && !d.flags.containsAll [.leftRead, .rightWrite]
  | shift =>
    d.flags.contains .shiftCount && !d.flags.containsAll [.setCarry, .rightRead, .rightWrite]
  | pseudo => d.flags.contains .pseudo && !(d.uses ∪ d.defines).isEmpty
  | addressing => !d.addressing.isEmpty

/-- What a report says of an entry that breaks the rule. -/
def text : Rule → String
  | classified => "no flags; opcode is not classified"
  | singleSize => "more than one size class"
  | conditionalJump => "conditional jump must use carry"
  | jump => "jump must break and kill carry"
  | move => "move must read left, write right and leave carry alone"
  | conversion => "conversion must read left and write right"
  | shift => "shift must set carry and read-write right"
  | pseudo => "pseudo-op with implicit registers"
  | addressing => "static entry with addressing registers"

end Rule

/-- A rule that the entry of an opcode breaks. -/
structure Violation where
  opcode : Opcode
  rule : Rule
  deriving DecidableEq, Repr

def Violation.text (v : Violation) : String :=
  v.opcode.name ++ ": " ++ v.rule.text

/-- The rules that an entry breaks, in order. -/
def Descriptor.brokenRules (d : Descriptor) : List Rule :=
  Rule.all.filter (Rule.isBrokenBy d)

namespace Table

/-- The violations of a table, by opcode and then by rule. -/
def violations (t : Table) : List Violation :=
  Opcode.all.flatMap fun op => (t.get op).brokenRules.map (Violation.mk op)

theorem mem_violations {t : Table} {v : Violation} :
    v ∈ t.violations ↔ v.rule.isBrokenBy (t.get v.opcode) = true := by
  obtain ⟨op, rule⟩ := v
  simp only [violations, List.mem_flatMap, List.mem_map, Descriptor.brokenRules, List.mem_filter]
  constructor
  · rintro ⟨op', _, rule', ⟨_, hbroken⟩, heq⟩
    cases heq
    exact hbroken
  · intro hbroken
    exact ⟨op, Opcode.mem_all op, rule, ⟨Rule.mem_all rule, hbroken⟩, rfl⟩

end Table

end Amd64Effects
