import Amd64Effects.Text.Word

/-!
# Registers

The thirty-two registers that a data-flow analysis follows: the sixteen general registers in the
order of their hardware encoding, then the sixteen SSE registers. A register's `index` is its place
in that order and also its bit in a `RegisterSet`.

A register is looked up by name in any letter case. `SB` and `FP`, which occur where a base register
may stand in an operand, name no register.
-/

namespace Amd64Effects

inductive Register where
  | ax | cx | dx | bx | sp | bp | si | di
  | r8 | r9 | r10 | r11 | r12 | r13 | r14 | r15
  | x0 | x1 | x2 | x3 | x4 | x5 | x6 | x7
  | x8 | x9 | x10 | x11 | x12 | x13 | x14 | x15
  deriving DecidableEq, Repr

namespace Register

/-- Every register, in encoding order. -/
def all : List Register :=
  [ax, cx, dx, bx, sp, bp, si, di,
   r8, r9, r10, r11, r12, r13, r14, r15,
   x0, x1, x2, x3, x4, x5, x6, x7,
   x8, x9, x10, x11, x12, x13, x14, x15]

theorem mem_all (r : Register) : r ∈ all := by
  cases r <;> decide

def name : Register → String
  | ax => "AX" | cx => "CX" | dx => "DX" | bx => "BX"
  | sp => "SP" | bp => "BP" | si => "SI" | di => "DI"
  | r8 => "R8" | r9 => "R9" | r10 => "R10" | r11 => "R11"
  | r12 => "R12" | r13 => "R13" | r14 => "R14" | r15 => "R15"
  | x0 => "X0" | x1 => "X1" | x2 => "X2" | x3 => "X3"
  | x4 => "X4" | x5 => "X5" | x6 => "X6" | x7 => "X7"
  | x8 => "X8" | x9 => "X9" | x10 => "X10" | x11 => "X11"
  | x12 => "X12" | x13 => "X13" | x14 => "X14" | x15 => "X15"

/-- The place of a register in encoding order, as a number. -/
def encoding : Register → Nat
  | ax => 0 | cx => 1 | dx => 2 | bx => 3
  | sp => 4 | bp => 5 | si => 6 | di => 7
  | r8 => 8 | r9 => 9 | r10 => 10 | r11 => 11
  | r12 => 12 | r13 => 13 | r14 => 14 | r15 => 15
  | x0 => 16 | x1 => 17 | x2 => 18 | x3 => 19
  | x4 => 20 | x5 => 21 | x6 => 22 | x7 => 23
  | x8 => 24 | x9 => 25 | x10 => 26 | x11 => 27
  | x12 => 28 | x13 => 29 | x14 => 30 | x15 => 31

theorem encoding_lt (r : Register) : r.encoding < 32 := by
  cases r <;> decide

/-- The place of a register in encoding order. -/
def index (r : Register) : Fin 32 :=
  ⟨r.encoding, r.encoding_lt⟩

theorem all_index (r : Register) : all[r.index]? = some r := by
  cases r <;> rfl

theorem index_injective {r s : Register} (h : r.index = s.index) : r = s := by
  have hr := all_index r
  rw [h, all_index s] at hr
  exact (Option.some.inj hr).symm

theorem index_surjective (i : Fin 32) : ∃ r : Register, r.index = i := by
  have hall : ∀ i : Fin 32, all[i].index = i := by decide
  exact ⟨all[i], hall i⟩

/-- The SSE registers follow the sixteen general ones. -/
def isSse (r : Register) : Bool :=
  16 ≤ r.encoding

/-- The register of this name, whatever the case of its letters. -/
def ofName? (text : List Char) : Option Register :=
  all.find? fun r => r.name.toList == Text.upper text

/-- The register of this name, where it is one that can take part in address arithmetic. -/
def generalOfName? (text : List Char) : Option Register :=
  (ofName? text).filter fun r => !r.isSse

theorem ofName?_name (r : Register) : ofName? r.name.toList = some r := by
  cases r <;> decide

end Register

end Amd64Effects
