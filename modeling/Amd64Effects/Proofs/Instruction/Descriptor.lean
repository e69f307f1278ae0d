import Amd64Effects.Proofs.Instruction.RoundTrip
import Amd64Effects.Proofs.Resolution

/-!
# Descriptors of what is read

Every instruction that a line holds has a descriptor in the amd64 table, and the registers of that
descriptor are few (`resolveText_amd64`). Those that are implied come from the entry of the opcode
and from the rules of resolution: they are among AX, CX, DX, SI and DI. The others form addresses,
and no text writes an address with an SSE register in it.
-/

namespace Amd64Effects

/-! ## Addresses in text -/

namespace Operand

theorem Mode.TakesSymbol.isSse_eq_false {mode : Mode} {symbol : Option String} {base : Register}
    (h : mode.TakesSymbol symbol) (hbase : mode = .indirect base) : base.isSse = false := by
  cases h with
  | indirect hgeneral =>
    rw [← Mode.indirect.inj hbase]
    exact hgeneral
  | global | argument | fileLocal | frameSlot => exact absurd hbase (by simp)

/-- The registers of an address that can be read are general ones. -/
theorem IsReadable.isSse_eq_false {branch : Bool} {o : Operand} {r : Register}
    (h : IsReadable branch o) (hr : o.Addresses r) : r.isSse = false := by
  cases h with
  | memory offset hmode hindex =>
    cases hr with
    | base hbase => exact hmode.isSse_eq_false hbase
    | index hmemory hi => exact (hindex _ hi).1
  | absent | register | immediate | floatImmediate | position | label =>
    cases hr with
    | base hbase => nomatch hbase
    | index hmemory hi => nomatch hmemory

end Operand

/-! ## Implied registers -/

namespace RegisterSet

/-- The registers that instructions use or define without an operand that names them. -/
def implied : RegisterSet := {.ax, .cx, .dx, .si, .di}

theorem isSse_of_mem_implied {r : Register} (h : r ∈ implied) : r.isSse = false := by
  have hall : ∀ r ∈ Register.all, r ∈ implied → r.isSse = false := by decide
  exact hall r (Register.mem_all r) h

end RegisterSet

/-- The entry of an opcode says something, and its registers are implied ones. -/
theorem Opcode.entry_implied (op : Opcode) :
    op.entry.flags ≠ ∅ ∧ op.entry.uses ⊆ .implied ∧ op.entry.defines ⊆ .implied := by
  have hall : ∀ op ∈ all, op.entry.flags ≠ ∅ ∧ op.entry.uses.isSubset .implied = true ∧
      op.entry.defines.isSubset .implied = true := by decide +kernel
  obtain ⟨hflags, huses, hdefines⟩ := hall op (mem_all op)
  exact ⟨hflags, RegisterSet.isSubset_iff.mp huses, RegisterSet.isSubset_iff.mp hdefines⟩

namespace Descriptor

/-- A descriptor whose registers are implied ones or general registers of addresses. -/
structure IsGeneral (d : Descriptor) : Prop where
  flags_ne_empty : d.flags ≠ ∅
  defines_subset : d.defines ⊆ .implied
  isSse_of_mem_addressing : ∀ r ∈ d.addressing, r.isSse = false
  addressing_subset : d.addressing ⊆ d.uses
  uses_subset : d.uses \ d.addressing ⊆ .implied

theorem Describes.isGeneral {entry d : Descriptor} {i : Instruction} (h : entry.Describes i d)
    (hflags : entry.flags ≠ ∅) (huses : entry.uses ⊆ .implied)
    (hdefines : entry.defines ⊆ .implied)
    (haddresses : ∀ r, i.left.Addresses r ∨ i.right.Addresses r → r.isSse = false) :
    d.IsGeneral where
  flags_ne_empty := h.flags_ne_empty hflags
  defines_subset := by
    intro r hr
    rcases (h.mem_defines r).mp hr with hentry | ⟨rfl | rfl, -⟩
    · exact hdefines r hentry
    · decide
    · decide
  isSse_of_mem_addressing r hr := haddresses r ((h.mem_addressing r).mp hr)
  addressing_subset := h.addressing_subset_uses
  uses_subset := by
    intro r hr
    obtain ⟨huse, haddressing⟩ := RegisterSet.mem_sdiff.mp hr
    rcases (h.mem_uses r).mp huse with hentry | ⟨rfl, -⟩ | ⟨rfl, -⟩ | hmem
    · exact huses r hentry
    · decide
    · decide
    · exact absurd hmem haddressing

theorem IsGeneral.isSse_eq_false {d : Descriptor} (h : d.IsGeneral) {r : Register}
    (hr : r ∈ d.uses ∨ r ∈ d.defines ∨ r ∈ d.addressing) : r.isSse = false := by
  rcases hr with huse | hdefine | haddressing
  · by_cases haddressing : r ∈ d.addressing
    · exact h.isSse_of_mem_addressing r haddressing
    · exact RegisterSet.isSse_of_mem_implied
        (h.uses_subset r (RegisterSet.mem_sdiff.mpr ⟨huse, haddressing⟩))
  · exact RegisterSet.isSse_of_mem_implied (h.defines_subset r hdefine)
  · exact h.isSse_of_mem_addressing r haddressing

end Descriptor

namespace Table

/-- In the amd64 table every occurrence has a descriptor. -/
theorem resolve_amd64 (i : Instruction) : amd64.resolve i = .ok (i.opcode.entry.refine i) := by
  rw [resolve_eq_ok_iff, amd64, get_ofFn]
  exact ⟨i.opcode.entry_implied.1, rfl⟩

/--
A line without a fault of syntax holds no instruction, or one that has a descriptor: some flag is
set, the registers that it defines are implied ones, those that form addresses are general ones and
are used, and the others that are used are implied. No SSE register occurs at all.
-/
theorem resolveText_amd64 (line : List Char) :
    match Instruction.read line with
    | .error cause =>
      amd64.resolveText line = .error (.line cause) ∧ (Fault.line cause).kind = .text ∧
        (Fault.line cause).instruction? = none
    | .ok none => amd64.resolveText line = .ok none
    | .ok (some i) =>
      ∃ d, amd64.resolve i = .ok d ∧ amd64.resolveText line = .ok (some (i, d)) ∧ d.IsGeneral ∧
        ∀ r, r ∈ d.uses ∨ r ∈ d.defines ∨ r ∈ d.addressing → r.isSse = false := by
  unfold resolveText
  cases hread : Instruction.read line with
  | error cause => exact ⟨rfl, rfl, rfl⟩
  | ok held =>
    cases held with
    | none => rfl
    | some i =>
      have hreadable := Instruction.isReadable_of_read hread
      obtain ⟨hflags, huses, hdefines⟩ := i.opcode.entry_implied
      have hgeneral : (i.opcode.entry.refine i).IsGeneral := by
        refine (Descriptor.describes_refine _ i).isGeneral hflags huses hdefines ?_
        rintro r (hleft | hright)
        · exact hreadable.left.isSse_eq_false hleft
        · exact hreadable.right.isSse_eq_false hright
      refine ⟨_, resolve_amd64 i, ?_, hgeneral, fun r hr => hgeneral.isSse_eq_false hr⟩
      simp only [resolve_amd64]
      rfl

end Table

end Amd64Effects
