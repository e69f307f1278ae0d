import Amd64Effects.Table

/-!
# The descriptor of an occurrence

Resolution looks at few things: the entry of the opcode, whether the left operand is an immediate
integer, whether there is a right operand, and the registers that form addresses. `Describes` says
part by part what a descriptor owes to each of them. The refined entry is a descriptor of that kind
(`describes_refine`) and there is no other one (`Describes.unique`), so occurrences that agree on
these things have the same descriptor (`resolve_ofFn`).
-/

namespace Amd64Effects

/-! ## Operands -/

namespace Operand

/-- The operand of a mode lies in memory. -/
inductive Mode.IsMemory : Mode → Prop
  | indirect (base : Register) : IsMemory (.indirect base)
  | global : IsMemory .global
  | fileLocal : IsMemory .fileLocal
  | frameSlot : IsMemory .frameSlot
  | argument : IsMemory .argument

theorem isMemory_iff {o : Operand} : o.isMemory = true ↔ o.mode.IsMemory := by
  obtain ⟨mode, index, offset, symbol⟩ := o
  constructor
  · intro h
    cases mode with
    | indirect base => exact .indirect base
    | global => exact .global
    | fileLocal => exact .fileLocal
    | frameSlot => exact .frameSlot
    | argument => exact .argument
    | _ => exact absurd h Bool.false_ne_true
  · intro h
    cases h <;> rfl

/-- A register that forms the address of an operand: the base or the index of memory. -/
inductive Addresses (o : Operand) (r : Register) : Prop
  | base (h : o.mode = .indirect r)
  | index {scale : UInt8} (hmemory : o.mode.IsMemory) (h : o.index = some ⟨r, scale⟩)

theorem base?_eq_some_iff {o : Operand} {r : Register} :
    o.base? = some r ↔ o.mode = .indirect r := by
  unfold base?
  cases o.mode <;> simp

theorem addresses_iff {o : Operand} {r : Register} : o.Addresses r ↔ r ∈ o.addressRegisters := by
  rw [mem_addressRegisters, base?_eq_some_iff, isMemory_iff]
  constructor
  · rintro (hbase | ⟨hmemory, hindex⟩)
    · exact ⟨hbase ▸ .indirect r, Or.inl hbase⟩
    · exact ⟨hmemory, Or.inr ⟨_, hindex⟩⟩
  · rintro ⟨hmemory, hbase | ⟨scale, hindex⟩⟩
    · exact .base hbase
    · exact .index hmemory hindex

theorem isAbsent_iff {o : Operand} : o.isAbsent = true ↔ o.mode = .none := by
  unfold isAbsent
  cases o.mode <;> simp

theorem isImmediate_eq_false_iff {o : Operand} :
    o.isImmediate = false ↔ ∀ v, o.mode ≠ .immediate v := by
  unfold isImmediate
  cases o.mode <;> simp

end Operand

namespace Descriptor

/-! ## What each step can do -/

section

variable (d : Descriptor) (i : Instruction)

theorem withShiftCount_cases :
    ((.shiftCount ∈ d.flags ∧ ∀ v, i.left.mode ≠ .immediate v) ∧
      d.withShiftCount i = { d with uses := d.uses ∪ {.cx} }) ∨
    (¬(.shiftCount ∈ d.flags ∧ ∀ v, i.left.mode ≠ .immediate v) ∧ d.withShiftCount i = d) := by
  have hcondition : (d.flags.contains .shiftCount && !i.left.isImmediate) = true ↔
      .shiftCount ∈ d.flags ∧ ∀ v, i.left.mode ≠ .immediate v := by
    rw [Bool.and_eq_true, Bool.not_eq_true', FlagSet.contains_iff,
      Operand.isImmediate_eq_false_iff]
  unfold withShiftCount
  split
  · next h => exact Or.inl ⟨hcondition.mp h, rfl⟩
  · next h => exact Or.inr ⟨mt hcondition.mpr h, rfl⟩

theorem withProduct_cases :
    (.wideProduct ∉ d.flags ∧ d.withProduct i = d) ∨
    (.wideProduct ∈ d.flags ∧ i.right.mode = .none ∧
      d.withProduct i = { d with uses := d.uses ∪ {.ax}, defines := d.defines ∪ {.ax, .dx} }) ∨
    (.wideProduct ∈ d.flags ∧ i.right.mode ≠ .none ∧
      d.withProduct i = { d with flags := d.flags ∪ {.rightRead, .rightWrite} }) := by
  unfold withProduct
  split
  · next hwide =>
    split
    · next habsent => exact Or.inr (Or.inl ⟨hwide, Operand.isAbsent_iff.mp habsent, rfl⟩)
    · next hpresent => exact Or.inr (Or.inr ⟨hwide, mt Operand.isAbsent_iff.mpr hpresent, rfl⟩)
  · next hwide => exact Or.inl ⟨hwide, rfl⟩

variable {r : Register}

theorem flags_withShiftCount : (d.withShiftCount i).flags = d.flags := by
  rcases d.withShiftCount_cases i with ⟨-, heq⟩ | ⟨-, heq⟩ <;> rw [heq]

theorem defines_withShiftCount : (d.withShiftCount i).defines = d.defines := by
  rcases d.withShiftCount_cases i with ⟨-, heq⟩ | ⟨-, heq⟩ <;> rw [heq]

theorem mem_uses_withShiftCount :
    r ∈ (d.withShiftCount i).uses ↔
      r ∈ d.uses ∨ r = .cx ∧ .shiftCount ∈ d.flags ∧ ∀ v, i.left.mode ≠ .immediate v := by
  rcases d.withShiftCount_cases i with ⟨hcount, heq⟩ | ⟨hcount, heq⟩
  · simp [heq, hcount]
  · simp [heq, hcount]

theorem flags_withProduct :
    (d.withProduct i).flags =
      if .wideProduct ∈ d.flags ∧ i.right.mode ≠ .none then d.flags ∪ {.rightRead, .rightWrite}
      else d.flags := by
  rcases d.withProduct_cases i with ⟨hwide, heq⟩ | ⟨hwide, hright, heq⟩ | ⟨hwide, hright, heq⟩
  · simp [heq, hwide]
  · simp [heq, hright]
  · simp [heq, hwide, hright]

theorem mem_defines_withProduct :
    r ∈ (d.withProduct i).defines ↔
      r ∈ d.defines ∨ (r = .ax ∨ r = .dx) ∧ .wideProduct ∈ d.flags ∧ i.right.mode = .none := by
  rcases d.withProduct_cases i with ⟨hwide, heq⟩ | ⟨hwide, hright, heq⟩ | ⟨hwide, hright, heq⟩
  · simp [heq, hwide]
  · simp [heq, hwide, hright]
  · simp [heq, hright]

theorem mem_uses_withProduct :
    r ∈ (d.withProduct i).uses ↔
      r ∈ d.uses ∨ r = .ax ∧ .wideProduct ∈ d.flags ∧ i.right.mode = .none := by
  rcases d.withProduct_cases i with ⟨hwide, heq⟩ | ⟨hwide, hright, heq⟩ | ⟨hwide, hright, heq⟩
  · simp [heq, hwide]
  · simp [heq, hwide, hright]
  · simp [heq, hright]

theorem mem_addressing_withAddressing :
    r ∈ (d.withAddressing i).addressing ↔ i.left.Addresses r ∨ i.right.Addresses r := by
  rw [Operand.addresses_iff, Operand.addresses_iff]
  exact RegisterSet.mem_union

theorem mem_uses_withAddressing :
    r ∈ (d.withAddressing i).uses ↔ r ∈ d.uses ∨ r ∈ (d.withAddressing i).addressing :=
  RegisterSet.mem_union

end

/-! ## What an occurrence is owed -/

/--
The parts of the descriptor of an occurrence, from the entry of its opcode. Flags are compared as
words, so bits that belong to no flag are kept.
-/
structure Describes (entry : Descriptor) (i : Instruction) (d : Descriptor) : Prop where
  flags_eq : d.flags =
    if .wideProduct ∈ entry.flags ∧ i.right.mode ≠ .none then
      entry.flags ∪ {.rightRead, .rightWrite}
    else entry.flags
  mem_defines : ∀ r, r ∈ d.defines ↔
    r ∈ entry.defines ∨ (r = .ax ∨ r = .dx) ∧ .wideProduct ∈ entry.flags ∧ i.right.mode = .none
  mem_addressing : ∀ r, r ∈ d.addressing ↔ i.left.Addresses r ∨ i.right.Addresses r
  mem_uses : ∀ r, r ∈ d.uses ↔
    r ∈ entry.uses ∨
    (r = .cx ∧ .shiftCount ∈ entry.flags ∧ ∀ v, i.left.mode ≠ .immediate v) ∨
    (r = .ax ∧ .wideProduct ∈ entry.flags ∧ i.right.mode = .none) ∨
    r ∈ d.addressing

theorem describes_refine (entry : Descriptor) (i : Instruction) :
    entry.Describes i (entry.refine i) where
  flags_eq := by
    show ((entry.withShiftCount i).withProduct i).flags = _
    rw [flags_withProduct, flags_withShiftCount]
  mem_defines r := by
    show r ∈ ((entry.withShiftCount i).withProduct i).defines ↔ _
    rw [mem_defines_withProduct, defines_withShiftCount, flags_withShiftCount]
  mem_addressing r := mem_addressing_withAddressing _ i
  mem_uses r := by
    rw [refine, mem_uses_withAddressing, mem_uses_withProduct, mem_uses_withShiftCount,
      flags_withShiftCount, or_assoc, or_assoc]

-- the index of an operand that is no memory is part of no address
example : (Opcode.shlq.entry.refine
    { opcode := .shlq, left := { mode := .register .cx, index := some ⟨.bx, 4⟩ },
      right := { mode := .indirect .ax } }).uses = {.cx, .ax} := by decide

namespace Describes

variable {entry d : Descriptor} {i : Instruction}

/-- No flag is taken away. -/
theorem mem_flags (h : entry.Describes i d) {f : Flag} (hf : f ∈ entry.flags) : f ∈ d.flags := by
  rw [h.flags_eq]
  split
  · exact FlagSet.mem_union.mpr (Or.inl hf)
  · exact hf

/-- Only two flags may be added. -/
theorem mem_entry_flags (h : entry.Describes i d) {f : Flag} (hf : f ∈ d.flags)
    (hne : f ≠ .rightRead ∧ f ≠ .rightWrite) : f ∈ entry.flags := by
  rw [h.flags_eq] at hf
  split at hf
  · simpa [hne] using hf
  · exact hf

theorem flags_ne_empty (h : entry.Describes i d) (hentry : entry.flags ≠ ∅) : d.flags ≠ ∅ := by
  intro hempty
  by_cases hwide : .wideProduct ∈ entry.flags
  · have hmem := h.mem_flags hwide
    rw [hempty] at hmem
    exact FlagSet.not_mem_empty _ hmem
  · rw [h.flags_eq, if_neg fun hboth => hwide hboth.1] at hempty
    exact hentry hempty

theorem addressing_subset_uses (h : entry.Describes i d) : d.addressing ⊆ d.uses :=
  fun r hr => (h.mem_uses r).mpr (Or.inr (Or.inr (Or.inr hr)))

end Describes

end Descriptor

/--
Two occurrences of one opcode that differ only in what resolution does not look at: the symbols,
offsets and scales, the values of immediates, the registers that are operands themselves, the lines.
-/
structure Instruction.Alike (i j : Instruction) : Prop where
  opcode : i.opcode = j.opcode
  immediate : (∃ v, i.left.mode = .immediate v) ↔ ∃ v, j.left.mode = .immediate v
  absent : i.right.mode = .none ↔ j.right.mode = .none
  addresses : ∀ r, i.left.Addresses r ∨ i.right.Addresses r ↔
    j.left.Addresses r ∨ j.right.Addresses r

theorem Descriptor.Describes.unique {entry d e : Descriptor} {i j : Instruction}
    (hd : entry.Describes i d) (he : entry.Describes j e) (h : i.Alike j) : d = e := by
  have himmediate : (∀ v, i.left.mode ≠ .immediate v) ↔ ∀ v, j.left.mode ≠ .immediate v := by
    simpa only [not_exists] using not_congr h.immediate
  have hflags : d.flags = e.flags := by
    rw [hd.flags_eq, he.flags_eq]
    simp only [ne_eq, h.absent]
  have hdefines : d.defines = e.defines := by
    refine RegisterSet.ext_mem fun r => ?_
    rw [hd.mem_defines, he.mem_defines, h.absent]
  have haddressing : d.addressing = e.addressing := by
    refine RegisterSet.ext_mem fun r => ?_
    rw [hd.mem_addressing, he.mem_addressing, h.addresses]
  have huses : d.uses = e.uses := by
    refine RegisterSet.ext_mem fun r => ?_
    rw [hd.mem_uses, he.mem_uses, himmediate, h.absent, haddressing]
  obtain ⟨flags, uses, defines, addressing⟩ := d
  simp only at hflags huses hdefines haddressing
  rw [hflags, huses, hdefines, haddressing]

namespace Table

/-! ## Resolution -/

theorem resolve_eq_error_iff {t : Table} {i : Instruction} {cause : Fault} :
    t.resolve i = .error cause ↔ (t.get i.opcode).flags = ∅ ∧ cause = .unclassified i := by
  unfold resolve
  simp only
  split
  · next h => simp [FlagSet.isEmpty_iff.mp h, eq_comm]
  · next h => simp [mt FlagSet.isEmpty_iff.mpr h]

theorem resolve_eq_ok_iff {t : Table} {i : Instruction} {d : Descriptor} :
    t.resolve i = .ok d ↔ (t.get i.opcode).flags ≠ ∅ ∧ d = (t.get i.opcode).refine i := by
  unfold resolve
  simp only
  split
  · next h => simp [FlagSet.isEmpty_iff.mp h]
  · next h => simp [mt FlagSet.isEmpty_iff.mpr h, eq_comm]

/-- Occurrences that are alike are both without a descriptor, or have the same one. -/
theorem resolve_congr {t : Table} {i j : Instruction} (h : i.Alike j) :
    (∃ d, t.resolve i = .ok d ∧ t.resolve j = .ok d) ∨
    (∃ cause, t.resolve i = .error cause) ∧ ∃ cause, t.resolve j = .error cause := by
  have hentry : t.get j.opcode = t.get i.opcode := by rw [h.opcode]
  by_cases hempty : (t.get i.opcode).flags = ∅
  · refine Or.inr ⟨⟨_, resolve_eq_error_iff.mpr ⟨hempty, rfl⟩⟩,
      ⟨_, resolve_eq_error_iff.mpr ⟨?_, rfl⟩⟩⟩
    rwa [hentry]
  · refine Or.inl ⟨_, resolve_eq_ok_iff.mpr ⟨hempty, rfl⟩, resolve_eq_ok_iff.mpr ⟨?_, ?_⟩⟩
    · rwa [hentry]
    · rw [hentry]
      exact (Descriptor.describes_refine _ i).unique (Descriptor.describes_refine _ j) h

/--
What becomes of an occurrence under any classification: it has no descriptor exactly if no bit of
its opcode's flags is set, and the fault then names the occurrence as it is. Otherwise it has the
descriptor that `Describes` tells, and what is alike has the same.
-/
theorem resolve_ofFn (classify : Opcode → Descriptor) (i : Instruction) :
    ((∃ cause, (ofFn classify).resolve i = .error cause) ↔
      (classify i.opcode).flags.bits = 0) ∧
    (∀ cause, (ofFn classify).resolve i = .error cause →
      cause.kind = .opcode ∧ cause.instruction? = some i) ∧
    ((classify i.opcode).flags.bits ≠ 0 →
      ∃ d, (ofFn classify).resolve i = .ok d ∧ (classify i.opcode).Describes i d) ∧
    ∀ j, i.Alike j →
      (∃ d, (ofFn classify).resolve i = .ok d ∧ (ofFn classify).resolve j = .ok d) ∨
      (∃ cause, (ofFn classify).resolve i = .error cause) ∧
        ∃ cause, (ofFn classify).resolve j = .error cause := by
  have hempty : (classify i.opcode).flags = ∅ ↔ (classify i.opcode).flags.bits = 0 := by
    rw [← FlagSet.isEmpty_iff]
    exact beq_iff_eq
  refine ⟨?_, ?_, ?_, fun j h => resolve_congr h⟩
  · simp only [resolve_eq_error_iff, get_ofFn, hempty, exists_and_left, exists_eq, and_true]
  · intro cause h
    obtain ⟨-, rfl⟩ := resolve_eq_error_iff.mp h
    exact ⟨rfl, rfl⟩
  · intro hbits
    refine ⟨_, resolve_eq_ok_iff.mpr ⟨?_, rfl⟩, ?_⟩
    · rwa [get_ofFn, ne_eq, hempty]
    · rw [get_ofFn]
      exact Descriptor.describes_refine _ i

end Table

end Amd64Effects
