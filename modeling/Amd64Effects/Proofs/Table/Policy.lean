import Amd64Effects.Proofs.Resolution
import Amd64Effects.Table.Policy

/-!
# The policy after resolution

The self-check of a table looks at its entries, but an analysis reads the descriptors of
occurrences. `Rule.Holds` says what each rule asks of a descriptor, and a table without violations
is one whose entries keep every rule (`violations_eq_nil_iff`). Two of the rules are about entries
alone: those on addressing registers and on annotations. The others are rules on flags, and since
resolution takes no flag away and adds none that a rule forbids, they hold of every occurrence
(`Describes.holds`).
-/

namespace Amd64Effects

/-! ## Flags -/

namespace FlagSet

variable {s : FlagSet}

theorem mem_sizes {c : SizeClass} : c ∈ s.sizes ↔ c.flag ∈ s := by
  simp [sizes, SizeClass.mem_all, contains_iff]

theorem nodup_sizes : s.sizes.Nodup :=
  List.Pairwise.filter _ (by decide)

theorem ne_of_sizes {a b : SizeClass} {rest : List SizeClass} (h : s.sizes = a :: b :: rest) :
    a ≠ b := by
  have hnodup := nodup_sizes (s := s)
  rw [h] at hnodup
  rintro rfl
  simp at hnodup

theorem length_sizes_le_one_iff :
    s.sizes.length ≤ 1 ↔ ∀ a b : SizeClass, a.flag ∈ s → b.flag ∈ s → a = b := by
  simp only [← mem_sizes]
  match hsizes : s.sizes with
  | [] => simp
  | [c] => simp
  | c :: c' :: rest =>
    constructor
    · intro h
      simp at h
    · intro h
      exact absurd (h c c' (by simp) (by simp)) (ne_of_sizes hsizes)

/-- A size is that of the only class that is present. -/
theorem size?_eq_some_iff {c : SizeClass} :
    s.size? = some c ↔ c.flag ∈ s ∧ ∀ x : SizeClass, x.flag ∈ s → x = c := by
  simp only [← mem_sizes]
  unfold size?
  match hsizes : s.sizes with
  | [] => simp
  | [x] =>
    simp only [Option.some.injEq, List.mem_singleton]
    constructor
    · rintro rfl
      exact ⟨rfl, fun _ h => h⟩
    · exact fun h => h.1.symm
  | x :: y :: rest =>
    constructor
    · intro h
      exact absurd h (by simp)
    · rintro ⟨-, h⟩
      exact absurd ((h x (by simp)).trans (h y (by simp)).symm) (ne_of_sizes hsizes)

/-- A size is missing only where no class is present, if there is at most one. -/
theorem not_mem_of_size?_eq_none (h : s.sizes.length ≤ 1) (hnone : s.size? = none)
    (c : SizeClass) : c.flag ∉ s := by
  rw [← mem_sizes]
  unfold size? at hnone
  match hsizes : s.sizes with
  | [] => simp
  | [c] => simp [hsizes] at hnone
  | _ :: _ :: _ => simp [hsizes] at h

theorem right_eq_readWrite_iff : s.right = .readWrite ↔ .rightRead ∈ s ∧ .rightWrite ∈ s := by
  rw [← contains_iff, ← contains_iff, right]
  cases s.contains .rightRead <;> cases s.contains .rightWrite <;> decide

theorem affectsCarry_eq_false_iff :
    s.affectsCarry = false ↔ .setCarry ∉ s ∧ .useCarry ∉ s ∧ .killCarry ∉ s := by
  rw [Bool.eq_false_iff, ne_eq, affectsCarry, containsAny_iff]
  simp

end FlagSet

namespace RegisterSet

theorem eq_empty_iff {s : RegisterSet} : s = ∅ ↔ ∀ r, r ∉ s := by
  constructor
  · rintro rfl r
    exact not_mem_empty r
  · intro h
    exact ext_mem fun r => iff_of_false (h r) (not_mem_empty r)

theorem union_eq_empty_iff {s t : RegisterSet} : s ∪ t = ∅ ↔ s = ∅ ∧ t = ∅ := by
  simp only [eq_empty_iff, mem_union, not_or, forall_and]

end RegisterSet

/-! ## Rules -/

namespace Rule

/-- What a rule asks of a descriptor. -/
def Holds (d : Descriptor) : Rule → Prop
  | classified => d.flags ≠ ∅
  | singleSize => ∀ a b : SizeClass, a.flag ∈ d.flags → b.flag ∈ d.flags → a = b
  | conditionalJump => .conditionalJump ∈ d.flags → .useCarry ∈ d.flags
  | jump => .jump ∈ d.flags → .breaksFlow ∈ d.flags ∧ .killCarry ∈ d.flags
  | move => .move ∈ d.flags →
      (.leftRead ∈ d.flags ∧ .rightWrite ∈ d.flags) ∧
        .setCarry ∉ d.flags ∧ .useCarry ∉ d.flags ∧ .killCarry ∉ d.flags
  | conversion => .conversion ∈ d.flags → .leftRead ∈ d.flags ∧ .rightWrite ∈ d.flags
  | shift => .shiftCount ∈ d.flags →
      .setCarry ∈ d.flags ∧ .rightRead ∈ d.flags ∧ .rightWrite ∈ d.flags
  | pseudo => .pseudo ∈ d.flags → d.uses = ∅ ∧ d.defines = ∅
  | addressing => d.addressing = ∅

theorem isBrokenBy_eq_false_iff {rule : Rule} {d : Descriptor} :
    rule.isBrokenBy d = false ↔ rule.Holds d := by
  cases rule with
  | classified => simp [isBrokenBy, Holds, Bool.eq_false_iff, FlagSet.isEmpty_iff]
  | singleSize =>
    rw [Holds, ← FlagSet.length_sizes_le_one_iff]
    simp [isBrokenBy]
  | conditionalJump => simp [isBrokenBy, Holds, FlagSet.contains_iff]
  | jump => simp [isBrokenBy, Holds, FlagSet.contains_iff]
  | move =>
    simp [isBrokenBy, Holds, FlagSet.contains_iff, FlagSet.affectsCarry_eq_false_iff]
  | conversion => simp [isBrokenBy, Holds, FlagSet.contains_iff]
  | shift => simp [isBrokenBy, Holds, FlagSet.contains_iff]
  | pseudo =>
    simp [isBrokenBy, Holds, FlagSet.contains_iff, RegisterSet.isEmpty_iff,
      RegisterSet.union_eq_empty_iff]
  | addressing => simp [isBrokenBy, Holds, RegisterSet.isEmpty_iff]

end Rule

theorem Table.violations_eq_nil_iff {t : Table} :
    t.violations = [] ↔ ∀ op (rule : Rule), rule.Holds (t.get op) := by
  rw [List.eq_nil_iff_forall_not_mem]
  simp only [mem_violations, Bool.not_eq_true, Rule.isBrokenBy_eq_false_iff]
  exact ⟨fun h op rule => h ⟨op, rule⟩, fun h v => h v.opcode v.rule⟩

/-! ## What resolution keeps -/

/-- No size class is told by a flag that resolution adds. -/
theorem SizeClass.flag_ne (c : SizeClass) : c.flag ≠ .rightRead ∧ c.flag ≠ .rightWrite := by
  cases c <;> decide

namespace Descriptor.Describes

variable {entry d : Descriptor} {i : Instruction}

/-- The rules on flags hold of an occurrence if they hold of the entry of its opcode. -/
theorem holds (h : entry.Describes i d) {rule : Rule} (hpseudo : rule ≠ .pseudo)
    (haddressing : rule ≠ .addressing) (hentry : rule.Holds entry) : rule.Holds d := by
  cases rule with
  | classified => exact h.flags_ne_empty hentry
  | singleSize =>
    intro a b ha hb
    exact hentry a b (h.mem_entry_flags ha a.flag_ne) (h.mem_entry_flags hb b.flag_ne)
  | conditionalJump =>
    intro hd
    exact h.mem_flags (hentry (h.mem_entry_flags hd (by decide)))
  | jump =>
    intro hd
    obtain ⟨hbreaks, hkill⟩ := hentry (h.mem_entry_flags hd (by decide))
    exact ⟨h.mem_flags hbreaks, h.mem_flags hkill⟩
  | move =>
    intro hd
    obtain ⟨⟨hread, hwrite⟩, hset, huse, hkill⟩ := hentry (h.mem_entry_flags hd (by decide))
    refine ⟨⟨h.mem_flags hread, h.mem_flags hwrite⟩, ?_, ?_, ?_⟩
    · exact fun hmem => hset (h.mem_entry_flags hmem (by decide))
    · exact fun hmem => huse (h.mem_entry_flags hmem (by decide))
    · exact fun hmem => hkill (h.mem_entry_flags hmem (by decide))
  | conversion =>
    intro hd
    obtain ⟨hread, hwrite⟩ := hentry (h.mem_entry_flags hd (by decide))
    exact ⟨h.mem_flags hread, h.mem_flags hwrite⟩
  | shift =>
    intro hd
    obtain ⟨hset, hread, hwrite⟩ := hentry (h.mem_entry_flags hd (by decide))
    exact ⟨h.mem_flags hset, h.mem_flags hread, h.mem_flags hwrite⟩
  | pseudo => exact absurd rfl hpseudo
  | addressing => exact absurd rfl haddressing

/-- A product goes to a right operand, or AX and DX are accounted for. -/
theorem product (h : entry.Describes i d) (hwide : .wideProduct ∈ d.flags) :
    d.flags.right = .readWrite ∨ .ax ∈ d.defines ∧ .dx ∈ d.defines ∧ .ax ∈ d.uses := by
  have hentry := h.mem_entry_flags hwide (by decide)
  by_cases hright : i.right.mode = .none
  · refine Or.inr ⟨?_, ?_, ?_⟩
    · exact (h.mem_defines _).mpr (Or.inr ⟨Or.inl rfl, hentry, hright⟩)
    · exact (h.mem_defines _).mpr (Or.inr ⟨Or.inr rfl, hentry, hright⟩)
    · exact (h.mem_uses _).mpr (Or.inr (Or.inr (Or.inl ⟨rfl, hentry, hright⟩)))
  · refine Or.inl (FlagSet.right_eq_readWrite_iff.mpr ?_)
    rw [h.flags_eq, if_pos ⟨hentry, hright⟩]
    simp

/-- An occurrence of an annotation uses the registers of its addresses and no others. -/
theorem of_pseudo (h : entry.Describes i d) (hentry : Rule.pseudo.Holds entry)
    (hpseudo : .pseudo ∈ entry.flags) (hcount : .shiftCount ∉ entry.flags)
    (hwide : .wideProduct ∉ entry.flags) : d.defines = ∅ ∧ d.uses = d.addressing := by
  obtain ⟨huses, hdefines⟩ := hentry hpseudo
  constructor
  · refine RegisterSet.eq_empty_iff.mpr fun r => ?_
    rw [h.mem_defines, hdefines]
    simp [hwide]
  · refine RegisterSet.ext_mem fun r => ?_
    rw [h.mem_uses, huses]
    simp [hcount, hwide]

end Descriptor.Describes

/-! ## Tables without violations -/

namespace Table

theorem violations_amd64 : amd64.violations = [] := by
  have hall : ∀ op ∈ Opcode.all, ∀ rule ∈ Rule.all, rule.isBrokenBy op.entry = false := by
    decide +kernel
  rw [violations_eq_nil_iff]
  intro op rule
  rw [amd64, get_ofFn, ← Rule.isBrokenBy_eq_false_iff]
  exact hall op (Opcode.mem_all op) rule (Rule.mem_all rule)

/--
In a table without violations every occurrence has a descriptor, and that keeps the policy too: the
rules on flags, the accounting for products and addresses, and the silence on annotations.
-/
theorem resolve_of_violations_eq_nil {t : Table} (h : t.violations = []) (i : Instruction) :
    ∃ d, t.resolve i = .ok d ∧
      (∀ rule : Rule, rule ≠ .pseudo → rule ≠ .addressing → rule.Holds d) ∧
      (d.flags.size? = none → ∀ c : SizeClass, c.flag ∉ d.flags) ∧
      (.wideProduct ∈ d.flags →
        d.flags.right = .readWrite ∨ .ax ∈ d.defines ∧ .dx ∈ d.defines ∧ .ax ∈ d.uses) ∧
      d.addressing ⊆ d.uses ∧
      (.pseudo ∈ (t.get i.opcode).flags → .shiftCount ∉ (t.get i.opcode).flags →
        .wideProduct ∉ (t.get i.opcode).flags → d.defines = ∅ ∧ d.uses = d.addressing) := by
  have hentry := violations_eq_nil_iff.mp h i.opcode
  have hd := Descriptor.describes_refine (t.get i.opcode) i
  have hrules : ∀ rule : Rule, rule ≠ .pseudo → rule ≠ .addressing →
      rule.Holds ((t.get i.opcode).refine i) :=
    fun rule hpseudo haddressing => hd.holds hpseudo haddressing (hentry rule)
  refine ⟨_, resolve_eq_ok_iff.mpr ⟨hentry .classified, rfl⟩, hrules, ?_, hd.product,
    hd.addressing_subset_uses, hd.of_pseudo (hentry .pseudo)⟩
  have hsizes := hrules .singleSize (by decide) (by decide)
  exact FlagSet.not_mem_of_size?_eq_none (FlagSet.length_sizes_le_one_iff.mpr hsizes)

theorem resolve_of_violations_eq_nil_product :
    let i : Instruction :=
      { opcode := .imulq, left := { mode := .indirect .bx, index := some ⟨.cx, 8⟩ } }
    amd64.violations = [] ∧ ∃ d, amd64.resolve i = .ok d ∧ Rule.singleSize.Holds d ∧
      (d.flags.right = .readWrite ∨ .ax ∈ d.defines ∧ .dx ∈ d.defines ∧ .ax ∈ d.uses) ∧
      d.addressing ⊆ d.uses := by
  intro i
  obtain ⟨d, hd, hrules, -, hproduct, haddressing, -⟩ :=
    resolve_of_violations_eq_nil violations_amd64 i
  have hwide : .wideProduct ∈ d.flags := by
    rw [(resolve_eq_ok_iff.mp hd).2, amd64, get_ofFn]
    decide
  exact ⟨violations_amd64, d, hd, hrules .singleSize (by decide) (by decide), hproduct hwide,
    haddressing⟩

end Table

end Amd64Effects
