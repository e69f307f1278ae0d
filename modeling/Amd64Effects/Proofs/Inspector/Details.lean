import Amd64Effects.Proofs.Inspector.Run

/-!
# What the verbose option adds

A verbose run prints details between the items of a plain one: the operands of an instruction in
front of its block, and the number of instructions behind the last block of a file. It does nothing
else. A plain run of the same request ends in the same way and prints the same items without the
details (`run_verbose`).

`TextDetails` and `FileDetails` put the two reports side by side, one rule for each thing that a
text or a file can be answered by. That the details can be taken out again, and that the faults are
the same, follows from the rules.
-/

namespace Amd64Effects.Inspector

/-! ## Details -/

/-- Whether an item is one that only a verbose run prints. -/
def Item.isDetail : Item → Bool
  | .operands _ | .closing _ _ => true
  | .tableKept _ | .violation _ | .row _ _ | .block _ _ | .failure _ | .opening _ => false

def Item.isBlock : Item → Bool
  | .block _ _ => true
  | _ => false

/-- The answers to the texts of the command line in a plain run and in a verbose one. -/
inductive TextDetails : List String → List Item → List Item → Prop
  | nil : TextDetails [] [] []
  | instruction {text : String} {i : Instruction} {d : Descriptor} {rest : List String}
      {plain verbose : List Item} (hread : Instruction.read text.toList = .ok (some i))
      (hresolve : Table.amd64.resolve i = .ok d) (h : TextDetails rest plain verbose) :
      TextDetails (text :: rest) (.block i d :: plain) (.operands i :: .block i d :: verbose)
  | failure {text : String} {f : Fault} {rest : List String} {plain verbose : List Item}
      (hread : ∀ i, Instruction.read text.toList ≠ .ok (some i))
      (h : TextDetails rest plain verbose) :
      TextDetails (text :: rest) (.failure f :: plain) (.failure f :: verbose)

/-- The items of the files in a plain run and in a verbose one, up to the first fault. -/
inductive FileDetails (files : Files) : List String → List Item → List Item → Prop
  | nil : FileDetails files [] [] []
  | listing {name : String} {blocks : List Item} {rest : List String} {plain verbose : List Item}
      (hlisting : IsListing files name) (hblocks : ∀ x ∈ blocks, x.isBlock = true)
      (h : FileDetails files rest plain verbose) :
      FileDetails files (name :: rest) (.opening name :: (blocks ++ plain))
        (.opening name :: (blocks ++ .closing blocks.length name :: verbose))
  | fault {name : String} {rest : List String} (hfault : ¬IsListing files name) :
      FileDetails files (name :: rest) (openingItems files name) (openingItems files name)

/-! ## Taking the details out -/

/-- The items that a plain run prints as well. -/
def plainItems (items : List Item) : List Item :=
  items.filter fun x => !x.isDetail

theorem plainItems_append (front back : List Item) :
    plainItems (front ++ back) = plainItems front ++ plainItems back :=
  List.filter_append front back

theorem plainItems_of_forall {items : List Item} (h : ∀ x ∈ items, x.isDetail = false) :
    plainItems items = items :=
  List.filter_eq_self.mpr fun x hx => by simp [h x hx]

theorem plainItems_blocks {items : List Item} (h : ∀ x ∈ items, x.isBlock = true) :
    plainItems items = items := by
  refine plainItems_of_forall fun x hx => ?_
  have hblock := h x hx
  cases x with
  | block i d => rfl
  | _ => exact absurd hblock Bool.false_ne_true

theorem plainItems_openingItems (files : Files) (name : String) :
    plainItems (openingItems files name) = openingItems files name := by
  unfold openingItems
  cases readText files name <;> rfl

theorem plainItems_tableItems (r : Request) : plainItems (tableItems r) = tableItems r := by
  refine plainItems_of_forall fun x hx => ?_
  rcases List.mem_append.mp hx with hkept | hrow
  · split at hkept
    · rw [List.mem_singleton.mp hkept]
      rfl
    · simp at hkept
  · split at hrow
    · obtain ⟨⟨op, d⟩, -, rfl⟩ := List.mem_map.mp hrow
      rfl
    · simp at hrow

theorem TextDetails.plainItems_eq {texts : List String} {plain verbose : List Item}
    (h : TextDetails texts plain verbose) : plainItems verbose = plain := by
  induction h with
  | nil => rfl
  | @instruction text i d rest plain verbose hread hresolve h ih =>
    show Item.block i d :: plainItems verbose = .block i d :: plain
    rw [ih]
  | @failure text f rest plain verbose hread h ih =>
    show Item.failure f :: plainItems verbose = .failure f :: plain
    rw [ih]

theorem FileDetails.plainItems_eq {files : Files} {names : List String}
    {plain verbose : List Item} (h : FileDetails files names plain verbose) :
    plainItems verbose = plain := by
  induction h with
  | nil => rfl
  | @listing name blocks rest plain verbose hlisting hblocks h ih =>
    have hclosing : plainItems (.closing blocks.length name :: verbose) = plainItems verbose := rfl
    show Item.opening name :: plainItems (blocks ++ .closing blocks.length name :: verbose) = _
    rw [plainItems_append, plainItems_blocks hblocks, hclosing, ih]
  | fault hfault => exact plainItems_openingItems files _

/-! ## The two reports -/

theorem textDetails_inspectTexts (texts : List String) :
    TextDetails texts (inspectTexts .amd64 false texts) (inspectTexts .amd64 true texts) := by
  induction texts with
  | nil => exact .nil
  | cons text rest ih =>
    unfold inspectTexts at ih ⊢
    rw [List.flatMap_cons, List.flatMap_cons]
    by_cases hread : ∃ i, Instruction.read text.toList = .ok (some i)
    · obtain ⟨i, hread⟩ := hread
      rw [inspectText_of_read hread, inspectText_of_read hread]
      exact .instruction hread (Table.resolve_amd64 i) ih
    · have hnone := not_exists.mp hread
      obtain ⟨f, hf⟩ := exists_inspectText_eq_failure hnone
      rw [hf, hf]
      exact .failure hnone ih

/-- A run over the files stops at the first fault, with the verbose option and without it. -/
theorem fileDetails_sequence (files : Files) (names : List String) :
    FileDetails files names
      (Outcome.sequence (names.map (inspectFile .amd64 files false))).items
      (Outcome.sequence (names.map (inspectFile .amd64 files true))).items := by
  induction names with
  | nil => exact .nil
  | cons name rest ih =>
    rw [List.map_cons, List.map_cons, Outcome.sequence_cons, Outcome.sequence_cons]
    by_cases hlisting : IsListing files name
    · obtain ⟨contents, text, is, hfile, htext, hread⟩ := hlisting.exists_read
      have hblocks : ∀ x ∈ is.map Item.ofInstruction, x.isBlock = true := by
        intro x hx
        obtain ⟨i, -, rfl⟩ := List.mem_map.mp hx
        rfl
      have hdetails := FileDetails.listing hlisting hblocks ih
      rw [List.length_map] at hdetails
      rw [inspectFile_of_read hfile htext hread, inspectFile_of_read hfile htext hread,
        Outcome.andThen_of_none rfl, Outcome.andThen_of_none rfl]
      simpa using hdetails
    · obtain ⟨f, hf⟩ := exists_isFaultOf hlisting
      rw [inspectFile_of_isFaultOf hf, inspectFile_of_isFaultOf hf, Outcome.andThen_of_some rfl,
        Outcome.andThen_of_some rfl]
      exact .fault hlisting

/-- Whether a file has a fault, and which, does not depend on the verbose option. -/
theorem fault_inspectFile_verbose (files : Files) (name : String) :
    (inspectFile .amd64 files true name).fault = (inspectFile .amd64 files false name).fault := by
  by_cases hlisting : IsListing files name
  · rw [fault_inspectFile_eq_none_iff.mpr hlisting, fault_inspectFile_eq_none_iff.mpr hlisting]
  · obtain ⟨f, hf⟩ := exists_isFaultOf hlisting
    rw [fault_inspectFile_of_isFaultOf hf, fault_inspectFile_of_isFaultOf hf]

theorem fault_run_verbose (files : Files) (r : Request) :
    (run .amd64 files { r with verbose := true }).fault =
      (run .amd64 files { r with verbose := false }).fault := by
  rw [fault_run, fault_run]
  simp only [fault_inspectFile_verbose]
  rfl

/--
A verbose run ends like the plain run of the same request, with the same exit code, the same
diagnostics and the same last fault in its output. The items in front of that, each of which is
shown by its rule, are those of the plain run, with the operands of each instruction of the command
line put in front of its block and with the number of blocks of each file without a fault put behind
the last of them.
-/
theorem run_verbose (files : Files) (r : Request) :
    let plain := run .amd64 files { r with verbose := false }
    let verbose := run .amd64 files { r with verbose := true }
    verbose.exitCode = plain.exitCode ∧ verbose.diagnostics = plain.diagnostics ∧
      verbose.fault = plain.fault ∧
      (∃ last, plain.output = String.join (plain.items.map Item.text) ++ last ∧
        verbose.output = String.join (verbose.items.map Item.text) ++ last) ∧
      (∀ x ∈ verbose.items, x.Shows x.text) ∧
      plain.items = verbose.items.filter (fun x => !x.isDetail) ∧
      ∃ texts texts' listings listings',
        TextDetails r.instructions texts texts' ∧ FileDetails files r.files listings listings' ∧
        plain.items = tableItems r ++ (texts ++ listings) ∧
        verbose.items = tableItems r ++ (texts' ++ listings') := by
  intro plain verbose
  have hfault : verbose.fault = plain.fault := fault_run_verbose files r
  have htexts := textDetails_inspectTexts r.instructions
  have hfiles := fileDetails_sequence files r.files
  have hplain : plain.items = _ := items_run files { r with verbose := false }
  have hverbose : verbose.items = _ := items_run files { r with verbose := true }
  refine ⟨?_, ?_, hfault, ?_, fun x _ => x.shows_text, ?_, _, _, _, _, htexts, hfiles, hplain,
    hverbose⟩
  · unfold Outcome.exitCode
    rw [hfault]
  · unfold Outcome.diagnostics
    rw [hfault]
  · refine ⟨_, rfl, ?_⟩
    unfold Outcome.output
    rw [hfault]
  · show plain.items = plainItems verbose.items
    rw [hplain, hverbose, plainItems_append, plainItems_append, htexts.plainItems_eq,
      hfiles.plainItems_eq]
    have htable := plainItems_tableItems r
    rw [show tableItems { r with verbose := true } = tableItems r from rfl, htable]
    rfl

end Amd64Effects.Inspector
