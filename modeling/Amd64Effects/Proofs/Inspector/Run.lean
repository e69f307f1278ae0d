import Amd64Effects.Proofs.Inspector.Item
import Amd64Effects.Proofs.Inspector.Outcome
import Amd64Effects.Proofs.Instruction.Descriptor
import Amd64Effects.Proofs.Listing

/-!
# Runs against the amd64 table

The amd64 table keeps its policy and has a descriptor for every instruction, so only what is asked
for can have a fault: an instruction of the command line or a file. The instructions are all tried,
each on its own (`run_amd64`), and the files up to the first one with a fault, which is the fault of
the run; only if no file has one the texts that are no instructions are counted (`fault_run`).

What the run prints is stated beside it: `Answers` says how a text is answered, and `IsFaultOf` and
`Fault.Tells` say which fault a file has and how it is told.
-/

namespace Amd64Effects.Inspector

open Instruction (CanRead)

/-! ## The table -/

theorem tableCheck_amd64 : tableCheck .amd64 = { items := [.tableKept Opcode.count] } := by
  unfold tableCheck
  rw [Table.violations_amd64, Table.length_toList]
  rfl

/-- What is printed of the table itself. -/
def tableItems (r : Request) : List Item :=
  (if r.checksTable then [.tableKept Opcode.count] else []) ++
    if r.table then (tableRows .amd64).items else []

/-! ## Instructions of the command line -/

/-- An instruction with its descriptor in the amd64 table. -/
def Item.ofInstruction (i : Instruction) : Item :=
  .block i (i.opcode.entry.refine i)

/-- Whether a text is an instruction, rather than blank, a label or faulty. -/
def holdsInstruction (text : String) : Bool :=
  match Instruction.read text.toList with
  | .ok (some _) => true
  | _ => false

theorem holdsInstruction_iff {text : String} :
    holdsInstruction text = true ↔ ∃ i, Instruction.read text.toList = .ok (some i) := by
  unfold holdsInstruction
  split
  · next i hread => simp [hread]
  · next hnone =>
    constructor
    · exact fun h => absurd h Bool.false_ne_true
    · rintro ⟨i, hread⟩
      exact absurd hread (hnone i)

theorem inspectText_of_read {text : String} {i : Instruction}
    (hread : Instruction.read text.toList = .ok (some i)) (verbose : Bool) :
    inspectText .amd64 verbose text =
      (if verbose then [.operands i] else []) ++ [.ofInstruction i] := by
  unfold inspectText
  simp only [hread, Table.resolve_amd64]
  rfl

theorem inspectText_of_error {text : String} {cause : SyntaxFault}
    (hread : Instruction.read text.toList = .error cause) (verbose : Bool) :
    inspectText .amd64 verbose text = [.failure (.line cause)] := by
  unfold inspectText
  simp only [hread]

theorem inspectText_of_none {text : String} (hread : Instruction.read text.toList = .ok none)
    (verbose : Bool) : inspectText .amd64 verbose text = [.failure (.noInstruction text)] := by
  unfold inspectText
  simp only [hread]

theorem exists_inspectText_eq_failure {text : String}
    (hread : ∀ i, Instruction.read text.toList ≠ .ok (some i)) :
    ∃ f, ∀ verbose, inspectText .amd64 verbose text = [.failure f] := by
  cases h : Instruction.read text.toList with
  | error cause => exact ⟨_, inspectText_of_error h⟩
  | ok held =>
    cases held with
    | none => exact ⟨_, inspectText_of_none h⟩
    | some i => exact absurd h (hread i)

/-- A text that is no instruction is answered by one fault, and an instruction by none. -/
theorem countP_inspectText (verbose : Bool) (text : String) :
    (inspectText .amd64 verbose text).countP Item.isFailure =
      if holdsInstruction text then 0 else 1 := by
  unfold inspectText holdsInstruction
  cases Instruction.read text.toList with
  | error cause => rfl
  | ok held =>
    cases held with
    | none => rfl
    | some i =>
      simp only [Table.resolve_amd64]
      cases verbose <;> rfl

theorem countP_inspectTexts (verbose : Bool) (texts : List String) :
    (inspectTexts .amd64 verbose texts).countP Item.isFailure =
      texts.countP fun text => !holdsInstruction text := by
  unfold inspectTexts
  induction texts with
  | nil => rfl
  | cons text rest ih =>
    rw [List.flatMap_cons, List.countP_append, ih, countP_inspectText, List.countP_cons]
    cases holdsInstruction text <;> simp [Nat.add_comm]

/-! ## Files -/

/-- A file that holds a text all of whose lines can be read. -/
def IsListing (files : Files) (name : String) : Prop :=
  ∃ contents text, files name = .ok contents ∧ String.fromUTF8? contents = some text ∧
    ∀ line ∈ Text.lines text.toList, CanRead line

/-- A file whose contents are text. -/
def HoldsText (files : Files) (name : String) : Prop :=
  ∃ contents text, files name = .ok contents ∧ String.fromUTF8? contents = some text

/--
The fault of a file: there are no contents, they are no text, or a line cannot be read. The first
such line is the one that counts.
-/
inductive IsFaultOf (files : Files) (name : String) : Fault → Prop
  | contents {reason : String} (h : files name = .error reason) :
      IsFaultOf files name (.file (.system reason))
  | encoding {contents : ByteArray} (h : files name = .ok contents)
      (htext : String.fromUTF8? contents = none) : IsFaultOf files name (.file .encoding)
  | line {contents : ByteArray} {text : String} {before after : List (List Char)}
      {line : List Char} {cause : SyntaxFault} (h : files name = .ok contents)
      (htext : String.fromUTF8? contents = some text)
      (hlines : Text.lines text.toList = before ++ line :: after)
      (hbefore : ∀ l ∈ before, CanRead l) (hread : Instruction.read line = .error cause) :
      IsFaultOf files name (.listing ⟨before.length + 1, cause⟩)

theorem resolveAll_amd64 (instructions : List Instruction) :
    resolveAll .amd64 instructions =
      { items := instructions.map fun i => .block i (i.opcode.entry.refine i) } := by
  induction instructions with
  | nil => rfl
  | cons i rest ih =>
    rw [resolveAll, Table.resolve_amd64, ih]
    rfl

theorem fault_inspectListing (verbose : Bool) (name text : String) :
    (inspectListing .amd64 verbose name text).fault =
      match Listing.read text.toList with
      | .error cause => some (.listing cause)
      | .ok _ => none := by
  unfold inspectListing
  cases Listing.read text.toList with
  | error cause => rfl
  | ok instructions => simp [resolveAll_amd64]

/-- A file is a listing without a fault, or the fault that it has is reported. -/
theorem fault_inspectFile_cases (files : Files) (verbose : Bool) (name : String) :
    IsListing files name ∧ (inspectFile .amd64 files verbose name).fault = none ∨
      ¬IsListing files name ∧
        ∃ f, (inspectFile .amd64 files verbose name).fault = some f ∧ IsFaultOf files name f := by
  unfold inspectFile readText IsListing
  cases hfile : files name with
  | error reason => exact Or.inr ⟨by simp, .file (.system reason), rfl, .contents hfile⟩
  | ok contents =>
    cases htext : String.fromUTF8? contents with
    | none =>
      refine Or.inr ⟨by simp [htext], .file .encoding, ?_, .encoding hfile htext⟩
      simp [htext]
    | some text =>
      simp only [htext, Outcome.fault_andThen, fault_inspectListing, Option.none_or]
      cases hread : Listing.read text.toList with
      | ok instructions =>
        have hlines := Listing.exists_read_eq_ok_iff.mp ⟨instructions, hread⟩
        exact Or.inl ⟨⟨contents, text, rfl, htext, hlines⟩, rfl⟩
      | error f =>
        obtain ⟨number, cause⟩ := f
        obtain ⟨before, line, after, hsplit, hbefore, hline, rfl⟩ :=
          Listing.read_eq_error_iff.mp hread
        refine Or.inr ⟨?_, _, rfl, .line hfile htext hsplit hbefore hline⟩
        rintro ⟨contents', text', hfile', htext', hlines⟩
        obtain rfl := Except.ok.inj hfile'
        rw [htext, Option.some.injEq] at htext'
        obtain ⟨is, his⟩ := Listing.exists_read_eq_ok_iff.mpr hlines
        rw [← htext', hread] at his
        exact absurd his (by simp)

section

variable {files : Files} {verbose : Bool} {name : String}

theorem fault_inspectFile_eq_none_iff :
    (inspectFile .amd64 files verbose name).fault = none ↔ IsListing files name := by
  rcases fault_inspectFile_cases files verbose name with
    ⟨hlisting, hnone⟩ | ⟨hlisting, f, hsome, -⟩
  · exact iff_of_true hnone hlisting
  · exact iff_of_false (by simp [hsome]) hlisting

theorem isFaultOf_of_fault_inspectFile {f : Fault}
    (h : (inspectFile .amd64 files verbose name).fault = some f) : IsFaultOf files name f := by
  rcases fault_inspectFile_cases files verbose name with
    ⟨-, hnone⟩ | ⟨-, f', hsome, hf⟩
  · rw [hnone] at h
    exact absurd h (by simp)
  · rw [hsome, Option.some.injEq] at h
    exact h ▸ hf

end

section

variable {files : Files} {name : String} {f : Fault}

/-- Text has a fault of syntax; where there is no text, the fault is of the file. -/
theorem IsFaultOf.kind_eq (h : IsFaultOf files name f) :
    (HoldsText files name → f.kind = .text) ∧ (¬HoldsText files name → f.kind = .file) := by
  cases h with
  | contents hfile =>
    refine ⟨?_, fun _ => rfl⟩
    rintro ⟨contents, text, hok, -⟩
    rw [hfile] at hok
    exact absurd hok (by simp)
  | encoding hfile hnone =>
    refine ⟨?_, fun _ => rfl⟩
    rintro ⟨contents, text, hok, hsome⟩
    rw [hfile, Except.ok.injEq] at hok
    rw [← hok, hnone] at hsome
    exact absurd hsome (by simp)
  | line hfile htext => exact ⟨fun _ => rfl, fun hnone => absurd ⟨_, _, hfile, htext⟩ hnone⟩

/-- The fault of a file is told without an instruction. -/
theorem IsFaultOf.instruction?_eq_none (h : IsFaultOf files name f) : f.instruction? = none := by
  cases h <;> rfl

end

/-! ## Items of a file -/

/-- The notice that a file is read, where its contents are text. -/
def openingItems (files : Files) (name : String) : List Item :=
  match readText files name with
  | .ok _ => [.opening name]
  | .error _ => []

section

variable {files : Files} {verbose : Bool} {name : String}

/-- All that a file without a fault prints. -/
theorem inspectFile_of_read {contents : ByteArray} {text : String} {is : List Instruction}
    (hfile : files name = .ok contents) (htext : String.fromUTF8? contents = some text)
    (hread : Listing.read text.toList = .ok is) :
    inspectFile .amd64 files verbose name =
      { items := .opening name ::
          (is.map Item.ofInstruction ++ if verbose then [.closing is.length name] else []) } := by
  unfold inspectFile readText inspectListing
  simp only [hfile, htext, hread, resolveAll_amd64]
  rw [Outcome.andThen_of_none rfl, Outcome.andThen_of_none rfl]
  rfl

/-- A file with a fault prints no instruction, whichever of its lines has the fault. -/
theorem inspectFile_of_isFaultOf {f : Fault} (h : IsFaultOf files name f) :
    inspectFile .amd64 files verbose name =
      { items := openingItems files name, fault := some f } := by
  unfold inspectFile openingItems readText
  cases h with
  | contents hfile => simp [hfile]
  | encoding hfile htext => simp [hfile, htext]
  | @line contents text before after line cause hfile htext hlines hbefore hline =>
    have hread : Listing.read text.toList = .error ⟨before.length + 1, cause⟩ :=
      Listing.read_eq_error_iff.mpr ⟨before, line, after, hlines, hbefore, hline, rfl⟩
    simp only [hfile, htext, inspectListing, hread]
    rw [Outcome.andThen_of_none rfl]
    rfl

theorem fault_inspectFile_of_isFaultOf {f : Fault} (h : IsFaultOf files name f) :
    (inspectFile .amd64 files verbose name).fault = some f := by
  rw [inspectFile_of_isFaultOf h]

theorem IsListing.exists_read (h : IsListing files name) :
    ∃ contents text is, files name = .ok contents ∧ String.fromUTF8? contents = some text ∧
      Listing.read text.toList = .ok is := by
  obtain ⟨contents, text, hfile, htext, hlines⟩ := h
  obtain ⟨is, hread⟩ := Listing.exists_read_eq_ok_iff.mpr hlines
  exact ⟨contents, text, is, hfile, htext, hread⟩

theorem exists_isFaultOf (h : ¬IsListing files name) : ∃ f, IsFaultOf files name f := by
  rcases fault_inspectFile_cases files false name with ⟨hlisting, -⟩ | ⟨-, f, -, hf⟩
  · exact absurd hlisting h
  · exact ⟨f, hf⟩

end

/-! ## The whole run -/

section

variable (files : Files) (r : Request)

/-- The table and the instructions are answered whatever the files are. -/
theorem run_amd64 :
    run .amd64 files r =
      Outcome.andThen
        { items := tableItems r ++ inspectTexts .amd64 r.verbose r.instructions }
        ((Outcome.sequence (r.files.map (inspectFile .amd64 files r.verbose))).andThen
          (countFailures (inspectTexts .amd64 r.verbose r.instructions))) := by
  have hfront : ∀ items : List Item,
      Outcome.sequence
        [if r.checksTable then { items := [.tableKept Opcode.count] } else {},
          if r.table then tableRows .amd64 else {}, { items := items }] =
        { items := tableItems r ++ items } := by
    intro items
    unfold tableItems
    cases r.checksTable <;> cases r.table <;> simp [Outcome.andThen_of_none, tableRows]
  unfold run
  rw [Outcome.sequence_append, Outcome.sequence_append, tableCheck_amd64, hfront,
    Outcome.andThen_assoc, Outcome.sequence_cons, Outcome.sequence_nil, Outcome.andThen_empty]

/-- What a run prints but for its fault: the table, the instructions, and the files. -/
theorem items_run :
    (run .amd64 files r).items =
      tableItems r ++ (inspectTexts .amd64 r.verbose r.instructions ++
        (Outcome.sequence (r.files.map (inspectFile .amd64 files r.verbose))).items) := by
  rw [run_amd64, Outcome.andThen_of_none rfl, Outcome.items_andThen_of_nil rfl, List.append_assoc]

/-- The number of instructions that could not be resolved. -/
def failures : Nat :=
  r.instructions.countP fun text => !holdsInstruction text

theorem failures_eq_zero_iff :
    failures r = 0 ↔ ∀ text ∈ r.instructions, ∃ i, Instruction.read text.toList = .ok (some i) := by
  simp [failures, ← holdsInstruction_iff]

/-- The fault of a run is that of the first file that has one, or else that of the count. -/
theorem fault_run :
    (run .amd64 files r).fault =
      (r.files.findSome? fun name => (inspectFile .amd64 files r.verbose name).fault).or
        (if failures r = 0 then none else some (.unresolved (failures r))) := by
  rw [run_amd64, Outcome.fault_andThen, Outcome.fault_andThen, Outcome.fault_sequence,
    List.findSome?_map, Option.none_or]
  unfold countFailures
  rw [countP_inspectTexts]
  rfl

theorem fault_run_eq_none_iff :
    (run .amd64 files r).fault = none ↔
      (∀ text ∈ r.instructions, ∃ i, Instruction.read text.toList = .ok (some i)) ∧
        ∀ name ∈ r.files, IsListing files name := by
  rw [fault_run, Option.or_eq_none_iff, List.findSome?_eq_none_iff, ← failures_eq_zero_iff]
  simp only [fault_inspectFile_eq_none_iff]
  by_cases h : failures r = 0 <;> simp [h]

/-- The files are looked at in order, and the instructions are counted behind the last one. -/
theorem fault_run_cases {f : Fault} (h : (run .amd64 files r).fault = some f) :
    (∃ before name after, r.files = before ++ name :: after ∧
      (∀ n ∈ before, IsListing files n) ∧ IsFaultOf files name f) ∨
      (∀ name ∈ r.files, IsListing files name) ∧ 0 < failures r ∧
        f = .unresolved (failures r) := by
  rw [fault_run] at h
  cases hfiles : r.files.findSome? fun name => (inspectFile .amd64 files r.verbose name).fault with
  | some g =>
    rw [hfiles, Option.some_or, Option.some.injEq] at h
    obtain ⟨before, name, after, hsplit, hg, hbefore⟩ := List.findSome?_eq_some_iff.mp hfiles
    refine Or.inl ⟨before, name, after, hsplit, fun n hn => ?_, ?_⟩
    · exact fault_inspectFile_eq_none_iff.mp (hbefore n hn)
    · exact isFaultOf_of_fault_inspectFile (h ▸ hg)
  | none =>
    rw [hfiles, Option.none_or] at h
    rw [List.findSome?_eq_none_iff] at hfiles
    refine Or.inr ⟨fun name hname => ?_, ?_⟩
    · exact fault_inspectFile_eq_none_iff.mp (hfiles name hname)
    · split at h
      · exact absurd h (by simp)
      · next hpos => exact ⟨Nat.pos_of_ne_zero hpos, (Option.some.inj h).symm⟩

/-- What is printed for things that are asked for one after the other. -/
theorem join_flatMap {α : Type} (answer : α → List Item) (asked : List α) :
    String.join ((asked.flatMap answer).map Item.text) =
      String.join (asked.map fun x => String.join ((answer x).map Item.text)) := by
  induction asked with
  | nil => rfl
  | cons x rest ih =>
    rw [List.flatMap_cons, List.map_append, String.join_append, ih, List.map_cons,
      String.join_cons]

/-- What is printed for one instruction of the command line. -/
def answer (verbose : Bool) (text : String) : String :=
  String.join ((inspectText .amd64 verbose text).map Item.text)

/--
The answer to a text: the block of its instruction, behind the operands where details are asked for,
or else why it is no instruction.
-/
inductive Answers (verbose : Bool) (text : String) : String → Prop
  | instruction {i : Instruction} {d : Descriptor} {lines : List String}
      (hread : Instruction.read text.toList = .ok (some i))
      (hresolve : Table.amd64.resolve i = .ok d) (hlines : ShowsBlock i d lines) :
      Answers verbose text
        ((if verbose then
            "\x1b[94mparsed\x1b[0m from: " ++ i.left.description ++ " to: " ++
              i.right.description ++ "\n"
          else "") ++ String.join (lines.map (· ++ "\n")))
  | none (hread : Instruction.read text.toList = .ok none) :
      Answers verbose text ("no instruction in \"" ++ text ++ "\"" ++ "\n")
  | fault {cause : SyntaxFault} {reason : String}
      (hread : Instruction.read text.toList = .error cause) (hreason : cause.Says reason) :
      Answers verbose text ("\x1b[91mSyntax Error\x1b[0m " ++ reason ++ "\n")

theorem exists_answer_of_failure {verbose : Bool} {text : String} {f : Fault}
    (h : inspectText .amd64 verbose text = [.failure f]) :
    ∃ report, f.Tells report ∧ answer verbose text = report ++ "\n" := by
  refine ⟨f.report, f.tells_report, ?_⟩
  rw [answer, h, List.map_singleton, String.join_cons, String.join_nil, String.append_empty]
  rfl

theorem answers_answer (verbose : Bool) (text : String) :
    Answers verbose text (answer verbose text) := by
  cases hread : Instruction.read text.toList with
  | error cause =>
    obtain ⟨report, htells, hanswer⟩ :=
      exists_answer_of_failure (inspectText_of_error hread verbose)
    rw [hanswer]
    cases htells with
    | line hreason => exact .fault hread hreason
  | ok held =>
    cases held with
    | none =>
      obtain ⟨report, htells, hanswer⟩ :=
        exists_answer_of_failure (inspectText_of_none hread verbose)
      rw [hanswer]
      cases htells with
      | noInstruction => exact .none hread
    | some i =>
      obtain ⟨lines, hlines, htext⟩ := exists_showsBlock i (i.opcode.entry.refine i)
      have hanswer : answer verbose text =
          (if verbose then (Item.operands i).text else "") ++ (Item.ofInstruction i).text := by
        unfold answer
        rw [inspectText_of_read hread]
        cases verbose <;> simp
      rw [hanswer, Item.ofInstruction, htext]
      exact .instruction hread (Table.resolve_amd64 i) hlines

theorem join_inspectTexts (verbose : Bool) (texts : List String) :
    String.join ((inspectTexts .amd64 verbose texts).map Item.text) =
      String.join (texts.map (answer verbose)) :=
  join_flatMap (inspectText .amd64 verbose) texts

/-- The answers stand one behind the other, behind the table and in front of the files. -/
theorem exists_output_eq :
    ∃ rest, (run .amd64 files r).output =
      String.join ((tableItems r).map Item.text) ++
        (String.join (r.instructions.map (answer r.verbose)) ++ rest) := by
  rw [run_amd64, Outcome.output_andThen_of_none rfl, List.map_append, String.join_append,
    join_inspectTexts, String.append_assoc]
  exact ⟨_, rfl⟩

/--
A run succeeds if every text on the command line is an instruction and every file a listing without
a fault. Otherwise it tells one fault, as a diagnostic and behind all that it prints: the fault of
the first file that has one, or the number of texts that are no instructions. Each of the texts is
answered, in order, and the answer depends on the text and the verbose option alone.
-/
theorem exitCode_run :
    ((run .amd64 files r).exitCode = 0 ↔
      (∀ text ∈ r.instructions, ∃ i, Instruction.read text.toList = .ok (some i)) ∧
        ∀ name ∈ r.files, IsListing files name) ∧
    ((run .amd64 files r).exitCode = 0 ∨
      (run .amd64 files r).exitCode = 1 ∧
        ∃ f report, (run .amd64 files r).fault = some f ∧ f.Tells report ∧
          (run .amd64 files r).diagnostics =
            "Error: " ++ ("\x1b[91mproginfo::Error\x1b[0m: " ++ report) ++ "\n" ∧
          (∃ printed, (run .amd64 files r).output = printed ++ (report ++ "\n")) ∧
          ((∃ before name after, r.files = before ++ name :: after ∧
              (∀ n ∈ before, IsListing files n) ∧ IsFaultOf files name f ∧
              (HoldsText files name → f.kind = .text) ∧
              (¬HoldsText files name → f.kind = .file)) ∨
            (∀ name ∈ r.files, IsListing files name) ∧ 0 < failures r ∧
              f = .unresolved (failures r) ∧ f.kind = .request ∧
              report = toString (failures r) ++ " instruction(s) could not be resolved")) ∧
    (∀ text ∈ r.instructions, Answers r.verbose text (answer r.verbose text)) ∧
    ∃ rest, (run .amd64 files r).output =
      String.join ((tableItems r).map Item.text) ++
        (String.join (r.instructions.map (answer r.verbose)) ++ rest) := by
  refine ⟨?_, ?_, fun text _ => answers_answer r.verbose text, exists_output_eq files r⟩
  · rw [Outcome.exitCode_eq_zero_iff, fault_run_eq_none_iff]
  · cases hfault : (run .amd64 files r).fault with
    | none => exact Or.inl (Outcome.exitCode_eq_zero_iff.mpr hfault)
    | some f =>
      have hcases := fault_run_cases files r hfault
      have hcontext : f.instruction? = none := by
        rcases hcases with ⟨_, _, _, -, -, hf⟩ | ⟨-, -, rfl⟩
        · exact hf.instruction?_eq_none
        · rfl
      have hdiagnostics := Outcome.diagnostics_of_some hfault
      rw [Fault.diagnostic_eq hcontext] at hdiagnostics
      refine Or.inr ⟨Outcome.exitCode_of_some hfault, f, f.report, rfl, f.tells_report,
        hdiagnostics, ⟨_, Outcome.output_of_some hfault⟩, ?_⟩
      rcases hcases with ⟨before, name, after, hsplit, hbefore, hf⟩ | ⟨hfiles, hpos, rfl⟩
      · exact Or.inl ⟨before, name, after, hsplit, hbefore, hf, hf.kind_eq⟩
      · exact Or.inr ⟨hfiles, hpos, rfl, rfl, rfl⟩

end

-- a faulty text does not keep the others from being tried, and a fault of a file comes first
example :
    (run .amd64 (fun _ => .error "gone") { instructions := ["FROB", "RET", ""] }).fault =
        some (.unresolved 2) ∧
      (run .amd64 (fun _ => .error "gone")
        { instructions := ["FROB"], files := ["none.s"] }).fault =
          some (.file (.system "gone")) := by
  decide +kernel

end Amd64Effects.Inspector
