import Amd64Effects.Proofs.Inspector.Run
import Amd64Effects.Proofs.Instruction.RoundTrip

/-!
# Files and command lines that hold the same instructions

An instruction can be asked for on the command line or stand on a line of a file. It is read and
resolved in the same way in both places; a block of a file only has the number of its line in
brackets before it (`run_file_lines`).

Both runs are compared with the instructions of the lines and their places (`placed`). Reading a
listing is an induction over its lines (`readLines_eq_ok`), and so is answering the texts
(`inspectTexts_filter`); neither looks at the other.
-/

namespace Amd64Effects.Inspector

open Instruction (CanRead)

/-! ## The instructions of lines -/

/-- The instruction of a line, where it can be read and holds one. -/
def instruction? (line : String) : Option Instruction :=
  match Instruction.read line.toList with
  | .ok held => held
  | .error _ => none

/-- The instructions that some lines hold, with the places of the lines, counted from a number. -/
def placed (number : Nat) (lines : List String) : List (Instruction × Nat) :=
  (lines.zipIdx number).filterMap fun p => (instruction? p.1).map fun i => (i, p.2)

theorem instruction?_eq_some_iff {line : String} {i : Instruction} :
    instruction? line = some i ↔ Instruction.read line.toList = .ok (some i) := by
  unfold instruction?
  cases Instruction.read line.toList with
  | error cause => simp
  | ok held => simp

theorem placed_cons_of_some {line : String} {i : Instruction} (h : instruction? line = some i)
    (number : Nat) (rest : List String) :
    placed number (line :: rest) = (i, number) :: placed (number + 1) rest := by
  unfold placed
  rw [List.zipIdx_cons, List.filterMap_cons_some]
  rw [h]
  rfl

theorem placed_cons_of_none {line : String} (h : instruction? line = none)
    (number : Nat) (rest : List String) :
    placed number (line :: rest) = placed (number + 1) rest := by
  unfold placed
  rw [List.zipIdx_cons, List.filterMap_cons_none]
  rw [h]
  rfl

theorem line_eq_none_of_mem_placed {number : Nat} {lines : List String} {p : Instruction × Nat}
    (h : p ∈ placed number lines) : p.1.line = none := by
  obtain ⟨⟨line, n⟩, -, hmap⟩ := List.mem_filterMap.mp h
  obtain ⟨i, hi, rfl⟩ := Option.map_eq_some_iff.mp hmap
  exact (Instruction.isReadable_of_read (instruction?_eq_some_iff.mp hi)).line

/-! ## The two runs -/

/-- What is read of lines without a fault: their instructions, with the numbers of the lines. -/
theorem readLines_eq_ok {lines : List String} (h : ∀ line ∈ lines, CanRead line.toList)
    (number : Nat) :
    Listing.readLines number (lines.map String.toList) =
      .ok ((placed number lines).map fun p => p.1.atLine p.2) := by
  induction lines generalizing number with
  | nil => rfl
  | cons line rest ih =>
    obtain ⟨⟨held, hread⟩, hrest⟩ := List.forall_mem_cons.mp h
    rw [List.map_cons, Listing.readLines, hread, ih hrest]
    cases held with
    | none =>
      have hnone : instruction? line = none := by rw [instruction?, hread]
      rw [placed_cons_of_none hnone]
    | some i =>
      rw [placed_cons_of_some (instruction?_eq_some_iff.mpr hread)]
      rfl

/-- What is answered to the lines that hold an instruction, wherever they stand. -/
theorem inspectTexts_filter (number : Nat) (lines : List String) :
    inspectTexts .amd64 false (lines.filter holdsInstruction) =
      (placed number lines).map fun p => .ofInstruction p.1 := by
  induction lines generalizing number with
  | nil => rfl
  | cons line rest ih =>
    cases hline : instruction? line with
    | some i =>
      have hread := instruction?_eq_some_iff.mp hline
      rw [List.filter_cons_of_pos (holdsInstruction_iff.mpr ⟨i, hread⟩),
        placed_cons_of_some hline, List.map_cons, ← ih]
      unfold inspectTexts
      rw [List.flatMap_cons, inspectText_of_read hread]
      rfl
    | none =>
      have hread : ¬holdsInstruction line = true := by
        intro hholds
        obtain ⟨i, hi⟩ := holdsInstruction_iff.mp hholds
        rw [instruction?_eq_some_iff.mpr hi] at hline
        exact absurd hline (by simp)
      rw [List.filter_cons_of_neg hread, placed_cons_of_none hline, ih]

/-- The number of a line changes nothing of a block but that it stands before it. -/
theorem text_ofInstruction_atLine {i : Instruction} (h : i.line = none) (number : Nat) :
    (Item.ofInstruction (i.atLine number)).text =
      "(line " ++ toString number ++ ") " ++ (Item.ofInstruction i).text := by
  have htext : (i.atLine number).text = "(line " ++ toString number ++ ") " ++ i.text := by
    rw [← String.toList_inj]
    simp [Instruction.text, Instruction.render, Instruction.lineText, Instruction.operandText, h,
      Instruction.atLine, Nat.toString_eq_repr, Nat.repr]
  show blockText (i.atLine number) (i.opcode.entry.refine i) ++ "\n" =
    "(line " ++ toString number ++ ") " ++ (blockText i (i.opcode.entry.refine i) ++ "\n")
  unfold blockText
  rw [htext]
  simp only [String.append_assoc]

section

variable {files : Files} {name : String} {lines : List String}

/-- A run on a file of lines without a fault. -/
theorem run_file_of_lines
    (hfile : files name = .ok (String.join (lines.map (· ++ "\n"))).toUTF8)
    (hlines : ∀ line ∈ lines, '\n' ∉ line.toList ∧ line.toList.getLast? ≠ some '\r' ∧
      CanRead line.toList) :
    run .amd64 files { files := [name] } =
      { items := .opening name ::
          (placed 1 lines).map fun p => .ofInstruction (p.1.atLine p.2) } := by
  have htext : String.fromUTF8? (String.join (lines.map (· ++ "\n"))).toUTF8 =
      some (String.join (lines.map (· ++ "\n"))) :=
    dif_pos (String.isValidUTF8 _)
  have hsplit : Text.lines (String.join (lines.map (· ++ "\n"))).toList =
      lines.map String.toList := by
    have hended : (String.join (lines.map (· ++ "\n"))).toList =
        (lines.map String.toList).flatMap (· ++ ['\n']) := by
      simp [List.flatMap_map]
    rw [hended, Text.lines_flatMap_lineFeed]
    intro line hline
    obtain ⟨text, hmem, rfl⟩ := List.mem_map.mp hline
    exact ⟨(hlines text hmem).1, (hlines text hmem).2.1⟩
  have hread := readLines_eq_ok (fun line hline => (hlines line hline).2.2) 1
  rw [← hsplit] at hread
  rw [run_amd64, List.map_singleton, inspectFile_of_read hfile htext hread]
  simp [tableItems, Request.checksTable, Request.isIdle, inspectTexts, countFailures,
    Outcome.andThen_of_none]

/-- A run on the lines that hold an instruction, of which there is at least one. -/
theorem run_texts_of_lines
    (hheld : ∃ line ∈ lines, ∃ i, Instruction.read line.toList = .ok (some i)) :
    run .amd64 files { instructions := lines.filter holdsInstruction } =
      { items := (placed 1 lines).map fun p => .ofInstruction p.1 } := by
  obtain ⟨line, hline, hread⟩ := hheld
  have hmem : line ∈ lines.filter holdsInstruction :=
    List.mem_filter.mpr ⟨hline, holdsInstruction_iff.mpr hread⟩
  -- a run without instructions would check the table
  have htable : tableItems { instructions := lines.filter holdsInstruction } = [] := by
    simp [tableItems, Request.checksTable, Request.isIdle, List.ne_nil_of_mem hmem]
  have hcount : countFailures ((placed 1 lines).map fun p => .ofInstruction p.1) = {} := by
    have hblock : (Item.isFailure ∘ fun p : Instruction × Nat => .ofInstruction p.1) =
        fun _ => false := rfl
    simp [countFailures, List.countP_map, hblock]
  rw [run_amd64, htable]
  simp only [inspectTexts_filter 1, hcount]
  rw [List.map_nil, Outcome.sequence_nil, Outcome.andThen_empty, Outcome.andThen_empty,
    List.nil_append]

/--
A file whose lines can all be read is inspected with the same answers as its lines that hold an
instruction, of which there is at least one, are on the command line. Behind the notice of the file
stand the same blocks in the same order, each with the place of its line in brackets before it, and
both runs succeed. The number of a line has no part in finding a descriptor.
-/
theorem run_file_lines
    (hfile : files name = .ok (String.join (lines.map (· ++ "\n"))).toUTF8)
    (hlines : ∀ line ∈ lines, '\n' ∉ line.toList ∧ line.toList.getLast? ≠ some '\r' ∧
      CanRead line.toList)
    (hheld : ∃ line ∈ lines, ∃ i, Instruction.read line.toList = .ok (some i)) :
    let fromFile := run .amd64 files { files := [name] }
    let fromTexts := run .amd64 files { instructions := lines.filter holdsInstruction }
    fromFile.exitCode = 0 ∧ fromTexts.exitCode = 0 ∧
      fromTexts.items = (placed 1 lines).map (fun p => .ofInstruction p.1) ∧
      fromTexts.output =
        String.join ((placed 1 lines).map fun p => (Item.ofInstruction p.1).text) ∧
      fromFile.output = (Item.opening name).text ++
        String.join ((placed 1 lines).map fun p =>
          "(line " ++ toString p.2 ++ ") " ++ (Item.ofInstruction p.1).text) ∧
      ∀ p ∈ placed 1 lines, ∃ d, Table.amd64.resolve p.1 = .ok d ∧
        Table.amd64.resolve (p.1.atLine p.2) = .ok d ∧ Item.ofInstruction p.1 = .block p.1 d := by
  intro fromFile fromTexts
  have hfromFile : fromFile = _ := run_file_of_lines hfile hlines
  have hfromTexts : fromTexts = _ := run_texts_of_lines hheld
  have htagged : ∀ p ∈ placed 1 lines, (Item.ofInstruction (p.1.atLine p.2)).text =
      "(line " ++ toString p.2 ++ ") " ++ (Item.ofInstruction p.1).text :=
    fun p hp => text_ofInstruction_atLine (line_eq_none_of_mem_placed hp) p.2
  refine ⟨by rw [hfromFile]; rfl, by rw [hfromTexts]; rfl, by rw [hfromTexts], ?_, ?_, ?_⟩
  · rw [hfromTexts, Outcome.output, List.map_map, String.append_empty]
    rfl
  · rw [hfromFile, Outcome.output, List.map_cons, String.join_cons, List.map_map,
      String.append_empty, ← List.map_congr_left htagged]
    rfl
  · intro p _
    exact ⟨_, Table.resolve_amd64 p.1, Table.resolve_amd64 _, rfl⟩

end

theorem run_file_lines_loop :
    let lines := ["loop: // shifts", "\tSHLQ\tCX, 8(BX)", "", "  jne loop"]
    let files : Files := fun _ => .ok (String.join (lines.map (· ++ "\n"))).toUTF8
    let shift : Instruction :=
      { opcode := .shlq, left := { mode := .register .cx },
        right := { mode := .indirect .bx, offset := 8 } }
    let jump : Instruction :=
      { opcode := .jne, right := { mode := .target, symbol := some "loop" } }
    (∀ line ∈ lines, '\n' ∉ line.toList ∧ line.toList.getLast? ≠ some '\r' ∧
      CanRead line.toList) ∧
    Instruction.read "  jne loop".toList = .ok (some jump) ∧
    (run .amd64 files { files := ["loop.s"] }).exitCode = 0 ∧
    (run .amd64 files { instructions := lines.filter holdsInstruction }).exitCode = 0 ∧
    (run .amd64 files { instructions := lines.filter holdsInstruction }).output =
      String.join [(Item.ofInstruction shift).text, (Item.ofInstruction jump).text] ∧
    (run .amd64 files { files := ["loop.s"] }).output = (Item.opening "loop.s").text ++
      String.join ["(line 2) " ++ (Item.ofInstruction shift).text,
        "(line 4) " ++ (Item.ofInstruction jump).text] := by
  intro lines files shift jump
  have hshift : Instruction.read "\tSHLQ\tCX, 8(BX)".toList = .ok (some shift) := by
    decide +kernel
  have hjump : Instruction.read "  jne loop".toList = .ok (some jump) := by decide +kernel
  have hlines : ∀ line ∈ lines, '\n' ∉ line.toList ∧ line.toList.getLast? ≠ some '\r' ∧
      CanRead line.toList := by
    simp only [lines, List.forall_mem_cons, List.not_mem_nil, false_implies, implies_true, and_true]
    exact ⟨⟨by decide, by decide, none, by decide +kernel⟩, ⟨by decide, by decide, _, hshift⟩,
      ⟨by decide, by decide, none, by decide +kernel⟩, ⟨by decide, by decide, _, hjump⟩⟩
  have hplaced : placed 1 lines = [(shift, 2), (jump, 4)] := by decide +kernel
  obtain ⟨hfile, htexts, -, houtput, houtput', -⟩ :=
    run_file_lines (show files "loop.s" = .ok _ from rfl) hlines
      ⟨"  jne loop", by simp [lines], jump, hjump⟩
  have hnumbers : "(line " ++ toString 2 ++ ") " = "(line 2) " ∧
      "(line " ++ toString 4 ++ ") " = "(line 4) " := by decide +kernel
  rw [hplaced] at houtput houtput'
  rw [List.map_cons, List.map_cons, List.map_nil, hnumbers.1, hnumbers.2] at houtput'
  exact ⟨hlines, hjump, hfile, htexts, houtput, houtput'⟩

end Amd64Effects.Inspector
