import Mathlib.Data.List.Sort
import Amd64Effects.Fault
import Amd64Effects.Proofs.Text.Lines

/-!
# Reading a listing

A listing is read line by line, and the lines before a place do not change what the lines behind it
are read as, but for their numbers (`readLines_append`). So a listing whose lines all can be read is
read as what its lines hold, in their order (`Collects`), and any other listing has the fault of the
first line that cannot be read (`read_collects_or_fault`).
-/

namespace Amd64Effects

namespace Instruction

/-- A line without a fault: it holds an instruction, or it may hold none. -/
def CanRead (line : List Char) : Prop :=
  ∃ held, read line = .ok held

/-- Both instructions know their lines, and the line of the first one comes before the other. -/
def Precedes (i j : Instruction) : Prop :=
  ∃ m n, i.line = some m ∧ j.line = some n ∧ m < n

theorem Precedes.asymm {i j : Instruction} (h : i.Precedes j) : ¬j.Precedes i := by
  obtain ⟨m, n, hi, hj, hlt⟩ := h
  rintro ⟨n', m', hj', hi', hlt'⟩
  rw [hi, Option.some.injEq] at hi'
  rw [hj, Option.some.injEq] at hj'
  omega

instance : Std.Asymm Precedes := ⟨fun _ _ => Precedes.asymm⟩

end Instruction

namespace Listing

open Instruction (CanRead)

/-! ## What some lines hold -/

/--
One of some lines, the first of which has a given number, holds the instruction, but for the number
of that line, which the instruction has as well.
-/
def Holds (number : Nat) (lines : List (List Char)) (j : Instruction) : Prop :=
  ∃ n line i, lines[n]? = some line ∧ Instruction.read line = .ok (some i) ∧
    j = { i with line := some (number + n) }

/-- The instructions are all those that some lines hold, in the order of the lines. -/
structure Collects (number : Nat) (lines : List (List Char)) (is : List Instruction) : Prop where
  mem_iff : ∀ j, j ∈ is ↔ Holds number lines j
  pairwise_precedes : is.Pairwise Instruction.Precedes

section

variable {number : Nat} {line : List Char} {rest : List (List Char)} {is : List Instruction}

@[simp] theorem not_holds_nil (number : Nat) (j : Instruction) : ¬Holds number [] j := by
  rintro ⟨n, line, i, hline, -⟩
  simp at hline

/-- A line takes a number, whether it holds an instruction or not. -/
theorem holds_cons {j : Instruction} :
    Holds number (line :: rest) j ↔
      (∃ i, Instruction.read line = .ok (some i) ∧ j = i.atLine number) ∨
        Holds (number + 1) rest j := by
  constructor
  · rintro ⟨n, l, i, hl, hread, rfl⟩
    cases n with
    | zero =>
      rw [List.getElem?_cons_zero, Option.some.injEq] at hl
      exact Or.inl ⟨i, hl ▸ hread, rfl⟩
    | succ n =>
      exact Or.inr ⟨n, l, i, hl, hread, by rw [Nat.add_assoc, Nat.add_comm 1 n]⟩
  · rintro (⟨i, hread, rfl⟩ | ⟨n, l, i, hl, hread, rfl⟩)
    · exact ⟨0, line, i, rfl, hread, rfl⟩
    · exact ⟨n + 1, l, i, hl, hread, by rw [Nat.add_assoc, Nat.add_comm 1 n]⟩

theorem Holds.exists_line {j : Instruction} (h : Holds number rest j) :
    ∃ n, j.line = some n ∧ number ≤ n ∧ n < number + rest.length := by
  obtain ⟨n, line, i, hline, -, rfl⟩ := h
  have hn : n < rest.length := (List.getElem?_eq_some_iff.mp hline).1
  exact ⟨number + n, rfl, by omega, by omega⟩

/-- What is collected is told by its members, since no two are at one line. -/
theorem Collects.unique {js : List Instruction} (his : Collects number rest is)
    (hjs : Collects number rest js) : is = js :=
  his.pairwise_precedes.eq_of_mem_iff hjs.pairwise_precedes fun j =>
    (his.mem_iff j).trans (hjs.mem_iff j).symm

theorem Collects.nil (number : Nat) : Collects number [] [] where
  mem_iff := by simp
  pairwise_precedes := .nil

theorem Collects.skip (hread : Instruction.read line = .ok none)
    (h : Collects (number + 1) rest is) : Collects number (line :: rest) is where
  mem_iff j := by simp [holds_cons, hread, h.mem_iff]
  pairwise_precedes := h.pairwise_precedes

theorem Collects.cons {i : Instruction} (hread : Instruction.read line = .ok (some i))
    (h : Collects (number + 1) rest is) :
    Collects number (line :: rest) (i.atLine number :: is) where
  mem_iff j := by simp [holds_cons, hread, h.mem_iff]
  pairwise_precedes := by
    refine List.pairwise_cons.mpr ⟨fun j hj => ?_, h.pairwise_precedes⟩
    obtain ⟨n, hn, hlower, -⟩ := ((h.mem_iff j).mp hj).exists_line
    exact ⟨number, n, rfl, hn, hlower⟩

end

/-! ## Runs over the lines -/

section

variable (number : Nat)

/-- The lines behind some lines are read on their own, with the numbers that follow. -/
theorem readLines_append (front rest : List (List Char)) :
    readLines number (front ++ rest) = do
      let is ← readLines number front
      let js ← readLines (number + front.length) rest
      return is ++ js := by
  induction front generalizing number with
  | nil =>
    rw [List.nil_append, readLines, List.length_nil, Nat.add_zero]
    cases readLines number rest <;> rfl
  | cons line front ih =>
    have hnumber : number + (line :: front).length = number + 1 + front.length := by
      rw [List.length_cons, Nat.add_assoc, Nat.add_comm 1]
    rw [List.cons_append, readLines, readLines, hnumber, ih]
    cases Instruction.read line with
    | error cause => rfl
    | ok held =>
      cases held with
      | none => rfl
      | some i =>
        cases readLines (number + 1) front with
        | error f => rfl
        | ok is => cases readLines (number + 1 + front.length) rest <;> rfl

variable {lines : List (List Char)}

theorem exists_readLines_eq_ok (h : ∀ line ∈ lines, CanRead line) :
    ∃ is, readLines number lines = .ok is ∧ Collects number lines is := by
  induction lines generalizing number with
  | nil => exact ⟨[], rfl, .nil number⟩
  | cons line rest ih =>
    obtain ⟨⟨held, hread⟩, hrest⟩ := List.forall_mem_cons.mp h
    obtain ⟨is, his, hcollects⟩ := ih (number + 1) hrest
    cases held with
    | none => exact ⟨is, by simp [readLines, hread, his], hcollects.skip hread⟩
    | some i =>
      exact ⟨i.atLine number :: is, by simp [readLines, hread, his, Except.map],
        hcollects.cons hread⟩

/-- Behind lines that can be read, the first fault ends the reading. -/
theorem readLines_eq_error {before after : List (List Char)} {line : List Char}
    {cause : SyntaxFault} (hbefore : ∀ l ∈ before, CanRead l)
    (hread : Instruction.read line = .error cause) :
    readLines number (before ++ line :: after) = .error ⟨number + before.length, cause⟩ := by
  obtain ⟨is, his, -⟩ := exists_readLines_eq_ok number hbefore
  rw [readLines_append, his, readLines, hread]
  rfl

/-- Lines that cannot all be read have a first one that cannot. -/
theorem canRead_or_exists_fault (lines : List (List Char)) :
    (∀ line ∈ lines, CanRead line) ∨
      ∃ before line after cause, lines = before ++ line :: after ∧
        (∀ l ∈ before, CanRead l) ∧ Instruction.read line = .error cause := by
  induction lines with
  | nil => exact Or.inl (by simp)
  | cons line rest ih =>
    cases hread : Instruction.read line with
    | error cause => exact Or.inr ⟨[], line, rest, cause, rfl, by simp, hread⟩
    | ok held =>
      have hline : CanRead line := ⟨held, hread⟩
      rcases ih with hrest | ⟨before, l, after, cause, rfl, hbefore, hl⟩
      · exact Or.inl (List.forall_mem_cons.mpr ⟨hline, hrest⟩)
      · exact Or.inr ⟨line :: before, l, after, cause, rfl,
          List.forall_mem_cons.mpr ⟨hline, hbefore⟩, hl⟩

end

/-! ## Listings -/

theorem exists_read_eq_ok_iff {text : List Char} :
    (∃ is, read text = .ok is) ↔ ∀ line ∈ Text.lines text, CanRead line := by
  constructor
  · rintro ⟨is, his⟩
    rcases canRead_or_exists_fault (Text.lines text) with
      hall | ⟨before, line, after, cause, hlines, hbefore, hread⟩
    · exact hall
    · rw [read, hlines, readLines_eq_error 1 hbefore hread] at his
      exact absurd his (by simp)
  · intro hall
    obtain ⟨is, his, -⟩ := exists_readLines_eq_ok 1 hall
    exact ⟨is, his⟩

/-- The fault of a listing is that of its first line that cannot be read. -/
theorem read_eq_error_iff {text : List Char} {f : ListingFault} :
    read text = .error f ↔
      ∃ before line after, Text.lines text = before ++ line :: after ∧
        (∀ l ∈ before, CanRead l) ∧ Instruction.read line = .error f.cause ∧
        f.line = before.length + 1 := by
  constructor
  · intro h
    rcases canRead_or_exists_fault (Text.lines text) with
      hall | ⟨before, line, after, cause, hlines, hbefore, hread⟩
    · obtain ⟨is, his⟩ := exists_read_eq_ok_iff.mpr hall
      rw [his] at h
      exact absurd h (by simp)
    · rw [read, hlines, readLines_eq_error 1 hbefore hread, Except.error.injEq] at h
      subst h
      exact ⟨before, line, after, hlines, hbefore, hread, Nat.add_comm 1 before.length⟩
  · rintro ⟨before, line, after, hlines, hbefore, hread, hnumber⟩
    rw [read, hlines, readLines_eq_error 1 hbefore hread, Nat.add_comm, ← hnumber]

/--
A listing is divided at its line feeds, a carriage return before one is dropped, and what follows
the last one is a line if it is not empty. If all lines can be read, the listing is read as the
instructions that they hold, which are numbered by their lines. Otherwise it has the fault of the
first line that cannot be read, with the number of that line before its message.
-/
theorem read_collects_or_fault (text : List Char) :
    (∃ ended last, text.splitOn '\n' = ended ++ [last] ∧
      Text.lines text = ended.map Text.dropReturn ++ if last = [] then [] else [last]) ∧
    (((∀ line ∈ Text.lines text, CanRead line) ∧
        ∃ is, read text = .ok is ∧ Collects 1 (Text.lines text) is ∧
          (∀ js, Collects 1 (Text.lines text) js → js = is) ∧
          ∀ j ∈ is, ∃ n, j.line = some n ∧ 1 ≤ n ∧ n ≤ (Text.lines text).length) ∨
      (∃ before line after cause, Text.lines text = before ++ line :: after ∧
        (∀ l ∈ before, CanRead l) ∧ Instruction.read line = .error cause ∧
        ∃ f, read text = .error f ∧ (Fault.listing f).kind = .text ∧
          (Fault.listing f).instruction? = none ∧
          (Fault.listing f).message =
            "line " ++ toString (before.length + 1) ++ ": " ++ (Fault.line cause).message)) := by
  refine ⟨Text.exists_lines_eq text, ?_⟩
  rcases canRead_or_exists_fault (Text.lines text) with
    hall | ⟨before, line, after, cause, hlines, hbefore, hread⟩
  · obtain ⟨is, his, hcollects⟩ := exists_readLines_eq_ok 1 hall
    refine Or.inl ⟨hall, is, his, hcollects, fun js hjs => hjs.unique hcollects,
      fun j hj => ?_⟩
    obtain ⟨n, hn, hlower, hupper⟩ := ((hcollects.mem_iff j).mp hj).exists_line
    exact ⟨n, hn, hlower, by omega⟩
  · refine Or.inr ⟨before, line, after, cause, hlines, hbefore, hread,
      ⟨1 + before.length, cause⟩, ?_, rfl, rfl, ?_⟩
    · rw [read, hlines]
      exact readLines_eq_error 1 hbefore hread
    · rw [Nat.add_comm before.length]
      rfl

end Listing

end Amd64Effects
