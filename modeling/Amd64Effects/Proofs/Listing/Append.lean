import Amd64Effects.Proofs.Listing

/-!
# Listings one behind the other

A listing whose last line is ended can be put before another one. What the second listing holds does
not depend on the first, but for the numbers of its lines: they go up by the number of lines before
them, whether those hold instructions or not (`readLines_add`). Reading both together is therefore
reading one after the other (`read_append`), and the first fault of the two ends it.
-/

namespace Amd64Effects

/-- The same instruction, so many lines further down. -/
def Instruction.later (count : Nat) (i : Instruction) : Instruction :=
  { i with line := i.line.map (count + ·) }

@[simp] theorem Instruction.later_atLine (count number : Nat) (i : Instruction) :
    (i.atLine number).later count = i.atLine (count + number) := rfl

/-- The same fault, so many lines further down. -/
def ListingFault.later (count : Nat) (f : ListingFault) : ListingFault :=
  { f with line := count + f.line }

namespace Listing

/-- What is read of some lines, if so many others stand before them. -/
def later (count : Nat) :
    Except ListingFault (List Instruction) → Except ListingFault (List Instruction)
  | .ok is => .ok (is.map (·.later count))
  | .error f => .error (f.later count)

/-- The number of the first line is all that the lines before it change. -/
theorem readLines_add (count number : Nat) (lines : List (List Char)) :
    readLines (count + number) lines = later count (readLines number lines) := by
  induction lines generalizing number with
  | nil => rfl
  | cons line rest ih =>
    have hrest : readLines (count + number + 1) rest = later count (readLines (number + 1) rest) :=
      ih (number + 1)
    rw [readLines, readLines, hrest]
    cases Instruction.read line with
    | error cause => rfl
    | ok held =>
      cases held with
      | none => rfl
      | some i => cases readLines (number + 1) rest <;> rfl

/-- Nothing but the first listing is read before its end, and then nothing but the second. -/
theorem read_append {first second : List Char} (h : Text.EndsLine first) :
    read (first ++ second) = do
      let is ← read first
      let js ← later (Text.lines first).length (read second)
      return is ++ js := by
  unfold read
  rw [Text.lines_append h, readLines_append, Nat.add_comm 1, readLines_add]

/--
A fault of the first listing is that of both together. Otherwise the instructions of the second
follow those of the first, or its fault does, with the lines of the first listing counted in; the
kind of that fault and what it says behind the number of the line stay the same.
-/
theorem read_append_cases {first second : List Char} (h : Text.EndsLine first) :
    (∀ f, read first = .error f → read (first ++ second) = .error f) ∧
    (∀ is js, read first = .ok is → read second = .ok js →
      read (first ++ second) = .ok (is ++ js.map (·.later (Text.lines first).length))) ∧
    (∀ is f, read first = .ok is → read second = .error f →
      ∃ f', read (first ++ second) = .error f' ∧ f'.line = (Text.lines first).length + f.line ∧
        f'.cause = f.cause ∧ (Fault.listing f').kind = (Fault.listing f).kind ∧
        (Fault.listing f).message = "line " ++ toString f.line ++ ": " ++ f.cause.message ∧
        (Fault.listing f').message =
          "line " ++ toString ((Text.lines first).length + f.line) ++ ": " ++ f.cause.message) := by
  rw [read_append h]
  refine ⟨?_, ?_, ?_⟩
  · intro f hfirst
    rw [hfirst]
    rfl
  · intro is js hfirst hsecond
    rw [hfirst, hsecond]
    rfl
  · intro is f hfirst hsecond
    rw [hfirst, hsecond]
    exact ⟨f.later (Text.lines first).length, rfl, rfl, rfl, rfl, rfl, rfl⟩

theorem read_append_cases_return :
    Text.EndsLine "// start\r\n\nRET\n".toList ∧
      read "// start\r\n\nRET\n".toList = .ok [{ opcode := .ret, line := some 3 }] ∧
      read "done:\r\n\tRET".toList = .ok [{ opcode := .ret, line := some 2 }] ∧
      read ("// start\r\n\nRET\n".toList ++ "done:\r\n\tRET".toList) =
        .ok [{ opcode := .ret, line := some 3 }, { opcode := .ret, line := some 5 }] := by
  have hends : Text.EndsLine "// start\r\n\nRET\n".toList := by decide
  have hfirst : read "// start\r\n\nRET\n".toList = .ok [{ opcode := .ret, line := some 3 }] := by
    decide +kernel
  have hsecond : read "done:\r\n\tRET".toList = .ok [{ opcode := .ret, line := some 2 }] := by
    decide +kernel
  exact ⟨hends, hfirst, hsecond, (read_append_cases hends).2.1 _ _ hfirst hsecond⟩

end Listing

end Amd64Effects
