import Amd64Effects.Inspector.Item
import Amd64Effects.Proofs.Table.Policy

/-!
# What the items show

The texts of faults and items, as they stand on a terminal. `Fault.Tells` and `Item.Shows` have a
rule for each kind, with the text written out, its colours and line ends included, and every fault
and every item is shown by its rule (`tells_report`, `shows_text`).

The block of a descriptor is shown line by line (`ShowsBlock`): the instruction, the flags, the size
and the two slots as the flags tell them, the used and the defined registers, and the addressing
registers where there are any.
-/

namespace Amd64Effects

/-! ## Faults -/

/-- What is said of a fault of syntax, with the piece of text that it is about. -/
inductive SyntaxFault.Says : SyntaxFault → String → Prop
  | statement (code : String) : Says (.statement code) ("can't parse \"" ++ code ++ "\"")
  | unknownOpcode (mnemonic : String) : Says (.unknownOpcode mnemonic)
      ("unknown opcode \"" ++ mnemonic ++ "\"")
  | tooManyOperands (op : Opcode) : Says (.tooManyOperands op)
      ("too many operands for " ++ op.name)
  | constant (operand : String) : Says (.constant operand) ("bad constant \"" ++ operand ++ "\"")
  | offset (operand : String) : Says (.offset operand) ("bad offset in \"" ++ operand ++ "\"")
  | fileLocalMark (operand : String) : Says (.fileLocalMark operand)
      ("\"<>\" needs an SB symbol in \"" ++ operand ++ "\"")
  | unknownBase (name : String) : Says (.unknownBase name)
      ("unknown base register \"" ++ name ++ "\"")
  | unknownIndex (name : String) : Says (.unknownIndex name)
      ("unknown index register \"" ++ name ++ "\"")
  | memory (operand : String) : Says (.memory operand)
      ("bad memory operand \"" ++ operand ++ "\"")
  | unrecognized (operand : String) : Says (.unrecognized operand)
      ("unrecognized operand \"" ++ operand ++ "\"")

theorem SyntaxFault.says_reason (cause : SyntaxFault) : cause.Says cause.reason := by
  cases cause <;> constructor

theorem SyntaxFault.message_eq (cause : SyntaxFault) :
    cause.message = "\x1b[91mSyntax Error\x1b[0m " ++ cause.reason := rfl

/-- What is told of a fault. Only an instruction without a descriptor is told with its context. -/
inductive Fault.Tells : Fault → String → Prop
  | line {cause : SyntaxFault} {reason : String} (h : cause.Says reason) :
      Tells (.line cause) ("\x1b[91mSyntax Error\x1b[0m " ++ reason)
  | listing {number : Nat} {cause : SyntaxFault} {reason : String} (h : cause.Says reason) :
      Tells (.listing ⟨number, cause⟩)
        ("line " ++ toString number ++ ": " ++ ("\x1b[91mSyntax Error\x1b[0m " ++ reason))
  | unclassified (i : Instruction) : Tells (.unclassified i)
      ("\x1b[91munknown instruction\x1b[0m " ++ i.text ++ "\nContext: " ++ i.opcode.name ++
        " -> (" ++ i.text ++ ")")
  | policy (n : Nat) : Tells (.policy n) ("descriptor table has " ++ toString n ++ " violation(s)")
  | system (reason : String) : Tells (.file (.system reason)) reason
  | encoding : Tells (.file .encoding) "stream did not contain valid UTF-8"
  | noInstruction (text : String) : Tells (.noInstruction text)
      ("no instruction in \"" ++ text ++ "\"")
  | unresolved (n : Nat) : Tells (.unresolved n)
      (toString n ++ " instruction(s) could not be resolved")

theorem Fault.tells_report (f : Fault) : f.Tells f.report := by
  cases f with
  | line cause => exact .line cause.says_reason
  | listing cause =>
    obtain ⟨number, cause⟩ := cause
    have hreport : (Fault.listing ⟨number, cause⟩).report =
        "line " ++ toString number ++ ": " ++ cause.message := rfl
    rw [hreport, cause.message_eq]
    exact .listing cause.says_reason
  | unclassified i =>
    have hmessage : (Fault.unclassified i).message =
        "\x1b[91munknown instruction\x1b[0m " ++ i.text := rfl
    have hreport : (Fault.unclassified i).report = (Fault.unclassified i).message ++
        "\nContext: " ++ i.opcode.name ++ " -> (" ++ i.text ++ ")" := rfl
    rw [hreport, hmessage]
    exact .unclassified i
  | policy n => exact .policy n
  | file cause =>
    cases cause with
    | system reason => exact .system reason
    | encoding => exact .encoding
  | noInstruction text => exact .noInstruction text
  | unresolved n => exact .unresolved n

/-- The diagnostic of a fault holds the same report, but for the context. -/
theorem Fault.diagnostic_eq {f : Fault} (h : f.instruction? = none) :
    f.diagnostic = "\x1b[91mproginfo::Error\x1b[0m: " ++ f.report := by
  have hreport : f.report = f.message := by
    unfold report
    rw [h]
  rw [hreport]
  rfl

/-! ## Size and slots -/

/-- The texts of the size classes: their widths in bytes. -/
def SizeClass.texts : List (SizeClass × String) :=
  [(byte, "1 bytes"), (word, "2 bytes"), (long, "4 bytes"), (quad, "8 bytes"),
    (single, "4 bytes float"), (double, "8 bytes float")]

theorem SizeClass.mem_texts (c : SizeClass) : (c, c.text) ∈ texts := by
  have hall : ∀ c ∈ all, (c, c.text) ∈ texts := by decide +kernel
  exact hall c (mem_all c)

namespace FlagSet

/-- What is shown of the size: the text of the one class that is marked, or a dash. -/
inductive ShowsSize (s : FlagSet) : String → Prop
  | one {c : SizeClass} {text : String} (hflag : c.flag ∈ s)
      (hother : ∀ x : SizeClass, x.flag ∈ s → x = c) (htext : (c, text) ∈ SizeClass.texts) :
      ShowsSize s text
  | dash (h : ¬∃ c : SizeClass, c.flag ∈ s ∧ ∀ x : SizeClass, x.flag ∈ s → x = c) :
      ShowsSize s "-"

theorem showsSize_sizeText (s : FlagSet) : s.ShowsSize (Inspector.sizeText s) := by
  unfold Inspector.sizeText
  cases hsize : s.size? with
  | some c =>
    obtain ⟨hflag, hother⟩ := size?_eq_some_iff.mp hsize
    exact .one hflag hother c.mem_texts
  | none =>
    refine .dash ?_
    rintro ⟨c, hc⟩
    rw [size?_eq_some_iff.mpr hc] at hsize
    exact absurd hsize (by simp)

/-- What is shown of a slot that is read, written, both, or left alone. -/
inductive ShowsUse (reads writes : Prop) : String → Prop
  | both (hreads : reads) (hwrites : writes) : ShowsUse reads writes "rw"
  | read (hreads : reads) (hwrites : ¬writes) : ShowsUse reads writes "r"
  | write (hreads : ¬reads) (hwrites : writes) : ShowsUse reads writes "w"
  | dash (hreads : ¬reads) (hwrites : ¬writes) : ShowsUse reads writes "-"

theorem showsUse_letters (s : FlagSet) (f g : Flag) :
    ShowsUse (f ∈ s) (g ∈ s) (Access.ofPair (s.contains f) (s.contains g)).letters := by
  rw [← contains_iff, ← contains_iff]
  cases hf : s.contains f <;> cases hg : s.contains g
  · exact .dash (by simp) (by simp)
  · exact .write (by simp) rfl
  · exact .read rfl (by simp)
  · exact .both rfl rfl

end FlagSet

namespace Inspector

/-! ## Blocks -/

/-- The lines on which an instruction and its descriptor are shown. -/
inductive ShowsBlock (i : Instruction) (d : Descriptor) : List String → Prop
  | mk {size left right : String} {index : List String} (hsize : d.flags.ShowsSize size)
      (hleft : FlagSet.ShowsUse (.leftRead ∈ d.flags) (.leftWrite ∈ d.flags) left)
      (hright : FlagSet.ShowsUse (.rightRead ∈ d.flags) (.rightWrite ∈ d.flags) right)
      (hnone : d.addressing = ∅ → index = [])
      (hindex : d.addressing ≠ ∅ → index = ["  \x1b[93mindex\x1b[0m: " ++ d.addressing.text]) :
      ShowsBlock i d
        ([i.text,
          "  \x1b[93mflags\x1b[0m: " ++ d.flags.text,
          "  \x1b[93msize\x1b[0m: " ++ size ++ "  \x1b[93mleft\x1b[0m: " ++ left ++
            "  \x1b[93mright\x1b[0m: " ++ right,
          "  \x1b[93muse\x1b[0m:   " ++ d.uses.text,
          "  \x1b[93mset\x1b[0m:   " ++ d.defines.text] ++ index)

theorem exists_showsBlock (i : Instruction) (d : Descriptor) :
    ∃ lines, ShowsBlock i d lines ∧
      (Item.block i d).text = String.join (lines.map (· ++ "\n")) := by
  have hlines {index : List String} := @ShowsBlock.mk i d _ _ _ index
    (FlagSet.showsSize_sizeText d.flags) (FlagSet.showsUse_letters d.flags .leftRead .leftWrite)
    (FlagSet.showsUse_letters d.flags .rightRead .rightWrite)
  by_cases hempty : d.addressing = ∅
  · refine ⟨_, hlines (fun _ => rfl) (absurd hempty), ?_⟩
    rw [← String.toList_inj]
    simp [Item.text, blockText, entryLine, Text.colour, Text.Colour.code, FlagSet.left,
      FlagSet.right, RegisterSet.isEmpty_iff.mpr hempty]
  · refine ⟨_, hlines (fun h => absurd h hempty) (fun _ => rfl), ?_⟩
    rw [← String.toList_inj]
    simp [Item.text, blockText, entryLine, Text.colour, Text.Colour.code, FlagSet.left,
      FlagSet.right, mt RegisterSet.isEmpty_iff.mp hempty]

/-! ## Items -/

/-- The text that an item is shown as. Notices and warnings end in a carriage return as well. -/
inductive Item.Shows : Item → String → Prop
  | tableKept (n : Nat) : Shows (.tableKept n)
      ("\x1b[94mINFO\x1b[0m: Descriptor table OK (" ++ toString n ++ " opcodes)\r\n")
  | violation (v : Violation) : Shows (.violation v)
      ("\x1b[91mWARNING\x1b[0m: " ++ v.text ++ "\r\n")
  | row (op : Opcode) (d : Descriptor) : Shows (.row op d)
      ("\x1b[92m" ++ op.padded 10 ++ "\x1b[0m " ++ d.text ++ "\n")
  | operands (i : Instruction) : Shows (.operands i)
      ("\x1b[94mparsed\x1b[0m from: " ++ i.left.description ++ " to: " ++ i.right.description ++
        "\n")
  | block {i : Instruction} {d : Descriptor} {lines : List String} (h : ShowsBlock i d lines) :
      Shows (.block i d) (String.join (lines.map (· ++ "\n")))
  | failure {f : Fault} {report : String} (h : f.Tells report) :
      Shows (.failure f) (report ++ "\n")
  | opening (name : String) : Shows (.opening name)
      ("\x1b[94mINFO\x1b[0m: Resolving " ++ name ++ "\r\n")
  | closing (n : Nat) (name : String) : Shows (.closing n name)
      ("\x1b[91mresolved\x1b[0m " ++ toString n ++ " instruction(s) from " ++ name ++ "\n")

theorem Item.shows_text (x : Item) : x.Shows x.text := by
  cases x with
  | tableKept n => exact .tableKept n
  | violation v => exact .violation v
  | row op d =>
    have htext : (Item.row op d).text =
        "\x1b[92m" ++ op.padded 10 ++ "\x1b[0m " ++ d.text ++ "\n" := by
      rw [← String.toList_inj]
      simp [Item.text, Text.colour, Text.Colour.code]
    exact htext ▸ .row op d
  | operands i => exact .operands i
  | block i d =>
    obtain ⟨lines, hlines, htext⟩ := exists_showsBlock i d
    exact htext ▸ .block hlines
  | failure f => exact .failure f.tells_report
  | opening name => exact .opening name
  | closing n name => exact .closing n name

end Inspector

end Amd64Effects
