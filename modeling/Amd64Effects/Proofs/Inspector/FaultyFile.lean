import Amd64Effects.Proofs.Inspector.Run

/-!
# A file with a fault

The first file with a fault ends a run. What was printed before stays as it is: the parts of the
report that come before the file are those that requests of their own would print (`printed`). Of
the file itself only the notice is printed, if it holds text at all, and then its fault is told; its
instructions are not, because a listing is read as a whole before the first of them is printed
(`inspectFile_of_isFaultOf`). The files behind it are not looked at
(`output_run_of_faulty_file`).
-/

namespace Amd64Effects.Inspector

/-! ## Sequences up to a fault -/

namespace Outcome

theorem sequence_of_none {outcomes : List Outcome} (h : ∀ o ∈ outcomes, o.fault = none) :
    sequence outcomes = { items := outcomes.flatMap items } := by
  induction outcomes with
  | nil => rfl
  | cons o rest ih =>
    obtain ⟨ho, hrest⟩ := List.forall_mem_cons.mp h
    rw [sequence_cons, ih hrest, andThen_of_none ho, List.flatMap_cons]

/-- What stands behind a fault has no part in a sequence. -/
theorem sequence_of_some {front back : List Outcome} {o : Outcome} {f : Fault}
    (hfront : ∀ x ∈ front, x.fault = none) (ho : o.fault = some f) :
    sequence (front ++ o :: back) =
      { items := front.flatMap items ++ o.items, fault := some f } := by
  rw [sequence_append, sequence_of_none hfront, sequence_cons, andThen_of_some ho,
    andThen_of_none rfl, ho]

end Outcome

/-! ## Parts of a report -/

/-- What is printed for a request of its own, but for its fault. -/
def printed (files : Files) (r : Request) : String :=
  String.join ((run .amd64 files r).items.map Item.text)

section

variable (files : Files) (verbose : Bool)

/-- A request without a fault prints nothing else. -/
theorem output_run_eq_printed {r : Request}
    (htexts : ∀ text ∈ r.instructions, ∃ i, Instruction.read text.toList = .ok (some i))
    (hnames : ∀ name ∈ r.files, IsListing files name) :
    (run .amd64 files r).output = printed files r := by
  have hfault := (fault_run_eq_none_iff files r).mpr ⟨htexts, hnames⟩
  unfold Outcome.output printed
  rw [hfault, String.append_empty]

theorem items_run_check : (run .amd64 files { check := true }).items =
    [.tableKept Opcode.count] := by
  rw [items_run]
  rfl

theorem items_run_table : (run .amd64 files { table := true }).items =
    (tableRows .amd64).items := by
  rw [items_run]
  exact List.append_nil _

theorem items_run_text (text : String) :
    (run .amd64 files { instructions := [text], verbose }).items =
      inspectText .amd64 verbose text := by
  rw [items_run]
  show [] ++ ([text].flatMap (inspectText .amd64 verbose) ++ []) = _
  rw [List.flatMap_singleton, List.append_nil, List.nil_append]

theorem answers_printed (text : String) :
    Answers verbose text (printed files { instructions := [text], verbose }) := by
  unfold printed
  rw [items_run_text]
  exact answers_answer verbose text

theorem items_run_file (name : String) :
    (run .amd64 files { files := [name], verbose }).items =
      (inspectFile .amd64 files verbose name).items := by
  rw [items_run, List.map_singleton, Outcome.sequence_cons, Outcome.sequence_nil,
    Outcome.andThen_empty]
  rfl

theorem output_run_file {name : String} (h : IsListing files name) :
    (run .amd64 files { files := [name], verbose }).output =
      String.join ((inspectFile .amd64 files verbose name).items.map Item.text) := by
  have houtput : (run .amd64 files { files := [name], verbose }).output = _ :=
    output_run_eq_printed files nofun (List.forall_mem_singleton.mpr h)
  rw [houtput, printed, items_run_file]

end

/-- With a file to look at a run is not idle, so the table is checked only if that is asked for. -/
theorem tableItems_of_files {r : Request} (h : r.files ≠ []) :
    tableItems r = (if r.check then [.tableKept Opcode.count] else []) ++
      if r.table then (tableRows .amd64).items else [] := by
  have hchecks : r.checksTable = r.check := by
    simp [Request.checksTable, Request.isIdle, h]
  unfold tableItems
  rw [hchecks]

/-- What is printed of the table are the answers to requests for the check and for the rows. -/
theorem join_tableItems_of_files (files : Files) {r : Request} (h : r.files ≠ []) :
    String.join ((tableItems r).map Item.text) =
      (if r.check then (run .amd64 files { check := true }).output else "") ++
        if r.table then (run .amd64 files { table := true }).output else "" := by
  have hcheck : (run .amd64 files { check := true }).output = _ :=
    output_run_eq_printed files nofun nofun
  have htable : (run .amd64 files { table := true }).output = _ :=
    output_run_eq_printed files nofun nofun
  rw [tableItems_of_files h, List.map_append, String.join_append, hcheck, htable, printed, printed,
    items_run_check, items_run_table]
  cases r.check <;> cases r.table <;> rfl

/-! ## The notice of a file -/

theorem openingItems_of_holdsText {files : Files} {name : String} (h : HoldsText files name) :
    openingItems files name = [.opening name] := by
  obtain ⟨contents, text, hfile, htext⟩ := h
  unfold openingItems readText
  simp only [hfile, htext]

theorem openingItems_of_not_holdsText {files : Files} {name : String}
    (h : ¬HoldsText files name) : openingItems files name = [] := by
  unfold openingItems readText
  cases hfile : files name with
  | error cause => rfl
  | ok contents =>
    cases htext : String.fromUTF8? contents with
    | none => simp only [htext]
    | some text => exact absurd ⟨contents, text, hfile, htext⟩ h

theorem IsFaultOf.not_isListing {files : Files} {name : String} {f : Fault}
    (h : IsFaultOf files name f) : ¬IsListing files name := by
  have hsome : (inspectFile .amd64 files false name).fault = some f :=
    fault_inspectFile_of_isFaultOf h
  intro hlisting
  rw [fault_inspectFile_eq_none_iff.mpr hlisting] at hsome
  exact absurd hsome (by simp)

/-- A file has one fault only. -/
theorem IsFaultOf.unique {files : Files} {name : String} {f g : Fault}
    (hf : IsFaultOf files name f) (hg : IsFaultOf files name g) : f = g := by
  have hsome : (inspectFile .amd64 files false name).fault = some f :=
    fault_inspectFile_of_isFaultOf hf
  rw [fault_inspectFile_of_isFaultOf hg] at hsome
  exact (Option.some.inj hsome).symm

/-! ## Runs up to a fault -/

section

variable {files : Files} {r : Request} {before after : List String} {name : String} {f : Fault}

/-- What a file gives depends on its contents alone. -/
theorem inspectFile_congr {files' : Files} (verbose : Bool) (h : files' name = files name) :
    inspectFile .amd64 files' verbose name = inspectFile .amd64 files verbose name := by
  unfold inspectFile readText
  rw [h]

theorem run_of_fault (hfiles : r.files = before ++ name :: after)
    (hbefore : ∀ n ∈ before, (inspectFile .amd64 files r.verbose n).fault = none)
    (hname : (inspectFile .amd64 files r.verbose name).fault = some f) :
    run .amd64 files r =
      { items := tableItems r ++ inspectTexts .amd64 r.verbose r.instructions ++
          (before.flatMap (fun n => (inspectFile .amd64 files r.verbose n).items) ++
            (inspectFile .amd64 files r.verbose name).items)
        fault := some f } := by
  have hfront : ∀ o ∈ before.map (inspectFile .amd64 files r.verbose), o.fault = none := by
    intro o ho
    obtain ⟨n, hn, rfl⟩ := List.mem_map.mp ho
    exact hbefore n hn
  rw [run_amd64, hfiles, List.map_append, List.map_cons, Outcome.sequence_of_some hfront hname,
    Outcome.andThen_of_none rfl, Outcome.andThen_of_some rfl, List.flatMap_map]

/-- Neither the files behind the fault nor what stands in them make a difference. -/
theorem run_congr_of_fault {files' : Files} {after' : List String}
    (hfiles : r.files = before ++ name :: after)
    (hbefore : ∀ n ∈ before, (inspectFile .amd64 files r.verbose n).fault = none)
    (hname : (inspectFile .amd64 files r.verbose name).fault = some f)
    (hsame : ∀ n ∈ before ++ [name], files' n = files n) :
    run .amd64 files' { r with files := before ++ name :: after' } = run .amd64 files r := by
  have hitems : ∀ n ∈ before ++ [name],
      inspectFile .amd64 files' r.verbose n = inspectFile .amd64 files r.verbose n :=
    fun n hn => inspectFile_congr r.verbose (hsame n hn)
  have hfront : ∀ n ∈ before,
      inspectFile .amd64 files' r.verbose n = inspectFile .amd64 files r.verbose n :=
    fun n hn => hitems n (List.mem_append_left _ hn)
  have hlast := hitems name (by simp)
  have htable : tableItems { r with files := before ++ name :: after' } = tableItems r := by
    rw [tableItems_of_files (by simp), tableItems_of_files (by simp [hfiles])]
  have hrun : run .amd64 files' { r with files := before ++ name :: after' } = _ :=
    run_of_fault rfl (fun n hn => by rw [hfront n hn]; exact hbefore n hn) (hlast ▸ hname)
  rw [hrun, run_of_fault hfiles hbefore hname, htable, hlast]
  congr 3
  exact List.flatMap_congr fun n hn => by rw [hfront n hn]

end

/--
Where `name` is the first file with a fault, a run prints what was asked for before it: the check
and the rows of the table, the answers to the texts and the reports of the files in front, each as a
request of its own prints it. Behind that stand the notice of the file, if it holds text, and what
is told of its fault, and nothing else. Whatever files come behind it, and whatever is in them, the
output is the same.
-/
theorem output_run_of_faulty_file {files : Files} {r : Request} {before after : List String}
    {name : String} (hfiles : r.files = before ++ name :: after)
    (hbefore : ∀ n ∈ before, IsListing files n) (hname : ¬IsListing files name) :
    ∃ f notice report, IsFaultOf files name f ∧ f.Tells report ∧
      (HoldsText files name → notice = "\x1b[94mINFO\x1b[0m: Resolving " ++ name ++ "\r\n") ∧
      (¬HoldsText files name → notice = "") ∧
      (run .amd64 files r).output =
        (if r.check then (run .amd64 files { check := true }).output else "") ++
          ((if r.table then (run .amd64 files { table := true }).output else "") ++
            (String.join (r.instructions.map fun text =>
                printed files { instructions := [text], verbose := r.verbose }) ++
              (String.join (before.map fun n =>
                  (run .amd64 files { files := [n], verbose := r.verbose }).output) ++
                (notice ++ (report ++ "\n"))))) ∧
      (∀ text ∈ r.instructions, Answers r.verbose text
        (printed files { instructions := [text], verbose := r.verbose })) ∧
      ∀ files' after', (∀ n ∈ before ++ [name], files' n = files n) →
        (run .amd64 files' { r with files := before ++ name :: after' }).output =
          (run .amd64 files r).output := by
  obtain ⟨f, hf⟩ := exists_isFaultOf hname
  have hlast : inspectFile .amd64 files r.verbose name = _ := inspectFile_of_isFaultOf hf
  have hnone : ∀ n ∈ before, (inspectFile .amd64 files r.verbose n).fault = none :=
    fun n hn => fault_inspectFile_eq_none_iff.mpr (hbefore n hn)
  have hsome : (inspectFile .amd64 files r.verbose name).fault = some f :=
    fault_inspectFile_of_isFaultOf hf
  refine ⟨f, String.join ((openingItems files name).map Item.text), f.report, hf, f.tells_report,
    ?_, ?_, ?_, fun text _ => answers_printed files r.verbose text, ?_⟩
  · intro htext
    rw [openingItems_of_holdsText htext, List.map_singleton, String.join_cons, String.join_nil,
      String.append_empty]
    rfl
  · intro htext
    rw [openingItems_of_not_holdsText htext, List.map_nil, String.join_nil]
  · have hfront : ∀ n ∈ before, (run .amd64 files { files := [n], verbose := r.verbose }).output =
        String.join ((inspectFile .amd64 files r.verbose n).items.map Item.text) :=
      fun n hn => output_run_file files r.verbose (hbefore n hn)
    have htable := join_tableItems_of_files files (r := r) (by simp [hfiles])
    rw [Outcome.output_of_some (by rw [run_of_fault hfiles hnone hsome]),
      run_of_fault hfiles hnone hsome, hlast, List.map_congr_left hfront]
    simp only [List.map_append, String.join_append, htable, inspectTexts, join_flatMap, printed,
      items_run_text, String.append_assoc]
  · intro files' after' hsame
    rw [run_congr_of_fault hfiles hnone hsome hsame]

theorem output_run_of_faulty_file_second :
    let files : Files := fun name =>
      .ok (if name = "good.s" then "RET\n".toUTF8 else "RET\nFROB\n".toUTF8)
    let r : Request := { instructions := ["FROB"], files := ["good.s", "bad.s", "later.s"] }
    (∀ n ∈ ["good.s"], IsListing files n) ∧ ¬IsListing files "bad.s" ∧
      (run .amd64 files r).output = String.join
        ["\x1b[91mSyntax Error\x1b[0m unknown opcode \"FROB\"\n",
          "\x1b[94mINFO\x1b[0m: Resolving good.s\r\n",
          "(line 1) RET\n",
          "  \x1b[93mflags\x1b[0m: KILL_CARRY BREAK\n",
          "  \x1b[93msize\x1b[0m: -  \x1b[93mleft\x1b[0m: -  \x1b[93mright\x1b[0m: -\n",
          "  \x1b[93muse\x1b[0m:   -\n",
          "  \x1b[93mset\x1b[0m:   -\n",
          "\x1b[94mINFO\x1b[0m: Resolving bad.s\r\n",
          "line 2: \x1b[91mSyntax Error\x1b[0m unknown opcode \"FROB\"\n"] := by
  intro files r
  have hgood : ∀ n ∈ ["good.s"], IsListing files n := by
    rw [List.forall_mem_singleton]
    refine ⟨_, "RET\n", rfl, dif_pos (String.isValidUTF8 _), ?_⟩
    rw [← Listing.exists_read_eq_ok_iff]
    exact ⟨[{ opcode := .ret, line := some 1 }], by decide +kernel⟩
  have htext : String.fromUTF8? "RET\nFROB\n".toUTF8 = some "RET\nFROB\n" :=
    dif_pos (String.isValidUTF8 _)
  have hret : ∀ l ∈ ["RET".toList], Instruction.CanRead l :=
    List.forall_mem_singleton.mpr ⟨some { opcode := .ret }, by decide +kernel⟩
  have hbad : IsFaultOf files "bad.s" (.listing ⟨2, .unknownOpcode "FROB"⟩) :=
    .line rfl htext (show Text.lines "RET\nFROB\n".toList = _ ++ "FROB".toList :: [] from rfl)
      hret (by decide +kernel)
  refine ⟨hgood, hbad.not_isListing, ?_⟩
  have hfiles : r.files = ["good.s"] ++ "bad.s" :: ["later.s"] := rfl
  obtain ⟨f, notice, report, hf, htells, hnotice, -, houtput, -⟩ :=
    output_run_of_faulty_file hfiles hgood hbad.not_isListing
  rw [hf.unique hbad] at htells
  have hreport : report = "line 2: \x1b[91mSyntax Error\x1b[0m unknown opcode \"FROB\"" := by
    cases htells with
    | listing hreason =>
      cases hreason with
      | unknownOpcode => decide +kernel
  rw [houtput, hnotice ⟨_, _, rfl, htext⟩, hreport]
  decide +kernel

end Amd64Effects.Inspector
