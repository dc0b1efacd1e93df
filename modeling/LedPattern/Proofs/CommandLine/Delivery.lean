import LedPattern.Proofs.CommandLine.FileTree
import LedPattern.Proofs.CommandLine.Verdict
import LedPattern.Proofs.Json.Unambiguous
/-!
What compiling leaves behind. A run that fails for want of a text, of a program or of a program
without warnings touches no file and prints nothing but its errors; any other run writes its bytes
to the file that was asked for, or prints them if none was, and does not do both. A report is
delivered in the same way, whatever it says, and what it says can be read from what is delivered.
-/
namespace LedPattern

/-! ## The text of a report -/

namespace Report

/-- What a report says; without a program to use there is no member for it. -/
def members (r : Report) : List (Text × Json.Tree) :=
  [("success".toList, .boolean r.success)] ++
    (r.program.map fun digits => ("bytecode".toList, Json.Tree.string digits)).toList ++
    [("warnings".toList, .list (r.warnings.map .string)),
      ("errors".toList, .list (r.errors.map .string))]

theorem tree_toJson (r : Report) : r.toJson.tree = .object r.members := by
  obtain ⟨success, program, warnings, errors⟩ := r
  cases program <;>
    simp only [toJson, members, Option.map_none, Option.map_some, Option.toList_none,
      Option.toList_some, List.cons_append, List.nil_append, List.append_nil, Json.Value.tree,
      Json.Value.memberTrees, Json.Value.trees_map_string]

theorem text_spelled (r : Report) {tail : Text} (htail : Json.Blank tail) :
    Json.SpelledObject r.members (r.text ++ tail) :=
  Json.Value.spelledObject_text Json.Layout.loose_pretty r.tree_toJson htail

/-- Whoever reads the text of a report finds its members there, and nothing else. -/
theorem spelled_text_iff (r : Report) {tail : Text} (htail : Json.Blank tail)
    {members : List (Text × Json.Tree)} :
    Json.SpelledObject members (r.text ++ tail) ↔ members = r.members := by
  constructor
  · intro h
    exact h.unique (r.text_spelled htail)
  · rintro rfl
    exact r.text_spelled htail

end Report

namespace CommandLine

/-! ## Loading -/

/-- The text of an input, blank or not: what was given as text comes before any path. -/
def Input.given (host : Host) (input : Input) : Except LoadError Text :=
  match input.text with
  | some text => .ok text
  | none => input.pathText host

/-- The input comes to a text that is not blank. -/
def Loads (host : Host) (input : Input) (text : Text) : Prop :=
  input.given host = .ok text ∧ ∃ c ∈ text, Text.isBlank c = false

theorem load_eq (host : Host) (input : Input) :
    input.load host = (input.given host).bind fun text =>
      if (Text.trim text).isEmpty then .error .empty else .ok text := by
  rw [Input.load, Input.given]
  cases input.text <;> rfl

theorem load_of_unread {host : Host} {input : Input} {e : LoadError}
    (h : input.given host = .error e) : input.load host = .error e := by
  rw [load_eq, h]
  rfl

theorem load_of_blank {host : Host} {input : Input} {text : Text}
    (h : input.given host = .ok text) (hblank : ∀ c ∈ text, Text.isBlank c = true) :
    input.load host = .error .empty := by
  have hempty : (Text.trim text).isEmpty = true :=
    List.isEmpty_iff.mpr (Text.trim_eq_nil_iff.mpr hblank)
  rw [load_eq, h]
  exact if_pos hempty

theorem Loads.load {host : Host} {input : Input} {text : Text} (h : Loads host input text) :
    input.load host = .ok text := by
  obtain ⟨hgiven, c, hc, hinked⟩ := h
  have hfilled : ¬ (Text.trim text).isEmpty = true := by
    rw [List.isEmpty_iff, Text.trim_eq_nil_iff]
    intro hblank
    rw [hblank c hc] at hinked
    cases hinked
  rw [load_eq, hgiven]
  exact if_neg hfilled

theorem loads_or_error (host : Host) (input : Input) :
    (∃ text, Loads host input text) ∨ ∃ e, input.load host = .error e := by
  cases hgiven : input.given host with
  | error e => exact .inr ⟨e, load_of_unread hgiven⟩
  | ok text =>
    by_cases hblank : ∀ c ∈ text, Text.isBlank c = true
    · exact .inr ⟨.empty, load_of_blank hgiven hblank⟩
    · refine .inl ⟨text, hgiven, ?_⟩
      simpa using hblank

/-- Why a program cannot be made of an input. -/
inductive Fails (host : Host) (input : Input) (strict : Bool) : Prop where
  | unread {e : LoadError} (h : input.given host = .error e)
  | blank {text : Text} (h : input.given host = .ok text)
      (hblank : ∀ c ∈ text, Text.isBlank c = true)
  | invalid {text : Text} {e : CompileError} (h : Loads host input text)
      (hcompile : compile text = .error e)
  | warned {text : Text} {c : Compiled} (h : Loads host input text)
      (hcompile : compile text = .ok c) (hstrict : strict = true) (hwarnings : c.warnings ≠ [])

theorem fails_or_accepted (host : Host) (input : Input) (strict : Bool) :
    Fails host input strict ∨ ∃ text c, Loads host input text ∧ compile text = .ok c ∧
      (strict = true → c.warnings = []) := by
  cases hgiven : input.given host with
  | error e => exact .inl (.unread hgiven)
  | ok text =>
    by_cases hblank : ∀ c ∈ text, Text.isBlank c = true
    · exact .inl (.blank hgiven hblank)
    have hloads : Loads host input text := ⟨hgiven, by simpa using hblank⟩
    cases hcompile : compile text with
    | error e => exact .inl (.invalid hloads hcompile)
    | ok c =>
      by_cases hstrict : strict = true → c.warnings = []
      · exact .inr ⟨text, c, hloads, hcompile, hstrict⟩
      · obtain ⟨hon, hwarnings⟩ := Classical.not_imp.mp hstrict
        exact .inl (.warned hloads hcompile hon hwarnings)

/-! ## Carrying out a response -/

/-- A response carried out among files: what is left to say of it, and the files afterwards. -/
def Response.carryOut (tree : FileTree) (response : Response) : Response × FileTree :=
  match response.save with
  | none => (response, tree)
  | some (path, bytes) =>
    match tree.write path bytes with
    | .ok after => (response.afterSaving (.ok ()), after)
    | .error e => (response.afterSaving (.error e), tree)

theorem run_eq (tree : FileTree) (stdin : List UInt8) (arguments : List Text) :
    run tree stdin arguments = (respond { stdin, read := tree.read } arguments).carryOut tree :=
  rfl

/-- The run failed, printed nothing and left the files as they were. -/
structure LeavesAlone (tree : FileTree) (outcome : Response × FileTree) : Prop where
  exitCode : outcome.1.exitCode = 1
  stdout : outcome.1.stdout = []
  files : outcome.2 = tree

/-- The bytes went to the file that was asked for, or else to the standard output. -/
def Delivers (tree : FileTree) (output : Option Text) (bytes : List UInt8)
    (outcome : Response × FileTree) : Prop :=
  match output with
  | none => outcome.1.stdout = bytes ∧ outcome.2 = tree
  | some path => outcome.1.stdout = [] ∧ tree.Saved path bytes outcome.2

/-- Writing to the path succeeds, whatever is written. -/
def FileTree.Writable (tree : FileTree) (path : Text) : Prop :=
  ∀ bytes, ∃ after, tree.write path bytes = .ok after

theorem leavesAlone_failAfter (tree : FileTree) (stderr message : Text) :
    LeavesAlone tree ((Response.failAfter stderr message).carryOut tree) :=
  ⟨rfl, rfl, rfl⟩

/-- What is to be delivered is delivered, with the exit code that goes with it, or else its file
cannot be written. -/
theorem carryOut_deliver (tree : FileTree) (stderr : Text) (output : Option Text)
    (bytes : List UInt8) (code : Nat) {outcome : Response × FileTree}
    (h : outcome =
      { Response.deliver stderr output bytes with exitCode := code }.carryOut tree) :
    (outcome.1.exitCode = code ∧ Delivers tree output bytes outcome) ∨
      (LeavesAlone tree outcome ∧ ∃ path ∈ output, ¬ tree.Writable path) := by
  cases output with
  | none =>
    subst h
    exact .inl ⟨rfl, rfl, rfl⟩
  | some path =>
    change outcome = match tree.write path bytes with
      | .ok after => _
      | .error e => _ at h
    cases hwrite : tree.write path bytes with
    | ok after =>
      rw [hwrite] at h
      subst h
      exact .inl ⟨rfl, rfl, FileTree.saved_of_write hwrite⟩
    | error e =>
      rw [hwrite] at h
      subst h
      refine .inr ⟨⟨rfl, rfl, rfl⟩, path, rfl, fun hwritable => ?_⟩
      obtain ⟨after, hafter⟩ := hwritable bytes
      cases hwrite.symm.trans hafter

/-! ## Compiling -/

section Compile

variable {host : Host} {input : Input} {strict : Bool}

theorem answer_compile_of_error {e : LoadError} (h : input.load host = .error e)
    (format : Format) (output : Option Text) (color : ColorChoice) :
    answer host (.compile input format output strict color) = .fail e.message := by
  simp only [answer, withText, h]

theorem answer_compile_of_fails (h : Fails host input strict) {format : Format}
    (hformat : format ≠ .json) (output : Option Text) (color : ColorChoice) :
    ∃ stderr message,
      answer host (.compile input format output strict color) = .failAfter stderr message := by
  cases h with
  | unread hgiven =>
    rw [answer_compile_of_error (load_of_unread hgiven)]
    exact ⟨_, _, rfl⟩
  | blank hgiven hblank =>
    rw [answer_compile_of_error (load_of_blank hgiven hblank)]
    exact ⟨_, _, rfl⟩
  | invalid hloads hcompile =>
    rw [answer, withText_of_load hloads.load]
    simp only [answerCompile, if_neg hformat, hcompile]
    exact ⟨_, _, rfl⟩
  | warned hloads hcompile hstrict hwarnings =>
    rename_i text c
    have hrefused : (strict && !c.warnings.isEmpty) = true := by
      simpa [hstrict] using hwarnings
    rw [answer, withText_of_load hloads.load]
    simp only [answerCompile, if_neg hformat, hcompile, if_pos hrefused]
    exact ⟨_, _, rfl⟩

theorem answer_compile_of_accepted {text : Text} {c : Compiled} (hloads : Loads host input text)
    (hcompile : compile text = .ok c) (hstrict : strict = true → c.warnings = [])
    {format : Format} (hformat : format ≠ .json) (output : Option Text) (color : ColorChoice) :
    ∃ stderr, answer host (.compile input format output strict color) =
      { Response.deliver stderr output (format.render c.program.bytes) with exitCode := 0 } := by
  rw [answer, withText_of_load hloads.load,
    answerCompile_of_accepted hcompile ⟨c, hcompile, hstrict⟩ hformat]
  refine ⟨warningLines (color.isColored host.terminal) c.messages, ?_⟩
  cases output <;> rfl

variable {tree : FileTree} {format : Format} {output : Option Text} {color : ColorChoice}
  {outcome : Response × FileTree}
  (houtcome : outcome = (answer host (.compile input format output strict color)).carryOut tree)
include houtcome

theorem leavesAlone_of_fails (h : Fails host input strict) (hformat : format ≠ .json) :
    LeavesAlone tree outcome := by
  obtain ⟨stderr, message, hanswer⟩ := answer_compile_of_fails h hformat output color
  rw [houtcome, hanswer]
  exact leavesAlone_failAfter tree stderr message

theorem leavesAlone_of_error {e : LoadError} (h : input.load host = .error e) :
    LeavesAlone tree outcome := by
  rw [houtcome, answer_compile_of_error h]
  exact leavesAlone_failAfter tree [] e.message

theorem delivers_of_accepted {text : Text} {c : Compiled} (hloads : Loads host input text)
    (hcompile : compile text = .ok c) (hstrict : strict = true → c.warnings = [])
    (hformat : format ≠ .json) :
    (outcome.1.exitCode = 0 ∧ Delivers tree output (format.render c.program.bytes) outcome) ∨
      (LeavesAlone tree outcome ∧ ∃ path ∈ output, ¬ tree.Writable path) := by
  obtain ⟨stderr, hanswer⟩ :=
    answer_compile_of_accepted hloads hcompile hstrict hformat output color
  rw [hanswer] at houtcome
  exact carryOut_deliver tree stderr output _ 0 houtcome

/-- A report is delivered whether or not it is one of success. -/
theorem delivers_report {text : Text} (hloads : Loads host input text) (hformat : format = .json) :
    (outcome.1.exitCode = (if (Report.ofResult strict (compile text)).success then 0 else 1) ∧
        Delivers tree output
          (Text.toUtf8 ((Report.ofResult strict (compile text)).text ++ ['\n'])) outcome) ∨
      (LeavesAlone tree outcome ∧ ∃ path ∈ output, ¬ tree.Writable path) := by
  subst hformat
  rw [answer, withText_of_load hloads.load, answerCompile_json] at houtcome
  exact carryOut_deliver tree [] output _ _ houtcome

end Compile

end CommandLine

theorem compile_delivers (host : CommandLine.Host) (tree : CommandLine.FileTree)
    (input : CommandLine.Input) (format : CommandLine.Format) (output : Option Text)
    (strict : Bool) (color : CommandLine.ColorChoice)
    (outcome : CommandLine.Response × CommandLine.FileTree)
    (houtcome : outcome =
      (CommandLine.answer host (.compile input format output strict color)).carryOut tree) :
    (format ≠ .json →
      (CommandLine.Fails host input strict → CommandLine.LeavesAlone tree outcome) ∧
      (∀ text c, CommandLine.Loads host input text → compile text = .ok c →
        (strict = true → c.warnings = []) → (∀ path ∈ output, tree.Writable path) →
          outcome.1.exitCode = 0) ∧
      (outcome.1.exitCode = 0 →
        ∃ text c, CommandLine.Loads host input text ∧ compile text = .ok c ∧
          (strict = true → c.warnings = []) ∧
          CommandLine.Delivers tree output (format.render c.program.bytes) outcome)) ∧
    (format = .json →
      (∀ text, CommandLine.Loads host input text → (∀ path ∈ output, tree.Writable path) →
        CommandLine.Delivers tree output
          (Text.toUtf8 ((Report.ofResult strict (compile text)).text ++ ['\n'])) outcome ∧
        (outcome.1.exitCode = 0 ↔ (Report.ofResult strict (compile text)).success = true) ∧
        ∀ members, Json.SpelledObject members
            ((Report.ofResult strict (compile text)).text ++ ['\n']) ↔
          members = (Report.ofResult strict (compile text)).members) ∧
      ((¬ ∃ text, CommandLine.Loads host input text) → CommandLine.LeavesAlone tree outcome)) ∧
    (∀ stdin arguments, host = { stdin, read := tree.read } →
      CommandLine.parse arguments = .ok (.compile input format output strict color) →
        CommandLine.run tree stdin arguments = outcome) := by
  refine ⟨fun hformat => ⟨?_, ?_, ?_⟩, fun hformat => ⟨?_, ?_⟩, ?_⟩
  · intro hfails
    exact CommandLine.leavesAlone_of_fails houtcome hfails hformat
  · intro text c hloads hcompile hstrict hwritable
    rcases CommandLine.delivers_of_accepted houtcome hloads hcompile hstrict hformat with
      ⟨hcode, -⟩ | ⟨-, path, hpath, hnot⟩
    · exact hcode
    · exact absurd (hwritable path hpath) hnot
  · intro hcode
    have hnot : ¬ CommandLine.LeavesAlone tree outcome := by
      intro halone
      rw [halone.exitCode] at hcode
      cases hcode
    rcases CommandLine.fails_or_accepted host input strict with
      hfails | ⟨text, c, hloads, hcompile, hstrict⟩
    · exact absurd (CommandLine.leavesAlone_of_fails houtcome hfails hformat) hnot
    · rcases CommandLine.delivers_of_accepted houtcome hloads hcompile hstrict hformat with
        ⟨-, hdelivers⟩ | ⟨halone, -⟩
      · exact ⟨text, c, hloads, hcompile, hstrict, hdelivers⟩
      · exact absurd halone hnot
  · intro text hloads hwritable
    rcases CommandLine.delivers_report houtcome hloads hformat with
      ⟨hcode, hdelivers⟩ | ⟨-, path, hpath, hnot⟩
    · refine ⟨hdelivers, ?_, ?_⟩
      · rw [hcode]
        cases (Report.ofResult strict (compile text)).success <;> decide
      · intro members
        exact Report.spelled_text_iff _ (Json.blank_singleton (by decide))
    · exact absurd (hwritable path hpath) hnot
  · intro hnone
    obtain ⟨e, hload⟩ := (CommandLine.loads_or_error host input).resolve_left hnone
    exact CommandLine.leavesAlone_of_error houtcome hload
  · intro stdin arguments hhost hparse
    rw [houtcome, hhost, CommandLine.run_eq, CommandLine.respond, hparse]

/-- A folder in which a file stands already where the program is to go. -/
def shelf : CommandLine.FileTree := .ofWorkingFolder [(["fire.bin".toList], .file [1, 2, 3])]

/-- The report on a text with a warning: a program in digits, and a message with quotes in it. -/
def warpedReport : Text :=
  "\x7b\n  \"success\": true,\n".toList ++
    "  \"bytecode\": ".toList ++
    "\"4c434c04001a010007c88037780000000000000000000000ffffff00000001ffffff\",\n".toList ++
    "  \"warnings\": [\n    \"unknown speed value \\\"warp\\\", using 128\"\n  ],\n".toList ++
    "  \"errors\": []\n\x7d\n".toList

theorem compile_delivers_warped :
    CommandLine.LeavesAlone shelf
      (CommandLine.run shelf (Text.toUtf8 warped) (warpedArguments ++ ["--strict".toList])) ∧
    shelf.read "fire.bin".toList = .ok [1, 2, 3] ∧
    ∃ c, compile warped = .ok c ∧
      (CommandLine.run shelf (Text.toUtf8 warped) warpedArguments).1.exitCode = 0 ∧
      (CommandLine.run shelf (Text.toUtf8 warped) warpedArguments).1.stdout = [] ∧
      (CommandLine.run shelf (Text.toUtf8 warped) warpedArguments).2.read "fire.bin".toList =
        .ok c.program.bytes ∧
      (CommandLine.run shelf (Text.toUtf8 warped)
        ["compile".toList, "-".toList, "--format=json".toList]).1.exitCode = 0 ∧
      (CommandLine.run shelf (Text.toUtf8 warped)
        ["compile".toList, "-".toList, "--format=json".toList]).1.stdout =
          Text.toUtf8 warpedReport := by
  have hread : (Source.detect warped).read = .ok (warpedPattern, warpedWarnings) := by decide
  have hcompile := compile_of_read_of_ok hread
    (Pattern.encode_eq_ok_iff.mpr ⟨.fire, by decide, rfl, rfl⟩)
  have hloads : CommandLine.Loads { stdin := Text.toUtf8 warped, read := shelf.read }
      { path := some ['-'] } warped := by
    refine ⟨?_, 'e', by decide, by decide⟩
    simp only [CommandLine.Input.given, CommandLine.Input.pathText, CommandLine.Input.bytes,
      if_true, bind, Except.bind, Text.ofUtf8?_toUtf8]
  obtain ⟨hbin, -, hrun⟩ := compile_delivers _ shelf { path := some ['-'] } .bin
    (some "fire.bin".toList) false .auto _ rfl
  obtain ⟨hbinStrict, -, hrunStrict⟩ := compile_delivers _ shelf { path := some ['-'] } .bin
    (some "fire.bin".toList) true .auto _ rfl
  obtain ⟨-, hjson, hrunJson⟩ := compile_delivers _ shelf { path := some ['-'] } .json none false
    .auto _ rfl
  obtain ⟨-, hsucceeds, hdelivered⟩ := hbin (by decide)
  have hwritable : shelf.Writable "fire.bin".toList := fun bytes => ⟨_, rfl⟩
  have hlenient (h : false = true) : warpedWarnings ++ warpedPattern.encodeWarnings = [] := by
    cases h
  have hcode := hsucceeds warped _ hloads hcompile hlenient (by simpa using hwritable)
  refine ⟨?_, rfl, _, hcompile, ?_⟩
  · rw [hrunStrict _ _ rfl rfl]
    exact (hbinStrict (by decide)).1 (.warned hloads hcompile rfl (by decide))
  · rw [hrun _ _ rfl rfl, hrunJson _ _ rfl rfl]
    obtain ⟨hprinted, hreported, -⟩ := (hjson rfl).1 warped hloads (by simp)
    have hreport : (Report.ofResult false (compile warped)).text ++ ['\n'] = warpedReport := by
      rw [hcompile]
      decide +kernel
    have hsuccess := (Report.success_ofResult_iff false warped).mpr ⟨_, hcompile, hlenient⟩
    obtain ⟨text, c, htext, hc, -, hstdout, ⟨place, hplace, htarget, -⟩, -⟩ := hdelivered hcode
    obtain rfl : text = warped := Except.ok.inj (htext.1.symm.trans hloads.1)
    obtain rfl := Except.ok.inj (hc.symm.trans hcompile)
    obtain rfl := Except.ok.inj hplace
    rw [if_neg (by decide)] at htarget
    exact ⟨hcode, hstdout, htarget.2, hreported.mpr hsuccess,
      hprinted.1.trans (congrArg Text.toUtf8 hreport)⟩

end LedPattern
