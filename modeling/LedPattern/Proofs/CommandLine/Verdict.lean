import LedPattern.CommandLine.Run
import LedPattern.Proofs.Pattern.Recompile
/-!
One verdict on a text. The commands that compile and check, the report and the verdict each work out
for themselves whether a text is accepted: it has to compile, and to do so without warnings if one is
strict. They all come to `Accepted`, and when they do, the program is the same in every form in which
it is written.
-/
namespace LedPattern

/-- The text compiles, and without warnings if one is strict. -/
def Accepted (strict : Bool) (text : Text) : Prop :=
  ∃ c, compile text = .ok c ∧ (strict = true → c.warnings = [])

/-! ## The three ways to go -/

theorem not_accepted_of_error {text : Text} {e : CompileError} (h : compile text = .error e)
    (strict : Bool) : ¬Accepted strict text := by
  rintro ⟨c, hc, -⟩
  cases h.symm.trans hc

theorem accepted_iff_of_ok {text : Text} {c : Compiled} (h : compile text = .ok c) (strict : Bool) :
    Accepted strict text ↔ ¬(strict && !c.warnings.isEmpty) = true := by
  -- The condition is the one that each of them tests, on the warnings or on their messages.
  have hrule : (strict = true → c.warnings = []) ↔ ¬(strict && !c.warnings.isEmpty) = true := by
    cases strict <;> simp
  rw [← hrule]
  constructor
  · rintro ⟨c', hc', hstrict⟩
    obtain rfl := Except.ok.inj (h.symm.trans hc')
    exact hstrict
  · intro hstrict
    exact ⟨c, h, hstrict⟩

theorem Compiled.isEmpty_messages (c : Compiled) : c.messages.isEmpty = c.warnings.isEmpty := by
  rw [messages, List.isEmpty_map]

/-! ## Reports and verdicts -/

namespace Report

theorem ofResult_of_accepted {text : Text} {c : Compiled} {strict : Bool}
    (h : compile text = .ok c) (haccepted : Accepted strict text) :
    ofResult strict (compile text) =
      ⟨true, some (Text.hexBytes c.program.bytes), c.messages, []⟩ := by
  rw [accepted_iff_of_ok h, ← c.isEmpty_messages] at haccepted
  simp only [ofResult, h, if_neg haccepted]

theorem ofResult_of_refused {text : Text} {c : Compiled} {strict : Bool}
    (h : compile text = .ok c) (hrefused : ¬Accepted strict text) :
    ofResult strict (compile text) = ⟨false, none, c.messages, [strictMessage]⟩ := by
  rw [accepted_iff_of_ok h, ← c.isEmpty_messages, not_not] at hrefused
  simp only [ofResult, h, if_pos hrefused]

theorem ofResult_of_error {text : Text} {e : CompileError} (h : compile text = .error e)
    (strict : Bool) : ofResult strict (compile text) = ⟨false, none, [], [e.message]⟩ := by
  rw [h, ofResult]

theorem success_ofResult_iff (strict : Bool) (text : Text) :
    (ofResult strict (compile text)).success = true ↔ Accepted strict text := by
  by_cases haccepted : Accepted strict text
  · have ⟨c, h, _⟩ := haccepted
    rw [ofResult_of_accepted h haccepted]
    exact iff_of_true rfl haccepted
  · refine iff_of_false ?_ haccepted
    cases h : compile text with
    | ok c =>
      rw [← h, ofResult_of_refused h haccepted]
      exact Bool.false_ne_true
    | error e =>
      rw [← h, ofResult_of_error h]
      exact Bool.false_ne_true

end Report

namespace Verdict

theorem of_of_ok {text : Text} {c : Compiled} (h : compile text = .ok c) :
    Verdict.of text = .valid c.messages := by
  simp only [Verdict.of, validate, h, if_true]

/-- The error is the only message, so it is the last one. -/
theorem of_of_error {text : Text} {e : CompileError} (h : compile text = .error e) :
    Verdict.of text = .invalid e.message := by
  simp only [Verdict.of, validate, h, Bool.false_eq_true, if_false, List.getLast?_singleton,
    Option.getD_some]

/-- No message is lost on the way to the verdict. -/
theorem validate_eq (text : Text) :
    validate text = ((Verdict.of text).isValid, (Verdict.of text).messages) := by
  cases h : compile text with
  | ok c =>
    rw [of_of_ok h, validate, h]
    rfl
  | error e =>
    rw [of_of_error h, validate, h]
    rfl

theorem failure_eq_none_iff (strict : Bool) (text : Text) :
    (Verdict.of text).failure strict = none ↔ Accepted strict text := by
  cases h : compile text with
  | error e =>
    refine iff_of_false ?_ (not_accepted_of_error h strict)
    rw [of_of_error h, failure]
    exact Option.some_ne_none _
  | ok c =>
    rw [accepted_iff_of_ok h, ← c.isEmpty_messages, of_of_ok h]
    simp only [failure, ite_eq_right_iff, reduceCtorEq, imp_false]

end Verdict

/-! ## Commands -/

namespace CommandLine

theorem Response.exitCode_deliver (stderr : Text) (output : Option Text) (bytes : List UInt8) :
    (Response.deliver stderr output bytes).exitCode = 0 := by
  cases output <;> rfl

theorem answerCompile_json (text : Text) (output : Option Text) (strict colored : Bool) :
    answerCompile text .json output strict colored =
      { Response.deliver [] output
          (Text.toUtf8 ((Report.ofResult strict (compile text)).text ++ ['\n'])) with
        exitCode := if (Report.ofResult strict (compile text)).success then 0 else 1 } :=
  rfl

theorem answerCompile_of_accepted {text : Text} {c : Compiled} {strict : Bool} {format : Format}
    (h : compile text = .ok c) (haccepted : Accepted strict text) (hformat : format ≠ .json)
    (output : Option Text) (colored : Bool) :
    answerCompile text format output strict colored =
      .deliver (warningLines colored c.messages) output (format.render c.program.bytes) := by
  rw [accepted_iff_of_ok h] at haccepted
  simp only [answerCompile, if_neg hformat, h, if_neg haccepted]

theorem exitCode_answerCompile_iff (text : Text) (format : Format) (output : Option Text)
    (strict colored : Bool) :
    (answerCompile text format output strict colored).exitCode = 0 ↔ Accepted strict text := by
  by_cases hformat : format = .json
  · subst hformat
    rw [answerCompile_json, ← Report.success_ofResult_iff]
    show (if (Report.ofResult strict (compile text)).success then 0 else 1) = 0 ↔ _
    cases (Report.ofResult strict (compile text)).success <;> decide
  by_cases haccepted : Accepted strict text
  · have ⟨c, h, _⟩ := haccepted
    rw [answerCompile_of_accepted h haccepted hformat, Response.exitCode_deliver]
    exact iff_of_true rfl haccepted
  · refine iff_of_false ?_ haccepted
    cases h : compile text with
    | error e =>
      simp only [answerCompile, if_neg hformat, h]
      exact Nat.one_ne_zero
    | ok c =>
      rw [accepted_iff_of_ok h, not_not] at haccepted
      simp only [answerCompile, if_neg hformat, h, if_pos haccepted]
      exact Nat.one_ne_zero

theorem exitCode_answerCheck_iff (text : Text) (strict colored : Bool) :
    (answerCheck text strict colored).exitCode = 0 ↔ Accepted strict text := by
  rw [← Verdict.failure_eq_none_iff]
  cases hfailure : (Verdict.of text).failure strict with
  | none =>
    simp only [answerCheck, hfailure]
  | some message =>
    simp only [answerCheck, hfailure]
    exact iff_of_false Nat.one_ne_zero (Option.some_ne_none _)

/-- The request is for a verdict on a text, which is what its input comes to. -/
inductive Judges (host : Host) (strict : Bool) (text : Text) : Request → Prop where
  | compile {input : Input} (hload : input.load host = .ok text) (format : Format)
      (output : Option Text) (color : ColorChoice) :
      Judges host strict text (.compile input format output strict color)
  | check {input : Input} (hload : input.load host = .ok text) (color : ColorChoice) :
      Judges host strict text (.check input strict color)

theorem withText_of_load {host : Host} {input : Input} {text : Text}
    (h : input.load host = .ok text) (answer : Text → Response) :
    withText host input answer = answer text := by
  rw [withText, h]

theorem Judges.exitCode_answer_iff {host : Host} {strict : Bool} {text : Text} {request : Request}
    (h : Judges host strict text request) :
    (answer host request).exitCode = 0 ↔ Accepted strict text := by
  cases h with
  | compile hload format output color =>
    rw [answer, withText_of_load hload]
    exact exitCode_answerCompile_iff text format output strict _
  | check hload color =>
    rw [answer, withText_of_load hload]
    exact exitCode_answerCheck_iff text strict _

/-- What a response would have written can be written. -/
def Saves (tree : FileTree) (response : Response) : Prop :=
  ∀ path bytes, response.save = some (path, bytes) → ∃ after, tree.write path bytes = .ok after

theorem run_fst_of_saves {tree : FileTree} {stdin : List UInt8} {arguments : List Text}
    (h : Saves tree (respond { stdin, read := tree.read } arguments)) :
    (run tree stdin arguments).1 = respond { stdin, read := tree.read } arguments := by
  rw [run]
  cases hsave : (respond { stdin, read := tree.read } arguments).save with
  | none => rfl
  | some saved =>
    obtain ⟨path, bytes⟩ := saved
    obtain ⟨after, hwrite⟩ := h path bytes hsave
    simp only [hwrite]
    rfl

end CommandLine

/-! ## Programs in digits -/

namespace Text

/-- Two lower-case digits for each byte, and nothing else. -/
structure DigitsOf (digits : Text) (bytes : List UInt8) : Prop where
  lower : ∀ d ∈ digits, d ∈ hexDigits
  length : digits.length = 2 * bytes.length
  read : readHexBytes? digits = some bytes

theorem hexDigit_mem {n : Nat} (h : n < 16) : hexDigit n ∈ hexDigits := by
  have hall : ∀ n ∈ List.range 16, hexDigit n ∈ hexDigits := by decide
  exact hall n (List.mem_range.mpr h)

theorem digitsOf_hexBytes (bytes : List UInt8) : DigitsOf (hexBytes bytes) bytes where
  lower := by
    intro d hd
    obtain ⟨b, -, hbyte⟩ := List.mem_flatMap.mp hd
    have hb := b.toNat_lt
    rcases List.mem_pair.mp hbyte with rfl | rfl
    · exact hexDigit_mem (by omega)
    · exact hexDigit_mem (by omega)
  length := by
    induction bytes with
    | nil => rfl
    | cons b rest ih =>
      have hcons : hexBytes (b :: rest) = hexByte b ++ hexBytes rest := rfl
      have hpair : (hexByte b).length = 2 := rfl
      rw [hcons, List.length_append, hpair, ih, List.length_cons]
      omega
  read := readHexBytes?_hexBytes bytes

end Text

theorem one_verdict (strict : Bool) (text : Text) :
    (∀ (host : CommandLine.Host) (request : CommandLine.Request),
      CommandLine.Judges host strict text request →
        ((CommandLine.answer host request).exitCode = 0 ↔ Accepted strict text)) ∧
    (∀ (tree : CommandLine.FileTree) (stdin : List UInt8) (arguments : List Text)
      (request : CommandLine.Request),
      CommandLine.parse arguments = .ok request →
      CommandLine.Judges { stdin, read := tree.read } strict text request →
      CommandLine.Saves tree (CommandLine.answer { stdin, read := tree.read } request) →
        ((CommandLine.run tree stdin arguments).1.exitCode = 0 ↔ Accepted strict text)) ∧
    (∀ (host : CommandLine.Host) (input : CommandLine.Input) (output : Option Text)
      (color : CommandLine.ColorChoice), input.load host = .ok text →
        CommandLine.answer host (.compile input .json output strict color) =
          { CommandLine.Response.deliver [] output
              (Text.toUtf8 ((Report.ofResult strict (compile text)).text ++ ['\n'])) with
            exitCode := if (Report.ofResult strict (compile text)).success then 0 else 1 }) ∧
    ((Report.ofResult strict (compile text)).success = true ↔ Accepted strict text) ∧
    ((Verdict.of text).failure strict = none ↔ Accepted strict text) ∧
    (validate text = ((Verdict.of text).isValid, (Verdict.of text).messages)) ∧
    (∀ c, compile text = .ok c → Accepted strict text →
      ∃ digits, Text.DigitsOf digits c.program.bytes ∧
        (Report.ofResult strict (compile text)).program = some digits ∧
        ∀ (host : CommandLine.Host) (input : CommandLine.Input) (output : Option Text)
          (color : CommandLine.ColorChoice), input.load host = .ok text →
            ∃ stderr,
              CommandLine.answer host (.compile input .bin output strict color) =
                .deliver stderr output c.program.bytes ∧
              CommandLine.answer host (.compile input .hex output strict color) =
                .deliver stderr output (Text.toUtf8 (digits ++ ['\n']))) ∧
    (¬Accepted strict text →
      (Report.ofResult strict (compile text)).program = none ∧
      (Report.ofResult strict (compile text)).errors.length = 1 ∧
      (∀ c, compile text = .ok c →
        (Report.ofResult strict (compile text)).warnings = c.warnings.map Warning.message) ∧
      (∀ e, compile text = .error e →
        (Report.ofResult strict (compile text)).warnings = [])) := by
  refine ⟨fun _ _ hjudges => hjudges.exitCode_answer_iff, ?_, ?_,
    Report.success_ofResult_iff strict text, Verdict.failure_eq_none_iff strict text,
    Verdict.validate_eq text, ?_, ?_⟩
  · intro tree stdin arguments request hparse hjudges hsaves
    have hrespond : CommandLine.respond { stdin, read := tree.read } arguments =
        CommandLine.answer { stdin, read := tree.read } request := by
      rw [CommandLine.respond, hparse]
    rw [← hrespond] at hsaves
    rw [CommandLine.run_fst_of_saves hsaves, hrespond]
    exact hjudges.exitCode_answer_iff
  · intro host input output color hload
    rw [CommandLine.answer, CommandLine.withText_of_load hload, CommandLine.answerCompile_json]
  · intro c hcompile haccepted
    refine ⟨Text.hexBytes c.program.bytes, Text.digitsOf_hexBytes _, ?_, ?_⟩
    · rw [Report.ofResult_of_accepted hcompile haccepted]
    · intro host input output color hload
      refine ⟨CommandLine.warningLines (color.isColored host.terminal) c.messages, ?_, ?_⟩
      · rw [CommandLine.answer, CommandLine.withText_of_load hload]
        exact CommandLine.answerCompile_of_accepted hcompile haccepted (by decide) output _
      · rw [CommandLine.answer, CommandLine.withText_of_load hload]
        exact CommandLine.answerCompile_of_accepted hcompile haccepted (by decide) output _
  · intro hrefused
    cases hcompile : compile text with
    | error e =>
      rw [← hcompile, Report.ofResult_of_error hcompile]
      refine ⟨rfl, rfl, fun c hc => ?_, fun _ _ => rfl⟩
      cases hcompile.symm.trans hc
    | ok c =>
      rw [← hcompile, Report.ofResult_of_refused hcompile hrefused]
      refine ⟨rfl, rfl, fun c' hc' => ?_, fun e he => ?_⟩
      · obtain rfl := Except.ok.inj (hcompile.symm.trans hc')
        rfl
      · cases hcompile.symm.trans he

/-- A text with a warning, from the standard input to a file. -/
def warpedArguments : List Text :=
  ["compile".toList, "-".toList, "--format=bin".toList, "-o".toList, "fire.bin".toList]

theorem one_verdict_warped :
    Accepted false warped ∧ ¬Accepted true warped ∧
    (CommandLine.run (.ofWorkingFolder []) (Text.toUtf8 warped) warpedArguments).1.exitCode = 0 ∧
    (CommandLine.answer bareHost (.check { text := some warped } false .never)).exitCode = 0 ∧
    (∀ format, (CommandLine.answer bareHost
      (.compile { text := some warped } format none true .auto)).exitCode ≠ 0) ∧
    (Report.ofResult true (compile warped)).errors.length = 1 ∧
    (Report.ofResult true (compile warped)).warnings = warpedWarnings.map Warning.message ∧
    ∃ c digits, compile warped = .ok c ∧
      (Report.ofResult false (compile warped)).program = some digits ∧
      Text.readHexBytes? digits = some c.program.bytes := by
  have hread : (Source.detect warped).read = .ok (warpedPattern, warpedWarnings) := by decide
  have hcompile := compile_of_read_of_ok hread
    (Pattern.encode_eq_ok_iff.mpr ⟨.fire, by decide, rfl, rfl⟩)
  have haccepted : Accepted false warped := ⟨_, hcompile, nofun⟩
  have hrefused : ¬Accepted true warped := by
    rw [accepted_iff_of_ok hcompile, not_not]
    decide
  obtain ⟨hanswer, hrun, -, -, -, -, hwritten, -⟩ := one_verdict false warped
  obtain ⟨hanswerStrict, -, -, -, -, -, -, hfails⟩ := one_verdict true warped
  obtain ⟨digits, hdigits, hprogram, hforms⟩ := hwritten _ hcompile haccepted
  obtain ⟨-, herrors, hwarnings, -⟩ := hfails hrefused
  refine ⟨haccepted, hrefused, ?_, ?_, ?_, herrors, hwarnings _ hcompile, _, digits, hcompile,
    hprogram, hdigits.read⟩
  · have hload : CommandLine.Input.load
        { stdin := Text.toUtf8 warped, read := (CommandLine.FileTree.ofWorkingFolder []).read }
        { path := some ['-'] } = .ok warped := CommandLine.load_stdin (by decide) _
    refine (hrun _ _ _ _ rfl (.compile hload .bin (some "fire.bin".toList) .auto) ?_).mpr haccepted
    obtain ⟨stderr, hbin, -⟩ := hforms _ _ (some "fire.bin".toList) .auto hload
    intro path bytes hsave
    rw [hbin] at hsave
    obtain ⟨rfl, rfl⟩ := Prod.mk.inj (Option.some.inj hsave)
    exact ⟨_, rfl⟩
  · exact (hanswer bareHost _ (.check rfl .never)).mpr haccepted
  · intro format
    rw [ne_eq, hanswerStrict bareHost _ (.compile rfl format none .auto)]
    exact hrefused

end LedPattern
