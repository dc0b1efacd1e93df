import LedPattern.Proofs.CommandLine.Verdict
import LedPattern.Proofs.Intent.LastWriter
import LedPattern.Proofs.Pattern.ReadBack
import LedPattern.Proofs.Pattern.Warnings
import LedPattern.Proofs.Program.Listing
import LedPattern.Proofs.Text.Quoted
/-!
Warnings keep to their lines. All that a message takes over from the text is quoted, and the rest
of it comes from this library: the keys of the word families, numerals and colours. So every
warning is one line of what is printed, and nothing that a text says can look like a line of its
own or reach the terminal as a command.
-/
namespace LedPattern

/-! ## Messages -/

theorem Rgb.inert_text (c : Rgb) : Text.Inert c.text := by
  apply Text.inert_of_printable
  intro d hd
  have hmark := (Program.word_text c).marks d hd
  simp only [Text.isMark, Bool.and_eq_true, decide_eq_true_eq] at hmark
  omega

theorem ColorError.inert_message (e : ColorError) : Text.Inert e.message := by
  cases e with
  | badLength n => exact .append (.append (by decide) (Text.inert_ofNat n)) (by decide)
  | badDigit t => exact .append (by decide) (Text.inert_quote t)

/-- A key stands in the message as it is, so it has to be harmless by itself. -/
theorem Warning.inert_message {w : Warning}
    (hkey : ∀ key value v, w = .unknownWord key value v → Text.Inert key) :
    Text.Inert w.message := by
  cases w with
  | unknownWord key value v =>
    have hkey : Text.Inert ("unknown ".toList ++ key ++ " value ".toList) :=
      .append (.append (by decide) (hkey key value v rfl)) (by decide)
    exact .append (.append (hkey.append (Text.inert_quote value)) (by decide))
      (Text.inert_ofInt v.toInt)
  | unknownScheme name =>
    exact .append (.append (by decide) (Text.inert_quote name)) (by decide)
  | invalidColor color error replacement =>
    have hcolor : Text.Inert ("color ".toList ++ Text.quote color ++ " ignored (".toList) :=
      .append (.append (by decide) (Text.inert_quote color)) (by decide)
    exact .append (.append (hcolor.append error.inert_message) (by decide)) replacement.inert_text
  | paletteTruncated given kept =>
    exact .append (.append (.append (by decide) (Text.inert_ofNat given)) (by decide))
      (Text.inert_ofNat kept)

/-! ## The keys that warnings name -/

/-- The warning is not about a key, or about one of those that are read through a word family. -/
def Warning.Keyed (w : Warning) : Prop :=
  ∀ key value v, w = .unknownWord key value v → ∃ row ∈ Intent.families, row.2.1 = key

theorem Warning.Keyed.inert_message {w : Warning} (h : w.Keyed) : Text.Inert w.message := by
  have hall : ∀ row ∈ Intent.families, Text.Inert row.2.1 := by decide
  apply Warning.inert_message
  intro key value v hw
  obtain ⟨row, hrow, rfl⟩ := h key value v hw
  exact hall row hrow

theorem Intent.keyed_of_entryWarning {s : Section} {key value : Text} {w : Warning}
    (h : entryWarning s key value = some w) : w.Keyed := by
  intro key' value' v hw
  subst hw
  rw [entryWarning] at h
  split at h
  next home word family hfind =>
    -- The key in the warning is the one that was found in the table.
    have hhere : home = s ∧ word = key := by simpa using List.find?_some hfind
    split at h
    next =>
      cases h
      exact ⟨_, List.mem_of_find?_eq_some hfind, hhere.2⟩
    next => cases h
    next => cases h
  next =>
    split at h
    next => cases h
    next => cases h

theorem Intent.keyed_of_mem_warnings {text : Text} {w : Warning} (h : w ∈ warnings text) :
    w.Keyed := by
  obtain ⟨m, hm, hw⟩ := List.mem_flatMap.mp h
  obtain ⟨⟨s, key, value⟩, -, rfl⟩ := List.mem_map.mp hm
  rw [(follows_meaning s key value).warnings, Option.mem_toList] at hw
  exact keyed_of_entryWarning hw

theorem Color.keyed_of_rejection? {replacement : Rgb} {token : Text} {w : Warning}
    (h : rejection? replacement token = some w) : w.Keyed := by
  intro key value v hw
  rw [rejection?] at h
  split at h
  next => cases h
  next =>
    subst hw
    cases h

theorem Pattern.keyed_of_mem_encodeWarnings {p : Pattern} {w : Warning}
    (h : w ∈ p.encodeWarnings) : w.Keyed := by
  rw [encodeWarnings, paletteWarnings_eq, secondaryWarnings_eq, List.mem_append, List.mem_append]
    at h
  rcases h with (htruncated | hpalette) | hbackground
  · intro key value v hw
    subst hw
    split at htruncated
    next => cases List.mem_singleton.mp htruncated
    next => cases htruncated
  · obtain ⟨token, -, hrejected⟩ := List.mem_filterMap.mp hpalette
    exact Color.keyed_of_rejection? hrejected
  · rw [Option.mem_toList, backgroundRejection?] at hbackground
    split at hbackground
    next => cases hbackground
    next =>
      split at hbackground
      next => cases hbackground
      next => exact Color.keyed_of_rejection? hbackground

theorem Source.draft_of_read {source : Source} {p : Pattern} {w : List Warning}
    (h : source.read = .ok (p, w)) : source.draft = .ok (p, w) := by
  cases hdraft : source.draft with
  | error fault =>
    rw [read_of_draft_error hdraft] at h
    cases h
  | ok drafted =>
    rw [read_of_draft_ok hdraft] at h
    split at h
    next => cases h
    next =>
      obtain ⟨rfl, rfl⟩ := Prod.mk.inj (Except.ok.inj h)
      rfl

theorem Source.keyed_of_read {source : Source} {p : Pattern} {w : List Warning}
    (h : source.read = .ok (p, w)) : ∀ warning ∈ w, warning.Keyed := by
  have hdraft := draft_of_read h
  cases source with
  | structured t =>
    -- A JSON object is read without warnings.
    rw [draft] at hdraft
    cases hjson : Pattern.ofJson t with
    | error fault =>
      rw [hjson] at hdraft
      cases hdraft
    | ok q =>
      rw [hjson] at hdraft
      cases hdraft
      intro warning hwarning
      cases hwarning
  | intent t =>
    cases hdraft
    exact fun warning => Intent.keyed_of_mem_warnings

theorem Compiled.keyed {text : Text} {c : Compiled} (h : compile text = .ok c) :
    ∀ warning ∈ c.warnings, warning.Keyed := by
  obtain ⟨readWarnings, encodeWarnings, hread, hencode, hwarnings⟩ := compile_eq_ok_iff.mp h
  obtain ⟨effect, -, -, rfl⟩ := Pattern.encode_eq_ok_iff.mp hencode
  intro warning hwarning
  rw [hwarnings] at hwarning
  rcases List.mem_append.mp hwarning with hfirst | hlast
  · exact Source.keyed_of_read hread warning hfirst
  · exact Pattern.keyed_of_mem_encodeWarnings hlast

theorem inert_of_keyed {warnings : List Warning} (h : ∀ warning ∈ warnings, warning.Keyed) :
    ∀ message ∈ warnings.map Warning.message, Text.Inert message := by
  intro message hmessage
  obtain ⟨warning, hwarning, rfl⟩ := List.mem_map.mp hmessage
  exact (h warning hwarning).inert_message

/-! ## Lines -/

namespace CommandLine

def warningLine (message : Text) : Text := "warning: ".toList ++ message

theorem warningLines_false (messages : List Text) :
    warningLines false messages =
      (messages.map warningLine).flatMap fun line => line ++ ['\n'] := by
  rw [List.flatMap_map]
  rfl

theorem newline_notMem_of_inert {t : Text} (h : Text.Inert t) : '\n' ∉ t :=
  fun hmem => (h '\n' hmem).1 (by decide)

theorem inert_warningLine {message : Text} (h : Text.Inert message) :
    Text.Inert (warningLine message) :=
  .append (by decide) h

theorem inert_of_mem_warningLines {messages : List Text} (h : ∀ m ∈ messages, Text.Inert m)
    {c : Char} (hc : c ∈ warningLines false messages) (hline : c ≠ '\n') : Text.Inert [c] := by
  rw [warningLines_false] at hc
  obtain ⟨line, hmem, hc⟩ := List.mem_flatMap.mp hc
  obtain ⟨message, hmessage, rfl⟩ := List.mem_map.mp hmem
  have hin : c ∈ warningLine message :=
    (List.mem_append.mp hc).resolve_right fun hlast => hline (List.mem_singleton.mp hlast)
  intro d hd
  obtain rfl := List.mem_singleton.mp hd
  exact inert_warningLine (h message hmessage) d hin

/-- The warnings, and after them other lines without a line end in them. -/
theorem splitOn_warningLines {messages ending : List Text} (h : ∀ m ∈ messages, Text.Inert m)
    (hending : ∀ line ∈ ending, Text.Inert line) :
    List.splitOn '\n' (warningLines false messages ++ ending.flatMap fun line => line ++ ['\n']) =
      messages.map warningLine ++ ending ++ [[]] := by
  rw [warningLines_false, ← List.flatMap_append]
  apply Text.splitOn_flatMap
  intro line hline
  apply newline_notMem_of_inert
  rcases List.mem_append.mp hline with hwarning | hlast
  · obtain ⟨message, hmessage, rfl⟩ := List.mem_map.mp hwarning
    exact inert_warningLine (h message hmessage)
  · exact hending line hlast

/-! ## Requests -/

/-- The request is about the text, whose warnings it prints without colour: those of reading it if
it is only read, and otherwise all of them. -/
inductive Warns (host : Host) (text : Text) (c : Compiled) : Request → List Warning → Prop
  | compile {input : Input} {format : Format} {color : ColorChoice}
      (hload : input.load host = .ok text) (hformat : format ≠ .json)
      (hcolor : color.isColored host.terminal = false) (output : Option Text) (strict : Bool) :
      Warns host text c (.compile input format output strict color) c.warnings
  | check {input : Input} {color : ColorChoice} (hload : input.load host = .ok text)
      (hcolor : color.isColored host.terminal = false) (strict : Bool) :
      Warns host text c (.check input strict color) c.warnings
  | dump {input : Input} {color : ColorChoice} (hload : input.load host = .ok text)
      (hcolor : color.isColored host.terminal = false) :
      Warns host text c (.dump input false color) c.warnings
  | spec {input : Input} {readWarnings : List Warning} (hload : input.load host = .ok text)
      (hread : (Source.detect text).read = .ok (c.pattern, readWarnings)) (compact : Bool) :
      Warns host text c (.spec input compact) readWarnings

/-- The line after the warnings where they are refused. -/
def refusal (warnings : List Warning) : Request → List Text
  | .compile _ _ _ strict _ =>
    if strict && !warnings.isEmpty then ["error: warnings treated as errors (--strict)".toList]
    else []
  | .check _ strict _ =>
    if strict && !warnings.isEmpty then
      ["error: ".toList ++ Text.ofNat warnings.length ++
        " warning(s) treated as errors (--strict)".toList]
    else []
  | .dump _ _ _ | .spec _ _ => []

theorem inert_refusal (warnings : List Warning) (request : Request) :
    ∀ line ∈ refusal warnings request, Text.Inert line := by
  intro line hline
  cases request with
  | compile input format output strict color =>
    rw [refusal] at hline
    split at hline
    next =>
      rw [List.mem_singleton.mp hline]
      decide
    next => cases hline
  | check input strict color =>
    rw [refusal] at hline
    split at hline
    next =>
      rw [List.mem_singleton.mp hline]
      exact .append (.append (by decide) (Text.inert_ofNat warnings.length)) (by decide)
    next => cases hline
  | dump input binary color => cases hline
  | spec input compact => cases hline

theorem Response.stderr_deliver (stderr : Text) (output : Option Text) (bytes : List UInt8) :
    (Response.deliver stderr output bytes).stderr = stderr := by
  cases output <;> rfl

theorem stderr_answerCompile {text : Text} {c : Compiled} (hcompile : compile text = .ok c)
    {format : Format} (hformat : format ≠ .json) (input : Input) (output : Option Text)
    (strict : Bool) (color : ColorChoice) (colored : Bool) :
    (answerCompile text format output strict colored).stderr =
      warningLines colored c.messages ++
        (refusal c.warnings (.compile input format output strict color)).flatMap
          fun line => line ++ ['\n'] := by
  have hline : "error: warnings treated as errors (--strict)".toList =
      "error: ".toList ++ strictMessage := by decide +kernel
  rw [refusal]
  by_cases hstrict : (strict && !c.warnings.isEmpty) = true
  · simp only [answerCompile, if_neg hformat, hcompile, if_pos hstrict, Response.failAfter, hline,
      List.flatMap_singleton, List.append_assoc]
    rfl
  · simp only [answerCompile, if_neg hformat, hcompile, if_neg hstrict, Response.stderr_deliver,
      List.flatMap_nil, List.append_nil]

theorem stderr_answerCheck {text : Text} {c : Compiled} (hcompile : compile text = .ok c)
    (input : Input) (strict : Bool) (color : ColorChoice) (colored : Bool) :
    (answerCheck text strict colored).stderr =
      warningLines colored c.messages ++
        (refusal c.warnings (.check input strict color)).flatMap fun line => line ++ ['\n'] := by
  have hverdict := Verdict.of_of_ok hcompile
  have hlength : c.messages.length = c.warnings.length := List.length_map ..
  rw [refusal]
  by_cases hstrict : (strict && !c.warnings.isEmpty) = true
  · simp only [answerCheck, hverdict, Verdict.failure, c.isEmpty_messages, if_pos hstrict, hlength,
      Response.failAfter, List.flatMap_singleton, List.append_assoc]
    rfl
  · simp only [answerCheck, hverdict, Verdict.failure, c.isEmpty_messages, if_neg hstrict,
      List.flatMap_nil, List.append_nil]

theorem stderr_of_warns {host : Host} {text : Text} {c : Compiled} {request : Request}
    {warnings : List Warning} (h : Warns host text c request warnings)
    (hcompile : compile text = .ok c) :
    (answer host request).stderr =
      warningLines false (warnings.map Warning.message) ++
        (refusal warnings request).flatMap fun line => line ++ ['\n'] := by
  cases h with
  | compile hload hformat hcolor output strict =>
    rw [answer, withText_of_load hload, hcolor]
    exact stderr_answerCompile hcompile hformat _ output strict _ false
  | check hload hcolor strict =>
    rw [answer, withText_of_load hload, hcolor]
    exact stderr_answerCheck hcompile _ strict _ false
  | dump hload hcolor =>
    obtain ⟨title, hanswer⟩ := answer_dump _ hload hcompile
    rw [hanswer, hcolor]
    exact (List.append_nil _).symm
  | spec hload hread compact =>
    rw [answer_spec hload hread]
    exact (List.append_nil _).symm

/-- What is printed is a part of all warnings, from the first on. -/
theorem exists_append_of_warns {host : Host} {text : Text} {c : Compiled} {request : Request}
    {warnings : List Warning} (h : Warns host text c request warnings)
    (hcompile : compile text = .ok c) : ∃ later, c.warnings = warnings ++ later := by
  cases h with
  | compile => exact ⟨[], (List.append_nil _).symm⟩
  | check => exact ⟨[], (List.append_nil _).symm⟩
  | dump => exact ⟨[], (List.append_nil _).symm⟩
  | spec hload hread compact =>
    obtain ⟨w, later, hread', -, hwarnings⟩ := compile_eq_ok_iff.mp hcompile
    obtain ⟨-, rfl⟩ := Prod.mk.inj (Except.ok.inj (hread.symm.trans hread'))
    exact ⟨later, hwarnings⟩

end CommandLine

/-- No message of a text that compiles has a character in it that could end its line or be obeyed by
a terminal. The warnings are therefore printed one to a line and in order, and whoever prints them
prints no other line but that of a refusal. -/
theorem warnings_keep_to_lines (text : Text) (c : Compiled) (hcompile : compile text = .ok c) :
    (∀ message ∈ c.messages, ∀ ch ∈ message,
      ¬Text.IsControl ch ∧ ch ≠ '\u2028' ∧ ch ≠ '\u2029') ∧
    List.splitOn '\n' (CommandLine.warningLines false c.messages) =
      c.messages.map (fun message => "warning: ".toList ++ message) ++ [[]] ∧
    (∀ ch ∈ CommandLine.warningLines false c.messages, ch ≠ '\n' →
      ¬Text.IsControl ch ∧ ch ≠ '\u2028' ∧ ch ≠ '\u2029') ∧
    ∀ (host : CommandLine.Host) (request : CommandLine.Request) (warnings : List Warning),
      CommandLine.Warns host text c request warnings →
        (∃ later, c.warnings = warnings ++ later) ∧
        List.splitOn '\n' (CommandLine.answer host request).stderr =
          warnings.map (fun w => "warning: ".toList ++ w.message) ++
            CommandLine.refusal warnings request ++ [[]] := by
  have hmessages : ∀ message ∈ c.messages, Text.Inert message :=
    inert_of_keyed (Compiled.keyed hcompile)
  refine ⟨hmessages, ?_, ?_, ?_⟩
  · have hlines := CommandLine.splitOn_warningLines hmessages (List.forall_mem_nil Text.Inert)
    rw [List.flatMap_nil, List.append_nil, List.append_nil] at hlines
    exact hlines
  · intro ch hch hline
    exact CommandLine.inert_of_mem_warningLines hmessages hch hline ch (List.mem_singleton.mpr rfl)
  · intro host request warnings hwarns
    obtain ⟨later, hlater⟩ := CommandLine.exists_append_of_warns hwarns hcompile
    have hprinted : ∀ message ∈ warnings.map Warning.message, Text.Inert message := by
      apply inert_of_keyed
      intro w hw
      exact Compiled.keyed hcompile w (hlater ▸ List.mem_append_left later hw)
    refine ⟨⟨later, hlater⟩, ?_⟩
    rw [CommandLine.stderr_of_warns hwarns hcompile,
      CommandLine.splitOn_warningLines hprinted (CommandLine.inert_refusal warnings request),
      List.map_map]
    rfl

/-- One colour would begin a line of its own, and another clear the screen and part the line. -/
def forged : Text :=
  ("\x7b\"effect\": \"solid\", \"colors\": [\"re\\nerror: d\", " ++
    "\"\\u001b[2J\\u2028!\"]\x7d").toList

def forgedPattern : Pattern where
  effect := "solid".toList
  colors := ["re\nerror: d".toList, "\x1b[2J\u2028!".toList]

theorem warnings_keep_to_lines_forged :
    (Source.detect forged).read = .ok (forgedPattern, []) ∧
    ∃ c, compile forged = .ok c ∧
      (∀ message ∈ c.messages, ∀ ch ∈ message,
        ¬Text.IsControl ch ∧ ch ≠ '\u2028' ∧ ch ≠ '\u2029') ∧
      List.splitOn '\n'
          (CommandLine.answer bareHost (.check { text := some forged } true .never)).stderr =
        [("warning: color \"re\\nerror: d\" ignored (invalid hex digits in color: " ++
            "\"re\\nerror: d\"), using #FFFFFF").toList,
          ("warning: color \"\\u\x7b1b\x7d[2J\\u\x7b2028\x7d!\" ignored (invalid hex digits in " ++
            "color: \"\\u\x7b1b\x7d[2j\\u\x7b2028\x7d!\"), using #FFFFFF").toList,
          "error: 2 warning(s) treated as errors (--strict)".toList, []] := by
  have hread : (Source.detect forged).read = .ok (forgedPattern, []) := by decide +kernel
  obtain ⟨c, hcompile, hwarnings⟩ : ∃ c, compile forged = .ok c ∧ c.warnings =
      [.invalidColor "re\nerror: d".toList (.badDigit "re\nerror: d".toList) .white,
        .invalidColor "\x1b[2J\u2028!".toList (.badDigit "\x1b[2j\u2028!".toList) .white] :=
    ⟨_, compile_of_read_of_ok hread
      (Pattern.encode_eq_ok_iff.mpr ⟨.solid, by decide, rfl, rfl⟩), by decide +kernel⟩
  obtain ⟨hmessages, -, -, hrequests⟩ := warnings_keep_to_lines forged c hcompile
  obtain ⟨-, hlines⟩ := hrequests bareHost (.check { text := some forged } true .never) c.warnings
    (.check rfl rfl true)
  rw [hwarnings] at hlines
  exact ⟨hread, c, hcompile, hmessages, hlines.trans (by decide +kernel)⟩

end LedPattern
