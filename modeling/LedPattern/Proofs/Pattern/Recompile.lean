import LedPattern.CommandLine.Run
import LedPattern.Proofs.Compile
import LedPattern.Proofs.Pattern.Encode
import LedPattern.Proofs.Pattern.Json
import LedPattern.Proofs.Text.Utf8
/-!
The JSON text of a pattern stands for the pattern. Whatever text a pattern was read from, its JSON text
compiles to the same program or fails with the same error, and the warnings that came from reading the
first text are the only ones that are lost. What a request for a pattern prints is that JSON text, so it
can be given back as the input of another request.
-/
namespace LedPattern
namespace Source

/-- A pattern that was read says what its effect is. -/
theorem trim_effect_of_read {source : Source} {p : Pattern} {w : List Warning}
    (h : source.read = .ok (p, w)) : Text.trim p.effect ≠ [] := by
  unfold read at h
  dsimp only at h
  split at h
  next read warnings _ =>
    by_cases hempty : (Text.trim read.effect).isEmpty = true
    · rw [if_pos hempty] at h
      cases h
    · rw [if_neg hempty] at h
      obtain ⟨rfl, -⟩ := Prod.mk.inj (Except.ok.inj h)
      rw [List.isEmpty_iff] at hempty
      exact hempty
  next => cases h

end Source

theorem loose_of_compact_or_pretty {layout : Json.Layout}
    (h : layout = .compact ∨ layout = .pretty) : layout.Loose := by
  rcases h with rfl | rfl
  · exact Json.Layout.loose_compact
  · exact Json.Layout.loose_pretty

theorem blank_of_nil_or_newline {tail : Text} (h : tail = [] ∨ tail = ['\n']) :
    Json.Blank tail := by
  rcases h with rfl | rfl
  · exact Json.blank_nil
  · exact Json.blank_singleton (by decide)

namespace CommandLine

theorem answer_spec {host : Host} {input : Input} {t : Text} {p : Pattern} {w : List Warning}
    (hload : input.load host = .ok t) (hread : (Source.detect t).read = .ok (p, w))
    (compact : Bool) :
    answer host (.spec input compact) =
      .print (warningLines false (w.map Warning.message))
        (p.toJson.text (if compact then .compact else .pretty) ++ ['\n']) := by
  simp only [answer, withText, hload, answerSpec, hread]
  rfl

/-- Text that was printed and is not blank can be loaded from the standard input. -/
theorem load_stdin {text : Text} (h : Text.trim text ≠ [])
    (read : Text → Except FileError (List UInt8)) :
    Input.load { stdin := Text.toUtf8 text, read } { path := some ['-'] } = .ok text := by
  have hempty : (Text.trim text).isEmpty = false := by
    rw [List.isEmpty_eq_false_iff]
    exact h
  simp only [Input.load, Input.pathText, Input.bytes, if_true, bind, Except.bind,
    Text.ofUtf8?_toUtf8, hempty, Bool.false_eq_true, if_false]

end CommandLine

theorem json_recompiles :
    (∀ (p : Pattern) (layout : Json.Layout) (tail : Text),
      Text.trim p.effect ≠ [] → (layout = .compact ∨ layout = .pretty) →
      (tail = [] ∨ tail = ['\n']) →
        (Source.detect (p.toJson.text layout ++ tail)).isStructured = true ∧
        (Source.detect (p.toJson.text layout ++ tail)).read = .ok (p, [])) ∧
    (∀ (t : Text) (p : Pattern) (w : List Warning) (layout : Json.Layout) (tail : Text),
      (Source.detect t).read = .ok (p, w) → (layout = .compact ∨ layout = .pretty) →
      (tail = [] ∨ tail = ['\n']) →
        (∀ e, compile t = .error e → compile (p.toJson.text layout ++ tail) = .error e) ∧
        (∀ c, compile t = .ok c →
          ∃ c', compile (p.toJson.text layout ++ tail) = .ok c' ∧
            c'.program.bytes = c.program.bytes ∧ c'.pattern = p ∧ c.pattern = p ∧
            c.warnings = w ++ c'.warnings)) ∧
    (∀ (host : CommandLine.Host) (input : CommandLine.Input) (compact : Bool) (t : Text)
      (p : Pattern) (w : List Warning),
      input.load host = .ok t → (Source.detect t).read = .ok (p, w) →
        (CommandLine.answer host (.spec input compact)).exitCode = 0 ∧
        CommandLine.Input.load
            { stdin := (CommandLine.answer host (.spec input compact)).stdout, read := host.read }
            { path := some ['-'] } =
          .ok (p.toJson.text (if compact then .compact else .pretty) ++ ['\n'])) := by
  refine ⟨?_, ?_, ?_⟩
  · intro p layout tail heffect hlayout htail
    have hloose := loose_of_compact_or_pretty hlayout
    have hblank := blank_of_nil_or_newline htail
    obtain ⟨trimmed, hdetect, -⟩ := Pattern.detect_spelled (p.toJson_spelled hloose hblank)
    refine ⟨?_, Pattern.read_toJson heffect hloose hblank⟩
    rw [hdetect]
    rfl
  · intro t p w layout tail hread hlayout htail
    have hjson := Pattern.read_toJson (Source.trim_effect_of_read hread)
      (loose_of_compact_or_pretty hlayout) (blank_of_nil_or_newline htail)
    constructor
    · intro e he
      cases hencode : p.encode with
      | error effectError =>
        rw [compile_of_read_of_error hread hencode] at he
        rw [compile_of_read_of_error hjson hencode]
        exact he
      | ok encoded =>
        rw [compile_of_read_of_ok hread hencode] at he
        cases he
    · intro c hc
      cases hencode : p.encode with
      | error effectError =>
        rw [compile_of_read_of_error hread hencode] at hc
        cases hc
      | ok encoded =>
        rw [compile_of_read_of_ok hread hencode] at hc
        cases hc
        exact ⟨_, compile_of_read_of_ok hjson hencode, rfl, rfl, rfl, rfl⟩
  · intro host input compact t p w hload hread
    rw [CommandLine.answer_spec hload hread compact]
    have hloose : (if compact then Json.Layout.compact else .pretty).Loose := by
      cases compact
      · exact Json.Layout.loose_pretty
      · exact Json.Layout.loose_compact
    have hspelled := p.toJson_spelled hloose (blank_of_nil_or_newline (.inr rfl))
    exact ⟨rfl, CommandLine.load_stdin (Pattern.trim_ne_nil_of_spelled hspelled) host.read⟩

/-- A name with every kind of character that is escaped, and numbers at both ends. -/
def awkward : Pattern where
  effect := "fire".toList
  name := some ['"', '\\', '\n', '\x01', 'é']
  colors := ["red".toList, []]
  brightness := -2147483648
  style := 2147483647

/-- Intent text with a word that is not known, so that reading it warns. -/
def warped : Text := "effect: fire\ntiming:\n speed: warp".toList

def warpedPattern : Pattern := { Intent.start with effect := "fire".toList }

def warpedWarnings : List Warning := [.unknownWord "speed".toList "warp".toList 128]

/-- A machine without files. -/
def bareHost : CommandLine.Host where
  stdin := []
  read := fun _ => .error .notFound

theorem json_recompiles_awkward :
    (Source.detect (awkward.toJson.text .pretty ++ ['\n'])).read = .ok (awkward, []) ∧
    (Source.detect warped).read = .ok (warpedPattern, warpedWarnings) ∧
    (∃ c c' : Compiled, compile warped = .ok c ∧
      compile (warpedPattern.toJson.text .compact ++ []) = .ok c' ∧
        c'.program.bytes = c.program.bytes ∧ c.warnings = warpedWarnings ++ c'.warnings) ∧
    (CommandLine.answer bareHost (.spec { text := some warped } true)).exitCode = 0 ∧
    CommandLine.Input.load
        { stdin := (CommandLine.answer bareHost (.spec { text := some warped } true)).stdout
          read := bareHost.read }
        { path := some ['-'] } =
      .ok (warpedPattern.toJson.text .compact ++ ['\n']) := by
  have hread : (Source.detect warped).read = .ok (warpedPattern, warpedWarnings) := by decide
  refine ⟨?_, hread, ?_, ?_⟩
  · exact (json_recompiles.1 awkward .pretty ['\n'] (by decide) (.inr rfl) (.inr rfl)).2
  · have hcompile := compile_of_read_of_ok hread
      (Pattern.encode_eq_ok_iff.mpr ⟨.fire, by decide, rfl, rfl⟩)
    obtain ⟨c', hc', hbytes, -, -, hwarnings⟩ :=
      (json_recompiles.2.1 warped _ _ .compact [] hread (.inl rfl) (.inl rfl)).2 _ hcompile
    exact ⟨_, c', hcompile, hc', hbytes, hwarnings⟩
  · exact json_recompiles.2.2 bareHost { text := some warped } true warped _ _ rfl hread

end LedPattern
