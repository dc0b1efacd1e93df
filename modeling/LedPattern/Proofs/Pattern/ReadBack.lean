import LedPattern.CommandLine.Run
import LedPattern.Proofs.Compile
import LedPattern.Proofs.Pattern.Encode
import LedPattern.Proofs.Program.Image
/-!
The program of a pattern read back. `Program.Shows` says what a program must hold to say the same as a
pattern, each field in terms of the pattern alone, and `encode_reads_back` says that every program that
the encoder makes is decoded, and shows the pattern it was made from.
-/
namespace LedPattern
namespace Program

structure Shows (m : Program) (p : Pattern) : Prop where
  effect : Effect.ofName? p.effect = some m.effect
  brightness : (m.brightness.toNat : Int) =
    if p.brightness.toInt ≤ 0 then 200 else min p.brightness.toInt 255
  speed : (m.speed.toNat : Int) = if p.speed.toInt ≤ 0 then 128 else min p.speed.toInt 255
  params : m.params = p.params m.effect
  direction : (m.direction.toNat : Int) = p.direction.toInt % 2
  /-- The first eight colours; a token that is no colour is white, and so is a pattern without
  tokens. -/
  palette : m.palette =
    if p.colors = [] then [Rgb.white]
    else (p.colors.take 8).map fun token =>
      (Rgb.parse (Color.resolve token)).toOption.getD Rgb.white
  primary : m.palette.head? = some m.primary
  secondary : m.secondary =
    match p.background with
    | none => Rgb.black
    | some token =>
      if Text.trim token = [] then Rgb.black
      else (Rgb.parse (Color.resolve token)).toOption.getD Rgb.black
  colorMode : m.colorMode = 0
  flags : m.flags = 0
  reserved : m.reserved = Vector.replicate 8 0

end Program

namespace Pattern

theorem paletteColors_eq (colors : List Text) :
    paletteColors colors =
      if colors = [] then [Rgb.white]
      else (colors.take 8).map fun token =>
        (Rgb.parse (Color.resolve token)).toOption.getD Rgb.white := by
  rw [paletteColors]
  simp only [Color.parseOr_fst, maxPalette, List.isEmpty_iff]

theorem secondaryColor_eq (p : Pattern) :
    p.secondaryColor =
      match p.background with
      | none => Rgb.black
      | some token =>
        if Text.trim token = [] then Rgb.black
        else (Rgb.parse (Color.resolve token)).toOption.getD Rgb.black := by
  rw [secondaryColor, backgroundToken_eq]
  cases p.background with
  | none => rfl
  | some token =>
    by_cases hblank : Text.trim token = []
    · simp only [if_pos hblank]
    · simp only [if_neg hblank, Color.parseOr_fst, Color.resolve_trim]

theorem direction_programWith (p : Pattern) (effect : Effect) :
    ((p.programWith effect).direction.toNat : Int) = p.direction.toInt % 2 := by
  have hfourth : (p.programWith effect).params.fourth = directionByte p.direction :=
    p.params_fourth effect
  have hbyte := directionByte_toNat p.direction
  rw [Program.direction, hfourth, UInt8.toNat_and]
  have hone : (1 : UInt8).toNat = 1 := rfl
  rw [hone, Nat.and_one_is_mod]
  omega

theorem programWith_shows {p : Pattern} {effect : Effect}
    (h : Effect.ofName? p.effect = some effect) : (p.programWith effect).Shows p where
  effect := h
  brightness := level_toNat (by decide)
  speed := level_toNat (by decide)
  params := rfl
  direction := p.direction_programWith effect
  palette := paletteColors_eq p.colors
  primary := head?_paletteColors p.colors
  secondary := p.secondaryColor_eq
  colorMode := rfl
  flags := rfl
  reserved := rfl

end Pattern

namespace CommandLine

/-- Listing the program of a text cannot fail once the text compiles. -/
theorem answer_dump {host : Host} {input : Input} (color : ColorChoice) {text : Text}
    {c : Compiled} (hload : input.load host = .ok text) (hcompile : compile text = .ok c) :
    ∃ title : Text,
      answer host (.dump input false color) =
        .print (warningLines (color.isColored host.terminal) c.messages)
          (title ++ c.program.listing (color.isColored host.terminal)) := by
  simp only [answer, Bool.false_eq_true, if_false, withText, hload, answerDump, hcompile,
    answerListing, Program.decode_bytes]
  exact ⟨_, rfl⟩

end CommandLine

theorem encode_reads_back :
    (∀ (p : Pattern) (program : Program) (warnings : List Warning),
      p.encode = .ok (program, warnings) →
        p.assemble? program.effect = some program.bytes ∧
        ∃ m : Program,
          Program.decode program.bytes = .ok m ∧ m.Shows p ∧
          program.bytes.length = 31 + 3 * m.palette.length) ∧
    (∀ (host : CommandLine.Host) (input : CommandLine.Input) (color : CommandLine.ColorChoice)
      (text : Text) (c : Compiled),
      input.load host = .ok text → compile text = .ok c →
        ∃ (m : Program) (title : Text),
          Program.decode c.program.bytes = .ok m ∧ m.Shows c.pattern ∧
          CommandLine.answer host (.dump input false color) =
            .print (CommandLine.warningLines (color.isColored host.terminal) c.messages)
              (title ++ m.listing (color.isColored host.terminal))) := by
  constructor
  · intro p program warnings h
    obtain ⟨effect, heffect, rfl, -⟩ := Pattern.encode_eq_ok_iff.mp h
    exact ⟨p.assemble?_eq effect, p.programWith effect, Program.decode_bytes _,
      Pattern.programWith_shows heffect, Program.length_bytes _⟩
  · intro host input color text c hload hcompile
    obtain ⟨title, htitle⟩ := CommandLine.answer_dump color hload hcompile
    obtain ⟨_, _, -, hencode, -⟩ := compile_eq_ok_iff.mp hcompile
    obtain ⟨effect, heffect, hprogram, -⟩ := Pattern.encode_eq_ok_iff.mp hencode
    have hshows : c.program.Shows c.pattern := by
      rw [hprogram]
      exact Pattern.programWith_shows heffect
    exact ⟨c.program, title, Program.decode_bytes _, hshows, htitle⟩

/-- A pattern at the ends of its range: an old spelling with blanks, one colour too many and one that
is none, the least brightness and the greatest speed. -/
def outlandish : Pattern where
  effect := " Breathe".toList
  colors := ["red".toList, "nope".toList, "#0f0".toList, "123456".toList, "navy".toList,
    "teal".toList, "gold".toList, "pink".toList, "coral".toList]
  background := some "  ".toList
  brightness := -2147483648
  speed := 2147483647
  direction := -1

theorem encode_reads_back_outlandish :
    (∃ (program : Program) (warnings : List Warning),
      outlandish.encode = .ok (program, warnings) ∧
        outlandish.assemble? program.effect = some program.bytes ∧
        ∃ m : Program,
          Program.decode program.bytes = .ok m ∧ m.Shows outlandish ∧
          program.bytes.length = 31 + 3 * m.palette.length) ∧
    (∃ (input : CommandLine.Input) (c : Compiled),
      input.load { stdin := [], read := fun _ => .error .notFound } = .ok "effect: fire".toList ∧
        compile "effect: fire".toList = .ok c ∧
        ∃ m : Program, Program.decode c.program.bytes = .ok m ∧ m.Shows c.pattern) := by
  constructor
  · have h : outlandish.encode = .ok (outlandish.programWith .pulse, outlandish.encodeWarnings) :=
      Pattern.encode_eq_ok_iff.mpr ⟨.pulse, by decide, rfl, rfl⟩
    exact ⟨_, _, h, encode_reads_back.1 outlandish _ _ h⟩
  · have hload : CommandLine.Input.load { stdin := [], read := fun _ => .error .notFound }
        { text := some "effect: fire".toList } = .ok "effect: fire".toList := by rfl
    have hread : (Source.detect "effect: fire".toList).read =
        .ok ({ Intent.start with effect := "fire".toList }, []) := by decide
    have hcompile := compile_of_read_of_ok hread
      (Pattern.encode_eq_ok_iff.mpr ⟨.fire, by decide, rfl, rfl⟩)
    obtain ⟨m, -, hdecode, hshows, -⟩ := encode_reads_back.2 _ _ .auto _ _ hload hcompile
    exact ⟨_, _, hload, hcompile, m, hdecode, hshows⟩

end LedPattern
