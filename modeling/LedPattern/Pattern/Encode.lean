import LedPattern.Color.Name
import LedPattern.Pattern.Params
import LedPattern.Program.Basic
import LedPattern.Warning
/-!
From a pattern to a program. Only the effect can make this fail: every other value that cannot be
used is replaced, and each colour that is replaced or left out gives a warning.
-/
namespace LedPattern

/-- Why a pattern has no program. -/
inductive EffectError where
  | missing
  | unknown (name : Text)
deriving DecidableEq, Repr

namespace EffectError

def message : EffectError → Text
  | missing => "missing required field: effect".toList
  | unknown name => "unknown effect type: ".toList ++ name

end EffectError

/-- The colour of a token, or a replacement for it with a warning. -/
def Color.parseOr (replacement : Rgb) (token : Text) : Rgb × List Warning :=
  match Color.parse token with
  | .ok c => (c, [])
  | .error e => (replacement, [.invalidColor token e replacement])

namespace Pattern

/-- The colours that a program can hold, each parsed or replaced by white; without any, white
alone. -/
def paletteColors (colors : List Text) : List Rgb :=
  if colors.isEmpty then [Rgb.white]
  else (colors.take maxPalette).map fun token => (Color.parseOr .white token).1

theorem length_paletteColors_le (colors : List Text) :
    (paletteColors colors).length ≤ maxPalette := by
  unfold paletteColors
  split
  · decide
  · simp only [List.length_map, List.length_take]
    exact Nat.min_le_left _ _

def paletteWarnings (colors : List Text) : List Warning :=
  (if maxPalette < colors.length then [.paletteTruncated colors.length maxPalette] else []) ++
    (colors.take maxPalette).flatMap fun token => (Color.parseOr .white token).2

def secondaryColor (p : Pattern) : Rgb :=
  match p.backgroundToken with
  | some token => (Color.parseOr .black token).1
  | none => .black

def secondaryWarnings (p : Pattern) : List Warning :=
  match p.backgroundToken with
  | some token => (Color.parseOr .black token).2
  | none => []

/-- A level from 1 to 255; zero or less means the default. -/
def level (v default : Int32) : UInt8 := saturate (given v default.toInt)

def effectOf (p : Pattern) : Except EffectError Effect :=
  let name := Text.trim p.effect
  if name.isEmpty then .error .missing
  else
    match Effect.ofName? name with
    | some effect => .ok effect
    | none => .error (.unknown name)

/-- The program of a pattern under an effect. -/
def programWith (p : Pattern) (effect : Effect) : Program where
  flags := 0
  effect := effect
  brightness := level p.brightness defaultBrightness
  speed := level p.speed defaultSpeed
  params := p.params effect
  colorMode := 0
  reserved := Vector.replicate 8 0
  primary := (paletteColors p.colors).headD .white
  secondary := p.secondaryColor
  palette := paletteColors p.colors
  palette_le := length_paletteColors_le p.colors

/-- What was replaced or left out on the way, in the order of the palette and then the
background. -/
def encodeWarnings (p : Pattern) : List Warning := paletteWarnings p.colors ++ p.secondaryWarnings

def encode (p : Pattern) : Except EffectError (Program × List Warning) :=
  p.effectOf.map fun effect => (p.programWith effect, p.encodeWarnings)

end Pattern
end LedPattern
