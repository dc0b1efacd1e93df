import LedPattern.Text.Numeral
/-!
Word families: closed vocabularies such as `slow` and `fast`, each word standing for a number.
-/
namespace LedPattern

/-- A vocabulary with the value that stands in for words it does not know. -/
structure WordFamily where
  name : Text
  words : List (Text × Int32)
  default : Int32

/-- How a value was read through a family. -/
inductive Reading where
  | word (value : Int32)
  | number (value : Int32)
  /-- Neither a word of the family nor a number; carries the default. -/
  | fallback (value : Int32)
deriving DecidableEq, Repr

namespace Reading

def value : Reading → Int32
  | word v => v
  | number v => v
  | fallback v => v

def isFallback : Reading → Bool
  | fallback _ => true
  | _ => false

end Reading

namespace WordFamily

/-- The value of a word, spelled exactly as in the table. -/
def word? (family : WordFamily) (w : Text) : Option Int32 := family.words.lookup w

/-- Words win over numbers; case and blanks around the value do not matter. -/
def resolve (family : WordFamily) (value : Text) : Reading :=
  let folded := Text.fold value
  match family.word? folded with
  | some v => .word v
  | none =>
    match Text.readInt32? folded with
    | some v => .number v
    | none => .fallback family.default

def speed : WordFamily where
  name := "speed".toList
  words :=
    [("frozen".toList, 0), ("glacial".toList, 20), ("very_slow".toList, 40), ("slow".toList, 70),
      ("medium".toList, 128), ("fast".toList, 180), ("very_fast".toList, 220),
      ("frantic".toList, 255)]
  default := 128

def brightness : WordFamily where
  name := "brightness".toList
  words :=
    [("dim".toList, 64), ("low".toList, 64), ("medium".toList, 128), ("bright".toList, 200),
      ("high".toList, 200), ("full".toList, 255), ("max".toList, 255)]
  default := 200

/-- The values are rates of cooling: taller flames cool less. -/
def flameHeight : WordFamily where
  name := "flame_height".toList
  words :=
    [("very_short".toList, 120), ("tiny".toList, 120), ("short".toList, 80), ("small".toList, 80),
      ("medium".toList, 55), ("tall".toList, 40), ("large".toList, 40), ("high".toList, 40),
      ("very_tall".toList, 20), ("huge".toList, 20)]
  default := 55

def sparkFrequency : WordFamily where
  name := "spark_frequency".toList
  words :=
    [("rare".toList, 50), ("few".toList, 50), ("occasional".toList, 80), ("some".toList, 80),
      ("frequent".toList, 120), ("high".toList, 170), ("many".toList, 170),
      ("intense".toList, 220), ("lots".toList, 220)]
  default := 120

def density : WordFamily where
  name := "density".toList
  words :=
    [("sparse".toList, 30), ("light".toList, 60), ("medium".toList, 128), ("dense".toList, 200),
      ("packed".toList, 255)]
  default := 128

def waveCount : WordFamily where
  name := "wave_count".toList
  words := [("one".toList, 1), ("few".toList, 2), ("several".toList, 4), ("many".toList, 8)]
  default := 3

/-- The values are speeds: how fast a light with this rhythm breathes. -/
def rhythm : WordFamily where
  name := "rhythm".toList
  words :=
    [("calm".toList, 70), ("relaxed".toList, 100), ("steady".toList, 128),
      ("energetic".toList, 180), ("frantic".toList, 220)]
  default := 128

def eyeSize : WordFamily where
  name := "eye_size".toList
  words :=
    [("tiny".toList, 1), ("small".toList, 2), ("medium".toList, 3), ("large".toList, 5),
      ("huge".toList, 8)]
  default := 3

def tailLength : WordFamily where
  name := "tail_length".toList
  words :=
    [("none".toList, 0), ("short".toList, 2), ("medium".toList, 4), ("long".toList, 8),
      ("ghost".toList, 16)]
  default := 4

/-- Forward is 0 and backward 1, under whatever name the shape of the lights suggests. -/
def direction : WordFamily where
  name := "direction".toList
  words :=
    [("forward".toList, 0), ("up".toList, 0), ("right".toList, 0), ("clockwise".toList, 0),
      ("outward".toList, 0), ("backward".toList, 1), ("reverse".toList, 1), ("down".toList, 1),
      ("left".toList, 1), ("counterclockwise".toList, 1), ("inward".toList, 1)]
  default := 0

def all : List WordFamily :=
  [speed, brightness, flameHeight, sparkFrequency, density, waveCount, rhythm, eyeSize, tailLength,
    direction]

/-- The family of a name. -/
def named? (name : Text) : Option WordFamily := all.find? fun family => family.name = name

end WordFamily
end LedPattern
