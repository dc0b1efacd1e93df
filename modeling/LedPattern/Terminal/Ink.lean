import LedPattern.Color.Rgb
/-!
Colours on a terminal. Every painted piece of text ends by resetting the terminal, and nothing is
added when colour is off.
-/
namespace LedPattern
namespace Terminal

/-- The styles in use: blue for headings, green for values, dim for remarks. -/
inductive Ink where
  | blue
  | green
  | dim
deriving DecidableEq, Repr

def escape : Char := '\x1b'

def Ink.code : Ink → Text
  | .blue => escape :: "[34m".toList
  | .green => escape :: "[32m".toList
  | .dim => escape :: "[2m".toList

def reset : Text := escape :: "[0m".toList

def paint (colored : Bool) (ink : Ink) (t : Text) : Text :=
  if colored then ink.code ++ t ++ reset else t

/-- Two cells with the given background. -/
def swatch (colored : Bool) (c : Rgb) : Text :=
  if colored then
    escape :: "[48;2;".toList ++ Text.ofNat c.red.toNat ++ ";".toList ++
      Text.ofNat c.green.toNat ++ ";".toList ++ Text.ofNat c.blue.toNat ++ "m  ".toList ++ reset
  else []

end Terminal
end LedPattern
