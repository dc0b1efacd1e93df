import LedPattern.Color.Rgb
/-!
Warnings: every place where a default took the place of something that could not be used.
-/
namespace LedPattern

inductive Warning where
  /-- A value is neither a word of its family nor a number. -/
  | unknownWord (key value : Text) (fallback : Int32)
  | unknownScheme (name : Text)
  | invalidColor (color : Text) (error : ColorError) (replacement : Rgb)
  /-- There are more colours than a program can hold. -/
  | paletteTruncated (given kept : Nat)
deriving DecidableEq, Repr

namespace Warning

def message : Warning → Text
  | unknownWord key value fallback =>
    "unknown ".toList ++ key ++ " value ".toList ++ Text.quote value ++ ", using ".toList ++
      Text.ofInt fallback.toInt
  | unknownScheme name =>
    "unknown color scheme ".toList ++ Text.quote name ++ ", using white".toList
  | invalidColor color error replacement =>
    "color ".toList ++ Text.quote color ++ " ignored (".toList ++ error.message ++
      "), using ".toList ++ replacement.text
  | paletteTruncated given kept =>
    "palette has ".toList ++ Text.ofNat given ++ " colors, keeping the first ".toList ++
      Text.ofNat kept

end Warning
end LedPattern
