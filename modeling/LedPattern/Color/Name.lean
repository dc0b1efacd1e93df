import LedPattern.Color.Rgb
/-!
Colour tokens as patterns write them: names, bare digits, or anything else, which is kept for the
encoder to judge.
-/
namespace LedPattern
namespace Color

/-- The colour names and the hexadecimal form of each. -/
def names : List (Text × Text) :=
  [("red".toList, "#FF0000".toList),
    ("green".toList, "#00FF00".toList),
    ("blue".toList, "#0000FF".toList),
    ("yellow".toList, "#FFFF00".toList),
    ("orange".toList, "#FFA500".toList),
    ("purple".toList, "#800080".toList),
    ("cyan".toList, "#00FFFF".toList),
    ("magenta".toList, "#FF00FF".toList),
    ("pink".toList, "#FFC0CB".toList),
    ("white".toList, "#FFFFFF".toList),
    ("black".toList, "#000000".toList),
    ("warm_white".toList, "#FFF4E5".toList),
    ("cool_white".toList, "#F4FFFA".toList),
    ("gold".toList, "#FFD700".toList),
    ("teal".toList, "#008080".toList),
    ("crimson".toList, "#DC143C".toList),
    ("coral".toList, "#FF7F50".toList),
    ("navy".toList, "#000080".toList)]

/-- Three or six hexadecimal digits and nothing else. -/
def isBareHex (t : Text) : Bool :=
  (t.length == 3 || t.length == 6) && t.all Text.isHexDigit

/-- A name gives its hexadecimal form and bare digits get their `#`; any other token is only trimmed
and put in lower case. -/
def resolve (token : Text) : Text :=
  let word := Text.fold token
  match names.lookup word with
  | some hex => hex
  | none => if isBareHex word then '#' :: word else word

/-- The colour a token stands for. -/
def parse (token : Text) : Except ColorError Rgb := Rgb.parse (resolve token)

end Color
end LedPattern
