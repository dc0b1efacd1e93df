import LedPattern.Text.Basic
/-!
Colour schemes: names for whole palettes.
-/
namespace LedPattern
namespace Color

/-- The palettes by name; two of them go by two names. -/
def schemes : List (Text × List Text) :=
  [("rainbow".toList, ["#FF0000".toList, "#FFA500".toList, "#FFFF00".toList, "#00FF00".toList,
      "#00FFFF".toList, "#0000FF".toList, "#800080".toList]),
    ("sunset".toList,
      ["#FFA500".toList, "#FFC0CB".toList, "#800080".toList, "#00008B".toList]),
    ("ocean".toList,
      ["#00008B".toList, "#0000FF".toList, "#00FFFF".toList, "#008080".toList]),
    ("forest".toList,
      ["#006400".toList, "#008000".toList, "#32CD32".toList, "#FFFF00".toList]),
    ("fire".toList, ["#000000".toList, "#FF0000".toList, "#FFA500".toList, "#FFFF00".toList,
      "#FFFFFF".toList]),
    ("classic_fire".toList, ["#000000".toList, "#FF0000".toList, "#FFA500".toList,
      "#FFFF00".toList, "#FFFFFF".toList]),
    ("ice".toList,
      ["#FFFFFF".toList, "#00FFFF".toList, "#0000FF".toList, "#00008B".toList]),
    ("party".toList,
      ["#FF00FF".toList, "#00FFFF".toList, "#FFFF00".toList, "#FF00FF".toList]),
    ("warm_orange".toList,
      ["#8B4500".toList, "#D2691E".toList, "#FFA500".toList, "#FFD700".toList]),
    ("blue_gas".toList, ["#000000".toList, "#00008B".toList, "#0000FF".toList,
      "#00FFFF".toList, "#FFFFFF".toList]),
    ("knight_rider".toList, ["#FF0000".toList]),
    ("scanner_red".toList, ["#FF0000".toList])]

def scheme? (name : Text) : Option (List Text) := schemes.lookup (Text.fold name)

/-- The palette of a scheme; a name without one gives white. -/
def scheme (name : Text) : List Text := (scheme? name).getD ["#FFFFFF".toList]

end Color
end LedPattern
