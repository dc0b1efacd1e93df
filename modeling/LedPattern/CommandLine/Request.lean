import LedPattern.Text.Basic
/-!
What a command line can ask for.
-/
namespace LedPattern
namespace CommandLine

inductive ColorChoice where
  | auto
  | always
  | never
deriving DecidableEq, Repr

namespace ColorChoice

/-- What was decided outright; `auto` leaves it to the terminal. -/
def fixed? : ColorChoice → Option Bool
  | auto => none
  | always => some true
  | never => some false

def isColored (terminal : Bool) (choice : ColorChoice) : Bool := choice.fixed?.getD terminal

def named (word : Text) : ColorChoice :=
  if word = "always".toList then always
  else if word = "never".toList then never
  else auto

end ColorChoice

/-- How a program is written out. -/
inductive Format where
  | bin
  | hex
  | json
deriving DecidableEq, Repr

namespace Format

def named (word : Text) : Format :=
  if word = "bin".toList then bin
  else if word = "json".toList then json
  else hex

end Format

/-- Where a pattern comes from: text on the command line itself, or else a path, which may be `-` for
the standard input. -/
structure Input where
  path : Option Text := none
  text : Option Text := none
deriving DecidableEq, Repr

inductive Request where
  /-- Make a program of a pattern and write it out. -/
  | compile (input : Input) (format : Format) (output : Option Text) (strict : Bool)
      (color : ColorChoice)
  /-- Only say whether a pattern compiles. -/
  | check (input : Input) (strict : Bool) (color : ColorChoice)
  /-- List a program, compiled or as it is. -/
  | dump (input : Input) (binary : Bool) (color : ColorChoice)
  /-- Print the pattern that was read. -/
  | spec (input : Input) (compact : Bool)
deriving DecidableEq, Repr

end CommandLine
end LedPattern
