import LedPattern.CommandLine.Request
/-!
Reading a command line. Arguments are taken from left to right. A value that stands in an argument of
its own is held back: it is judged when the next argument that is understood comes, or at the end, so
an argument that is not understood at all is reported before it. Which arguments exclude each other is
looked at last.
-/
namespace LedPattern
namespace CommandLine

/-- Why there is no request. The first two are answers to a question rather than errors. -/
inductive UsageError where
  | help
  | version
  /-- Nothing was asked for. -/
  | noCommand
  | unknownCommand
  | unknownArgument
  /-- A value is missing, empty or not one of the choices. -/
  | badValue
  /-- A flag was given a value. -/
  | unwantedValue
  /-- An argument is repeated, or excludes another. -/
  | conflict
deriving DecidableEq, Repr

namespace UsageError

def exitCode : UsageError → Nat
  | help | version => 0
  | _ => 2

end UsageError

inductive Switch where
  | text
  | format
  | output
  | strict
  | color
  | binary
  | compact
  | help
deriving DecidableEq, Repr

/-- Which values an argument takes. -/
inductive Takes where
  | nothing
  | anyText
  /-- Any text but the empty one. -/
  | path
  | oneOf (choices : List Text)
deriving DecidableEq, Repr

namespace Takes

def allows : Takes → Text → Bool
  | nothing, _ => true
  | anyText, _ => true
  | path, value => !value.isEmpty
  | oneOf choices, value => choices.contains value

end Takes

namespace Switch

def long : Switch → Text
  | text => "text".toList
  | format => "format".toList
  | output => "output".toList
  | strict => "strict".toList
  | color => "color".toList
  | binary => "binary".toList
  | compact => "compact".toList
  | help => "help".toList

def short? : Switch → Option Char
  | text => some 't'
  | output => some 'o'
  | help => some 'h'
  | _ => none

def takes : Switch → Takes
  | text => .anyText
  | format => .oneOf ["bin".toList, "hex".toList, "json".toList]
  | output => .path
  | color => .oneOf ["auto".toList, "always".toList, "never".toList]
  | strict | binary | compact | help => .nothing

end Switch

inductive Command where
  | compile
  | check
  | dump
  | spec
deriving DecidableEq, Repr

namespace Command

def name : Command → Text
  | compile => "compile".toList
  | check => "check".toList
  | dump => "dump".toList
  | spec => "spec".toList

def named? (word : Text) : Option Command :=
  [compile, check, dump, spec].find? fun command => command.name = word

def switches : Command → List Switch
  | compile => [.text, .format, .output, .strict, .color, .help]
  | check => [.text, .strict, .color, .help]
  | dump => [.text, .binary, .color, .help]
  | spec => [.text, .compact, .help]

def long? (command : Command) (word : Text) : Option Switch :=
  command.switches.find? fun switch => switch.long = word

def short? (command : Command) (letter : Char) : Option Switch :=
  command.switches.find? fun switch => switch.short? = some letter

end Command

/-- The place of an argument: the one positional argument, or a switch. -/
inductive Slot where
  | input
  | switch (switch : Switch)
deriving DecidableEq, Repr

namespace Slot

def takes : Slot → Takes
  | input => .path
  | switch s => s.takes

end Slot

/-- The arguments taken so far, and the one that is held back with its value, if that has come. -/
structure Taken where
  values : List (Slot × Text) := []
  held : Option (Slot × Option Text) := none
deriving DecidableEq, Repr

namespace Taken

def value? (taken : Taken) (slot : Slot) : Option Text := taken.values.lookup slot

def has (taken : Taken) (slot : Slot) : Bool := (taken.value? slot).isSome

/-- Takes a value for a slot: it must be there, the slot free, and the value allowed. -/
def accept (taken : Taken) (slot : Slot) (value : Option Text) : Except UsageError Taken :=
  match value with
  | none => .error .badValue
  | some value =>
    if taken.has slot then .error .conflict
    else if slot.takes.allows value then
      .ok { values := taken.values ++ [(slot, value)], held := none }
    else .error .badValue

/-- Judges the argument that is held back. -/
def settle (taken : Taken) : Except UsageError Taken :=
  match taken.held with
  | none => .ok taken
  | some (slot, value) => { taken with held := none }.accept slot value

/-- Holds an argument back, after judging the one before it. -/
def hold (taken : Taken) (slot : Slot) (value : Option Text) : Except UsageError Taken := do
  let taken ← taken.settle
  .ok { taken with held := some (slot, value) }

/-- A switch that stands alone: asked for help, nothing else matters any more. -/
def flag (taken : Taken) (switch : Switch) : Except UsageError Taken := do
  let taken ← taken.settle
  if switch = .help then .error .help else taken.accept (.switch switch) (some [])

/-- A switch with its value attached, which is judged at once. -/
def attached (taken : Taken) (switch : Switch) (value : Text) : Except UsageError Taken := do
  let taken ← taken.settle
  taken.accept (.switch switch) (some value)

/-- The one positional argument; there is no second. -/
def positional (taken : Taken) (word : Text) : Except UsageError Taken :=
  if taken.has .input || (taken.held.map Prod.fst) = some .input then .error .unknownArgument
  else taken.hold .input (some word)

/-- An argument without dashes: the value that is waited for, or else the positional argument. -/
def word (taken : Taken) (word : Text) : Except UsageError Taken :=
  match taken.held with
  | some (slot, none) => .ok { taken with held := some (slot, some word) }
  | _ => taken.positional word

/-- An argument with two dashes, without them. -/
def long (command : Command) (taken : Taken) (body : Text) : Except UsageError Taken :=
  let (name, value) :=
    match Text.splitFirst '=' body with
    | some (name, value) => (name, some value)
    | none => (body, none)
  match command.long? name with
  | none => .error .unknownArgument
  | some switch =>
    match switch.takes, value with
    | .nothing, some _ => .error .unwantedValue
    | .nothing, none => taken.flag switch
    | _, some value => taken.attached switch value
    | _, none => taken.hold (.switch switch) none

/-- An argument with one dash, without it: letters of flags, or a letter and its value, which may
come after `=`. -/
def short (command : Command) (taken : Taken) : Text → Except UsageError Taken
  | [] => .ok taken
  | letter :: rest =>
    match command.short? letter with
    | none => .error .unknownArgument
    | some switch =>
      match switch.takes, rest with
      | .nothing, _ => do
        let taken ← taken.flag switch
        short command taken rest
      | _, [] => taken.hold (.switch switch) none
      | _, c :: value =>
        taken.attached switch (if c = '=' then value else c :: value)

end Taken

/-- Two dashes alone, after which every argument is positional. -/
def isDivider (word : Text) : Bool := word = ['-', '-']

/-- Takes the arguments after a command. -/
def takeAll (command : Command) : Taken → List Text → Except UsageError Taken
  | taken, [] => taken.settle
  | taken, word :: rest =>
    match word with
    | ['-', '-'] => do
      let taken ← rest.foldlM Taken.positional taken
      taken.settle
    | '-' :: '-' :: body => do
      let taken ← taken.long command body
      takeAll command taken rest
    | '-' :: letter :: letters => do
      let taken ← taken.short command (letter :: letters)
      takeAll command taken rest
    | _ => do
      let taken ← taken.word word
      takeAll command taken rest

/-- Text on the command line excludes a path, and also a program to be read as it is. -/
def excludes (taken : Taken) : Bool :=
  taken.has (.switch .text) && (taken.has .input || taken.has (.switch .binary))

def request (command : Command) (taken : Taken) : Request :=
  let input : Input := ⟨taken.value? .input, taken.value? (.switch .text)⟩
  let color := ColorChoice.named ((taken.value? (.switch .color)).getD [])
  let strict := taken.has (.switch .strict)
  match command with
  | .compile =>
    .compile input (Format.named ((taken.value? (.switch .format)).getD []))
      (taken.value? (.switch .output)) strict color
  | .check => .check input strict color
  | .dump => .dump input (taken.has (.switch .binary)) color
  | .spec => .spec input (taken.has (.switch .compact))

def helpWord : Text := "help".toList

def isCommandWord (word : Text) : Bool := (Command.named? word).isSome || word = helpWord

/-- The help on a command: only the commands have one, and none has anything below it. -/
def parseHelp : List Text → UsageError
  | [] => .help
  | [word] => if isCommandWord word then .help else .unknownCommand
  | _ => .unknownCommand

/-- An option in front of the command. -/
def parseLeading : Text → UsageError
  | '-' :: '-' :: body =>
    match Text.splitFirst '=' body with
    | some (name, _) =>
      if name = helpWord ∨ name = "version".toList then .unwantedValue else .unknownArgument
    | none =>
      if body = helpWord then .help
      else if body = "version".toList then .version
      else .unknownArgument
  | '-' :: letter :: _ =>
    if letter = 'h' then .help else if letter = 'V' then .version else .unknownArgument
  | _ => .unknownCommand

/-- What comes after two dashes is never taken for a command. Where it is the word for one, the dashes
are what is wrong. -/
def parseDivided : List Text → UsageError
  | [] => .noCommand
  | word :: _ => if isCommandWord word then .unknownArgument else .unknownCommand

/-- Reads a whole command line, without the name of the program. -/
def parse : List Text → Except UsageError Request
  | [] => .error .noCommand
  | word :: rest =>
    if isDivider word then .error (parseDivided rest)
    else
      match Command.named? word with
      | some command => do
        let taken ← takeAll command {} rest
        if excludes taken then .error .conflict else .ok (request command taken)
      | none => .error (if word = helpWord then parseHelp rest else parseLeading word)

end CommandLine
end LedPattern
