import LedPattern.CommandLine.Arguments
import LedPattern.CommandLine.FileTree
import LedPattern.Program.Listing
import LedPattern.Report
import LedPattern.Text.Utf8
/-!
Answering a request. The answer is worked out before anything is written, and says which file is to be
written, if any: so a request that fails has touched nothing.
-/
namespace LedPattern
namespace CommandLine

/-- What a request can read. -/
structure Host where
  stdin : List UInt8
  read : Text → Except FileError (List UInt8)
  /-- Both output streams go to a terminal. -/
  terminal : Bool := false

/-- Why there is no input. -/
inductive LoadError where
  | missing
  | stdin (error : FileError)
  | file (path : Text) (error : FileError)
  | empty
deriving DecidableEq, Repr

namespace LoadError

def message : LoadError → Text
  | missing =>
    "input is required: use a positional argument, - for stdin, or -t/--text".toList
  | stdin error => "failed to read stdin: ".toList ++ error.message
  | file path error => "failed to read '".toList ++ path ++ "': ".toList ++ error.message
  | empty => "input is empty".toList

end LoadError

namespace Input

/-- The bytes that a path stands for. -/
def bytes (host : Host) (input : Input) : Except LoadError (List UInt8) :=
  match input.path with
  | none => .error .missing
  | some path =>
    if path = ['-'] then .ok host.stdin
    else
      match host.read path with
      | .ok bytes => .ok bytes
      | .error e => .error (.file path e)

/-- The text that a path stands for. -/
def pathText (host : Host) (input : Input) : Except LoadError Text :=
  match input.path with
  | none => .error .missing
  | some path => do
    let bytes ← input.bytes host
    match Text.ofUtf8? bytes with
    | some text => .ok text
    | none => .error (if path = ['-'] then .stdin .notText else .file path .notText)

/-- The pattern text of a request; it must not be blank. -/
def load (host : Host) (input : Input) : Except LoadError Text := do
  let text ←
    match input.text with
    | some text => .ok text
    | none => input.pathText host
  if (Text.trim text).isEmpty then .error .empty else .ok text

end Input

/-- The answer to a request. -/
structure Response where
  exitCode : Nat := 0
  stdout : List UInt8 := []
  stderr : Text := []
  /-- The file to be written, and its bytes. -/
  save : Option (Text × List UInt8) := none
deriving DecidableEq, Repr

namespace Response

/-- An error message after what has been printed already; nothing more is printed and nothing
written. -/
def failAfter (stderr message : Text) : Response :=
  { exitCode := 1, stderr := stderr ++ "error: ".toList ++ message ++ "\n".toList }

def fail (message : Text) : Response := failAfter [] message

def print (stderr text : Text) : Response := { stdout := Text.toUtf8 text, stderr }

/-- Bytes for a file, or for the standard output if there is none. -/
def deliver (stderr : Text) (output : Option Text) (bytes : List UInt8) : Response :=
  match output with
  | some path => { save := some (path, bytes), stderr }
  | none => { stdout := bytes, stderr }

/-- The response once it is known whether the file could be written. -/
def afterSaving (response : Response) : Except FileError Unit → Response
  | .ok _ => response
  | .error e => failAfter response.stderr e.message

end Response

/-- Warnings as they are printed, one to a line. -/
def warningLines (colored : Bool) (messages : List Text) : Text :=
  messages.flatMap fun message =>
    Terminal.paint colored .blue "warning:".toList ++ " ".toList ++ message ++ "\n".toList

/-- The bytes of a program as they are written out, other than in a report. -/
def Format.render (format : Format) (program : List UInt8) : List UInt8 :=
  match format with
  | .bin => program
  | .hex | .json => Text.toUtf8 (Text.hexBytes program ++ "\n".toList)

/-- A report is written whatever it says; in the other formats only a program that is accepted. -/
def answerCompile (text : Text) (format : Format) (output : Option Text) (strict colored : Bool) :
    Response :=
  let result := compile text
  if format = .json then
    let report := Report.ofResult strict result
    { Response.deliver [] output (Text.toUtf8 (report.text ++ "\n".toList)) with
      exitCode := if report.success then 0 else 1 }
  else
    match result with
    | .error e => .fail e.message
    | .ok compiled =>
      let warnings := warningLines colored compiled.messages
      if strict && !compiled.warnings.isEmpty then .failAfter warnings strictMessage
      else .deliver warnings output (format.render compiled.program.bytes)

def answerCheck (text : Text) (strict colored : Bool) : Response :=
  let verdict := Verdict.of text
  let warnings :=
    match verdict with
    | .valid messages => warningLines colored messages
    | .invalid _ => []
  match verdict.failure strict with
  | some message => .failAfter warnings message
  | none => { stderr := warnings }

/-- The listing of a program, under the name of its pattern. -/
def answerListing (stderr : Text) (bytes : List UInt8) (name : Option Text) (colored : Bool) :
    Response :=
  match Program.decode bytes with
  | .error e => .failAfter stderr e.message
  | .ok program =>
    let title :=
      match name with
      | some name => Terminal.paint colored .dim ("; ".toList ++ name) ++ "\n".toList
      | none => []
    .print stderr (title ++ program.listing colored)

def answerDump (text : Text) (colored : Bool) : Response :=
  match compile text with
  | .error e => .fail e.message
  | .ok compiled =>
    answerListing (warningLines colored compiled.messages) compiled.program.bytes
      compiled.pattern.name colored

def answerSpec (text : Text) (compact : Bool) : Response :=
  match (Source.detect text).read with
  | .error e => .fail e.message
  | .ok (pattern, warnings) =>
    let layout := if compact then Json.Layout.compact else Json.Layout.pretty
    .print (warningLines false (warnings.map Warning.message))
      (pattern.toJson.text layout ++ "\n".toList)

/-- Goes on with the input of a request, or fails for want of it. -/
def withText (host : Host) (input : Input) (answer : Text → Response) : Response :=
  match input.load host with
  | .ok text => answer text
  | .error e => .fail e.message

def answer (host : Host) : Request → Response
  | .compile input format output strict color =>
    withText host input fun text =>
      answerCompile text format output strict (color.isColored host.terminal)
  | .check input strict color =>
    withText host input fun text => answerCheck text strict (color.isColored host.terminal)
  | .dump input binary color =>
    let colored := color.isColored host.terminal
    if binary then
      match input.bytes host with
      | .ok bytes => answerListing [] bytes none colored
      | .error e => .fail e.message
    else withText host input fun text => answerDump text colored
  | .spec input compact => withText host input fun text => answerSpec text compact

def versionText : Text := "lcl 0.4.0\n".toList

def usageText : Text :=
  ("Usage: lcl <COMMAND> [OPTIONS] [INPUT]\n\n" ++
    "Commands:\n" ++
    "  compile  Compile a pattern to bytecode\n" ++
    "  check    Validate a pattern\n" ++
    "  dump     Show compiled bytecode field by field\n" ++
    "  spec     Print the resolved pattern as JSON\n\n" ++
    "INPUT is a pattern file, or - for stdin; -t/--text gives the pattern itself.\n").toList

/-- Help and version are printed; any other usage error shows how the program is used. -/
def UsageError.response (e : UsageError) : Response :=
  match e with
  | .help => .print [] usageText
  | .version => .print [] versionText
  | _ => { exitCode := e.exitCode, stderr := usageText }

/-- The answer to a whole command line. -/
def respond (host : Host) (arguments : List Text) : Response :=
  match parse arguments with
  | .ok request => answer host request
  | .error e => e.response

/-- A run among files: the answer, and the files afterwards. -/
def run (tree : FileTree) (stdin : List UInt8) (arguments : List Text) : Response × FileTree :=
  let response := respond { stdin, read := tree.read } arguments
  match response.save with
  | none => (response, tree)
  | some (path, bytes) =>
    match tree.write path bytes with
    | .ok after => (response.afterSaving (.ok ()), after)
    | .error e => (response.afterSaving (.error e), tree)

end CommandLine
end LedPattern
