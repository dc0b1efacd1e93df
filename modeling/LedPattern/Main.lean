import LedPattern.CommandLine.Run
/-!
The command line program: reads what the request needs, works out the answer and carries it out.
-/
namespace LedPattern
namespace CommandLine

/-- The path that a request reads, unless it is the standard input. -/
def Request.path? : Request → Option Text
  | .compile input _ _ _ _ => input.path
  | .check input _ _ => input.path
  | .dump input _ _ => input.path
  | .spec input _ => input.path

/-- The text of a system error with its number. -/
def systemError (details : String) (code : UInt32) : FileError :=
  .other (details ++ " (os error " ++ toString code ++ ")").toList

/-- What the system said about a file. -/
def fileErrorOf : IO.Error → FileError
  | .noFileOrDirectory _ _ _ => .notFound
  | .inappropriateType _ code _ => if code = 20 then .notFolder else .isFolder
  | .permissionDenied _ code details => systemError details code
  | .invalidArgument _ code details => systemError details code
  | .resourceExhausted _ code details => systemError details code
  | e => .other (toString e).toList

def tryFile {α : Type} (action : IO α) : IO (Except FileError α) := do
  try
    let value ← action
    return .ok value
  catch e => return .error (fileErrorOf e)

def readBytes (path : Text) : IO (Except FileError (List UInt8)) :=
  tryFile do
    let handle ← IO.FS.Handle.mk (String.ofList path) .read
    let bytes ← handle.readBinToEnd
    return bytes.toList

def writeBytes (path : Text) (bytes : List UInt8) : IO (Except FileError Unit) :=
  tryFile (IO.FS.writeBinFile (String.ofList path) ⟨bytes.toArray⟩)

/-- What a command line can read: its file and its standard input are read at most once, and only if
the request names them. -/
def hostFor (arguments : List Text) : IO Host := do
  let terminal := (← (← IO.getStdout).isTty) && (← (← IO.getStderr).isTty)
  let path :=
    match parse arguments with
    | .ok request => request.path?
    | .error _ => none
  match path with
  | none => return { stdin := [], read := fun _ => .error .notFound, terminal }
  | some path =>
    if path = ['-'] then
      let bytes ← (← IO.getStdin).readBinToEnd
      return { stdin := bytes.toList, read := fun _ => .error .notFound, terminal }
    else
      let content ← readBytes path
      return { stdin := [], read := fun _ => content, terminal }

/-- Carries out what a response says and gives its exit code. -/
def perform (response : Response) : IO UInt32 := do
  let response ←
    match response.save with
    | none => pure response
    | some (path, bytes) => response.afterSaving <$> writeBytes path bytes
  (← IO.getStderr).putStr (String.ofList response.stderr)
  let stdout ← IO.getStdout
  stdout.write ⟨response.stdout.toArray⟩
  stdout.flush
  return UInt32.ofNat response.exitCode

end CommandLine
end LedPattern

open LedPattern.CommandLine in
def main (arguments : List String) : IO UInt32 := do
  let words := arguments.map String.toList
  let host ← hostFor words
  perform (respond host words)
