import Textile.Command.Arguments
import Textile.Command.Host
import Textile.Writer

/-!
# The command

The command converts one HTML document: it reads a file or the standard input, and writes a file or
the standard output. Everything is read and converted before anything is written, so that a command
that fails leaves all files as they are.
-/

namespace Textile.Command

open Textile.Unicode

/-- Why a command fails. -/
inductive Failure
  | read (path : String) (obstacle : Obstacle)
  | write (path : String) (obstacle : Obstacle)
  deriving Repr, DecidableEq

/-- The message about a failure. -/
def Failure.message : Failure → String
  | read path obstacle => "failed to read " ++ path ++ ": " ++ obstacle.message
  | write path obstacle => "failed to write " ++ path ++ ": " ++ obstacle.message

namespace Request

/-- The options of the conversion that a request asks for. -/
def options (request : Request) : Options where
  tidySource := !request.keepsLayout
  trimResult := !request.keepsEnds
  ignored := request.ignored.map lowercase

/-- The file to read, unless the standard input is meant. -/
def inputFile? (request : Request) : Option String :=
  request.input?.filter (· ≠ "-")

/-- The text of a document, given as bytes. -/
def decode (name : String) (bytes : ByteArray) : Except Failure String :=
  match String.fromUTF8? bytes with
  | some html => .ok html
  | none => .error (.read name .notUtf8)

/-- The text with a newline at its end, unless it is empty. -/
def closeLine (text : String) : String :=
  if text.isEmpty ∨ text.toList.getLast? = some '\n' then text else text.push '\n'

/-- What is written for a document. -/
def written (request : Request) (html : String) : String :=
  closeLine (convert request.options html)

variable {m : Type → Type} [Monad m] [Host m]

/-- Reads the document that a request asks for. -/
def readDocument (request : Request) : m (Except Failure String) := do
  match request.inputFile? with
  | some path =>
    let bytes ← Host.readFile path
    return (bytes.mapError (.read path)).bind (decode path)
  | none =>
    let bytes ← Host.readInput
    return (bytes.mapError (.read "stdin")).bind (decode "stdin")

/-- Writes where a request asks for. -/
def writeResult (request : Request) (text : String) : m (Except Failure Unit) := do
  match request.output? with
  | some path => return (← Host.writeFile path text).mapError (.write path)
  | none => return (← Host.writeOutput text).mapError (.write "stdout")

/-- Does what a request asks for. -/
def run (request : Request) : m (Except Failure Unit) := do
  match ← request.readDocument with
  | .ok html => request.writeResult (request.written html)
  | .error failure => return .error failure

end Request

/-- The name of the command. -/
def name : String := "html-to-textile"

/-- The version of the command. -/
def version : String := "0.1.0"

/-- How the command is called. -/
def usage : String :=
  "Usage: " ++ name ++ " [OPTIONS] [INPUT]\n"

/-- What the command says about itself. -/
def help : String :=
  String.join (["Convert HTML to Textile", "", usage,
    "Arguments:",
    "  [INPUT]  HTML file to convert (- or omitted reads stdin)",
    "",
    "Options:",
    "  -o, --output <FILE>           Write the Textile to this file instead of stdout",
    "      --keep-source-whitespace  Keep source indentation instead of collapsing it",
    "      --no-trim                 Do not trim whitespace from the ends of the result",
    "      --ignore <TAG>            Skip elements with this name and everything inside them",
    "  -h, --help                    Print help",
    "  -V, --version                 Print version"].map (·.push '\n'))

variable {m : Type → Type} [Monad m] [Host m]

/-- Runs the command: does what its arguments ask for and gives its exit code. -/
def run (arguments : List String) : m UInt32 := do
  match Invocation.ofArguments arguments with
  | .ok (.convert request) =>
    match ← request.run with
    | .ok () => return 0
    | .error failure =>
      Host.writeMessage (name ++ ": " ++ failure.message ++ "\n")
      return 1
  | .ok .help =>
    let _ ← Host.writeOutput help
    return 0
  | .ok .version =>
    let _ ← Host.writeOutput (name ++ " " ++ version ++ "\n")
    return 0
  | .error error =>
    Host.writeMessage ("error: " ++ error.message ++ "\n\n" ++ usage)
    return 2

end Textile.Command
