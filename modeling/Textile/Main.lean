import Textile.Command

/-!
# The program

Runs the command on the machine: its streams, its files.
-/

namespace Textile.Command

/-- Why the machine could not do something. -/
def Obstacle.ofError : IO.Error → Obstacle
  | .noFileOrDirectory _ _ _ => .noSuchFile
  | .inappropriateType _ 21 _ => .isFolder
  | .inappropriateType _ _ _ => .isNoFolder
  | error => .other (toString error)

/-- Does something on the machine, and says what stood in the way. -/
def attempt {α : Type} (action : IO α) : IO (Except Obstacle α) := do
  return (← action.toBaseIO).mapError .ofError

/-- All bytes of a stream. -/
partial def readAll (stream : IO.FS.Stream) (bytes : ByteArray) : IO ByteArray := do
  let chunk ← stream.read 65536
  if chunk.isEmpty then return bytes else readAll stream (bytes ++ chunk)

instance : Host IO where
  readInput := attempt do readAll (← IO.getStdin) .empty
  readFile path := attempt (IO.FS.readBinFile path)
  writeOutput text := attempt do
    let stream ← IO.getStdout
    stream.putStr text
    stream.flush
  writeFile path text := attempt (IO.FS.writeFile path text)
  writeMessage text := do (← IO.getStderr).putStr text

end Textile.Command

/-- Runs the command with the arguments of the program. -/
def main (arguments : List String) : IO UInt32 :=
  Textile.Command.run arguments
