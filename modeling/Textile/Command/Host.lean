import Textile.Text.Trim

/-!
# Hosts

Where the command runs: what it reads from and writes to. `Host` says what the command needs, and
`Desk` is a host that is a value: two streams and a tree of folders and files.
-/

namespace Textile.Command

open Textile.Text

/-- Why something cannot be read or written. -/
inductive Obstacle
  | noSuchFile
  | isFolder
  | isNoFolder
  /-- The bytes are not those of a text. -/
  | notUtf8
  | other (description : String)
  deriving Repr, DecidableEq

/-- The message about an obstacle. -/
def Obstacle.message : Obstacle → String
  | noSuchFile => "No such file or directory (os error 2)"
  | isFolder => "Is a directory (os error 21)"
  | isNoFolder => "Not a directory (os error 20)"
  | notUtf8 => "stream did not contain valid UTF-8"
  | other description => description

/-- Something that a command can run on. -/
class Host (m : Type → Type) where
  /-- All of the standard input. -/
  readInput : m (Except Obstacle ByteArray)
  /-- The content of a file. -/
  readFile : String → m (Except Obstacle ByteArray)
  /-- Writes to the standard output. -/
  writeOutput : String → m (Except Obstacle Unit)
  /-- Makes a text the content of a file. -/
  writeFile : String → String → m (Except Obstacle Unit)
  /-- Writes to the stream for messages. -/
  writeMessage : String → m Unit

/-! ## Folders and files -/

/-- A place in a tree: the names that lead to it from the current folder. -/
abbrev Place := List String

/-- Folders and files below the current folder. -/
structure Tree where
  folders : List Place
  files : List (Place × ByteArray)

namespace Tree

/-- Whether a place is outside: the root of all folders, or a folder around the current one. -/
def isOutside (place : Place) : Bool :=
  place.all fun name => name == "/" || name == ".."

/-- Whether there is a folder at a place. The current folder and those around it are there. -/
def isFolder (tree : Tree) (place : Place) : Bool :=
  isOutside place || tree.folders.contains place

/-- The content of the file at a place. -/
def content? (tree : Tree) (place : Place) : Option ByteArray :=
  tree.files.lookup place

/-- The place one step from another one. -/
def enter (tree : Tree) (place : Place) (name : String) : Except Obstacle Place :=
  if tree.isFolder place then
    .ok (match name with
      | "" | "." => place
      | ".." => if isOutside place then place ++ [".."] else place.dropLast
      | name => place ++ [name])
  else if (tree.content? place).isSome then .error .isNoFolder
  else .error .noSuchFile

/-- The names in a path, which slashes divide. -/
def names (path : String) : List String :=
  (pieces (· == '/') path.toList).map String.ofList

/-- The place that a path leads to. -/
def place? (tree : Tree) (path : String) : Except Obstacle Place :=
  (names path).foldlM tree.enter (if path.toList.head? = some '/' then ["/"] else [])

/-- The content of the file that a path leads to. -/
def read (tree : Tree) (path : String) : Except Obstacle ByteArray :=
  (tree.place? path).bind fun place =>
    if tree.isFolder place then .error .isFolder
    else match tree.content? place with
      | some content => .ok content
      | none => .error .noSuchFile

/-- Puts a content at a place: in place of the present one, or else as a new file. -/
def put (files : List (Place × ByteArray)) (place : Place) (content : ByteArray) :
    List (Place × ByteArray) :=
  match files with
  | [] => [(place, content)]
  | (other, present) :: rest =>
    if other = place then (place, content) :: rest else (other, present) :: put rest place content

/-- The tree with a content at the place that a path leads to. A path that ends in a slash leads to
a folder at best. -/
def write (tree : Tree) (path : String) (content : ByteArray) : Except Obstacle Tree :=
  let named := String.ofList (path.toList.reverse.dropWhile (· = '/')).reverse
  (tree.place? (if named.isEmpty then path else named)).bind fun place =>
    if tree.isFolder place ∨ path.toList.getLast? = some '/' then .error .isFolder
    else .ok { tree with files := put tree.files place content }

end Tree

/-- A host that is a value. -/
structure Desk where
  input : ByteArray
  tree : Tree
  output : String
  messages : String

namespace Desk

instance : Host (StateM Desk) where
  readInput := fun desk => (.ok desk.input, desk)
  readFile path := fun desk => (desk.tree.read path, desk)
  writeOutput text := fun desk => (.ok (), { desk with output := desk.output ++ text })
  writeFile path text := fun desk =>
    match desk.tree.write path text.toUTF8 with
    | .ok tree => (.ok (), { desk with tree })
    | .error obstacle => (.error obstacle, desk)
  writeMessage text := fun desk => ((), { desk with messages := desk.messages ++ text })

end Desk

end Textile.Command
