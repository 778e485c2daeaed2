/-
  Munch.Command.Tree — where a command's source comes from, and why it cannot be read.

  A path names standard input when it is a hyphen by its components: slashes after it and
  single dots between them change nothing, but a dot and a slash before it make it a file.

  Any other path is walked from the working directory, piece by piece. An empty piece and a
  single dot stay where they are, two dots go up, and any other piece goes down, which only
  a directory allows. Above the working directory, and from the root, there is nothing to go
  down to.
-/

import Munch.Token.Dump

namespace Munch.Command

/-- The pieces of a path between slashes, empty ones included. -/
def pathPieces (path : String) : List String := (path.toList.splitOn '/').map String.ofList

def isStdin (path : String) : Bool :=
  match pathPieces path with
  | "-" :: rest => rest.all fun piece => piece == "" || piece == "."
  | _ => false

inductive ReadFault where
  | notFound
  | notDirectory
  | isDirectory
  | nameTooLong
  /-- Any other fault that the system reports. -/
  | system (description : String) (code : Nat)
  deriving DecidableEq, Repr

namespace ReadFault

def describe (description : String) (code : Nat) : String :=
  description ++ " (os error " ++ code.repr ++ ")"

def message : ReadFault → String
  | notFound => describe "No such file or directory" 2
  | notDirectory => describe "Not a directory" 20
  | isDirectory => describe "Is a directory" 21
  | nameTooLong => describe "File name too long" 36
  | system description code => describe description code

end ReadFault

/-- What a command can read: its standard input, and whatever files there are. -/
structure World where
  stdin : Bytes
  file : String → Except ReadFault Bytes

inductive Fault where
  | refused (failure : Failure)
  /-- Standard input is no text. -/
  | stdinNotText
  /-- A line of standard input is no text. -/
  | lineNotText
  deriving DecidableEq, Repr

def Fault.message : Fault → String
  | refused failure => failure.message
  | stdinNotText => "Failed to read source from stdin"
  | lineNotText => "Failed to read from stdin"

def World.source (world : World) (path : String) : Except Fault String :=
  if isStdin path then
    match world.stdin.text? with
    | some source => pure source
    | none => throw .stdinNotText
  else
    match world.file path with
    | .error fault => throw (.refused (.unreadable path fault.message))
    | .ok bytes =>
      match bytes.text? with
      | some source => pure source
      | none => throw (.refused (.unreadable path "stream did not contain valid UTF-8"))

/-! ## Files and directories -/

inductive Entry where
  | directory
  | file (content : Bytes)
  deriving DecidableEq, Repr

/-- What stands at a path, given by its components; `[]` is the working directory. -/
abbrev Tree := List String → Option Entry

namespace Tree

/-- The tree with the given entries and the directories above them; an entry without content is a directory. -/
def ofEntries (entries : List (String × Option Bytes)) : Tree := fun path =>
  let named := entries.map fun (name, content) =>
    ((pathPieces name).filter fun piece => piece != "" && piece != ".", content)
  match named.find? fun e => e.1 == path with
  | some (_, some content) => some (.file content)
  | some (_, none) => some .directory
  | none => if path.isEmpty || named.any fun e => path.isPrefixOf e.1 then some .directory else none

/-- Where a walk has come. -/
inductive Place where
  | inside (path : List String)
  /-- Above the working directory, or at the root. -/
  | outside
  | file (content : Bytes)
  deriving DecidableEq, Repr

def parent : List String → Place
  | [] => .outside
  | path => .inside path.dropLast

def nameLimit : Nat := 255

def pathLimit : Nat := 4096

def step (tree : Tree) (place : Place) (piece : String) : Except ReadFault Place :=
  match place with
  | .file _ => throw .notDirectory
  | .outside =>
    if piece = "" ∨ piece = "." ∨ piece = ".." then pure .outside
    else if piece.utf8ByteSize > nameLimit then throw .nameTooLong
    else throw .notFound
  | .inside path =>
    if piece = "" ∨ piece = "." then pure place
    else if piece = ".." then pure (parent path)
    else if piece.utf8ByteSize > nameLimit then throw .nameTooLong
    else
      match tree (path ++ [piece]) with
      | none => throw .notFound
      | some .directory => pure (.inside (path ++ [piece]))
      | some (.file content) => pure (.file content)

def read (tree : Tree) (path : String) : Except ReadFault Bytes := do
  if path.isEmpty then throw .notFound
  if path.utf8ByteSize ≥ pathLimit then throw .nameTooLong
  let start := if path.front = '/' then Place.outside else .inside []
  match ← (pathPieces path).foldlM (step tree) start with
  | .file content => pure content
  | _ => throw .isDirectory

end Tree

end Munch.Command
