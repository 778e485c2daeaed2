/-
  Munch.Token.Dump — tokens for people: the dump of a stream, and why a stream is refused.

  A dump has one line for each token, with its index in a column of four; the index says
  nothing that the order of the lines does not, so reading a dump back passes over it.

  Scanning itself refuses nothing: a stray character is a token like any other. A check
  refuses a stream that holds one, and names every one of them, in order and with
  repetitions.
-/

import Munch.Text.Lines
import Munch.Token

namespace Munch

def dumpLine (index : Nat) (t : Token) : String := alignRight 4 index.repr ++ ": " ++ t.display

/-- The lines are separated, not ended, by line feeds. -/
def dump (tokens : List Token) : String := "\n".intercalate (tokens.zipIdx.map fun (t, i) => dumpLine i t)

/-! ## Reading -/

namespace Dump

/-- The token of a line: a name up to the next space, then a quoted text that ends the line. -/
def readToken? (line : List Char) : Option Token :=
  (Kind.ofName? (String.ofList (line.takeWhile (· != ' ')))).bind fun kind =>
    match Quoted.read? ((line.dropWhile (· != ' ')).drop 1) with
    | some (text, []) => some ⟨kind, text⟩
    | _ => none

def readLine? (line : List Char) : Option Token := readToken? ((line.dropWhile (· != ':')).drop 2)

def read? (text : String) : Option (List Token) :=
  if text.isEmpty then some [] else (text.toList.splitOn '\n').mapM readLine?

end Dump

/-! ## Failures -/

inductive Failure where
  /-- An input could not be read. -/
  | unreadable (path message : String)
  /-- A stream holds illegal characters. -/
  | illegalCharacters (count : Nat) (characters : List String)
  | other (message : String)
  deriving DecidableEq, Repr

namespace Failure

def quotedList (texts : List String) : String := ", ".intercalate (texts.map Quoted.encode)

def message : Failure → String
  | unreadable path message => "failed to read " ++ path ++ ": " ++ message
  | illegalCharacters count characters => count.repr ++ " illegal character(s): " ++ quotedList characters
  | other message => message

def inspect : Failure → String
  | unreadable path message =>
    "Io \x7b path: " ++ Quoted.encode path ++ ", message: " ++ Quoted.encode message ++ " \x7d"
  | illegalCharacters count characters =>
    "IllegalCharacters \x7b count: " ++ count.repr ++ ", characters: [" ++ quotedList characters ++ "] \x7d"
  | other message => "Other(" ++ Quoted.encode message ++ ")"

/-- A reading failure of an input that has no path. -/
def ofReading (message : String) : Failure := unreadable "<input>" message

end Failure

def rejectIllegal (tokens : List Token) : Except Failure Unit :=
  let characters := (tokens.filter fun t => t.kind == .illegal).map Token.text
  if characters.isEmpty then .ok () else .error (.illegalCharacters characters.length characters)

end Munch
