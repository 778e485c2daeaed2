/-
  Munch.Repl — the interactive session. A prompt asks for a line; a line is answered by
  itself, with the tokens it holds, whatever came before it (`respond`).

  A line is a command when it is one without the blanks around it, and says nothing
  when it is all blanks; any other line is scanned as it stands, blanks included. The
  session closes at `:quit` or at the end of its input, and breaks off at a line that
  is not text. What follows the line it stops at is never looked at.
-/

import Munch.Token.Stream

namespace Munch.Repl

inductive Line where
  | quit
  | help
  | blank
  | source (text : String)
  deriving DecidableEq, Repr

def Line.ofText (text : String) : Line :=
  match trim text with
  | ":quit" => .quit
  | ":q" => .quit
  | ":help" => .help
  | ":h" => .help
  | "" => .blank
  | _ => .source text

inductive Ending where
  | closed
  | brokenOff
  deriving DecidableEq, Repr

/-- What a session does once its prompt is answered: what it prints, what the transcript says
    meanwhile, and how the session ends if it does. -/
structure Response where
  output : String
  events : List Event
  ending : Option Ending
  deriving DecidableEq, Repr

namespace Response

def silent : Response := ⟨"", [], none⟩

def help : Response :=
  { output := unlines
      ["REPL commands:",
        "  :quit, :q    Exit the REPL",
        "  :help, :h    Show this help message",
        "",
        "Any other input is scanned and its tokens printed."]
    events := []
    ending := none }

/-- A line for each token of the source, without the end. -/
def tokens (source : String) : Response :=
  let turns := (Scanner.ofString source).turnsToEnd
  { output := unlines ((Turn.lexemes turns).map Token.display)
    events := turns.flatMap Turn.events
    ending := none }

def farewell : Response := ⟨unlines ["Goodbye!"], [], some .closed⟩

def unreadable : Response := ⟨"", [], some .brokenOff⟩

def ofText (text : String) : Response :=
  match Line.ofText text with
  | .quit => farewell
  | .help => help
  | .blank => silent
  | .source source => tokens source

end Response

/-- The response to a line, or to the end of the input. -/
def respond : Option Bytes → Response
  | none => .farewell
  | some line =>
    match line.text? with
    | none => .unreadable
    | some text => .ofText text

/-- `converse` with the responses already given, newest first. -/
def converseAfter (given : List Response) : List Bytes → List Response
  | [] => (respond none :: given).reverse
  | line :: rest =>
    let response := respond (some line)
    if response.ending.isSome then (response :: given).reverse else converseAfter (response :: given) rest

/-- The responses to some lines, up to the one that ends the session. -/
def converse (lines : List Bytes) : List Response := converseAfter [] lines

theorem converseAfter_eq (given : List Response) (lines : List Bytes) :
    converseAfter given lines = given.reverse ++ converse lines := by
  unfold converse
  induction lines generalizing given with
  | nil => simp [converseAfter]
  | cons line rest ih =>
    simp only [converseAfter]
    split
    · simp
    · rw [ih, ih [_]]
      simp

def opening (coloured : Bool) : String :=
  unlines [paint coloured .blue "tinylex REPL", "Type ':quit' or ':q' to exit, ':help' for help", ""]

def prompt : String := ">> "

/-- All that a session prints: every response stands behind a prompt. -/
def output (coloured : Bool) (responses : List Response) : String :=
  opening coloured ++ String.join (responses.map fun r => prompt ++ r.output)

end Munch.Repl
