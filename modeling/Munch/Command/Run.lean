/-
  Munch.Command.Run — what a command line does: the status it ends with, what it prints,
  and what it says on standard error.

  A command prints its results and records events; the settings decide only which of
  the events are shown, and how labels and help look. A command that fails prints
  nothing but what a session printed before it failed, and ends with a line that says
  why, after the log. Whatever the command, notices about the settings come first.
-/

import Munch.Command.Arguments
import Munch.Command.Settings
import Munch.Command.Tree
import Munch.Repl
import Munch.Token.Json

namespace Munch.Command

/-- What a command did. -/
structure Outcome where
  output : String
  events : List Event
  fault : Option Fault
  deriving DecidableEq, Repr

namespace Outcome

def fail (events : List Event) (fault : Fault) : Outcome := ⟨"", events, some fault⟩

end Outcome

def tokensText (format : Format) (tokens : List Token) : String :=
  match format with
  | .text => dump tokens
  | .json => (Token.streamToJson tokens).write .pretty

def runTokens (world : World) (input : String) (format : Format) : Outcome :=
  match world.source input with
  | .error fault => .fail [.scanning input] fault
  | .ok source =>
    let reading := scan source
    ⟨unlines [tokensText format reading.tokens], .scanning input :: reading.events, none⟩

def runCheck (coloured : Bool) (world : World) (input : String) : Outcome :=
  match world.source input with
  | .error fault => .fail [.checking input] fault
  | .ok source =>
    let reading := scan source
    let events := .checking input :: reading.events
    match rejectIllegal reading.tokens with
    | .error failure => .fail events (.refused failure)
    | .ok () => ⟨unlines [paint coloured .green "success" ++ ": no illegal characters"], events, none⟩

def keywordLine (k : Keyword) : String := alignLeft 8 k.spelling ++ " " ++ k.name

def runKeywords (coloured : Bool) : Outcome :=
  ⟨unlines (paint coloured .blue "=== Keywords ===" :: Keyword.all.map keywordLine), [], none⟩

/-- Why a session fails that ends so, if it does. -/
def faultOf : Repl.Ending → Option Fault
  | .closed => none
  | .brokenOff => some .lineNotText

/-- What a single response of a session comes to. -/
def Outcome.ofResponse (response : Repl.Response) : Outcome :=
  ⟨response.output, response.events, response.ending.bind faultOf⟩

def runRepl (coloured : Bool) (world : World) : Outcome :=
  let responses := Repl.converse world.stdin.lines
  { output := Repl.output coloured responses
    events := responses.flatMap Repl.Response.events
    fault := (responses.findSome? Repl.Response.ending).bind faultOf }

def perform (coloured : Bool) (world : World) : Command → Outcome
  | tokens input format => runTokens world input format
  | check input => runCheck coloured world input
  | keywords => runKeywords coloured
  | repl => runRepl coloured world

/-- What a run leaves: its status, its output, the notices and the lines of the log, and the line
    that says why it failed. -/
structure Report where
  status : Nat
  stdout : String
  notices : List String
  log : List String
  error : Option String
  deriving DecidableEq, Repr

namespace Report

def stderr (r : Report) : String := String.join (r.notices ++ r.log) ++ r.error.getD ""

/-- A run that only prints. -/
def ofText (text : String) : Report := ⟨0, text, [], [], none⟩

def misuse : Report := ⟨2, "", [], [], some Help.usage⟩

def errorLine (coloured : Bool) (fault : Fault) : String :=
  unlines [paint coloured .red "error" ++ ": " ++ fault.message]

def ofOutcome (settings : Settings) (verbose : Bool) (outcome : Outcome) : Report :=
  { status := if outcome.fault.isSome then 1 else 0
    stdout := outcome.output
    notices := []
    log := settings.log verbose outcome.events
    error := outcome.fault.map (errorLine settings.coloured) }

end Report

/-- What an invocation does, the notices left out. -/
def answer (settings : Settings) (world : World) : Invocation → Report
  | .run command verbose => .ofOutcome settings verbose (command.perform settings.coloured world)
  | .help topic detail => .ofText (Help.text settings.styledHelp topic detail)
  | .version => .ofText Help.version
  | .misuse => .misuse

def run (settings : Settings) (world : World) (invocation : Invocation) : Report :=
  { answer settings world invocation with notices := settings.notices }

/-- A run reports what its command does, and nothing else of the world. -/
theorem run_of_perform {settings : Settings} {world : World} {command : Command} {did : Outcome}
    (h : command.perform settings.coloured world = did) (verbose : Bool) :
    run settings world (.run command verbose) =
      { Report.ofOutcome settings verbose did with notices := settings.notices } := by
  rw [run, answer, h]

end Munch.Command
