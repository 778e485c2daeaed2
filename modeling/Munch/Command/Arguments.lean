/-
  Munch.Command.Arguments — what a command line asks for, and what it can say about itself.

  Arguments are read from left to right, and the first that settles the matter wins:
  help, the version or a misuse. A flag may be given before the command and after it,
  once in each place; short flags may share an argument, and are then taken letter by
  letter. After `--` every argument is an operand, whatever it looks like; before the
  command there is no operand to follow it.

  Of the commands only `tokens` has more to say in full than in brief. Headings are styled,
  and so is what is to be typed as it stands.
-/

import Munch.Text.Lines

namespace Munch.Command

inductive Name where
  | tokens
  | check
  | keywords
  | repl
  deriving DecidableEq, Repr

def Name.ofText? : String → Option Name
  | "tokens" => some .tokens
  | "check" => some .check
  | "keywords" => some .keywords
  | "repl" => some .repl
  | _ => none

inductive Format where
  | text
  | json
  deriving DecidableEq, Repr

def Format.ofText? : String → Option Format
  | "text" => some .text
  | "json" => some .json
  | _ => none

/-- What help is asked about. -/
inductive Topic where
  | program
  | command (name : Name)
  | help
  deriving DecidableEq, Repr

inductive Detail where
  | brief
  | full
  deriving DecidableEq, Repr

end Command

/-- A command with all it needs. -/
inductive Command where
  | tokens (input : String) (format : Command.Format)
  | check (input : String)
  | keywords
  | repl
  deriving DecidableEq, Repr

namespace Command

inductive Invocation where
  | run (command : Command) (verbose : Bool)
  | help (topic : Topic) (detail : Detail)
  | version
  | misuse
  deriving DecidableEq, Repr

/-- An argument by its shape. -/
inductive Word where
  | operand (text : String)
  | separator
  | long (name : String) (value : Option String)
  | short (letters : List Char)
  deriving DecidableEq, Repr

def Word.ofText (text : String) : Word :=
  match text.toList with
  | ['-', '-'] => .separator
  | '-' :: '-' :: rest =>
    let name := rest.takeWhile (· != '=')
    let value := match rest.dropWhile (· != '=') with
      | [] => none
      | _ :: value => some (String.ofList value)
    .long (String.ofList name) value
  | '-' :: c :: letters => .short (c :: letters)
  | _ => .operand text

/-- What the arguments after the command have given so far. -/
structure Given where
  verbose : Bool
  format : Option Format
  input : Option String
  deriving DecidableEq, Repr

namespace Given

def nothing : Given := ⟨false, none, none⟩

/-- Either the matter is settled, or the rest of the arguments is to be read. -/
abbrev Parsed := Except Invocation

def setVerbose (g : Given) : Parsed Given :=
  if g.verbose then throw .misuse else pure { g with verbose := true }

def setFormat (name : Name) (g : Given) (value : String) : Parsed Given :=
  match name, g.format, Format.ofText? value with
  | .tokens, none, some format => pure { g with format := some format }
  | _, _, _ => throw .misuse

/-- Only `tokens` and `check` take an operand, just one, and not an empty one. -/
def addOperand (name : Name) (g : Given) (text : String) : Parsed Given :=
  match name, g.input with
  | .tokens, none => if text.isEmpty then throw .misuse else pure { g with input := some text }
  | .check, none => if text.isEmpty then throw .misuse else pure { g with input := some text }
  | _, _ => throw .misuse

def addLetter (name : Name) (g : Given) : Char → Parsed Given
  | 'v' => g.setVerbose
  | 'h' => throw (.help (.command name) .brief)
  | _ => throw .misuse

def addLong (name : Name) (g : Given) : String → Option String → Parsed Given
  | "verbose", none => g.setVerbose
  | "help", none => throw (.help (.command name) .full)
  | "format", some value => g.setFormat name value
  | _, _ => throw .misuse

/-- Reads the arguments that follow the command. -/
def read (name : Name) (g : Given) : List String → Parsed Given
  | [] => pure g
  | arg :: rest =>
    match Word.ofText arg with
    | .operand text => do (← g.addOperand name text).read name rest
    | .separator => rest.foldlM (addOperand name) g
    | .short letters => do (← letters.foldlM (addLetter name) g).read name rest
    | .long "format" none =>
      match rest with
      | value :: rest => do (← g.setFormat name value).read name rest
      | [] => throw .misuse
    | .long flag value => do (← g.addLong name flag value).read name rest

/-- The command, once all arguments are read. -/
def command? (g : Given) : Name → Option Command
  | .tokens => g.input.map fun input => .tokens input (g.format.getD .text)
  | .check => g.input.map .check
  | .keywords => some .keywords
  | .repl => some .repl

end Given

namespace Invocation

def ofCommandArguments (verbose : Bool) (name : Name) (args : List String) : Invocation :=
  match Given.nothing.read name args with
  | .error settled => settled
  | .ok g =>
    match g.command? name with
    | some command => .run command (verbose || g.verbose)
    | none => .misuse

/-- `help` takes the name of a command, or nothing. -/
def ofHelpArguments : List String → Invocation
  | [] => .help .program .full
  | ["help"] => .help .help .full
  | [text] =>
    match Name.ofText? text with
    | some name => .help (.command name) .full
    | none => .misuse
  | _ => .misuse

/-- The flags before the command; `verbose` is whether that flag was given already. -/
def flag (verbose : Bool) : Char → Except Invocation Bool
  | 'v' => if verbose then throw .misuse else pure true
  | 'h' => throw (.help .program .brief)
  | 'V' => throw .version
  | _ => throw .misuse

def longFlag (verbose : Bool) : String → Option String → Except Invocation Bool
  | "verbose", none => flag verbose 'v'
  | "help", none => throw (.help .program .full)
  | "version", none => throw .version
  | _, _ => throw .misuse

def ofArgumentsAfter (verbose : Bool) : List String → Invocation
  | [] => .misuse
  | arg :: rest =>
    match Word.ofText arg with
    | .operand "help" => ofHelpArguments rest
    | .operand text =>
      match Name.ofText? text with
      | some name => ofCommandArguments verbose name rest
      | none => .misuse
    | .separator => .misuse
    | .short letters =>
      match letters.foldlM flag verbose with
      | .error settled => settled
      | .ok verbose => ofArgumentsAfter verbose rest
    | .long name value =>
      match longFlag verbose name value with
      | .error settled => settled
      | .ok verbose => ofArgumentsAfter verbose rest

def ofArguments (args : List String) : Invocation := ofArgumentsAfter false args

end Invocation

/-! ## Help -/

namespace Help

def version : String := unlines ["tinylex 0.1.0"]

def blank : StyledLine := []

def plain (text : String) : StyledLine := [.plain text]

def title (text : String) : StyledLine := [.heading (text ++ ":")]

/-- How a command is called, and what follows its name. -/
def usageLine (path rest : String) : StyledLine :=
  [.heading "Usage:", .plain " ", .strong path, .plain (" " ++ rest)]

def commandLine (name about : String) : StyledLine :=
  [.plain "  ", .strong name, .plain (spaces (10 - name.length) ++ about)]

def optionNames (short long : String) : StyledLine := [.plain "  ", .strong short, .plain ", ", .strong long]

/-- An option with what it does, from a common column on. -/
def optionLine (width : Nat) (short long about : String) : StyledLine :=
  optionNames short long ++ [.plain (spaces (width - long.length) ++ about)]

/-- The options that every command has. -/
def commonOptions : List StyledLine :=
  [optionLine 11 "-v" "--verbose" "Enable verbose output", optionLine 11 "-h" "--help" "Print help"]

def inputArgument : List StyledLine :=
  [title "Arguments", plain "  <INPUT>  The source file to scan, or `-` for stdin"]

def program : List StyledLine :=
  [plain "Lexical scanner for a small C-like scripting language",
    blank,
    usageLine "tinylex" "[OPTIONS] <COMMAND>",
    blank,
    title "Commands",
    commandLine "tokens" "Print the token stream of a source file",
    commandLine "check" "Fail if a source file contains illegal characters",
    commandLine "keywords" "List the reserved words",
    commandLine "repl" "Start an interactive REPL that prints tokens for each line",
    commandLine "help" "Print this message or the help of the given subcommand(s)",
    blank,
    title "Options"] ++ commonOptions ++ [optionLine 11 "-V" "--version" "Print version"]

def tokensBrief : List StyledLine :=
  [plain "Print the token stream of a source file",
    blank,
    usageLine "tinylex tokens" "[OPTIONS] <INPUT>",
    blank] ++ inputArgument ++
  [blank,
    title "Options",
    [.plain "      ", .strong "--format",
      .plain " <FORMAT>  Output format [default: text] [possible values: text, json]"],
    optionLine 19 "-v" "--verbose" "Enable verbose output",
    optionLine 19 "-h" "--help" "Print help (see more with '--help')"]

def formatValue (value about : String) : StyledLine := [.plain "          - ", .strong value, .plain (": " ++ about)]

def tokensFull : List StyledLine :=
  [plain "Print the token stream of a source file",
    blank,
    usageLine "tinylex tokens" "[OPTIONS] <INPUT>",
    blank,
    title "Arguments",
    plain "  <INPUT>",
    plain "          The source file to scan, or `-` for stdin",
    blank,
    title "Options",
    [.plain "      ", .strong "--format", .plain " <FORMAT>"],
    plain "          Output format",
    blank,
    plain "          Possible values:",
    formatValue "text" "One token per line (default)",
    formatValue "json" "JSON array of \x7bkind, text\x7d objects",
    plain "          ",
    plain "          [default: text]",
    blank,
    optionNames "-v" "--verbose",
    plain "          Enable verbose output",
    blank,
    optionNames "-h" "--help",
    plain "          Print help (see a summary with '-h')"]

def check : List StyledLine :=
  [plain "Fail if a source file contains illegal characters",
    blank,
    usageLine "tinylex check" "[OPTIONS] <INPUT>",
    blank] ++ inputArgument ++ [blank, title "Options"] ++ commonOptions

def keywords : List StyledLine :=
  [plain "List the reserved words",
    blank,
    usageLine "tinylex keywords" "[OPTIONS]",
    blank,
    title "Options"] ++ commonOptions

def repl : List StyledLine :=
  [plain "Start an interactive REPL that prints tokens for each line",
    blank,
    usageLine "tinylex repl" "[OPTIONS]",
    blank,
    title "Options"] ++ commonOptions

def help : List StyledLine :=
  [plain "Print this message or the help of the given subcommand(s)",
    blank,
    usageLine "tinylex help" "[COMMAND]...",
    blank,
    title "Arguments",
    plain "  [COMMAND]...  Print help for the subcommand(s)"]

def lines : Topic → Detail → List StyledLine
  | .program, _ => program
  | .command .tokens, .brief => tokensBrief
  | .command .tokens, .full => tokensFull
  | .command .check, _ => check
  | .command .keywords, _ => keywords
  | .command .repl, _ => repl
  | .help, _ => help

def text (styled : Bool) (topic : Topic) (detail : Detail) : String := renderLines styled (lines topic detail)

/-- What a misuse is answered with. -/
def usage : String :=
  renderLines false [usageLine "tinylex" "[OPTIONS] <COMMAND>", blank, plain "For more information, try '--help'."]

end Help

end Munch.Command
