/-
  Munch.Pattern.Flaw — why a text is no pattern. A flaw points at the characters it is
  about: under the line of the pattern that holds them stand as many carets, at least
  one, from the first of them on. Of a pattern of several lines each line is numbered,
  and of characters on more than one line it is only said where they begin and end.

  One flaw is that parts are nested too deep. Of a pattern only the parts count that hold
  others: groups, repetitions, brackets, rows of parts, choices.
-/

import Munch.Text.Lines

namespace Munch.Pattern

/-- Places in a text, from the first to the one before `stop`. -/
structure Span where
  start : Nat
  stop : Nat
  deriving DecidableEq, Repr

/-- What may be wrong with the form of a pattern, and from `beyondAscii` on what may be wrong with its meaning. -/
inductive Cause where
  | classEscape
  | classRangeOrder
  | classRangeEnd
  | classUnclosed
  | repetitionEmptyCount
  | decimalTooLarge
  | hexEmpty
  | hexNoCharacter
  | hexDigit
  | escapeUnfinished
  | escapeUnknown
  | flagNegatesNothing
  | flagTwice
  | flagNegationTwice
  | flagUnfinished
  | flagUnknown
  | nameTwice
  | nameEmpty
  | nameCharacter
  | nameUnfinished
  | groupUnclosed
  | groupUnopened
  | repetitionOrder
  | repetitionUnclosed
  | repetitionOfNothing
  | edgeUnclosed
  | edgeUnknown
  | edgeUnfinished
  | propertyName
  | backreference
  | lookAround
  | nestingTooDeep
  | beyondAscii
  | invalidText
  | unknownProperty
  | unknownPropertyValue
  | namedClass
  | caselessLetter
  deriving DecidableEq, Repr

def nestingLimit : Nat := 250

/-- How large a pattern may be, in bytes. -/
def sizeLimit : Nat := 10 * 1024 * 1024

def Cause.message : Cause → String
  | classEscape => "invalid escape sequence found in character class"
  | classRangeOrder => "invalid character class range, the start must be <= the end"
  | classRangeEnd => "invalid range boundary, must be a literal"
  | classUnclosed => "unclosed character class"
  | repetitionEmptyCount => "repetition quantifier expects a valid decimal"
  | decimalTooLarge => "decimal literal invalid"
  | hexEmpty => "hexadecimal literal empty"
  | hexNoCharacter => "hexadecimal literal is not a Unicode scalar value"
  | hexDigit => "invalid hexadecimal digit"
  | escapeUnfinished => "incomplete escape sequence, reached end of pattern prematurely"
  | escapeUnknown => "unrecognized escape sequence"
  | flagNegatesNothing => "dangling flag negation operator"
  | flagTwice => "duplicate flag"
  | flagNegationTwice => "flag negation operator repeated"
  | flagUnfinished => "expected flag but got end of regex"
  | flagUnknown => "unrecognized flag"
  | nameTwice => "duplicate capture group name"
  | nameEmpty => "empty capture group name"
  | nameCharacter => "invalid capture group character"
  | nameUnfinished => "unclosed capture group name"
  | groupUnclosed => "unclosed group"
  | groupUnopened => "unopened group"
  | repetitionOrder => "invalid repetition count range, the start must be <= the end"
  | repetitionUnclosed => "unclosed counted repetition"
  | repetitionOfNothing => "repetition operator missing expression"
  | edgeUnclosed => "special word boundary assertion is either unclosed or contains an invalid character"
  | edgeUnknown =>
    "unrecognized special word boundary assertion, valid choices are: start, end, start-half or end-half"
  | edgeUnfinished =>
    "found either the beginning of a special word boundary or a bounded repetition on a \\b " ++
      "with an opening brace, but no closing brace"
  | propertyName => "invalid Unicode character class"
  | backreference => "backreferences are not supported"
  | lookAround => "look-around, including look-ahead and look-behind, is not supported"
  | nestingTooDeep => s!"exceed the maximum number of nested parentheses/brackets ({nestingLimit})"
  | beyondAscii => "Unicode not allowed here"
  | invalidText => "pattern can match invalid UTF-8"
  | unknownProperty => "Unicode property not found"
  | unknownPropertyValue => "Unicode property value not found"
  | namedClass => "Unicode-aware Perl class not found (make sure the unicode-perl feature is enabled)"
  | caselessLetter =>
    "Unicode-aware case insensitivity matching is not available (make sure the unicode-case feature is enabled)"

inductive Flaw where
  /-- A cause, the place it is about, and an earlier one that it clashes with. -/
  | located (cause : Cause) (span : Span) (earlier : Option Span)
  /-- Edges of words are known for ASCII only. -/
  | wordEdge
  | tooLarge
  deriving DecidableEq, Repr

/-! ## Where a flaw is -/

/-- A place in a text of lines; the first line and the first column have the number 1. -/
structure Position where
  line : Nat
  column : Nat
  deriving DecidableEq, Repr

def positionOf (text : List Char) (place : Nat) : Position :=
  let before := text.take place
  ⟨before.count '\n' + 1, (before.reverse.takeWhile (· != '\n')).length + 1⟩

namespace Flaw

def carets (place : Nat) : List Span → String
  | [] => ""
  | s :: rest =>
    let width := max 1 (s.stop - s.start)
    spaces (s.start - place) ++ String.ofList (List.replicate width '^') ++ carets (max place s.start + width) rest

def onLine? (text : List Char) (line : Nat) (span : Span) : Option Span :=
  let first := positionOf text span.start
  let last := positionOf text span.stop
  if first.line = line ∧ last.line = line then some ⟨first.column - 1, last.column - 1⟩ else none

def acrossLines? (text : List Char) (span : Span) : Option String :=
  let first := positionOf text span.start
  let last := positionOf text span.stop
  if first.line = last.line then none
  else some s!"on line {first.line} (column {first.column}) through line {last.line} (column {last.column - 1})"

/-- The lines of a pattern, each after its margin and with the carets that belong under it. -/
def drawing (pattern : String) (spans : List Span) (margin : Nat → String) : List String :=
  (Bytes.textLines pattern).zipIdx.flatMap fun (line, i) =>
    let start := margin (i + 1)
    let marks := spans.filterMap (onLine? pattern.toList (i + 1))
    (start ++ line) :: if marks.isEmpty then [] else [spaces start.length ++ carets 0 marks]

def rule : String := String.ofList (List.replicate 79 '~')

/-- What is wrong with the pattern, and where. The line after a last line feed counts, but it is not shown. -/
def message (pattern : String) : Flaw → String
  | wordEdge => "error building NFA"
  | tooLarge => s!"Compiled regex exceeds size limit of {sizeLimit} bytes."
  | located cause span earlier =>
    let spans := earlier.toList ++ [span]
    let text := pattern.toList
    let lines :=
      if text.contains '\n' then
        let width := (toString (positionOf text text.length).line).length
        rule :: drawing pattern spans (fun line => alignRight width (toString line) ++ ": ") ++
          rule :: spans.filterMap (acrossLines? text)
      else drawing pattern spans fun _ => spaces 4
    unlines ("regex parse error:" :: lines) ++ "error: " ++ cause.message

end Flaw

/-! ## Nesting -/

inductive Nesting where
  | flat
  | both (a b : Nesting)
  /-- A part that holds others, from one place to another. -/
  | within (span : Span) (inner : Nesting)
  deriving DecidableEq, Repr

namespace Nesting

def ofList (parts : List Nesting) : Nesting := parts.foldr both flat

def beyond : Nat → Nesting → Option Span
  | _, flat => none
  | limit, both a b => a.beyond limit <|> b.beyond limit
  | 0, within span _ => some span
  | limit + 1, within _ inner => inner.beyond limit

end Nesting

end Munch.Pattern
