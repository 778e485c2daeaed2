/-
  Munch.Pattern.Reader — the state in which the text of a pattern is read, and the smallest
  things that are read: gaps, words and escapes.

  A text is read from left to right, with the groups that are open on a stack. What is
  wrong with its form is reported at once; what is wrong with the meaning of a part that
  is well formed is kept as a doubt, and the first doubt is reported when the whole text
  turned out well formed. Flags hold from where they are set to the end of their group.

  A backslash introduces one character, a class of them or an edge. Classes and edges of
  words are known for ASCII only: outside the mode `(?-u)` the classes with a letter, the
  properties and the edges of words are refused, and inside it the properties and whatever
  could match one byte of a longer character.
-/

import Munch.Pattern.Basic
import Munch.Pattern.Flaw
import Munch.Text.Characters

namespace Munch.Pattern

structure Flags where
  caseless : Bool
  lines : Bool
  dotAll : Bool
  returns : Bool
  /-- Blanks and comments say nothing. -/
  loose : Bool
  ascii : Bool
  deriving DecidableEq, Repr

namespace Flags

def initial : Flags := ⟨false, false, false, false, false, false⟩

def letters : List Char := ['i', 'm', 's', 'U', 'u', 'R', 'x', '-']

def set (value : Bool) (f : Flags) : Char → Flags
  | 'i' => { f with caseless := value }
  | 'm' => { f with lines := value }
  | 's' => { f with dotAll := value }
  | 'R' => { f with returns := value }
  | 'x' => { f with loose := value }
  | 'u' => { f with ascii := !value }
  | _ => f

/-- Letters before the hyphen are set, those after it are reset. -/
def update (f : Flags) (items : List Char) : Flags :=
  (items.dropWhile (· != '-')).foldl (set false) ((items.takeWhile (· != '-')).foldl (set true) f)

end Flags

/-- A part of a branch; a setting of flags is a part that is no pattern. -/
structure Part where
  pattern : Option Pattern
  start : Nat
  nesting : Nesting
  deriving DecidableEq, Repr

/-- The branches of a group: those that are read, and the parts of the one that is being
    read, the newest first in each case; and where the first branch and this one begin. -/
structure Branches where
  start : Nat
  done : List (Pattern × Nesting)
  branchStart : Nat
  parts : List Part
  deriving DecidableEq, Repr

namespace Branches

def startingAt (place : Nat) : Branches := ⟨place, [], place, []⟩

def push (b : Branches) (part : Part) : Branches := { b with parts := part :: b.parts }

def last (b : Branches) (stop : Nat) : Pattern × Nesting :=
  let pattern := .sequence (b.parts.reverse.filterMap (·.pattern))
  match b.parts with
  | [part] => (pattern, part.nesting)
  | [] => (pattern, .flat)
  | parts => (pattern, .within ⟨b.branchStart, stop⟩ (.ofList (parts.reverse.map (·.nesting))))

def close (b : Branches) (bar : Nat) : Branches := ⟨b.start, b.last bar :: b.done, bar + 1, []⟩

def whole (b : Branches) (stop : Nat) : Pattern × Nesting :=
  match b.done with
  | [] => b.last stop
  | done =>
    let all := (b.last stop :: done).reverse
    (.oneOf (all.map Prod.fst), .within ⟨b.start, stop⟩ (.ofList (all.map Prod.snd)))

end Branches

/-- An open group: where it was opened, its number if it has one, and what to go back to
    when it is closed. -/
structure Frame where
  span : Span
  number : Option Nat
  flags : Flags
  branches : Branches
  deriving DecidableEq, Repr

structure State where
  size : Nat
  rest : List Char
  /-- How many characters come before the rest. -/
  place : Nat
  flags : Flags
  frames : List Frame
  branches : Branches
  /-- How many numbers are given to groups. -/
  groups : Nat
  names : List (String × Span)
  doubt : Option Flaw
  deriving DecidableEq, Repr

namespace State

/-- The state behind so many more characters, or at the end of the text. -/
def advance : Nat → State → State
  | 0, s => s
  | n + 1, s =>
    match s.rest with
    | [] => s
    | _ :: rest => advance n { s with rest := rest, place := s.place + 1 }

def moveTo (s : State) (rest : List Char) : State := { s with rest := rest, place := s.size - rest.length }

end State

abbrev Parse := StateT State (Except Flaw)

namespace Parse

def place : Parse Nat := do return (← get).place

def peek : Parse (Option Char) := do return (← get).rest.head?

def ended : Parse Bool := do return (← get).rest.isEmpty

def flags : Parse Flags := do return (← get).flags

def since (start : Nat) : Parse Span := do return ⟨start, ← place⟩

def here : Parse Span := do since (← place)

def hereChar : Parse Span := do return ⟨← place, (← place) + 1⟩

def fail {α : Type} (cause : Cause) (span : Span) : Parse α := throw (.located cause span none)

def clash {α : Type} (cause : Cause) (span earlier : Span) : Parse α := throw (.located cause span (some earlier))

/-- Only the first doubt counts. -/
def doubt (cause : Cause) (span : Span) : Parse Unit :=
  modify fun s => { s with doubt := s.doubt <|> some (.located cause span none) }

def skip (n : Nat) : Parse Unit := modify (·.advance n)

def afterGaps (inComment : Bool) : List Char → List Char
  | [] => []
  | c :: rest =>
    if inComment then afterGaps (c != '\n') rest
    else if c = '#' then afterGaps true rest
    else if isBlank c then afterGaps false rest
    else c :: rest

def gaps : Parse Unit :=
  modify fun s =>
    if s.flags.loose && s.rest.head?.any (fun c => isBlank c || c == '#') then s.moveTo (afterGaps false s.rest) else s

def next : Parse Unit := do
  skip 1
  gaps

def afterBlanks (inComment : Bool) : List Char → Option Char
  | [] => none
  | c :: rest =>
    if isBlank c then afterBlanks inComment rest
    else if c = '#' && !inComment then afterBlanks true rest
    else some c

/-- The character after the next one. Blanks that say nothing are passed over, if they are
    not all that is left, but what a comment says is not. -/
def peekPast : Parse (Option Char) := do
  let s ← get
  return (if s.flags.loose then afterBlanks false s.rest.tail else none) <|> s.rest.tail.head?

def skipWord : List (List Char) → Parse Bool
  | [] => return false
  | word :: others => do
    if word.isPrefixOf (← get).rest then
      skip word.length
      return true
    else skipWord others

def skipWhile (p : Char → Bool) : Parse Unit := modify fun s => s.moveTo (s.rest.dropWhile p)

/-- The characters up to one that fails the test, which `takeWhile` is for so many at most. -/
def takeUpTo (p : Char → Bool) : Nat → Parse (List Char)
  | 0 => return []
  | n + 1 => do
    match ← peek with
    | some c =>
      if p c then
        next
        return c :: (← takeUpTo p n)
      else return []
    | none => return []

/-- The characters up to one that fails the test; gaps after each of them are skipped. -/
def takeWhile (p : Char → Bool) : Parse (List Char) := do takeUpTo p (← get).rest.length

def ofExcept {α : Type} : Except Flaw α → Parse α
  | .ok a => return a
  | .error flaw => throw flaw

def push (start : Nat) (nesting : Nesting) (pattern : Option Pattern) : Parse Unit :=
  modify fun s => { s with branches := s.branches.push ⟨pattern, start, nesting⟩ }

/-! ## Escapes -/

inductive Atom where
  /-- One character; `byte` if it was given by two hexadecimal digits. -/
  | letter (c : Char) (byte : Bool)
  | oneOf (set : CharSet)
  | edge (edge : Edge)

/-- The character with the code point, which no surrogate is. -/
def character? (n : Nat) : Option Char := if h : n.isValidChar then some (Char.ofNatAux n h) else none

def valueOf (digits : List Nat) : Nat := digits.foldl (fun n d => 16 * n + d) 0

def hexFixed : Nat → List Nat → Parse (List Nat)
  | 0, digits => return digits.reverse
  | n + 1, digits => do
    let some c ← peek | fail .escapeUnfinished (← here)
    let some d := hexValue? c | fail .hexDigit (← hereChar)
    next
    hexFixed n (d :: digits)

def hexBraced (opened : Nat) : Nat → List Nat → Parse (List Nat)
  | 0, digits => return digits.reverse
  | n + 1, digits => do
    let some c ← peek | fail .escapeUnfinished (← since opened)
    if c = '}' then
      return digits.reverse
    let some d := hexValue? c | fail .hexDigit (← hereChar)
    next
    hexBraced opened n (d :: digits)

def hex : Parse Atom := do
  let kind ← peek
  next
  if ← ended then
    fail .escapeUnfinished (← here)
  let start ← place
  if (← peek) = some '{' then
    next
    let digits ← hexBraced start (← get).size []
    let stop ← place
    next
    if digits.isEmpty then
      fail .hexEmpty (← since start)
    match character? (valueOf digits) with
    | some c => return .letter c false
    | none => fail .hexNoCharacter ⟨start + 1, stop⟩
  else
    let digits ← hexFixed (if kind = some 'x' then 2 else if kind = some 'u' then 4 else 8) []
    match character? (valueOf digits) with
    | some c => return .letter c (kind == some 'x')
    | none => fail .hexNoCharacter (← since start)

/-- The name of a property as it is looked up: `is` at its start says nothing, nor do
    blanks, underscores and hyphens, and case makes no difference. -/
def propertyKey (name : List Char) : String :=
  let name := match name.map Char.toLower with
    | 'i' :: 's' :: rest => rest
    | name => name
  String.ofList (name.filter fun c => c.toNat < 128 && !([' ', '_', '-'].contains c))

/-- No property is known. The names of three of them are names of values as well, and as
    such they are looked up. -/
def propertyFlaw (name : List Char) : Cause :=
  if name.any (fun c => c == ':' || c == '=') then .unknownProperty
  else if ["cf", "sc", "lc"].contains (propertyKey name) then .unknownPropertyValue
  else .unknownProperty

def property (start : Nat) : Parse Atom := do
  next
  if ← ended then
    fail .escapeUnfinished (← here)
  let name ← if (← peek) = some '{' then do
      next
      let name ← takeWhile (· != '}')
      if ← ended then
        fail .escapeUnfinished (← here)
      skip 1
      pure name
    else do
      let c ← peek
      if c = some '\\' then
        fail .propertyName (← hereChar)
      next
      pure c.toList
  doubt (if (← flags).ascii then .beyondAscii else propertyFlaw name) (← since start)
  return .oneOf .none

def letterClass (start : Nat) (c : Char) : Parse Atom := do
  skip 1
  let set := match c.toLower with
    | 'd' => CharSet.digits
    | 's' => CharSet.blanks
    | _ => CharSet.wordLetters
  let span ← since start
  if !(← flags).ascii then
    doubt .namedClass span
  if c.isUpper then
    if (← flags).ascii then
      doubt .invalidText span
    return .oneOf (.compl set)
  return .oneOf set

/-- An edge of a word. Words of other letters than those of ASCII are not known. -/
def wordEdge (e : Edge) : Parse Atom := do return .edge (if (← flags).ascii then e else .anyWord)

/-- The kind of edge in braces after `\b`, unless the braces hold a count. -/
def edgeName? (start : Nat) : Parse (Option Edge) := do
  let before ← get
  let opened ← place
  next
  if ← ended then
    fail .edgeUnfinished (← since start)
  let first ← place
  let name ← takeWhile fun c => c.isAlpha || c == '-'
  if name.isEmpty then
    set before
    return none
  if (← peek) != some '}' then
    fail .edgeUnclosed (← since opened)
  let span ← since first
  skip 1
  match String.ofList name with
  | "start" => return some .wordStart
  | "end" => return some .wordEnd
  | "start-half" => return some .wordStartHalf
  | "end-half" => return some .wordEndHalf
  | _ => fail .edgeUnknown span

def controls : List (Char × Char) :=
  [('a', '\x07'), ('f', '\x0c'), ('t', '\t'), ('n', '\n'), ('r', '\r'), ('v', '\x0b')]

def simpleEscape (start : Nat) (c : Char) : Parse Atom := do
  skip 1
  match controls.lookup c with
  | some control => return .letter control false
  | none =>
    match c with
    | 'A' => return .edge .textStart
    | 'z' => return .edge .textEnd
    | 'b' =>
      if (← peek) = some '{' then
        wordEdge ((← edgeName? start).getD .word)
      else wordEdge .word
    | 'B' => wordEdge .notWord
    | '<' => wordEdge .wordStart
    | '>' => wordEdge .wordEnd
    | _ =>
      if c.toNat < 128 && !c.isAlpha then return .letter c false
      else fail .escapeUnknown (← since start)

def escape : Parse Atom := do
  let start ← place
  skip 1
  let some c ← peek | fail .escapeUnfinished (← since start)
  if c.isDigit then
    fail .backreference ⟨start, (← place) + 1⟩
  if ['x', 'u', 'U'].contains c then hex
  else if ['p', 'P'].contains c then property start
  else if ['d', 's', 'w', 'D', 'S', 'W'].contains c then letterClass start c
  else simpleEscape start c

end Parse

end Munch.Pattern
