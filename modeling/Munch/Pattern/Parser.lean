/-
  Munch.Pattern.Parser — from the text of a pattern to what it means, part by part.

  Between brackets stand single characters, ranges, named classes and brackets in brackets,
  side by side or joined by the operations `&&`, `--` and `~~`, which are taken from left to
  right. A repetition is about the part before it, and a bar ends a branch; which occurrence
  would be found first, and what a group would capture, plays no part.
-/

import Munch.Pattern.Reader
import Munch.Pattern.Size

namespace Munch.Pattern

/-! ## Brackets -/

namespace Parse

def checkCase (span : Span) (set : CharSet) : Parse Unit := do
  let f ← flags
  if f.caseless && !f.ascii && set.mentionsRange then
    doubt .caselessLetter span

def foldCase (set : CharSet) : Parse CharSet := do return if (← flags).caseless then .caseless set else set

def settle (span : Span) (negated : Bool) (set : CharSet) : Parse CharSet := do
  checkCase span set
  let set ← foldCase set
  let set := if negated then .compl set else set
  if (← flags).ascii && set.passesAscii then
    doubt .invalidText span
  return set.simplified

/-- A named class such as `[:alpha:]`, with its negation and its length, if one comes next. -/
def namedClass? : List Char → Option (CharSet × Bool × Nat)
  | '[' :: ':' :: rest =>
    let negated := rest.head? == some '^'
    let rest := if negated then rest.tail else rest
    let name := rest.takeWhile (· != ':')
    match CharSet.ofName? (String.ofList name), (rest.drop name.length).take 2 with
    | some set, [':', ']'] => some (set, negated, name.length + if negated then 5 else 4)
    | _, _ => none
  | _ => none

def item : Parse (Span × Atom) := do
  let start ← place
  let atom ← if (← peek) = some '\\' then escape else do
    let c ← peek
    skip 1
    pure (.letter (c.getD '\x00') false)
  return (← since start, atom)

/-- In ASCII mode a class holds no other characters. -/
def checkLetter (span : Span) (c : Char) (byte : Bool) : Parse Unit := do
  if (← flags).ascii && 128 ≤ c.toNat then
    doubt (if byte then .invalidText else .beyondAscii) span

def itemSet (span : Span) : Atom → Parse CharSet
  | .letter c byte => do
    checkLetter span c byte
    return .only c
  | .oneOf set => return set
  | .edge _ => fail .classEscape span

def rangeEnd (span : Span) : Atom → Parse Char
  | .letter c byte => do
    checkLetter span c byte
    return c
  | _ => fail .classRangeEnd span

/-- A character, a class or a range of characters between brackets, with its place;
    `opened` is the bracket. -/
def member (opened : Span) : Parse (Span × CharSet) := do
  let (span, atom) ← item
  gaps
  if ← ended then
    fail .classUnclosed opened
  let past ← peekPast
  if (← peek) != some '-' || past = some ']' || past = some '-' then
    return (span, ← itemSet span atom)
  else
    next
    if ← ended then
      fail .classUnclosed opened
    let (span', atom') ← item
    let low ← rangeEnd span atom
    let high ← rangeEnd span' atom'
    let span : Span := ⟨span.start, span'.stop⟩
    if high < low then
      fail .classRangeOrder span
    return (span, .range low high)

inductive SetOp where
  | inter
  | diff
  | symmDiff

def SetOp.apply : SetOp → CharSet → CharSet → CharSet
  | inter => .inter
  | diff => .diff
  | symmDiff => .symmDiff

/-- One side of an operation: how many members it has, what they come to and where they are. -/
structure Side where
  count : Nat
  set : CharSet
  span : Span
  inner : Nesting

namespace Side

def emptyAt (place : Nat) : Side := ⟨0, .none, ⟨place, place⟩, .flat⟩

def add (s : Side) (span : Span) (set : CharSet) (nesting : Nesting) : Side :=
  { count := s.count + 1
    set := .union s.set set
    span := ⟨if s.count = 0 then span.start else s.span.start, span.stop⟩
    inner := .both s.inner nesting }

/-- Several members are a part of the pattern that holds others. -/
def nesting (s : Side) : Nesting := if s.count < 2 then s.inner else .within s.span s.inner

end Side

/-- What is read so far between brackets: the left side of an operation that waits, and what came since. -/
structure Members where
  waiting : Option (SetOp × Side)
  since : Side

namespace Members

def add (m : Members) (span : Span) (set : CharSet) (nesting : Nesting) : Members :=
  { m with since := m.since.add span set nesting }

def value (m : Members) : Parse Side := do
  match m.waiting with
  | none => return m.since
  | some (op, left) =>
    checkCase m.since.span m.since.set
    checkCase left.span left.set
    let span : Span := ⟨left.span.start, m.since.span.stop⟩
    let set := op.apply (← foldCase left.set) (← foldCase m.since.set)
    return ⟨1, set.simplified, span, .within span (.both left.nesting m.since.nesting)⟩

def operate (m : Members) (op : SetOp) : Parse Members := do
  let left ← m.value
  skip 2
  return ⟨some (op, left), .emptyAt (← place)⟩

end Members

/-- Hyphens at the start of a bracket stand for themselves. -/
def hyphens (start : Nat) : Nat → Side → Parse Side
  | 0, side => return side
  | n + 1, side => do
    if (← peek) = some '-' then
      let span ← hereChar
      next
      if ← ended then
        fail .classUnclosed ⟨start, start⟩
      hyphens start n (side.add span (.only '-') .flat)
    else return side

/-- The start of a bracket, with whether it is negated and what it holds already: a closing
    bracket that comes first stands for itself. -/
def openBracket : Parse (Span × Bool × Members) := do
  let start ← place
  next
  if ← ended then
    fail .classUnclosed (← since start)
  let negated := (← peek) == some '^'
  if negated then
    next
    if ← ended then
      fail .classUnclosed (← since start)
  let side ← hyphens start (← get).size (.emptyAt (← place))
  if side.count = 0 && (← peek) = some ']' then
    let span ← hereChar
    next
    if ← ended then
      fail .classUnclosed (← since start)
    return (← since start, negated, ⟨none, side.add span (.only ']') .flat⟩)
  return (← since start, negated, ⟨none, side⟩)

def bracketAfter (opened : Span) (negated : Bool) : Nat → Members → Parse (Span × CharSet × Nesting)
  | 0, _ => fail .classUnclosed opened
  | n + 1, m => do
    gaps
    match (← get).rest with
    | [] => fail .classUnclosed opened
    | ']' :: _ =>
      let all ← m.value
      skip 1
      let span ← since opened.start
      return (span, ← settle span negated all.set, .within span all.nesting)
    | '&' :: '&' :: _ => bracketAfter opened negated n (← m.operate .inter)
    | '-' :: '-' :: _ => bracketAfter opened negated n (← m.operate .diff)
    | '~' :: '~' :: _ => bracketAfter opened negated n (← m.operate .symmDiff)
    | '[' :: rest =>
      match namedClass? ('[' :: rest) with
      | some (set, negated', length) =>
        let start ← place
        skip length
        let span ← since start
        bracketAfter opened negated n (m.add span (← settle span negated' set) .flat)
      | none =>
        let (opened', negated', m') ← openBracket
        let (span, set, nesting) ← bracketAfter opened' negated' n m'
        bracketAfter opened negated n (m.add span set nesting)
    | _ =>
      let (span, set) ← member opened
      bracketAfter opened negated n (m.add span set .flat)

def bracket : Parse Unit := do
  let (opened, negated, m) ← openBracket
  let (span, set, nesting) ← bracketAfter opened negated ((← get).size + 1) m
  push span.start nesting (some (.one set))

/-! ## Parts -/

def letter (span : Span) (c : Char) (byte : Bool) : Parse Pattern := do
  let f ← flags
  if f.ascii && byte && 128 ≤ c.toNat then
    doubt .invalidText span
  checkCase span (.only c)
  return .one (← foldCase (.only c)).simplified

def dot (span : Span) : Parse Pattern := do
  let f ← flags
  if f.ascii then
    doubt .invalidText span
  let breaks : CharSet := if f.returns then .union (.only '\r') (.only '\n') else .only '\n'
  return .one (if f.dotAll then CharSet.all else .compl breaks).simplified

def primitive (c : Char) : Parse Unit := do
  let f ← flags
  let span ← hereChar
  let pattern ← match c with
    | '\\' => do
      match ← escape with
      | .letter c byte => letter (← since span.start) c byte
      | .oneOf set => pure (.one set.simplified)
      | .edge e => pure (.edge e)
    | '.' => do
      skip 1
      dot span
    | '^' => do
      skip 1
      pure (.edge (if f.lines then .lineStart f.returns else .textStart))
    | '$' => do
      skip 1
      pure (.edge (if f.lines then .lineEnd f.returns else .textEnd))
    | c => do
      skip 1
      letter span c false
  push span.start .flat (some pattern)

def operand : Parse (Pattern × Part) := do
  let s ← get
  match s.branches.parts with
  | ⟨some p, start, nesting⟩ :: parts =>
    set { s with branches := { s.branches with parts := parts } }
    return (p, ⟨some p, start, nesting⟩)
  | _ => fail .repetitionOfNothing (← here)

def pushRepeated (body : Pattern × Part) (least : Nat) (most : Option Nat) : Parse Unit := do
  let (pattern, part) := body
  push part.start (.within (← since part.start) part.nesting) (some (pattern.times least most))

/-- A question mark after a repetition changes which occurrence is found first, and not whether one is. -/
def lazyMark : Parse Unit := do
  if (← peek) = some '?' then
    skip 1

def repetition (least : Nat) (most : Option Nat) : Parse Unit := do
  let body ← operand
  skip 1
  lazyMark
  pushRepeated body least most

def maxCount : Nat := 4294967295

/-- A count with blanks around it. What is wrong with it is not yet reported. -/
def count : Parse (Except Flaw Nat) := do
  skipWhile isBlank
  let start ← place
  let digits ← takeWhile Char.isDigit
  let span ← since start
  let _ ← takeWhile isBlank
  if digits.isEmpty then
    return .error (.located .repetitionEmptyCount span none)
  let n := digits.foldl (fun n d => 10 * n + (d.toNat - 48)) 0
  return if n ≤ maxCount then .ok n else .error (.located .decimalTooLarge span none)

def bounds (start : Nat) : Parse (Nat × Option Nat) := do
  let least ← count
  if ← ended then
    fail .repetitionUnclosed (← since start)
  if (← peek) = some ',' then
    next
    if ← ended then
      fail .repetitionUnclosed (← since start)
    let least ← ofExcept least
    if (← peek) = some '}' then
      return (least, none)
    return (least, some (← ofExcept (← count)))
  let n ← ofExcept least
  return (n, some n)

def counted : Parse Unit := do
  let start ← place
  let body ← operand
  next
  if ← ended then
    fail .repetitionUnclosed (← since start)
  let (least, most) ← bounds start
  if (← peek) != some '}' then
    fail .repetitionUnclosed (← since start)
  next
  lazyMark
  if most.any (· < least) then
    fail .repetitionOrder (← since start)
  pushRepeated body least most

/-! ## Groups -/

def flagItems : Nat → List (Char × Span) → Parse (List (Char × Span))
  | 0, items => return items
  | n + 1, items => do
    let some c ← peek | fail .flagUnfinished (← here)
    if c = ':' || c = ')' then
      match items.getLast? with
      | some ('-', span) => fail .flagNegatesNothing span
      | _ => return items
    let span ← hereChar
    if !Flags.letters.contains c then
      fail .flagUnknown span
    match items.lookup c with
    | some earlier => clash (if c = '-' then .flagNegationTwice else .flagTwice) span earlier
    | none =>
      skip 1
      flagItems n (items ++ [(c, span)])

/-- Letters, and after the first character numerals, dots and brackets as well. -/
def isNameLetter (first : Bool) (c : Char) : Bool :=
  c == '_' || if first then isAlphabetic c else isAlphanumeric c || ['.', '[', ']'].contains c

/-- The name of a group, through the bracket that ends it; it is checked, and says nothing. -/
def groupName : Parse Unit := do
  let start ← place
  let name := (← get).rest.takeWhile (· != '>')
  let good := (name.take 1).takeWhile (isNameLetter true) ++ name.tail.takeWhile (isNameLetter false)
  if good.length < name.length then
    let wrong := if name.head?.any (isNameLetter true) then start + good.length else start
    fail .nameCharacter ⟨wrong, wrong + 1⟩
  skip name.length
  let span ← since start
  if ← ended then
    fail .nameUnfinished (← here)
  skip 1
  if name.isEmpty then
    fail .nameEmpty span
  let name := String.ofList name
  match (← get).names.lookup name with
  | some earlier => clash .nameTwice span earlier
  | none => modify fun s => { s with names := s.names ++ [(name, span)] }

def openFrame (span : Span) (captures : Bool) (flags : Flags) : Parse Unit := do
  let branches := Branches.startingAt (← place)
  modify fun s =>
    let groups := if captures then s.groups + 1 else s.groups
    { s with
      frames := ⟨span, if captures then some groups else none, s.flags, s.branches⟩ :: s.frames
      branches := branches
      flags := flags
      groups := groups }

/-- The start of a group, or a setting of flags, which looks like one. -/
def openGroup : Parse Unit := do
  let start ← place
  let f ← flags
  next
  if ← skipWord [['?', '='], ['?', '!'], ['?', '<', '='], ['?', '<', '!']] then
    fail .lookAround (← since start)
  let inner ← here
  let opened : Span := ⟨start, start + 1⟩
  if ← skipWord [['?', 'P', '<'], ['?', '<']] then
    groupName
    openFrame opened true f
  else if ← skipWord [['?']] then
    if ← ended then
      fail .groupUnclosed opened
    let items := (← flagItems ((← get).size + 1) []).map Prod.fst
    let ending ← peek
    skip 1
    if ending = some ':' then openFrame opened false (f.update items)
    else if items.isEmpty then fail .repetitionOfNothing inner
    else
      modify fun s => { s with flags := f.update items }
      push start .flat none
  else openFrame opened true f

def closeGroup : Parse Unit := do
  match (← get).frames with
  | [] => fail .groupUnopened (← hereChar)
  | frame :: frames =>
    let (pattern, nesting) := (← get).branches.whole (← place)
    skip 1
    modify fun s => { s with frames := frames, flags := frame.flags, branches := frame.branches }
    push frame.span.start (.within (← since frame.span.start) nesting)
      (some (frame.number.elim pattern (Pattern.group · pattern)))

def bar : Parse Unit := do
  let stop ← place
  skip 1
  modify fun s => { s with branches := s.branches.close stop }

/-! ## The whole pattern -/

def part (c : Char) : Parse Unit :=
  match c with
  | '(' => openGroup
  | ')' => closeGroup
  | '|' => bar
  | '[' => bracket
  | '?' => repetition 0 (some 1)
  | '*' => repetition 0 none
  | '+' => repetition 1 none
  | '{' => counted
  | c => primitive c

/-- Reads part after part; each takes at least one character. -/
def partsAfter : Nat → Parse Unit
  | 0 => return
  | n + 1 => do
    gaps
    match ← peek with
    | none => return
    | some c =>
      part c
      partsAfter n

/-- What is wrong with the form of a pattern is said first, then what is wrong with the
    meaning of its parts, and last what is wrong with it as a whole. -/
def whole : Parse Pattern := do
  partsAfter ((← get).size + 1)
  let s ← get
  match s.frames with
  | frame :: _ => fail .groupUnclosed frame.span
  | [] =>
    let (pattern, nesting) := s.branches.whole (← place)
    match nesting.beyond nestingLimit with
    | some span => fail .nestingTooDeep span
    | none =>
      match s.doubt with
      | some flaw => throw flaw
      | none => ofExcept pattern.checked

end Parse

def parse (text : String) : Except Flaw Pattern :=
  let chars := text.toList
  (StateT.run Parse.whole ⟨chars.length, chars, 0, .initial, [], .startingAt 0, 0, [], none⟩).map Prod.fst

end Munch.Pattern
