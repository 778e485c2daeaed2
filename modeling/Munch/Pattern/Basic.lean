/-
  Munch.Pattern.Basic — sets of characters, patterns, and whether a pattern occurs in a text.

  Sets are built from ranges by the operations that a pattern has for them. Of case only the
  ASCII letters know: `caseless` adds to a set the other case of every one that is in it.
  However it is built, a set is the union of its `ranges`: a set begins or ends only at one of
  the `cuts` of the ranges that it is built from.

  A pattern is read along a text from boundary to boundary, a boundary being the
  characters on its two sides. At each it either passes, that is, it asks for nothing
  more, or it steps over the next character to what it asks for then. An occurrence
  may begin anywhere, so all that is alive is the patterns left over from the places
  read so far, each of them once.

  What a pattern says can be said in several ways; where patterns are put together a plain
  one is chosen, and the size of a pattern is that of the plain one. A choice between
  characters is a set of characters, branches that begin alike share their beginning, and a
  body that reads nothing is repeated at most once.
-/

namespace Munch

/-! ## Sets of characters -/

inductive CharSet where
  | none
  | range (low high : Char)
  | union (a b : CharSet)
  | inter (a b : CharSet)
  /-- What is in one of the two sets alone. -/
  | symmDiff (a b : CharSet)
  | compl (a : CharSet)
  | caseless (a : CharSet)
  deriving DecidableEq, Repr

namespace CharSet

def has (c : Char) : CharSet → Bool
  | none => false
  | range low high => low ≤ c && c ≤ high
  | union a b => a.has c || b.has c
  | inter a b => a.has c && b.has c
  | symmDiff a b => a.has c != b.has c
  | compl a => !a.has c
  | caseless a => a.has c || a.has c.toLower || a.has c.toUpper

def only (c : Char) : CharSet := range c c

def all : CharSet := compl none

def diff (a b : CharSet) : CharSet := inter a (compl b)

def unions : List CharSet → CharSet
  | [] => none
  | [a] => a
  | a :: rest => union a (unions rest)

def ofRanges (ranges : List (Char × Char)) : CharSet := unions (ranges.map fun r => range r.1 r.2)

/-! ## Ranges -/

def after (c : Char) : Nat := if c.toNat = 0xd7ff then 0xe000 else c.toNat + 1

def before (n : Nat) : Char := if n = 0xe000 then '\ud7ff' else Char.ofNat (n - 1)

/-- Code points at which the set may begin or end. -/
def cuts : CharSet → List Nat
  | none => []
  | range low high => [low.toNat, after high]
  | union a b => a.cuts ++ b.cuts
  | inter a b => a.cuts ++ b.cuts
  | symmDiff a b => a.cuts ++ b.cuts
  | compl a => a.cuts
  | caseless a => a.cuts ++ List.range' 'A'.toNat (after 'z' + 1 - 'A'.toNat)

/-- Ranges without gaps between them become one. -/
def join : List (Char × Char) → List (Char × Char)
  | [] => []
  | (low, high) :: rest =>
    match join rest with
    | (low', high') :: more => if after high = low'.toNat then (low, high') :: more else (low, high) :: (low', high') :: more
    | [] => [(low, high)]

/-- The set as ranges, from the lowest to the highest, with gaps between them. -/
def ranges (s : CharSet) : List (Char × Char) :=
  let cuts := (0 :: s.cuts).mergeSort
  let pieces := (cuts.zip (cuts.tail ++ [0x110000])).filter fun p => p.1 < p.2
  join ((pieces.map fun p => (Char.ofNat p.1, before p.2)).filter fun r => s.has r.1)

def simplified (s : CharSet) : CharSet := ofRanges s.ranges

def single? (s : CharSet) : Option Char :=
  match s.ranges with
  | [(low, high)] => if low = high then some low else Option.none
  | _ => Option.none

/-- A set that no range is part of is empty or holds every character, whatever their case. -/
def mentionsRange : CharSet → Bool
  | none => false
  | range _ _ => true
  | union a b => a.mentionsRange || b.mentionsRange
  | inter a b => a.mentionsRange || b.mentionsRange
  | symmDiff a b => a.mentionsRange || b.mentionsRange
  | compl a => a.mentionsRange
  | caseless a => a.mentionsRange

/-! ## Sets with a name -/

def digits : CharSet := range '0' '9'

def lower : CharSet := range 'a' 'z'

def upper : CharSet := range 'A' 'Z'

def letters : CharSet := union upper lower

def wordLetters : CharSet := union (union digits letters) (only '_')

def blanks : CharSet := union (range '\t' '\r') (only ' ')

def ofName? : String → Option CharSet
  | "alnum" => some (union digits letters)
  | "alpha" => some letters
  | "ascii" => some (range '\x00' '\x7f')
  | "blank" => some (union (only '\t') (only ' '))
  | "cntrl" => some (union (range '\x00' '\x1f') (only '\x7f'))
  | "digit" => some digits
  | "graph" => some (range '!' '~')
  | "lower" => some lower
  | "print" => some (range ' ' '~')
  | "punct" => some (ofRanges [('!', '/'), (':', '@'), ('[', '\x60'), ('{', '~')])
  | "space" => some blanks
  | "upper" => some upper
  | "word" => some wordLetters
  | "xdigit" => some (ofRanges [('0', '9'), ('A', 'F'), ('a', 'f')])
  | _ => Option.none

/-- A set that has a character of one byte beyond ASCII. -/
def passesAscii (s : CharSet) : Bool := (List.range 128).any fun n => s.has (Char.ofNat (128 + n))

end CharSet

/-! ## Patterns -/

structure Boundary where
  before : Option Char
  after : Option Char
  deriving DecidableEq, Repr

inductive Edge where
  | textStart
  | textEnd
  /-- The start of a line; with `returns`, a carriage return ends a line as well. -/
  | lineStart (returns : Bool)
  | lineEnd (returns : Bool)
  | word
  | notWord
  | wordStart
  | wordEnd
  /-- No word goes on to the left. -/
  | wordStartHalf
  /-- No word goes on to the right. -/
  | wordEndHalf
  /-- An edge between words of all scripts. Their characters are not known here, so a
      pattern with such an edge is refused. -/
  | anyWord
  deriving DecidableEq, Repr

namespace Boundary

def inWord (side : Option Char) : Bool := side.any fun c => CharSet.wordLetters.has c

def holds (b : Boundary) : Edge → Bool
  | .textStart => b.before.isNone
  | .textEnd => b.after.isNone
  | .lineStart false => b.before.isNone || b.before == some '\n'
  | .lineStart true =>
    b.before.isNone || b.before == some '\n' || (b.before == some '\r' && b.after != some '\n')
  | .lineEnd false => b.after.isNone || b.after == some '\n'
  | .lineEnd true => b.after.isNone || b.after == some '\r' || (b.after == some '\n' && b.before != some '\r')
  | .word => inWord b.before != inWord b.after
  | .notWord => inWord b.before == inWord b.after
  | .wordStart => !inWord b.before && inWord b.after
  | .wordEnd => inWord b.before && !inWord b.after
  | .wordStartHalf => !inWord b.before
  | .wordEndHalf => !inWord b.after
  | .anyWord => false

end Boundary

inductive Pattern where
  | nothing
  | one (set : CharSet)
  | edge (edge : Edge)
  | seq (first second : Pattern)
  | either (first second : Pattern)
  /-- A group that has a number. What is in it is said no differently outside of it. -/
  | group (number : Nat) (body : Pattern)
  /-- At least so many times, and at most so many if there is a bound. -/
  | repeated (body : Pattern) (least : Nat) (most : Option Nat)
  deriving DecidableEq, Repr

namespace Pattern

def passes (b : Boundary) : Pattern → Bool
  | nothing => true
  | one _ => false
  | edge e => b.holds e
  | seq p q => p.passes b && q.passes b
  | either p q => p.passes b || q.passes b
  | group _ p => p.passes b
  | repeated p least _ => least == 0 || p.passes b

def andThen : Pattern → Pattern → Pattern
  | nothing, q => q
  | p, nothing => p
  | p, q => seq p q

/-- What may be asked for once the character after the boundary is read. Rounds of a
    repetition that pass at the boundary cost nothing there, so none of them is owed later. -/
def step (b : Boundary) : Pattern → List Pattern
  | nothing => []
  | one set => if b.after.any set.has then [nothing] else []
  | edge _ => []
  | seq p q => (p.step b).map (·.andThen q) ++ if p.passes b then q.step b else []
  | either p q => p.step b ++ q.step b
  | group _ p => p.step b
  | repeated p least most =>
    if most = some 0 then []
    else
      let owed := if p.passes b then 0 else least - 1
      (p.step b).map (·.andThen (repeated p owed (most.map (· - 1))))

/-- `occursIn` from the middle of a text, with the patterns left over from what was read. -/
def occursAfter (p : Pattern) (live : List Pattern) (before : Option Char) : List Char → Bool
  | [] => (p :: live).any (passes ⟨before, none⟩)
  | c :: rest =>
    let b : Boundary := ⟨before, some c⟩
    (p :: live).any (passes b) || occursAfter p ((p :: live).flatMap (step b)).eraseDups (some c) rest

/-- Whether some part of the text, which may be empty, is as the pattern says. -/
def occursIn (p : Pattern) (text : String) : Bool := occursAfter p [] none text.toList

/-! ## Patterns put together -/

/-- Whether no text but the empty one is as the pattern says. -/
def readsNothing : Pattern → Bool
  | nothing => true
  | one _ => false
  | edge _ => true
  | seq p q => p.readsNothing && q.readsNothing
  | either p q => p.readsNothing && q.readsNothing
  | group _ p => p.readsNothing
  | repeated p _ _ => p.readsNothing

def isLetter : Pattern → Bool
  | one set => set.single?.isSome
  | _ => false

def isClass : Pattern → Bool
  | one set => set.single?.isNone
  | _ => false

def set? : Pattern → Option CharSet
  | one set => some set
  | _ => none

def sequence (parts : List Pattern) : Pattern := parts.foldr andThen nothing

def parts : Pattern → List Pattern
  | nothing => []
  | seq p q => p.parts ++ q.parts
  | p => [p]

def branches : Pattern → List Pattern
  | either p q => p.branches ++ q.branches
  | p => [p]

/-- Parts in a row, with the letters between two others taken together. -/
def words : List Pattern → List (List Pattern)
  | [] => []
  | p :: rest =>
    match words rest with
    | (q :: word) :: more => if p.isLetter && q.isLetter then (p :: q :: word) :: more else [p] :: (q :: word) :: more
    | more => [p] :: more

def commonStart (a b : List (List Pattern)) : List (List Pattern) :=
  ((a.zip b).takeWhile fun p => p.1 = p.2).map Prod.fst

/-- The words that all the branches begin with, if each branch has more than one word. -/
def sharedStart (branches : List Pattern) : List (List Pattern) :=
  match branches.map fun p => words p.parts with
  | first :: others => if (first :: others).all (1 < ·.length) then others.foldl commonStart first else []
  | [] => []

def choice : List Pattern → Pattern
  | [] => nothing
  | [p] => p
  | p :: rest => either p (choice rest)

/-- `oneOf`, with so many beginnings taken out at most. -/
def oneOfSharing : Nat → List Pattern → Pattern
  | 0, patterns => choice (patterns.flatMap branches)
  | n + 1, patterns =>
    let all := patterns.flatMap branches
    if all.length < 2 then choice all
    else if all.all isLetter || all.all isClass then one (CharSet.unions (all.filterMap set?)).simplified
    else
      match (sharedStart all).flatten with
      | [] => choice all
      | start => (sequence start).andThen (oneOfSharing n (all.map fun p => sequence (p.parts.drop start.length)))

def oneOf (patterns : List Pattern) : Pattern := oneOfSharing ((patterns.map (·.parts.length)).foldl (· + ·) 0 + 1) patterns

/-- A repetition, unless it is none: none at all is nothing, and exactly once is the body. -/
def times (body : Pattern) (least : Nat) (most : Option Nat) : Pattern :=
  let least := if body.readsNothing then min least 1 else least
  let most := if body.readsNothing then some (most.elim 1 (min 1)) else most
  if most = some 0 then nothing
  else if least = 1 ∧ most = some 1 then body
  else repeated body least most

end Pattern

end Munch
