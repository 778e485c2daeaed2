/-
  Munch.Pattern.Size — how large a pattern is. It is as large as the machines that
  search a text for it, byte by byte: one that reads forward, and tells where groups
  begin and end, and one that reads backward. A pattern is refused if one of them is
  larger than the limit.

  A state of a machine takes 32 bytes, and more if it leads to several others: 4 bytes
  for each of them, or 8 if which one it is depends on the byte that is read.

  A range of characters is spelled in UTF-8 by one sequence of byte ranges if all its
  characters are as long as each other and differ only from some byte on, after which every
  continuation byte may stand. Other ranges are cut in two.
-/

import Munch.Pattern.Basic
import Munch.Pattern.Flaw

namespace Munch

/-! ## Byte ranges -/

abbrev ByteRange := UInt8 × UInt8

/-- Where a range has to be cut, if it does: the last code point of its first part. A
    `block` holds the characters that differ in their last one, two or three bytes. -/
def cutOf? (low high : Nat) : Option Nat :=
  let lengths := [0x7f, 0x7ff, 0xffff]
  let blocks := if high ≤ 0x7f then [] else [0x40, 0x1000, 0x40000].flatMap fun block =>
    if low / block = high / block then []
    else if low % block ≠ 0 then [(low / block + 1) * block - 1]
    else if high % block ≠ block - 1 then [high / block * block - 1]
    else []
  (lengths ++ blocks).find? fun n => low ≤ n && n < high

theorem le_of_cutOf? {low high n : Nat} (h : cutOf? low high = some n) : low ≤ n ∧ n < high := by
  simpa using List.find?_some h

/-- The spellings of the characters from one code point to another, neither of them
    before the surrogates if the other is behind them. -/
def byteRanges (low high : Nat) : List (List ByteRange) :=
  match h : cutOf? low high with
  | some n =>
    have := le_of_cutOf? h
    byteRanges low n ++ byteRanges (n + 1) high
  | none => [(String.utf8EncodeChar (Char.ofNat low)).zip (String.utf8EncodeChar (Char.ofNat high))]
termination_by high - low

def spellings (low high : Char) : List (List ByteRange) :=
  if low.toNat < 0xd800 ∧ 0xdfff < high.toNat then byteRanges low.toNat 0xd7ff ++ byteRanges 0xe000 high.toNat
  else byteRanges low.toNat high.toNat

/-! ## States -/

namespace Pattern

inductive Direction where
  | forward
  | backward
  deriving DecidableEq, Repr

def stateSize : Nat := 32

def forkSize (ways : Nat) : Nat := stateSize + 4 * ways

/-- A state that leads to others by so many ranges of bytes; of one range it is a plain state. -/
def switchSize (ranges : Nat) : Nat := stateSize + 8 * ranges

/-! ## Sets of characters -/

def endings (spelled : List (List ByteRange)) (start : List ByteRange) : List (List ByteRange) :=
  spelled.filterMap fun s => if start.isPrefixOf s then some (s.drop start.length) else none

/-- One state for each way in which spellings may go on, and one behind them all. -/
def spelledForward (spelled : List (List ByteRange)) : Nat :=
  let starts := (spelled.flatMap fun s => (List.range s.length).map (s.take ·)).eraseDups
  let states := (starts.map (endings spelled)).eraseDups
  stateSize + (states.map fun s => switchSize (s.filterMap List.head?).eraseDups.length).foldl (· + ·) 0

/-- One state for each start of a spelling, and a fork and a state around them all. -/
def spelledBackward (spelled : List (List ByteRange)) : Nat :=
  let starts := (spelled.flatMap fun s => (List.range s.length).map fun n => s.take (n + 1)).eraseDups
  stateSize + forkSize spelled.length + stateSize * starts.length

def setSize (direction : Direction) (set : CharSet) : Nat :=
  let ranges := set.ranges
  if ranges.all fun r => r.2.toNat < 0x80 then stateSize + switchSize ranges.length
  else
    let spelled := ranges.flatMap fun r => spellings r.1 r.2
    match direction with
    | .forward => spelledForward spelled
    | .backward => spelledBackward spelled

/-! ## Choices between words -/

/-- A choice between words is a tree, whose nodes are given by what the words go on with.
    The words before and behind one that ends at a node are kept apart. -/
def stretches : List (List UInt8) → List (List (List UInt8)) → List (List UInt8) → List (List (List UInt8))
  | now, done, [] => (now.reverse :: done).reverse
  | now, done, [] :: rest =>
    if now.isEmpty && !done.isEmpty && done.all List.isEmpty then stretches [] done rest
    else stretches [] (now.reverse :: done) rest
  | now, done, word :: rest => stretches (word :: now) done rest

def nodeSize : Nat → List (List UInt8) → Nat
  | 0, _ => 0
  | n + 1, words =>
    if words.all List.isEmpty then 0
    else
      let kept := stretches [] [] words
      let ways := kept.length - 1 + (kept.filter (!·.isEmpty)).length
      forkSize ways + (kept.map fun words =>
        let bytes := (words.filterMap List.head?).eraseDups
        (if bytes.isEmpty then 0 else if bytes.length = 1 then stateSize else switchSize bytes.length) +
          (bytes.map fun b => nodeSize n ((words.filter (·.head? = some b)).map List.tail)).foldl (· + ·) 0).foldl (· + ·) 0

def treeSize (direction : Direction) (words : List (List UInt8)) : Nat :=
  let words := if direction = .backward then words.map List.reverse else words
  stateSize + nodeSize ((words.map List.length).foldl max 0 + 1) words

/-! ## Patterns -/

/-- The fewest characters that the pattern reads, unless it holds a set without any. -/
def fewest : Pattern → Option Nat
  | nothing => some 0
  | one set => if set.ranges.isEmpty then none else some 1
  | edge _ => some 0
  | seq p q => do return (← p.fewest) + (← q.fewest)
  | either p q => do return min (← p.fewest) (← q.fewest)
  | group _ p => p.fewest
  | repeated p least _ => do return least * (← p.fewest)

/-- The branches of a choice: their number, their joint size, and their bytes if each of
    them is a word. What is no choice is a single branch. -/
structure Weight where
  branches : Nat
  size : Nat
  words : Option (List (List UInt8))

namespace Weight

def single (size : Nat) : Weight := ⟨1, size, none⟩

def total (direction : Direction) (w : Weight) : Nat :=
  if w.branches = 1 then w.size
  else
    match w.words with
    | some words => treeSize direction words
    | none => forkSize w.branches + stateSize + w.size

end Weight

/-- The size of a body that is repeated; `reads` if it cannot pass without reading. -/
def repeatedSize (body : Nat) (reads : Bool) (least : Nat) : Option Nat → Nat
  | none =>
    if least = 0 then (if reads then body + forkSize 2 else body + 2 * forkSize 2 + stateSize)
    else least * body + forkSize 2
  | some most =>
    if least = 0 ∧ most = 1 then body + forkSize 2 + stateSize
    else if most = least then least * body
    else (if least = 0 then stateSize else least * body) + stateSize + (most - least) * (body + forkSize 2)

def weight (direction : Direction) : Pattern → Weight
  | nothing => .single stateSize
  | one set =>
    match set.single? with
    | some c => ⟨1, stateSize * c.utf8Size, some [String.utf8EncodeChar c]⟩
    | none => .single (setSize direction set)
  | edge _ => .single stateSize
  | seq p q =>
    let a := p.weight direction
    let b := q.weight direction
    let size := a.total direction + b.total direction
    match a.words, b.words with
    | some [word], some [word'] => ⟨1, size, some [word ++ word']⟩
    | _, _ => .single size
  | either p q =>
    let a := p.weight direction
    let b := q.weight direction
    ⟨a.branches + b.branches, a.size + b.size, do return (← a.words) ++ (← b.words)⟩
  | group _ p =>
    .single ((p.weight direction).total direction + if direction = .forward then 2 * stateSize else 0)
  | repeated p least most =>
    .single (repeatedSize ((p.weight direction).total direction) (p.fewest.any (0 < ·)) least most)

/-- Whether the pattern can pass only where the edge is, before it reads anything. -/
def startsWith (e : Edge) : Pattern → Bool
  | edge e' => e' == e
  | seq p q => p.startsWith e || (p.readsNothing && q.startsWith e)
  | either p q => p.startsWith e && q.startsWith e
  | group _ p => p.startsWith e
  | repeated p least _ => 0 < least && p.startsWith e
  | _ => false

def endsWith (e : Edge) : Pattern → Bool
  | edge e' => e' == e
  | seq p q => q.endsWith e || (q.readsNothing && p.endsWith e)
  | either p q => p.endsWith e && q.endsWith e
  | group _ p => p.endsWith e
  | repeated p least _ => 0 < least && p.endsWith e
  | _ => false

/-- The size of a machine. Before the pattern it passes over any bytes, unless it must
    begin at an end of the text; the whole pattern is a group. -/
def size (direction : Direction) (p : Pattern) : Nat :=
  let anchored := if direction = .forward then p.startsWith .textStart else p.endsWith .textEnd
  let before := if anchored then stateSize else repeatedSize (stateSize + switchSize 1) true 0 none
  before + ((group 0 p).weight direction).total direction + stateSize

/-! ## What is refused -/

def mentions (e : Edge) : Pattern → Bool
  | edge e' => e' == e
  | seq p q => p.mentions e || q.mentions e
  | either p q => p.mentions e || q.mentions e
  | group _ p => p.mentions e
  | repeated p _ _ => p.mentions e
  | _ => false

def checked (p : Pattern) : Except Flaw Pattern :=
  if sizeLimit < p.size .forward then throw .tooLarge
  else if p.mentions .anyWord then throw .wordEdge
  else if sizeLimit < p.size .backward then throw .tooLarge
  else return p

end Pattern

end Munch
