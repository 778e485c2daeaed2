/-
  Munch.Scanner.Request — what a reader may ask of a scanner, in any order and for ever.

  A request costs some turns and is answered from the lexemes they read: `nth n` skips
  `n` lexemes, `take n` leaves the scanner alone once it has `n`, `find` goes through the
  first lexeme of a kind, `rest` and `count` go to the end. `renew` starts over on
  another source.

  A `Machine` answers requests; a session puts them to several of its states, each
  request to the state it names. Scanners are one machine, queues are another: a queue is
  the lexemes left to read and nothing else, no text and no cursor. It says what a reader
  may expect of a scanner without saying how a scanner works.
-/

import Munch.Token.Stream

namespace Munch

inductive Request where
  | nextToken
  | next
  | nth (n : Nat)
  | take (n : Nat)
  | find (kind : Kind)
  | rest
  | count
  | renew (source : String)
  deriving DecidableEq, Repr

inductive Answer where
  | token (token : Token)
  | found (token : Option Token)
  | tokens (tokens : List Token)
  | count (n : Nat)
  | renewed
  deriving DecidableEq, Repr

namespace Request

def turns (s : Scanner) : Request → List Turn
  | nextToken => s.turnsUpTo 1
  | next => s.turnsUpTo 1
  | nth n => s.turnsUpTo (n + 1)
  | take n => s.turnsUpTo n
  | find kind => s.turnsUntil fun t => t.kind == kind
  | rest => s.turnsToEnd
  | count => s.turnsToEnd
  | renew _ => []

/-- The answer, from the lexemes that the request's turns read. -/
def answer (read : List Token) : Request → Answer
  | nextToken => .token (read.head?.getD .endOfInput)
  | next => .found read.head?
  | nth n => .found read[n]?
  | take _ => .tokens read
  | find kind => .found (read.find? fun t => t.kind == kind)
  | rest => .tokens read
  | count => .count read.length
  | renew _ => .renewed

def after (s : Scanner) : Request → Scanner
  | renew source => .ofString source
  | r => s.after (r.turns s)

end Request

structure Machine (σ : Type) where
  start : String → σ
  run : Request → σ → Answer × σ

/-- A request to a state that does not exist is left unanswered. -/
def Machine.session {σ : Type} (m : Machine σ) : List σ → List (Nat × Request) → List Answer
  | _, [] => []
  | states, (i, r) :: rest =>
    match states[i]? with
    | some s => (m.run r s).1 :: m.session (states.set i (m.run r s).2) rest
    | none => m.session states rest

namespace Scanner

def machine : Machine Scanner where
  start := ofString
  run r s := (r.answer (Turn.lexemes (r.turns s)), r.after s)

end Scanner

namespace Queue

/-- What is left when a queue has given up everything through the first token of a kind. -/
def dropThrough (kind : Kind) : List Token → List Token
  | [] => []
  | t :: rest => if t.kind = kind then rest else dropThrough kind rest

def ofString (source : String) : List Token := (tokenize source).dropLast

def run : Request → List Token → Answer × List Token
  | .nextToken, [] => (.token .endOfInput, [])
  | .nextToken, t :: rest => (.token t, rest)
  | .next, [] => (.found none, [])
  | .next, t :: rest => (.found (some t), rest)
  | .nth n, queue => (.found queue[n]?, queue.drop (n + 1))
  | .take n, queue => (.tokens (queue.take n), queue.drop n)
  | .find kind, queue => (.found (queue.find? fun t => t.kind == kind), dropThrough kind queue)
  | .rest, queue => (.tokens queue, [])
  | .count, queue => (.count queue.length, [])
  | .renew source, _ => (.renewed, ofString source)

def machine : Machine (List Token) := ⟨ofString, run⟩

end Queue

end Munch
