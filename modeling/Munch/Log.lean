/-
  Munch.Log — the transcript: what is recorded while sources are scanned, and which
  records a limit lets through.

  An event says what happened; its level, its target and its message follow from it. A
  limit is nothing at all, or every level down to one; `lower` of two limits lets through
  what both let through (`admits_lower`).
-/

import Munch.Text.Lines
import Munch.Token

namespace Munch

inductive Level where
  | error
  | warn
  | info
  | debug
  | trace
  deriving DecidableEq, Repr

namespace Level

/-- The most severe level comes first. -/
def rank : Level → Nat
  | error => 1
  | warn => 2
  | info => 3
  | debug => 4
  | trace => 5

def name : Level → String
  | error => "ERROR"
  | warn => "WARN"
  | info => "INFO"
  | debug => "DEBUG"
  | trace => "TRACE"

end Level

inductive Limit where
  | off
  | upTo (level : Level)
  deriving DecidableEq, Repr

namespace Limit

def rank : Limit → Nat
  | off => 0
  | upTo l => l.rank

def admits (limit : Limit) (level : Level) : Bool := level.rank ≤ limit.rank

def lower (a b : Limit) : Limit := if a.rank ≤ b.rank then a else b

def ofName? : String → Option Limit
  | "off" => some off
  | "error" => some (upTo .error)
  | "warn" => some (upTo .warn)
  | "info" => some (upTo .info)
  | "debug" => some (upTo .debug)
  | "trace" => some (upTo .trace)
  | _ => none

theorem admits_lower (a b : Limit) (level : Level) :
    (a.lower b).admits level = (a.admits level && b.admits level) := by
  simp only [lower, admits, ← Bool.decide_and]
  apply decide_eq_decide.mpr
  split <;> omega

end Limit

inductive Event where
  /-- A token was read. -/
  | scanned (token : Token)
  /-- A whole source was read. -/
  | tokenized (characters tokens : Nat)
  /-- The tokens of an input were asked for. -/
  | scanning (path : String)
  /-- A check of an input was asked for. -/
  | checking (path : String)
  deriving DecidableEq, Repr

namespace Event

def level : Event → Level
  | scanned _ => .trace
  | tokenized _ _ => .debug
  | scanning _ => .debug
  | checking _ => .info

def target : Event → String
  | scanned _ => "tinylex::lexer::scanner"
  | tokenized _ _ => "tinylex::lexer::scanner"
  | scanning _ => "tinylex"
  | checking _ => "tinylex"

def message : Event → String
  | scanned t => "scanned " ++ t.display
  | tokenized characters tokens => "tokenized " ++ characters.repr ++ " characters into " ++ tokens.repr ++ " tokens"
  | scanning path => "Scanning " ++ Quoted.encode path
  | checking path => "Checking " ++ Quoted.encode path

/-- The event as a line of the log; every level takes five columns. -/
def line (e : Event) : String :=
  "[" ++ alignLeft 5 e.level.name ++ " " ++ e.target ++ "] " ++ e.message ++ "\n"

end Event

/-- The events that pass the limit, in order. -/
def shown (limit : Limit) (events : List Event) : List Event := events.filter fun e => limit.admits e.level

end Munch
