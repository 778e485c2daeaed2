/-
  Munch.Token.Stream — from a source to the stream of its tokens.

  A scanner is a place in a source text. It holds the character under examination, so that
  looking at it costs nothing, and can look one character further; it only moves forward.
  `ahead` counts the characters from there to the end. Advancing from a character lowers it
  (`ahead_advance_lt`), so every loop that advances while there is a character ends;
  skipping never raises it (`ahead_skipWhile_le`).

  A turn of the scanner skips a gap and reads the longest lexeme that starts there. A word
  or a numeral is a whole run; `=` and `!` look one character ahead for their pair; every
  other character is a lexeme alone. A turn that reads no end leaves less ahead
  (`ahead_turn_lt`), so reading until the end ends. `turnsUntil` and `turnsUpTo` take several
  turns and stop after one that reads the end; `turnsExactly` goes on past it.

  A whole source is its tokens, the end included, and what the transcript says of reading
  it: every token, then the two counts.
-/

import Munch.Log

namespace Munch

/-! ## The cursor -/

structure Scanner where
  text : Array Char
  /-- Where `current` stands. -/
  position : Nat
  /-- Where the next character stands. -/
  readPosition : Nat
  /-- The character under examination; none past the end. -/
  current : Option Char
  deriving DecidableEq, Repr

namespace Scanner

def peek (s : Scanner) : Option Char := s.text[s.readPosition]?

def advance (s : Scanner) : Scanner :=
  { s with position := s.readPosition, readPosition := s.readPosition + 1, current := s.peek }

def ofString (source : String) : Scanner := advance ⟨source.toList.toArray, 0, 0, none⟩

def ahead (s : Scanner) : Nat :=
  match s.current with
  | some _ => s.text.size - s.readPosition + 1
  | none => 0

theorem ahead_of_current {s : Scanner} {c : Char} (h : s.current = some c) :
    s.ahead = s.text.size - s.readPosition + 1 := by
  simp [ahead, h]

theorem ahead_of_end {s : Scanner} (h : s.current = none) : s.ahead = 0 := by
  simp [ahead, h]

theorem ahead_advance_lt {s : Scanner} {c : Char} (h : s.current = some c) : s.advance.ahead < s.ahead := by
  rw [ahead_of_current h]
  cases hd : s.advance.current with
  | none => rw [ahead_of_end hd]; omega
  | some d =>
    have hlt : s.readPosition < s.text.size := (Array.getElem?_eq_some_iff.mp hd).1
    rw [ahead_of_current hd]
    show s.text.size - (s.readPosition + 1) + 1 < s.text.size - s.readPosition + 1
    omega

/-- Advance over the characters that satisfy `p`. -/
def skipWhile (p : Char → Bool) (s : Scanner) : Scanner :=
  match _h : s.current with
  | some c => if p c then s.advance.skipWhile p else s
  | none => s
termination_by s.ahead
decreasing_by exact ahead_advance_lt _h

theorem skipWhile_of_current {p : Char → Bool} {s : Scanner} {c : Char} (h : s.current = some c) (hp : p c = true) :
    s.skipWhile p = s.advance.skipWhile p := by
  rw [skipWhile]
  split
  · rename_i d hd
    rw [h] at hd
    injection hd with hd
    rw [← hd, if_pos hp]
  · rename_i hn
    rw [h] at hn
    cases hn

theorem skipWhile_of_not {p : Char → Bool} {s : Scanner} {c : Char} (h : s.current = some c) (hp : p c = false) :
    s.skipWhile p = s := by
  rw [skipWhile]
  split
  · rename_i d hd
    rw [h] at hd
    injection hd with hd
    rw [← hd, hp]
    rfl
  · rfl

theorem skipWhile_of_end {p : Char → Bool} {s : Scanner} (h : s.current = none) : s.skipWhile p = s := by
  rw [skipWhile]
  split
  · rename_i d hd
    rw [h] at hd
    cases hd
  · rfl

theorem ahead_skipWhile_le (p : Char → Bool) (s : Scanner) : (s.skipWhile p).ahead ≤ s.ahead := by
  fun_induction skipWhile p s with
  | case1 s c h hp ih => exact Nat.le_of_lt (Nat.lt_of_le_of_lt ih (ahead_advance_lt h))
  | case2 => exact Nat.le_refl _
  | case3 => exact Nat.le_refl _

/-- The text from the cursor to `stop`, which is not part of it. -/
def slice (s : Scanner) (stop : Nat) : String := String.ofList (s.text.extract s.position stop).toList

/-- The longest run of characters that satisfy `p`, and the cursor after it. -/
def readWhile (p : Char → Bool) (s : Scanner) : String × Scanner :=
  let after := s.skipWhile p
  (s.slice after.position, after)

end Scanner

/-! ## Turns -/

/-- A token read, what the transcript says of it, and the scanner after it. -/
structure Turn where
  token : Token
  events : List Event
  after : Scanner
  deriving DecidableEq, Repr

namespace Turn

def isEnd (t : Turn) : Bool := t.token.isEnd

/-- A turn that read a lexeme. -/
def read (token : Token) (after : Scanner) : Turn := ⟨token, [.scanned token], after⟩

/-- The tokens that some turns read, the end not among them. -/
def lexemes (turns : List Turn) : List Token := (turns.map token).filter fun t => !t.isEnd

end Turn

namespace Scanner

/-- The turn from a cursor that stands on no gap. -/
def lexeme (s : Scanner) : Turn :=
  match s.current with
  | none => ⟨.endOfInput, [], s⟩
  | some c =>
    if isLetter c then
      let (word, after) := s.readWhile isLetter
      .read ⟨.ofWord word, word⟩ after
    else if isDigit c then
      let (numeral, after) := s.readWhile isDigit
      .read ⟨.integer, numeral⟩ after
    else
      match Kind.ofPair? c s.peek with
      | some kind => .read ⟨kind, String.ofList [c, '=']⟩ s.advance.advance
      | none => .read (.ofChar ((Kind.ofMark? c).getD .illegal) c) s.advance

def turn (s : Scanner) : Turn := (s.skipWhile isGap).lexeme

theorem peek_of_ofPair? {c : Char} {next : Option Char} {kind : Kind} (h : Kind.ofPair? c next = some kind) :
    next = some '=' := by
  unfold Kind.ofPair? at h
  split at h
  · rfl
  · rfl
  · cases h

theorem ahead_readWhile_lt {p : Char → Bool} {s : Scanner} {c : Char} (h : s.current = some c) (hp : p c = true) :
    (s.readWhile p).2.ahead < s.ahead := by
  show (s.skipWhile p).ahead < s.ahead
  rw [skipWhile_of_current h hp]
  exact Nat.lt_of_le_of_lt (ahead_skipWhile_le p s.advance) (ahead_advance_lt h)

theorem ahead_lexeme_lt {s : Scanner} (h : s.lexeme.isEnd = false) : s.lexeme.after.ahead < s.ahead := by
  unfold lexeme at h ⊢
  split
  · rename_i hc
    rw [hc] at h
    cases h
  · rename_i c hc
    split
    · exact ahead_readWhile_lt hc (by assumption)
    · split
      · exact ahead_readWhile_lt hc (by assumption)
      · split
        · rename_i hk
          have hp : s.advance.current = some '=' := peek_of_ofPair? hk
          exact Nat.lt_trans (ahead_advance_lt hp) (ahead_advance_lt hc)
        · exact ahead_advance_lt hc

theorem ahead_turn_lt {s : Scanner} (h : s.turn.isEnd = false) : s.turn.after.ahead < s.ahead :=
  Nat.lt_of_lt_of_le (ahead_lexeme_lt h) (ahead_skipWhile_le isGap s)

/-- Whether reading stops after this turn. -/
def stops (stop : Token → Bool) (t : Turn) : Bool := t.isEnd || stop t.token

/-- `turnsUntil` with the turns already taken, newest first. -/
def turnsUntilAfter (stop : Token → Bool) (done : List Turn) (s : Scanner) : List Turn :=
  if _h : stops stop s.turn then (s.turn :: done).reverse else turnsUntilAfter stop (s.turn :: done) s.turn.after
termination_by s.ahead
decreasing_by
  refine ahead_turn_lt ?_
  simp only [stops, Bool.or_eq_true, not_or, Bool.not_eq_true] at _h
  exact _h.1

/-- The turns from `s` on, through the first that reads the end or a token that `stop` accepts. -/
def turnsUntil (stop : Token → Bool) (s : Scanner) : List Turn := turnsUntilAfter stop [] s

/-- `turnsUpTo` with the turns already taken, newest first. -/
def turnsUpToAfter (done : List Turn) : Nat → Scanner → List Turn
  | 0, _ => done.reverse
  | n + 1, s => if s.turn.isEnd then (s.turn :: done).reverse else turnsUpToAfter (s.turn :: done) n s.turn.after

/-- The first `n` turns from `s` on, fewer when one of them reads the end. -/
def turnsUpTo (n : Nat) (s : Scanner) : List Turn := turnsUpToAfter [] n s

def turnsToEnd (s : Scanner) : List Turn := s.turnsUntil fun _ => false

/-- `turnsExactly` with the turns already taken, newest first. -/
def turnsExactlyAfter (done : List Turn) : Nat → Scanner → List Turn
  | 0, _ => done.reverse
  | n + 1, s => turnsExactlyAfter (s.turn :: done) n s.turn.after

/-- `n` turns from `s` on, whatever they read; those past the end read it again. -/
def turnsExactly (n : Nat) (s : Scanner) : List Turn := turnsExactlyAfter [] n s

/-- The scanner after some turns from `s`. -/
def after (s : Scanner) (turns : List Turn) : Scanner := (turns.getLast?.map Turn.after).getD s

theorem turnsUntilAfter_eq (stop : Token → Bool) (done : List Turn) (s : Scanner) :
    turnsUntilAfter stop done s = done.reverse ++ turnsUntil stop s := by
  unfold turnsUntil
  suffices ∀ (n : Nat) (done : List Turn) (s : Scanner), s.ahead = n →
      turnsUntilAfter stop done s = done.reverse ++ turnsUntilAfter stop [] s from this _ done s rfl
  intro n
  induction n using Nat.strongRecOn with
  | ind n ih =>
    intro done s hn
    rw [turnsUntilAfter.eq_1 stop done, turnsUntilAfter.eq_1 stop []]
    split
    · simp
    · rename_i h
      simp only [stops, Bool.or_eq_true, not_or, Bool.not_eq_true] at h
      have hlt : s.turn.after.ahead < n := hn ▸ ahead_turn_lt h.1
      rw [ih _ hlt _ _ rfl, ih _ hlt [s.turn] _ rfl]
      simp

theorem turnsUntil_eq (stop : Token → Bool) (s : Scanner) :
    turnsUntil stop s = if stops stop s.turn then [s.turn] else s.turn :: turnsUntil stop s.turn.after := by
  rw [turnsUntil, turnsUntilAfter.eq_1]
  split
  · simp [*]
  · simp [*, turnsUntilAfter_eq]

theorem turnsUpToAfter_eq (done : List Turn) (n : Nat) (s : Scanner) :
    turnsUpToAfter done n s = done.reverse ++ turnsUpTo n s := by
  unfold turnsUpTo
  induction n generalizing done s with
  | zero => simp [turnsUpToAfter]
  | succ n ih =>
    simp only [turnsUpToAfter]
    split
    · simp
    · rw [ih, ih [s.turn]]
      simp

@[simp] theorem turnsUpTo_zero (s : Scanner) : turnsUpTo 0 s = [] := rfl

theorem turnsUpTo_succ (n : Nat) (s : Scanner) :
    turnsUpTo (n + 1) s = if s.turn.isEnd then [s.turn] else s.turn :: turnsUpTo n s.turn.after := by
  rw [turnsUpTo, turnsUpToAfter]
  split
  · rfl
  · rw [turnsUpToAfter_eq]
    rfl

theorem turnsExactlyAfter_eq (done : List Turn) (n : Nat) (s : Scanner) :
    turnsExactlyAfter done n s = done.reverse ++ turnsExactly n s := by
  unfold turnsExactly
  induction n generalizing done s with
  | zero => simp [turnsExactlyAfter]
  | succ n ih =>
    simp only [turnsExactlyAfter]
    rw [ih, ih [s.turn]]
    simp

@[simp] theorem turnsExactly_zero (s : Scanner) : turnsExactly 0 s = [] := rfl

theorem turnsExactly_succ (n : Nat) (s : Scanner) :
    turnsExactly (n + 1) s = s.turn :: turnsExactly n s.turn.after := by
  rw [turnsExactly, turnsExactlyAfter, turnsExactlyAfter_eq]
  rfl

end Scanner

/-! ## Whole sources -/

structure Reading where
  tokens : List Token
  events : List Event

def scan (source : String) : Reading :=
  let turns := (Scanner.ofString source).turnsToEnd
  { tokens := turns.map Turn.token
    events := turns.flatMap Turn.events ++ [.tokenized source.length turns.length] }

def tokenize (source : String) : List Token := (scan source).tokens

end Munch
