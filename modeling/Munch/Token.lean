/-
  Munch.Token — characters, kinds and tokens.

  A gap separates lexemes and is dropped. Letters (ASCII, and the underscore) make
  words, ASCII digits make numerals. The fourteen marks stand for themselves, or as
  the pairs `==` and `!=`. Whatever is left, ASCII or not, is stray. The four named classes
  exclude one another, so every character is in exactly one of the five (`isStray` is the
  complement of the other four by definition).

  A word is a keyword when it is spelled exactly like one, else an identifier. A kind
  has two texts: its name, which stands in dumps and messages (`IDENT`, `==`), and its
  label, which stands in JSON (`Identifier`, `Equal`). Either text determines the kind.

  A token is a lexeme with its kind. Its text is the slice of the source it stands for; the
  end of the source is a token of its own with no text.
-/

import Munch.Text.Quoted

namespace Munch

/-! ## Characters -/

def isGap (c : Char) : Bool := c == ' ' || c == '\t' || c == '\n' || c == '\r'

/-- Letters of words: an accented or Greek letter is none. -/
def isLetter (c : Char) : Bool := c.isAlpha || c == '_'

def isDigit (c : Char) : Bool := c.isDigit

def marks : List Char := [';', '(', ')', ',', '+', '-', '*', '/', '{', '}', '<', '>', '=', '!']

def isMark (c : Char) : Bool := marks.contains c

def isStray (c : Char) : Bool := !(isGap c || isLetter c || isDigit c || isMark c)

theorem isGap_iff {c : Char} : isGap c = true ↔ c ∈ [' ', '\t', '\n', '\r'] := by
  simp [isGap, or_assoc]

theorem isMark_iff {c : Char} : isMark c = true ↔ c ∈ marks := by
  simp [isMark]

section

variable {p : Char → Bool} {c : Char}

/-- Gaps are outside of a class that none of the four is in. -/
theorem eq_false_of_isGap (hp : ([' ', '\t', '\n', '\r'].all fun c => !p c) = true) (h : isGap c = true) :
    p c = false := by
  simpa using List.all_eq_true.mp hp c (isGap_iff.mp h)

theorem eq_false_of_isMark (hp : (marks.all fun c => !p c) = true) (h : isMark c = true) : p c = false := by
  simpa using List.all_eq_true.mp hp c (isMark_iff.mp h)

theorem not_isLetter_of_isGap (h : isGap c = true) : isLetter c = false := eq_false_of_isGap (by decide) h

theorem not_isDigit_of_isGap (h : isGap c = true) : isDigit c = false := eq_false_of_isGap (by decide) h

theorem not_isMark_of_isGap (h : isGap c = true) : isMark c = false := eq_false_of_isGap (by decide) h

theorem not_isLetter_of_isMark (h : isMark c = true) : isLetter c = false := eq_false_of_isMark (by decide) h

theorem not_isDigit_of_isMark (h : isMark c = true) : isDigit c = false := eq_false_of_isMark (by decide) h

end

theorem toNat_of_isAlpha {c : Char} (h : c.isAlpha = true) :
    (0x41 ≤ c.toNat ∧ c.toNat ≤ 0x5a) ∨ (0x61 ≤ c.toNat ∧ c.toNat ≤ 0x7a) := by
  change (decide (c.val ≥ 0x41 ∧ c.val ≤ 0x5a) || (c.val ≥ 0x61 && c.val ≤ 0x7a)) = true at h
  simp only [Bool.or_eq_true, Bool.and_eq_true, decide_eq_true_eq, ge_iff_le, UInt32.le_iff_toNat_le] at h
  exact h

theorem toNat_of_isDigit {c : Char} (h : c.isDigit = true) : 0x30 ≤ c.toNat ∧ c.toNat ≤ 0x39 := by
  simpa [Char.isDigit, UInt32.le_iff_toNat_le] using h

theorem not_isDigit_of_isLetter {c : Char} (h : isLetter c = true) : isDigit c = false := by
  simp only [isLetter, Bool.or_eq_true, beq_iff_eq] at h
  rcases h with halpha | rfl
  · refine eq_false_of_ne_true fun hd => ?_
    have hdigit := toNat_of_isDigit hd
    rcases toNat_of_isAlpha halpha with hupper | hlower <;> omega
  · decide

/-- A class that excludes another is excluded by it. -/
theorem eq_false_of_excludes {p q : Char → Bool} {c : Char} (hpq : p c = true → q c = false) (h : q c = true) :
    p c = false :=
  eq_false_of_ne_true fun hp => absurd h (by simp [hpq hp])

theorem not_isGap_of_isLetter {c : Char} (h : isLetter c = true) : isGap c = false :=
  eq_false_of_excludes not_isLetter_of_isGap h

theorem not_isGap_of_isDigit {c : Char} (h : isDigit c = true) : isGap c = false :=
  eq_false_of_excludes not_isDigit_of_isGap h

theorem not_isLetter_of_isDigit {c : Char} (h : isDigit c = true) : isLetter c = false :=
  eq_false_of_excludes not_isDigit_of_isLetter h

/-! ## Kinds -/

inductive Keyword where
  | fn_
  | let_
  | if_
  | else_
  | return_
  | true_
  | false_
  deriving DecidableEq, Repr

namespace Keyword

/-- The reserved words in the order in which they are listed. -/
def all : List Keyword := [fn_, let_, if_, else_, return_, true_, false_]

def spelling : Keyword → String
  | fn_ => "fn"
  | let_ => "let"
  | if_ => "if"
  | else_ => "else"
  | return_ => "return"
  | true_ => "true"
  | false_ => "false"

def name : Keyword → String
  | fn_ => "FUNCTION"
  | let_ => "LET"
  | if_ => "IF"
  | else_ => "ELSE"
  | return_ => "RETURN"
  | true_ => "TRUE"
  | false_ => "FALSE"

def label : Keyword → String
  | fn_ => "Function"
  | let_ => "Let"
  | if_ => "If"
  | else_ => "Else"
  | return_ => "Return"
  | true_ => "True"
  | false_ => "False"

/-- Spelling counts to the letter: `Let` and `LET` are no keywords. -/
def ofSpelling? (word : String) : Option Keyword := all.find? fun k => k.spelling == word

theorem ofSpelling?_spelling (k : Keyword) : ofSpelling? k.spelling = some k := by cases k <;> decide

theorem ofSpelling?_eq_some_iff {word : String} {k : Keyword} : ofSpelling? word = some k ↔ k.spelling = word := by
  refine ⟨fun h => by simpa using List.find?_some h, ?_⟩
  rintro rfl
  exact ofSpelling?_spelling k

end Keyword

inductive Kind where
  | illegal
  | endOfInput
  | identifier
  | integer
  | assign
  | plus
  | minus
  | bang
  | asterisk
  | slash
  | lessThan
  | greaterThan
  | equal
  | notEqual
  | comma
  | semicolon
  | lParen
  | rParen
  | lBrace
  | rBrace
  | keyword (word : Keyword)
  deriving DecidableEq, Repr

namespace Kind

def all : List Kind :=
  [illegal, endOfInput, identifier, integer, assign, plus, minus, bang, asterisk, slash, lessThan, greaterThan, equal,
    notEqual, comma, semicolon, lParen, rParen, lBrace, rBrace] ++ Keyword.all.map keyword

def isKeyword : Kind → Bool
  | keyword _ => true
  | _ => false

def name : Kind → String
  | illegal => "ILLEGAL"
  | endOfInput => "EOF"
  | identifier => "IDENT"
  | integer => "INT"
  | assign => "="
  | plus => "+"
  | minus => "-"
  | bang => "!"
  | asterisk => "*"
  | slash => "/"
  | lessThan => "<"
  | greaterThan => ">"
  | equal => "=="
  | notEqual => "!="
  | comma => ","
  | semicolon => ";"
  | lParen => "("
  | rParen => ")"
  | lBrace => "\x7b"
  | rBrace => "\x7d"
  | keyword k => k.name

def label : Kind → String
  | illegal => "Illegal"
  | endOfInput => "EndOfInput"
  | identifier => "Identifier"
  | integer => "Integer"
  | assign => "Assign"
  | plus => "Plus"
  | minus => "Minus"
  | bang => "Bang"
  | asterisk => "Asterisk"
  | slash => "Slash"
  | lessThan => "LessThan"
  | greaterThan => "GreaterThan"
  | equal => "Equal"
  | notEqual => "NotEqual"
  | comma => "Comma"
  | semicolon => "Semicolon"
  | lParen => "LParen"
  | rParen => "RParen"
  | lBrace => "LBrace"
  | rBrace => "RBrace"
  | keyword k => k.label

def ofName? (text : String) : Option Kind := all.find? fun k => k.name == text

def ofLabel? (text : String) : Option Kind := all.find? fun k => k.label == text

/-- The kind of a run of letters. -/
def ofWord (word : String) : Kind :=
  match Keyword.ofSpelling? word with
  | some k => keyword k
  | none => identifier

/-- The kind of a mark that stands alone. -/
def ofMark? : Char → Option Kind
  | ';' => some semicolon
  | '(' => some lParen
  | ')' => some rParen
  | ',' => some comma
  | '+' => some plus
  | '-' => some minus
  | '*' => some asterisk
  | '/' => some slash
  | '{' => some lBrace
  | '}' => some rBrace
  | '<' => some lessThan
  | '>' => some greaterThan
  | '=' => some assign
  | '!' => some bang
  | _ => none

/-- The kind of two marks that stand together. -/
def ofPair? : Char → Option Char → Option Kind
  | '=', some '=' => some equal
  | '!', some '=' => some notEqual
  | _, _ => none

theorem mem_all (k : Kind) : k ∈ all := by
  cases k with
  | keyword k => cases k <;> decide
  | _ => decide

theorem ofName?_name (k : Kind) : ofName? k.name = some k := by
  cases k with
  | keyword k => cases k <;> decide
  | _ => decide

theorem ofLabel?_label (k : Kind) : ofLabel? k.label = some k := by
  cases k with
  | keyword k => cases k <;> decide
  | _ => decide

theorem ofWord_ne_endOfInput (word : String) : ofWord word ≠ endOfInput := by
  unfold ofWord; split <;> simp

theorem isSome_ofMark? (c : Char) : (ofMark? c).isSome = isMark c := by
  unfold ofMark?
  split <;> simp_all [isMark, marks]

end Kind

/-! ## Tokens -/

structure Token where
  kind : Kind
  text : String
  deriving DecidableEq, Repr

namespace Token

def ofChar (kind : Kind) (c : Char) : Token := ⟨kind, String.singleton c⟩

def endOfInput : Token := ⟨.endOfInput, ""⟩

/-- Whether the token marks the end: its kind says so, whatever its text. -/
def isEnd (t : Token) : Bool := t.kind == .endOfInput

/-- The token as dumps, messages and the transcript show it. -/
def display (t : Token) : String := t.kind.name ++ " " ++ Quoted.encode t.text

/-- The token with its fields named. -/
def inspect (t : Token) : String :=
  "Token \x7b kind: " ++ t.kind.label ++ ", text: " ++ Quoted.encode t.text ++ " \x7d"

theorem isEnd_iff {t : Token} : t.isEnd = true ↔ t.kind = .endOfInput := by simp [isEnd]

end Token

end Munch
