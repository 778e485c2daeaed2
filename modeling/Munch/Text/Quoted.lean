/-
  Munch.Text.Quoted — text between double quotes, on one line, fit for a terminal.

  NUL, tab, line feed, carriage return, the quote and the backslash have escapes of two
  characters; every other unprintable character is its hexadecimal code point between
  braces. What a character becomes depends on that character alone.

  A quote or a backslash in the text always stands behind a backslash, so the first quote
  that does not is the one that closes the text. The reader stops there and leaves alone
  what follows.
-/

import Munch.Text.Characters

namespace Munch.Quoted

def backslash : Char := '\\'

def hexDigits (n : Nat) : List Char := Nat.toDigits 16 n

def escape (c : Char) : List Char :=
  if c = '\x00' then [backslash, '0']
  else if c = '\t' then [backslash, 't']
  else if c = '\n' then [backslash, 'n']
  else if c = '\r' then [backslash, 'r']
  else if c = '"' then [backslash, '"']
  else if c = backslash then [backslash, backslash]
  else if isUnprintable c then [backslash, 'u', '{'] ++ hexDigits c.toNat ++ ['}']
  else [c]

def encode (text : String) : String := "\"" ++ String.ofList (text.toList.flatMap escape) ++ "\""

theorem toList_encode (text : String) : (encode text).toList = '"' :: text.toList.flatMap escape ++ ['"'] := by
  simp [encode, String.toList_append]

/-! ## Reading -/

/-- The character that a backslash and one more character stand for. -/
def unescape? : Char → Option Char
  | '0' => some '\x00'
  | 't' => some '\t'
  | 'n' => some '\n'
  | 'r' => some '\r'
  | '"' => some '"'
  | '\\' => some backslash
  | _ => none

inductive Place where
  | within
  /-- Behind a backslash. -/
  | escaped
  /-- Where the brace must open that holds a code point. -/
  | announced
  /-- In a code point, behind some of its digits. -/
  | coded (code : Nat)
  deriving DecidableEq, Repr

/-- The characters up to the quote that closes the text, and what follows it. -/
def readFrom? : Place → List Char → Option (List Char × List Char)
  | _, [] => none
  | .within, c :: rest =>
    if c = '"' then some ([], rest)
    else if c = backslash then readFrom? .escaped rest
    else (readFrom? .within rest).map (Prod.map (c :: ·) id)
  | .escaped, c :: rest =>
    if c = 'u' then readFrom? .announced rest
    else (unescape? c).bind fun d => (readFrom? .within rest).map (Prod.map (d :: ·) id)
  | .announced, c :: rest => if c = '{' then readFrom? (.coded 0) rest else none
  | .coded code, c :: rest =>
    if c = '}' then (readFrom? .within rest).map (Prod.map (Char.ofNat code :: ·) id)
    else (hexValue? c).bind fun d => readFrom? (.coded (16 * code + d)) rest

/-- The text between the quotes that some characters begin with, and what follows them. -/
def read? : List Char → Option (String × List Char)
  | '"' :: rest => (readFrom? .within rest).map (Prod.map String.ofList id)
  | _ => none

end Munch.Quoted
