/-
  Munch.Token.Json — the part of JSON that token streams need: strings, arrays and objects.

  A value is written in one of two layouts that differ in nothing but the blanks between
  its parts: compact has none, pretty puts every item and every field on a line of its own, two
  columns deeper than what holds it, and a blank after a colon. An empty array or object
  is written without any. A token is an object with the kind's label and the text, in that
  order, and nothing else is read as one.

  JSON is read back in two passes that look at one thing at a time. The first cuts the
  characters of a text into marks and strings, and drops the blanks between them. It knows
  every escape of JSON; a character beyond U+FFFF may be coded as two halves, and a half
  that stands alone is refused, as are controls that are not escaped. The second pass
  remembers which arrays and objects are still open and what may come next. Numbers and the
  words of JSON are no values here, so a text that holds one is not read.
-/

import Munch.Text.Lines
import Munch.Token

namespace Munch

inductive Json where
  | string (text : String)
  | array (items : List Json)
  | object (fields : List (String × Json))

namespace Json

inductive Layout where
  | compact
  | pretty
  deriving DecidableEq, Repr

namespace Layout

/-- What stands before a part at a depth. -/
def lineBreak : Layout → Nat → String
  | compact, _ => ""
  | pretty, depth => "\n" ++ spaces (2 * depth)

def colon : Layout → String
  | compact => ":"
  | pretty => ": "

/-- Parts between brackets, each part already written one level deeper. -/
def bracket (layout : Layout) (depth : Nat) (opening closing : String) (parts : List String) : String :=
  if parts.isEmpty then opening ++ closing
  else
    opening ++ layout.lineBreak (depth + 1) ++ ("," ++ layout.lineBreak (depth + 1)).intercalate parts ++
      layout.lineBreak depth ++ closing

end Layout

/-- The written form of one character: the quote, the backslash and the controls below
    U+0020 are escaped, the rest stand as they are. -/
def escape (c : Char) : List Char :=
  if c = '"' then ['\\', '"']
  else if c = '\\' then ['\\', '\\']
  else if c = '\x08' then ['\\', 'b']
  else if c = '\t' then ['\\', 't']
  else if c = '\n' then ['\\', 'n']
  else if c = '\x0c' then ['\\', 'f']
  else if c = '\r' then ['\\', 'r']
  else if c.toNat < 0x20 then ['\\', 'u', '0', '0', (c.toNat / 16).digitChar, (c.toNat % 16).digitChar]
  else [c]

def quote (text : String) : String := "\"" ++ String.ofList (text.toList.flatMap escape) ++ "\""

def writeAt (layout : Layout) (depth : Nat) : Json → String
  | string text => quote text
  | array items => layout.bracket depth "[" "]" (items.map fun item => item.writeAt layout (depth + 1))
  | object fields =>
    layout.bracket depth "\x7b" "\x7d"
      (fields.map fun field => quote field.1 ++ layout.colon ++ field.2.writeAt layout (depth + 1))
termination_by json => sizeOf json
decreasing_by
  · rename_i h
    have := List.sizeOf_lt_of_mem h
    simp only [array.sizeOf_spec]
    omega
  · rename_i h
    have := List.sizeOf_lt_of_mem h
    obtain ⟨name, value⟩ := field
    simp only [object.sizeOf_spec, Prod.mk.sizeOf_spec] at this ⊢
    omega

def write (layout : Layout) (json : Json) : String := json.writeAt layout 0

end Json

/-! ## Tokens -/

namespace Token

def toJson (t : Token) : Json := .object [("kind", .string t.kind.label), ("text", .string t.text)]

def streamToJson (tokens : List Token) : Json := .array (tokens.map toJson)

def ofJson? : Json → Option Token
  | .object [(first, .string label), (second, .string text)] =>
    if first = "kind" ∧ second = "text" then (Kind.ofLabel? label).map (⟨·, text⟩) else none
  | _ => none

def streamOfJson? : Json → Option (List Token)
  | .array items => items.mapM ofJson?
  | _ => none

theorem ofJson?_toJson (t : Token) : ofJson? t.toJson = some t := by
  rw [toJson, ofJson?, if_pos ⟨rfl, rfl⟩, Kind.ofLabel?_label, Option.map_some]

theorem streamOfJson?_streamToJson (tokens : List Token) : streamOfJson? (streamToJson tokens) = some tokens := by
  have hread : ofJson? ∘ toJson = fun t => pure t := funext ofJson?_toJson
  rw [streamToJson, streamOfJson?, List.mapM_map, hread, List.mapM_pure, List.map_id']
  rfl

end Token

/-! ## Reading -/

namespace Json

/-- What a text is made of, its blanks left out. -/
inductive Piece where
  | mark (c : Char)
  | text (content : String)
  deriving DecidableEq, Repr

/-! ## Characters -/

def marks : List Char := ['[', ']', '{', '}', ':', ',']

def isPadding (c : Char) : Bool := c == ' ' || c == '\t' || c == '\n' || c == '\r'

/-- The character that a backslash and one more character stand for. -/
def unescape? : Char → Option Char
  | '"' => some '"'
  | '\\' => some '\\'
  | '/' => some '/'
  | 'b' => some '\x08'
  | 'f' => some '\x0c'
  | 'n' => some '\n'
  | 'r' => some '\r'
  | 't' => some '\t'
  | _ => none

def isFirstHalf (code : Nat) : Bool := 0xd800 ≤ code && code < 0xdc00

def isSecondHalf (code : Nat) : Bool := 0xdc00 ≤ code && code < 0xe000

/-- The characters of some codes, two halves taken together. -/
def decode? : List Nat → Option (List Char)
  | [] => some []
  | code :: rest =>
    if isSecondHalf code then none
    else if isFirstHalf code then
      match rest with
      | second :: rest =>
        if isSecondHalf second then
          (decode? rest).map (Char.ofNat (0x10000 + 0x400 * (code - 0xd800) + (second - 0xdc00)) :: ·)
        else none
      | [] => none
    else (decode? rest).map (Char.ofNat code :: ·)

/-! ## Pieces -/

/-- Where a character stands. The codes of a string in progress are kept newest first. -/
inductive Place where
  | between
  | within (codes : List Nat)
  /-- Behind a backslash. -/
  | escaped (codes : List Nat)
  /-- In a code of hexadecimal digits, some of which are still to come. -/
  | coded (codes : List Nat) (left code : Nat)
  deriving DecidableEq, Repr

def Place.step : Place → Char → Option (Place × List Piece)
  | between, c =>
    if c = '"' then some (within [], [])
    else if c ∈ marks then some (between, [.mark c])
    else if isPadding c then some (between, [])
    else none
  | within codes, c =>
    if c = '"' then (decode? codes.reverse).map fun cs => (between, [.text (String.ofList cs)])
    else if c = '\\' then some (escaped codes, [])
    else if c.toNat < 0x20 then none
    else some (within (c.toNat :: codes), [])
  | escaped codes, c =>
    if c = 'u' then some (coded codes 4 0, [])
    else (unescape? c).map fun d => (within (d.toNat :: codes), [])
  | coded codes left code, c =>
    (hexValue? c).map fun d =>
      (if left ≤ 1 then within ((16 * code + d) :: codes) else coded codes (left - 1) (16 * code + d), [])

def pieces? : Place → List Char → Option (List Piece)
  | .between, [] => some []
  | _, [] => none
  | place, c :: rest =>
    (place.step c).bind fun (next, ended) => (pieces? next rest).map (ended ++ ·)

/-! ## Values -/

/-- An array or object that is still open, with what it holds so far, newest first; an object
    waits for the value of a name. -/
inductive Container where
  | array (items : List Json)
  | object (fields : List (String × Json)) (name : String)

/-- What may come next, inside the containers that are open, the innermost first. -/
inductive Due where
  | value (opened : List Container)
  /-- A name, behind these fields. -/
  | key (opened : List Container) (fields : List (String × Json))
  /-- The colon behind a name. -/
  | colon (opened : List Container) (fields : List (String × Json)) (name : String)
  /-- What follows a value. -/
  | behind (opened : List Container) (json : Json)

/-- What is due behind a piece. An array or object with nothing in it can be closed at once, but
    never behind a comma. -/
def Due.step : Due → Piece → Option Due
  | value opened, .text content => some (behind opened (string content))
  | value opened, .mark '[' => some (value (.array [] :: opened))
  | value opened, .mark '{' => some (key opened [])
  | value (.array [] :: opened), .mark ']' => some (behind opened (array []))
  | key opened fields, .text content => some (colon opened fields content)
  | key opened [], .mark '}' => some (behind opened (object []))
  | colon opened fields name, .mark ':' => some (value (.object fields name :: opened))
  | behind (.array items :: opened) json, .mark ',' => some (value (.array (json :: items) :: opened))
  | behind (.array items :: opened) json, .mark ']' => some (behind opened (array (json :: items).reverse))
  | behind (.object fields name :: opened) json, .mark ',' => some (key opened ((name, json) :: fields))
  | behind (.object fields name :: opened) json, .mark '}' =>
    some (behind opened (object ((name, json) :: fields).reverse))
  | _, _ => none

def build? : Due → List Piece → Option Json
  | .behind [] json, [] => some json
  | _, [] => none
  | due, piece :: rest => (due.step piece).bind fun next => build? next rest

def parse? (text : String) : Option Json := (pieces? .between text.toList).bind (build? (.value []))

end Json

end Munch
