/-
  Munch.Text.Lines — text by lines, as it comes in and as it is printed.

  What comes in is bytes. A line of bytes ends at a line feed, and one carriage return
  before it belongs to the ending. What follows the last line feed is a line too unless it
  is empty; a carriage return at its end stays.

  Every line that is printed ends with a line feed. A line may be set in columns, and text
  wider than its column is never cut. It may have a coloured label or strong words and
  headings in it; where colours or styles are off it is the plain text of its pieces.
-/

namespace Munch

/-! ## Bytes -/

abbrev Bytes := List UInt8

namespace Bytes

def ofString (text : String) : Bytes := text.toUTF8.toList

def text? (bytes : Bytes) : Option String := String.fromUTF8? ⟨bytes.toArray⟩

def lineFeed : UInt8 := 10

def carriageReturn : UInt8 := 13

/-- A line without its carriage return; the line is given last byte first. -/
def dropReturn : Bytes → Bytes
  | [] => []
  | b :: rest => if b = carriageReturn then rest else b :: rest

/-- `lines` with the lines already ended, newest first, and the line in progress, last byte first. -/
def linesAfter (ended : List Bytes) (line : Bytes) : Bytes → List Bytes
  | [] => (if line.isEmpty then ended else line.reverse :: ended).reverse
  | b :: rest =>
    if b = lineFeed then linesAfter ((dropReturn line).reverse :: ended) [] rest
    else linesAfter ended (b :: line) rest

def lines (bytes : Bytes) : List Bytes := linesAfter [] [] bytes

/-- The lines of a text. -/
def textLines (text : String) : List String := (lines (ofString text)).filterMap text?

theorem linesAfter_eq (ended : List Bytes) (line bytes : Bytes) :
    linesAfter ended line bytes = ended.reverse ++ linesAfter [] line bytes := by
  induction bytes generalizing ended line with
  | nil =>
    simp only [linesAfter]
    split <;> simp
  | cons b rest ih =>
    simp only [linesAfter]
    split
    · rw [ih, ih [_]]
      simp
    · exact ih ended (b :: line)

end Bytes

/-! ## Printed lines -/

def unlines (lines : List String) : String := String.join (lines.map fun line => line ++ "\n")

theorem toList_unlines (lines : List String) :
    (unlines lines).toList = lines.flatMap fun line => line.toList ++ ['\n'] := by
  simp [unlines, String.toList_join, List.flatMap_map, String.toList_append]

theorem unlines_singleton (line : String) : unlines [line] = line ++ "\n" := by
  rw [← String.toList_inj]
  simp [toList_unlines, String.toList_append]

theorem unlines_cons (line : String) (lines : List String) : unlines (line :: lines) = line ++ "\n" ++ unlines lines := by
  rw [unlines, List.map_cons, String.join_cons]
  rfl

theorem unlines_append (a b : List String) : unlines (a ++ b) = unlines a ++ unlines b := by
  rw [← String.toList_inj]
  simp [toList_unlines, String.toList_append]

/-! ## Columns -/

def spaces (n : Nat) : String := String.ofList (List.replicate n ' ')

/-- Spaces after the text, up to the width. -/
def alignLeft (width : Nat) (text : String) : String := text ++ spaces (width - text.length)

/-- Spaces before the text, up to the width. -/
def alignRight (width : Nat) (text : String) : String := spaces (width - text.length) ++ text

theorem toList_alignRight (width : Nat) (text : String) :
    (alignRight width text).toList = List.replicate (width - text.length) ' ' ++ text.toList := by
  simp [alignRight, spaces, String.toList_append]

theorem toList_alignLeft (width : Nat) (text : String) :
    (alignLeft width text).toList = text.toList ++ List.replicate (width - text.length) ' ' := by
  simp [alignLeft, spaces, String.toList_append]

/-! ## Colours and styles -/

inductive Colour where
  | red
  | green
  | blue
  deriving DecidableEq, Repr

def Colour.code : Colour → String
  | red => "31"
  | green => "32"
  | blue => "34"

def paint (coloured : Bool) (colour : Colour) (label : String) : String :=
  if coloured then "\x1b[1;" ++ colour.code ++ "m" ++ label ++ "\x1b[0m" else label

inductive Piece where
  | plain (text : String)
  | strong (text : String)
  /-- Strong and underlined. -/
  | heading (text : String)
  deriving DecidableEq, Repr

namespace Piece

def text : Piece → String
  | plain t => t
  | strong t => t
  | heading t => t

/-- What switches the style on; one sequence switches all styles off. -/
def opening : Piece → String
  | plain _ => ""
  | strong _ => "\x1b[1m"
  | heading _ => "\x1b[1m\x1b[4m"

def closing : Piece → String
  | plain _ => ""
  | strong _ => "\x1b[0m"
  | heading _ => "\x1b[0m"

def render (styled : Bool) (p : Piece) : String := if styled then p.opening ++ p.text ++ p.closing else p.text

end Piece

abbrev StyledLine := List Piece

def StyledLine.render (styled : Bool) (line : StyledLine) : String := String.join (line.map (Piece.render styled))

def renderLines (styled : Bool) (lines : List StyledLine) : String := unlines (lines.map (StyledLine.render styled))

end Munch
