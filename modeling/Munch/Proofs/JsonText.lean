/-
  Munch.Proofs.JsonText — what is written is read back, in either layout.

  `pieces` says what a value is made of, apart from any layout. Characters read as pieces do so
  whatever follows (`Reads`), so this is shown part by part: for blanks, marks and strings. What holds
  of those, and of parts put together, holds of a value at any depth (`Partwise.writeAt`, by
  induction on the value). The second pass is shown part by part as well: whatever is open and
  whatever follows, the pieces of a value lead to what is behind that value (`build?_pieces`).
  Together: `parse?_write`.
-/

import Munch.Token.Json

namespace Munch.Json

theorem sizeOf_item_lt {item : Json} {items : List Json} (h : item ∈ items) : sizeOf item < sizeOf (array items) := by
  have := List.sizeOf_lt_of_mem h
  simp only [array.sizeOf_spec]
  omega

theorem sizeOf_field_lt {field : String × Json} {fields : List (String × Json)} (h : field ∈ fields) :
    sizeOf field.2 < sizeOf (object fields) := by
  have := List.sizeOf_lt_of_mem h
  obtain ⟨name, value⟩ := field
  simp only [object.sizeOf_spec, Prod.mk.sizeOf_spec] at this ⊢
  omega

/-- What holds of strings, and of a container when it holds of all inside it, holds of every value. -/
@[elab_as_elim]
theorem induction {P : Json → Prop} (string : ∀ text, P (string text))
    (array : ∀ items, (∀ item ∈ items, P item) → P (array items))
    (object : ∀ fields, (∀ field ∈ fields, P field.2) → P (object fields)) : ∀ json, P json
  | .string text => string text
  | .array items => array items fun item _ => induction string array object item
  | .object fields => object fields fun field _ => induction string array object field.2
termination_by json => sizeOf json
decreasing_by
  · exact sizeOf_item_lt ‹_›
  · exact sizeOf_field_lt ‹_›

/-- Parts between two marks, a comma between any two of them. -/
def bracketed (opening closing : Char) (parts : List (List Piece)) : List Piece :=
  .mark opening :: ([Piece.mark ','].intercalate parts ++ [.mark closing])

def pieces : Json → List Piece
  | string text => [.text text]
  | array items => bracketed '[' ']' (items.map fun item => item.pieces)
  | object fields => bracketed '{' '}' (fields.map fun field => .text field.1 :: .mark ':' :: field.2.pieces)
termination_by json => sizeOf json
decreasing_by
  · exact sizeOf_item_lt ‹_›
  · exact sizeOf_field_lt ‹_›

/-! ## Strings -/

theorem decode?_codes (cs : List Char) : decode? (cs.map Char.toNat) = some cs := by
  induction cs with
  | nil => rfl
  | cons c cs ih =>
    have hvalid : c.toNat < 0xd800 ∨ 0xe000 ≤ c.toNat := by
      rcases c.valid with h | ⟨h, -⟩
      · exact Or.inl h
      · exact Or.inr (Nat.le_of_lt_succ (Nat.succ_lt_succ h))
    have hfirst : isFirstHalf c.toNat = false := by simp [isFirstHalf]; omega
    have hsecond : isSecondHalf c.toNat = false := by simp [isSecondHalf]; omega
    rw [List.map_cons, decode?.eq_def]
    simp [hfirst, hsecond, ih]

theorem pieces?_cons {place next : Place} {c : Char} {ended : List Piece} (h : place.step c = some (next, ended))
    (rest : List Char) : pieces? place (c :: rest) = (pieces? next rest).map (ended ++ ·) := by
  cases place <;> simp only [pieces?, h, Option.bind_some]

/-- A character that ends no piece only leads to another place. -/
theorem pieces?_cons_of_step {place : Place} (next : Place) {c : Char} (h : place.step c = some (next, []))
    (rest : List Char) : pieces? place (c :: rest) = pieces? next rest := by
  rw [pieces?_cons h]
  exact congrFun Option.map_id _

theorem pieces?_unescape {c d : Char} (h : unescape? d = some c) (hd : d ≠ 'u') (codes : List Nat) (rest : List Char) :
    pieces? (.within codes) ('\\' :: d :: rest) = pieces? (.within (c.toNat :: codes)) rest := by
  rw [pieces?_cons_of_step (.escaped codes) rfl, pieces?_cons_of_step (.within (c.toNat :: codes))]
  rw [Place.step, if_neg hd, h]
  rfl

/-- How a character can be written, and nothing else. -/
theorem escape_cases (c : Char) :
    (∃ d, d ≠ 'u' ∧ unescape? d = some c ∧ escape c = ['\\', d]) ∨
      (c.toNat < 0x20 ∧ escape c = ['\\', 'u', '0', '0', (c.toNat / 16).digitChar, (c.toNat % 16).digitChar]) ∨
      (c ≠ '"' ∧ c ≠ '\\' ∧ 0x20 ≤ c.toNat ∧ escape c = [c]) := by
  unfold escape
  -- the characters with an escape of their own
  iterate 7
    split
    case isTrue h => exact Or.inl ⟨_, by decide, by rw [h]; rfl, rfl⟩
  split
  case isTrue h => exact Or.inr (Or.inl ⟨h, rfl⟩)
  case isFalse h => exact Or.inr (Or.inr ⟨‹¬ c = '"'›, ‹¬ c = '\\'›, Nat.le_of_not_lt h, rfl⟩)

/-- Inside a string, the written form of a character is read as its code. -/
theorem pieces?_escape (c : Char) (codes : List Nat) (rest : List Char) :
    pieces? (.within codes) (escape c ++ rest) = pieces? (.within (c.toNat :: codes)) rest := by
  rcases escape_cases c with ⟨d, hd, hshort, hwritten⟩ | ⟨hcontrol, hwritten⟩ | ⟨hquote, hslash, hle, hwritten⟩
  · rw [hwritten]
    exact pieces?_unescape hshort hd codes rest
  · have hhigh := hexValue?_digitChar (n := c.toNat / 16) (by omega)
    have hlow := hexValue?_digitChar (n := c.toNat % 16) (by omega)
    have hzero : hexValue? '0' = some 0 := rfl
    have hcode : 16 * (c.toNat / 16) + c.toNat % 16 = c.toNat := by omega
    rw [hwritten]
    simp [pieces?, Place.step, hzero, hhigh, hlow, hcode, Function.comp_def]
  · rw [hwritten]
    refine pieces?_cons_of_step _ ?_ rest
    rw [Place.step, if_neg hquote, if_neg hslash, if_neg (Nat.not_lt.mpr hle)]

theorem pieces?_escapes (cs : List Char) (codes : List Nat) (rest : List Char) :
    pieces? (.within codes) (cs.flatMap escape ++ rest) =
      pieces? (.within ((cs.map Char.toNat).reverse ++ codes)) rest := by
  induction cs generalizing codes with
  | nil => rfl
  | cons c cs ih =>
    rw [List.flatMap_cons, List.append_assoc, pieces?_escape, ih]
    simp

/-! ## The pieces of a text -/

/-- The characters are read as the pieces, whatever follows. -/
def Reads (cs : List Char) (ps : List Piece) : Prop :=
  ∀ rest, pieces? .between (cs ++ rest) = (pieces? .between rest).map (ps ++ ·)

theorem reads_nil : Reads [] [] := fun rest => (congrFun Option.map_id (pieces? .between rest)).symm

theorem Reads.append {cs ds : List Char} {ps qs : List Piece} (h : Reads cs ps) (k : Reads ds qs) :
    Reads (cs ++ ds) (ps ++ qs) := by
  intro rest
  rw [List.append_assoc, h, k, Option.map_map]
  exact congrArg (Option.map · _) (funext fun read => (List.append_assoc ps qs read).symm)

theorem reads_padding {cs : List Char} (h : cs.all isPadding = true) : Reads cs [] := by
  induction cs with
  | nil => exact reads_nil
  | cons c cs ih =>
    intro rest
    obtain ⟨hc, hcs⟩ : isPadding c = true ∧ cs.all isPadding = true := by simpa using h
    have hstep : Place.between.step c = some (.between, []) := by
      simp only [isPadding, Bool.or_eq_true, beq_iff_eq] at hc
      rcases hc with ((rfl | rfl) | rfl) | rfl <;> rfl
    rw [List.cons_append, pieces?_cons_of_step _ hstep]
    exact ih hcs rest

theorem reads_mark {c : Char} (h : c ∈ marks) : Reads [c] [.mark c] := by
  intro rest
  refine pieces?_cons ?_ rest
  simp only [marks, List.mem_cons, List.not_mem_nil, or_false] at h
  rcases h with rfl | rfl | rfl | rfl | rfl | rfl <;> rfl

theorem toList_quote (text : String) : (quote text).toList = '"' :: (text.toList.flatMap escape ++ ['"']) := by
  simp [quote, String.toList_append]

theorem reads_quote (text : String) : Reads (quote text).toList [.text text] := by
  intro rest
  have hopen : Place.between.step '"' = some (.within [], []) := rfl
  have hclose : (Place.within (text.toList.map Char.toNat).reverse).step '"' = some (.between, [.text text]) := by
    rw [Place.step, if_pos rfl, List.reverse_reverse, decode?_codes, Option.map_some, String.ofList_toList]
  rw [toList_quote, List.cons_append, pieces?_cons_of_step _ hopen, List.append_assoc, pieces?_escapes, List.append_nil]
  exact pieces?_cons hclose rest

/-! ## Part by part -/

/-- A relation between characters and pieces that holds of the parts a layout writes, and of what is
    put together from them. -/
structure Partwise (layout : Layout) (R : List Char → List Piece → Prop) : Prop where
  nil : R [] []
  append {cs ds : List Char} {ps qs : List Piece} : R cs ps → R ds qs → R (cs ++ ds) (ps ++ qs)
  mark {c : Char} : c ∈ marks → R [c] [.mark c]
  text (content : String) : R (quote content).toList [.text content]
  colon : R layout.colon.toList [.mark ':']
  lineBreak (depth : Nat) : R (layout.lineBreak depth).toList []

namespace Partwise

variable {layout : Layout} {R : List Char → List Piece → Prop}

theorem intercalate (h : Partwise layout R) {separator : List Char} {between : List Piece} (hs : R separator between)
    {α : Type} {f : α → List Char} {g : α → List Piece} {xs : List α} (hx : ∀ x ∈ xs, R (f x) (g x)) :
    R (separator.intercalate (xs.map f)) (between.intercalate (xs.map g)) := by
  induction xs with
  | nil => exact h.nil
  | cons x xs ih =>
    have hfirst := hx x List.mem_cons_self
    have hrest := ih fun y hy => hx y (List.mem_cons_of_mem x hy)
    cases xs with
    | nil => simpa using hfirst
    | cons y xs =>
      have hall := h.append (h.append hfirst hs) hrest
      rwa [List.map_cons, List.map_cons, ← List.intercalate_cons_cons, ← List.intercalate_cons_cons] at hall

theorem bracket (h : Partwise layout R) (depth : Nat) {opening closing : String} {o c : Char}
    (ho : R opening.toList [.mark o]) (hc : R closing.toList [.mark c])
    {α : Type} {f : α → String} {g : α → List Piece} {xs : List α} (hx : ∀ x ∈ xs, R (f x).toList (g x)) :
    R (layout.bracket depth opening closing (xs.map f)).toList (bracketed o c (xs.map g)) := by
  unfold Layout.bracket bracketed
  cases xs with
  | nil =>
    rw [List.map_nil, if_pos List.isEmpty_nil, String.toList_append]
    exact h.append ho hc
  | cons x xs =>
    have hcomma : R ("," ++ layout.lineBreak (depth + 1)).toList [.mark ','] := by
      rw [String.toList_append]
      exact h.append (h.mark (c := ',') (by decide)) (h.lineBreak _)
    have hparts := h.intercalate (f := fun x => (f x).toList) hcomma hx
    have hall := h.append (h.append (h.append (h.append ho (h.lineBreak (depth + 1))) hparts) (h.lineBreak depth)) hc
    rw [if_neg (by simp)]
    simpa [String.toList_append, String.toList_intercalate, Function.comp_def] using hall

theorem writeAt (h : Partwise layout R) (json : Json) (depth : Nat) : R (json.writeAt layout depth).toList json.pieces := by
  induction json using Json.induction generalizing depth with
  | string content =>
    rw [Json.writeAt, pieces]
    exact h.text content
  | array items ih =>
    rw [Json.writeAt, pieces]
    have hopen : R "[".toList [.mark '['] := h.mark (c := '[') (by decide)
    have hclose : R "]".toList [.mark ']'] := h.mark (c := ']') (by decide)
    exact h.bracket depth hopen hclose fun item hitem => ih item hitem (depth + 1)
  | object fields ih =>
    rw [Json.writeAt, pieces]
    have hopen : R "\x7b".toList [.mark '{'] := h.mark (c := '{') (by decide)
    have hclose : R "\x7d".toList [.mark '}'] := h.mark (c := '}') (by decide)
    refine h.bracket depth hopen hclose fun field hfield => ?_
    rw [String.toList_append, String.toList_append]
    exact h.append (h.append (h.text field.1) h.colon) (ih field hfield (depth + 1))

end Partwise

/-! ## The pieces of a written value -/

theorem isPadding_lineBreak (layout : Layout) (depth : Nat) : (layout.lineBreak depth).toList.all isPadding = true := by
  cases layout with
  | compact => rfl
  | pretty =>
    have hspaces : (spaces (2 * depth)).toList.all isPadding = true := by
      rw [spaces, String.toList_ofList, List.all_replicate]
      split
      · rfl
      · rfl
    rw [Layout.lineBreak, String.toList_append, List.all_append, hspaces]
    rfl

theorem reads_colon (layout : Layout) : Reads layout.colon.toList [.mark ':'] := by
  have hmark : Reads [':'] [.mark ':'] := reads_mark (by decide)
  cases layout with
  | compact => exact hmark
  | pretty =>
    have hspace : Reads [' '] [] := reads_padding (by decide)
    exact hmark.append hspace

theorem partwise_reads (layout : Layout) : Partwise layout Reads where
  nil := reads_nil
  append := Reads.append
  mark := reads_mark
  text := reads_quote
  colon := reads_colon layout
  lineBreak depth := reads_padding (isPadding_lineBreak layout depth)

/-! ## Values from pieces -/

theorem build?_cons {due : Due} (next : Due) {piece : Piece} (h : due.step piece = some next) (rest : List Piece) :
    build? due (piece :: rest) = build? next rest := by
  rw [build?, h, Option.bind_some]

/-- Parts with commas between them, when a part leads to the next at a comma and out of all
    of them at the closing mark. -/
theorem build?_separated {α : Type} (start finish : List α → Due) {part : α → List Piece} {closing : Char} {xs : List α}
    (hcomma : ∀ x ∈ xs, ∀ done rest,
      build? (start done) (part x ++ .mark ',' :: rest) = build? (start (x :: done)) rest)
    (hclose : ∀ x ∈ xs, ∀ done rest,
      build? (start done) (part x ++ .mark closing :: rest) = build? (finish (x :: done).reverse) rest)
    (hne : xs ≠ []) (done : List α) (rest : List Piece) :
    build? (start done) ([Piece.mark ','].intercalate (xs.map part) ++ .mark closing :: rest) =
      build? (finish (done.reverse ++ xs)) rest := by
  induction xs generalizing done with
  | nil => exact absurd rfl hne
  | cons x xs ih =>
    cases xs with
    | nil =>
      rw [List.map_cons, List.map_nil, List.intercalate_singleton, hclose x List.mem_cons_self, List.reverse_cons]
    | cons y ys =>
      have hlater := ih (fun z hz => hcomma z (List.mem_cons_of_mem x hz))
        (fun z hz => hclose z (List.mem_cons_of_mem x hz)) (List.cons_ne_nil y ys) (x :: done)
      rw [List.map_cons, List.map_cons, List.intercalate_cons_cons, List.append_assoc, List.append_assoc,
        List.singleton_append, hcomma x List.mem_cons_self, ← List.map_cons, hlater, List.reverse_cons, List.append_assoc,
        List.singleton_append]

theorem build?_field {value : Json}
    (h : ∀ opened rest, build? (.value opened) (value.pieces ++ rest) = build? (.behind opened value) rest)
    (name : String) (opened : List Container) (done : List (String × Json)) (rest : List Piece) :
    build? (.key opened done) (.text name :: .mark ':' :: value.pieces ++ rest) =
      build? (.behind (.object done name :: opened) value) rest := by
  rw [List.cons_append, List.cons_append, build?_cons (.colon opened done name) rfl,
    build?_cons (.value (.object done name :: opened)) rfl, h]

/-- Whatever is open and whatever follows, the pieces of a value lead to what is behind it. -/
theorem build?_pieces (json : Json) (opened : List Container) (rest : List Piece) :
    build? (.value opened) (json.pieces ++ rest) = build? (.behind opened json) rest := by
  induction json using Json.induction generalizing opened rest with
  | string text =>
    rw [pieces]
    exact build?_cons _ rfl rest
  | array items ih =>
    rw [pieces, bracketed, List.cons_append, List.append_assoc, build?_cons (.value (.array [] :: opened)) rfl]
    by_cases hne : items = []
    · subst hne
      exact build?_cons _ rfl rest
    · refine build?_separated (fun done => .value (.array done :: opened))
        (fun items => .behind opened (array items)) ?_ ?_ hne [] rest
      · intro item hitem done rest
        rw [ih item hitem]
        exact build?_cons _ rfl rest
      · intro item hitem done rest
        rw [ih item hitem]
        exact build?_cons _ rfl rest
  | object fields ih =>
    rw [pieces, bracketed, List.cons_append, List.append_assoc, build?_cons (.key opened []) rfl]
    by_cases hne : fields = []
    · subst hne
      exact build?_cons _ rfl rest
    · refine build?_separated (Due.key opened) (fun fields => .behind opened (object fields)) ?_ ?_ hne [] rest
      · intro field hfield done rest
        rw [build?_field (ih field hfield)]
        exact build?_cons _ rfl rest
      · intro field hfield done rest
        rw [build?_field (ih field hfield)]
        exact build?_cons _ rfl rest

/-- What is written is read back, with any blanks behind it. -/
theorem parse?_write (layout : Layout) (json : Json) {padding : String} (h : padding.toList.all isPadding = true) :
    parse? (json.write layout ++ padding) = some json := by
  have hpieces := (((partwise_reads layout).writeAt json 0).append (reads_padding h)) []
  rw [parse?, write, String.toList_append, ← List.append_nil (_ ++ _), hpieces]
  show build? (.value []) (json.pieces ++ [] ++ []) = some json
  rw [List.append_assoc, build?_pieces]
  rfl

/-- A character in two halves, and an escape that is never written. -/
example : parse? "[\"\\ud83d\\ude00\\/\", [ ]]\n" = some (.array [.string "😀/", .array []]) := by cbv

end Munch.Json
