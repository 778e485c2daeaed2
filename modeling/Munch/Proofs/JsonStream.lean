/-
  Munch.Proofs.JsonStream — a stream of tokens is read back from its JSON, in either layout, and
  the layouts differ in nothing but blanks.

  `unspaced` drops the spaces and line feeds between strings; what is left of a written
  value is the compact text of its pieces (`partwise_squeezes`), and the compact layout writes just
  that (`partwise_spelled`). So one layout comes to the other (`unspaced_pretty`), whatever
  blanks, quotes and braces the texts hold. With what is read back: `stream_decodes`.

  The line feeds of JSON text are those of its layout. JSON leaves U+007F as it is. Below U+0020 it
  has only line feeds, and they stand outside of strings (`LaidOut`): a string holds no such
  character at all (`le_toNat_of_mem_escape`), and closes at its own quote whatever it holds
  (`foldl_next_escape`). Parts like that make a text like that, so this holds of whole values, in
  either layout (`laidOutWhole_write`).
-/

import Munch.Proofs.JsonText

namespace Munch

namespace Json

/-! ## Blanks between strings -/

/-- Where a character stands, as far as blanks go. -/
inductive Zone where
  | between
  | within
  /-- Behind a backslash. -/
  | escaped
  deriving DecidableEq, Repr

def Zone.next : Zone → Char → Zone
  | between, c => if c = '"' then within else between
  | within, c => if c = '"' then between else if c = '\\' then escaped else within
  | escaped, _ => within

def unspacedFrom : Zone → List Char → List Char
  | _, [] => []
  | zone, c :: rest =>
    if zone = .between ∧ (c = ' ' ∨ c = '\n') then unspacedFrom zone rest else c :: unspacedFrom (zone.next c) rest

/-- A text without the spaces and line feeds that stand outside its strings. -/
def unspaced (text : String) : String := String.ofList (unspacedFrom .between text.toList)

theorem unspacedFrom_inside {zone : Zone} (h : zone ≠ .between) (c : Char) (rest : List Char) :
    unspacedFrom zone (c :: rest) = c :: unspacedFrom (zone.next c) rest := if_neg fun hboth => h hboth.1

/-- Nothing is dropped from the written form of a character, and it does not end the string. -/
theorem unspacedFrom_escape (c : Char) (rest : List Char) :
    unspacedFrom .within (escape c ++ rest) = escape c ++ unspacedFrom .within rest := by
  have hshort : ∀ d rest, unspacedFrom .within ('\\' :: d :: rest) = '\\' :: d :: unspacedFrom .within rest :=
    fun d rest => rfl
  have hplain : ∀ d rest, d ≠ '"' → d ≠ '\\' → unspacedFrom .within (d :: rest) = d :: unspacedFrom .within rest := by
    intro d rest hquote hslash
    rw [unspacedFrom_inside (by decide), Zone.next, if_neg hquote, if_neg hslash]
  rcases escape_cases c with ⟨d, -, -, hwritten⟩ | ⟨-, hwritten⟩ | ⟨hquote, hslash, -, hwritten⟩
  · rw [hwritten]
    exact hshort d rest
  · have hdigit : ∀ (n : Nat) rest, unspacedFrom .within (n.digitChar :: rest) = n.digitChar :: unspacedFrom .within rest :=
      fun n rest => hplain _ rest (Nat.digitChar_ne '"' (by decide)) (Nat.digitChar_ne '\\' (by decide))
    rw [hwritten]
    simp only [List.cons_append, List.nil_append]
    rw [hshort, hplain '0' _ (by decide) (by decide), hplain '0' _ (by decide) (by decide), hdigit, hdigit]
  · rw [hwritten]
    exact hplain c rest hquote hslash

theorem unspacedFrom_escapes (cs rest : List Char) :
    unspacedFrom .within (cs.flatMap escape ++ rest) = cs.flatMap escape ++ unspacedFrom .within rest := by
  induction cs with
  | nil => rfl
  | cons c cs ih => rw [List.flatMap_cons, List.append_assoc, unspacedFrom_escape, ih, List.append_assoc]

/-! ## Layouts -/

def Piece.spelling : Piece → List Char
  | mark c => [c]
  | text content => (quote content).toList

/-- What is left of the characters is the pieces as they are spelled, whatever follows. -/
def Squeezes (cs : List Char) (ps : List Piece) : Prop :=
  ∀ rest, unspacedFrom .between (cs ++ rest) = ps.flatMap Piece.spelling ++ unspacedFrom .between rest

theorem Squeezes.append {cs ds : List Char} {ps qs : List Piece} (h : Squeezes cs ps) (k : Squeezes ds qs) :
    Squeezes (cs ++ ds) (ps ++ qs) := by
  intro rest
  rw [List.append_assoc, h, k, List.flatMap_append, List.append_assoc]

theorem squeezes_blanks {cs : List Char} (h : ∀ c ∈ cs, c = ' ' ∨ c = '\n') : Squeezes cs [] := by
  induction cs with
  | nil => exact fun rest => rfl
  | cons c cs ih =>
    intro rest
    rw [List.cons_append, unspacedFrom, if_pos ⟨rfl, h c List.mem_cons_self⟩]
    exact ih (fun d hd => h d (List.mem_cons_of_mem c hd)) rest

theorem squeezes_mark {c : Char} (h : c ∈ marks) : Squeezes [c] [.mark c] := by
  intro rest
  simp only [marks, List.mem_cons, List.not_mem_nil, or_false] at h
  rcases h with rfl | rfl | rfl | rfl | rfl | rfl <;> rfl

theorem squeezes_text (content : String) : Squeezes (quote content).toList [.text content] := by
  intro rest
  have hopen : ∀ rest, unspacedFrom .between ('"' :: rest) = '"' :: unspacedFrom .within rest := fun rest => rfl
  have hclose : ∀ rest, unspacedFrom .within ('"' :: rest) = '"' :: unspacedFrom .between rest := fun rest => rfl
  rw [List.flatMap_singleton, Piece.spelling, toList_quote, List.cons_append, hopen, List.append_assoc,
    unspacedFrom_escapes, List.singleton_append, hclose]
  simp

theorem mem_lineBreak {depth : Nat} {c : Char} (h : c ∈ (Layout.pretty.lineBreak depth).toList) :
    c = ' ' ∨ c = '\n' := by
  rw [Layout.lineBreak, String.toList_append, List.mem_append] at h
  rcases h with h | h
  · exact Or.inr (List.mem_singleton.mp h)
  · rw [spaces, String.toList_ofList] at h
    exact Or.inl (List.eq_of_mem_replicate h)

theorem partwise_squeezes : Partwise .pretty Squeezes where
  nil := fun rest => rfl
  append := Squeezes.append
  mark := squeezes_mark
  text := squeezes_text
  colon := by
    have hmark : Squeezes [':'] [.mark ':'] := squeezes_mark (by decide)
    have hspace : Squeezes [' '] [] := squeezes_blanks (by simp)
    exact hmark.append hspace
  lineBreak _ := squeezes_blanks fun _ hc => mem_lineBreak hc

theorem partwise_spelled : Partwise .compact fun cs ps => cs = ps.flatMap Piece.spelling where
  nil := rfl
  append := fun h k => by rw [h, k, List.flatMap_append]
  mark := fun _ => rfl
  text := fun content => (List.flatMap_singleton Piece.spelling (.text content)).symm
  colon := rfl
  lineBreak := fun _ => rfl

/-- Without its blanks the pretty text is the compact text. -/
theorem unspaced_pretty (json : Json) : unspaced (json.write .pretty) = json.write .compact := by
  have hpretty := partwise_squeezes.writeAt json 0 []
  have hcompact := partwise_spelled.writeAt json 0
  rw [List.append_nil] at hpretty
  rw [unspaced, write, hpretty, write, ← String.toList_inj, String.toList_ofList, hcompact]
  exact List.append_nil _

theorem parse?_write_self (layout : Layout) (json : Json) : parse? (json.write layout) = some json := by
  have hread : parse? (json.write layout ++ "") = some json := parse?_write layout json rfl
  rwa [String.append_empty] at hread

end Json

namespace Token

/-! ## Streams -/

/-- Either layout gives back the tokens, whatever their texts hold: the text is an array of one
    object for each token. The pretty text without its blanks is the compact text. -/
theorem stream_decodes :
    (∀ layout tokens,
      let text := (streamToJson tokens).write layout
      Json.parse? text =
          some (.array (tokens.map fun t => .object [("kind", .string t.kind.label), ("text", .string t.text)])) ∧
        (Json.parse? text).bind streamOfJson? = some tokens) ∧
      (∀ layout, Function.Injective fun tokens => (streamToJson tokens).write layout) ∧
      ∀ tokens, Json.unspaced ((streamToJson tokens).write .pretty) = (streamToJson tokens).write .compact := by
  have hread : ∀ layout tokens,
      (Json.parse? ((streamToJson tokens).write layout)).bind streamOfJson? = some tokens := by
    intro layout tokens
    rw [Json.parse?_write_self, Option.bind_some, streamOfJson?_streamToJson]
  refine ⟨fun layout tokens => ⟨Json.parse?_write_self layout (streamToJson tokens), hread layout tokens⟩, ?_,
    fun tokens => Json.unspaced_pretty (streamToJson tokens)⟩
  intro layout tokens tokens' h
  have hsame := congrArg (fun text => (Json.parse? text).bind streamOfJson?) h
  simp only [hread] at hsame
  exact Option.some.inj hsame

end Token

/-! ## Line feeds -/

namespace Json

/-- Below U+0020 there are only line feeds, and these stand outside of strings. -/
def LaidOut (cs : List Char) : Prop :=
  ∀ front c back, cs = front ++ c :: back → c.toNat < 0x20 → c = '\n' ∧ front.foldl Zone.next .between = .between

theorem LaidOut.eq_lineFeed {cs : List Char} (h : LaidOut cs) {c : Char} (hc : c ∈ cs) (hlow : c.toNat < 0x20) :
    c = '\n' := by
  obtain ⟨front, back, hsplit⟩ := List.append_of_mem hc
  exact (h front c back hsplit hlow).1

/-- What is laid out, and closes the strings that it opens. -/
def LaidOutWhole (cs : List Char) : Prop := LaidOut cs ∧ cs.foldl Zone.next .between = .between

theorem LaidOutWhole.append {cs ds : List Char} (hc : LaidOutWhole cs) (hd : LaidOutWhole ds) :
    LaidOutWhole (cs ++ ds) := by
  refine ⟨?_, by rw [List.foldl_append, hc.2, hd.2]⟩
  intro front c back hsplit hlow
  -- the character stands in the second part, or in the first with `back'` behind it there, or where they meet
  rcases List.append_eq_append_iff.mp hsplit with ⟨front', rfl, hds⟩ | ⟨back', hcs, hds⟩
  · rw [List.foldl_append, hc.2]
    exact hd.1 front' c back hds hlow
  · cases back' with
    | nil =>
      rw [List.append_nil] at hcs
      rw [← hcs]
      exact ⟨(hd.1 [] c back hds.symm hlow).1, hc.2⟩
    | cons b back' =>
      obtain ⟨rfl, -⟩ := List.cons.inj hds
      exact hc.1 front c back' hcs hlow

theorem foldl_next_between {cs : List Char} (h : '"' ∉ cs) : cs.foldl Zone.next .between = .between := by
  induction cs with
  | nil => rfl
  | cons c cs ih =>
    obtain ⟨hc, hcs⟩ := not_or.mp (mt List.mem_cons.mpr h)
    rw [List.foldl_cons, Zone.next, if_neg (Ne.symm hc), ih hcs]

/-- Outside of strings line feeds may stand anywhere. -/
theorem laidOutWhole_between {cs : List Char} (h : ∀ c ∈ cs, c ≠ '"' ∧ (0x20 ≤ c.toNat ∨ c = '\n')) :
    LaidOutWhole cs := by
  have hquote : '"' ∉ cs := fun hmem => (h '"' hmem).1 rfl
  refine ⟨?_, foldl_next_between hquote⟩
  rintro front c back rfl hlow
  have hfeed : c = '\n' := (h c (by simp)).2.resolve_left (by omega)
  exact ⟨hfeed, foldl_next_between fun hmem => hquote (List.mem_append_left _ hmem)⟩

theorem laidOutWhole_nil : LaidOutWhole [] := laidOutWhole_between fun _ hc => absurd hc List.not_mem_nil

theorem Zone.next_within {c : Char} (hquote : c ≠ '"') (hslash : c ≠ '\\') : Zone.next .within c = .within := by
  rw [Zone.next, if_neg hquote, if_neg hslash]

/-- The written form of a character stays in the string. -/
theorem foldl_next_escape (c : Char) : (escape c).foldl Zone.next .within = .within := by
  rcases escape_cases c with ⟨d, -, -, hwritten⟩ | ⟨-, hwritten⟩ | ⟨hquote, hslash, -, hwritten⟩
  · rw [hwritten]
    rfl
  · have hdigit : ∀ n : Nat, Zone.next .within n.digitChar = .within := fun n =>
      Zone.next_within (Nat.digitChar_ne '"' (by decide)) (Nat.digitChar_ne '\\' (by decide))
    rw [hwritten]
    show [(c.toNat / 16).digitChar, (c.toNat % 16).digitChar].foldl Zone.next .within = .within
    rw [List.foldl_cons, List.foldl_cons, hdigit, hdigit, List.foldl_nil]
  · rw [hwritten]
    exact Zone.next_within hquote hslash

theorem le_toNat_of_mem_escape {c d : Char} (h : d ∈ escape c) : 0x20 ≤ d.toNat := by
  rcases escape_cases c with ⟨e, -, hshort, hwritten⟩ | ⟨hcontrol, hwritten⟩ | ⟨-, -, hle, hwritten⟩
  · have he : 0x20 ≤ e.toNat := by
      unfold unescape? at hshort
      split at hshort
      case h_9 => cases hshort
      all_goals decide
    rw [hwritten] at h
    simp only [List.mem_cons, List.not_mem_nil, or_false] at h
    rcases h with rfl | rfl
    · decide
    · exact he
  · have hdigit : ∀ n < 16, 0x20 ≤ n.digitChar.toNat := by decide
    rw [hwritten] at h
    simp only [List.mem_cons, List.not_mem_nil, or_false] at h
    rcases h with rfl | rfl | rfl | rfl | rfl | rfl
    · decide
    · decide
    · decide
    · decide
    · exact hdigit _ (by omega)
    · exact hdigit _ (by omega)
  · rw [hwritten, List.mem_singleton] at h
    rwa [h]

theorem laidOutWhole_quote (content : String) : LaidOutWhole (quote content).toList := by
  have hescapes : ∀ cs : List Char, (cs.flatMap escape).foldl Zone.next .within = .within := by
    intro cs
    induction cs with
    | nil => rfl
    | cons c cs ih => rw [List.flatMap_cons, List.foldl_append, foldl_next_escape, ih]
  have hhigh : ∀ c ∈ (quote content).toList, 0x20 ≤ c.toNat := by
    intro c hc
    rw [toList_quote, List.mem_cons, List.mem_append, List.mem_singleton] at hc
    rcases hc with rfl | hc | rfl
    · decide
    · obtain ⟨d, -, hd⟩ := List.mem_flatMap.mp hc
      exact le_toNat_of_mem_escape hd
    · decide
  refine ⟨fun front c back hsplit hlow => ?_, ?_⟩
  · have hle := hhigh c (by rw [hsplit]; simp)
    omega
  · have hopen : Zone.next .between '"' = .within := rfl
    rw [toList_quote, List.foldl_cons, hopen, List.foldl_append, hescapes]
    rfl

theorem partwise_laidOutWhole (layout : Layout) : Partwise layout fun cs _ => LaidOutWhole cs where
  nil := laidOutWhole_nil
  append := LaidOutWhole.append
  mark := by
    intro c hc
    simp only [marks, List.mem_cons, List.not_mem_nil, or_false] at hc
    rcases hc with rfl | rfl | rfl | rfl | rfl | rfl <;> exact laidOutWhole_between (by simp)
  text := laidOutWhole_quote
  colon := by
    cases layout with
    | compact => exact laidOutWhole_between (by simp [Layout.colon])
    | pretty => exact laidOutWhole_between (by simp [Layout.colon])
  lineBreak depth := by
    cases layout with
    | compact => exact laidOutWhole_nil
    | pretty =>
      refine laidOutWhole_between fun c hc => ?_
      rcases mem_lineBreak hc with rfl | rfl
      · exact ⟨by decide, Or.inl (by decide)⟩
      · exact ⟨by decide, Or.inr rfl⟩

/-- Whatever the texts in a value hold, its written form is laid out. -/
theorem laidOutWhole_write (layout : Layout) (json : Json) : LaidOutWhole (json.write layout).toList :=
  (partwise_laidOutWhole layout).writeAt json 0

end Json

end Munch
