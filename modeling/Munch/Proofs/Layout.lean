/-
  Munch.Proofs.Layout — a source as it can be written down: a gap, then lexemes, each
  with the gap after it. A piece carries the proofs that its token is a lexeme and its
  gap a gap, so every list of lexemes with every choice of gaps is a layout and nothing
  else is.

  A layout is apart when no two lexemes with nothing between them glue.
  - `stopsAt_iff_apart`: a piece is apart from the next one iff its lexeme stops where
    the next one begins.
  - `tokens_turnsToEnd` / `tokenize_of_apart`: the tokens of a layout that is apart are read back.
  - `exists_apart` / `exists_layout`: every text has a layout that is apart, so reading a text is reading one.
  - `pieces_eq_of_tokens`: a text and its tokens determine the layout.

  So the tokens of a text are said without a scanner.
  - `tokenize_longest_match`: a text is gaps and lexemes in turn, every lexeme as long
    as it can be, and its tokens are these lexemes.
  - `tokenize_printed_iff`: lexemes, printed with any gaps, are read back exactly when
    no two that touch glue.

  Of a text read in two chunks the second is read on its own unless the seam glues: the last
  lexeme of the first chunk touches the second one and absorbs its first character.
  - `tokenize_append_iff`: behind a layout that is apart, a text is read on its own iff
    the last lexeme stops where that text begins.
  - `seamGlues_iff`: the seam glues, said of the two characters at it and the last
    token, iff that lexeme does not stop.
-/

import Mathlib.Data.List.Chain
import Munch.Proofs.Run

namespace Munch

namespace Layout

/-- A lexeme with the gap after it. -/
@[ext] structure Piece where
  token : Token
  gap : List Char
  isLexeme : IsLexeme token
  isGap_gap : ∀ c ∈ gap, isGap c = true

namespace Piece

def chars (p : Piece) : List Char := p.token.text.toList ++ p.gap

/-- Whether `q` can follow `p`. -/
def Apart (p q : Piece) : Prop := p.gap = [] → p.token.kind.glues q.token.kind = false

/-- A piece begins with its lexeme, so with no gap. -/
theorem exists_cons (p : Piece) : ∃ c cs, p.chars = c :: cs ∧ isGap c = false ∧
    ∀ kind : Kind, kind.glues p.token.kind = kind.absorbs c := by
  obtain ⟨c, cs, hc⟩ := p.isLexeme.exists_cons
  exact ⟨c, cs ++ p.gap, by simp [chars, hc], p.isLexeme.not_isGap c (by rw [hc]; exact List.mem_cons_self),
    p.isLexeme.glues_eq_absorbs hc⟩

theorem stopsAt_iff_apart (p q : Piece) (rest : List Char) :
    p.token.kind.StopsAt (p.gap ++ (q.chars ++ rest)) ↔ p.Apart q := by
  unfold Apart
  cases hg : p.gap with
  | nil =>
    obtain ⟨c, cs, hc, -, hglue⟩ := q.exists_cons
    simp [hc, hglue]
  | cons d ds =>
    have hd : p.token.kind.absorbs d = false :=
      Kind.absorbs_of_isGap (p.isGap_gap d (by rw [hg]; exact List.mem_cons_self)) _
    simp [hd]

theorem stopsAt_gap (p : Piece) : p.token.kind.StopsAt p.gap := fun c hc =>
  Kind.absorbs_of_isGap (p.isGap_gap c (List.mem_of_mem_head? hc)) _

end Piece

end Layout

structure Layout where
  lead : List Char
  pieces : List Layout.Piece
  isGap_lead : ∀ c ∈ lead, isGap c = true

namespace Layout

def body (pieces : List Piece) : List Char := pieces.flatMap Piece.chars

def chars (l : Layout) : List Char := l.lead ++ body l.pieces

def source (l : Layout) : String := String.ofList l.chars

def tokens (l : Layout) : List Token := l.pieces.map Piece.token

def Apart (l : Layout) : Prop := l.pieces.IsChain Piece.Apart

@[simp] theorem body_nil : body [] = [] := rfl

@[simp] theorem body_cons (p : Piece) (ps : List Piece) : body (p :: ps) = p.chars ++ body ps := rfl

@[simp] theorem toList_source (l : Layout) : l.source.toList = l.chars := String.toList_ofList

/-- A piece can be put before others that are apart when its lexeme stops there. -/
theorem isChain_cons_iff {p : Piece} {ps : List Piece} :
    (p :: ps).IsChain Piece.Apart ↔ p.token.kind.StopsAt (p.gap ++ body ps) ∧ ps.IsChain Piece.Apart := by
  cases ps with
  | nil => simpa using p.stopsAt_gap
  | cons q ps => rw [List.isChain_cons_cons, body_cons, p.stopsAt_iff_apart]

/-! ## Reading back -/

/-- From wherever a scanner stands, it reads the tokens of what is laid out before it. -/
theorem tokens_turnsToEnd {pieces : List Piece} (h : pieces.IsChain Piece.Apart) {lead : List Char}
    (hl : ∀ c ∈ lead, isGap c = true) (behind : List Char) :
    (Scanner.between behind (lead ++ body pieces)).turnsToEnd.map Turn.token =
      pieces.map Piece.token ++ [.endOfInput] := by
  induction pieces generalizing lead behind with
  | nil =>
    have ht := Scanner.turn_gap hl behind
    rw [body_nil, List.append_nil, Scanner.turnsToEnd_of_isEnd (by rw [ht]; rfl), ht]
    rfl
  | cons p ps ih =>
    have ht := Scanner.turn_lexeme hl p.isLexeme (isChain_cons_iff.mp h).1 behind
    rw [body_cons, Piece.chars, List.append_assoc, Scanner.turnsToEnd_of_not_isEnd (by rw [ht]; exact p.isLexeme.isEnd_eq_false),
      ht, List.map_cons, List.map_cons, List.cons_append]
    exact congrArg _ (ih h.tail p.isGap_gap _)

theorem tokenize_eq (source : String) :
    tokenize source = (Scanner.between [] source.toList).turnsToEnd.map Turn.token := by
  rw [← Scanner.ofString_eq_between]; rfl

theorem tokenize_of_apart {l : Layout} (h : l.Apart) : tokenize l.source = l.tokens ++ [.endOfInput] := by
  rw [tokenize_eq, toList_source]
  exact tokens_turnsToEnd h l.isGap_lead []

/-! ## Every text is laid out -/

theorem exists_apart (cs : List Char) : ∃ l : Layout, l.chars = cs ∧ l.Apart := by
  induction hn : cs.length using Nat.strongRecOn generalizing cs with
  | ind n ih =>
  rcases exists_lexeme cs with hg | ⟨gap, t, rest, rfl, hg, ht, hs⟩
  · exact ⟨⟨cs, [], hg⟩, by simp [chars], .nil⟩
  · have hpos : 0 < t.text.toList.length := List.length_pos_iff.mpr ht.text_ne_nil
    have hlt : rest.length < n := by
      rw [← hn, List.length_append, List.length_append]; omega
    obtain ⟨l, rfl, ha⟩ := ih rest.length hlt rest rfl
    refine ⟨⟨gap, ⟨t, l.lead, ht, l.isGap_lead⟩ :: l.pieces, hg⟩, ?_, isChain_cons_iff.mpr ⟨hs, ha⟩⟩
    simp [chars, Piece.chars]

theorem exists_layout (source : String) :
    ∃ l : Layout, l.source = source ∧ l.Apart ∧ tokenize source = l.tokens ++ [.endOfInput] := by
  obtain ⟨l, hl, ha⟩ := exists_apart source.toList
  have hs : l.source = source := by rw [Layout.source, hl, String.ofList_toList]
  exact ⟨l, hs, ha, by rw [← hs]; exact tokenize_of_apart ha⟩

/-! ## A text and its tokens determine the layout -/

theorem not_isGap_head?_body (ps : List Piece) : ∀ c ∈ (body ps).head?, isGap c = false := by
  intro c hc
  cases ps with
  | nil => cases hc
  | cons p ps =>
    obtain ⟨d, ds, hd, hg, -⟩ := p.exists_cons
    rw [body_cons, hd, List.cons_append, List.head?_cons, Option.mem_some_iff] at hc
    rw [← hc]; exact hg

theorem pieces_eq_of_body {ps qs : List Piece} (hb : body ps = body qs)
    (ht : ps.map Piece.token = qs.map Piece.token) : ps = qs := by
  induction ps generalizing qs with
  | nil => exact (List.map_eq_nil_iff.mp ht.symm).symm
  | cons p ps ih =>
    cases qs with
    | nil => cases ht
    | cons q qs =>
      obtain ⟨htok, ht⟩ := List.cons.inj ht
      rw [body_cons, body_cons, Piece.chars, Piece.chars, htok, List.append_assoc, List.append_assoc] at hb
      obtain ⟨hgap, hb⟩ := append_run_inj p.isGap_gap q.isGap_gap (not_isGap_head?_body ps) (not_isGap_head?_body qs)
        (List.append_cancel_left hb)
      rw [Piece.ext htok hgap, ih hb ht]

theorem pieces_eq_of_tokens {l m : Layout} (hc : l.chars = m.chars) (ht : l.tokens = m.tokens) : l.pieces = m.pieces :=
  pieces_eq_of_body (append_run_inj l.isGap_lead m.isGap_lead (not_isGap_head?_body _) (not_isGap_head?_body _) hc).2 ht

theorem tokenize_source_iff (l : Layout) : tokenize l.source = l.tokens ++ [.endOfInput] ↔ l.Apart := by
  constructor
  · intro h
    obtain ⟨m, hs, ha, hm⟩ := exists_layout l.source
    have hc : l.chars = m.chars := by rw [← toList_source l, ← toList_source m, hs]
    have ht : l.tokens = m.tokens := List.append_cancel_right (h.symm.trans hm)
    unfold Apart
    rw [pieces_eq_of_tokens hc ht]
    exact ha
  · exact tokenize_of_apart

end Layout

/-! ## The tokens of a text -/

/-- The text begins with the token, and with no longer lexeme. -/
def IsLongest (t : Token) (text : List Char) : Prop :=
  t.text.toList <+: text ∧ ∀ u, IsLexeme u → u.text.toList <+: text → u.text.length ≤ t.text.length

/-- A lexeme that stops is the longest: a longer one would go on with the next character. -/
theorem isLongest_of_stopsAt {t : Token} (ht : IsLexeme t) {rest : List Char} (hs : t.kind.StopsAt rest) :
    IsLongest t (t.text.toList ++ rest) := by
  refine ⟨List.prefix_append _ _, fun u hu hpre => ?_⟩
  apply Nat.le_of_not_lt
  intro hlt
  have htu : t.text.toList <+: u.text.toList :=
    List.prefix_of_prefix_length_le (List.prefix_append _ rest) hpre (Nat.le_of_lt hlt)
  obtain ⟨more, hmore⟩ := htu
  obtain ⟨tail, htail⟩ := hpre
  cases more with
  | nil =>
    rw [List.append_nil] at hmore
    exact absurd hlt (by rw [← String.length_toList, ← String.length_toList, hmore]; exact Nat.lt_irrefl _)
  | cons c cs =>
    have hrest : c :: cs ++ tail = rest := by
      rw [← hmore, List.append_assoc] at htail
      exact List.append_cancel_left htail
    have habs := ht.absorbs_of_append hu hmore.symm
    rw [hs c (by rw [← hrest]; rfl)] at habs
    cases habs

/-- Every source is gaps and lexemes in turn, and its tokens are these lexemes and one
    end. Each of them is the longest lexeme with which the source goes on where it starts:
    a word is followed by no letter, a numeral by no digit, a lone `=` or `!` by no `=`. -/
theorem tokenize_longest_match (source : String) :
    ∃ l : Layout, l.source = source ∧ tokenize source = l.tokens ++ [.endOfInput] ∧
      (∀ t ∈ l.tokens, IsLexeme t ∧ t.isEnd = false) ∧
      ∀ before p after, l.pieces = before ++ p :: after →
        IsLongest p.token (p.chars ++ Layout.body after) ∧ p.token.kind.StopsAt (p.gap ++ Layout.body after) := by
  obtain ⟨l, hs, ha, ht⟩ := Layout.exists_layout source
  refine ⟨l, hs, ht, ?_, ?_⟩
  · intro t hm
    obtain ⟨p, -, rfl⟩ := List.mem_map.mp hm
    exact ⟨p.isLexeme, p.isLexeme.isEnd_eq_false⟩
  · intro before p after hsplit
    have hchain : (p :: after).IsChain Layout.Piece.Apart := by
      have h : (before ++ p :: after).IsChain Layout.Piece.Apart := hsplit ▸ ha
      exact h.right_of_append
    have hstop := (Layout.isChain_cons_iff.mp hchain).1
    refine ⟨?_, hstop⟩
    rw [Layout.Piece.chars, List.append_assoc]
    exact isLongest_of_stopsAt p.isLexeme hstop

example : tokenize "===1" = [⟨.equal, "=="⟩, ⟨.assign, "="⟩, ⟨.integer, "1"⟩, .endOfInput] := by decide +kernel

/-- Lexemes, printed with any gaps, are read back iff no two that touch glue: two words,
    two numerals, or a lone `=` or `!` and what begins with `=`. -/
theorem Layout.tokenize_printed_iff (l : Layout) :
    tokenize l.source = l.tokens ++ [.endOfInput] ↔
      ¬ ∃ i, ∃ h : i + 1 < l.pieces.length, l.pieces[i].gap = [] ∧
        l.pieces[i].token.kind.glues l.pieces[i + 1].token.kind = true := by
  rw [tokenize_source_iff, Apart, List.isChain_iff_getElem]
  simp only [Piece.Apart, not_exists, not_and, Bool.not_eq_true]

namespace Layout

/-! ## Two layouts, one behind the other -/

def Piece.extend (p : Piece) (gap : List Char) (hg : ∀ c ∈ gap, isGap c = true) : Piece :=
  { p with
    gap := p.gap ++ gap
    isGap_gap := fun c hc => (List.mem_append.mp hc).elim (p.isGap_gap c) (hg c) }

theorem body_append (ps qs : List Piece) : body (ps ++ qs) = body ps ++ body qs := by simp [body]

theorem isChain_extend_iff {ps qs : List Piece} {p : Piece} {gap : List Char} {hg : ∀ c ∈ gap, isGap c = true}
    (hp : (ps ++ [p]).IsChain Piece.Apart) (hq : qs.IsChain Piece.Apart) :
    (ps ++ p.extend gap hg :: qs).IsChain Piece.Apart ↔ p.token.kind.StopsAt (p.gap ++ (gap ++ body qs)) := by
  obtain ⟨hps, -, hlast⟩ := List.isChain_append.mp hp
  rw [List.isChain_append, isChain_cons_iff, ← List.append_assoc]
  constructor
  · rintro ⟨-, ⟨hs, -⟩, -⟩
    exact hs
  · intro hs
    exact ⟨hps, ⟨hs, hq⟩, fun q hmem r hr => by
      obtain rfl : p.extend gap hg = r := by simpa using hr
      exact hlast q hmem p (by simp)⟩

theorem tokenize_append_iff {l : Layout} (ha : l.Apart) (b : String) :
    tokenize (l.source ++ b) = l.tokens ++ tokenize b ↔
      ∀ p ∈ l.pieces.getLast?, p.token.kind.StopsAt (p.gap ++ b.toList) := by
  obtain ⟨m, hb, hm, htok⟩ := exists_layout b
  rw [htok, ← List.append_assoc]
  rcases List.eq_nil_or_concat l.pieces with hnil | ⟨ps, p, hsnoc⟩
  · let j : Layout := ⟨l.lead ++ m.lead, m.pieces, fun c hc =>
      (List.mem_append.mp hc).elim (l.isGap_lead c) (m.isGap_lead c)⟩
    have hj : j.source = l.source ++ b := by
      rw [← hb, ← String.toList_inj]
      simp [j, chars, hnil]
    have ht : l.tokens ++ m.tokens = j.tokens := by simp [j, tokens, hnil]
    rw [← hj, ht, tokenize_source_iff]
    exact iff_of_true hm (by simp [hnil])
  · let j : Layout := ⟨l.lead, ps ++ p.extend m.lead m.isGap_lead :: m.pieces, l.isGap_lead⟩
    have hj : j.source = l.source ++ b := by
      rw [← hb, ← String.toList_inj]
      simp [j, chars, hsnoc, body_append, Piece.chars, Piece.extend]
    have ht : l.tokens ++ m.tokens = j.tokens := by simp [j, tokens, hsnoc, Piece.extend]
    have hp : (ps ++ [p]).IsChain Piece.Apart := by rw [← List.concat_eq_append, ← hsnoc]; exact ha
    rw [← hj, ht, tokenize_source_iff, Apart, isChain_extend_iff hp hm, hsnoc, ← hb, toList_source]
    simp [chars]

end Layout

/-! ## The seam -/

def lastLexeme? (source : String) : Option Token := (tokenize source).dropLast.getLast?

/-- The last character of the first chunk, with the first of the second, is part of one
    run or one pair. -/
def SeamGlues (a b : String) : Prop :=
  ∃ c ∈ a.toList.getLast?, ∃ d ∈ b.toList.head?,
    (isLetter c = true ∧ isLetter d = true) ∨ (isDigit c = true ∧ isDigit d = true) ∨
      (d = '=' ∧ isGap c = false ∧ ∃ t ∈ lastLexeme? a, t.kind = .assign ∨ t.kind = .bang)

theorem lastLexeme?_eq {l : Layout} (ha : l.Apart) : lastLexeme? l.source = l.tokens.getLast? := by
  unfold lastLexeme?
  rw [Layout.tokenize_of_apart ha, List.dropLast_concat]

/-- What a lexeme absorbs, said of one of its characters. -/
theorem IsLexeme.absorbs_iff {t : Token} (h : IsLexeme t) {c : Char} (hc : c ∈ t.text.toList) (d : Char) :
    t.kind.absorbs d = true ↔ (isLetter c = true ∧ isLetter d = true) ∨ (isDigit c = true ∧ isDigit d = true) ∨
      (d = '=' ∧ (t.kind = .assign ∨ t.kind = .bang)) := by
  rw [h.isLetter_of_mem hc, h.isDigit_of_mem hc]
  cases t.kind <;> simp [Kind.absorbs, Kind.isWord]

namespace Layout

/-- The last character of a piece is one of its lexeme's, or of its gap. -/
theorem Piece.getLast?_chars (p : Piece) : ∃ c, p.chars.getLast? = some c ∧
    ((p.gap = [] ∧ c ∈ p.token.text.toList) ∨ (p.gap ≠ [] ∧ isGap c = true)) := by
  unfold chars
  by_cases hg : p.gap = []
  · have ht := p.isLexeme.text_ne_nil
    exact ⟨_, by rw [hg, List.append_nil, List.getLast?_eq_some_getLast ht], Or.inl ⟨hg, List.getLast_mem ht⟩⟩
  · exact ⟨_, by rw [List.getLast?_append, List.getLast?_eq_some_getLast hg, Option.some_or],
      Or.inr ⟨hg, p.isGap_gap _ (List.getLast_mem hg)⟩⟩

theorem Piece.not_stopsAt_iff (p : Piece) (cs : List Char) :
    ¬ p.token.kind.StopsAt (p.gap ++ cs) ↔ p.gap = [] ∧ ∃ d ∈ cs.head?, p.token.kind.absorbs d = true := by
  cases hg : p.gap with
  | nil => simp [Kind.StopsAt]
  | cons d ds =>
    have hd := Kind.absorbs_of_isGap (p.isGap_gap d (by rw [hg]; exact List.mem_cons_self)) p.token.kind
    simp [hd]

theorem getLast?_chars {l : Layout} {ps : List Piece} {p : Piece} (h : l.pieces = ps ++ [p]) :
    l.chars.getLast? = p.chars.getLast? := by
  obtain ⟨c, hc, -⟩ := p.getLast?_chars
  rw [chars, h, body_append, body_cons, body_nil, List.append_nil, List.getLast?_append, List.getLast?_append, hc,
    Option.some_or, Option.some_or]

end Layout

theorem seamGlues_iff {l : Layout} (ha : l.Apart) (b : String) :
    SeamGlues l.source b ↔ ∃ p ∈ l.pieces.getLast?, ¬ p.token.kind.StopsAt (p.gap ++ b.toList) := by
  unfold SeamGlues
  rw [lastLexeme?_eq ha, Layout.toList_source]
  have hgap : ∀ {c}, isGap c = true → ∀ d, ¬ ((isLetter c = true ∧ isLetter d = true) ∨ (isDigit c = true ∧ isDigit d = true) ∨
      (d = '=' ∧ isGap c = false ∧ ∃ t ∈ l.tokens.getLast?, t.kind = .assign ∨ t.kind = .bang)) := by
    intro c hc d
    simp [not_isLetter_of_isGap hc, not_isDigit_of_isGap hc, hc]
  rcases List.eq_nil_or_concat l.pieces with hnil | ⟨ps, p, hsnoc⟩
  · have hchars : l.chars = l.lead := by simp [Layout.chars, hnil]
    rw [hchars, hnil]
    refine iff_of_false ?_ (by simp)
    rintro ⟨c, hc, d, -, hglue⟩
    exact hgap (l.isGap_lead c (List.mem_of_getLast? hc)) d hglue
  · have hlast : l.tokens.getLast? = some p.token := by simp [Layout.tokens, hsnoc]
    obtain ⟨c, hc, hcase⟩ := p.getLast?_chars
    rw [Layout.getLast?_chars (hsnoc.trans List.concat_eq_append), hc]
    have hpiece : (∃ q ∈ l.pieces.getLast?, ¬ q.token.kind.StopsAt (q.gap ++ b.toList)) ↔
        ¬ p.token.kind.StopsAt (p.gap ++ b.toList) := by simp [hsnoc]
    rw [hpiece, p.not_stopsAt_iff]
    rcases hcase with ⟨hg, hmem⟩ | ⟨hg, hc'⟩
    · simp only [hlast, Option.mem_some_iff, exists_eq_left', p.isLexeme.not_isGap c hmem, true_and,
        p.isLexeme.absorbs_iff hmem, hg]
    · refine iff_of_false ?_ fun h => hg h.1
      rintro ⟨c', hcc', d, -, hglue⟩
      rw [Option.mem_some_iff] at hcc'
      exact hgap (hcc' ▸ hc') d hglue

/-- The second of two chunks is read on its own iff the seam does not glue; and when it
    does, the last lexeme of the first chunk is read again with the second, and nothing
    before it is. -/
theorem tokenize_append (a b : String) :
    (tokenize (a ++ b) = (tokenize a).dropLast ++ tokenize b ↔ ¬ SeamGlues a b) ∧
      (SeamGlues a b → ∃ t ∈ lastLexeme? a,
        tokenize (a ++ b) = (tokenize a).dropLast.dropLast ++ tokenize (t.text ++ b)) := by
  obtain ⟨l, rfl, ha, htok⟩ := Layout.exists_layout a
  have hdrop : (tokenize l.source).dropLast = l.tokens := by rw [htok, List.dropLast_concat]
  rw [hdrop]
  refine ⟨?_, fun hglue => ?_⟩
  · rw [Layout.tokenize_append_iff ha, seamGlues_iff ha]
    simp only [not_exists, not_and, Classical.not_not]
  · obtain ⟨p, hp, hstop⟩ := (seamGlues_iff ha b).mp hglue
    obtain ⟨ps, hps⟩ := List.getLast?_eq_some_iff.mp hp
    obtain ⟨hgap, -⟩ := (p.not_stopsAt_iff b.toList).mp hstop
    have hchain : (ps ++ [p]).IsChain Layout.Piece.Apart := hps ▸ ha
    obtain ⟨hchain, -, hlast⟩ := List.isChain_append.mp hchain
    let front : Layout := ⟨l.lead, ps, l.isGap_lead⟩
    have hfront : front.Apart := hchain
    have hsource : l.source ++ b = front.source ++ (p.token.text ++ b) := by
      rw [← String.toList_inj]
      simp [front, Layout.chars, hps, Layout.body_append, Layout.Piece.chars, hgap]
    have hstops : ∀ q ∈ front.pieces.getLast?, q.token.kind.StopsAt (q.gap ++ (p.token.text ++ b).toList) := by
      intro q hq
      have h := (q.stopsAt_iff_apart p b.toList).mpr (hlast q hq p (by simp))
      rwa [Layout.Piece.chars, hgap, List.append_nil, ← String.toList_append] at h
    refine ⟨p.token, by simp [lastLexeme?_eq ha, Layout.tokens, hps], ?_⟩
    rw [hsource, (Layout.tokenize_append_iff hfront _).mpr hstops]
    simp [front, Layout.tokens, hps]

/-- `=` at the end of one chunk and at the start of the next are read as `==`. -/
theorem tokenize_append_glued : SeamGlues "a=" "=b" ∧
    tokenize ("a=" ++ "=b") = (tokenize "a=").dropLast.dropLast ++ tokenize ("=" ++ "=b") := by
  have hlast : lastLexeme? "a=" = some (.ofChar .assign '=') := by decide +kernel
  have hglue : SeamGlues "a=" "=b" :=
    ⟨'=', by decide, '=', by decide, Or.inr (Or.inr ⟨rfl, by decide, _, hlast, Or.inl rfl⟩)⟩
  obtain ⟨t, ht, h⟩ := (tokenize_append "a=" "=b").2 hglue
  obtain rfl : Token.ofChar .assign '=' = t := Option.some.inj (hlast.symm.trans ht)
  exact ⟨hglue, h⟩

end Munch
