/-
  Munch.Proofs.Strays — what stray characters do: a check names them all, and each separates
  like a gap and disturbs nothing else.

  What a check refuses in a source are its stray characters, every one of them, in order and
  with repetitions, and nothing else: whatever stands around a stray character, no run, no
  pair and no gap takes it in, and no other character comes out as illegal. Every character of
  a lexeme tells whether it is illegal (`isStray_of_mem`), and an illegal lexeme is one
  character, so its text is what is stray in it (`strays_text`). A gap holds no stray
  character. So the stray characters of a layout are the texts of its illegal lexemes
  (`illegalTexts_tokens`), and every source is read as a layout of it (`illegalTexts_tokenize`).

  A text is blanked when every stray character in it has made way for a gap, each for one of
  its own, that is not empty (`Blanked`). What holds no stray character stays as it is
  (`Blanked.exists_append`), and a lexeme that stops before a text stops before it blanked
  (`Blanked.stopsAt`): a gap stands where the stray character stood, and nothing absorbs
  either. An empty gap would not do, `a@b` would then read as one word. So a layout that is
  apart, when it is blanked, has a layout that is apart again, with the same lexemes less the
  illegal ones (`Layout.exists_apart_of_blanked`): a lexeme that is legal keeps its place, and
  one that is not has become a part of the gap before it.
-/

import Munch.Proofs.Layout
import Munch.Token.Dump

namespace Munch

/-! ## Checks -/

/-- The characters of a text that belong to no lexeme of the language and to no gap. -/
def strays (cs : List Char) : List Char := cs.filter isStray

def illegalTexts (tokens : List Token) : List String := (tokens.filter fun t => t.kind == .illegal).map Token.text

theorem rejectIllegal_eq (tokens : List Token) :
    rejectIllegal tokens = if (illegalTexts tokens).isEmpty then .ok ()
      else .error (.illegalCharacters (illegalTexts tokens).length (illegalTexts tokens)) := rfl

theorem strays_append (cs ds : List Char) : strays (cs ++ ds) = strays cs ++ strays ds := List.filter_append cs ds

theorem strays_eq_nil {cs : List Char} (h : ∀ c ∈ cs, isStray c = false) : strays cs = [] :=
  List.filter_eq_nil_iff.mpr fun c hc => by simp [h c hc]

theorem strays_gap {gap : List Char} (h : ∀ c ∈ gap, isGap c = true) : strays gap = [] :=
  strays_eq_nil fun c hc => by simp [isStray, h c hc]

theorem illegalTexts_append (ts us : List Token) : illegalTexts (ts ++ us) = illegalTexts ts ++ illegalTexts us := by
  simp [illegalTexts]

theorem illegalTexts_cons (t : Token) (ts : List Token) :
    illegalTexts (t :: ts) = (if t.kind = .illegal then [t.text] else []) ++ illegalTexts ts := by
  by_cases h : t.kind = .illegal <;> simp [illegalTexts, h]

/-! ## One lexeme -/

theorem Kind.ne_illegal_of_name {kind : Kind} {c : Char} (h : kind.name = String.singleton c) : kind ≠ illegal := by
  rintro rfl
  exact absurd (congrArg String.length h) (by rw [String.length_singleton]; decide)

namespace IsLexeme

variable {t : Token} {c : Char}

theorem isStray_of_mem (h : IsLexeme t) (hc : c ∈ t.text.toList) : isStray c = (t.kind == .illegal) := by
  cases h with
  | keyword k => simp [isStray, isLetter_spelling k c hc]
  | identifier word _ hl _ => simp [isStray, hl c hc]
  | integer numeral _ hd => simp [isStray, hd c hc]
  | equal =>
    obtain rfl : c = '=' := by simpa using hc
    rfl
  | notEqual =>
    have hc : c = '!' ∨ c = '=' := by simpa using hc
    rcases hc with rfl | rfl <;> rfl
  | mark d kind hm hn =>
    obtain rfl : c = d := by simpa [Token.ofChar] using hc
    simp [isStray, hm, Token.ofChar, Kind.ne_illegal_of_name hn]
  | stray d hs =>
    obtain rfl : c = d := by simpa [Token.ofChar] using hc
    exact hs

theorem exists_of_illegal (h : IsLexeme t) (hk : t.kind = .illegal) : ∃ c, t = .ofChar .illegal c := by
  cases h with
  | mark c kind _ hn => exact absurd hk (Kind.ne_illegal_of_name hn)
  | stray c _ => exact ⟨c, rfl⟩
  | _ => cases hk

/-- An illegal lexeme is one stray character, and no other lexeme holds one. -/
theorem strays_text (h : IsLexeme t) :
    (strays t.text.toList).map String.singleton = if t.kind = .illegal then [t.text] else [] := by
  by_cases hk : t.kind = .illegal
  · obtain ⟨c, rfl⟩ := h.exists_of_illegal hk
    have hc : isStray c = true := h.isStray_of_mem (by simp [Token.ofChar])
    simp [Token.ofChar, strays, hc]
  · have hnone : ∀ c ∈ t.text.toList, isStray c = false := fun c hc => by simp [h.isStray_of_mem hc, hk]
    rw [strays_eq_nil hnone, if_neg hk, List.map_nil]

end IsLexeme

/-! ## Whole sources -/

namespace Layout

theorem illegalTexts_tokens (pieces : List Piece) :
    illegalTexts (pieces.map Piece.token) = (strays (body pieces)).map String.singleton := by
  induction pieces with
  | nil => rfl
  | cons p ps ih =>
    rw [List.map_cons, illegalTexts_cons, ← p.isLexeme.strays_text, ih, body_cons, Piece.chars, strays_append,
      strays_append, strays_gap p.isGap_gap, List.append_nil, List.map_append]

end Layout

theorem illegalTexts_tokenize (source : String) :
    illegalTexts (tokenize source) = (strays source.toList).map String.singleton := by
  obtain ⟨l, rfl, -, htok⟩ := Layout.exists_layout source
  have hend : illegalTexts [.endOfInput] = [] := rfl
  have hlead : strays l.chars = strays (Layout.body l.pieces) := by
    rw [Layout.chars, strays_append, strays_gap l.isGap_lead, List.nil_append]
  rw [htok, illegalTexts_append, hend, List.append_nil, Layout.toList_source, hlead]
  exact Layout.illegalTexts_tokens l.pieces

/-- A source passes the check iff it holds no stray character; else the check counts and
    names all of them, in the order in which they stand there. -/
theorem rejectIllegal_tokenize (source : String) :
    (rejectIllegal (tokenize source) = .ok () ↔ strays source.toList = []) ∧
      rejectIllegal (tokenize source) = if (strays source.toList).isEmpty then .ok ()
        else .error (.illegalCharacters (strays source.toList).length ((strays source.toList).map String.singleton)) := by
  rw [rejectIllegal_eq, illegalTexts_tokenize, List.length_map, List.isEmpty_map]
  refine ⟨?_, rfl⟩
  cases strays source.toList with
  | nil => exact iff_of_true rfl rfl
  | cons c cs => exact iff_of_false nofun nofun

/-- Beside runs, pairs and gaps, and with letters, digits and blanks of other scripts. -/
example : rejectIllegal (tokenize "a\x00b=@= \u00e91\u00a0#!") =
    .error (.illegalCharacters 5 ["\x00", "@", "\u00e9", "\u00a0", "#"]) := by decide +kernel

/-! ## Gaps for stray characters -/

/-- The second text is the first with every stray character replaced by a gap that is not empty. -/
inductive Blanked : List Char → List Char → Prop
  | nil : Blanked [] []
  | keep {c : Char} {cs ds : List Char} : isStray c = false → Blanked cs ds → Blanked (c :: cs) (c :: ds)
  | blank {c : Char} (gap : List Char) {cs ds : List Char} : isStray c = true → gap ≠ [] →
      (∀ d ∈ gap, isGap d = true) → Blanked cs ds → Blanked (c :: cs) (gap ++ ds)

theorem not_isStray_of_isGap {c : Char} (h : isGap c = true) : isStray c = false := by simp [isStray, h]

namespace Blanked

theorem exists_append {front cs ds : List Char} (hfront : ∀ c ∈ front, isStray c = false) (h : Blanked (front ++ cs) ds) :
    ∃ es, ds = front ++ es ∧ Blanked cs es := by
  induction front generalizing ds with
  | nil => exact ⟨ds, rfl, h⟩
  | cons c front ih =>
    cases h with
    | keep hc h =>
      obtain ⟨es, rfl, hes⟩ := ih (fun d hd => hfront d (List.mem_cons_of_mem c hd)) h
      exact ⟨es, rfl, hes⟩
    | blank gap hc =>
      rw [hfront c List.mem_cons_self] at hc
      cases hc

theorem exists_gap {c : Char} {cs ds : List Char} (hc : isStray c = true) (h : Blanked (c :: cs) ds) :
    ∃ gap es, ds = gap ++ es ∧ gap ≠ [] ∧ (∀ d ∈ gap, isGap d = true) ∧ Blanked cs es := by
  cases h with
  | keep hnot _ =>
    rw [hc] at hnot
    cases hnot
  | blank gap _ hne hg h => exact ⟨gap, _, rfl, hne, hg, h⟩

theorem stopsAt {kind : Kind} {cs ds : List Char} (h : Blanked cs ds) (hs : kind.StopsAt cs) : kind.StopsAt ds := by
  cases h with
  | nil => exact hs
  | keep hc h => exact hs
  | blank gap hc hne hg h =>
    obtain ⟨d, gap, rfl⟩ := List.exists_cons_of_ne_nil hne
    rw [List.cons_append, Kind.stopsAt_cons]
    exact Kind.absorbs_of_isGap (hg d List.mem_cons_self) kind

end Blanked

namespace Layout

/-! ## Layouts from the back -/

def indent (gap : List Char) (hg : ∀ c ∈ gap, isGap c = true) (l : Layout) : Layout where
  lead := gap ++ l.lead
  pieces := l.pieces
  isGap_lead c hc := (List.mem_append.mp hc).elim (hg c) (l.isGap_lead c)

theorem chars_indent (gap : List Char) (hg : ∀ c ∈ gap, isGap c = true) (l : Layout) :
    (l.indent gap hg).chars = gap ++ l.chars := List.append_assoc _ _ _

/-- The layout with a further piece before it, whose gap takes in the lead. -/
def push (p : Piece) (l : Layout) : Layout where
  lead := []
  pieces := p.extend l.lead l.isGap_lead :: l.pieces
  isGap_lead := List.forall_mem_nil _

theorem chars_push (p : Piece) (l : Layout) : (l.push p).chars = p.chars ++ l.chars := by
  simp [push, chars, Piece.chars, Piece.extend]

theorem apart_push_iff (p : Piece) (l : Layout) :
    (l.push p).Apart ↔ p.token.kind.StopsAt (p.gap ++ l.chars) ∧ l.Apart := by
  unfold Apart push
  rw [isChain_cons_iff, chars, ← List.append_assoc]
  rfl

/-! ## Blanking -/

theorem exists_apart_of_blanked {pieces : List Piece} (h : pieces.IsChain Piece.Apart) {cs : List Char}
    (hb : Blanked (body pieces) cs) :
    ∃ l : Layout, l.chars = cs ∧ l.Apart ∧ l.tokens = (pieces.map Piece.token).filter fun t => t.kind != .illegal := by
  induction pieces generalizing cs with
  | nil =>
    cases hb
    exact ⟨⟨[], [], List.forall_mem_nil _⟩, rfl, .nil, rfl⟩
  | cons p ps ih =>
    have hgap : ∀ c ∈ p.gap, isStray c = false := fun c hc => not_isStray_of_isGap (p.isGap_gap c hc)
    rw [body_cons, Piece.chars, List.append_assoc] at hb
    by_cases hk : p.token.kind = .illegal
    · obtain ⟨c, hc⟩ := p.isLexeme.exists_of_illegal hk
      have htext : p.token.text.toList = [c] := by simp [hc, Token.ofChar]
      have hstray : isStray c = true := by rw [p.isLexeme.isStray_of_mem (by simp [htext]), hk]; rfl
      rw [htext, List.singleton_append] at hb
      obtain ⟨gap, ds, rfl, -, hg, hds⟩ := hb.exists_gap hstray
      obtain ⟨es, rfl, hes⟩ := hds.exists_append hgap
      obtain ⟨l, rfl, ha, ht⟩ := ih h.tail hes
      refine ⟨(l.indent p.gap p.isGap_gap).indent gap hg, by rw [chars_indent, chars_indent], ha, ?_⟩
      rw [List.map_cons, List.filter_cons_of_neg (by simp [hk])]
      exact ht
    · have htext : ∀ c ∈ p.token.text.toList, isStray c = false := fun c hc => by simp [p.isLexeme.isStray_of_mem hc, hk]
      obtain ⟨ds, rfl, hds⟩ := hb.exists_append htext
      have hstop : p.token.kind.StopsAt ds := hds.stopsAt (isChain_cons_iff.mp h).1
      obtain ⟨es, rfl, hes⟩ := hds.exists_append hgap
      obtain ⟨l, rfl, ha, ht⟩ := ih h.tail hes
      refine ⟨l.push p, by rw [chars_push, Piece.chars, List.append_assoc], (apart_push_iff p l).mpr ⟨hstop, ha⟩, ?_⟩
      rw [List.map_cons, List.filter_cons_of_pos (by simp [hk]), ← ht]
      rfl

end Layout

/-- When every stray character of a source makes way for a gap that is not empty, the tokens that are
    left are those that were not illegal: the same kinds and texts, in the same order. -/
theorem tokenize_of_blanked {source blanked : String} (h : Blanked source.toList blanked.toList) :
    tokenize blanked = (tokenize source).filter fun t => t.kind != .illegal := by
  obtain ⟨l, rfl, ha, htok⟩ := Layout.exists_layout source
  have hlead : ∀ c ∈ l.lead, isStray c = false := fun c hc => not_isStray_of_isGap (l.isGap_lead c hc)
  rw [Layout.toList_source, Layout.chars] at h
  obtain ⟨es, hes, hb⟩ := h.exists_append hlead
  obtain ⟨m, rfl, hm, ht⟩ := Layout.exists_apart_of_blanked ha hb
  let j := m.indent l.lead l.isGap_lead
  have hj : j.source = blanked := by
    rw [← String.toList_inj, Layout.toList_source, Layout.chars_indent, hes]
  have hend : [Token.endOfInput].filter (fun t => t.kind != .illegal) = [.endOfInput] := rfl
  rw [htok, List.filter_append, hend, ← hj, Layout.tokenize_of_apart (l := j) hm]
  exact congrArg (· ++ _) ht

/-- Between words, between the halves of a pair, beside a gap and at the end. -/
theorem tokenize_of_blanked_everywhere :
    Blanked "a@b=\u00e9= \x00!#".toList "a \tb=\n= \r!  ".toList ∧
      tokenize "a \tb=\n= \r!  " =
        [⟨.identifier, "a"⟩, ⟨.identifier, "b"⟩, ⟨.assign, "="⟩, ⟨.assign, "="⟩, ⟨.bang, "!"⟩, .endOfInput] := by
  have hgap : ∀ {gap : List Char}, gap.all isGap = true → ∀ c ∈ gap, isGap c = true := List.all_eq_true.mp
  have h : Blanked "a@b=\u00e9= \x00!#".toList "a \tb=\n= \r!  ".toList :=
    .keep rfl <| .blank [' ', '\t'] rfl nofun (hgap rfl) <| .keep rfl <| .keep rfl <| .blank ['\n'] rfl nofun (hgap rfl) <|
      .keep rfl <| .keep rfl <| .blank ['\r'] rfl nofun (hgap rfl) <| .keep rfl <|
        .blank [' ', ' '] rfl nofun (hgap rfl) .nil
  exact ⟨h, (tokenize_of_blanked h).trans (by decide +kernel)⟩

/-- Nothing in the place of a stray character would let what stands beside it meet. -/
example : tokenize "ab" ≠ (tokenize "a@b").filter fun t => t.kind != .illegal := by decide +kernel

end Munch
