/-
  Munch.Proofs.Respelled — where tokens begin and end depends on the classes of characters
  alone.

  A respelling puts another character of the same class in the place of every letter, digit,
  gap and stray character, and leaves every mark. A word stays a word under it, though perhaps
  another keyword or none; any other lexeme keeps its kind (`Respelling.isLexeme_token`). And
  whether two lexemes glue is told by what they are among words, numerals and marks, so it
  stays as it was (`Respelling.glues_token`): how a word is spelled plays no part in it.

  So a layout respelled piece by piece is apart iff the layout is (`Respelling.apart_layout_iff`), and
  its tokens are the tokens respelled.
-/

import Munch.Proofs.Layout

namespace Munch

/-- A change of characters that keeps their classes, and every mark. -/
structure Respelling where
  char : Char → Char
  isLetter_char : ∀ c, isLetter c = true → isLetter (char c) = true
  isDigit_char : ∀ c, isDigit c = true → isDigit (char c) = true
  isGap_char : ∀ c, isGap c = true → isGap (char c) = true
  isStray_char : ∀ c, isStray c = true → isStray (char c) = true
  char_mark : ∀ c, isMark c = true → char c = c

namespace Kind

variable {first second : Kind}

theorem glues_of_isWord (h : first.isWord = true) (second : Kind) : first.glues second = second.isWord := by
  cases first <;> first | rfl | cases h

/-- What is no word glues with no word. -/
theorem not_glues_of_isWord (hf : first.isWord = false) (hs : second.isWord = true) : first.glues second = false := by
  cases second with
  | identifier => cases first <;> first | rfl | cases hf
  | keyword k => cases first <;> first | rfl | cases hf
  | _ => cases hs

end Kind

namespace Respelling

variable (r : Respelling)

def text (s : String) : String := s.map r.char

/-- The token with its text respelled; a word is classified anew. -/
def token (t : Token) : Token := ⟨if t.kind.isWord then .ofWord (r.text t.text) else t.kind, r.text t.text⟩

@[simp] theorem toList_text (s : String) : (r.text s).toList = s.toList.map r.char := String.toList_map

@[simp] theorem text_token (t : Token) : (r.token t).text = r.text t.text := rfl

theorem text_singleton (c : Char) : r.text (String.singleton c) = String.singleton (r.char c) := by
  rw [← String.toList_inj, toList_text, String.toList_singleton, String.toList_singleton, List.map_singleton]

theorem kind_token_of_not_isWord {t : Token} (h : t.kind.isWord = false) : (r.token t).kind = t.kind := by simp [token, h]

theorem isWord_kind_token (t : Token) : (r.token t).kind.isWord = t.kind.isWord := by
  cases h : t.kind.isWord with
  | true => simp [token, h]
  | false => rw [r.kind_token_of_not_isWord h, h]

/-! ## Lexemes -/

theorem forall_mem_map {p : Char → Bool} (hp : ∀ c, p c = true → p (r.char c) = true) {cs : List Char}
    (h : ∀ c ∈ cs, p c = true) : ∀ c ∈ cs.map r.char, p c = true := by
  intro c hc
  obtain ⟨d, hd, rfl⟩ := List.mem_map.mp hc
  exact hp d (h d hd)

/-- Marks are left as they are. -/
theorem token_of_marks {t : Token} (hk : t.kind.isWord = false) (hm : ∀ c ∈ t.text.toList, isMark c = true) :
    r.token t = t := by
  have htext : r.text t.text = t.text := by
    rw [← String.toList_inj, toList_text]
    exact (List.map_congr_left fun c hc => r.char_mark c (hm c hc)).trans (List.map_id _)
  simp [token, hk, htext]

theorem isLexeme_word {kind : Kind} (hk : kind.isWord = true) {word : String} (hne : word.toList ≠ [])
    (hl : ∀ c ∈ word.toList, isLetter c = true) : IsLexeme (r.token ⟨kind, word⟩) := by
  have hword : r.token ⟨kind, word⟩ = ⟨.ofWord (r.text word), r.text word⟩ := by simp [token, hk]
  rw [hword]
  exact isLexeme_of_form (.word _ (by simpa using hne) (by rw [toList_text]; exact r.forall_mem_map r.isLetter_char hl))

theorem isLexeme_token {t : Token} (h : IsLexeme t) : IsLexeme (r.token t) := by
  cases h with
  | keyword k => exact r.isLexeme_word rfl (IsLexeme.keyword k).text_ne_nil (isLetter_spelling k)
  | identifier word hne hl _ => exact r.isLexeme_word rfl (by simpa using hne) hl
  | integer numeral hne hd =>
    have hnil : (r.text numeral).toList ≠ [] := by simpa using hne
    exact isLexeme_of_form (.numeral _ hnil (by rw [toList_text]; exact r.forall_mem_map r.isDigit_char hd))
  | equal =>
    rw [r.token_of_marks rfl (List.all_eq_true.mp (by decide))]
    exact .equal
  | notEqual =>
    rw [r.token_of_marks rfl (List.all_eq_true.mp (by decide))]
    exact .notEqual
  | mark c kind hm hn =>
    have hmark : IsLexeme (.ofChar kind c) := .mark c kind hm hn
    have hk : kind.isWord = false := (hmark.isLetter_of_mem (by simp [Token.ofChar])).symm.trans (not_isLetter_of_isMark hm)
    rw [r.token_of_marks hk (by simpa [Token.ofChar] using hm)]
    exact hmark
  | stray c hs =>
    have htoken : r.token (.ofChar .illegal c) = .ofChar .illegal (r.char c) := congrArg (Token.mk .illegal) (r.text_singleton c)
    rw [htoken]
    exact .stray _ (r.isStray_char c hs)

/-- Respelled lexemes glue where the lexemes do. -/
theorem glues_token (t u : Token) : (r.token t).kind.glues (r.token u).kind = t.kind.glues u.kind := by
  have hword : (r.token u).kind.isWord = u.kind.isWord := r.isWord_kind_token u
  cases ht : t.kind.isWord with
  | true => rw [Kind.glues_of_isWord ((r.isWord_kind_token t).trans ht), Kind.glues_of_isWord ht, hword]
  | false =>
    rw [r.kind_token_of_not_isWord ht]
    cases hu : u.kind.isWord with
    | true => rw [Kind.not_glues_of_isWord ht (hword.trans hu), Kind.not_glues_of_isWord ht hu]
    | false => rw [r.kind_token_of_not_isWord hu]

/-! ## Layouts -/

def piece (p : Layout.Piece) : Layout.Piece where
  token := r.token p.token
  gap := p.gap.map r.char
  isLexeme := r.isLexeme_token p.isLexeme
  isGap_gap := r.forall_mem_map r.isGap_char p.isGap_gap

def layout (l : Layout) : Layout where
  lead := l.lead.map r.char
  pieces := l.pieces.map r.piece
  isGap_lead := r.forall_mem_map r.isGap_char l.isGap_lead

theorem chars_layout (l : Layout) : (r.layout l).chars = l.chars.map r.char := by
  simp [Layout.chars, Layout.body, layout, List.map_flatMap, List.flatMap_map, Layout.Piece.chars, piece]

theorem source_layout (l : Layout) : (r.layout l).source = r.text l.source := by
  rw [← String.toList_inj, Layout.toList_source, chars_layout, toList_text, Layout.toList_source]

theorem tokens_layout (l : Layout) : (r.layout l).tokens = l.tokens.map r.token := by
  simp [Layout.tokens, layout, piece]

theorem apart_piece_iff (p q : Layout.Piece) : (r.piece p).Apart (r.piece q) ↔ p.Apart q := by
  simp only [Layout.Piece.Apart, piece, List.map_eq_nil_iff, glues_token]

theorem apart_layout_iff (l : Layout) : (r.layout l).Apart ↔ l.Apart := by
  simp only [Layout.Apart, layout, List.isChain_map, apart_piece_iff]

end Respelling

/-- Characters may be changed within their classes: the tokens of the changed source are the tokens of
    the source with their texts changed, the same kinds for all but words, and for a word the
    kind of what it has become. -/
theorem tokenize_respelled (r : Respelling) (source : String) :
    tokenize (r.text source) = (tokenize source).map r.token := by
  obtain ⟨l, rfl, ha, htok⟩ := Layout.exists_layout source
  have hend : r.token .endOfInput = .endOfInput := by simp [Respelling.token, Token.endOfInput, Kind.isWord, Respelling.text]
  rw [htok, List.map_append, List.map_singleton, hend, ← r.tokens_layout, ← r.source_layout]
  exact Layout.tokenize_of_apart ((r.apart_layout_iff l).mpr ha)

/-- A source shown by the classes of its characters: of the letters, `x` alone is told from the others. -/
def Respelling.outline : Respelling where
  char c :=
    if isLetter c then if c = 'x' then 'i' else 'f'
    else if isDigit c then '0'
    else if isGap c then ' '
    else if isMark c then c
    else '@'
  isLetter_char c h := by
    rw [if_pos h]
    split <;> rfl
  isDigit_char c h := by
    rw [not_isLetter_of_isDigit h, if_neg Bool.false_ne_true, if_pos h]
    rfl
  isGap_char c h := by
    rw [not_isLetter_of_isGap h, not_isDigit_of_isGap h, if_neg Bool.false_ne_true, if_neg Bool.false_ne_true, if_pos h]
    rfl
  isStray_char c h := by
    simp only [isStray, Bool.not_eq_true', Bool.or_eq_false_iff] at h
    obtain ⟨⟨⟨hg, hl⟩, hd⟩, hm⟩ := h
    simp only [hg, hl, hd, hm, Bool.false_eq_true, if_false]
    rfl
  char_mark c h := by
    have hg : isGap c = false := Bool.eq_false_iff.mpr fun hg => by rw [not_isMark_of_isGap hg] at h; cases h
    simp only [not_isLetter_of_isMark h, not_isDigit_of_isMark h, hg, h, Bool.false_eq_true, if_false, if_true]

/-- A word becomes a keyword and a keyword a word; all else keeps its kind, and everything its place. -/
theorem tokenize_respelled_outline :
    Respelling.outline.text "xy\tlet 19==\u00e9!" = "if fff 00==@!" ∧
      tokenize "if fff 00==@!" = (tokenize "xy\tlet 19==\u00e9!").map Respelling.outline.token ∧
      (tokenize "xy\tlet 19==\u00e9!").map Token.kind =
        [.identifier, .keyword .let_, .integer, .equal, .illegal, .bang, .endOfInput] ∧
      (tokenize "if fff 00==@!").map Token.kind =
        [.keyword .if_, .identifier, .integer, .equal, .illegal, .bang, .endOfInput] := by
  have htext : Respelling.outline.text "xy\tlet 19==\u00e9!" = "if fff 00==@!" := by decide +kernel
  have htokens := tokenize_respelled Respelling.outline "xy\tlet 19==\u00e9!"
  rw [htext] at htokens
  exact ⟨htext, htokens, by decide +kernel, by decide +kernel⟩

end Munch
