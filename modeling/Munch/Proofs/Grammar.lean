/-
  Munch.Proofs.Grammar — the lexemes, said without a scanner.

  A lexeme is a keyword, another run of letters, a run of digits, one of the pairs `==`
  and `!=`, a mark with the kind that is named by it, or a stray character. A scanner
  tells only four forms apart, and the lexemes are what has one of them (`form_of_isLexeme`,
  `isLexeme_of_form`).

  Where a lexeme ends depends on the character after it: a word absorbs letters, a
  numeral absorbs digits, a lone `=` or `!` absorbs `=`, and nothing else absorbs
  anything.
  - `absorbs_of_append`: a lexeme that another one extends absorbs the next character
    of the longer one, so a lexeme that stops is the longest.
  - `glues_eq_absorbs`: two kinds glue when the first absorbs what the second begins with.
-/

import Munch.Token

namespace Munch

/-! ## Runs -/

section Run

variable {p : Char → Bool} {run rest cs : List Char}

theorem of_mem_takeWhile : ∀ c ∈ cs.takeWhile p, p c = true := List.all_eq_true.mp List.all_takeWhile

theorem not_of_head?_dropWhile : ∀ c ∈ (cs.dropWhile p).head?, p c = false := by
  intro c hc
  have h := List.head?_dropWhile_not p cs
  rw [Option.mem_def.mp hc] at h
  simpa using h

/-- A run that the text after it does not go on with is the whole run. -/
theorem takeWhile_run (hrun : ∀ c ∈ run, p c = true) (hrest : ∀ c ∈ rest.head?, p c = false) :
    (run ++ rest).takeWhile p = run := by
  rw [List.takeWhile_append_of_pos hrun]
  cases rest with
  | nil => simp
  | cons c rest => rw [List.takeWhile_cons_of_neg (by simp [hrest c rfl]), List.append_nil]

theorem dropWhile_run (hrun : ∀ c ∈ run, p c = true) (hrest : ∀ c ∈ rest.head?, p c = false) :
    (run ++ rest).dropWhile p = rest := by
  rw [List.dropWhile_append_of_pos hrun]
  cases rest with
  | nil => rfl
  | cons c rest => rw [List.dropWhile_cons_of_neg (by simp [hrest c rfl])]

/-- A text is one run and what comes after it in one way only. -/
theorem append_run_inj {run' rest' : List Char} (hrun : ∀ c ∈ run, p c = true) (hrun' : ∀ c ∈ run', p c = true)
    (hrest : ∀ c ∈ rest.head?, p c = false) (hrest' : ∀ c ∈ rest'.head?, p c = false)
    (h : run ++ rest = run' ++ rest') : run = run' ∧ rest = rest' :=
  ⟨by rw [← takeWhile_run hrun hrest, h, takeWhile_run hrun' hrest'],
    by rw [← dropWhile_run hrun hrest, h, dropWhile_run hrun' hrest']⟩

end Run

/-! ## Lexemes and kinds -/

inductive IsLexeme : Token → Prop
  | keyword (k : Keyword) : IsLexeme ⟨.keyword k, k.spelling⟩
  | identifier (word : String) : word ≠ "" → (∀ c ∈ word.toList, isLetter c = true) →
      (∀ k : Keyword, k.spelling ≠ word) → IsLexeme ⟨.identifier, word⟩
  | integer (numeral : String) : numeral ≠ "" → (∀ c ∈ numeral.toList, isDigit c = true) →
      IsLexeme ⟨.integer, numeral⟩
  | equal : IsLexeme ⟨.equal, "=="⟩
  | notEqual : IsLexeme ⟨.notEqual, "!="⟩
  | mark (c : Char) (kind : Kind) : isMark c = true → kind.name = String.singleton c → IsLexeme (.ofChar kind c)
  | stray (c : Char) : isStray c = true → IsLexeme (.ofChar .illegal c)

namespace Kind

def isWord : Kind → Bool
  | identifier => true
  | keyword _ => true
  | _ => false

/-- Whether a lexeme of this kind, followed by the character, goes on with it. -/
def absorbs : Kind → Char → Bool
  | identifier, c => isLetter c
  | keyword _, c => isLetter c
  | integer, c => isDigit c
  | assign, c => c == '='
  | bang, c => c == '='
  | _, _ => false

/-- Whether lexemes of these kinds with nothing between them read as something else. -/
def glues : Kind → Kind → Bool
  | identifier, second => second.isWord
  | keyword _, second => second.isWord
  | integer, second => second == integer
  | assign, second => second == assign || second == equal
  | bang, second => second == assign || second == equal
  | _, _ => false

/-- Whether a lexeme of this kind ends where `rest` begins. -/
def StopsAt (kind : Kind) (rest : List Char) : Prop := ∀ c ∈ rest.head?, kind.absorbs c = false

/-! ## Kinds of words and marks -/

@[simp] theorem isWord_ofWord (word : String) : (ofWord word).isWord = true := by
  unfold ofWord; split <;> rfl

theorem name_of_ofMark? {c : Char} {kind : Kind} (h : ofMark? c = some kind) : kind.name = String.singleton c := by
  unfold ofMark? at h
  split at h <;> cases h <;> rfl

theorem name_injective {k l : Kind} (h : k.name = l.name) : k = l := by
  have hk := ofName?_name k
  rw [h, ofName?_name l] at hk
  injection hk with hk
  exact hk.symm

theorem ofMark?_eq_some_iff {c : Char} {kind : Kind} :
    ofMark? c = some kind ↔ isMark c = true ∧ kind.name = String.singleton c := by
  constructor
  · intro h
    exact ⟨by rw [← isSome_ofMark?, h]; rfl, name_of_ofMark? h⟩
  · rintro ⟨hm, hn⟩
    rw [← isSome_ofMark?] at hm
    obtain ⟨l, hl⟩ := Option.isSome_iff_exists.mp hm
    rw [hl, name_injective ((name_of_ofMark? hl).trans hn.symm)]

theorem ofPair?_eq_some_iff {c : Char} {next : Option Char} {kind : Kind} :
    ofPair? c next = some kind ↔
      next = some '=' ∧ ((c = '=' ∧ kind = equal) ∨ (c = '!' ∧ kind = notEqual)) := by
  unfold ofPair?
  split
  · simp [eq_comm]
  · simp [eq_comm]
  · rename_i h1 h2
    constructor
    · intro h; cases h
    · rintro ⟨rfl, ⟨rfl, -⟩ | ⟨rfl, -⟩⟩
      · exact absurd rfl (h1 rfl)
      · exact absurd rfl (h2 rfl)

/-- The kind of a character that no run takes in: a mark's own kind, else illegal. -/
def ofAlone (c : Char) : Kind := (ofMark? c).getD illegal

theorem isWord_ofAlone (c : Char) : (ofAlone c).isWord = false := by
  unfold ofAlone ofMark?; split <;> rfl

theorem eq_ofAlone (c : Char) : (c == '=') = (ofAlone c == assign || ofAlone c == equal) := by
  by_cases h : c = '='
  · subst h; rfl
  · rw [beq_false_of_ne h]
    unfold ofAlone ofMark?
    split <;> first | rfl | contradiction

theorem ofAlone_ne_integer (c : Char) : ofAlone c ≠ integer := by
  unfold ofAlone ofMark?; split <;> decide

theorem ofAlone_ne_endOfInput (c : Char) : ofAlone c ≠ endOfInput := by
  unfold ofAlone ofMark?; split <;> decide

end Kind

/-! ## Forms -/

/-- The lexemes as a scanner tells them apart, by their first character and the one after it. -/
inductive Form : Token → Prop
  | word (text : String) : text.toList ≠ [] → (∀ c ∈ text.toList, isLetter c = true) → Form ⟨.ofWord text, text⟩
  | numeral (text : String) : text.toList ≠ [] → (∀ c ∈ text.toList, isDigit c = true) → Form ⟨.integer, text⟩
  | pair (c : Char) (kind : Kind) : Kind.ofPair? c (some '=') = some kind → Form ⟨kind, String.ofList [c, '=']⟩
  | alone (c : Char) : isGap c = false → isLetter c = false → isDigit c = false → Form (.ofChar (.ofAlone c) c)

theorem isLetter_spelling (k : Keyword) : ∀ c ∈ k.spelling.toList, isLetter c = true := by
  have all : k.spelling.toList.all isLetter = true := by cases k <;> decide
  exact List.all_eq_true.mp all

theorem form_of_isLexeme {t : Token} (h : IsLexeme t) : Form t := by
  cases h with
  | keyword k =>
    have hk : Kind.ofWord k.spelling = .keyword k := by unfold Kind.ofWord; rw [Keyword.ofSpelling?_spelling]
    rw [← hk]
    exact .word _ (by cases k <;> decide) (isLetter_spelling k)
  | identifier word hne hl hk =>
    have hi : Kind.ofWord word = .identifier := by
      unfold Kind.ofWord
      split
      · rename_i k h; exact absurd (Keyword.ofSpelling?_eq_some_iff.mp h) (hk k)
      · rfl
    rw [← hi]
    exact .word _ (by simpa using hne) hl
  | integer numeral hne hd => exact .numeral _ (by simpa using hne) hd
  | equal => exact .pair '=' .equal rfl
  | notEqual => exact .pair '!' .notEqual rfl
  | mark c kind hm hn =>
    have hk : Kind.ofAlone c = kind := by unfold Kind.ofAlone; rw [Kind.ofMark?_eq_some_iff.mpr ⟨hm, hn⟩]; rfl
    rw [← hk]
    refine .alone c ?_ (not_isLetter_of_isMark hm) (not_isDigit_of_isMark hm)
    cases hg : isGap c
    · rfl
    · rw [not_isMark_of_isGap hg] at hm; cases hm
  | stray c hs =>
    simp only [isStray, Bool.not_eq_true', Bool.or_eq_false_iff] at hs
    obtain ⟨⟨⟨hg, hl⟩, hd⟩, hm⟩ := hs
    have hk : Kind.ofAlone c = .illegal := by
      rw [← Kind.isSome_ofMark?, Option.isSome_eq_false_iff, Option.isNone_iff_eq_none] at hm
      unfold Kind.ofAlone; rw [hm]; rfl
    rw [← hk]
    exact .alone c hg hl hd

theorem isLexeme_of_form {t : Token} (h : Form t) : IsLexeme t := by
  cases h with
  | word text hne hl =>
    unfold Kind.ofWord
    split
    · rename_i k h
      rw [← Keyword.ofSpelling?_eq_some_iff.mp h]
      exact .keyword k
    · rename_i h
      refine .identifier text (by simpa using hne) hl fun k hk => ?_
      rw [Keyword.ofSpelling?_eq_some_iff.mpr hk] at h
      cases h
  | numeral text hne hd => exact .integer text (by simpa using hne) hd
  | pair c kind hp =>
    rcases (Kind.ofPair?_eq_some_iff.mp hp).2 with ⟨rfl, rfl⟩ | ⟨rfl, rfl⟩
    · exact .equal
    · exact .notEqual
  | alone c hg hl hd =>
    unfold Kind.ofAlone
    cases hk : Kind.ofMark? c with
    | some kind => exact .mark c kind (Kind.ofMark?_eq_some_iff.mp hk).1 (Kind.ofMark?_eq_some_iff.mp hk).2
    | none =>
      have hm : isMark c = false := by rw [← Kind.isSome_ofMark?, hk]; rfl
      exact .stray c (by simp [isStray, hg, hl, hd, hm])

/-! ## The characters of a lexeme -/

namespace IsLexeme

variable {t u : Token} {c : Char} {cs : List Char}

theorem text_ne_nil (h : IsLexeme t) : t.text.toList ≠ [] := by
  cases form_of_isLexeme h with
  | word text hne _ => exact hne
  | numeral text hne _ => exact hne
  | pair c kind _ => simp
  | alone c _ _ _ => simp [Token.ofChar]

theorem exists_cons (h : IsLexeme t) : ∃ c cs, t.text.toList = c :: cs := List.exists_cons_of_ne_nil h.text_ne_nil

theorem not_isGap (h : IsLexeme t) : ∀ c ∈ t.text.toList, isGap c = false := by
  cases form_of_isLexeme h with
  | word text _ hl => exact fun c hc => not_isGap_of_isLetter (hl c hc)
  | numeral text _ hd => exact fun c hc => not_isGap_of_isDigit (hd c hc)
  | pair c kind hp =>
    intro d hd
    have hd : d = c ∨ d = '=' := by simpa using hd
    rcases (Kind.ofPair?_eq_some_iff.mp hp).2 with ⟨rfl, -⟩ | ⟨rfl, -⟩ <;> rcases hd with rfl | rfl <;> decide
  | alone c hg _ _ =>
    intro d hd
    obtain rfl : d = c := by simpa [Token.ofChar] using hd
    exact hg

/-- Every character of a lexeme tells whether it is a word, a numeral or neither. -/
theorem class_of_mem (h : IsLexeme t) (hc : c ∈ t.text.toList) :
    (isLetter c = true ∧ t.kind.isWord = true) ∨ (isDigit c = true ∧ t.kind = .integer) ∨
      (isLetter c = false ∧ isDigit c = false ∧ t.kind.isWord = false ∧ t.kind ≠ .integer) := by
  cases form_of_isLexeme h with
  | word text _ hl => exact Or.inl ⟨hl c hc, Kind.isWord_ofWord text⟩
  | numeral text _ hd => exact Or.inr (Or.inl ⟨hd c hc, rfl⟩)
  | pair d kind hp =>
    have hcd : c = d ∨ c = '=' := by simpa using hc
    rcases (Kind.ofPair?_eq_some_iff.mp hp).2 with ⟨rfl, rfl⟩ | ⟨rfl, rfl⟩ <;> rcases hcd with rfl | rfl <;> decide
  | alone d _ hl hd =>
    obtain rfl : c = d := by simpa [Token.ofChar] using hc
    exact Or.inr (Or.inr ⟨hl, hd, Kind.isWord_ofAlone c, Kind.ofAlone_ne_integer c⟩)

theorem isLetter_of_mem (h : IsLexeme t) (hc : c ∈ t.text.toList) : isLetter c = t.kind.isWord := by
  rcases h.class_of_mem hc with ⟨hl, hk⟩ | ⟨hd, hk⟩ | ⟨hl, -, hk, -⟩
  · rw [hl, hk]
  · rw [not_isLetter_of_isDigit hd, hk]; rfl
  · rw [hl, hk]

theorem isDigit_of_mem (h : IsLexeme t) (hc : c ∈ t.text.toList) : isDigit c = (t.kind == .integer) := by
  rcases h.class_of_mem hc with ⟨hl, hk⟩ | ⟨hd, hk⟩ | ⟨-, hd, -, hk⟩
  · have hne : t.kind ≠ .integer := fun he => by rw [he] at hk; cases hk
    rw [not_isDigit_of_isLetter hl, beq_false_of_ne hne]
  · rw [hd, hk]; rfl
  · rw [hd, beq_false_of_ne hk]

/-- A lexeme begins with `=` when it is that mark or the pair of two. -/
theorem eq_head (h : IsLexeme t) (ht : t.text.toList = c :: cs) :
    (c == '=') = (t.kind == .assign || t.kind == .equal) := by
  have hc : c ∈ t.text.toList := by rw [ht]; exact List.mem_cons_self
  rcases h.class_of_mem hc with ⟨hl, hk⟩ | ⟨hd, hk⟩ | ⟨hl, hd, -, -⟩
  · have hne : c ≠ '=' := by rintro rfl; exact absurd hl (by decide)
    rw [beq_false_of_ne hne]
    cases he : t.kind <;> simp_all [Kind.isWord]
  · have hne : c ≠ '=' := by rintro rfl; exact absurd hd (by decide)
    rw [beq_false_of_ne hne, hk]; rfl
  · cases form_of_isLexeme h with
    | word text _ hw => rw [hw c hc] at hl; cases hl
    | numeral text _ hn => rw [hn c hc] at hd; cases hd
    | pair d kind hp =>
      obtain ⟨rfl, -⟩ : d = c ∧ ['='] = cs := by simpa using ht
      rcases (Kind.ofPair?_eq_some_iff.mp hp).2 with ⟨rfl, rfl⟩ | ⟨rfl, rfl⟩ <;> decide
    | alone d _ _ _ =>
      obtain ⟨rfl, -⟩ : d = c ∧ [] = cs := by simpa [Token.ofChar] using ht
      exact Kind.eq_ofAlone d

/-- A lexeme of one character that is part of no run has that character's kind. -/
theorem kind_of_single (h : IsLexeme t) (ht : t.text.toList = [c]) (hl : isLetter c = false) (hd : isDigit c = false) :
    t.kind = .ofAlone c := by
  have hc : c ∈ t.text.toList := by rw [ht]; exact List.mem_cons_self
  cases form_of_isLexeme h with
  | word text _ hw => rw [hw c hc] at hl; cases hl
  | numeral text _ hn => rw [hn c hc] at hd; cases hd
  | pair d kind hp => exact absurd (congrArg List.length ht) (by simp)
  | alone d _ _ _ =>
    obtain rfl : c = d := by simpa [Token.ofChar] using hc
    rfl

/-- Two kinds glue when the first absorbs what a lexeme of the second begins with. -/
theorem glues_eq_absorbs (h : IsLexeme t) (ht : t.text.toList = c :: cs) (kind : Kind) :
    kind.glues t.kind = kind.absorbs c := by
  have hc : c ∈ t.text.toList := by rw [ht]; exact List.mem_cons_self
  cases kind <;> simp only [Kind.glues, Kind.absorbs, h.isLetter_of_mem hc, h.isDigit_of_mem hc, h.eq_head ht]

theorem isEnd_eq_false (h : IsLexeme t) : t.isEnd = false := by
  cases h with
  | mark c kind hm hn =>
    cases kind with
    | endOfInput => exact absurd (congrArg String.length hn) (by rw [String.length_singleton]; decide)
    | _ => rfl
  | _ => rfl

end IsLexeme

/-! ## Where a lexeme ends -/

namespace Kind

variable {kind : Kind} {c : Char} {cs : List Char}

theorem absorbs_of_isGap (h : isGap c = true) (kind : Kind) : kind.absorbs c = false := by
  have hne : (c == '=') = false := by
    refine beq_false_of_ne ?_
    rintro rfl
    exact absurd h (by decide)
  cases kind <;> simp only [absorbs, not_isLetter_of_isGap h, not_isDigit_of_isGap h, hne]

theorem absorbs_of_isWord (h : kind.isWord = true) (c : Char) : kind.absorbs c = isLetter c := by
  cases kind <;> first | rfl | cases h

theorem absorbs_of_ofPair? {d : Char} {next : Option Char} (h : ofPair? d next = some kind) (c : Char) :
    kind.absorbs c = false := by
  rcases (ofPair?_eq_some_iff.mp h).2 with ⟨-, rfl⟩ | ⟨-, rfl⟩ <;> rfl

theorem absorbs_ofAlone {c : Char} (he : c ≠ '=') (hb : c ≠ '!') (d : Char) : (ofAlone c).absorbs d = false := by
  unfold ofAlone ofMark?
  split <;> first | rfl | contradiction

@[simp] theorem stopsAt_nil (kind : Kind) : kind.StopsAt [] := by simp [StopsAt]

@[simp] theorem stopsAt_cons : kind.StopsAt (c :: cs) ↔ kind.absorbs c = false := by simp [StopsAt]

/-- A character that stands alone stops where it makes no pair. -/
theorem stopsAt_ofAlone_iff {rest : List Char} : (ofAlone c).StopsAt rest ↔ ofPair? c rest.head? = none := by
  rw [Option.eq_none_iff_forall_ne_some]
  simp only [ne_eq, ofPair?_eq_some_iff]
  by_cases he : c = '='
  · subst he
    cases rest <;> simp [absorbs, ofAlone, ofMark?]
  by_cases hb : c = '!'
  · subst hb
    cases rest <;> simp [absorbs, ofAlone, ofMark?]
  · simp [StopsAt, absorbs_ofAlone he hb, he, hb]

end Kind

namespace IsLexeme

variable {t u : Token} {c : Char} {cs : List Char}

/-- A lexeme that another one extends absorbs the next character of the longer one. -/
theorem absorbs_of_append (ht : IsLexeme t) (hu : IsLexeme u) (h : u.text.toList = t.text.toList ++ c :: cs) :
    t.kind.absorbs c = true := by
  obtain ⟨d, ds, hd⟩ := ht.exists_cons
  have hud : u.text.toList = d :: (ds ++ c :: cs) := by rw [h, hd, List.cons_append]
  have hc : c ∈ u.text.toList := by rw [h]; simp
  have hdt : d ∈ t.text.toList := by rw [hd]; exact List.mem_cons_self
  have hdu : d ∈ u.text.toList := by rw [hud]; exact List.mem_cons_self
  have hw : t.kind.isWord = u.kind.isWord := by rw [← ht.isLetter_of_mem hdt, hu.isLetter_of_mem hdu]
  have hi : (t.kind == .integer) = (u.kind == .integer) := by rw [← ht.isDigit_of_mem hdt, hu.isDigit_of_mem hdu]
  cases form_of_isLexeme hu with
  | word text _ hl =>
    rw [Kind.absorbs_of_isWord (by rw [hw]; exact Kind.isWord_ofWord text)]
    exact hl c hc
  | numeral text _ hn =>
    rw [eq_of_beq (hi.trans rfl)]
    exact hn c hc
  | pair e kind hp =>
    have hlen : ds.length + (cs.length + 1) = 1 := by simpa [String.toList_ofList] using (congrArg List.length hud).symm
    obtain rfl : ds = [] := List.eq_nil_of_length_eq_zero (by omega)
    obtain rfl : cs = [] := List.eq_nil_of_length_eq_zero (by omega)
    obtain ⟨rfl, rfl⟩ : e = d ∧ '=' = c := by simpa [String.toList_ofList] using hud
    rcases (Kind.ofPair?_eq_some_iff.mp hp).2 with ⟨rfl, -⟩ | ⟨rfl, -⟩ <;>
      rw [ht.kind_of_single hd (by decide) (by decide)] <;> rfl
  | alone e _ _ _ => exact absurd (congrArg List.length hud) (by simp [Token.ofChar])

end IsLexeme

/-! ## What a text begins with -/

/-- A text that begins with no gap begins with a lexeme that stops. -/
theorem exists_lexeme_of_not_isGap {c : Char} (hg : isGap c = false) (cs : List Char) :
    ∃ t rest, c :: cs = t.text.toList ++ rest ∧ IsLexeme t ∧ t.kind.StopsAt rest := by
  cases hl : isLetter c with
  | true =>
    let word := String.ofList ((c :: cs).takeWhile isLetter)
    refine ⟨⟨.ofWord word, word⟩, (c :: cs).dropWhile isLetter, by simp [word], isLexeme_of_form (.word word ?_ ?_), ?_⟩
    · rw [String.toList_ofList]; simp [hl]
    · rw [String.toList_ofList]; exact of_mem_takeWhile
    · intro d hd
      rw [Kind.absorbs_of_isWord (Kind.isWord_ofWord word)]
      exact not_of_head?_dropWhile d hd
  | false =>
  cases hd : isDigit c with
  | true =>
    let numeral := String.ofList ((c :: cs).takeWhile isDigit)
    refine ⟨⟨.integer, numeral⟩, (c :: cs).dropWhile isDigit, by simp [numeral], isLexeme_of_form (.numeral numeral ?_ ?_), ?_⟩
    · rw [String.toList_ofList]; simp [hd]
    · rw [String.toList_ofList]; exact of_mem_takeWhile
    · exact not_of_head?_dropWhile
  | false =>
  cases hp : Kind.ofPair? c cs.head? with
  | none =>
    exact ⟨.ofChar (.ofAlone c) c, cs, by simp [Token.ofChar], isLexeme_of_form (.alone c hg hl hd),
      Kind.stopsAt_ofAlone_iff.mpr hp⟩
  | some kind =>
    obtain ⟨rest, rfl⟩ := List.head?_eq_some_iff.mp (Kind.ofPair?_eq_some_iff.mp hp).1
    exact ⟨⟨kind, String.ofList [c, '=']⟩, rest, by simp, isLexeme_of_form (.pair c kind hp),
      fun d _ => Kind.absorbs_of_ofPair? hp d⟩

/-- A text is a gap, or begins with a gap and a lexeme that stops. -/
theorem exists_lexeme (cs : List Char) :
    (∀ c ∈ cs, isGap c = true) ∨ ∃ gap t rest, cs = gap ++ (t.text.toList ++ rest) ∧
      (∀ c ∈ gap, isGap c = true) ∧ IsLexeme t ∧ t.kind.StopsAt rest := by
  have happ := List.takeWhile_append_dropWhile (p := isGap) (l := cs)
  cases hd : cs.dropWhile isGap with
  | nil =>
    rw [hd, List.append_nil] at happ
    exact Or.inl (happ ▸ of_mem_takeWhile)
  | cons c ds =>
    have hg : isGap c = false := not_of_head?_dropWhile c (by rw [hd]; rfl)
    obtain ⟨t, rest, heq, ht, hs⟩ := exists_lexeme_of_not_isGap hg ds
    exact Or.inr ⟨cs.takeWhile isGap, t, rest, by rw [← heq, ← hd, happ], of_mem_takeWhile, ht, hs⟩

end Munch
