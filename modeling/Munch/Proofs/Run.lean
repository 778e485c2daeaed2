/-
  Munch.Proofs.Run — where a scanner stands, and turns one after the other.

  A scanner made from a source and moved by turns is determined by what lies behind it and
  what lies before it: it is `between behind rest`, and nothing else of its past is left in
  it. Every movement is then an equation between such scanners:
  - `advance_between`, `skipWhile_between`, `readWhile_between`: the cursor.
  - `turn_lexeme`: over a gap and a lexeme that stops, a turn reads that lexeme and
    stands behind it; `turn_gap`: over a gap alone it reads the end; `turn_cases`: there
    is no other turn.

  However a request decides when to stop, the turns it takes are the first so many from
  where the scanner stands.
  - `reading_induction`: a property that a scanner has whenever it has it after a turn
    that read no end holds of every scanner.
  - `turns_eq_turnsExactly`: every request takes `turnsExactly k` for some `k`, so what a
    turn keeps, a request keeps.
  - `exists_stops`, `exists_isEnd_of_length_lt`, `exists_isEnd_of_find?_eq_none`: why the
    turns of a request are over.
  - `isEnd_lexeme_iff`, `turn_after_of_isEnd`: the end is read where no character is left,
    and read again from there.
  - `run_nextToken`, `run_next`: the two requests that are one turn each.
-/

import Munch.Proofs.Grammar
import Munch.Scanner.Request

namespace Munch

/-! ## Where a scanner stands -/

namespace Scanner

def between (behind rest : List Char) : Scanner :=
  ⟨(behind ++ rest).toArray, behind.length, behind.length + 1, rest.head?⟩

/-! ## The cursor -/

@[simp] theorem position_between (behind rest : List Char) : (between behind rest).position = behind.length := rfl

theorem peek_between (behind : List Char) (c : Char) (rest : List Char) :
    (between behind (c :: rest)).peek = rest.head? := by
  simp only [peek, between, List.getElem?_toArray]
  rw [List.getElem?_append_right (Nat.le_add_right _ _), Nat.add_sub_cancel_left, List.getElem?_cons_succ, List.head?_eq_getElem?]

theorem advance_between (behind : List Char) (c : Char) (rest : List Char) :
    (between behind (c :: rest)).advance = between (behind ++ [c]) rest := by
  unfold advance
  rw [peek_between]
  simp [between]

theorem ofString_eq_between (source : String) : ofString source = between [] source.toList := by
  simp [ofString, advance, peek, between, List.head?_eq_getElem?]

theorem skipWhile_between (p : Char → Bool) (behind rest : List Char) :
    (between behind rest).skipWhile p = between (behind ++ rest.takeWhile p) (rest.dropWhile p) := by
  induction rest generalizing behind with
  | nil => rw [skipWhile_of_end rfl]; simp
  | cons c rest ih =>
    cases hp : p c with
    | true =>
      rw [skipWhile_of_current rfl hp, advance_between, ih, List.takeWhile_cons_of_pos hp, List.dropWhile_cons_of_pos hp]
      simp
    | false =>
      have hn : ¬ p c = true := by simp [hp]
      rw [skipWhile_of_not rfl hp, List.takeWhile_cons_of_neg hn, List.dropWhile_cons_of_neg hn, List.append_nil]

theorem slice_between (behind middle rest : List Char) :
    (between behind (middle ++ rest)).slice (behind ++ middle).length = String.ofList middle := by
  simp [slice, between, List.extract_eq_take_drop]

theorem readWhile_between (p : Char → Bool) (behind rest : List Char) :
    (between behind rest).readWhile p =
      (String.ofList (rest.takeWhile p), between (behind ++ rest.takeWhile p) (rest.dropWhile p)) := by
  simp only [readWhile, skipWhile_between, position_between]
  have h := slice_between behind (rest.takeWhile p) (rest.dropWhile p)
  rw [List.takeWhile_append_dropWhile] at h
  rw [h]

/-- Over a run that ends, exactly that run is read. -/
theorem readWhile_run {p : Char → Bool} {run rest : List Char} (hrun : ∀ c ∈ run, p c = true)
    (hrest : ∀ c ∈ rest.head?, p c = false) (behind : List Char) :
    (between behind (run ++ rest)).readWhile p = (String.ofList run, between (behind ++ run) rest) := by
  rw [readWhile_between, takeWhile_run hrun hrest, dropWhile_run hrun hrest]

/-! ## Turns -/

theorem lexeme_end (behind : List Char) : (between behind []).lexeme = ⟨.endOfInput, [], between behind []⟩ := rfl

/-- A lexeme that stops is read as it is. -/
theorem lexeme_between {t : Token} (ht : IsLexeme t) {rest : List Char} (hs : t.kind.StopsAt rest) (behind : List Char) :
    (between behind (t.text.toList ++ rest)).lexeme = .read t (between (behind ++ t.text.toList) rest) := by
  obtain ⟨c, cs, hc⟩ := ht.exists_cons
  have hcur : (between behind (t.text.toList ++ rest)).current = some c := by simp [between, hc]
  unfold lexeme
  simp only [hcur]
  cases form_of_isLexeme ht with
  | word text _ hl =>
    have hrest : ∀ d ∈ rest.head?, isLetter d = false := fun d hd => by
      rw [← Kind.absorbs_of_isWord (Kind.isWord_ofWord text)]; exact hs d hd
    have hlc : isLetter c = true := hl c (by simp only at hc; rw [hc]; exact List.mem_cons_self)
    simp only [hlc, if_true, readWhile_run hl hrest, String.ofList_toList]
  | numeral text _ hd =>
    have hdc : isDigit c = true := hd c (by simp only at hc; rw [hc]; exact List.mem_cons_self)
    simp only [not_isLetter_of_isDigit hdc, hdc, if_true, Bool.false_eq_true, if_false, readWhile_run hd hs,
      String.ofList_toList]
  | pair d kind hp =>
    obtain ⟨rfl, -⟩ : d = c ∧ ['='] = cs := by simpa using hc
    obtain ⟨hl, hd⟩ : isLetter d = false ∧ isDigit d = false := by
      rcases (Kind.ofPair?_eq_some_iff.mp hp).2 with ⟨rfl, -⟩ | ⟨rfl, -⟩ <;> decide
    simp only [String.toList_ofList, List.cons_append, List.nil_append, hl, hd, Bool.false_eq_true, if_false,
      peek_between, List.head?_cons, hp, advance_between, List.append_assoc]
  | alone d _ hl hd =>
    obtain ⟨rfl, -⟩ : d = c ∧ [] = cs := by simpa [Token.ofChar] using hc
    have hp : Kind.ofPair? d rest.head? = none := Kind.stopsAt_ofAlone_iff.mp hs
    simp only [Token.ofChar, String.toList_singleton, List.cons_append, List.nil_append, hl, hd, Bool.false_eq_true,
      if_false, peek_between, hp, advance_between]
    rfl

/-- Over a gap and a lexeme that stops, a turn reads the lexeme and stands behind it. -/
theorem turn_lexeme {gap : List Char} (hg : ∀ c ∈ gap, isGap c = true) {t : Token} (ht : IsLexeme t)
    {rest : List Char} (hs : t.kind.StopsAt rest) (behind : List Char) :
    (between behind (gap ++ (t.text.toList ++ rest))).turn =
      .read t (between (behind ++ gap ++ t.text.toList) rest) := by
  have hn : ∀ c ∈ (t.text.toList ++ rest).head?, isGap c = false := by
    obtain ⟨c, cs, hc⟩ := ht.exists_cons
    intro d hd
    rw [hc, List.cons_append, List.head?_cons, Option.mem_some_iff] at hd
    exact ht.not_isGap d (by rw [hc, hd]; exact List.mem_cons_self)
  unfold turn
  rw [skipWhile_between, takeWhile_run hg hn, dropWhile_run hg hn, lexeme_between ht hs]

/-- Over a gap alone, a turn reads the end. -/
theorem turn_gap {gap : List Char} (hg : ∀ c ∈ gap, isGap c = true) (behind : List Char) :
    (between behind gap).turn = ⟨.endOfInput, [], between (behind ++ gap) []⟩ := by
  unfold turn
  have hend : ∀ c ∈ ([] : List Char).head?, isGap c = false := by simp
  have htake := takeWhile_run hg hend
  have hdrop := dropWhile_run hg hend
  rw [List.append_nil] at htake hdrop
  rw [skipWhile_between, htake, hdrop, lexeme_end]

/-- What a turn can do, and nothing else. -/
theorem turn_cases (behind rest : List Char) :
    (∃ gap t next, rest = gap ++ (t.text.toList ++ next) ∧ (∀ c ∈ gap, isGap c = true) ∧ IsLexeme t ∧
      t.kind.StopsAt next ∧ (between behind rest).turn = .read t (between (behind ++ gap ++ t.text.toList) next)) ∨
    ((∀ c ∈ rest, isGap c = true) ∧ (between behind rest).turn = ⟨.endOfInput, [], between (behind ++ rest) []⟩) := by
  rcases exists_lexeme rest with hg | ⟨gap, t, next, rfl, hg, ht, hs⟩
  · exact Or.inr ⟨hg, turn_gap hg behind⟩
  · exact Or.inl ⟨gap, t, next, rfl, hg, ht, hs, turn_lexeme hg ht hs behind⟩

theorem turnsToEnd_of_isEnd {s : Scanner} (h : s.turn.isEnd = true) : s.turnsToEnd = [s.turn] := by
  unfold turnsToEnd
  rw [turnsUntil_eq, if_pos (by simp [stops, h])]

theorem turnsToEnd_of_not_isEnd {s : Scanner} (h : s.turn.isEnd = false) :
    s.turnsToEnd = s.turn :: s.turn.after.turnsToEnd := by
  unfold turnsToEnd
  rw [turnsUntil_eq, if_neg (by simp [stops, h])]

/-! ## Turns one after the other -/

@[simp] theorem after_nil (s : Scanner) : s.after [] = s := rfl

@[simp] theorem after_cons (s : Scanner) (t : Turn) (ts : List Turn) : s.after (t :: ts) = t.after.after ts := by
  unfold after
  cases ts with
  | nil => rfl
  | cons u us => rw [List.getLast?_cons_cons]; simp [List.getLast?_eq_some_getLast]

/-- Reading comes to an end, so a property may be taken for granted after a turn that read none. -/
theorem reading_induction {P : Scanner → Prop} (h : ∀ s, (s.turn.isEnd = false → P s.turn.after) → P s) (s : Scanner) :
    P s := by
  induction hn : s.ahead using Nat.strongRecOn generalizing s with
  | ind n ih => exact h s fun he => ih _ (hn ▸ ahead_turn_lt he) _ rfl

theorem turnsUpTo_eq_turnsExactly (n : Nat) (s : Scanner) : ∃ k, turnsUpTo n s = turnsExactly k s := by
  induction n generalizing s with
  | zero => exact ⟨0, rfl⟩
  | succ n ih =>
    rw [turnsUpTo_succ]
    split
    · exact ⟨1, by rw [turnsExactly_succ, turnsExactly_zero]⟩
    · obtain ⟨k, hk⟩ := ih s.turn.after
      exact ⟨k + 1, by rw [turnsExactly_succ, hk]⟩

theorem turnsUntil_eq_turnsExactly (stop : Token → Bool) (s : Scanner) : ∃ k, turnsUntil stop s = turnsExactly k s := by
  induction s using reading_induction with
  | h s ih =>
    rw [turnsUntil_eq]
    cases hs : stops stop s.turn with
    | true => exact ⟨1, by rw [if_pos rfl, turnsExactly_succ, turnsExactly_zero]⟩
    | false =>
      simp only [stops, Bool.or_eq_false_iff] at hs
      obtain ⟨k, hk⟩ := ih hs.1
      exact ⟨k + 1, by rw [if_neg (by simp), turnsExactly_succ, hk]⟩

/-- Turns until something is read stop because it was read, or the end. -/
theorem exists_stops (stop : Token → Bool) (s : Scanner) : ∃ t ∈ turnsUntil stop s, stops stop t = true := by
  induction s using reading_induction with
  | h s ih =>
    rw [turnsUntil_eq]
    cases hs : stops stop s.turn with
    | true => exact ⟨s.turn, by simp, hs⟩
    | false =>
      have he := hs
      simp only [stops, Bool.or_eq_false_iff] at he
      obtain ⟨t, ht, hst⟩ := ih he.1
      exact ⟨t, by simp [ht], hst⟩

theorem lexemes_cons (t : Turn) (ts : List Turn) :
    Turn.lexemes (t :: ts) = (if t.isEnd then [] else [t.token]) ++ Turn.lexemes ts := by
  cases he : t.token.isEnd <;> simp [Turn.lexemes, Turn.isEnd, he]

/-- Turns up to a number read fewer lexemes only when one of them read the end. -/
theorem exists_isEnd_of_length_lt {n : Nat} {s : Scanner} (h : (Turn.lexemes (turnsUpTo n s)).length < n) :
    ∃ t ∈ turnsUpTo n s, t.isEnd = true := by
  induction n generalizing s with
  | zero => exact absurd h (Nat.not_lt_zero _)
  | succ n ih =>
    rw [turnsUpTo_succ] at h ⊢
    cases he : s.turn.isEnd with
    | true => exact ⟨s.turn, by simp, he⟩
    | false =>
      rw [he, if_neg Bool.false_ne_true, lexemes_cons, he] at h
      have hlt : (Turn.lexemes (turnsUpTo n s.turn.after)).length < n := by simpa using h
      obtain ⟨t, ht, hte⟩ := ih hlt
      exact ⟨t, by simp [ht], hte⟩

theorem mem_lexemes {ts : List Turn} {t : Token} : t ∈ Turn.lexemes ts ↔ (∃ u ∈ ts, u.token = t) ∧ t.isEnd = false := by
  simp [Turn.lexemes]

theorem exists_isEnd_turnsToEnd (s : Scanner) : ∃ t ∈ s.turnsToEnd, t.isEnd = true := by
  obtain ⟨t, ht, hs⟩ := exists_stops (fun _ => false) s
  exact ⟨t, ht, by simpa [stops] using hs⟩

/-- Turns that look for a lexeme read the end when they do not find it. -/
theorem exists_isEnd_of_find?_eq_none {stop : Token → Bool} {s : Scanner}
    (h : (Turn.lexemes (turnsUntil stop s)).find? stop = none) : ∃ t ∈ turnsUntil stop s, t.isEnd = true := by
  obtain ⟨t, ht, hs⟩ := exists_stops stop s
  refine ⟨t, ht, ?_⟩
  cases he : t.isEnd with
  | true => rfl
  | false =>
    have hfound : stop t.token = true := by simpa [stops, he] using hs
    have hmem : t.token ∈ Turn.lexemes (turnsUntil stop s) := mem_lexemes.mpr ⟨⟨t, ht, rfl⟩, he⟩
    exact absurd hfound (List.find?_eq_none.mp h t.token hmem)

/-! ## The end -/

theorem lexeme_of_end {s : Scanner} (h : s.current = none) : s.lexeme = ⟨.endOfInput, [], s⟩ := by
  unfold lexeme; rw [h]

/-- A turn reads the end only where no character is left. -/
theorem isEnd_lexeme_iff {s : Scanner} : s.lexeme.isEnd = true ↔ s.current = none := by
  unfold lexeme
  cases s.current with
  | none => exact iff_of_true rfl rfl
  | some c =>
    refine iff_of_false ?_ nofun
    simp only [Turn.isEnd, Token.isEnd_iff]
    split
    · exact Kind.ofWord_ne_endOfInput _
    · split
      · exact nofun
      · split
        · rename_i kind hk
          rcases (Kind.ofPair?_eq_some_iff.mp hk).2 with ⟨-, rfl⟩ | ⟨-, rfl⟩ <;> exact nofun
        · exact Kind.ofAlone_ne_endOfInput c

theorem turn_of_isEnd {s : Scanner} (h : s.turn.isEnd = true) : s.turn = ⟨.endOfInput, [], s.skipWhile isGap⟩ :=
  lexeme_of_end (isEnd_lexeme_iff.mp h)

/-- Behind a turn that read the end, the next turn is the same. -/
theorem turn_after_of_isEnd {s : Scanner} (h : s.turn.isEnd = true) : s.turn.after.turn = s.turn := by
  have hc : (s.skipWhile isGap).current = none := isEnd_lexeme_iff.mp h
  rw [turn_of_isEnd h]
  unfold turn
  rw [skipWhile_of_end hc, lexeme_of_end hc]

/-! ## Requests of one turn -/

theorem turnsUpTo_one (s : Scanner) : turnsUpTo 1 s = [s.turn] := by
  rw [turnsUpTo_succ, turnsUpTo_zero, ite_self]

theorem run_nextToken (s : Scanner) : machine.run .nextToken s = (.token s.turn.token, s.turn.after) := by
  simp only [machine, Request.answer, Request.turns, Request.after, turnsUpTo_one, lexemes_cons, after_cons, after_nil]
  cases he : s.turn.isEnd with
  | true => rw [turn_of_isEnd he]; rfl
  | false => rfl

theorem run_next (s : Scanner) :
    machine.run .next s = (.found (if s.turn.isEnd then none else some s.turn.token), s.turn.after) := by
  simp only [machine, Request.answer, Request.turns, Request.after, turnsUpTo_one, lexemes_cons, after_cons, after_nil]
  cases s.turn.isEnd <;> rfl

end Scanner

/-- The turns of a request are the first so many. -/
theorem Request.turns_eq_turnsExactly (r : Request) (s : Scanner) : ∃ k, r.turns s = s.turnsExactly k := by
  cases r with
  | nextToken => exact Scanner.turnsUpTo_eq_turnsExactly 1 s
  | next => exact Scanner.turnsUpTo_eq_turnsExactly 1 s
  | nth n => exact Scanner.turnsUpTo_eq_turnsExactly (n + 1) s
  | take n => exact Scanner.turnsUpTo_eq_turnsExactly n s
  | find kind => exact Scanner.turnsUntil_eq_turnsExactly _ s
  | rest => exact Scanner.turnsUntil_eq_turnsExactly _ s
  | count => exact Scanner.turnsUntil_eq_turnsExactly _ s
  | renew source => exact ⟨0, rfl⟩

end Munch
