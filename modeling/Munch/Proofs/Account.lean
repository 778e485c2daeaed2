/-
  Munch.Proofs.Account — no character is lost or read twice. Whatever is asked of a
  scanner, in whatever order and past the end, the texts of the lexemes used up, those
  skipped included, are the part of the source behind the scanner without its gaps.

  `Accounts source read s` says so of a scanner and what has been read. A turn keeps it
  (`accounts_turn`), so turns do (`accounts_turnsExactly`), so requests do
  (`accounts_exchanges`). A turn that reads the end leaves the scanner behind the whole
  source, where every later turn leaves it (`after_turnsExactly_end`).
-/

import Munch.Proofs.Run

namespace Munch

def texts (tokens : List Token) : List Char := tokens.flatMap fun t => t.text.toList

def withoutGaps (cs : List Char) : List Char := cs.filter fun c => !isGap c

/-! ## Requests in a row -/

/-- Whether the request leaves the source that is being read for another one. -/
def Request.renews : Request → Bool
  | renew _ => true
  | _ => false

/-- What passes in one request: `used` are the lexemes its turns read, skipped or not. -/
structure Exchange where
  request : Request
  answer : Answer
  used : List Token

/-- Whether the answer shows that the end was met: an end or nothing for a token, fewer
    tokens than asked for, or all that were left. -/
def Exchange.signalsEnd (e : Exchange) : Bool :=
  match e.request, e.answer with
  | .nextToken, .token t => t.isEnd
  | .take n, .tokens ts => ts.length < n
  | .rest, _ => true
  | .count, _ => true
  | _, .found none => true
  | _, _ => false

namespace Scanner

def exchange (s : Scanner) (r : Request) : Exchange := ⟨r, (machine.run r s).1, Turn.lexemes (r.turns s)⟩

def exchanges : Scanner → List Request → List Exchange
  | _, [] => []
  | s, r :: rs => s.exchange r :: exchanges (machine.run r s).2 rs

def afterAll : Scanner → List Request → Scanner
  | s, [] => s
  | s, r :: rs => afterAll (machine.run r s).2 rs

def used (s : Scanner) (rs : List Request) : List Token := (s.exchanges rs).flatMap Exchange.used

theorem after_eq {r : Request} (h : r.renews = false) (s : Scanner) : (machine.run r s).2 = s.after (r.turns s) := by
  cases r <;> first | rfl | cases h

/-! ## The account -/

def Accounts (source read : List Char) (s : Scanner) : Prop :=
  ∃ behind rest, s = between behind rest ∧ behind ++ rest = source ∧ read = withoutGaps behind

variable {source read : List Char} {s : Scanner}

theorem accounts_ofString (source : String) : Accounts source.toList [] (ofString source) :=
  ⟨[], source.toList, ofString_eq_between source, rfl, rfl⟩

theorem withoutGaps_append (cs ds : List Char) : withoutGaps (cs ++ ds) = withoutGaps cs ++ withoutGaps ds :=
  List.filter_append cs ds

theorem withoutGaps_gap {gap : List Char} (h : ∀ c ∈ gap, isGap c = true) : withoutGaps gap = [] :=
  List.filter_eq_nil_iff.mpr fun c hc => by simp [h c hc]

theorem withoutGaps_text {t : Token} (h : IsLexeme t) : withoutGaps t.text.toList = t.text.toList :=
  List.filter_eq_self.mpr fun c hc => by simp [h.not_isGap c hc]

theorem texts_append (ts us : List Token) : texts (ts ++ us) = texts ts ++ texts us := List.flatMap_append

theorem accounts_turn (h : Accounts source read s) :
    Accounts source (read ++ texts (Turn.lexemes [s.turn])) s.turn.after := by
  obtain ⟨behind, rest, rfl, rfl, rfl⟩ := h
  rcases turn_cases behind rest with ⟨gap, t, next, rfl, hg, ht, -, hturn⟩ | ⟨hg, hturn⟩
  · have hl : Turn.lexemes [Turn.read t (between (behind ++ gap ++ t.text.toList) next)] = [t] := by
      simp [Turn.lexemes, Turn.read, ht.isEnd_eq_false]
    rw [hturn, hl]
    refine ⟨behind ++ gap ++ t.text.toList, next, rfl, by simp, ?_⟩
    rw [withoutGaps_append, withoutGaps_append, withoutGaps_gap hg, withoutGaps_text ht, List.append_nil]
    simp [texts]
  · rw [hturn]
    refine ⟨behind ++ rest, [], rfl, by simp, ?_⟩
    rw [withoutGaps_append, withoutGaps_gap hg]
    rfl

theorem accounts_turnsExactly (h : Accounts source read s) (k : Nat) :
    Accounts source (read ++ texts (Turn.lexemes (s.turnsExactly k))) (s.after (s.turnsExactly k)) := by
  induction k generalizing read s with
  | zero => simpa [texts, Turn.lexemes] using h
  | succ k ih =>
    have hl : Turn.lexemes (s.turnsExactly (k + 1)) =
        Turn.lexemes [s.turn] ++ Turn.lexemes (s.turn.after.turnsExactly k) := by
      rw [turnsExactly_succ, lexemes_cons, lexemes_cons]; simp [Turn.lexemes]
    rw [hl, texts_append, ← List.append_assoc, turnsExactly_succ, after_cons]
    exact ih (accounts_turn h)

theorem accounts_exchange (h : Accounts source read s) {r : Request} (hr : r.renews = false) :
    Accounts source (read ++ texts (s.exchange r).used) (machine.run r s).2 := by
  obtain ⟨k, hk⟩ := r.turns_eq_turnsExactly s
  rw [after_eq hr, exchange, hk]
  exact accounts_turnsExactly h k

theorem accounts_exchanges (h : Accounts source read s) {rs : List Request} (hr : ∀ r ∈ rs, r.renews = false) :
    Accounts source (read ++ texts (s.used rs)) (s.afterAll rs) := by
  induction rs generalizing read s with
  | nil => simpa [used, exchanges, afterAll, texts] using h
  | cons r rs ih =>
    have hu : s.used (r :: rs) = (s.exchange r).used ++ used (machine.run r s).2 rs := rfl
    rw [hu, texts_append, ← List.append_assoc]
    exact ih (accounts_exchange h (hr r List.mem_cons_self)) fun q hq => hr q (List.mem_cons_of_mem _ hq)

/-! ## The end -/

theorem turn_end (source : List Char) : (between source []).turn = ⟨.endOfInput, [], between source []⟩ := by
  have h := turn_gap (List.forall_mem_nil _) source
  rwa [List.append_nil] at h

/-- Behind the whole source a scanner stays where it is. -/
theorem after_turnsExactly_end (source : List Char) (k : Nat) :
    (between source []).after (turnsExactly k (between source [])) = between source [] := by
  induction k with
  | zero => rfl
  | succ k ih => rw [turnsExactly_succ, after_cons, turn_end, ih]

theorem afterAll_end (source : List Char) {rs : List Request} (hr : ∀ r ∈ rs, r.renews = false) :
    (between source []).afterAll rs = between source [] := by
  induction rs with
  | nil => rfl
  | cons r rs ih =>
    obtain ⟨k, hk⟩ := r.turns_eq_turnsExactly (between source [])
    rw [afterAll, after_eq (hr r List.mem_cons_self), hk, after_turnsExactly_end]
    exact ih fun q hq => hr q (List.mem_cons_of_mem _ hq)

theorem after_of_isEnd (h : Accounts source read s) (he : s.turn.isEnd = true) : s.turn.after = between source [] := by
  obtain ⟨behind, rest, rfl, rfl, -⟩ := h
  rcases turn_cases behind rest with ⟨gap, t, next, -, -, ht, -, hturn⟩ | ⟨-, hturn⟩
  · rw [hturn] at he
    exact absurd (ht.isEnd_eq_false.symm.trans he) (by decide)
  · rw [hturn]

theorem after_turnsExactly_of_isEnd (h : Accounts source read s) {k : Nat} (he : ∃ t ∈ s.turnsExactly k, t.isEnd = true) :
    s.after (s.turnsExactly k) = between source [] := by
  induction k generalizing read s with
  | zero => obtain ⟨t, ht, -⟩ := he; cases ht
  | succ k ih =>
    rw [turnsExactly_succ] at he ⊢
    rw [after_cons]
    obtain ⟨t, ht, he⟩ := he
    rcases List.mem_cons.mp ht with rfl | ht
    · rw [after_of_isEnd h he, after_turnsExactly_end]
    · exact ih (accounts_turn h) ⟨t, ht, he⟩

/-- An answer that shows the end comes from a turn that read it. -/
theorem exists_isEnd_of_signalsEnd {s : Scanner} {r : Request} (h : (s.exchange r).signalsEnd = true) :
    ∃ t ∈ r.turns s, t.isEnd = true := by
  cases r with
  | nextToken =>
    apply exists_isEnd_of_length_lt
    change ((Turn.lexemes (turnsUpTo 1 s)).head?.getD .endOfInput).isEnd = true at h
    cases hread : Turn.lexemes (turnsUpTo 1 s) with
    | nil => exact Nat.one_pos
    | cons t ts =>
      have ht : t.isEnd = false := (mem_lexemes.mp (by rw [hread]; exact List.mem_cons_self)).2
      rw [hread, List.head?_cons, Option.getD_some, ht] at h
      cases h
  | next =>
    apply exists_isEnd_of_length_lt
    cases hread : Turn.lexemes (turnsUpTo 1 s) with
    | nil => exact Nat.one_pos
    | cons t ts =>
      simp only [exchange, machine, Request.answer, Request.turns, hread, List.head?_cons, Exchange.signalsEnd] at h
      cases h
  | nth n =>
    apply exists_isEnd_of_length_lt
    cases hread : (Turn.lexemes (turnsUpTo (n + 1) s))[n]? with
    | none => exact Nat.lt_succ_of_le (List.getElem?_eq_none_iff.mp hread)
    | some t =>
      simp only [exchange, machine, Request.answer, Request.turns, hread, Exchange.signalsEnd] at h
      cases h
  | take n => exact exists_isEnd_of_length_lt (of_decide_eq_true h)
  | find kind =>
    cases hread : (Turn.lexemes (s.turnsUntil fun t => t.kind == kind)).find? fun t => t.kind == kind with
    | none => exact exists_isEnd_of_find?_eq_none hread
    | some t =>
      simp only [exchange, machine, Request.answer, Request.turns, hread, Exchange.signalsEnd] at h
      cases h
  | rest => exact exists_isEnd_turnsToEnd s
  | count => exact exists_isEnd_turnsToEnd s
  | renew source => cases h

theorem afterAll_of_signalsEnd (h : Accounts source read s) {rs : List Request} (hr : ∀ r ∈ rs, r.renews = false)
    (he : ∃ e ∈ s.exchanges rs, e.signalsEnd = true) : s.afterAll rs = between source [] := by
  induction rs generalizing read s with
  | nil => obtain ⟨e, hmem, -⟩ := he; cases hmem
  | cons r rs ih =>
    have hr' : ∀ q ∈ rs, q.renews = false := fun q hq => hr q (List.mem_cons_of_mem _ hq)
    obtain ⟨e, hmem, he⟩ := he
    rw [afterAll]
    rcases List.mem_cons.mp hmem with rfl | hmem
    · obtain ⟨k, hk⟩ := r.turns_eq_turnsExactly s
      have hend := exists_isEnd_of_signalsEnd he
      rw [hk] at hend
      rw [after_eq (hr r List.mem_cons_self), hk, after_turnsExactly_of_isEnd h hend, afterAll_end source hr']
    · exact ih (accounts_exchange h (hr r List.mem_cons_self)) hr' ⟨e, hmem, he⟩

/-- After any requests, the texts of the lexemes used up are the source up to the
    scanner's position, without its gaps; and once an answer has shown the end, the
    position is the source's length and the texts are the whole of it. -/
theorem texts_used (source : String) (rs : List Request) (h : ∀ r ∈ rs, r.renews = false) :
    let s := ofString source
    texts (s.used rs) = withoutGaps (source.toList.take (s.afterAll rs).position) ∧
      ((∃ e ∈ s.exchanges rs, e.signalsEnd = true) →
        (s.afterAll rs).position = source.length ∧ texts (s.used rs) = withoutGaps source.toList) := by
  intro s
  have hacc : Accounts source.toList ([] ++ texts (s.used rs)) (s.afterAll rs) :=
    accounts_exchanges (accounts_ofString source) h
  obtain ⟨behind, rest, hs, happ, hread⟩ := hacc
  rw [List.nil_append] at hread
  have htexts : texts (s.used rs) = withoutGaps (source.toList.take (s.afterAll rs).position) := by
    rw [hread, hs, position_between, ← happ, List.take_left]
  refine ⟨htexts, fun hend => ?_⟩
  have hpos : (s.afterAll rs).position = source.length := by
    rw [afterAll_of_signalsEnd (accounts_ofString source) h hend, position_between, String.length_toList]
  exact ⟨hpos, by rw [htexts, hpos, ← String.length_toList, List.take_length]⟩

theorem texts_used_past_end :
    let s := ofString "a == 5 @"
    let rs := [.nth 1, .take 5, .find .integer, .next]
    (∀ r ∈ rs, r.renews = false) ∧ (∃ e ∈ s.exchanges rs, e.signalsEnd = true) ∧
      (s.afterAll rs).position = 8 ∧ texts (s.used rs) = "a==5@".toList := by
  intro s rs
  have hr : ∀ r ∈ rs, r.renews = false := by decide
  have hend : ∃ e ∈ s.exchanges rs, e.signalsEnd = true := List.any_eq_true.mp (by decide +kernel)
  obtain ⟨hpos, htexts⟩ := (texts_used "a == 5 @" rs hr).2 hend
  exact ⟨hr, hend, hpos.trans (by decide +kernel), htexts.trans (by decide +kernel)⟩

end Scanner

end Munch
