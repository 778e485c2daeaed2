/-
  Munch.Proofs.Progress — reading gets on and comes to an end, and stays there.

  A turn is a number of moves of the cursor, each from a character, so at most as many as
  there are characters left (`Coherent.eq_iterate`). It reads the end exactly where nothing but
  a gap is left (`isEnd_turn_iff`); any other turn reads a text that is not empty and passes
  it (`turn_passes`). Behind the end nothing moves the scanner any more (`afterAll_end`).

  The characters that are no gap count what is left to read: a turn that reads a lexeme takes
  its characters from them (`withoutGaps_turn`), so a source has at most as many lexemes as
  such characters (`length_turnsToEnd_le`).
-/

import Mathlib.Logic.Function.Iterate
import Munch.Proofs.Cursor
import Munch.Proofs.Pending

namespace Munch

namespace Scanner

/-! ## Moves -/

theorem Coherent.eq_iterate {source : String} {s t : Scanner} (hst : Advances s t) (h : Coherent source s) :
    t = Scanner.advance^[t.position - s.position] s := by
  induction hst with
  | refl s => rw [Nat.sub_self]; rfl
  | @advance s t c hc hst ih =>
    obtain ⟨-, hle⟩ := (h.advance hc).of_advances hst
    have hnext : s.advance.position = s.position + 1 := h.readPosition_eq
    have hsub : t.position - s.position = (t.position - s.advance.position) + 1 := by omega
    rw [hsub, Function.iterate_succ_apply]
    exact ih (h.advance hc)

/-! ## One turn -/

theorem token_turn_eq_iff {s : Scanner} : s.turn.token = .endOfInput ↔ s.turn.isEnd = true := by
  constructor
  · intro h
    rw [Turn.isEnd, h]
    rfl
  · intro h
    rw [turn_of_isEnd h]

theorem isEnd_turn_iff (behind rest : List Char) :
    (between behind rest).turn.isEnd = true ↔ ∀ c ∈ rest, isGap c = true := by
  rcases turn_cases behind rest with ⟨gap, t, next, rfl, -, ht, -, hturn⟩ | ⟨hg, hturn⟩
  · rw [hturn]
    refine iff_of_false (fun he => ?_) fun hgap => ?_
    · exact absurd (ht.isEnd_eq_false.symm.trans he) Bool.false_ne_true
    · obtain ⟨c, cs, hc⟩ := ht.exists_cons
      have hmem : c ∈ t.text.toList := by rw [hc]; exact List.mem_cons_self
      have hgap : isGap c = true := hgap c (by simp [hmem])
      rw [ht.not_isGap c hmem] at hgap
      cases hgap
  · rw [hturn]
    exact iff_of_true rfl hg

/-- A turn that reads no end reads some text and stands behind it, at or beyond its length from where it began. -/
theorem turn_passes {behind rest : List Char} (h : (between behind rest).turn.isEnd = false) :
    let t := (between behind rest).turn
    t.token.text ≠ "" ∧ (between behind rest).position + t.token.text.length ≤ t.after.position := by
  intro t
  rcases turn_cases behind rest with ⟨gap, u, next, rfl, -, hu, -, hturn⟩ | ⟨-, hturn⟩
  · have ht : t = .read u (between (behind ++ gap ++ u.text.toList) next) := hturn
    rw [ht]
    refine ⟨fun hempty => hu.text_ne_nil ?_, ?_⟩
    · rw [show u.text = "" from hempty]; rfl
    · simp only [Turn.read, position_between, List.length_append, String.length_toList]
      omega
  · rw [hturn] at h
    cases h

theorem withoutGaps_turn {behind rest : List Char} (h : (between behind rest).turn.isEnd = false) :
    ∃ behind' rest', (between behind rest).turn.after = between behind' rest' ∧
      (withoutGaps rest').length < (withoutGaps rest).length := by
  rcases turn_cases behind rest with ⟨gap, t, next, rfl, hg, ht, -, hturn⟩ | ⟨-, hturn⟩
  · refine ⟨_, next, by rw [hturn]; rfl, ?_⟩
    have hpos : 0 < t.text.toList.length := List.length_pos_iff.mpr ht.text_ne_nil
    rw [withoutGaps_append, withoutGaps_append, withoutGaps_gap hg, withoutGaps_text ht, List.nil_append,
      List.length_append]
    omega
  · rw [hturn] at h
    cases h

/-! ## All turns -/

theorem length_turnsToEnd_le (behind rest : List Char) :
    (between behind rest).turnsToEnd.length ≤ 1 + (withoutGaps rest).length := by
  induction hn : (withoutGaps rest).length using Nat.strongRecOn generalizing behind rest with
  | ind n ih =>
    cases he : (between behind rest).turn.isEnd with
    | true => rw [turnsToEnd_of_isEnd he, List.length_singleton]; omega
    | false =>
      obtain ⟨behind', rest', hafter, hlt⟩ := withoutGaps_turn he
      rw [hn] at hlt
      have hrest := ih _ hlt behind' rest' rfl
      rw [turnsToEnd_of_not_isEnd he, List.length_cons, hafter]
      omega

theorem length_turnsExactly (k : Nat) (s : Scanner) : (turnsExactly k s).length = k := by
  induction k generalizing s with
  | zero => rfl
  | succ k ih => rw [turnsExactly_succ, List.length_cons, ih]

/-- A whole source is read by a number of turns: one for each lexeme, and one for the end. -/
theorem tokenize_eq_turnsExactly (source : String) :
    ∃ k, k ≤ 1 + (withoutGaps source.toList).length ∧
      tokenize source = ((ofString source).turnsExactly k).map Turn.token := by
  obtain ⟨k, hk⟩ := turnsUntil_eq_turnsExactly (fun _ => false) (ofString source)
  have hturns : (ofString source).turnsToEnd = (ofString source).turnsExactly k := hk
  have hle := length_turnsToEnd_le [] source.toList
  rw [← ofString_eq_between, hturns, length_turnsExactly] at hle
  exact ⟨k, hle, congrArg (List.map Turn.token) hturns⟩

/-! ## Behind the end -/

theorem run_nextToken_end (source : List Char) :
    machine.run .nextToken (between source []) = (.token .endOfInput, between source []) := by
  rw [run_nextToken, turn_end]

theorem run_next_end (source : List Char) : machine.run .next (between source []) = (.found none, between source []) := by
  rw [run_next, turn_end]
  rfl

/-! ## From wherever requests lead -/

/-- After any requests: the next turn is a number of moves that stays within the source; it
    reads the end iff only a gap is left, and else passes a text that is not empty; when it
    reads the end it stands behind the whole source, where no request moves the scanner and
    nothing but the end is ever read. So a source is read by at most as many turns as it
    has characters that are no gap, and one more, which alone reads the end. -/
theorem turn_progress (source : String) (rs : List Request) (h : ∀ r ∈ rs, r.renews = false) :
    let s := (ofString source).afterAll rs
    let t := s.turn
    (∃ n, t.after = advance^[n] s ∧ t.after.position = s.position + n ∧ s.position + n ≤ source.length) ∧
      (t.token = .endOfInput ↔ ∀ c ∈ source.toList.drop s.position, isGap c = true) ∧
      (t.token ≠ .endOfInput → t.token.kind ≠ .endOfInput ∧ t.token.text ≠ "" ∧
        s.position + t.token.text.length ≤ t.after.position) ∧
      (t.token = .endOfInput → t.after.position = source.length ∧
        (∀ later : List Request, (∀ r ∈ later, r.renews = false) → t.after.afterAll later = t.after) ∧
        machine.run .nextToken t.after = (.token .endOfInput, t.after) ∧
        machine.run .next t.after = (.found none, t.after)) ∧
      (∃ lexemes, tokenize source = lexemes ++ [.endOfInput] ∧ ∀ u ∈ lexemes, u.kind ≠ .endOfInput) ∧
      ∃ k, k ≤ 1 + (withoutGaps source.toList).length ∧ (tokenize source).length = k ∧
        tokenize source = ((ofString source).turnsExactly k).map Turn.token := by
  intro s t
  have hcoherent : Coherent source s := ((Coherent.ofString source).of_advances (advances_afterAll h _)).1
  obtain ⟨behind, rest, hs, happ, -⟩ := accounts_exchanges (accounts_ofString source) h
  have hs : s = between behind rest := hs
  have hdrop : source.toList.drop s.position = rest := by rw [hs, position_between, ← happ, List.drop_left]
  refine ⟨?_, ?_, fun hne => ?_, fun he => ?_, ?_, ?_⟩
  · obtain ⟨hafter, hle⟩ := hcoherent.of_advances (advances_turn s)
    have hbound := hafter.position_le
    rw [hafter.size_eq] at hbound
    exact ⟨s.turn.after.position - s.position, hcoherent.eq_iterate (advances_turn s),
      (Nat.add_sub_of_le hle).symm, by omega⟩
  · rw [token_turn_eq_iff, hdrop, hs]
    exact isEnd_turn_iff behind rest
  · have he : s.turn.isEnd = false := Bool.eq_false_iff.mpr fun he => hne (token_turn_eq_iff.mpr he)
    refine ⟨fun hk => hne (token_turn_eq_iff.mpr (Token.isEnd_iff.mpr hk)), ?_⟩
    have hpasses := turn_passes (hs ▸ he)
    rw [← hs] at hpasses
    exact hpasses
  · have hend : t.after = between source.toList [] :=
      after_of_isEnd ⟨behind, rest, hs, happ, rfl⟩ (token_turn_eq_iff.mp he)
    rw [hend]
    exact ⟨by rw [position_between, String.length_toList], fun later hlater => afterAll_end _ hlater,
      run_nextToken_end _, run_next_end _⟩
  · exact ⟨(ofString source).pending, tokenize_eq_pending source, kind_ne_of_mem_pending⟩
  · obtain ⟨k, hk, htokens⟩ := tokenize_eq_turnsExactly source
    exact ⟨k, hk, by rw [htokens, List.length_map, length_turnsExactly], htokens⟩

/-- NUL is no end and a trailing gap is passed once: five lexemes, as many as there are characters that
    are no gap, then the end for ever. -/
theorem turn_progress_past_end :
    let rs := [.next, .nth 1, .nextToken]
    let s := (ofString "a=\x00 5! \r\n").afterAll rs
    (∀ r ∈ rs, r.renews = false) ∧ s.position = 5 ∧ s.turn.token = .ofChar .bang '!' ∧ s.turn.token ≠ .endOfInput ∧
      5 + 1 ≤ s.turn.after.position ∧
      let t := (ofString "a=\x00 5! \r\n").afterAll [.count]
      t.turn.token = .endOfInput ∧ t.turn.after.position = 9 ∧ t.turn.after.afterAll [.next, .nth 7, .rest] = t.turn.after ∧
        machine.run .next t.turn.after = (.found none, t.turn.after) ∧
        (tokenize "a=\x00 5! \r\n").length ≤ 1 + 5 := by
  intro rs s
  have hrs : ∀ r ∈ rs, r.renews = false := by decide
  have hpos : s.position = 5 := by decide +kernel
  have htoken : s.turn.token = .ofChar .bang '!' := by decide +kernel
  have hne : s.turn.token ≠ .endOfInput := by rw [htoken]; decide
  obtain ⟨-, -, hpasses, -, -, k, hk, hlen, -⟩ := turn_progress "a=\x00 5! \r\n" rs hrs
  have hle := (hpasses hne).2.2
  have htext : s.turn.token.text.length = 1 := by rw [htoken]; decide
  refine ⟨hrs, hpos, htoken, hne, by rw [← hpos, ← htext]; exact hle, ?_⟩
  intro t
  have hend : t.turn.token = .endOfInput := by decide +kernel
  have hcount : ∀ r ∈ [Request.count], r.renews = false := by decide
  obtain ⟨-, -, -, hsticky, -⟩ := turn_progress "a=\x00 5! \r\n" [.count] hcount
  obtain ⟨hpos, hstill, -, hnext⟩ := hsticky hend
  have hcard : (withoutGaps "a=\x00 5! \r\n".toList).length = 5 := by decide +kernel
  exact ⟨hend, hpos.trans (by decide), hstill _ (by decide), hnext, by rw [hlen, ← hcard]; exact hk⟩

end Scanner

end Munch
