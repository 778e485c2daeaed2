/-
  Munch.Proofs.Locality — a turn knows nothing of the text it has passed, and little of the
  text to come.

  A scanner in the middle of a text is a new scanner on the rest of it. Two scanners are
  shifted by `p` when the same rest of a text lies before both and the one has `p` characters
  more behind it. They see the same, and only count from elsewhere: a turn reads the same
  token on both and leaves them shifted by `p` (`shifted_turn`), so turns do
  (`shifted_turnsExactly`), and the same lexemes are pending on both (`shifted_pending`).
  Wherever turns lead to from a source, the scanner is shifted, by its position, from a new
  one over the characters that follow that position (`shifted_ofString`).

  No turn looks further than the character on which it leaves the scanner. What turns read is
  a front part of the text before them, and behind it stands the rest. The rest counts by its
  first character alone: with any other rest that begins alike, or is empty like it, the same
  turns read the same tokens and leave the scanner in front of that other rest (`turn_rest`,
  for one turn; `turnsExactly_rest`, by induction, for any number). One character is as little
  as there can be: it decides where a run ends and whether a pair is one. Two texts that agree
  up to a place and on the character there are such texts (`exists_rest_of_agree`).
-/

import Munch.Proofs.Account
import Munch.Proofs.Pending

namespace Munch

/-! ## The text behind -/

namespace Scanner

def Shifted (p : Nat) (s t : Scanner) : Prop :=
  ∃ before behind rest, before.length = p ∧ s = between (before ++ behind) rest ∧ t = between behind rest

variable {p : Nat} {s t : Scanner}

theorem Shifted.position_eq (h : Shifted p s t) : s.position = p + t.position := by
  obtain ⟨before, behind, rest, rfl, rfl, rfl⟩ := h
  exact List.length_append

theorem Shifted.current_eq (h : Shifted p s t) : s.current = t.current := by
  obtain ⟨before, behind, rest, -, rfl, rfl⟩ := h
  rfl

/-! ## Turns -/

theorem shifted_turn (h : Shifted p s t) : s.turn.token = t.turn.token ∧ Shifted p s.turn.after t.turn.after := by
  obtain ⟨before, behind, rest, hp, rfl, rfl⟩ := h
  rcases exists_lexeme rest with hg | ⟨gap, u, next, rfl, hg, hu, hs⟩
  · rw [turn_gap hg, turn_gap hg]
    exact ⟨rfl, before, behind ++ rest, [], hp, by rw [List.append_assoc], rfl⟩
  · rw [turn_lexeme hg hu hs, turn_lexeme hg hu hs]
    exact ⟨rfl, before, behind ++ gap ++ u.text.toList, next, hp, by simp only [Turn.read, List.append_assoc], rfl⟩

theorem shifted_turnsExactly (h : Shifted p s t) (m : Nat) :
    (s.turnsExactly m).map Turn.token = (t.turnsExactly m).map Turn.token ∧
      Shifted p (s.after (s.turnsExactly m)) (t.after (t.turnsExactly m)) := by
  induction m generalizing s t with
  | zero => exact ⟨rfl, h⟩
  | succ m ih =>
    obtain ⟨htoken, hafter⟩ := shifted_turn h
    obtain ⟨htokens, hafters⟩ := ih hafter
    simp only [turnsExactly_succ, List.map_cons, after_cons, htoken, htokens]
    exact ⟨trivial, hafters⟩

theorem shifted_pending (h : Shifted p s t) : s.pending = t.pending := by
  induction s using reading_induction generalizing t with
  | h s ih =>
    obtain ⟨htoken, hafter⟩ := shifted_turn h
    have hend : t.turn.isEnd = s.turn.isEnd := congrArg Token.isEnd htoken.symm
    cases he : s.turn.isEnd with
    | true => rw [pending_of_isEnd he, pending_of_isEnd (hend.trans he)]
    | false => rw [pending_of_not_isEnd he, pending_of_not_isEnd (hend.trans he), htoken, ih he hafter]

/-! ## Where turns lead -/

theorem shifted_ofString (source : String) (k : Nat) :
    let s := (ofString source).after ((ofString source).turnsExactly k)
    Shifted s.position s (ofString (String.ofList (source.toList.drop s.position))) := by
  intro s
  obtain ⟨behind, rest, hs, happ, -⟩ := accounts_turnsExactly (accounts_ofString source) k
  have hs : s = between behind rest := hs
  rw [hs, position_between, ← happ, List.drop_left, ofString_eq_between, String.toList_ofList]
  exact ⟨behind, [], rest, rfl, by rw [List.append_nil], rfl⟩

theorem pending_eq_append (k : Nat) (s : Scanner) :
    s.pending = Turn.lexemes (s.turnsExactly k) ++ (s.after (s.turnsExactly k)).pending := by
  induction k generalizing s with
  | zero => rfl
  | succ k ih =>
    rw [turnsExactly_succ, lexemes_cons, after_cons, List.append_assoc, ← ih s.turn.after]
    cases he : s.turn.isEnd with
    | true => rw [pending_of_isEnd he, pending_after_of_isEnd he]; rfl
    | false => rw [pending_of_not_isEnd he]; rfl

/-- After any number of turns a scanner goes on as a new one over the rest of the source
    does: the same tokens, the same character under examination, and positions that differ
    by where it stood. So a source is read as what the turns read and the rest read anew. -/
theorem resume_eq_fresh (source : String) (k m : Nat) :
    let start := ofString source
    let s := start.after (start.turnsExactly k)
    let rest := String.ofList (source.toList.drop s.position)
    let fresh := ofString rest
    (s.turnsExactly m).map Turn.token = (fresh.turnsExactly m).map Turn.token ∧
      (s.after (s.turnsExactly m)).position = s.position + (fresh.after (fresh.turnsExactly m)).position ∧
      (s.after (s.turnsExactly m)).current = (fresh.after (fresh.turnsExactly m)).current ∧
      tokenize source = Turn.lexemes (start.turnsExactly k) ++ tokenize rest := by
  intro start s rest fresh
  have hfresh : Shifted s.position s fresh := shifted_ofString source k
  obtain ⟨htokens, hafter⟩ := shifted_turnsExactly hfresh m
  refine ⟨htokens, hafter.position_eq, hafter.current_eq, ?_⟩
  calc tokenize source
    _ = start.pending ++ [.endOfInput] := tokenize_eq_pending source
    _ = Turn.lexemes (start.turnsExactly k) ++ s.pending ++ [.endOfInput] := by rw [pending_eq_append k start]
    _ = Turn.lexemes (start.turnsExactly k) ++ (fresh.pending ++ [.endOfInput]) := by
      rw [shifted_pending hfresh, List.append_assoc]
    _ = Turn.lexemes (start.turnsExactly k) ++ tokenize rest := by rw [tokenize_eq_pending rest]

end Scanner

/-! ## The text to come -/

namespace Scanner

/-- A turn reads a front part of what lies ahead, and sees of the rest what it begins with. -/
theorem turn_rest (behind ahead : List Char) : ∃ front rest, ahead = front ++ rest ∧ ∀ rest', rest'.head? = rest.head? →
    (between behind (front ++ rest')).turn.token = (between behind ahead).turn.token ∧
      (between behind (front ++ rest')).turn.after = between (behind ++ front) rest' := by
  rcases exists_lexeme ahead with hg | ⟨gap, t, rest, rfl, hg, ht, hs⟩
  · refine ⟨ahead, [], (List.append_nil ahead).symm, fun rest' hhead => ?_⟩
    obtain rfl : rest' = [] := List.head?_eq_none_iff.mp hhead
    rw [List.append_nil, turn_gap hg]
    exact ⟨rfl, rfl⟩
  · refine ⟨gap ++ t.text.toList, rest, (List.append_assoc _ _ _).symm, fun rest' hhead => ?_⟩
    have hs' : t.kind.StopsAt rest' := fun c hc => hs c (hhead ▸ hc)
    rw [List.append_assoc, turn_lexeme hg ht hs', turn_lexeme hg ht hs, ← List.append_assoc]
    exact ⟨rfl, rfl⟩

theorem turnsExactly_rest (k : Nat) (behind ahead : List Char) :
    ∃ front rest, ahead = front ++ rest ∧ ∀ rest', rest'.head? = rest.head? →
      let s := between behind (front ++ rest')
      (s.turnsExactly k).map Turn.token = ((between behind ahead).turnsExactly k).map Turn.token ∧
        s.after (s.turnsExactly k) = between (behind ++ front) rest' := by
  induction k generalizing behind ahead with
  | zero => exact ⟨[], ahead, rfl, fun rest' _ => ⟨rfl, by rw [List.append_nil]; rfl⟩⟩
  | succ k ih =>
    obtain ⟨front, mid, rfl, hturn⟩ := turn_rest behind ahead
    obtain ⟨front', rest, rfl, hturns⟩ := ih (behind ++ front) mid
    refine ⟨front ++ front', rest, (List.append_assoc _ _ _).symm, fun rest' hhead => ?_⟩
    have hmid : (front' ++ rest').head? = (front' ++ rest).head? := by rw [List.head?_append, List.head?_append, hhead]
    obtain ⟨htoken, hafter⟩ := hturn (front' ++ rest') hmid
    obtain ⟨-, hafter'⟩ := hturn (front' ++ rest) rfl
    obtain ⟨htokens, hlast⟩ := hturns rest' hhead
    rw [List.append_assoc]
    simp only [turnsExactly_succ, List.map_cons, after_cons, htoken, hafter, hafter', htokens, hlast, List.append_assoc]
    exact ⟨trivial, trivial⟩

theorem exists_rest_of_agree {front rest text : List Char} (h : ∀ i ≤ front.length, (front ++ rest)[i]? = text[i]?) :
    ∃ rest', text = front ++ rest' ∧ rest'.head? = rest.head? := by
  have hfront : text.take front.length = front := by
    refine List.ext_getElem? fun i => ?_
    rw [List.getElem?_take]
    split
    · rename_i hi
      rw [← h i (Nat.le_of_lt hi), List.getElem?_append_left hi]
    · rename_i hi
      exact (List.getElem?_eq_none (Nat.le_of_not_lt hi)).symm
  refine ⟨text.drop front.length, ?_, ?_⟩
  · have happ := List.take_append_drop front.length text
    rw [hfront] at happ
    exact happ.symm
  · rw [List.head?_drop, ← h _ (Nat.le_refl _), List.getElem?_append_right (Nat.le_refl _), Nat.sub_self, List.head?_eq_getElem?]

/-- One character of lookahead is all that is ever used. Where any number of turns leave a scanner,
    another source that agrees with the first up to that place and on the character there is read
    alike: the same tokens, and the scanner at the same place on the same character. -/
theorem lookahead_one (source other : String) (k : Nat) :
    let start := ofString source
    let s := start.after (start.turnsExactly k)
    let start' := ofString other
    let s' := start'.after (start'.turnsExactly k)
    (∀ i ≤ s.position, source.toList[i]? = other.toList[i]?) →
      (start'.turnsExactly k).map Turn.token = (start.turnsExactly k).map Turn.token ∧
        s'.position = s.position ∧ s'.current = s.current := by
  intro start s start' s' hagree
  obtain ⟨front, rest, hsource, hturns⟩ := turnsExactly_rest k [] source.toList
  have hs : s = between front rest := by
    have hself := (hturns rest rfl).2
    rw [← hsource, ← ofString_eq_between] at hself
    exact hself
  rw [hs, position_between, hsource] at hagree
  obtain ⟨rest', hother, hhead⟩ := exists_rest_of_agree hagree
  obtain ⟨htokens, hafter⟩ := hturns rest' hhead
  rw [← hother, ← ofString_eq_between, ← ofString_eq_between] at htokens
  rw [← hother, ← ofString_eq_between] at hafter
  have hs' : s' = between front rest' := hafter
  rw [hs, hs']
  exact ⟨htokens, rfl, hhead⟩

/-- The two sources part behind the digit on which two turns leave the scanner. -/
theorem lookahead_one_parting :
    let start := ofString "ab =1 x"
    let s := start.after (start.turnsExactly 2)
    let start' := ofString "ab =1== é"
    let s' := start'.after (start'.turnsExactly 2)
    (∀ i ≤ s.position, "ab =1 x".toList[i]? = "ab =1== é".toList[i]?) ∧ s.position = 4 ∧
      (start'.turnsExactly 2).map Turn.token = [⟨.identifier, "ab"⟩, ⟨.assign, "="⟩] ∧
      s'.position = 4 ∧ s'.current = some '1' := by
  intro start s start' s'
  have hpos : s.position = 4 := by decide +kernel
  have hagree : ∀ i ≤ s.position, "ab =1 x".toList[i]? = "ab =1== é".toList[i]? := by rw [hpos]; decide +kernel
  obtain ⟨htokens, hposition, hcurrent⟩ := lookahead_one "ab =1 x" "ab =1== é" 2 hagree
  exact ⟨hagree, hpos, htokens.trans (by decide +kernel), hposition.trans hpos, hcurrent.trans (by decide +kernel)⟩

/-- Less would not do: up to the place behind the mark these sources agree. -/
example : (ofString "!").turn.token ≠ (ofString "!=").turn.token ∧ (ofString "!").turn.after.position = 1 := by decide +kernel

end Scanner

end Munch
