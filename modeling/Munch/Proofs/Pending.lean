/-
  Munch.Proofs.Pending — a scanner is a queue of the lexemes it has still to read. Reading
  lazily, in any mixture of requests, on any number of scanners, after early stops and past
  the end, cannot be told from taking tokens off lists that were filled beforehand.

  `pending` is what a scanner has still to read. It commutes with a turn
  (`pending_of_not_isEnd`, `pending_after_of_isEnd`), so with turns up to a number
  (`pending_turnsUpTo`) and until a kind (`pending_turnsUntil`), so with every request
  (`run_pending`); and a view that commutes with every request keeps all answers of all
  sessions (`Machine.Refines.session_eq`). No invariant of the cursor is needed: `pending`
  is a view of every scanner, whether a source leads to it or not.
-/

import Munch.Proofs.Run

namespace Munch

/-! ## Machines that answer alike -/

/-- How the states of one machine are read as states of another that answers the same. -/
structure Machine.Refines {σ τ : Type} (m : Machine σ) (n : Machine τ) where
  view : σ → τ
  view_start : ∀ source, view (m.start source) = n.start source
  run_view : ∀ r s, n.run r (view s) = ((m.run r s).1, view (m.run r s).2)

/-- By induction on the steps: each is answered alike, and leaves states that are again read alike. -/
theorem Machine.Refines.session_eq {σ τ : Type} {m : Machine σ} {n : Machine τ} (h : m.Refines n) (states : List σ)
    (steps : List (Nat × Request)) : m.session states steps = n.session (states.map h.view) steps := by
  induction steps generalizing states with
  | nil => rfl
  | cons step steps ih =>
    obtain ⟨i, r⟩ := step
    simp only [Machine.session, List.getElem?_map]
    cases states[i]? with
    | none => exact ih states
    | some s => simp only [Option.map_some, h.run_view, ih, List.map_set]

/-! ## Queues -/

theorem Queue.dropThrough_of_forall_ne {kind : Kind} {queue : List Token} (h : ∀ t ∈ queue, t.kind ≠ kind) :
    dropThrough kind queue = [] := by
  induction queue with
  | nil => rfl
  | cons t rest ih =>
    rw [dropThrough, if_neg (h t List.mem_cons_self)]
    exact ih fun u hu => h u (List.mem_cons_of_mem t hu)

/-- Looking for a kind that is not there finds nothing and uses a queue up. -/
theorem Queue.run_find_of_forall_ne {kind : Kind} {queue : List Token} (h : ∀ t ∈ queue, t.kind ≠ kind) :
    run (.find kind) queue = (.found none, []) := by
  have hfind : queue.find? (fun t => t.kind == kind) = none := List.find?_eq_none.mpr fun t ht => by simpa using h t ht
  rw [run, hfind, dropThrough_of_forall_ne h]

namespace Scanner

/-! ## What is pending -/

def pending (s : Scanner) : List Token := Turn.lexemes s.turnsToEnd

theorem pending_of_isEnd {s : Scanner} (h : s.turn.isEnd = true) : s.pending = [] := by
  rw [pending, turnsToEnd_of_isEnd h, lexemes_cons, h]; rfl

theorem pending_of_not_isEnd {s : Scanner} (h : s.turn.isEnd = false) :
    s.pending = s.turn.token :: s.turn.after.pending := by
  rw [pending, turnsToEnd_of_not_isEnd h, lexemes_cons, h]; rfl

theorem pending_after_of_isEnd {s : Scanner} (h : s.turn.isEnd = true) : s.turn.after.pending = [] :=
  pending_of_isEnd (by rw [turn_after_of_isEnd h, h])

theorem kind_ne_of_mem_pending {s : Scanner} : ∀ t ∈ s.pending, t.kind ≠ .endOfInput := by
  intro t ht
  have hend : t.isEnd = false := (mem_lexemes.mp ht).2
  intro hk
  rw [Token.isEnd_iff.mpr hk] at hend
  cases hend

theorem tokens_turnsToEnd_eq (s : Scanner) : s.turnsToEnd.map Turn.token = s.pending ++ [.endOfInput] := by
  induction s using reading_induction with
  | h s ih =>
    cases he : s.turn.isEnd with
    | true => rw [turnsToEnd_of_isEnd he, pending_of_isEnd he, turn_of_isEnd he]; rfl
    | false => rw [turnsToEnd_of_not_isEnd he, pending_of_not_isEnd he, List.map_cons, ih he, List.cons_append]

/-- The tokens of a source are what is pending on a new scanner, and the end. -/
theorem tokenize_eq_pending (source : String) : tokenize source = (ofString source).pending ++ [.endOfInput] :=
  tokens_turnsToEnd_eq (ofString source)

theorem tokenize_ne_nil (source : String) : tokenize source ≠ [] := by
  rw [tokenize_eq_pending]
  exact List.concat_ne_nil _ _

theorem pending_ofString (source : String) : (ofString source).pending = Queue.ofString source := by
  rw [Queue.ofString, tokenize_eq_pending, List.dropLast_concat]

/-! ## Turns take pending lexemes -/

theorem pending_turnsUpTo (n : Nat) (s : Scanner) :
    Turn.lexemes (s.turnsUpTo n) = s.pending.take n ∧ (s.after (s.turnsUpTo n)).pending = s.pending.drop n := by
  induction n generalizing s with
  | zero => exact ⟨rfl, rfl⟩
  | succ n ih =>
    rw [turnsUpTo_succ]
    cases he : s.turn.isEnd with
    | true =>
      rw [if_pos rfl, lexemes_cons, he, pending_of_isEnd he, after_cons, after_nil, pending_after_of_isEnd he]
      exact ⟨rfl, rfl⟩
    | false =>
      obtain ⟨hread, hleft⟩ := ih s.turn.after
      rw [if_neg Bool.false_ne_true, lexemes_cons, he, pending_of_not_isEnd he, after_cons, hread, hleft]
      exact ⟨rfl, rfl⟩

theorem pending_turnsUntil (kind : Kind) (s : Scanner) :
    let turns := s.turnsUntil fun t => t.kind == kind
    (Turn.lexemes turns).find? (fun t => t.kind == kind) = s.pending.find? (fun t => t.kind == kind) ∧
      (s.after turns).pending = Queue.dropThrough kind s.pending := by
  induction s using reading_induction with
  | h s ih =>
    rw [turnsUntil_eq]
    cases he : s.turn.isEnd with
    | true =>
      rw [if_pos (by rw [stops, he, Bool.true_or])]
      simp only [lexemes_cons, he, if_true, pending_of_isEnd he, after_cons, after_nil, pending_after_of_isEnd he]
      exact ⟨rfl, rfl⟩
    | false =>
      rw [pending_of_not_isEnd he]
      by_cases hk : s.turn.token.kind = kind
      · rw [if_pos (by simp [stops, hk])]
        have hread : Turn.lexemes [s.turn] = [s.turn.token] := by rw [lexemes_cons, he]; rfl
        simp [hread, hk, Queue.dropThrough]
      · obtain ⟨hfind, hleft⟩ := ih he
        rw [if_neg (by simp [stops, he, hk])]
        simp [lexemes_cons, he, hk, hfind, hleft, Queue.dropThrough]

theorem pending_turnsToEnd (s : Scanner) : (s.after s.turnsToEnd).pending = [] := by
  induction s using reading_induction with
  | h s ih =>
    cases he : s.turn.isEnd with
    | true => rw [turnsToEnd_of_isEnd he, after_cons, after_nil, pending_after_of_isEnd he]
    | false => rw [turnsToEnd_of_not_isEnd he, after_cons, ih he]

/-! ## Requests take pending lexemes -/

/-- Every request to a scanner is the same request to the list of what is pending on it. -/
theorem run_pending (r : Request) (s : Scanner) :
    Queue.run r s.pending = ((machine.run r s).1, (machine.run r s).2.pending) := by
  cases r with
  | nextToken =>
    rw [run_nextToken]
    cases he : s.turn.isEnd with
    | true => rw [pending_of_isEnd he, pending_after_of_isEnd he, turn_of_isEnd he]; rfl
    | false => rw [pending_of_not_isEnd he]; rfl
  | next =>
    rw [run_next]
    cases he : s.turn.isEnd with
    | true => rw [pending_of_isEnd he, pending_after_of_isEnd he]; rfl
    | false => rw [pending_of_not_isEnd he]; rfl
  | nth n =>
    obtain ⟨hread, hleft⟩ := pending_turnsUpTo (n + 1) s
    simp only [machine, Request.answer, Request.turns, Request.after, hread, hleft, Queue.run,
      List.getElem?_take_of_lt n.lt_succ_self]
  | take n =>
    obtain ⟨hread, hleft⟩ := pending_turnsUpTo n s
    simp only [machine, Request.answer, Request.turns, Request.after, hread, hleft, Queue.run]
  | find kind =>
    obtain ⟨hfind, hleft⟩ := pending_turnsUntil kind s
    simp only [machine, Request.answer, Request.turns, Request.after, hfind, hleft, Queue.run]
  | rest =>
    have hleft := pending_turnsToEnd s
    simp only [machine, Request.answer, Request.turns, Request.after, hleft, Queue.run]
    rfl
  | count =>
    have hleft := pending_turnsToEnd s
    simp only [machine, Request.answer, Request.turns, Request.after, hleft, Queue.run]
    rfl
  | renew source =>
    simp only [machine, Request.answer, Request.after, pending_ofString, Queue.run]

def refinesQueue : machine.Refines Queue.machine := ⟨pending, pending_ofString, run_pending⟩

/-- Requests to scanners, however mixed, are answered as the lists of the sources' tokens
    answer them. In particular a whole source is what is collected from a scanner, and the
    end; and who looks for the end finds nothing and leaves nothing. -/
theorem session_eq_queue (sources : List String) (steps : List (Nat × Request)) :
    machine.session (sources.map machine.start) steps =
        Queue.machine.session (sources.map Queue.machine.start) steps ∧
      (∀ source, ∃ read, (machine.run .rest (machine.start source)).1 = .tokens read ∧
        tokenize source = read ++ [.endOfInput]) ∧
      ∀ s, (machine.run (.find .endOfInput) s).1 = .found none ∧
        (machine.run .rest (machine.run (.find .endOfInput) s).2).1 = .tokens [] := by
  refine ⟨?_, fun source => ⟨(ofString source).pending, rfl, tokenize_eq_pending source⟩, fun s => ?_⟩
  · rw [refinesQueue.session_eq, List.map_map]
    congr 1
    exact List.map_congr_left fun source _ => refinesQueue.view_start source
  · have hrun := (run_pending (.find .endOfInput) s).symm.trans (Queue.run_find_of_forall_ne kind_ne_of_mem_pending)
    obtain ⟨hanswer, hleft⟩ := Prod.mk.inj hrun
    exact ⟨hanswer, congrArg Answer.tokens hleft⟩

example : machine.session [ofString "a b == c"] [(0, .take 1), (0, .find .equal), (0, .nextToken), (0, .nth 0), (0, .nextToken)] =
    [.tokens [⟨.identifier, "a"⟩], .found (some ⟨.equal, "=="⟩), .token ⟨.identifier, "c"⟩, .found none, .token .endOfInput] := by
  decide +kernel

end Scanner

end Munch
