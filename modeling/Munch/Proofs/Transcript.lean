/-
  Munch.Proofs.Transcript — the log of reading says what was read: every token once, in order,
  and of a whole source the two counts at last.

  A turn that reads a lexeme records it, whichever way the lexeme was read, and a turn that
  reads the end records nothing (`events_turn`). So turns record the lexemes they read
  (`events_turnsExactly`), and these are the first so many of what is pending
  (`lexemes_turnsExactly`), all of it when there are enough turns and never more.

  Tokens are recorded at `trace` and the counts at `debug`, so a limit shows all of these records,
  the counts alone, or nothing (`shown_scanned`, `shown_tokenized`).
-/

import Munch.Proofs.Pending

namespace Munch

structure Record where
  level : Level
  target : String
  message : String
  deriving DecidableEq, Repr

def Event.record (e : Event) : Record := ⟨e.level, e.target, e.message⟩

namespace Scanner

/-! ## Turns -/

/-- Where a character stands, a lexeme is read, and recorded. -/
theorem exists_read {s : Scanner} {c : Char} (h : s.current = some c) : ∃ t after, s.lexeme = .read t after := by
  unfold lexeme
  simp only [h]
  split
  · exact ⟨_, _, rfl⟩
  · split
    · exact ⟨_, _, rfl⟩
    · split <;> exact ⟨_, _, rfl⟩

theorem events_turn (s : Scanner) : s.turn.events = if s.turn.isEnd then [] else [.scanned s.turn.token] := by
  cases he : s.turn.isEnd with
  | true => rw [turn_of_isEnd he, if_pos rfl]
  | false =>
    have hc : (s.skipWhile isGap).current ≠ none := fun hc => by
      rw [turn, isEnd_lexeme_iff.mpr hc] at he
      cases he
    obtain ⟨c, hc⟩ := Option.ne_none_iff_exists'.mp hc
    obtain ⟨t, after, hread⟩ := exists_read hc
    have hturn : s.turn = .read t after := hread
    rw [hturn]
    rfl

theorem events_turnsExactly (k : Nat) (s : Scanner) :
    (s.turnsExactly k).flatMap Turn.events = (Turn.lexemes (s.turnsExactly k)).map .scanned := by
  induction k generalizing s with
  | zero => rfl
  | succ k ih =>
    rw [turnsExactly_succ, List.flatMap_cons, events_turn, ih, lexemes_cons, List.map_append]
    cases s.turn.isEnd <;> rfl

theorem lexemes_turnsExactly (k : Nat) (s : Scanner) : Turn.lexemes (s.turnsExactly k) = s.pending.take k := by
  induction k generalizing s with
  | zero => rfl
  | succ k ih =>
    rw [turnsExactly_succ, lexemes_cons, ih]
    cases he : s.turn.isEnd with
    | true => rw [pending_of_isEnd he, pending_after_of_isEnd he, List.take_nil, List.take_nil]; rfl
    | false => rw [pending_of_not_isEnd he]; rfl

/-! ## A whole source -/

theorem length_turnsToEnd (s : Scanner) : s.turnsToEnd.length = s.pending.length + 1 := by
  have htokens := congrArg List.length (tokens_turnsToEnd_eq s)
  rwa [List.length_map, List.length_append, List.length_singleton] at htokens

theorem events_scan (source : String) :
    (scan source).events = (ofString source).pending.map .scanned ++
      [.tokenized source.length ((ofString source).pending.length + 1)] := by
  obtain ⟨k, hk⟩ := turnsUntil_eq_turnsExactly (fun _ => false) (ofString source)
  have hturns : (ofString source).turnsToEnd = (ofString source).turnsExactly k := hk
  have hevents := events_turnsExactly k (ofString source)
  rw [← hturns] at hevents
  rw [scan, length_turnsToEnd, hevents]
  rfl

end Scanner

/-! ## What is shown -/

theorem admits_trace_iff (limit : Limit) : limit.admits .trace = true ↔ limit = .upTo .trace := by
  cases limit with
  | off => decide
  | upTo level => cases level <;> decide

theorem shown_scanned (limit : Limit) (tokens : List Token) :
    shown limit (tokens.map .scanned) = if limit = .upTo .trace then tokens.map .scanned else [] := by
  split
  · rename_i h
    refine List.filter_eq_self.mpr fun e he => ?_
    obtain ⟨t, -, rfl⟩ := List.mem_map.mp he
    exact (admits_trace_iff limit).mpr h
  · rename_i h
    refine List.filter_eq_nil_iff.mpr fun e he hadmits => ?_
    obtain ⟨t, -, rfl⟩ := List.mem_map.mp he
    exact h ((admits_trace_iff limit).mp hadmits)

theorem shown_tokenized (limit : Limit) (tokens : List Token) (characters count : Nat) :
    shown limit (tokens.map .scanned ++ [.tokenized characters count]) =
      match limit with
      | .upTo .trace => tokens.map .scanned ++ [.tokenized characters count]
      | .upTo .debug => [.tokenized characters count]
      | _ => [] := by
  have happ : shown limit (tokens.map .scanned ++ [.tokenized characters count]) =
      shown limit (tokens.map .scanned) ++ shown limit [.tokenized characters count] := List.filter_append _ _
  rw [happ, shown_scanned]
  cases limit with
  | off => rfl
  | upTo level => cases level <;> rfl

/-- However many turns are taken from a source, also past its end, they record its tokens one by one, each once,
    and not the end; and reading all of it records all its tokens, then how many characters and tokens there
    are. Of these records a limit shows all, the counts, or none. -/
theorem transcript_faithful (source : String) :
    ∃ tokens, tokenize source = tokens ++ [.endOfInput] ∧ (∀ t ∈ tokens, t.kind ≠ .endOfInput) ∧
      let log := fun limit events => (shown limit events).map Event.record
      let turns := fun k => ((Scanner.ofString source).turnsExactly k).flatMap Turn.events
      let scanned := fun t : Token => Record.mk .trace "tinylex::lexer::scanner" ("scanned " ++ t.display)
      let counted := Record.mk .debug "tinylex::lexer::scanner"
        ("tokenized " ++ source.length.repr ++ " characters into " ++ (tokens.length + 1).repr ++ " tokens")
      (∀ k, (turns k).map Event.record = (tokens.take k).map scanned) ∧
        (scan source).events.map Event.record = tokens.map scanned ++ [counted] ∧
        ∀ limit,
          (∀ k, log limit (turns k) = if limit = .upTo .trace then (tokens.take k).map scanned else []) ∧
            log limit (scan source).events =
              match limit with
              | .upTo .trace => tokens.map scanned ++ [counted]
              | .upTo .debug => [counted]
              | _ => [] := by
  refine ⟨(Scanner.ofString source).pending, Scanner.tokenize_eq_pending source, Scanner.kind_ne_of_mem_pending, ?_⟩
  intro log turns scanned counted
  have hturns : ∀ k, turns k = ((Scanner.ofString source).pending.take k).map .scanned := fun k =>
    (Scanner.events_turnsExactly k _).trans (congrArg _ (Scanner.lexemes_turnsExactly k _))
  have hscanned : ∀ tokens : List Token, (tokens.map Event.scanned).map Event.record = tokens.map scanned := fun tokens =>
    List.map_map
  refine ⟨fun k => by rw [hturns, hscanned], ?_, fun limit => ⟨fun k => ?_, ?_⟩⟩
  · rw [Scanner.events_scan, List.map_append, hscanned]
    rfl
  · show (shown limit (turns k)).map Event.record = _
    rw [hturns, shown_scanned, apply_ite (List.map Event.record), hscanned]
    rfl
  · show (shown limit (scan source).events).map Event.record = _
    rw [Scanner.events_scan, shown_tokenized]
    cases limit with
    | off => rfl
    | upTo level =>
      cases level with
      | trace => simp only [List.map_append, hscanned]; rfl
      | _ => rfl

/-- Two tokens and five turns. -/
example : (((Scanner.ofString "a =\n").turnsExactly 5).flatMap Turn.events).map Event.message =
    ["scanned IDENT \"a\"", "scanned = \"=\""] := by decide +kernel

end Munch
