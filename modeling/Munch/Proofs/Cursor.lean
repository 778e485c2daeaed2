/-
  Munch.Proofs.Cursor — the cursor never leaves the text, and no check that its moves take
  for granted could fail.

  Three things can go wrong when a cursor moves: it stands on no character and is moved past
  the end, a counter passes the largest number there is (`limit`), or a slice is taken that
  does not lie in the text. The checked scanner makes each of them a fault that ends the run,
  and what goes well goes as it does unchecked. Only the move that loads the first character of
  a new scanner needs no character to start from.

  A scanner is coherent with a source when its text is that source, it stands in it or right
  behind it, and its other two fields follow from where it stands (`Coherent`). Moving to the
  next character keeps that only from a character: behind the text it would not. So the
  question is what moves there are. `Advances s t` says that `t` comes from `s` by moves that
  each start on a character. Every loop, every branch of a turn and every request is of that
  form (`advances_skipWhile`, `advances_lexeme`, `advances_run`), and such moves keep
  coherence and never go back (`Coherent.of_advances`).

  The checked scanner does the same moves: from a coherent scanner, over a source shorter than
  the limit of its counters, every check holds (`checked_advance`, `checked_slice`), so a
  checked turn is the turn (`checked_turn`), and so for any number of turns
  (`checked_turnsExactly`).
-/

import Munch.Proofs.Account

namespace Munch

/-! ## The checked scanner -/

inductive Fault where
  /-- The cursor was moved although it stood on no character. -/
  | pastEnd
  /-- A counter passed the limit. -/
  | overflow
  /-- A slice does not lie in the text. -/
  | outside
  deriving DecidableEq, Repr

namespace Checked

variable (limit : Nat)

/-- Moves to the next character; the counter that is raised must have room. -/
def load (s : Scanner) : Except Fault Scanner :=
  if s.readPosition < limit then .ok s.advance else .error .overflow

def ofString (source : String) : Except Fault Scanner := load limit ⟨source.toList.toArray, 0, 0, none⟩

def advance (s : Scanner) : Except Fault Scanner :=
  if s.current.isSome then load limit s else .error .pastEnd

theorem eq_advance_of_ok {s next : Scanner} (h : advance limit s = .ok next) : next = s.advance := by
  unfold advance load at h
  split at h
  · split at h <;> cases h
    rfl
  · cases h

def skipWhile (p : Char → Bool) (s : Scanner) : Except Fault Scanner :=
  match _h : s.current with
  | some c =>
    if p c then
      match _hs : advance limit s with
      | .ok next => skipWhile p next
      | .error fault => .error fault
    else .ok s
  | none => .ok s
termination_by s.ahead
decreasing_by
  rw [eq_advance_of_ok limit _hs]
  exact Scanner.ahead_advance_lt _h

theorem skipWhile_of_current {p : Char → Bool} {s next : Scanner} {c : Char} (h : s.current = some c) (hp : p c = true)
    (hs : advance limit s = .ok next) : skipWhile limit p s = skipWhile limit p next := by
  rw [skipWhile]
  split
  · rename_i d hd
    rw [h] at hd
    injection hd with hd
    rw [← hd, if_pos hp]
    split
    · rename_i next' hs'
      rw [hs] at hs'
      injection hs' with hs'
      rw [hs']
    · rename_i fault hs'
      rw [hs] at hs'
      cases hs'
  · rename_i hn
    rw [h] at hn
    cases hn

theorem skipWhile_of_stop {p : Char → Bool} {s : Scanner} (h : ∀ c ∈ s.current, p c = false) :
    skipWhile limit p s = .ok s := by
  rw [skipWhile]
  split
  · rename_i c hc
    rw [h c hc]
    rfl
  · rfl

def slice (s : Scanner) (stop : Nat) : Except Fault String :=
  if s.position ≤ stop ∧ stop ≤ s.text.size then .ok (s.slice stop) else .error .outside

def readWhile (p : Char → Bool) (s : Scanner) : Except Fault (String × Scanner) := do
  let after ← skipWhile limit p s
  let run ← slice s after.position
  return (run, after)

def lexeme (s : Scanner) : Except Fault Turn :=
  match s.current with
  | none => return ⟨.endOfInput, [], s⟩
  | some c =>
    if isLetter c then do
      let (word, after) ← readWhile limit isLetter s
      return .read ⟨.ofWord word, word⟩ after
    else if isDigit c then do
      let (numeral, after) ← readWhile limit isDigit s
      return .read ⟨.integer, numeral⟩ after
    else
      match Kind.ofPair? c s.peek with
      | some kind => do
        let second ← advance limit s
        let after ← advance limit second
        return .read ⟨kind, String.ofList [c, '=']⟩ after
      | none => do
        let after ← advance limit s
        return .read (.ofChar ((Kind.ofMark? c).getD .illegal) c) after

def turn (s : Scanner) : Except Fault Turn := do
  lexeme limit (← skipWhile limit isGap s)

/-- `n` turns from `s` on, whatever they read, unless there is a fault. -/
def turnsExactly : Nat → Scanner → Except Fault (List Turn)
  | 0, _ => return []
  | n + 1, s => do
    let t ← turn limit s
    let rest ← turnsExactly n t.after
    return t :: rest

end Checked

namespace Scanner

/-! ## Coherence -/

structure Coherent (source : String) (s : Scanner) : Prop where
  text_eq : s.text = source.toList.toArray
  readPosition_eq : s.readPosition = s.position + 1
  position_le : s.position ≤ s.text.size
  current_eq : s.current = s.text[s.position]?

namespace Coherent

variable {source : String} {s : Scanner} {c : Char}

theorem ofString (source : String) : Coherent source (Scanner.ofString source) :=
  ⟨rfl, rfl, Nat.zero_le _, rfl⟩

theorem size_eq (h : Coherent source s) : s.text.size = source.length := by
  rw [h.text_eq, List.size_toArray, String.length_toList]

/-- A scanner that stands on a character stands in the text. -/
theorem position_lt (h : Coherent source s) (hc : s.current = some c) : s.position < s.text.size := by
  rw [h.current_eq] at hc
  exact (Array.getElem?_eq_some_iff.mp hc).1

theorem readPosition_le (h : Coherent source s) : s.readPosition ≤ source.length + 1 := by
  have hle := h.position_le
  rw [h.size_eq] at hle
  rw [h.readPosition_eq]
  omega

theorem advance (h : Coherent source s) (hc : s.current = some c) : Coherent source s.advance where
  text_eq := h.text_eq
  readPosition_eq := rfl
  position_le := by
    have hlt := h.position_lt hc
    show s.readPosition ≤ s.text.size
    rw [h.readPosition_eq]
    omega
  current_eq := rfl

end Coherent

/-! ## Moves -/

/-- `t` comes from `s` by advancing, every time from a character. -/
inductive Advances : Scanner → Scanner → Prop
  | refl (s : Scanner) : Advances s s
  | advance {s t : Scanner} {c : Char} : s.current = some c → Advances s.advance t → Advances s t

namespace Advances

variable {s t u : Scanner}

theorem single {c : Char} (hc : s.current = some c) : Advances s s.advance := .advance hc (.refl _)

theorem trans (hst : Advances s t) (htu : Advances t u) : Advances s u := by
  induction hst with
  | refl s => exact htu
  | advance hc _ ih => exact .advance hc (ih htu)

end Advances

theorem Coherent.of_advances {source : String} {s t : Scanner} (hst : Advances s t) (h : Coherent source s) :
    Coherent source t ∧ s.position ≤ t.position := by
  induction hst with
  | refl s => exact ⟨h, Nat.le_refl _⟩
  | @advance s t c hc _ ih =>
    obtain ⟨ht, hle⟩ := ih (h.advance hc)
    have hnext : s.advance.position = s.position + 1 := h.readPosition_eq
    exact ⟨ht, by omega⟩

theorem advances_skipWhile (p : Char → Bool) (s : Scanner) : Advances s (s.skipWhile p) := by
  fun_induction skipWhile p s with
  | case1 s c hc hp ih => exact .advance hc ih
  | case2 s => exact .refl s
  | case3 s => exact .refl s

theorem advances_lexeme (s : Scanner) : Advances s s.lexeme.after := by
  unfold lexeme
  split
  · exact .refl s
  · rename_i c hc
    split
    · exact advances_skipWhile isLetter s
    · split
      · exact advances_skipWhile isDigit s
      · split
        · rename_i hk
          have hsecond : s.advance.current = some '=' := peek_of_ofPair? hk
          exact .advance hc (.single hsecond)
        · exact .single hc

theorem advances_turn (s : Scanner) : Advances s s.turn.after :=
  (advances_skipWhile isGap s).trans (advances_lexeme _)

theorem advances_turnsExactly (k : Nat) (s : Scanner) : Advances s (s.after (s.turnsExactly k)) := by
  induction k generalizing s with
  | zero => exact .refl s
  | succ k ih =>
    rw [turnsExactly_succ, after_cons]
    exact (advances_turn s).trans (ih _)

theorem advances_run {r : Request} (h : r.renews = false) (s : Scanner) : Advances s (machine.run r s).2 := by
  obtain ⟨k, hk⟩ := r.turns_eq_turnsExactly s
  rw [after_eq h, hk]
  exact advances_turnsExactly k s

theorem advances_afterAll {rs : List Request} (h : ∀ r ∈ rs, r.renews = false) (s : Scanner) :
    Advances s (s.afterAll rs) := by
  induction rs generalizing s with
  | nil => exact .refl s
  | cons r rs ih =>
    exact (advances_run (h r List.mem_cons_self) s).trans (ih (fun q hq => h q (List.mem_cons_of_mem r hq)) _)

/-! ## Checks -/

section Checked

variable {source : String} {limit : Nat} {s : Scanner}

theorem checked_ofString (hlimit : source.length < limit) : Checked.ofString limit source = .ok (ofString source) :=
  if_pos (Nat.lt_of_le_of_lt (Nat.zero_le _) hlimit)

theorem checked_advance (hlimit : source.length < limit) (h : Coherent source s) {c : Char} (hc : s.current = some c) :
    Checked.advance limit s = .ok s.advance := by
  have hroom : s.readPosition < limit := by
    have hlt := h.position_lt hc
    rw [h.size_eq] at hlt
    rw [h.readPosition_eq]
    omega
  have hsome : s.current.isSome = true := by rw [hc]; rfl
  rw [Checked.advance, if_pos hsome, Checked.load, if_pos hroom]

theorem checked_skipWhile (hlimit : source.length < limit) (h : Coherent source s) (p : Char → Bool) :
    Checked.skipWhile limit p s = .ok (s.skipWhile p) := by
  fun_induction skipWhile p s with
  | case1 s c hc hp ih =>
    rw [Checked.skipWhile_of_current limit hc hp (checked_advance hlimit h hc)]
    exact ih (h.advance hc)
  | case2 s c hc hp => exact Checked.skipWhile_of_stop limit (by simpa [hc] using hp)
  | case3 s hc => exact Checked.skipWhile_of_stop limit (by simp [hc])

/-- A run is sliced from where it began to where the cursor stands behind it. -/
theorem checked_slice (h : Coherent source s) {t : Scanner} (hst : Advances s t) :
    Checked.slice s t.position = .ok (s.slice t.position) := by
  obtain ⟨ht, hle⟩ := h.of_advances hst
  have hin : t.position ≤ s.text.size := by rw [h.size_eq, ← ht.size_eq]; exact ht.position_le
  rw [Checked.slice, if_pos ⟨hle, hin⟩]

theorem checked_readWhile (hlimit : source.length < limit) (h : Coherent source s) (p : Char → Bool) :
    Checked.readWhile limit p s = .ok (s.readWhile p) := by
  rw [Checked.readWhile, checked_skipWhile hlimit h]
  show (Checked.slice s (s.skipWhile p).position >>= fun run => pure (run, s.skipWhile p)) = _
  rw [checked_slice h (advances_skipWhile p s)]
  rfl

theorem checked_lexeme (hlimit : source.length < limit) (h : Coherent source s) :
    Checked.lexeme limit s = .ok s.lexeme := by
  unfold Checked.lexeme lexeme
  cases hc : s.current with
  | none => rfl
  | some c =>
    simp only
    split
    · rw [checked_readWhile hlimit h]; rfl
    · split
      · rw [checked_readWhile hlimit h]; rfl
      · cases hk : Kind.ofPair? c s.peek with
        | some kind =>
          have hsecond : s.advance.current = some '=' := peek_of_ofPair? hk
          rw [checked_advance hlimit h hc]
          show (Checked.advance limit s.advance >>= fun after => pure (Turn.read ⟨kind, String.ofList [c, '=']⟩ after)) = _
          rw [checked_advance hlimit (h.advance hc) hsecond]
          rfl
        | none => rw [checked_advance hlimit h hc]; rfl

theorem checked_turn (hlimit : source.length < limit) (h : Coherent source s) :
    Checked.turn limit s = .ok s.turn := by
  rw [Checked.turn, checked_skipWhile hlimit h]
  exact checked_lexeme hlimit (h.of_advances (advances_skipWhile isGap s)).1

theorem checked_turnsExactly (hlimit : source.length < limit) (h : Coherent source s) (k : Nat) :
    Checked.turnsExactly limit k s = .ok (s.turnsExactly k) := by
  induction k generalizing s with
  | zero => rfl
  | succ k ih =>
    rw [Checked.turnsExactly, checked_turn hlimit h]
    show (Checked.turnsExactly limit k s.turn.after >>= fun rest => pure (s.turn :: rest)) = _
    rw [ih (h.of_advances (advances_turn s)).1, turnsExactly_succ]
    rfl

end Checked

/-! ## Whatever is asked -/

/-- After any requests, also past the end: the cursor is coherent with the source; a further
    request only moves it on, from one character after the other; and if the source is
    shorter than the limit of the counters, neither making the scanner nor any number of
    further turns meets a fault. -/
theorem cursor_coherent (source : String) (limit : Nat) (hlimit : source.length < limit) (rs : List Request)
    (h : ∀ r ∈ rs, r.renews = false) :
    let s := (ofString source).afterAll rs
    Coherent source s ∧ s.readPosition ≤ source.length + 1 ∧
      (∀ r : Request, r.renews = false →
        Advances s (machine.run r s).2 ∧ s.position ≤ (machine.run r s).2.position) ∧
      Checked.ofString limit source = .ok (ofString source) ∧
      ∀ k, Checked.turnsExactly limit k s = .ok (s.turnsExactly k) := by
  intro s
  have hs : Coherent source s := ((Coherent.ofString source).of_advances (advances_afterAll h _)).1
  have hmoves : ∀ r : Request, r.renews = false →
      Advances s (machine.run r s).2 ∧ s.position ≤ (machine.run r s).2.position := by
    intro r hr
    have ha : Advances s (machine.run r s).2 := advances_run hr s
    exact ⟨ha, (hs.of_advances ha).2⟩
  exact ⟨hs, hs.readPosition_le, hmoves, checked_ofString hlimit, checked_turnsExactly hlimit hs⟩

/-- The limit is the least that will do, and the last requests are made behind the end. -/
theorem cursor_coherent_past_end :
    let rs := [.next, .nth 1, .nextToken, .next, .nextToken]
    let s := (ofString "x1 !=").afterAll rs
    "x1 !=".length < 6 ∧ (∀ r ∈ rs, r.renews = false) ∧
      Coherent "x1 !=" s ∧ s.position = 5 ∧ s.readPosition ≤ 6 ∧ 5 ≤ (machine.run .next s).2.position ∧
      Checked.turnsExactly 6 3 s = .ok (s.turnsExactly 3) := by
  intro rs s
  have hlimit : "x1 !=".length < 6 := by decide
  have hrs : ∀ r ∈ rs, r.renews = false := by decide
  obtain ⟨hs, hread, hmoves, -, hturns⟩ := cursor_coherent "x1 !=" 6 hlimit rs hrs
  have hpos : s.position = 5 := by decide +kernel
  have hnext : 5 ≤ (machine.run .next s).2.position := hpos ▸ (hmoves .next rfl).2
  exact ⟨hlimit, hrs, hs, hpos, hread, hnext, hturns 3⟩

/-- A counter that stops at the source's length has no room for the last character. -/
example : Checked.turnsExactly 5 3 (ofString "x1 !=") = .error .overflow := by cbv

/-- Behind the text there is no further move. -/
example : Checked.advance 9 (between ['x'] []) = .error .pastEnd := rfl

end Scanner

end Munch
