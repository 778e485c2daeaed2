/-
  Munch.Proofs.QuotedText — quoted text is read back, and so is what is put together from it:
  a dump, and the message of a refused stream.

  A character is written in one of three ways (`escape_cases`), and each is read as that character
  and nothing more (`readFrom?_escape`). So quoted text is read back whatever follows it
  (`read?_encode`), and tells where it ends (`encode_append_inj`). No way of writing a character
  holds one that is unprintable (`isUnprintable_eq_false_of_mem_escape`), so quoted text stands on
  one line (`lineFeed_not_mem_encode`).

  A line feed stands in a dump only between two lines, whatever the texts hold: not in an index, nor
  in a name, nor in quoted text. So cutting at the line feeds gives the lines (`splitOn_dump`). In a
  line the first colon ends the index, since an index is blanks and digits; the first space behind
  it ends the name; and the quoted text is the rest (`readLine?_dumpLine`). Together: `dump_decodes`.

  What the refusal of a stream says tells how many characters were illegal and which they were
  (`message_illegalCharacters_inj`). The count ends at its last digit. Behind it stands a list of
  quoted texts: the first, then each of the others behind a comma and a blank
  (`toList_quotedList_cons`). Two lists that read the same begin with the same text and go on
  the same, and nothing that a text holds passes for the end of one text and the beginning of the
  next.
-/

import Munch.Proofs.Grammar
import Munch.Token.Dump

namespace Munch

namespace Quoted

/-! ## One character -/

/-- How a character can be written, and nothing else. -/
theorem escape_cases (c : Char) :
    (∃ d, d ≠ 'u' ∧ unescape? d = some c ∧ escape c = [backslash, d]) ∨
      (escape c = [backslash, 'u', '{'] ++ hexDigits c.toNat ++ ['}']) ∨
      (c ≠ '"' ∧ c ≠ backslash ∧ isUnprintable c = false ∧ escape c = [c]) := by
  unfold escape
  -- the characters with an escape of their own
  iterate 6
    split
    case isTrue h => exact Or.inl ⟨_, by decide, by rw [h]; rfl, rfl⟩
  split
  case isTrue h => exact Or.inr (Or.inl rfl)
  case isFalse h => exact Or.inr (Or.inr ⟨‹¬ c = '"'›, ‹¬ c = backslash›, eq_false_of_ne_true h, rfl⟩)

theorem readFrom?_digit {n : Nat} (h : n < 16) (code : Nat) (rest : List Char) :
    readFrom? (.coded code) (n.digitChar :: rest) = readFrom? (.coded (16 * code + n)) rest := by
  have hbrace : n.digitChar ≠ '}' := Nat.digitChar_ne '}' (by decide)
  rw [readFrom?, if_neg hbrace, hexValue?_digitChar h]
  rfl

theorem readFrom?_hexDigits (n : Nat) (rest : List Char) :
    readFrom? (.coded 0) (hexDigits n ++ rest) = readFrom? (.coded n) rest := by
  unfold hexDigits
  induction n using Nat.base_induction 16 (by decide) generalizing rest with
  | single m hm =>
    rw [Nat.toDigits_of_lt_base hm, List.singleton_append, readFrom?_digit hm, Nat.mul_zero, Nat.zero_add]
  | digit m k hk hm ih =>
    rw [← Nat.toDigits_append_toDigits (by decide) hm hk, List.append_assoc, ih, Nat.toDigits_of_lt_base hk,
      List.singleton_append, readFrom?_digit hk]

theorem readFrom?_escape (c : Char) (rest : List Char) :
    readFrom? .within (escape c ++ rest) = (readFrom? .within rest).map (Prod.map (c :: ·) id) := by
  have hslash : ∀ rest, readFrom? .within (backslash :: rest) = readFrom? .escaped rest := fun rest => rfl
  rcases escape_cases c with ⟨d, hd, hshort, hwritten⟩ | hwritten | ⟨hquote, hback, -, hwritten⟩
  · rw [hwritten, List.cons_append, hslash, List.singleton_append, readFrom?, if_neg hd, hshort]
    rfl
  · have hopen : ∀ rest, readFrom? .escaped ('u' :: '{' :: rest) = readFrom? (.coded 0) rest := fun rest => rfl
    rw [hwritten]
    simp only [List.cons_append, List.nil_append, List.append_assoc]
    rw [hslash, hopen, readFrom?_hexDigits, readFrom?, if_pos rfl, Char.ofNat_toNat]
  · rw [hwritten, List.singleton_append, readFrom?, if_neg hquote, if_neg hback]

/-! ## Whole texts -/

theorem readFrom?_escapes (cs rest : List Char) :
    readFrom? .within (cs.flatMap escape ++ '"' :: rest) = some (cs, rest) := by
  induction cs with
  | nil => rfl
  | cons c cs ih =>
    rw [List.flatMap_cons, List.append_assoc, readFrom?_escape, ih]
    rfl

theorem read?_encode (text : String) (rest : List Char) :
    read? ((encode text).toList ++ rest) = some (text, rest) := by
  rw [toList_encode, List.cons_append, List.cons_append, List.append_assoc, List.singleton_append, read?, readFrom?_escapes]
  simp

/-- Quoted text tells where it ends: what follows it cannot be taken for a part of it. -/
theorem encode_append_inj {text text' : String} {rest rest' : List Char}
    (h : (encode text).toList ++ rest = (encode text').toList ++ rest') : text = text' ∧ rest = rest' := by
  have hread := congrArg read? h
  rw [read?_encode, read?_encode] at hread
  exact Prod.mk.inj (Option.some.inj hread)

/-! ## What is shown -/

theorem mem_hexDigits {n : Nat} {c : Char} (h : c ∈ hexDigits n) : ∃ k < 16, c = k.digitChar := by
  unfold hexDigits at h
  induction n using Nat.base_induction 16 (by decide) with
  | single m hm =>
    rw [Nat.toDigits_of_lt_base hm, List.mem_singleton] at h
    exact ⟨m, hm, h⟩
  | digit m k hk hm ih =>
    rw [← Nat.toDigits_append_toDigits (by decide) hm hk, Nat.toDigits_of_lt_base hk, List.mem_append,
      List.mem_singleton] at h
    rcases h with h | h
    · exact ih h
    · exact ⟨k, hk, h⟩

theorem isUnprintable_eq_false_of_mem_escape {c d : Char} (h : d ∈ escape c) : isUnprintable d = false := by
  rcases escape_cases c with ⟨e, -, hshort, hwritten⟩ | hwritten | ⟨-, -, hshown, hwritten⟩
  · have he : isUnprintable e = false := by
      unfold unescape? at hshort
      split at hshort
      case h_7 => cases hshort
      all_goals rfl
    rw [hwritten] at h
    simp only [List.mem_cons, List.not_mem_nil, or_false] at h
    rcases h with rfl | rfl
    · rfl
    · exact he
  · have hdigit : ∀ k < 16, isUnprintable k.digitChar = false := by decide
    rw [hwritten] at h
    simp only [List.mem_append, List.mem_cons, List.not_mem_nil, or_false] at h
    rcases h with ((rfl | rfl | rfl) | h) | rfl
    · rfl
    · rfl
    · rfl
    · obtain ⟨k, hk, rfl⟩ := mem_hexDigits h
      exact hdigit k hk
    · rfl
  · rw [hwritten, List.mem_singleton] at h
    rwa [h]

theorem isUnprintable_eq_false_of_mem_encode {text : String} {d : Char} (h : d ∈ (encode text).toList) :
    isUnprintable d = false := by
  rw [toList_encode, List.mem_append, List.mem_cons, List.mem_singleton] at h
  rcases h with (rfl | h) | rfl
  · rfl
  · obtain ⟨c, -, hd⟩ := List.mem_flatMap.mp h
    exact isUnprintable_eq_false_of_mem_escape hd
  · rfl

theorem lineFeed_not_mem_encode (text : String) : '\n' ∉ (encode text).toList := by
  intro h
  have hshown : isUnprintable '\n' = false := isUnprintable_eq_false_of_mem_encode h
  cases hshown

end Quoted

/-! ## Dumps -/

/-- No blank stands in a name, and no control character. -/
theorem Kind.graphic_of_mem_name {k : Kind} {c : Char} (h : c ∈ k.name.toList) :
    0x20 < c.toNat ∧ c.toNat < 0x7f := by
  have hall : (all.all fun k => k.name.toList.all fun c => 0x20 < c.toNat ∧ c.toNat < 0x7f) = true := by decide +kernel
  have hname := List.all_eq_true.mp hall k (mem_all k)
  exact of_decide_eq_true (List.all_eq_true.mp hname c h)

namespace Dump

/-! ## One line -/

theorem mem_index {width n : Nat} {c : Char} (h : c ∈ (alignRight width n.repr).toList) :
    c = ' ' ∨ c.isDigit = true := by
  rw [toList_alignRight, List.mem_append, Nat.toList_repr] at h
  rcases h with h | h
  · exact Or.inl (List.eq_of_mem_replicate h)
  · exact Or.inr (Nat.isDigit_of_mem_toDigits (by decide) (by decide) h)

theorem toList_dumpLine (i : Nat) (t : Token) :
    (dumpLine i t).toList =
      (alignRight 4 i.repr).toList ++ ':' :: ' ' :: (t.kind.name.toList ++ ' ' :: (Quoted.encode t.text).toList) := by
  simp [dumpLine, Token.display, String.toList_append]

theorem lineFeed_not_mem_dumpLine (i : Nat) (t : Token) : '\n' ∉ (dumpLine i t).toList := by
  have hindex : '\n' ∉ (alignRight 4 i.repr).toList := fun h => by
    rcases mem_index h with h | h <;> cases h
  have hname : '\n' ∉ t.kind.name.toList := fun h => absurd (Kind.graphic_of_mem_name h).1 (by decide)
  rw [toList_dumpLine]
  simp [hindex, hname, Quoted.lineFeed_not_mem_encode]

theorem readToken?_display (t : Token) :
    readToken? (t.kind.name.toList ++ ' ' :: (Quoted.encode t.text).toList) = some t := by
  have hname : ∀ c ∈ t.kind.name.toList, (c != ' ') = true := by
    intro c hc
    rw [bne_iff_ne]
    rintro rfl
    exact absurd (Kind.graphic_of_mem_name hc).1 (by decide)
  have htext := Quoted.read?_encode t.text []
  rw [List.append_nil] at htext
  rw [readToken?, List.takeWhile_append_of_pos hname, List.dropWhile_append_of_pos hname]
  simp [Kind.ofName?_name, htext]

theorem readLine?_dumpLine (i : Nat) (t : Token) : readLine? (dumpLine i t).toList = some t := by
  have hindex : ∀ c ∈ (alignRight 4 i.repr).toList, (c != ':') = true := by
    intro c hc
    rw [bne_iff_ne]
    rintro rfl
    rcases mem_index hc with h | h <;> cases h
  rw [readLine?, toList_dumpLine, List.dropWhile_append_of_pos hindex]
  exact readToken?_display t

/-! ## All lines -/

theorem splitOn_dump (t : Token) (tokens : List Token) :
    (dump (t :: tokens)).toList.splitOn '\n' = (t :: tokens).zipIdx.map fun (t, i) => (dumpLine i t).toList := by
  have hfeed : ∀ line ∈ (t :: tokens).zipIdx.map fun (t, i) => (dumpLine i t).toList, '\n' ∉ line := by
    intro line hline
    obtain ⟨⟨t, i⟩, -, rfl⟩ := List.mem_map.mp hline
    exact lineFeed_not_mem_dumpLine i t
  rw [dump, String.toList_intercalate, List.map_map]
  exact List.splitOn_intercalate '\n' hfeed (by simp)

theorem isEmpty_dump (t : Token) (tokens : List Token) : (dump (t :: tokens)).isEmpty = false := by
  rw [Bool.eq_false_iff, Ne, String.isEmpty_iff]
  intro h
  have hlines := splitOn_dump t tokens
  rw [h, List.zipIdx_cons, List.map_cons] at hlines
  have hline : [] = (dumpLine 0 t).toList := (List.cons.inj hlines).1
  rw [toList_dumpLine] at hline
  simp at hline

theorem mapM_readLine? (tokens : List Token) (start : Nat) :
    ((tokens.zipIdx start).map fun (t, i) => (dumpLine i t).toList).mapM readLine? = some tokens := by
  induction tokens generalizing start with
  | nil => rfl
  | cons t tokens ih =>
    rw [List.zipIdx_cons, List.map_cons, List.mapM_cons, readLine?_dumpLine, ih]
    rfl

theorem read?_dump (tokens : List Token) : read? (dump tokens) = some tokens := by
  cases tokens with
  | nil => rfl
  | cons t tokens =>
    rw [read?, isEmpty_dump, if_neg Bool.false_ne_true, splitOn_dump]
    exact mapM_readLine? (t :: tokens) 0

/-- A dump says which tokens it is made of, whatever their texts hold. Its lines are the pieces
    between its line feeds, one for each token: the index, the name of the kind, the quoted text. -/
theorem dump_decodes :
    (∀ tokens, read? (dump tokens) = some tokens) ∧
      Function.Injective dump ∧
      ∀ t tokens, (dump (t :: tokens)).toList.splitOn '\n' = (t :: tokens).zipIdx.map fun (t, i) =>
        (spaces (4 - i.repr.length) ++ i.repr ++ ": " ++ (t.kind.name ++ " " ++ Quoted.encode t.text)).toList := by
  refine ⟨read?_dump, ?_, splitOn_dump⟩
  intro tokens tokens' h
  have hread := congrArg read? h
  rw [read?_dump, read?_dump] at hread
  exact Option.some.inj hread

/-- A text that looks like the end of its line and a line of its own. -/
example : dump [⟨.identifier, "a\"\n   1: EOF \""⟩] = "   0: IDENT \"a\\\"\\n   1: EOF \\\"\"" := by decide +kernel

end Dump

/-! ## Messages -/

namespace Failure

def laterText (text : String) : List Char := ", ".toList ++ (Quoted.encode text).toList

theorem toList_quotedList_cons (text : String) (texts : List String) :
    (quotedList (text :: texts)).toList = (Quoted.encode text).toList ++ texts.flatMap laterText := by
  unfold quotedList
  rw [String.toList_intercalate]
  induction texts generalizing text with
  | nil => simp
  | cons later texts ih =>
    have hlater := ih later
    rw [List.map_cons, List.map_cons] at hlater ⊢
    rw [List.map_cons, List.map_cons, List.intercalate_cons_cons, hlater, List.flatMap_cons, laterText]
    simp

theorem laterTexts_inj {texts texts' : List String} (h : texts.flatMap laterText = texts'.flatMap laterText) :
    texts = texts' := by
  induction texts generalizing texts' with
  | nil =>
    cases texts' with
    | nil => rfl
    | cons text' texts' => cases h
  | cons text texts ih =>
    cases texts' with
    | nil => cases h
    | cons text' texts' =>
      rw [List.flatMap_cons, List.flatMap_cons, laterText, laterText, List.append_assoc, List.append_assoc] at h
      obtain ⟨rfl, hrest⟩ := Quoted.encode_append_inj (List.append_cancel_left h)
      rw [ih hrest]

theorem quotedList_injective : Function.Injective quotedList := by
  have hfilled : ∀ text texts, quotedList [] ≠ quotedList (text :: texts) := by
    intro text texts h
    have hchars := congrArg String.toList h
    rw [toList_quotedList_cons, Quoted.toList_encode] at hchars
    cases hchars
  intro texts texts' h
  cases texts with
  | nil =>
    cases texts' with
    | nil => rfl
    | cons text' texts' => exact absurd h (hfilled text' texts')
  | cons text texts =>
    cases texts' with
    | nil => exact absurd h.symm (hfilled text texts)
    | cons text' texts' =>
      have hchars := congrArg String.toList h
      rw [toList_quotedList_cons, toList_quotedList_cons] at hchars
      obtain ⟨rfl, hlater⟩ := Quoted.encode_append_inj hchars
      rw [laterTexts_inj hlater]

theorem eq_of_toList_repr_eq {count count' : Nat} (h : count.repr.toList = count'.repr.toList) : count = count' := by
  rw [Nat.toList_repr, Nat.toList_repr] at h
  have hread := congrArg (fun digits => Nat.ofDigitChars 10 digits 0) h
  simpa only [Nat.ofDigitChars_toDigits (by decide : 1 < 10) (by decide : 10 ≤ 10)] using hread

theorem toList_message_illegalCharacters (count : Nat) (characters : List String) :
    (illegalCharacters count characters).message.toList =
      count.repr.toList ++ (" illegal character(s): ".toList ++ (quotedList characters).toList) := by
  have hmessage : (illegalCharacters count characters).message =
      count.repr ++ " illegal character(s): " ++ quotedList characters := rfl
  rw [hmessage, String.toList_append, String.toList_append, List.append_assoc]

/-- Two refusals say the same only if they count the same and name the same characters, in the
    same order, whatever the count and the texts are. -/
theorem message_illegalCharacters_inj (count count' : Nat) (characters characters' : List String) :
    (illegalCharacters count characters).message = (illegalCharacters count' characters').message ↔
      count = count' ∧ characters = characters' := by
  constructor
  · intro h
    have hdigits : ∀ n : Nat, ∀ c ∈ n.repr.toList, isDigit c = true := by
      intro n c hc
      rw [Nat.toList_repr] at hc
      exact Nat.isDigit_of_mem_toDigits (by decide) (by decide) hc
    have hblank : ∀ list : List Char, ∀ c ∈ (" illegal character(s): ".toList ++ list).head?, isDigit c = false := by
      intro list c hc
      obtain rfl : ' ' = c := Option.some.inj hc
      rfl
    have hchars := congrArg String.toList h
    rw [toList_message_illegalCharacters, toList_message_illegalCharacters] at hchars
    obtain ⟨hcount, hrest⟩ := append_run_inj (hdigits count) (hdigits count') (hblank _) (hblank _) hchars
    have hlist := List.append_cancel_left hrest
    exact ⟨eq_of_toList_repr_eq hcount, quotedList_injective (String.toList_inj.mp hlist)⟩
  · rintro ⟨rfl, rfl⟩
    rfl

/-- One text that looks like two, and one text that is empty. -/
example : (illegalCharacters 2 ["#\", \"@"]).message = "2 illegal character(s): \"#\\\", \\\"@\"" ∧
    (illegalCharacters 0 [""]).message = "0 illegal character(s): \"\"" := by decide +kernel

end Failure

end Munch
