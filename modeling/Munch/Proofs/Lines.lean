/-
  Munch.Proofs.Lines — the lines of an input, said without a loop over its bytes.

  `IsLines feed ret xs lines` cuts a list into lines: a line ends at a feed, and one return
  before it is no part of it; what stands behind the last feed is a line unless it is empty.
  There is one way to do so (`exists_isLines`, `IsLines.lines_eq`), and the lines of bytes are cut
  so (`isLines_lines`). What ends in a feed is cut by itself, whatever follows (`lines_append`).

  Bytes are text when they spell one (`text?_eq_some_iff`). UTF-8 spells an ASCII character with
  its own byte and has that byte nowhere else (`eq_of_mem_utf8EncodeChar`), so the lines of a
  text's bytes spell the lines of the text (`lines_ofString`).
-/

import Munch.Text.Lines

namespace Munch

/-! ## Lines of anything -/

section

variable {α : Type} [DecidableEq α]

/-- The list without its last element, if that is the given one. -/
def withoutEnd (last : α) (xs : List α) : List α := if xs.getLast? = some last then xs.dropLast else xs

theorem withoutEnd_concat (last x : α) (xs : List α) :
    withoutEnd last (xs ++ [x]) = if x = last then xs else xs ++ [x] := by
  simp [withoutEnd]

theorem exists_withoutEnd_append (last : α) (xs : List α) :
    ∃ ends, xs = withoutEnd last xs ++ ends ∧ ∀ x ∈ ends, x = last := by
  rcases List.eq_nil_or_concat xs with rfl | ⟨ys, x, rfl⟩
  · exact ⟨[], rfl, by simp⟩
  · rw [List.concat_eq_append, withoutEnd_concat]
    by_cases hx : x = last
    · exact ⟨[x], by rw [if_pos hx], by simp [hx]⟩
    · exact ⟨[], by rw [if_neg hx, List.append_nil], by simp⟩

inductive IsLines (feed ret : α) : List α → List (List α) → Prop
  | none : IsLines feed ret [] []
  /-- A last line that no feed ends. -/
  | unended (line : List α) : line ≠ [] → feed ∉ line → IsLines feed ret line [line]
  | ended (line : List α) {rest : List α} {lines : List (List α)} : feed ∉ line → IsLines feed ret rest lines →
      IsLines feed ret (line ++ feed :: rest) (withoutEnd ret line :: lines)

theorem exists_isLines (feed ret : α) (xs : List α) : ∃ lines, IsLines feed ret xs lines := by
  -- what stands behind the first feed is shorter
  induction hn : xs.length using Nat.strongRecOn generalizing xs with
  | ind n ih =>
    by_cases hfeed : feed ∈ xs
    · obtain ⟨line, rest, rfl, hline⟩ := List.eq_append_cons_of_mem hfeed
      have hlt : rest.length < n := by rw [← hn, List.length_append, List.length_cons]; omega
      obtain ⟨lines, hlines⟩ := ih rest.length hlt rest rfl
      exact ⟨_, .ended line hline hlines⟩
    · by_cases hnil : xs = []
      · exact ⟨[], hnil ▸ .none⟩
      · exact ⟨[xs], .unended xs hnil hfeed⟩

end

namespace Bytes

/-! ## Lines of bytes -/

theorem reverse_dropReturn (line : Bytes) : (dropReturn line).reverse = withoutEnd carriageReturn line.reverse := by
  cases line with
  | nil => rfl
  | cons b rest =>
    rw [List.reverse_cons, withoutEnd_concat, dropReturn]
    split
    · rfl
    · rw [List.reverse_cons]

theorem linesAfter_append {line : Bytes} (h : lineFeed ∉ line) (before rest : Bytes) :
    linesAfter [] before (line ++ rest) = linesAfter [] (line.reverse ++ before) rest := by
  induction line generalizing before with
  | nil => rfl
  | cons b line ih =>
    obtain ⟨hb, hline⟩ := not_or.mp fun hmem => h (List.mem_cons.mpr hmem)
    rw [List.cons_append, linesAfter, if_neg (Ne.symm hb), ih hline, List.reverse_cons, List.append_assoc]
    rfl

theorem linesAfter_lineFeed (line rest : Bytes) :
    linesAfter [] line (lineFeed :: rest) = withoutEnd carriageReturn line.reverse :: lines rest := by
  rw [linesAfter, if_pos rfl, linesAfter_eq, reverse_dropReturn]
  rfl

theorem IsLines.lines_eq {bytes : Bytes} {ls : List Bytes} (h : IsLines lineFeed carriageReturn bytes ls) :
    lines bytes = ls := by
  induction h with
  | none => rfl
  | unended line hne hline =>
    have hlast := linesAfter_append hline [] []
    rw [List.append_nil, List.append_nil] at hlast
    have hfilled : line.reverse.isEmpty = false := by simpa using hne
    rw [lines, hlast, linesAfter, hfilled, List.reverse_reverse]
    rfl
  | ended line hline _ ih =>
    rw [lines, linesAfter_append hline, List.append_nil, linesAfter_lineFeed, List.reverse_reverse, ih]

theorem isLines_lines (bytes : Bytes) : IsLines lineFeed carriageReturn bytes bytes.lines := by
  obtain ⟨ls, h⟩ := exists_isLines lineFeed carriageReturn bytes
  rwa [IsLines.lines_eq h]

/-- What ends in a feed is cut by itself, and so is what follows it. -/
theorem lines_append (front back : Bytes) :
    lines (front ++ lineFeed :: back) = lines (front ++ [lineFeed]) ++ lines back := by
  suffices ∀ line, linesAfter [] line (front ++ lineFeed :: back) =
      linesAfter [] line (front ++ [lineFeed]) ++ lines back from this []
  induction front with
  | nil =>
    intro line
    rw [List.nil_append, List.nil_append, linesAfter_lineFeed, linesAfter_lineFeed]
    rfl
  | cons b front ih =>
    intro line
    rw [List.cons_append, List.cons_append, linesAfter, linesAfter]
    split
    · rw [linesAfter_eq, ih, linesAfter_eq [_] [] (front ++ [lineFeed]), List.append_assoc]
    · exact ih (b :: line)

/-! ## Bytes of a text -/

/-- The bytes that spell some characters. -/
def utf8 (cs : List Char) : Bytes := cs.flatMap String.utf8EncodeChar

theorem utf8_append (cs ds : List Char) : utf8 (cs ++ ds) = utf8 cs ++ utf8 ds := List.flatMap_append

theorem toList_loop (bytes : ByteArray) (i : Nat) (done : Bytes) :
    ByteArray.toList.loop bytes i done = done.reverse ++ bytes.data.toList.drop i := by
  fun_induction ByteArray.toList.loop bytes i done with
  | case1 i done hi ih =>
    have hlen : i < bytes.data.toList.length := by simpa using hi
    rw [ih, List.drop_eq_getElem_cons hlen]
    simp [ByteArray.get!, hi]
  | case2 i done hi =>
    rw [List.drop_eq_nil_of_le (by simpa using Nat.le_of_not_lt hi), List.append_nil]

theorem toList_eq_data (bytes : ByteArray) : bytes.toList = bytes.data.toList := by
  rw [ByteArray.toList, toList_loop]
  rfl

theorem ofString_eq (text : String) : ofString text = utf8 text.toList := by
  rw [ofString, toList_eq_data, String.toUTF8_eq_toByteArray, ← String.utf8Encode_toList]
  exact List.toList_data_toByteArray

theorem text?_eq_some_iff {bytes : Bytes} {text : String} : bytes.text? = some text ↔ bytes = ofString text := by
  have hbytes : bytes = ofString text ↔ (⟨bytes.toArray⟩ : ByteArray) = text.toByteArray := by
    rw [ofString, toList_eq_data, String.toUTF8_eq_toByteArray]
    constructor
    · rintro rfl
      rfl
    · intro h
      rw [← h]
  rw [hbytes, text?, String.fromUTF8?]
  constructor
  · intro h
    split at h
    · injection h with h
      rw [← h]
      rfl
    · cases h
  · intro h
    rw [dif_pos (h ▸ text.isValidUTF8)]
    exact congrArg some (String.toByteArray_inj.mp h)

theorem text?_ofString (text : String) : (ofString text).text? = some text := text?_eq_some_iff.mpr rfl

/-- No other character is spelled with the byte of an ASCII one. -/
theorem eq_of_mem_utf8EncodeChar {c d : Char} (hd : d.toNat < 128)
    (h : UInt8.ofNat d.toNat ∈ String.utf8EncodeChar c) : c = d := by
  have hc : c.val.toNat < 0x110000 := by
    rcases c.valid with hv | ⟨-, hv⟩ <;> omega
  have hcode : ∀ n < 256, UInt8.ofNat d.toNat = UInt8.ofNat n → d.toNat = n := by
    intro n hn he
    have he : d.toNat % 256 = n % 256 := by simpa using congrArg UInt8.toNat he
    omega
  dsimp only [String.utf8EncodeChar] at h
  -- every byte of a longer spelling is 128 or more
  split at h
  · have he := hcode _ (by omega) (List.mem_singleton.mp h)
    exact Char.toNat_inj.mp he.symm
  · split at h
    · simp only [List.mem_cons, List.not_mem_nil, or_false] at h
      rcases h with h | h <;> have := hcode _ (by omega) h <;> omega
    · split at h
      · simp only [List.mem_cons, List.not_mem_nil, or_false] at h
        rcases h with h | h | h <;> have := hcode _ (by omega) h <;> omega
      · simp only [List.mem_cons, List.not_mem_nil, or_false] at h
        rcases h with h | h | h | h <;> have := hcode _ (by omega) h <;> omega

/-! ## Lines of a text -/

theorem lineFeed_not_mem_utf8 {cs : List Char} (h : '\n' ∉ cs) : lineFeed ∉ utf8 cs := by
  intro hmem
  obtain ⟨c, hc, hb⟩ := List.mem_flatMap.mp hmem
  rw [eq_of_mem_utf8EncodeChar (d := '\n') (by decide) hb] at hc
  exact h hc

theorem utf8_withoutEnd (cs : List Char) : utf8 (withoutEnd '\r' cs) = withoutEnd carriageReturn (utf8 cs) := by
  rcases List.eq_nil_or_concat cs with rfl | ⟨ds, c, rfl⟩
  · rfl
  · rw [List.concat_eq_append, withoutEnd_concat, utf8_append]
    have hlast : String.utf8EncodeChar c ≠ [] := String.utf8EncodeChar_ne_nil
    have hbytes : utf8 [c] = (String.utf8EncodeChar c).dropLast ++ [(String.utf8EncodeChar c).getLast hlast] := by
      rw [List.dropLast_concat_getLast]; simp [utf8]
    by_cases hc : c = '\r'
    · subst hc
      have hreturn : utf8 ['\r'] = [carriageReturn] := by decide
      rw [if_pos rfl, hreturn, withoutEnd_concat, if_pos rfl]
    · have hne : (String.utf8EncodeChar c).getLast hlast ≠ carriageReturn := by
        intro he
        have hmem : carriageReturn ∈ String.utf8EncodeChar c := he ▸ List.getLast_mem hlast
        exact hc (eq_of_mem_utf8EncodeChar (d := '\r') (by decide) hmem)
      rw [if_neg hc, utf8_append, hbytes, ← List.append_assoc, withoutEnd_concat, if_neg hne]

theorem IsLines.utf8 {cs : List Char} {ls : List (List Char)} (h : IsLines '\n' '\r' cs ls) :
    IsLines lineFeed carriageReturn (utf8 cs) (ls.map Bytes.utf8) := by
  induction h with
  | none => exact .none
  | unended line hne hline =>
    refine .unended _ (fun hnil => hne ?_) (lineFeed_not_mem_utf8 hline)
    cases line with
    | nil => rfl
    | cons c line => exact absurd (List.append_eq_nil_iff.mp hnil).1 String.utf8EncodeChar_ne_nil
  | ended line hline _ ih =>
    have hfeed : ∀ rest, Bytes.utf8 ('\n' :: rest) = lineFeed :: Bytes.utf8 rest := fun rest => rfl
    rw [utf8_append, hfeed, List.map_cons, utf8_withoutEnd]
    exact .ended _ (lineFeed_not_mem_utf8 hline) ih

end Bytes

/-- The lines of a text. -/
def IsTextLines (source : String) (lines : List String) : Prop :=
  IsLines '\n' '\r' source.toList (lines.map String.toList)

theorem exists_isTextLines (source : String) : ∃ lines, IsTextLines source lines := by
  obtain ⟨ls, h⟩ := exists_isLines '\n' '\r' source.toList
  refine ⟨ls.map String.ofList, ?_⟩
  have hls : (ls.map String.ofList).map String.toList = ls := by
    rw [List.map_map]
    exact (List.map_congr_left fun line _ => String.toList_ofList).trans (List.map_id ls)
  rw [IsTextLines, hls]
  exact h

/-- The lines of a text's bytes spell its lines. -/
theorem Bytes.lines_ofString {source : String} {lines : List String} (h : IsTextLines source lines) :
    (ofString source).lines = lines.map ofString := by
  rw [ofString_eq, IsLines.lines_eq (IsLines.utf8 h), List.map_map]
  exact List.map_congr_left fun line _ => (ofString_eq line).symm

theorem Bytes.filterMap_text?_ofString (texts : List String) : (texts.map ofString).filterMap text? = texts := by
  have hread : text? ∘ ofString = some := funext text?_ofString
  rw [List.filterMap_map, hread, List.filterMap_some]

theorem isTextLines_textLines (source : String) : IsTextLines source (Bytes.textLines source) := by
  obtain ⟨lines, h⟩ := exists_isTextLines source
  have hlines : Bytes.textLines source = lines := by
    rw [Bytes.textLines, Bytes.lines_ofString h, Bytes.filterMap_text?_ofString]
  rwa [hlines]

end Munch
