/-
  Munch.Proofs.Session — a session is its lines, one by one, up to the first that stops it.

  A line stops a session when it is no text or says so (`stops`); any other line is answered by
  itself (`answerLines`). `respond_cases` says all that a line can lead to. From it, by induction
  on the lines: the responses print the answers to the lines before the first that stops
  (`outputs_converse`), that line alone decides how the session ends (`ending_converse`), and
  what follows it is never looked at (`converse_append`).

  No lexeme reaches over the end of a line, so the tokens of a text are those of its lines, one line
  behind the other (`flatMap_tokenize_lines`): between two lines there is a gap, and nothing absorbs
  one (`tokenize_append_gap`). A session does not read a line of nothing but blanks. It passes over no
  token as long as such a line holds gaps only (`flatMap_readIn_iff`); a blank that is no gap is a
  stray, and then its token is passed over, though no command asks for that.
-/

import Mathlib.Data.List.TakeWhile
import Munch.Command.Run
import Munch.Proofs.Layout
import Munch.Proofs.Lines
import Munch.Proofs.Pending

namespace Munch

namespace Repl

/-- Whether a session ends at the line. -/
def stops (line : Bytes) : Bool :=
  match line.text? with
  | none => true
  | some text => trim text == ":quit" || trim text == ":q"

/-- The tokens that are printed for a line that is no command. -/
def readIn (line : String) : List Token := if trim line = "" then [] else (tokenize line).dropLast

/-- The lines that are printed for a line that does not stop the session. -/
def answerLines (text : String) : List String :=
  if trim text = ":help" ∨ trim text = ":h" then
    ["REPL commands:", "  :quit, :q    Exit the REPL", "  :help, :h    Show this help message", "",
      "Any other input is scanned and its tokens printed."]
  else (readIn text).map Token.display

/-- The texts of the lines before the first that stops. -/
def textsBefore (lines : List Bytes) : List String := (lines.takeWhile fun line => !stops line).filterMap Bytes.text?

/-- Whether the first line that stops is no text. -/
def breaksOff (lines : List Bytes) : Bool := (lines.find? stops).any fun line => line.text?.isNone

/-! ## One line -/

theorem output_tokens (source : String) :
    (Response.tokens source).output = unlines ((tokenize source).dropLast.map Token.display) := by
  have hread : Turn.lexemes (Scanner.ofString source).turnsToEnd = (tokenize source).dropLast :=
    Scanner.pending_ofString source
  rw [Response.tokens, hread]

/-- What the text of a line can say, and nothing else. -/
theorem ofText_cases (text : String) :
    ((trim text = ":quit" ∨ trim text = ":q") ∧ Line.ofText text = .quit) ∨
    ((trim text = ":help" ∨ trim text = ":h") ∧ Line.ofText text = .help) ∨
    (trim text = "" ∧ Line.ofText text = .blank) ∨
    (¬ (trim text = ":quit" ∨ trim text = ":q") ∧ ¬ (trim text = ":help" ∨ trim text = ":h") ∧ trim text ≠ "" ∧
      Line.ofText text = .source text) := by
  unfold Line.ofText
  split
  case h_6 hquit hq hhelp hh hblank =>
    exact Or.inr (Or.inr (Or.inr ⟨not_or.mpr ⟨hquit, hq⟩, not_or.mpr ⟨hhelp, hh⟩, hblank, rfl⟩))
  all_goals simp [*]

theorem ofText_of_quit {text : String} (h : trim text = ":quit" ∨ trim text = ":q") :
    Response.ofText text = .farewell := by
  rcases ofText_cases text with ⟨-, hline⟩ | ⟨hhelp, -⟩ | ⟨hblank, -⟩ | ⟨hquit, -⟩
  · rw [Response.ofText, hline]
  · rcases h with h | h <;> simp [h] at hhelp
  · simp [hblank] at h
  · exact absurd h hquit

theorem ofText_of_not_quit {text : String} (h : ¬ (trim text = ":quit" ∨ trim text = ":q")) :
    (Response.ofText text).ending = none ∧ (Response.ofText text).output = unlines (answerLines text) := by
  rcases ofText_cases text with ⟨hquit, -⟩ | ⟨hhelp, hline⟩ | ⟨hblank, hline⟩ | ⟨-, hhelp, hblank, hline⟩
  · exact absurd hquit h
  · rw [Response.ofText, hline, answerLines, if_pos hhelp]
    exact ⟨rfl, rfl⟩
  · rw [Response.ofText, hline, answerLines, if_neg (by simp [hblank]), readIn, if_pos hblank]
    exact ⟨rfl, rfl⟩
  · rw [Response.ofText, hline, answerLines, if_neg hhelp, readIn, if_neg hblank, ← output_tokens]
    exact ⟨rfl, rfl⟩

/-- What a line can lead to, and nothing else. -/
theorem respond_cases (line : Bytes) :
    (line.text? = none ∧ stops line = true ∧ respond (some line) = .unreadable) ∨
    (∃ text, line.text? = some text ∧ stops line = true ∧ respond (some line) = .farewell) ∨
    ∃ text, line.text? = some text ∧ stops line = false ∧ (respond (some line)).ending = none ∧
      (respond (some line)).output = unlines (answerLines text) := by
  cases htext : line.text? with
  | none => exact Or.inl ⟨rfl, by rw [stops, htext], by rw [respond, htext]⟩
  | some text =>
    have hstops : stops line = true ↔ trim text = ":quit" ∨ trim text = ":q" := by simp [stops, htext]
    have hanswer : respond (some line) = .ofText text := by rw [respond, htext]
    rw [hanswer]
    by_cases hquit : trim text = ":quit" ∨ trim text = ":q"
    · exact Or.inr (Or.inl ⟨text, rfl, hstops.mpr hquit, ofText_of_quit hquit⟩)
    · exact Or.inr (Or.inr ⟨text, rfl, eq_false_of_ne_true (mt hstops.mp hquit), ofText_of_not_quit hquit⟩)

/-! ## All lines -/

theorem converse_cons (line : Bytes) (rest : List Bytes) :
    converse (line :: rest) =
      if (respond (some line)).ending.isSome then [respond (some line)] else respond (some line) :: converse rest := by
  rw [converse, converseAfter]
  simp only [converseAfter_eq [respond (some line)] rest]
  rfl

theorem text?_textsBefore (lines : List Bytes) :
    (lines.takeWhile fun line => !stops line).map Bytes.text? = (textsBefore lines).map some := by
  unfold textsBefore
  induction lines with
  | nil => rfl
  | cons line rest ih =>
    rcases respond_cases line with ⟨-, hstop, -⟩ | ⟨-, -, hstop, -⟩ | ⟨text, htext, hstop, -⟩
    · simp [hstop]
    · simp [hstop]
    · simp [hstop, htext, ih]

theorem outputs_converse (lines : List Bytes) :
    (converse lines).map Response.output =
      (textsBefore lines).map (fun text => unlines (answerLines text)) ++ [if breaksOff lines then "" else "Goodbye!\n"] := by
  unfold textsBefore breaksOff
  induction lines with
  | nil => decide
  | cons line rest ih =>
    rw [converse_cons]
    rcases respond_cases line with
      ⟨htext, hstop, hline⟩ | ⟨text, htext, hstop, hline⟩ | ⟨text, htext, hstop, hending, hout⟩
    · simp [hline, hstop, htext, Response.unreadable]
    · simp [hline, hstop, htext, Response.farewell, unlines_singleton]
    · simp [hending, hout, hstop, htext, ih]

theorem ending_converse (lines : List Bytes) :
    (converse lines).findSome? Response.ending = some (if breaksOff lines then .brokenOff else .closed) := by
  unfold breaksOff
  induction lines with
  | nil => rfl
  | cons line rest ih =>
    rw [converse_cons]
    rcases respond_cases line with
      ⟨htext, hstop, hline⟩ | ⟨text, htext, hstop, hline⟩ | ⟨text, htext, hstop, hending, -⟩
    · simp [hline, hstop, htext, Response.unreadable]
    · simp [hline, hstop, htext, Response.farewell]
    · simp [hending, hstop, ih]

/-- Behind a line that stops, no line is looked at. -/
theorem converse_append {front : List Bytes} (h : ∃ line ∈ front, stops line = true) (back : List Bytes) :
    converse (front ++ back) = converse front := by
  induction front with
  | nil => obtain ⟨line, hmem, -⟩ := h; cases hmem
  | cons line front ih =>
    rw [List.cons_append, converse_cons, converse_cons]
    rcases respond_cases line with ⟨-, -, hline⟩ | ⟨-, -, -, hline⟩ | ⟨-, -, hstop, hending, -⟩
    · rw [hline]
      rfl
    · rw [hline]
      rfl
    · have hlater : ∃ later ∈ front, stops later = true := by
        obtain ⟨later, hmem, hlater⟩ := h
        rcases List.mem_cons.mp hmem with rfl | hmem
        · rw [hstop] at hlater; cases hlater
        · exact ⟨later, hmem, hlater⟩
      rw [hending, ih hlater]

theorem output_eq (coloured : Bool) (lines : List Bytes) :
    output coloured (converse lines) =
      opening coloured ++ String.join ((textsBefore lines).map fun text => ">> " ++ unlines (answerLines text)) ++ ">> " ++
        if breaksOff lines then "" else "Goodbye!\n" := by
  have hprinted := congrArg (List.map fun out => prompt ++ out) (outputs_converse lines)
  rw [List.map_map, List.map_append, List.map_map, List.map_singleton] at hprinted
  have hjoin : String.join ((converse lines).map fun r => prompt ++ r.output) = _ := congrArg String.join hprinted
  have hlast : String.join [prompt ++ if breaksOff lines then "" else "Goodbye!\n"] =
      ">> " ++ if breaksOff lines then "" else "Goodbye!\n" := by simp [prompt]
  rw [output, hjoin, String.join_append, hlast, ← String.append_assoc, ← String.append_assoc]
  rfl

end Repl

namespace Command

open Repl

/-! ## Runs -/

section

variable (settings : Settings) (world : World) (verbose : Bool)

theorem fault_runRepl (coloured : Bool) :
    (runRepl coloured world).fault = if breaksOff world.stdin.lines then some .lineNotText else none := by
  simp only [runRepl, ending_converse, Option.bind_some]
  cases breaksOff world.stdin.lines with
  | true => rfl
  | false => rfl

theorem status_run_repl :
    (run settings world (.run .repl verbose)).status = if breaksOff world.stdin.lines then 1 else 0 := by
  show (if (runRepl settings.coloured world).fault.isSome then 1 else 0) = _
  rw [fault_runRepl]
  cases breaksOff world.stdin.lines <;> rfl

theorem stdout_run_repl :
    (run settings world (.run .repl verbose)).stdout =
      opening settings.coloured ++
        String.join ((textsBefore world.stdin.lines).map fun text => ">> " ++ unlines (answerLines text)) ++ ">> " ++
        if breaksOff world.stdin.lines then "" else "Goodbye!\n" :=
  output_eq settings.coloured world.stdin.lines

theorem error_run_repl :
    (run settings world (.run .repl verbose)).error = if breaksOff world.stdin.lines then
      some (unlines [paint settings.coloured .red "error" ++ ": Failed to read from stdin"]) else none := by
  show (runRepl settings.coloured world).fault.map (Report.errorLine settings.coloured) = _
  rw [fault_runRepl]
  cases breaksOff world.stdin.lines with
  | true => exact congrArg some (by rw [Report.errorLine, String.append_assoc]; rfl)
  | false => rfl

end

/-- A session prints its opening, an answer behind a prompt for every line before the first
    that stops, one more prompt, and a farewell unless that line is no text: then, and only
    then, the run fails. What follows the feed of a line that stops changes nothing. -/
theorem run_repl_lines (settings : Settings) (world : World) (verbose : Bool) :
    let report := run settings world (.run .repl verbose)
    let lines := world.stdin.lines
    let heading := if settings.coloured then "\x1b[1;34mtinylex REPL\x1b[0m" else "tinylex REPL"
    let label := if settings.coloured then "\x1b[1;31merror\x1b[0m" else "error"
    IsLines Bytes.lineFeed Bytes.carriageReturn world.stdin lines ∧
      (lines.takeWhile fun line => !stops line).map Bytes.text? = (textsBefore lines).map some ∧
      report.stdout =
        unlines [heading, "Type ':quit' or ':q' to exit, ':help' for help", ""] ++
          String.join ((textsBefore lines).map fun text => ">> " ++ unlines (answerLines text)) ++ ">> " ++
          (if breaksOff lines then "" else "Goodbye!\n") ∧
      report.status = (if breaksOff lines then 1 else 0) ∧
      report.error = (if breaksOff lines then some (label ++ ": Failed to read from stdin\n") else none) ∧
      ∀ front back back', world.stdin = front ++ Bytes.lineFeed :: back →
        (∃ line ∈ Bytes.lines (front ++ [Bytes.lineFeed]), stops line = true) →
        run settings { world with stdin := front ++ Bytes.lineFeed :: back' } (.run .repl verbose) = report := by
  intro report lines heading label
  have hheading : ∀ coloured, paint coloured .blue "tinylex REPL" =
      if coloured then "\x1b[1;34mtinylex REPL\x1b[0m" else "tinylex REPL" := by decide
  have hlabel : ∀ coloured, paint coloured .red "error" =
      if coloured then "\x1b[1;31merror\x1b[0m" else "error" := by decide
  have hstdout := stdout_run_repl settings world verbose
  have herror := error_run_repl settings world verbose
  rw [opening, hheading] at hstdout
  rw [hlabel, unlines_singleton, String.append_assoc] at herror
  refine ⟨Bytes.isLines_lines _, text?_textsBefore lines, hstdout, status_run_repl settings world verbose, herror, ?_⟩
  intro front back back' hstdin hstop
  have hsame : Command.repl.perform settings.coloured { world with stdin := front ++ Bytes.lineFeed :: back' } =
      Command.repl.perform settings.coloured world := by
    simp only [perform, runRepl]
    rw [hstdin, Bytes.lines_append, Bytes.lines_append front back, converse_append hstop, converse_append hstop]
  exact (run_of_perform hsame verbose).trans (run_of_perform rfl verbose).symm

/-- Behind a line of a lone byte 255, a session never sees a command to quit. -/
theorem run_repl_lines_broken_off :
    let settings : Settings := ⟨.ofLimit .off, [], false, false⟩
    let front := Bytes.ofString "\x0blet\r\n \u3000\n\t:h\n" ++ [255]
    let world : World := ⟨front ++ Bytes.lineFeed :: Bytes.ofString ":q\n", fun _ => .error .notFound⟩
    (∃ line ∈ Bytes.lines (front ++ [Bytes.lineFeed]), stops line = true) ∧
      (run settings world (.run .repl false)).stdout =
        unlines ["tinylex REPL", "Type ':quit' or ':q' to exit, ':help' for help", "",
          ">> ILLEGAL \"\\u\x7bb\x7d\"", "LET \"let\"", ">> >> REPL commands:", "  :quit, :q    Exit the REPL",
          "  :help, :h    Show this help message", "", "Any other input is scanned and its tokens printed."] ++ ">> " ∧
      (run settings world (.run .repl false)).status = 1 ∧
      run settings { world with stdin := front ++ Bytes.lineFeed :: [254] } (.run .repl false) =
        run settings world (.run .repl false) := by
  intro settings front world
  have hstop : ∃ line ∈ Bytes.lines (front ++ [Bytes.lineFeed]), stops line = true :=
    ⟨[255], by decide +kernel, by decide +kernel⟩
  have htexts : textsBefore world.stdin.lines = ["\x0blet", " \u3000", "\t:h"] := by decide +kernel
  have hbreaks : breaksOff world.stdin.lines = true := by decide +kernel
  obtain ⟨-, -, hstdout, hstatus, -, hbehind⟩ := run_repl_lines settings world false
  refine ⟨hstop, ?_, ?_, hbehind front _ [254] rfl hstop⟩
  · rw [hstdout, htexts, hbreaks]
    decide +kernel
  · rw [hstatus, hbreaks]
    rfl

end Command

/-! ## Gaps between lines -/

theorem tokenize_gap_append {gap : String} (hg : ∀ c ∈ gap.toList, isGap c = true) (rest : String) :
    tokenize (gap ++ rest) = tokenize rest := by
  let l : Layout := ⟨gap.toList, [], hg⟩
  have hl : l.source = gap := by
    rw [← String.toList_inj]
    simp [l, Layout.chars]
  rw [← hl]
  exact (Layout.tokenize_append_iff (l := l) .nil rest).mpr (by simp [l])

theorem tokenize_append_gap {gap : String} (hg : ∀ c ∈ gap.toList, isGap c = true) (hne : gap.toList ≠ [])
    (front rest : String) : tokenize (front ++ (gap ++ rest)) = (tokenize front).dropLast ++ tokenize rest := by
  obtain ⟨l, rfl, ha, htok⟩ := Layout.exists_layout front
  rw [htok, List.dropLast_concat, ← tokenize_gap_append hg rest]
  refine (Layout.tokenize_append_iff ha (gap ++ rest)).mpr fun p _ => ?_
  by_contra hstop
  obtain ⟨-, d, hd, habsorbs⟩ := p.not_stopsAt_iff _ |>.mp hstop
  have hgap : isGap d = true := by
    rw [String.toList_append, List.head?_append_of_ne_nil _ hne] at hd
    exact hg d (List.mem_of_mem_head? hd)
  rw [Kind.absorbs_of_isGap hgap] at habsorbs
  cases habsorbs

theorem dropLast_tokenize_eq_nil_iff (text : String) :
    (tokenize text).dropLast = [] ↔ text.toList.all isGap = true := by
  rw [List.all_eq_true]
  constructor
  · intro h
    obtain ⟨l, rfl, -, htok⟩ := Layout.exists_layout text
    rw [htok, List.dropLast_concat, Layout.tokens, List.map_eq_nil_iff] at h
    intro c hc
    rw [Layout.toList_source, Layout.chars, h, Layout.body_nil, List.append_nil] at hc
    exact l.isGap_lead c hc
  · intro h
    have hgap := tokenize_gap_append h ""
    rw [String.append_empty] at hgap
    rw [hgap]
    decide +kernel

/-! ## Lines -/

theorem flatMap_tokenize_lines {cs : List Char} {ls : List (List Char)} (h : IsLines '\n' '\r' cs ls) :
    ls.flatMap (fun line => (tokenize (String.ofList line)).dropLast) = (tokenize (String.ofList cs)).dropLast := by
  induction h with
  | none => decide +kernel
  | unended line _ _ => rw [List.flatMap_cons, List.flatMap_nil, List.append_nil]
  | @ended line rest lines _ _ ih =>
    obtain ⟨ends, hline, hends⟩ := exists_withoutEnd_append '\r' line
    have hgap : ∀ c ∈ (String.ofList (ends ++ ['\n'])).toList, isGap c = true := by
      intro c hc
      rw [String.toList_ofList] at hc
      rcases List.mem_append.mp hc with hc | hc
      · rw [hends c hc]; rfl
      · rw [List.mem_singleton.mp hc]; rfl
    have htext : String.ofList (line ++ '\n' :: rest) =
        String.ofList (withoutEnd '\r' line) ++ (String.ofList (ends ++ ['\n']) ++ String.ofList rest) := by
      rw [← String.ofList_append, ← String.ofList_append, List.append_assoc, ← List.append_assoc, ← hline]
      rfl
    rw [htext, tokenize_append_gap hgap (by simp), List.dropLast_append_of_ne_nil (Scanner.tokenize_ne_nil _),
      List.flatMap_cons, ih]

/-! ## Lines without tokens -/

theorem trim_eq_empty_iff (text : String) : trim text = "" ↔ text.toList.all isBlank = true := by
  rw [List.all_eq_true, ← String.toList_inj, trim, String.toList_ofList, String.toList_empty, List.reverse_eq_nil_iff,
    List.dropWhile_eq_nil_iff]
  constructor
  · intro h c hc
    rw [← List.takeWhile_append_dropWhile (p := isBlank) (l := text.toList)] at hc
    rcases List.mem_append.mp hc with hc | hc
    · exact List.mem_takeWhile_imp hc
    · exact h c (List.mem_reverse.mpr hc)
  · intro h c hc
    exact h c ((List.dropWhile_sublist isBlank).subset (List.mem_reverse.mp hc))

section

variable {α β : Type} {f g : α → List β} {xs : List α}

theorem length_flatMap_le_of_dropped (h : ∀ x ∈ xs, f x = g x ∨ f x = []) :
    (xs.flatMap f).length ≤ (xs.flatMap g).length := by
  induction xs with
  | nil => exact Nat.le_refl _
  | cons x xs ih =>
    have hrest := ih fun y hy => h y (List.mem_cons_of_mem x hy)
    rw [List.flatMap_cons, List.flatMap_cons, List.length_append, List.length_append]
    rcases h x List.mem_cons_self with hx | hx
    · rw [hx]; omega
    · rw [hx, List.length_nil]; omega

/-- Where some of the parts are dropped, the whole is left iff the dropped parts were empty. -/
theorem flatMap_eq_iff_of_dropped (h : ∀ x ∈ xs, f x = g x ∨ f x = []) :
    xs.flatMap f = xs.flatMap g ↔ ∀ x ∈ xs, f x = g x := by
  induction xs with
  | nil => simp
  | cons x xs ih =>
    have hrest : ∀ y ∈ xs, f y = g y ∨ f y = [] := fun y hy => h y (List.mem_cons_of_mem x hy)
    rw [List.forall_mem_cons, ← ih hrest, List.flatMap_cons, List.flatMap_cons]
    constructor
    · intro heq
      have hx : f x = g x := by
        rcases h x List.mem_cons_self with hx | hx
        · exact hx
        · have hlen := congrArg List.length heq
          have hle := length_flatMap_le_of_dropped hrest
          rw [hx, List.nil_append, List.length_append] at hlen
          rw [hx, List.eq_nil_of_length_eq_zero (l := g x) (by omega)]
      rw [hx] at heq
      exact ⟨hx, List.append_cancel_left heq⟩
    · rintro ⟨hx, heq⟩
      rw [hx, heq]

end

namespace Repl

theorem readIn_eq_iff (line : String) :
    readIn line = (tokenize line).dropLast ↔
      (line.toList.all isBlank = true → line.toList.all isGap = true) := by
  rw [readIn, ← trim_eq_empty_iff, ← dropLast_tokenize_eq_nil_iff]
  split
  · rename_i h
    rw [eq_comm]
    exact ⟨fun hnil _ => hnil, fun hnil => hnil h⟩
  · rename_i h
    exact iff_of_true rfl fun hblank => absurd hblank h

/-- What a session prints for the lines is what reading the whole text gives, iff no line is
    made of blanks with a stray among them. -/
theorem flatMap_readIn_iff {source : String} {lines : List String} (h : IsTextLines source lines) :
    lines.flatMap (fun line => (tokenize line).dropLast) = (tokenize source).dropLast ∧
      (lines.flatMap readIn = (tokenize source).dropLast ↔
        ∀ line ∈ lines, line.toList.all isBlank = true → line.toList.all isGap = true) := by
  have hwhole : lines.flatMap (fun line => (tokenize line).dropLast) = (tokenize source).dropLast := by
    have hlines := flatMap_tokenize_lines h
    rw [List.flatMap_map, String.ofList_toList] at hlines
    simpa only [String.ofList_toList] using hlines
  refine ⟨hwhole, ?_⟩
  rw [← hwhole, flatMap_eq_iff_of_dropped]
  · exact forall₂_congr fun line _ => readIn_eq_iff line
  · intro line _
    unfold readIn
    split
    · exact Or.inr rfl
    · exact Or.inl rfl

/-! ## A session without commands -/

theorem textsBefore_of_forall_not_stops {lines : List String}
    (h : ∀ line ∈ lines, trim line ≠ ":quit" ∧ trim line ≠ ":q") :
    textsBefore (lines.map Bytes.ofString) = lines ∧ breaksOff (lines.map Bytes.ofString) = false := by
  have hstops : ∀ line ∈ lines, stops (Bytes.ofString line) = false := by
    intro line hline
    simp [stops, Bytes.text?_ofString, h line hline]
  unfold textsBefore breaksOff
  constructor
  · rw [List.takeWhile_eq_self_iff.mpr (by simpa using hstops), Bytes.filterMap_text?_ofString]
  · rw [List.find?_eq_none.mpr (by simpa using hstops)]
    rfl

theorem answerLines_of_not_help {line : String} (h : trim line ≠ ":help" ∧ trim line ≠ ":h") :
    answerLines line = (readIn line).map Token.display := if_neg (not_or.mpr h)

end Repl

namespace Command

open Repl

/-- Without commands a session closes as it should, and prints the tokens of each line: those of
    the whole text, unless a line of blanks holds a stray. -/
theorem run_repl_tokens (settings : Settings) (world : World) (verbose : Bool) {source : String}
    (htext : world.stdin.text? = some source)
    (hplain : ∀ line ∈ Bytes.textLines source, trim line ∉ [":quit", ":q", ":help", ":h"]) :
    let report := run settings world (.run .repl verbose)
    let lines := Bytes.textLines source
    IsTextLines source lines ∧ report.status = 0 ∧ report.error = none ∧
      report.stdout =
        unlines [paint settings.coloured .blue "tinylex REPL", "Type ':quit' or ':q' to exit, ':help' for help", ""] ++
          String.join (lines.map fun line => ">> " ++ unlines ((readIn line).map Token.display)) ++ ">> " ++ "Goodbye!\n" ∧
      lines.flatMap (fun line => (tokenize line).dropLast) = (tokenize source).dropLast ∧
      (lines.flatMap readIn = (tokenize source).dropLast ↔
        ∀ line ∈ lines, line.toList.all isBlank = true → line.toList.all isGap = true) := by
  intro report lines
  have hlines := isTextLines_textLines source
  have hstdin : world.stdin.lines = lines.map Bytes.ofString := by
    rw [Bytes.text?_eq_some_iff.mp htext, Bytes.lines_ofString hlines]
  have hnone : ∀ line ∈ lines, trim line ≠ ":quit" ∧ trim line ≠ ":q" ∧ trim line ≠ ":help" ∧ trim line ≠ ":h" := by
    simpa using hplain
  have hgoes : ∀ line ∈ lines, trim line ≠ ":quit" ∧ trim line ≠ ":q" := fun line hline =>
    ⟨(hnone line hline).1, (hnone line hline).2.1⟩
  obtain ⟨htexts, hbreaks⟩ := textsBefore_of_forall_not_stops hgoes
  have hanswers : lines.map (fun text => ">> " ++ unlines (answerLines text)) =
      lines.map fun line => ">> " ++ unlines ((readIn line).map Token.display) :=
    List.map_congr_left fun line hline => by rw [answerLines_of_not_help (hnone line hline).2.2]
  have hstatus := status_run_repl settings world verbose
  have herror := error_run_repl settings world verbose
  have hstdout := stdout_run_repl settings world verbose
  rw [hstdin, hbreaks] at hstatus herror hstdout
  rw [htexts, hanswers] at hstdout
  exact ⟨hlines, hstatus, herror, hstdout, flatMap_readIn_iff hlines⟩

/-- A line that ends in a return and a feed, a line of gaps alone, and a stray blank behind a pair. -/
theorem run_repl_tokens_three_lines :
    let settings : Settings := ⟨.ofLimit .off, [], false, false⟩
    let source := "let x\r\n \t\n!=\u00a0"
    let world : World := ⟨Bytes.ofString source, fun _ => .error .notFound⟩
    (∀ line ∈ Bytes.textLines source, trim line ∉ [":quit", ":q", ":help", ":h"]) ∧
      (run settings world (.run .repl false)).status = 0 ∧
      (run settings world (.run .repl false)).stdout =
        unlines ["tinylex REPL", "Type ':quit' or ':q' to exit, ':help' for help", "", ">> LET \"let\"", "IDENT \"x\"",
          ">> >> != \"!=\"", "ILLEGAL \"\\u\x7ba0\x7d\"", ">> Goodbye!"] ∧
      (Bytes.textLines source).flatMap readIn = (tokenize source).dropLast := by
  intro settings source world
  have hlines : Bytes.textLines source = ["let x", " \t", "!=\u00a0"] := by decide +kernel
  have hplain : ∀ line ∈ Bytes.textLines source, trim line ∉ [":quit", ":q", ":help", ":h"] := by
    rw [hlines]; decide +kernel
  obtain ⟨-, hstatus, -, hstdout, -, hiff⟩ := run_repl_tokens settings world false (Bytes.text?_ofString source) hplain
  refine ⟨hplain, hstatus, ?_, hiff.mpr ?_⟩
  · rw [hstdout, hlines]
    decide +kernel
  · rw [hlines]
    decide +kernel

/-- Not every line's tokens are printed: a line of one no-break space is no command, and its
    token is passed over. -/
theorem run_repl_skips_stray :
    ¬ ∀ (world : World) (source : String), world.stdin.text? = some source →
      (∀ line ∈ Bytes.textLines source, trim line ∉ [":quit", ":q", ":help", ":h"]) →
      (run ⟨.ofLimit .off, [], false, false⟩ world (.run .repl false)).stdout =
        unlines ["tinylex REPL", "Type ':quit' or ':q' to exit, ':help' for help", ""] ++
          String.join ((Bytes.textLines source).map fun line => ">> " ++ unlines ((tokenize line).dropLast.map Token.display)) ++
          ">> " ++ "Goodbye!\n" := by
  intro h
  have hprinted := h ⟨Bytes.ofString "\u00a0\n", fun _ => .error .notFound⟩ "\u00a0\n" (Bytes.text?_ofString _)
    (by decide +kernel)
  revert hprinted
  decide +kernel

end Command

end Munch
