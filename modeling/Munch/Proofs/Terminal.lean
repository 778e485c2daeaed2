/-
  Munch.Proofs.Terminal — what a source can do to the terminal that its tokens are shown on: nothing.

  No text of a token brings a control character into what is written of it. Quoted text holds none
  (`noControl_encode`), and so neither do the parts that dumps and messages are made of. What is
  printed is lines, and the only controls in it are the feeds that end them (`Printed`).

  A colour sequence is an escape, a bracket, digits and semicolons, and an `m`; an escape that begins
  none is left where it stands. So a painted label comes to the label (`unpaints_paint`) and text
  without an escape to itself (`unpaints_self`), whatever follows, and text made of such parts comes to
  what they come to (`Unpaints.append`).

  With colours off, all that a run prints of a source is lines without control characters: a dump has
  one for each token (`printed_dump`), a session one for everything that it prints
  (`printed_session`), and a check that fails says so on one line. The JSON of a stream has controls only
  where its layout puts line feeds. So the only sequences in what a command prints are those of its own
  labels, and taking these out of a coloured run leaves the plain one (`unpaints_output`).
-/

import Mathlib.Data.List.Forall2
import Munch.Proofs.JsonStream
import Munch.Proofs.QuotedText
import Munch.Proofs.Reading
import Munch.Proofs.Session

namespace Munch

/-! ## Control characters -/

/-- A character of U+0000 to U+001F, or U+007F. -/
def isControl (c : Char) : Bool := c.toNat < 0x20 || c.toNat == 0x7f

def NoControl (text : String) : Prop := ∀ c ∈ text.toList, isControl c = false

instance (text : String) : Decidable (NoControl text) := List.decidableBAll (fun c => isControl c = false) text.toList

theorem isControl_of_not_isUnprintable {c : Char} (h : isUnprintable c = false) : isControl c = false := by
  refine eq_false_of_ne_true fun hcontrol => ?_
  have hcases : c.toNat < 0x20 ∨ c.toNat = 0x7f := by simpa [isControl] using hcontrol
  have hascii : c.toNat < 0x80 := by omega
  rw [(isUnprintable_iff_of_ascii hascii).mpr hcases] at h
  cases h

theorem not_isControl_of_le {c : Char} (hle : 0x20 ≤ c.toNat) (hne : c.toNat ≠ 0x7f) : isControl c = false := by
  simp [isControl, hne]
  omega

/-! ## Texts -/

namespace NoControl

theorem append {a b : String} (ha : NoControl a) (hb : NoControl b) : NoControl (a ++ b) := by
  intro c hc
  rw [String.toList_append, List.mem_append] at hc
  exact hc.elim (ha c) (hb c)

theorem intercalate {separator : String} (hs : NoControl separator) {texts : List String}
    (ht : ∀ text ∈ texts, NoControl text) : NoControl (separator.intercalate texts) := by
  induction texts with
  | nil =>
    rw [String.intercalate_nil]
    decide
  | cons text texts ih =>
    have hfirst := ht text List.mem_cons_self
    have hrest := ih fun later hlater => ht later (List.mem_cons_of_mem text hlater)
    cases texts with
    | nil =>
      rw [String.intercalate_singleton]
      exact hfirst
    | cons later texts =>
      rw [String.intercalate_cons_cons]
      exact (hfirst.append hs).append hrest

end NoControl

theorem noControl_encode (text : String) : NoControl (Quoted.encode text) := fun _ hc =>
  isControl_of_not_isUnprintable (Quoted.isUnprintable_eq_false_of_mem_encode hc)

theorem not_isControl_of_isDigit {c : Char} (h : c.isDigit = true) : isControl c = false := by
  have hdigit := toNat_of_isDigit h
  exact not_isControl_of_le (by omega) (by omega)

theorem noControl_repr (n : Nat) : NoControl n.repr := by
  intro c hc
  rw [Nat.toList_repr] at hc
  exact not_isControl_of_isDigit (Nat.isDigit_of_mem_toDigits (by decide) (by decide) hc)

theorem noControl_display (t : Token) : NoControl t.display := by
  have hname : NoControl t.kind.name := fun c hc =>
    have hgraphic := Kind.graphic_of_mem_name hc
    not_isControl_of_le (by omega) (by omega)
  exact (hname.append (by decide)).append (noControl_encode t.text)

theorem noControl_dumpLine (index : Nat) (t : Token) : NoControl (dumpLine index t) := by
  have hindex : NoControl (alignRight 4 index.repr) := by
    intro c hc
    rcases Dump.mem_index hc with rfl | hdigit
    · rfl
    · exact not_isControl_of_isDigit hdigit
  exact (hindex.append (by decide)).append (noControl_display t)

theorem noControl_message_illegalCharacters (count : Nat) (characters : List String) :
    NoControl (Failure.illegalCharacters count characters).message := by
  have hlist : NoControl (Failure.quotedList characters) := by
    refine NoControl.intercalate (by decide) fun text htext => ?_
    obtain ⟨character, -, rfl⟩ := List.mem_map.mp htext
    exact noControl_encode character
  exact ((noControl_repr count).append (by decide)).append hlist

/-! ## Printed lines -/

/-- The text is the lines, each with a line feed behind it, and no line holds a control character. -/
structure Printed (text : String) (lines : List String) : Prop where
  text_eq : text = unlines lines
  noControl : ∀ line ∈ lines, NoControl line

theorem Printed.escape_not_mem {text : String} {lines : List String} (h : Printed text lines) :
    '\x1b' ∉ text.toList := by
  intro hmem
  rw [h.text_eq, toList_unlines] at hmem
  obtain ⟨line, hline, hmem⟩ := List.mem_flatMap.mp hmem
  rcases List.mem_append.mp hmem with hmem | hmem
  · have hcontrol : isControl '\x1b' = false := h.noControl line hline '\x1b' hmem
    cases hcontrol
  · cases List.mem_singleton.mp hmem

/-! ## Colour sequences -/

/-- What may stand between the bracket of a sequence and its end. -/
def isParameter (c : Char) : Bool := c.isDigit || c == ';'

/-- What follows the sequence that some characters begin with, if they begin with one. -/
def afterSequence? : List Char → Option (List Char)
  | '\x1b' :: '[' :: rest =>
    match rest.dropWhile isParameter with
    | 'm' :: behind => some behind
    | _ => none
  | _ => none

theorem length_le_of_afterSequence? {c : Char} {rest behind : List Char}
    (h : afterSequence? (c :: rest) = some behind) : behind.length ≤ rest.length := by
  unfold afterSequence? at h
  split at h
  case h_1 parameters hcons =>
    have hle := (List.dropWhile_sublist isParameter (l := parameters)).length_le
    obtain ⟨-, rfl⟩ := List.cons.inj hcons
    split at h
    case h_1 behind' hdrop =>
      cases h
      rw [hdrop, List.length_cons] at hle
      rw [List.length_cons]
      omega
    case h_2 => cases h
  case h_2 => cases h

def withoutSequences (cs : List Char) : List Char :=
  match cs with
  | [] => []
  | c :: rest =>
    match h : afterSequence? (c :: rest) with
    | some behind =>
      have := length_le_of_afterSequence? h
      withoutSequences behind
    | none => c :: withoutSequences rest
termination_by cs.length

/-- A text without its colour sequences. -/
def unpainted (text : String) : String := String.ofList (withoutSequences text.toList)

/-! ## Without sequences -/

theorem withoutSequences_of_some {c : Char} {rest behind : List Char} (h : afterSequence? (c :: rest) = some behind) :
    withoutSequences (c :: rest) = withoutSequences behind := by
  rw [withoutSequences]
  split
  case h_1 behind' h' =>
    rw [h] at h'
    rw [Option.some.inj h']
  case h_2 h' =>
    rw [h] at h'
    cases h'

theorem withoutSequences_of_none {c : Char} {rest : List Char} (h : afterSequence? (c :: rest) = none) :
    withoutSequences (c :: rest) = c :: withoutSequences rest := by
  rw [withoutSequences]
  split
  case h_1 behind' h' =>
    rw [h] at h'
    cases h'
  case h_2 => rfl

/-- A sequence is dropped, whatever follows it. -/
theorem withoutSequences_sequence (parameters : List Char) (h : parameters.all isParameter = true) (rest : List Char) :
    withoutSequences ('\x1b' :: '[' :: (parameters ++ 'm' :: rest)) = withoutSequences rest := by
  refine withoutSequences_of_some ?_
  rw [afterSequence?, List.dropWhile_append_of_pos (List.all_eq_true.mp h)]
  rfl

theorem afterSequence?_eq_none {c : Char} (h : c ≠ '\x1b') (rest : List Char) : afterSequence? (c :: rest) = none := by
  unfold afterSequence?
  split
  case h_1 heq => exact absurd (List.cons.inj heq).1 h
  case h_2 => rfl

/-- What holds no escape is kept. -/
theorem withoutSequences_append {cs : List Char} (h : '\x1b' ∉ cs) (rest : List Char) :
    withoutSequences (cs ++ rest) = cs ++ withoutSequences rest := by
  induction cs with
  | nil => rfl
  | cons c cs ih =>
    obtain ⟨hc, hcs⟩ := not_or.mp (mt List.mem_cons.mpr h)
    rw [List.cons_append, withoutSequences_of_none (afterSequence?_eq_none (Ne.symm hc) _), ih hcs, List.cons_append]

/-! ## Part by part -/

/-- Without its sequences the text comes to the other one, whatever follows. -/
def Unpaints (text plain : String) : Prop :=
  ∀ rest, withoutSequences (text.toList ++ rest) = plain.toList ++ withoutSequences rest

theorem Unpaints.unpainted_eq {text plain : String} (h : Unpaints text plain) : unpainted text = plain := by
  have hall := h []
  rw [List.append_nil] at hall
  rw [unpainted, hall, withoutSequences, List.append_nil, String.ofList_toList]

theorem Unpaints.append {text text' plain plain' : String} (h : Unpaints text plain) (h' : Unpaints text' plain') :
    Unpaints (text ++ text') (plain ++ plain') := by
  intro rest
  rw [String.toList_append, String.toList_append, List.append_assoc, h, h', List.append_assoc]

theorem unpaints_self {text : String} (h : '\x1b' ∉ text.toList) : Unpaints text text := withoutSequences_append h

theorem unpaints_paint (coloured : Bool) (colour : Colour) {label : String} (h : '\x1b' ∉ label.toList) :
    Unpaints (paint coloured colour label) label := by
  cases coloured with
  | false => exact unpaints_self h
  | true =>
    have hopening : Unpaints ("\x1b[1;" ++ colour.code ++ "m") "" := by
      have hcode : ('1' :: ';' :: colour.code.toList).all isParameter = true := by
        cases colour <;> decide
      intro rest
      have hdropped := withoutSequences_sequence ('1' :: ';' :: colour.code.toList) hcode rest
      simpa [String.toList_append] using hdropped
    have hclosing : Unpaints "\x1b[0m" "" := fun rest => withoutSequences_sequence ['0'] (by decide) rest
    have hall := (hopening.append (unpaints_self h)).append hclosing
    rwa [String.empty_append, String.append_empty] at hall

/-- Printed lines of which only the first is painted. -/
theorem unpaints_unlines {line plain : String} (h : Unpaints line plain) {lines : List String}
    (hlines : '\x1b' ∉ (unlines lines).toList) : Unpaints (unlines (line :: lines)) (unlines (plain :: lines)) := by
  have hfeed : Unpaints "\n" "\n" := unpaints_self (by decide)
  rw [unlines_cons, unlines_cons]
  exact (h.append hfeed).append (unpaints_self hlines)

/-- A sequence without parameters, and two escapes that begin none. -/
example : unpainted "\x1b[1;34m=\x1b[m\x1b[;?\x1b\n" = "=\x1b[;?\x1b\n" := by decide +kernel

/-! ## Dumps -/

theorem intercalate_lineFeed {lines : List String} (h : lines ≠ []) :
    "\n".intercalate lines ++ "\n" = unlines lines := by
  induction lines with
  | nil => exact absurd rfl h
  | cons line lines ih =>
    cases lines with
    | nil => rw [String.intercalate_singleton, unlines_singleton]
    | cons later lines =>
      have hlater := ih (List.cons_ne_nil later lines)
      rw [String.intercalate_cons_cons, String.append_assoc, hlater, unlines_cons line]

/-- A dump has one line for each token. -/
theorem printed_dump {tokens : List Token} (h : tokens ≠ []) :
    Printed (unlines [dump tokens]) (tokens.zipIdx.map fun (t, i) => dumpLine i t) where
  text_eq := by
    rw [unlines_singleton, dump]
    exact intercalate_lineFeed (by simpa using h)
  noControl := by
    intro line hline
    obtain ⟨⟨t, i⟩, -, rfl⟩ := List.mem_map.mp hline
    exact noControl_dumpLine i t

namespace Repl

/-! ## Sessions -/

theorem noControl_answerLines {text line : String} (h : line ∈ answerLines text) : NoControl line := by
  by_cases hhelp : trim text = ":help" ∨ trim text = ":h"
  · have hsame : answerLines text = answerLines ":help" := by
      rw [answerLines, if_pos hhelp]
      decide +kernel
    have hall : ((answerLines ":help").all fun line => decide (NoControl line)) = true := by decide +kernel
    rw [hsame] at h
    exact of_decide_eq_true (List.all_eq_true.mp hall line h)
  · rw [answerLines_of_not_help (not_or.mp hhelp)] at h
    obtain ⟨t, -, rfl⟩ := List.mem_map.mp h
    exact noControl_display t

def prompts (count : Nat) : String := String.join (List.replicate count ">> ")

theorem prompts_zero : prompts 0 = "" := rfl

theorem prompts_succ (count : Nat) : prompts (count + 1) = prompts count ++ ">> " := by
  rw [prompts, prompts, List.replicate_succ', String.join_append]
  rfl

theorem noControl_prompts (count : Nat) : NoControl (prompts count) := by
  induction count with
  | zero => decide
  | succ count ih =>
    rw [prompts_succ]
    exact ih.append (by decide)

/-- The line is a printed text, behind the prompts that waited for it. -/
def Prompted (line printed : String) : Prop := ∃ waiting, line = prompts waiting ++ printed

/-- Lines that nothing waited for. -/
theorem forall₂_prompted_append (before : List String) {lines printed : List String}
    (h : List.Forall₂ Prompted lines printed) : List.Forall₂ Prompted (before ++ lines) (before ++ printed) :=
  List.rel_append (List.forall₂_same.mpr fun _ _ => ⟨0, rfl⟩) h

theorem noControl_of_prompted {lines printed : List String} (h : List.Forall₂ Prompted lines printed)
    (hp : ∀ text ∈ printed, NoControl text) : ∀ line ∈ lines, NoControl line := by
  induction h with
  | nil => nofun
  | cons hfirst _ ih =>
    rw [List.forall_mem_cons] at hp ⊢
    obtain ⟨waiting, rfl⟩ := hfirst
    exact ⟨(noControl_prompts waiting).append hp.1, ih hp.2⟩

/-- The lines of some answers behind prompts, and of a last one. A prompt without an answer waits for the
    next line. -/
theorem exists_prompted_lines (answers : List (List String)) (last : String) (waiting : Nat) :
    ∃ lines, prompts waiting ++ (String.join (answers.map fun answer => ">> " ++ unlines answer) ++
        (">> " ++ unlines [last])) = unlines lines ∧
      List.Forall₂ Prompted lines (answers.flatten ++ [last]) := by
  -- an answer of no lines adds to the prompts that wait, so their number varies in the induction
  induction answers generalizing waiting with
  | nil =>
    refine ⟨[prompts (waiting + 1) ++ last], ?_, .cons ⟨waiting + 1, rfl⟩ .nil⟩
    rw [List.map_nil, String.join_nil, String.empty_append, prompts_succ, unlines_singleton, unlines_singleton]
    simp only [String.append_assoc]
  | cons answer answers ih =>
    rw [List.map_cons, String.join_cons]
    cases answer with
    | nil =>
      obtain ⟨lines, hlines, hprompted⟩ := ih (waiting + 1)
      refine ⟨lines, ?_, hprompted⟩
      have hsilent : unlines [] = "" := rfl
      rw [← hlines, prompts_succ, hsilent, String.append_empty]
      simp only [String.append_assoc]
    | cons first later =>
      obtain ⟨lines, hlines, hprompted⟩ := ih 0
      refine ⟨(prompts (waiting + 1) ++ first) :: (later ++ lines), ?_, ?_⟩
      · rw [unlines_cons (prompts (waiting + 1) ++ first), unlines_append, ← hlines, prompts_succ, prompts_zero,
          String.empty_append, unlines_cons first]
        simp only [String.append_assoc]
      · rw [List.flatten_cons, List.cons_append, List.cons_append, List.append_assoc]
        exact .cons ⟨waiting + 1, rfl⟩ (forall₂_prompted_append later hprompted)

def openingLines : List String := ["tinylex REPL", "Type ':quit' or ':q' to exit, ':help' for help", ""]

/-- A session that is not broken off prints the lines of its opening, those of its answers, and a
    farewell. -/
theorem printed_session {lines : List Bytes} (h : breaksOff lines = false) :
    ∃ shown, Printed (output false (converse lines)) shown ∧
      List.Forall₂ Prompted shown (openingLines ++ (textsBefore lines).flatMap answerLines ++ ["Goodbye!"]) := by
  obtain ⟨behind, hbehind, hprompted⟩ := exists_prompted_lines ((textsBefore lines).map answerLines) "Goodbye!" 0
  have hall := forall₂_prompted_append openingLines hprompted
  rw [← List.flatMap_def, ← List.append_assoc] at hall
  refine ⟨openingLines ++ behind, ⟨?_, noControl_of_prompted hall ?_⟩, hall⟩
  · have hanswers : (textsBefore lines).map (fun text => ">> " ++ unlines (answerLines text)) =
        ((textsBefore lines).map answerLines).map fun answer => ">> " ++ unlines answer := by
      rw [List.map_map]
      rfl
    have hopening : opening false = unlines openingLines := rfl
    have hfarewell : unlines ["Goodbye!"] = "Goodbye!\n" := by decide
    rw [prompts_zero, String.empty_append, hfarewell] at hbehind
    rw [output_eq, h, hanswers, unlines_append, ← hbehind, hopening, String.append_assoc, String.append_assoc]
    rfl
  · intro text htext
    rw [List.append_assoc, List.mem_append, List.mem_append] at htext
    rcases htext with hopening | hanswer | hfarewell
    · have hall : (openingLines.all fun line => decide (NoControl line)) = true := by decide
      exact of_decide_eq_true (List.all_eq_true.mp hall text hopening)
    · obtain ⟨answered, -, hline⟩ := List.mem_flatMap.mp hanswer
      exact noControl_answerLines hline
    · rw [List.mem_singleton.mp hfarewell]
      decide

end Repl

namespace Command

open Repl

variable {settings : Settings} {world : World} {input source : String} {bytes : Bytes}

theorem breaksOff_of_text (h : bytes.text? = some source) : breaksOff bytes.lines = false := by
  rw [Bytes.text?_eq_some_iff.mp h, Bytes.lines_ofString (isTextLines_textLines source), breaksOff]
  cases hfind : ((Bytes.textLines source).map Bytes.ofString).find? stops with
  | none => rfl
  | some line =>
    obtain ⟨text, -, rfl⟩ := List.mem_map.mp (List.mem_of_find?_eq_some hfind)
    rw [Option.any_some, Bytes.text?_ofString]
    rfl

/-! ## JSON and refusals -/

theorem laidOut_tokensText (tokens : List Token) : Json.LaidOut (unlines [tokensText .json tokens]).toList := by
  have hfeed : Json.LaidOutWhole ['\n'] := Json.laidOutWhole_between (by simp)
  rw [unlines_singleton, String.toList_append]
  exact ((Json.laidOutWhole_write .pretty (Token.streamToJson tokens)).append hfeed).1

/-- A check of a text fails iff there are stray characters in it, and says so on one line. -/
theorem error_check_of_text (h : world.Supplies input bytes) (htext : bytes.text? = some source)
    (hplain : settings.coloured = false) (verbose : Bool) :
    let check := run settings world (.run (.check input) verbose)
    (check.error = none ↔ strays source.toList = []) ∧
      ∀ text, check.error = some text → ∃ line, Printed text [line] := by
  intro check
  have herror : check.error = (runCheck false world input).fault.map (Report.errorLine false) := by
    rw [← hplain]
    rfl
  have hstrays : (illegalTexts (tokenize source)).isEmpty = true ↔ strays source.toList = [] := by
    rw [illegalTexts_tokenize, List.isEmpty_map, List.isEmpty_iff]
  rw [runCheck_of_ok (source_of_text h htext)] at herror
  split at herror
  case isTrue hnone =>
    refine ⟨iff_of_true herror (hstrays.mp hnone), fun text htext => ?_⟩
    rw [herror] at htext
    cases htext
  case isFalse hsome =>
    refine ⟨iff_of_false (by rw [herror]; exact Option.some_ne_none _) (mt hstrays.mpr hsome), fun text htext => ?_⟩
    rw [herror] at htext
    cases htext
    refine ⟨_, rfl, fun line hline => ?_⟩
    rw [List.mem_singleton.mp hline]
    exact NoControl.append (by decide) (noControl_message_illegalCharacters _ _)

/-! ## Colours -/

theorem printed_answerLines (text : String) : Printed (unlines (answerLines text)) (answerLines text) :=
  ⟨rfl, fun _ => noControl_answerLines⟩

theorem escape_not_mem_runTokens (world : World) (input : String) (format : Format) :
    '\x1b' ∉ (runTokens world input format).output.toList := by
  cases hsource : world.source input with
  | error fault =>
    rw [runTokens_of_error hsource]
    exact List.not_mem_nil
  | ok source =>
    rw [runTokens_of_ok hsource]
    cases format with
    | text => exact (printed_dump (Scanner.tokenize_ne_nil source)).escape_not_mem
    | json =>
      intro hmem
      cases (laidOut_tokensText (tokenize source)).eq_lineFeed hmem (by decide)

theorem unpaints_runCheck (world : World) (input : String) :
    Unpaints (runCheck true world input).output (runCheck false world input).output := by
  have hempty : Unpaints "" "" := unpaints_self (by decide)
  cases hsource : world.source input with
  | error fault =>
    rw [runCheck_of_error hsource, runCheck_of_error hsource]
    exact hempty
  | ok source =>
    have hlabel : Unpaints (paint true .green "success") "success" := unpaints_paint true .green (by decide)
    have hrest : Unpaints ": no illegal characters" ": no illegal characters" := unpaints_self (by decide)
    rw [runCheck_of_ok hsource, runCheck_of_ok hsource]
    split
    · exact unpaints_unlines (hlabel.append hrest) (by decide)
    · exact hempty

theorem unpaints_runRepl (world : World) : Unpaints (runRepl true world).output (runRepl false world).output := by
  have hheading : Unpaints (paint true .blue "tinylex REPL") "tinylex REPL" := unpaints_paint true .blue (by decide)
  have hopening : Unpaints (opening true) (opening false) := unpaints_unlines hheading (by decide +kernel)
  have hanswers :
      '\x1b' ∉ (String.join ((textsBefore world.stdin.lines).map fun text => ">> " ++ unlines (answerLines text))).toList := by
    intro hmem
    rw [String.toList_join] at hmem
    obtain ⟨answer, hanswer, hmem⟩ := List.mem_flatMap.mp hmem
    obtain ⟨text, -, rfl⟩ := List.mem_map.mp hanswer
    rw [String.toList_append, List.mem_append] at hmem
    rcases hmem with hmem | hmem
    · exact absurd hmem (by decide)
    · exact (printed_answerLines text).escape_not_mem hmem
  have hprompt : Unpaints ">> " ">> " := unpaints_self (by decide)
  have hfarewell : '\x1b' ∉ (if breaksOff world.stdin.lines then "" else "Goodbye!\n").toList := by
    split
    · decide
    · decide
  have houtput : ∀ coloured, (runRepl coloured world).output = _ := fun coloured => output_eq coloured world.stdin.lines
  rw [houtput, houtput]
  exact ((hopening.append (unpaints_self hanswers)).append hprompt).append (unpaints_self hfarewell)

/-- Without the sequences of its labels, what a command prints in colour is what it prints without. -/
theorem unpaints_output (world : World) (command : Command) :
    Unpaints (command.perform true world).output (command.perform false world).output := by
  cases command with
  | tokens input format => exact unpaints_self (escape_not_mem_runTokens world input format)
  | check input => exact unpaints_runCheck world input
  | keywords =>
    have hheading : Unpaints (paint true .blue "=== Keywords ===") "=== Keywords ===" :=
      unpaints_paint true .blue (by decide)
    exact unpaints_unlines hheading (by decide +kernel)
  | repl => exact unpaints_runRepl world

/-- Whatever a text holds, what is printed of it without colours is lines that hold no control
    characters: one for each token of a dump, one for each thing that a session prints, and one that
    says why a check fails. JSON has none below U+0020 but the line feeds of its layout. And of any
    run, what is printed in colour is the same but for the sequences that colour the labels. -/
theorem source_injects_nothing (hplain : settings.coloured = false) (h : world.Supplies input bytes)
    (htext : bytes.text? = some source) (verbose : Bool) :
    let tokens := fun format => run settings world (.run (.tokens input format) verbose)
    let check := run settings world (.run (.check input) verbose)
    let session := run settings { world with stdin := bytes } (.run .repl verbose)
    Printed (tokens .text).stdout ((tokenize source).zipIdx.map fun (t, i) => dumpLine i t) ∧
      (∃ lines, Printed session.stdout lines ∧
        List.Forall₂ Prompted lines (openingLines ++ (textsBefore bytes.lines).flatMap answerLines ++ ["Goodbye!"])) ∧
      ((check.error = none ↔ strays source.toList = []) ∧
        ∀ text, check.error = some text → ∃ line, Printed text [line]) ∧
      Json.LaidOut (tokens .json).stdout.toList ∧
      ∀ painted : Settings, painted.coloured = true → ∀ world command,
        unpainted (run painted world (.run command verbose)).stdout =
          (run settings world (.run command verbose)).stdout := by
  intro tokens check session
  have hstdout : ∀ format, (tokens format).stdout = unlines [tokensText format (tokenize source)] := fun format =>
    congrArg Outcome.output (runTokens_of_ok (source_of_text h htext) format)
  have hsession : session.stdout = (runRepl settings.coloured { world with stdin := bytes }).output := rfl
  refine ⟨?_, ?_, error_check_of_text h htext hplain verbose, ?_, fun painted hpainted world command => ?_⟩
  · rw [hstdout]
    exact printed_dump (Scanner.tokenize_ne_nil source)
  · rw [hsession, hplain]
    exact printed_session (breaksOff_of_text htext)
  · rw [hstdout]
    exact laidOut_tokensText (tokenize source)
  · have houtput : ∀ (settings : Settings), (run settings world (.run command verbose)).stdout =
        (command.perform settings.coloured world).output := fun _ => rfl
    rw [houtput, houtput, hpainted, hplain]
    exact (unpaints_output world command).unpainted_eq

/-- A source that would switch a colour on, begin a line of its own and end the text. -/
theorem source_injects_nothing_hostile :
    let plain : Settings := ⟨.ofLimit .off, [], false, false⟩
    let painted : Settings := { plain with coloured := true }
    let source := "a\x1b[1m\x7f\r\n\x00"
    let world : World := ⟨Bytes.ofString source, fun _ => .error .notFound⟩
    plain.coloured = false ∧ world.Supplies "-" (Bytes.ofString source) ∧ painted.coloured = true ∧
      (run plain world (.run (.tokens "-" .text) false)).stdout =
        unlines ["   0: IDENT \"a\"", "   1: ILLEGAL \"\\u\x7b1b\x7d\"", "   2: ILLEGAL \"[\"", "   3: INT \"1\"",
          "   4: IDENT \"m\"", "   5: ILLEGAL \"\\u\x7b7f\x7d\"", "   6: ILLEGAL \"\\0\"", "   7: EOF \"\""] ∧
      Json.LaidOut (run plain world (.run (.tokens "-" .json) false)).stdout.toList ∧
      (run plain world (.run (.check "-") false)).error ≠ none ∧
      (run painted world (.run .repl false)).stdout ≠ (run plain world (.run .repl false)).stdout ∧
      unpainted (run painted world (.run .repl false)).stdout = (run plain world (.run .repl false)).stdout := by
  intro plain painted source world
  have hstdin : world.Supplies "-" (Bytes.ofString source) := Or.inl ⟨by decide +kernel, rfl⟩
  obtain ⟨hdump, -, ⟨hcheck, -⟩, hjson, hcolour⟩ :=
    source_injects_nothing (rfl : plain.coloured = false) hstdin (Bytes.text?_ofString source) false
  refine ⟨rfl, hstdin, rfl, ?_, hjson, ?_, by decide +kernel, hcolour painted rfl world .repl⟩
  · rw [hdump.text_eq]
    decide +kernel
  · rw [Ne, hcheck]
    decide +kernel

end Command

end Munch
