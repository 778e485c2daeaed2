/-
  Munch.Proofs.Reading — the commands that read an input agree on its bytes, wherever these come
  from.

  A path supplies bytes from standard input or from a file (`World.Supplies`), and then it names
  the text of the bytes or a fault that says that they are none (`source_of_supplies`). On a text
  both formats list its tokens and a check passes iff none of them is illegal; on anything else
  all of them fail alike: nothing is printed, and the line that says why is the only one of its
  kind and the last (`not_isPrefix_of_mem`).
-/

import Munch.Command.Run
import Munch.Proofs.JsonText
import Munch.Proofs.Lines
import Munch.Proofs.Strays

namespace Munch.Command

/-! ## Sources -/

/-- Whether a command that is given the path reads the bytes. -/
def World.Supplies (world : World) (path : String) (bytes : Bytes) : Prop :=
  (isStdin path = true ∧ world.stdin = bytes) ∨ (isStdin path = false ∧ world.file path = .ok bytes)

/-- Why bytes that are no text are refused. -/
def notText (path : String) : Fault :=
  if isStdin path then .stdinNotText else .refused (.unreadable path "stream did not contain valid UTF-8")

variable {world : World} {input : String} {bytes : Bytes}

theorem source_of_supplies (h : world.Supplies input bytes) :
    world.source input = match bytes.text? with
      | some source => .ok source
      | none => .error (notText input) := by
  unfold World.source notText
  rcases h with ⟨hpath, rfl⟩ | ⟨hpath, hfile⟩
  · rw [if_pos hpath, if_pos hpath]
    rfl
  · rw [if_neg (by simp [hpath]), if_neg (by simp [hpath]), hfile]
    rfl

theorem source_of_text (h : world.Supplies input bytes) {source : String} (htext : bytes.text? = some source) :
    world.source input = .ok source := by
  rw [source_of_supplies h, htext]

theorem source_of_not_text (h : world.Supplies input bytes) (htext : bytes.text? = none) :
    world.source input = .error (notText input) := by
  rw [source_of_supplies h, htext]

/-! ## Outcomes -/

theorem runTokens_of_ok {source : String} (h : world.source input = .ok source) (format : Format) :
    runTokens world input format =
      ⟨unlines [tokensText format (tokenize source)], .scanning input :: (scan source).events, none⟩ := by
  rw [runTokens, h]
  rfl

theorem runTokens_of_error {fault : Fault} (h : world.source input = .error fault) (format : Format) :
    runTokens world input format = .fail [.scanning input] fault := by
  rw [runTokens, h]

theorem runCheck_of_ok {source : String} (h : world.source input = .ok source) (coloured : Bool) :
    let illegal := illegalTexts (tokenize source)
    let events := .checking input :: (scan source).events
    runCheck coloured world input =
      if illegal.isEmpty then ⟨unlines [paint coloured .green "success" ++ ": no illegal characters"], events, none⟩
      else .fail events (.refused (.illegalCharacters illegal.length illegal)) := by
  intro illegal events
  have hverdict : rejectIllegal (scan source).tokens =
      if illegal.isEmpty then .ok () else .error (.illegalCharacters illegal.length illegal) := rejectIllegal_eq _
  simp only [runCheck, h, hverdict]
  cases illegal.isEmpty with
  | true => rfl
  | false => rfl

theorem runCheck_of_error {fault : Fault} (h : world.source input = .error fault) (coloured : Bool) :
    runCheck coloured world input = .fail [.checking input] fault := by
  rw [runCheck, h]

/-! ## Reports -/

section

variable {settings : Settings} {verbose : Bool} {command : Command} {events : List Event}

theorem run_of_ok {output : String} (h : command.perform settings.coloured world = ⟨output, events, none⟩) :
    let report := run settings world (.run command verbose)
    report.status = 0 ∧ report.stdout = output ∧ report.error = none := by
  intro report
  have hreport : report = _ := run_of_perform h verbose
  rw [hreport]
  exact ⟨rfl, rfl, rfl⟩

theorem run_of_fail {fault : Fault} (h : command.perform settings.coloured world = .fail events fault) :
    let report := run settings world (.run command verbose)
    report.status = 1 ∧ report.stdout = "" ∧
      report.error = some (paint settings.coloured .red "error" ++ ": " ++ fault.message ++ "\n") := by
  intro report
  have hreport : report = _ := run_of_perform h verbose
  rw [hreport]
  exact ⟨rfl, rfl, congrArg some (unlines_singleton _)⟩

theorem paint_error_eq_cons (coloured : Bool) :
    ∃ c cs, (paint coloured .red "error").toList = c :: cs ∧ c ≠ 'w' ∧ c ≠ '[' := by
  cases coloured with
  | false => exact ⟨'e', ['r', 'r', 'o', 'r'], by decide +kernel, by decide, by decide⟩
  | true => exact ⟨'\x1b', (paint true .red "error").toList.tail, by decide +kernel, by decide, by decide⟩

theorem run_congr {world' : World} {command' : Command}
    (hfault : (command'.perform settings.coloured world').fault.isSome = (command.perform settings.coloured world).fault.isSome)
    (houtput : (command'.perform settings.coloured world').output = (command.perform settings.coloured world).output) :
    (run settings world' (.run command' verbose)).status = (run settings world (.run command verbose)).status ∧
      (run settings world' (.run command' verbose)).stdout = (run settings world (.run command verbose)).stdout :=
  ⟨congrArg (fun failed : Bool => if failed then 1 else 0) hfault, houtput⟩

theorem stderr_of_error {report : Report} {line : String} (h : report.error = some line) :
    report.stderr = String.join (report.notices ++ report.log) ++ line := by
  rw [Report.stderr, h]
  rfl

/-- No other line on standard error begins as the line does that says why a run failed: a
    notice begins with a warning, and a line of the log with a bracket. -/
theorem not_isPrefix_of_mem :
    let report := run settings world (.run command verbose)
    ∀ line ∈ report.notices ++ report.log, ¬ (paint settings.coloured .red "error").toList <+: line.toList := by
  intro report line hline hprefix
  have hother : line.toList.head? = some 'w' ∨ line.toList.head? = some '[' := by
    rcases List.mem_append.mp hline with hnotice | hlog
    · obtain ⟨complaint, -, rfl⟩ := List.mem_map.mp hnotice
      left
      simp [Complaint.line, unlines_singleton, String.toList_append]
    · obtain ⟨event, -, rfl⟩ := List.mem_map.mp hlog
      right
      simp [Event.line, String.toList_append]
  obtain ⟨c, cs, hlabel, hw, hbracket⟩ := paint_error_eq_cons settings.coloured
  obtain ⟨rest, hrest⟩ := hprefix
  rw [← hrest, hlabel, List.cons_append, List.head?_cons] at hother
  rcases hother with hc | hc
  · exact hw (Option.some.inj hc)
  · exact hbracket (Option.some.inj hc)

end

/-! ## The commands side by side -/

theorem illegalTexts_eq_nil_iff (tokens : List Token) :
    illegalTexts tokens = [] ↔ tokens.filter (fun t => t.kind == .illegal) = [] := List.map_eq_nil_iff

theorem message_illegalTexts (tokens : List Token) :
    let illegal := tokens.filter fun t => t.kind == .illegal
    (Fault.refused (.illegalCharacters (illegalTexts tokens).length (illegalTexts tokens))).message =
      illegal.length.repr ++ " illegal character(s): " ++ ", ".intercalate (illegal.map fun t => Quoted.encode t.text) := by
  intro illegal
  have hcount : (illegalTexts tokens).length = illegal.length := List.length_map _
  have htexts : (illegalTexts tokens).map Quoted.encode = illegal.map fun t => Quoted.encode t.text := List.map_map
  show (illegalTexts tokens).length.repr ++ " illegal character(s): " ++
    ", ".intercalate ((illegalTexts tokens).map Quoted.encode) = _
  rw [hcount, htexts]

section

variable {world' : World} {input' : String}

theorem source_agrees (h : world.Supplies input bytes) (h' : world'.Supplies input' bytes) :
    (∃ source, world.source input = .ok source ∧ world'.source input' = .ok source) ∨
      ∃ fault fault', world.source input = .error fault ∧ world'.source input' = .error fault' := by
  cases htext : bytes.text? with
  | none => exact Or.inr ⟨_, _, source_of_not_text h htext, source_of_not_text h' htext⟩
  | some source => exact Or.inl ⟨source, source_of_text h htext, source_of_text h' htext⟩

theorem runTokens_congr (h : world.Supplies input bytes) (h' : world'.Supplies input' bytes) (format : Format) :
    (runTokens world' input' format).fault.isSome = (runTokens world input format).fault.isSome ∧
      (runTokens world' input' format).output = (runTokens world input format).output := by
  rcases source_agrees h h' with ⟨source, hsource, hsource'⟩ | ⟨fault, fault', hsource, hsource'⟩
  · rw [runTokens_of_ok hsource, runTokens_of_ok hsource']
    exact ⟨rfl, rfl⟩
  · rw [runTokens_of_error hsource, runTokens_of_error hsource']
    exact ⟨rfl, rfl⟩

theorem runCheck_congr (h : world.Supplies input bytes) (h' : world'.Supplies input' bytes) (coloured : Bool) :
    (runCheck coloured world' input').fault.isSome = (runCheck coloured world input).fault.isSome ∧
      (runCheck coloured world' input').output = (runCheck coloured world input).output := by
  rcases source_agrees h h' with ⟨source, hsource, hsource'⟩ | ⟨fault, fault', hsource, hsource'⟩
  · rw [runCheck_of_ok hsource, runCheck_of_ok hsource']
    cases (illegalTexts (tokenize source)).isEmpty with
    | true => exact ⟨rfl, rfl⟩
    | false => exact ⟨rfl, rfl⟩
  · rw [runCheck_of_error hsource, runCheck_of_error hsource']
    exact ⟨rfl, rfl⟩

end

section

variable {settings : Settings} {verbose : Bool}

/-- On a text, both formats list its tokens. -/
theorem tokens_of_text (h : world.Supplies input bytes) {source : String} (htext : bytes.text? = some source) :
    let tokens := fun format => run settings world (.run (.tokens input format) verbose)
    (∀ format, (tokens format).status = 0 ∧ (tokens format).error = none) ∧
      (tokens .text).stdout = dump (tokenize source) ++ "\n" ∧
      Json.parse? (tokens .json).stdout =
        some (.array ((tokenize source).map fun t => .object [("kind", .string t.kind.label), ("text", .string t.text)])) := by
  intro tokens
  have hreport : ∀ format, (tokens format).status = 0 ∧ (tokens format).stdout = unlines [tokensText format (tokenize source)] ∧
      (tokens format).error = none := fun format => run_of_ok (runTokens_of_ok (source_of_text h htext) format)
  refine ⟨fun format => ⟨(hreport format).1, (hreport format).2.2⟩, ?_, ?_⟩
  · rw [(hreport .text).2.1, unlines_singleton]
    rfl
  · rw [(hreport .json).2.1, unlines_singleton]
    exact Json.parse?_write .pretty (Token.streamToJson (tokenize source)) (by decide)

/-- On a text, a check names the illegal ones of its tokens, and passes when there are none. -/
theorem check_of_text (h : world.Supplies input bytes) {source : String} (htext : bytes.text? = some source) :
    let illegal := (tokenize source).filter fun t => t.kind == .illegal
    let check := run settings world (.run (.check input) verbose)
    (illegal = [] → check.status = 0 ∧ check.error = none ∧
        check.stdout = paint settings.coloured .green "success" ++ ": no illegal characters\n") ∧
      (illegal ≠ [] → check.status = 1 ∧ check.stdout = "" ∧
        check.error = some (paint settings.coloured .red "error" ++ ": " ++ (illegal.length.repr ++ " illegal character(s): " ++
          ", ".intercalate (illegal.map fun t => Quoted.encode t.text)) ++ "\n")) := by
  intro illegal check
  have hcheck := runCheck_of_ok (source_of_text h htext) settings.coloured
  constructor
  · intro hnone
    have hempty : (illegalTexts (tokenize source)).isEmpty = true :=
      List.isEmpty_iff.mpr ((illegalTexts_eq_nil_iff _).mpr hnone)
    obtain ⟨hstatus, hstdout, herror⟩ : check.status = 0 ∧ check.stdout = _ ∧ check.error = none :=
      run_of_ok (hcheck.trans (if_pos hempty))
    refine ⟨hstatus, herror, ?_⟩
    rw [hstdout, unlines_singleton, String.append_assoc]
    rfl
  · intro hsome
    have hfilled : ¬ (illegalTexts (tokenize source)).isEmpty = true := fun hempty =>
      hsome ((illegalTexts_eq_nil_iff _).mp (List.isEmpty_iff.mp hempty))
    obtain ⟨hstatus, hstdout, herror⟩ : check.status = 1 ∧ check.stdout = "" ∧ check.error = some _ :=
      run_of_fail (hcheck.trans (if_neg hfilled))
    rw [message_illegalTexts] at herror
    exact ⟨hstatus, hstdout, herror⟩

/-- A command that fails over bytes that are no text prints nothing, and says why in the last line. -/
theorem report_of_not_text {command : Command} {events : List Event}
    (h : command.perform settings.coloured world = .fail events (notText input)) :
    let report := run settings world (.run command verbose)
    report.status = 1 ∧ report.stdout = "" ∧
      report.stderr = String.join (report.notices ++ report.log) ++
        (paint settings.coloured .red "error" ++ ": " ++ (notText input).message ++ "\n") ∧
      ∀ line ∈ report.notices ++ report.log, ¬ (paint settings.coloured .red "error").toList <+: line.toList := by
  intro report
  obtain ⟨hstatus, hstdout, herror⟩ : report.status = 1 ∧ report.stdout = "" ∧ report.error = some _ := run_of_fail h
  exact ⟨hstatus, hstdout, stderr_of_error herror, not_isPrefix_of_mem⟩

end

/-- On the same bytes the commands agree: on a text both formats list its tokens, and a check
    names the illegal ones of them; what is no text is refused by all of them, with nothing
    printed and one line that says why at the end. Where the bytes come from makes no difference. -/
theorem commands_agree (settings : Settings) (h : world.Supplies input bytes) (verbose : Bool) :
    let label := paint settings.coloured .red "error"
    let tokens := fun format => run settings world (.run (.tokens input format) verbose)
    let check := run settings world (.run (.check input) verbose)
    (∀ source, bytes.text? = some source →
      let read := tokenize source
      let illegal := read.filter fun t => t.kind == .illegal
      (∀ format, (tokens format).status = 0 ∧ (tokens format).error = none) ∧
        (tokens .text).stdout = dump read ++ "\n" ∧
        Json.parse? (tokens .json).stdout =
          some (.array (read.map fun t => .object [("kind", .string t.kind.label), ("text", .string t.text)])) ∧
        (illegal = [] → check.status = 0 ∧ check.error = none ∧
          check.stdout = paint settings.coloured .green "success" ++ ": no illegal characters\n") ∧
        (illegal ≠ [] → check.status = 1 ∧ check.stdout = "" ∧
          check.error = some (label ++ ": " ++ (illegal.length.repr ++ " illegal character(s): " ++
            ", ".intercalate (illegal.map fun t => Quoted.encode t.text)) ++ "\n"))) ∧
      (bytes.text? = none → ∀ report ∈ [tokens .text, tokens .json, check], report.status = 1 ∧ report.stdout = "" ∧
        report.stderr = String.join (report.notices ++ report.log) ++ (label ++ ": " ++ (notText input).message ++ "\n") ∧
        ∀ line ∈ report.notices ++ report.log, ¬ label.toList <+: line.toList) ∧
      ∀ world' input', World.Supplies world' input' bytes →
        let tokens' := fun format => run settings world' (.run (.tokens input' format) verbose)
        let check' := run settings world' (.run (.check input') verbose)
        (∀ format, (tokens' format).status = (tokens format).status ∧ (tokens' format).stdout = (tokens format).stdout) ∧
          check'.status = check.status ∧ check'.stdout = check.stdout := by
  intro label tokens check
  refine ⟨?_, ?_, ?_⟩
  · intro source htext read illegal
    obtain ⟨hstatus, hdump, hjson⟩ := tokens_of_text h htext
    exact ⟨hstatus, hdump, hjson, check_of_text h htext⟩
  · intro htext
    have hsource := source_of_not_text h htext
    simp only [List.forall_mem_cons]
    exact ⟨report_of_not_text (runTokens_of_error hsource .text), report_of_not_text (runTokens_of_error hsource .json),
      report_of_not_text (runCheck_of_error hsource settings.coloured), fun report hreport => by cases hreport⟩
  · intro world' input' h' tokens' check'
    refine ⟨fun format => ?_, ?_⟩
    · obtain ⟨hfault, houtput⟩ := runTokens_congr h h' format
      exact run_congr hfault houtput
    · obtain ⟨hfault, houtput⟩ := runCheck_congr h h' settings.coloured
      exact run_congr hfault houtput

/-- A file with two stray characters, and a standard input that is no text. -/
theorem commands_agree_refusing :
    let settings : Settings := ⟨.ofLimit .off, [], false, false⟩
    let world : World := ⟨[0x66, 0xff], fun _ => .ok (Bytes.ofString "f#@")⟩
    world.Supplies "a.tl" (Bytes.ofString "f#@") ∧ world.Supplies "-/." [0x66, 0xff] ∧
      (run settings world (.run (.tokens "a.tl" .text) false)).stdout =
        "   0: IDENT \"f\"\n   1: ILLEGAL \"#\"\n   2: ILLEGAL \"@\"\n   3: EOF \"\"\n" ∧
      Json.parse? (run settings world (.run (.tokens "a.tl" .json) false)).stdout =
        some (.array [.object [("kind", .string "Identifier"), ("text", .string "f")],
          .object [("kind", .string "Illegal"), ("text", .string "#")],
          .object [("kind", .string "Illegal"), ("text", .string "@")],
          .object [("kind", .string "EndOfInput"), ("text", .string "")]]) ∧
      (run settings world (.run (.check "a.tl") false)).error = some "error: 2 illegal character(s): \"#\", \"@\"\n" ∧
      (run settings world (.run (.tokens "-/." .json) true)).stdout = "" ∧
      (run settings world (.run (.check "-/.") true)).stderr = "error: Failed to read source from stdin\n" := by
  intro settings world
  have hfile : world.Supplies "a.tl" (Bytes.ofString "f#@") := Or.inr ⟨by decide +kernel, rfl⟩
  have hstdin : world.Supplies "-/." [0x66, 0xff] := Or.inl ⟨by decide +kernel, rfl⟩
  have htokens : tokenize "f#@" = [⟨.identifier, "f"⟩, ⟨.illegal, "#"⟩, ⟨.illegal, "@"⟩, ⟨.endOfInput, ""⟩] := by
    decide +kernel
  have hillegal : (tokenize "f#@").filter (fun t => t.kind == .illegal) = [⟨.illegal, "#"⟩, ⟨.illegal, "@"⟩] := by
    rw [htokens]
    decide
  obtain ⟨htext, -, -⟩ := commands_agree settings hfile false
  obtain ⟨-, hstdout, hjson, -, hcheck⟩ := htext "f#@" (Bytes.text?_ofString "f#@")
  obtain ⟨-, -, herror⟩ := hcheck (by rw [hillegal]; exact List.cons_ne_nil _ _)
  obtain ⟨-, hrefused, -⟩ := commands_agree settings hstdin true
  have hall := hrefused (by decide +kernel)
  obtain ⟨-, hempty, -⟩ := hall (run settings world (.run (.tokens "-/." .json) true)) (by simp)
  obtain ⟨-, -, hstderr, -⟩ := hall (run settings world (.run (.check "-/.") true)) (by simp)
  refine ⟨hfile, hstdin, ?_, ?_, ?_, hempty, ?_⟩
  · rw [hstdout]
    decide +kernel
  · rw [hjson, htokens]
    rfl
  · rw [herror, hillegal]
    decide +kernel
  · rw [hstderr]
    decide +kernel

end Munch.Command
