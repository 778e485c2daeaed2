/-
  Munch.Proofs.Logging — what the settings of the log decide, and what they do not.

  A run records the same events whatever is shown of them. With a limit for a filter it shows
  those that the lower of that limit and, when it is verbose, `debug` lets through
  (`log_run`), so a lower limit shows a part of what a higher one does (`shown_sublist`).

  - `verbose_shows_no_more`: the flag for verbosity only ever hides lines of the log, and it hides
    some exactly when the filter lets through everything and a token was read.
  - `run_unaffected_by_log_settings`: status, output and the line that says why a run failed are
    the same under any two settings, and the logs are one a part of the other.
-/

import Munch.Command.Run
import Munch.Proofs.Flags

namespace Munch

/-! ## Limits -/

theorem shown_shown {a b : Limit} (h : a.rank ≤ b.rank) (events : List Event) :
    shown a (shown b events) = shown a events := by
  rw [shown, shown, shown, List.filter_filter]
  refine List.filter_congr fun e _ => ?_
  simp only [Limit.admits, ← Bool.decide_and]
  exact decide_eq_decide.mpr ⟨And.left, fun hlevel => ⟨hlevel, Nat.le_trans hlevel h⟩⟩

/-- A lower limit shows a part of what a higher one does, in the same order. -/
theorem shown_sublist {a b : Limit} (h : a.rank ≤ b.rank) (events : List Event) :
    (shown a events).Sublist (shown b events) := by
  rw [← shown_shown h]
  exact List.filter_sublist

theorem admits_trace (level : Level) : (Limit.upTo .trace).admits level = true := by cases level <;> rfl

theorem admits_debug_iff (level : Level) : (Limit.upTo .debug).admits level = true ↔ level ≠ .trace := by
  cases level <;> decide

/-! ## Lines -/

namespace Event

theorem head?_tail_line (e : Event) : e.line.toList.tail.head? = e.level.name.toList.head? := by
  rw [line]
  simp only [String.toList_append, toList_alignLeft]
  cases e.level <;> rfl

theorem level_eq_of_line_eq {e f : Event} (h : e.line = f.line) : e.level = f.level := by
  have hinitial : e.level.name.toList.head? = f.level.name.toList.head? := by
    rw [← head?_tail_line, ← head?_tail_line, h]
  revert hinitial
  cases e.level <;> cases f.level <;> decide

end Event

namespace Command

/-- The limit that the environment names for the log, if it names one; nothing said means `info`. -/
def Environment.limit? (e : Environment) : Option Limit :=
  match e.logFilter with
  | none => some (.upTo .info)
  | some name => Limit.ofName? name

/-- The lower of the filter's limit and, for a verbose run, `debug`. -/
def effective (limit : Limit) (verbose : Bool) : Limit := if verbose then limit.lower (.upTo .debug) else limit

theorem lower_ceiling (limit : Limit) (verbose : Bool) :
    (Settings.ceiling verbose).lower limit = effective limit verbose := by
  cases limit with
  | off => cases verbose <;> rfl
  | upTo level => cases verbose <;> cases level <;> rfl

theorem rank_effective_le (limit : Limit) : (effective limit true).rank ≤ (effective limit false).rank := by
  cases limit with
  | off => decide
  | upTo level => cases level <;> decide

theorem effective_of_ne_trace {limit : Limit} (h : limit ≠ .upTo .trace) (verbose : Bool) :
    effective limit verbose = limit := by
  cases limit with
  | off => cases verbose <;> rfl
  | upTo level =>
    cases level with
    | trace => exact absurd rfl h
    | _ => cases verbose <;> rfl

section

variable {env : Environment} {limit : Limit}

theorem ofEnvironment_of_limit? (h : env.limit? = some limit) :
    (Settings.ofEnvironment env).filter = .ofLimit limit ∧ (Settings.ofEnvironment env).complaints = [] := by
  have hname : Limit.ofName? (env.logFilter.getD "info") = some limit := by
    unfold Environment.limit? at h
    split at h
    · rename_i hunset
      rw [hunset]
      exact h
    · rename_i name hset
      rw [hset]
      exact h
  have hfilter : Settings.filterOf env.logFilter = (.ofLimit limit, []) := Filter.ofText_of_ofName? hname
  constructor
  · show (Settings.filterOf env.logFilter).1 = _
    rw [hfilter]
  · show (Settings.filterOf env.logFilter).2 = _
    rw [hfilter]

theorem notices_ofEnvironment (h : env.limit? = some limit) : (Settings.ofEnvironment env).notices = [] := by
  rw [Settings.notices, (ofEnvironment_of_limit? h).2]
  rfl

end

/-! ## The log of a run -/

section

variable {settings : Settings} {limit : Limit}

theorem log_run (h : settings.filter = .ofLimit limit) (world : World) (command : Command) (verbose : Bool) :
    (run settings world (.run command verbose)).log =
      (shown (effective limit verbose) (command.perform settings.coloured world).events).map Event.line := by
  rw [run_of_perform rfl verbose, ← lower_ceiling, ← Settings.shown_ofLimit h]
  rfl

theorem line_mem_log_iff (h : settings.filter = .ofLimit limit) (world : World) (command : Command) (verbose : Bool)
    {e : Event} (he : e ∈ (command.perform settings.coloured world).events) :
    e.line ∈ (run settings world (.run command verbose)).log ↔ (effective limit verbose).admits e.level = true := by
  rw [log_run h, List.mem_map]
  constructor
  · rintro ⟨f, hf, hline⟩
    rw [← Event.level_eq_of_line_eq hline]
    exact (List.mem_filter.mp hf).2
  · exact fun hadmits => ⟨e, List.mem_filter.mpr ⟨he, hadmits⟩, rfl⟩

theorem log_sublist {settings' : Settings} {limit' : Limit} (h : settings.filter = .ofLimit limit)
    (h' : settings'.filter = .ofLimit limit') (hcoloured : settings.coloured = settings'.coloured) {verbose verbose' : Bool}
    (hle : (effective limit verbose).rank ≤ (effective limit' verbose').rank) (world : World) (command : Command) :
    (run settings world (.run command verbose)).log.Sublist (run settings' world (.run command verbose')).log := by
  rw [log_run h, log_run h', hcoloured]
  exact (shown_sublist hle _).map Event.line

/-- A verbose run shows all that a quiet one does, unless it hides the tokens. -/
theorem log_sublist_verbose_iff (h : settings.filter = .ofLimit limit) (world : World) (command : Command) :
    (run settings world (.run command false)).log.Sublist (run settings world (.run command true)).log ↔
      limit ≠ .upTo .trace ∨ ∀ e ∈ (command.perform settings.coloured world).events, e.level ≠ .trace := by
  rw [log_run h, log_run h]
  by_cases htrace : limit = .upTo .trace
  · subst htrace
    have hall : ∀ events, shown (effective (.upTo .trace) false) events = events := fun events =>
      List.filter_eq_self.mpr fun e _ => admits_trace e.level
    rw [hall]
    constructor
    · intro hsub
      have hlen := hsub.length_le
      rw [List.length_map, List.length_map] at hlen
      have hkept : ∀ e ∈ (command.perform settings.coloured world).events, (Limit.upTo .debug).admits e.level = true :=
        List.length_filter_eq_length_iff.mp (Nat.le_antisymm (List.length_filter_le _ _) hlen)
      exact Or.inr fun e he => (admits_debug_iff e.level).mp (hkept e he)
    · rintro (hne | hnone)
      · exact absurd rfl hne
      · have hkept : shown (effective (.upTo .trace) true) (command.perform settings.coloured world).events =
            (command.perform settings.coloured world).events :=
          List.filter_eq_self.mpr fun e he => (admits_debug_iff e.level).mpr (hnone e he)
        simp only [hkept, List.Sublist.refl]
  · rw [effective_of_ne_trace htrace, effective_of_ne_trace htrace]
    exact iff_of_true (List.Sublist.refl _) (Or.inl htrace)

end

/-- The flag for verbosity shows nothing more: the log of a verbose run is a part of the log of the
    same run without the flag. It is all of it unless the filter lets through everything and a token
    was read; and where nothing is said about the log, no event at `debug` is ever shown. -/
theorem verbose_shows_no_more (world : World) {env : Environment} {limit : Limit} (hlimit : env.limit? = some limit)
    {args : List String} {command : Command} (hquiet : Invocation.ofArguments args = .run command false) :
    let settings := Settings.ofEnvironment env
    let events := (command.perform settings.coloured world).events
    let quiet := run settings world (Invocation.ofArguments args)
    (∀ flag ∈ verboseFlags, Invocation.ofArguments (flag :: args) = .run command true) ∧
      ∀ flagged, Invocation.ofArguments flagged = .run command true →
        let verbose := run settings world (Invocation.ofArguments flagged)
        quiet.log = (shown limit events).map Event.line ∧
          verbose.log = (shown (limit.lower (.upTo .debug)) events).map Event.line ∧
          verbose.log.Sublist quiet.log ∧
          (quiet.log.Sublist verbose.log ↔ limit ≠ .upTo .trace ∨ ∀ e ∈ events, e.level ≠ .trace) ∧
          (env.logFilter = none → ∀ e ∈ events, e.level = .debug → e.line ∉ verbose.log) := by
  intro settings events quiet
  have hfilter : settings.filter = .ofLimit limit := (ofEnvironment_of_limit? hlimit).1
  refine ⟨fun flag hflag => Invocation.ofArguments_cons_flag hflag hquiet, fun flagged hverbose => ?_⟩
  intro verbose
  have hq : quiet = run settings world (.run command false) := congrArg (run settings world) hquiet
  have hv : verbose = run settings world (.run command true) := congrArg (run settings world) hverbose
  rw [hq, hv]
  refine ⟨log_run hfilter world command false, log_run hfilter world command true,
    log_sublist hfilter hfilter rfl (rank_effective_le limit) world command,
    log_sublist_verbose_iff hfilter world command, fun hunset e he hdebug hmem => ?_⟩
  have hinfo : limit = .upTo .info := by
    rw [Environment.limit?, hunset] at hlimit
    exact (Option.some.inj hlimit).symm
  have hadmits := (line_mem_log_iff hfilter world command true he).mp hmem
  rw [hinfo, hdebug] at hadmits
  cases hadmits

/-- With all of the log shown, the flag hides the two tokens of a source; with nothing said about
    the log, it shows nothing. -/
theorem verbose_shows_no_more_of_source :
    let world : World := ⟨Bytes.ofString "let x", fun _ => .error .notFound⟩
    let env : Environment := ⟨some "trace", none, none⟩
    let settings := Settings.ofEnvironment env
    let quiet := run settings world (Invocation.ofArguments ["tokens", "-"])
    let verbose := run settings world (Invocation.ofArguments ["tokens", "-", "--verbose"])
    env.limit? = some (.upTo .trace) ∧ Invocation.ofArguments ["tokens", "-"] = .run (.tokens "-" .text) false ∧
      Invocation.ofArguments ["tokens", "-", "--verbose"] = .run (.tokens "-" .text) true ∧
      quiet.log.length = 4 ∧ verbose.log.length = 2 ∧ verbose.log.Sublist quiet.log := by
  intro world env settings quiet verbose
  have hlimit : env.limit? = some (.upTo .trace) := rfl
  have hquiet : Invocation.ofArguments ["tokens", "-"] = .run (.tokens "-" .text) false := by decide +kernel
  have hverbose : Invocation.ofArguments ["tokens", "-", "--verbose"] = .run (.tokens "-" .text) true := by decide +kernel
  obtain ⟨-, hflag⟩ := verbose_shows_no_more world hlimit hquiet
  obtain ⟨hlog, hlog', hsub, -, -⟩ := hflag _ hverbose
  refine ⟨hlimit, hquiet, hverbose, ?_, ?_, hsub⟩
  · rw [hlog]
    decide +kernel
  · rw [hlog']
    decide +kernel

/-- The flag hides the tokens of a source where all of the log is shown, and does not show what
    was done where nothing is said about the log. -/
theorem verbose_hides_tokens :
    let world : World := ⟨Bytes.ofString "a", fun _ => .error .notFound⟩
    let logOf := fun filter args => (run (Settings.ofEnvironment ⟨filter, none, none⟩) world (Invocation.ofArguments args)).log
    ¬ (logOf (some "trace") ["tokens", "-"]).Sublist (logOf (some "trace") ["-v", "tokens", "-"]) ∧
      Event.scanning "-" ∈ (Command.perform false world (.tokens "-" .text)).events ∧ (Event.scanning "-").level = .debug ∧
      (Event.scanning "-").line ∉ logOf none ["-v", "tokens", "-"] := by
  decide +kernel

/-! ## What the settings leave alone -/

namespace Invocation

theorem quiet_eq_cases {i j : Invocation} (h : i.quiet = j.quiet) :
    (∃ command v w, i = run command v ∧ j = run command w) ∨ (i = j ∧ ∀ command v, i ≠ run command v) := by
  cases i with
  | run command v =>
    cases j with
    | run command' w =>
      obtain rfl : command = command' := by simpa [quiet] using h
      exact Or.inl ⟨command, v, w, rfl, rfl⟩
    | _ => cases h
  | _ =>
    refine Or.inr ?_
    cases j with
    | run => cases h
    | _ => exact ⟨h, nofun⟩

def verbose : Invocation → Bool
  | run _ verbose => verbose
  | _ => false

end Invocation

theorem log_of_not_run {i : Invocation} (h : ∀ command v, i ≠ .run command v) (settings : Settings) (world : World) :
    (run settings world i).log = [] := by
  cases i with
  | run command v => exact absurd rfl (h command v)
  | _ => rfl

theorem run_of_quiet_eq (settings settings' : Settings) (hcoloured : settings.coloured = settings'.coloured)
    (hstyled : settings.styledHelp = settings'.styledHelp) {i j : Invocation} (h : i.quiet = j.quiet) (world : World) :
    let report := run settings world i
    let report' := run settings' world j
    report.status = report'.status ∧ report.stdout = report'.stdout ∧ report.error = report'.error := by
  rcases Invocation.quiet_eq_cases h with ⟨command, v, w, rfl, rfl⟩ | ⟨rfl, hnot⟩
  · intro report report'
    have hreport : report = _ := run_of_perform rfl v
    have hreport' : report' = _ := run_of_perform rfl w
    simp [hreport, hreport', Report.ofOutcome, hcoloured]
  · cases i with
    | run command v => exact absurd rfl (hnot command v)
    | help topic detail => simp [run, answer, hstyled, Report.ofText]
    | version => exact ⟨rfl, rfl, rfl⟩
    | misuse => exact ⟨rfl, rfl, rfl⟩

/-- Whatever is to be shown of the log, and wherever the flag for verbosity stands: what is asked for
    stays the same, and so do the status, the output and the line that says why a run failed.
    The rest of standard error is the log, and a lower limit shows a part of what a higher
    one does. -/
theorem run_unaffected_by_log_settings (world : World) (env : Environment) {args : List String}
    (haccepted : Invocation.ofArguments args ≠ .misuse) :
    (∀ flagged, Flagged args flagged → Invocation.ofArguments flagged ≠ .misuse →
        (Invocation.ofArguments flagged).quiet = (Invocation.ofArguments args).quiet) ∧
      ∀ (filter filter' : Option String) (limit limit' : Limit) (here there : List String),
        let asked := Invocation.ofArguments here
        let asked' := Invocation.ofArguments there
        let report := run (.ofEnvironment { env with logFilter := filter }) world asked
        let report' := run (.ofEnvironment { env with logFilter := filter' }) world asked'
        Environment.limit? { env with logFilter := filter } = some limit →
        Environment.limit? { env with logFilter := filter' } = some limit' →
        asked.quiet = (Invocation.ofArguments args).quiet → asked'.quiet = (Invocation.ofArguments args).quiet →
        report.status = report'.status ∧ report.stdout = report'.stdout ∧ report.error = report'.error ∧
          report.stderr = String.join report.log ++ report.error.getD "" ∧
          ((effective limit asked.verbose).rank ≤ (effective limit' asked'.verbose).rank → report.log.Sublist report'.log) ∧
          ((∀ command v, asked ≠ .run command v) → report.log = [] ∧ report'.log = []) := by
  refine ⟨fun flagged hflagged hmisuse => Invocation.quiet_of_flagged hflagged haccepted hmisuse, ?_⟩
  intro filter filter' limit limit' here there asked asked' report report' hlimit hlimit' hasked hasked'
  have hquiet : asked.quiet = asked'.quiet := hasked.trans hasked'.symm
  obtain ⟨hstatus, hstdout, herror⟩ : report.status = report'.status ∧ report.stdout = report'.stdout ∧ report.error = report'.error :=
    run_of_quiet_eq (.ofEnvironment { env with logFilter := filter }) (.ofEnvironment { env with logFilter := filter' }) rfl rfl
      hquiet world
  have hstderr : report.stderr = String.join report.log ++ report.error.getD "" := by
    have hnotices : report.notices = [] := notices_ofEnvironment hlimit
    rw [Report.stderr, hnotices, List.nil_append]
  refine ⟨hstatus, hstdout, herror, hstderr, fun hle => ?_, fun hnot => ?_⟩
  · rcases Invocation.quiet_eq_cases hquiet with ⟨command, v, w, hrun, hrun'⟩ | ⟨hsame, hnot⟩
    · have hreport : report = run _ world (.run command v) := congrArg (run _ world) hrun
      have hreport' : report' = run _ world (.run command w) := congrArg (run _ world) hrun'
      rw [hrun, hrun'] at hle
      rw [hreport, hreport']
      exact log_sublist (ofEnvironment_of_limit? hlimit).1 (ofEnvironment_of_limit? hlimit').1 rfl hle world command
    · have hnone : report.log = [] := log_of_not_run hnot _ world
      rw [hnone]
      exact List.nil_sublist _
  · have hnot' : ∀ command v, asked' ≠ .run command v := by
      rcases Invocation.quiet_eq_cases hquiet with ⟨command, v, -, hrun, -⟩ | ⟨hsame, -⟩
      · exact absurd hrun (hnot command v)
      · rwa [← hsame]
    exact ⟨log_of_not_run hnot _ world, log_of_not_run hnot' _ world⟩

/-- A check that fails, first with nothing said about the log, then with all of it shown but for the
    flag, which is given twice. -/
theorem run_unaffected_by_log_settings_failing :
    let world : World := ⟨Bytes.ofString "a@", fun _ => .error .notFound⟩
    let env : Environment := ⟨none, some "1", none⟩
    let args := ["check", "--", "-"]
    let flagged := ["-v", "check", "--verbose", "--", "-"]
    let report := run (.ofEnvironment { env with logFilter := none }) world (Invocation.ofArguments args)
    let report' := run (.ofEnvironment { env with logFilter := some "trace" }) world (Invocation.ofArguments flagged)
    Invocation.ofArguments args ≠ .misuse ∧ Flagged args flagged ∧ Invocation.ofArguments flagged ≠ .misuse ∧
      (Invocation.ofArguments flagged).quiet = (Invocation.ofArguments args).quiet ∧
      report.status = report'.status ∧ report'.status = 1 ∧ report.error = report'.error ∧
      report'.error = some "\x1b[1;31merror\x1b[0m: 1 illegal character(s): \"@\"\n" ∧
      report.log.Sublist report'.log ∧ report.log.length = 1 ∧ report'.log.length = 2 := by
  intro world env args flagged report report'
  have hargs : Invocation.ofArguments args ≠ .misuse := by decide +kernel
  have hflagged : Flagged args flagged :=
    .add (by decide) (.keep "check" (.add (by decide) (.keep "--" (.keep "-" .nil))))
  have haccepted : Invocation.ofArguments flagged ≠ .misuse := by decide +kernel
  obtain ⟨hasked, hsame⟩ := run_unaffected_by_log_settings world env hargs
  obtain ⟨hstatus, -, herror, -, hlog, -⟩ := hsame none (some "trace") (.upTo .info) (.upTo .trace) args flagged rfl rfl rfl
    (hasked flagged hflagged haccepted)
  exact ⟨hargs, hflagged, haccepted, hasked flagged hflagged haccepted, hstatus, by decide +kernel, herror,
    by decide +kernel, hlog (by decide +kernel), by decide +kernel, by decide +kernel⟩

end Command

end Munch
