/-
  Munch.Proofs.Flags — what the flag for verbosity does to a command line: nothing but to make
  it verbose.

  Two invocations are alike when they ask for the same thing, verbosely or not, or when one of
  them is a misuse. Read side by side, arguments and the same arguments with flags put in
  among them agree at every step (`Agree`), from whatever was read before: so what they ask
  for is alike (`quiet_of_flagged`). Put in front, the flag is always taken, and makes a quiet run
  verbose (`ofArguments_cons_flag`).
-/

import Munch.Command.Arguments

namespace Munch.Command

namespace Invocation

/-- What is asked for, without the flag. -/
def quiet : Invocation → Invocation
  | run command _ => run command false
  | settled => settled

/-- Help and the version are asked for without a command to run. -/
def informs : Invocation → Bool
  | help _ _ => true
  | version => true
  | run _ _ => false
  | misuse => false

def Alike (i j : Invocation) : Prop := i = misuse ∨ j = misuse ∨ i.quiet = j.quiet

theorem Alike.refl (i : Invocation) : i.Alike i := Or.inr (Or.inr rfl)

theorem alike_misuse (i : Invocation) : i.Alike misuse := Or.inr (Or.inl rfl)

theorem misuse_alike (i : Invocation) : misuse.Alike i := Or.inl rfl

theorem alike_run (command : Command) (v w : Bool) : (run command v).Alike (run command w) := Or.inr (Or.inr rfl)

end Invocation

def verboseFlags : List String := ["-v", "--verbose"]

theorem mem_verboseFlags {flag : String} (h : flag ∈ verboseFlags) : flag = "-v" ∨ flag = "--verbose" := by
  simpa [verboseFlags] using h

theorem ofText_short_flag : Word.ofText "-v" = .short ['v'] := by decide

theorem ofText_long_flag : Word.ofText "--verbose" = .long "verbose" none := by decide +kernel

/-- Arguments with the flag put in among them, anywhere and any number of times. -/
inductive Flagged : List String → List String → Prop
  | nil : Flagged [] []
  | keep (arg : String) {args flagged : List String} : Flagged args flagged → Flagged (arg :: args) (arg :: flagged)
  | add {flag : String} {args flagged : List String} : flag ∈ verboseFlags → Flagged args flagged →
      Flagged args (flag :: flagged)

/-! ## Reading side by side -/

/-- Two readings settle on the same information, or go on from related states. A misuse agrees with anything. -/
def Agree {α : Type} (R : α → α → Prop) : Given.Parsed α → Given.Parsed α → Prop
  | .error i, .error j => i = .misuse ∨ j = .misuse ∨ (i = j ∧ i.informs = true)
  | .error i, .ok _ => i = .misuse
  | .ok _, .error j => j = .misuse
  | .ok a, .ok b => R a b

namespace Agree

variable {α β : Type} {R : α → α → Prop} {S : β → β → Prop}

theorem misuse_left (y : Given.Parsed α) : Agree R (.error .misuse) y := by
  cases y with
  | error j => exact Or.inl rfl
  | ok b => rfl

theorem misuse_right (x : Given.Parsed α) : Agree R x (.error .misuse) := by
  cases x with
  | error i => exact Or.inr (Or.inl rfl)
  | ok a => rfl

theorem informed {i : Invocation} (h : i.informs = true) : Agree R (.error i) (.error i) := Or.inr (Or.inr ⟨rfl, h⟩)

/-- What agrees with itself settles on no run. -/
theorem ne_run {i : Invocation} (h : Agree R (.error i) (.error i)) (command : Command) (v : Bool) :
    i ≠ .run command v := by
  rintro rfl
  rcases h with h | h | ⟨-, h⟩ <;> cases h

theorem bind {x y : Given.Parsed α} {f g : α → Given.Parsed β} (h : Agree R x y)
    (k : ∀ a b, R a b → Agree S (f a) (g b)) : Agree S (x >>= f) (y >>= g) := by
  cases x with
  | error i =>
    cases y with
    | error j => exact h
    | ok b =>
      obtain rfl : i = .misuse := h
      exact misuse_left _
  | ok a =>
    cases y with
    | error j =>
      obtain rfl : j = .misuse := h
      exact misuse_right _
    | ok b => exact k a b h

theorem foldlM {γ : Type} {f g : α → γ → Given.Parsed α} (h : ∀ a b, R a b → ∀ c, Agree R (f a c) (g b c))
    (cs : List γ) {a b : α} (hab : R a b) : Agree R (cs.foldlM f a) (cs.foldlM g b) := by
  induction cs generalizing a b with
  | nil => exact hab
  | cons c cs ih =>
    rw [List.foldlM_cons, List.foldlM_cons]
    exact (h a b hab c).bind fun a b hab => ih hab

end Agree

/-! ## Behind the command -/

namespace Given

/-- Two readings have been given the same, the flag apart. -/
def SameBut (g h : Given) : Prop := g.format = h.format ∧ g.input = h.input

/-- What has been given makes the same command, unless one of the two lacks something. -/
def SameCommand (name : Name) (g h : Given) : Prop :=
  g.command? name = none ∨ h.command? name = none ∨ g.command? name = h.command? name

variable {g h : Given}

theorem SameBut.command?_eq (hs : SameBut g h) (name : Name) : g.command? name = h.command? name := by
  obtain ⟨hformat, hinput⟩ := hs
  cases name <;> simp [command?, hformat, hinput]

theorem SameBut.sameCommand (hs : SameBut g h) (name : Name) : SameCommand name g h :=
  Or.inr (Or.inr (hs.command?_eq name))

theorem agree_setVerbose (hs : SameBut g h) : Agree SameBut g.setVerbose h.setVerbose := by
  unfold setVerbose
  cases g.verbose with
  | true => exact .misuse_left _
  | false =>
    cases h.verbose with
    | true => exact .misuse_right _
    | false => exact hs

/-- The flag changes nothing that has been given, or it is a misuse. -/
theorem agree_setVerbose_right (hs : SameBut g h) : Agree SameBut (.ok g) h.setVerbose := by
  unfold setVerbose
  cases h.verbose with
  | true => exact .misuse_right _
  | false => exact hs

theorem agree_setFormat (hs : SameBut g h) (name : Name) (value : String) :
    Agree SameBut (g.setFormat name value) (h.setFormat name value) := by
  unfold setFormat
  rw [hs.1]
  split
  · exact ⟨rfl, hs.2⟩
  · exact .misuse_left _

theorem agree_addOperand (hs : SameBut g h) (name : Name) (text : String) :
    Agree SameBut (g.addOperand name text) (h.addOperand name text) := by
  unfold addOperand
  rw [hs.2]
  split
  · split
    · exact .misuse_left _
    · exact ⟨hs.1, rfl⟩
  · split
    · exact .misuse_left _
    · exact ⟨hs.1, rfl⟩
  · exact .misuse_left _

theorem agree_addLetter (name : Name) (g h : Given) (hs : SameBut g h) (c : Char) :
    Agree SameBut (g.addLetter name c) (h.addLetter name c) := by
  unfold addLetter
  split
  · exact agree_setVerbose hs
  · exact .informed rfl
  · exact .misuse_left _

theorem agree_addLong (hs : SameBut g h) (name : Name) (flag : String) (value : Option String) :
    Agree SameBut (g.addLong name flag value) (h.addLong name flag value) := by
  unfold addLong
  split
  · exact agree_setVerbose hs
  · exact .informed rfl
  · exact agree_setFormat hs name _
  · exact .misuse_left _

/-! ### Operands behind a separator -/

theorem addOperand_of_input {name : Name} {text : String} (hg : g.input.isSome = true) :
    g.addOperand name text = .error .misuse := by
  obtain ⟨input, hinput⟩ := Option.isSome_iff_exists.mp hg
  cases name <;> simp only [addOperand, hinput] <;> rfl

/-- What an operand leads to, and nothing else: it is the first where one is lacking, or a misuse. -/
theorem addOperand_cases (name : Name) (g : Given) (text : String) :
    (g.command? name = none ∧ g.addOperand name text = .ok { g with input := some text }) ∨
      g.addOperand name text = .error .misuse := by
  cases hinput : g.input with
  | some input => exact Or.inr (addOperand_of_input (by rw [hinput]; rfl))
  | none =>
    cases htext : text.isEmpty with
    | true => right; cases name <;> simp only [addOperand, hinput, htext, if_true] <;> rfl
    | false =>
      cases name with
      | tokens => left; simp [addOperand, command?, hinput, htext, pure, Except.pure]
      | check => left; simp [addOperand, command?, hinput, htext, pure, Except.pure]
      | keywords => right; rfl
      | repl => right; rfl

/-- What operands lead to: there is none, or the only one is the one that is lacking, or a misuse. -/
theorem foldlM_addOperand_cases (name : Name) (g : Given) (texts : List String) :
    (texts = [] ∧ texts.foldlM (addOperand name) g = .ok g) ∨
      (∃ text, texts = [text] ∧ g.command? name = none ∧
        texts.foldlM (addOperand name) g = .ok { g with input := some text }) ∨
      texts.foldlM (addOperand name) g = .error .misuse := by
  cases texts with
  | nil => exact Or.inl ⟨rfl, rfl⟩
  | cons text rest =>
    rw [List.foldlM_cons]
    rcases addOperand_cases name g text with ⟨hlack, hfirst⟩ | hfirst
    · rw [hfirst]
      cases rest with
      | nil => exact Or.inr (Or.inl ⟨text, rfl, hlack, rfl⟩)
      | cons second rest =>
        right; right
        show List.foldlM (addOperand name) { g with input := some text } (second :: rest) = _
        rw [List.foldlM_cons, addOperand_of_input rfl]
        rfl
    · rw [hfirst]
      exact Or.inr (Or.inr rfl)

/-- Behind a separator a flag is an operand, and one operand too many. -/
theorem agree_operands (hs : SameBut g h) (name : Name) {texts flagged : List String} (hf : Flagged texts flagged) :
    Agree (SameCommand name) (texts.foldlM (addOperand name) g) (flagged.foldlM (addOperand name) h) := by
  rcases foldlM_addOperand_cases name g texts with ⟨rfl, hread⟩ | ⟨text, rfl, -, hread⟩ | hread
  · rw [hread]
    rcases foldlM_addOperand_cases name h flagged with ⟨rfl, hread'⟩ | ⟨text, rfl, hlack, hread'⟩ | hread'
    · rw [hread']
      exact hs.sameCommand name
    · rw [hread']
      exact Or.inl ((hs.command?_eq name).trans hlack)
    · rw [hread']
      exact .misuse_right _
  · rw [hread]
    rcases foldlM_addOperand_cases name h flagged with ⟨rfl, hread'⟩ | ⟨text', rfl, -, hread'⟩ | hread'
    · cases hf
    · cases hf with
      | keep _ _ =>
        rw [hread']
        have hboth : SameBut { g with input := some text } { h with input := some text } := ⟨hs.1, rfl⟩
        exact hboth.sameCommand name
      | add _ hnil => cases hnil
    · rw [hread']
      exact .misuse_right _
  · rw [hread]
    exact .misuse_left _

/-! ### All arguments -/

section

variable {name : Name} {arg : String} {rest : List String}

theorem read_operand {text : String} (hw : Word.ofText arg = .operand text) :
    g.read name (arg :: rest) = g.addOperand name text >>= fun g => g.read name rest := by
  rw [read.eq_def]
  simp only [hw]

theorem read_separator (hw : Word.ofText arg = .separator) :
    g.read name (arg :: rest) = rest.foldlM (addOperand name) g := by
  rw [read.eq_def]
  simp only [hw]

theorem read_short {letters : List Char} (hw : Word.ofText arg = .short letters) :
    g.read name (arg :: rest) = letters.foldlM (addLetter name) g >>= fun g => g.read name rest := by
  rw [read.eq_def]
  simp only [hw]

theorem read_format (hw : Word.ofText arg = .long "format" none) (value : String) :
    g.read name (arg :: value :: rest) = g.setFormat name value >>= fun g => g.read name rest := by
  rw [read.eq_def]
  simp only [hw]

theorem read_format_nil (hw : Word.ofText arg = .long "format" none) : g.read name [arg] = .error .misuse := by
  rw [read.eq_def]
  simp only [hw]
  rfl

theorem read_long {flag : String} {value : Option String} (hw : Word.ofText arg = .long flag value)
    (hne : flag = "format" → value ≠ none) :
    g.read name (arg :: rest) = g.addLong name flag value >>= fun g => g.read name rest := by
  rw [read.eq_def]
  simp only [hw]

end

theorem read_flag {name : Name} {flag : String} (hflag : flag ∈ verboseFlags) (rest : List String) :
    g.read name (flag :: rest) = g.setVerbose >>= fun g => g.read name rest := by
  rcases mem_verboseFlags hflag with rfl | rfl
  · have hletters : ['v'].foldlM (addLetter name) g = g.setVerbose := bind_pure g.setVerbose
    rw [read_short ofText_short_flag, hletters]
  · rw [read_long ofText_long_flag (by decide)]
    rfl

theorem setFormat_flag {flag : String} (hflag : flag ∈ verboseFlags) (name : Name) :
    g.setFormat name flag = .error .misuse := by
  have hformat : Format.ofText? flag = none := by
    rcases mem_verboseFlags hflag with rfl | rfl <;> rfl
  unfold setFormat
  rw [hformat]
  cases name <;> cases g.format <;> rfl

theorem agree_read (hs : SameBut g h) (name : Name) {args flagged : List String} (hf : Flagged args flagged) :
    Agree (SameCommand name) (g.read name args) (h.read name flagged) := by
  -- a value is read together with the argument before it, so the recursion is on the length
  induction hn : flagged.length using Nat.strongRecOn generalizing args flagged g h with
  | ind n ih =>
    cases hf with
    | nil => exact hs.sameCommand name
    | @add flag args flagged hflag hf =>
      rw [read_flag hflag]
      exact (agree_setVerbose_right hs).bind fun g h hs => ih _ (by simp [← hn]) hs hf rfl
    | @keep arg args flagged hf =>
      have hrest : ∀ g h : Given, SameBut g h → Agree (SameCommand name) (g.read name args) (h.read name flagged) :=
        fun g h hs => ih _ (by simp [← hn]) hs hf rfl
      cases hw : Word.ofText arg with
      | operand text =>
        rw [read_operand hw, read_operand hw]
        exact (agree_addOperand hs name text).bind hrest
      | separator =>
        rw [read_separator hw, read_separator hw]
        exact agree_operands hs name hf
      | short letters =>
        rw [read_short hw, read_short hw]
        exact (Agree.foldlM (agree_addLetter name) letters hs).bind hrest
      | long flag value =>
        by_cases hformat : flag = "format" ∧ value = none
        · obtain ⟨rfl, rfl⟩ := hformat
          cases hf with
          | nil =>
            rw [read_format_nil hw]
            exact .misuse_left _
          | @keep value args flagged hf =>
            have hlt : flagged.length < n := by
              rw [← hn, List.length_cons, List.length_cons]
              omega
            rw [read_format hw, read_format hw]
            exact (agree_setFormat hs name value).bind fun g h hs => ih _ hlt hs hf rfl
          | add hflag _ =>
            rw [read_format hw (g := h), setFormat_flag hflag]
            exact .misuse_right _
        · have hne : flag = "format" → value ≠ none := fun hf hv => hformat ⟨hf, hv⟩
          rw [read_long hw hne, read_long hw hne]
          exact (agree_addLong hs name flag value).bind hrest

end Given

/-! ## Before the command -/

/-- What a reading comes to: what it settles, or else what is read behind it. -/
def settle {α : Type} (x : Given.Parsed α) (k : α → Invocation) : Invocation :=
  match x with
  | .error settled => settled
  | .ok a => k a

theorem Agree.settle {α : Type} {R : α → α → Prop} {x y : Given.Parsed α} {k l : α → Invocation} (h : Agree R x y)
    (hk : ∀ a b, R a b → (k a).Alike (l b)) : (settle x k).Alike (settle y l) := by
  cases x with
  | error i =>
    cases y with
    | error j =>
      rcases h with rfl | rfl | ⟨rfl, -⟩
      · exact Invocation.misuse_alike _
      · exact Invocation.alike_misuse _
      · exact .refl _
    | ok b =>
      obtain rfl : i = .misuse := h
      exact Invocation.misuse_alike _
  | ok a =>
    cases y with
    | error j =>
      obtain rfl : j = .misuse := h
      exact Invocation.alike_misuse _
    | ok b => exact hk a b h

namespace Invocation

variable {v : Bool} {arg : String} {rest : List String}

theorem ofCommandArguments_eq (v : Bool) (name : Name) (args : List String) :
    ofCommandArguments v name args =
      settle (Given.nothing.read name args) fun g => (g.command? name).elim misuse (run · (v || g.verbose)) := by
  unfold ofCommandArguments
  cases Given.nothing.read name args with
  | error settled => rfl
  | ok g => cases hcommand : g.command? name <;> simp [settle, hcommand]

/-- What a word before the command comes to. -/
def afterWord (v : Bool) (rest : List String) : Word → Invocation
  | .operand text =>
    if text = "help" then ofHelpArguments rest
    else (Name.ofText? text).elim misuse fun name => ofCommandArguments v name rest
  | .separator => misuse
  | .short letters => settle (letters.foldlM flag v) fun v => ofArgumentsAfter v rest
  | .long name value => settle (longFlag v name value) fun v => ofArgumentsAfter v rest

theorem ofArgumentsAfter_cons (v : Bool) (arg : String) (rest : List String) :
    ofArgumentsAfter v (arg :: rest) = afterWord v rest (Word.ofText arg) := by
  rw [ofArgumentsAfter]
  cases Word.ofText arg with
  | operand text =>
    by_cases hhelp : text = "help"
    · subst hhelp
      rfl
    · simp only [afterWord, if_neg hhelp]
      cases Name.ofText? text <;> rfl
  | separator => rfl
  | short letters =>
    simp only [afterWord]
    cases letters.foldlM flag v <;> rfl
  | long name value =>
    simp only [afterWord]
    cases longFlag v name value <;> rfl

/-- Any two states before the command. -/
def Either : Bool → Bool → Prop := fun _ _ => True

theorem agree_flag (v w : Bool) (_ : Either v w) (c : Char) : Agree Either (flag v c) (flag w c) := by
  unfold flag
  split
  · cases v with
    | true => exact .misuse_left _
    | false =>
      cases w with
      | true => exact .misuse_right _
      | false => trivial
  · exact .informed rfl
  · exact .informed rfl
  · exact .misuse_left _

theorem agree_longFlag (v w : Bool) (name : String) (value : Option String) :
    Agree Either (longFlag v name value) (longFlag w name value) := by
  unfold longFlag
  split
  · exact agree_flag v w trivial 'v'
  · exact .informed rfl
  · exact .informed rfl
  · exact .misuse_left _

theorem ofArgumentsAfter_flag {flag : String} (hflag : flag ∈ verboseFlags) (rest : List String) :
    ofArgumentsAfter v (flag :: rest) = if v then misuse else ofArgumentsAfter true rest := by
  rcases mem_verboseFlags hflag with rfl | rfl
  · rw [ofArgumentsAfter_cons, ofText_short_flag]
    cases v <;> rfl
  · rw [ofArgumentsAfter_cons, ofText_long_flag]
    cases v <;> rfl

theorem alike_ofCommandArguments (v w : Bool) (name : Name) {args flagged : List String} (hf : Flagged args flagged) :
    (ofCommandArguments v name args).Alike (ofCommandArguments w name flagged) := by
  rw [ofCommandArguments_eq, ofCommandArguments_eq]
  refine (Given.agree_read ⟨rfl, rfl⟩ name hf).settle fun g h hs => ?_
  rcases hs with hnone | hnone | hsame
  · rw [hnone]
    exact misuse_alike _
  · rw [hnone]
    exact alike_misuse _
  · rw [hsame]
    cases h.command? name with
    | none => exact misuse_alike _
    | some command => exact alike_run command _ _

theorem ofHelpArguments_of_two (first second : String) (rest : List String) :
    ofHelpArguments (first :: second :: rest) = misuse := by
  simp [ofHelpArguments]

theorem ofHelpArguments_flag {flag : String} (hflag : flag ∈ verboseFlags) : ofHelpArguments [flag] = misuse := by
  rcases mem_verboseFlags hflag with rfl | rfl <;> rfl

/-- Help takes no flag. -/
theorem alike_ofHelpArguments {args flagged : List String} (hf : Flagged args flagged) :
    (ofHelpArguments args).Alike (ofHelpArguments flagged) := by
  cases hf with
  | nil => exact .refl _
  | @keep arg args flagged hf =>
    cases flagged with
    | nil => cases hf; exact .refl _
    | cons second flagged =>
      rw [ofHelpArguments_of_two]
      exact alike_misuse _
  | @add flag args flagged hflag hf =>
    have hmisuse : ofHelpArguments (flag :: flagged) = misuse := by
      cases flagged with
      | nil => exact ofHelpArguments_flag hflag
      | cons second flagged => exact ofHelpArguments_of_two flag second flagged
    rw [hmisuse]
    exact alike_misuse _

theorem alike_ofArgumentsAfter {args flagged : List String} (hf : Flagged args flagged) (v w : Bool) :
    (ofArgumentsAfter v args).Alike (ofArgumentsAfter w flagged) := by
  induction hf generalizing v w with
  | nil => exact misuse_alike _
  | add hflag _ ih =>
    rw [ofArgumentsAfter_flag hflag]
    cases w with
    | true => exact alike_misuse _
    | false => exact ih v true
  | keep arg hf ih =>
    rw [ofArgumentsAfter_cons, ofArgumentsAfter_cons]
    cases Word.ofText arg with
    | operand text =>
      by_cases hhelp : text = "help"
      · rw [afterWord, if_pos hhelp, afterWord, if_pos hhelp]
        exact alike_ofHelpArguments hf
      · rw [afterWord, if_neg hhelp, afterWord, if_neg hhelp]
        cases Name.ofText? text with
        | none => exact misuse_alike _
        | some name => exact alike_ofCommandArguments v w name hf
    | separator => exact misuse_alike _
    | short letters => exact (Agree.foldlM agree_flag letters trivial).settle fun v w _ => ih v w
    | long name value => exact (agree_longFlag v w name value).settle fun v w _ => ih v w

/-- Flags put in among the arguments leave what is asked for, or make it a misuse. -/
theorem quiet_of_flagged {args flagged : List String} (hf : Flagged args flagged) (h : ofArguments args ≠ misuse)
    (h' : ofArguments flagged ≠ misuse) : (ofArguments flagged).quiet = (ofArguments args).quiet := by
  rcases alike_ofArgumentsAfter hf false false with hmisuse | hmisuse | hquiet
  · exact absurd hmisuse h
  · exact absurd hmisuse h'
  · exact hquiet.symm

/-- Behind a separator nothing is a flag. -/
example : ofArguments ["tokens", "-v", "--", "-v"] = run (.tokens "-v" .text) true := by decide +kernel

/-! ## The flag in front -/

theorem flag_eq_ok {c : Char} {b : Bool} (h : flag v c = .ok b) : b = true := by
  unfold flag at h
  split at h
  · cases v <;> cases h
    rfl
  · cases h
  · cases h
  · cases h

theorem foldlM_flag_eq_ok {letters : List Char} {b : Bool} (h : letters.foldlM flag v = .ok b) (hne : letters ≠ []) :
    b = true := by
  induction letters generalizing v with
  | nil => exact absurd rfl hne
  | cons c letters ih =>
    rw [List.foldlM_cons] at h
    cases hflag : flag v c with
    | error i =>
      rw [hflag] at h
      cases h
    | ok a =>
      rw [hflag] at h
      by_cases hlast : letters = []
      · subst hlast
        cases h
        exact flag_eq_ok hflag
      · exact ih h hlast

theorem longFlag_eq_ok {name : String} {value : Option String} {b : Bool} (h : longFlag v name value = .ok b) :
    b = true := by
  unfold longFlag at h
  split at h
  · exact flag_eq_ok h
  · cases h
  · cases h
  · cases h

theorem Flagged.refl (args : List String) : Flagged args args := by
  induction args with
  | nil => exact .nil
  | cons arg args ih => exact .keep arg ih

theorem ofCommandArguments_eq_run {name : Name} {command : Command} {w : Bool}
    (h : ofCommandArguments v name rest = run command w) :
    ∃ g, Given.nothing.read name rest = .ok g ∧ g.command? name = some command ∧ w = (v || g.verbose) := by
  have hself := Given.agree_read (g := .nothing) (h := .nothing) ⟨rfl, rfl⟩ name (Flagged.refl rest)
  rw [ofCommandArguments_eq] at h
  cases hread : Given.nothing.read name rest with
  | error i =>
    rw [hread] at h hself
    exact absurd h (hself.ne_run command w)
  | ok g =>
    refine ⟨g, rfl, ?_⟩
    rw [hread] at h
    cases hcommand : g.command? name with
    | none => simp [settle, hcommand] at h
    | some c =>
      obtain ⟨rfl, rfl⟩ : c = command ∧ (v || g.verbose) = w := by simpa [settle, hcommand] using h
      exact ⟨rfl, rfl⟩

theorem ofText_ne_short_nil (text : String) : Word.ofText text ≠ .short [] := by
  unfold Word.ofText
  split <;> simp

theorem ofHelpArguments_ne_run (args : List String) (command : Command) (w : Bool) :
    ofHelpArguments args ≠ run command w := by
  unfold ofHelpArguments
  split
  · nofun
  · nofun
  · split <;> nofun
  · nofun

/-- What leads to a run: the name of its command, or a flag before it. -/
theorem ofArgumentsAfter_cons_eq_run {command : Command} {w : Bool}
    (h : ofArgumentsAfter v (arg :: rest) = run command w) :
    (∃ name, ∀ u, ofArgumentsAfter u (arg :: rest) = ofCommandArguments u name rest) ∨
      ofArgumentsAfter true rest = run command w := by
  rw [ofArgumentsAfter_cons] at h
  cases hw : Word.ofText arg with
  | operand text =>
    by_cases hhelp : text = "help"
    · rw [hw, afterWord, if_pos hhelp] at h
      exact absurd h (ofHelpArguments_ne_run rest command w)
    · rw [hw, afterWord, if_neg hhelp] at h
      cases hname : Name.ofText? text with
      | none =>
        rw [hname] at h
        cases h
      | some name =>
        refine Or.inl ⟨name, fun u => ?_⟩
        rw [ofArgumentsAfter_cons, hw, afterWord, if_neg hhelp, hname]
        rfl
  | separator =>
    rw [hw] at h
    cases h
  | short letters =>
    have hself := Agree.foldlM agree_flag letters (a := v) (b := v) trivial
    rw [hw, afterWord] at h
    cases hread : letters.foldlM flag v with
    | error i =>
      rw [hread] at h hself
      exact absurd h (hself.ne_run command w)
    | ok b =>
      have hne : letters ≠ [] := fun hnil => ofText_ne_short_nil arg (hnil ▸ hw)
      rw [hread, foldlM_flag_eq_ok hread hne] at h
      exact Or.inr h
  | long name value =>
    have hself := agree_longFlag v v name value
    rw [hw, afterWord] at h
    cases hread : longFlag v name value with
    | error i =>
      rw [hread] at h hself
      exact absurd h (hself.ne_run command w)
    | ok b =>
      rw [hread, longFlag_eq_ok hread] at h
      exact Or.inr h

theorem verbose_of_ofArgumentsAfter {args : List String} {command : Command} {w : Bool}
    (h : ofArgumentsAfter true args = run command w) : w = true := by
  induction args with
  | nil => cases h
  | cons arg rest ih =>
    rcases ofArgumentsAfter_cons_eq_run h with ⟨name, hname⟩ | hrest
    · obtain ⟨g, -, -, hw⟩ := ofCommandArguments_eq_run ((hname true).symm.trans h)
      exact hw.trans (Bool.true_or _)
    · exact ih hrest

/-- Put in front of what asks for a quiet run, the flag makes it verbose. -/
theorem ofArguments_cons_flag {flag : String} (hflag : flag ∈ verboseFlags) {args : List String} {command : Command}
    (h : ofArguments args = run command false) : ofArguments (flag :: args) = run command true := by
  have hfront : ofArguments (flag :: args) = ofArgumentsAfter true args := by
    rw [ofArguments, ofArgumentsAfter_flag hflag]
    rfl
  rw [hfront]
  cases args with
  | nil => cases h
  | cons arg rest =>
    rcases ofArgumentsAfter_cons_eq_run h with ⟨name, hname⟩ | hrest
    · obtain ⟨g, hread, hcommand, -⟩ := ofCommandArguments_eq_run ((hname false).symm.trans h)
      rw [hname, ofCommandArguments_eq, hread]
      simp [settle, hcommand]
    · cases verbose_of_ofArgumentsAfter hrest

end Invocation

end Munch.Command
