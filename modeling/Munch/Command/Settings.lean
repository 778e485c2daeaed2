/-
  Munch.Command.Settings — what the environment decides: which events are shown, whether
  labels are coloured and whether help is styled. Results never depend on it.

  Events are shown by where they come from, how severe they are and what they say. A filter
  is written as directives between commas, and after a slash, if there is one, a pattern that
  must occur in the message. A directive is a limit for every target, or the name that a
  target starts with and a limit for those targets; the longest name that fits decides alone.
  What cannot be read is complained about and left out, and a filter without directives shows
  errors. The name of a limit is the filter of that limit alone (`ofText_of_ofName?`), and such
  a filter lets through what the limit does (`admits_ofLimit`).

  Labels and help have rules of their own. Labels are coloured when colour is forced by
  anything but a zero; help is styled when it is forced by anything at all, a zero
  included, unless colour is refused.
-/

import Munch.Log
import Munch.Pattern.Parser

namespace Munch

/-! ## Filters -/

/-- A limit for the targets that start with a name, or for all. -/
structure Directive where
  name : Option String
  limit : Limit
  deriving DecidableEq, Repr

structure Filter where
  directives : List Directive
  pattern : Option Pattern
  deriving DecidableEq, Repr

inductive Complaint where
  | slashes (text : String)
  | directive (text : String)
  | pattern (text : String) (flaw : Pattern.Flaw)
  deriving DecidableEq, Repr

def Complaint.message : Complaint → String
  | slashes text => "invalid logging spec '" ++ text ++ "' (too many '/'s)"
  | directive text => "invalid logging spec '" ++ text ++ "'"
  | pattern text flaw => "invalid regex filter - " ++ flaw.message text

def Complaint.line (c : Complaint) : String := unlines ["warning: " ++ c.message ++ ", ignoring it"]

namespace Directive

def reach (d : Directive) : Nat := d.name.elim 0 String.length

def covers (d : Directive) (target : String) : Bool :=
  match d.name with
  | none => true
  | some name => name.toList.isPrefixOf target.toList

def limitOf? (word : String) : Option Limit := Limit.ofName? (word.map Char.toLower)

/-- A word alone is a limit, or else a name whose targets are shown down to the last level;
    so is a name with nothing after the sign. -/
def read (text : String) : Except Complaint Directive :=
  match (text.toList.splitOn '=').map String.ofList with
  | [word] => pure ((limitOf? word).elim ⟨some word, .upTo .trace⟩ (⟨none, ·⟩))
  | [name, word] =>
    let word := trim word
    if word = "" then pure ⟨some name, .upTo .trace⟩
    else match limitOf? word with
      | some limit => pure ⟨some name, limit⟩
      | none => throw (.directive word)
  | _ => throw (.directive text)

/-- A later directive for the same targets takes the place of the earlier. -/
def insert (ds : List Directive) (d : Directive) : List Directive :=
  if ds.any (·.name == d.name) then ds.map fun e => if e.name = d.name then d else e else ds ++ [d]

end Directive

namespace Filter

def ofLimit (limit : Limit) : Filter := ⟨[⟨none, limit⟩], none⟩

/-- Of the directives that cover a target the one with the longest name, and the last of those. -/
def directiveFor? (f : Filter) (target : String) : Option Directive :=
  (f.directives.filter (·.covers target)).foldl
    (fun best d => if best.any fun b => d.reach < b.reach then best else some d) none

def limitFor (f : Filter) (target : String) : Limit := (f.directiveFor? target).elim .off Directive.limit

def admits (f : Filter) (e : Event) : Bool :=
  (f.limitFor e.target).admits e.level && f.pattern.all fun p => p.occursIn e.message

def ofDirectives (texts : List String) : List Directive × List Complaint :=
  texts.foldl
    (fun (ds, cs) text =>
      match Directive.read text with
      | .ok d => (Directive.insert ds d, cs)
      | .error c => (ds, cs ++ [c]))
    ([], [])

def orErrors (ds : List Directive) : List Directive := if ds.isEmpty then [⟨none, .upTo .error⟩] else ds

/-- The parts of a list between commas, without the blanks around them and without the empty ones. -/
def parts (text : String) : List String :=
  ((text.toList.splitOn ',').map fun part => trim (String.ofList part)).filter (· != "")

/-- The filter that a text says, and what is wrong with the text; a pattern that cannot be read
    is no condition on messages. -/
def ofText (text : String) : Filter × List Complaint :=
  match (text.toList.splitOn '/').map String.ofList with
  | [list] =>
    let (ds, cs) := ofDirectives (parts list)
    (⟨orErrors ds, none⟩, cs)
  | [list, pattern] =>
    let (ds, cs) := ofDirectives (parts list)
    match Pattern.parse pattern with
    | .ok p => (⟨orErrors ds, some p⟩, cs)
    | .error flaw => (⟨orErrors ds, none⟩, cs ++ [.pattern pattern flaw])
  | _ => (⟨orErrors [], none⟩, [.slashes text])

@[simp] theorem admits_ofLimit (limit : Limit) (e : Event) : (ofLimit limit).admits e = limit.admits e.level := by
  simp [admits, limitFor, directiveFor?, ofLimit, Directive.covers]

theorem ofText_of_ofName? {name : String} {limit : Limit} (h : Limit.ofName? name = some limit) :
    ofText name = (ofLimit limit, []) := by
  unfold Limit.ofName? at h
  split at h <;> cases h <;> decide +kernel

end Filter

/-! ## Settings -/

namespace Command

structure Environment where
  logFilter : Option String
  forceColour : Option String
  noColour : Option String
  deriving DecidableEq, Repr

structure Settings where
  filter : Filter
  complaints : List Complaint
  coloured : Bool
  styledHelp : Bool
  deriving DecidableEq, Repr

namespace Settings

/-- Without a filter events down to `info` are shown. -/
def filterOf (text : Option String) : Filter × List Complaint := Filter.ofText (text.getD "info")

def colouredOf (forced : Option String) : Bool := forced.any (· != "0")

def styledHelpOf (forced refused : Option String) : Bool := forced.any (· != "") && !refused.any (· != "")

def ofEnvironment (e : Environment) : Settings :=
  let (filter, complaints) := filterOf e.logFilter
  ⟨filter, complaints, colouredOf e.forceColour, styledHelpOf e.forceColour e.noColour⟩

/-- The lowest level that a run can show at all. -/
def ceiling (verbose : Bool) : Limit := .upTo (if verbose then .debug else .trace)

/-- A verbose run shows no event below `debug`, and none that a quiet run hides. -/
def shown (s : Settings) (verbose : Bool) (events : List Event) : List Event :=
  Munch.shown (ceiling verbose) (events.filter s.filter.admits)

def log (s : Settings) (verbose : Bool) (events : List Event) : List String := (s.shown verbose events).map Event.line

/-- What is said before anything else: what cannot be read in the filter. -/
def notices (s : Settings) : List String := s.complaints.map Complaint.line

theorem shown_ofLimit {s : Settings} {limit : Limit} (h : s.filter = .ofLimit limit) (verbose : Bool)
    (events : List Event) : s.shown verbose events = Munch.shown ((ceiling verbose).lower limit) events := by
  simp only [shown, Munch.shown, h, Filter.admits_ofLimit, List.filter_filter, Limit.admits_lower]

end Settings

end Command

end Munch
