import Mathlib
import TransientFuel.Report.Advice

/-!
# Classes of failures

A failure is classified three times: by its exit code, by the reason in its JSON form and by the
hint in its explanation. The first two ask for the outermost stage, `Report.Reaches`. The hint
depends on the root cause first, however many contexts lie above it, and on the outermost stage only
if the root cause is in words. The texts of the hints are written out here, and with them the chain
of a report below its outermost link, `Report.below`. Which hint a text gives can be told from how
it begins, `Hint.opening`, so no text gives two of them, whatever words the contexts and the root
cause put into it.
-/

namespace TransientFuel

/-- A link in the chain of a report. -/
inductive Link where
  | context (context : Context)
  | cause (cause : Cause)

namespace Link

/-- What a link says. -/
def words : Link → String
  | .context (.stage .config) => "invalid configuration"
  | .context (.stage .trace) => "invalid trace"
  | .context (.text line) => line
  | .cause (.length refusal) =>
    "history length must be in [1, 32], got " ++ toString refusal.requested
  | .cause (.table reason) => "invalid table: " ++ reason
  | .cause (.config reason) => "invalid config: " ++ reason
  | .cause (.plain line) => line

/-- What some links say, with a colon and a blank between any two of them. -/
def joined : List Link → String
  | [] => ""
  | [link] => link.words
  | link :: next :: rest => link.words ++ ": " ++ joined (next :: rest)

def refusal? : Link → Option LengthRefused
  | .cause (.length refusal) => some refusal
  | _ => none

def unbuilt? : Link → Option Cause
  | .cause (.table reason) => some (.table reason)
  | .cause (.config reason) => some (.config reason)
  | _ => none

def stage? : Link → Option Stage
  | .context (.stage reached) => some reached
  | _ => none

theorem message_context (context : Context) : context.message = words (.context context) := by
  cases context with
  | stage reached => cases reached <;> rfl
  | text line => rfl

theorem message_cause (cause : Cause) : cause.message = words (.cause cause) := by
  cases cause <;> rfl

theorem intercalate_words (links : List Link) :
    ": ".intercalate (links.map words) = joined links := by
  induction links with
  | nil => rfl
  | cons link rest inductionHypothesis =>
      cases rest with
      | nil => simp [joined]
      | cons next rest =>
          rw [List.map_cons] at inductionHypothesis
          rw [List.map_cons, List.map_cons, String.intercalate_cons_cons, inductionHypothesis,
            joined]

theorem stage?_context_eq_some_iff {context : Context} {stage : Stage} :
    stage? (.context context) = some stage ↔ context = .stage stage := by
  cases context <;> simp [stage?]

theorem forall_stage?_context_eq_none_iff {contexts : List Context} :
    (∀ context ∈ contexts, stage? (.context context) = none) ↔
      ∀ stage, .stage stage ∉ contexts := by
  simp only [Option.eq_none_iff_forall_ne_some, ne_eq, stage?_context_eq_some_iff]
  constructor
  · intro passed stage member
    exact passed _ member stage rfl
  · rintro none context member stage rfl
    exact none stage member

end Link

theorem occursIn_iff {α : Type} [BEq α] [LawfulBEq α] {needle list : List α} :
    occursIn needle list = true ↔ needle <:+: list := by
  induction list with
  | nil => simp [occursIn]
  | cons first rest inductionHypothesis =>
      simp [occursIn, inductionHypothesis, List.infix_cons_iff]

/-- What an explanation advises. -/
inductive Hint where
  /-- To choose another window length. -/
  | length
  /-- To mend a table. -/
  | table
  /-- To mend the configuration or the header of a table file. -/
  | config
  /-- To check the trace. -/
  | trace
  /-- To look at the log. -/
  | general
deriving DecidableEq

namespace Hint

/-- The text about a length that was refused. -/
def lengthText (words : String) : String :=
  "What happened: " ++ words ++
    ".\nHow to fix: Choose a history length between 1 and 32."

/-- The text about a table or a configuration that could not be built. -/
def tableText (words chain : String) : String :=
  "What happened: " ++ words ++ (" (" ++ chain ++ ").\n") ++
    "Likely causes: Table bins out of order or value grid size mismatch.\n" ++
    "How to fix: Fix the table definition and rerun."

/-- The text about a wrong header. -/
def headersText (chain : String) : String :=
  "What happened: Invalid headers in table CSV (" ++ chain ++ ").\n" ++
    "How to fix: Throttle tables use 'from,to,extra_ms', tapers use 'distance,mult'."

/-- The text about a configuration. -/
def configText (chain : String) : String :=
  "What happened: Invalid configuration (" ++ chain ++ ").\n" ++
    "Likely causes: Missing or out-of-range values in the TOML or table files.\n" ++
    "How to fix: Edit the config file, then rerun. `enrich info` shows the effective values."

/-- The text about a trace. -/
def traceText (chain : String) : String :=
  "What happened: The trace could not be read (" ++ chain ++ ").\n" ++
    "Likely causes: Wrong path, headers other than 'tps,load,cycle_end', or a malformed row.\n" ++
    "How to fix: Check the CSV file and rerun."

/-- The text about anything else, with the chain if there is one. -/
def generalText (top chain : String) : String :=
  "Something went wrong." ++ (if chain.isEmpty then "" else " Cause: " ++ chain) ++
    ("\nHow to fix: Re-run with --log-level=debug for details. Original: " ++ top)

end Hint

namespace Report

variable (report : Report)

/-- The chain of a report, outermost link first. -/
def links : List Link :=
  report.contexts.map .context ++ [.cause report.cause]

/-- What the outermost link says. -/
def top : String :=
  match report.contexts with
  | [] => Link.words (.cause report.cause)
  | context :: _ => Link.words (.context context)

/-- What the links below the outermost one say, down to the root cause. -/
def below : String :=
  Link.joined report.links.tail

/-- That the links below the outermost one tell of a wrong header, in letters of either case. -/
def TellsOfHeaders : Prop :=
  "csv must have headers".toList <:+: report.below.toList.map Char.toLower

instance : Decidable report.TellsOfHeaders :=
  inferInstanceAs (Decidable (_ <:+: _))

/-- The text that is found by searching the chain for one kind of link after the other. -/
def searched : String :=
  match report.links.findSome? Link.refusal? with
  | some refusal => Hint.lengthText (Link.words (.cause (.length refusal)))
  | none =>
    match report.links.findSome? Link.unbuilt? with
    | some cause => Hint.tableText (Link.words (.cause cause)) report.below
    | none =>
      match report.links.findSome? Link.stage? with
      | some .config =>
        if report.TellsOfHeaders then Hint.headersText report.below
        else Hint.configText report.below
      | some .trace => Hint.traceText report.below
      | none => Hint.generalText report.top report.below

theorem chain_eq : report.chain = report.links.map Link.words := by
  simp [chain, links, Function.comp_def, Link.message_context, Link.message_cause]

theorem causes_eq : report.causes = report.below := by
  rw [causes, chain_eq, ← List.map_tail, Link.intercalate_words, below]

example : causes ⟨[.stage .config, .text "load table"], .table "no bins"⟩ =
    "load table: invalid table: no bins" := by
  decide +kernel

theorem outermost_eq : report.outermost = report.top := by
  rw [outermost, chain_eq, links, top]
  cases report.contexts <;> rfl

theorem findSome?_links {α : Type} {search : Link → Option α}
    (passes : ∀ context, search (.context context) = none) :
    report.links.findSome? search = search (.cause report.cause) := by
  have contexts : (report.contexts.map Link.context).findSome? search = none := by
    simp [passes]
  simp [links, List.findSome?_append, contexts]

theorem stage?_eq :
    report.stage? = report.contexts.findSome? fun context => Link.stage? (.context context) := by
  rw [stage?]
  congr 1
  funext context
  cases context <;> rfl

theorem findSome?_links_stage : report.links.findSome? Link.stage? = report.stage? := by
  simp [links, stage?_eq, List.findSome?_append, List.findSome?_map, Function.comp_def, Link.stage?]

/-- Root causes of two kinds decide what a search finds, and otherwise the outermost stage does. -/
theorem searched_eq : report.searched =
    match report.cause with
    | .length refusal => Hint.lengthText (Link.words (.cause (.length refusal)))
    | .table reason => Hint.tableText (Link.words (.cause (.table reason))) report.below
    | .config reason => Hint.tableText (Link.words (.cause (.config reason))) report.below
    | .plain _ =>
      match report.stage? with
      | some .config =>
        if report.TellsOfHeaders then Hint.headersText report.below
        else Hint.configText report.below
      | some .trace => Hint.traceText report.below
      | none => Hint.generalText report.top report.below := by
  have refusal : report.links.findSome? Link.refusal? = Link.refusal? (.cause report.cause) :=
    report.findSome?_links fun _ => rfl
  have unbuilt : report.links.findSome? Link.unbuilt? = Link.unbuilt? (.cause report.cause) :=
    report.findSome?_links fun _ => rfl
  rw [searched, refusal, unbuilt, findSome?_links_stage]
  cases report.cause <;> rfl

theorem tellsOfHeaders_iff : report.tellsOfHeaders = true ↔ report.TellsOfHeaders := by
  rw [tellsOfHeaders, occursIn_iff, causes_eq, TellsOfHeaders]

theorem message_advice : report.advice.message = report.searched := by
  rw [searched_eq, advice]
  cases report.cause with
  | length refusal => rfl
  | table reason =>
      rw [causes_eq]
      rfl
  | config reason =>
      rw [causes_eq]
      rfl
  | plain line =>
      simp only [stageAdvice, causes_eq, outermost_eq, tellsOfHeaders_iff]
      cases report.stage? with
      | none => rfl
      | some stage =>
          cases stage with
          | trace => rfl
          | config =>
              by_cases tells : report.TellsOfHeaders
              · simp only [if_pos tells]
                rfl
              · simp only [if_neg tells]
                rfl

/-- That a stage is the outermost one: around it there are only lines of text. -/
def Reaches (stage : Stage) : Prop :=
  ∃ outer inner, report.contexts = outer ++ .stage stage :: inner ∧ ∀ other, .stage other ∉ outer

/-- That no context is a stage. -/
def Unstaged : Prop :=
  ∀ stage, .stage stage ∉ report.contexts

theorem stage?_eq_some_iff {stage : Stage} : report.stage? = some stage ↔ report.Reaches stage := by
  simp only [stage?_eq, List.findSome?_eq_some_iff, Link.stage?_context_eq_some_iff,
    Link.forall_stage?_context_eq_none_iff, Reaches]
  constructor
  · rintro ⟨outer, _, inner, split, rfl, none⟩
    exact ⟨outer, inner, split, none⟩
  · rintro ⟨outer, inner, split, none⟩
    exact ⟨outer, _, inner, split, rfl, none⟩

theorem stage?_eq_none_iff : report.stage? = none ↔ report.Unstaged := by
  rw [stage?_eq, List.findSome?_eq_none_iff, Link.forall_stage?_context_eq_none_iff, Unstaged]

theorem exitCode_iff :
    (report.exitCode = 2 ↔ report.Reaches .config) ∧
      (report.exitCode = 3 ↔ report.Reaches .trace) ∧ (report.exitCode = 1 ↔ report.Unstaged) := by
  simp only [← stage?_eq_some_iff, ← stage?_eq_none_iff, exitCode]
  cases report.stage? with
  | none => simp
  | some stage => cases stage <;> simp

theorem reason_iff :
    (report.reason = "Config" ↔ report.Reaches .config) ∧
      (report.reason = "Trace" ↔ report.Reaches .trace) ∧
      (report.reason = "Error" ↔ report.Unstaged) := by
  simp only [← stage?_eq_some_iff, ← stage?_eq_none_iff, reason]
  cases report.stage? with
  | none => simp
  | some stage => cases stage <;> simp

end Report

/-- That a table or a configuration could not be built. -/
def Cause.Unbuilt (cause : Cause) : Prop :=
  ∃ reason, cause = .table reason ∨ cause = .config reason

/-- The texts that give a hint. -/
inductive Hint.Given : Hint → String → Prop
  | length (refusal : LengthRefused) :
      Given .length (lengthText (Link.words (.cause (.length refusal))))
  | table {cause : Cause} (unbuilt : cause.Unbuilt) (chain : String) :
      Given .table (tableText (Link.words (.cause cause)) chain)
  | headers (chain : String) : Given .config (headersText chain)
  | config (chain : String) : Given .config (configText chain)
  | trace (chain : String) : Given .trace (traceText chain)
  | general (top chain : String) : Given .general (generalText top chain)

theorem isPrefix_toList_append {start : List Char} {left : String} (given : start <+: left.toList)
    (right : String) : start <+: (left ++ right).toList := by
  rw [String.toList_append]
  exact given.trans (List.prefix_append _ _)

namespace Hint

/-- How the texts that give a hint begin. -/
def opening : Hint → String
  | .length => "What happened: h"
  | .table => "What happened: i"
  | .config => "What happened: I"
  | .trace => "What happened: T"
  | .general => "Something"

theorem Given.opening_isPrefix {hint : Hint} {text : String} (given : hint.Given text) :
    hint.opening.toList <+: text.toList := by
  have happened (start : List Char) {told : String} (begins : start <+: told.toList) :
      "What happened: ".toList ++ start <+: ("What happened: " ++ told).toList := by
    rwa [String.toList_append, List.prefix_append_right_inj]
  cases given with
  | length refusal =>
      apply isPrefix_toList_append
      apply happened ['h']
      exact isPrefix_toList_append (by decide) _
  | @table cause unbuilt causes =>
      iterate 3 apply isPrefix_toList_append
      apply happened ['i']
      rcases unbuilt with ⟨reason, rfl | rfl⟩ <;> exact isPrefix_toList_append (by decide) _
  | headers causes =>
      iterate 3 apply isPrefix_toList_append
      decide
  | config causes =>
      iterate 4 apply isPrefix_toList_append
      decide
  | trace causes =>
      iterate 4 apply isPrefix_toList_append
      decide
  | general outermost causes =>
      iterate 2 apply isPrefix_toList_append
      decide

/-- No opening is the beginning of another one, so a text gives at most one hint. -/
theorem eq_of_given {hint other : Hint} {text : String} (given : hint.Given text)
    (otherGiven : other.Given text) : hint = other := by
  have comparable := List.prefix_or_prefix_of_prefix given.opening_isPrefix
    otherGiven.opening_isPrefix
  revert comparable
  cases hint <;> cases other <;> decide

end Hint

/--
The rules of explanation. Root causes of two kinds decide alone. Otherwise the outermost stage does,
and the configuration's text depends on what the links below the outermost one tell.
-/
inductive Report.Explained (report : Report) : Hint → String → Prop
  | length {refusal : LengthRefused} (root : report.cause = .length refusal) :
      Explained report .length (Hint.lengthText (Link.words (.cause (.length refusal))))
  | table (root : report.cause.Unbuilt) :
      Explained report .table (Hint.tableText (Link.words (.cause report.cause)) report.below)
  | headers {line : String} (root : report.cause = .plain line) (reaches : report.Reaches .config)
      (tells : report.TellsOfHeaders) : Explained report .config (Hint.headersText report.below)
  | config {line : String} (root : report.cause = .plain line) (reaches : report.Reaches .config)
      (silent : ¬report.TellsOfHeaders) : Explained report .config (Hint.configText report.below)
  | trace {line : String} (root : report.cause = .plain line) (reaches : report.Reaches .trace) :
      Explained report .trace (Hint.traceText report.below)
  | general {line : String} (root : report.cause = .plain line) (unstaged : report.Unstaged) :
      Explained report .general (Hint.generalText report.top report.below)

namespace Report

variable (report : Report)

theorem Explained.given {report : Report} {hint : Hint} {text : String}
    (explained : report.Explained hint text) : hint.Given text := by
  cases explained with
  | length root => exact .length _
  | table root => exact .table root _
  | headers root reaches tells => exact .headers _
  | config root reaches silent => exact .config _
  | trace root reaches => exact .trace _
  | general root unstaged => exact .general _ _

theorem exists_explained : ∃ hint, report.Explained hint report.searched := by
  have table (unbuilt : report.cause.Unbuilt) := Explained.table unbuilt
  rw [searched_eq]
  cases root : report.cause with
  | length refusal => exact ⟨.length, .length root⟩
  | table reason =>
      rw [root] at table
      exact ⟨.table, table ⟨reason, Or.inl rfl⟩⟩
  | config reason =>
      rw [root] at table
      exact ⟨.table, table ⟨reason, Or.inr rfl⟩⟩
  | plain line =>
      cases reached : report.stage? with
      | none => exact ⟨.general, .general root (report.stage?_eq_none_iff.mp reached)⟩
      | some stage =>
          have reaches := report.stage?_eq_some_iff.mp reached
          cases stage with
          | trace => exact ⟨.trace, .trace root reaches⟩
          | config =>
              by_cases tells : report.TellsOfHeaders
              · simp only [if_pos tells]
                exact ⟨.config, .headers root reaches tells⟩
              · simp only [if_neg tells]
                exact ⟨.config, .config root reaches tells⟩

/--
The exit code and the reason in the JSON form are those of the outermost stage. The explanation is
the text that a search through the chain finds, with the chain below its outermost link in it. It
follows one of the rules, and it gives a hint if and only if that is the hint of the rule.
-/
theorem classified_alike :
    (report.exitCode = 2 ↔ report.Reaches .config) ∧
      (report.exitCode = 3 ↔ report.Reaches .trace) ∧
      (report.exitCode = 1 ↔ report.Unstaged) ∧
      (report.json.field? "reason" = some (.text "Config") ↔ report.Reaches .config) ∧
      (report.json.field? "reason" = some (.text "Trace") ↔ report.Reaches .trace) ∧
      (report.json.field? "reason" = some (.text "Error") ↔ report.Unstaged) ∧
      report.json.field? "message" = some (.text report.advice.message) ∧
      report.advice.message = report.searched ∧
      (∃! hint, report.Explained hint report.advice.message) ∧
      ∀ hint : Hint, hint.Given report.advice.message ↔
        report.Explained hint report.advice.message := by
  have field (word : String) :
      report.json.field? "reason" = some (.text word) ↔ report.reason = word := by
    have reason : report.json.field? "reason" = some (.text report.reason) := rfl
    simp [reason]
  obtain ⟨two, three, one⟩ := report.exitCode_iff
  obtain ⟨config, trace, error⟩ := report.reason_iff
  obtain ⟨hint, explained⟩ := report.exists_explained
  rw [← message_advice] at explained
  have unique (other : Hint) (given : other.Given report.advice.message) : other = hint :=
    Hint.eq_of_given given explained.given
  simp only [field]
  refine ⟨two, three, one, config, trace, error, rfl, report.message_advice,
    ⟨hint, explained, ?_⟩, ?_⟩
  · intro other otherExplained
    exact unique other otherExplained.given
  · intro other
    constructor
    · intro given
      rwa [unique other given]
    · exact Explained.given

end Report
end TransientFuel
