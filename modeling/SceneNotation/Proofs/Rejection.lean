import SceneNotation.Proofs.Invariant

/- When a line of notation fails of itself, and how, said of its text alone. There
   is a rule for each kind of failure, and where two could be meant the order of the
   checks decides: a bracket anywhere makes dialogue of what begins like an alias,
   and an inclusion asks for file access before it counts its arguments. What no
   rule rejects goes through, unless a file that it includes does not. -/
namespace SceneNotation

/-- What kind of failure it is, without where and in what words it is reported. -/
inductive Failure.Kind where
  | diagnosed (kind : Fault.Kind)
  | brokeOff (breakdown : Breakdown)
  deriving DecidableEq, Repr

def Failure.kind : Failure → Failure.Kind
  | .diagnosed diagnostic => .diagnosed diagnostic.fault.kind
  | .brokeOff breakdown => .brokeOff breakdown

theorem Settings.terminates_eq_false_iff {settings : Settings} {narration : Text} :
    settings.terminates narration = false ↔
      narration = [] ∨ ∃ front c, narration = front ++ [c] ∧ c ∉ settings.terminators := by
  rcases List.eq_nil_or_concat' narration with rfl | ⟨front, c, rfl⟩
  · simp [terminates]
  · simp [terminates]

namespace Compiler

open Instruction

theorem lookupDecorations_eq_error {names : List Text} {unknown : Text}
    (looked : lookupDecorations names = .error unknown) :
    unknown ∈ names ∧ Decoration.ofName? unknown = none := by
  induction names with
  | nil => cases looked
  | cons name rest ih =>
      rw [lookupDecorations] at looked
      split at looked
      · next first =>
          cases looked
          exact ⟨List.mem_cons_self, first⟩
      · cases later : lookupDecorations rest with
        | ok found =>
            rw [later] at looked
            cases looked
        | error other =>
            rw [later] at looked
            cases looked
            exact ⟨List.mem_cons_of_mem name (ih later).1, (ih later).2⟩

def decorationNames : List Text :=
  ["b".toList, "bold".toList, "i".toList, "italic".toList, "s".toList, "strikethrough".toList,
    "u".toList, "underline".toList]

/-- Why a line fails, told from what stands behind its boosts. -/
inductive Rejected (settings : Settings) (files : Option FileAccess) (body : Text) :
    Failure.Kind → Prop
  | unclosed (unlabelled : ¬ [';', ';'] <+: body) (uncommented : ¬ ['#'] <+: body)
      (opened : '「' ∈ body) (unclosed : '」' ∉ body) :
      Rejected settings files body (.diagnosed .unclosedDialogue)
  | unsplit (unlabelled : ¬ [';', ';'] <+: body) (uncommented : ¬ ['#'] <+: body)
      (spoken : ¬ ['「'] <+: body) (closed : '」' ∈ body)
      (opensLast : ∃ front, body = front ++ ['「'] ∧ '「' ∉ front) :
      Rejected settings files body (.brokeOff .uncut)
  | unended (strict : settings.strict = true) (narrated : ['「'] <+: body) (closed : '」' ∈ body)
      (unended : body.tail.dropLast = [] ∨
        ∃ front c, body.tail.dropLast = front ++ [c] ∧ c ∉ settings.terminators) :
      Rejected settings files body (.diagnosed .unendedNarration)
  | malformed (plain : '「' ∉ body) (begins : [';'] <+: body) (unlabelled : ¬ [';', ';'] <+: body)
      (colonless : ':' ∉ body) : Rejected settings files body (.diagnosed .malformedAlias)
  | wordless (instructs : Instructs body []) :
      Rejected settings files body (.diagnosed .unknownInstruction)
  | unknown {command : Text} {args : List Text} (instructs : Instructs body (command :: args))
      (unlisted : command ∉ instructionArities.map Prod.fst) :
      Rejected settings files body (.diagnosed .unknownInstruction)
  | miscounted {command : Text} {args : List Text} {arity : Arity}
      (instructs : Instructs body (command :: args)) (listed : (command, arity) ∈ instructionArities)
      (other : command ≠ "include".toList)
      (outside : (args.length : Int) < arity.least ∨ ∃ most, arity.most = some most ∧ most < args.length) :
      Rejected settings files body (.diagnosed .argumentCount)
  | undecorated {args : List Text} (instructs : Instructs body ("style".toList :: args))
      (unknown : ∃ name ∈ args, name ∉ decorationNames) :
      Rejected settings files body (.diagnosed .unknownDecoration)
  | unavailable {args : List Text} (instructs : Instructs body ("include".toList :: args))
      (inaccessible : files = none) : Rejected settings files body (.diagnosed .noFileAccess)
  | unaddressed {args : List Text} (instructs : Instructs body ("include".toList :: args))
      (accessible : files ≠ none) (several : args.length ≠ 1) :
      Rejected settings files body (.diagnosed .includeArguments)
  | missing {path : Text} {access : FileAccess} (instructs : Instructs body ["include".toList, path])
      (accessible : files = some access) (absent : access.contains path = false) :
      Rejected settings files body (.diagnosed .includeMissing)
  | unreadable {path : Text} {access : FileAccess} {cause : ReadFault}
      (instructs : Instructs body ["include".toList, path]) (accessible : files = some access)
      (found : access.contains path = true) (unread : access.read path = .error cause)
      (blamed : cause.isOfFile = true) :
      Rejected settings files body (.diagnosed .includeUnreadable)
  | unread {path : Text} {access : FileAccess} {cause : ReadFault}
      (instructs : Instructs body ["include".toList, path]) (accessible : files = some access)
      (found : access.contains path = true) (unread : access.read path = .error cause)
      (blameless : cause.isOfFile = false) :
      Rejected settings files body (.brokeOff (.reading cause))
  | invalid (plain : '「' ∉ body) (begins : ∀ c ∈ body.head?, c ∉ [';', '#', ':', '$']) :
      Rejected settings files body (.diagnosed .invalidLine)

theorem Decoration.ofName?_eq_none_iff {name : Text} :
    Decoration.ofName? name = none ↔ name ∉ decorationNames := by
  have spelled : decorationNames = Decoration.table.names := by decide
  rw [spelled, Decoration.ofName?, Bindings.find?_eq_none_iff]

theorem inclusion_accepts {arity : Arity} (listed : ("include".toList, arity) ∈ instructionArities)
    (count : Nat) : arity.accepts count = true := by
  have every : ∀ row ∈ instructionArities, row.1 = "include".toList → row.2 = ⟨0, none⟩ := by decide
  have unbounded : arity = ⟨0, none⟩ := every _ listed rfl
  rw [unbounded, Arity.accepts_iff]
  exact ⟨Int.natCast_nonneg count, fun most impossible => by cases impossible⟩

theorem rejected_of_unsplit {settings : Settings} {files : Option FileAccess} {body : Text}
    (unsplit : Unsplit body) : Rejected settings files body (.brokeOff .uncut) := by
  obtain ⟨⟨speaker, rfl, plain, closed⟩, unlabelled, uncommented⟩ := unsplit
  have spoken : ¬ ['「'] <+: speaker ++ ['「'] := by
    obtain ⟨c, rest, rfl⟩ := List.exists_cons_of_ne_nil (List.ne_nil_of_mem closed)
    intro begins
    obtain ⟨rfl, _⟩ := List.cons_prefix_cons.mp begins
    exact plain List.mem_cons_self
  exact .unsplit unlabelled uncommented spoken (List.mem_append_left _ closed) ⟨speaker, rfl, plain⟩

/-- Files that go through with nothing to show for it. -/
def idle : Text → Step := fun _ => ({} : State).done

section Sound

variable {settings : Settings} {files : Option FileAccess} {memory : Memory} {line : Nat} {body : Text}
  {failure : Failure}

theorem inclusion_rejected {args : List Text} (instructs : Instructs body ("include".toList :: args))
    (failed : (Reading.inclusion files args).failure? settings idle line = some failure) :
    Rejected settings files body failure.kind := by
  unfold Reading.inclusion at failed
  cases files with
  | none =>
      cases failed
      exact .unavailable instructs rfl
  | some access =>
      rcases args with _ | ⟨path, _ | ⟨other, rest⟩⟩
      · cases failed
        exact .unaddressed instructs (Option.some_ne_none access) (by simp)
      · simp only [Reading.ofFile] at failed
        split at failed
        · next found =>
            split at failed
            · cases failed
            · next cause unread =>
                split at failed
                · next blamed =>
                    cases failed
                    exact .unreadable instructs rfl found unread blamed
                · next blameless =>
                    cases failed
                    exact .unread instructs rfl found unread (by simpa using blameless)
        · next absent =>
            cases failed
            exact .missing instructs rfl (by simpa using absent)
      · cases failed
        exact .unaddressed instructs (Option.some_ne_none access) (by simp)

theorem Memory.Means.rejected {reading : Reading} (means : memory.Means body reading)
    (failed : (reading.deed files).failure? settings idle line = some failure) :
    Rejected settings files body failure.kind := by
  cases means with
  | narration dialogue narrated =>
      obtain ⟨closed, begins, rfl⟩ := Dialogue.ofLine_narration_iff.mp narrated
      simp only [Reading.deed, Deed.failure?] at failed
      split at failed
      · cases failed
      · next unended =>
          split at failed
          · next strict =>
              cases failed
              exact .unended strict begins closed (Settings.terminates_eq_false_iff.mp (by simpa using unended))
          · cases failed
  | inclusion instructs => exact inclusion_rejected instructs failed
  | unclosed dialogue unclosed =>
      cases failed
      exact .unclosed dialogue.unlabelled dialogue.uncommented dialogue.opened unclosed
  | unsplit unsplit =>
      cases failed
      exact rejected_of_unsplit unsplit
  | malformed aliases colonless =>
      cases failed
      exact .malformed aliases.plain aliases.begins aliases.unlabelled colonless
  | undecorated instructs looked =>
      cases failed
      obtain ⟨given, unknown⟩ := lookupDecorations_eq_error looked
      exact .undecorated instructs ⟨_, given, Decoration.ofName?_eq_none_iff.mp unknown⟩
  | @unknown words instructs unlisted =>
      cases failed
      cases words with
      | nil => exact .wordless instructs
      | cons command args => exact .unknown instructs unlisted
  | miscounted instructs listed refused =>
      cases failed
      refine .miscounted instructs listed ?_ (Arity.refuses_iff.mp refused)
      rintro rfl
      exact refused (inclusion_accepts listed _)
  | invalid plain begins =>
      cases failed
      exact .invalid plain begins
  | label | comment | verbatim | speech | aliasing | opens | enters | style | endStyle | define
  | ifDefined | ifUndefined | endIf => cases failed

end Sound

section Complete

variable {settings : Settings} {files : Option FileAccess} {body : Text} {kind : Failure.Kind}

theorem lookupDecorations_of_unknown {names : List Text} {name : Text} (given : name ∈ names)
    (unknown : Decoration.ofName? name = none) :
    ∃ reported, lookupDecorations names = .error reported := by
  cases looked : lookupDecorations names with
  | error reported => exact ⟨reported, rfl⟩
  | ok found =>
      have listed : Decoration.ofName? name ∈ found.map some := by
        rw [← lookupDecorations_eq_ok looked]
        exact List.mem_map_of_mem given
      rw [unknown] at listed
      simp at listed

theorem Rejected.fails (rejected : Rejected settings files body kind) (memory : Memory) (line : Nat) :
    ∃ failure : Failure, failure.kind = kind ∧
      ((memory.readBody body).deed files).failure? settings idle line = some failure := by
  have failing {reading : Reading} (means : memory.Means body reading) {failure : Failure}
      (fails : (reading.deed files).failure? settings idle line = some failure)
      (like : failure.kind = kind) :
      ∃ failure : Failure, failure.kind = kind ∧
        ((memory.readBody body).deed files).failure? settings idle line = some failure := by
    rw [means.readBody]
    exact ⟨failure, like, fails⟩
  cases rejected with
  | unclosed unlabelled uncommented opened unclosed =>
      exact failing (.unclosed ⟨unlabelled, uncommented, opened⟩ unclosed) rfl rfl
  | unsplit unlabelled uncommented spoken closed opensLast =>
      obtain ⟨front, rfl, plain⟩ := opensLast
      have unsplit : Unsplit (front ++ ['「']) :=
        ⟨⟨front, rfl, plain, by simpa using closed⟩, unlabelled, uncommented⟩
      exact failing (.unsplit unsplit) rfl rfl
  | unended strict narrated closed unended =>
      have read := Dialogue.ofLine_narration_iff.mpr ⟨closed, narrated, rfl⟩
      obtain ⟨rest, rfl⟩ := narrated
      have fails : (Deed.narrate (['「'] ++ rest).tail.dropLast).failure? settings idle line =
          some (.diagnosed ⟨.unendedNarration, line, none⟩) := by
        rw [Deed.failure?, Settings.terminates_eq_false_iff.mpr unended, strict]
        rfl
      exact failing (.narration ⟨by simp, by simp, by simp⟩ read) fails rfl
  | malformed plain begins unlabelled colonless =>
      exact failing (.malformed ⟨plain, begins, unlabelled⟩ colonless) rfl rfl
  | wordless instructs => exact failing (.unknown instructs (by decide)) rfl rfl
  | unknown instructs unlisted => exact failing (.unknown instructs unlisted) rfl rfl
  | miscounted instructs listed other outside =>
      exact failing (.miscounted instructs listed (Arity.refuses_iff.mpr outside)) rfl rfl
  | undecorated instructs unknown =>
      obtain ⟨name, given, unnamed⟩ := unknown
      obtain ⟨reported, looked⟩ :=
        lookupDecorations_of_unknown given (Decoration.ofName?_eq_none_iff.mpr unnamed)
      exact failing (.undecorated instructs looked) rfl rfl
  | unavailable instructs inaccessible =>
      subst inaccessible
      exact failing (.inclusion instructs) rfl rfl
  | @unaddressed args instructs accessible several =>
      obtain ⟨access, rfl⟩ := Option.ne_none_iff_exists'.mp accessible
      rcases args with _ | ⟨path, _ | ⟨other, rest⟩⟩
      · exact failing (.inclusion instructs) rfl rfl
      · exact absurd rfl several
      · exact failing (.inclusion instructs) rfl rfl
  | @missing path access instructs accessible absent =>
      subst accessible
      have answer : Reading.inclusion (some access) [path] = .refuse (.includeMissing path) := by
        simp [Reading.inclusion, Reading.ofFile, absent]
      exact failing (.inclusion instructs) (congrArg (Deed.failure? settings idle line) answer) rfl
  | @unreadable path access cause instructs accessible found unread blamed =>
      subst accessible
      have answer : Reading.inclusion (some access) [path] = .refuse (.includeUnreadable path cause) := by
        simp [Reading.inclusion, Reading.ofFile, found, unread, blamed]
      exact failing (.inclusion instructs) (congrArg (Deed.failure? settings idle line) answer) rfl
  | @unread path access cause instructs accessible found unread blameless =>
      subst accessible
      have answer : Reading.inclusion (some access) [path] = .breakOff (.reading cause) := by
        simp [Reading.inclusion, Reading.ofFile, found, unread, blameless]
      exact failing (.inclusion instructs) (congrArg (Deed.failure? settings idle line) answer) rfl
  | invalid plain begins => exact failing (.invalid plain begins) rfl rfl

end Complete

/-- The line fails whatever comes of the files that it includes. -/
def FailsItself (settings : Settings) (files : Option FileAccess) (state : State) (line : Text)
    (failure : Failure) : Prop :=
  ∀ nested, (processLine { settings, files } nested state line).failure = some failure

section Lines

variable {settings : Settings} {files : Option FileAccess} {state : State} {line : Text}
  {failure : Failure}

theorem Deed.failure?_forall {deed : Deed} {number : Nat} :
    (∀ nested, deed.failure? settings nested number = some failure) ↔
      deed.failure? settings idle number = some failure := by
  constructor
  · intro every
    exact every idle
  · intro failed nested
    cases deed with
    | splice text => cases failed
    | write memory level content => exact failed
    | narrate message => exact failed
    | refuse fault => exact failed
    | breakOff breakdown => exact failed

theorem failsItself_iff (reads : state.ReadsNotation) (nonempty : line ≠ []) :
    FailsItself settings files state line failure ↔
      ((state.memory.readBody (splitBoosts line).2).deed files).failure? settings idle state.line =
        some failure := by
  obtain ⟨notes, _, same⟩ := processLine_performs settings files state line
  rw [← Deed.failure?_forall, ← reads.deed_eq files nonempty]
  simp only [FailsItself, same, Step.logging_failure, Deed.perform_failure]
  rfl

/-- What the rules say of the text behind the boosts is how the line fails of itself. -/
theorem failsItself_iff_rejected (settings : Settings) (files : Option FileAccess)
    (reads : state.ReadsNotation) (nonempty : line ≠ []) (kind : Failure.Kind) :
    (∃ failure : Failure, failure.kind = kind ∧ FailsItself settings files state line failure) ↔
      Rejected settings files (splitBoosts line).2 kind := by
  simp only [failsItself_iff reads nonempty]
  constructor
  · rintro ⟨failure, rfl, failed⟩
    exact (state.memory.readBody_means _).rejected failed
  · intro rejected
    exact rejected.fails state.memory state.line

theorem lineStep_failure_iff (settings : Settings) (files : Option FileAccess) (depth : Nat)
    (state : State) (line : Text) (failure : Failure) :
    (lineStep settings files depth state line).failure = some failure ↔
      FailsItself settings files state line failure ∨
        ∃ path text, Includes files state line path text ∧
          (compileIncluded settings files depth text).failure = some failure := by
  constructor
  · intro failed
    rcases includes_or_alone files state line with ⟨path, text, includes⟩ | alone
    · rw [lineStep_failure_of_includes includes] at failed
      exact Or.inr ⟨path, text, includes, failed⟩
    · exact Or.inl (processLine_own_failed settings alone failed).1
  · rintro (itself | ⟨path, text, includes, failed⟩)
    · exact itself _
    · rw [lineStep_failure_of_includes includes, failed]

end Lines

/-- A line of notation fails of itself exactly as the rules say of what stands behind its boosts. It
goes through if there is no rule against it and every file that it includes goes through. -/
theorem line_fails_by_rule (settings : Settings) (files : Option FileAccess) (state : State)
    (line : Text) (reads : state.ReadsNotation) (nonempty : line ≠ []) :
    ∃ boosts body, line = boostText boosts ++ body ∧ ¬ "%in%".toList <+: body ∧
      (∀ kind, (∃ failure : Failure, failure.kind = kind ∧
          FailsItself settings files state line failure) ↔ Rejected settings files body kind) ∧
      ∀ depth,
        (∀ failure, (lineStep settings files depth state line).failure = some failure ↔
          FailsItself settings files state line failure ∨
            ∃ path text, Includes files state line path text ∧
              (compileIncluded settings files depth text).failure = some failure) ∧
        ((lineStep settings files depth state line).failure = none ↔
          (∀ kind, ¬ Rejected settings files body kind) ∧
            ∀ path text, Includes files state line path text →
              (compileIncluded settings files depth text).failure = none) := by
  obtain ⟨split, unboosted⟩ := splitBoosts_spec line
  have rules := failsItself_iff_rejected settings files reads nonempty
  refine ⟨_, _, split, unboosted, rules, fun depth => ?_⟩
  have failures := lineStep_failure_iff settings files depth state line
  refine ⟨failures, ?_⟩
  constructor
  · intro done
    constructor
    · intro kind rejected
      obtain ⟨failure, _, itself⟩ := (rules kind).mpr rejected
      have failed := (failures failure).mpr (Or.inl itself)
      rw [done] at failed
      cases failed
    · intro path text includes
      rw [← lineStep_failure_of_includes includes, done]
  · rintro ⟨unrejected, included⟩
    by_contra stopped
    obtain ⟨failure, failed⟩ := Option.ne_none_iff_exists'.mp stopped
    rcases (failures failure).mp failed with itself | ⟨path, text, includes, inner⟩
    · exact unrejected failure.kind ((rules failure.kind).mp ⟨failure, rfl, itself⟩)
    · rw [included path text includes] at inner
      cases inner

/-- Behind its boosts the line begins like an alias that has no colon. The bracket makes dialogue of
it, which is never closed. -/
theorem line_fails_by_rule_bracketed :
    let line := "%in%%in%;$「x".toList
    (∃ failure : Failure, failure.kind = .diagnosed .unclosedDialogue ∧
        FailsItself {} none {} line failure) ∧
      (¬ ∃ failure : Failure, failure.kind = .diagnosed .malformedAlias ∧
        FailsItself {} none {} line failure) ∧
      ∀ depth, (lineStep {} none depth {} line).failure ≠ none := by
  intro line
  obtain ⟨boosts, body, split, unboosted, rules, runs⟩ :=
    line_fails_by_rule {} none {} line ⟨rfl, rfl⟩ (by decide)
  have behind : (splitBoosts line).2 = body := by
    rw [split, splitBoosts_boostText, splitBoosts_of_none unboosted]
  obtain rfl : ";$「x".toList = body := behind
  have rejected : Rejected {} none ";$「x".toList (.diagnosed .unclosedDialogue) :=
    .unclosed (by decide) (by decide) (by decide) (by decide)
  refine ⟨(rules _).mpr rejected, ?_, fun depth done => ((runs depth).2.mp done).1 _ rejected⟩
  rw [rules]
  intro misread
  cases misread with
  | malformed plain => exact plain (by decide)

end Compiler

end SceneNotation
