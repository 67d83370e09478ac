import SceneNotation.Proofs.Deed

/- What a memory makes of a line, told from the text of the line: one rule for each
   thing that a line can be, and no line falls under two. Whatever holds of all that
   a line can do is a matter of going through these rules. -/
namespace SceneNotation

namespace Instruction.Arity

variable {arity : Arity} {count : Int}

theorem accepts_iff :
    arity.accepts count = true ↔ arity.least ≤ count ∧ ∀ most, arity.most = some most → count ≤ most := by
  unfold accepts
  cases arity.most with
  | none => simp
  | some most => simp

theorem refuses_iff :
    ¬ arity.accepts count = true ↔
      count < arity.least ∨ ∃ most, arity.most = some most ∧ most < count := by
  simp [accepts_iff, imp_iff_not_or]

end Instruction.Arity

namespace Compiler

open Instruction

/-- The line is an instruction, and these are its words. -/
structure Instructs (body : Text) (words : List Text) : Prop where
  plain : '「' ∉ body
  said : ∃ text, body = '$' :: text ∧ Text.words text = words

/-- A bracket makes dialogue of a line that is neither a label nor a comment. -/
structure IsDialogue (body : Text) : Prop where
  unlabelled : ¬ [';', ';'] <+: body
  uncommented : ¬ ['#'] <+: body
  opened : '「' ∈ body

structure IsAlias (body : Text) : Prop where
  plain : '「' ∉ body
  begins : [';'] <+: body
  unlabelled : ¬ [';', ';'] <+: body

/-- The instructions, and how many arguments they take. An inclusion takes any number here and
counts them itself. -/
def instructionArities : List (Text × Arity) :=
  [("python".toList, ⟨0, some 0⟩), ("renpy".toList, ⟨0, some 0⟩), ("inpy".toList, ⟨0, some 0⟩),
    ("include".toList, ⟨0, none⟩), ("style".toList, ⟨1, none⟩), ("endstyle".toList, ⟨0, some 0⟩),
    ("define".toList, ⟨2, some 2⟩), ("ifdef".toList, ⟨1, some 1⟩), ("ifndef".toList, ⟨1, some 1⟩),
    ("endif".toList, ⟨0, some 0⟩)]

def modeCommands : List (Text × Mode) :=
  [("python".toList, .block), ("renpy".toList, .script), ("inpy".toList, .nestedBlock)]

/-- What a line of notation is read as, told from what stands behind its boosts. -/
inductive Memory.Means (memory : Memory) (body : Text) : Reading → Prop
  | label {name : Text} (marked : body = ';' :: ';' :: name) :
      Means memory body (.does (.write memory 0 (labelLine name)))
  | comment (marked : ['#'] <+: body) :
      Means memory body (.does (.write memory memory.mode.level body))
  | verbatim {content : Text} (plain : '「' ∉ body) (marked : body = ':' :: content) :
      Means memory body (.does (.write memory 0 content))
  | narration {message : Text} (dialogue : IsDialogue body)
      (read : Dialogue.ofLine body = .ok (.narration message)) :
      Means memory body (.does (.narrate message))
  | speech {speaker message : Text} (dialogue : IsDialogue body)
      (read : Dialogue.ofLine body = .ok (.speech speaker message)) :
      Means memory body
        (.does (.write memory memory.mode.level (speechLine memory.fresh speaker message)))
  | unclosed (dialogue : IsDialogue body) (unclosed : '」' ∉ body) :
      Means memory body (.does (.refuse .unclosedDialogue))
  | unsplit (unsplit : Unsplit body) : Means memory body (.does (.breakOff .uncut))
  | aliasing {given : CharacterAlias} (aliases : IsAlias body)
      (read : CharacterAlias.ofLine body = .ok given) :
      Means memory body
        (.does (keep { memory with aliases := memory.aliases.bind given.name given.shown }))
  | malformed (aliases : IsAlias body) (colonless : ':' ∉ body) :
      Means memory body (.does (.refuse .malformedAlias))
  | opens {command : Text} {mode : Mode} {level : Int} (listed : (command, mode) ∈ modeCommands)
      (instructs : Instructs body [command]) (headed : mode.headerLevel? = some level) :
      Means memory body (.does (.write { memory with mode := mode } level blockHeader))
  | enters {command : Text} {mode : Mode} (listed : (command, mode) ∈ modeCommands)
      (instructs : Instructs body [command]) (headless : mode.headerLevel? = none) :
      Means memory body (.does (keep { memory with mode := mode }))
  | inclusion {args : List Text} (instructs : Instructs body ("include".toList :: args)) :
      Means memory body (.asks args)
  | style {args : List Text} {found : List Decoration}
      (instructs : Instructs body ("style".toList :: args)) (given : args ≠ [])
      (looked : lookupDecorations args = .ok found) :
      Means memory body (.does (keep { memory with decorations := memory.decorations ++ found }))
  | undecorated {args : List Text} {name : Text}
      (instructs : Instructs body ("style".toList :: args))
      (looked : lookupDecorations args = .error name) :
      Means memory body (.does (.refuse (.unknownDecoration name)))
  | endStyle (instructs : Instructs body ["endstyle".toList]) :
      Means memory body (.does (keep { memory with decorations := [] }))
  | define {token replacement : Text}
      (instructs : Instructs body ["define".toList, token, replacement]) :
      Means memory body
        (.does (keep { memory with substitutions := memory.substitutions.bind token replacement }))
  | ifDefined {token : Text} (instructs : Instructs body ["ifdef".toList, token]) :
      Means memory body (.does (keep (memory.skipIf (!memory.substitutions.binds token))))
  | ifUndefined {token : Text} (instructs : Instructs body ["ifndef".toList, token]) :
      Means memory body (.does (keep (memory.skipIf (memory.substitutions.binds token))))
  | endIf (instructs : Instructs body ["endif".toList]) : Means memory body (.does memory.keep)
  | unknown {words : List Text} (instructs : Instructs body words)
      (unlisted : words.headD [] ∉ instructionArities.map Prod.fst) :
      Means memory body (.does (.refuse (.unknownInstruction (words.headD []))))
  | miscounted {command : Text} {args : List Text} {arity : Arity}
      (instructs : Instructs body (command :: args)) (listed : (command, arity) ∈ instructionArities)
      (refused : ¬ arity.accepts args.length = true) :
      Means memory body (.does (.refuse (.argumentCount command arity args.length)))
  | invalid (plain : '「' ∉ body) (begins : ∀ c ∈ body.head?, c ∉ [';', '#', ':', '$']) :
      Means memory body (.does (.refuse .invalidLine))

/-- What any line is read as. -/
inductive Memory.Reads (memory : Memory) (line : Text) : Reading → Prop
  | resumes (skips : 0 < memory.skipDepth) (ends : line = conditionalEnd) :
      Reads memory line (.does (keep { memory with skipDepth := memory.skipDepth - 1 }))
  | skips (skips : 0 < memory.skipDepth) (inside : line ≠ conditionalEnd) :
      Reads memory line (.does memory.keep)
  | leaves (awake : memory.skipDepth = 0) (closes : memory.mode.closing? = some line) :
      Reads memory line (.does (keep { memory with mode := .scenario }))
  | copies (awake : memory.skipDepth = 0) (passes : memory.mode ≠ .scenario)
      (inside : memory.mode.closing? ≠ some line) :
      Reads memory line (.does (.write memory memory.mode.level line))
  | empty (reads : memory.ReadsNotation) (empty : line = []) : Reads memory line (.does memory.keep)
  | means {reading : Reading} (reads : memory.ReadsNotation) (nonempty : line ≠ [])
      (means : memory.Means (splitBoosts line).2 reading) : Reads memory line reading

theorem lookupDecorations_eq_ok {names : List Text} {found : List Decoration}
    (looked : lookupDecorations names = .ok found) :
    names.map Decoration.ofName? = found.map some := by
  induction names generalizing found with
  | nil =>
      cases looked
      rfl
  | cons name rest ih =>
      rw [lookupDecorations] at looked
      split at looked
      · cases looked
      · next first known =>
          cases later : lookupDecorations rest with
          | error unknown =>
              rw [later] at looked
              cases looked
          | ok others =>
              rw [later] at looked
              cases looked
              rw [List.map_cons, List.map_cons, known, ih later]

theorem named_of_lookupDecorations {names : List Text} {found : List Decoration}
    (looked : lookupDecorations names = .ok found) {decoration : Decoration}
    (member : decoration ∈ found) : ∃ name ∈ names, Decoration.ofName? name = some decoration := by
  have looksUp : some decoration ∈ names.map Decoration.ofName? := by
    rw [lookupDecorations_eq_ok looked]
    exact List.mem_map_of_mem member
  exact List.mem_map.mp looksUp

theorem mem_all_of_lookupDecorations {names : List Text} {found : List Decoration}
    (looked : lookupDecorations names = .ok found) {decoration : Decoration}
    (member : decoration ∈ found) : decoration ∈ Decoration.all := by
  have every : ∀ entry ∈ Decoration.table.entries, entry.2 ∈ Decoration.all := by decide
  obtain ⟨name, _, named⟩ := named_of_lookupDecorations looked member
  exact every (name, decoration) (Bindings.mem_of_find? named)

theorem instructionArities_eq :
    instructionArities = Registry.builtinSpecs.map fun spec => (spec.name, spec.arity) := by
  decide

theorem builtin_find {spec : Spec} (known : spec ∈ Registry.builtinSpecs) :
    Registry.builtin.find? spec.name = some spec := by
  simp only [Registry.builtinSpecs, List.mem_cons, List.not_mem_nil, or_false] at known
  rcases known with rfl | rfl | rfl | rfl | rfl | rfl | rfl | rfl | rfl | rfl <;> rfl

theorem builtin_names : Registry.builtin.specs.names = instructionArities.map Prod.fst := by
  decide

theorem resolveCall_listed {command : Text} {arity : Arity} (listed : (command, arity) ∈ instructionArities)
    (args : List Text) (line : Int) :
    ∃ spec ∈ Registry.builtinSpecs, spec.name = command ∧ spec.arity = arity ∧
      resolveCall Registry.builtin ⟨command, args, line⟩ =
        if arity.accepts args.length then .ok spec
        else .error (.argumentCount command arity args.length) := by
  rw [instructionArities_eq, List.mem_map] at listed
  obtain ⟨spec, known, row⟩ := listed
  cases row
  refine ⟨spec, known, rfl, rfl, ?_⟩
  simp only [resolveCall, builtin_find known]

theorem resolveCall_unlisted {command : Text} (unlisted : command ∉ instructionArities.map Prod.fst)
    (args : List Text) (line : Int) :
    resolveCall Registry.builtin ⟨command, args, line⟩ = .error (.unknownInstruction command) := by
  rw [← builtin_names] at unlisted
  have absent : Registry.builtin.find? command = none := Bindings.find?_eq_none_iff.mpr unlisted
  simp only [resolveCall, absent]

namespace Instructs

variable {body : Text} {words : List Text}

theorem of_ofLine {text : Text} (read : Directive.ofLine body = .instruction text) :
    Instructs body (Text.words text) := by
  have plain := Directive.plain_of_ofLine (Or.inr read)
  obtain rfl := Directive.instruction_ofLine read
  exact ⟨by simpa using plain, text, rfl, rfl⟩

theorem readBody (instructs : Instructs body words) (memory : Memory) :
    memory.readBody body = memory.readCall ⟨words.headD [], words.tail, 0⟩ := by
  obtain ⟨plain, text, rfl, rfl⟩ := instructs
  have read : Directive.ofLine ('$' :: text) = .instruction text :=
    Directive.ofLine_instruction fun member => plain (List.mem_cons_of_mem '$' member)
  simp only [Memory.readBody, read, Call.ofText_words]

theorem readAction {spec : Spec} {args : List Text} (instructs : Instructs body (spec.name :: args))
    (known : spec ∈ Registry.builtinSpecs) (accepted : spec.arity.accepts args.length = true)
    (memory : Memory) : memory.readBody body = memory.readAction spec args := by
  rw [instructs.readBody]
  simp only [Memory.readCall, resolveCall, List.headD_cons, List.tail_cons, builtin_find known, accepted,
    if_true]

theorem readStyle {args : List Text} (instructs : Instructs body ("style".toList :: args))
    (given : args ≠ []) (memory : Memory) :
    memory.readBody body = .does (memory.readStyle args) := by
  have accepted : Registry.specStyle.arity.accepts args.length = true :=
    Arity.accepts_iff.mpr ⟨Int.ofNat_le.mpr (List.length_pos_of_ne_nil given),
      fun most unbounded => by cases unbounded⟩
  exact @readAction body Registry.specStyle args instructs (by decide) accepted memory

theorem mem_of_mem (instructs : Instructs body words) {word : Text} (listed : word ∈ words) {c : Char}
    (member : c ∈ word) : c ∈ body := by
  obtain ⟨_, text, rfl, rfl⟩ := instructs
  exact List.mem_cons_of_mem '$' (Text.mem_of_mem_words listed member)

theorem mentions {line path : Text}
    (instructs : Instructs (splitBoosts line).2 ["include".toList, path]) :
    mentionedPath? line = some path := by
  obtain ⟨plain, text, marked, split⟩ := instructs
  have read : Directive.ofLine (splitBoosts line).2 = .instruction text := by
    rw [marked] at plain ⊢
    exact Directive.ofLine_instruction fun member => plain (List.mem_cons_of_mem '$' member)
  simp only [mentionedPath?, read, split, if_true]

theorem isWord (instructs : Instructs body words) {word : Text} (listed : word ∈ words) :
    Text.IsWord word := by
  obtain ⟨_, text, _, rfl⟩ := instructs
  exact Text.isWord_of_mem_words listed

end Instructs

theorem IsDialogue.readBody {body : Text} (dialogue : IsDialogue body) (memory : Memory) :
    memory.readBody body = .does (memory.readDialogue body) := by
  simp only [Memory.readBody,
    Directive.ofLine_dialogue dialogue.unlabelled dialogue.uncommented dialogue.opened]

theorem IsAlias.readBody {body : Text} (aliases : IsAlias body) (memory : Memory) :
    memory.readBody body = .does (memory.readAlias body) := by
  obtain ⟨plain, ⟨rest, rfl⟩, unlabelled⟩ := aliases
  have single : rest.head? ≠ some ';' := by
    intro second
    obtain ⟨name, rfl⟩ := List.head?_eq_some_iff.mp second
    exact unlabelled (List.prefix_append [';', ';'] name)
  have read := Directive.ofLine_aliasing single fun member => plain (List.mem_cons_of_mem ';' member)
  simp only [List.singleton_append, Memory.readBody, read]

section Rules

variable (memory : Memory) {body : Text}

theorem readDialogue_means (read : Directive.ofLine body = .dialogue body) :
    memory.Means body (.does (memory.readDialogue body)) := by
  obtain ⟨_, opened, unlabelled, uncommented⟩ := Directive.dialogue_ofLine read
  have dialogue : IsDialogue body := ⟨unlabelled, uncommented, opened⟩
  unfold Memory.readDialogue
  split
  · next unclosed => exact .unclosed dialogue (Dialogue.ofLine_unclosed_iff.mp unclosed)
  · next uncut => exact .unsplit (unsplit_of_uncut read uncut)
  · next narrated => exact .narration dialogue narrated
  · next spoken => exact .speech dialogue spoken

theorem readAlias_means (aliases : IsAlias body) :
    memory.Means body (.does (memory.readAlias body)) := by
  unfold Memory.readAlias
  split
  · next malformed => exact .malformed aliases (CharacterAlias.ofLine_malformed_iff.mp malformed)
  · next uncut =>
      obtain ⟨rest, rfl⟩ := aliases.begins
      exact absurd uncut (CharacterAlias.ofLine_cuts rest)
  · next read => exact .aliasing aliases read

theorem readMode_means {command : Text} {mode : Mode} (listed : (command, mode) ∈ modeCommands)
    (instructs : Instructs body [command]) : memory.Means body (.does (memory.readMode mode)) := by
  unfold Memory.readMode
  split
  · next headed => exact .opens listed instructs headed
  · next headless => exact .enters listed instructs headless

theorem readStyle_means {args : List Text} (instructs : Instructs body ("style".toList :: args))
    (given : args ≠ []) : memory.Means body (.does (memory.readStyle args)) := by
  unfold Memory.readStyle
  split
  · next looked => exact .undecorated instructs looked
  · next looked => exact .style instructs given looked

theorem readAction_means {spec : Spec} {args : List Text} (known : spec ∈ Registry.builtinSpecs)
    (accepted : spec.arity.accepts args.length = true)
    (instructs : Instructs body (spec.name :: args)) :
    memory.Means body (memory.readAction spec args) := by
  obtain ⟨least, most⟩ := Arity.accepts_iff.mp accepted
  have exactly {count : Nat} (lower : (count : Int) ≤ args.length) (upper : (args.length : Int) ≤ count) :
      args.length = count := by omega
  simp only [Registry.builtinSpecs, List.mem_cons, List.not_mem_nil, or_false] at known
  rcases known with rfl | rfl | rfl | rfl | rfl | rfl | rfl | rfl | rfl | rfl
  · obtain rfl := List.length_eq_zero_iff.mp (exactly least (most 0 rfl))
    exact readMode_means memory (by decide) instructs
  · obtain rfl := List.length_eq_zero_iff.mp (exactly least (most 0 rfl))
    exact readMode_means memory (by decide) instructs
  · obtain rfl := List.length_eq_zero_iff.mp (exactly least (most 0 rfl))
    exact readMode_means memory (by decide) instructs
  · exact .inclusion instructs
  · exact readStyle_means memory instructs (List.ne_nil_of_length_pos (Int.ofNat_le.mp least))
  · obtain rfl := List.length_eq_zero_iff.mp (exactly least (most 0 rfl))
    exact .endStyle instructs
  · obtain ⟨token, replacement, rfl⟩ := List.length_eq_two.mp (exactly least (most 2 rfl))
    exact .define instructs
  · obtain ⟨token, rfl⟩ := List.length_eq_one_iff.mp (exactly least (most 1 rfl))
    exact .ifDefined instructs
  · obtain ⟨token, rfl⟩ := List.length_eq_one_iff.mp (exactly least (most 1 rfl))
    exact .ifUndefined instructs
  · obtain rfl := List.length_eq_zero_iff.mp (exactly least (most 0 rfl))
    exact .endIf instructs

theorem readCall_means {words : List Text} (instructs : Instructs body words) :
    memory.Means body (memory.readCall ⟨words.headD [], words.tail, 0⟩) := by
  by_cases named : words.headD [] ∈ instructionArities.map Prod.fst
  · have nonempty : words ≠ [] := by
      rintro rfl
      exact absurd named (by decide)
    obtain ⟨command, args, rfl⟩ := List.exists_cons_of_ne_nil nonempty
    obtain ⟨⟨_, arity⟩, listed, rfl⟩ := List.mem_map.mp named
    obtain ⟨spec, known, rfl, rfl, resolved⟩ := resolveCall_listed listed args 0
    simp only [Memory.readCall, List.headD_cons, List.tail_cons, resolved]
    by_cases accepted : spec.arity.accepts args.length = true
    · rw [if_pos accepted]
      exact readAction_means memory known accepted instructs
    · rw [if_neg accepted]
      exact .miscounted instructs listed accepted
  · simp only [Memory.readCall, resolveCall_unlisted named]
    exact .unknown instructs named

theorem Memory.readBody_means (body : Text) : memory.Means body (memory.readBody body) := by
  unfold Memory.readBody
  cases read : Directive.ofLine body with
  | label name => exact .label (Directive.label_ofLine read)
  | comment found =>
      obtain ⟨rfl, rest, marked⟩ := Directive.comment_ofLine read
      exact .comment ⟨rest, marked.symm⟩
  | verbatim content =>
      obtain ⟨rfl, plain⟩ := Directive.verbatim_ofLine read
      exact .verbatim (by simpa using plain) rfl
  | dialogue found =>
      obtain ⟨rfl, _⟩ := Directive.dialogue_ofLine read
      exact readDialogue_means memory read
  | aliasing found =>
      have plain := Directive.plain_of_ofLine (Or.inl read)
      obtain ⟨rest, rfl, rfl⟩ := Directive.aliasing_ofLine read
      exact readAlias_means memory
        ⟨plain, List.prefix_append [';'] rest, Directive.aliasing_unlabelled read⟩
  | instruction text =>
      simp only [Call.ofText_words]
      exact readCall_means memory (Instructs.of_ofLine read)
  | unknown =>
      obtain ⟨plain, begins⟩ := Directive.ofLine_unknown_iff.mp read
      exact .invalid plain begins

theorem Memory.reading_reads (line : Text) : memory.Reads line (memory.reading line) := by
  by_cases skips : 0 < memory.skipDepth
  · rw [reading_of_skips skips, readSkipped]
    split
    · next ends => exact .resumes skips ends
    · next inside => exact .skips skips inside
  · have awake : memory.skipDepth = 0 := Nat.eq_zero_of_not_pos skips
    by_cases scenario : memory.mode = .scenario
    · have reads : memory.ReadsNotation := ⟨awake, scenario⟩
      by_cases empty : line = []
      · rw [empty, reads.reading_empty]
        exact .empty reads rfl
      · rw [reads.reading empty]
        exact .means reads empty (memory.readBody_means _)
    · rw [reading_of_passes awake scenario, readVerbatim]
      split
      · next closes => exact .leaves awake closes
      · next inside => exact .copies awake scenario inside

end Rules

theorem Memory.Means.readBody {memory : Memory} {body : Text} {reading : Reading}
    (means : memory.Means body reading) : memory.readBody body = reading := by
  cases means with
  | label marked =>
      subst marked
      rfl
  | comment marked =>
      obtain ⟨rest, rfl⟩ := marked
      rfl
  | @verbatim content plain marked =>
      subst marked
      have read : Directive.ofLine (':' :: content) = .verbatim content := by
        simpa [Directive.ofLine] using plain
      simp only [Memory.readBody, read]
  | narration dialogue read => simp only [dialogue.readBody, readDialogue, read]
  | speech dialogue read => simp only [dialogue.readBody, readDialogue, read]
  | unclosed dialogue unclosed =>
      simp only [dialogue.readBody, readDialogue, Dialogue.ofLine_unclosed_iff.mpr unclosed]
  | unsplit unsplit => simp only [Memory.readBody, unsplit.dialogue, readDialogue, unsplit.uncut]
  | aliasing aliases read => simp only [aliases.readBody, readAlias, read]
  | malformed aliases colonless =>
      simp only [aliases.readBody, readAlias, CharacterAlias.ofLine_malformed_iff.mpr colonless]
  | @opens command mode level listed instructs headed =>
      simp only [modeCommands, List.mem_cons, List.not_mem_nil, or_false, Prod.mk.injEq] at listed
      rcases listed with ⟨rfl, rfl⟩ | ⟨rfl, rfl⟩ | ⟨rfl, rfl⟩ <;> cases headed
      · exact instructs.readBody memory
      · exact instructs.readBody memory
  | enters listed instructs headless =>
      simp only [modeCommands, List.mem_cons, List.not_mem_nil, or_false, Prod.mk.injEq] at listed
      rcases listed with ⟨rfl, rfl⟩ | ⟨rfl, rfl⟩ | ⟨rfl, rfl⟩ <;> cases headless
      exact instructs.readBody memory
  | @inclusion args instructs =>
      have accepted : Registry.specSplice.arity.accepts args.length = true :=
        Arity.accepts_iff.mpr ⟨Int.natCast_nonneg _, fun most unbounded => by cases unbounded⟩
      exact @Instructs.readAction body Registry.specSplice args instructs (by decide) accepted memory
  | style instructs given looked => rw [instructs.readStyle given, readStyle, looked]
  | @undecorated args name instructs looked =>
      have given : args ≠ [] := by
        rintro rfl
        cases looked
      rw [instructs.readStyle given, readStyle, looked]
  | endStyle instructs => exact instructs.readBody memory
  | define instructs => exact instructs.readBody memory
  | ifDefined instructs => exact instructs.readBody memory
  | ifUndefined instructs => exact instructs.readBody memory
  | endIf instructs => exact instructs.readBody memory
  | unknown instructs unlisted =>
      rw [instructs.readBody]
      simp only [Memory.readCall, resolveCall_unlisted unlisted]
  | @miscounted command args arity instructs listed refused =>
      obtain ⟨_, _, _, _, resolved⟩ := resolveCall_listed listed args 0
      rw [instructs.readBody]
      simp only [Memory.readCall, List.headD_cons, List.tail_cons, resolved, if_neg refused]
  | invalid plain begins =>
      simp only [Memory.readBody, Directive.ofLine_unknown_iff.mpr ⟨plain, begins⟩]

end Compiler

end SceneNotation
