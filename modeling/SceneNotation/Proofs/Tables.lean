import Mathlib.Data.List.DropRight
import SceneNotation.Proofs.Invariant

/- Of all the lines that go through, only those that are come to as notation can say
   anything of the tables, and of those only four kinds do. The tables hold what
   these lines said, in the order they said it: decorations since the last time they
   were cleared, and every name once, where it first came up and with what was last
   said of it. -/
namespace SceneNotation

namespace Compiler

open Instruction

/-- What a line can say of the tables. -/
inductive Entry where
  | style (names : List Text)
  | endStyle
  | define (token replacement : Text)
  | aliasing (name shown : Text)
  deriving DecidableEq, Repr

namespace Entry

def ofCall? (command : Text) (args : List Text) : Option Entry :=
  if command = "style".toList then some (.style args)
  else if command = "endstyle".toList then some .endStyle
  else if command = "define".toList then
    match args with
    | [token, replacement] => some (.define token replacement)
    | _ => none
  else none

/-- Reads an entry off the text of a line and nothing else. A line with an opening bracket is
dialogue or a label, and two semicolons begin a label. -/
def ofLine? (line : Text) : Option Entry :=
  match (splitBoosts line).2 with
  | '$' :: text =>
      if '「' ∈ text then none
      else match Text.words text with
        | [] => none
        | command :: args => ofCall? command args
  | ';' :: rest =>
      if rest.head? = some ';' ∨ '「' ∈ rest then none
      else (Text.cut? ':' rest).map fun given => .aliasing given.1 given.2
  | _ => none

def styles : Entry → List Text
  | .style names => names
  | _ => []

def definition? : Entry → Option (Text × Text)
  | .define token replacement => some (token, replacement)
  | _ => none

def aliasing? : Entry → Option (Text × Text)
  | .aliasing name shown => some (name, shown)
  | _ => none

section Reading

variable {line : Text}

theorem ofLine?_of_bracket (bracket : '「' ∈ (splitBoosts line).2) : ofLine? line = none := by
  unfold ofLine?
  split
  · next text split =>
      rw [split] at bracket
      rw [if_pos (by simpa using bracket)]
  · next rest split =>
      rw [split] at bracket
      rw [if_pos (Or.inr (by simpa using bracket))]
  · rfl

theorem ofLine?_of_instructs {command : Text} {args : List Text}
    (instructs : Instructs (splitBoosts line).2 (command :: args)) : ofLine? line = ofCall? command args := by
  obtain ⟨plain, text, marked, split⟩ := instructs
  rw [marked] at plain
  simp only [ofLine?, marked]
  rw [if_neg fun member => plain (List.mem_cons_of_mem '$' member), split]

theorem ofLine?_of_alias {given : CharacterAlias} (aliases : IsAlias (splitBoosts line).2)
    (read : CharacterAlias.ofLine (splitBoosts line).2 = .ok given) :
    ofLine? line = some (.aliasing given.name given.shown) := by
  obtain ⟨plain, ⟨rest, marked⟩, unlabelled⟩ := aliases
  obtain ⟨cut, colonless⟩ := CharacterAlias.ofLine_eq_ok read
  rw [← marked] at plain unlabelled cut
  have single : rest.head? ≠ some ';' := by
    intro second
    obtain ⟨name, rfl⟩ := List.head?_eq_some_iff.mp second
    exact unlabelled (List.prefix_append [';', ';'] name)
  have clear : ¬ (rest.head? = some ';' ∨ '「' ∈ rest) :=
    not_or.mpr ⟨single, fun member => plain (List.mem_append_right [';'] member)⟩
  obtain rfl : rest = given.name ++ ':' :: given.shown := cut
  simp only [ofLine?, ← marked, List.singleton_append]
  rw [if_neg clear, Text.cut?_split colonless]
  rfl

end Reading

theorem styles_concat (entries : List Entry) {entry : Entry} (kept : entry ≠ .endStyle) :
    ((entries ++ [entry]).rtakeWhile (· != .endStyle)).flatMap styles =
      (entries.rtakeWhile (· != .endStyle)).flatMap styles ++ entry.styles := by
  rw [List.rtakeWhile_concat, if_pos (bne_iff_ne.mpr kept), List.flatMap_append, List.flatMap_singleton]

theorem filterMap_concat {read? : Entry → Option (Text × Text)} (entries : List Entry) {entry : Entry}
    (silent : read? entry = none) : (entries ++ [entry]).filterMap read? = entries.filterMap read? := by
  rw [List.filterMap_append, List.filterMap_cons_none silent, List.filterMap_nil, List.append_nil]

end Entry

/-- The tables hold what the entries said. -/
structure Memory.Records (memory : Memory) (entries : List Entry) : Prop where
  decorations : memory.decorations.map some =
    ((entries.rtakeWhile (· != .endStyle)).flatMap Entry.styles).map Decoration.ofName?
  definitions : memory.substitutions.Tabulates (entries.filterMap Entry.definition?)
  aliases : memory.aliases.Tabulates (entries.filterMap Entry.aliasing?)

namespace Memory.Records

variable {memory : Memory} {entries : List Entry}

theorem start : ({} : Memory).Records [] where
  decorations := rfl
  definitions := .nil
  aliases := .nil

theorem style (records : memory.Records entries) {names : List Text} {found : List Decoration}
    (looked : lookupDecorations names = .ok found) :
    ({ memory with decorations := memory.decorations ++ found } : Memory).Records
      (entries ++ [.style names]) where
  decorations := by
    rw [Entry.styles_concat entries (by simp), List.map_append, List.map_append, records.decorations,
      ← lookupDecorations_eq_ok looked]
    rfl
  definitions := by
    rw [Entry.filterMap_concat entries rfl]
    exact records.definitions
  aliases := by
    rw [Entry.filterMap_concat entries rfl]
    exact records.aliases

theorem endStyle (records : memory.Records entries) :
    ({ memory with decorations := [] } : Memory).Records (entries ++ [.endStyle]) where
  decorations := by
    rw [List.rtakeWhile_concat, if_neg (by decide)]
    rfl
  definitions := by
    rw [Entry.filterMap_concat entries rfl]
    exact records.definitions
  aliases := by
    rw [Entry.filterMap_concat entries rfl]
    exact records.aliases

theorem define (records : memory.Records entries) (token replacement : Text) :
    ({ memory with substitutions := memory.substitutions.bind token replacement } : Memory).Records
      (entries ++ [.define token replacement]) where
  decorations := by
    rw [Entry.styles_concat entries (by simp), records.decorations]
    simp [Entry.styles]
  definitions := by
    rw [List.filterMap_append]
    exact records.definitions.bind token replacement
  aliases := by
    rw [Entry.filterMap_concat entries rfl]
    exact records.aliases

theorem aliasing (records : memory.Records entries) (name shown : Text) :
    ({ memory with aliases := memory.aliases.bind name shown } : Memory).Records
      (entries ++ [.aliasing name shown]) where
  decorations := by
    rw [Entry.styles_concat entries (by simp), records.decorations]
    simp [Entry.styles]
  definitions := by
    rw [Entry.filterMap_concat entries rfl]
    exact records.definitions
  aliases := by
    rw [List.filterMap_append]
    exact records.aliases.bind name shown

/-- Modes and conditionals decide which lines are read, but are no part of what was said. -/
theorem elsewhere (records : memory.Records entries) (mode : Mode) (skipDepth : Nat) :
    ({ memory with mode, skipDepth } : Memory).Records entries :=
  ⟨records.decorations, records.definitions, records.aliases⟩

theorem skipIf (records : memory.Records entries) (condition : Bool) :
    (memory.skipIf condition).Records entries := by
  cases condition with
  | false => exact records
  | true => exact records.elsewhere memory.mode (memory.skipDepth + 1)

theorem means (records : memory.Records entries) (files : Option FileAccess) {line : Text}
    {reading : Reading} (means : memory.Means (splitBoosts line).2 reading)
    (accepted : ∀ fault, reading.deed files ≠ .refuse fault) :
    ((reading.deed files).recalled memory).Records (entries ++ (Entry.ofLine? line).toList) := by
  have unsaid (silent : Entry.ofLine? line = none) :
      memory.Records (entries ++ (Entry.ofLine? line).toList) := by
    rw [silent, Option.toList_none, List.append_nil]
    exact records
  have modes : ∀ row ∈ modeCommands, Entry.ofCall? row.1 [] = none := by decide
  cases means with
  | label marked => exact unsaid (by rw [Entry.ofLine?, marked]; rfl)
  | comment marked =>
      obtain ⟨rest, marked⟩ := marked
      exact unsaid (by rw [Entry.ofLine?, ← marked]; rfl)
  | verbatim _ marked => exact unsaid (by rw [Entry.ofLine?, marked]; rfl)
  | narration dialogue | speech dialogue => exact unsaid (Entry.ofLine?_of_bracket dialogue.opened)
  | unsplit unsplit =>
      obtain ⟨speaker, opensLast, _⟩ := unsplit.opensLast
      exact unsaid (Entry.ofLine?_of_bracket (by simp [opensLast]))
  | aliasing aliases read =>
      rw [Entry.ofLine?_of_alias aliases read]
      exact records.aliasing _ _
  | @opens _ mode _ listed instructs =>
      exact (unsaid ((Entry.ofLine?_of_instructs instructs).trans (modes _ listed))).elsewhere mode _
  | @enters _ mode listed instructs =>
      exact (unsaid ((Entry.ofLine?_of_instructs instructs).trans (modes _ listed))).elsewhere mode _
  | inclusion instructs =>
      have kept := unsaid (Entry.ofLine?_of_instructs instructs)
      exact Reading.inclusion_cases (motive := fun deed => (deed.recalled memory).Records _) files _
        (fun _ => kept) (fun _ => kept) fun _ => kept
  | style instructs _ looked =>
      rw [Entry.ofLine?_of_instructs instructs]
      exact records.style looked
  | endStyle instructs =>
      rw [Entry.ofLine?_of_instructs instructs]
      exact records.endStyle
  | define instructs =>
      rw [Entry.ofLine?_of_instructs instructs]
      exact records.define _ _
  | ifDefined instructs | ifUndefined instructs =>
      exact (unsaid (Entry.ofLine?_of_instructs instructs)).skipIf _
  | endIf instructs => exact unsaid (Entry.ofLine?_of_instructs instructs)
  | unclosed | malformed | undecorated | unknown | miscounted | invalid => exact absurd rfl (accepted _)

theorem deed (records : memory.Records entries) (files : Option FileAccess) (line : Text)
    (accepted : ∀ fault, memory.deed files line ≠ .refuse fault) :
    ((memory.deed files line).recalled memory).Records
      (entries ++ if memory.ReadsNotation then (Entry.ofLine? line).toList else []) := by
  have unread (other : ¬ memory.ReadsNotation) :
      memory.Records (entries ++ if memory.ReadsNotation then (Entry.ofLine? line).toList else []) := by
    rw [if_neg other, List.append_nil]
    exact records
  have rule := memory.reading_reads line
  unfold Memory.deed at accepted ⊢
  generalize memory.reading line = reading at rule accepted
  cases rule with
  | resumes skips =>
      exact (unread fun reads => Nat.ne_of_gt skips reads.1).elsewhere memory.mode (memory.skipDepth - 1)
  | skips skips => exact unread fun reads => Nat.ne_of_gt skips reads.1
  | leaves _ closes =>
      have other : ¬ memory.ReadsNotation := by
        rintro ⟨_, scenario⟩
        rw [scenario] at closes
        cases closes
      exact (unread other).elsewhere .scenario memory.skipDepth
  | copies _ passes => exact unread fun reads => passes reads.2
  | empty reads empty =>
      rw [if_pos reads, empty, show Entry.ofLine? [] = none from rfl, Option.toList_none, List.append_nil]
      exact records
  | means reads _ means =>
      rw [if_pos reads]
      exact records.means files means accepted

end Memory.Records

instance (state : State) : Decidable state.ReadsNotation :=
  decidable_of_decidable_of_iff state.readsNotation_iff.symm

/-- The lines of a run that are come to as notation. -/
def interpreted (process : State → Text → Step) (state : State) : List Text → List Text
  | [] => []
  | line :: rest =>
      let later := interpreted process (process state line).state rest
      if state.ReadsNotation then line :: later else later

section Runs

variable {settings : Settings} {files : Option FileAccess} {depth : Nat} {state next : State}
  {entries : List Entry}

theorem lineStep_records {line : Text} (records : state.memory.Records entries)
    (done : (lineStep settings files depth state line).failure = none) :
    (lineStep settings files depth state line).state.memory.Records
      (entries ++ if state.ReadsNotation then (Entry.ofLine? line).toList else []) := by
  -- a refused line says something too, but it does not go through
  have accepted : ∀ fault, state.memory.deed files line ≠ .refuse fault := by
    intro fault read
    obtain ⟨notes, _, same⟩ := lineStep_performs settings files depth state line
    rw [same, read, Step.logging_failure] at done
    cases done
  rw [lineStep_state_of_done done]
  simp only [state.readsNotation_iff]
  exact records.deed files line accepted

theorem GoesThrough.records {lines : List Text} (records : state.memory.Records entries)
    (through : GoesThrough (lineStep settings files depth) state lines next) :
    next.memory.Records (entries ++
      (interpreted (lineStep settings files depth) state lines).filterMap Entry.ofLine?) := by
  induction lines generalizing state entries with
  | nil =>
      rw [← through.ends, interpreted, List.filterMap_nil, List.append_nil]
      exact records
  | cons line rest ih =>
      obtain ⟨first, later⟩ := through.uncons
      have split : (interpreted (lineStep settings files depth) state (line :: rest)).filterMap
          Entry.ofLine? = (if state.ReadsNotation then (Entry.ofLine? line).toList else []) ++
            (interpreted (lineStep settings files depth)
              (lineStep settings files depth state line).state rest).filterMap Entry.ofLine? := by
        rw [interpreted]
        by_cases reads : state.ReadsNotation
        · rw [if_pos reads, if_pos reads]
          cases said : Entry.ofLine? line with
          | none => rw [List.filterMap_cons_none said]; rfl
          | some entry => rw [List.filterMap_cons_some said]; rfl
        · rw [if_neg reads, if_neg reads, List.nil_append]
      rw [split, ← List.append_assoc]
      exact ih (lineStep_records records first) later

/-- Wherever a fresh compilation has come to, its tables hold what the lines said that were come to
as notation, and nothing else. -/
theorem tables_hold_what_was_said (settings : Settings) (files : Option FileAccess) (depth : Nat)
    (lines : List Text) (state : State)
    (reached : GoesThrough (lineStep settings files depth) {} lines state) :
    let entries := (interpreted (lineStep settings files depth) {} lines).filterMap Entry.ofLine?
    state.decorations.map some =
        ((entries.rtakeWhile (· != .endStyle)).flatMap Entry.styles).map Decoration.ofName? ∧
      state.substitutions.Tabulates (entries.filterMap Entry.definition?) ∧
        state.aliases.Tabulates (entries.filterMap Entry.aliasing?) := by
  intro entries
  have start : ({} : State).memory.Records [] := Memory.Records.start
  obtain ⟨decorations, definitions, aliases⟩ := reached.records start
  exact ⟨decorations, definitions, aliases⟩

/-- Everything is said twice, the second time with a shown name that has a colon of its own; and a
label, a comment, dialogue, a line of script and a skipped line look as if they said more. -/
theorem tables_hold_what_was_said_twice :
    let process := lineStep {} none 0
    let lines := ["$style b".toList, ";A:Alice".toList, "$define X y".toList, "%in%$ define Z w".toList,
      "$python".toList, "$define X never".toList, "$endpy".toList, ";;A:never".toList,
      "#;A:never".toList, ";A:「never」".toList, "$endstyle".toList, "$ifdef Q".toList,
      "$style s".toList, "$endif".toList, "%in%;B:Bob".toList, ";A:Al:ice".toList,
      "$define X z".toList, "$style i u".toList]
    let state := (runLines process {} lines).state
    (interpreted process {} lines).filterMap Entry.ofLine? =
        [.style ["b".toList], .aliasing "A".toList "Alice".toList, .define "X".toList "y".toList,
          .define "Z".toList "w".toList, .endStyle, .aliasing "B".toList "Bob".toList,
          .aliasing "A".toList "Al:ice".toList, .define "X".toList "z".toList,
          .style ["i".toList, "u".toList]] ∧
      state.decorations.map some = [some .italic, some .underline] ∧
      state.substitutions.names = ["X".toList, "Z".toList] ∧
      state.substitutions.find? "X".toList = some "z".toList ∧
      state.aliases.names = ["A".toList, "B".toList] ∧
      state.aliases.find? "A".toList = some "Al:ice".toList := by
  intro process lines state
  have reached : GoesThrough process {} lines state := ⟨by decide +kernel, rfl⟩
  have said : (interpreted process {} lines).filterMap Entry.ofLine? =
      [.style ["b".toList], .aliasing "A".toList "Alice".toList, .define "X".toList "y".toList,
        .define "Z".toList "w".toList, .endStyle, .aliasing "B".toList "Bob".toList,
        .aliasing "A".toList "Al:ice".toList, .define "X".toList "z".toList,
        .style ["i".toList, "u".toList]] := by decide +kernel
  obtain ⟨decorations, definitions, aliases⟩ := tables_hold_what_was_said {} none 0 lines state reached
  rw [said] at decorations definitions aliases
  refine ⟨said, decorations, definitions.order.trans ?_, (definitions.last _).trans ?_,
    aliases.order.trans ?_, (aliases.last _).trans ?_⟩
  · decide +kernel
  · decide +kernel
  · decide +kernel
  · decide +kernel

end Runs

end Compiler

end SceneNotation
