import SceneNotation.Proofs.Deed
import SceneNotation.Proofs.Splice

/- Between the line that opens a mode and the exact line that closes it, lines are
   copied and nothing else: no line is read as notation, whatever it looks like, so
   none can fail and none leaves anything behind but its copy. -/
namespace SceneNotation.Compiler

open Instruction

/-- A way to have lines copied: the lines around them, what the first of the two writes, and the
level of the copies. -/
structure VerbatimBlock where
  mode : Mode
  opening : Text
  closing : Text
  header : Emission
  level : Nat
  deriving DecidableEq, Repr

def verbatimBlocks : List VerbatimBlock :=
  [⟨.block, "$python".toList, "$endpy".toList, ⟨0, "python:".toList⟩, 1⟩,
    ⟨.script, "$renpy".toList, "$endrenpy".toList, ⟨0, []⟩, 0⟩,
    ⟨.nestedBlock, "$inpy".toList, "$endinpy".toList, ⟨1, "python:".toList⟩, 2⟩]

/-- The registry has the instructions that it was built with for opening blocks. -/
structure KeepsBlocks (registry : Registry) : Prop where
  block : registry.find? "python".toList = some Registry.specBlock
  script : registry.find? "renpy".toList = some Registry.specScript
  nestedBlock : registry.find? "inpy".toList = some Registry.specNestedBlock

/-- An empty line is copied without a level. -/
def Emission.copy (level : Nat) (line : Text) : Emission :=
  ⟨if line.isEmpty then 0 else level, line⟩

theorem Emission.render_copy (unit : Text) (level : Nat) (line : Text) :
    (copy level line).render unit =
      (if line = [] then [] else (List.replicate level unit).flatten) ++ line ++ ['\n'] := by
  rw [render_eq]
  cases line with
  | nil => rfl
  | cons c rest => rfl

namespace State

/-- Has written the emissions, a line for each. -/
def written (state : State) (emissions : List Emission) : State :=
  { state with emissions := state.emissions ++ emissions, line := state.line + emissions.length }

def inMode (state : State) (mode : Mode) : State :=
  { state with mode := mode }

theorem inMode_self {state : State} {mode : Mode} (same : state.mode = mode) :
    state.inMode mode = state := by
  subst same
  rfl

theorem written_written (state : State) (first second : List Emission) :
    (state.written first).written second = state.written (first ++ second) := by
  simp only [written, List.append_assoc, List.length_append, Nat.add_assoc]

theorem emitAt_eq_written {state : State} (unboosted : state.boost = 0) (level : Nat) (line : Text) :
    state.emitAt level line = state.written [.copy level line] := by
  cases line with
  | nil => simp only [emitAt, append, written, unboosted]; rfl
  | cons c rest => simp only [emitAt, append, written, unboosted]; rfl

theorem blank_eq_written {state : State} (unboosted : state.boost = 0) :
    state.blank = state.written [⟨0, []⟩] :=
  emitAt_eq_written unboosted 0 []

end State

/-- The next line stands inside the block. -/
structure State.Copies (state : State) (block : VerbatimBlock) : Prop where
  awake : state.skipDepth = 0
  inside : state.mode = block.mode
  unboosted : state.boost = 0

theorem State.Copies.written {state : State} {block : VerbatimBlock} (copies : state.Copies block)
    (emissions : List Emission) : (state.written emissions).Copies block :=
  ⟨copies.awake, copies.inside, copies.unboosted⟩

section Blocks

variable (context : Context) (nested : Text → Step) {state : State} {block : VerbatimBlock}

theorem verbatimBlocks_modes : ∀ block ∈ verbatimBlocks,
    block.mode ≠ .scenario ∧ block.mode.closing? = some block.closing ∧
      block.mode.level = block.level := by
  decide

theorem processLine_copies (known : block ∈ verbatimBlocks) (copies : state.Copies block)
    (line : Text) :
    processLine context nested state line =
      if line = block.closing then
        (state.enterMode .scenario).andThen fun state => state.blank.done
      else (state.written [.copy block.level line]).done := by
  obtain ⟨verbatim, closing, level⟩ := verbatimBlocks_modes block known
  rw [← copies.inside] at verbatim closing level
  have awake : ¬ 0 < state.skipDepth := by
    rw [copies.awake]
    exact Nat.lt_irrefl 0
  rw [processLine, if_neg awake, if_pos verbatim, processVerbatim, closing, State.emit, level,
    State.emitAt_eq_written copies.unboosted]
  by_cases closes : line = block.closing
  · rw [if_pos (congrArg some closes.symm), if_pos closes]
  · have stays : ¬ some block.closing = some line := fun same => closes (Option.some.inj same).symm
    rw [if_neg stays, if_neg closes]

theorem copiedLines_goThrough (known : block ∈ verbatimBlocks) (copies : state.Copies block)
    {body : List Text} (unclosed : block.closing ∉ body) :
    GoesThrough (processLine context nested) state body
      (state.written (body.map (.copy block.level))) := by
  induction body generalizing state with
  | nil =>
      have same : state.written [] = state := by simp [State.written]
      rw [List.map_nil, same]
      exact .nil
  | cons line rest ih =>
      have here : line ≠ block.closing := Ne.symm (List.ne_of_not_mem_cons unclosed)
      have copied := processLine_copies context nested known copies line
      rw [if_neg here] at copied
      have later := ih (copies.written [.copy block.level line]) (List.not_mem_of_not_mem_cons unclosed)
      rw [State.written_written] at later
      exact (GoesThrough.of_step copied rfl).append later

theorem closing_goesThrough (known : block ∈ verbatimBlocks) (copies : state.Copies block) :
    GoesThrough (processLine context nested) state [block.closing]
      ((state.inMode .scenario).written [⟨0, []⟩]) := by
  have closed := processLine_copies context nested known copies block.closing
  rw [if_pos rfl] at closed
  have unboosted : (state.inMode .scenario).boost = 0 := copies.unboosted
  rw [← State.blank_eq_written unboosted]
  exact .of_step closed rfl

variable {context}

theorem enterLine_goesThrough {command : Text} {spec : Spec} {mode : Mode} (word : Text.IsWord command)
    (plain : '「' ∉ command) (registered : context.registry.find? command = some spec)
    (accepted : spec.arity.accepts 0 = true) (enters : spec.action = .enter mode)
    (reads : state.ReadsNotation) :
    GoesThrough (processLine context nested) state ['$' :: command] (openMode state mode).state := by
  have entered : processLine context nested state ('$' :: command) =
      (openMode state mode).logging (callLog ⟨command, [], state.line⟩) := by
    rw [processLine_bareCommand word plain reads, dispatch_registered registered accepted, carryOut,
      enters]
  have through := GoesThrough.of_step entered (by cases mode <;> rfl)
  exact through

theorem openMode_state (known : block ∈ verbatimBlocks) (unboosted : state.boost = 0) :
    (openMode state block.mode).state = (state.written [block.header]).inMode block.mode := by
  have header := State.emitAt_eq_written unboosted
  simp only [verbatimBlocks, List.mem_cons, List.not_mem_nil, or_false] at known
  rcases known with rfl | rfl | rfl
  · exact congrArg (State.inMode · .block) (header 0 blockHeader)
  · exact congrArg (State.inMode · .script) (State.blank_eq_written unboosted)
  · exact congrArg (State.inMode · .nestedBlock) (header 1 blockHeader)

theorem opening_goesThrough (known : block ∈ verbatimBlocks) (blocks : KeepsBlocks context.registry)
    (reads : state.ReadsNotation) (unboosted : state.boost = 0) :
    GoesThrough (processLine context nested) state [block.opening]
      ((state.written [block.header]).inMode block.mode) := by
  rw [← openMode_state known unboosted]
  simp only [verbatimBlocks, List.mem_cons, List.not_mem_nil, or_false] at known
  rcases known with rfl | rfl | rfl
  · exact enterLine_goesThrough nested (by decide) (by decide) blocks.block rfl rfl reads
  · exact enterLine_goesThrough nested (by decide) (by decide) blocks.script rfl rfl reads
  · exact enterLine_goesThrough nested (by decide) (by decide) blocks.nestedBlock rfl rfl reads

/-- Opened, copied and closed, a block leaves the state it found, with its lines written. -/
theorem block_goesThrough (known : block ∈ verbatimBlocks) (blocks : KeepsBlocks context.registry)
    (reads : state.ReadsNotation) (unboosted : state.boost = 0) {body : List Text}
    (unclosed : block.closing ∉ body) :
    GoesThrough (processLine context nested) state (block.opening :: (body ++ [block.closing]))
      (state.written ([block.header] ++ body.map (.copy block.level) ++ [⟨0, []⟩])) := by
  have inside : ((state.written [block.header]).inMode block.mode).Copies block :=
    ⟨reads.awake, rfl, unboosted⟩
  have opened := opening_goesThrough nested known blocks reads unboosted
  have copied := copiedLines_goThrough context nested known inside unclosed
  have closed := closing_goesThrough context nested known (inside.written (body.map (.copy block.level)))
  -- leaving the mode is coming back to the one that the block was opened in
  have back : (state.written ([block.header] ++ body.map (.copy block.level))).inMode .scenario =
      state.written ([block.header] ++ body.map (.copy block.level)) :=
    State.inMode_self reads.scenario
  rw [← State.written_written, ← back, ← State.written_written]
  exact opened.append (copied.append closed)

/-- A block is copied between what its opening line writes and an empty line, and nothing else
changes but the line counter. -/
theorem verbatim_block_copies_body (context : Context) (nested : Text → Step) (state : State)
    (block : VerbatimBlock) (body : List Text) (known : block ∈ verbatimBlocks)
    (blocks : KeepsBlocks context.registry) (reads : state.ReadsNotation)
    (unboosted : state.boost = 0) (unclosed : block.closing ∉ body) :
    ∃ final,
      GoesThrough (processLine context nested) state (block.opening :: (body ++ [block.closing])) final ∧
      final = { state with emissions := final.emissions, line := state.line + body.length + 2 } ∧
      ∀ unit, final.output unit = state.output unit ++
        (block.header.render unit ++
          body.flatMap (fun line =>
            (if line = [] then [] else (List.replicate block.level unit).flatten) ++ line ++ ['\n']) ++
          ['\n']) := by
  refine ⟨_, block_goesThrough nested known blocks reads unboosted unclosed, ?_, ?_⟩
  · simp [State.written, Nat.add_assoc]
  · intro unit
    have blank : Emission.render unit ⟨0, []⟩ = ['\n'] := by rw [Emission.render_eq]; rfl
    simp only [State.written, State.output, List.flatMap_append, List.flatMap_map, List.flatMap_singleton,
      Emission.render_copy, blank]

/-- The body has a line that nearly closes it, lines that close other blocks, an empty line, a boosted
inclusion and dialogue that would break a compilation off. -/
theorem verbatim_block_copies_lookalikes :
    let say : Spec := { name := "say".toList, category := .substitution, action := .echo none }
    let context : Context := { registry := Registry.builtin.register say }
    let process := processLine context fun _ => State.breakOff {} .endlessInclusion
    let state : State :=
      { line := 4, aliases := ⟨[("A".toList, "Anna".toList)]⟩, decorations := [.bold], warnings := [⟨2⟩] }
    let body := ["$endinpy ".toList, "$endpy".toList, "$endif".toList, [], "%in%$include q".toList,
      "A」「".toList]
    ∃ final, GoesThrough process state ("$inpy".toList :: (body ++ ["$endinpy".toList])) final ∧
      final.line = 12 ∧ final.memory = state.memory ∧ final.warnings = state.warnings ∧
      final.output ['\t'] =
        "\tpython:\n\t\t$endinpy \n\t\t$endpy\n\t\t$endif\n\n\t\t%in%$include q\n\t\tA」「\n\n".toList := by
  intro say context process state body
  obtain ⟨final, through, same, output⟩ := verbatim_block_copies_body context _ state
    ⟨.nestedBlock, "$inpy".toList, "$endinpy".toList, ⟨1, "python:".toList⟩, 2⟩ body (by decide)
    ⟨rfl, rfl, rfl⟩ ⟨rfl, rfl⟩ rfl (by decide)
  refine ⟨final, through, ?_, ?_, ?_, (output ['\t']).trans (by decide +kernel)⟩
  all_goals rw [same]
  all_goals rfl

end Blocks

end SceneNotation.Compiler
