import SceneNotation.Proofs.Reading
import SceneNotation.Proofs.Splice

/- A compilation that starts afresh never skips more than one conditional, skips
   only notation, and carries no boost over a line. The tables hold nothing but what
   their own directives can say: what is defined are words, aliases end at their
   colon, and neither holds an opening bracket, which would have made the line
   dialogue. What is written stays written. -/
namespace SceneNotation.Compiler

open Instruction

/-- What an instruction can be given as an argument. A bracket would make its line dialogue. -/
structure IsArgument (text : Text) : Prop where
  word : Text.IsWord text
  plain : '「' ∉ text

structure Memory.Sound (memory : Memory) : Prop where
  shallow : memory.skipDepth = 0 ∨ memory.skipDepth = 1
  skipsNotation : memory.skipDepth = 1 → memory.mode = .scenario
  definitions : ∀ entry ∈ memory.substitutions.entries, IsArgument entry.1 ∧ IsArgument entry.2
  aliases : ∀ entry ∈ memory.aliases.entries, ':' ∉ entry.1 ∧ '「' ∉ entry.1 ∧ '「' ∉ entry.2
  decorations : ∀ decoration ∈ memory.decorations,
    decoration ∈ Decoration.all ∧ ∃ name, Decoration.ofName? name = some decoration

namespace Memory.Sound

variable {memory : Memory}

theorem start : ({} : Memory).Sound where
  shallow := Or.inl rfl
  skipsNotation := fun _ => rfl
  definitions := by simp
  aliases := by simp
  decorations := by simp

theorem aliasing (sound : memory.Sound) {name shown : Text} (colonless : ':' ∉ name)
    (plain : '「' ∉ name ++ ':' :: shown) :
    ({ memory with aliases := memory.aliases.bind name shown } : Memory).Sound := by
  refine { sound with aliases := ?_ }
  intro entry bound
  rcases Bindings.mem_of_mem_bindIn bound with rfl | earlier
  · exact ⟨colonless, fun member => plain (by simp [member]), fun member => plain (by simp [member])⟩
  · exact sound.aliases entry earlier

theorem enter (sound : memory.Sound) (awake : memory.skipDepth = 0) (mode : Mode) :
    ({ memory with mode := mode } : Memory).Sound :=
  { sound with skipsNotation := fun skips => absurd (skips.symm.trans awake) Nat.one_ne_zero }

theorem skipIf (sound : memory.Sound) (reads : memory.ReadsNotation) (condition : Bool) :
    (memory.skipIf condition).Sound := by
  cases condition with
  | false => exact sound
  | true =>
      exact { sound with
        shallow := Or.inr (congrArg Nat.succ reads.1)
        skipsNotation := fun _ => reads.2 }

theorem style (sound : memory.Sound) {names : List Text} {found : List Decoration}
    (looked : lookupDecorations names = .ok found) :
    ({ memory with decorations := memory.decorations ++ found } : Memory).Sound := by
  refine { sound with decorations := ?_ }
  intro decoration member
  rcases List.mem_append.mp member with earlier | added
  · exact sound.decorations decoration earlier
  · obtain ⟨name, _, known⟩ := named_of_lookupDecorations looked added
    exact ⟨mem_all_of_lookupDecorations looked added, name, known⟩

theorem define (sound : memory.Sound) {token replacement : Text} (tokenFit : IsArgument token)
    (replacementFit : IsArgument replacement) :
    ({ memory with substitutions := memory.substitutions.bind token replacement } : Memory).Sound := by
  refine { sound with definitions := ?_ }
  intro entry bound
  rcases Bindings.mem_of_mem_bindIn bound with rfl | earlier
  · exact ⟨tokenFit, replacementFit⟩
  · exact sound.definitions entry earlier

/-- Only a mode and a conditional change how lines are read, and only from where they are read as
notation. -/
theorem means (sound : memory.Sound) (reads : memory.ReadsNotation) {body : Text} {reading : Reading}
    (means : memory.Means body reading) (files : Option FileAccess) :
    ((reading.deed files).recalled memory).Sound := by
  cases means with
  | aliasing aliases read =>
      obtain ⟨cut, colonless⟩ := CharacterAlias.ofLine_eq_ok read
      apply sound.aliasing colonless
      rw [← cut]
      exact fun member => aliases.plain (List.mem_of_mem_tail member)
  | @opens _ mode => exact sound.enter reads.1 mode
  | @enters _ mode => exact sound.enter reads.1 mode
  | inclusion =>
      exact Reading.inclusion_cases (motive := fun deed => (deed.recalled memory).Sound) files _
        (fun _ => sound) (fun _ => sound) fun _ => sound
  | style _ _ looked => exact sound.style looked
  | endStyle => exact { sound with decorations := fun _ impossible => absurd impossible List.not_mem_nil }
  | define instructs =>
      have fit {word : Text} (listed : word ∈ _) : IsArgument word :=
        ⟨instructs.isWord listed, fun member => instructs.plain (instructs.mem_of_mem listed member)⟩
      exact sound.define (fit (by simp)) (fit (by simp))
  | ifDefined | ifUndefined => exact sound.skipIf reads _
  | label | comment | verbatim | narration | speech | unclosed | unsplit | malformed | undecorated
  | endIf | unknown | miscounted | invalid => exact sound

theorem deed (sound : memory.Sound) (files : Option FileAccess) (line : Text) :
    ((memory.deed files line).recalled memory).Sound := by
  have rule := memory.reading_reads line
  unfold Memory.deed
  generalize memory.reading line = reading at rule
  cases rule with
  | resumes skips =>
      have risen : memory.skipDepth - 1 = 0 := by
        rcases sound.shallow with level | level <;> omega
      exact { sound with
        shallow := Or.inl risen
        skipsNotation := fun woken => absurd (woken.symm.trans risen) Nat.one_ne_zero }
  | leaves => exact { sound with skipsNotation := fun _ => rfl }
  | means reads _ means => exact sound.means reads means files
  | skips | copies | empty => exact sound

end Memory.Sound

theorem Emission.render_terminated (unit : Text) {emissions : List Emission}
    (some : emissions ≠ []) : ['\n'] <:+ emissions.flatMap (render unit) := by
  obtain ⟨before, last, rfl⟩ := List.eq_nil_or_concat' emissions |>.resolve_left some
  refine ⟨before.flatMap (render unit) ++ (Text.repeated unit last.level ++ last.content), ?_⟩
  simp [render]

theorem Emission.spliced_ne_nil (boost : Nat) (emissions : List Emission) :
    spliced boost emissions ≠ [] := by
  cases emissions <;> exact List.cons_ne_nil _ _

theorem Deed.emissions_ne_nil {settings : Settings} {nested : Text → Step} {state : State}
    {deed : Deed} (done : (deed.perform settings nested state).failure = none) (memory : Memory)
    (boost : Nat) : deed.emissions nested memory boost ≠ [] := by
  cases deed with
  | write memory level content => exact List.cons_ne_nil _ _
  | narrate message => exact List.cons_ne_nil _ _
  | splice text => exact Emission.spliced_ne_nil boost _
  | refuse fault => cases done
  | breakOff breakdown => cases done

section Reached

variable {settings : Settings} {files : Option FileAccess} {depth : Nat} {state next : State}
  {lines : List Text}

theorem lineStep_output_of_done {line : Text}
    (done : (lineStep settings files depth state line).failure = none) (unit : Text) :
    ∃ piece, ['\n'] <:+ piece ∧
      (lineStep settings files depth state line).state.output unit = state.output unit ++ piece := by
  obtain ⟨notes, _, same⟩ := lineStep_performs settings files depth state line
  have performed := done
  rw [same, Step.logging_failure] at performed
  refine ⟨_, Emission.render_terminated unit (Deed.emissions_ne_nil performed state.memory
    (state.boost + state.memory.boosts line)), ?_⟩
  rw [lineStep_state_of_done done]
  exact State.output_append _ _ unit

theorem GoesThrough.pieces (through : GoesThrough (lineStep settings files depth) state lines next)
    (unit : Text) :
    ∃ pieces : List Text, pieces.length = lines.length ∧ (∀ piece ∈ pieces, ['\n'] <:+ piece) ∧
      next.output unit = state.output unit ++ pieces.flatten := by
  induction lines generalizing state with
  | nil =>
      rw [← through.ends]
      exact ⟨[], rfl, by simp, (List.append_nil _).symm⟩
  | cons line rest ih =>
      obtain ⟨done, later⟩ := through.uncons
      obtain ⟨piece, terminated, written⟩ := lineStep_output_of_done done unit
      obtain ⟨pieces, count, others, output⟩ := ih later
      refine ⟨piece :: pieces, by simp [count], ?_, ?_⟩
      · intro other member
        rcases List.mem_cons.mp member with rfl | member
        · exact terminated
        · exact others other member
      · rw [output, written, List.flatten_cons, List.append_assoc]

theorem lineStep_sound (state : State) (line : Text) (sound : state.memory.Sound ∧ state.boost = 0)
    (done : (lineStep settings files depth state line).failure = none) :
    (lineStep settings files depth state line).state.memory.Sound ∧
      (lineStep settings files depth state line).state.boost = 0 := by
  refine ⟨?_, lineStep_unboosted done⟩
  rw [lineStep_state_of_done done]
  exact sound.1.deed files line

/-- What holds wherever a fresh compilation has come to. -/
theorem reached_state_sound (settings : Settings) (files : Option FileAccess) (depth : Nat)
    (lines : List Text) (state : State)
    (reached : GoesThrough (lineStep settings files depth) {} lines state) :
    state.memory.Sound ∧ state.boost = 0 ∧
    (∃ pieces : List Text, pieces.length = lines.length ∧ (∀ piece ∈ pieces, ['\n'] <:+ piece) ∧
      state.output settings.indentUnit = pieces.flatten) ∧
    ∀ line,
      let step := lineStep settings files depth state line
      (step.failure = none → ∃ piece, ['\n'] <:+ piece ∧
        step.state.output settings.indentUnit = state.output settings.indentUnit ++ piece) ∧
      (step.failure ≠ none →
        step.state.output settings.indentUnit = state.output settings.indentUnit) := by
  obtain ⟨sound, unboosted⟩ := reached.invariant lineStep_sound ⟨Memory.Sound.start, rfl⟩
  refine ⟨sound, unboosted, reached.pieces settings.indentUnit, ?_⟩
  intro line step
  constructor
  · intro done
    exact lineStep_output_of_done done settings.indentUnit
  · intro stopped
    obtain ⟨failure, failed⟩ := Option.ne_none_iff_exists'.mp stopped
    rw [show step.state = _ from lineStep_state_of_failed failed]
    rfl

/-- A shown name with a colon of its own, behind a boost, and a conditional left open over a line
that nothing could read. -/
theorem reached_state_sound_skipping :
    let process := lineStep {} none 0
    let lines := ["%in%;A:Al:ice".toList, "$define X y".toList, "$style b underline".toList,
      "$ifdef Z".toList, "A」「".toList]
    let state := (runLines process {} lines).state
    state.skipDepth = 1 ∧ state.aliases = ⟨[("A".toList, "Al:ice".toList)]⟩ ∧
      state.substitutions = ⟨[("X".toList, "y".toList)]⟩ ∧ state.decorations = [.bold, .underline] ∧
      state.memory.Sound ∧ state.boost = 0 := by
  intro process lines state
  have reached : GoesThrough process {} lines state := ⟨by decide +kernel, rfl⟩
  obtain ⟨sound, unboosted, _⟩ := reached_state_sound {} none 0 lines state reached
  exact ⟨by decide +kernel, by decide +kernel, by decide +kernel, by decide +kernel, sound, unboosted⟩

end Reached

end SceneNotation.Compiler
