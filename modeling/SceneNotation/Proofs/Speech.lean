import SceneNotation.Proofs.Invariant

/- A line of speech is a speaker, an opening bracket and a message. The speaker ends
   at the first bracket, whatever the message holds, and is written as it stands or
   by the name it is an alias of: decorations and substitutions are for messages. No
   name that can be said in the notation has an opening bracket, so the first one in
   what is written is again where the message begins. -/
namespace SceneNotation.Compiler

/-- What a written line says: it begins behind the first opening bracket and ends before the last
two characters. -/
def spoken? (content : Text) : Option Text :=
  (Text.cut? '「' content).map fun halves => halves.2.dropLast.dropLast

theorem spoken?_of_plain {name : Text} (plain : '「' ∉ name) (message : Text) :
    spoken? (name ++ " \"「".toList ++ message ++ "」\"".toList) = some message := by
  have regrouped : name ++ " \"「".toList ++ message ++ "」\"".toList =
      (name ++ [' ', '"']) ++ '「' :: (message ++ ['」'] ++ ['"']) := by simp
  rw [spoken?, regrouped, Text.cut?_split (by simpa using plain), Option.map_some, List.dropLast_concat,
    List.dropLast_concat]

/-- How a speaker is written: by the name that the alias stands for, or in quotes. -/
inductive WrittenAs (aliases : Bindings Text) (speaker : Text) : Text → Prop
  | shown {name : Text} (bound : aliases.find? speaker = some name) : WrittenAs aliases speaker name
  | quoted (unbound : aliases.find? speaker = none) :
      WrittenAs aliases speaker ('"' :: (speaker ++ ['"']))

theorem speakerText_writtenAs (state : State) (speaker : Text) :
    WrittenAs state.aliases speaker (speakerText state speaker) := by
  unfold speakerText
  split
  · next bound => exact .shown bound
  · next unbound => exact .quoted unbound

theorem WrittenAs.plain {memory : Memory} (sound : memory.Sound) {speaker name : Text}
    (written : WrittenAs memory.aliases speaker name) (plain : '「' ∉ speaker) : '「' ∉ name := by
  cases written with
  | shown bound => exact (sound.aliases _ (Bindings.mem_of_find? bound)).2.2
  | quoted unbound => simpa using plain

section Lines

variable {context : Context} {nested : Text → Step} {state : State} {speaker : Text}

/-- What a speaker may look like is decided where the line begins, and there the bracket has no part
in it. -/
theorem processLine_speech (reads : state.ReadsNotation) (nonempty : speaker ≠ [])
    (plain : '「' ∉ speaker) (unboosted : ¬ "%in%".toList <+: speaker)
    (unlabelled : ¬ ";;".toList <+: speaker) (uncommented : ¬ "#".toList <+: speaker) (message : Text) :
    processLine context nested state (speaker ++ '「' :: (message ++ ['」'])) =
      (state.emit (speechLine state speaker message)).done := by
  have begins {token : Text} (outside : '「' ∉ token) (not : ¬ token <+: speaker) :
      ¬ token <+: speaker ++ '「' :: (message ++ ['」']) :=
    fun here => not (Text.prefix_of_prefix_split outside here)
  have split := splitBoosts_of_none (begins (by decide) unboosted)
  have directive := Directive.ofLine_dialogue (begins (by decide) unlabelled)
    (begins (by decide) uncommented) (by simp)
  rw [processLine_of_reads reads (by simp), processDirective, split]
  simp only [processBody, directive, processDialogue, Dialogue.ofLine_speech nonempty plain]
  rfl

theorem State.ReadsNotation.emit_eq (reads : state.ReadsNotation) (level : state.boost = 0)
    {content : Text} (nonempty : content ≠ []) :
    state.emit content =
      { state with emissions := state.emissions ++ [⟨1, content⟩], line := state.line + 1 } := by
  simp [State.emit, State.emitAt, State.append, reads.scenario, Mode.level, nonempty, level]

end Lines

/-- Speech goes through and writes the speaker and the message, one level in. Read back from what is
written, the message is what the effects have made of it. -/
theorem speech_read_back (settings : Settings) (files : Option FileAccess) (depth : Nat)
    (lines : List Text) (state : State) (speaker message : Text)
    (reached : GoesThrough (lineStep settings files depth) {} lines state)
    (reads : state.ReadsNotation) (nonempty : speaker ≠ []) (plain : '「' ∉ speaker)
    (unboosted : ¬ "%in%".toList <+: speaker) (unlabelled : ¬ ";;".toList <+: speaker)
    (uncommented : ¬ "#".toList <+: speaker) :
    ∃ name, WrittenAs state.aliases speaker name ∧ '「' ∉ name ∧
      let content := name ++ " \"「".toList ++ state.effects message ++ "」\"".toList
      let step := lineStep settings files depth state (speaker ++ '「' :: (message ++ ['」']))
      step.failure = none ∧
      step.state = { state with emissions := state.emissions ++ [⟨1, content⟩], line := state.line + 1 } ∧
      step.state.output settings.indentUnit =
        state.output settings.indentUnit ++ (settings.indentUnit ++ content ++ ['\n']) ∧
      spoken? content = some (state.effects message) := by
  obtain ⟨sound, level⟩ := reached.invariant lineStep_sound ⟨Memory.Sound.start, rfl⟩
  have written := speakerText_writtenAs state speaker
  have outside := written.plain sound plain
  refine ⟨_, written, outside, ?_⟩
  intro content step
  have spoken : step = (state.emit content).done :=
    processLine_speech reads nonempty plain unboosted unlabelled uncommented message
  rw [spoken, State.done_state, reads.emit_eq level (by simp [content])]
  refine ⟨rfl, rfl, ?_, spoken?_of_plain outside _⟩
  simp [State.output, Emission.render_eq]

/-- The speaker is an alias that looks like an instruction and holds a token, and the message has
brackets and a quote of its own. -/
theorem speech_read_back_alias :
    let process := lineStep {} none 0
    let lines := [";$x:Ann x".toList, "$define x y".toList, "$style b".toList]
    let state := (runLines process {} lines).state
    let step := process state ("$x".toList ++ '「' :: ("x「x」\"".toList ++ ['」']))
    let said := "\x7bb\x7dy「y」\"\x7b/b\x7d".toList
    step.failure = none ∧
      step.state.output "    ".toList =
        "\n\n\n    Ann x \"「".toList ++ said ++ "」\"\n".toList ∧
      spoken? ("Ann x".toList ++ " \"「".toList ++ said ++ "」\"".toList) = some said := by
  intro process lines state step said
  have reached : GoesThrough process {} lines state := ⟨by decide +kernel, rfl⟩
  obtain ⟨name, written, _, done, _, output, back⟩ := speech_read_back {} none 0 lines state
    "$x".toList "x「x」\"".toList reached ⟨by decide +kernel, by decide +kernel⟩ (by decide) (by decide)
    (by decide) (by decide) (by decide)
  have shown : state.aliases.find? "$x".toList = some "Ann x".toList := by decide +kernel
  have effects : state.effects "x「x」\"".toList = said := by decide +kernel
  cases written with
  | quoted unbound =>
      rw [unbound] at shown
      cases shown
  | shown bound =>
      obtain rfl : name = "Ann x".toList := Option.some.inj (bound.symm.trans shown)
      rw [effects] at back output
      have before : state.output "    ".toList = "\n\n\n".toList := by decide +kernel
      exact ⟨done, output.trans (by rw [before]; simp), back⟩

end SceneNotation.Compiler
