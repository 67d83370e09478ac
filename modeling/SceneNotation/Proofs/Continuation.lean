import SceneNotation.Proofs.Inlining
import SceneNotation.Proofs.Invariant
import SceneNotation.Proofs.Strictness

/- A text is compiled from left to right, and no line is read again. What is added
   behind a line feed therefore starts from the state that the text before it left,
   and is never come to if that text failed. Only a carriage return at the very end
   of the first text would be read otherwise, as one line end with the line feed. -/
namespace SceneNotation

namespace Text

/-- A return is joined to nothing but a line feed right after it. -/
theorem joinReturns_cons {c : Char} {rest : Text} (apart : ∀ later, c = '\r' → rest = '\n' :: later → False) :
    joinReturns (c :: rest) = c :: joinReturns rest := by
  rw [joinReturns]
  exact apart

theorem joinReturns_append {first : Text} (seam : first.getLast? ≠ some '\r') (second : Text) :
    joinReturns (first ++ '\n' :: second) = joinReturns first ++ '\n' :: joinReturns second := by
  induction first using joinReturns.induct with
  | case1 rest ih =>
      have later : rest.getLast? ≠ some '\r' := by
        cases rest with
        | nil => simp
        | cons d others => simpa [List.getLast?_cons_cons] using seam
      change '\n' :: joinReturns (rest ++ '\n' :: second) = '\n' :: (joinReturns rest ++ '\n' :: joinReturns second)
      rw [ih later]
  | case2 c rest apart ih =>
      cases rest with
      | nil =>
          have kept : c ≠ '\r' := by simpa using seam
          have here : ∀ later, c = '\r' → '\n' :: second = '\n' :: later → False :=
            fun _ isReturn _ => kept isReturn
          rw [joinReturns_cons apart]
          exact joinReturns_cons here
      | cons d others =>
          have later : (d :: others).getLast? ≠ some '\r' := by
            simpa [List.getLast?_cons_cons] using seam
          have here : ∀ later, c = '\r' → d :: others ++ '\n' :: second = '\n' :: later → False := by
            intro later isReturn feed
            exact apart others isReturn (by rw [(List.cons.inj feed).1])
          rw [joinReturns_cons apart, List.cons_append, joinReturns_cons here, ih later]
          rfl
  | case3 => rfl

theorem sourceLines_append {first : Text} (seam : first.getLast? ≠ some '\r') (second : Text) :
    sourceLines (first ++ '\n' :: second) = sourceLines first ++ sourceLines second := by
  unfold sourceLines splitOn
  rw [joinReturns_append seam, splitBy_append_separator (by decide)]

end Text

open Compiler

namespace Session

variable (session : Session)

theorem fresh_compile_state (text : Text) :
    (session.fresh text).compile.state = ((session.fresh text).run (Text.sourceLines text)).state :=
  compileLines_state _ _

theorem fresh_compile_failure (text : Text) :
    (session.fresh text).compile.failure = ((session.fresh text).run (Text.sourceLines text)).failure :=
  compileLines_failure _ _

theorem fresh_run_append {first : Text} (seam : first.getLast? ≠ some '\r') (second : Text) :
    let whole := first ++ '\n' :: second
    (session.fresh whole).run (Text.sourceLines whole) =
      ((session.fresh first).run (Text.sourceLines first)).andThen fun state =>
        ((session.fresh first).after state.done).run (Text.sourceLines second) := by
  intro whole
  rw [Text.sourceLines_append seam]
  exact runLines_append _ _ _

theorem fresh_stopped {first : Text} (seam : first.getLast? ≠ some '\r') (second : Text)
    {failure : Failure} (failed : (session.fresh first).compile.failure = some failure) :
    let whole := session.fresh (first ++ '\n' :: second)
    whole.compile.state = (session.fresh first).compile.state ∧
      whole.compile.failure = (session.fresh first).compile.failure := by
  intro whole
  have stopped := failed
  rw [fresh_compile_failure] at stopped
  rw [fresh_compile_state, fresh_compile_failure, fresh_compile_state, fresh_compile_failure,
    fresh_run_append session seam, Step.andThen_of_failed stopped]
  exact ⟨rfl, rfl⟩

theorem fresh_continued {first : Text} (seam : first.getLast? ≠ some '\r') (second : Text)
    (done : (session.fresh first).compile.failure = none) :
    let whole := session.fresh (first ++ '\n' :: second)
    let opening := session.fresh first
    let later := (opening.after opening.compile).run (Text.sourceLines second)
    whole.compile.state = later.state ∧ whole.compile.failure = later.failure := by
  intro whole opening later
  have through := done
  rw [fresh_compile_failure] at through
  have start : opening.after opening.compile =
      opening.after (opening.run (Text.sourceLines first)).state.done :=
    congrArg (fun state => ({ opening with state } : Session)) (session.fresh_compile_state first)
  rw [fresh_compile_state, fresh_compile_failure, fresh_run_append session seam,
    Step.andThen_of_done through, show later = _ from congrArg (·.run (Text.sourceLines second)) start]
  exact ⟨rfl, rfl⟩

end Session

/-- Compiling goes from left to right and stops at the first failure: a text that fails fails alike
whatever is added behind a line feed, and what is added to one that goes through is processed line
by line from where it ended, behind what it wrote. -/
theorem compile_continues (settings : Settings) (files : Option FileAccess) (first second : Text)
    (seam : first.getLast? ≠ some '\r') :
    let session : Session := { context := { settings, files } }
    let opening := session.fresh first
    let whole := first ++ '\n' :: second
    ((∀ script warnings, (compile settings files first).outcome ≠ .ok (.compiled script warnings)) →
      (compile settings files whole).outcome = (compile settings files first).outcome) ∧
    ∀ script warnings, (compile settings files first).outcome = .ok (.compiled script warnings) →
      let later := (opening.after opening.compile).run (Text.sourceLines second)
      (session.fresh whole).compile.state = later.state ∧
      (session.fresh whole).compile.failure = later.failure ∧
      (compile settings files whole).outcome =
        (Compilation.ofStep settings.indentUnit later).outcome ∧
      ∀ joined all, (compile settings files whole).outcome = .ok (.compiled joined all) →
        script <+: joined := by
  intro session opening whole
  constructor
  · intro stops
    cases ended : opening.compile.failure with
    | none => exact absurd (compile_of_done ended) (stops _ _)
    | some failure =>
        obtain ⟨state, same⟩ := session.fresh_stopped seam second ended
        exact Compilation.ofStep_outcome_congr settings.indentUnit state same
  · intro script warnings compiled later
    have done : opening.compile.failure = none := compile_compiled compiled
    obtain ⟨state, failure⟩ := session.fresh_continued seam second done
    refine ⟨state, failure, Compilation.ofStep_outcome_congr settings.indentUnit state failure, ?_⟩
    intro joined all finished
    have through : GoesThrough (lineStep settings files (includeDepth files)) opening.compile.state
        (Text.sourceLines second) later.state :=
      ⟨failure.symm.trans (compile_compiled finished), rfl⟩
    obtain ⟨pieces, _, _, output⟩ := through.pieces settings.indentUnit
    rw [compile_script compiled, compile_script finished]
    refine ⟨pieces.flatten, ?_⟩
    exact output.symm.trans (congrArg (State.output · settings.indentUnit) state.symm)

/-- Nothing is added to a text that fails after a warning. One that ends in an open conditional has
what is added skipped, up to a line that uses its alias. -/
theorem compile_continues_skipping :
    let failing := "「one」\n?".toList
    let first := "#one\r\n;A:Anna\n$ifdef X".toList
    let second := "?\n$endif\r\nA「two」".toList
    (compile {} none (failing ++ '\n' :: second)).outcome =
        .ok (.rejected ⟨.invalidLine, 2, some "?".toList⟩ [⟨1⟩]) ∧
      (compile {} none (first ++ '\n' :: second)).outcome =
        .ok (.compiled "    #one\n\n\n\n\n    Anna \"「two」\"\n".toList []) ∧
      "    #one\n\n\n".toList <+: "    #one\n\n\n\n\n    Anna \"「two」\"\n".toList := by
  intro failing first second
  have rejected : (compile {} none failing).outcome =
      .ok (.rejected ⟨.invalidLine, 2, some "?".toList⟩ [⟨1⟩]) := by decide +kernel
  have stops : ∀ script warnings,
      (compile {} none failing).outcome ≠ .ok (.compiled script warnings) := by
    intro script warnings compiled
    cases rejected.symm.trans compiled
  have compiled : (compile {} none first).outcome =
      .ok (.compiled "    #one\n\n\n".toList []) := by decide +kernel
  have joined : (compile {} none (first ++ '\n' :: second)).outcome =
      .ok (.compiled "    #one\n\n\n\n\n    Anna \"「two」\"\n".toList []) := by decide +kernel
  have fails := (compile_continues {} none failing second (by decide)).1 stops
  have continues := (compile_continues {} none first second (by decide)).2 _ _ compiled
  exact ⟨fails.trans rejected, joined, continues.2.2.2 _ _ joined⟩

end SceneNotation
