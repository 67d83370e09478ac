import Mathlib.Logic.Relation
import SceneNotation.Proofs.Origin

/- When a compilation returns an outcome, and when it breaks off without one. With
   files that do not come to include themselves, and with faults of reading that lie
   with the files, exactly one kind of line breaks a compilation off: dialogue that
   is closed and opens only at its very end. Every other line is processed or
   diagnosed. -/
namespace SceneNotation

open Compiler

namespace Outcome

def succeeded : Outcome → Bool
  | .compiled _ _ => true
  | .rejected _ _ => false

def diagnostic? : Outcome → Option Diagnostic
  | .compiled _ _ => none
  | .rejected diagnostic _ => some diagnostic

/-- An outcome is a script or a diagnostic, never both and never neither. -/
theorem wellFormed (outcome : Outcome) :
    (outcome.succeeded = true ↔ outcome.diagnostic? = none) ∧
      (outcome.succeeded = false → outcome.script = []) := by
  cases outcome with
  | compiled script warnings => simp [succeeded, diagnostic?]
  | rejected diagnostic warnings => simp [succeeded, diagnostic?, script]

end Outcome

/-- Some line of the root, or of a text that executed inclusions lead to, is come to as notation
and has no place to be cut at. -/
def MeetsUnsplit (settings : Settings) (files : Option FileAccess) (text : Text) : Prop :=
  ∃ inner before line state, Relation.ReflTransGen (Opens settings files) text inner ∧
    Arrives settings files inner before line state ∧ state.ReadsNotation ∧
    Unsplit (splitBoosts line).2

section Outcomes

variable {settings : Settings} {files : Option FileAccess} {text : Text}

theorem compile_brokeOff_iff {breakdown : Breakdown} :
    (compile settings files text).outcome = .error breakdown ↔
      (compileIncluded settings files (includeDepth files + 1) text).failure =
        some (.brokeOff breakdown) := by
  unfold compile Compilation.ofStep
  split
  · next done => simp [done]
  · next diagnostic failed => simp [failed]
  · next other failed => simp [failed]

theorem MeetsUnsplit.breaks (meets : MeetsUnsplit settings files text) :
    ∃ depth, (compileIncluded settings files depth text).failure = some (.brokeOff .uncut) := by
  obtain ⟨inner, before, line, state, reached, arrives, reads, unsplit⟩ := meets
  exact fails_of_origin reached ⟨arrives, fun _ => processLine_unsplit reads unsplit⟩

theorem meetsUnsplit_of_brokeOff {depth : Nat} {breakdown : Breakdown}
    (readable : ∀ access path cause, files = some access → access.read path = .error cause →
      cause.isOfFile = true)
    (failed : (compileIncluded settings files depth text).failure = some (.brokeOff breakdown))
    (settled : breakdown ≠ .endlessInclusion) : MeetsUnsplit settings files text := by
  obtain ⟨inner, before, line, state, own, reached, fails, located⟩ :=
    failure_origin failed (by simpa using settled)
  have broken := Failure.foundIn_eq_brokeOff.mp located.symm
  rcases fails.cause with ⟨fault, diagnosed⟩ | ⟨cause, same, breaks⟩
  · rw [diagnosed] at broken
    cases broken
  · cases breaks with
    | unsplit reads unsplit => exact ⟨inner, before, line, state, reached, fails.arrives, reads, unsplit⟩
    | unread unread =>
        obtain ⟨access, path, fault, available, reading, blameless, _⟩ := unread
        rw [readable access path fault available reading] at blameless
        cases blameless

end Outcomes

/-- A compilation returns an outcome unless it meets dialogue that cannot be cut; then it breaks
off with nothing. -/
theorem compile_returns_unless_unsplit (settings : Settings) (files : Option FileAccess) (text : Text)
    (readable : ∀ access path cause, files = some access → access.read path = .error cause →
      cause.isOfFile = true)
    (bounded : FilesBounded files) (acyclic : Acyclic files) :
    ((∃ outcome, (compile settings files text).outcome = .ok outcome ∧
        (outcome.succeeded = true ↔ outcome.diagnostic? = none) ∧
        (outcome.succeeded = false → outcome.script = [])) ↔
      ¬ MeetsUnsplit settings files text) ∧
    (MeetsUnsplit settings files text → (compile settings files text).outcome = .error .uncut) := by
  have settled : Settles settings files (includeDepth files + 1) text :=
    acyclic.settles bounded text
  have breaksOff : MeetsUnsplit settings files text →
      (compile settings files text).outcome = .error .uncut := by
    intro meets
    obtain ⟨depth, failed⟩ := meets.breaks
    have other : Settles settings files depth text := by simp [Settles, Step.Endless, failed]
    rw [compile_brokeOff_iff, settled_unique settled other, failed]
  refine ⟨⟨?_, ?_⟩, breaksOff⟩
  · rintro ⟨outcome, returned, _⟩ meets
    rw [breaksOff meets] at returned
    cases returned
  · intro spared
    cases result : (compile settings files text).outcome with
    | ok outcome => exact ⟨outcome, rfl, outcome.wellFormed⟩
    | error breakdown =>
        have failed := compile_brokeOff_iff.mp result
        have finite : breakdown ≠ .endlessInclusion := by
          rintro rfl
          exact settled failed
        exact absurd (meetsUnsplit_of_brokeOff readable failed finite) spared

/-- The line that cannot be cut only passes through a mode here, and the file after it refuses to
be read: the compilation returns a diagnostic. -/
theorem compile_returns_unless_unsplit_passed :
    let files : Option FileAccess := some (.ofBindings
      ⟨[("a".toList, .ok "$renpy\nA」「\n$endrenpy\n$include b".toList),
        ("b".toList, .error (.reported "denied".toList))]⟩)
    FilesBounded files ∧ Acyclic files ∧ ¬ MeetsUnsplit {} files "$include a".toList ∧
      ∃ outcome, (compile {} files "$include a".toList).outcome = .ok outcome ∧
        outcome.succeeded = false ∧ outcome.script = [] := by
  intro files
  have acyclic : Acyclic files := by
    apply acyclic_of_rank fun path => if path = "a".toList then 1 else 0
    rintro path other text ⟨outer, supplied, named⟩ otherSupplied
    have listed := supplies_ofBindings supplied
    simp only [List.mem_cons, List.not_mem_nil, or_false, Prod.mk.injEq, reduceCtorEq, and_false,
      Except.ok.injEq] at listed
    obtain ⟨rfl, rfl⟩ := listed
    have mentioned : mentionedPaths "$renpy\nA」「\n$endrenpy\n$include b".toList = ["b".toList] := rfl
    rw [mentioned, List.mem_singleton] at named
    rw [named]
    decide
  have readable : ∀ access path cause, files = some access → access.read path = .error cause →
      cause.isOfFile = true := by
    rintro access path cause same reading
    obtain rfl := Option.some.inj same
    have held := ofBindings_read reading
    simp only [List.mem_cons, List.not_mem_nil, or_false, Prod.mk.injEq, reduceCtorEq, and_false,
      false_or, Except.error.injEq] at held
    rcases held with ⟨_, rfl⟩ | rfl <;> rfl
  have returned : (compile {} files "$include a".toList).outcome = .ok (.rejected
      ⟨.includeUnreadable "b".toList (.reported "denied".toList), 4, some "$include b".toList⟩ []) := rfl
  have bounded : FilesBounded files := (FileAccess.ofBindings_bounded _).files
  have returns := (compile_returns_unless_unsplit {} files "$include a".toList readable bounded acyclic).1
  exact ⟨bounded, acyclic, returns.mp ⟨_, returned, Outcome.wellFormed _⟩, _, returned, rfl, rfl⟩

/-- Dialogue that opens only at its end breaks a compilation off, with no file in sight. -/
theorem compile_breaks_off_unsplit :
    FilesBounded none ∧ Acyclic none ∧ ¬ ∃ outcome, (compile {} none "A」「".toList).outcome = .ok outcome := by
  refine ⟨filesBounded_none, acyclic_of_rank (fun _ => 0) ?_, ?_⟩
  · rintro path other text ⟨outer, ⟨access, impossible, _⟩, _⟩
    cases impossible
  · rintro ⟨outcome, returned⟩
    have broken : (compile {} none "A」「".toList).outcome = .error .uncut := rfl
    rw [broken] at returned
    cases returned

end SceneNotation
