import Mathlib.Data.List.Infix
import SceneNotation.Proofs.Reading
import SceneNotation.Proofs.Termination
import SceneNotation.Proofs.Warning

/- Which files a compilation asks for is decided on the way: a line asks only where
   it is come to as notation, and a text that is put in asks in its turn. These
   paths are all that an outcome can depend on. Two file accesses that answer alike
   for each of them come to the same outcome, whatever else they hold. -/
namespace SceneNotation

/-- Both answer alike for the path: whether it is there and, only if it is, with what text. -/
structure FileAccess.AgreeAt (one other : FileAccess) (path : Text) : Prop where
  contains : other.contains path = one.contains path
  read : one.contains path = true → other.read path = one.read path

theorem FileAccess.agreeAt_ofBindings {one other : Bindings (Except ReadFault Text)} {path : Text}
    (same : other.find? path = one.find? path) : (ofBindings one).AgreeAt (ofBindings other) path where
  contains := congrArg Option.isSome same
  read _ := congrArg (Option.getD · _) same

namespace Compiler

open Instruction

/-- A line and the state it is come to in. -/
structure Visit where
  state : State
  line : Text

namespace Visit

/-- The path that the line asks for, where it is read as notation. -/
def asks? (visit : Visit) : Option Text :=
  if visit.state.skipDepth = 0 ∧ visit.state.mode = .scenario then mentionedPath? visit.line else none

/-- The line is skipped, passes through a mode, or is a comment or dialogue. -/
def isInert (visit : Visit) : Bool :=
  0 < visit.state.skipDepth || visit.state.mode ≠ .scenario ||
    match Directive.ofLine (splitBoosts visit.line).2 with
    | .comment _ | .dialogue _ => true
    | _ => false

variable {visit : Visit}

theorem asks?_of_inert (inert : visit.isInert = true) : visit.asks? = none := by
  unfold isInert at inert
  unfold asks? mentionedPath?
  split
  · next reads =>
      cases directive : Directive.ofLine (splitBoosts visit.line).2 with
      | instruction words => simp [reads, directive] at inert
      | label name => rfl
      | comment found => rfl
      | dialogue found => rfl
      | aliasing found => rfl
      | verbatim content => rfl
      | unknown => rfl
  · rfl

theorem infix_of_asks? {path : Text} (asks : visit.asks? = some path) : path <:+: visit.line := by
  unfold asks? mentionedPath? at asks
  split at asks
  · split at asks
    · next words directive =>
        split at asks
        · next command argument split =>
            split at asks
            · cases asks
              have named : path <:+: words := Text.infix_of_mem_words (by simp [split])
              have body : words <:+: (splitBoosts visit.line).2 := by
                rw [Directive.instruction_ofLine directive]
                exact (List.suffix_cons '$' words).isInfix
              exact named.trans (body.trans (splitBoosts_suffix visit.line).isInfix)
            · cases asks
        · cases asks
    · cases asks
  · cases asks

end Visit

/-- The lines that compiling a text comes to, in order and up to where it fails. Those of a text that
is put in follow the line that puts it in. -/
def visits (settings : Settings) (files : Option FileAccess) : (depth : Nat) → Text → List Visit
  | 0, _ => []
  | depth + 1, text =>
      gatherLines (lineStep settings files depth)
        (fun state line => ⟨state, line⟩ ::
          (state.memory.deed files line).spliced (visits settings files depth))
        {} (Text.sourceLines text)

section Agreeing

variable {one other : FileAccess}

theorem Reading.ofFile_congr {path : Text} (agree : one.AgreeAt other path) :
    ofFile other path = ofFile one path := by
  unfold ofFile
  rw [agree.contains]
  split
  · next found => rw [agree.read found]
  · rfl

theorem Reading.deed_congr {reading : Reading}
    (agree : ∀ path, reading = .asks [path] → one.AgreeAt other path) :
    reading.deed (some other) = reading.deed (some one) := by
  cases reading with
  | does deed => rfl
  | asks args =>
      match args with
      | [path] => exact ofFile_congr (agree path rfl)
      | [] | _ :: _ :: _ => rfl

theorem asks?_of_reading {state : State} {line path : Text}
    (asks : state.memory.reading line = .asks [path]) : (Visit.mk state line).asks? = some path := by
  have rule := state.memory.reading_reads line
  rw [asks] at rule
  cases rule with
  | means reads _ means =>
      cases means with
      | inclusion instructs =>
          exact (if_pos reads).trans instructs.mentions

theorem State.deed_congr {state : State} {line : Text}
    (agree : ∀ path, (Visit.mk state line).asks? = some path → one.AgreeAt other path) :
    state.memory.deed (some other) line = state.memory.deed (some one) line :=
  Reading.deed_congr fun path asks => agree path (asks?_of_reading asks)

variable {settings : Settings} {depth : Nat}

variable (one other) in
/-- Whatever path one of the lines asks for, the answers are the same. -/
def AgreeOn (visits : List Visit) : Prop :=
  ∀ visit ∈ visits, ∀ path, visit.asks? = some path → one.AgreeAt other path

theorem lineStep_agree
    (nested : ∀ text, AgreeOn one other (visits settings (some one) depth text) →
      (compileIncluded settings (some one) depth text).InStep Eq
        (compileIncluded settings (some other) depth text))
    {state : State} {line : Text} (here : AgreeOn one other [⟨state, line⟩])
    (inside : AgreeOn one other
      ((state.memory.deed (some one) line).spliced (visits settings (some one) depth))) :
    (lineStep settings (some one) depth state line).InStep Eq
      (lineStep settings (some other) depth state line) := by
  obtain ⟨notes, _, goes⟩ := lineStep_performs settings (some one) depth state line
  obtain ⟨others, _, follows⟩ := lineStep_performs settings (some other) depth state line
  have read : state.memory.deed (some other) line = state.memory.deed (some one) line := by
    apply State.deed_congr
    exact here ⟨state, line⟩ List.mem_cons_self
  rw [goes, follows, read]
  apply Step.InStep.logging
  apply Deed.perform_inStep
  intro text splices
  apply nested
  rw [splices] at inside
  exact inside

/-- The induction is on the inclusions that may still be opened: where a text is put in, its lines
are among those that are come to. -/
theorem compileIncluded_agree {text : Text}
    (agree : AgreeOn one other (visits settings (some one) depth text)) :
    (compileIncluded settings (some one) depth text).InStep Eq
      (compileIncluded settings (some other) depth text) := by
  induction depth generalizing text with
  | zero => exact ⟨rfl, rfl⟩
  | succ depth ih =>
      rw [compileIncluded_succ, compileIncluded_succ]
      apply compileLines_inStep
      apply runLines_inStep _ rfl
      intro before line after state twin placed through same
      subst same
      have met : ∀ visit ∈ (⟨state, line⟩ : Visit) ::
          (state.memory.deed (some one) line).spliced (visits settings (some one) depth),
          visit ∈ visits settings (some one) (depth + 1) text := by
        intro visit member
        exact mem_gatherLines.mpr ⟨before, line, after, state, placed, through, member⟩
      apply lineStep_agree fun text => ih
      · intro visit member
        exact agree visit (met visit (List.mem_cons.mpr (Or.inl (List.mem_singleton.mp member))))
      · intro visit member
        exact agree visit (met visit (List.mem_cons_of_mem _ member))

end Agreeing

end Compiler

open Compiler

/-- The lines that a whole compilation comes to. -/
def visited (settings : Settings) (files : Option FileAccess) (text : Text) : List Visit :=
  visits settings files (includeDepth files + 1) text

section Outcomes

variable {settings : Settings} {files other : FileAccess} {text : Text}

theorem compile_outcome_agree (bounded : files.Bounded) (otherBounded : other.Bounded)
    (acyclic : Acyclic (some files))
    (agree : AgreeOn files other (visited settings (some files) text)) :
    (compile settings (some other) text).outcome = (compile settings (some files) text).outcome := by
  obtain ⟨failure, state⟩ := compileIncluded_agree agree
  have settled : Settles settings (some files) (includeDepth (some files) + 1) text :=
    acyclic.settles bounded.files text
  have follows : Settles settings (some other) (includeDepth (some files) + 1) text := by
    rw [Settles, Step.Endless, failure]
    exact settled
  -- the other access may hold another number of texts, but its budget is enough as well
  have same := settled_unique (follows.of_any otherBounded.files) follows
  rw [compile, compile, same]
  exact Compilation.ofStep_outcome_congr settings.indentUnit state.symm failure

end Outcomes

/-- An outcome depends on no files but those that are asked for on the way to it. So a file can be
added, removed or changed at will if its path stands only in lines that are skipped or passed
through, in comments and in dialogue. -/
theorem outcome_depends_on_asked_files (settings : Settings) (files : FileAccess) (text : Text)
    (bounded : files.Bounded) (acyclic : Acyclic (some files)) :
    let lines := visited settings (some files) text
    (∀ other : FileAccess, other.Bounded →
      (∀ path ∈ lines.filterMap Visit.asks?, files.AgreeAt other path) →
      (compile settings (some other) text).outcome = (compile settings (some files) text).outcome) ∧
    ∀ (path : Text) (other : FileAccess), other.Bounded →
      (∀ visit ∈ lines, path <:+: visit.line → visit.isInert = true) →
      (∀ elsewhere, elsewhere ≠ path → files.AgreeAt other elsewhere) →
      (compile settings (some other) text).outcome = (compile settings (some files) text).outcome := by
  intro lines
  constructor
  · intro other otherBounded agree
    apply compile_outcome_agree bounded otherBounded acyclic
    intro visit member path asks
    exact agree path (List.mem_filterMap.mpr ⟨visit, member, asks⟩)
  · intro path other otherBounded inert agree
    apply compile_outcome_agree bounded otherBounded acyclic
    intro visit member asked asks
    apply agree asked
    rintro rfl
    rw [Visit.asks?_of_inert (inert visit member (Visit.infix_of_asks? asks))] at asks
    cases asks

/-- The second file is named in a skipped line, in a comment, in dialogue and inside a block of the
first file. It can be removed, or be one that cannot be read. -/
theorem outcome_depends_on_asked_files_removed :
    let first : Text := "$renpy\n$include b\n$endrenpy\n「x」".toList
    let text : Text := "$ifdef X\n$include b\n$endif\n#$include b\nB「$include b」\n$include a".toList
    let files := FileAccess.ofBindings ⟨[("a".toList, .ok first), ("b".toList, .ok "?".toList)]⟩
    let removed := FileAccess.ofBindings ⟨[("a".toList, .ok first)]⟩
    let closed := FileAccess.ofBindings ⟨[("a".toList, .ok first), ("b".toList, .error (.reported []))]⟩
    Acyclic (some files) ∧
      (visited {} (some files) text).filterMap Visit.asks? = ["a".toList] ∧
      (∀ visit ∈ visited {} (some files) text, "b".toList <:+: visit.line → visit.isInert = true) ∧
      (compile {} (some closed) text).outcome = (compile {} (some files) text).outcome ∧
      (compile {} (some removed) text).outcome = (compile {} (some files) text).outcome := by
  intro first text files removed closed
  have acyclic : Acyclic (some files) := by
    apply @acyclic_of_held _ fun path => if path = "a".toList then 1 else 0
    intro path held mentioned found listed _
    have entry := Bindings.mem_of_find? found
    simp only [List.mem_cons, List.not_mem_nil, or_false, Prod.mk.injEq, Except.ok.injEq] at entry
    rcases entry with ⟨rfl, rfl⟩ | ⟨rfl, rfl⟩
    · have named : mentionedPaths first = ["b".toList] := by decide
      rw [named, List.mem_singleton] at listed
      rw [listed]
      decide
    · have none : mentionedPaths "?".toList = [] := by decide
      rw [none] at listed
      cases listed
  have asked : (visited {} (some files) text).filterMap Visit.asks? = ["a".toList] := by decide +kernel
  have inert : ∀ visit ∈ visited {} (some files) text,
      "b".toList <:+: visit.line → visit.isInert = true := by decide +kernel
  obtain ⟨byAsking, byNaming⟩ := outcome_depends_on_asked_files {} files text
    (FileAccess.ofBindings_bounded _) acyclic
  refine ⟨acyclic, asked, inert, byAsking closed (FileAccess.ofBindings_bounded _) ?_,
    byNaming "b".toList removed (FileAccess.ofBindings_bounded _) inert ?_⟩
  · intro path member
    rw [asked, List.mem_singleton] at member
    rw [member]
    exact FileAccess.agreeAt_ofBindings rfl
  · intro elsewhere differs
    apply FileAccess.agreeAt_ofBindings
    simp only [Bindings.find?, Bindings.lookup_cons_if, if_neg differs]

end SceneNotation
