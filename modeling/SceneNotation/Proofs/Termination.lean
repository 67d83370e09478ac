import Mathlib.Data.List.Chain
import Mathlib.Data.List.Perm.Subperm
import SceneNotation.Proofs.Breakdown

/- Compiling a text asks for the compilation of the texts that it includes, and an
   included text can be longer than the one that includes it: nothing in the texts
   themselves gets smaller. What does is a rank of the files. Where one falls along
   every inclusion that a line can ask for, the equation of compilation has exactly
   one solution, no more compilations are open at once than there are files beside
   the root, and no larger budget changes anything. -/
namespace SceneNotation.Compiler

section Equation

variable (settings : Settings) (files : Option FileAccess)

/-- What compiling a text means, with no budget in it: an inclusion asks for the meaning of the
text that it includes. -/
def IsMeaning (meaning : Text → Step) : Prop :=
  ∀ text, meaning text =
    compileLines (processLine { settings, files } meaning) {} (Text.sourceLines text)

variable {settings files}

theorem IsMeaning.eq_of_settled {meaning : Text → Step} (solves : IsMeaning settings files meaning)
    {depth : Nat} {text : Text} (settled : Settles settings files depth text) :
    meaning text = compileIncluded settings files depth text := by
  induction depth generalizing text with
  | zero => exact absurd rfl settled
  | succ depth ih =>
      have run : ¬ (runLines (lineStep settings files depth) {} (Text.sourceLines text)).Endless := by
        simpa [Settles, compileIncluded_succ, Step.Endless] using settled
      have agree := processLine_of_settled fun _ settled => ih settled
      rw [solves text, compileIncluded_succ, compileLines, compileLines,
        runLines_congr_of_settled agree run]

theorem isMeaning_of_settled {depth : Nat} (settled : ∀ text, Settles settings files depth text) :
    IsMeaning settings files (compileIncluded settings files depth) := by
  intro text
  rw [← compileIncluded_mono (Nat.le_succ depth) (settled text), compileIncluded_succ]
  rfl

theorem Acyclic.existsUnique_meaning (acyclic : Acyclic files) (bounded : FilesBounded files) :
    ∃! meaning : Text → Step, IsMeaning settings files meaning := by
  have settled : ∀ text, Settles settings files (includeDepth files + 1) text :=
    acyclic.settles bounded
  refine ⟨compileIncluded settings files (includeDepth files + 1), isMeaning_of_settled settled, ?_⟩
  intro meaning solves
  funext text
  exact solves.eq_of_settled (settled text)

end Equation

section Nesting

variable {settings : Settings} {files : Option FileAccess}

theorem Opens.mentionsText {outer inner : Text} (opens : Opens settings files outer inner) :
    MentionsText files outer inner := by
  obtain ⟨before, line, state, path, arrives, includes⟩ := opens
  obtain ⟨after, placed⟩ := arrives.placed
  exact includes.mentionsText (by simp [placed])

theorem nested_supplied {root : Text} {nested : List Text}
    (chain : (root :: nested).IsChain (Opens settings files)) :
    ∀ text ∈ nested, ∃ path, Supplies files path text := by
  induction nested generalizing root with
  | nil => simp
  | cons next rest ih =>
      obtain ⟨opens, later⟩ := List.isChain_cons_cons.mp chain
      intro text member
      rcases List.mem_cons.mp member with rfl | member
      · obtain ⟨path, _, supplied⟩ := opens.mentionsText
        exact ⟨path, supplied⟩
      · exact ih later text member

/-- Texts that lie open inside one another are all different. -/
theorem Acyclic.nested_nodup (acyclic : Acyclic files) {root : Text} {nested : List Text}
    (chain : (root :: nested).IsChain (Opens settings files)) : nested.Nodup := by
  have linked : (root :: nested).IsChain (Relation.TransGen (MentionsText files)) :=
    chain.imp fun _ _ opens => .single opens.mentionsText
  have apart := (List.isChain_iff_pairwise.mp linked).of_cons
  refine apart.imp ?_
  rintro outer inner leads rfl
  exact acyclic.text_irrefl outer leads

theorem Acyclic.nested_length_le (acyclic : Acyclic files) (bounded : FilesBounded files) {root : Text}
    {nested : List Text} (chain : (root :: nested).IsChain (Opens settings files)) :
    nested.length ≤ includeDepth files := by
  obtain ⟨texts, bound, listed⟩ := supplied_bounded bounded
  have within : nested ⊆ texts := by
    intro text member
    obtain ⟨path, supplied⟩ := nested_supplied chain text member
    exact listed path text supplied
  exact ((acyclic.nested_nodup chain).subperm within).length_le.trans bound

end Nesting

theorem held_of_supplies {held : Bindings (Except ReadFault Text)} {path text : Text}
    (supplied : Supplies (some (.ofBindings held)) path text) :
    held.binds path = true ∧ held.find? path = some (.ok text) := by
  obtain ⟨access, same, found, reads⟩ := supplied
  cases same
  refine ⟨found, ?_⟩
  simp only [FileAccess.ofBindings] at reads
  cases stored : held.find? path with
  | none =>
      rw [stored] at reads
      cases reads
  | some content =>
      rw [stored] at reads
      exact congrArg some reads

theorem acyclic_of_held {held : Bindings (Except ReadFault Text)} {rank : Text → Nat}
    (falls : ∀ path text other, held.find? path = some (.ok text) → other ∈ mentionedPaths text →
      held.binds other = true → rank other < rank path) :
    Acyclic (some (.ofBindings held)) := by
  apply acyclic_of_rank rank
  rintro path other _ ⟨text, supplied, mentioned⟩ otherSupplied
  exact falls path text other (held_of_supplies supplied).2 mentioned (held_of_supplies otherSupplied).1

end SceneNotation.Compiler

namespace SceneNotation

open Compiler

/-- Where a rank falls along every inclusion that a line of a file can ask for, compiling a text has
one meaning, which the compiler gives; beside the root no more texts lie open inside one another than
there are files; and every budget above that gives the same compilation. -/
theorem compile_ends_where_rank_falls (settings : Settings) (held : Bindings (Except ReadFault Text))
    (rank : Text → Nat)
    (falls : ∀ path text other, held.find? path = some (.ok text) → other ∈ mentionedPaths text →
      held.binds other = true → rank other < rank path)
    (root : Text) :
    let files : Option FileAccess := some (.ofBindings held)
    (∃! meaning : Text → Step, IsMeaning settings files meaning) ∧
    (∀ meaning, IsMeaning settings files meaning →
      compile settings files root = .ofStep settings.indentUnit (meaning root)) ∧
    (compile settings files root).outcome ≠ .error .endlessInclusion ∧
    (∀ nested, (root :: nested).IsChain (Opens settings files) →
      (root :: nested).length ≤ 1 + held.entries.length) ∧
    ∀ budget, 1 + held.entries.length ≤ budget →
      compile settings files root =
        .ofStep settings.indentUnit (compileIncluded settings files budget root) := by
  intro files
  have acyclic : Acyclic files := acyclic_of_held falls
  have bounded : FilesBounded files := (FileAccess.ofBindings_bounded held).files
  have settled : Settles settings files (includeDepth files + 1) root := acyclic.settles bounded root
  refine ⟨acyclic.existsUnique_meaning bounded, ?_, ?_, ?_, ?_⟩
  · intro meaning solves
    rw [compile, solves.eq_of_settled settled]
  · intro endless
    exact settled (compile_brokeOff_iff.mp endless)
  · intro nested chain
    have bound := acyclic.nested_length_le bounded chain
    have counted : includeDepth files = held.entries.length := rfl
    rw [List.length_cons]
    omega
  · intro budget enough
    have larger : includeDepth files + 1 ≤ budget := by
      rw [Nat.add_comm]
      exact enough
    rw [compile, compileIncluded_mono larger settled]

/-- The first file asks for the second twice and is the shorter of the two. At the deepest place all
three texts lie open. -/
theorem compile_ends_where_rank_falls_nested :
    let root : Text := "$include a".toList
    let first : Text := "%in%$include b\n$include b".toList
    let second : Text := "#one\n#two\n#three\n#four\n#five\n#six".toList
    let held : Bindings (Except ReadFault Text) := ⟨[("a".toList, .ok first), ("b".toList, .ok second)]⟩
    let files : Option FileAccess := some (.ofBindings held)
    [root, first, second].IsChain (Opens {} files) ∧ [root, first, second].length ≤ 1 + 2 ∧
      ∀ budget, 3 ≤ budget →
        compile {} files root = .ofStep "    ".toList (compileIncluded {} files budget root) := by
  intro root first second held files
  have falls : ∀ path text other, held.find? path = some (.ok text) → other ∈ mentionedPaths text →
      held.binds other = true →
      (if other = "a".toList then 1 else 0) < (if path = "a".toList then 1 else 0) := by
    intro path text other found mentioned _
    have listed := Bindings.mem_of_find? found
    simp only [held, List.mem_cons, List.not_mem_nil, or_false, Prod.mk.injEq, Except.ok.injEq] at listed
    rcases listed with ⟨rfl, rfl⟩ | ⟨rfl, rfl⟩
    · have named : mentionedPaths first = ["b".toList, "b".toList] := by decide
      rw [named] at mentioned
      obtain rfl : other = "b".toList := by simpa using mentioned
      decide
    · have none : mentionedPaths second = [] := by decide
      rw [none] at mentioned
      cases mentioned
  have opensFirst : Opens {} files root first :=
    ⟨[], _, {}, "a".toList, ⟨⟨[], rfl⟩, ⟨0, .nil⟩⟩, ⟨rfl, rfl⟩, by decide, _, rfl, by decide, rfl⟩
  have opensSecond : Opens {} files first second :=
    ⟨[], _, {}, "b".toList, ⟨⟨_, rfl⟩, ⟨0, .nil⟩⟩, ⟨rfl, rfl⟩, by decide, _, rfl, by decide, rfl⟩
  have chain : [root, first, second].IsChain (Opens {} files) :=
    .cons_cons opensFirst (.cons_cons opensSecond (.singleton second))
  have ends := compile_ends_where_rank_falls {} held (fun path => if path = "a".toList then 1 else 0)
    falls root
  exact ⟨chain, ends.2.2.2.1 _ chain, ends.2.2.2.2⟩

end SceneNotation
