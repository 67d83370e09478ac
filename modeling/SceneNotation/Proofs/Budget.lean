import Mathlib.Data.Finset.Card
import Mathlib.Data.Fintype.Order
import Mathlib.Logic.Relation
import SceneNotation.Proofs.Access
import SceneNotation.Proofs.Line

/- A compilation is given a number of further compilations it may open, one inside
   the other. The number is a device: once it is enough, more changes nothing, and
   the number of texts that can be read is enough whenever any number is. If no file
   comes to include itself then some number is. -/
namespace SceneNotation.Compiler

/-- The nested compilations that were allowed did not suffice. -/
def Step.Endless (step : Step) : Prop :=
  step.failure = some (.brokeOff .endlessInclusion)

@[simp] theorem spliceStep_failure (state : State) (included : Step) :
    (spliceStep state included).failure = included.failure := by
  cases outcome : included.failure with
  | none => simp [spliceStep, outcome]
  | some failure => simp [spliceStep, outcome]

theorem runLines_congr_of_settled {fewer more : State → Text → Step}
    (agree : ∀ state line, ¬ (fewer state line).Endless → more state line = fewer state line)
    {state : State} {lines : List Text} (settled : ¬ (runLines fewer state lines).Endless) :
    runLines more state lines = runLines fewer state lines := by
  induction lines generalizing state with
  | nil => rfl
  | cons line rest ih =>
      rw [runLines_cons] at settled
      cases outcome : (fewer state line).failure with
      | some own =>
          have located := Step.foundIn_of_failed outcome line
          rw [Step.andThen_of_failed located] at settled
          have first : ¬ (fewer state line).Endless := by
            intro endless
            apply settled
            rw [Step.Endless] at endless ⊢
            simp only [Step.foundIn_failure, endless, Option.map_some, Failure.foundIn]
          rw [runLines_cons, runLines_cons, agree state line first, Step.andThen_of_failed located,
            Step.andThen_of_failed located]
      | none =>
          have first : ¬ (fewer state line).Endless := by simp [Step.Endless, outcome]
          have done : ((fewer state line).foundIn line).failure = none := by simp [outcome]
          rw [Step.andThen_of_done done] at settled
          rw [runLines_cons, runLines_cons, agree state line first, Step.andThen_of_done done,
            Step.andThen_of_done done, ih settled]

section Budgets

variable (settings : Settings) (files : Option FileAccess)

/-- Processing a line where `depth` further compilations may be opened. -/
def lineStep (depth : Nat) : State → Text → Step :=
  processLine { settings, files } (compileIncluded settings files depth)

theorem compileIncluded_succ (depth : Nat) (text : Text) :
    compileIncluded settings files (depth + 1) text =
      compileLines (lineStep settings files depth) {} (Text.sourceLines text) := rfl

/-- The text is compiled to an end, good or bad, within the budget. -/
def Settles (depth : Nat) (text : Text) : Prop :=
  ¬ (compileIncluded settings files depth text).Endless

variable {settings files}

theorem compileIncluded_goesThrough {depth : Nat} {text : Text}
    (done : (compileIncluded settings files (depth + 1) text).failure = none) :
    GoesThrough (lineStep settings files depth) {} (Text.sourceLines text)
      (compileIncluded settings files (depth + 1) text).state := by
  rw [compileIncluded_succ] at done ⊢
  rw [compileLines_failure] at done
  exact ⟨done, (compileLines_state _ _).symm⟩

theorem lineStep_failure_of_includes {state : State} {line path text : Text}
    (includes : Includes files state line path text) (depth : Nat) :
    (lineStep settings files depth state line).failure =
      (compileIncluded settings files depth text).failure := by
  obtain ⟨log, spliced⟩ := processLine_includes settings includes
  rw [lineStep, spliced, Step.logging_failure, spliceStep_failure]

/-- A line comes to the same whatever nested compilations come to beyond the budget, as long as the
budget was enough for it. -/
theorem processLine_of_settled {depth : Nat} {meaning : Text → Step}
    (agree : ∀ text, Settles settings files depth text →
      meaning text = compileIncluded settings files depth text)
    (state : State) (line : Text) (settled : ¬ (lineStep settings files depth state line).Endless) :
    processLine { settings, files } meaning state line = lineStep settings files depth state line := by
  rcases includes_or_alone files state line with ⟨path, text, includes⟩ | alone
  · have inner : Settles settings files depth text := by
      rw [Step.Endless, lineStep_failure_of_includes includes] at settled
      exact settled
    obtain ⟨log, spliced⟩ := processLine_includes settings includes
    rw [lineStep, spliced, spliced, agree text inner]
  · obtain ⟨step, _, same⟩ := processLine_own settings alone
    rw [lineStep, same, same]

theorem lineStep_mono {fewer more : Nat}
    (agree : ∀ text, Settles settings files fewer text →
      compileIncluded settings files more text = compileIncluded settings files fewer text)
    (state : State) (line : Text) (settled : ¬ (lineStep settings files fewer state line).Endless) :
    lineStep settings files more state line = lineStep settings files fewer state line :=
  processLine_of_settled agree state line settled

theorem compileIncluded_mono {fewer more : Nat} (enough : fewer ≤ more) {text : Text}
    (settled : Settles settings files fewer text) :
    compileIncluded settings files more text = compileIncluded settings files fewer text := by
  -- on the smaller budget: with none at all no text settles
  induction fewer generalizing more text with
  | zero => exact absurd rfl settled
  | succ fewer ih =>
      obtain ⟨more, rfl⟩ : ∃ smaller, more = smaller + 1 := ⟨more - 1, by omega⟩
      have agree := lineStep_mono fun text settled => ih (Nat.le_of_succ_le_succ enough) settled
      have run : ¬ (runLines (lineStep settings files fewer) {} (Text.sourceLines text)).Endless := by
        simpa [Settles, compileIncluded_succ, Step.Endless] using settled
      rw [compileIncluded_succ, compileIncluded_succ, compileLines, compileLines,
        runLines_congr_of_settled agree run]

theorem Settles.mono {fewer more : Nat} {text : Text} (settled : Settles settings files fewer text)
    (enough : fewer ≤ more) : Settles settings files more text := by
  rw [Settles, compileIncluded_mono enough settled]
  exact settled

theorem settled_unique {first second : Nat} {text : Text} (one : Settles settings files first text)
    (other : Settles settings files second text) :
    compileIncluded settings files first text = compileIncluded settings files second text := by
  rw [← compileIncluded_mono (Nat.le_max_left first second) one,
    ← compileIncluded_mono (Nat.le_max_right first second) other]

theorem GoesThrough.mono {fewer more : Nat} {state next : State} {lines : List Text}
    (through : GoesThrough (lineStep settings files fewer) state lines next) (enough : fewer ≤ more) :
    GoesThrough (lineStep settings files more) state lines next := by
  have settled : ¬ (runLines (lineStep settings files fewer) state lines).Endless := by
    simp [Step.Endless, through.done]
  have same := runLines_congr_of_settled
    (lineStep_mono fun text => compileIncluded_mono enough) settled
  exact ⟨by rw [same, through.done], by rw [same, through.ends]⟩

theorem compileIncluded_hands_on {depth : Nat} {text path inner line : Text}
    {before after : List Text} {state : State} {failure : Failure}
    (placed : Text.sourceLines text = before ++ line :: after)
    (through : GoesThrough (lineStep settings files depth) {} before state)
    (includes : Includes files state line path inner)
    (failed : (compileIncluded settings files depth inner).failure = some failure) :
    (compileIncluded settings files (depth + 1) text).failure = some (failure.foundIn line) := by
  rw [compileIncluded_succ, compileLines_failure, placed]
  apply through.fails_at
  rw [lineStep_failure_of_includes includes, failed]

theorem endless_includes {depth : Nat} {text : Text}
    (endless : (compileIncluded settings files (depth + 1) text).Endless) :
    ∃ before line after state path inner, Text.sourceLines text = before ++ line :: after ∧
      GoesThrough (lineStep settings files depth) {} before state ∧
      Includes files state line path inner ∧ (compileIncluded settings files depth inner).Endless := by
  rw [Step.Endless, compileIncluded_succ, compileLines_failure] at endless
  obtain ⟨before, line, after, state, own, placed, through, here, located⟩ := runLines_failed endless
  rw [Failure.foundIn_eq_brokeOff.mp located.symm] at here
  rcases includes_or_alone files state line with ⟨path, inner, includes⟩ | alone
  · rw [lineStep_failure_of_includes includes] at here
    exact ⟨before, line, after, state, path, inner, placed, through, includes, here⟩
  · obtain ⟨_, ⟨fault, impossible⟩ | ⟨breakdown, same, breaks⟩⟩ :=
      processLine_own_failed settings alone here
    · cases impossible
    · cases same
      exact absurd rfl breaks.not_endless

/-- Some text that can be read takes this many nested compilations, and no fewer. -/
def Needs (settings : Settings) (files : Option FileAccess) (level : Nat) : Prop :=
  ∃ path inner, Supplies files path inner ∧ Settles settings files (level + 1) inner ∧
    ¬ Settles settings files level inner

/-- A text that needs its whole budget includes one that needs all but one of it. -/
theorem settles_exactly_below {depth : Nat} {text : Text}
    (settled : Settles settings files (depth + 2) text)
    (short : ¬ Settles settings files (depth + 1) text) : Needs settings files depth := by
  obtain ⟨before, line, after, state, path, inner, placed, through, includes, endless⟩ :=
    endless_includes (not_not.mp short)
  refine ⟨path, inner, includes.supplied, ?_, fun settled => settled endless⟩
  intro deeper
  apply settled
  rw [Step.Endless, compileIncluded_hands_on placed (through.mono (Nat.le_succ depth)) includes deeper]
  rfl

theorem settles_exactly {depth : Nat} {text : Text}
    (settled : Settles settings files (depth + 1) text) (short : ¬ Settles settings files depth text) :
    ∀ level < depth, Needs settings files level := by
  induction depth generalizing text with
  | zero => intro level below; omega
  | succ depth ih =>
      obtain ⟨path, inner, supplied, innerSettled, innerShort⟩ := settles_exactly_below settled short
      intro level below
      rcases Nat.lt_succ_iff_lt_or_eq.mp below with lower | rfl
      · exact ih innerSettled innerShort level lower
      · exact ⟨path, inner, supplied, innerSettled, innerShort⟩

theorem supplied_bounded (bounded : FilesBounded files) :
    ∃ texts : List Text, texts.length ≤ includeDepth files ∧
      ∀ path text, Supplies files path text → text ∈ texts := by
  cases files with
  | none => exact ⟨[], Nat.le_refl 0, fun path text ⟨access, impossible, _⟩ => by cases impossible⟩
  | some access =>
      obtain ⟨texts, bound, listed⟩ := bounded access rfl
      refine ⟨texts, bound, ?_⟩
      rintro path text ⟨other, same, found, reads⟩
      cases same
      exact listed path text found reads

/-- Texts that need different budgets are different, so there are no more budgets than texts. -/
theorem levels_le_includeDepth (bounded : FilesBounded files) {levels : Nat}
    (each : ∀ level < levels, Needs settings files level) : levels ≤ includeDepth files := by
  obtain ⟨texts, bound, listed⟩ := supplied_bounded bounded
  simp only [Needs] at each
  choose! path inner supplied settled short using each
  have maps : ∀ level ∈ Finset.range levels, inner level ∈ texts.toFinset := by
    intro level member
    exact List.mem_toFinset.mpr (listed _ _ (supplied level (Finset.mem_range.mp member)))
  have apart : ∀ low < levels, ∀ high < levels, low < high → inner low ≠ inner high := by
    intro low lowBelow high highBelow lower same
    -- one text for two levels would settle at the lower one, and so below the higher
    apply short high highBelow
    rw [← same]
    exact (settled low lowBelow).mono lower
  have injective : Set.InjOn inner (Finset.range levels) := by
    intro first firstBelow second secondBelow same
    simp only [Finset.coe_range, Set.mem_Iio] at firstBelow secondBelow
    rcases Nat.lt_trichotomy first second with lower | rfl | higher
    · exact absurd same (apart first firstBelow second secondBelow lower)
    · rfl
    · exact absurd same.symm (apart second secondBelow first firstBelow higher)
  have count := Finset.card_le_card_of_injOn inner maps injective
  rw [Finset.card_range] at count
  exact count.trans (texts.toFinset_card_le.trans bound)

/-- The least budget that suffices, less one. -/
theorem settles_least {depth : Nat} {text : Text} (settled : Settles settings files depth text) :
    ∃ least, Settles settings files (least + 1) text ∧ ¬ Settles settings files least text := by
  induction depth with
  | zero => exact absurd rfl settled
  | succ depth ih =>
      by_cases earlier : Settles settings files depth text
      · exact ih earlier
      · exact ⟨depth, settled, earlier⟩

/-- The budget of a compilation is enough for every text that some budget is enough for. -/
theorem Settles.of_any {depth : Nat} {text : Text} (settled : Settles settings files depth text)
    (bounded : FilesBounded files) :
    Settles settings files (includeDepth files + 1) text := by
  obtain ⟨least, enough, short⟩ := settles_least settled
  exact enough.mono (Nat.succ_le_succ (levels_le_includeDepth bounded (settles_exactly enough short)))

theorem Settles.of_supplied {depth : Nat} {path text : Text}
    (settled : Settles settings files depth text) (bounded : FilesBounded files)
    (supplied : Supplies files path text) : Settles settings files (includeDepth files) text := by
  obtain ⟨least, enough, short⟩ := settles_least settled
  have each : ∀ level < least + 1, Needs settings files level := by
    intro level below
    rcases Nat.lt_succ_iff_lt_or_eq.mp below with lower | rfl
    · exact settles_exactly enough short level lower
    · exact ⟨path, text, supplied, enough, short⟩
  exact enough.mono (levels_le_includeDepth bounded each)

/-- The text under the first path has a line that can ask for the second. -/
def Mentions (files : Option FileAccess) (path other : Text) : Prop :=
  ∃ text, Supplies files path text ∧ other ∈ mentionedPaths text

/-- No path leads back to itself. -/
def Acyclic (files : Option FileAccess) : Prop :=
  ∀ path, ¬ Relation.TransGen (Mentions files) path path

theorem acyclic_of_rank (rank : Text → Nat)
    (falls : ∀ path other text, Mentions files path other → Supplies files other text →
      rank other < rank path) : Acyclic files := by
  have lower : ∀ path other text, Supplies files other text →
      Relation.TransGen (Mentions files) path other → rank other < rank path := by
    intro path other text supplied chain
    induction chain using Relation.TransGen.head_induction_on with
    | single mention => exact falls _ other text mention supplied
    | @head first next mention chain ih =>
        obtain ⟨_, ⟨nextText, nextSupplied, _⟩, _⟩ := Relation.TransGen.head'_iff.mp chain
        exact ih.trans (falls first next nextText mention nextSupplied)
  intro path cycle
  obtain ⟨_, ⟨text, supplied, _⟩, _⟩ := Relation.TransGen.head'_iff.mp cycle
  exact Nat.lt_irrefl _ (lower path path text supplied cycle)

theorem ofBindings_read {held : Bindings (Except ReadFault Text)} {path : Text}
    {content : Except ReadFault Text} (reads : (FileAccess.ofBindings held).read path = content) :
    (path, content) ∈ held.entries ∨ content = .error (.reported []) := by
  simp only [FileAccess.ofBindings] at reads
  cases found : held.find? path with
  | none =>
      rw [found] at reads
      exact Or.inr reads.symm
  | some stored =>
      rw [found] at reads
      exact Or.inl (reads ▸ Bindings.mem_of_find? found)

theorem supplies_ofBindings {held : Bindings (Except ReadFault Text)} {path text : Text}
    (supplied : Supplies (some (.ofBindings held)) path text) : (path, .ok text) ∈ held.entries := by
  obtain ⟨access, same, _, reads⟩ := supplied
  cases same
  exact (ofBindings_read reads).resolve_right (by simp)

/-- The first text has a line that can ask for the second text. -/
def MentionsText (files : Option FileAccess) (outer inner : Text) : Prop :=
  ∃ path ∈ mentionedPaths outer, Supplies files path inner

theorem Includes.mentionsText {state : State} {outer line path inner : Text}
    (includes : Includes files state line path inner) (placed : line ∈ Text.sourceLines outer) :
    MentionsText files outer inner :=
  ⟨path, List.mem_filterMap.mpr ⟨line, placed, includes.asks⟩, includes.supplied⟩

theorem mentions_of_mentionsText {path outer inner : Text} (supplied : Supplies files path outer)
    (chain : Relation.ReflTransGen (MentionsText files) outer inner) :
    ∃ last, Supplies files last inner ∧ Relation.ReflTransGen (Mentions files) path last := by
  induction chain with
  | refl => exact ⟨path, supplied, .refl⟩
  | tail _ mention ih =>
      obtain ⟨last, lastSupplied, leads⟩ := ih
      obtain ⟨next, named, nextSupplied⟩ := mention
      exact ⟨next, nextSupplied, leads.tail ⟨_, lastSupplied, named⟩⟩

theorem Acyclic.text_irrefl (acyclic : Acyclic files) (text : Text) :
    ¬ Relation.TransGen (MentionsText files) text text := by
  intro cycle
  obtain ⟨next, ⟨first, named, supplied⟩, chain⟩ := Relation.TransGen.head'_iff.mp cycle
  obtain ⟨last, lastSupplied, leads⟩ := mentions_of_mentionsText supplied chain
  -- the last path has the text of the first mention, so it mentions the first path again
  exact acyclic first (Relation.TransGen.tail' leads ⟨text, lastSupplied, named⟩)

/-- A finite relation without cycles can be followed only finitely far. -/
theorem Acyclic.wellFounded (acyclic : Acyclic files) (texts : List Text) :
    WellFounded fun inner outer : { text // text ∈ texts } =>
      Relation.TransGen (MentionsText files) outer.val inner.val := by
  have finite : Finite { text // text ∈ texts } := List.finite_toSet texts
  have transitive : IsTrans { text // text ∈ texts } fun inner outer =>
      Relation.TransGen (MentionsText files) outer.val inner.val :=
    ⟨fun _ _ _ first second => second.trans first⟩
  have irreflexive : Std.Irrefl fun inner outer : { text // text ∈ texts } =>
      Relation.TransGen (MentionsText files) outer.val inner.val :=
    ⟨fun text cycle => acyclic.text_irrefl text.val cycle⟩
  exact Finite.wellFounded_of_trans_of_irrefl _

theorem settles_of_mentioned {depth : Nat} {text : Text}
    (each : ∀ inner, MentionsText files text inner → Settles settings files depth inner) :
    Settles settings files (depth + 1) text := by
  intro endless
  obtain ⟨before, line, after, state, path, inner, placed, _, includes, innerEndless⟩ :=
    endless_includes endless
  exact each inner (includes.mentionsText (by simp [placed])) innerEndless

theorem Acyclic.settles_supplied (acyclic : Acyclic files) (bounded : FilesBounded files)
    {path text : Text} (supplied : Supplies files path text) :
    Settles settings files (includeDepth files) text := by
  obtain ⟨texts, _, listed⟩ := supplied_bounded bounded
  have every : ∀ text : { text // text ∈ texts }, ∀ path, Supplies files path text.val →
      Settles settings files (includeDepth files) text.val := by
    intro text
    induction text using (acyclic.wellFounded texts).induction with
    | h text ih =>
        intro path supplied
        have settled : Settles settings files (includeDepth files + 1) text.val := by
          apply settles_of_mentioned
          rintro inner ⟨next, named, nextSupplied⟩
          exact ih ⟨inner, listed next inner nextSupplied⟩ (.single ⟨next, named, nextSupplied⟩)
            next nextSupplied
        exact settled.of_supplied bounded supplied
  exact every ⟨text, listed path text supplied⟩ path supplied

theorem Acyclic.settles (acyclic : Acyclic files) (bounded : FilesBounded files) (text : Text) :
    Settles settings files (includeDepth files + 1) text := by
  apply settles_of_mentioned
  rintro inner ⟨path, _, supplied⟩
  exact acyclic.settles_supplied bounded supplied

end Budgets

end SceneNotation.Compiler
