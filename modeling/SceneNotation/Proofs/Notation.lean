import Mathlib.Data.List.Basic
import SceneNotation.Directive
import SceneNotation.Text.Newline

/- How lines that are put together from known parts are read back: words between
   blanks, boosts in front of a body, an instruction with one argument, and dialogue
   that has no place to be cut at. And the other way round, what a line must be like
   to be read as the directive that it is read as. -/
namespace SceneNotation

namespace Text

/-- What an instruction line can hold as one command or one argument. -/
structure IsWord (text : Text) : Prop where
  nonempty : text ≠ []
  solid : ∀ c ∈ text, isBlank c = false

theorem isWord_iff {text : Text} :
    (!text.isEmpty && text.all fun c => !isBlank c) = true ↔ IsWord text := by
  constructor
  · intro checked
    obtain ⟨nonempty, solid⟩ := Bool.and_eq_true_iff.mp checked
    exact ⟨by simpa using nonempty, by simpa using solid⟩
  · rintro ⟨nonempty, solid⟩
    simpa [nonempty] using solid

instance (text : Text) : Decidable (IsWord text) :=
  decidable_of_decidable_of_iff isWord_iff

theorem splitBy_ne_nil (isSeparator : Char → Bool) (text : Text) :
    splitBy isSeparator text ≠ [] := by
  cases text with
  | nil => simp [splitBy]
  | cons c rest =>
      rw [splitBy]
      split
      · simp
      · split <;> simp

theorem splitBy_solid {isSeparator : Char → Bool} {text : Text}
    (solid : ∀ c ∈ text, isSeparator c = false) : splitBy isSeparator text = [text] := by
  induction text with
  | nil => rfl
  | cons c rest ih =>
      have first : isSeparator c = false := solid c List.mem_cons_self
      have later := ih fun d member => solid d (List.mem_cons_of_mem c member)
      simp [splitBy, first, later]

/-- A separator ends the piece before it, whatever stands on either side. -/
theorem splitBy_append_separator {isSeparator : Char → Bool} {c : Char}
    (separates : isSeparator c = true) (left right : Text) :
    splitBy isSeparator (left ++ c :: right) =
      splitBy isSeparator left ++ splitBy isSeparator right := by
  induction left with
  | nil => simp [splitBy, separates]
  | cons d rest ih =>
      rw [List.cons_append, splitBy, splitBy, ih]
      split
      · rfl
      · cases pieces : splitBy isSeparator rest with
        | nil => exact absurd pieces (splitBy_ne_nil isSeparator rest)
        | cons piece others => rfl

theorem words_append_blank {c : Char} (blank : isBlank c = true) (left right : Text) :
    words (left ++ c :: right) = words left ++ words right := by
  simp only [words, splitBy_append_separator blank, List.filter_append]

theorem IsWord.words_eq {text : Text} (word : IsWord text) : words text = [text] := by
  simp [words, splitBy_solid word.solid, word.nonempty]

theorem mem_of_mem_splitBy {isSeparator : Char → Bool} {text piece : Text} {c : Char}
    (listed : piece ∈ splitBy isSeparator text) (member : c ∈ piece) :
    c ∈ text ∧ isSeparator c = false := by
  induction text generalizing piece with
  | nil =>
      rw [splitBy, List.mem_singleton] at listed
      rw [listed] at member
      cases member
  | cons d rest ih =>
      have later : ∀ piece ∈ splitBy isSeparator rest, c ∈ piece →
          c ∈ d :: rest ∧ isSeparator c = false := by
        intro piece listed member
        obtain ⟨inRest, solid⟩ := ih listed member
        exact ⟨List.mem_cons_of_mem d inRest, solid⟩
      rw [splitBy] at listed
      split at listed
      · rcases List.mem_cons.mp listed with rfl | listed
        · cases member
        · exact later piece listed member
      · next solid =>
          split at listed
          · next none => exact absurd none (splitBy_ne_nil isSeparator rest)
          · next first others split =>
              rcases List.mem_cons.mp listed with rfl | listed
              · rcases List.mem_cons.mp member with rfl | member
                · exact ⟨List.mem_cons_self, by simpa using solid⟩
                · exact later first (by simp [split]) member
              · exact later piece (by simp [split, listed]) member

theorem isWord_of_mem_words {text word : Text} (listed : word ∈ words text) : IsWord word := by
  obtain ⟨piece, nonempty⟩ := List.mem_filter.mp listed
  exact ⟨by simpa using nonempty, fun c member => (mem_of_mem_splitBy piece member).2⟩

theorem mem_of_mem_words {text word : Text} {c : Char} (listed : word ∈ words text)
    (member : c ∈ word) : c ∈ text :=
  (mem_of_mem_splitBy (List.mem_of_mem_filter listed) member).1

theorem splitBy_begins {isSeparator : Char → Bool} {text piece : Text} {others : List Text}
    (split : splitBy isSeparator text = piece :: others) : piece <+: text := by
  induction text generalizing piece others with
  | nil =>
      cases split
      exact List.nil_prefix
  | cons c rest ih =>
      rw [splitBy] at split
      split at split
      · cases split
        exact List.nil_prefix
      · split at split
        · next none => exact absurd none (splitBy_ne_nil isSeparator rest)
        · next later =>
            cases split
            exact (List.prefix_cons_inj c).mpr (ih later)

theorem infix_of_mem_splitBy {isSeparator : Char → Bool} {text piece : Text}
    (listed : piece ∈ splitBy isSeparator text) : piece <:+: text := by
  induction text generalizing piece with
  | nil =>
      rw [splitBy, List.mem_singleton] at listed
      subst listed
      exact List.infix_rfl
  | cons c rest ih =>
      cases pieces : splitBy isSeparator (c :: rest) with
      | nil => exact absurd pieces (splitBy_ne_nil isSeparator _)
      | cons first others =>
          rw [pieces] at listed
          rcases List.mem_cons.mp listed with rfl | later
          · exact (splitBy_begins pieces).isInfix
          · -- the pieces after the first are pieces of what follows the first character
            have member : piece ∈ splitBy isSeparator rest := by
              rw [splitBy] at pieces
              split at pieces
              · cases pieces
                exact later
              · split at pieces
                · cases pieces
                  cases later
                · next split =>
                    cases pieces
                    rw [split]
                    exact List.mem_cons_of_mem _ later
            exact (ih member).trans (List.suffix_cons c rest).isInfix

theorem infix_of_mem_words {text word : Text} (listed : word ∈ words text) : word <:+: text :=
  infix_of_mem_splitBy (List.mem_of_mem_filter listed)

theorem join_concat (sep : Text) (front : List Text) (last : Text) :
    join sep (front ++ [last]) = front.flatMap (· ++ sep) ++ last := by
  induction front with
  | nil => simp [join]
  | cons piece rest ih =>
      have more : rest ++ [last] ≠ [] := List.concat_ne_nil last rest
      rw [join] at ih ⊢
      rw [List.cons_append, List.intercalate_cons_of_ne_nil more, ih, List.flatMap_cons]
      exact (List.append_assoc _ _ _).symm

theorem cut?_eq_some {sep : Char} {text left right : Text}
    (cut : cut? sep text = some (left, right)) : text = left ++ sep :: right ∧ sep ∉ left := by
  induction text generalizing left with
  | nil => cases cut
  | cons c rest ih =>
      rw [cut?] at cut
      split at cut
      · next same =>
          cases cut
          exact ⟨by rw [same, List.nil_append], List.not_mem_nil⟩
      · next differs =>
          obtain ⟨⟨before, after⟩, found, halves⟩ := Option.map_eq_some_iff.mp cut
          cases halves
          obtain ⟨split, absent⟩ := ih found
          exact ⟨by rw [split, List.cons_append], by simp [absent, Ne.symm differs]⟩

theorem cut?_split {sep : Char} {left : Text} (outside : sep ∉ left) (right : Text) :
    cut? sep (left ++ sep :: right) = some (left, right) := by
  induction left with
  | nil => simp [cut?]
  | cons c rest ih =>
      obtain ⟨differs, later⟩ := not_or.mp (List.mem_cons.not.mp outside)
      simp [cut?, Ne.symm differs, ih later]

theorem cut?_eq_none_iff {sep : Char} {text : Text} : cut? sep text = none ↔ sep ∉ text := by
  induction text with
  | nil => simp [cut?]
  | cons c rest ih =>
      by_cases same : c = sep
      · simp [cut?, same]
      · simp [cut?, same, ih, Ne.symm same]

/-- A beginning cannot reach past a character that it does not have. -/
theorem prefix_of_prefix_split {token text rest : Text} {sep : Char} (outside : sep ∉ token)
    (here : token <+: text ++ sep :: rest) : token <+: text := by
  rcases List.prefix_or_prefix_of_prefix here (List.prefix_append text _) with within | beyond
  · exact within
  · obtain ⟨others, rfl⟩ := beyond
    rw [List.prefix_append_right_inj] at here
    cases others with
    | nil => simp
    | cons c later =>
        obtain ⟨rfl, _⟩ := List.cons_prefix_cons.mp here
        exact absurd (List.mem_append_right text List.mem_cons_self) outside

theorem joinReturns_of_none {text : Text} (plain : '\r' ∉ text) : joinReturns text = text := by
  fun_induction joinReturns text with
  | case1 rest ih => exact absurd List.mem_cons_self plain
  | case2 c rest apart ih => rw [ih fun later => plain (List.mem_cons_of_mem c later)]
  | case3 => rfl

theorem joinReturns_subset (text : Text) : joinReturns text ⊆ text := by
  fun_induction joinReturns text with
  | case1 rest ih =>
      exact List.Subset.trans (List.cons_subset_cons '\n' ih) (List.subset_cons_self '\r' _)
  | case2 c rest _ ih => exact List.cons_subset_cons c ih
  | case3 => exact List.Subset.refl []

theorem return_not_mem_unifyNewlines (text : Text) : '\r' ∉ unifyNewlines text := by
  intro member
  obtain ⟨c, _, same⟩ := List.mem_map.mp member
  split at same
  · exact absurd same (by decide)
  · next other => exact other same

theorem mem_of_mem_unifyNewlines {text : Text} {c : Char} (member : c ∈ unifyNewlines text) :
    c = '\n' ∨ c ∈ text := by
  obtain ⟨d, found, same⟩ := List.mem_map.mp member
  split at same
  · exact .inl same.symm
  · exact .inr (same ▸ joinReturns_subset text found)

end Text

/-- The line that gives a command one argument. -/
def commandLine (command argument : Text) : Text :=
  '$' :: (command ++ ' ' :: argument)

def boostText (count : Nat) : Text :=
  (List.replicate count "%in%".toList).flatten

theorem splitBoosts_boostText (count : Nat) (body : Text) :
    splitBoosts (boostText count ++ body) = ((splitBoosts body).1 + count, (splitBoosts body).2) := by
  induction count with
  | zero => rfl
  | succ count ih =>
      have unrolled : boostText (count + 1) ++ body =
          '%' :: 'i' :: 'n' :: '%' :: (boostText count ++ body) := rfl
      rw [unrolled, splitBoosts, ih]
      rfl

theorem splitBoosts_spec (line : Text) :
    line = boostText (splitBoosts line).1 ++ (splitBoosts line).2 ∧
      ¬ "%in%".toList <+: (splitBoosts line).2 := by
  fun_induction splitBoosts line with
  | case1 rest found ih =>
      refine ⟨?_, ih.2⟩
      change _ = '%' :: 'i' :: 'n' :: '%' :: (boostText found.1 ++ found.2)
      rw [← ih.1]
  | case2 body none =>
      refine ⟨rfl, ?_⟩
      rintro ⟨rest, same⟩
      exact none rest same.symm

theorem splitBoosts_of_none {body : Text} (none : ¬ "%in%".toList <+: body) :
    splitBoosts body = (0, body) := by
  obtain ⟨split, _⟩ := splitBoosts_spec body
  cases count : (splitBoosts body).1 with
  | zero =>
      rw [count] at split
      exact Prod.ext count split.symm
  | succ others =>
      rw [count] at split
      exact absurd ⟨boostText others ++ (splitBoosts body).2, split.symm⟩ none

theorem splitBoosts_suffix (line : Text) : (splitBoosts line).2 <:+ line :=
  ⟨boostText (splitBoosts line).1, (splitBoosts_spec line).1.symm⟩

theorem splitBoosts_instruction (text : Text) : splitBoosts ('$' :: text) = (0, '$' :: text) := rfl

namespace Directive

theorem ofLine_instruction {text : Text} (plain : '「' ∉ text) :
    ofLine ('$' :: text) = .instruction text := by
  simp [ofLine, plain]

theorem ofLine_aliasing {rest : Text} (label : rest.head? ≠ some ';') (plain : '「' ∉ rest) :
    ofLine (';' :: rest) = .aliasing (';' :: rest) := by
  cases rest with
  | nil => rfl
  | cons c later =>
      have differs : c ≠ ';' := by simpa using label
      simp [ofLine, plain, differs]

theorem ofLine_dialogue {line : Text} (label : ¬ [';', ';'] <+: line) (comment : ¬ ['#'] <+: line)
    (bracket : '「' ∈ line) : ofLine line = .dialogue line := by
  unfold ofLine
  split
  · next name => exact absurd (List.prefix_append [';', ';'] name) label
  · next rest => exact absurd (List.prefix_append ['#'] rest) comment
  · simp [bracket]

/-- What a line must be like to be read as what it is read as. An opening bracket makes it dialogue
before it can be anything but a label or a comment. -/
inductive Reads (line : Text) : Directive → Prop
  | label {name : Text} (same : line = ';' :: ';' :: name) : Reads line (.label name)
  | comment {rest : Text} (same : line = '#' :: rest) : Reads line (.comment line)
  | dialogue (unlabelled : ¬ [';', ';'] <+: line) (uncommented : ¬ ['#'] <+: line)
      (bracket : '「' ∈ line) : Reads line (.dialogue line)
  | aliasing {rest : Text} (same : line = ';' :: rest) (unlabelled : ¬ [';', ';'] <+: line)
      (plain : '「' ∉ line) : Reads line (.aliasing line)
  | verbatim {content : Text} (same : line = ':' :: content) (plain : '「' ∉ line) :
      Reads line (.verbatim content)
  | instruction {text : Text} (same : line = '$' :: text) (plain : '「' ∉ line) :
      Reads line (.instruction text)
  | unknown (plain : '「' ∉ line) (begins : ∀ c ∈ line.head?, c ∉ [';', '#', ':', '$']) :
      Reads line .unknown

theorem ofLine_reads (line : Text) : Reads line (ofLine line) := by
  unfold ofLine
  split
  · exact .label rfl
  · exact .comment rfl
  · next noLabel noComment =>
      have unlabelled : ¬ [';', ';'] <+: line := by
        rintro ⟨name, rfl⟩
        exact noLabel name rfl
      have uncommented : ¬ ['#'] <+: line := by
        rintro ⟨rest, rfl⟩
        exact noComment rest rfl
      split
      · next bracket => exact .dialogue unlabelled uncommented (by simpa using bracket)
      · next bracketless =>
          have plain : '「' ∉ line := by simpa using bracketless
          split
          · exact .aliasing rfl unlabelled plain
          · exact .verbatim rfl plain
          · exact .instruction rfl plain
          · next noAlias noVerbatim noInstruction =>
              refine .unknown plain ?_
              cases line with
              | nil => simp
              | cons c rest =>
                  have semicolon : c ≠ ';' := fun same => noAlias rest (by rw [same])
                  have hash : c ≠ '#' := fun same => noComment rest (by rw [same])
                  have colon : c ≠ ':' := fun same => noVerbatim rest (by rw [same])
                  have dollar : c ≠ '$' := fun same => noInstruction rest (by rw [same])
                  simp [semicolon, hash, colon, dollar]

theorem reads_of_ofLine {line : Text} {directive : Directive} (read : ofLine line = directive) :
    Reads line directive :=
  read ▸ ofLine_reads line

theorem dialogue_ofLine {line found : Text} (read : ofLine line = .dialogue found) :
    found = line ∧ '「' ∈ line ∧ ¬ [';', ';'] <+: line ∧ ¬ ['#'] <+: line := by
  cases reads_of_ofLine read with
  | dialogue unlabelled uncommented bracket => exact ⟨rfl, bracket, unlabelled, uncommented⟩

theorem aliasing_ofLine {line found : Text} (read : ofLine line = .aliasing found) :
    ∃ rest, found = ';' :: rest ∧ line = found := by
  cases reads_of_ofLine read with
  | aliasing same unlabelled plain => exact ⟨_, same, rfl⟩

theorem label_ofLine {line name : Text} (read : ofLine line = .label name) :
    line = ';' :: ';' :: name := by
  cases reads_of_ofLine read with
  | label same => exact same

theorem comment_ofLine {line found : Text} (read : ofLine line = .comment found) :
    found = line ∧ ∃ rest, line = '#' :: rest := by
  cases reads_of_ofLine read with
  | comment same => exact ⟨rfl, _, same⟩

/-- Two semicolons are a label before one can be an alias. -/
theorem aliasing_unlabelled {line found : Text} (read : ofLine line = .aliasing found) :
    ¬ [';', ';'] <+: line := by
  cases reads_of_ofLine read with
  | aliasing same unlabelled plain => exact unlabelled

theorem verbatim_ofLine {line content : Text} (read : ofLine line = .verbatim content) :
    line = ':' :: content ∧ '「' ∉ content := by
  cases reads_of_ofLine read with
  | verbatim same plain =>
      subst same
      exact ⟨rfl, fun member => plain (List.mem_cons_of_mem ':' member)⟩

theorem instruction_ofLine {line text : Text} (read : ofLine line = .instruction text) :
    line = '$' :: text := by
  cases reads_of_ofLine read with
  | instruction same plain => exact same

theorem ofLine_unknown_iff {line : Text} :
    ofLine line = .unknown ↔ '「' ∉ line ∧ ∀ c ∈ line.head?, c ∉ [';', '#', ':', '$'] := by
  constructor
  · intro read
    cases reads_of_ofLine read with
    | unknown plain begins => exact ⟨plain, begins⟩
  · rintro ⟨plain, begins⟩
    cases read : ofLine line with
    | label name =>
        obtain rfl := label_ofLine read
        simp at begins
    | comment found =>
        obtain ⟨_, rest, rfl⟩ := comment_ofLine read
        simp at begins
    | dialogue found => exact absurd (dialogue_ofLine read).2.1 plain
    | aliasing found =>
        obtain ⟨rest, rfl, rfl⟩ := aliasing_ofLine read
        simp at begins
    | verbatim content =>
        obtain ⟨rfl, _⟩ := verbatim_ofLine read
        simp at begins
    | instruction text =>
        obtain rfl := instruction_ofLine read
        simp at begins
    | unknown => rfl

theorem plain_of_ofLine {line found : Text}
    (read : ofLine line = .aliasing found ∨ ofLine line = .instruction found) : '「' ∉ found := by
  rcases read with read | read
  · cases reads_of_ofLine read with
    | aliasing same unlabelled plain => exact plain
  · cases reads_of_ofLine read with
    | instruction same plain =>
        subst same
        exact fun member => plain (List.mem_cons_of_mem '$' member)

end Directive

theorem Call.ofText_line (text : Text) (line : Int) : (Call.ofText text line).line = line := by
  unfold Call.ofText
  split <;> rfl

theorem Call.ofText_words (text : Text) (line : Int) :
    Call.ofText text line = ⟨(Text.words text).headD [], (Text.words text).tail, line⟩ := by
  unfold Call.ofText
  cases Text.words text <;> rfl

theorem Call.ofText_pair {command argument : Text} (commandWord : Text.IsWord command)
    (argumentWord : Text.IsWord argument) (line : Int) :
    Call.ofText (command ++ ' ' :: argument) line = ⟨command, [argument], line⟩ := by
  have two : Text.words (command ++ ' ' :: argument) = [command, argument] := by
    rw [Text.words_append_blank (by decide), commandWord.words_eq, argumentWord.words_eq]
    rfl
  simp only [Call.ofText, two]

theorem CharacterAlias.ofLine_eq_ok {line : Text} {given : CharacterAlias}
    (read : CharacterAlias.ofLine line = .ok given) :
    line.tail = given.name ++ ':' :: given.shown ∧ ':' ∉ given.name := by
  unfold CharacterAlias.ofLine at read
  split at read
  · split at read
    · next cut =>
        cases read
        exact Text.cut?_eq_some cut
    · cases read
  · cases read

/-- A colon in an alias line is never its first character, so it is still there to cut at. -/
theorem CharacterAlias.ofLine_cuts (rest : Text) :
    CharacterAlias.ofLine (';' :: rest) ≠ .error .uncut := by
  unfold CharacterAlias.ofLine
  split
  · next colon =>
      have inRest : ':' ∈ rest := by simpa using colon
      split
      · intro impossible
        cases impossible
      · next nowhere => exact absurd inRest (Text.cut?_eq_none_iff.mp nowhere)
  · intro impossible
    cases impossible

theorem CharacterAlias.ofLine_malformed_iff {line : Text} :
    CharacterAlias.ofLine line = .error .malformed ↔ ':' ∉ line := by
  unfold CharacterAlias.ofLine
  by_cases colon : ':' ∈ line
  · rw [if_pos (by simpa using colon)]
    split <;> simp [colon]
  · rw [if_neg (by simpa using colon)]
    simp [colon]

theorem Dialogue.ofLine_unclosed_iff {line : Text} :
    Dialogue.ofLine line = .error .unclosed ↔ '」' ∉ line := by
  unfold Dialogue.ofLine
  by_cases closed : '」' ∈ line
  · rw [if_pos (by simpa using closed)]
    split
    · simp [closed]
    · split <;> simp [closed]
  · rw [if_neg (by simpa using closed)]
    simp [closed]

/-- Narration is what stands between the first character and the last. -/
theorem Dialogue.ofLine_narration_iff {line message : Text} :
    Dialogue.ofLine line = .ok (.narration message) ↔
      '」' ∈ line ∧ ['「'] <+: line ∧ message = line.tail.dropLast := by
  unfold Dialogue.ofLine
  by_cases closed : '」' ∈ line
  · rw [if_pos (by simpa using closed)]
    split
    · next rest => simp [closed, eq_comm]
    · next unopened =>
        have silent : ¬ ['「'] <+: line := by
          rintro ⟨rest, rfl⟩
          exact unopened rest rfl
        split <;> simp [silent]
  · rw [if_neg (by simpa using closed)]
    simp [closed]

/-- The speaker ends at the first bracket, and only the last character is no part of the message. -/
theorem Dialogue.ofLine_speech {speaker : Text} (nonempty : speaker ≠ []) (plain : '「' ∉ speaker)
    (message : Text) :
    Dialogue.ofLine (speaker ++ '「' :: (message ++ ['」'])) = .ok (.speech speaker message) := by
  obtain ⟨c, rest, rfl⟩ := List.exists_cons_of_ne_nil nonempty
  have first : c ≠ '「' := fun same => plain (by simp [same])
  have cut := Text.cut?_split plain message
  have dropped : (c :: rest ++ '「' :: (message ++ ['」'])).dropLast = c :: rest ++ '「' :: message := by
    rw [← List.cons_append, ← List.append_assoc, List.dropLast_concat]
  unfold Dialogue.ofLine
  rw [if_pos (by simp), dropped, cut]
  simp [first]

/-- Dialogue that is closed but opens only at its very end. With its last character dropped it
has no bracket left to cut at. -/
structure Unsplit (body : Text) : Prop where
  opensLast : ∃ speaker, body = speaker ++ ['「'] ∧ '「' ∉ speaker ∧ '」' ∈ speaker
  notLabel : ¬ [';', ';'] <+: body
  notComment : ¬ ['#'] <+: body

theorem Unsplit.dialogue {body : Text} (unsplit : Unsplit body) :
    Directive.ofLine body = .dialogue body := by
  obtain ⟨speaker, rfl, _, _⟩ := unsplit.opensLast
  exact Directive.ofLine_dialogue unsplit.notLabel unsplit.notComment (by simp)

theorem Unsplit.uncut {body : Text} (unsplit : Unsplit body) :
    Dialogue.ofLine body = .error .uncut := by
  obtain ⟨speaker, rfl, opened, closed⟩ := unsplit.opensLast
  have nowhere : Text.cut? '「' speaker = none := Text.cut?_eq_none_iff.mpr opened
  cases speaker with
  | nil => cases closed
  | cons c rest =>
      have first : c ≠ '「' := fun same => opened (by simp [same])
      have isClosed : (c :: rest ++ ['「']).contains '」' = true := by
        simp only [List.contains_iff_mem, List.mem_append]
        exact Or.inl closed
      have dropped : (c :: (rest ++ ['「'])).dropLast = c :: rest := by
        rw [← List.cons_append, List.dropLast_concat]
      unfold Dialogue.ofLine
      rw [if_pos isClosed]
      simp [first, dropped, nowhere]

theorem unsplit_of_uncut {line found : Text} (read : Directive.ofLine line = .dialogue found)
    (uncut : Dialogue.ofLine found = .error .uncut) : Unsplit line := by
  obtain ⟨rfl, bracket, notLabel, notComment⟩ := Directive.dialogue_ofLine read
  refine ⟨?_, notLabel, notComment⟩
  unfold Dialogue.ofLine at uncut
  split at uncut
  · next closed =>
      split at uncut
      · cases uncut
      · split at uncut
        · cases uncut
        · next nowhere =>
            have opened := Text.cut?_eq_none_iff.mp nowhere
            have nonempty : found ≠ [] := List.ne_nil_of_mem bracket
            have whole := List.dropLast_append_getLast nonempty
            have last : found.getLast nonempty = '「' := by
              rw [← whole, List.mem_append, List.mem_singleton] at bracket
              exact (bracket.resolve_left opened).symm
            rw [last] at whole
            refine ⟨found.dropLast, whole.symm, opened, ?_⟩
            rw [← whole] at closed
            simpa using closed
  · cases uncut

end SceneNotation
