import SceneNotation.Proofs.Notation

/- An instruction is written as words with blanks between any two of them, and
   perhaps around them all. Which blanks they are and how many makes no difference:
   the words are read back as they are, and from any text come words that together
   are the text less its blanks and that one space each is enough to keep apart. -/
namespace SceneNotation

namespace Text

/-- Nothing but blanks, perhaps nothing at all. -/
def BlankRun (run : Text) : Prop :=
  ∀ c ∈ run, isBlank c = true

theorem blankRun_iff {run : Text} : run.all isBlank = true ↔ BlankRun run :=
  List.all_eq_true

instance (run : Text) : Decidable (BlankRun run) :=
  decidable_of_decidable_of_iff blankRun_iff

/-- Words one after the other, with a run of blanks between any two of them. -/
inductive Spaced : List Text → Text → Prop
  | one {word : Text} (isWord : IsWord word) : Spaced [word] word
  | more {word gap rest : Text} {others : List Text} (isWord : IsWord word) (blank : BlankRun gap)
      (apart : gap ≠ []) (later : Spaced others rest) : Spaced (word :: others) (word ++ (gap ++ rest))

theorem words_behind_run {run : Text} (blank : BlankRun run) (text : Text) :
    words (run ++ text) = words text := by
  induction run with
  | nil => rfl
  | cons c rest ih =>
      have first : isBlank c = true := blank c List.mem_cons_self
      have later := ih fun d member => blank d (List.mem_cons_of_mem c member)
      rw [List.cons_append]
      exact (words_append_blank first [] (rest ++ text)).trans later

theorem words_across_run {run : Text} (blank : BlankRun run) (apart : run ≠ []) (left right : Text) :
    words (left ++ (run ++ right)) = words left ++ words right := by
  obtain ⟨c, rest, rfl⟩ := List.exists_cons_of_ne_nil apart
  have first : isBlank c = true := blank c List.mem_cons_self
  have later : BlankRun rest := fun d member => blank d (List.mem_cons_of_mem c member)
  rw [List.cons_append, words_append_blank first, words_behind_run later]

theorem words_before_run {run : Text} (blank : BlankRun run) (text : Text) :
    words (text ++ run) = words text := by
  by_cases empty : run = []
  · rw [empty, List.append_nil]
  · have across := words_across_run blank empty text []
    simpa [words, splitBy] using across

theorem Spaced.words_eq {found : List Text} {text : Text} (spaced : Spaced found text) :
    words text = found := by
  induction spaced with
  | one isWord => exact isWord.words_eq
  | more isWord blank apart later ih =>
      rw [words_across_run blank apart, isWord.words_eq, ih, List.singleton_append]

theorem flatten_splitBy (isSeparator : Char → Bool) (text : Text) :
    (splitBy isSeparator text).flatten = text.filter fun c => !isSeparator c := by
  induction text with
  | nil => rfl
  | cons c rest ih =>
      rw [splitBy]
      by_cases separates : isSeparator c = true
      · simp [separates, ih]
      · rw [if_neg separates, List.filter_cons_of_pos (by simpa using separates), ← ih]
        cases split : splitBy isSeparator rest with
        | nil => exact absurd split (splitBy_ne_nil isSeparator rest)
        | cons piece others => rfl

theorem flatten_words (text : Text) : (words text).flatten = text.filter fun c => !isBlank c := by
  rw [words, List.flatten_filter_not_isEmpty, flatten_splitBy]

theorem spaced_join {found : List Text} (given : found ≠ []) (isWords : ∀ word ∈ found, IsWord word) :
    Spaced found (join [' '] found) := by
  induction found with
  | nil => exact absurd rfl given
  | cons word others ih =>
      have isWord := isWords word List.mem_cons_self
      by_cases last : others = []
      · rw [last, join, List.intercalate_singleton]
        exact .one isWord
      · have later := ih last fun other member => isWords other (List.mem_cons_of_mem word member)
        rw [join, List.intercalate_cons_of_ne_nil last, List.append_assoc]
        have space : BlankRun [' '] := by decide
        exact .more isWord space (List.cons_ne_nil _ _) later

end Text

namespace Call

open Text

theorem ofText_eq {text command : Text} {args : List Text} (read : words text = command :: args)
    (line : Int) : ofText text line = ⟨command, args, line⟩ := by
  rw [ofText, read]

/-- Words are read back from wherever blanks stand between them and around them. What is read from
any text is words, or no command and no arguments; put together they are the text less its blanks,
and with one space between any two they are read again as they are. -/
theorem words_round_trip :
    (∀ (lead body trail command : Text) (args : List Text) (line : Int),
      BlankRun lead → BlankRun trail → Spaced (command :: args) body →
        ofText (lead ++ (body ++ trail)) line = ⟨command, args, line⟩) ∧
    ∀ (text : Text) (line : Int), ∃ command args, ofText text line = ⟨command, args, line⟩ ∧
      (IsWord command ∨ command = [] ∧ args = []) ∧ (∀ arg ∈ args, IsWord arg) ∧
      (command :: args).flatten = (text.filter fun c => !isBlank c) ∧
      ofText (join [' '] (command :: args)) line = ⟨command, args, line⟩ := by
  constructor
  · intro lead body trail command args line blankLead blankTrail spaced
    apply ofText_eq
    rw [words_behind_run blankLead, words_before_run blankTrail, spaced.words_eq]
  · intro text line
    have together := flatten_words text
    have isWords : ∀ word ∈ words text, IsWord word := fun word => isWord_of_mem_words
    cases read : words text with
    | nil =>
        rw [read] at together
        have none : ofText text line = ⟨[], [], line⟩ := by rw [ofText, read]
        exact ⟨[], [], none, .inr ⟨rfl, rfl⟩, by simp, together, rfl⟩
    | cons command args =>
        rw [read] at together isWords
        have again := (spaced_join (List.cons_ne_nil command args) isWords).words_eq
        exact ⟨command, args, ofText_eq read line, .inl (isWords command List.mem_cons_self),
          fun arg given => isWords arg (List.mem_cons_of_mem command given), together,
          ofText_eq again line⟩

/-- Blanks of five kinds: one in front, two side by side, one alone and one at the end. -/
theorem words_round_trip_mixed :
    ofText "\u3000define\t\u2003HERO\x1cTaro\n".toList 3 =
      ⟨"define".toList, ["HERO".toList, "Taro".toList], 3⟩ := by
  have spaced : Spaced ["define".toList, "HERO".toList, "Taro".toList]
      ("define".toList ++ ("\t\u2003".toList ++ ("HERO".toList ++ ("\x1c".toList ++ "Taro".toList)))) :=
    .more (by decide) (by decide) (by decide)
      (.more (by decide) (by decide) (by decide) (.one (by decide)))
  exact words_round_trip.1 "\u3000".toList _ "\n".toList _ _ 3 (by decide) (by decide) spaced

end Call

end SceneNotation
