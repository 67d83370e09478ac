import SceneNotation.Proofs.Scan

/- The highlighter reads a line by an ordered list of rules and the compiler by a
   chain of tests. Where the compiler takes a line for a construct that is closed,
   the highlighter takes it for the same one and cuts it at the same places: after
   the boosts, around the speaker and the message, and around the two halves of an
   alias. -/
namespace SceneNotation

namespace Text

theorem unifyNewlines_of_none {text : Text} (plain : '\r' ∉ text) : unifyNewlines text = text := by
  rw [unifyNewlines, joinReturns_of_none plain]
  calc
    text.map (fun c => if c = '\r' then '\n' else c) = text.map id := by
      apply List.map_congr_left
      intro c member
      exact if_neg fun same : c = '\r' => plain (same ▸ member)
    _ = text := List.map_id text

end Text

theorem boostText_concat (count : Nat) : boostText (count + 1) = boostText count ++ "%in%".toList := by
  rw [boostText, List.replicate_succ', List.flatten_append]
  rfl

namespace Highlight

theorem atLineStart_boosts (count : Nat) : atLineStart (boostText (count + 1)).reverse = false := by
  rw [boostText_concat, List.reverse_append]
  rfl

theorem afterBoost_boosts (count : Nat) : afterBoost (boostText (count + 1)).reverse = true := by
  rw [boostText_concat, List.reverse_append]
  rfl

theorem normalised_trimmed {text : Text} (plain : '\r' ∉ text) (unmarked : text.head? ≠ some '\ufeff')
    (first : text.head? ≠ some '\n') (last : text.getLast? ≠ some '\n') :
    normalised text = text ++ ['\n'] := by
  obtain ⟨lead, trail, whole, _, _⟩ := trimNewlines_spec text
  have noLead : lead = 0 := by
    by_contra some
    apply first
    rw [whole]
    simp [some, List.head?_replicate]
  have noTrail : trail = 0 := by
    by_contra some
    apply last
    rw [whole]
    simp [some, List.getLast?_replicate]
  have trimmed : trimNewlines text = text := by simpa [noLead, noTrail] using whole.symm
  rw [normalised_unmarked unmarked, Text.unifyNewlines_of_none plain, trimmed]

theorem normalised_line {line : Text} (solid : '\n' ∉ line) (plain : '\r' ∉ line)
    (unmarked : line.head? ≠ some '\ufeff') : normalised line = line ++ ['\n'] :=
  normalised_trimmed plain unmarked (fun first => solid (List.mem_of_head? first))
    fun last => solid (List.mem_of_getLast? last)

theorem construct?_lineEnd (before rest : Text) : construct? before ('\n' :: rest) = none := by
  unfold construct?
  split
  · rfl
  · split <;> rfl

theorem scanFrom_lineEnd (before : Text) : scanFrom 0 before ['\n'] = [⟨.plain, ['\n']⟩] := by
  simp only [scanFrom, matchAt, construct?_lineEnd, Option.getD_none, List.append_nil]

theorem tokens_append (first second : List Token) :
    tokens (first ++ second) = tokens first ++ tokens second :=
  List.filter_append first second

theorem scanFrom_body {before body : Text} {found : Match} {parts : List Token}
    (read : construct? before (body ++ ['\n']) = some found) (cut : found.groups = tokens parts)
    (whole : lexemes parts = body) :
    scanFrom 0 before (body ++ ['\n']) = tokens (parts ++ [⟨.plain, ['\n']⟩]) := by
  have spelled : lexemes found.groups = body := by rw [cut, lexemes_tokens, whole]
  rw [scanFrom_construct read spelled, scanFrom_lineEnd, cut, tokens_append]
  rfl

theorem body_solid {line : Text} (solid : '\n' ∉ line) : '\n' ∉ (splitBoosts line).2 := by
  rw [(splitBoosts_spec line).1] at solid
  exact fun member => solid (List.mem_append_right _ member)

/-- The places up to the end of the leading boosts. There is one if there are boosts, and they are
read there as one token. -/
theorem places_boosts {line : Text} (solid : '\n' ∉ line) :
    ∃ marks, placesFrom 0 [] (line ++ ['\n']) =
        marks ++ placesFrom 0 (boostText (splitBoosts line).1).reverse ((splitBoosts line).2 ++ ['\n']) ∧
      (∀ place ∈ marks, place.left = []) ∧
      marks.flatMap Place.found = tokens [⟨.boost, boostText (splitBoosts line).1⟩] := by
  have whole := (splitBoosts_spec line).1
  have marks := leadingBoosts_eq line
  generalize (splitBoosts line).1 = boosts at whole marks ⊢
  generalize (splitBoosts line).2 = body at whole ⊢
  cases boosts with
  | zero =>
      have same : line = body := whole
      refine ⟨[], ?_, by simp, rfl⟩
      rw [same]
      rfl
  | succ count =>
      have read : construct? [] (line ++ ['\n']) =
          some ⟨(boostText (count + 1)).length, [⟨.boost, boostText (count + 1)⟩]⟩ := by
        rw [construct?_withinLine [] line solid]
        simp only [construct?, atLineStart, if_true, boosts?, marks]
        rfl
      rw [whole, List.append_assoc] at read ⊢
      obtain ⟨place, start, found, listed⟩ := placesFrom_construct read (by simp)
      refine ⟨[place], ?_, ?_, ?_⟩
      · rw [listed, List.append_nil, List.singleton_append]
      · simp [Place.left, start]
      · simp [found, tokens, boostText]

theorem scanFrom_boosts {line : Text} (solid : '\n' ∉ line) :
    scanFrom 0 [] (line ++ ['\n']) = tokens [⟨.boost, boostText (splitBoosts line).1⟩] ++
      scanFrom 0 (boostText (splitBoosts line).1).reverse ((splitBoosts line).2 ++ ['\n']) := by
  obtain ⟨marks, listed, _, found⟩ := places_boosts solid
  rw [scanFrom_eq_places, listed, List.flatMap_append, found, ← scanFrom_eq_places]

/-- Behind the boosts of a line, or at its start when it has none, the rules are tried on its body. -/
theorem construct?_body {line : Text} (solid : '\n' ∉ line) :
    construct? (boostText (splitBoosts line).1).reverse ((splitBoosts line).2 ++ ['\n']) =
      firstRule? (splitBoosts line).2 := by
  rw [construct?_withinLine _ _ (body_solid solid)]
  have whole := (splitBoosts_spec line).1
  have marks := leadingBoosts_eq line
  generalize (splitBoosts line).1 = boosts at whole marks ⊢
  generalize (splitBoosts line).2 = body at whole ⊢
  cases boosts with
  | zero =>
      have same : line = body := whole
      rw [same] at marks
      have unboosted : boosts? body = none := by
        rw [boosts?, marks]
        rfl
      simp only [construct?, boostText, List.replicate_zero, List.flatten_nil, List.reverse_nil,
        atLineStart, if_true, unboosted]
  | succ count =>
      -- a line feed does not end the boosts, so the second way to start a construct is taken
      simp only [construct?, atLineStart_boosts, afterBoost_boosts, if_true, Bool.false_eq_true,
        if_false]

/-- The tokens of a whole line: its boosts, the parts of its body and its end. -/
def lineTokens (boosts : Nat) (parts : List Token) : List Token :=
  tokens (⟨.boost, boostText boosts⟩ :: (parts ++ [⟨.plain, ['\n']⟩]))

/-- The first rule that fits takes the whole body, and these are its parts. -/
structure Classified (body : Text) (parts : List Token) : Prop where
  fits : (firstRule? body).map Match.groups = some (tokens parts)
  whole : lexemes parts = body

theorem scan_line {line : Text} {parts : List Token} (solid : '\n' ∉ line) (plain : '\r' ∉ line)
    (unmarked : line.head? ≠ some '\ufeff') (classified : Classified (splitBoosts line).2 parts) :
    scan line = lineTokens (splitBoosts line).1 parts := by
  obtain ⟨fits, whole⟩ := classified
  obtain ⟨found, fits, cut⟩ := Option.map_eq_some_iff.mp fits
  have read := (construct?_body solid).trans fits
  rw [scan, normalised_line solid plain unmarked, scanFrom_boosts solid, scanFrom_body read cut whole,
    ← tokens_append]
  rfl

variable {body : Text}

theorem firstRule?_eq (body : Text) :
    firstRule? body = (label? body).or ((comment? body).or ((narration? body).or ((speech? body).or
      ((characterAlias? body).or ((verbatim? body).or (instruction? body)))))) := by
  have tried : ∀ (rule : Text → Option Match) (later : List (Text → Option Match)),
      (rule :: later).findSome? (fun rule => rule body) =
        (rule body).or (later.findSome? fun rule => rule body) := by
    intro rule later
    rw [List.findSome?_cons]
    cases rule body <;> rfl
  simp only [firstRule?, rules, tried, List.findSome?_nil, Option.or_none]

theorem label?_isSome_iff : (label? body).isSome = true ↔ [';', ';'] <+: body := by
  constructor
  · intro fits
    by_contra other
    simp [label?_eq_none other] at fits
  · rintro ⟨name, rfl⟩
    rfl

theorem comment?_isSome_iff : (comment? body).isSome = true ↔ ['#'] <+: body := by
  constructor
  · intro fits
    by_contra other
    simp [comment?_eq_none other] at fits
  · rintro ⟨rest, rfl⟩
    rfl

theorem characterAlias?_isSome_iff (solid : '\n' ∉ body) :
    (characterAlias? body).isSome = true ↔ [';'] <+: body ∧ ':' ∈ body := by
  by_cases opens : [';'] <+: body
  · obtain ⟨rest, rfl⟩ := opens
    have inner : '\n' ∉ rest := by simpa using solid
    rw [List.singleton_append, characterAlias?, restOfLine_solid inner, Option.isSome_map,
      Option.isSome_iff_ne_none, Ne, Text.cut?_eq_none_iff, not_not]
    simp
  · simp [characterAlias?_eq_none opens, opens]

theorem verbatim?_isSome_iff : (verbatim? body).isSome = true ↔ [':'] <+: body := by
  constructor
  · intro fits
    by_contra other
    simp [verbatim?_eq_none other] at fits
  · rintro ⟨content, rfl⟩
    rfl

theorem instruction?_isSome_iff : (instruction? body).isSome = true ↔ ['$'] <+: body := by
  constructor
  · intro fits
    by_contra other
    simp [instruction?_eq_none other] at fits
  · rintro ⟨rest, rfl⟩
    rfl

theorem speech?_eq_none (plain : '「' ∉ body) : speech? body = none := by
  have clear : '「' ∉ restOfLine body := fun member => plain ((restOfLine_begins body).mem member)
  rw [speech?, Text.cut?_eq_none_iff.mpr clear]

theorem label_classified {name : Text} (solid : '\n' ∉ ';' :: ';' :: name) :
    Classified (';' :: ';' :: name) [⟨.punctuation, [';', ';']⟩, ⟨.label, name⟩] := by
  refine ⟨?_, by simp⟩
  rw [firstRule?_eq, label?, restOfLine_solid (by simpa using solid)]
  rfl

theorem comment_classified {rest : Text} (solid : '\n' ∉ '#' :: rest) :
    Classified ('#' :: rest) [⟨.comment, '#' :: rest⟩] := by
  refine ⟨?_, by simp⟩
  rw [firstRule?_eq, comment?, restOfLine_solid (by simpa using solid)]
  rfl

theorem narration_classified {message : Text} (solid : '\n' ∉ '「' :: (message ++ ['」'])) :
    Classified ('「' :: (message ++ ['」']))
      [⟨.punctuation, ['「']⟩, ⟨.dialogue, message⟩, ⟨.punctuation, ['」']⟩] := by
  have closed : beforeLastClosing? (message ++ ['」']) = some message :=
    beforeLastClosing?_append List.not_mem_nil message
  refine ⟨?_, by simp⟩
  rw [firstRule?_eq, narration?, restOfLine_solid (by simpa using solid), closed]
  rfl

theorem speech_classified {speaker message : Text}
    (solid : '\n' ∉ speaker ++ '「' :: (message ++ ['」'])) (outside : '「' ∉ speaker) (nonempty : speaker ≠ [])
    (label : ¬ [';', ';'] <+: speaker ++ '「' :: (message ++ ['」']))
    (comment : ¬ ['#'] <+: speaker ++ '「' :: (message ++ ['」'])) :
    Classified (speaker ++ '「' :: (message ++ ['」']))
      [⟨.speaker, speaker⟩, ⟨.punctuation, ['「']⟩, ⟨.dialogue, message⟩, ⟨.punctuation, ['」']⟩] := by
  have closed : beforeLastClosing? (message ++ ['」']) = some message :=
    beforeLastClosing?_append List.not_mem_nil message
  obtain ⟨c, rest, rfl⟩ := List.exists_cons_of_ne_nil nonempty
  have narrates : narration? (c :: rest ++ '「' :: (message ++ ['」'])) = none := by
    apply narration?_eq_none
    intro opens
    exact outside (by simp [← (List.cons_prefix_cons.mp opens).1])
  refine ⟨?_, by simp⟩
  rw [firstRule?_eq, label?_eq_none label, comment?_eq_none comment, narrates, speech?,
    restOfLine_solid solid, Text.cut?_split outside]
  simp only [closed]
  rfl

theorem firstRule?_plain (label : ¬ [';', ';'] <+: body) (comment : ¬ ['#'] <+: body)
    (plain : '「' ∉ body) :
    firstRule? body = (characterAlias? body).or ((verbatim? body).or (instruction? body)) := by
  have outside : ¬ ['「'] <+: body := fun opens => plain (opens.mem List.mem_cons_self)
  rw [firstRule?_eq, label?_eq_none label, comment?_eq_none comment, narration?_eq_none outside,
    speech?_eq_none plain, Option.none_or, Option.none_or, Option.none_or, Option.none_or]

theorem characterAlias_classified {name shown : Text} (solid : '\n' ∉ ';' :: (name ++ ':' :: shown))
    (label : ¬ [';', ';'] <+: ';' :: (name ++ ':' :: shown))
    (plain : '「' ∉ ';' :: (name ++ ':' :: shown)) (outside : ':' ∉ name) :
    Classified (';' :: (name ++ ':' :: shown))
      [⟨.punctuation, [';']⟩, ⟨.characterAlias, name⟩, ⟨.punctuation, [':']⟩, ⟨.shownName, shown⟩] := by
  refine ⟨?_, by simp⟩
  rw [firstRule?_plain label (by simp) plain, characterAlias?,
    restOfLine_solid (by simpa using solid), Text.cut?_split outside]
  rfl

theorem verbatim_classified {content : Text} (solid : '\n' ∉ ':' :: content) (plain : '「' ∉ content) :
    Classified (':' :: content) [⟨.punctuation, [':']⟩, ⟨.verbatim, content⟩] := by
  refine ⟨?_, by simp⟩
  rw [firstRule?_plain (by simp) (by simp) (by simpa using plain), verbatim?,
    restOfLine_solid (by simpa using solid)]
  rfl

theorem instruction_classified {text : Text} (solid : '\n' ∉ '$' :: text) (plain : '「' ∉ text) :
    Classified ('$' :: text) [⟨.punctuation, ['$']⟩, ⟨.command, text.takeWhile Text.isWordChar⟩,
      ⟨.arguments, text.dropWhile Text.isWordChar⟩] := by
  have inner : '\n' ∉ text.dropWhile Text.isWordChar :=
    fun member => solid (List.mem_cons_of_mem _ ((List.dropWhile_suffix _).mem member))
  refine ⟨?_, by simp⟩
  rw [firstRule?_plain (by simp) (by simp) (by simpa using plain), instruction?, restOfLine_solid inner]
  rfl

theorem narration_of_closed {body : Text} (closed : body.getLast? = some '」')
    (starts : body.head? = some '「') :
    body = '「' :: (body.tail.dropLast ++ ['」']) ∧
      Dialogue.ofLine body = .ok (.narration body.tail.dropLast) := by
  obtain ⟨front, rfl⟩ := List.getLast?_eq_some_iff.mp closed
  cases front with
  | nil => exact absurd (Option.some.inj starts) (by decide)
  | cons c message =>
      obtain rfl : c = '「' := Option.some.inj starts
      have inside : ('「' :: message ++ ['」']).tail.dropLast = message := List.dropLast_concat
      refine ⟨?_, Dialogue.ofLine_narration_iff.mpr ⟨by simp, by simp, rfl⟩⟩
      rw [inside]
      rfl

theorem speech_of_closed {body : Text} (bracket : '「' ∈ body) (closed : body.getLast? = some '」')
    (outside : body.head? ≠ some '「') :
    ∃ speaker message, body = speaker ++ '「' :: (message ++ ['」']) ∧ '「' ∉ speaker ∧ speaker ≠ [] ∧
      Dialogue.ofLine body = .ok (.speech speaker message) := by
  obtain ⟨front, rfl⟩ := List.getLast?_eq_some_iff.mp closed
  have opened : '「' ∈ front := by simpa using bracket
  cases cut : Text.cut? '「' front with
  | none => exact absurd opened (Text.cut?_eq_none_iff.mp cut)
  | some halves =>
      obtain ⟨speaker, message⟩ := halves
      obtain ⟨rfl, clear⟩ := Text.cut?_eq_some cut
      have nonempty : speaker ≠ [] := by
        rintro rfl
        exact outside rfl
      rw [List.append_assoc, List.cons_append]
      exact ⟨speaker, message, rfl, clear, nonempty, Dialogue.ofLine_speech nonempty clear message⟩

theorem alias_of_colon {rest : Text} (colon : ':' ∈ rest) :
    ∃ given, CharacterAlias.ofLine (';' :: rest) = .ok given ∧
      rest = given.name ++ ':' :: given.shown ∧ ':' ∉ given.name := by
  cases read : CharacterAlias.ofLine (';' :: rest) with
  | ok given => exact ⟨given, rfl, CharacterAlias.ofLine_eq_ok read⟩
  | error problem =>
      cases problem with
      | uncut => exact absurd read (CharacterAlias.ofLine_cuts rest)
      | malformed =>
          unfold CharacterAlias.ofLine at read
          rw [if_pos (by simpa using colon)] at read
          split at read <;> cases read

/-- A line is coloured as it is compiled. Behind the boosts, and before the end of the line, stand
the parts of the construct that the compiler takes the body for, with a part left out where it is
empty. -/
theorem scan_reads_as_compiled {line body : Text} {boosts : Nat} (solid : '\n' ∉ line)
    (plain : '\r' ∉ line) (unmarked : line.head? ≠ some '\ufeff')
    (split : splitBoosts line = (boosts, body)) :
    (line = boostText boosts ++ body ∧ ¬ "%in%".toList <+: body) ∧
    (∀ name, Directive.ofLine body = .label name →
      name = body.drop 2 ∧
        scan line = lineTokens boosts [⟨.punctuation, [';', ';']⟩, ⟨.label, name⟩]) ∧
    (∀ found, Directive.ofLine body = .comment found →
      scan line = lineTokens boosts [⟨.comment, body⟩]) ∧
    (∀ found, Directive.ofLine body = .dialogue found → body.getLast? = some '」' →
      (body.head? = some '「' →
        Dialogue.ofLine found = .ok (.narration body.tail.dropLast) ∧
          scan line = lineTokens boosts [⟨.punctuation, ['「']⟩, ⟨.dialogue, body.tail.dropLast⟩,
            ⟨.punctuation, ['」']⟩]) ∧
      (body.head? ≠ some '「' →
        ∃ speaker message, Dialogue.ofLine found = .ok (.speech speaker message) ∧
          scan line = lineTokens boosts [⟨.speaker, speaker⟩, ⟨.punctuation, ['「']⟩,
            ⟨.dialogue, message⟩, ⟨.punctuation, ['」']⟩])) ∧
    (∀ found, Directive.ofLine body = .aliasing found → ':' ∈ body →
      ∃ given, CharacterAlias.ofLine found = .ok given ∧
        scan line = lineTokens boosts [⟨.punctuation, [';']⟩, ⟨.characterAlias, given.name⟩,
          ⟨.punctuation, [':']⟩, ⟨.shownName, given.shown⟩]) ∧
    (∀ content, Directive.ofLine body = .verbatim content →
      content = body.tail ∧
        scan line = lineTokens boosts [⟨.punctuation, [':']⟩, ⟨.verbatim, content⟩]) ∧
    (∀ text, Directive.ofLine body = .instruction text →
      ∃ command rest, command ++ rest = body.tail ∧ (∀ c ∈ command, Text.isWordChar c = true) ∧
        (∀ c ∈ rest.head?, Text.isWordChar c = false) ∧
        scan line = lineTokens boosts [⟨.punctuation, ['$']⟩, ⟨.command, command⟩,
          ⟨.arguments, rest⟩]) := by
  have parted := splitBoosts_spec line
  have scanned : ∀ parts, Classified body parts → scan line = lineTokens boosts parts := by
    intro parts classified
    have aligned : Classified (splitBoosts line).2 parts := by
      rw [split]
      exact classified
    rw [scan_line solid plain unmarked aligned, split]
  have inner := body_solid solid
  rw [split] at parted inner
  refine ⟨parted, ?_, ?_, ?_, ?_, ?_, ?_⟩
  · intro name read
    obtain rfl := Directive.label_ofLine read
    exact ⟨rfl, scanned _ (label_classified inner)⟩
  · intro found read
    obtain ⟨_, rest, rfl⟩ := Directive.comment_ofLine read
    exact scanned _ (comment_classified inner)
  · intro found read closed
    obtain ⟨same, bracket, label, comment⟩ := Directive.dialogue_ofLine read
    rw [same]
    refine ⟨?_, ?_⟩
    · intro starts
      obtain ⟨whole, dialogue⟩ := narration_of_closed closed starts
      refine ⟨dialogue, scanned _ ?_⟩
      have classified := narration_classified (whole ▸ inner)
      rwa [← whole] at classified
    · intro outside
      obtain ⟨speaker, message, rfl, clear, nonempty, dialogue⟩ :=
        speech_of_closed bracket closed outside
      exact ⟨speaker, message, dialogue, scanned _ (speech_classified inner clear nonempty label comment)⟩
  · intro found read colon
    have label := Directive.aliasing_unlabelled read
    have clear := Directive.plain_of_ofLine (.inl read)
    obtain ⟨rest, rfl, rfl⟩ := Directive.aliasing_ofLine read
    obtain ⟨given, stored, rfl, outside⟩ := alias_of_colon (by simpa using colon)
    exact ⟨given, stored, scanned _ (characterAlias_classified inner label clear outside)⟩
  · intro content read
    obtain ⟨rfl, clear⟩ := Directive.verbatim_ofLine read
    exact ⟨rfl, scanned _ (verbatim_classified inner clear)⟩
  · intro text read
    have clear := Directive.plain_of_ofLine (.inr read)
    obtain rfl := Directive.instruction_ofLine read
    refine ⟨_, _, List.takeWhile_append_dropWhile, ?_, ?_, scanned _ (instruction_classified inner clear)⟩
    · intro c member
      exact List.mem_takeWhile_imp member
    · intro c first
      have stopped := List.head?_dropWhile_not Text.isWordChar ('$' :: text).tail
      rw [Option.mem_def.mp first] at stopped
      exact stopped

/-- The line begins like an alias and closes a bracket twice: it is dialogue, of a speaker whose
name begins with the semicolon. -/
theorem scan_reads_as_compiled_semicolon :
    Dialogue.ofLine ";A「b」c」".toList = .ok (.speech ";A".toList "b」c".toList) ∧
      scan "%in%;A「b」c」".toList =
        [⟨.boost, "%in%".toList⟩, ⟨.speaker, ";A".toList⟩, ⟨.punctuation, ['「']⟩,
          ⟨.dialogue, "b」c".toList⟩, ⟨.punctuation, ['」']⟩, ⟨.plain, ['\n']⟩] := by
  have read : Directive.ofLine ";A「b」c」".toList = .dialogue ";A「b」c」".toList := by decide
  have spoken : Dialogue.ofLine ";A「b」c」".toList = .ok (.speech ";A".toList "b」c".toList) := by decide
  have split : splitBoosts "%in%;A「b」c」".toList = (1, ";A「b」c」".toList) := by decide
  have agreed := scan_reads_as_compiled (by decide) (by decide) (by decide) split
  obtain ⟨speaker, message, dialogue, scanned⟩ := (agreed.2.2.2.1 _ read (by decide)).2 (by decide)
  rw [spoken] at dialogue
  cases dialogue
  exact ⟨spoken, scanned⟩

end Highlight

end SceneNotation
