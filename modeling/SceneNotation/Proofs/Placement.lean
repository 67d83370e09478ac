import SceneNotation.Proofs.LineTokens

/- A construct is meant to start a line, possibly behind boosts. The scan keeps no
   note of whether one may still start: it looks back for a boost that ends where it
   stands, and a boost in the middle of a line will do. So the constructs of a line
   stand in front of it unless such a stray boost, outside the construct in front,
   has the beginning of a label, a comment, an alias, a verbatim line or an
   instruction right behind it. Dialogue is never found there. -/
namespace SceneNotation

namespace Highlight

/-- The first rule that fits here is a construct's, so that of boosts does not. -/
def Place.StartsConstruct (place : Place) : Prop :=
  boostRule place.before place.rest = none ∧
    ∃ rule ∈ rules, (constructRule rule place.before place.rest).isSome = true

instance (place : Place) : Decidable place.StartsConstruct :=
  inferInstanceAs (Decidable (_ ∧ _))

theorem Place.startsConstruct_iff {place : Place} :
    place.StartsConstruct ↔
      boostRule place.before place.rest = none ∧ (construct? place.before place.rest).isSome = true := by
  refine and_congr_right fun unboosted => ?_
  rw [← constructRules_first, constructRules, List.findSome?_cons, unboosted, List.findSome?_isSome_iff]
  simp only [List.mem_map, exists_exists_and_eq_and]

/-- How those constructs begin that take up the rest of their line. -/
def OpensBare (text : Text) : Prop :=
  [';', ';'] <+: text ∨ ['#'] <+: text ∨ ([';'] <+: text ∧ ':' ∈ text) ∨ [':'] <+: text ∨ ['$'] <+: text

/-- An opening bracket, and a closing one somewhere behind it. -/
def Bracketed (text : Text) : Prop :=
  ∃ outside inside after, text = outside ++ '「' :: (inside ++ '」' :: after)

theorem Bracketed.append_left {text : Text} (bracketed : Bracketed text) (earlier : Text) :
    Bracketed (earlier ++ text) := by
  obtain ⟨outside, inside, after, rfl⟩ := bracketed
  exact ⟨earlier ++ outside, inside, after, (List.append_assoc _ _ _).symm⟩

section Rules

variable {text : Text}

theorem beforeLastClosing?_isSome_iff : (beforeLastClosing? text).isSome = true ↔ '」' ∈ text := by
  rw [Option.isSome_iff_ne_none, Ne, beforeLastClosing?_eq_none_iff, not_not]

theorem bracketed_iff_cut :
    Bracketed text ↔ ∃ outside rest, Text.cut? '「' text = some (outside, rest) ∧ '」' ∈ rest := by
  constructor
  · rintro ⟨outside, inside, after, rfl⟩
    cases cut : Text.cut? '「' (outside ++ '「' :: (inside ++ '」' :: after)) with
    | none => exact absurd (by simp) (Text.cut?_eq_none_iff.mp cut)
    | some halves =>
        obtain ⟨first, rest⟩ := halves
        obtain ⟨split, clear⟩ := Text.cut?_eq_some cut
        refine ⟨first, rest, rfl, ?_⟩
        -- the first opening bracket is this one or stands before it, as `first` has none
        rcases List.append_eq_append_iff.mp split with ⟨between, rfl, later⟩ | ⟨between, rfl, later⟩
        · cases between with
          | nil =>
              obtain rfl := (List.cons.inj later).2
              simp
          | cons c others =>
              obtain ⟨rfl, _⟩ := List.cons.inj later
              exact absurd (by simp) clear
        · cases between with
          | nil =>
              obtain rfl := (List.cons.inj later).2
              simp
          | cons c others =>
              obtain rfl := (List.cons.inj later).2
              simp
  · rintro ⟨outside, rest, cut, closed⟩
    obtain ⟨rfl, _⟩ := Text.cut?_eq_some cut
    obtain ⟨inside, after, rfl⟩ := List.append_of_mem closed
    exact ⟨outside, inside, after, rfl⟩

theorem dialogue_isSome_iff (solid : '\n' ∉ text) :
    (narration? text).isSome = true ∨ (speech? text).isSome = true ↔ Bracketed text := by
  rw [bracketed_iff_cut, speech?, restOfLine_solid solid]
  cases text with
  | nil => simp [narration?, Text.cut?]
  | cons c rest =>
      have inner := restOfLine_solid (List.not_mem_of_not_mem_cons solid)
      by_cases opens : c = '「'
      · subst opens
        simp [narration?, inner, Text.cut?, beforeLastClosing?_isSome_iff]
      · cases cut : Text.cut? '「' rest with
        | none => simp [narration?, Text.cut?, opens, cut]
        | some halves => simp [narration?, Text.cut?, opens, cut, beforeLastClosing?_isSome_iff]

theorem firstRule?_isSome_iff (solid : '\n' ∉ text) :
    (firstRule? text).isSome = true ↔ OpensBare text ∨ Bracketed text := by
  simp only [firstRule?_eq, Option.isSome_or, Bool.or_eq_true, label?_isSome_iff, comment?_isSome_iff,
    characterAlias?_isSome_iff solid, verbatim?_isSome_iff, instruction?_isSome_iff,
    ← dialogue_isSome_iff solid, OpensBare]
  tauto

theorem firstRule?_unknown (solid : '\n' ∉ text) (unknown : Directive.ofLine text = .unknown) :
    firstRule? text = none := by
  obtain ⟨plain, begins⟩ := Directive.ofLine_unknown_iff.mp unknown
  rw [← Option.not_isSome_iff_eq_none, firstRule?_isSome_iff solid]
  rintro (bare | ⟨outside, inside, after, rfl⟩)
  · rcases bare with ⟨rest, rfl⟩ | ⟨rest, rfl⟩ | ⟨⟨rest, rfl⟩, _⟩ | ⟨rest, rfl⟩ | ⟨rest, rfl⟩ <;>
      simp at begins
  · simp at plain

/-- What all constructs have in common: none of their tokens is plain or a boost, and what they leave
of the line has no closing bracket. Dialogue ends with the last one, and the others leave nothing. -/
structure Construct (found : Match) (line : Text) : Prop where
  coloured : ∀ token ∈ found.groups, token.kind ≠ .boost ∧ token.kind ≠ .plain
  closed : ∃ after, line = lexemes found.groups ++ after ∧ '」' ∉ after

variable {found : Match}

theorem Construct.of_parts {parts : List Token} {after : Text} {extent : Nat}
    (coloured : ∀ token ∈ parts, token.kind ≠ .boost ∧ token.kind ≠ .plain)
    (split : text = lexemes parts ++ after) (last : '」' ∉ after) :
    Construct ⟨extent, tokens parts⟩ text where
  coloured := fun token kept => coloured token (List.mem_of_mem_filter kept)
  closed := ⟨after, by rwa [lexemes_tokens], last⟩

theorem rules_construct {rule : Text → Option Match} (listed : rule ∈ rules) (solid : '\n' ∉ text)
    (fits : rule text = some found) : Construct found text := by
  simp only [rules, List.mem_cons, List.not_mem_nil, or_false] at listed
  rcases listed with rfl | rfl | rfl | rfl | rfl | rfl | rfl
  · unfold label? at fits
    split at fits <;> cases fits
    exact .of_parts (by simp) (by simp [restOfLine_solid (by simpa using solid)]) List.not_mem_nil
  · unfold comment? at fits
    split at fits <;> cases fits
    exact ⟨by simp, [], by simp [restOfLine_solid (by simpa using solid)], List.not_mem_nil⟩
  · unfold narration? at fits
    split at fits
    · rw [restOfLine_solid (by simpa using solid)] at fits
      obtain ⟨message, closed, rfl⟩ := Option.map_eq_some_iff.mp fits
      obtain ⟨after, rfl, last⟩ := beforeLastClosing?_split closed
      exact .of_parts (by simp) (by simp) last
    · cases fits
  · unfold speech? at fits
    rw [restOfLine_solid solid] at fits
    split at fits
    · next cut =>
        obtain ⟨message, closed, rfl⟩ := Option.map_eq_some_iff.mp fits
        obtain ⟨after, rfl, last⟩ := beforeLastClosing?_split closed
        rw [(Text.cut?_eq_some cut).1]
        exact .of_parts (by simp) (by simp) last
    · cases fits
  · unfold characterAlias? at fits
    split at fits
    · rw [restOfLine_solid (by simpa using solid)] at fits
      obtain ⟨halves, cut, rfl⟩ := Option.map_eq_some_iff.mp fits
      rw [(Text.cut?_eq_some cut).1]
      exact .of_parts (by simp) (by simp) List.not_mem_nil
    · cases fits
  · unfold verbatim? at fits
    split at fits <;> cases fits
    exact .of_parts (by simp) (by simp [restOfLine_solid (by simpa using solid)]) List.not_mem_nil
  · unfold instruction? at fits
    split at fits
    · next rest =>
        cases fits
        have inner : '\n' ∉ rest.dropWhile Text.isWordChar :=
          fun member => solid (List.mem_cons_of_mem _ ((List.dropWhile_suffix _).mem member))
        exact .of_parts (by simp) (by simp [restOfLine_solid inner]) List.not_mem_nil
    · cases fits

theorem firstRule?_construct (solid : '\n' ∉ text) (fits : firstRule? text = some found) :
    Construct found text := by
  obtain ⟨rule, listed, taken⟩ := List.exists_of_findSome?_eq_some fits
  exact rules_construct listed solid taken

/-- The tokens of the construct that a text begins with, if it begins with one. -/
def firstTokens (text : Text) : List Token :=
  ((firstRule? text).map Match.groups).getD []

theorem firstTokens_of_none (unread : firstRule? text = none) : firstTokens text = [] := by
  rw [firstTokens, unread, Option.map_none, Option.getD_none]

theorem firstTokens_of_some (fits : firstRule? text = some found) : firstTokens text = found.groups := by
  rw [firstTokens, fits, Option.map_some, Option.getD_some]

/-- Behind the construct that a text begins with, or anywhere if it begins with none, no bracket is
opened and closed. -/
theorem not_bracketed_behind {earlier rest : Text} (solid : '\n' ∉ text)
    (split : text = lexemes (firstTokens text) ++ (earlier ++ rest)) : ¬ Bracketed rest := by
  intro bracketed
  have whole := bracketed.append_left earlier
  cases fits : firstRule? text with
  | none =>
      have same : text = earlier ++ rest := by simpa [firstTokens_of_none fits] using split
      have taken := (firstRule?_isSome_iff solid).mpr (.inr (same ▸ whole))
      rw [fits] at taken
      cases taken
  | some found =>
      obtain ⟨after, same, last⟩ := (firstRule?_construct solid fits).closed
      have left : earlier ++ rest = after := by
        rw [firstTokens_of_some fits] at split
        exact List.append_cancel_left (split.symm.trans same)
      obtain ⟨outside, inside, final, spelled⟩ := whole
      rw [← left, spelled] at last
      simp at last

end Rules

/-- What is read in front of a line: its boosts, and the construct that starts right behind them. -/
def frontText (line : Text) : Text :=
  boostText (splitBoosts line).1 ++ lexemes (firstTokens (splitBoosts line).2)

/-- A boost that is none of those in front and not part of the construct there, with the beginning
of a construct right behind it. -/
structure Stray (line left rest : Text) : Prop where
  split : line = left ++ rest
  boosted : "%in%".toList <:+ left
  behind : frontText line <+: left
  inner : left ≠ boostText (splitBoosts line).1
  opens : OpensBare rest

section Line

variable {line left rest : Text}

theorem frontText_begins (line : Text) : frontText line <+: line := by
  obtain ⟨whole, _⟩ := splitBoosts_spec line
  conv => rhs; rw [whole]
  rw [frontText, List.prefix_append_right_inj]
  cases fits : firstRule? (splitBoosts line).2 with
  | none =>
      rw [firstTokens_of_none fits]
      exact List.nil_prefix
  | some found =>
      rw [firstTokens_of_some fits]
      exact (firstRule?_covers fits).spelled

theorem atLineStart_inner (solid : '\n' ∉ left) (read : left ≠ []) : atLineStart left.reverse = false := by
  cases reversed : left.reverse with
  | nil => exact absurd (List.reverse_eq_nil_iff.mp reversed) read
  | cons c earlier =>
      have member : c ∈ left := by
        rw [← List.mem_reverse, reversed]
        exact List.mem_cons_self
      have differs : c ≠ '\n' := ne_of_mem_of_not_mem member solid
      simpa [atLineStart] using differs

theorem afterBoost_reverse : afterBoost left.reverse = true ↔ "%in%".toList <:+ left := by
  rw [afterBoost_iff, ← List.reverse_prefix]
  rfl

/-- Where the front of a line ends with its boosts, no rule fits behind them. -/
theorem firstRule?_of_front (front : frontText line <+: boostText (splitBoosts line).1) :
    firstRule? (splitBoosts line).2 = none := by
  cases fits : firstRule? (splitBoosts line).2 with
  | none => rfl
  | some found =>
      have covers := firstRule?_covers fits
      have positive := covers.extent_pos
      have bounded := front.length_le
      rw [frontText, firstTokens_of_some fits, List.length_append, covers.measured] at bounded
      omega

theorem not_bracketed_behind_front (solid : '\n' ∉ line) (split : line = left ++ rest)
    (behind : frontText line <+: left) : ¬ Bracketed rest := by
  obtain ⟨between, same⟩ := behind
  have parts : boostText (splitBoosts line).1 ++ (splitBoosts line).2 =
      boostText (splitBoosts line).1 ++
        (lexemes (firstTokens (splitBoosts line).2) ++ (between ++ rest)) :=
    calc
      _ = left ++ rest := (splitBoosts_spec line).1.symm.trans split
      _ = frontText line ++ between ++ rest := by rw [same]
      _ = _ := by simp only [frontText, List.append_assoc]
  exact not_bracketed_behind (body_solid solid) (List.append_cancel_left parts)

/-- Behind what is read in front of a line, constructs start where a stray boost ends and nowhere
else. -/
theorem construct?_behind_iff (solid : '\n' ∉ line) (split : line = left ++ rest)
    (behind : frontText line <+: left) :
    (construct? left.reverse (rest ++ ['\n'])).isSome = true ↔ Stray line left rest := by
  by_cases atFront : left = boostText (splitBoosts line).1
  · -- nothing is read behind the boosts, so no rule fits there
    have body : rest = (splitBoosts line).2 := by
      rw [atFront] at split
      exact List.append_cancel_left (split.symm.trans (splitBoosts_spec line).1)
    rw [atFront, body, construct?_body solid, firstRule?_of_front (atFront ▸ behind)]
    constructor
    · intro impossible
      cases impossible
    · intro stray
      exact absurd rfl stray.inner
  · have read : left ≠ [] := by
      rintro rfl
      apply atFront
      exact (List.prefix_nil.mp ((List.prefix_append _ _).trans behind)).symm
    have leftSolid : '\n' ∉ left := fun member => solid (split ▸ List.mem_append_left rest member)
    have restSolid : '\n' ∉ rest := fun member => solid (split ▸ List.mem_append_right left member)
    have unbracketed := not_bracketed_behind_front solid split behind
    rw [construct?_withinLine _ rest restSolid]
    simp only [construct?, atLineStart_inner leftSolid read, Bool.false_eq_true, if_false]
    constructor
    · intro fits
      split at fits
      · next boosted =>
          have opens := ((firstRule?_isSome_iff restSolid).mp fits).resolve_right unbracketed
          exact ⟨split, afterBoost_reverse.mp boosted, behind, atFront, opens⟩
      · cases fits
    · intro stray
      rw [if_pos (afterBoost_reverse.mpr stray.boosted)]
      exact (firstRule?_isSome_iff restSolid).mpr (.inl stray.opens)

def plainTokens (text : Text) : List Token :=
  text.map fun c => ⟨.plain, [c]⟩

theorem placesFrom_unread {before cs : Text} {c : Char} (unread : construct? before (c :: cs) = none) :
    placesFrom 0 before (c :: cs) = ⟨before, c, cs⟩ :: placesFrom 0 (c :: before) cs := by
  rw [placesFrom, matchAt, unread]
  rfl

theorem scanFrom_unread {before cs : Text} {c : Char} (unread : construct? before (c :: cs) = none) :
    scanFrom 0 before (c :: cs) = ⟨.plain, [c]⟩ :: scanFrom 0 (c :: before) cs := by
  rw [scanFrom, matchAt, unread]
  rfl

theorem Place.not_startsConstruct {place : Place} (unread : construct? place.before place.rest = none) :
    ¬ place.StartsConstruct := by
  rw [startsConstruct_iff, unread]
  simp

/-- From here to the end of the line nothing but single characters is read, and no boost is stray. -/
structure PlainFrom (line left rest : Text) : Prop where
  scanned : scanFrom 0 left.reverse (rest ++ ['\n']) = plainTokens (rest ++ ['\n'])
  silent : ∀ place ∈ placesFrom 0 left.reverse (rest ++ ['\n']), ¬ place.StartsConstruct
  clear : ∀ further later, left <+: further → ¬ Stray line further later

theorem plainFrom_lineEnd (line : Text) : PlainFrom line line [] where
  scanned := scanFrom_lineEnd line.reverse
  silent := by
    intro place listed
    rw [List.nil_append, placesFrom_unread (construct?_lineEnd _ _), placesFrom,
      List.mem_singleton] at listed
    rw [listed]
    exact Place.not_startsConstruct (construct?_lineEnd _ _)
  clear := by
    rintro further later ⟨more, rfl⟩ stray
    have nothing : later = [] := by
      have counted := congrArg List.length stray.split
      simp only [List.length_append] at counted
      exact List.length_eq_zero_iff.mp (by omega)
    have opens := stray.opens
    simp [OpensBare, nothing] at opens

theorem PlainFrom.cons {c : Char} (split : line = left ++ c :: rest)
    (unread : construct? left.reverse (c :: (rest ++ ['\n'])) = none)
    (steady : ¬ Stray line left (c :: rest)) (later : PlainFrom line (left ++ [c]) rest) :
    PlainFrom line left (c :: rest) where
  scanned := by
    have scanned := later.scanned
    rw [List.reverse_concat] at scanned
    rw [List.cons_append, scanFrom_unread unread, scanned]
    rfl
  silent := by
    intro place listed
    rw [List.cons_append, placesFrom_unread unread] at listed
    rcases List.mem_cons.mp listed with rfl | listed
    · exact Place.not_startsConstruct unread
    · apply later.silent place
      rwa [List.reverse_concat]
  clear := by
    rintro further others ⟨more, rfl⟩ stray
    cases more with
    | nil =>
        have same : c :: rest = others := by
          have parts := split.symm.trans stray.split
          rw [List.append_nil] at parts
          exact List.append_cancel_left parts
        rw [List.append_nil, ← same] at stray
        exact steady stray
    | cons d more =>
        have same : c = d := by
          have parts := split.symm.trans stray.split
          rw [List.append_assoc] at parts
          exact (List.cons.inj (List.append_cancel_left parts)).1
        refine later.clear _ others ?_ stray
        rw [same]
        exact ⟨more, by simp⟩

/-- The scan behind the front of a line: it meets a stray boost, or there is none to meet. -/
theorem plainFrom_or_stray (solid : '\n' ∉ line) (split : line = left ++ rest)
    (behind : frontText line <+: left) :
    PlainFrom line left rest ∨
      ∃ place ∈ placesFrom 0 left.reverse (rest ++ ['\n']), place.StartsConstruct ∧
        ∃ later, Stray line place.left later := by
  -- each character is read by itself until a construct starts, so the first stray boost is met
  induction rest generalizing left with
  | nil =>
      left
      rw [List.append_nil] at split
      rw [← split]
      exact plainFrom_lineEnd line
  | cons c rest ih =>
      have starts := construct?_behind_iff solid split behind
      by_cases stray : Stray line left (c :: rest)
      · right
        -- a stray boost is not at the start of a line, so the rule of boosts has no part in this
        have leftSolid : '\n' ∉ left := fun member => solid (split ▸ List.mem_append_left _ member)
        have read : left ≠ [] := by
          rintro rfl
          exact absurd stray.boosted (by decide)
        refine ⟨⟨left.reverse, c, rest ++ ['\n']⟩, by simp [placesFrom], ?_, c :: rest, ?_⟩
        · refine Place.startsConstruct_iff.mpr ⟨?_, starts.mpr stray⟩
          simp [boostRule, guarded, atLineStart_inner leftSolid read]
        · simpa [Place.left] using stray
      · have unread : construct? left.reverse (c :: (rest ++ ['\n'])) = none := by
          simpa using starts.not.mpr stray
        rcases ih (by simpa using split) (behind.trans (List.prefix_append left [c])) with
          later | ⟨place, listed, met⟩
        · exact .inl (.cons split unread stray later)
        · refine .inr ⟨place, ?_, met⟩
          rw [List.reverse_concat] at listed
          rw [List.cons_append, placesFrom_unread unread]
          exact List.mem_cons_of_mem _ listed

/-- The places from the boosts to the end of the construct behind them. There is one if there is a
construct. -/
theorem places_construct (solid : '\n' ∉ line) (split : line = frontText line ++ rest) :
    ∃ taken, placesFrom 0 (boostText (splitBoosts line).1).reverse ((splitBoosts line).2 ++ ['\n']) =
        taken ++ placesFrom 0 (frontText line).reverse (rest ++ ['\n']) ∧
      (∀ place ∈ taken, place.left = boostText (splitBoosts line).1) ∧
      taken.flatMap Place.found = firstTokens (splitBoosts line).2 := by
  have read := construct?_body solid
  have body : (splitBoosts line).2 = lexemes (firstTokens (splitBoosts line).2) ++ rest := by
    have parts := (splitBoosts_spec line).1.symm.trans split
    rw [frontText, List.append_assoc] at parts
    exact List.append_cancel_left parts
  rw [frontText]
  cases fits : firstRule? (splitBoosts line).2 with
  | none =>
      rw [firstTokens_of_none fits] at body ⊢
      refine ⟨[], ?_, by simp, rfl⟩
      rw [body]
      simp
  | some found =>
      rw [firstTokens_of_some fits] at body ⊢
      rw [fits] at read
      have regrouped : (splitBoosts line).2 ++ ['\n'] = lexemes found.groups ++ (rest ++ ['\n']) := by
        rw [← List.append_assoc, ← body]
      rw [regrouped] at read ⊢
      obtain ⟨place, start, here, listed⟩ := placesFrom_construct read rfl
      refine ⟨[place], ?_, ?_, ?_⟩
      · rw [listed]
        simp
      · simp [Place.left, start]
      · simp [here]

theorem places_line (solid : '\n' ∉ line) (plain : '\r' ∉ line) (unmarked : line.head? ≠ some '\ufeff') :
    ∃ front rest, line = frontText line ++ rest ∧
      places line = front ++ placesFrom 0 (frontText line).reverse (rest ++ ['\n']) ∧
      (∀ place ∈ front, place.left = [] ∨ place.left = boostText (splitBoosts line).1) ∧
      front.flatMap Place.found = tokens [⟨.boost, boostText (splitBoosts line).1⟩] ++
        firstTokens (splitBoosts line).2 := by
  obtain ⟨rest, split⟩ := frontText_begins line
  obtain ⟨marks, first, atStart, boosts⟩ := places_boosts solid
  obtain ⟨taken, second, behindBoosts, construct⟩ := places_construct solid split.symm
  refine ⟨marks ++ taken, rest, split.symm, ?_, ?_, ?_⟩
  · rw [places, normalised_line solid plain unmarked, first, second, List.append_assoc]
  · intro place listed
    exact (List.mem_append.mp listed).imp (atStart place) (behindBoosts place)
  · rw [List.flatMap_append, boosts, construct]

theorem Place.StartsConstruct.coloured {place : Place} (starts : place.StartsConstruct) :
    ∃ token ∈ place.found, token.kind ≠ .boost ∧ token.kind ≠ .plain := by
  obtain ⟨unboosted, fits⟩ := startsConstruct_iff.mp starts
  obtain ⟨found, read⟩ := Option.isSome_iff_exists.mp fits
  have here : place.found = found.groups := by
    rw [Place.found, matchAt, ← Place.rest, read, Option.getD_some]
  obtain ⟨token, listed⟩ := List.exists_mem_of_ne_nil _ (construct?_covers read).present
  rw [← constructRules_first, constructRules, List.findSome?_cons, unboosted] at read
  obtain ⟨_, among, taken⟩ := List.exists_of_findSome?_eq_some read
  obtain ⟨rule, given, rfl⟩ := List.mem_map.mp among
  unfold constructRule guarded at taken
  split at taken
  · rw [← (rules_withinLine given).restOfLine] at taken
    rw [here]
    exact ⟨token, listed, (rules_construct given (feed_not_mem_restOfLine _) taken).coloured token listed⟩
  · cases taken

end Line

/-- Constructs stand in front of a line, at its start or right behind its leading boosts, exactly if
no boost of it is stray; a line that is no construct is then plain behind its boosts. A stray boost
always colours something. -/
theorem constructs_in_front_unless_stray {line body : Text} {boosts : Nat} (solid : '\n' ∉ line)
    (plain : '\r' ∉ line) (unmarked : line.head? ≠ some '\ufeff')
    (split : splitBoosts line = (boosts, body)) :
    scan line = (places line).flatMap Place.found ∧
    ((∀ place ∈ places line, place.StartsConstruct → place.left = [] ∨ place.left = boostText boosts) ↔
      ¬ ∃ left rest, Stray line left rest) ∧
    (Directive.ofLine body = .unknown → (¬ ∃ left rest, Stray line left rest) →
      scan line = tokens [⟨.boost, boostText boosts⟩] ++ plainTokens (body ++ ['\n'])) ∧
    ((∃ left rest, Stray line left rest) →
      ∃ token ∈ scan line, token.kind ≠ .boost ∧ token.kind ≠ .plain) := by
  have scanned : scan line = (places line).flatMap Place.found := scanFrom_eq_places 0 [] _
  obtain ⟨front, rest, parts, listed, inFront, read⟩ := places_line solid plain unmarked
  rw [split] at inFront read
  rcases plainFrom_or_stray solid parts (List.prefix_refl _) with
    quiet | ⟨place, member, starts, later, stray⟩
  · have none : ¬ ∃ left rest, Stray line left rest := by
      rintro ⟨left, later, stray⟩
      exact quiet.clear left later stray.behind stray
    refine ⟨scanned, ⟨fun _ => none, ?_⟩, ?_, fun stray => absurd stray none⟩
    · intro _ place member starts
      rw [listed] at member
      rcases List.mem_append.mp member with early | late
      · exact inFront place early
      · exact absurd starts (quiet.silent place late)
    · intro unknown _
      have inner := body_solid solid
      rw [split] at inner
      have unread := firstTokens_of_none (firstRule?_unknown inner unknown)
      have body : rest = body := by
        have whole := (splitBoosts_spec line).1.symm.trans parts
        simp only [frontText, split, unread, lexemes_nil, List.append_nil] at whole
        exact (List.append_cancel_left whole).symm
      rw [scanned, listed, List.flatMap_append, read, ← scanFrom_eq_places, quiet.scanned, unread, body,
        List.append_nil]
  · have found : place ∈ places line := listed ▸ List.mem_append_right front member
    have some : ∃ left rest, Stray line left rest := ⟨_, later, stray⟩
    refine ⟨scanned, ⟨?_, fun none => absurd some none⟩, fun _ none => absurd some none, fun _ => ?_⟩
    · intro placed
      rcases placed place found starts with atStart | behindBoosts
      · have boosted := stray.boosted
        rw [atStart] at boosted
        exact absurd boosted (by decide)
      · apply absurd behindBoosts
        have inner := stray.inner
        rwa [split] at inner
    · obtain ⟨token, given, coloured⟩ := starts.coloured
      exact ⟨token, scanned ▸ List.mem_flatMap.mpr ⟨place, found, given⟩, coloured⟩

/-- The second boost ends where an alias would start, but the alias has no colon: nothing is stray. -/
theorem constructs_in_front_half_alias :
    Directive.ofLine "x%in%;y".toList = .unknown ∧
      (¬ ∃ left rest, Stray "%in%x%in%;y".toList left rest) ∧
      scan "%in%x%in%;y".toList = ⟨.boost, "%in%".toList⟩ :: plainTokens "x%in%;y\n".toList := by
  have unknown : Directive.ofLine "x%in%;y".toList = .unknown := by decide
  have split : splitBoosts "%in%x%in%;y".toList = (1, "x%in%;y".toList) := by decide
  have placed := constructs_in_front_unless_stray (by decide) (by decide) (by decide) split
  have none := placed.2.1.mp (by decide)
  exact ⟨unknown, none, placed.2.2.1 unknown none⟩

/-- A comment starts in the middle of a line that is no construct, behind a boost that is not in
front. -/
theorem comment_behind_stray_boost :
    splitBoosts "x%in%#y".toList = (0, "x%in%#y".toList) ∧
      Directive.ofLine "x%in%#y".toList = .unknown ∧
      (∃ place ∈ places "x%in%#y".toList, place.StartsConstruct ∧ place.left = "x%in%".toList) ∧
      ⟨.comment, "#y".toList⟩ ∈ scan "x%in%#y".toList := by
  decide

end Highlight

end SceneNotation
