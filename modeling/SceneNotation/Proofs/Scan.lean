import Mathlib.Data.List.TakeWhile
import SceneNotation.Highlight.Token
import SceneNotation.Proofs.Notation

/- Whatever rule fits, its groups spell out the characters that it takes, in order
   and without a gap, and none of them is empty. The scan therefore loses no
   character and adds none. No rule looks past the end of its line or takes it, and
   one of the rules fits at every place, because the last two take any single
   character. -/
namespace SceneNotation.Highlight

/-- The characters that tokens stand for, in order. -/
def lexemes (found : List Token) : Text :=
  found.flatMap Token.lexeme

@[simp] theorem lexemes_nil : lexemes [] = [] := rfl

@[simp] theorem lexemes_cons (token : Token) (rest : List Token) :
    lexemes (token :: rest) = token.lexeme ++ lexemes rest := rfl

@[simp] theorem lexemes_append (first second : List Token) :
    lexemes (first ++ second) = lexemes first ++ lexemes second :=
  List.flatMap_append

@[simp] theorem lexemes_tokens (parts : List Token) : lexemes (tokens parts) = lexemes parts := by
  induction parts with
  | nil => rfl
  | cons part rest ih =>
      rw [tokens] at ih ⊢
      rw [List.filter_cons]
      split
      · rw [lexemes_cons, lexemes_cons, ih]
      · next empty =>
          have nothing : part.lexeme = [] := by simpa using empty
          rw [lexemes_cons, nothing, ih, List.nil_append]

/-- The groups begin what is left to read, there is something to each of them, and together they
are all that the match takes. -/
structure Covers (found : Match) (text : Text) : Prop where
  spelled : lexemes found.groups <+: text
  measured : (lexemes found.groups).length = found.extent
  solid : ∀ token ∈ found.groups, token.lexeme ≠ []
  present : found.groups ≠ []

namespace Covers

variable {found : Match} {text : Text}

theorem lexemes_ne_nil (covers : Covers found text) : lexemes found.groups ≠ [] := by
  obtain ⟨token, rest, given⟩ := List.exists_cons_of_ne_nil covers.present
  rw [given, lexemes_cons]
  apply List.append_ne_nil_of_left_ne_nil
  exact covers.solid token (given ▸ List.mem_cons_self)

theorem extent_pos (covers : Covers found text) : 0 < found.extent := by
  rw [← covers.measured]
  exact List.length_pos_iff.mpr covers.lexemes_ne_nil

theorem extent_le (covers : Covers found text) : found.extent ≤ text.length := by
  rw [← covers.measured]
  exact covers.spelled.length_le

theorem taken (covers : Covers found text) : text.take found.extent = lexemes found.groups := by
  rw [← covers.measured]
  exact (List.prefix_iff_eq_take.mp covers.spelled).symm

theorem widen {longer : Text} (covers : Covers found text) (begins : text <+: longer) :
    Covers found longer :=
  { covers with spelled := covers.spelled.trans begins }

theorem single {kind : Kind} {lexeme : Text} (nonempty : lexeme ≠ []) (begins : lexeme <+: text) :
    Covers ⟨lexeme.length, [⟨kind, lexeme⟩]⟩ text where
  spelled := by simpa using begins
  measured := by simp
  solid := by simpa using nonempty
  present := List.cons_ne_nil _ _

theorem of_parts {parts : List Token} {extent : Nat} (spelled : lexemes parts <+: text)
    (measured : (lexemes parts).length = extent) (part : Token) (given : part ∈ parts)
    (nonempty : part.lexeme ≠ []) : Covers ⟨extent, tokens parts⟩ text where
  spelled := by rwa [lexemes_tokens]
  measured := by rwa [lexemes_tokens]
  solid := by
    intro token kept
    simpa [tokens] using List.of_mem_filter kept
  present := by
    apply List.ne_nil_of_mem (a := part)
    exact List.mem_filter.mpr ⟨given, by simpa using nonempty⟩

end Covers

theorem restOfLine_begins (text : Text) : restOfLine text <+: text :=
  List.takeWhile_prefix _

theorem restOfLine_solid {line : Text} (solid : '\n' ∉ line) : restOfLine line = line := by
  rw [restOfLine, List.takeWhile_eq_self_iff]
  intro c member
  simpa using ne_of_mem_of_not_mem member solid

theorem takeWhile_append_stop {p : Char → Bool} {c : Char} (stops : p c = false) (text rest : Text) :
    (text ++ c :: rest).takeWhile p = text.takeWhile p := by
  induction text with
  | nil => simp [stops]
  | cons d later ih => simp [List.takeWhile_cons, ih]

theorem dropWhile_append_stop {p : Char → Bool} {c : Char} (stops : p c = false) (text rest : Text) :
    (text ++ c :: rest).dropWhile p = text.dropWhile p ++ c :: rest := by
  induction text with
  | nil => simp [stops]
  | cons d later ih =>
      simp only [List.cons_append, List.dropWhile_cons, ih]
      split <;> rfl

theorem restOfLine_append {line : Text} (solid : '\n' ∉ line) (rest : Text) :
    restOfLine (line ++ '\n' :: rest) = line :=
  (takeWhile_append_stop (by decide) line rest).trans (restOfLine_solid solid)

theorem feed_not_mem_restOfLine (text : Text) : '\n' ∉ restOfLine text := by
  intro member
  simpa using List.mem_takeWhile_imp member

theorem restOfLine_cases (text : Text) :
    text = restOfLine text ∨ ∃ rest, text = restOfLine text ++ '\n' :: rest := by
  have parted := List.takeWhile_append_dropWhile (p := (· != '\n')) (l := text)
  cases later : text.dropWhile (· != '\n') with
  | nil =>
      rw [later, List.append_nil] at parted
      exact .inl parted.symm
  | cons c rest =>
      have stopped := List.head?_dropWhile_not (· != '\n') text
      rw [later] at stopped parted
      obtain rfl : c = '\n' := by simpa using stopped
      exact .inr ⟨rest, parted.symm⟩

theorem beforeLastClosing?_eq_none_iff {text : Text} :
    beforeLastClosing? text = none ↔ '」' ∉ text := by
  induction text with
  | nil => simp [beforeLastClosing?]
  | cons c rest ih =>
      rw [beforeLastClosing?, List.mem_cons, not_or, ← ih]
      cases later : beforeLastClosing? rest with
      | some inside => simp
      | none =>
          by_cases closing : c = '」'
          · simp [closing]
          · simp [closing, Ne.symm closing]

theorem beforeLastClosing?_append {after : Text} (last : '」' ∉ after) (inside : Text) :
    beforeLastClosing? (inside ++ '」' :: after) = some inside := by
  induction inside with
  | nil => simp [beforeLastClosing?, beforeLastClosing?_eq_none_iff.mpr last]
  | cons c rest ih => simp [beforeLastClosing?, ih]

theorem beforeLastClosing?_split {text inside : Text}
    (found : beforeLastClosing? text = some inside) :
    ∃ after, text = inside ++ '」' :: after ∧ '」' ∉ after := by
  induction text generalizing inside with
  | nil => cases found
  | cons c rest ih =>
      rw [beforeLastClosing?] at found
      split at found
      · next later nested =>
          cases found
          obtain ⟨after, split, last⟩ := ih nested
          exact ⟨after, by rw [split, List.cons_append], last⟩
      · next last =>
          split at found
          · next closing =>
              cases found
              exact ⟨rest, by rw [closing, List.nil_append], beforeLastClosing?_eq_none_iff.mp last⟩
          · cases found

theorem beforeLastClosing?_eq_some {text inside : Text}
    (found : beforeLastClosing? text = some inside) : inside ++ ['」'] <+: text := by
  obtain ⟨after, rfl, _⟩ := beforeLastClosing?_split found
  exact ⟨after, by simp⟩

/-- The boosts that are coloured are those that the compiler counts. -/
theorem leadingBoosts_eq (line : Text) : leadingBoosts line = boostText (splitBoosts line).1 := by
  fun_induction splitBoosts line with
  | case1 rest found ih =>
      rw [leadingBoosts, ih]
      rfl
  | case2 body none =>
      rw [leadingBoosts]
      · rfl
      · exact none

theorem leadingBoosts_begins (text : Text) : leadingBoosts text <+: text := by
  rw [leadingBoosts_eq]
  exact ⟨(splitBoosts text).2, (splitBoosts_spec text).1.symm⟩

section Rules

variable {text : Text} {found : Match}

theorem boosts?_covers (fits : boosts? text = some found) : Covers found text := by
  unfold boosts? at fits
  split at fits
  · cases fits
  · next nonempty =>
      cases fits
      exact .single nonempty (leadingBoosts_begins text)

theorem label?_covers (fits : label? text = some found) : Covers found text := by
  unfold label? at fits
  split at fits
  · next rest =>
      cases fits
      refine .of_parts ?_ (by simp; omega) ⟨.punctuation, [';', ';']⟩ (by simp) (by simp)
      simpa using restOfLine_begins rest
  · cases fits

theorem comment?_covers (fits : comment? text = some found) : Covers found text := by
  unfold comment? at fits
  split at fits
  · next rest =>
      cases fits
      rw [Nat.add_comm]
      exact .single (List.cons_ne_nil _ _) (by simpa using restOfLine_begins rest)
  · cases fits

theorem narration?_covers (fits : narration? text = some found) : Covers found text := by
  unfold narration? at fits
  split at fits
  · next rest =>
      obtain ⟨message, closed, rfl⟩ := Option.map_eq_some_iff.mp fits
      refine .of_parts ?_ (by simp; omega) ⟨.punctuation, ['「']⟩ (by simp) (by simp)
      simpa using (beforeLastClosing?_eq_some closed).trans (restOfLine_begins rest)
  · cases fits

theorem speech?_covers (fits : speech? text = some found) : Covers found text := by
  unfold speech? at fits
  split at fits
  · next c speaker rest cut =>
      obtain ⟨message, closed, rfl⟩ := Option.map_eq_some_iff.mp fits
      refine Covers.widen ?_ (restOfLine_begins text)
      rw [(Text.cut?_eq_some cut).1]
      refine .of_parts ?_ (by simp; omega) ⟨.speaker, c :: speaker⟩ (by simp) (by simp)
      simpa using beforeLastClosing?_eq_some closed
  · cases fits

theorem characterAlias?_covers (fits : characterAlias? text = some found) : Covers found text := by
  unfold characterAlias? at fits
  split at fits
  · next rest =>
      obtain ⟨⟨name, shown⟩, cut, rfl⟩ := Option.map_eq_some_iff.mp fits
      refine .of_parts ?_ (by simp; omega) ⟨.punctuation, [';']⟩ (by simp) (by simp)
      have begins := restOfLine_begins rest
      rw [(Text.cut?_eq_some cut).1] at begins
      simpa using begins
  · cases fits

theorem verbatim?_covers (fits : verbatim? text = some found) : Covers found text := by
  unfold verbatim? at fits
  split at fits
  · next rest =>
      cases fits
      refine .of_parts ?_ (by simp; omega) ⟨.punctuation, [':']⟩ (by simp) (by simp)
      simpa using restOfLine_begins rest
  · cases fits

theorem instruction?_covers (fits : instruction? text = some found) : Covers found text := by
  unfold instruction? at fits
  split at fits
  · next rest =>
      cases fits
      refine .of_parts ?_ (by simp; omega) ⟨.punctuation, ['$']⟩ (by simp) (by simp)
      have begins := restOfLine_begins (rest.dropWhile Text.isWordChar)
      rw [← List.prefix_append_right_inj (rest.takeWhile Text.isWordChar),
        List.takeWhile_append_dropWhile] at begins
      simpa using begins
  · cases fits

end Rules

/-- What stands behind the end of a line makes no difference to the rule. -/
def WithinLine (rule : Text → Option Match) : Prop :=
  ∀ line, '\n' ∉ line → ∀ rest, rule (line ++ '\n' :: rest) = rule line

/-- A rule for an opening fits nowhere else, so it is enough to look behind the opening. -/
theorem WithinLine.of_opening {rule : Text → Option Match} (opening : Text) (clear : '\n' ∉ opening)
    (needed : ∀ text, ¬ opening <+: text → rule text = none)
    (inside : ∀ line, '\n' ∉ line → ∀ rest,
      rule (opening ++ (line ++ '\n' :: rest)) = rule (opening ++ line)) : WithinLine rule := by
  intro line solid rest
  by_cases opens : opening <+: line
  · obtain ⟨later, rfl⟩ := opens
    rw [List.append_assoc]
    exact inside later (fun member => solid (List.mem_append_right _ member)) rest
  · rw [needed line opens, needed _ fun begins => opens (Text.prefix_of_prefix_split clear begins)]

section Openings

variable {text : Text}

theorem label?_eq_none (label : ¬ [';', ';'] <+: text) : label? text = none := by
  unfold label?
  split
  · next rest => exact absurd ⟨rest, rfl⟩ label
  · rfl

theorem comment?_eq_none (comment : ¬ ['#'] <+: text) : comment? text = none := by
  unfold comment?
  split
  · next rest => exact absurd ⟨rest, rfl⟩ comment
  · rfl

theorem narration?_eq_none (outside : ¬ ['「'] <+: text) : narration? text = none := by
  unfold narration?
  split
  · next rest => exact absurd ⟨rest, rfl⟩ outside
  · rfl

theorem characterAlias?_eq_none (other : ¬ [';'] <+: text) : characterAlias? text = none := by
  unfold characterAlias?
  split
  · next rest => exact absurd ⟨rest, rfl⟩ other
  · rfl

theorem verbatim?_eq_none (other : ¬ [':'] <+: text) : verbatim? text = none := by
  unfold verbatim?
  split
  · next rest => exact absurd ⟨rest, rfl⟩ other
  · rfl

theorem instruction?_eq_none (other : ¬ ['$'] <+: text) : instruction? text = none := by
  unfold instruction?
  split
  · next rest => exact absurd ⟨rest, rfl⟩ other
  · rfl

end Openings

theorem leadingBoosts_line (line rest : Text) :
    leadingBoosts (line ++ '\n' :: rest) = leadingBoosts line := by
  obtain ⟨whole, unboosted⟩ := splitBoosts_spec line
  have behind : ¬ "%in%".toList <+: (splitBoosts line).2 ++ '\n' :: rest :=
    fun begins => unboosted (Text.prefix_of_prefix_split (by decide) begins)
  rw [leadingBoosts_eq, leadingBoosts_eq]
  conv_lhs => rw [whole, List.append_assoc, splitBoosts_boostText, splitBoosts_of_none behind]
  rw [Nat.zero_add]

theorem boosts?_withinLine : WithinLine boosts? := by
  intro line _ rest
  rw [boosts?, boosts?, leadingBoosts_line]

theorem speech?_withinLine : WithinLine speech? := by
  intro line solid rest
  rw [speech?, speech?, restOfLine_append solid, restOfLine_solid solid]

theorem rules_withinLine {rule : Text → Option Match} (listed : rule ∈ rules) : WithinLine rule := by
  simp only [rules, List.mem_cons, List.not_mem_nil, or_false] at listed
  rcases listed with rfl | rfl | rfl | rfl | rfl | rfl | rfl
  · refine .of_opening [';', ';'] (by decide) (fun _ => label?_eq_none) fun line solid rest => ?_
    simp only [List.cons_append, List.nil_append, label?, restOfLine_append solid, restOfLine_solid solid]
  · refine .of_opening ['#'] (by decide) (fun _ => comment?_eq_none) fun line solid rest => ?_
    simp only [List.cons_append, List.nil_append, comment?, restOfLine_append solid, restOfLine_solid solid]
  · refine .of_opening ['「'] (by decide) (fun _ => narration?_eq_none) fun line solid rest => ?_
    simp only [List.cons_append, List.nil_append, narration?, restOfLine_append solid, restOfLine_solid solid]
  · exact speech?_withinLine
  · refine .of_opening [';'] (by decide) (fun _ => characterAlias?_eq_none) fun line solid rest => ?_
    simp only [List.cons_append, List.nil_append, characterAlias?, restOfLine_append solid,
      restOfLine_solid solid]
  · refine .of_opening [':'] (by decide) (fun _ => verbatim?_eq_none) fun line solid rest => ?_
    simp only [List.cons_append, List.nil_append, verbatim?, restOfLine_append solid, restOfLine_solid solid]
  · refine .of_opening ['$'] (by decide) (fun _ => instruction?_eq_none) fun line solid rest => ?_
    -- a line feed is no word character, so the command ends before it
    have command := takeWhile_append_stop (show Text.isWordChar '\n' = false by decide) line rest
    have later := dropWhile_append_stop (show Text.isWordChar '\n' = false by decide) line rest
    have inner : '\n' ∉ line.dropWhile Text.isWordChar :=
      fun member => solid ((List.dropWhile_suffix _).mem member)
    simp only [List.cons_append, List.nil_append, instruction?, command, later, restOfLine_append inner,
      restOfLine_solid inner]

theorem WithinLine.restOfLine {rule : Text → Option Match} (within : WithinLine rule) (text : Text) :
    rule (restOfLine text) = rule text := by
  rcases restOfLine_cases text with whole | ⟨rest, whole⟩
  · rw [← whole]
  · conv_rhs => rw [whole]
    exact (within _ (feed_not_mem_restOfLine text) rest).symm

theorem firstRule?_withinLine : WithinLine firstRule? := by
  intro line solid rest
  rw [firstRule?, firstRule?, ← List.head?_filterMap, ← List.head?_filterMap]
  congr 1
  apply List.filterMap_congr
  intro rule listed
  exact rules_withinLine listed line solid rest

theorem rules_cover {rule : Text → Option Match} (listed : rule ∈ rules) {text : Text} {found : Match}
    (fits : rule text = some found) : Covers found text := by
  simp only [rules, List.mem_cons, List.not_mem_nil, or_false] at listed
  rcases listed with rfl | rfl | rfl | rfl | rfl | rfl | rfl
  · exact label?_covers fits
  · exact comment?_covers fits
  · exact narration?_covers fits
  · exact speech?_covers fits
  · exact characterAlias?_covers fits
  · exact verbatim?_covers fits
  · exact instruction?_covers fits

theorem firstRule?_covers {text : Text} {found : Match} (fits : firstRule? text = some found) :
    Covers found text := by
  obtain ⟨rule, listed, fits⟩ := List.exists_of_findSome?_eq_some fits
  exact rules_cover listed fits

/-- A rule sees what has been read, last character first, and what is left to read. -/
abbrev Rule := (before text : Text) → Option Match

/-- A rule that fits behind some texts only. -/
def guarded (may : Text → Bool) (rule : Text → Option Match) : Rule := fun before text =>
  if may before then rule text else none

def boostRule : Rule :=
  guarded atLineStart boosts?

def constructRule (rule : Text → Option Match) : Rule :=
  guarded (fun before => atLineStart before || afterBoost before) rule

def lineFeedRule : Rule
  | _, '\n' :: _ => some ⟨1, [⟨.plain, ['\n']⟩]⟩
  | _, _ => none

def characterRule : Rule
  | _, c :: _ => if c = '\n' then none else some ⟨1, [⟨.plain, [c]⟩]⟩
  | _, [] => none

def constructRules : List Rule :=
  boostRule :: rules.map constructRule

def allRules : List Rule :=
  constructRules ++ [lineFeedRule, characterRule]

theorem constructRules_first (before text : Text) :
    constructRules.findSome? (fun rule => rule before text) = construct? before text := by
  have behind : (rules.map constructRule).findSome? (fun rule => rule before text) =
      if atLineStart before || afterBoost before then firstRule? text else none := by
    rw [List.findSome?_map]
    split
    · next here => simp only [Function.comp_def, constructRule, guarded, here, if_true, firstRule?]
    · next elsewhere =>
        rw [List.findSome?_eq_none_iff]
        intro rule _
        simp only [Function.comp_def, constructRule, guarded, elsewhere, if_false, Bool.false_eq_true]
  rw [constructRules, List.findSome?_cons, behind, construct?, boostRule, guarded]
  cases atLineStart before with
  | true => cases boosts? text <;> simp
  | false => simp

/-- What is read at a place is what the first rule that fits there takes, and one does. -/
theorem allRules_first (before : Text) (c : Char) (cs : Text) :
    allRules.findSome? (fun rule => rule before (c :: cs)) = some (matchAt before c cs) := by
  have fallback : [lineFeedRule, characterRule].findSome? (fun rule => rule before (c :: cs)) =
      some ⟨1, [⟨.plain, [c]⟩]⟩ := by
    by_cases feed : c = '\n'
    · simp [feed, lineFeedRule]
    · simp [feed, lineFeedRule, characterRule]
  rw [allRules, List.findSome?_append, fallback, constructRules_first, matchAt]
  cases construct? before (c :: cs) with
  | some found => rfl
  | none => rfl

theorem guarded_within {rule : Text → Option Match} (within : WithinLine rule)
    (covers : ∀ {text found}, rule text = some found → Covers found text) (may : Text → Bool)
    (before text : Text) :
    guarded may rule before (restOfLine text) = guarded may rule before text ∧
      ∀ found, guarded may rule before text = some found → Covers found (restOfLine text) := by
  unfold guarded
  rw [within.restOfLine]
  refine ⟨rfl, fun found read => ?_⟩
  split at read
  · exact covers ((within.restOfLine text).trans read)
  · cases read

/-- No construct goes past the end of its line, and what stands there makes no difference to it. -/
theorem constructRules_within {rule : Rule} (listed : rule ∈ constructRules) (before text : Text) :
    rule before (restOfLine text) = rule before text ∧
      ∀ found, rule before text = some found → Covers found (restOfLine text) := by
  rcases List.mem_cons.mp listed with rfl | construct
  · exact guarded_within boosts?_withinLine boosts?_covers _ before text
  · obtain ⟨inner, given, rfl⟩ := List.mem_map.mp construct
    exact guarded_within (rules_withinLine given) (rules_cover given) _ before text

theorem allRules_cover {rule : Rule} (listed : rule ∈ allRules) {before text : Text} {found : Match}
    (fits : rule before text = some found) : Covers found text := by
  rcases List.mem_append.mp listed with construct | single
  · exact ((constructRules_within construct before text).2 found fits).widen (restOfLine_begins text)
  · simp only [List.mem_cons, List.not_mem_nil, or_false] at single
    rcases single with rfl | rfl
    · unfold lineFeedRule at fits
      split at fits
      · next cs =>
          cases fits
          exact .single (List.cons_ne_nil _ _) (List.prefix_append ['\n'] cs)
      · cases fits
    · unfold characterRule at fits
      split at fits
      · next c cs =>
          split at fits <;> cases fits
          exact .single (List.cons_ne_nil _ _) (List.prefix_append [c] cs)
      · cases fits

theorem construct?_covers {before text : Text} {found : Match} (read : construct? before text = some found) :
    Covers found (restOfLine text) := by
  rw [← constructRules_first] at read
  obtain ⟨rule, listed, fits⟩ := List.exists_of_findSome?_eq_some read
  exact (constructRules_within listed before text).2 found fits

theorem construct?_withinLine (before : Text) : WithinLine (construct? before) := by
  intro line solid rest
  rw [construct?, construct?, boosts?_withinLine line solid, firstRule?_withinLine line solid]

theorem matchAt_covers (before : Text) (c : Char) (cs : Text) :
    Covers (matchAt before c cs) (c :: cs) := by
  obtain ⟨rule, listed, fits⟩ := List.exists_of_findSome?_eq_some (allRules_first before c cs)
  exact allRules_cover listed fits

/-- What is scanned is spelled out again, apart from what earlier matches take. -/
theorem lexemes_scanFrom (pending : Nat) (before text : Text) :
    lexemes (scanFrom pending before text) = text.drop pending := by
  induction text generalizing pending before with
  | nil => simp [scanFrom]
  | cons c cs ih =>
      cases pending with
      | succ pending => rw [scanFrom, ih, List.drop_succ_cons]
      | zero =>
          have covers := matchAt_covers before c cs
          have left : cs.drop ((matchAt before c cs).extent - 1) =
              (c :: cs).drop (matchAt before c cs).extent := by
            rw [← Nat.sub_add_cancel covers.extent_pos, List.drop_succ_cons, Nat.add_sub_cancel]
          rw [scanFrom, lexemes_append, ih, left, ← covers.taken, List.take_append_drop, List.drop_zero]

theorem scanFrom_solid (pending : Nat) (before text : Text) :
    ∀ token ∈ scanFrom pending before text, token.lexeme ≠ [] := by
  induction text generalizing pending before with
  | nil => simp [scanFrom]
  | cons c cs ih =>
      cases pending with
      | succ pending => exact ih pending (c :: before)
      | zero =>
          intro token member
          rcases List.mem_append.mp member with here | later
          · exact (matchAt_covers before c cs).solid token here
          · exact ih _ _ token later

/-- Where the scan stands when it tries its rules: what has been read, last character first, the
character that comes next and what follows that. -/
structure Place where
  before : Text
  next : Char
  later : Text
  deriving DecidableEq, Repr

namespace Place

/-- What has been read, in reading order. -/
def left (place : Place) : Text :=
  place.before.reverse

def rest (place : Place) : Text :=
  place.next :: place.later

def found (place : Place) : List Token :=
  (matchAt place.before place.next place.later).groups

end Place

/-- The places at which rules are tried, `pending` characters being taken already. -/
def placesFrom : (pending : Nat) → (before : Text) → Text → List Place
  | _, _, [] => []
  | pending + 1, before, c :: cs => placesFrom pending (c :: before) cs
  | 0, before, c :: cs =>
      ⟨before, c, cs⟩ :: placesFrom ((matchAt before c cs).extent - 1) (c :: before) cs

def places (source : Text) : List Place :=
  placesFrom 0 [] (normalised source)

theorem scanFrom_eq_places (pending : Nat) (before text : Text) :
    scanFrom pending before text = (placesFrom pending before text).flatMap Place.found := by
  induction text generalizing pending before with
  | nil => simp only [scanFrom, placesFrom, List.flatMap_nil]
  | cons c cs ih =>
      cases pending with
      | succ pending => exact ih pending (c :: before)
      | zero =>
          rw [scanFrom, placesFrom, List.flatMap_cons, ih]
          rfl

theorem placesFrom_covered (covered before text : Text) :
    placesFrom covered.length before (covered ++ text) =
      placesFrom 0 (covered.reverse ++ before) text := by
  induction covered generalizing before with
  | nil => rfl
  | cons c rest ih =>
      rw [List.length_cons, List.cons_append, placesFrom, ih, List.reverse_cons, List.append_assoc]
      rfl

theorem placesFrom_construct {before taken text : Text} {found : Match}
    (read : construct? before (taken ++ text) = some found) (spelled : lexemes found.groups = taken) :
    ∃ place : Place, place.before = before ∧ place.found = found.groups ∧
      placesFrom 0 before (taken ++ text) = place :: placesFrom 0 (taken.reverse ++ before) text := by
  have covers := construct?_covers read
  obtain ⟨c, rest, parted⟩ := List.exists_cons_of_ne_nil covers.lexemes_ne_nil
  obtain rfl := parted.symm.trans spelled
  have here : matchAt before c (rest ++ text) = found := by
    rw [matchAt, ← List.cons_append, read, Option.getD_some]
  have counted : found.extent - 1 = rest.length := by
    rw [← covers.measured, spelled, List.length_cons, Nat.add_sub_cancel]
  refine ⟨⟨before, c, rest ++ text⟩, rfl, congrArg Match.groups here, ?_⟩
  rw [List.cons_append, placesFrom, here, counted, placesFrom_covered, List.reverse_cons,
    List.append_assoc]
  rfl

theorem scanFrom_construct {before taken text : Text} {found : Match}
    (read : construct? before (taken ++ text) = some found) (spelled : lexemes found.groups = taken) :
    scanFrom 0 before (taken ++ text) =
      found.groups ++ scanFrom 0 (taken.reverse ++ before) text := by
  obtain ⟨place, _, here, listed⟩ := placesFrom_construct read spelled
  rw [scanFrom_eq_places, listed, List.flatMap_cons, here, ← scanFrom_eq_places]

theorem takeWhile_newline (text : Text) :
    ∃ count, text.takeWhile (· == '\n') = List.replicate count '\n' := by
  refine ⟨_, List.eq_replicate_of_mem fun c member => ?_⟩
  simpa using List.mem_takeWhile_imp member

theorem dropWhile_newline_head (text : Text) :
    (text.dropWhile (· == '\n')).head? ≠ some '\n' := by
  intro first
  have stopped := List.head?_dropWhile_not (· == '\n') text
  rw [first] at stopped
  cases stopped

theorem trimNewlines_spec (text : Text) :
    ∃ lead trail, text = List.replicate lead '\n' ++ trimNewlines text ++ List.replicate trail '\n' ∧
      (trimNewlines text).head? ≠ some '\n' ∧ (trimNewlines text).getLast? ≠ some '\n' := by
  obtain ⟨lead, front⟩ := takeWhile_newline text
  obtain ⟨trail, back⟩ := takeWhile_newline (text.dropWhile (· == '\n')).reverse
  have rest : text.dropWhile (· == '\n') = trimNewlines text ++ List.replicate trail '\n' := by
    have reversed := List.takeWhile_append_dropWhile (p := (· == '\n'))
      (l := (text.dropWhile (· == '\n')).reverse)
    rw [← List.reverse_inj, ← reversed, back, trimNewlines]
    simp
  refine ⟨lead, trail, ?_, ?_, ?_⟩
  · rw [List.append_assoc, ← rest, ← front, List.takeWhile_append_dropWhile]
  · intro first
    apply dropWhile_newline_head text
    rw [rest, List.head?_append, first, Option.some_or]
  · rw [trimNewlines, List.getLast?_reverse]
    exact dropWhile_newline_head _

theorem normalised_unmarked {source : Text} (unmarked : source.head? ≠ some '\ufeff') :
    normalised source = trimNewlines (Text.unifyNewlines source) ++ ['\n'] := by
  unfold normalised
  split
  · exact absurd rfl unmarked
  · rfl

theorem normalised_eq (source : Text) :
    ∃ marked, (source = '\ufeff' :: marked ∨ source = marked ∧ source.head? ≠ some '\ufeff') ∧
      normalised source = trimNewlines (Text.unifyNewlines marked) ++ ['\n'] := by
  by_cases front : source.head? = some '\ufeff'
  · obtain ⟨marked, rfl⟩ := List.head?_eq_some_iff.mp front
    exact ⟨marked, .inl rfl, rfl⟩
  · exact ⟨source, .inr ⟨rfl, front⟩, normalised_unmarked front⟩

/-- A mark in front is dropped, and all line ends are line feeds: none in front, one at the end. -/
theorem normalised_spec (source : Text) :
    ∃ marked body lead trail,
      (source = '\ufeff' :: marked ∨ source = marked ∧ source.head? ≠ some '\ufeff') ∧
      Text.unifyNewlines marked = List.replicate lead '\n' ++ body ++ List.replicate trail '\n' ∧
      body.head? ≠ some '\n' ∧ body.getLast? ≠ some '\n' ∧ '\r' ∉ body ∧
      normalised source = body ++ ['\n'] := by
  obtain ⟨marked, origin, same⟩ := normalised_eq source
  obtain ⟨lead, trail, whole, first, last⟩ := trimNewlines_spec (Text.unifyNewlines marked)
  refine ⟨marked, _, lead, trail, origin, whole, first, last, fun member => ?_, same⟩
  apply Text.return_not_mem_unifyNewlines marked
  rw [whole]
  simp [member]

theorem lexemes_scan (source : Text) : lexemes (scan source) = normalised source :=
  lexemes_scanFrom 0 [] (normalised source)

/-- The lexemes put together are the source, less a mark in front and with its line ends put in
order; none is empty; every rule takes at least one character and its groups are all that it takes;
and wherever there is a character to read, the first rule that fits reads it. -/
theorem scan_lossless (source : Text) :
    (∃ marked body lead trail,
      (source = '\ufeff' :: marked ∨ source = marked ∧ source.head? ≠ some '\ufeff') ∧
      Text.unifyNewlines marked = List.replicate lead '\n' ++ body ++ List.replicate trail '\n' ∧
      body.head? ≠ some '\n' ∧ body.getLast? ≠ some '\n' ∧ '\r' ∉ body ∧
      normalised source = body ++ ['\n'] ∧ lexemes (scan source) = normalised source) ∧
    (∀ token ∈ scan source, token.lexeme ≠ []) ∧
    (∀ rule ∈ allRules, ∀ before text found, rule before text = some found →
      0 < found.extent ∧ found.extent ≤ text.length ∧
        lexemes found.groups = text.take found.extent) ∧
    ∀ before c cs,
      allRules.findSome? (fun rule => rule before (c :: cs)) = some (matchAt before c cs) := by
  refine ⟨?_, scanFrom_solid 0 [] (normalised source), ?_, allRules_first⟩
  · obtain ⟨marked, body, lead, trail, origin, whole, first, last, plain, same⟩ := normalised_spec source
    exact ⟨marked, body, lead, trail, origin, whole, first, last, plain, same, lexemes_scan source⟩
  · intro rule listed before text found fits
    have covers := allRules_cover listed fits
    exact ⟨covers.extent_pos, covers.extent_le, covers.taken.symm⟩

end SceneNotation.Highlight
