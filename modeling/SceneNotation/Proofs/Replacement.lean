import Mathlib.Data.List.Basic
import SceneNotation.Compiler.State
import SceneNotation.Proofs.Notation

/- What it comes to when a token is replaced, said without the search for it: the
   text is cut at the first occurrence, and what follows it is a text of its own. A
   token that has no character in common with what stands around a text finds
   nothing there and nothing across the edges, so tags come through substitutions
   whatever the text and the replacements hold. -/
namespace SceneNotation

namespace Text

/-- Every occurrence of a token gives way to the replacement, from left to right: up to the last
character but one of the first occurrence there is no other, and what follows it is replaced in
turn. -/
inductive Replaced (token replacement : Text) : Text → Text → Prop
  | nowhere {text : Text} (absent : ¬ token <:+: text) : Replaced token replacement text text
  | first {before after result : Text} (earliest : ¬ token <:+: before ++ token.dropLast)
      (later : Replaced token replacement after result) :
      Replaced token replacement (before ++ token ++ after) (before ++ replacement ++ result)

/-- The entries of a table are replaced one after the other, each in what the ones before it have
made of the text. -/
inductive Substituted : List (Text × Text) → Text → Text → Prop
  | nil {text : Text} : Substituted [] text text
  | cons {token replacement text middle result : Text} {rest : List (Text × Text)}
      (here : Replaced token replacement text middle) (later : Substituted rest middle result) :
      Substituted ((token, replacement) :: rest) text result

theorem dropLast_occurrence_begins (before token after : Text) :
    before ++ token.dropLast <+: before ++ token ++ after := by
  rw [List.append_assoc, List.prefix_append_right_inj]
  exact (List.dropLast_prefix token).trans (List.prefix_append token after)

section Search

variable {token replacement : Text}

theorem Replaced.cons {c : Char} {text result : Text} (elsewhere : ¬ token <+: c :: text)
    (replaced : Replaced token replacement text result) :
    Replaced token replacement (c :: text) (c :: result) := by
  cases replaced with
  | nowhere absent =>
      exact .nowhere fun occurs => (List.infix_cons_iff.mp occurs).elim elsewhere absent
  | @first before after result earliest later =>
      have earlier : ¬ token <:+: c :: before ++ token.dropLast := by
        intro occurs
        rcases List.infix_cons_iff.mp occurs with here | inside
        · exact elsewhere (here.trans (dropLast_occurrence_begins (c :: before) token after))
        · exact earliest inside
      exact .first earlier later

theorem replaceFrom_passes {c : Char} {rest : Text} (elsewhere : ¬ token <+: c :: rest) :
    replaceFrom token replacement 0 (c :: rest) = c :: replaceFrom token replacement 0 rest := by
  rw [replaceFrom, if_neg fun here => elsewhere (List.isPrefixOf_iff_prefix.mp here)]

/-- The search also has an answer in the middle of an occurrence. What is still to be passed over
is then no part of the text. -/
theorem replaceFrom_replaced (nonempty : token ≠ []) (pending : Nat) (text : Text) :
    Replaced token replacement (text.drop pending) (replaceFrom token replacement pending text) := by
  induction text generalizing pending with
  | nil =>
      have absent : ¬ token <:+: [] := fun occurs => nonempty (List.infix_nil.mp occurs)
      cases pending <;> exact .nowhere absent
  | cons c rest ih =>
      cases pending with
      | succ pending => exact ih pending
      | zero =>
          by_cases here : token <+: c :: rest
          · have shorter : ¬ token <:+: [] ++ token.dropLast := by
              intro occurs
              have fits := occurs.length_le
              have long := List.length_pos_iff.mpr nonempty
              rw [List.nil_append, List.length_dropLast] at fits
              omega
            have whole : c :: rest = [] ++ token ++ rest.drop (token.length - 1) := by
              obtain ⟨after, same⟩ := here
              cases token with
              | nil => exact absurd rfl nonempty
              | cons d others =>
                  obtain ⟨rfl, rfl⟩ := List.cons.inj same
                  simp
            rw [replaceFrom, if_pos (List.isPrefixOf_iff_prefix.mpr here), List.drop_zero, whole]
            exact .first shorter (ih (token.length - 1))
          · rw [replaceFrom_passes here]
            exact .cons here (ih 0)

theorem length_le_of_earliest {before after other rest : Text} (nonempty : token ≠ [])
    (earliest : ¬ token <:+: before ++ token.dropLast)
    (same : before ++ token ++ after = other ++ token ++ rest) : before.length ≤ other.length := by
  by_contra earlier
  have fits : (other ++ token).length ≤ (before ++ token.dropLast).length := by
    have long := List.length_pos_iff.mpr nonempty
    simp only [List.length_append, List.length_dropLast]
    omega
  have cut := dropLast_occurrence_begins before token after
  rw [same] at cut
  have inside := List.prefix_of_prefix_length_le (List.prefix_append (other ++ token) rest) cut fits
  exact earliest ((List.suffix_append other token).isInfix.trans inside.isInfix)

theorem Replaced.unique {text one other : Text} (nonempty : token ≠ [])
    (first : Replaced token replacement text one) (second : Replaced token replacement text other) :
    one = other := by
  induction first generalizing other with
  | nowhere absent =>
      cases second with
      | nowhere _ => rfl
      | @first before after _ _ _ => exact absurd ⟨before, after, rfl⟩ absent
  | @first before after result earliest later ih =>
      generalize same : before ++ token ++ after = text at second
      cases second with
      | nowhere absent => exact absurd ⟨before, after, same⟩ absent
      | @first start rest last foremost further =>
          have level : before.length = start.length :=
            Nat.le_antisymm (length_le_of_earliest nonempty earliest same)
              (length_le_of_earliest nonempty foremost same.symm)
          rw [List.append_assoc, List.append_assoc] at same
          obtain ⟨rfl, rest⟩ := List.append_inj same level
          obtain rfl := List.append_cancel_left rest
          rw [ih further]

theorem replaceAll_eq_iff (nonempty : token ≠ []) {text result : Text} :
    replaceAll token replacement text = result ↔ Replaced token replacement text result := by
  have searched : Replaced token replacement text (replaceAll token replacement text) := by
    rw [replaceAll, if_neg (by simpa using nonempty)]
    exact replaceFrom_replaced nonempty 0 text
  constructor
  · rintro rfl
    exact searched
  · exact searched.unique nonempty

end Search

section Apart

variable {token : Text}

theorem infix_of_infix_append_left {left text : Text} (nonempty : token ≠ [])
    (apart : ∀ c ∈ token, c ∉ left) (occurs : token <:+: left ++ text) : token <:+: text := by
  induction left with
  | nil => exact occurs
  | cons c rest ih =>
      rcases List.infix_cons_iff.mp occurs with here | later
      · cases token with
        | nil => exact absurd rfl nonempty
        | cons d others =>
            obtain ⟨rfl, _⟩ := List.cons_prefix_cons.mp here
            exact absurd List.mem_cons_self (apart d List.mem_cons_self)
      · exact ih (fun d member inRest => apart d member (List.mem_cons_of_mem c inRest)) later

theorem prefix_of_prefix_append {text right : Text} (apart : ∀ c ∈ token, c ∉ right)
    (here : token <+: text ++ right) : token <+: text := by
  cases right with
  | nil => rwa [List.append_nil] at here
  | cons c rest =>
      exact prefix_of_prefix_split (fun member => apart c member List.mem_cons_self) here

theorem infix_of_infix_append_right {text right : Text} (nonempty : token ≠ [])
    (apart : ∀ c ∈ token, c ∉ right) (occurs : token <:+: text ++ right) : token <:+: text := by
  induction text with
  | nil =>
      obtain ⟨c, member⟩ := List.exists_mem_of_ne_nil token nonempty
      exact absurd (occurs.mem member) (apart c member)
  | cons c rest ih =>
      rcases List.infix_cons_iff.mp occurs with here | later
      · exact (prefix_of_prefix_append apart here).isInfix
      · exact List.infix_cons (ih later)

variable {replacement text result : Text}

theorem Replaced.after {left : Text} (nonempty : token ≠ []) (apart : ∀ c ∈ token, c ∉ left)
    (replaced : Replaced token replacement text result) :
    Replaced token replacement (left ++ text) (left ++ result) := by
  cases replaced with
  | nowhere absent =>
      exact .nowhere fun occurs => absent (infix_of_infix_append_left nonempty apart occurs)
  | @first before after result earliest later =>
      have earlier : ¬ token <:+: left ++ before ++ token.dropLast := by
        rw [List.append_assoc]
        exact fun occurs => earliest (infix_of_infix_append_left nonempty apart occurs)
      simpa only [List.append_assoc] using Replaced.first earlier later

theorem Replaced.before {right : Text} (nonempty : token ≠ []) (apart : ∀ c ∈ token, c ∉ right)
    (replaced : Replaced token replacement text result) :
    Replaced token replacement (text ++ right) (result ++ right) := by
  induction replaced with
  | nowhere absent =>
      exact .nowhere fun occurs => absent (infix_of_infix_append_right nonempty apart occurs)
  | first earliest later ih => simpa only [List.append_assoc] using Replaced.first earliest ih

end Apart

theorem substituted_iff {entries : List (Text × Text)} (nonempty : ∀ entry ∈ entries, entry.1 ≠ [])
    {text result : Text} :
    Substituted entries text result ↔
      entries.foldl (fun text entry => replaceAll entry.1 entry.2 text) text = result := by
  induction entries generalizing text with
  | nil =>
      constructor
      · intro substituted
        cases substituted
        rfl
      · rintro rfl
        exact .nil
  | cons entry rest ih =>
      obtain ⟨token, replacement⟩ := entry
      have solid : token ≠ [] := nonempty _ List.mem_cons_self
      rw [List.foldl_cons, ← ih fun entry member => nonempty entry (List.mem_cons_of_mem _ member)]
      constructor
      · intro substituted
        cases substituted with
        | cons here later => rwa [(replaceAll_eq_iff solid).mpr here]
      · exact .cons ((replaceAll_eq_iff solid).mp rfl)

/-- What stands around a text comes through a table that has no character of it in its tokens. -/
theorem Substituted.inside {entries : List (Text × Text)} {left right text result : Text}
    (nonempty : ∀ entry ∈ entries, entry.1 ≠ [])
    (apart : ∀ entry ∈ entries, ∀ c ∈ entry.1, c ∉ left ∧ c ∉ right)
    (substituted : Substituted entries text result) :
    Substituted entries (left ++ text ++ right) (left ++ result ++ right) := by
  induction substituted with
  | nil => exact .nil
  | @cons token replacement text middle result rest here later ih =>
      have solid := nonempty _ List.mem_cons_self
      have clear := apart _ List.mem_cons_self
      have around := (here.after solid fun c member => (clear c member).1).before solid
        fun c member => (clear c member).2
      exact .cons around (ih (fun entry member => nonempty entry (List.mem_cons_of_mem _ member))
        fun entry member => apart entry (List.mem_cons_of_mem _ member))

end Text

/-- The tag of the decoration added last comes first, and ends last. -/
theorem Decoration.wrap_all (decorations : List Decoration) (text : Text) :
    decorations.foldl (fun text decoration => decoration.wrap text) text =
      decorations.reverse.flatMap opening ++ text ++ decorations.flatMap closing := by
  induction decorations generalizing text with
  | nil => simp
  | cons decoration rest ih =>
      rw [List.foldl_cons, ih]
      simp [wrap]

namespace Compiler.State

/-- Tokens without a character of the tags are replaced in the text alone. The tags stand around
what the table makes of it, the last one outermost. -/
theorem effects_substitute_inside_tags (state : State) (message : Text)
    (nonempty : ∀ entry ∈ state.substitutions.entries, entry.1 ≠ [])
    (apart : ∀ entry ∈ state.substitutions.entries, ∀ decoration ∈ state.decorations,
      ∀ c ∈ entry.1, c ∉ decoration.opening ∧ c ∉ decoration.closing) :
    ∃ inner, (∀ result, Text.Substituted state.substitutions.entries message result ↔ result = inner) ∧
      state.effects message = state.decorations.reverse.flatMap Decoration.opening ++ inner ++
        state.decorations.flatMap Decoration.closing := by
  have clear : ∀ entry ∈ state.substitutions.entries, ∀ c ∈ entry.1,
      c ∉ state.decorations.reverse.flatMap Decoration.opening ∧
        c ∉ state.decorations.flatMap Decoration.closing := by
    intro entry listed c member
    simp only [List.mem_flatMap, List.mem_reverse, not_exists, not_and]
    exact ⟨fun decoration active => (apart entry listed decoration active c member).1,
      fun decoration active => (apart entry listed decoration active c member).2⟩
  refine ⟨_, fun result => (Text.substituted_iff nonempty).trans eq_comm, ?_⟩
  rw [effects, Decoration.wrap_all]
  apply (Text.substituted_iff nonempty).mp
  exact ((Text.substituted_iff nonempty).mpr rfl).inside nonempty clear

/-- The first token overlaps itself, its replacement looks like a tag and holds the second token,
and the text has a tag of its own. -/
theorem effects_substitute_inside_tags_lookalike :
    let state : State :=
      { decorations := [.bold, .underline]
        substitutions := ⟨[("aa".toList, "\x7bu\x7dy".toList), ("y".toList, "aa\x7d".toList)]⟩ }
    state.effects "aaa\x7bb\x7dy".toList = "\x7bu\x7d\x7bb\x7d".toList ++
      "\x7bu\x7daa\x7da\x7bb\x7daa\x7d".toList ++ "\x7b/b\x7d\x7b/u\x7d".toList := by
  intro state
  have apart : ∀ entry ∈ state.substitutions.entries, ∀ decoration ∈ state.decorations,
      ∀ c ∈ entry.1, c ∉ decoration.opening ∧ c ∉ decoration.closing := by
    simp [state]
    decide
  obtain ⟨inner, only, around⟩ := effects_substitute_inside_tags state "aaa\x7bb\x7dy".toList
    (by decide) apart
  have applied : Text.Substituted state.substitutions.entries "aaa\x7bb\x7dy".toList
      "\x7bu\x7daa\x7da\x7bb\x7daa\x7d".toList := (Text.substituted_iff (by decide)).mpr (by decide)
  rw [around, ← (only _).mp applied]
  rfl

end Compiler.State

end SceneNotation
