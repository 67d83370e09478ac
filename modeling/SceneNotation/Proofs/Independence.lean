import Mathlib.Data.List.Nodup
import SceneNotation.Proofs.Replacement

/- A replacement that has no character of a token keeps the occurrences of that
   token on its two sides apart: none reaches across it and none comes up where it
   was put in. Replacing one token therefore neither makes nor breaks an occurrence
   of another, so the entries of such a table can be taken in any order, and there
   is nothing left for a second pass. -/
namespace SceneNotation

namespace Text

theorem replaced_replaceAll {token : Text} (nonempty : token ≠ []) (replacement text : Text) :
    Replaced token replacement text (replaceAll token replacement text) :=
  (replaceAll_eq_iff nonempty).mp rfl

section Seam

variable {token seam : Text}

/-- An occurrence lies on one side of a seam that has no character of the token. -/
theorem infix_beside_seam {left right : Text} (nonempty : token ≠ []) (filled : seam ≠ [])
    (apart : ∀ c ∈ token, c ∉ seam) (occurs : token <:+: left ++ seam ++ right) :
    token <:+: left ∨ token <:+: right := by
  induction left with
  | nil => exact .inr (infix_of_infix_append_left nonempty apart occurs)
  | cons c rest ih =>
      rw [List.append_assoc] at ih occurs
      rcases List.infix_cons_iff.mp occurs with here | later
      · obtain ⟨d, others, rfl⟩ := List.exists_cons_of_ne_nil filled
        have outside : d ∉ token := fun member => apart d member List.mem_cons_self
        have begins : token <+: (c :: rest) ++ d :: (others ++ right) := here
        exact .inl (prefix_of_prefix_split outside begins).isInfix
      · exact (ih later).imp_left List.infix_cons

variable {replacement left right leftResult rightResult : Text}

/-- The two sides of a seam are replaced each by itself. -/
theorem Replaced.across (nonempty : token ≠ []) (filled : seam ≠ []) (apart : ∀ c ∈ token, c ∉ seam)
    (first : Replaced token replacement left leftResult)
    (second : Replaced token replacement right rightResult) :
    Replaced token replacement (left ++ seam ++ right) (leftResult ++ seam ++ rightResult) := by
  induction first with
  | @nowhere left absent =>
      cases second with
      | nowhere clear =>
          exact .nowhere fun occurs =>
            (infix_beside_seam nonempty filled apart occurs).elim absent clear
      | @first before after result earliest later =>
          have earlier : ¬ token <:+: left ++ seam ++ before ++ token.dropLast := by
            rw [List.append_assoc]
            exact fun occurs => (infix_beside_seam nonempty filled apart occurs).elim absent earliest
          simpa only [List.append_assoc] using Replaced.first earlier later
  | first earliest later ih => simpa only [List.append_assoc] using Replaced.first earliest ih

theorem replaceAll_seam (nonempty : token ≠ []) (filled : seam ≠ []) (apart : ∀ c ∈ token, c ∉ seam)
    (replacement left right : Text) :
    replaceAll token replacement (left ++ seam ++ right) =
      replaceAll token replacement left ++ seam ++ replaceAll token replacement right := by
  apply (replaceAll_eq_iff nonempty).mpr
  exact (replaced_replaceAll nonempty replacement left).across nonempty filled apart
    (replaced_replaceAll nonempty replacement right)

end Seam

section Pair

variable {token replacement other : Text}

theorem Replaced.absent {text result : Text} (nonempty : other ≠ []) (filled : replacement ≠ [])
    (clear : ∀ c ∈ other, c ∉ replacement) (replaced : Replaced token replacement text result)
    (missing : other ≠ token → ¬ other <:+: text) : ¬ other <:+: result := by
  induction replaced with
  | nowhere absent =>
      by_cases same : other = token
      · rwa [same]
      · exact missing same
  | @first before after result earliest later ih =>
      have noneBefore : ¬ other <:+: before := by
        intro occurs
        by_cases same : other = token
        · rw [same] at occurs
          exact earliest (occurs.trans (List.prefix_append before _).isInfix)
        · exact missing same (occurs.trans ⟨[], token ++ after, by simp⟩)
      have noneAfter : ¬ other <:+: result :=
        ih fun differs occurs => missing differs (occurs.trans (List.suffix_append _ after).isInfix)
      exact fun occurs => (infix_beside_seam nonempty filled clear occurs).elim noneBefore noneAfter

variable {substitute : Text}

/-- Replacing another token in a text and in what comes of it leads to the same. -/
theorem Replaced.alongside {text result : Text} (solid : token ≠ []) (nonempty : other ≠ [])
    (filled : replacement ≠ []) (full : substitute ≠ []) (apart : ∀ c ∈ other, c ∉ token)
    (clear : ∀ c ∈ other, c ∉ replacement) (unseen : ∀ c ∈ token, c ∉ substitute)
    (replaced : Replaced token replacement text result) :
    Replaced token replacement (replaceAll other substitute text)
      (replaceAll other substitute result) := by
  have searched := replaced_replaceAll nonempty substitute
  induction replaced with
  | @nowhere text absent =>
      exact .nowhere ((searched text).absent solid full unseen fun _ => absent)
  | @first before after result earliest later ih =>
      -- the last character of the occurrence is left out, so the seam may be empty here
      have kept : Replaced other substitute (before ++ token.dropLast)
          (replaceAll other substitute before ++ token.dropLast) :=
        (searched before).before nonempty fun c member inside =>
          apart c member (List.dropLast_subset token inside)
      have earlier : ¬ token <:+: replaceAll other substitute before ++ token.dropLast :=
        kept.absent solid full unseen fun _ => earliest
      rw [replaceAll_seam nonempty solid apart, replaceAll_seam nonempty filled clear]
      exact .first earlier ih

end Pair

/-- The tokens of a table have no character in common with each other or with any replacement, and
nothing in it is empty. -/
structure Independent (entries : List (Text × Text)) : Prop where
  once : (entries.map Prod.fst).Nodup
  solid : ∀ entry ∈ entries, entry.1 ≠ []
  filled : ∀ entry ∈ entries, entry.2 ≠ []
  apart : ∀ entry ∈ entries, ∀ other ∈ entries, entry.1 ≠ other.1 → ∀ c ∈ entry.1, c ∉ other.1
  clear : ∀ entry ∈ entries, ∀ other ∈ entries, ∀ c ∈ entry.1, c ∉ other.2

namespace Independent

variable {entries : List (Text × Text)}

theorem perm {others : List (Text × Text)} (independent : Independent entries)
    (reordered : others.Perm entries) : Independent others where
  once := (reordered.map Prod.fst).nodup_iff.mpr independent.once
  solid := fun entry member => independent.solid entry (reordered.mem_iff.mp member)
  filled := fun entry member => independent.filled entry (reordered.mem_iff.mp member)
  apart := fun entry member other listed =>
    independent.apart entry (reordered.mem_iff.mp member) other (reordered.mem_iff.mp listed)
  clear := fun entry member other listed =>
    independent.clear entry (reordered.mem_iff.mp member) other (reordered.mem_iff.mp listed)

theorem replaceAll_comm (independent : Independent entries) {one other : Text × Text}
    (member : one ∈ entries) (listed : other ∈ entries) (text : Text) :
    replaceAll other.1 other.2 (replaceAll one.1 one.2 text) =
      replaceAll one.1 one.2 (replaceAll other.1 other.2 text) := by
  by_cases same : one.1 = other.1
  · rw [List.inj_on_of_nodup_map independent.once member listed same]
  · have solid := independent.solid one member
    have together := (replaced_replaceAll solid one.2 text).alongside solid
      (independent.solid other listed) (independent.filled one member)
      (independent.filled other listed) (independent.apart other listed one member (Ne.symm same))
      (independent.clear other listed one member) (independent.clear one member other listed)
    exact ((replaceAll_eq_iff solid).mpr together).symm

theorem substituted_perm {others : List (Text × Text)} {text result : Text}
    (independent : Independent entries) (reordered : others.Perm entries)
    (substituted : Substituted entries text result) : Substituted others text result := by
  have again := independent.perm reordered
  rw [substituted_iff independent.solid] at substituted
  rw [substituted_iff again.solid, ← substituted]
  apply reordered.foldl_eq'
  intro one member other listed text
  exact again.replaceAll_comm member listed text

end Independent

section Table

variable {entries : List (Text × Text)} {text result : Text}

theorem Substituted.absent {token : Text} (nonempty : token ≠ [])
    (filled : ∀ entry ∈ entries, entry.2 ≠ []) (clear : ∀ entry ∈ entries, ∀ c ∈ token, c ∉ entry.2)
    (substituted : Substituted entries text result)
    (missing : token ∉ entries.map Prod.fst → ¬ token <:+: text) : ¬ token <:+: result := by
  induction substituted with
  | nil => exact missing List.not_mem_nil
  | @cons here replacement text middle result rest replaced later ih =>
      apply ih (fun entry member => filled entry (List.mem_cons_of_mem _ member))
        fun entry member => clear entry (List.mem_cons_of_mem _ member)
      intro unlisted
      apply replaced.absent nonempty (filled _ List.mem_cons_self) (clear _ List.mem_cons_self)
      intro differs
      exact missing (List.not_mem_cons_of_ne_of_not_mem differs unlisted)

theorem Substituted.of_absent (absent : ∀ entry ∈ entries, ¬ entry.1 <:+: text) :
    Substituted entries text text := by
  induction entries with
  | nil => exact .nil
  | cons entry rest ih =>
      exact .cons (.nowhere (absent entry List.mem_cons_self))
        (ih fun entry member => absent entry (List.mem_cons_of_mem _ member))

end Table

end Text

namespace Compiler.State

theorem effects_undecorated (state : State) (undecorated : state.decorations = [])
    (solid : ∀ entry ∈ state.substitutions.entries, entry.1 ≠ []) {text result : Text} :
    state.effects text = result ↔ Text.Substituted state.substitutions.entries text result := by
  rw [Text.substituted_iff solid, effects, undecorated]
  rfl

/-- What a table of independent definitions makes of a text is the same in every order of its
entries, holds none of its tokens, and stays as it is from then on. -/
theorem effects_in_any_order (state : State) (message : Text) (undecorated : state.decorations = [])
    (independent : Text.Independent state.substitutions.entries) :
    (∀ entries : List (Text × Text), entries.Perm state.substitutions.entries →
      Text.Substituted entries message (state.effects message) ∧
        ({ state with substitutions := ⟨entries⟩ } : State).effects message = state.effects message) ∧
    (∀ entry ∈ state.substitutions.entries, ¬ entry.1 <:+: state.effects message) ∧
    state.effects (state.effects message) = state.effects message := by
  have substituted : Text.Substituted state.substitutions.entries message (state.effects message) :=
    (state.effects_undecorated undecorated independent.solid).mp rfl
  have absent : ∀ entry ∈ state.substitutions.entries, ¬ entry.1 <:+: state.effects message := by
    intro entry listed
    apply substituted.absent (independent.solid entry listed) independent.filled
      fun other member => independent.clear entry listed other member
    exact fun unlisted => absurd (List.mem_map_of_mem listed) unlisted
  refine ⟨?_, absent, ?_⟩
  · intro entries reordered
    have again := independent.substituted_perm reordered substituted
    exact ⟨again, (effects_undecorated { state with substitutions := ⟨entries⟩ } undecorated
      (independent.perm reordered).solid).mpr again⟩
  · exact (state.effects_undecorated undecorated independent.solid).mpr (.of_absent absent)

/-- The first token overlaps itself and stands right beside the second, whose removal would bring
its halves together. -/
theorem effects_in_any_order_overlapping :
    let state : State := { substitutions := ⟨[("aa".toList, "x".toList), ("b".toList, "xy".toList)]⟩ }
    ({ substitutions := ⟨[("b".toList, "xy".toList), ("aa".toList, "x".toList)]⟩ } : State).effects
        "aaabab".toList = state.effects "aaabab".toList ∧
      ¬ "aa".toList <:+: state.effects "aaabab".toList ∧
      state.effects (state.effects "aaabab".toList) = state.effects "aaabab".toList ∧
      state.effects "aaabab".toList = "xaxyaxy".toList := by
  intro state
  have independent : Text.Independent state.substitutions.entries :=
    ⟨by decide, by decide, by decide, by simp [state], by simp [state]⟩
  obtain ⟨same, absent, still⟩ := effects_in_any_order state "aaabab".toList rfl independent
  exact ⟨(same _ (.swap _ _ _)).2, absent ("aa".toList, "x".toList) (by simp [state]), still, rfl⟩

end Compiler.State

end SceneNotation
