import SceneNotation.Proofs.Agreement

/- No construct looks past the end of its line, and of what has been read only the
   last few characters count, none of them a line feed. So the tokens of a text are
   those of its lines, each scanned as if it stood alone. -/
namespace SceneNotation

namespace Highlight

theorem afterBoost_iff {before : Text} : afterBoost before = true ↔ "%ni%".toList <+: before := by
  constructor
  · intro ends
    unfold afterBoost at ends
    split at ends
    · next rest => exact ⟨rest, rfl⟩
    · cases ends
  · rintro ⟨rest, rfl⟩
    rfl

theorem afterBoost_earlier (before earlier : Text) :
    afterBoost (before ++ '\n' :: earlier) = afterBoost before := by
  rw [Bool.eq_iff_iff, afterBoost_iff, afterBoost_iff]
  exact ⟨Text.prefix_of_prefix_split (by decide), fun ends => ends.trans (List.prefix_append _ _)⟩

theorem atLineStart_earlier (before earlier : Text) :
    atLineStart (before ++ '\n' :: earlier) = atLineStart before := by
  cases before <;> rfl

theorem scanFrom_earlier (pending : Nat) (before earlier text : Text) :
    scanFrom pending (before ++ '\n' :: earlier) text = scanFrom pending before text := by
  induction text generalizing pending before with
  | nil => simp only [scanFrom]
  | cons c rest ih =>
      cases pending with
      | succ pending => exact ih pending (c :: before)
      | zero =>
          have same : matchAt (before ++ '\n' :: earlier) c rest = matchAt before c rest := by
            simp only [matchAt, construct?, atLineStart_earlier, afterBoost_earlier]
          rw [scanFrom, scanFrom, same]
          exact congrArg _ (ih _ (c :: before))

theorem matchAt_within {c : Char} {line : Text} (solid : '\n' ∉ c :: line) (before rest : Text) :
    matchAt before c (line ++ '\n' :: rest) = matchAt before c line := by
  rw [matchAt, ← List.cons_append, construct?_withinLine before (c :: line) solid, matchAt]

theorem extent_matchAt_le (before : Text) (c : Char) (cs : Text) :
    (matchAt before c cs).extent - 1 ≤ cs.length :=
  Nat.sub_le_of_le_add (matchAt_covers before c cs).extent_le

/-- A line is scanned without a look at what follows it, and its end is a token of its own. -/
theorem scanFrom_line {line : Text} (solid : '\n' ∉ line) {pending : Nat}
    (within : pending ≤ line.length) (before rest : Text) :
    scanFrom pending before (line ++ '\n' :: rest) =
      scanFrom pending before line ++ ⟨.plain, ['\n']⟩ :: scanFrom 0 [] rest := by
  induction line generalizing pending before with
  | nil =>
      obtain rfl : pending = 0 := Nat.le_zero.mp within
      have next := scanFrom_earlier 0 [] before rest
      simp only [List.nil_append, scanFrom, matchAt, construct?_lineEnd, Option.getD_none]
      exact congrArg _ next
  | cons c later ih =>
      have inner := List.not_mem_of_not_mem_cons solid
      cases pending with
      | succ pending => exact ih inner (Nat.le_of_succ_le_succ within) (c :: before)
      | zero =>
          -- what is taken here ends within the line, so the bound on what is pending is kept
          rw [List.cons_append, scanFrom, scanFrom, matchAt_within solid,
            ih inner (extent_matchAt_le before c later), List.append_assoc]

theorem scanFrom_lines {lines : List Text} (solid : ∀ line ∈ lines, '\n' ∉ line) :
    scanFrom 0 [] (lines.flatMap (· ++ ['\n'])) =
      lines.flatMap fun line => scanFrom 0 [] line ++ [⟨.plain, ['\n']⟩] := by
  induction lines with
  | nil => rfl
  | cons line rest ih =>
      have later := ih fun line member => solid line (List.mem_cons_of_mem _ member)
      rw [List.flatMap_cons, List.append_assoc, List.singleton_append,
        scanFrom_line (solid line List.mem_cons_self) (Nat.zero_le _), later, List.flatMap_cons,
        List.append_assoc, List.singleton_append]

theorem scan_alone {line : Text} (solid : '\n' ∉ line) (plain : '\r' ∉ line)
    (unmarked : line.head? ≠ some '\ufeff') :
    scan line = scanFrom 0 [] line ++ [⟨.plain, ['\n']⟩] := by
  rw [scan, normalised_line solid plain unmarked]
  exact scanFrom_line solid (Nat.zero_le _) [] []

theorem normalised_lines {lines : List Text} (given : lines ≠ [])
    (solid : ∀ line ∈ lines, '\n' ∉ line) (plain : ∀ line ∈ lines, '\r' ∉ line)
    (unmarked : ∀ line ∈ lines, line.head? ≠ some '\ufeff') (first : lines.head? ≠ some [])
    (last : lines.getLast? ≠ some []) :
    normalised (Text.join ['\n'] lines) = lines.flatMap (· ++ ['\n']) := by
  obtain ⟨front, final, parted⟩ : ∃ front final, lines = front ++ [final] :=
    ⟨_, _, (List.dropLast_concat_getLast given).symm⟩
  have whole : Text.join ['\n'] lines = front.flatMap (· ++ ['\n']) ++ final := by
    rw [parted, Text.join_concat]
  have listed : final ∈ lines := by simp [parted]
  have filled : final ≠ [] := by simpa [parted] using last
  obtain ⟨start, present, opens⟩ : ∃ start ∈ lines, (Text.join ['\n'] lines).head? = start.head? := by
    obtain ⟨start, rest, rfl⟩ := List.exists_cons_of_ne_nil given
    refine ⟨start, List.mem_cons_self, ?_⟩
    obtain ⟨c, others, rfl⟩ := List.exists_cons_of_ne_nil (by simpa using first : start ≠ [])
    cases rest <;> rfl
  rw [normalised_trimmed]
  · rw [whole, parted, List.flatMap_append, List.append_assoc, List.flatMap_singleton]
  · rw [whole]
    intro member
    rcases List.mem_append.mp member with earlier | later
    · obtain ⟨line, inFront, within⟩ := List.mem_flatMap.mp earlier
      exact plain line (by simp [parted, inFront]) (by simpa using within)
    · exact plain final listed later
  · rw [opens]
    exact unmarked start present
  · rw [opens]
    exact fun feed => solid start present (List.mem_of_head? feed)
  · rw [whole, List.getLast?_append_of_ne_nil _ filled]
    exact fun feed => solid final listed (List.mem_of_getLast? feed)

/-- The tokens of lines put together are the tokens of each by itself, and an empty line is its end
alone. Neither the first nor the last line is empty, as the text would lose it. -/
theorem scan_line_by_line (lines : List Text) (given : lines ≠ [])
    (solid : ∀ line ∈ lines, '\n' ∉ line) (plain : ∀ line ∈ lines, '\r' ∉ line)
    (unmarked : ∀ line ∈ lines, line.head? ≠ some '\ufeff') (first : lines.head? ≠ some [])
    (last : lines.getLast? ≠ some []) :
    scan (Text.join ['\n'] lines) =
      lines.flatMap (fun line => if line = [] then [⟨.plain, ['\n']⟩] else scan line) ∧
    ∀ line ∈ lines, line ≠ [] →
      ∃ found, scan line = found ++ [⟨.plain, ['\n']⟩] ∧ lexemes found = line := by
  have alone : ∀ line ∈ lines, scan line = scanFrom 0 [] line ++ [⟨.plain, ['\n']⟩] :=
    fun line member => scan_alone (solid line member) (plain line member) (unmarked line member)
  constructor
  · rw [scan, normalised_lines given solid plain unmarked first last, scanFrom_lines solid]
    apply List.flatMap_congr
    intro line member
    split
    · next empty =>
        rw [empty]
        rfl
    · exact (alone line member).symm
  · intro line member _
    exact ⟨scanFrom 0 [] line, alone line member, lexemes_scanFrom 0 [] line⟩

/-- The first line ends in a boost, behind which a construct could start, and the last begins with
one. -/
theorem scan_line_by_line_boosted :
    scan "x%in%\n\n%in%;;a".toList =
      scan "x%in%".toList ++ [⟨.plain, ['\n']⟩] ++ scan "%in%;;a".toList ∧
    scan "%in%;;a".toList = [⟨.boost, "%in%".toList⟩, ⟨.punctuation, [';', ';']⟩, ⟨.label, ['a']⟩,
      ⟨.plain, ['\n']⟩] := by
  have split := (scan_line_by_line ["x%in%".toList, [], "%in%;;a".toList] (by decide) (by decide)
    (by decide) (by decide) (by decide) (by decide)).1
  exact ⟨split, by decide⟩

end Highlight

end SceneNotation
