import SceneNotation.Compilation
import SceneNotation.Proofs.Continuation

/- Returns are joined to line feeds in the whole text before it is cut into lines.
   It comes to the same as cutting the text at its line feeds and then taking one
   return off the end of each line, but not off the last, which no line feed ends.
   How the lines of a text are ended therefore makes no difference to what is
   compiled, as long as a line does not itself end in a return. -/
namespace SceneNotation

namespace Text

/-- Takes one return off the end of a line, if there is one. -/
def dropReturn (line : Text) : Text :=
  if line.getLast? = some '\r' then line.dropLast else line

theorem dropReturn_of_none {line : Text} (kept : line.getLast? ≠ some '\r') : dropReturn line = line :=
  if_neg kept

@[simp] theorem dropReturn_concat (line : Text) : dropReturn (line ++ ['\r']) = line := by
  simp [dropReturn]

@[simp] theorem dropReturn_cons_cons (c d : Char) (rest : Text) :
    dropReturn (c :: d :: rest) = c :: dropReturn (d :: rest) := by
  unfold dropReturn
  rw [List.getLast?_cons_cons, List.dropLast_cons_cons]
  split <;> rfl

theorem dropReturn_subset (line : Text) : dropReturn line ⊆ line := by
  unfold dropReturn
  split
  · exact List.dropLast_subset line
  · exact List.Subset.refl line

theorem splitBy_eq_splitOnP (isSeparator : Char → Bool) (text : Text) :
    splitBy isSeparator text = List.splitOnP isSeparator text := by
  induction text with
  | nil => rfl
  | cons c rest ih =>
      rw [splitBy, List.splitOnP_cons_eq_if_modifyHead, ih]
      split
      · rfl
      · cases pieces : List.splitOnP isSeparator rest with
        | nil => exact absurd pieces (List.splitOnP_ne_nil isSeparator rest)
        | cons piece others => rfl

theorem splitOn_eq (sep : Char) (text : Text) : splitOn sep text = List.splitOn sep text :=
  splitBy_eq_splitOnP (· == sep) text

theorem not_mem_of_mem_splitOn {text piece : Text} {sep : Char} (listed : piece ∈ splitOn sep text) :
    sep ∉ piece := by
  intro member
  simpa using (mem_of_mem_splitBy listed member).2

/-- Of the returns at the end of a line the last one goes with the line feed. -/
theorem joinReturns_line {line : Text} (solid : '\n' ∉ line) (rest : Text) :
    joinReturns (line ++ '\n' :: rest) = dropReturn line ++ '\n' :: joinReturns rest := by
  induction line with
  | nil => exact joinReturns_cons (by simp)
  | cons c later ih =>
      have inner := ih (List.not_mem_of_not_mem_cons solid)
      -- only the last character of the line stands right before the line feed
      cases later with
      | nil =>
          by_cases isReturn : c = '\r'
          · subst isReturn
            rfl
          · rw [dropReturn_of_none (by simpa using isReturn)]
            exact joinReturns_cons fun _ same _ => isReturn same
      | cons d others =>
          have differs : d ≠ '\n' := by
            rintro rfl
            exact solid (by simp)
          have here : ∀ after, c = '\r' → d :: (others ++ '\n' :: rest) = '\n' :: after → False :=
            fun _ _ feed => differs (List.cons.inj feed).1
          rw [dropReturn_cons_cons, List.cons_append, List.cons_append, joinReturns_cons here]
          exact congrArg (c :: ·) inner

theorem joinReturns_of_solid {line : Text} (solid : '\n' ∉ line) : joinReturns line = line := by
  fun_induction joinReturns line with
  | case1 rest ih => exact absurd (by simp) solid
  | case2 c rest _ ih => rw [ih (List.not_mem_of_not_mem_cons solid)]
  | case3 => rfl

theorem splitOn_solid {sep : Char} {line : Text} (solid : sep ∉ line) : splitOn sep line = [line] := by
  apply splitBy_solid
  intro c member
  simpa using ne_of_mem_of_not_mem member solid

theorem sourceLines_line {line : Text} (solid : '\n' ∉ line) (rest : Text) :
    sourceLines (line ++ '\n' :: rest) = dropReturn line :: sourceLines rest := by
  have trimmed : '\n' ∉ dropReturn line := fun member => solid (dropReturn_subset line member)
  rw [sourceLines, joinReturns_line solid, splitOn, splitBy_append_separator (by decide)]
  exact congrArg (· ++ sourceLines rest) (splitOn_solid trimmed)

theorem sourceLines_last {line : Text} (solid : '\n' ∉ line) : sourceLines line = [line] := by
  rw [sourceLines, joinReturns_of_solid solid, splitOn_solid solid]

end Text

inductive LineEnd where
  | feed
  | returnFeed
  deriving DecidableEq, Repr

namespace LineEnd

def text : LineEnd → Text
  | .feed => ['\n']
  | .returnFeed => ['\r', '\n']

/-- The line that is found where a line with this end was written. -/
def found : LineEnd → Text → Text
  | .feed, line => line.dropReturn
  | .returnFeed, line => line

theorem found_of_none (lineEnd : LineEnd) {line : Text} (kept : line.getLast? ≠ some '\r') :
    lineEnd.found line = line := by
  cases lineEnd with
  | feed => exact Text.dropReturn_of_none kept
  | returnFeed => rfl

end LineEnd

namespace Text

/-- Lines written each with an end of its own, and a last line that has none. -/
def written (ended : List (Text × LineEnd)) (last : Text) : Text :=
  ended.flatMap (fun entry => entry.1 ++ entry.2.text) ++ last

theorem written_cons (line : Text) (lineEnd : LineEnd) (ended : List (Text × LineEnd)) (last : Text) :
    written ((line, lineEnd) :: ended) last = line ++ (lineEnd.text ++ written ended last) := by
  simp [written]

theorem written_feeds (front : List Text) (last : Text) :
    written (front.map (·, LineEnd.feed)) last = join ['\n'] (front ++ [last]) := by
  rw [join_concat, written, List.flatMap_map]
  rfl

theorem sourceLines_ended {line : Text} (solid : '\n' ∉ line) (lineEnd : LineEnd) (rest : Text) :
    sourceLines (line ++ (lineEnd.text ++ rest)) = lineEnd.found line :: sourceLines rest := by
  cases lineEnd with
  | feed => exact sourceLines_line solid rest
  | returnFeed =>
      have returned : '\n' ∉ line ++ ['\r'] := by simpa using solid
      have regrouped : line ++ (LineEnd.returnFeed.text ++ rest) = line ++ ['\r'] ++ '\n' :: rest := by
        simp [LineEnd.text]
      rw [regrouped, sourceLines_line returned, dropReturn_concat]
      rfl

theorem sourceLines_written {ended : List (Text × LineEnd)} {last : Text}
    (solid : ∀ entry ∈ ended, '\n' ∉ entry.1) (unbroken : '\n' ∉ last) :
    sourceLines (written ended last) = ended.map (fun entry => entry.2.found entry.1) ++ [last] := by
  induction ended with
  | nil => exact sourceLines_last unbroken
  | cons entry rest ih =>
      obtain ⟨line, lineEnd⟩ := entry
      rw [written_cons, sourceLines_ended (solid _ List.mem_cons_self),
        ih fun entry member => solid entry (List.mem_cons_of_mem _ member)]
      rfl

theorem sourceLines_joined (front : List Text) (last : Text) (solid : ∀ line ∈ front, '\n' ∉ line)
    (unbroken : '\n' ∉ last) :
    sourceLines (join ['\n'] (front ++ [last])) = front.map dropReturn ++ [last] := by
  rw [← written_feeds, sourceLines_written]
  · simp [LineEnd.found]
  · simpa using solid
  · exact unbroken

/-- The lines of a text as they stand between its line feeds, of which all but the last may end
in a return that is not part of the line. -/
theorem sourceLines_pieces (text : Text) :
    ∃ front last, List.splitOn '\n' text = front ++ [last] ∧
      sourceLines text = front.map dropReturn ++ [last] := by
  obtain ⟨front, last, pieces⟩ : ∃ front last, List.splitOn '\n' text = front ++ [last] :=
    ⟨_, _, (List.dropLast_concat_getLast (List.splitOn_ne_nil '\n' text)).symm⟩
  have solid : ∀ piece ∈ front ++ [last], '\n' ∉ piece := by
    intro piece member
    rw [← pieces, ← splitOn_eq] at member
    exact not_mem_of_mem_splitOn member
  have whole : join ['\n'] (front ++ [last]) = text := by
    rw [← pieces]
    exact List.intercalate_splitOn '\n'
  have joined := sourceLines_joined front last
    (fun piece member => solid piece (List.mem_append_left _ member))
    (solid last (List.mem_append_right _ List.mem_cons_self))
  rw [whole] at joined
  exact ⟨front, last, pieces, joined⟩

theorem sourceLines_kept {ended : List (Text × LineEnd)} {last : Text}
    (solid : ∀ entry ∈ ended, '\n' ∉ entry.1) (unbroken : '\n' ∉ last)
    (kept : ∀ entry ∈ ended, entry.1.getLast? ≠ some '\r') :
    sourceLines (written ended last) = ended.map Prod.fst ++ [last] := by
  rw [sourceLines_written solid unbroken]
  congr 1
  exact List.map_congr_left fun entry member => entry.2.found_of_none (kept entry member)

end Text

/-- The lines of a source are what stands between its line feeds, less one return at the end of each
but the last, so none holds a line feed. Lines that do not end in a return are found as they were
written, and compiled alike, whichever way each of them was ended. -/
theorem lines_however_ended (text : Text) :
    (∃ front last, List.splitOn '\n' text = front ++ [last] ∧
      Text.sourceLines text = front.map Text.dropReturn ++ [last]) ∧
    (∀ line ∈ Text.sourceLines text, '\n' ∉ line) ∧
    ∀ (ended : List (Text × LineEnd)) (last : Text),
      (∀ entry ∈ ended, '\n' ∉ entry.1) → '\n' ∉ last →
      (∀ entry ∈ ended, entry.1.getLast? ≠ some '\r') →
      let lines := ended.map Prod.fst ++ [last]
      let mixed := Text.written ended last
      let plain := Text.join ['\n'] lines
      (∀ session : Session,
        ({ session with source := mixed } : Session).lines = lines ∧
          ({ session with source := mixed } : Session).compile =
            ({ session with source := plain } : Session).compile) ∧
      ∀ settings files, compile settings files mixed = compile settings files plain := by
  refine ⟨Text.sourceLines_pieces text, fun line => Text.not_mem_of_mem_splitOn, ?_⟩
  intro ended last solid unbroken kept lines mixed plain
  have found : Text.sourceLines mixed = lines := Text.sourceLines_kept solid unbroken kept
  have untouched : (ended.map Prod.fst).map Text.dropReturn = ended.map Prod.fst := by
    rw [List.map_map]
    exact List.map_congr_left fun entry member => Text.dropReturn_of_none (kept entry member)
  have again := Text.sourceLines_joined (ended.map Prod.fst) last (by simpa using solid) unbroken
  rw [untouched] at again
  have same : Text.sourceLines mixed = Text.sourceLines plain := found.trans again.symm
  refine ⟨fun session => ⟨found, ?_⟩, ?_⟩
  · exact congrArg (Compiler.compileLines (Compiler.processLine session.context session.nested)
      session.state) same
  · intro settings files
    unfold compile Compiler.compileIncluded
    rw [same]

/-- Both ends, empty lines, a return inside a line, and a last line that keeps its own. -/
theorem lines_however_ended_mixed :
    let ended : List (Text × LineEnd) :=
      [("#a".toList, .returnFeed), ([], .feed), ([], .returnFeed), (";;\rb".toList, .feed)]
    Text.written ended "#\r".toList = "#a\r\n\n\r\n;;\rb\n#\r".toList ∧
      Text.sourceLines "#a\r\n\n\r\n;;\rb\n#\r".toList =
        ["#a".toList, [], [], ";;\rb".toList, "#\r".toList] ∧
      compile {} none "#a\r\n\n\r\n;;\rb\n#\r".toList = compile {} none "#a\n\n\n;;\rb\n#\r".toList := by
  intro ended
  obtain ⟨sessions, compiled⟩ := (lines_however_ended []).2.2 ended "#\r".toList (by decide) (by decide)
    (by decide)
  exact ⟨rfl, (sessions {}).1, compiled {} none⟩

end SceneNotation
