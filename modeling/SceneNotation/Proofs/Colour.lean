import SceneNotation.Highlight.Terminal
import SceneNotation.Proofs.Scan

/- A terminal takes the codes out of a text and shows the rest, in colour from a
   code that sets one up to the code that takes all back. What it shows of a painted
   source is the source with its line ends put in order, each character in colour if
   its token has one. A line feed never is, as it stands at the end of its piece and
   the piece is painted without it. -/
namespace SceneNotation

namespace Text

theorem pieces_flatten (text : Text) : (pieces text).flatten = text := by
  fun_induction pieces text with
  | case1 => rfl
  | case2 rest ih => exact congrArg ('\r' :: '\n' :: ·) ih
  | case3 c rest _ _ ih => exact congrArg (c :: ·) ih
  | case4 c rest _ _ none ih =>
      rw [none] at ih
      exact congrArg (c :: ·) ih
  | case5 c rest _ _ piece others found ih =>
      rw [found] at ih
      exact congrArg (c :: ·) ih

theorem pieces_unbroken (text : Text) : ∀ piece ∈ pieces text, piece ≠ [] ∧ '\n' ∉ piece.dropLast := by
  fun_induction pieces text with
  | case1 => exact List.forall_mem_nil _
  | case2 rest ih => exact List.forall_mem_cons.mpr ⟨by decide, ih⟩
  | case3 c rest _ _ ih => exact List.forall_mem_cons.mpr ⟨by simp, ih⟩
  | case4 c rest _ _ _ _ => simp
  | case5 c rest _ inside piece others found ih =>
      rw [found] at ih
      obtain ⟨⟨filled, clear⟩, later⟩ := List.forall_mem_cons.mp ih
      have first : '\n' ≠ c := by
        rintro rfl
        exact inside rfl
      refine List.forall_mem_cons.mpr ⟨⟨List.cons_ne_nil c piece, ?_⟩, later⟩
      rw [List.dropLast_cons_of_ne_nil filled]
      exact List.not_mem_cons_of_ne_of_not_mem first clear

end Text

namespace Highlight

structure Cell where
  character : Char
  tinted : Bool
  deriving DecidableEq, Repr

def isParameter (c : Char) : Bool :=
  c.isDigit || c == ';'

/-- The parameters of the code that a text begins with. -/
def parameters? : Text → Option Text
  | '\x1b' :: '[' :: rest =>
      if (rest.dropWhile isParameter).head? = some 'm' then some (rest.takeWhile isParameter) else none
  | _ => none

/-- The parameters of the code that takes all colour back. -/
def plainParameters : Text := "39;49;00".toList

/-- `pending` counts the characters of the last code that are still to be passed over. -/
def cellsFrom : (tinted : Bool) → (pending : Nat) → Text → List Cell
  | _, _, [] => []
  | tinted, pending + 1, _ :: cs => cellsFrom tinted pending cs
  | tinted, 0, c :: cs =>
      match parameters? (c :: cs) with
      | some parameters => cellsFrom (parameters != plainParameters) (parameters.length + 2) cs
      | none => ⟨c, tinted⟩ :: cellsFrom tinted 0 cs

/-- What a terminal shows of a text. -/
def cells (text : Text) : List Cell :=
  cellsFrom false 0 text

def withoutCodes (text : Text) : Text :=
  (cells text).map Cell.character

theorem cellsFrom_covered (tinted : Bool) (covered rest : Text) :
    cellsFrom tinted covered.length (covered ++ rest) = cellsFrom tinted 0 rest := by
  induction covered with
  | nil => rfl
  | cons c later ih => exact ih

theorem parameters?_of_plain {c : Char} (plain : c ≠ escape) (rest : Text) :
    parameters? (c :: rest) = none := by
  unfold parameters?
  split
  · next same => exact absurd (List.cons.inj same).1 plain
  · rfl

theorem cellsFrom_plain {text : Text} (plain : escape ∉ text) (tinted : Bool) (rest : Text) :
    cellsFrom tinted 0 (text ++ rest) = text.map (⟨·, tinted⟩) ++ cellsFrom tinted 0 rest := by
  induction text with
  | nil => rfl
  | cons c later ih =>
      have first : c ≠ escape := fun same => plain (same ▸ List.mem_cons_self)
      rw [List.cons_append, cellsFrom, parameters?_of_plain first,
        ih (List.not_mem_of_not_mem_cons plain)]
      rfl

/-- A code is an escape, a bracket, digits and semicolons, and the letter m. -/
theorem parameters?_eq_some_iff {text parameters : Text} :
    parameters? text = some parameters ↔
      escape :: '[' :: parameters ++ ['m'] <+: text ∧ ∀ c ∈ parameters, isParameter c = true := by
  constructor
  · intro read
    unfold parameters? at read
    split at read
    · next rest =>
        split at read
        · next ends =>
            cases read
            obtain ⟨after, left⟩ := List.head?_eq_some_iff.mp ends
            have parted := List.takeWhile_append_dropWhile (p := isParameter) (l := rest)
            rw [left] at parted
            refine ⟨⟨after, ?_⟩, fun c member => List.mem_takeWhile_imp member⟩
            simpa [escape] using parted
        · cases read
    · cases read
  · rintro ⟨⟨after, rfl⟩, each⟩
    have spelled : escape :: '[' :: parameters ++ ['m'] ++ after =
        '\x1b' :: '[' :: (parameters ++ 'm' :: after) := by simp [escape]
    rw [spelled, parameters?, List.dropWhile_append_of_pos each, List.takeWhile_append_of_pos each]
    simp [isParameter]

theorem cellsFrom_code {digits : String} (parameters : digits.toList.all isParameter = true)
    (tinted : Bool) (rest : Text) :
    cellsFrom tinted 0 (code digits ++ rest) = cellsFrom (digits.toList != plainParameters) 0 rest := by
  have spelled : code digits ++ rest = escape :: (('[' :: digits.toList ++ ['m']) ++ rest) := rfl
  have counted : digits.toList.length + 2 = ('[' :: digits.toList ++ ['m']).length := by simp
  have read : parameters? (code digits ++ rest) = some digits.toList :=
    parameters?_eq_some_iff.mpr ⟨List.prefix_append _ rest, List.all_eq_true.mp parameters⟩
  rw [spelled] at read ⊢
  rw [cellsFrom, read]
  simp only [counted, cellsFrom_covered]

theorem cellsFrom_tint {kind : Kind} {tint : Text} (given : kind.tint? = some tint) (tinted : Bool)
    (rest : Text) : cellsFrom tinted 0 (tint ++ rest) = cellsFrom true 0 rest := by
  cases kind with
  | shownName =>
      cases given
      rw [List.append_assoc, cellsFrom_code rfl]
      exact cellsFrom_code rfl _ rest
  | comment | boost | command | characterAlias | arguments | dialogue =>
      cases given
      exact cellsFrom_code rfl tinted rest
  | punctuation | label | speaker | verbatim | plain => cases given

theorem parameters?_feed (text after : Text) : parameters? (text ++ '\n' :: after) = parameters? text := by
  apply Option.ext
  intro parameters
  rw [parameters?_eq_some_iff, parameters?_eq_some_iff]
  apply and_congr_left
  intro each
  have outside : '\n' ∉ escape :: '[' :: parameters ++ ['m'] := by
    have other : '\n' ∉ parameters := fun member => absurd (each '\n' member) (by decide)
    simpa [escape] using other
  exact ⟨Text.prefix_of_prefix_split outside, fun here => here.trans (List.prefix_append text _)⟩

theorem cellsFrom_feed {before : Text} {pending : Nat} (within : pending ≤ before.length)
    (tinted : Bool) (after : Text) :
    ∃ left, cellsFrom tinted pending (before ++ '\n' :: after) =
      cellsFrom tinted pending before ++ ⟨'\n', left⟩ :: cellsFrom left 0 after := by
  induction before generalizing tinted pending with
  | nil =>
      obtain rfl : pending = 0 := Nat.le_zero.mp within
      have plain : escape ∉ ['\n'] := by decide
      exact ⟨tinted, cellsFrom_plain plain tinted after⟩
  | cons c rest ih =>
      cases pending with
      | succ pending => exact ih (Nat.le_of_succ_le_succ within) tinted
      | zero =>
          have same : parameters? (c :: (rest ++ '\n' :: after)) = parameters? (c :: rest) :=
            parameters?_feed (c :: rest) after
          cases read : parameters? (c :: rest) with
          | none =>
              obtain ⟨left, later⟩ := ih (Nat.zero_le _) tinted
              refine ⟨left, ?_⟩
              rw [List.cons_append, cellsFrom, cellsFrom, same, read]
              exact congrArg (_ :: ·) later
          | some parameters =>
              -- a code that starts before the line feed ends before it as well
              have fits := (parameters?_eq_some_iff.mp read).1.length_le
              have covered : parameters.length + 2 ≤ rest.length := by
                simp only [List.cons_append, List.length_cons, List.length_append, List.length_nil] at fits
                omega
              obtain ⟨left, later⟩ := ih covered (parameters != plainParameters)
              refine ⟨left, ?_⟩
              rw [List.cons_append, cellsFrom, cellsFrom, same, read]
              exact later

/-- A text that is shown like this whatever follows it, and leaves no colour on. -/
def ShownAs (text : Text) (found : List Cell) : Prop :=
  ∀ rest, cells (text ++ rest) = found ++ cells rest

theorem ShownAs.append {text other : Text} {found further : List Cell} (first : ShownAs text found)
    (second : ShownAs other further) : ShownAs (text ++ other) (found ++ further) := by
  intro rest
  rw [List.append_assoc, first, second, List.append_assoc]

theorem ShownAs.flatMap {α : Type} {items : List α} {write : α → Text} {shown : α → List Cell}
    (each : ∀ item ∈ items, ShownAs (write item) (shown item)) :
    ShownAs (items.flatMap write) (items.flatMap shown) := by
  induction items with
  | nil => exact fun rest => rfl
  | cons item others ih =>
      have later := ih fun item member => each item (List.mem_cons_of_mem _ member)
      exact (each item List.mem_cons_self).append later

/-- A character of a token as it is shown: a line feed has no colour. -/
def Kind.shows (kind : Kind) (c : Char) : Cell :=
  ⟨c, kind.tint?.isSome && c != '\n'⟩

theorem shows_solid {kind : Kind} {content : Text} (solid : '\n' ∉ content) :
    content.map kind.shows = content.map (⟨·, kind.tint?.isSome⟩) := by
  apply List.map_congr_left
  intro c member
  simp [Kind.shows, ne_of_mem_of_not_mem member solid]

theorem paint_shown (kind : Kind) {content : Text} (plain : escape ∉ content) (solid : '\n' ∉ content) :
    ShownAs (paint kind.tint? content) (content.map kind.shows) := by
  intro rest
  rw [shows_solid solid]
  cases given : kind.tint? with
  | none => exact cellsFrom_plain plain false rest
  | some tint =>
      have back : cellsFrom true 0 (reset ++ rest) = cells rest := cellsFrom_code rfl true rest
      rw [paint, List.append_assoc, List.append_assoc, cells, cellsFrom_tint given,
        cellsFrom_plain plain, back]
      rfl

theorem paintPiece_shown (kind : Kind) {piece : Text} (plain : escape ∉ piece)
    (unbroken : '\n' ∉ piece.dropLast) :
    ShownAs (paintPiece kind.tint? piece) (piece.map kind.shows) := by
  unfold paintPiece
  split
  · next ends =>
      obtain ⟨front, rfl⟩ := List.getLast?_eq_some_iff.mp ends
      rw [List.dropLast_concat] at unbroken ⊢
      have feed : ShownAs ['\n'] [kind.shows '\n'] := by
        intro rest
        rw [Kind.shows, bne_self_eq_false, Bool.and_false]
        exact cellsFrom_plain (by decide) false rest
      rw [List.map_append]
      exact (paint_shown kind (fun member => plain (List.mem_append_left _ member)) unbroken).append feed
  · next ongoing =>
      apply paint_shown kind plain
      intro member
      obtain ⟨front, last, rfl⟩ : ∃ front last, piece = front ++ [last] :=
        ⟨_, _, (List.dropLast_concat_getLast (List.ne_nil_of_mem member)).symm⟩
      rw [List.dropLast_concat] at unbroken
      rcases List.mem_append.mp member with inside | final
      · exact unbroken inside
      · rw [List.mem_singleton.mp final] at ongoing
        exact ongoing (by simp)

/-- The pieces of a token are shown as one, so its characters are all that counts. -/
theorem painted_shown {token : Token} (plain : escape ∉ token.lexeme) :
    ShownAs token.painted (token.lexeme.map token.kind.shows) := by
  have whole := Text.pieces_flatten token.lexeme
  have each : ∀ piece ∈ Text.pieces token.lexeme,
      ShownAs (paintPiece token.kind.tint? piece) (piece.map token.kind.shows) := by
    intro piece member
    apply paintPiece_shown _ _ (Text.pieces_unbroken token.lexeme piece member).2
    intro inside
    exact plain (whole ▸ List.mem_flatten_of_mem member inside)
  have joined : (Text.pieces token.lexeme).flatMap (List.map token.kind.shows) =
      token.lexeme.map token.kind.shows := by
    rw [List.flatMap_def, ← List.map_flatten, whole]
  rw [← joined]
  exact .flatMap each

theorem mem_of_mem_normalised {source : Text} {c : Char} (member : c ∈ normalised source)
    (differs : c ≠ '\n') : c ∈ source := by
  obtain ⟨marked, body, lead, trail, origin, whole, _, _, _, same⟩ := normalised_spec source
  have inBody : c ∈ body := by simpa [same, differs] using member
  have unified : c ∈ Text.unifyNewlines marked := by simp [whole, inBody]
  have kept : c ∈ marked := (Text.mem_of_mem_unifyNewlines unified).resolve_left differs
  rcases origin with rfl | ⟨rfl, _⟩
  · exact List.mem_cons_of_mem _ kept
  · exact kept

theorem cells_painted {source : Text} (plain : escape ∉ source) :
    cells (painted source) =
      (scan source).flatMap fun token => token.lexeme.map token.kind.shows := by
  have each : ∀ token ∈ scan source, ShownAs token.painted (token.lexeme.map token.kind.shows) := by
    intro token listed
    apply painted_shown
    intro inside
    have member : escape ∈ normalised source :=
      lexemes_scan source ▸ List.mem_flatMap.mpr ⟨token, listed, inside⟩
    exact plain (mem_of_mem_normalised member (by decide))
  have whole := ShownAs.flatMap each []
  rwa [List.append_nil, show cells [] = [] from rfl, List.append_nil] at whole

/-- Painting a source adds colour and nothing else: less the codes it is the source again, with a
mark in front dropped and its line ends put in order. No line feed is in colour, and any other
character is if the kind of its token is. -/
theorem painted_adds_colour_only (source : Text) (plain : escape ∉ source) :
    (∃ marked body lead trail,
      (source = '\ufeff' :: marked ∨ source = marked ∧ source.head? ≠ some '\ufeff') ∧
      Text.unifyNewlines marked = List.replicate lead '\n' ++ body ++ List.replicate trail '\n' ∧
      body.head? ≠ some '\n' ∧ body.getLast? ≠ some '\n' ∧ '\r' ∉ body ∧
      normalised source = body ++ ['\n'] ∧ withoutCodes (painted source) = normalised source) ∧
    (∀ before after, painted source = before ++ '\n' :: after →
      cells (painted source) = cells before ++ ⟨'\n', false⟩ :: cells after) ∧
    cells (painted source) =
      (scan source).flatMap fun token => token.lexeme.map fun c =>
        ⟨c, token.kind.tint?.isSome && c != '\n'⟩ := by
  have shown := cells_painted plain
  have spelled : withoutCodes (painted source) = normalised source := by
    rw [withoutCodes, shown, List.map_flatMap]
    calc
      (scan source).flatMap (fun token => (token.lexeme.map token.kind.shows).map Cell.character) =
          lexemes (scan source) := by
        apply List.flatMap_congr
        intro token _
        rw [List.map_map]
        exact List.map_id token.lexeme
      _ = normalised source := lexemes_scan source
  refine ⟨?_, ?_, shown⟩
  · obtain ⟨marked, body, lead, trail, origin, whole, first, last, returns, same⟩ := normalised_spec source
    exact ⟨marked, body, lead, trail, origin, whole, first, last, returns, same, spelled⟩
  · intro before after split
    obtain ⟨left, parted⟩ := cellsFrom_feed (Nat.zero_le before.length) false after
    have listed : ⟨'\n', left⟩ ∈ cells (painted source) := by
      rw [split, cells, parted]
      exact List.mem_append_right _ List.mem_cons_self
    rw [shown] at listed
    obtain ⟨token, _, inside⟩ := List.mem_flatMap.mp listed
    obtain ⟨c, _, same⟩ := List.mem_map.mp inside
    obtain ⟨rfl, uncoloured⟩ := Cell.mk.inj same
    obtain rfl : false = left := by simpa using uncoloured
    rw [split]
    exact parted

/-- A vertical tab cuts the comment, and both pieces of it are in colour. -/
theorem painted_adds_colour_only_tabbed :
    painted "#a\x0bb\r\n;;c".toList = "\x1b[37m#a\x0b\x1b[39;49;00m\x1b[37mb\x1b[39;49;00m\n;;c\n".toList ∧
      withoutCodes (painted "#a\x0bb\r\n;;c".toList) = "#a\x0bb\n;;c\n".toList ∧
      ∃ front, cells (painted "#a\x0bb\r\n;;c".toList) = front ++ ⟨'\n', false⟩ :: cells ";;c\n".toList := by
  obtain ⟨⟨_, _, _, _, _, _, _, _, _, _, spelled⟩, feeds, _⟩ :=
    painted_adds_colour_only "#a\x0bb\r\n;;c".toList (by decide)
  have written : painted "#a\x0bb\r\n;;c".toList = "\x1b[37m#a\x0b\x1b[39;49;00m\x1b[37mb\x1b[39;49;00m".toList ++
      '\n' :: ";;c\n".toList := by decide
  exact ⟨written, spelled, _, feeds _ _ written⟩

end Highlight

end SceneNotation
