import SceneNotation.FileSystem

/- Writing a file changes one place, whether it can be written does not hang on what
   is written, and what was written is read back. Making directories, however far it
   gets, only adds directories: every file stays where it was and as it was. -/
namespace SceneNotation.FileSystem

theorem nodeIn?_putIn (place other : Location) (node : Node) (nodes : List (Location × Node)) :
    nodeIn? other (putIn place node nodes) =
      if other = place then some node else nodeIn? other nodes := by
  induction nodes with
  | nil => simp only [putIn, nodeIn?, eq_comm]
  | cons entry rest ih =>
      rw [putIn]
      by_cases here : entry.1 = place
      · subst here
        simp only [if_true, nodeIn?, eq_comm (a := other)]
        split <;> rfl
      · simp only [here, if_false, nodeIn?, ih]
        by_cases found : entry.1 = other
        · rw [if_pos found, if_pos found, if_neg (found ▸ here)]
        · rw [if_neg found, if_neg found]

variable {system : FileSystem} {place : Location}

theorem isRoot_of_openable (openable : system.node? place ≠ some .directory) :
    place.isRoot = false := by
  cases root : place.isRoot with
  | false => rfl
  | true => exact absurd (if_pos root) openable

/-- Nothing can be put at the root, so what is put anywhere else is there afterwards. -/
theorem node?_put (below : place.isRoot = false) (node : Node) (other : Location) :
    (system.put place node).node? other = if other = place then some node else system.node? other := by
  by_cases root : other.isRoot = true
  · have elsewhere : other ≠ place := by
      rintro rfl
      rw [below] at root
      cases root
    rw [if_neg elsewhere, node?, node?, if_pos root, if_pos root]
  · rw [node?, node?, if_neg root, if_neg root]
    exact nodeIn?_putIn place other node system.nodes

/-- A path only leads through directories, so it leads on past whatever is put elsewhere. -/
theorem follow_put (openable : system.node? place ≠ some .directory) (node : Node) {start : Location}
    {parts : List Text} {reached : Location} (leads : system.follow start parts = .ok reached) :
    (system.put place node).follow start parts = .ok reached := by
  induction parts generalizing start with
  | nil => exact leads
  | cons part rest ih =>
      rw [follow] at leads ⊢
      cases here : system.node? start with
      | none =>
          rw [here] at leads
          cases leads
      | some found =>
          rw [here] at leads
          cases found with
          | file bytes => cases leads
          | directory =>
              have elsewhere : start ≠ place := by
                rintro rfl
                exact openable here
              rw [node?_put (isRoot_of_openable openable), if_neg elsewhere, here]
              exact ih leads

theorem contains_of_isDirectory {path : Path} (directory : system.isDirectory path = true) :
    system.contains path = true := by
  unfold isDirectory at directory
  unfold contains
  rw [Bool.and_eq_true] at directory ⊢
  refine ⟨directory.1, ?_⟩
  cases found : system.lookup path with
  | ok node => rfl
  | error trouble => simp [found] at directory

theorem writeBytes_eq_ok_iff {path : Path} {bytes : List UInt8} {written : FileSystem} :
    system.writeBytes path bytes = .ok written ↔
      path.holdsNul = false ∧ ∃ place, system.locate path = .ok place ∧
        system.node? place ≠ some .directory ∧ written = system.put place (.file bytes) := by
  unfold writeBytes
  constructor
  · intro writes
    split at writes
    · cases writes
    · next named =>
        split at writes
        · cases writes
        · next place located =>
            split at writes
            · cases writes
            · next openable =>
                refine ⟨by simpa using named, place, located, openable, ?_⟩
                cases writes
                rfl
  · rintro ⟨named, place, located, openable, rfl⟩
    simp only [named, located, Bool.false_eq_true, if_false]

theorem exists_writeBytes {path : Path} {first : List UInt8} {written : FileSystem}
    (writes : system.writeBytes path first = .ok written) (second : List UInt8) :
    ∃ other, system.writeBytes path second = .ok other := by
  obtain ⟨named, place, located, openable, _⟩ := writeBytes_eq_ok_iff.mp writes
  exact ⟨_, writeBytes_eq_ok_iff.mpr ⟨named, place, located, openable, rfl⟩⟩

theorem readBytes_eq_ok_iff {path : Path} {bytes : List UInt8} :
    system.readBytes path = .ok bytes ↔
      path.holdsNul = false ∧ ∃ place, system.locate path = .ok place ∧
        system.node? place = some (.file bytes) := by
  unfold readBytes lookup
  constructor
  · intro reads
    split at reads
    · cases reads
    · next named =>
        split at reads
        · next found =>
            cases reads
            split at found
            · cases found
            · next place located =>
                split at found
                · next held =>
                    cases found
                    exact ⟨by simpa using named, place, located, held⟩
                · cases found
        · cases reads
        · cases reads
  · rintro ⟨named, place, located, held⟩
    simp only [named, located, held, Bool.false_eq_true, if_false]

theorem readBytes_of_writeBytes {path : Path} {bytes : List UInt8} {written : FileSystem}
    (writes : system.writeBytes path bytes = .ok written) : written.readBytes path = .ok bytes := by
  obtain ⟨named, place, located, openable, rfl⟩ := writeBytes_eq_ok_iff.mp writes
  refine readBytes_eq_ok_iff.mpr ⟨named, place, follow_put openable _ located, ?_⟩
  rw [node?_put (isRoot_of_openable openable), if_pos rfl]

/-- Some places where nothing stood may have become directories; nothing else differs. -/
structure AddsDirectories (before after : FileSystem) : Prop where
  workingDirectory : after.workingDirectory = before.workingDirectory
  node? : ∀ place, after.node? place = before.node? place ∨
    before.node? place = none ∧ after.node? place = some .directory

namespace AddsDirectories

variable {before middle after : FileSystem}

theorem refl (system : FileSystem) : AddsDirectories system system :=
  ⟨rfl, fun _ => Or.inl rfl⟩

theorem trans (first : AddsDirectories before middle) (second : AddsDirectories middle after) :
    AddsDirectories before after := by
  refine ⟨second.workingDirectory.trans first.workingDirectory, fun place => ?_⟩
  rcases second.node? place with same | ⟨vacant, added⟩
  · rw [same]
    exact first.node? place
  · rcases first.node? place with earlier | ⟨_, taken⟩
    · exact Or.inr ⟨earlier ▸ vacant, added⟩
    · rw [vacant] at taken
      cases taken

theorem kept (adds : AddsDirectories before after) {place : Location} {node : Node}
    (found : before.node? place = some node) : after.node? place = some node := by
  rcases adds.node? place with same | ⟨vacant, _⟩
  · rw [same, found]
  · rw [vacant] at found
    cases found

theorem follow (adds : AddsDirectories before after) {start reached : Location} {parts : List Text}
    (leads : before.follow start parts = .ok reached) : after.follow start parts = .ok reached := by
  induction parts generalizing start with
  | nil => exact leads
  | cons part rest ih =>
      rw [FileSystem.follow] at leads ⊢
      cases here : before.node? start with
      | none =>
          rw [here] at leads
          cases leads
      | some found =>
          rw [here] at leads
          rw [adds.kept here]
          cases found with
          | file bytes => cases leads
          | directory => exact ih leads

theorem readBytes (adds : AddsDirectories before after) {path : Path} {bytes : List UInt8}
    (reads : before.readBytes path = .ok bytes) : after.readBytes path = .ok bytes := by
  obtain ⟨named, place, located, held⟩ := readBytes_eq_ok_iff.mp reads
  rw [readBytes_eq_ok_iff]
  refine ⟨named, place, ?_, adds.kept held⟩
  unfold locate at located ⊢
  rw [adds.workingDirectory]
  exact adds.follow located

theorem put (vacant : system.node? place = none) :
    AddsDirectories system (system.put place .directory) := by
  have openable : system.node? place ≠ some .directory := by simp [vacant]
  refine ⟨rfl, fun other => ?_⟩
  rw [node?_put (isRoot_of_openable openable)]
  by_cases here : other = place
  · rw [if_pos here, here]
    exact Or.inr ⟨vacant, rfl⟩
  · rw [if_neg here]
    exact Or.inl rfl

theorem makeDirectory {path : Path} {made : FileSystem}
    (makes : system.makeDirectory path = .ok made) : AddsDirectories system made := by
  unfold FileSystem.makeDirectory at makes
  split at makes
  · cases makes
  · split at makes
    · cases makes
    · next place _ =>
        split at makes
        · cases makes
        · next vacant =>
            cases makes
            exact put vacant

end AddsDirectories

theorem Changed.eq_of_faultless {changed : Changed} (faultless : changed.fault = none) :
    changed = ⟨changed.system, none⟩ := by
  rw [← faultless]

@[simp] theorem settle_system (system : FileSystem) (path : Path) (tolerant : Bool) (fault : Fault) :
    (settle system path tolerant fault).system = system := by
  unfold settle
  repeat' split
  all_goals rfl

/-- What was made before a fault only adds directories too. The induction is on the parts, as
those above a missing directory are made first. -/
theorem makeAbove_addsDirectories (anchor : Path.Anchor) (tolerant : Bool) (reversed : List Text)
    (system : FileSystem) : AddsDirectories system (makeAbove anchor tolerant reversed system).system := by
  induction reversed generalizing tolerant system with
  | nil =>
      rw [makeAbove]
      split
      · next made makes => exact .makeDirectory makes
      · rw [settle_system]
        exact .refl system
  | cons part above ih =>
      rw [makeAbove]
      split
      · next made makes => exact .makeDirectory makes
      · simp only
        split
        · exact ih true system
        · split
          · next made makes => exact (ih true system).trans (.makeDirectory makes)
          · rw [settle_system]
            exact ih true system
      · rw [settle_system]
        exact .refl system

theorem makeDirectories_addsDirectories (system : FileSystem) (path : Path) (tolerant : Bool) :
    AddsDirectories system (system.makeDirectories path tolerant).system :=
  makeAbove_addsDirectories path.anchor tolerant path.parts.reverse system

theorem AddsDirectories.of_makes {system made : FileSystem} {path : Path} {tolerant : Bool}
    (makes : system.makeDirectories path tolerant = ⟨made, none⟩) : AddsDirectories system made := by
  have adds := makeDirectories_addsDirectories system path tolerant
  rwa [makes] at adds

end SceneNotation.FileSystem
