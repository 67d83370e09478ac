import SceneNotation.Text.Basic

/- A table from names to values that remembers the order in which the names were
   first bound. Binding a name again changes its value and leaves its place. -/
namespace SceneNotation

structure Bindings (α : Type) where
  entries : List (Text × α) := []
  deriving DecidableEq, Repr

namespace Bindings

variable {α : Type}

def find? (table : Bindings α) (name : Text) : Option α :=
  table.entries.lookup name

def binds (table : Bindings α) (name : Text) : Bool :=
  (table.find? name).isSome

def bindIn (name : Text) (value : α) : List (Text × α) → List (Text × α)
  | [] => [(name, value)]
  | entry :: rest =>
      if entry.1 = name then (name, value) :: rest else entry :: bindIn name value rest

def bind (table : Bindings α) (name : Text) (value : α) : Bindings α :=
  ⟨bindIn name value table.entries⟩

def names (table : Bindings α) : List Text :=
  table.entries.map (·.1)

theorem mem_of_find? {table : Bindings α} {name : Text} {value : α}
    (found : table.find? name = some value) : (name, value) ∈ table.entries := by
  obtain ⟨before, after, split, _⟩ := List.lookup_eq_some_iff.mp found
  simp [split]

def values (table : Bindings α) : List α :=
  table.entries.map (·.2)

end Bindings

end SceneNotation
