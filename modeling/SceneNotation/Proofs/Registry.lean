import Mathlib.Data.List.Nodup
import SceneNotation.Instruction.Registry

/- What a table answers after a name is bound and in which order it then holds its
   names, and from that what a registry finds after any number of registrations. Of
   the built-in instructions only one compiles other texts, and none echoes its
   arguments. -/
namespace SceneNotation

namespace Bindings

variable {α : Type}

theorem lookup_cons_if (first other : Text) (held : α) (rest : List (Text × α)) :
    ((first, held) :: rest).lookup other = if other = first then some held else rest.lookup other := by
  rw [List.lookup_cons]
  by_cases same : other = first
  · simp [same]
  · have differs : (other == first) = false := beq_eq_false_iff_ne.mpr same
    simp [same, differs]

theorem lookup_bindIn (name other : Text) (value : α) (entries : List (Text × α)) :
    (bindIn name value entries).lookup other =
      if other = name then some value else entries.lookup other := by
  induction entries with
  | nil => rw [bindIn, lookup_cons_if]
  | cons entry rest ih =>
      obtain ⟨first, held⟩ := entry
      rw [bindIn]
      by_cases here : first = name
      · rw [if_pos here, lookup_cons_if, lookup_cons_if, here]
        split <;> rfl
      · rw [if_neg here, lookup_cons_if, lookup_cons_if, ih]
        by_cases same : other = name
        · have differs : other ≠ first := fun clash => here (clash.symm.trans same)
          rw [if_neg differs, if_pos same, if_pos same]
        · rw [if_neg same, if_neg same]

theorem mem_of_mem_bindIn {name : Text} {value : α} {entries : List (Text × α)} {entry : Text × α}
    (bound : entry ∈ bindIn name value entries) : entry = (name, value) ∨ entry ∈ entries := by
  induction entries with
  | nil => exact Or.inl (List.mem_singleton.mp bound)
  | cons first rest ih =>
      rw [bindIn] at bound
      split at bound
      · exact (List.mem_cons.mp bound).imp id (List.mem_cons_of_mem first)
      · rcases List.mem_cons.mp bound with rfl | later
        · exact Or.inr List.mem_cons_self
        · exact (ih later).imp id (List.mem_cons_of_mem first)

theorem find?_bind (table : Bindings α) (name other : Text) (value : α) :
    (table.bind name value).find? other = if other = name then some value else table.find? other :=
  lookup_bindIn name other value table.entries

theorem find?_eq_none_iff {table : Bindings α} {name : Text} :
    table.find? name = none ↔ name ∉ table.names := by
  rw [find?, List.lookup_eq_none_iff, names, List.mem_map]
  constructor
  · rintro apart ⟨entry, listed, rfl⟩
    simpa using apart entry listed
  · intro absent entry listed
    have differs : name ≠ entry.1 := fun same => absent ⟨entry, listed, same.symm⟩
    simpa using differs

/-- The table has each name once, in the order of its first entry and with the value of its last. -/
structure Tabulates (table : Bindings α) (given : List (Text × α)) : Prop where
  once : table.names.Nodup
  order : table.names = (given.map Prod.fst).eraseDups
  last : ∀ name, table.find? name = given.reverse.lookup name

theorem names_bind (table : Bindings α) (name : Text) (value : α) :
    (table.bind name value).names =
      if name ∈ table.names then table.names else table.names ++ [name] := by
  obtain ⟨entries⟩ := table
  change (bindIn name value entries).map Prod.fst = if name ∈ entries.map Prod.fst then
    entries.map Prod.fst else entries.map Prod.fst ++ [name]
  induction entries with
  | nil => rfl
  | cons entry rest ih =>
      rw [bindIn]
      by_cases here : entry.1 = name
      · simp [here]
      · rw [if_neg here, List.map_cons, ih, List.map_cons]
        by_cases later : name ∈ rest.map Prod.fst
        · rw [if_pos later, if_pos (List.mem_cons_of_mem _ later)]
        · have absent : name ∉ entry.1 :: rest.map Prod.fst := by
            rw [List.mem_cons, not_or]
            exact ⟨Ne.symm here, later⟩
          rw [if_neg later, if_neg absent]
          rfl

theorem Tabulates.nil : ({} : Bindings α).Tabulates [] where
  once := List.nodup_nil
  order := rfl
  last := fun _ => rfl

theorem eraseDups_concat (names : List Text) (name : Text) :
    (names ++ [name]).eraseDups =
      if name ∈ names then names.eraseDups else names.eraseDups ++ [name] := by
  rw [List.eraseDups_append]
  by_cases known : name ∈ names
  · simp [List.removeAll, known]
  · simp [List.removeAll, known, List.eraseDups_cons]

theorem Tabulates.bind {table : Bindings α} {given : List (Text × α)} (tabulates : table.Tabulates given)
    (name : Text) (value : α) : (table.bind name value).Tabulates (given ++ [(name, value)]) where
  once := by
    rw [names_bind]
    by_cases known : name ∈ table.names
    · rw [if_pos known]
      exact tabulates.once
    · rw [if_neg known]
      exact List.nodup_append_comm.mp (List.nodup_cons.mpr ⟨known, tabulates.once⟩)
  order := by
    rw [names_bind, List.map_append, List.map_singleton, eraseDups_concat, tabulates.order]
    simp only [List.mem_eraseDups]
  last := by
    intro other
    rw [find?_bind, List.reverse_append, List.reverse_singleton, List.singleton_append, lookup_cons_if,
      tabulates.last]

end Bindings

namespace Instruction.Registry

theorem find?_register (registry : Registry) (spec : Spec) (name : Text) :
    (registry.register spec).find? name = if name = spec.name then some spec else registry.find? name :=
  Bindings.find?_bind registry.specs spec.name name spec

theorem find?_registrations (specs : List Spec) (registry : Registry) (name : Text) :
    (specs.foldl register registry).find? name =
      ((specs.filter fun spec => spec.name = name).getLast?).or (registry.find? name) := by
  induction specs generalizing registry with
  | nil => rfl
  | cons spec rest ih =>
      rw [List.foldl_cons, ih, find?_register, List.filter_cons]
      by_cases same : spec.name = name
      · rw [if_pos same.symm, if_pos (decide_eq_true same), List.getLast?_cons]
        cases (rest.filter fun spec => spec.name = name).getLast? <;> rfl
      · rw [if_neg (Ne.symm same), if_neg (by simpa using same)]

theorem find?_registered {specs : List Spec} {name : Text}
    (others : ∀ spec ∈ specs, spec.name ≠ name) (registry : Registry) :
    (specs.foldl register registry).find? name = registry.find? name := by
  have none : specs.filter (fun spec => spec.name = name) = [] := by
    simpa [List.filter_eq_nil_iff] using others
  rw [find?_registrations, none]
  rfl

theorem builtin_splice {name : Text} {spec : Spec} (found : builtin.find? name = some spec)
    (splices : spec.action = .splice) : name = "include".toList := by
  have every : ∀ entry ∈ builtin.specs.entries,
      entry.2.action = .splice → entry.1 = "include".toList := by decide
  exact every (name, spec) (Bindings.mem_of_find? found) splices

theorem builtin_silent {name : Text} {spec : Spec} (found : builtin.find? name = some spec)
    (level? : Option Int) : spec.action ≠ .echo level? := by
  have every : ∀ entry ∈ builtin.specs.entries,
      entry.2.action ∈ [.enter .block, .enter .script, .enter .nestedBlock, .splice, .style, .endStyle,
        .define, .ifDefined, .ifUndefined, .endIf] := by decide
  have listed := every (name, spec) (Bindings.mem_of_find? found)
  intro echoes
  simp [echoes] at listed

end Instruction.Registry

end SceneNotation
