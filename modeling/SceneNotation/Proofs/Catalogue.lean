import SceneNotation.Proofs.Registry

/- Whatever callers register, the names of a registry come in the order in which
   they first came up, behind those that are built in. The listings by category are
   the same names sorted into five, each with what was last registered for it. A
   name that is registered again keeps its place, and goes over to the listing of
   its new category and to no other. -/
namespace SceneNotation

namespace Bindings

variable {α : Type}

theorem values_eq_found {table : Bindings α} (once : table.names.Nodup) :
    table.values = table.names.filterMap table.find? := by
  obtain ⟨entries⟩ := table
  change entries.map Prod.snd = (entries.map Prod.fst).filterMap fun name => entries.lookup name
  replace once : (entries.map Prod.fst).Nodup := once
  induction entries with
  | nil => rfl
  | cons entry rest ih =>
      obtain ⟨name, value⟩ := entry
      obtain ⟨absent, later⟩ := List.nodup_cons.mp once
      have here : ((name, value) :: rest).lookup name = some value := by
        rw [lookup_cons_if, if_pos rfl]
      have beyond : ((rest.map Prod.fst).filterMap fun other => ((name, value) :: rest).lookup other) =
          (rest.map Prod.fst).filterMap fun other => rest.lookup other := by
        apply List.filterMap_congr
        intro other listed
        rw [lookup_cons_if, if_neg (ne_of_mem_of_not_mem listed absent)]
      rw [List.map_cons, List.map_cons, List.filterMap_cons, here, beyond, ih later]

end Bindings

namespace Instruction

namespace Category

theorem sorted_perm (specs : List Spec) :
    (all.flatMap fun category => specs.filter fun spec => spec.category = category).Perm specs := by
  -- each one is listed under its own category, as often as before, and under no other
  rw [List.perm_iff_count]
  intro spec
  have counted : ∀ category : Category,
      (specs.filter fun spec => spec.category = category).count spec =
        if spec.category = category then specs.count spec else 0 := by
    intro category
    split
    · next same => exact List.count_filter (decide_eq_true same)
    · next differs =>
        rw [List.count_eq_zero, List.mem_filter]
        exact fun listed => differs (of_decide_eq_true listed.2)
  simp only [all, List.flatMap_cons, List.flatMap_nil, List.append_nil, List.count_append, counted]
  cases spec.category <;> simp

end Category

namespace Registry

/-- The registry after callers have registered these, one after the other. -/
def extended (specs : List Spec) : Registry :=
  specs.foldl register builtin

theorem extended_concat (specs : List Spec) (spec : Spec) :
    extended (specs ++ [spec]) = (extended specs).register spec := by
  rw [extended, List.foldl_append]
  rfl

theorem tabulates_registrations {registry : Registry} {given : List Spec}
    (tabulates : registry.specs.Tabulates (given.map fun spec => (spec.name, spec))) (specs : List Spec) :
    (specs.foldl register registry).specs.Tabulates
      ((given ++ specs).map fun spec => (spec.name, spec)) := by
  -- with every registration the list that the table holds grows by one
  induction specs generalizing registry given with
  | nil => simpa using tabulates
  | cons spec rest ih =>
      have one : (registry.register spec).specs.Tabulates
          ((given ++ [spec]).map fun spec => (spec.name, spec)) := by
        rw [List.map_append]
        exact tabulates.bind spec.name spec
      have all := ih one
      rwa [List.append_assoc] at all

theorem extended_tabulates (specs : List Spec) :
    (extended specs).specs.Tabulates ((builtinSpecs ++ specs).map fun spec => (spec.name, spec)) := by
  have empty : ({} : Registry).specs.Tabulates (([] : List Spec).map fun spec => (spec.name, spec)) := .nil
  exact tabulates_registrations (tabulates_registrations empty builtinSpecs) specs

theorem extended_names (specs : List Spec) :
    (extended specs).names = builtinSpecs.map Spec.name ++
      ((specs.map Spec.name).removeAll (builtinSpecs.map Spec.name)).eraseDups := by
  have distinct : (builtinSpecs.map Spec.name).eraseDups = builtinSpecs.map Spec.name := by decide
  have order := (extended_tabulates specs).order
  rw [List.map_map, List.map_append, List.eraseDups_append] at order
  change (extended specs).specs.names = (builtinSpecs.map Spec.name).eraseDups ++ _ at order
  rw [distinct] at order
  exact order

theorem lookup_named (specs : List Spec) (name : Text) :
    (specs.map fun spec => (spec.name, spec)).lookup name = specs.find? fun spec => spec.name = name := by
  induction specs with
  | nil => rfl
  | cons spec rest ih =>
      rw [List.map_cons, Bindings.lookup_cons_if, ih, List.find?_cons]
      by_cases same : spec.name = name
      · simp [same]
      · simp [same, Ne.symm same]

theorem extended_find? (specs : List Spec) (name : Text) :
    (extended specs).find? name = ((specs.filter fun spec => spec.name = name).getLast?).or
      (builtinSpecs.find? fun spec => spec.name = name) := by
  have fresh : builtin.specs.entries = builtinSpecs.map fun spec => (spec.name, spec) := by rfl
  have first : builtin.find? name = builtinSpecs.find? fun spec => spec.name = name := by
    rw [find?, Bindings.find?, fresh, lookup_named]
  rw [extended, find?_registrations, first]

section Listings

variable {specs : List Spec} {spec : Spec} {name : Text} {category : Category}

theorem name_of_find? (found : (extended specs).find? name = some spec) : spec.name = name := by
  rw [extended_find?, Option.or_eq_some_iff] at found
  rcases found with last | ⟨_, first⟩
  · simpa using List.of_mem_filter (List.mem_of_getLast? last)
  · simpa using List.find?_some first

theorem inCategory_eq_found (specs : List Spec) (category : Category) :
    (extended specs).inCategory category = (extended specs).names.filterMap fun name =>
      ((extended specs).find? name).filter fun spec => spec.category = category := by
  rw [inCategory, Bindings.values_eq_found (extended_tabulates specs).once, List.filter_filterMap]
  rfl

theorem mem_inCategory_iff :
    spec ∈ (extended specs).inCategory category ↔
      (extended specs).find? spec.name = some spec ∧ spec.category = category := by
  rw [inCategory_eq_found, List.mem_filterMap]
  simp only [Option.filter_eq_some_iff, decide_eq_true_iff]
  constructor
  · rintro ⟨name, _, found, here⟩
    rw [name_of_find? found]
    exact ⟨found, here⟩
  · rintro ⟨found, here⟩
    refine ⟨spec.name, ?_, found, here⟩
    by_contra unnamed
    have absent : (extended specs).find? spec.name = none := Bindings.find?_eq_none_iff.mpr unnamed
    rw [absent] at found
    cases found

theorem named_inCategory_iff :
    name ∈ ((extended specs).inCategory category).map Spec.name ↔
      ∃ spec, (extended specs).find? name = some spec ∧ spec.category = category := by
  rw [List.mem_map]
  constructor
  · rintro ⟨spec, listed, rfl⟩
    exact ⟨spec, mem_inCategory_iff.mp listed⟩
  · rintro ⟨spec, found, here⟩
    have own := name_of_find? found
    refine ⟨spec, mem_inCategory_iff.mpr ⟨?_, here⟩, own⟩
    rwa [own]

theorem register_names (known : spec.name ∈ (extended specs).names) :
    ((extended specs).register spec).names = (extended specs).names :=
  (Bindings.names_bind (extended specs).specs spec.name spec).trans (if_pos known)

theorem register_moves :
    name ∈ (((extended specs).register spec).inCategory category).map Spec.name ↔
      if name = spec.name then category = spec.category
      else name ∈ ((extended specs).inCategory category).map Spec.name := by
  rw [← extended_concat, named_inCategory_iff, extended_concat, find?_register]
  split
  · simp [eq_comm]
  · exact named_inCategory_iff.symm

end Listings

/-- The names of a registry are those built in and then the others in the order in which they first
came up, each once; a name is found with what was last registered under it; and the listings by
category share out the names with what is found for each, every listing in that order. A name that
is registered again keeps its place, and is listed under its new category and no other. -/
theorem catalogue_consistent (specs : List Spec) :
    ((extended specs).names = builtinSpecs.map Spec.name ++
        ((specs.map Spec.name).removeAll (builtinSpecs.map Spec.name)).eraseDups ∧
      (extended specs).names.Nodup) ∧
    (∀ name, (extended specs).find? name =
        ((specs.filter fun spec => spec.name = name).getLast?).or
          (builtinSpecs.find? fun spec => spec.name = name) ∧
      ((extended specs).find? name = none ↔ name ∉ (extended specs).names)) ∧
    ((Category.all.flatMap (extended specs).inCategory).Perm
        ((extended specs).names.filterMap (extended specs).find?) ∧
      ∀ category, (extended specs).inCategory category = (extended specs).names.filterMap fun name =>
        ((extended specs).find? name).filter fun spec => spec.category = category) ∧
    ∀ spec, spec.name ∈ (extended specs).names →
      ((extended specs).register spec).names = (extended specs).names ∧
      ∀ name category, name ∈ (((extended specs).register spec).inCategory category).map Spec.name ↔
        if name = spec.name then category = spec.category
        else name ∈ ((extended specs).inCategory category).map Spec.name := by
  have once := (extended_tabulates specs).once
  have values : (extended specs).specs.values = (extended specs).names.filterMap (extended specs).find? :=
    Bindings.values_eq_found once
  refine ⟨⟨extended_names specs, once⟩, ?_, ⟨?_, inCategory_eq_found specs⟩, ?_⟩
  · intro name
    exact ⟨extended_find? specs name, Bindings.find?_eq_none_iff⟩
  · rw [← values]
    exact Category.sorted_perm (extended specs).specs.values
  · intro spec known
    exact ⟨register_names known, fun name category => register_moves⟩

/-- A built-in name that callers move to another category stays in front of the name they added. -/
theorem catalogue_consistent_moved :
    let wait : Spec := { name := "wait".toList, category := .mode, action := .echo none }
    let style : Spec := { specStyle with category := .mode }
    style.name ∈ (extended [wait]).names ∧
      ((extended [wait]).register style).names = builtinSpecs.map Spec.name ++ ["wait".toList] ∧
      style.name ∈ (((extended [wait]).register style).inCategory .mode).map Spec.name ∧
      style.name ∉ (((extended [wait]).register style).inCategory .decoration).map Spec.name := by
  intro wait style
  have known : style.name ∈ (extended [wait]).names := by decide
  obtain ⟨⟨order, _⟩, _, _, again⟩ := catalogue_consistent [wait]
  obtain ⟨kept, moved⟩ := again style known
  refine ⟨known, ?_, ?_, ?_⟩
  · rw [kept, order]
    decide
  · rw [moved, if_pos rfl]
  · rw [moved, if_pos rfl]
    decide

end Registry

end Instruction

end SceneNotation
