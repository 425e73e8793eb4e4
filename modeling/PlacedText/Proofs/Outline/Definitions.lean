import PlacedText.Outline.NameTree
import Mathlib.Data.List.Induction
import Mathlib.Data.List.Nodup

/-! # First definitions

What some definitions of named destinations come to: the first definition of every name, and a
warning about each of the later ones (`NamedDestinations.keepsFirst`). There are no warnings if and
only if the names are different.
-/

namespace PlacedText

variable {ι α : Type}

namespace DestinationDefinition

variable {definitions : List (DestinationDefinition ι α)} {definition : DestinationDefinition ι α}

/-- The definitions that have the name of an earlier one, in order. -/
def repeated (definitions : List (DestinationDefinition ι α)) :
    List (DestinationDefinition ι α) :=
  (definitions.zipIdx.filter fun item =>
    item.1.name ∈ (definitions.take item.2).map name).map Prod.fst

/-- One more definition is a repetition just where its name was defined before. -/
theorem repeated_concat :
    repeated (definitions ++ [definition]) =
      repeated definitions ++
        if definition.name ∈ definitions.map name then [definition] else [] := by
  have before : ∀ item ∈ definitions.zipIdx,
      (definitions ++ [definition]).take item.2 = definitions.take item.2 := by
    intro item member
    have within := List.snd_lt_of_mem_zipIdx member
    exact List.take_append_of_le_length (by omega)
  unfold repeated
  rw [List.zipIdx_append, List.filter_append, List.map_append]
  congr 1
  · exact congrArg _ (List.filter_congr fun item member => by rw [before item member])
  · by_cases known : definition.name ∈ definitions.map name
    · simp [known]
    · simp [known]

/-- No definition has the name of an earlier one if and only if the names are different. -/
theorem repeated_eq_nil_iff : repeated definitions = [] ↔ (definitions.map name).Nodup := by
  induction definitions using List.reverseRecOn with
  | nil => simp [repeated]
  | append_singleton definitions definition ih =>
    rw [repeated_concat, List.append_eq_nil_iff, ih, List.map_append, List.map_singleton,
      List.nodup_append']
    by_cases known : definition.name ∈ definitions.map name
    · simp [known]
    · simp [known]

end DestinationDefinition

namespace NamedDestinations

open DestinationDefinition (repeated)

variable {named : NamedDestinations ι α} {name other : String} {destination : Destination ι α}

theorem contains_eq_isSome_get? : named.contains name = (named.get? name).isSome :=
  Std.HashMap.contains_eq_isSome_getElem?

theorem get?_define (isNew : ¬ named.contains name = true) :
    (named.define name destination).get? other =
      if name = other then some destination else named.get? other := by
  have absent : name ∉ named.byName := fun member =>
    isNew (Std.HashMap.mem_iff_contains.mp member)
  refine Std.HashMap.getElem?_insertIfNew.trans ?_
  simp [absent, get?]

theorem size_define (isNew : ¬ named.contains name = true) :
    (named.define name destination).size = named.size + 1 := by
  refine Std.HashMap.size_insertIfNew.trans (if_neg ?_)
  exact fun member => isNew (Std.HashMap.mem_iff_contains.mp member)

/-- Whether some destinations are those of the first definitions of their names, and some warnings
those about the later definitions. -/
structure KeepsFirst (definitions : List (DestinationDefinition ι α))
    (named : NamedDestinations ι α) (warnings : List Warning) : Prop where
  first : ∀ name, named.get? name =
    (definitions.find? fun definition => definition.name = name).map (·.destination)
  reports : warnings = (repeated definitions).map fun definition =>
    duplicateWarning definition.name
  count : named.size + warnings.length = definitions.length

namespace KeepsFirst

variable {definitions : List (DestinationDefinition ι α)} {definition : DestinationDefinition ι α}
  {warnings : List Warning}

theorem contains_iff (keeps : KeepsFirst definitions named warnings) :
    named.contains name = true ↔ name ∈ definitions.map DestinationDefinition.name := by
  rw [contains_eq_isSome_get?, keeps.first, Option.isSome_map, List.find?_isSome]
  simp

theorem warnings_eq_nil_iff (keeps : KeepsFirst definitions named warnings) :
    warnings = [] ↔ (definitions.map DestinationDefinition.name).Nodup := by
  rw [keeps.reports, List.map_eq_nil_iff, DestinationDefinition.repeated_eq_nil_iff]

/-- A name that has no other definition leads to its own one. -/
theorem get?_of_mem (keeps : KeepsFirst definitions named warnings)
    (single : ∀ other ∈ definitions, other.name = definition.name → other = definition)
    (member : definition ∈ definitions) :
    named.get? definition.name = some definition.destination := by
  have found : (definitions.find? fun other => other.name = definition.name).isSome :=
    List.find?_isSome.mpr ⟨definition, member, decide_eq_true rfl⟩
  obtain ⟨first, found⟩ := Option.isSome_iff_exists.mp found
  have same : first.name = definition.name := by
    simpa only [decide_eq_true_eq] using List.find?_some found
  rw [keeps.first, found, single first (List.mem_of_find?_eq_some found) same]
  rfl

/-- One more definition is reported if its name is defined. -/
theorem report (keeps : KeepsFirst definitions named warnings)
    (known : definition.name ∈ definitions.map DestinationDefinition.name) :
    KeepsFirst (definitions ++ [definition]) named
      (warnings ++ [duplicateWarning definition.name]) where
  first := by
    intro name
    rw [keeps.first, List.find?_append]
    by_cases same : definition.name = name
    · obtain ⟨earlier, member, named⟩ := List.mem_map.mp (same ▸ known)
      have found : (definitions.find? fun definition => definition.name = name).isSome :=
        List.find?_isSome.mpr ⟨earlier, member, decide_eq_true named⟩
      obtain ⟨_, found⟩ := Option.isSome_iff_exists.mp found
      rw [found, Option.some_or]
    · simp [same]
  reports := by
    rw [DestinationDefinition.repeated_concat, if_pos known, List.map_append, ← keeps.reports]
    rfl
  count := by
    have count := keeps.count
    simp only [List.length_append, List.length_singleton]
    omega

/-- One more definition stays if its name is not defined. -/
theorem define (keeps : KeepsFirst definitions named warnings)
    (isNew : definition.name ∉ definitions.map DestinationDefinition.name) :
    KeepsFirst (definitions ++ [definition])
      (named.define definition.name definition.destination) warnings where
  first := by
    intro name
    rw [get?_define (isNew ∘ keeps.contains_iff.mp), keeps.first, List.find?_append]
    by_cases same : definition.name = name
    · have absent : (definitions.find? fun definition => definition.name = name) = none := by
        refine List.find?_eq_none.mpr fun earlier member named => isNew ?_
        exact List.mem_map.mpr ⟨earlier, member, (of_decide_eq_true named).trans same.symm⟩
      simp [absent, same]
    · simp [same]
  reports := by
    rw [DestinationDefinition.repeated_concat, if_neg isNew, List.append_nil]
    exact keeps.reports
  count := by
    have count := keeps.count
    rw [size_define (isNew ∘ keeps.contains_iff.mp), List.length_append, List.length_singleton]
    omega

/-- A definition is kept if it is the first one for its name, and warned of if it is not. -/
theorem addDefinition {known : NamedDestinations ι α × Array Warning}
    (keeps : KeepsFirst definitions known.1 known.2.toList) :
    KeepsFirst (definitions ++ [definition]) (addDefinition known definition).1
      (addDefinition known definition).2.toList := by
  unfold NamedDestinations.addDefinition
  split
  · next present =>
    rw [Array.toList_push]
    exact keeps.report (keeps.contains_iff.mp present)
  · next absent => exact keeps.define (absent ∘ keeps.contains_iff.mpr)

end KeepsFirst

/-- **The first definition of every name stays, and all later ones are reported.** -/
theorem keepsFirst (definitions : List (DestinationDefinition ι α)) :
    KeepsFirst definitions (ofDefinitions definitions).1 (ofDefinitions definitions).2 := by
  unfold ofDefinitions
  induction definitions using List.reverseRecOn with
  | nil => exact ⟨fun name => Std.HashMap.getElem?_empty, rfl, rfl⟩
  | append_singleton definitions definition ih =>
    rw [List.foldl_append, List.foldl_cons, List.foldl_nil]
    exact ih.addDefinition

end NamedDestinations

end PlacedText
