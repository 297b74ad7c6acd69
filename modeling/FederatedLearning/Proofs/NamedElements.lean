import FederatedLearning.Metric.Report
import FederatedLearning.Proofs.HierarchicalAggregation

/-!
# Records with distinct names

A record whose elements all carry names of their own is told by its names, in order,
and by what is found under each.  Records of values that are added keep their names,
and what is found under a name in their sum is the sum of what is found in both.
-/

namespace FederatedLearning

namespace Record

variable {α β γ : Type} {record left right : Record α} {other : Record β} {name : String}

@[simp] theorem labels_map (function : α → β) (record : Record α) :
    (record.map function).labels = record.labels := by
  simp [labels, map, Function.comp_def]

theorem names_eq_filterMap_labels (record : Record α) :
    record.names = record.labels.filterMap id := by
  simp [names, labels, List.filterMap_map]

theorem names_eq_of_labels_eq (same : record.labels = other.labels) :
    record.names = other.names := by
  rw [names_eq_filterMap_labels, names_eq_filterMap_labels, same]

theorem namedApart_eq_of_labels_eq (same : record.labels = other.labels) :
    record.namedApart = other.namedApart := by
  rw [namedApart, namedApart, same, names_eq_of_labels_eq same]

@[simp] theorem labels_named (entries : List (String × α)) :
    (Record.named entries).labels = (entries.map Prod.fst).map some := by
  simp [labels, named]

@[simp] theorem names_named (entries : List (String × α)) :
    (Record.named entries).names = entries.map Prod.fst := by
  simp [names, named, List.filterMap_map]

theorem exists_named_of_isSome {elements : List (Option String × α)}
    (named : ∀ element ∈ elements, element.1.isSome = true) :
    ∃ entries : List (String × α), (⟨elements⟩ : Record α) = .named entries := by
  induction elements with
  | nil => exact ⟨[], rfl⟩
  | cons element rest induction =>
      obtain ⟨here, later⟩ := List.forall_mem_cons.mp named
      obtain ⟨entries, listed⟩ := induction later
      obtain ⟨name, label⟩ := Option.isSome_iff_exists.mp here
      refine ⟨(name, element.2) :: entries, ?_⟩
      rw [Record.mk.inj listed]
      simp [Record.named, ← label]

/-- A record that is named apart is one of entries with distinct names. -/
theorem exists_entries_of_namedApart (apart : record.namedApart = true) :
    ∃ entries : List (String × α), record = .named entries ∧ (entries.map Prod.fst).Nodup := by
  obtain ⟨elements⟩ := record
  simp only [namedApart, Bool.and_eq_true, List.all_eq_true, decide_eq_true_eq, labels,
    List.forall_mem_map] at apart
  obtain ⟨named, distinct⟩ := apart
  obtain ⟨entries, listed⟩ := exists_named_of_isSome named
  rw [listed, names_named] at distinct
  exact ⟨entries, listed, distinct⟩

theorem find?_eq_some_iff_of_namedApart (apart : record.namedApart = true) {item : α} :
    record.find? name = some item ↔ (some name, item) ∈ record.elements := by
  constructor
  · exact mem_of_find?_eq_some
  · intro inside
    obtain ⟨entries, rfl, distinct⟩ := exists_entries_of_namedApart apart
    obtain ⟨entry, listed, same⟩ := List.mem_map.mp inside
    cases same
    exact find?_named_of_mem distinct listed

/-- What a record holds is found under its names. -/
theorem elements_eq_of_namedApart (apart : record.namedApart = true) :
    record.elements.map (Prod.map id some) =
      record.labels.map fun label => (label, record.find? (listedName label)) := by
  obtain ⟨entries, rfl, distinct⟩ := exists_entries_of_namedApart apart
  simp only [labels, Record.named, List.map_map]
  apply List.map_congr_left
  intro entry inside
  have found := find?_named_of_mem distinct inside
  simpa [listedName, Record.named] using found.symm

theorem eq_of_find?_eq (apart : left.namedApart = true) (sameLabels : left.labels = right.labels)
    (agree : ∀ name, left.find? name = right.find? name) : left = right := by
  have apartRight : right.namedApart = true := by
    rwa [← namedApart_eq_of_labels_eq sameLabels]
  have listed := elements_eq_of_namedApart apart
  rw [sameLabels, funext fun label => congrArg (Prod.mk label) (agree (listedName label)),
    ← elements_eq_of_namedApart apartRight] at listed
  have injective : Function.Injective (Prod.map id some : Option String × α → _) := by
    rintro ⟨label, item⟩ ⟨label', item'⟩ same
    simpa using same
  have sameElements := List.map_injective_iff.mpr injective listed
  obtain ⟨elements⟩ := left
  cases sameElements
  rfl

theorem mem_names_iff : name ∈ record.names ↔ ∃ item, record.find? name = some item := by
  rw [names, List.mem_filterMap]
  constructor
  · rintro ⟨element, inside, label⟩
    have some : (record.elements.find? fun element => element.1 == some name).isSome = true := by
      rw [List.find?_isSome]
      exact ⟨element, inside, by simp [label]⟩
    obtain ⟨found, isFound⟩ := Option.isSome_iff_exists.mp some
    exact ⟨found.2, Option.map_eq_some_iff.mpr ⟨found, isFound, rfl⟩⟩
  · rintro ⟨item, found⟩
    exact ⟨(some name, item), mem_of_find?_eq_some found, rfl⟩

theorem sameNameSet_eq_true_iff :
    record.sameNameSet other = true ↔ ∀ name, name ∈ record.names ↔ name ∈ other.names := by
  simp only [sameNameSet, Bool.and_eq_true, List.all_eq_true, List.contains_iff_mem]
  constructor
  · rintro ⟨front, back⟩ name
    exact ⟨front name, back name⟩
  · intro same
    exact ⟨fun name => (same name).mp, fun name => (same name).mpr⟩

theorem find?_cons_self {item : α} {rest : List (Option String × α)} :
    find? ⟨(some name, item) :: rest⟩ name = some item := by
  simp [find?]

theorem find?_cons_of_ne {label : Option String} {item : α} {rest : List (Option String × α)}
    (elsewhere : label ≠ some name) :
    find? ⟨(label, item) :: rest⟩ name = find? ⟨rest⟩ name := by
  simp [find?, elsewhere]

/-- Two records with the same names, zipped by a function of what they hold. -/
theorem find?_zipWith {elements : List (Option String × α)} {others : List (Option String × β)}
    {function : α → β → γ} (same : elements.map Prod.fst = others.map Prod.fst) {item : α}
    {other : β} (found : find? ⟨elements⟩ name = some item)
    (foundOther : find? ⟨others⟩ name = some other) :
    find? ⟨List.zipWith (fun element other => (element.1, function element.2 other.2))
      elements others⟩ name = some (function item other) := by
  induction elements generalizing others with
  | nil => cases found
  | cons element rest induction =>
      cases others with
      | nil => cases foundOther
      | cons element' rest' =>
          obtain ⟨label, first⟩ := element
          obtain ⟨label', second⟩ := element'
          obtain ⟨sameLabel, sameRest⟩ := List.cons.inj same
          cases (sameLabel : label = label')
          rw [List.zipWith_cons_cons]
          by_cases here : label = some name
          · subst here
            rw [find?_cons_self] at found foundOther
            cases found
            cases foundOther
            exact find?_cons_self
          · rw [find?_cons_of_ne here] at found foundOther
            rw [find?_cons_of_ne here]
            exact induction sameRest found foundOther

end Record

namespace Value

variable {left right sum : Record Value} {name : String} {first second : Value}

/-- Records named apart are of one type exactly when they list their names in one
order and hold values of one type under each. -/
theorem typeOf_record_eq_iff_of_namedApart (apart : left.namedApart = true) :
    (record left).typeOf = (record right).typeOf ↔
      left.labels = right.labels ∧
        ∀ name, (left.find? name).map typeOf = (right.find? name).map typeOf := by
  simp only [typeOf_record, ValueType.record.injEq, ← Record.find?_map]
  constructor
  · intro same
    refine ⟨?_, fun name => by rw [same]⟩
    rw [← Record.labels_map typeOf left, same, Record.labels_map]
  · rintro ⟨sameLabels, agree⟩
    apply Record.eq_of_find?_eq
    · rwa [Record.namedApart_eq_of_labels_eq (Record.labels_map typeOf left)]
    · simpa using sameLabels
    · exact agree

theorem after_addToElements {targets addends : List (Option String × Value)}
    (same : typeOfElements targets = typeOfElements addends) :
    (addToElements targets addends).after =
      List.zipWith (fun target addend => (target.1, target.2.plus addend.2)) targets addends := by
  induction targets generalizing addends with
  | nil => simp [addToElements]
  | cons target rest induction =>
      cases addends with
      | nil => simp at same
      | cons addend rest' =>
          obtain ⟨_, sameType, sameRest⟩ := typeOfElements_cons_eq_iff.mp same
          have reached := (outcome_addTo_iff target.2 addend.2).mpr sameType
          rw [addToElements, Walk.followedBy, reached, List.zipWith_cons_cons,
            ← induction sameRest]
          rfl

/-- The sum of two records holds the sums of what they hold under each name. -/
theorem exists_record_plus (same : (record left).typeOf = (record right).typeOf) :
    ∃ sum, (record left).plus (record right) = .record sum ∧
      ∀ {name first second}, left.find? name = some first → right.find? name = some second →
        sum.find? name = some (first.plus second) := by
  obtain ⟨targets⟩ := left
  obtain ⟨addends⟩ := right
  have sameTypes := typeOf_record_eq_iff.mp same
  have sameLabels := labels_eq_of_types_eq sameTypes
  refine ⟨⟨(addToElements targets addends).after⟩, ?_, ?_⟩
  · rw [plus, addTo, if_pos sameLabels]
  · intro name first second found foundOther
    rw [after_addToElements sameTypes]
    exact Record.find?_zipWith sameLabels found foundOther

theorem typeOf_eq_of_find? (same : (record left).typeOf = (record right).typeOf)
    (found : left.find? name = some first) (foundOther : right.find? name = some second) :
    first.typeOf = second.typeOf := by
  simp only [typeOf_record, ValueType.record.injEq] at same
  have sameFound := congrArg (Record.find? · name) same
  simpa [Record.find?_map, found, foundOther] using sameFound

end Value

end FederatedLearning
