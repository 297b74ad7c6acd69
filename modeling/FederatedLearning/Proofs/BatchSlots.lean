import FederatedLearning.Proofs.RowCounts
import Mathlib.Data.List.Perm.Subperm
import Mathlib.Data.List.Permutation

/-!
# Slots of a batch

A record holds the two slots of a batch by position, whatever its names, or under the two
names in either order.  A batch is split off exactly the records of two elements that hold
its slots, when it passes the check of the spec.  Slots that are known by name may change
places: whatever comes of the record, a batch or an error, stays the same.
-/

namespace FederatedLearning

namespace Record

variable {α : Type} {members members' others : Record α} {name : String}
  {item features labels : α} {layout : SlotLayout}

/-- What is taken out of a record and what is left make up the record. -/
theorem perm_of_take?_eq_some (taken : members.take? name = some (item, others)) :
    members.elements.Perm ((some name, item) :: others.elements) := by
  obtain ⟨item, found, same⟩ := Option.map_eq_some_iff.mp taken
  cases same
  obtain ⟨⟨label, item⟩, isFound, rfl⟩ := Option.map_eq_some_iff.mp found
  obtain ⟨carries, front, back, split, before⟩ := List.find?_eq_some_iff_append.mp isFound
  have labelled : label = some name := by simpa using carries
  subst labelled
  have leftOver : (members.elements.eraseP fun element => element.1 == some name) =
      front ++ back := by
    rw [split, List.eraseP_append_right _ (by simpa using before)]
    simp
  rw [leftOver, split]
  exact List.perm_middle

/-- One element is named as the features and the other one as the labels. -/
def NamesSlots (members : Record α) (features labels : α) : Prop :=
  members.elements.Perm [(some featuresName, features), (some labelsName, labels)]

theorem NamesSlots.elements_eq (names : members.NamesSlots features labels) :
    members.elements = [(some featuresName, features), (some labelsName, labels)] ∨
      members.elements = [(some labelsName, labels), (some featuresName, features)] :=
  List.perm_pair.mp names

theorem NamesSlots.of_perm (names : members.NamesSlots features labels)
    (permuted : members.elements.Perm members'.elements) : members'.NamesSlots features labels :=
  permuted.symm.trans names

/-- A record of two elements names the slots as soon as it has an element of both names. -/
theorem namesSlots_of_mem (two : members.size = 2)
    (ofFeatures : (some featuresName, features) ∈ members.elements)
    (ofLabels : (some labelsName, labels) ∈ members.elements) :
    members.NamesSlots features labels := by
  have distinct : [(some featuresName, features), (some labelsName, labels)].Nodup := by
    simp [featuresName, labelsName]
  have contained : [(some featuresName, features), (some labelsName, labels)] ⊆
      members.elements := by
    simp [ofFeatures, ofLabels]
  have atMost : members.elements.length ≤ 2 := two.le
  exact ((List.subperm_of_subset distinct contained).perm_of_length_le atMost).symm

/-- The two slots of a batch: by position, whatever the names, or under the two names in
either order. -/
def HoldsSlots (members : Record α) : SlotLayout → α → α → Prop
  | .ordered, features, labels => members.values = [features, labels]
  | .named, features, labels => members.NamesSlots features labels

theorem HoldsSlots.size_eq (holds : members.HoldsSlots layout features labels) :
    members.size = 2 := by
  cases layout with
  | ordered =>
      have sameLength := congrArg List.length holds
      rw [values, List.length_map] at sameLength
      exact sameLength
  | named => exact holds.length_eq

end Record

namespace BatchSpec

variable {spec : BatchSpec} {members members' : Record Value} {batch : Batch}

/-- The search for the slots of a record of two elements finds what the record holds. -/
theorem slots?_eq_some_iff (two : members.size = 2) :
    spec.slots? members = some batch ↔
      members.HoldsSlots spec.layout batch.features batch.labels := by
  unfold slots?
  cases layout : spec.layout with
  | ordered =>
      obtain ⟨elements⟩ := members
      obtain ⟨first, second, rfl⟩ := List.length_eq_two.mp two
      obtain ⟨features, labels⟩ := batch
      simp [Record.get?, Record.HoldsSlots, Record.values]
  | named =>
      constructor
      · intro found
        simp only [Option.bind_eq_bind, Option.bind_eq_some_iff] at found
        obtain ⟨⟨features, others⟩, featuresTaken, ⟨labels, rest⟩, labelsTaken, same⟩ := found
        cases same
        -- The labels are looked for in what is left, so no element fills both slots.
        have ofMembers := Record.perm_of_take?_eq_some featuresTaken
        have ofOthers := Record.perm_of_take?_eq_some labelsTaken
        apply Record.namesSlots_of_mem two
        · exact ofMembers.mem_iff.mpr (by simp)
        · exact ofMembers.mem_iff.mpr (List.mem_cons_of_mem _ (ofOthers.mem_iff.mpr (by simp)))
      · intro names
        obtain ⟨elements⟩ := members
        rcases names.elements_eq with rfl | rfl
        · simp [Record.take?, Record.find?, featuresName, labelsName]
        · simp [Record.take?, Record.find?, featuresName, labelsName]

theorem batchOf_of_holdsSlots
    (holds : members.HoldsSlots spec.layout batch.features batch.labels) :
    spec.batchOf (.record members) = do
      spec.checkBatch batch
      return batch := by
  have found := (slots?_eq_some_iff holds.size_eq).mpr holds
  rw [batchOf, if_pos holds.size_eq, found]

/-- Why a record does not hold the slots. -/
def slotsFault (members : Record Value) : LearningError :=
  if members.size = 2 then .missingField (featuresName ++ "/" ++ labelsName)
  else .countMismatch "batch elements" members.size 2

theorem batchOf_of_not_holdsSlots
    (missing : ∀ batch : Batch, ¬members.HoldsSlots spec.layout batch.features batch.labels) :
    spec.batchOf (.record members) = .error (slotsFault members) := by
  by_cases two : members.size = 2
  · have notFound : spec.slots? members = none := by
      rw [Option.eq_none_iff_forall_not_mem]
      intro batch found
      exact missing batch ((slots?_eq_some_iff two).mp found)
    rw [batchOf, slotsFault, if_pos two, if_pos two, notFound]
  · rw [batchOf, slotsFault, if_neg two, if_neg two]

/-- Slots that are known by name may stand in any order. -/
theorem batchOf_eq_of_perm (byName : spec.layout = .named)
    (permuted : members.elements.Perm members'.elements) :
    spec.batchOf (.record members) = spec.batchOf (.record members') := by
  have sameSize : members.size = members'.size := permuted.length_eq
  have holds_iff : ∀ batch : Batch,
      members.HoldsSlots spec.layout batch.features batch.labels ↔
        members'.HoldsSlots spec.layout batch.features batch.labels := by
    intro batch
    rw [byName]
    exact ⟨fun names => names.of_perm permuted, fun names => names.of_perm permuted.symm⟩
  -- Both records hold the slots of one batch, or they are refused for their size alone.
  by_cases held : ∃ batch : Batch, members.HoldsSlots spec.layout batch.features batch.labels
  · obtain ⟨batch, holds⟩ := held
    rw [batchOf_of_holdsSlots holds, batchOf_of_holdsSlots ((holds_iff batch).mp holds)]
  · have missing := not_exists.mp held
    have missing' : ∀ batch : Batch,
        ¬members'.HoldsSlots spec.layout batch.features batch.labels :=
      fun batch holds => missing batch ((holds_iff batch).mpr holds)
    rw [batchOf_of_not_holdsSlots missing, batchOf_of_not_holdsSlots missing', slotsFault,
      slotsFault, sameSize]

theorem batchOf_record_eq_ok_iff :
    spec.batchOf (.record members) = .ok batch ↔
      members.HoldsSlots spec.layout batch.features batch.labels ∧
        spec.checkBatch batch = .ok () := by
  constructor
  · intro split
    by_cases held : ∃ batch : Batch, members.HoldsSlots spec.layout batch.features batch.labels
    · obtain ⟨batch', holds⟩ := held
      rw [batchOf_of_holdsSlots holds] at split
      obtain ⟨checked, same⟩ := exceptThen_eq_ok_iff.mp split
      cases exceptPure_eq_ok_iff.mp same
      exact ⟨holds, checked⟩
    · rw [batchOf_of_not_holdsSlots (not_exists.mp held)] at split
      cases split
  · rintro ⟨holds, checked⟩
    rw [batchOf_of_holdsSlots holds]
    exact exceptThen_eq_ok_iff.mpr ⟨checked, rfl⟩

/-- A value is split into a batch exactly when it is a record of two elements that holds
the slots of that batch and the batch passes the check; where the slots are known by name,
the order of the elements makes no difference to the result. -/
theorem batchOf_splits_held_slots (spec : BatchSpec) :
    (∀ (value : Value) (batch : Batch),
      spec.batchOf value = .ok batch ↔
        (∃ members : Record Value, value = .record members ∧ members.size = 2 ∧
            members.HoldsSlots spec.layout batch.features batch.labels) ∧
          spec.checkBatch batch = .ok ()) ∧
      (spec.layout = .named → ∀ members members' : Record Value,
        members.elements.Perm members'.elements →
          spec.batchOf (.record members) = spec.batchOf (.record members')) := by
  refine ⟨?_, fun byName members members' permuted => batchOf_eq_of_perm byName permuted⟩
  intro value batch
  cases value with
  | tensor leaf => simp [batchOf]
  | record members =>
      rw [batchOf_record_eq_ok_iff]
      constructor
      · rintro ⟨holds, checked⟩
        exact ⟨⟨members, rfl, holds.size_eq, holds⟩, checked⟩
      · rintro ⟨⟨members', same, _, holds⟩, checked⟩
        cases same
        exact ⟨holds, checked⟩

/-- The elements of three pairs, their labels in front. -/
def labelsFirst : Record Value :=
  .named [(labelsName, threePairs.labels), (featuresName, threePairs.features)]

def featuresFirst : Record Value :=
  .named [(featuresName, threePairs.features), (labelsName, threePairs.labels)]

theorem labelsFirst_split :
    nestedPairs.layout = .named ∧ labelsFirst.elements.Perm featuresFirst.elements ∧
      nestedPairs.batchOf (.record labelsFirst) = .ok threePairs ∧
        nestedPairs.batchOf (.record labelsFirst) =
          nestedPairs.batchOf (.record featuresFirst) := by
  have turned : labelsFirst.elements.Perm featuresFirst.elements := .swap _ _ []
  have checked : nestedPairs.checkBatch threePairs = .ok () := rfl
  obtain ⟨split_iff, anyOrder⟩ := batchOf_splits_held_slots nestedPairs
  refine ⟨rfl, turned, ?_, anyOrder rfl labelsFirst featuresFirst turned⟩
  exact (split_iff (.record labelsFirst) threePairs).mpr
    ⟨⟨labelsFirst, rfl, rfl, turned⟩, checked⟩

end BatchSpec

end FederatedLearning
