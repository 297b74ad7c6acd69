import FederatedLearning.Proofs.FederatedAveraging
import FederatedLearning.Proofs.NamedElements

/-!
# Which results are read as weights

Weights are read from a record by the names of their two parts.  The first element that
carries the name of a part has to be a record of tensors; what else the record holds is not
looked at.  A record of two elements is thus read exactly when it consists of the two parts,
but a longer one can be read as well.
-/

namespace FederatedLearning

namespace Record

variable {α : Type} {record : Record α} {name : String} {item : α}

/-- The item carries the name, and no element in front of it does. -/
def FirstUnder (record : Record α) (name : String) (item : α) : Prop :=
  ∃ front back, record.elements = front ++ (some name, item) :: back ∧
    ∀ element ∈ front, element.1 ≠ some name

theorem find?_eq_some_iff_firstUnder :
    record.find? name = some item ↔ record.FirstUnder name item := by
  rw [find?, Option.map_eq_some_iff]
  constructor
  · rintro ⟨⟨label, item⟩, found, rfl⟩
    obtain ⟨carries, front, back, split, others⟩ := List.find?_eq_some_iff_append.mp found
    have labelled : label = some name := by simpa using carries
    subst labelled
    exact ⟨front, back, split, by simpa using others⟩
  · rintro ⟨front, back, split, others⟩
    refine ⟨(some name, item), ?_, rfl⟩
    exact List.find?_eq_some_iff_append.mpr ⟨by simp, front, back, split, by simpa using others⟩

theorem FirstUnder.mem (first : record.FirstUnder name item) :
    (some name, item) ∈ record.elements := by
  obtain ⟨front, back, split, _⟩ := first
  simp [split]

end Record

namespace Weights

variable {members : Record Value} {name : String} {tensors : List Tensor} {value : Value}
  {weights : Weights Tensor} {error : LearningError}

/-- Elements that are all tensors are those of a record of tensors. -/
private theorem exists_part_of_leaves {elements : List (Option String × Value)}
    (same : List.Forall₂ (fun element tensor => element.2 = .tensor tensor) elements tensors) :
    ∃ part : Record Tensor, part.map .tensor = ⟨elements⟩ ∧ part.values = tensors := by
  induction same with
  | nil => exact ⟨∅, rfl, rfl⟩
  | @cons element tensor elements tensors here _ induction =>
      obtain ⟨label, item⟩ := element
      cases (here : item = .tensor tensor)
      obtain ⟨part, sameElements, sameTensors⟩ := induction
      cases sameElements
      cases sameTensors
      exact ⟨⟨(label, tensor) :: part.elements⟩, rfl, rfl⟩

/-- The tensors of a part are read from the first element of its name, which has to be a
record of tensors. -/
theorem tensorsOf_eq_ok_iff :
    tensorsOf members name = .ok tensors ↔ ∃ part : Record Tensor,
      members.FirstUnder name (.record (part.map .tensor)) ∧ part.values = tensors := by
  simp only [← Record.find?_eq_some_iff_firstUnder]
  constructor
  · intro read
    cases found : members.find? name with
    | none =>
        rw [tensorsOf, found] at read
        cases read
    | some item =>
        cases item with
        | tensor leaf =>
            rw [tensorsOf, found] at read
            cases read
        | record part =>
            obtain ⟨elements⟩ := part
            simp only [tensorsOf, found, Record.values, List.mapM_map] at read
            rw [mapM_eq_ok_iff] at read
            have leaves : List.Forall₂ (fun element tensor => element.2 = .tensor tensor)
                elements tensors := by
              apply read.imp
              rintro ⟨label, item⟩ tensor stepped
              cases item with
              | tensor leaf => exact congrArg Value.tensor (Except.ok.inj stepped)
              | record inner => cases stepped
            obtain ⟨part, same, listed⟩ := exists_part_of_leaves leaves
            exact ⟨part, by rw [same], listed⟩
  · rintro ⟨part, found, rfl⟩
    simp only [tensorsOf, found, Record.values, Record.map, List.map_map]
    apply mapM_eq_ok_iff.mpr
    simp [List.forall₂_map_left_iff, List.forall₂_map_right_iff, List.forall₂_same]

/-- A part that cannot be read is missing, or it is not a record of tensors. -/
theorem tensorsOf_eq_error (failed : tensorsOf members name = .error error) :
    error = .missingField name ∨ error = .typeMismatch name "a structure of tensors" := by
  rw [tensorsOf] at failed
  split at failed
  · cases failed
    exact .inl rfl
  · cases failed
    exact .inr rfl
  · obtain ⟨item, _, refused⟩ := exists_of_mapM_eq_error failed
    cases item with
    | tensor leaf => cases refused
    | record inner =>
        cases refused
        exact .inr rfl

theorem ofResult_record_eq_ok_iff :
    ofResult (.record members) = .ok weights ↔
      tensorsOf members trainableName = .ok weights.trainable ∧
        tensorsOf members nonTrainableName = .ok weights.nonTrainable := by
  obtain ⟨trainable, nonTrainable⟩ := weights
  simp only [ofResult, exceptBind_eq_ok_iff, exceptPure_eq_ok_iff, mk.injEq]
  constructor
  · rintro ⟨_, readTrainable, _, readNonTrainable, rfl, rfl⟩
    exact ⟨readTrainable, readNonTrainable⟩
  · rintro ⟨readTrainable, readNonTrainable⟩
    exact ⟨trainable, readTrainable, nonTrainable, readNonTrainable, rfl, rfl⟩

/-- The value consists of the two parts, in one of their two orders, each of them a record
of tensors. -/
def IsPairOfParts (value : Value) : Prop :=
  ∃ trainable nonTrainable : Record Tensor,
    value = .named [(trainableName, .record (trainable.map .tensor)),
        (nonTrainableName, .record (nonTrainable.map .tensor))] ∨
      value = .named [(nonTrainableName, .record (nonTrainable.map .tensor)),
        (trainableName, .record (trainable.map .tensor))]

theorem ofResult_eq_ok_iff :
    ofResult value = .ok weights ↔
      ∃ (members : Record Value) (trainable nonTrainable : Record Tensor),
        value = .record members ∧
          members.FirstUnder trainableName (.record (trainable.map .tensor)) ∧
          members.FirstUnder nonTrainableName (.record (nonTrainable.map .tensor)) ∧
          weights = ⟨trainable.values, nonTrainable.values⟩ := by
  cases value with
  | tensor leaf => simp [ofResult]
  | record members =>
      rw [ofResult_record_eq_ok_iff, tensorsOf_eq_ok_iff, tensorsOf_eq_ok_iff]
      obtain ⟨trainableTensors, nonTrainableTensors⟩ := weights
      constructor
      · rintro ⟨⟨trainable, first, rfl⟩, nonTrainable, second, rfl⟩
        exact ⟨members, trainable, nonTrainable, rfl, first, second, rfl⟩
      · rintro ⟨_, trainable, nonTrainable, sameMembers, first, second, same⟩
        cases sameMembers
        cases same
        exact ⟨⟨trainable, first, rfl⟩, nonTrainable, second, rfl⟩

/-- Whatever is not read as weights is refused for its type or for a missing part. -/
theorem ofResult_eq_error (failed : ofResult value = .error error) :
    (∃ what expected, error = .typeMismatch what expected) ∨
      ∃ name, error = .missingField name := by
  cases value with
  | tensor leaf =>
      cases failed
      exact .inl ⟨_, _, rfl⟩
  | record members =>
      have refused : ∃ name, tensorsOf members name = .error error := by
        rw [ofResult] at failed
        cases readTrainable : tensorsOf members trainableName with
        | error stopped =>
            rw [readTrainable] at failed
            cases failed
            exact ⟨_, readTrainable⟩
        | ok trainable =>
            rw [readTrainable] at failed
            cases readNonTrainable : tensorsOf members nonTrainableName with
            | error stopped =>
                rw [readNonTrainable] at failed
                cases failed
                exact ⟨_, readNonTrainable⟩
            | ok nonTrainable =>
                rw [readNonTrainable] at failed
                cases failed
      obtain ⟨name, refused⟩ := refused
      rcases tensorsOf_eq_error refused with missing | mistyped
      · exact .inr ⟨name, missing⟩
      · exact .inl ⟨_, _, mistyped⟩

/-- Among the records of two elements, those that are read are the pairs of the parts. -/
theorem isPairOfParts_iff :
    IsPairOfParts value ↔
      (∃ weights, ofResult value = .ok weights) ∧
        ∃ members, value = .record members ∧ members.size = 2 := by
  have distinct : trainableName ≠ nonTrainableName := by decide
  constructor
  · rintro ⟨trainable, nonTrainable, rfl | rfl⟩
    · refine ⟨⟨_, ofResult_eq_ok_iff.mpr ⟨_, trainable, nonTrainable, rfl, ?_, ?_, rfl⟩⟩,
        _, rfl, rfl⟩
      · exact ⟨[], _, rfl, by simp⟩
      · exact ⟨[(some trainableName, _)], [], rfl, by simpa using distinct⟩
    · refine ⟨⟨_, ofResult_eq_ok_iff.mpr ⟨_, trainable, nonTrainable, rfl, ?_, ?_, rfl⟩⟩,
        _, rfl, rfl⟩
      · exact ⟨[(some nonTrainableName, _)], [], rfl, by simpa using distinct.symm⟩
      · exact ⟨[], _, rfl, by simp⟩
  · rintro ⟨⟨weights, read⟩, ⟨elements⟩, rfl, two⟩
    obtain ⟨_, trainable, nonTrainable, same, first, second, rfl⟩ := ofResult_eq_ok_iff.mp read
    cases same
    obtain ⟨front, back, rfl⟩ := List.length_eq_two.mp two
    have firstInside := first.mem
    have secondInside := second.mem
    simp only [List.mem_cons, List.not_mem_nil, or_false] at firstInside secondInside
    refine ⟨trainable, nonTrainable, ?_⟩
    rcases firstInside with rfl | rfl
    · rcases secondInside with clash | rfl
      · exact absurd (Option.some.inj (Prod.mk.inj clash).1).symm distinct
      · exact .inl rfl
    · rcases secondInside with rfl | clash
      · exact .inr rfl
      · exact absurd (Option.some.inj (Prod.mk.inj clash).1).symm distinct

/-- A value is read as weights exactly when it is a record in which the first element of
either name is a record of tensors, and these are read in their order.  Among the records of
two elements these are the pairs of the two parts.  All other values are refused for their
type or for a missing part. -/
theorem ofResult_reads_first_parts (value : Value) :
    (∀ weights, ofResult value = .ok weights ↔
      ∃ (members : Record Value) (trainable nonTrainable : Record Tensor),
        value = .record members ∧
          members.FirstUnder trainableName (.record (trainable.map .tensor)) ∧
          members.FirstUnder nonTrainableName (.record (nonTrainable.map .tensor)) ∧
          weights = ⟨trainable.values, nonTrainable.values⟩) ∧
      (IsPairOfParts value ↔
        (∃ weights, ofResult value = .ok weights) ∧
          ∃ members, value = .record members ∧ members.size = 2) ∧
      ∀ error, ofResult value = .error error →
        (∃ what expected, error = .typeMismatch what expected) ∨
          ∃ name, error = .missingField name :=
  ⟨fun _ => ofResult_eq_ok_iff, isPairOfParts_iff, fun _ => ofResult_eq_error⟩

/-- Both parts, empty, beside a number of rounds. -/
def countedRounds : Value :=
  .named [(trainableName, .record ∅), (nonTrainableName, .record ∅),
    ("rounds", .tensor (.int64 (.scalar 3)))]

/-- A record with a third element, even a tensor, is read as weights. -/
theorem countedRounds_read_as_weights :
    ¬∀ value, (∃ weights, ofResult value = .ok weights) ↔ IsPairOfParts value := by
  intro claimed
  have pair : IsPairOfParts countedRounds := (claimed countedRounds).mp ⟨_, rfl⟩
  obtain ⟨_, members, same, two⟩ := isPairOfParts_iff.mp pair
  cases same
  cases two

end Weights

end FederatedLearning
