import FederatedLearning.Proofs.VariableChanges
import Mathlib.Data.List.Nodup

/-!
# Two computations side by side

Two computations are related along a relation between stores when, started from
related stores, they have the same outcome and leave related stores behind.  The
steps of two computations can be related one by one.

A store mirrors another one along pairs of variables when each variable on the
right holds what its partner on the left holds.  Reading a pair, or changing both
of its variables in the same way, relates mirroring stores, provided that the
pairs are one to one.
-/

namespace FederatedLearning.Store

namespace Effect

variable {α β : Type} {relation : Store → Store → Prop}

/-- From related stores both computations have the same outcome and reach related
stores. -/
def Related (relation : Store → Store → Prop) (first second : Effect α) : Prop :=
  ∀ left right, relation left right →
    (first left).1 = (second right).1 ∧ relation (first left).2 (second right).2

theorem related_pure (value : α) : Related relation (pure value) (pure value) :=
  fun _ _ related => ⟨rfl, related⟩

theorem related_ofExcept (outcome : Except LearningError α) :
    Related relation (MonadExcept.ofExcept outcome) (MonadExcept.ofExcept outcome) := by
  intro left right related
  rw [ofExcept_apply, ofExcept_apply]
  exact ⟨rfl, related⟩

/-- The second steps have to be related only for what the first steps yield. -/
theorem Related.bind_of_yielded {first second : Effect α} {next next' : α → Effect β}
    (start : Related relation first second)
    (onward : ∀ value left middle, first left = (.ok value, middle) →
      Related relation (next value) (next' value)) :
    Related relation (first >>= next) (second >>= next') := by
  intro left right related
  obtain ⟨sameOutcome, relatedMiddle⟩ := start left right related
  rw [bind_apply, bind_apply]
  cases leftRun : first left with
  | mk outcome middle =>
      cases rightRun : second right with
      | mk outcome' middle' =>
          rw [leftRun, rightRun] at sameOutcome relatedMiddle
          cases sameOutcome
          cases outcome with
          | error error => exact ⟨rfl, relatedMiddle⟩
          | ok value => exact onward value left middle leftRun middle middle' relatedMiddle

theorem Related.bind {first second : Effect α} {next next' : α → Effect β}
    (start : Related relation first second)
    (onward : ∀ value, Related relation (next value) (next' value)) :
    Related relation (first >>= next) (second >>= next') :=
  start.bind_of_yielded fun value _ _ _ => onward value

/-- Computations that only read are related when they read the same. -/
theorem related_of_reading {first second : Store → Except LearningError α}
    (same : ∀ left right, relation left right → first left = second right) :
    Related relation (do MonadExcept.ofExcept (first (← get)))
      (do MonadExcept.ofExcept (second (← get))) := by
  intro left right related
  rw [reading_apply, reading_apply]
  exact ⟨same left right related, related⟩

end Effect

/-- Each variable on the right holds what its partner on the left holds. -/
structure Mirrors (pairs : List (Variable × Variable)) (left right : Store) : Prop where
  holds : ∀ pair ∈ pairs, left.Holds pair.1 ∧ right.Holds pair.2
  read_eq : ∀ pair ∈ pairs, right.read pair.2 = left.read pair.1

/-- No variable has two partners. -/
def OneToOne (pairs : List (Variable × Variable)) : Prop :=
  ∀ first ∈ pairs, ∀ second ∈ pairs, first.1 = second.1 ↔ first.2 = second.2

theorem oneToOne_zip {lefts rights : List Variable} (leftDistinct : lefts.Nodup)
    (rightDistinct : rights.Nodup) : OneToOne (lefts.zip rights) := by
  intro first firstInside second secondInside
  obtain ⟨i, iBound, rfl⟩ := List.mem_iff_getElem.mp firstInside
  obtain ⟨j, jBound, rfl⟩ := List.mem_iff_getElem.mp secondInside
  simp only [List.getElem_zip, List.Nodup.getElem_inj_iff leftDistinct,
    List.Nodup.getElem_inj_iff rightDistinct]

section

variable {pairs : List (Variable × Variable)} {left right : Store}
  {pair : Variable × Variable}

theorem Mirrors.mono {others : List (Variable × Variable)} (mirrors : Mirrors pairs left right)
    (among : ∀ pair ∈ others, pair ∈ pairs) : Mirrors others left right where
  holds pair inside := mirrors.holds pair (among pair inside)
  read_eq pair inside := mirrors.read_eq pair (among pair inside)

theorem Mirrors.append {others : List (Variable × Variable)} (mirrors : Mirrors pairs left right)
    (othersMirror : Mirrors others left right) : Mirrors (pairs ++ others) left right where
  holds pair inside := by
    rcases List.mem_append.mp inside with first | second
    · exact mirrors.holds pair first
    · exact othersMirror.holds pair second
  read_eq pair inside := by
    rcases List.mem_append.mp inside with first | second
    · exact mirrors.read_eq pair first
    · exact othersMirror.read_eq pair second

theorem Mirrors.put (mirrors : Mirrors pairs left right) (oneToOne : OneToOne pairs)
    (inside : pair ∈ pairs) (contents : Tensor) :
    Mirrors pairs (left.put pair.1 contents) (right.put pair.2 contents) where
  holds other otherInside := by
    rw [holds_put, holds_put]
    exact mirrors.holds other otherInside
  read_eq other otherInside := by
    by_cases same : other.1 = pair.1
    · have samePartner := (oneToOne other otherInside pair inside).mp same
      rw [same, samePartner, read_put_self (mirrors.holds pair inside).1,
        read_put_self (mirrors.holds pair inside).2]
    · have otherPartner : other.2 ≠ pair.2 :=
        fun samePartner => same ((oneToOne other otherInside pair inside).mpr samePartner)
      rw [read_put_of_ne same, read_put_of_ne otherPartner]
      exact mirrors.read_eq other otherInside

theorem Mirrors.rewrites {targets targets' : List Variable} {left' right' : Store}
    (mirrors : Mirrors pairs left right) (leftRewrites : Rewrites targets left left')
    (rightRewrites : Rewrites targets' right right')
    (outside : ∀ pair ∈ pairs, pair.1 ∉ targets ∧ pair.2 ∉ targets') :
    Mirrors pairs left' right' where
  holds pair inside := by
    rw [leftRewrites.holds_iff, rightRewrites.holds_iff]
    exact mirrors.holds pair inside
  read_eq pair inside := by
    rw [leftRewrites.read_eq (outside pair inside).1,
      rightRewrites.read_eq (outside pair inside).2]
    exact mirrors.read_eq pair inside

theorem related_update (oneToOne : OneToOne pairs) (inside : pair ∈ pairs)
    (operation : Tensor → Except LearningError Tensor) :
    Effect.Related (Mirrors pairs) (update pair.1 operation) (update pair.2 operation) := by
  intro left right mirrors
  rw [update_apply, update_apply, mirrors.read_eq pair inside]
  cases operation (left.read pair.1) with
  | error error => exact ⟨rfl, mirrors⟩
  | ok contents => exact ⟨rfl, mirrors.put oneToOne inside contents⟩

theorem map_read_eq_of_mirrors {lefts rights : List Variable}
    (sameLength : lefts.length = rights.length) (mirrors : Mirrors (lefts.zip rights) left right) :
    rights.map right.read = lefts.map left.read := by
  apply List.ext_getElem
  · simp [sameLength]
  · intro position inRights inLefts
    simp only [List.length_map] at inRights inLefts
    rw [List.getElem_map, List.getElem_map]
    have bound : position < (lefts.zip rights).length := by
      rw [List.length_zip]
      omega
    have paired := mirrors.read_eq _ (List.getElem_mem bound)
    rwa [List.getElem_zip] at paired

theorem mirrors_of_map_read_eq {lefts rights : List Variable}
    (leftsHeld : ∀ handle ∈ lefts, left.Holds handle)
    (rightsHeld : ∀ handle ∈ rights, right.Holds handle)
    (same : rights.map right.read = lefts.map left.read) :
    Mirrors (lefts.zip rights) left right where
  holds pair inside :=
    ⟨leftsHeld pair.1 (List.of_mem_zip inside).1, rightsHeld pair.2 (List.of_mem_zip inside).2⟩
  read_eq pair inside := by
    obtain ⟨position, bound, rfl⟩ := List.mem_iff_getElem.mp inside
    rw [List.getElem_zip]
    rw [List.length_zip] at bound
    have inRights : position < rights.length := by omega
    have inLefts : position < lefts.length := by omega
    have sameAt := congrArg (fun contents => contents[position]?) same
    simpa [inLefts, inRights] using sameAt

end

section

variable {left right : Store} {handle handle' : Variable}

theorem vector_congr (what : String) (same : right.read handle' = left.read handle) :
    left.vector what handle = right.vector what handle' := by
  simp only [vector, singles, same]

theorem matrix_congr (what : String) (same : right.read handle' = left.read handle) :
    left.matrix what handle = right.matrix what handle' := by
  simp only [Store.matrix, singles, same]

theorem sum_congr (same : right.read handle' = left.read handle) :
    left.sum handle = right.sum handle' := by
  simp only [sum, singles, same]

end

end FederatedLearning.Store
