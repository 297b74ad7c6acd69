import FederatedLearning.LearningError
import Mathlib.Data.List.Forall2
import Mathlib.Data.List.Perm.Basic

/-!
# Walks that may fail

A computation with a possible failure yields a result exactly when each of its
steps does, and a walk along a list yields the results of its items in order.
-/

namespace FederatedLearning

variable {ε α β γ : Type}

theorem exceptBind_eq_ok_iff {first : Except ε α} {next : α → Except ε β} {result : β} :
    (first >>= next) = .ok result ↔ ∃ value, first = .ok value ∧ next value = .ok result := by
  cases first <;> simp [bind, Except.bind]

theorem exists_exceptBind_eq_ok_iff {first : Except ε α} {next : α → Except ε β} :
    (∃ result, (first >>= next) = .ok result) ↔
      ∃ value, first = .ok value ∧ ∃ result, next value = .ok result := by
  cases first <;> simp [bind, Except.bind]

theorem exceptThen_eq_ok_iff {first : Except ε Unit} {next : Unit → Except ε β} {result : β} :
    (first >>= next) = .ok result ↔ first = .ok () ∧ next () = .ok result := by
  cases first <;> simp [bind, Except.bind]

theorem exceptPure_eq_ok_iff {value result : α} :
    (pure value : Except ε α) = .ok result ↔ value = result := by
  simp [pure, Except.pure]

/-- A computation behind a check yields a result exactly when the check passes and
the computation yields it. -/
theorem exceptGuard_eq_ok_iff {refused : Prop} [Decidable refused] {error : ε}
    {next : PUnit → Except ε β} {result : β} :
    (if refused then throw error >>= next else next ⟨⟩) = .ok result ↔
      ¬refused ∧ next ⟨⟩ = .ok result := by
  split
  · rename_i holds
    simp [holds, throw, throwThe, MonadExceptOf.throw, bind, Except.bind]
  · rename_i fails
    simp [fails]

theorem ofTensor_eq_ok_iff {outcome : Except TensorError α} {result : α} :
    LearningError.ofTensor outcome = .ok result ↔ outcome = .ok result := by
  cases outcome <;> simp [LearningError.ofTensor, Except.mapError]

theorem forM_eq_ok_iff {check : α → Except ε Unit} {items : List α} :
    items.forM check = .ok () ↔ ∀ item ∈ items, check item = .ok () := by
  induction items with
  | nil => simp [exceptPure_eq_ok_iff]
  | cons item items induction =>
      rw [List.forM_eq_forM, List.forM_cons, exceptThen_eq_ok_iff, List.forall_mem_cons,
        ← induction, List.forM_eq_forM]

theorem mapM_eq_ok_iff {step : α → Except ε β} {items : List α} {results : List β} :
    items.mapM step = .ok results ↔
      List.Forall₂ (fun item result => step item = .ok result) items results := by
  induction items generalizing results with
  | nil => cases results <;> simp [exceptPure_eq_ok_iff]
  | cons item items induction =>
      rw [List.mapM_cons]
      simp only [exceptBind_eq_ok_iff, exceptPure_eq_ok_iff, induction]
      constructor
      · intro yielded
        obtain ⟨result, stepped, later, walked, rfl⟩ := yielded
        exact .cons stepped walked
      · intro walked
        cases walked with
        | cons stepped later => exact ⟨_, stepped, _, later, rfl⟩

theorem exists_mapM_eq_ok_iff {step : α → Except ε β} {items : List α} :
    (∃ results, items.mapM step = .ok results) ↔ ∀ item ∈ items, ∃ result, step item = .ok result := by
  induction items with
  | nil => simp [exceptPure_eq_ok_iff]
  | cons item items induction =>
      rw [List.forall_mem_cons, ← induction]
      simp only [List.mapM_cons, exceptBind_eq_ok_iff, exceptPure_eq_ok_iff]
      constructor
      · intro yields
        obtain ⟨_, result, stepped, later, walked, _⟩ := yields
        exact ⟨⟨result, stepped⟩, later, walked⟩
      · intro yields
        obtain ⟨⟨result, stepped⟩, later, walked⟩ := yields
        exact ⟨result :: later, result, stepped, later, walked, rfl⟩

/-- A walk whose steps each yield something that holds of their item. -/
theorem exists_mapM_of_each {step : α → Except ε β} {holds : α → β → Prop} {items : List α}
    (each : ∀ item ∈ items, ∃ result, step item = .ok result ∧ holds item result) :
    ∃ results, items.mapM step = .ok results ∧ List.Forall₂ holds items results := by
  induction items with
  | nil => exact ⟨[], rfl, .nil⟩
  | cons item items induction =>
      obtain ⟨here, later⟩ := List.forall_mem_cons.mp each
      obtain ⟨result, stepped, holdsHere⟩ := here
      obtain ⟨results, walked, holdsLater⟩ := induction later
      refine ⟨result :: results, ?_, .cons holdsHere holdsLater⟩
      exact mapM_eq_ok_iff.mpr (.cons stepped (mapM_eq_ok_iff.mp walked))

theorem exists_left_of_mem {holds : α → β → Prop} {items : List α} {results : List β}
    (related : List.Forall₂ holds items results) {result : β} (member : result ∈ results) :
    ∃ item ∈ items, holds item result := by
  induction related with
  | nil => simp at member
  | @cons item first items rest here _ induction =>
      rcases List.mem_cons.mp member with same | later
      · exact ⟨item, by simp, same ▸ here⟩
      · obtain ⟨other, inside, found⟩ := induction later
        exact ⟨other, by simp [inside], found⟩

theorem exists_right_of_mem {holds : α → β → Prop} {items : List α} {results : List β}
    (related : List.Forall₂ holds items results) {item : α} (inside : item ∈ items) :
    ∃ result ∈ results, holds item result := by
  have turned : List.Forall₂ (flip holds) results items := .flip related
  exact exists_left_of_mem turned inside

theorem filterMap_eq_map_of_forall₂ {select : β → Option γ} {value : α → γ} {items : List α}
    {results : List β}
    (related : List.Forall₂ (fun item result => select result = some (value item)) items results) :
    results.filterMap select = items.map value := by
  induction related with
  | nil => rfl
  | cons here _ induction => rw [List.filterMap_cons_some here, induction, List.map_cons]

theorem mapM_eq_ok_of_forall₂ {step : β → Except ε γ} {value : α → γ} {items : List α}
    {results : List β}
    (related : List.Forall₂ (fun item result => step result = .ok (value item)) items results) :
    results.mapM step = .ok (items.map value) := by
  apply mapM_eq_ok_iff.mpr
  exact List.forall₂_map_right_iff.mpr (.flip related)

theorem exists_of_mem_of_mapM_eq_ok {step : α → Except ε β} {items : List α} {results : List β}
    (walked : items.mapM step = .ok results) {result : β} (member : result ∈ results) :
    ∃ item ∈ items, step item = .ok result :=
  exists_left_of_mem (mapM_eq_ok_iff.mp walked) member

theorem exists_result_of_mem {step : α → Except ε β} {items : List α} {results : List β}
    (walked : items.mapM step = .ok results) {item : α} (inside : item ∈ items) :
    ∃ result ∈ results, step item = .ok result :=
  exists_right_of_mem (mapM_eq_ok_iff.mp walked) inside

/-- A walk that fails does so with the failure of one of its steps. -/
theorem exists_of_mapM_eq_error {step : α → Except ε β} {items : List α} {error : ε}
    (failed : items.mapM step = .error error) : ∃ item ∈ items, step item = .error error := by
  induction items with
  | nil => cases failed
  | cons item items induction =>
      rw [List.mapM_cons] at failed
      cases stepped : step item with
      | error stopped =>
          rw [stepped] at failed
          cases failed
          exact ⟨item, by simp, stepped⟩
      | ok result =>
          rw [stepped] at failed
          cases walked : items.mapM step with
          | error stopped =>
              rw [walked] at failed
              cases failed
              obtain ⟨other, inside, refused⟩ := induction walked
              exact ⟨other, by simp [inside], refused⟩
          | ok results =>
              rw [walked] at failed
              cases failed

theorem ne_nil_of_mapM_eq_ok {step : α → Except ε β} {items : List α} {results : List β}
    (walked : items.mapM step = .ok results) (present : items ≠ []) : results ≠ [] := by
  apply List.ne_nil_of_length_pos
  rw [← (mapM_eq_ok_iff.mp walked).length_eq]
  exact List.length_pos_iff.mpr present

/-- A walk along a list can be replaced by one whose steps yield related results. -/
theorem exists_mapM_of_steps {first : α → Except ε β} {second : α → Except ε γ}
    {related : β → γ → Prop} {items : List α} {results : List β}
    (steps : ∀ item ∈ items, ∀ result, first item = .ok result →
      ∃ other, second item = .ok other ∧ related result other)
    (walked : items.mapM first = .ok results) :
    ∃ others, items.mapM second = .ok others ∧ List.Forall₂ related results others := by
  rw [mapM_eq_ok_iff] at walked
  induction walked with
  | nil => exact ⟨[], rfl, .nil⟩
  | @cons item result items rest stepped _ induction =>
      obtain ⟨here, later⟩ := List.forall_mem_cons.mp steps
      obtain ⟨other, alsoStepped, same⟩ := here result stepped
      obtain ⟨others, alsoWalked, sameRest⟩ := induction later
      refine ⟨other :: others, ?_, .cons same sameRest⟩
      exact mapM_eq_ok_iff.mpr (.cons alsoStepped (mapM_eq_ok_iff.mp alsoWalked))

/-- The items of a list can be walked in another order. -/
theorem exists_mapM_of_perm {step : α → Except ε β} {items others : List α} {results : List β}
    (reordered : items.Perm others) (walked : items.mapM step = .ok results) :
    ∃ yielded, others.mapM step = .ok yielded ∧ results.Perm yielded := by
  obtain ⟨yielded, alsoWalked, back⟩ :=
    List.perm_comp_forall₂ reordered.symm (mapM_eq_ok_iff.mp walked)
  exact ⟨yielded, mapM_eq_ok_iff.mpr alsoWalked, back.symm⟩

theorem mapM_congr {first second : α → Except ε β} {items : List α}
    (same : ∀ item ∈ items, first item = second item) : items.mapM first = items.mapM second := by
  induction items with
  | nil => rfl
  | cons item items induction =>
      obtain ⟨here, later⟩ := List.forall_mem_cons.mp same
      rw [List.mapM_cons, List.mapM_cons, here, induction later]

theorem mapM_eq_ok_congr {first second : α → Except ε β} {items : List α} {results : List β}
    (same : ∀ item ∈ items, ∀ result, first item = .ok result ↔ second item = .ok result) :
    items.mapM first = .ok results ↔ items.mapM second = .ok results := by
  induction items generalizing results with
  | nil => rfl
  | cons item items induction =>
      obtain ⟨here, later⟩ := List.forall_mem_cons.mp same
      simp only [List.mapM_cons, exceptBind_eq_ok_iff, exceptPure_eq_ok_iff, here,
        induction later]

theorem mapM_append_eq_ok_iff {step : α → Except ε β} {items others : List α}
    {results : List β} :
    (items ++ others).mapM step = .ok results ↔
      ∃ front back, items.mapM step = .ok front ∧ others.mapM step = .ok back ∧
        front ++ back = results := by
  rw [List.mapM_append]
  simp only [exceptBind_eq_ok_iff, exceptPure_eq_ok_iff]
  constructor
  · intro walked
    obtain ⟨front, walkedFront, back, walkedBack, same⟩ := walked
    exact ⟨front, back, walkedFront, walkedBack, same⟩
  · intro walked
    obtain ⟨front, back, walkedFront, walkedBack, same⟩ := walked
    exact ⟨front, walkedFront, back, walkedBack, same⟩

/-- Two walks along one list whose steps agree on what is observed of the second. -/
theorem map_eq_of_mapM_eq_ok {first : α → Except ε β} {second : α → Except ε γ}
    {observe : γ → β} {items : List α} {results : List β} {others : List γ}
    (agree : ∀ item ∈ items, ∀ result other,
      first item = .ok result → second item = .ok other → observe other = result)
    (walked : items.mapM first = .ok results) (alsoWalked : items.mapM second = .ok others) :
    others.map observe = results := by
  rw [mapM_eq_ok_iff] at walked alsoWalked
  induction walked generalizing others with
  | nil =>
      cases alsoWalked
      rfl
  | cons stepped _ induction =>
      cases alsoWalked with
      | cons alsoStepped rest =>
          rw [List.map_cons, agree _ (by simp) _ _ stepped alsoStepped,
            induction (fun item member => agree item (by simp [member])) rest]

end FederatedLearning
