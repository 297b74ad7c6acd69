import FederatedLearning.Proofs.ThreadRuns
import Mathlib.Data.Nat.PSub

/-!
# Guards dropped in any order

Guards are values that may be dropped in any order, and each cuts the stack of scopes
off below its own depth.  So a guard may outlive its graph, and several guards may bear
the same depth.  Still every open scope is backed by a live guard of its depth: no drop
and no question to a guard ever fails, and without guards no scope is open.

At most one live guard is outermost, and exactly as long as there is one some scope is
open.  A variable therefore reaches the base graph when no live guard is outermost, also
while others are alive.
-/

namespace FederatedLearning

/-- Cuts a list off at a position within it or at its end. -/
def splitOff? {α : Type} (items : List α) (keep : Nat) : Option (List α × List α) :=
  if keep ≤ items.length then some (items.take keep, items.drop keep) else none

theorem splitOff?_of_le {α : Type} {items : List α} {keep : Nat} (inside : keep ≤ items.length) :
    splitOff? items keep = some (items.take keep, items.drop keep) :=
  if_pos inside

namespace Construction

variable {construction : Construction} {scope : Scope}

/-- Dropping a guard as it is computed: going below a depth of zero fails, and so does
cutting the stack off beyond its end. -/
def leave? (construction : Construction) (scope : Scope) : Option Construction := do
  let below ← Nat.ppred scope.depth
  let (scopes, _) ← splitOff? construction.scopes (min below construction.depth)
  return { construction with scopes }

/-- The number of variables of a scope as it is computed. -/
def variableCount? (construction : Construction) (scope : Scope) : Option Nat := do
  let below ← Nat.ppred scope.depth
  return (construction.scopes[below]?.getD []).length

theorem leave?_eq_some (construction : Construction) (positive : 0 < scope.depth) :
    construction.leave? scope = some (construction.leave scope) := by
  have predecessor : Nat.ppred scope.depth = some (scope.depth - 1) :=
    Nat.ppred_eq_pred positive
  have short : min (scope.depth - 1) construction.depth ≤ construction.scopes.length :=
    Nat.min_le_right _ _
  have kept : construction.scopes.take (min (scope.depth - 1) construction.depth) =
      construction.scopes.take (scope.depth - 1) := by
    exact List.take_eq_take_iff.mpr (by simp [depth])
  simp [leave?, leave, predecessor, splitOff?_of_le short, kept]

theorem variableCount?_eq_some (construction : Construction) (positive : 0 < scope.depth) :
    construction.variableCount? scope = some (construction.variableCount scope) := by
  have predecessor : Nat.ppred scope.depth = some (scope.depth - 1) :=
    Nat.ppred_eq_pred positive
  simp [variableCount?, variableCount, predecessor]

end Construction

/-- The number of guards alive after an event; there is none when the event names a
guard that is not alive. -/
def Event.aliveAfter? (alive : Nat) : Event → Option Nat
  | .create _ _ => some alive
  | .write _ _ => some alive
  | .enter => some (alive + 1)
  | .drop position => if position < alive then some (alive - 1) else none
  | .count position => if position < alive then some alive else none

namespace Thread

/-- An event as it is computed, which may fail. -/
def perform? (thread : Thread) : Event → Option Thread
  | .drop position => do
      let guard ← thread.guards[position]?
      let construction ← thread.construction.leave? guard.scope
      return { thread with construction, guards := thread.guards.eraseIdx position }
  | .count position => do
      let guard ← thread.guards[position]?
      let _ ← thread.construction.variableCount? guard.scope
      return thread
  | event => some (thread.perform event)

def run? (thread : Thread) (events : List Event) : Option Thread :=
  events.foldlM perform? thread

variable {thread : Thread} {events : List Event} {event : Event} {guard : Guard}
  {creation : Creation} {construction : Construction}

/-- What the depths of the live guards say of the number of open scopes, whatever guards
were dropped before. -/
structure Backed (depths : List Nat) (opened : Nat) : Prop where
  positive : ∀ depth ∈ depths, 0 < depth
  backed : ∀ level < opened, level + 1 ∈ depths
  /-- Only one guard bears the depth of the outermost scope, and only while it is open. -/
  outermost : depths.count 1 = min 1 opened

namespace Backed

variable {depths others : List Nat} {opened depth : Nat}

theorem nil : Backed [] 0 where
  positive depth inside := by cases inside
  backed level inside := by cases inside
  outermost := rfl

theorem perm (backed : Backed depths opened) (reordered : depths.Perm others) :
    Backed others opened where
  positive depth inside := backed.positive depth (reordered.mem_iff.mpr inside)
  backed level inside := reordered.mem_iff.mp (backed.backed level inside)
  outermost := (reordered.count_eq 1).symm.trans backed.outermost

theorem enter (backed : Backed depths opened) :
    Backed ((opened + 1) :: depths) (opened + 1) where
  positive := List.forall_mem_cons.mpr ⟨Nat.succ_pos opened, backed.positive⟩
  backed level inside := by
    rcases Nat.lt_succ_iff_lt_or_eq.mp inside with lower | top
    · exact List.mem_cons_of_mem _ (backed.backed level lower)
    · rw [top]
      exact List.mem_cons_self
  outermost := by
    by_cases closed : opened = 0
    · have before := backed.outermost
      simp [closed] at before ⊢
      exact before
    · have apart : opened + 1 ≠ 1 := by omega
      rw [List.count_cons_of_ne apart, backed.outermost]
      omega

/-- The levels that a drop keeps lie below the depth of the dropped guard, so each is
backed by another guard. -/
theorem drop (backed : Backed (depth :: depths) opened) :
    Backed depths (min (depth - 1) opened) where
  positive other inside := backed.positive other (List.mem_cons_of_mem _ inside)
  backed level inside := by
    rcases List.mem_cons.mp (backed.backed level (by omega)) with dropped | alive
    · omega
    · exact alive
  outermost := by
    have before := backed.outermost
    have positive := backed.positive depth List.mem_cons_self
    by_cases outermost : depth = 1
    · rw [outermost, List.count_cons_self] at before
      omega
    · rw [List.count_cons_of_ne outermost] at before
      omega

end Backed

/-- Every level has a guard of its own. -/
theorem Backed.opened_le_length {depths : List Nat} {opened : Nat}
    (backed : Backed depths opened) : opened ≤ depths.length := by
  have covered : List.range' 1 opened ⊆ depths := by
    intro depth inside
    obtain ⟨low, high⟩ := List.mem_range'_1.mp inside
    have level := backed.backed (depth - 1) (by omega)
    rwa [Nat.sub_add_cancel low] at level
  have bounded := List.Nodup.length_le_of_subset List.nodup_range' covered
  rwa [List.length_range'] at bounded

/-- The depths of the live guards. -/
def depths (thread : Thread) : List Nat :=
  thread.guards.map (·.scope.depth)

theorem depths_perm {position : Nat} (alive : thread.guards[position]? = some guard) :
    thread.depths.Perm
      (guard.scope.depth :: (thread.guards.eraseIdx position).map (·.scope.depth)) :=
  (guards_perm alive).map _

/-- The live guards of a thread back the scopes that are open. -/
def Supported (thread : Thread) : Prop :=
  Backed thread.depths thread.construction.depth

theorem supported_start (closed : construction.scopes = []) : (start construction).Supported := by
  unfold Supported start Construction.depth
  rw [closed]
  exact Backed.nil

theorem Supported.perform (supported : thread.Supported) (event : Event) :
    (thread.perform event).Supported := by
  cases event with
  | create name initial =>
      unfold Supported
      simp only [Thread.perform, Construction.depth_create]
      exact supported
  | write handle contents => exact supported
  | enter =>
      unfold Supported
      simp only [Thread.perform, Construction.depth_enter]
      exact Backed.enter supported
  | drop position =>
      apply perform_drop_keeps supported
      intro guard alive
      unfold Supported
      simp only [Construction.depth_leave]
      exact (Backed.perm supported (depths_perm alive)).drop
  | count position => exact supported

theorem supported_run (closed : construction.scopes = []) (events : List Event) :
    ((start construction).run events).Supported :=
  run_keeps (fun _ event _ supported => supported.perform event) (supported_start closed)

theorem Supported.positive (supported : thread.Supported) (alive : guard ∈ thread.guards) :
    0 < guard.scope.depth :=
  Backed.positive supported _ (List.mem_map_of_mem alive)

theorem Supported.depth_le (supported : thread.Supported) :
    thread.construction.depth ≤ thread.guards.length := by
  have bounded := supported.opened_le_length
  rwa [depths, List.length_map] at bounded

/-- An event that names live guards only is computed without a failure. -/
theorem Supported.perform?_eq_some {alive : Nat} (supported : thread.Supported)
    (counted : event.aliveAfter? thread.guards.length = some alive) :
    thread.perform? event = some (thread.perform event) ∧
      (thread.perform event).guards.length = alive := by
  cases event with
  | create name initial =>
      cases counted
      exact ⟨rfl, rfl⟩
  | write handle contents =>
      cases counted
      exact ⟨rfl, rfl⟩
  | enter =>
      cases counted
      exact ⟨rfl, rfl⟩
  | drop position =>
      obtain ⟨inside, left⟩ := Option.ite_none_right_eq_some.mp counted
      cases left
      have found := List.getElem?_eq_getElem inside
      have left := Construction.leave?_eq_some thread.construction
        (supported.positive (List.mem_of_getElem? found))
      rw [perform_drop_of_alive found]
      constructor
      · simp [perform?, found, left]
      · simp [List.length_eraseIdx, inside]
  | count position =>
      obtain ⟨inside, left⟩ := Option.ite_none_right_eq_some.mp counted
      cases left
      have found := List.getElem?_eq_getElem inside
      have asked := Construction.variableCount?_eq_some thread.construction
        (supported.positive (List.mem_of_getElem? found))
      exact ⟨by simp [perform?, found, asked, Thread.perform], rfl⟩

theorem Supported.run?_eq_some {alive : Nat} (supported : thread.Supported)
    (counted : events.foldlM Event.aliveAfter? thread.guards.length = some alive) :
    thread.run? events = some (thread.run events) ∧
      (thread.run events).guards.length = alive := by
  induction events generalizing thread with
  | nil =>
      cases counted
      exact ⟨rfl, rfl⟩
  | cons event events induction =>
      rw [List.foldlM_cons] at counted
      obtain ⟨middle, once, counted⟩ := Option.bind_eq_some_iff.mp counted
      obtain ⟨performed, rfl⟩ := supported.perform?_eq_some once
      obtain ⟨ran, left⟩ := induction (supported.perform event) counted
      refine ⟨?_, left⟩
      rw [run?, List.foldlM_cons, performed]
      exact ran

/-- In whatever order live guards are dropped and asked, nothing fails, no more scopes
are open than guards are alive, and none is open when the last guard has been dropped. -/
theorem exists_run?_within_guards (closed : construction.scopes = []) {alive : Nat}
    (counted : events.foldlM Event.aliveAfter? 0 = some alive) :
    ∃ thread, (start construction).run? events = some thread ∧
      thread.construction.depth ≤ alive ∧ (alive = 0 → thread.construction.depth = 0) := by
  obtain ⟨ran, rfl⟩ := (supported_start closed).run?_eq_some counted
  have bounded := (supported_run closed events).depth_le
  refine ⟨_, ran, bounded, ?_⟩
  intro none
  rw [none] at bounded
  exact Nat.eq_zero_of_le_zero bounded

/-- Of two guards the older one is dropped first; when the other one is dropped after two
more were entered, it takes the graph of the newest with it. -/
def crossing : List Event :=
  [.enter, .enter, .create "a" (.int32 (.scalar 0)), .drop 1, .count 0, .enter, .enter, .count 0,
    .drop 2, .count 0, .create "b" (.int32 (.scalar 0)), .drop 0, .drop 0]

theorem crossing_runs_within_guards :
    Construction.empty.scopes = [] ∧ crossing.foldlM Event.aliveAfter? 0 = some 0 ∧
      ∃ thread, (start .empty).run? crossing = some thread ∧
        thread.construction.depth ≤ 0 ∧ (0 = 0 → thread.construction.depth = 0) :=
  ⟨rfl, rfl, exists_run?_within_guards rfl rfl⟩

end Thread

/-- Whether a scope was entered while no other one was open. -/
def Scope.IsOutermost (scope : Scope) : Prop :=
  scope.depth = 1

instance {scope : Scope} : Decidable scope.IsOutermost :=
  inferInstanceAs (Decidable (_ = _))

/-- Whether a variable was created while the guard of an outermost scope was alive. -/
def Creation.Covered (creation : Creation) : Prop :=
  ∃ guard ∈ creation.guards, guard.scope.IsOutermost

instance {creation : Creation} : Decidable creation.Covered :=
  inferInstanceAs (Decidable (∃ guard ∈ creation.guards, guard.scope.IsOutermost))

namespace Thread

variable {thread : Thread} {events : List Event} {construction : Construction}
  {creation : Creation}

theorem Supported.exists_outermost_iff (supported : thread.Supported) :
    (∃ guard ∈ thread.guards, guard.scope.IsOutermost) ↔ thread.construction.scopes ≠ [] := by
  have counted : thread.depths.count 1 = min 1 thread.construction.depth :=
    supported.outermost
  have listed : (∃ guard ∈ thread.guards, guard.scope.IsOutermost) ↔ 1 ∈ thread.depths := by
    simp [depths, Scope.IsOutermost]
  rw [listed, ← List.count_pos_iff, counted, ← List.length_pos_iff]
  exact Nat.lt_min.trans (by simp [Construction.depth])

/-- The base graph has gained the variables that no outermost guard covered, in the order
of their creation. -/
def BaseGained (before : List Variable) (thread : Thread) : Prop :=
  thread.construction.base =
    before ++ (thread.journal.filter (¬·.Covered)).map Creation.handle

theorem BaseGained.create {before : List Variable} (gained : thread.BaseGained before)
    (supported : thread.Supported) (name : String) (initial : Tensor) :
    (thread.perform (.create name initial)).BaseGained before := by
  unfold BaseGained at gained ⊢
  have covered : ∀ handle, Creation.Covered ⟨handle, thread.guards⟩ ↔
      thread.construction.scopes ≠ [] :=
    fun handle => supported.exists_outermost_iff
  simp only [perform]
  rcases thread.construction.closed_or_open with closed | ⟨outer, innermost, inside⟩
  · rw [Construction.create_of_closed closed]
    simp [covered, closed, gained]
  · rw [Construction.create_of_open inside]
    simp [covered, inside, gained]

theorem BaseGained.perform {before : List Variable} (gained : thread.BaseGained before)
    (supported : thread.Supported) (event : Event) :
    (thread.perform event).BaseGained before := by
  cases event with
  | create name initial => exact gained.create supported name initial
  | write handle contents => exact gained
  | enter => exact gained
  | drop position => exact perform_drop_keeps gained fun _ _ => gained
  | count position => exact gained

theorem baseGained_run (closed : construction.scopes = []) (events : List Event) :
    ((start construction).run events).BaseGained construction.base := by
  have kept := @run_keeps (start construction) events
    (fun thread => thread.Supported ∧ thread.BaseGained construction.base)
    (fun _ event _ kept => ⟨kept.1.perform event, kept.2.perform kept.1 event⟩)
    ⟨supported_start closed, by simp [BaseGained, start]⟩
  exact kept.2

/-- A variable of a run is in the base graph exactly when no guard that was alive at its
creation was that of an outermost scope. -/
theorem mem_base_iff_not_covered (closed : construction.scopes = [])
    (held : ∀ handle ∈ construction.base, construction.store.Holds handle)
    (created : creation ∈ ((start construction).run events).journal) :
    creation.handle ∈ ((start construction).run events).construction.base ↔
      ¬∃ guard ∈ creation.guards, guard.scope.IsOutermost := by
  have journaled := journaled_run construction events
  have gained := baseGained_run closed events
  unfold BaseGained at gained
  have fresh : creation.handle ∉ construction.base := by
    intro old
    exact (journaled.mem_handles_iff.mp (List.mem_map_of_mem created)).1 (held _ old)
  rw [gained, List.mem_append, or_iff_right fresh]
  constructor
  · intro listed
    obtain ⟨other, uncovered, same⟩ := List.mem_map.mp listed
    obtain ⟨inside, uncovered⟩ := List.mem_filter.mp uncovered
    have equal := List.inj_on_of_nodup_map journaled.distinct inside created same
    rw [equal] at uncovered
    exact of_decide_eq_true uncovered
  · intro uncovered
    exact List.mem_map_of_mem (List.mem_filter.mpr ⟨created, decide_eq_true uncovered⟩)

/-- Creates a variable within a scope, and another one when only the guard of an inner scope
is left. -/
def outlived : List Event :=
  [.enter, .create "a" (.int32 (.scalar 0)), .enter, .drop 1, .create "b" (.int32 (.scalar 0))]

theorem outlived_variables_in_base :
    Construction.empty.scopes = [] ∧
      (∀ handle ∈ Construction.empty.base, Construction.empty.store.Holds handle) ∧
      ⟨⟨0⟩, [⟨0, ⟨1⟩⟩]⟩ ∈ ((start .empty).run outlived).journal ∧
      ⟨⟨1⟩, [⟨1, ⟨2⟩⟩]⟩ ∈ ((start .empty).run outlived).journal ∧
      ⟨0⟩ ∉ ((start .empty).run outlived).construction.base ∧
      ⟨1⟩ ∈ ((start .empty).run outlived).construction.base := by
  have held : ∀ handle ∈ Construction.empty.base, Construction.empty.store.Holds handle := by
    decide
  have first : ⟨⟨0⟩, [⟨0, ⟨1⟩⟩]⟩ ∈ ((start .empty).run outlived).journal := by decide
  have second : ⟨⟨1⟩, [⟨1, ⟨2⟩⟩]⟩ ∈ ((start .empty).run outlived).journal := by decide
  refine ⟨rfl, held, first, second, ?_, ?_⟩
  · intro inside
    exact (mem_base_iff_not_covered rfl held first).mp inside (by decide)
  · exact (mem_base_iff_not_covered rfl held second).mpr (by decide)

/-- A variable can reach the base graph beside a live guard: it does when the guard of the
outermost scope was dropped before the one within. -/
theorem variable_beside_guard_reaches_base :
    ¬∀ (construction : Construction) (events : List Event) (alive : Nat) (creation : Creation),
      construction.scopes = [] →
      (∀ handle ∈ construction.base, construction.store.Holds handle) →
      events.foldlM Event.aliveAfter? 0 = some alive →
      creation ∈ ((start construction).run events).journal →
      creation.guards ≠ [] →
      creation.handle ∉ ((start construction).run events).construction.base := by
  intro always
  exact always .empty outlived 1 ⟨⟨1⟩, [⟨1, ⟨2⟩⟩]⟩ rfl (by decide) rfl (by decide) (by decide)
    (by decide)

end Thread

end FederatedLearning
