import FederatedLearning.Proofs.ScopeStack
import FederatedLearning.Proofs.VariableStore
import Mathlib.Data.List.Nodup
import Mathlib.Data.List.Perm.Basic

/-!
# What a thread does with scopes

A thread creates variables and writes to them, enters scopes, and drops the guards
that it holds in whatever order.  Beside the construction that these events change, a
thread keeps a journal that no event reads: every variable it created, with the guards
that were alive at that moment.  The journal lists exactly the variables that are new,
each once and in the order of their creation.
-/

namespace FederatedLearning

/-- A guard, told apart from others by the number of guards entered before it. -/
structure Guard where
  number : Nat
  scope : Scope
deriving DecidableEq, Repr

/-- A created variable with the guards that were alive then, the newest first. -/
structure Creation where
  handle : Variable
  guards : List Guard
deriving DecidableEq, Repr

structure Thread where
  construction : Construction
  /-- The guards that are alive, the newest first. -/
  guards : List Guard
  /-- How many guards were entered, alive or not. -/
  entered : Nat
  /-- The variables created, the oldest first. -/
  journal : List Creation
deriving DecidableEq

inductive Event where
  | create (name : String) (initial : Tensor)
  | write (handle : Variable) (contents : Tensor)
  | enter
  /-- Drops the guard at a position among those alive. -/
  | drop (position : Nat)
  /-- Asks the guard at a position for the number of its variables. -/
  | count (position : Nat)

namespace Thread

def start (construction : Construction) : Thread :=
  ⟨construction, [], 0, []⟩

/-- An event that names a guard which is not alive does nothing. -/
def perform (thread : Thread) : Event → Thread
  | .create name initial =>
      let created := Construction.create name initial thread.construction
      { thread with
        construction := created.2
        journal := thread.journal ++ [⟨created.1, thread.guards⟩] }
  | .write handle contents =>
      let store := thread.construction.store.put handle contents
      { thread with construction := { thread.construction with store } }
  | .enter =>
      let entered := Construction.enter thread.construction
      { thread with
        construction := entered.2
        guards := ⟨thread.entered, entered.1⟩ :: thread.guards
        entered := thread.entered + 1 }
  | .drop position =>
      match thread.guards[position]? with
      | none => thread
      | some guard =>
          { thread with
            construction := thread.construction.leave guard.scope
            guards := thread.guards.eraseIdx position }
  | .count _ => thread

def run (thread : Thread) (events : List Event) : Thread :=
  events.foldl perform thread

variable {thread : Thread} {events : List Event} {position : Nat} {guard : Guard}
  {creation : Creation}

@[simp] theorem run_nil : thread.run [] = thread := rfl

@[simp] theorem run_cons (event : Event) :
    thread.run (event :: events) = (thread.perform event).run events := rfl

theorem run_append (later : List Event) :
    thread.run (events ++ later) = (thread.run events).run later :=
  List.foldl_append

/-- What each of the events keeps, their run keeps. -/
theorem run_keeps {Keeps : Thread → Prop}
    (step : ∀ thread, ∀ event ∈ events, Keeps thread → Keeps (thread.perform event))
    (kept : Keeps thread) : Keeps (thread.run events) := by
  induction events generalizing thread with
  | nil => exact kept
  | cons event events induction =>
      exact induction (fun thread later inside => step thread later (List.mem_cons_of_mem _ inside))
        (step thread event List.mem_cons_self kept)

theorem perform_drop_of_alive (alive : thread.guards[position]? = some guard) :
    thread.perform (.drop position) =
      { thread with
        construction := thread.construction.leave guard.scope
        guards := thread.guards.eraseIdx position } := by
  simp [perform, alive]

/-- Dropping a guard keeps what dropping a live one keeps. -/
theorem perform_drop_keeps {Keeps : Thread → Prop} (kept : Keeps thread)
    (dropped : ∀ guard, thread.guards[position]? = some guard →
      Keeps { thread with
        construction := thread.construction.leave guard.scope
        guards := thread.guards.eraseIdx position }) :
    Keeps (thread.perform (.drop position)) := by
  cases alive : thread.guards[position]? with
  | none => simpa [perform, alive] using kept
  | some guard =>
      rw [perform_drop_of_alive alive]
      exact dropped guard alive

/-- A guard that is alive stands beside those that stay when it is dropped. -/
theorem guards_perm (alive : thread.guards[position]? = some guard) :
    thread.guards.Perm (guard :: thread.guards.eraseIdx position) := by
  obtain ⟨inside, found⟩ := List.getElem?_eq_some_iff.mp alive
  rw [← found]
  exact (List.getElem_cons_eraseIdx_perm inside).symm

/-- The journal lists the variables that are new since the first store, in the order of
their creation. -/
structure Journaled (before : Store) (thread : Thread) : Prop where
  cells : thread.construction.store.cells.length =
    before.cells.length + thread.journal.length
  handles : thread.journal.map Creation.handle =
    (List.range' before.cells.length thread.journal.length).map Variable.mk

variable {before : Store} {handle : Variable}

theorem journaled_start (construction : Construction) :
    (start construction).Journaled construction.store :=
  ⟨rfl, rfl⟩

theorem Journaled.perform (journaled : thread.Journaled before) (event : Event) :
    (thread.perform event).Journaled before := by
  have ⟨cells, handles⟩ := journaled
  cases event with
  | create name initial =>
      constructor
      · simp [Thread.perform, Construction.create_apply, Store.create, cells, Nat.add_assoc]
      · simp [Thread.perform, Construction.create_apply, Store.create, cells, handles,
          List.range'_concat]
  | write handle contents => exact ⟨by simpa [Thread.perform, Store.put] using cells, handles⟩
  | enter => exact ⟨cells, handles⟩
  | drop position => exact perform_drop_keeps journaled fun _ _ => ⟨cells, handles⟩
  | count position => exact journaled

theorem journaled_run (construction : Construction) (events : List Event) :
    ((start construction).run events).Journaled construction.store :=
  run_keeps (fun _ event _ journaled => journaled.perform event) (journaled_start construction)

theorem Journaled.mem_handles_iff (journaled : thread.Journaled before) :
    handle ∈ thread.journal.map Creation.handle ↔
      ¬before.Holds handle ∧ thread.construction.store.Holds handle := by
  rw [journaled.handles, List.mem_map, Store.Holds, Store.Holds, journaled.cells]
  constructor
  · rintro ⟨cell, listed, rfl⟩
    obtain ⟨old, new⟩ := List.mem_range'_1.mp listed
    exact ⟨Nat.not_lt_of_le old, new⟩
  · rintro ⟨new, inside⟩
    exact ⟨handle.position, List.mem_range'_1.mpr ⟨Nat.le_of_not_lt new, inside⟩, rfl⟩

theorem Journaled.distinct (journaled : thread.Journaled before) :
    (thread.journal.map Creation.handle).Nodup := by
  rw [journaled.handles]
  exact List.Nodup.map (fun _ _ same => Variable.mk.inj same) List.nodup_range'

end Thread

end FederatedLearning
