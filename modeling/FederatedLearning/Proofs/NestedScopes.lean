import FederatedLearning.Proofs.ThreadRuns

/-!
# Scopes within scopes

A well-nested program drops each guard before those that were entered before it, whether
a body ends by itself or by a panic, which unwinds every scope up to where it is caught.
What such a program does is a sequence of events in which only the newest guard is ever
dropped.

In such a sequence the open scopes are exactly those of the live guards, in their order,
on top of those open before, and every graph lists the variables created while its guard
was the newest one.
-/

namespace FederatedLearning

/-- A program of creations and nested scopes. -/
inductive Program where
  | finish
  | panic
  | create (name : String) (initial : Tensor) (next : Program)
  /-- Enters a scope, and drops its guard when the body ends. -/
  | guarded (body next : Program)
  /-- Runs the body within a fresh scope. -/
  | within (body next : Program)
  /-- Catches a panic of the body. -/
  | attempt (body next : Program)

inductive Ending where
  | finished
  | panicked
deriving DecidableEq, Repr

/-- Chooses between how to go on and how to stop. -/
def Ending.select {α : Type} (ending : Ending) (next stop : α) : α :=
  match ending with
  | .finished => next
  | .panicked => stop

namespace Program

def execute : Program → StateM Construction Ending
  | finish => return .finished
  | panic => return .panicked
  | create name initial next => do
      let _ ← Construction.create name initial
      execute next
  | guarded body next => do
      let scope ← Construction.enter
      let ending ← execute body
      modify (·.leave scope)
      ending.select (execute next) (return .panicked)
  | within body next => do
      let ending ← Construction.within (execute body)
      ending.select (execute next) (return .panicked)
  | attempt body next => do
      let _ ← execute body
      execute next

def ending : Program → Ending
  | finish => .finished
  | panic => .panicked
  | create _ _ next => next.ending
  | guarded body next | within body next => body.ending.select next.ending .panicked
  | attempt _ next => next.ending

/-- What a program does, one after the other. -/
def events : Program → List Event
  | finish | panic => []
  | create name initial next => .create name initial :: next.events
  | guarded body next | within body next =>
      .enter :: body.events ++ [.drop 0] ++ body.ending.select next.events []
  | attempt body next => body.events ++ next.events

end Program

namespace Thread

variable {thread : Thread} {guard : Guard} {older : List Guard} {events : List Event}

theorem perform_drop_newest (newest : thread.guards = guard :: older) :
    thread.perform (.drop 0) =
      { thread with
        construction := thread.construction.leave guard.scope
        guards := older } := by
  have alive : thread.guards[0]? = some guard := by simp [newest]
  rw [perform_drop_of_alive alive, newest]
  rfl

/-- Events that keep the guards, between entering a scope and dropping the newest guard,
are left by the guard of that scope. -/
theorem run_block (kept : ((thread.perform .enter).run events).guards =
      (thread.perform .enter).guards) :
    ((thread.run (.enter :: events ++ [.drop 0])).construction =
        ((thread.perform .enter).run events).construction.leave
          ⟨thread.construction.depth + 1⟩) ∧
      (thread.run (.enter :: events ++ [.drop 0])).guards = thread.guards := by
  rw [List.cons_append, run_cons, run_append, run_cons, run_nil, perform_drop_newest kept]
  exact ⟨rfl, rfl⟩

end Thread

namespace Program

variable {body next : Program} {thread : Thread} {construction : Construction}

theorem execute_guarded_apply :
    (guarded body next).execute construction =
      let (ending, after) := body.execute (Construction.enter construction).2
      (ending.select next.execute (return .panicked))
        (after.leave ⟨construction.depth + 1⟩) :=
  rfl

theorem execute_within_apply :
    (within body next).execute construction = (guarded body next).execute construction := by
  rw [execute_guarded_apply]
  rfl

/-- Executing a program performs its events, and leaves the guards that it found. -/
def Performed (program : Program) (thread : Thread) : Prop :=
  program.execute thread.construction =
      (program.ending, (thread.run program.events).construction) ∧
    (thread.run program.events).guards = thread.guards

theorem performed_guarded (ofBody : body.Performed (thread.perform .enter))
    (ofNext : ∀ thread, next.Performed thread) : (guarded body next).Performed thread := by
  obtain ⟨executed, kept⟩ := ofBody
  obtain ⟨left, guards⟩ := Thread.run_block kept
  have opened : body.execute (Construction.enter thread.construction).2 = _ := executed
  unfold Performed
  rw [execute_guarded_apply, opened, ending, events, Thread.run_append]
  simp only [← left]
  cases body.ending with
  | panicked => exact ⟨rfl, guards⟩
  | finished =>
      obtain ⟨ran, after⟩ := ofNext (thread.run (.enter :: body.events ++ [.drop 0]))
      exact ⟨ran, after.trans guards⟩

theorem performed (program : Program) (thread : Thread) : program.Performed thread := by
  induction program generalizing thread with
  | finish => exact ⟨rfl, rfl⟩
  | panic => exact ⟨rfl, rfl⟩
  | create name initial next induction => exact induction (thread.perform (.create name initial))
  | guarded body next ofBody ofNext => exact performed_guarded (ofBody _) ofNext
  | within body next ofBody ofNext =>
      have alike : (guarded body next).Performed thread := performed_guarded (ofBody _) ofNext
      unfold Performed at alike ⊢
      rw [execute_within_apply]
      exact alike
  | attempt body next ofBody ofNext =>
      obtain ⟨executed, kept⟩ := ofBody thread
      obtain ⟨ran, after⟩ := ofNext (thread.run body.events)
      have caught : (attempt body next).execute thread.construction =
          next.execute (body.execute thread.construction).2 := rfl
      unfold Performed
      rw [caught, executed, events, Thread.run_append]
      exact ⟨ran, after.trans kept⟩

end Program

/-- Drops no guard but the newest. -/
def Event.LastFirst : Event → Prop
  | .drop position => position = 0
  | _ => True

theorem Program.events_lastFirst (program : Program) :
    ∀ event ∈ program.events, event.LastFirst := by
  have block : ∀ {body next : Program}, (∀ event ∈ body.events, event.LastFirst) →
      (∀ event ∈ next.events, event.LastFirst) →
        ∀ event ∈ (guarded body next).events, event.LastFirst := by
    intro body next ofBody ofNext
    simp only [Program.events, List.forall_mem_append, List.forall_mem_cons]
    refine ⟨⟨⟨trivial, ofBody⟩, rfl, fun _ absent => nomatch absent⟩, ?_⟩
    cases body.ending with
    | finished => exact ofNext
    | panicked => intro event absent; cases absent
  induction program with
  | finish => intro event absent; cases absent
  | panic => intro event absent; cases absent
  | create name initial next ofNext => exact List.forall_mem_cons.mpr ⟨trivial, ofNext⟩
  | guarded body next ofBody ofNext => exact block ofBody ofNext
  | within body next ofBody ofNext => exact block ofBody ofNext
  | attempt body next ofBody ofNext =>
      rw [Program.events, List.forall_mem_append]
      exact ⟨ofBody, ofNext⟩

namespace Thread

/-- The variables created while a guard was the newest one alive. -/
def members (thread : Thread) (guard : Guard) : List Variable :=
  (thread.journal.filter (·.guards.head? = some guard)).map Creation.handle

/-- The variables created while no guard was alive. -/
def outside (thread : Thread) : List Variable :=
  (thread.journal.filter (·.guards = [])).map Creation.handle

/-- As long as only the newest guard is dropped, the stack consists of what was open
before, with the variables created outside the guards, and of the graphs of the live
guards, the newest on top. -/
structure Nested (before : Construction) (thread : Thread) : Prop where
  scopes : thread.construction.scopes =
    (before.registerAll thread.outside).scopes ++ thread.guards.reverse.map thread.members
  base : thread.construction.base = (before.registerAll thread.outside).base
  depths : ∀ newer guard older, thread.guards = newer ++ guard :: older →
    guard.scope.depth = before.depth + older.length + 1
  distinct : thread.guards.Nodup
  /-- A guard that will be entered is told apart from all that are alive or recorded. -/
  recent : ∀ guard ∈ thread.guards, guard.number < thread.entered
  recorded : ∀ creation ∈ thread.journal, ∀ guard ∈ creation.guards,
    guard.number < thread.entered

variable {before : Construction} {thread : Thread} {guard : Guard} {older : List Guard}

theorem nested_start (before : Construction) : (start before).Nested before where
  scopes := by simp [start, outside, Construction.registerAll]
  base := by simp [start, outside, Construction.registerAll]
  depths newer guard older split := by simp [start] at split
  distinct := List.nodup_nil
  recent guard alive := by cases alive
  recorded creation inside := by cases inside

theorem Nested.depth_eq (nested : thread.Nested before) :
    thread.construction.depth = before.depth + thread.guards.length := by
  have counted := congrArg List.length nested.scopes
  rw [List.length_append, List.length_map, List.length_reverse] at counted
  exact counted.trans (congrArg (· + _) Construction.depth_registerAll)

/-- Below the graph of a guard lie as many graphs as its depth says. -/
theorem Nested.length_below (nested : thread.Nested before) {newer : List Guard}
    (split : thread.guards = newer ++ guard :: older) :
    ((before.registerAll thread.outside).scopes ++ older.reverse.map thread.members).length =
      guard.scope.depth - 1 := by
  rw [nested.depths newer guard older split, List.length_append, List.length_map,
    List.length_reverse]
  exact congrArg (· + _) Construction.depth_registerAll

theorem Nested.scopes_newest (nested : thread.Nested before)
    (newest : thread.guards = guard :: older) :
    thread.construction.scopes =
      ((before.registerAll thread.outside).scopes ++ older.reverse.map thread.members) ++
        [thread.members guard] := by
  rw [nested.scopes, newest, List.reverse_cons, List.map_append, List.append_assoc]
  rfl

theorem Nested.create_outside (nested : thread.Nested before) (none : thread.guards = [])
    (name : String) (initial : Tensor) :
    (thread.perform (.create name initial)).Nested before := by
  have outside_eq : (thread.perform (.create name initial)).outside =
      thread.outside ++ [(Construction.create name initial thread.construction).1] := by
    simp [outside, Thread.perform, none]
  have scopes_eq := nested.scopes
  rw [none, List.reverse_nil, List.map_nil, List.append_nil] at scopes_eq
  obtain ⟨sameBase, sameScopes⟩ := Construction.register_congr
    { thread.construction with store := (thread.construction.store.create name initial).2 }
    (before.registerAll thread.outside) (Construction.create name initial thread.construction).1
    nested.base scopes_eq
  constructor
  · rw [outside_eq, Construction.registerAll_concat, ← sameScopes]
    simp [Thread.perform, none, Construction.create_apply]
  · rw [outside_eq, Construction.registerAll_concat, ← sameBase]
    rfl
  · exact nested.depths
  · exact nested.distinct
  · exact nested.recent
  · exact List.forall_mem_append.mpr ⟨nested.recorded, List.forall_mem_singleton.mpr nested.recent⟩

theorem Nested.create_within (nested : thread.Nested before)
    (newest : thread.guards = guard :: older) (name : String) (initial : Tensor) :
    (thread.perform (.create name initial)).Nested before := by
  have outside_eq : (thread.perform (.create name initial)).outside = thread.outside := by
    simp [outside, Thread.perform, newest]
  have members_newest : (thread.perform (.create name initial)).members guard =
      thread.members guard ++ [(Construction.create name initial thread.construction).1] := by
    simp [members, Thread.perform, newest]
  have members_older : ∀ other ∈ older.reverse,
      (thread.perform (.create name initial)).members other = thread.members other := by
    intro other inside
    have distinct := nested.distinct
    rw [newest, List.nodup_cons] at distinct
    have apart : guard ≠ other := by
      intro same
      exact distinct.1 (same ▸ List.mem_reverse.mp inside)
    simp [members, Thread.perform, newest, apart]
  have created : (thread.perform (.create name initial)).construction =
      { thread.construction with
        store := (thread.construction.store.create name initial).2
        scopes := ((before.registerAll thread.outside).scopes ++
            older.reverse.map thread.members) ++
          [thread.members guard ++
            [(Construction.create name initial thread.construction).1]] } :=
    Construction.create_of_open (nested.scopes_newest newest)
  have alive : (thread.perform (.create name initial)).guards = guard :: older := newest
  constructor
  · rw [created, outside_eq, alive, List.reverse_cons, List.map_append, List.map_singleton,
      members_newest, List.map_congr_left members_older, List.append_assoc]
  · rw [created, outside_eq]
    exact nested.base
  · exact nested.depths
  · exact nested.distinct
  · exact nested.recent
  · exact List.forall_mem_append.mpr ⟨nested.recorded, List.forall_mem_singleton.mpr nested.recent⟩

theorem Nested.members_next (nested : thread.Nested before) {scope : Scope} :
    thread.members ⟨thread.entered, scope⟩ = [] := by
  unfold members
  rw [List.map_eq_nil_iff, List.filter_eq_nil_iff]
  intro creation inside newest
  have alive := List.mem_of_head? (of_decide_eq_true newest)
  exact Nat.lt_irrefl _ (nested.recorded creation inside _ alive)

theorem Nested.enter (nested : thread.Nested before) : (thread.perform .enter).Nested before where
  scopes := by
    change thread.construction.scopes ++ [[]] = (before.registerAll thread.outside).scopes ++
      (⟨thread.entered, ⟨thread.construction.depth + 1⟩⟩ :: thread.guards).reverse.map
        thread.members
    rw [List.reverse_cons, List.map_append, List.map_singleton, nested.members_next,
      ← List.append_assoc, ← nested.scopes]
  base := nested.base
  depths newer guard older split := by
    change ⟨thread.entered, ⟨thread.construction.depth + 1⟩⟩ :: thread.guards =
      newer ++ guard :: older at split
    cases newer with
    | nil =>
        cases split
        exact congrArg (· + 1) nested.depth_eq
    | cons first newer => exact nested.depths newer guard older (List.cons.inj split).2
  distinct := by
    apply List.nodup_cons.mpr ⟨_, nested.distinct⟩
    intro alive
    exact Nat.lt_irrefl _ (nested.recent _ alive)
  recent := List.forall_mem_cons.mpr
    ⟨Nat.lt_succ_self _, fun guard alive => Nat.lt_succ_of_lt (nested.recent guard alive)⟩
  recorded creation inside guard alive :=
    Nat.lt_succ_of_lt (nested.recorded creation inside guard alive)

theorem Nested.dropNewest (nested : thread.Nested before)
    (newest : thread.guards = guard :: older) :
    (thread.perform (.drop 0)).Nested before := by
  rw [perform_drop_newest newest]
  constructor
  · change thread.construction.scopes.take (guard.scope.depth - 1) =
      (before.registerAll thread.outside).scopes ++ older.reverse.map thread.members
    have split : thread.guards = [] ++ guard :: older := newest
    rw [nested.scopes_newest newest, List.take_left' (nested.length_below split)]
  · exact nested.base
  · intro newer other rest split
    exact nested.depths (guard :: newer) other rest (newest.trans (congrArg _ split))
  · exact (newest ▸ nested.distinct).of_cons
  · intro other alive
    exact nested.recent other (newest ▸ List.mem_cons_of_mem guard alive)
  · exact nested.recorded

theorem Nested.perform (nested : thread.Nested before) {event : Event}
    (lastFirst : event.LastFirst) : (thread.perform event).Nested before := by
  cases event with
  | create name initial =>
      cases newest : thread.guards with
      | nil => exact nested.create_outside newest name initial
      | cons guard older => exact nested.create_within newest name initial
  | write handle contents =>
      exact ⟨nested.scopes, nested.base, nested.depths, nested.distinct, nested.recent,
        nested.recorded⟩
  | enter => exact nested.enter
  | drop position =>
      obtain rfl : position = 0 := lastFirst
      cases newest : thread.guards with
      | nil => exact perform_drop_keeps nested fun _ alive => by simp [newest] at alive
      | cons guard older => exact nested.dropNewest newest
  | count position => exact nested

theorem nested_run (before : Construction) {events : List Event}
    (lastFirst : ∀ event ∈ events, event.LastFirst) :
    ((start before).run events).Nested before :=
  run_keeps (fun _ event inside nested => nested.perform (lastFirst event inside))
    (nested_start before)

/-- The graph of a live guard lies where the depth of the guard says. -/
theorem Nested.variableCount_eq (nested : thread.Nested before) (alive : guard ∈ thread.guards) :
    thread.construction.variableCount guard.scope =
      thread.journal.countP (·.guards.head? = some guard) := by
  obtain ⟨newer, older, split⟩ := List.append_of_mem alive
  have scopes_eq : thread.construction.scopes =
      ((before.registerAll thread.outside).scopes ++ older.reverse.map thread.members) ++
        thread.members guard :: newer.reverse.map thread.members := by
    simp [nested.scopes, split]
  rw [Construction.variableCount, scopes_eq, ← nested.length_below split]
  simp [members, List.countP_eq_length_filter]

end Thread

namespace Program

/-- The thread after a program. -/
def final (program : Program) (before : Construction) : Thread :=
  (Thread.start before).run program.events

/-- What a program does to the graphs, and what its guards show on the way. -/
structure KeepsScopes (program : Program) (before : Construction) : Prop where
  executed : program.execute before = (program.ending, (program.final before).construction)
  dropped : (program.final before).guards = []
  /-- The journal lists exactly the new variables. -/
  created : ∀ handle, handle ∈ (program.final before).journal.map Creation.handle ↔
    ¬before.store.Holds handle ∧ (program.final before).construction.store.Holds handle
  once : ((program.final before).journal.map Creation.handle).Nodup
  /-- Where no scope was open none is, and the base graph has gained what was created
  outside all scopes. -/
  closed : before.scopes = [] →
    (program.final before).construction.scopes = before.scopes ∧
      (program.final before).construction.base = before.base ++ (program.final before).outside
  /-- Where scopes were open they still are, and only the innermost one has gained
  anything, namely what was created in it. -/
  opened : ∀ outer innermost, before.scopes = outer ++ [innermost] →
    (program.final before).construction.scopes =
        outer ++ [innermost ++ (program.final before).outside] ∧
      (program.final before).construction.base = before.base
  /-- At every moment there is an open scope for each live guard, above those before. -/
  levels : ∀ past, past <+: program.events →
    ((Thread.start before).run past).construction.depth =
      before.depth + ((Thread.start before).run past).guards.length
  /-- At every moment a guard counts the variables created while it was the newest. -/
  counts : ∀ past, past <+: program.events → ∀ guard ∈ ((Thread.start before).run past).guards,
    ((Thread.start before).run past).construction.variableCount guard.scope =
      ((Thread.start before).run past).journal.countP (·.guards.head? = some guard)

/-- Every program leaves the stack as it found it, however it ends. -/
theorem keeps_scopes (program : Program) (before : Construction) :
    program.KeepsScopes before := by
  have lastFirst := program.events_lastFirst
  obtain ⟨executed, dropped⟩ := program.performed (Thread.start before)
  have journaled := Thread.journaled_run before program.events
  have nestedThen : ∀ past, past <+: program.events →
      ((Thread.start before).run past).Nested before := by
    intro past earlier
    exact Thread.nested_run before fun event inside => lastFirst event (earlier.subset inside)
  have nested := nestedThen _ (List.prefix_refl _)
  have scopes_eq : (program.final before).construction.scopes =
      (before.registerAll (program.final before).outside).scopes := by
    have none : ((Thread.start before).run program.events).guards = [] := dropped
    have stacked := nested.scopes
    rw [none, List.reverse_nil, List.map_nil, List.append_nil] at stacked
    exact stacked
  have base_eq : (program.final before).construction.base =
      (before.registerAll (program.final before).outside).base := nested.base
  constructor
  · exact executed
  · exact dropped
  · exact fun _ => journaled.mem_handles_iff
  · exact journaled.distinct
  · intro closed
    rw [scopes_eq, base_eq, Construction.registerAll_of_closed closed]
    exact ⟨rfl, rfl⟩
  · intro outer innermost inside
    rw [scopes_eq, base_eq, Construction.registerAll_of_open inside]
    exact ⟨rfl, rfl⟩
  · exact fun past earlier => (nestedThen past earlier).depth_eq
  · exact fun past earlier guard alive => (nestedThen past earlier).variableCount_eq alive

/-- The panic of the body discards its variable; the next one is in the base graph. -/
example : ((attempt (within (create "a" (.int32 (.scalar 0)) panic) finish)
    (create "b" (.int32 (.scalar 0)) finish)).execute .empty).2.base = [⟨1⟩] := rfl

end Program

end FederatedLearning
