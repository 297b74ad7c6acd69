import FederatedLearning.Model.LinearRegression
import FederatedLearning.Model.Weights
import FederatedLearning.Proofs.ThreadRuns

/-!
# What a model factory leaves behind

A factory that is asked for the type or the size of its model runs in a scope of its own.
Whatever it creates, and however it enters and drops scopes of its own, it never cuts the
stack off below that scope, so every graph outside is kept; leaving the scope restores the
stack.  This holds whether the factory builds a model, returns an error or panics.
-/

namespace FederatedLearning

namespace Thread

/-- All guards were entered above the scopes open before, of which the innermost one alone
may have changed. -/
structure Confined (before : Construction) (thread : Thread) : Prop where
  deep : before.depth ≤ thread.construction.depth
  above : ∀ guard ∈ thread.guards, before.depth < guard.scope.depth
  base : thread.construction.base = before.base
  outer : thread.construction.scopes.take (before.depth - 1) =
    before.scopes.take (before.depth - 1)

variable {before : Construction} {thread : Thread} {guard : Guard} {position : Nat}

theorem confined_start (before : Construction) : (start before).Confined before where
  deep := Nat.le_refl _
  above guard alive := by cases alive
  base := rfl
  outer := rfl

theorem Confined.create (confined : thread.Confined before) (inside : 0 < before.depth)
    (name : String) (initial : Tensor) :
    (thread.perform (.create name initial)).Confined before := by
  have deep := confined.deep
  obtain closed | ⟨outer, innermost, opened⟩ := thread.construction.closed_or_open
  · -- the scope that was open before still is
    rw [Construction.depth, Construction.depth, closed] at deep
    exact absurd (Nat.lt_of_lt_of_le inside deep) (Nat.lt_irrefl 0)
  · have created : (Construction.create name initial thread.construction).2 = _ :=
      Construction.create_of_open opened
    have below : before.depth - 1 ≤ outer.length := by
      have counted : thread.construction.depth = outer.length + 1 := by
        rw [Construction.depth, opened, List.length_append]
        rfl
      omega
    constructor
    · exact Nat.le_trans deep (Nat.le_of_eq Construction.depth_create.symm)
    · exact confined.above
    · exact (congrArg Construction.base created).trans confined.base
    · have kept := confined.outer
      rw [opened, List.take_append_of_le_length below] at kept
      change (Construction.create name initial thread.construction).2.scopes.take _ = _
      rw [created, List.take_append_of_le_length below, kept]

theorem Confined.enter (confined : thread.Confined before) :
    (thread.perform .enter).Confined before := by
  have deep := confined.deep
  constructor
  · have deeper : (thread.perform .enter).construction.depth = thread.construction.depth + 1 :=
      Construction.depth_enter
    omega
  · exact List.forall_mem_cons.mpr ⟨Nat.lt_succ_of_le deep, confined.above⟩
  · exact confined.base
  · have below : before.depth - 1 ≤ thread.construction.scopes.length :=
      Nat.le_trans (Nat.sub_le _ _) deep
    change (thread.construction.scopes ++ [[]]).take _ = _
    rw [List.take_append_of_le_length below, confined.outer]

theorem Confined.drop (confined : thread.Confined before)
    (alive : thread.guards[position]? = some guard) :
    Confined before { thread with
      construction := thread.construction.leave guard.scope
      guards := thread.guards.eraseIdx position } := by
  have above := confined.above guard (List.mem_of_getElem? alive)
  constructor
  · rw [Construction.depth_leave]
    exact Nat.le_min.mpr ⟨Nat.le_sub_one_of_lt above, confined.deep⟩
  · intro other inside
    exact confined.above other (List.mem_of_mem_eraseIdx inside)
  · exact confined.base
  · change (thread.construction.scopes.take (guard.scope.depth - 1)).take (before.depth - 1) = _
    rw [List.take_take, Nat.min_eq_left (by omega), confined.outer]

theorem Confined.perform (confined : thread.Confined before) (inside : 0 < before.depth)
    (event : Event) : (thread.perform event).Confined before := by
  cases event with
  | create name initial => exact confined.create inside name initial
  | write handle contents =>
      exact ⟨confined.deep, confined.above, confined.base, confined.outer⟩
  | enter => exact confined.enter
  | drop position => exact perform_drop_keeps confined fun _ alive => confined.drop alive
  | count position => exact confined

theorem confined_run (inside : 0 < before.depth) (events : List Event) :
    ((start before).run events).Confined before :=
  run_keeps (fun _ event _ confined => confined.perform inside event) (confined_start before)

end Thread

namespace Construction

variable {α ε : Type} {construction : Construction}

/-- What can be done by creating variables, writing to them, and entering scopes and
dropping their guards in any order. -/
def Reaches (before after : Construction) : Prop :=
  ∃ events, ((Thread.start before).run events).construction = after

/-- The variables of every graph are the same. -/
structure SameGraphs (before after : Construction) : Prop where
  base : after.base = before.base
  scopes : after.scopes = before.scopes

/-- Whatever is done within a scope, the graphs outside are as before when it is left. -/
theorem within_keeps_graphs {body : StateM Construction α}
    (reaches : (enter construction).2.Reaches (body (enter construction).2).2) :
    construction.SameGraphs (within body construction).2 := by
  obtain ⟨events, reached⟩ := reaches
  have inside : 0 < (enter construction).2.depth := by
    rw [depth_enter]
    exact Nat.succ_pos _
  have confined := Thread.confined_run inside events
  rw [within_apply, ← reached]
  constructor
  · exact confined.base
  · have kept := confined.outer
    rw [depth_enter, Nat.add_sub_cancel] at kept
    exact kept.trans (List.take_left' rfl)

theorem weightsTypeOf_apply (factory : ExceptT ε (StateM Construction) Model)
    (construction : Construction) :
    weightsTypeOf factory construction =
      match factory (enter construction).2 with
      | (outcome, after) =>
          (outcome.map (·.weightsType after.store), after.leave ⟨construction.depth + 1⟩) := by
  have opened : weightsTypeOf factory construction = within _ construction := rfl
  rw [opened, within_apply]
  simp only [bind, ExceptT.bind, ExceptT.mk, ExceptT.run, StateT.bind]
  rcases factory (enter construction).2 with ⟨_ | _, _⟩ <;> rfl

theorem parameterCountWith_apply (refuse : LearningError → ε)
    (factory : ExceptT ε (StateM Construction) Model) (construction : Construction) :
    parameterCountWith refuse factory construction =
      match weightsTypeOf factory construction with
      | (outcome, after) =>
          (outcome.bind fun type => (Model.countTrainable type).mapError refuse, after) := by
  simp only [parameterCountWith, bind, ExceptT.bind, ExceptT.mk, StateT.bind]
  rcases weightsTypeOf factory construction with ⟨_ | type, after⟩
  · rfl
  · change (MonadExcept.ofExcept _ : ExceptT ε (StateM Construction) TensorCount) after =
      ((Model.countTrainable type).mapError refuse, after)
    cases (Model.countTrainable type).mapError refuse <;> rfl

/-- However a factory ends that keeps to its own scopes, asking for the type or the size of
its model leaves every graph as it was.  The model that it builds is seen as it is when
asked directly, and what stopped the factory early stops the call. -/
theorem factory_leaves_no_trace (refuse : LearningError → ε)
    {factory : ExceptT ε (StateM Construction) Model}
    (reaches : (enter construction).2.Reaches (factory (enter construction).2).2) :
    construction.SameGraphs (weightsTypeOf factory construction).2 ∧
      construction.SameGraphs (parameterCountWith refuse factory construction).2 ∧
      match (factory (enter construction).2).1 with
      | .ok model =>
          (weightsTypeOf factory construction).1 =
              .ok (model.weightsType (weightsTypeOf factory construction).2.store) ∧
            (parameterCountWith refuse factory construction).1 =
              (model.parameterCount
                (parameterCountWith refuse factory construction).2.store).mapError refuse
      | .error failure =>
          (weightsTypeOf factory construction).1 = .error failure ∧
            (parameterCountWith refuse factory construction).1 = .error failure := by
  have kept : construction.SameGraphs (weightsTypeOf factory construction).2 := by
    rw [weightsTypeOf_apply]
    exact within_keeps_graphs reaches
  refine ⟨kept, ?_, ?_⟩
  · rw [parameterCountWith_apply]
    exact kept
  · rw [parameterCountWith_apply, weightsTypeOf_apply]
    rcases factory (enter construction).2 with ⟨_ | model, after⟩
    · exact ⟨rfl, rfl⟩
    · exact ⟨rfl, rfl⟩

end Construction

/-- How a factory ends early. -/
inductive Abort where
  | refused (error : LearningError)
  | panicked
deriving DecidableEq

namespace Construction

/-- A variable in the base graph, and another one in an open scope. -/
def crowded : Construction :=
  ⟨⟨[⟨"kept", .int32 (.scalar 0)⟩, ⟨"inner", .int32 (.scalar 0)⟩]⟩, [⟨0⟩], [[⟨1⟩]]⟩

/-- Creates a variable that belongs to no model, and drops the older of its two scopes
before it may build a regression. -/
def untidy (ending : Except Abort Unit) : ExceptT Abort (StateM Construction) Model := do
  let _ ← create "stray" (.int32 (.scalar 0))
  let older ← enter
  let _ ← enter
  modify (·.leave older)
  MonadExcept.ofExcept ending
  return (← LinearRegression.create 1).toModel

theorem untidy_leaves_no_trace :
    (enter crowded).2.Reaches (untidy (.ok ()) (enter crowded).2).2 ∧
      crowded.SameGraphs (weightsTypeOf (untidy (.ok ())) crowded).2 ∧
      (parameterCountWith .refused (untidy (.ok ())) crowded).1 = .ok ⟨2, 2, 0⟩ ∧
      (enter crowded).2.Reaches (untidy (.error .panicked) (enter crowded).2).2 ∧
      crowded.SameGraphs (weightsTypeOf (untidy (.error .panicked)) crowded).2 ∧
      (parameterCountWith .refused (untidy (.error .panicked)) crowded).1 = .error .panicked := by
  have built : (enter crowded).2.Reaches (untidy (.ok ()) (enter crowded).2).2 :=
    ⟨[.create "stray" (.int32 (.scalar 0)), .enter, .enter, .drop 1,
      .create "a" (.zeros .float32 [1, 1]), .create "b" (.zeros .float32 [1]),
      .create "c" (.zeros .float32 [1]), .create examplesName (.zeros .int64 []),
      .create "num_batches" (.zeros .int64 []), .create "loss_sum" (.zeros .float32 [])], rfl⟩
  have panicked : (enter crowded).2.Reaches (untidy (.error .panicked) (enter crowded).2).2 :=
    ⟨[.create "stray" (.int32 (.scalar 0)), .enter, .enter, .drop 1], rfl⟩
  have ofBuilt := factory_leaves_no_trace .refused built
  have ofPanicked := factory_leaves_no_trace .refused panicked
  refine ⟨built, ofBuilt.1, ?_, panicked, ofPanicked.1, ofPanicked.2.2.2⟩
  exact ofBuilt.2.2.2.trans rfl

end Construction

end FederatedLearning
