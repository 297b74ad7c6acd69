import FederatedLearning.Proofs.Architectures
import FederatedLearning.Proofs.Sessions

/-!
# Models that stay alike

Two models of one architecture are alike when their weights hold the same, whatever
their local variables hold.  A call made on both has the same answer and leaves them
alike, and so do all calls of a sequence.

A call on one of two models that share no variable leaves the other one alike to
itself.  In a sequence of calls on both, in any order, each model therefore answers
as if it were called alone, and two that begin alike and get the same calls answer
the same.
-/

namespace FederatedLearning

inductive Call where
  | forwardPass (batch : Batch) (training : Bool)
  | predict (features : Value) (training : Bool)

inductive Answer where
  | output (output : BatchOutput)
  | predictions (predictions : Tensor)

/-- Makes a call on a model. -/
def Call.run (model : Model) : Call → Store.Effect Answer
  | .forwardPass batch training => do return .output (← model.forwardPass batch training)
  | .predict features training => do return .predictions (← model.predict features training)

namespace Model

/-- Makes calls on a model, one after the other, and collects the answers. -/
def runAll (model : Model) : List Call → Store → List (Except LearningError Answer) × Store
  | [], store => ([], store)
  | call :: calls, store =>
      let (answer, middle) := call.run model store
      let (answers, after) := model.runAll calls middle
      (answer :: answers, after)

/-- Makes calls on two models, in the order given, and collects the answers. -/
def runBoth (first second : Model) : List (Call ⊕ Call) → Store →
    List (Except LearningError Answer ⊕ Except LearningError Answer) × Store
  | [], store => ([], store)
  | .inl call :: calls, store =>
      let (answer, middle) := call.run first store
      let (answers, after) := runBoth first second calls middle
      (.inl answer :: answers, after)
  | .inr call :: calls, store =>
      let (answer, middle) := call.run second store
      let (answers, after) := runBoth first second calls middle
      (.inr answer :: answers, after)

end Model

namespace BuiltModel

variable {model first second : BuiltModel} {left right store : Store} {batch : Batch}
  {features : Value} {training : Bool} {targets : List Variable}

def handles (model : BuiltModel) : List Variable :=
  model.toModel.trainable ++ model.toModel.nonTrainable ++ model.toModel.locals

theorem Sound.rewrites (sound : model.Sound left)
    (written : Store.Rewrites targets left right) : model.Sound right :=
  ⟨sound.allots.extends written.extends, sound.fitting⟩

/-- The weights of a model are not among its local variables. -/
theorem Sound.weights_apart (sound : model.Sound store) :
    ∀ handle ∈ model.toModel.trainable ++ model.toModel.nonTrainable,
      handle ∉ model.toModel.locals := by
  intro handle weight among
  exact (List.nodup_append.mp sound.distinct).2.2 handle weight handle among rfl

theorem of_mem_weightPairs {pair : Variable × Variable}
    (inside : pair ∈ first.toModel.weightPairs second.toModel) :
    pair.1 ∈ first.toModel.trainable ++ first.toModel.nonTrainable ∧
      pair.2 ∈ second.toModel.trainable ++ second.toModel.nonTrainable := by
  rcases List.mem_append.mp inside with trainable | nonTrainable
  · have both := List.of_mem_zip trainable
    exact ⟨List.mem_append_left _ both.1, List.mem_append_left _ both.2⟩
  · have both := List.of_mem_zip nonTrainable
    exact ⟨List.mem_append_right _ both.1, List.mem_append_right _ both.2⟩

/-- Both models are sound where they are, and their weights hold the same. -/
structure Alike (first second : BuiltModel) (left right : Store) : Prop where
  leftSound : first.Sound left
  rightSound : second.Sound right
  mirrors : Store.Mirrors (first.toModel.weightPairs second.toModel) left right

theorem SameArchitecture.lengths (same : first.SameArchitecture second)
    (firstSound : first.Sound left) (secondSound : second.Sound right) :
    first.toModel.trainable.length = second.toModel.trainable.length ∧
      first.toModel.nonTrainable.length = second.toModel.nonTrainable.length := by
  constructor
  · simpa using congrArg List.length
      (same.map_type_trainable_eq firstSound.allots.typed secondSound.allots.typed)
  · simpa using congrArg List.length
      (same.map_type_nonTrainable_eq firstSound.allots.typed secondSound.allots.typed)

theorem Alike.oneToOne (alike : Alike first second left right)
    (same : first.SameArchitecture second) :
    Store.OneToOne (first.toModel.weightPairs second.toModel) := by
  rw [Model.weightPairs, ← List.zip_append (same.lengths alike.leftSound alike.rightSound).1]
  apply Store.oneToOne_zip
  · exact alike.leftSound.distinct.of_append_left
  · exact alike.rightSound.distinct.of_append_left

/-- Alike models have equal snapshots. -/
theorem Alike.snapshot_eq (alike : Alike first second left right)
    (same : first.SameArchitecture second) :
    (Weights.ofModel second.toModel).snapshot right =
      (Weights.ofModel first.toModel).snapshot left := by
  obtain ⟨sameTrainable, sameNonTrainable⟩ := same.lengths alike.leftSound alike.rightSound
  exact congrArg₂ Weights.mk
    (Store.map_read_eq_of_mirrors sameTrainable
      (alike.mirrors.mono fun pair inside => List.mem_append_left _ inside))
    (Store.map_read_eq_of_mirrors sameNonTrainable
      (alike.mirrors.mono fun pair inside => List.mem_append_right _ inside))

theorem Sound.holds_weights (sound : model.Sound store) :
    ∀ handle ∈ model.toModel.trainable ++ model.toModel.nonTrainable, store.Holds handle := by
  intro handle inside
  have declared : handle ∈ model.declared.map Prod.fst :=
    model.handles_declared_perm.mem_iff.mpr (List.mem_append_left _ inside)
  obtain ⟨declaration, among, rfl⟩ := List.mem_map.mp declared
  exact (sound.allots.typed declaration among).held

/-- Models with equal snapshots are alike. -/
theorem alike_of_snapshot_eq (firstSound : first.Sound left) (secondSound : second.Sound right)
    (sameSnapshot : (Weights.ofModel second.toModel).snapshot right =
      (Weights.ofModel first.toModel).snapshot left) : Alike first second left right := by
  refine ⟨firstSound, secondSound, ?_⟩
  apply Store.Mirrors.append
  · apply Store.mirrors_of_map_read_eq
    · exact fun handle inside => firstSound.holds_weights handle (List.mem_append_left _ inside)
    · exact fun handle inside => secondSound.holds_weights handle (List.mem_append_left _ inside)
    · exact congrArg Weights.trainable sameSnapshot
  · apply Store.mirrors_of_map_read_eq
    · exact fun handle inside => firstSound.holds_weights handle (List.mem_append_right _ inside)
    · exact fun handle inside => secondSound.holds_weights handle (List.mem_append_right _ inside)
    · exact congrArg Weights.nonTrainable sameSnapshot

/-- Writes to other variables leave the models alike. -/
theorem Alike.rewrites_right {right' : Store} (alike : Alike first second left right)
    (written : Store.Rewrites targets right right')
    (apart : ∀ handle ∈ second.toModel.trainable ++ second.toModel.nonTrainable,
      handle ∉ targets) : Alike first second left right' where
  leftSound := alike.leftSound
  rightSound := alike.rightSound.rewrites written
  mirrors := alike.mirrors.rewrites .refl written fun _ inside =>
    ⟨List.not_mem_nil, apart _ (of_mem_weightPairs inside).2⟩

/-- Computations related on mirroring stores are related on alike models. -/
theorem related_alike {α : Type} {leftEffect rightEffect : Store.Effect α}
    {leftTargets rightTargets : List Variable}
    (related : Store.Effect.Related (Store.Mirrors (first.toModel.weightPairs second.toModel))
      leftEffect rightEffect)
    (leftWrites : Store.Effect.Writes leftTargets leftEffect)
    (rightWrites : Store.Effect.Writes rightTargets rightEffect) :
    Store.Effect.Related (first.Alike second) leftEffect rightEffect := by
  intro left right alike
  obtain ⟨sameOutcome, mirrors⟩ := related left right alike.mirrors
  exact ⟨sameOutcome, alike.leftSound.rewrites (leftWrites left),
    alike.rightSound.rewrites (rightWrites right), mirrors⟩

/-- Accumulating never fails and leaves all weights alone, so that what the local
variables hold makes no difference. -/
theorem related_accumulate (loss : Float32) (examples : Nat) :
    Store.Effect.Related (first.Alike second) (first.accumulate loss examples)
      (second.accumulate loss examples) := by
  intro left right alike
  obtain ⟨_, left', leftRun, _, leftWritten⟩ := (yields_accumulate loss examples
    alike.leftSound.allots.typed).and_rewrites writes_accumulate
  obtain ⟨_, right', rightRun, _, rightWritten⟩ := (yields_accumulate loss examples
    alike.rightSound.allots.typed).and_rewrites writes_accumulate
  rw [leftRun, rightRun]
  refine ⟨rfl, alike.leftSound.rewrites leftWritten, alike.rightSound.rewrites rightWritten, ?_⟩
  apply alike.mirrors.rewrites leftWritten rightWritten
  intro pair inside
  obtain ⟨leftWeight, rightWeight⟩ := of_mem_weightPairs inside
  exact ⟨alike.leftSound.weights_apart _ leftWeight, alike.rightSound.weights_apart _ rightWeight⟩

theorem related_forwardPass (batch : Batch) (training : Bool)
    (same : first.SameArchitecture second)
    (oneToOne : Store.OneToOne (first.toModel.weightPairs second.toModel)) :
    Store.Effect.Related (first.Alike second) (first.toModel.forwardPass batch training)
      (second.toModel.forwardPass batch training) := by
  rw [forwardPass_eq, forwardPass_eq]
  apply (related_alike (related_assess_of_mirrors same oneToOne) writes_assess writes_assess).bind
  intro assessed
  apply (related_accumulate assessed.1 assessed.2.height).bind
  intro _
  exact Store.Effect.related_pure _

/-- One call on alike models: both answer the same and stay alike. -/
theorem Alike.run (alike : Alike first second left right)
    (same : first.SameArchitecture second) (call : Call) :
    (call.run first.toModel left).1 = (call.run second.toModel right).1 ∧
      Alike first second (call.run first.toModel left).2 (call.run second.toModel right).2 := by
  have oneToOne := alike.oneToOne same
  cases call with
  | forwardPass batch training =>
      have related := (related_forwardPass batch training same oneToOne).bind
        fun output => Store.Effect.related_pure (Answer.output output)
      exact related left right alike
  | predict features training =>
      have predicted := related_alike (related_predict_of_mirrors features training same oneToOne)
        writes_predict writes_predict
      have related := predicted.bind
        fun predictions => Store.Effect.related_pure (Answer.predictions predictions)
      exact related left right alike

/-- All calls of a sequence: both answer the same and stay alike. -/
theorem Alike.runAll (alike : Alike first second left right)
    (same : first.SameArchitecture second) (calls : List Call) :
    (first.toModel.runAll calls left).1 = (second.toModel.runAll calls right).1 ∧
      Alike first second (first.toModel.runAll calls left).2
        (second.toModel.runAll calls right).2 := by
  induction calls generalizing left right with
  | nil => exact ⟨rfl, alike⟩
  | cons call calls induction =>
      obtain ⟨sameAnswer, alikeAfter⟩ := alike.run same call
      obtain ⟨sameAnswers, alikeAtEnd⟩ := induction alikeAfter
      exact ⟨congrArg₂ List.cons sameAnswer sameAnswers, alikeAtEnd⟩

/-- A call writes variables of its model only. -/
theorem writes_run (call : Call) :
    Store.Effect.Writes model.handles (call.run model.toModel) := by
  cases call with
  | forwardPass batch training =>
      refine Store.Effect.Writes.bind ?_ fun _ => Store.Effect.writes_pure _
      exact writes_forwardPass.mono fun target inside => List.mem_append_right _ inside
  | predict features training =>
      refine Store.Effect.Writes.bind ?_ fun _ => Store.Effect.writes_pure _
      apply writes_predict.mono
      intro target moved
      cases training with
      | false => exact absurd moved List.not_mem_nil
      | true => exact List.mem_append_left _ (List.mem_append_right _ moved)

/-- Called in turns with a model that it shares no variable with, a model answers as
if it were called alone. -/
theorem runBoth_eq_runAll (apart : first.handles.Disjoint second.handles)
    (calls : List (Call ⊕ Call)) {together : Store} (firstAlike : Alike first first left together)
    (secondAlike : Alike second second right together) :
    (Model.runBoth first.toModel second.toModel calls together).1.filterMap Sum.getLeft? =
        (first.toModel.runAll (calls.filterMap Sum.getLeft?) left).1 ∧
      (Model.runBoth first.toModel second.toModel calls together).1.filterMap Sum.getRight? =
          (second.toModel.runAll (calls.filterMap Sum.getRight?) right).1 ∧
        Alike first first (first.toModel.runAll (calls.filterMap Sum.getLeft?) left).2
            (Model.runBoth first.toModel second.toModel calls together).2 ∧
          Alike second second (second.toModel.runAll (calls.filterMap Sum.getRight?) right).2
            (Model.runBoth first.toModel second.toModel calls together).2 := by
  induction calls generalizing left right together with
  | nil => exact ⟨rfl, rfl, firstAlike, secondAlike⟩
  | cons tagged calls induction =>
      cases tagged with
      | inl call =>
          obtain ⟨sameAnswer, firstAfter⟩ := firstAlike.run (.refl first) call
          have secondAfter := secondAlike.rewrites_right (writes_run call together)
            fun handle inside among => apart among (List.mem_append_left _ inside)
          obtain ⟨firstAnswers, secondAnswers, firstAtEnd, secondAtEnd⟩ :=
            induction firstAfter secondAfter
          exact ⟨congrArg₂ List.cons sameAnswer.symm firstAnswers, secondAnswers, firstAtEnd,
            secondAtEnd⟩
      | inr call =>
          obtain ⟨sameAnswer, secondAfter⟩ := secondAlike.run (.refl second) call
          have firstAfter := firstAlike.rewrites_right (writes_run call together)
            fun handle inside among => apart (List.mem_append_left _ inside) among
          obtain ⟨firstAnswers, secondAnswers, firstAtEnd, secondAtEnd⟩ :=
            induction firstAfter secondAfter
          exact ⟨firstAnswers, congrArg₂ List.cons sameAnswer.symm secondAnswers, firstAtEnd,
            secondAtEnd⟩

/-- A snapshot of a model is accepted by every model of its architecture, wherever that
one is, and makes the two alike. -/
theorem alike_of_assigned_snapshot (same : first.SameArchitecture second)
    (firstSound : first.Sound left) (secondSound : second.Sound right) :
    ∃ assigned,
      ((Weights.ofModel first.toModel).snapshot left).assignTo second.toModel right =
          (.ok (), assigned) ∧
        Store.Rewrites (second.toModel.trainable ++ second.toModel.nonTrainable) right assigned ∧
          first.Alike second left assigned := by
  have fits : ((Weights.ofModel first.toModel).snapshot left).Fits second.toModel right := by
    rw [Weights.fits_iff_type_eq]
    apply (Weights.type_snapshot (Weights.ofModel first.toModel) left).trans
    apply Weights.type_ofModel_eq
    · exact same.map_type_trainable_eq firstSound.allots.typed secondSound.allots.typed
    · exact same.map_type_nonTrainable_eq firstSound.allots.typed secondSound.allots.typed
  have writable : Weights.Writable right
      (second.toModel.trainable ++ second.toModel.nonTrainable) :=
    ⟨secondSound.distinct.of_append_left, secondSound.holds_weights⟩
  have arrived := Weights.snapshot_overwrite fits writable
  have succeeds := Weights.assignTo_of_fits fits
  have written := Weights.writes_assignTo ((Weights.ofModel first.toModel).snapshot left)
    second.toModel right
  rw [succeeds] at written
  exact ⟨_, succeeds, written,
    alike_of_snapshot_eq firstSound (secondSound.rewrites written) arrived⟩

theorem assign_snapshot (same : first.SameArchitecture second) (firstSound : first.Sound store)
    (secondSound : second.Sound store) (apart : first.handles.Disjoint second.handles) :
    ∃ assigned,
      ((Weights.ofModel first.toModel).snapshot store).assignTo second.toModel store =
          (.ok (), assigned) ∧
        (Weights.ofModel second.toModel).snapshot assigned =
            (Weights.ofModel first.toModel).snapshot store ∧
          first.Alike second assigned assigned := by
  obtain ⟨assigned, succeeds, written, alike⟩ :=
    alike_of_assigned_snapshot same firstSound secondSound
  have arrived := alike.snapshot_eq same
  have self := alike_of_snapshot_eq firstSound firstSound rfl
  have kept := self.rewrites_right written fun handle inside among =>
    apart (List.mem_append_left _ inside) (List.mem_append_left _ among)
  refine ⟨assigned, succeeds, arrived, ?_⟩
  apply alike_of_snapshot_eq kept.rightSound alike.rightSound
  exact arrived.trans (kept.snapshot_eq (.refl first)).symm

end BuiltModel

namespace Session

open BuiltModel

variable {session : Session} {first second : BuiltModel} {others : List BuiltModel}

theorem Sound.disjoint_of_perm (sound : session.Sound)
    (listed : session.models.Perm (first :: second :: others)) :
    first.handles.Disjoint second.handles := by
  intro handle ofFirst ofSecond
  apply (sound.allots_of_perm listed).disjoint
  · exact first.handles_declared_perm.mem_iff.mpr ofFirst
  · have declared := second.handles_declared_perm.mem_iff.mpr ofSecond
    rw [List.flatMap_cons, List.map_append]
    exact List.mem_append_left _ declared

/-- At every point of every session, the weights of a model can be assigned to any
other model of its architecture, whose weights are then the same.  From there on,
calls made on both models, in any order and with the same arguments on either, are
answered the same and leave the weights the same. -/
theorem assigned_models_answer_alike (reachable : session.Reachable)
    (listed : session.models.Perm (first :: second :: others))
    (same : first.SameArchitecture second) :
    ∃ assigned,
      ((Weights.ofModel first.toModel).snapshot session.store).assignTo second.toModel
          session.store = (.ok (), assigned) ∧
        (Weights.ofModel second.toModel).snapshot assigned =
            (Weights.ofModel first.toModel).snapshot session.store ∧
          ∀ calls : List (Call ⊕ Call),
            calls.filterMap Sum.getLeft? = calls.filterMap Sum.getRight? →
              let ran := Model.runBoth first.toModel second.toModel calls assigned
              ran.1.filterMap Sum.getLeft? = ran.1.filterMap Sum.getRight? ∧
                (Weights.ofModel second.toModel).snapshot ran.2 =
                  (Weights.ofModel first.toModel).snapshot ran.2 := by
  have sound := reachable.sound
  have firstSound := sound.of_mem (listed.mem_iff.mpr List.mem_cons_self)
  have secondSound := sound.of_mem
    (listed.mem_iff.mpr (List.mem_cons_of_mem first List.mem_cons_self))
  have apart := sound.disjoint_of_perm listed
  obtain ⟨assigned, succeeds, arrived, alike⟩ :=
    assign_snapshot same firstSound secondSound apart
  refine ⟨assigned, succeeds, arrived, ?_⟩
  intro calls sameCalls
  obtain ⟨firstAnswers, secondAnswers, firstAtEnd, secondAtEnd⟩ := runBoth_eq_runAll apart calls
    (alike_of_snapshot_eq alike.leftSound alike.leftSound rfl)
    (alike_of_snapshot_eq alike.rightSound alike.rightSound rfl)
  -- Each model answers as if it were called alone, and alone both answer the same.
  obtain ⟨sameAnswers, alikeAtEnd⟩ := alike.runAll same (calls.filterMap Sum.getLeft?)
  rw [← sameCalls] at secondAnswers secondAtEnd
  refine ⟨firstAnswers.trans (sameAnswers.trans secondAnswers.symm), ?_⟩
  exact (secondAtEnd.snapshot_eq (.refl second)).trans
    ((alikeAtEnd.snapshot_eq same).trans (firstAtEnd.snapshot_eq (.refl first)).symm)

/-- The same two calls on each of two models, in turns. -/
def turns : List (Call ⊕ Call) :=
  [.inl (.predict twoRows.features true), .inr (.predict twoRows.features true),
    .inr (.forwardPass twoRows true), .inl (.forwardPass twoRows true)]

theorem twins_answer_alike :
    twins.Reachable ∧
      twins.models.Perm [.network (line .empty).1, .network (line (line .empty).2).1] ∧
        SameArchitecture (.network (line .empty).1) (.network (line (line .empty).2).1) ∧
          turns.filterMap Sum.getLeft? = turns.filterMap Sum.getRight? ∧
            ∃ assigned,
              ((Weights.ofModel (line .empty).1.toModel).snapshot twins.store).assignTo
                  (line (line .empty).2).1.toModel twins.store = (.ok (), assigned) ∧
                (Weights.ofModel (line (line .empty).2).1.toModel).snapshot assigned =
                    (Weights.ofModel (line .empty).1.toModel).snapshot twins.store ∧
                  let ran := Model.runBoth (line .empty).1.toModel
                    (line (line .empty).2).1.toModel turns assigned
                  ran.1.filterMap Sum.getLeft? = ran.1.filterMap Sum.getRight? ∧
                    (Weights.ofModel (line (line .empty).2).1.toModel).snapshot ran.2 =
                      (Weights.ofModel (line .empty).1.toModel).snapshot ran.2 := by
  have listed : twins.models.Perm
      [.network (line .empty).1, .network (line (line .empty).2).1] := List.Perm.swap _ _ []
  have same : SameArchitecture (.network (line .empty).1) (.network (line (line .empty).2).1) :=
    .network rfl rfl rfl
  have sameCalls : turns.filterMap Sum.getLeft? = turns.filterMap Sum.getRight? := rfl
  obtain ⟨assigned, succeeds, arrived, answered⟩ :=
    assigned_models_answer_alike twins_reachable listed same
  exact ⟨twins_reachable, listed, same, sameCalls, assigned, succeeds, arrived,
    answered turns sameCalls⟩

end Session

end FederatedLearning
