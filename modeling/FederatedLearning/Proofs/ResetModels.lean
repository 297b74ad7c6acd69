import FederatedLearning.Proofs.ClientRuns

/-!
# Models that are reset

A reset fills the local variables of a model with zeros and leaves its weights alone.
What a model has gone through is then found nowhere but in its weights: a new model
that is assigned these holds the same in all its variables.

From there on the two answer the same calls in the same way and report the same,
wherever they are, and whatever happens in the meantime to variables that are not
their own.
-/

namespace FederatedLearning

/-- The handle is that of a variable that holds the contents. -/
structure Store.Shows (store : Store) (handle : Variable) (contents : Tensor) : Prop where
  held : store.Holds handle
  read_eq : store.read handle = contents

namespace Store

variable {store : Store} {handle : Variable} {elementType : ElementType} {sizes : List Nat}

theorem read_reset (typed : store.HasType handle (.ofSizes elementType sizes)) :
    (store.reset handle).read handle = .zeros elementType sizes := by
  have sameType : (store.read handle).type = (Tensor.zeros elementType sizes).type :=
    typed.type_eq.trans (Tensor.type_zeros elementType sizes).symm
  obtain ⟨sameElements, sameSizes⟩ := Tensor.type_eq_iff.mp sameType
  rw [reset, sameElements, sameSizes, Tensor.elementType_zeros, Tensor.sizes_zeros]
  exact read_put_self typed.held

/-- A variable is zero after a reset of several that it is one of. -/
theorem read_resetAll {handles : List Variable} (inside : handle ∈ handles)
    (typed : store.HasType handle (.ofSizes elementType sizes)) :
    (store.resetAll handles).read handle = .zeros elementType sizes := by
  induction handles generalizing store with
  | nil => cases inside
  | cons first rest induction =>
      have written : Rewrites [first] store (store.reset first) := rewrites_reset (by simp)
      by_cases later : handle ∈ rest
      · exact induction later (typed.extends written.extends)
      · obtain rfl : handle = first := (List.mem_cons.mp inside).resolve_right later
        have kept : ((store.reset handle).resetAll rest).read handle =
            (store.reset handle).read handle := (rewrites_resetAll rest).read_eq later
        exact kept.trans (read_reset typed)

theorem related_assignAdd {pairs : List (Variable × Variable)} {handle' : Variable}
    (oneToOne : OneToOne pairs) (inside : (handle, handle') ∈ pairs) (addend : Tensor) :
    Effect.Related (Mirrors pairs) (assignAdd handle addend) (assignAdd handle' addend) :=
  related_update oneToOne inside fun contents => LearningError.ofTensor (contents.add addend)

end Store

namespace Construction

variable {construction : Construction} {name : String} {elementType : ElementType}
  {sizes : List Nat} {handle : Variable} {contents : Tensor}

theorem shows_zeros :
    (zeros name elementType sizes construction).2.store.Shows
      (zeros name elementType sizes construction).1 (.zeros elementType sizes) := by
  simp only [zeros, create, store_register]
  constructor
  · exact Store.hasType_create.held
  · simp [Store.read, Store.cell, Store.create]

/-- A variable shows what it did when another one has been created. -/
theorem shows_zeros_of_shows (shows : construction.store.Shows handle contents) :
    (zeros name elementType sizes construction).2.store.Shows handle contents := by
  simp only [zeros, create, store_register]
  refine ⟨Store.extends_create.holds shows.held, ?_⟩
  exact (congrArg Cell.contents (Store.cell_create_of_holds shows.held)).trans shows.read_eq

end Construction

section

variable {before after : Construction} {left right : Store}

theorem LinearRegression.map_read_locals_eq_iff {first second : LinearRegression} :
    second.locals.map right.read = first.locals.map left.read ↔
      right.read second.examples = left.read first.examples ∧
        right.read second.batches = left.read first.batches ∧
          right.read second.lossSum = left.read first.lossSum := by
  simp [locals]

theorem NetworkModel.map_read_locals_eq_iff {first second : NetworkModel} :
    second.locals.map right.read = first.locals.map left.read ↔
      right.read second.lossMetric.total = left.read first.lossMetric.total ∧
        right.read second.lossMetric.count = left.read first.lossMetric.count ∧
          right.read second.examples.sum = left.read first.examples.sum := by
  simp [locals, MeanMetric.handles, SumMetric.handles]

theorem LinearRegression.map_read_of_build {features : Nat} {model : LinearRegression}
    (built : build features before = (.ok model, after)) :
    model.locals.map after.store.read =
      [.zeros .int64 [], .zeros .int64 [], .zeros .float32 []] := by
  have created := created_of_build built
  have examples : (create features before).2.store.Shows (create features before).1.examples
      (.zeros .int64 []) :=
    Construction.shows_zeros_of_shows
      (Construction.shows_zeros_of_shows Construction.shows_zeros)
  have batches : (create features before).2.store.Shows (create features before).1.batches
      (.zeros .int64 []) := Construction.shows_zeros_of_shows Construction.shows_zeros
  have lossSum : (create features before).2.store.Shows (create features before).1.lossSum
      (.zeros .float32 []) := Construction.shows_zeros
  rw [created] at examples batches lossSum
  simp only [locals, List.map_cons, List.map_nil, examples.read_eq, batches.read_eq,
    lossSum.read_eq]

theorem NetworkModel.map_read_of_build {network : Network} {loss : Loss} {spec : BatchSpec}
    {model : NetworkModel} (built : build network loss spec before = (.ok model, after)) :
    model.locals.map after.store.read =
      [.zeros .float32 [], .zeros .float32 [], .zeros .int64 []] := by
  obtain ⟨_, created⟩ := checked_of_build built
  have total : (create network loss spec before).2.store.Shows
      (create network loss spec before).1.lossMetric.total (.zeros .float32 []) :=
    Construction.shows_zeros_of_shows
      (Construction.shows_zeros_of_shows Construction.shows_zeros)
  have count : (create network loss spec before).2.store.Shows
      (create network loss spec before).1.lossMetric.count (.zeros .float32 []) :=
    Construction.shows_zeros_of_shows Construction.shows_zeros
  have examples : (create network loss spec before).2.store.Shows
      (create network loss spec before).1.examples.sum (.zeros .int64 []) :=
    Construction.shows_zeros
  rw [created] at total count examples
  simp only [locals, MeanMetric.handles, SumMetric.handles, List.cons_append, List.nil_append,
    List.map_cons, List.map_nil, total.read_eq, count.read_eq, examples.read_eq]

end

namespace BuiltModel

variable {model first second : BuiltModel} {store before middle after left right : Store}
  {left' right' : Store} {calls : List Call}

/-- What the local variables of a model hold before they have counted anything. -/
def blanks : BuiltModel → List Tensor
  | .regression _ => [.zeros .int64 [], .zeros .int64 [], .zeros .float32 []]
  | .network _ => [.zeros .float32 [], .zeros .float32 [], .zeros .int64 []]

theorem SameArchitecture.blanks_eq (same : first.SameArchitecture second) :
    first.blanks = second.blanks := by
  cases same <;> rfl

theorem rewrites_reset : Store.Rewrites model.toModel.locals store (model.reset store) := by
  rw [reset_eq_resetAll]
  exact Store.rewrites_resetAll _

/-- A reset leaves the weights alone. -/
theorem Sound.read_reset (sound : model.Sound store) :
    ∀ handle ∈ model.toModel.trainable ++ model.toModel.nonTrainable,
      (model.reset store).read handle = store.read handle :=
  fun handle weight => rewrites_reset.read_eq (sound.weights_apart handle weight)

theorem Sound.snapshot_reset (sound : model.Sound store) :
    (Weights.ofModel model.toModel).snapshot (model.reset store) =
      (Weights.ofModel model.toModel).snapshot store :=
  congrArg₂ Weights.mk
    (List.map_congr_left fun handle inside =>
      sound.read_reset handle (List.mem_append_left _ inside))
    (List.map_congr_left fun handle inside =>
      sound.read_reset handle (List.mem_append_right _ inside))

theorem Sound.map_read_reset (sound : model.Sound store) :
    model.toModel.locals.map (model.reset store).read = model.blanks := by
  rw [reset_eq_resetAll]
  cases model with
  | regression model =>
      obtain ⟨_, _, _, examplesTyped, batchesTyped, lossTyped⟩ :=
        LinearRegression.hasTypes_declared_iff.mp sound.allots.typed
      simp only [toModel, LinearRegression.toModel, LinearRegression.locals, List.map_cons,
        List.map_nil, blanks]
      rw [Store.read_resetAll (by simp) examplesTyped, Store.read_resetAll (by simp) batchesTyped,
        Store.read_resetAll (by simp) lossTyped]
  | network model =>
      obtain ⟨totalTyped, countTyped, examplesTyped⟩ :=
        NetworkModel.hasTypes_metrics sound.allots.typed
      simp only [toModel, NetworkModel.toModel, NetworkModel.locals, MeanMetric.handles,
        SumMetric.handles, List.cons_append, List.nil_append, List.map_cons, List.map_nil, blanks]
      rw [Store.read_resetAll (by simp) totalTyped, Store.read_resetAll (by simp) countTyped,
        Store.read_resetAll (by simp) examplesTyped]

theorem Sound.holds_locals (sound : model.Sound store) :
    ∀ handle ∈ model.toModel.locals, store.Holds handle := by
  intro handle inside
  have declared : handle ∈ model.declared.map Prod.fst :=
    model.handles_declared_perm.mem_iff.mpr (List.mem_append_right _ inside)
  obtain ⟨declaration, among, rfl⟩ := List.mem_map.mp declared
  exact (sound.allots.typed declaration among).held

/-- All variables of the model hold what they did, whatever became of others. -/
structure Untouched (model : BuiltModel) (before after : Store) : Prop where
  extended : before.Extends after
  kept : ∀ handle ∈ model.handles, after.read handle = before.read handle

theorem Untouched.refl (model : BuiltModel) (store : Store) : model.Untouched store store :=
  ⟨⟨fun held => held, fun _ => rfl⟩, fun _ _ => rfl⟩

theorem Untouched.sound (untouched : model.Untouched before after) (sound : model.Sound before) :
    model.Sound after :=
  ⟨sound.allots.extends untouched.extended, sound.fitting⟩

/-- Calls of a model that it shares no variable with leave a model untouched. -/
theorem untouched_run (apart : first.handles.Disjoint second.handles) (call : Call) :
    second.Untouched store (call.run first.toModel store).2 where
  extended := (writes_run call store).extends
  kept _ inside := (writes_run call store).read_eq fun among => apart among inside

/-- The calls are made on the model one after the other, with these answers, while
anything may happen to variables that are not its own. -/
inductive Serves (model : BuiltModel) :
    List Call → Store → List (Except LearningError Answer) → Store → Prop where
  | done {store after : Store} : model.Untouched store after → Serves model [] store [] after
  | call {call : Call} {calls : List Call} {store ready after : Store}
      {answers : List (Except LearningError Answer)} :
      model.Untouched store ready →
      Serves model calls (call.run model.toModel ready).2 answers after →
      Serves model (call :: calls) store ((call.run model.toModel ready).1 :: answers) after

/-- The models are alike, and their local variables hold the same as well. -/
structure AlikeThroughout (first second : BuiltModel) (left right : Store) : Prop
    extends Alike first second left right where
  locals : Store.Mirrors (first.toModel.locals.zip second.toModel.locals) left right

theorem Alike.throughout (alike : Alike first second left right)
    (sameLocals : second.toModel.locals.map right.read = first.toModel.locals.map left.read) :
    AlikeThroughout first second left right where
  toAlike := alike
  locals := Store.mirrors_of_map_read_eq alike.leftSound.holds_locals
    alike.rightSound.holds_locals sameLocals

theorem mirrors_of_untouched {pairs : List (Variable × Variable)}
    (mirrors : Store.Mirrors pairs left right) (leftUntouched : first.Untouched left left')
    (rightUntouched : second.Untouched right right')
    (own : ∀ pair ∈ pairs, pair.1 ∈ first.handles ∧ pair.2 ∈ second.handles) :
    Store.Mirrors pairs left' right' where
  holds pair inside :=
    ⟨leftUntouched.extended.holds (mirrors.holds pair inside).1,
      rightUntouched.extended.holds (mirrors.holds pair inside).2⟩
  read_eq pair inside := by
    rw [leftUntouched.kept pair.1 (own pair inside).1,
      rightUntouched.kept pair.2 (own pair inside).2]
    exact mirrors.read_eq pair inside

theorem AlikeThroughout.untouched (alike : AlikeThroughout first second left right)
    (leftUntouched : first.Untouched left left') (rightUntouched : second.Untouched right right') :
    AlikeThroughout first second left' right' where
  leftSound := leftUntouched.sound alike.leftSound
  rightSound := rightUntouched.sound alike.rightSound
  mirrors := by
    apply mirrors_of_untouched alike.mirrors leftUntouched rightUntouched
    intro pair inside
    have both := of_mem_weightPairs inside
    exact ⟨List.mem_append_left _ both.1, List.mem_append_left _ both.2⟩
  locals := by
    apply mirrors_of_untouched alike.locals leftUntouched rightUntouched
    intro pair inside
    have both := List.of_mem_zip inside
    exact ⟨List.mem_append_right _ both.1, List.mem_append_right _ both.2⟩

/-- What a computation that writes other variables yields on alike models, it yields
on models that are alike throughout. -/
theorem related_throughout {α : Type} {leftEffect rightEffect : Store.Effect α}
    {leftTargets rightTargets : List Variable}
    (related : Store.Effect.Related (first.Alike second) leftEffect rightEffect)
    (leftWrites : Store.Effect.Writes leftTargets leftEffect)
    (rightWrites : Store.Effect.Writes rightTargets rightEffect)
    (leftApart : ∀ handle ∈ first.toModel.locals, handle ∉ leftTargets)
    (rightApart : ∀ handle ∈ second.toModel.locals, handle ∉ rightTargets) :
    Store.Effect.Related (first.AlikeThroughout second) leftEffect rightEffect := by
  intro left right alike
  obtain ⟨sameOutcome, alikeAfter⟩ := related left right alike.toAlike
  refine ⟨sameOutcome, alikeAfter, ?_⟩
  apply alike.locals.rewrites (leftWrites left) (rightWrites right)
  intro pair inside
  have both := List.of_mem_zip inside
  exact ⟨leftApart pair.1 both.1, rightApart pair.2 both.2⟩

/-- Local variables that hold the same accumulate the same. -/
theorem related_accumulate_of_mirrors (loss : Float32) (examples : Nat)
    (same : first.SameArchitecture second)
    (oneToOne : Store.OneToOne (first.toModel.locals.zip second.toModel.locals)) :
    Store.Effect.Related (Store.Mirrors (first.toModel.locals.zip second.toModel.locals))
      (first.accumulate loss examples) (second.accumulate loss examples) := by
  cases same with
  | @regression first second sameFeatures =>
      have locals_eq : (regression first).toModel.locals.zip (regression second).toModel.locals =
          [(first.examples, second.examples), (first.batches, second.batches),
            (first.lossSum, second.lossSum)] := rfl
      rw [locals_eq] at oneToOne ⊢
      apply (Store.related_assignAdd oneToOne (by simp) _).bind
      intro _
      apply (Store.related_assignAdd oneToOne (by simp) _).bind
      intro _
      exact Store.related_assignAdd oneToOne (by simp) _
  | @network first second sameKinds sameLoss sameSpec =>
      have locals_eq : (network first).toModel.locals.zip (network second).toModel.locals =
          [(first.lossMetric.total, second.lossMetric.total),
            (first.lossMetric.count, second.lossMetric.count),
            (first.examples.sum, second.examples.sum)] := rfl
      rw [locals_eq] at oneToOne ⊢
      apply Store.Effect.Related.bind
      · apply (Store.related_assignAdd oneToOne (by simp) _).bind
        intro _
        exact Store.related_assignAdd oneToOne (by simp) _
      · intro _
        exact Store.related_assignAdd oneToOne (by simp) _

theorem AlikeThroughout.oneToOne (alike : AlikeThroughout first second left right) :
    Store.OneToOne (first.toModel.locals.zip second.toModel.locals) :=
  Store.oneToOne_zip alike.leftSound.distinct.of_append_right
    alike.rightSound.distinct.of_append_right

theorem related_accumulate_throughout (loss : Float32) (examples : Nat)
    (same : first.SameArchitecture second) :
    Store.Effect.Related (first.AlikeThroughout second) (first.accumulate loss examples)
      (second.accumulate loss examples) := by
  intro left right alike
  obtain ⟨sameOutcome, alikeAfter⟩ := related_accumulate loss examples left right alike.toAlike
  have localsAfter :=
    (related_accumulate_of_mirrors loss examples same alike.oneToOne left right alike.locals).2
  exact ⟨sameOutcome, alikeAfter, localsAfter⟩

theorem related_forwardPass_throughout (batch : Batch) (training : Bool)
    (same : first.SameArchitecture second)
    (oneToOne : Store.OneToOne (first.toModel.weightPairs second.toModel)) :
    Store.Effect.Related (first.AlikeThroughout second) (first.toModel.forwardPass batch training)
      (second.toModel.forwardPass batch training) := by
  have assessed : Store.Effect.Related (first.Alike second) (first.assess batch training)
      (second.assess batch training) :=
    related_alike (related_assess_of_mirrors same oneToOne) writes_assess writes_assess
  rw [forwardPass_eq, forwardPass_eq]
  apply (related_throughout assessed writes_assess writes_assess
    (fun _ _ => List.not_mem_nil) fun _ _ => List.not_mem_nil).bind
  intro assessment
  apply (related_accumulate_throughout assessment.1 assessment.2.height same).bind
  intro _
  exact Store.Effect.related_pure _

theorem Sound.locals_apart (sound : model.Sound store) (training : Bool) :
    ∀ handle ∈ model.toModel.locals,
      handle ∉ if training then model.toModel.nonTrainable else [] := by
  intro handle localOne moved
  cases training with
  | false => exact absurd moved List.not_mem_nil
  | true => exact sound.weights_apart handle (List.mem_append_right _ moved) localOne

/-- One call on models that are alike throughout: both answer the same and stay so. -/
theorem AlikeThroughout.run (alike : AlikeThroughout first second left right)
    (same : first.SameArchitecture second) (call : Call) :
    (call.run first.toModel left).1 = (call.run second.toModel right).1 ∧
      AlikeThroughout first second (call.run first.toModel left).2
        (call.run second.toModel right).2 := by
  have oneToOne := alike.toAlike.oneToOne same
  cases call with
  | forwardPass batch training =>
      have related := (related_forwardPass_throughout batch training same oneToOne).bind
        fun output => Store.Effect.related_pure (Answer.output output)
      exact related left right alike
  | predict features training =>
      have predicted := related_throughout
        (related_alike (related_predict_of_mirrors features training same oneToOne) writes_predict
          writes_predict)
        writes_predict writes_predict (alike.leftSound.locals_apart training)
        (alike.rightSound.locals_apart training)
      have related := predicted.bind
        fun predictions => Store.Effect.related_pure (Answer.predictions predictions)
      exact related left right alike

/-- Models that are alike throughout answer all calls the same, whatever happens
around them, and are alike throughout in the end. -/
theorem AlikeThroughout.serves {answers answers' : List (Except LearningError Answer)}
    (alike : AlikeThroughout first second left right) (same : first.SameArchitecture second)
    (firstServes : first.Serves calls left answers left')
    (secondServes : second.Serves calls right answers' right') :
    answers = answers' ∧ AlikeThroughout first second left' right' := by
  induction firstServes generalizing right answers' with
  | done leftUntouched =>
      cases secondServes with
      | done rightUntouched => exact ⟨rfl, alike.untouched leftUntouched rightUntouched⟩
  | call leftUntouched _ induction =>
      cases secondServes with
      | call rightUntouched later =>
          obtain ⟨sameAnswer, alikeAfter⟩ :=
            (alike.untouched leftUntouched rightUntouched).run same _
          obtain ⟨sameAnswers, alikeAtEnd⟩ := induction alikeAfter later
          exact ⟨congrArg₂ List.cons sameAnswer sameAnswers, alikeAtEnd⟩

/-- Calls that nothing interrupts are a way to serve them. -/
theorem serves_runAll (model : BuiltModel) (calls : List Call) (store : Store) :
    model.Serves calls store (model.toModel.runAll calls store).1
      (model.toModel.runAll calls store).2 := by
  induction calls generalizing store with
  | nil => exact .done (.refl model store)
  | cons call calls induction => exact .call (.refl model store) (induction _)

theorem SameArchitecture.length_locals_eq (same : first.SameArchitecture second) :
    first.toModel.locals.length = second.toModel.locals.length := by
  cases same <;> rfl

theorem AlikeThroughout.map_read_locals_eq (alike : AlikeThroughout first second left right)
    (same : first.SameArchitecture second) :
    second.toModel.locals.map right.read = first.toModel.locals.map left.read :=
  Store.map_read_eq_of_mirrors same.length_locals_eq alike.locals

theorem AlikeThroughout.localOutputs_eq (alike : AlikeThroughout first second left right)
    (same : first.SameArchitecture second) :
    first.toModel.localOutputs left = second.toModel.localOutputs right := by
  have sameReads := alike.map_read_locals_eq same
  cases same with
  | @regression first second sameFeatures =>
      obtain ⟨examples, batches, lossSum⟩ := LinearRegression.map_read_locals_eq_iff.mp sameReads
      simp only [toModel, LinearRegression.toModel, LinearRegression.localOutputs,
        LinearRegression.meanLoss, examples, batches, Store.sum_congr lossSum]
  | @network first second sameKinds sameLoss sameSpec =>
      obtain ⟨total, count, examples⟩ := NetworkModel.map_read_locals_eq_iff.mp sameReads
      simp only [toModel, NetworkModel.toModel, NetworkModel.localOutputs, MeanMetric.result,
        SumMetric.result, sameLoss, examples, Store.sum_congr total, Store.sum_congr count]

theorem AlikeThroughout.unfinalized_eq (alike : AlikeThroughout first second left right)
    (same : first.SameArchitecture second) (firstLabelled : first.Labelled)
    (secondLabelled : second.Labelled) :
    first.toModel.unfinalized left = second.toModel.unfinalized right := by
  have sameReads := alike.map_read_locals_eq same
  cases same with
  | @regression first second sameFeatures =>
      obtain ⟨examples, batches, lossSum⟩ := LinearRegression.map_read_locals_eq_iff.mp sameReads
      simp only [toModel, LinearRegression.toModel, LinearRegression.unfinalized, examples,
        lossSum]
  | @network first second sameKinds sameLoss sameSpec =>
      obtain ⟨total, count, examples⟩ := NetworkModel.map_read_locals_eq_iff.mp sameReads
      obtain ⟨firstLoss, firstExamples, _⟩ := firstLabelled
      obtain ⟨secondLoss, secondExamples, _⟩ := secondLabelled
      simp only [toModel, NetworkModel.toModel, NetworkModel.unfinalized, MeanMetric.unfinalized,
        SumMetric.unfinalized, firstLoss, firstExamples, secondLoss, secondExamples, sameLoss,
        total, count, examples]

end BuiltModel

namespace Session

open BuiltModel

variable {session before after : Session} {model fresh : BuiltModel} {ready : Store}

/-- The metrics of every model bear the names they are reported under. -/
theorem Reachable.labelled (reachable : session.Reachable) :
    ∀ model ∈ session.models, model.Labelled := by
  induction reachable with
  | start construction =>
      intro model inside
      cases inside
  | step _ step induction =>
      cases step with
      | regroup sameStore => exact induction
      | createVariable name initial => exact induction
      | createLayer draw blueprint => exact induction
      | buildRegression built => exact List.forall_mem_cons.mpr ⟨trivial, induction⟩
      | buildNetwork taken stacked defined built =>
          exact List.forall_mem_cons.mpr ⟨NetworkModel.labelled_of_build built, induction⟩
      | change changed => exact induction

/-- The local variables of a model that has just been built are blank. -/
theorem Step.map_read_of_built (step : before.Step after)
    (listed : after.models = fresh :: before.models) :
    fresh.toModel.locals.map after.store.read = fresh.blanks := by
  cases step with
  | regroup sameStore => exact absurd listed.symm (List.cons_ne_self _ _)
  | createVariable name initial => exact absurd listed.symm (List.cons_ne_self _ _)
  | createLayer draw blueprint => exact absurd listed.symm (List.cons_ne_self _ _)
  | change changed => exact absurd listed.symm (List.cons_ne_self _ _)
  | buildRegression built =>
      cases listed
      exact LinearRegression.map_read_of_build built
  | buildNetwork taken stacked defined built =>
      cases listed
      exact NetworkModel.map_read_of_build built

/-- A model that is reset after any history is as good as a new one of its architecture
that is assigned its weights, wherever the new one was built.  Both answer the same
calls in the same way, and report the same afterwards.  The reset leaves the weights
of the model alone. -/
theorem reset_model_serves_as_new (reachable : session.Reachable)
    (inside : model ∈ session.models) (reachableBefore : before.Reachable)
    (step : before.Step after) (listed : after.models = fresh :: before.models)
    (waited : fresh.Untouched after.store ready) (same : model.SameArchitecture fresh) :
    (∀ handle ∈ model.toModel.trainable ++ model.toModel.nonTrainable,
        (model.reset session.store).read handle = session.store.read handle) ∧
      ∃ assigned,
        ((Weights.ofModel model.toModel).snapshot session.store).assignTo fresh.toModel ready =
            (.ok (), assigned) ∧
          ∀ calls answers answers' finish finish',
            model.Serves calls (model.reset session.store) answers finish →
              fresh.Serves calls assigned answers' finish' →
                answers = answers' ∧
                  model.toModel.localOutputs finish = fresh.toModel.localOutputs finish' ∧
                    model.toModel.unfinalized finish = fresh.toModel.unfinalized finish' := by
  have sound := reachable.sound.of_mem inside
  have resetSound : model.Sound (model.reset session.store) := sound.rewrites rewrites_reset
  have reachableAfter := reachableBefore.step step
  have listedFresh : fresh ∈ after.models := by simp [listed]
  have freshSound := waited.sound (reachableAfter.sound.of_mem listedFresh)
  obtain ⟨assigned, succeeds, written, alike⟩ :=
    alike_of_assigned_snapshot same resetSound freshSound
  rw [sound.snapshot_reset] at succeeds
  have sameLocals : fresh.toModel.locals.map assigned.read =
      model.toModel.locals.map (model.reset session.store).read :=
    calc fresh.toModel.locals.map assigned.read
      _ = fresh.toModel.locals.map ready.read :=
        List.map_congr_left fun handle localOne =>
          written.read_eq fun weight => freshSound.weights_apart handle weight localOne
      _ = fresh.toModel.locals.map after.store.read :=
        List.map_congr_left fun handle localOne =>
          waited.kept handle (List.mem_append_right _ localOne)
      _ = fresh.blanks := step.map_read_of_built listed
      _ = model.blanks := same.blanks_eq.symm
      _ = model.toModel.locals.map (model.reset session.store).read := sound.map_read_reset.symm
  refine ⟨sound.read_reset, assigned, succeeds, ?_⟩
  intro calls answers answers' finish finish' served servedFresh
  obtain ⟨sameAnswers, alikeAtEnd⟩ := (alike.throughout sameLocals).serves same served servedFresh
  refine ⟨sameAnswers, alikeAtEnd.localOutputs_eq same, ?_⟩
  apply alikeAtEnd.unfinalized_eq same
  · exact reachable.labelled model inside
  · exact reachableAfter.labelled fresh listedFresh

/-- All lines are of one architecture, wherever they are built. -/
theorem sameArchitecture_line (construction construction' : Construction) :
    SameArchitecture (.network (line construction).1) (.network (line construction').1) :=
  .network rfl rfl rfl

/-- A line that has counted two rows and moved its statistics. -/
def veteran : Session :=
  let built := line .empty
  let model := (BuiltModel.network built.1).toModel
  let history := [.forwardPass twoRows true, .predict twoRows.features true]
  ⟨{ built.2 with store := (model.runAll history built.2.store).2 }, [], [.network built.1]⟩

theorem veteran_reachable : veteran.Reachable := by
  have built := (Reachable.start .empty).with_line
  have counted := built.step (.change (.forwardPass (.network (line .empty).1) twoRows true))
  exact counted.step (.change (.predict (.network (line .empty).1) twoRows.features true))

/-- The layers of another line, which are laid out beside the first. -/
def prepared : Session :=
  let normalization := Layer.create (fun _ => 0) (.normalization "n" 1) veteran.construction
  let dense := Layer.create (fun _ => 0) (.dense "d" 1 1 none) normalization.2
  ⟨dense.2, [dense.1, normalization.1], veteran.models⟩

theorem prepared_reachable : prepared.Reachable := by
  have normalized := veteran_reachable.step (.createLayer (fun _ => 0) (.normalization "n" 1))
  exact normalized.step (.createLayer (fun _ => 0) (.dense "d" 1 1 none))

/-- The session once the other line has been built. -/
def joined : Session :=
  ⟨(line veteran.construction).2, [], .network (line veteran.construction).1 :: veteran.models⟩

theorem step_prepared : prepared.Step joined := by
  have taken : prepared.layers.Perm ((line veteran.construction).1.network.layers ++ []) :=
    List.Perm.swap _ _ []
  have stacked : Network.ofLayers (line veteran.construction).1.network.layers =
      .ok (line veteran.construction).1.network := rfl
  have checked : NetworkModel.check (line veteran.construction).1.network
      Loss.meanSquaredError (LinearRegression.specOf 1) = .ok () := rfl
  exact .buildNetwork taken stacked (Loss.defined_squared "loss")
    (NetworkModel.build_of_checked checked)

theorem veteran_serves_as_newcomer :
    let old := BuiltModel.network (line .empty).1
    let new := BuiltModel.network (line veteran.construction).1
    let ready := ((Call.forwardPass twoRows true).run old.toModel joined.store).2
    let calls := [.predict twoRows.features true, .forwardPass twoRows false]
    veteran.Reachable ∧ old ∈ veteran.models ∧ prepared.Reachable ∧ prepared.Step joined ∧
      joined.models = new :: prepared.models ∧ new.Untouched joined.store ready ∧
        old.SameArchitecture new ∧
          (∀ handle ∈ old.toModel.trainable ++ old.toModel.nonTrainable,
            (old.reset veteran.store).read handle = veteran.store.read handle) ∧
            ∃ assigned,
              ((Weights.ofModel old.toModel).snapshot veteran.store).assignTo new.toModel ready =
                  (.ok (), assigned) ∧
                let ran := old.toModel.runAll calls (old.reset veteran.store)
                let ran' := new.toModel.runAll calls assigned
                ran.1 = ran'.1 ∧
                  old.toModel.localOutputs ran.2 = new.toModel.localOutputs ran'.2 ∧
                    old.toModel.unfinalized ran.2 = new.toModel.unfinalized ran'.2 := by
  intro old new ready calls
  have inside : old ∈ veteran.models := List.mem_singleton_self old
  have listed : joined.models = new :: prepared.models := rfl
  -- The new line waits while the old one goes on.
  have both : joined.models.Perm [old, new] := List.Perm.swap old new []
  have apart := (prepared_reachable.step step_prepared).sound.disjoint_of_perm both
  have waited : new.Untouched joined.store ready := untouched_run apart (.forwardPass twoRows true)
  have same : old.SameArchitecture new := sameArchitecture_line .empty veteran.construction
  obtain ⟨kept, assigned, succeeds, alike⟩ := reset_model_serves_as_new veteran_reachable inside
    prepared_reachable step_prepared listed waited same
  exact ⟨veteran_reachable, inside, prepared_reachable, step_prepared, listed, waited, same, kept,
    assigned, succeeds, alike calls _ _ _ _ (serves_runAll old calls _) (serves_runAll new calls _)⟩

end Session

end FederatedLearning
