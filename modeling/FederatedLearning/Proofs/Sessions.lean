import FederatedLearning.Proofs.AssignedWeights
import FederatedLearning.Proofs.BuiltModels

/-!
# Sessions

A session is a construction together with the layers and the models made in it.
Variables, layers and models are made in any order, a network takes over layers that
are in no other one, and at any time variables may be written, weights assigned and
models called, with whatever arguments.

One step keeps all variables of all layers and models apart and in their types.
Every model of every session is therefore sound, and no two of them share a variable.
-/

namespace FederatedLearning

/-- What changes the contents of variables: writes to any of them, assignments of
any weights to any model, passes through any layers, and calls of any built model,
whether or not they succeed. -/
inductive Store.Change (before : Store) : Store → Prop where
  | assign (handle : Variable) (source : Tensor) :
      Change before (Store.assign handle source before).2
  | assignAdd (handle : Variable) (addend : Tensor) :
      Change before (Store.assignAdd handle addend before).2
  | reset (handle : Variable) : Change before (before.reset handle)
  | updateSingles (handle : Variable) (change : Nat → Float32 → Float32) :
      Change before (Store.updateSingles handle change before).2
  | assignWeights {α : Type} [WeightSource α] (weights : Weights α) (model : Model) :
      Change before (weights.assignTo model before).2
  | pass (mode : Mode) (layers : List Layer) (input : Matrix) :
      Change before (Layer.forwardAll mode layers input before).2
  | forwardPass (model : BuiltModel) (batch : Batch) (training : Bool) :
      Change before (model.toModel.forwardPass batch training before).2
  | predict (model : BuiltModel) (features : Value) (training : Bool) :
      Change before (model.toModel.predict features training before).2

/-- Every change consists of writes that keep types, so that no variable is lost and
none changes its type. -/
theorem Store.Change.extends {before after : Store} (changed : before.Change after) :
    before.Extends after := by
  cases changed with
  | assign handle source =>
      exact (Store.writes_assign (List.mem_singleton_self handle) before).extends
  | assignAdd handle addend =>
      exact (Store.writes_assignAdd (List.mem_singleton_self handle) before).extends
  | reset handle => exact (Store.rewrites_reset (List.mem_singleton_self handle)).extends
  | updateSingles handle change =>
      exact (Store.writes_updateSingles (List.mem_singleton_self handle) before).extends
  | assignWeights weights model => exact (weights.writes_assignTo model before).extends
  | pass mode layers input =>
      have written : Store.Effect.Writes (layers.flatMap (Layer.movedBy mode))
          (Layer.forwardAll mode layers input) := by
        apply Layer.writes_forwardAll
        intro layer inside target moved
        exact List.mem_flatMap.mpr ⟨layer, inside, moved⟩
      exact (written before).extends
  | forwardPass model batch training => exact (BuiltModel.writes_forwardPass before).extends
  | predict model features training => exact (BuiltModel.writes_predict before).extends

/-- A construction with the layers and the models made in it. -/
structure Session where
  construction : Construction
  /-- The layers that are not part of a model. -/
  layers : List Layer
  models : List BuiltModel

namespace Session

def store (session : Session) : Store :=
  session.construction.store

inductive Step (session : Session) : Session → Prop where
  /-- Scopes are entered or left, or a graph is cleared. -/
  | regroup {construction : Construction} (sameStore : construction.store = session.store) :
      Step session { session with construction }
  | createVariable (name : String) (initial : Tensor) :
      Step session
        { session with
          construction := (Construction.create name initial session.construction).2 }
  | createLayer (draw : Nat → Float32) (blueprint : LayerBlueprint) :
      Step session
        { session with
          construction := (Layer.create draw blueprint session.construction).2
          layers := (Layer.create draw blueprint session.construction).1 :: session.layers }
  | buildRegression {features : Nat} {model : LinearRegression} {after : Construction}
      (built : LinearRegression.build features session.construction = (.ok model, after)) :
      Step session ⟨after, session.layers, .regression model :: session.models⟩
  /-- Some of the layers, in some order, become the network of a model. -/
  | buildNetwork {chosen rest : List Layer} {network : Network} {loss : Loss} {spec : BatchSpec}
      {model : NetworkModel} {after : Construction}
      (taken : session.layers.Perm (chosen ++ rest))
      (stacked : Network.ofLayers chosen = .ok network) (defined : loss.Defined)
      (built : NetworkModel.build network loss spec session.construction = (.ok model, after)) :
      Step session ⟨after, rest, .network model :: session.models⟩
  | change {after : Store} (changed : session.store.Change after) :
      Step session { session with construction := { session.construction with store := after } }

/-- The sessions that start with no layer and no model, whatever variables there are. -/
inductive Reachable : Session → Prop where
  | start (construction : Construction) : Reachable ⟨construction, [], []⟩
  | step {before after : Session} : Reachable before → Step before after → Reachable after

/-- The variables of all layers and models with the types that they were created with. -/
def declared (session : Session) : List (Variable × TensorType) :=
  session.layers.flatMap Layer.declared ++ session.models.flatMap BuiltModel.declared

/-- The variables of all layers and models are allotted, and all models fit their
specs. -/
structure Sound (session : Session) : Prop where
  allots : session.store.Allots session.declared
  fitting : ∀ model ∈ session.models, model.Fitting

end Session

theorem Network.layers_eq_of_ofLayers {layers : List Layer} {network : Network}
    (stacked : ofLayers layers = .ok network) : network.layers = layers := by
  unfold ofLayers at stacked
  split at stacked
  · cases stacked
  · split at stacked
    · cases stacked
      rfl
    · cases stacked

namespace Session

variable {session before after : Session} {model first second : BuiltModel}
  {others : List BuiltModel}

theorem Step.sound (step : Step before after) (sound : before.Sound) : after.Sound := by
  cases step with
  | regroup sameStore =>
      refine ⟨?_, sound.fitting⟩
      rw [store, sameStore]
      exact sound.allots
  | createVariable name initial =>
      have creates : Construction.Creates _ before.construction _ :=
        Construction.creates_create name initial rfl
      exact ⟨sound.allots.extends creates.grown, sound.fitting⟩
  | createLayer draw blueprint =>
      have creates : Construction.Creates _ before.construction _ :=
        Layer.creates_create draw blueprint
      refine ⟨(creates.allots_append sound.allots).perm ?_, sound.fitting⟩
      simp [declared]
  | @buildRegression features model after built =>
      have creates := LinearRegression.creates_of_build built
      refine ⟨(creates.allots_append sound.allots).perm ?_, ?_⟩
      · rw [List.perm_iff_count]
        intro declaration
        simp only [declared, BuiltModel.declared, List.flatMap_cons, List.count_append]
        omega
      · rw [List.forall_mem_cons]
        exact ⟨trivial, sound.fitting⟩
  | @buildNetwork chosen rest network loss spec model after taken stacked defined built =>
      have creates := NetworkModel.creates_of_build built
      have network_eq := NetworkModel.network_of_build built
      have layers_eq := Network.layers_eq_of_ofLayers stacked
      have takenOver := taken.flatMap_right Layer.declared
      refine ⟨(creates.allots_append sound.allots).perm ?_, ?_⟩
      · rw [List.perm_iff_count] at takenOver ⊢
        intro declaration
        have counted := takenOver declaration
        simp only [declared, BuiltModel.declared, NetworkModel.declared, Network.declared,
          network_eq, layers_eq, List.flatMap_cons, List.flatMap_append,
          List.count_append] at counted ⊢
        omega
      · rw [List.forall_mem_cons]
        exact ⟨NetworkModel.fitting_of_build defined built, sound.fitting⟩
  | change changed => exact ⟨sound.allots.extends changed.extends, sound.fitting⟩

theorem Reachable.sound (reachable : session.Reachable) : session.Sound := by
  induction reachable with
  | start construction =>
      constructor
      · exact Store.allots_nil
      · intro model inside
        cases inside
  | step _ step induction => exact step.sound induction

/-- A model listed first has variables of its own. -/
theorem Sound.allots_of_perm (sound : session.Sound)
    (listed : session.models.Perm (model :: others)) :
    session.store.Allots (model.declared ++ others.flatMap BuiltModel.declared) := by
  have ofModels : session.store.Allots (session.models.flatMap BuiltModel.declared) :=
    (sound.allots.perm List.perm_append_comm).left
  exact ofModels.perm (listed.flatMap_right BuiltModel.declared)

theorem Sound.of_mem (sound : session.Sound) (inside : model ∈ session.models) :
    model.Sound session.store := by
  obtain ⟨front, back, split⟩ := List.append_of_mem inside
  have listed : session.models.Perm (model :: (front ++ back)) :=
    split ▸ List.perm_middle
  exact ⟨(sound.allots_of_perm listed).left, sound.fitting model inside⟩

/-- A model of a single feature, which is normalized before it is scaled and shifted. -/
def line (construction : Construction) : NetworkModel × Construction :=
  let normalization := Layer.create (fun _ => 0) (.normalization "n" 1) construction
  let dense := Layer.create (fun _ => 0) (.dense "d" 1 1 none) normalization.2
  NetworkModel.create ⟨[normalization.1, dense.1], by simp, rfl⟩ Loss.meanSquaredError
    (LinearRegression.specOf 1) dense.2

theorem Reachable.with_line {construction : Construction} {models : List BuiltModel}
    (reachable : Reachable ⟨construction, [], models⟩) :
    Reachable ⟨(line construction).2, [], .network (line construction).1 :: models⟩ := by
  have normalized := reachable.step (.createLayer (fun _ => 0) (.normalization "n" 1))
  have dense := normalized.step (.createLayer (fun _ => 0) (.dense "d" 1 1 none))
  have stacked : Network.ofLayers (line construction).1.network.layers =
      .ok (line construction).1.network := rfl
  have checked : NetworkModel.check (line construction).1.network Loss.meanSquaredError
      (LinearRegression.specOf 1) = .ok () := rfl
  exact dense.step (.buildNetwork (List.Perm.swap _ _ []) stacked (Loss.defined_squared "loss")
    (NetworkModel.build_of_checked checked))

def twoRows : Batch :=
  ⟨.tensor (.float32 ⟨[2, 1], [1, 2], rfl⟩), .tensor (.float32 ⟨[2, 1], [3, 5], rfl⟩)⟩

/-- A line and a copy of it, after the copy has moved its statistics. -/
def twins : Session :=
  let first := line .empty
  let second := line first.2
  let moved := ((BuiltModel.network second.1).toModel.predict twoRows.features true second.2.store).2
  ⟨{ second.2 with store := moved }, [], [.network second.1, .network first.1]⟩

theorem twins_reachable : twins.Reachable :=
  (Reachable.start .empty).with_line.with_line.step (.change (.predict _ twoRows.features true))

/-- At every point of every session, a model answers exactly the calls that fit its
spec, changes nothing when it refuses one, and otherwise stays within the bounds of
the call. -/
theorem models_keep_contract (reachable : session.Reachable) (inside : model ∈ session.models) :
    model.toModel.Contract session.store :=
  (reachable.sound.of_mem inside).contract

theorem twins_keep_contract :
    twins.Reachable ∧ .network (line .empty).1 ∈ twins.models ∧
      (BuiltModel.network (line .empty).1).toModel.Contract twins.store := by
  have inside : .network (line .empty).1 ∈ twins.models :=
    List.mem_cons_of_mem _ (List.mem_singleton_self _)
  exact ⟨twins_reachable, inside, models_keep_contract twins_reachable inside⟩

/-- At every point of every session, a forward pass over a batch that fits, with or
without rows, yields the predictions that a prediction for its features yields, be
it training or not. -/
theorem forwardPass_predicts_as_predict (reachable : session.Reachable)
    (inside : model ∈ session.models) {batch : Batch}
    (checked : model.toModel.spec.checkBatch batch = .ok ()) (training : Bool) :
    ∃ output predictions,
      (model.toModel.forwardPass batch training session.store).1 = .ok output ∧
        (model.toModel.predict batch.features training session.store).1 = .ok predictions ∧
          output.predictions = some predictions := by
  obtain ⟨loss, predicted, after, passed, found⟩ :=
    BuiltModel.forwardPass_of_checked training (reachable.sound.of_mem inside) checked
  refine ⟨.assessed loss predicted, predicted.toTensor, ?_, found, rfl⟩
  rw [passed]

theorem twins_predict_as_forwardPass :
    twins.Reachable ∧ .network (line .empty).1 ∈ twins.models ∧
      (BuiltModel.network (line .empty).1).toModel.spec.checkBatch twoRows = .ok () ∧
        ∃ output predictions,
          ((BuiltModel.network (line .empty).1).toModel.forwardPass twoRows true twins.store).1 =
              .ok output ∧
            ((BuiltModel.network (line .empty).1).toModel.predict twoRows.features true
                twins.store).1 = .ok predictions ∧
              output.predictions = some predictions := by
  have inside : .network (line .empty).1 ∈ twins.models :=
    List.mem_cons_of_mem _ (List.mem_singleton_self _)
  have checked : (BuiltModel.network (line .empty).1).toModel.spec.checkBatch twoRows = .ok () :=
    rfl
  exact ⟨twins_reachable, inside, checked,
    forwardPass_predicts_as_predict twins_reachable inside checked true⟩

end Session

end FederatedLearning
