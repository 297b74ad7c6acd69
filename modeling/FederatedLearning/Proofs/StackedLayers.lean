import FederatedLearning.Proofs.Sessions
import Mathlib.Data.List.Chain
import Mathlib.Data.List.Flatten

/-!
# Stacks of layers

Layers make a network exactly when there is one and each takes what the one before it
yields.  Wherever its layers stand in a session, a network then refuses a matrix for its
width only, and the first layer is the one that refuses it, before any statistics have
moved.
-/

namespace FederatedLearning

theorem Dense.forward_of_not_fits {layer : Dense} {input : Matrix} {store : Store}
    (differ : input.width ≠ layer.inputs) :
    layer.forward input store =
      .error (.countMismatch "dense input" input.width layer.inputs) := by
  unfold forward
  rw [if_pos differ]
  rfl

namespace Layer

variable {layer : Layer} {layers : List Layer} {mode : Mode} {input : Matrix} {store : Store}
  {position : Nat}

/-- The layers can be applied one after the other. -/
def Matching (layers : List Layer) : Prop :=
  layers.IsChain fun first second => first.outputs = second.inputs

theorem gap?_eq_none_iff : gap? position layers = none ↔ Matching layers := by
  induction layers generalizing position with
  | nil => simp [gap?, Matching]
  | cons first rest induction =>
      cases rest with
      | nil => simp [gap?, Matching]
      | cons second rest =>
          rw [gap?_cons_eq_none_iff, induction]
          simp only [Matching, List.isChain_cons_cons]

/-- A layer refuses a matrix of another width than its own before it does anything. -/
theorem forward_of_not_fits (differ : input.width ≠ layer.inputs) :
    ∃ what, layer.forward mode input store =
      (.error (.countMismatch what input.width layer.inputs), store) := by
  cases layer with
  | dense layer =>
      refine ⟨"dense input", ?_⟩
      rw [forward, Store.Effect.reading_apply, Dense.forward_of_not_fits differ]
      rfl
  | normalization layer =>
      exact ⟨"normalization input", Normalization.forward_of_not_fits differ⟩

theorem forwardAll_of_not_fits (inhabited : layers ≠ [])
    (differ : input.width ≠ (layers.head inhabited).inputs) :
    ∃ what, forwardAll mode layers input store =
      (.error (.countMismatch what input.width (layers.head inhabited).inputs), store) := by
  cases layers with
  | nil => exact absurd rfl inhabited
  | cons first rest =>
      obtain ⟨what, refused⟩ :
          ∃ what, first.forward mode input store =
            (.error (.countMismatch what input.width first.inputs), store) :=
        forward_of_not_fits differ
      refine ⟨what, ?_⟩
      rw [forwardAll_cons, Store.Effect.bind_apply, refused]
      rfl

end Layer

namespace Network

variable {network : Network} {layers : List Layer} {mode : Mode} {input : Matrix} {store : Store}

theorem exists_ofLayers_iff :
    (∃ network, ofLayers layers = .ok network) ↔ layers ≠ [] ∧ Layer.Matching layers := by
  have matched : Layer.gap? 0 layers = none ↔ Layer.Matching layers := Layer.gap?_eq_none_iff
  rw [← matched]
  unfold ofLayers
  split
  · rename_i none
    simp [none]
  · rename_i inhabited
    split
    · rename_i matching
      simp [inhabited, matching]
    · rename_i position outputs inputs gap
      simp [gap]

theorem forward_of_not_fits (differ : input.width ≠ network.inputs) :
    ∃ what, network.forward mode input store =
      (.error (.countMismatch what input.width network.inputs), store) :=
  Layer.forwardAll_of_not_fits network.inhabited differ

end Network

/-- The layers that a model consists of; a regression has none. -/
def BuiltModel.layers : BuiltModel → List Layer
  | .regression _ => []
  | .network model => model.network.layers

namespace Session

/-- The layers made in a session, whether or not they have become part of a model. -/
def everyLayer (session : Session) : List Layer :=
  session.layers ++ session.models.flatMap BuiltModel.layers

variable {session : Session} {layer : Layer}

/-- All layers of a session have variables of their own. -/
theorem Sound.allots_everyLayer (sound : session.Sound) :
    session.store.Allots (session.everyLayer.flatMap Layer.declared) := by
  have ofModels : ∀ model ∈ session.models,
      (model.layers.flatMap Layer.declared).Sublist model.declared := by
    intro model _
    cases model with
    | regression model => exact List.nil_sublist _
    | network model => exact List.sublist_append_left _ _
  have part : (session.everyLayer.flatMap Layer.declared).Sublist session.declared := by
    rw [everyLayer, List.flatMap_append, List.flatMap_assoc]
    exact (List.Sublist.refl _).append (List.Sublist.flatMap_right session.models ofModels)
  exact sound.allots.sublist part

theorem Sound.typed_of_mem (sound : session.Sound) (inside : layer ∈ session.everyLayer) :
    session.store.HasTypes layer.declared := by
  intro declaration declared
  apply sound.allots_everyLayer.typed declaration
  exact List.mem_flatMap.mpr ⟨layer, inside, declared⟩

end Session

/-- Layers make a network exactly when there are some and they match.  At every point of
every session that its layers were made in, such a network passes on exactly the matrices
of its input width, row by row, and refuses the others without touching a variable. -/
theorem Network.stack_fits_as_its_ends (layers : List Layer) :
    ((∃ network, ofLayers layers = .ok network) ↔ layers ≠ [] ∧ Layer.Matching layers) ∧
      ∀ network, ofLayers layers = .ok network →
        ∀ session : Session, session.Reachable → (∀ layer ∈ layers, layer ∈ session.everyLayer) →
          ∀ (mode : Mode) (input : Matrix),
            ((∃ error, (network.forward mode input session.store).1 = .error error) ↔
                input.width ≠ network.inputs) ∧
              (input.width ≠ network.inputs →
                ∃ what, network.forward mode input session.store =
                  (.error (.countMismatch what input.width network.inputs), session.store)) ∧
              (input.width = network.inputs →
                ∃ output, (network.forward mode input session.store).1 = .ok output ∧
                  output.height = input.height ∧ output.width = network.outputs) := by
  refine ⟨exists_ofLayers_iff, ?_⟩
  intro network stacked session reachable made mode input
  have typed : session.store.HasTypes network.declared := by
    intro declaration declared
    rw [Network.declared, layers_eq_of_ofLayers stacked] at declared
    obtain ⟨layer, inside, ofLayer⟩ := List.mem_flatMap.mp declared
    exact reachable.sound.typed_of_mem (made layer inside) declaration ofLayer
  have passed (fits : input.width = network.inputs) :
      ∃ output, (network.forward mode input session.store).1 = .ok output ∧
        output.height = input.height ∧ output.width = network.outputs := by
    obtain ⟨output, after, succeeds, width, height⟩ :
        (network.forward mode input).Yields session.store fun output _ =>
          output.width = network.outputs ∧ output.height = input.height :=
      yields_forward typed fits
    exact ⟨output, congrArg Prod.fst succeeds, height, width⟩
  have refusing (differ : input.width ≠ network.inputs) :
      ∃ what, network.forward mode input session.store =
        (.error (.countMismatch what input.width network.inputs), session.store) :=
    forward_of_not_fits differ
  refine ⟨⟨?_, ?_⟩, refusing, passed⟩
  · rintro ⟨error, failed⟩ fits
    obtain ⟨output, succeeds, _⟩ := passed fits
    rw [succeeds] at failed
    cases failed
  · intro differ
    obtain ⟨what, refused⟩ := refusing differ
    exact ⟨_, congrArg Prod.fst refused⟩

theorem Session.line_made_in_twins :
    ∀ layer ∈ (line .empty).1.network.layers, layer ∈ twins.everyLayer := by
  intro layer inside
  exact List.mem_flatMap.mpr ⟨.network (line .empty).1,
    List.mem_cons_of_mem _ (List.mem_singleton_self _), inside⟩

def Session.twoNumbers : Matrix :=
  ⟨1, [[1], [2]], List.forall_mem_cons.mpr ⟨rfl, List.forall_mem_singleton.mpr rfl⟩⟩

/-- The line still passes on both rows after its copy has moved statistics. -/
theorem Network.line_passes_two_numbers :
    Session.twins.Reachable ∧
      (∀ layer ∈ (Session.line .empty).1.network.layers, layer ∈ Session.twins.everyLayer) ∧
        ∃ output,
          ((Session.line .empty).1.network.forward .training Session.twoNumbers
              Session.twins.store).1 = .ok output ∧ output.height = 2 ∧ output.width = 1 := by
  exact ⟨Session.twins_reachable, Session.line_made_in_twins,
    ((stack_fits_as_its_ends (Session.line .empty).1.network.layers).2 _ rfl _
      Session.twins_reachable Session.line_made_in_twins .training Session.twoNumbers).2.2 rfl⟩

end FederatedLearning
