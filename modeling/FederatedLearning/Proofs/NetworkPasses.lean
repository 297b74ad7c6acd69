import FederatedLearning.Proofs.LayerPasses

/-!
# Passes through networks

The layers of a network match, so that a pass through it succeeds on every matrix
of its input width as long as the variables of its layers have their types.  The
induction along the layers carries the width, which each layer changes, and the
types, which no layer changes.
-/

namespace FederatedLearning

namespace Layer

variable {mode : Mode} {layer first second : Layer} {layers rest : List Layer} {input : Matrix}
  {store : Store} {targets : List Variable} {position : Nat}

theorem forwardAll_cons :
    forwardAll mode (layer :: layers) input =
      (do forwardAll mode layers (← layer.forward mode input)) := by
  simp [forwardAll]

theorem writes_forwardAll (among : ∀ layer ∈ layers, ∀ target ∈ layer.movedBy mode, target ∈ targets) :
    Store.Effect.Writes targets (forwardAll mode layers input) := by
  induction layers generalizing input with
  | nil => exact Store.Effect.writes_pure input
  | cons layer layers induction =>
      rw [forwardAll_cons]
      apply (writes_forward.mono (among layer (by simp))).bind
      intro rows
      exact induction fun later inside => among later (by simp [inside])

theorem gap?_cons_eq_none_iff :
    gap? position (first :: second :: rest) = none ↔
      first.outputs = second.inputs ∧ gap? (position + 1) (second :: rest) = none := by
  by_cases fits : first.outputs = second.inputs
  · simp [gap?, fits]
  · simp [gap?, fits]

theorem yields_forwardAll (inhabited : layers ≠ []) (matching : gap? position layers = none)
    (typed : ∀ layer ∈ layers, store.HasTypes layer.declared)
    (fits : input.width = (layers.head inhabited).inputs) :
    (forwardAll mode layers input).Yields store fun output _ =>
      output.width = (layers.getLast inhabited).outputs ∧ output.height = input.height := by
  induction layers generalizing input store position with
  | nil => exact absurd rfl inhabited
  | cons first rest induction =>
      rw [forwardAll_cons]
      apply Store.Effect.Yields.bind
      have passed : (first.forward mode input).Yields store fun rows _ =>
          rows.width = first.outputs ∧ rows.height = input.height :=
        (yields_forward (typed first (by simp)) fits).and fun _ _ => height_of_forward_eq_ok
      apply (passed.and_rewrites writes_forward).imp
      intro rows middle found
      obtain ⟨⟨rowsWidth, rowsHeight⟩, rewrites⟩ := found
      cases rest with
      | nil => exact ⟨rows, middle, rfl, rowsWidth, rowsHeight⟩
      | cons second rest =>
          obtain ⟨meet, restMatching⟩ := gap?_cons_eq_none_iff.mp matching
          have restTyped : ∀ layer ∈ second :: rest, middle.HasTypes layer.declared :=
            fun later inside =>
              (typed later (List.mem_cons_of_mem first inside)).extends rewrites.extends
          apply (induction (by simp) restMatching restTyped (rowsWidth.trans meet)).imp
          intro output _ sized
          exact ⟨sized.1, sized.2.trans rowsHeight⟩

end Layer

namespace Network

variable {network : Network} {mode : Mode} {input : Matrix} {store : Store}

/-- The variables of all layers with the types that they were created with. -/
def declared (network : Network) : List (Variable × TensorType) :=
  network.layers.flatMap Layer.declared

/-- The variables that a pass through a network may write. -/
def movedBy (mode : Mode) (network : Network) : List Variable :=
  if mode = .training then network.nonTrainable else []

theorem writes_forward :
    Store.Effect.Writes (network.movedBy mode) (network.forward mode input) := by
  apply Layer.writes_forwardAll
  intro layer inside target moved
  unfold Layer.movedBy at moved
  unfold movedBy
  split at moved
  · rename_i training
    rw [if_pos training]
    exact List.mem_flatMap.mpr ⟨layer, inside, moved⟩
  · cases moved

theorem yields_forward (typed : store.HasTypes network.declared)
    (fits : input.width = network.inputs) :
    (network.forward mode input).Yields store fun output _ =>
      output.width = network.outputs ∧ output.height = input.height := by
  apply Layer.yields_forwardAll network.inhabited network.matching
  · intro layer inside declaration declared
    exact typed declaration (List.mem_flatMap.mpr ⟨layer, inside, declared⟩)
  · exact fits

end Network

end FederatedLearning
