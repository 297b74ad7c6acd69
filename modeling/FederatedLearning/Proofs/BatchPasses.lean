import FederatedLearning.Proofs.StackedLayers

/-!
# Passes that normalize with the batch

A frozen and a training pass over a matrix with rows normalize with these rows.  All that
they depend on besides is what the trainable variables hold: two such passes through one
network, each in its own mode and from its own store, yield the same when the stores agree
on these variables.  The training pass may move statistics between the layers all the same,
since no later layer reads them in the same pass.
-/

namespace FederatedLearning

namespace Network

variable {network : Network} {mode : Mode} {input : Matrix} {left right store : Store}
  {handle : Variable}

theorem mem_nonTrainable_iff :
    handle ∈ network.nonTrainable ↔
      ∃ layer : Normalization, .normalization layer ∈ network.layers ∧
        (handle = layer.movingMean ∨ handle = layer.movingVariance) := by
  constructor
  · intro inside
    obtain ⟨layer, among, ofLayer⟩ := List.mem_flatMap.mp inside
    cases layer with
    | dense layer => cases ofLayer
    | normalization layer =>
        refine ⟨layer, among, ?_⟩
        simpa [Layer.nonTrainable, Normalization.nonTrainable] using ofLayer
  · rintro ⟨layer, among, moving⟩
    refine List.mem_flatMap.mpr ⟨.normalization layer, among, ?_⟩
    simpa [Layer.nonTrainable, Normalization.nonTrainable] using moving

/-- A frozen pass changes no variable. -/
theorem store_forward_frozen : (network.forward .frozen input store).2 = store := by
  have written : Store.Rewrites (network.movedBy .frozen) store
      (network.forward .frozen input store).2 := writes_forward store
  exact Store.Rewrites.eq_of_nil written

/-- A training pass changes the moving statistics only. -/
theorem cell_forward_training
    (fixed : ∀ layer : Normalization, .normalization layer ∈ network.layers →
      handle ≠ layer.movingMean ∧ handle ≠ layer.movingVariance) :
    (network.forward .training input store).2.cell handle = store.cell handle := by
  have written : Store.Rewrites (network.movedBy .training) store
      (network.forward .training input store).2 := writes_forward store
  apply written.cell_eq
  intro inside
  obtain ⟨layer, among, moving⟩ := mem_nonTrainable_iff.mp inside
  rcases moving with isMean | isVariance
  · exact (fixed layer among).1 isMean
  · exact (fixed layer among).2 isVariance

/-- The modes that normalize with the batch differ in what they write alone. -/
theorem outcome_eq_frozen_of_batched (typed : store.HasTypes network.declared)
    (separate : ∀ target ∈ network.nonTrainable, target ∉ network.trainable)
    (batched : mode ≠ .inference) :
    (network.forward mode input store).1 = (network.forward .frozen input store).1 := by
  cases mode with
  | inference => exact absurd rfl batched
  | frozen => rfl
  | training => exact outcome_training_eq_frozen typed separate

theorem outcome_frozen_congr (typed : right.HasTypes network.declared)
    (separate : ∀ target ∈ network.nonTrainable, target ∉ network.trainable)
    (rows : 0 < input.height)
    (agree : ∀ handle ∈ network.trainable, left.read handle = right.read handle) :
    (network.forward .frozen input left).1 = (network.forward .frozen input right).1 := by
  have same : Layer.SameTrainable network.layers left right := by
    refine ⟨fun handle inside => (agree handle inside).symm, ?_⟩
    intro layer inside declaration declared
    exact typed declaration (List.mem_flatMap.mpr ⟨layer, inside, declared⟩)
  -- A training pass from the second store yields what either frozen pass does.
  calc
    (network.forward .frozen input left).1 = (network.forward .training input right).1 :=
      (outcome_training_eq_of_sameTrainable same separate rows).symm
    _ = (network.forward .frozen input right).1 := outcome_training_eq_frozen typed separate

end Network

namespace Session

variable {session : Session} {network : Network}

theorem Sound.typed_of_made (sound : session.Sound)
    (made : ∀ layer ∈ network.layers, layer ∈ session.everyLayer) :
    session.store.HasTypes network.declared := by
  intro declaration declared
  obtain ⟨layer, inside, ofLayer⟩ := List.mem_flatMap.mp declared
  exact sound.typed_of_mem (made layer inside) declaration ofLayer

theorem Sound.separate_of_made (sound : session.Sound)
    (made : ∀ layer ∈ network.layers, layer ∈ session.everyLayer) :
    ∀ target ∈ network.nonTrainable, target ∉ network.trainable := by
  have distinct : (session.everyLayer.flatMap Layer.trainable ++
      session.everyLayer.flatMap Layer.nonTrainable).Nodup :=
    (Layer.handles_declared_perm session.everyLayer).nodup_iff.mp
      sound.allots_everyLayer.distinct
  intro target moved trained
  obtain ⟨layer, inside, ofLayer⟩ := List.mem_flatMap.mp moved
  obtain ⟨layer', inside', ofLayer'⟩ := List.mem_flatMap.mp trained
  have amongMoved : target ∈ session.everyLayer.flatMap Layer.nonTrainable :=
    List.mem_flatMap.mpr ⟨layer, made layer inside, ofLayer⟩
  have amongTrained : target ∈ session.everyLayer.flatMap Layer.trainable :=
    List.mem_flatMap.mpr ⟨layer', made layer' inside', ofLayer'⟩
  exact (List.nodup_append.mp distinct).2.2 target amongTrained target amongMoved rfl

end Session

/-- Let two stores hold the variables of a session, and the same in the trainable variables
of a network whose layers were made in it.  Frozen and training passes over a matrix with
rows that fits then all yield the same matrix, from whichever of the two stores.  A frozen
pass leaves every variable as it was, and a training pass all but the moving statistics of
normalization layers. -/
theorem Network.batch_passes_read_trainable_only (network : Network) {session : Session}
    (reachable : session.Reachable) (made : ∀ layer ∈ network.layers, layer ∈ session.everyLayer)
    (left right : Store) (leftHolds : session.store.Extends left)
    (rightHolds : session.store.Extends right)
    (agree : ∀ handle ∈ network.trainable, left.read handle = right.read handle)
    (input : Matrix) (fits : input.width = network.inputs) (rows : 0 < input.height) :
    (∃ output, ∀ mode ≠ .inference,
        (network.forward mode input left).1 = .ok output ∧
          (network.forward mode input right).1 = .ok output) ∧
      ∀ store : Store, (network.forward .frozen input store).2 = store ∧
        ∀ handle, (∀ layer : Normalization, .normalization layer ∈ network.layers →
            handle ≠ layer.movingMean ∧ handle ≠ layer.movingVariance) →
          (network.forward .training input store).2.cell handle = store.cell handle := by
  have leftTyped := (reachable.sound.typed_of_made made).extends leftHolds
  have rightTyped := (reachable.sound.typed_of_made made).extends rightHolds
  have separate := reachable.sound.separate_of_made made
  refine ⟨?_, fun store => ⟨store_forward_frozen, fun handle => cell_forward_training⟩⟩
  obtain ⟨output, after, passed, _⟩ :
      (network.forward .frozen input).Yields left fun output _ =>
        output.width = network.outputs ∧ output.height = input.height :=
    yields_forward leftTyped fits
  have ofLeft : (network.forward .frozen input left).1 = .ok output := congrArg Prod.fst passed
  have ofRight : (network.forward .frozen input right).1 = .ok output :=
    (outcome_frozen_congr rightTyped separate rows agree).symm.trans ofLeft
  refine ⟨output, fun mode batched => ⟨?_, ?_⟩⟩
  · exact (outcome_eq_frozen_of_batched leftTyped separate batched).trans ofLeft
  · exact (outcome_eq_frozen_of_batched rightTyped separate batched).trans ofRight

/-- The twins after the moving mean of the line has been set to five. -/
def Session.shiftedTwins : Store :=
  Session.twins.store.put ⟨2⟩ (.float32 (.fill [1] 5))

/-- Whatever the moving mean of the line holds, its passes over two numbers agree. -/
theorem Network.line_passes_agree :
    Session.twins.Reachable ∧ Session.twins.store.Extends Session.shiftedTwins ∧
      (∀ handle ∈ (Session.line .empty).1.network.trainable,
        Session.twins.store.read handle = Session.shiftedTwins.read handle) ∧
        (∃ output,
          ((Session.line .empty).1.network.forward .frozen Session.twoNumbers
              Session.twins.store).1 = .ok output ∧
            ((Session.line .empty).1.network.forward .training Session.twoNumbers
              Session.shiftedTwins).1 = .ok output) ∧
          ((Session.line .empty).1.network.forward .frozen Session.twoNumbers
            Session.shiftedTwins).2 = Session.shiftedTwins := by
  have written : Store.Rewrites [⟨2⟩] Session.twins.store Session.shiftedTwins :=
    .put .refl (List.mem_singleton_self _) rfl
  have agree : ∀ handle ∈ (Session.line .empty).1.network.trainable,
      Session.twins.store.read handle = Session.shiftedTwins.read handle := by
    have outside : ∀ handle ∈ (Session.line .empty).1.network.trainable, handle ∉ [⟨2⟩] := by
      decide
    intro handle inside
    exact (written.read_eq (outside handle inside)).symm
  obtain ⟨⟨output, same⟩, frame⟩ :=
    batch_passes_read_trainable_only (Session.line .empty).1.network Session.twins_reachable
      Session.line_made_in_twins Session.twins.store Session.shiftedTwins ⟨id, fun _ => rfl⟩
      written.extends agree Session.twoNumbers rfl (Nat.zero_lt_succ 1)
  exact ⟨Session.twins_reachable, written.extends, agree,
    ⟨output, (same .frozen (by decide)).1, (same .training (by decide)).2⟩,
    (frame Session.shiftedTwins).1⟩

end FederatedLearning
