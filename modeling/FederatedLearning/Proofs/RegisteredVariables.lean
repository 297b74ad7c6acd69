import FederatedLearning.Proofs.GraphChanges
import FederatedLearning.Proofs.Sessions

/-!
# The variables that models register

Creating a layer or a model registers its variables with the graph that is active then,
and creates no others.

The layers of a network may be created long before it is stacked, in any order, on any
threads and in any scopes.  Whichever moments a model was constructed at, its three
collections list the variables registered at these moments, each once.
-/

namespace FederatedLearning

namespace Store

/-- What may happen to the variables in between: more are created, on whichever thread,
and contents change. -/
inductive Evolves (earlier : Store) : Store → Prop where
  | refl : Evolves earlier earlier
  | create {later : Store} (name : String) (initial : Tensor) :
      Evolves earlier later → Evolves earlier (later.create name initial).2
  | change {later last : Store} : Evolves earlier later → later.Change last → Evolves earlier last

theorem Evolves.holds {earlier later : Store} (evolves : earlier.Evolves later) {handle : Variable}
    (held : earlier.Holds handle) : later.Holds handle := by
  induction evolves with
  | refl => exact held
  | create name initial _ induction => exact holds_create_iff.mpr (.inl induction)
  | change _ changed induction => exact changed.extends.holds induction

theorem Evolves.of_create {earlier : Store} {construction : Construction} {name : String}
    {initial : Tensor} (evolves : earlier.Evolves construction.store) :
    earlier.Evolves (Construction.create name initial construction).2.store := by
  rw [Construction.create_apply, Construction.store_register]
  exact .create name initial evolves

end Store

open Construction

variable {construction after : Construction}

theorem Dense.registers_create {name : String} {inputs outputs : Nat}
    {activation : Option Activation} {draw : Nat → Float32} :
    Registers (create name inputs outputs activation draw construction).1.trainable construction
      (create name inputs outputs activation draw construction).2 :=
  (Construction.registers_create (name ++ "/kernel") (initialKernel inputs outputs draw)).trans
    registers_zeros

theorem Normalization.registers_create {name : String} {width : Nat} :
    Registers ((create name width construction).1.trainable ++
        (create name width construction).1.nonTrainable) construction
      (create name width construction).2 :=
  (((Construction.registers_create (name ++ "/gamma") (.float32 (.fill [width] 1))).trans
    registers_zeros).trans registers_zeros).trans
      (Construction.registers_create (name ++ "/moving_variance") (.float32 (.fill [width] 1)))

theorem Layer.registers_create (draw : Nat → Float32) (blueprint : LayerBlueprint) :
    Registers ((create draw blueprint construction).1.trainable ++
        (create draw blueprint construction).1.nonTrainable) construction
      (create draw blueprint construction).2 := by
  cases blueprint with
  | dense name inputs outputs activation => exact Dense.registers_create
  | normalization name width => exact Normalization.registers_create

theorem LinearRegression.registers_create {features : Nat} :
    Registers ((create features construction).1.toModel.trainable ++
        (create features construction).1.toModel.nonTrainable ++
          (create features construction).1.toModel.locals) construction
      (create features construction).2 :=
  ((((registers_zeros.trans registers_zeros).trans registers_zeros).trans registers_zeros).trans
    registers_zeros).trans registers_zeros

theorem LinearRegression.registers_of_build {features : Nat} {model : LinearRegression}
    (built : build features construction = (.ok model, after)) :
    Registers (model.toModel.trainable ++ model.toModel.nonTrainable ++ model.toModel.locals)
      construction after := by
  have registers : Registers ((create features construction).1.toModel.trainable ++
      (create features construction).1.toModel.nonTrainable ++
        (create features construction).1.toModel.locals) construction
      (create features construction).2 := registers_create
  rwa [created_of_build built] at registers

theorem LinearRegression.failsCleanly_build (features : Nat) : FailsCleanly (build features) := by
  intro construction after error failed
  by_cases none : features = 0
  · subst none
    cases failed
    rfl
  · simp only [build, if_neg none] at failed
    cases failed

namespace NetworkModel

variable {network : Network} {loss : Loss} {spec : BatchSpec} {model : NetworkModel}

theorem failsCleanly_build (network : Network) (loss : Loss) (spec : BatchSpec) :
    FailsCleanly (build network loss spec) := by
  intro construction after error failed
  cases checked : check network loss spec with
  | error reason =>
      simp only [build, checked] at failed
      cases failed
      rfl
  | ok passed =>
      rw [build_of_checked checked] at failed
      cases failed

theorem registers_create :
    Registers (create network loss spec construction).1.locals construction
      (create network loss spec construction).2 :=
  (registers_zeros.trans registers_zeros).trans registers_zeros

theorem registers_of_build (built : build network loss spec construction = (.ok model, after)) :
    Registers model.locals construction after := by
  have registers : Registers (create network loss spec construction).1.locals construction
      (create network loss spec construction).2 := registers_create
  rwa [(checked_of_build built).2] at registers

end NetworkModel

/-- A call on some thread, by the construction of the thread before and after it. -/
structure Moment where
  before : Construction
  after : Construction

namespace Moment

def Precedes (first second : Moment) : Prop :=
  first.after.store.Evolves second.before.store

/-- One of the two calls is over before the other one begins. -/
def Apart (first second : Moment) : Prop :=
  first.Precedes second ∨ second.Precedes first

variable {first second : Moment} {handles others : List Variable}

theorem Precedes.disjoint (precedes : first.Precedes second)
    (registers : Registers handles first.before first.after)
    (othersRegister : Registers others second.before second.after) : handles.Disjoint others := by
  intro handle early late
  have held := ((registers.created handle).mp early).1
  exact ((othersRegister.created handle).mp late).2 (precedes.holds held)

theorem Apart.disjoint (apart : first.Apart second)
    (registers : Registers handles first.before first.after)
    (othersRegister : Registers others second.before second.after) : handles.Disjoint others := by
  rcases apart with precedes | follows
  · exact precedes.disjoint registers othersRegister
  · intro handle inside insideOthers
    exact follows.disjoint othersRegister registers insideOthers inside

/-- What is registered at different moments is different. -/
theorem nodup_flatten {moments : List Moment} {registered : List (List Variable)}
    (apart : moments.Pairwise Apart)
    (each : List.Forall₂ (fun moment handles => Registers handles moment.before moment.after)
      moments registered) : registered.flatten.Nodup := by
  induction each with
  | nil => exact List.nodup_nil
  | @cons moment handles moments registered here each induction =>
      obtain ⟨fromHere, later⟩ := List.pairwise_cons.mp apart
      rw [List.flatten_cons]
      apply here.once.append (induction later)
      intro handle inside insideLater
      obtain ⟨others, member, among⟩ := List.mem_flatten.mp insideLater
      obtain ⟨other, listed, registers⟩ := exists_left_of_mem each member
      exact (fromHere other listed).disjoint here registers inside among

end Moment

/-- A layer made from a blueprint, with the construction that it was made in. -/
structure LayerCreation where
  before : Construction
  draw : Nat → Float32
  blueprint : LayerBlueprint

namespace LayerCreation

variable {creation : LayerCreation}

def layer (creation : LayerCreation) : Layer :=
  (Layer.create creation.draw creation.blueprint creation.before).1

def moment (creation : LayerCreation) : Moment :=
  ⟨creation.before, (Layer.create creation.draw creation.blueprint creation.before).2⟩

theorem evolves {earlier : Store} (evolves : earlier.Evolves creation.before.store) :
    earlier.Evolves creation.moment.after.store := by
  obtain ⟨before, draw, blueprint⟩ := creation
  cases blueprint with
  | dense name inputs outputs activation => exact evolves.of_create.of_create
  | normalization name width => exact evolves.of_create.of_create.of_create.of_create

end LayerCreation

namespace BuiltModel

/-- The calls that constructed a model.  Those that made the layers of a network are in
the order of the stack, not in that of time. -/
inductive ConstructedAt : BuiltModel → List Moment → Prop where
  | regression {features : Nat} {model : LinearRegression} {before after : Construction}
      (built : LinearRegression.build features before = (.ok model, after)) :
      ConstructedAt (.regression model) [⟨before, after⟩]
  | network {creations : List LayerCreation} {network : Network} {loss : Loss} {spec : BatchSpec}
      {model : NetworkModel} {before after : Construction}
      (apart : creations.Pairwise fun first second => first.moment.Apart second.moment)
      (earlier : ∀ creation ∈ creations, creation.moment.Precedes ⟨before, after⟩)
      (stacked : Network.ofLayers (creations.map LayerCreation.layer) = .ok network)
      (built : NetworkModel.build network loss spec before = (.ok model, after)) :
      ConstructedAt (.network model) (creations.map LayerCreation.moment ++ [⟨before, after⟩])

variable {model : BuiltModel} {moments : List Moment}

theorem ConstructedAt.apart (constructed : model.ConstructedAt moments) :
    moments.Pairwise Moment.Apart := by
  cases constructed with
  | regression built => exact List.pairwise_singleton _ _
  | network apart earlier stacked built =>
      rw [List.pairwise_append, List.pairwise_map]
      refine ⟨apart, List.pairwise_singleton _ _, ?_⟩
      intro moment inside last isLast
      obtain ⟨creation, among, rfl⟩ := List.mem_map.mp inside
      rw [List.mem_singleton.mp isLast]
      exact .inl (earlier creation among)

theorem ConstructedAt.exists_registered (constructed : model.ConstructedAt moments) :
    ∃ registered,
      List.Forall₂ (fun moment handles => Registers handles moment.before moment.after)
        moments registered ∧
        (model.toModel.trainable ++ model.toModel.nonTrainable ++ model.toModel.locals).Perm
          registered.flatten := by
  cases constructed with
  | regression built =>
      refine ⟨[_], .cons (LinearRegression.registers_of_build built) .nil, ?_⟩
      rw [List.flatten_singleton]
      exact List.Perm.refl _
  | @network creations network loss spec model before after apart earlier stacked built =>
      let handles (creation : LayerCreation) : List Variable :=
        creation.layer.trainable ++ creation.layer.nonTrainable
      refine ⟨creations.map handles ++ [model.locals], ?_, ?_⟩
      · apply List.rel_append
        · rw [List.forall₂_map_left_iff, List.forall₂_map_right_iff, List.forall₂_same]
          intro creation _
          exact Layer.registers_create creation.draw creation.blueprint
        · exact .cons (NetworkModel.registers_of_build built) .nil
      · have layers_eq : model.network.layers = creations.map LayerCreation.layer := by
          rw [NetworkModel.network_of_build built, Network.layers_eq_of_ofLayers stacked]
        have gathered : (model.network.trainable ++ model.network.nonTrainable).Perm
            (creations.flatMap handles) := by
          rw [Network.trainable, Network.nonTrainable, layers_eq, List.flatMap_map,
            List.flatMap_map]
          exact List.flatMap_append_perm _ _ _
        rw [List.flatten_append, List.flatten_singleton]
        exact gathered.append_right _

/-- However a model came to be, its collections list exactly the variables registered at
the moments of its construction, with the graph active then, and each of them once.  A
construction that fails registers nothing. -/
theorem collections_hold_what_was_registered :
    (∀ (model : BuiltModel) (moments : List Moment), model.ConstructedAt moments →
        (model.toModel.trainable ++ model.toModel.nonTrainable ++ model.toModel.locals).Nodup ∧
          ∃ registered,
            List.Forall₂ (fun moment handles => Registers handles moment.before moment.after)
              moments registered ∧
              (model.toModel.trainable ++ model.toModel.nonTrainable ++
                model.toModel.locals).Perm registered.flatten) ∧
      (∀ features, FailsCleanly (LinearRegression.build features)) ∧
      (∀ layers, FailsCleanly (MonadExcept.ofExcept (Network.ofLayers layers))) ∧
      ∀ network loss spec, FailsCleanly (NetworkModel.build network loss spec) := by
  refine ⟨?_, LinearRegression.failsCleanly_build, fun _ => failsCleanly_ofExcept _,
    NetworkModel.failsCleanly_build⟩
  intro model moments constructed
  obtain ⟨registered, each, listed⟩ := constructed.exists_registered
  exact ⟨listed.nodup_iff.mpr (Moment.nodup_flatten constructed.apart each), registered, each,
    listed⟩

/-- Of two layers, the last one of the stack is made first, and the other one in a scope
that is left before the model is built. -/
def lateFirst : LayerCreation :=
  ⟨.empty, fun _ => 0, .dense "d" 1 1 none⟩

def earlyScoped : LayerCreation :=
  ⟨(enter lateFirst.moment.after).2, fun _ => 0, .normalization "n" 1⟩

def scattered : NetworkModel × Construction :=
  NetworkModel.create ⟨[earlyScoped.layer, lateFirst.layer], by simp, rfl⟩ Loss.meanSquaredError
    (LinearRegression.specOf 1) (earlyScoped.moment.after.leave ⟨1⟩)

theorem scattered_holds_what_was_registered :
    (network scattered.1).ConstructedAt
        [earlyScoped.moment, lateFirst.moment,
          ⟨earlyScoped.moment.after.leave ⟨1⟩, scattered.2⟩] ∧
      ((network scattered.1).toModel.trainable ++ (network scattered.1).toModel.nonTrainable ++
        (network scattered.1).toModel.locals).Nodup := by
  have precedes : lateFirst.moment.Precedes earlyScoped.moment := .refl
  have constructed : (network scattered.1).ConstructedAt
      ([earlyScoped, lateFirst].map LayerCreation.moment ++
        [⟨earlyScoped.moment.after.leave ⟨1⟩, scattered.2⟩]) := by
    refine ConstructedAt.network ?_ ?_ ?_ (NetworkModel.build_of_checked rfl)
    · exact .cons (by simp [Moment.Apart, precedes]) (List.pairwise_singleton _ _)
    · intro creation inside
      rcases List.mem_pair.mp inside with rfl | rfl
      · exact .refl
      · exact earlyScoped.evolves precedes
    · rfl
  exact ⟨constructed, (collections_hold_what_was_registered.1 _ _ constructed).1⟩

end BuiltModel

end FederatedLearning
