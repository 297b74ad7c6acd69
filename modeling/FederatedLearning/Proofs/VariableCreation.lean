import FederatedLearning.Proofs.ModelPasses
import FederatedLearning.Proofs.ScopeStack
import Mathlib.Data.List.Nodup

/-!
# Creating layers and models

Whatever is created gets variables of its own: their handles are distinct and
belong to no variable that was there before, and each has the type declared for it.
What was allotted before stays allotted, so that the variables of things created one
after the other, in any order and with any writes in between, never overlap.
-/

namespace FederatedLearning

namespace Store

/-- The handles are distinct, and those of variables of the types beside them. -/
structure Allots (store : Store) (declared : List (Variable × TensorType)) : Prop where
  typed : store.HasTypes declared
  distinct : (declared.map Prod.fst).Nodup

variable {before after store : Store} {declared others : List (Variable × TensorType)}

theorem allots_nil : store.Allots [] := by
  constructor
  · intro declaration inside
    cases inside
  · exact List.nodup_nil

theorem Allots.extends (allots : before.Allots declared) (extended : before.Extends after) :
    after.Allots declared :=
  ⟨allots.typed.extends extended, allots.distinct⟩

theorem Allots.perm (allots : store.Allots declared) (reordered : declared.Perm others) :
    store.Allots others where
  typed declaration inside := allots.typed declaration (reordered.mem_iff.mpr inside)
  distinct := (reordered.map Prod.fst).nodup_iff.mp allots.distinct

theorem Allots.sublist (allots : store.Allots declared) (part : others.Sublist declared) :
    store.Allots others where
  typed declaration inside := allots.typed declaration (part.subset inside)
  distinct := (part.map Prod.fst).nodup allots.distinct

theorem Allots.left (allots : store.Allots (declared ++ others)) : store.Allots declared :=
  allots.sublist (List.sublist_append_left declared others)

theorem Allots.disjoint (allots : store.Allots (declared ++ others)) :
    (declared.map Prod.fst).Disjoint (others.map Prod.fst) := by
  have distinct := allots.distinct
  rw [List.map_append] at distinct
  exact List.disjoint_of_nodup_append distinct

theorem Allots.append (allots : store.Allots declared) (othersAllotted : store.Allots others)
    (apart : ∀ handle ∈ declared.map Prod.fst, handle ∉ others.map Prod.fst) :
    store.Allots (declared ++ others) where
  typed declaration inside := by
    rcases List.mem_append.mp inside with first | second
    · exact allots.typed declaration first
    · exact othersAllotted.typed declaration second
  distinct := by
    rw [List.map_append]
    apply List.Nodup.append allots.distinct othersAllotted.distinct
    intro handle first second
    exact apart handle first second

end Store

namespace Construction

/-- The second construction is the first one after variables of the declared types
have been created under the declared handles. -/
structure Creates (declared : List (Variable × TensorType)) (before after : Construction) :
    Prop where
  grown : before.store.Extends after.store
  allots : after.store.Allots declared
  fresh : ∀ handle ∈ declared.map Prod.fst, ¬before.store.Holds handle

variable {before middle after : Construction} {declared later : List (Variable × TensorType)}

/-- What was allotted before stays apart from what is created. -/
theorem Creates.allots_append (creates : Creates declared before after)
    {held : List (Variable × TensorType)} (allots : before.store.Allots held) :
    after.store.Allots (declared ++ held) := by
  apply creates.allots.append (allots.extends creates.grown)
  intro handle created old
  obtain ⟨declaration, inside, rfl⟩ := List.mem_map.mp old
  exact creates.fresh _ created (allots.typed declaration inside).held

theorem Creates.trans (first : Creates declared before middle)
    (second : Creates later middle after) : Creates (declared ++ later) before after where
  grown := first.grown.trans second.grown
  allots := (second.allots_append first.allots).perm List.perm_append_comm
  fresh handle created := by
    rw [List.map_append] at created
    rcases List.mem_append.mp created with now | then'
    · exact first.fresh handle now
    · intro held
      exact second.fresh handle then' (first.grown.holds held)

theorem creates_create (name : String) (initial : Tensor) {type : TensorType}
    (fits : initial.type = type) :
    Creates [((create name initial before).1, type)] before (create name initial before).2 where
  grown := by
    simp only [create, store_register]
    exact Store.extends_create
  allots := by
    constructor
    · intro declaration inside
      rw [List.mem_singleton.mp inside]
      simp only [create, store_register, ← fits]
      exact Store.hasType_create
    · exact List.nodup_singleton _
  fresh handle created := by
    rw [List.mem_singleton.mp created]
    have absent : ¬before.store.Holds (before.store.create name initial).1 :=
      Store.not_holds_create
    exact absent

theorem creates_zeros {name : String} {elementType : ElementType} {sizes : List Nat} :
    Creates [((zeros name elementType sizes before).1, .ofSizes elementType sizes)] before
      (zeros name elementType sizes before).2 := by
  apply creates_create name (.zeros elementType sizes)
  cases elementType <;> rfl

end Construction

open Construction

variable {construction after : Construction}

theorem Dense.creates_create {name : String} {inputs outputs : Nat}
    {activation : Option Activation} {draw : Nat → Float32} :
    Creates (Layer.dense (create name inputs outputs activation draw construction).1).declared
      construction (create name inputs outputs activation draw construction).2 :=
  (Construction.creates_create (name ++ "/kernel") (initialKernel inputs outputs draw) rfl).trans
    creates_zeros

theorem Normalization.creates_create {name : String} {width : Nat} :
    Creates (Layer.normalization (create name width construction).1).declared construction
      (create name width construction).2 :=
  (((Construction.creates_create (name ++ "/gamma") (.float32 (.fill [width] 1)) rfl).trans
    creates_zeros).trans creates_zeros).trans
      (Construction.creates_create (name ++ "/moving_variance") (.float32 (.fill [width] 1)) rfl)

theorem Layer.creates_create (draw : Nat → Float32) (blueprint : LayerBlueprint) :
    Creates (create draw blueprint construction).1.declared construction
      (create draw blueprint construction).2 := by
  cases blueprint with
  | dense name inputs outputs activation => exact Dense.creates_create
  | normalization name width => exact Normalization.creates_create

theorem LinearRegression.creates_create {features : Nat} :
    Creates (create features construction).1.declared construction
      (create features construction).2 :=
  ((((creates_zeros.trans creates_zeros).trans creates_zeros).trans creates_zeros).trans
    creates_zeros).trans creates_zeros

theorem LinearRegression.created_of_build {features : Nat} {model : LinearRegression}
    (built : build features construction = (.ok model, after)) :
    create features construction = (model, after) := by
  by_cases none : features = 0
  · subst none
    cases built
  · have unfolded : build features construction =
        (.ok (create features construction).1, (create features construction).2) := by
      simp only [build, if_neg none]
      rfl
    rw [unfolded] at built
    cases built
    rfl

theorem LinearRegression.creates_of_build {features : Nat} {model : LinearRegression}
    (built : build features construction = (.ok model, after)) :
    Creates model.declared construction after := by
  have created := created_of_build built
  have creates : Creates (create features construction).1.declared construction
      (create features construction).2 := creates_create
  rwa [created] at creates

namespace NetworkModel

variable {network : Network} {loss : Loss} {spec : BatchSpec} {model : NetworkModel}

theorem creates_create :
    Creates (create network loss spec construction).1.metricsDeclared construction
      (create network loss spec construction).2 :=
  (creates_zeros.trans creates_zeros).trans creates_zeros

theorem build_of_checked (checked : check network loss spec = .ok ()) :
    build network loss spec construction =
      (.ok (create network loss spec construction).1,
        (create network loss spec construction).2) := by
  simp only [build, checked]
  rfl

theorem checked_of_build (built : build network loss spec construction = (.ok model, after)) :
    check network loss spec = .ok () ∧ create network loss spec construction = (model, after) := by
  cases checked : check network loss spec with
  | error error =>
      have unfolded : build network loss spec construction = (.error error, construction) := by
        simp only [build, checked]
        rfl
      rw [unfolded] at built
      cases built
  | ok passed =>
      rw [build_of_checked checked] at built
      cases built
      exact ⟨rfl, rfl⟩

theorem creates_of_build (built : build network loss spec construction = (.ok model, after)) :
    Creates model.metricsDeclared construction after := by
  have created := (checked_of_build built).2
  have creates : Creates (create network loss spec construction).1.metricsDeclared construction
      (create network loss spec construction).2 := creates_create
  rwa [created] at creates

theorem network_of_build (built : build network loss spec construction = (.ok model, after)) :
    model.network = network := by
  obtain ⟨_, created⟩ := checked_of_build built
  cases created
  rfl

theorem checkWidth_eq_ok_iff {slot : String} {type : ValueType} {width : Nat} :
    checkWidth slot type width = .ok () ↔ isMatrixType width type = true := by
  simp [checkWidth]

theorem fitting_of_build (defined : loss.Defined)
    (built : build network loss spec construction = (.ok model, after)) : model.Fitting := by
  obtain ⟨checked, created⟩ := checked_of_build built
  cases created
  simp only [check, exceptThen_eq_ok_iff, checkWidth_eq_ok_iff] at checked
  exact ⟨checked.1, checked.2.1, defined⟩

end NetworkModel

end FederatedLearning
