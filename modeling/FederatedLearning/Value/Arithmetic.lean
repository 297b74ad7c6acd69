import FederatedLearning.Value.Basic

/-!
# Adding and scaling values

Both operations walk the tensors of a value depth first and change them one by
one.  A failure at some tensor ends the walk: the tensors before it keep their
new contents, those from it on their old ones.  `addTo` and `scaleBy` therefore
yield the value afterwards beside the outcome, and `add` and `scale` keep the
value only when the walk succeeds.
-/

namespace FederatedLearning.Value

/-- What is left of a walk over a value, or over its elements: the outcome, and
the contents afterwards. -/
structure Walk (α : Type) where
  outcome : Except TensorError Unit
  after : α

namespace Walk

/-- The walk over a single tensor: a failed step leaves it as it was. -/
def ofStep (leaf : Tensor) : Except TensorError Tensor → Walk Value
  | .ok changed => ⟨.ok (), .tensor changed⟩
  | .error error => ⟨.error error, .tensor leaf⟩

/-- Goes on with the remaining elements unless the walk has failed. -/
def followedBy (name : Option String) (walk : Walk Value)
    (rest : List (Option String × Value)) (onward : Walk (List (Option String × Value))) :
    Walk (List (Option String × Value)) :=
  match walk.outcome with
  | .ok () => ⟨onward.outcome, (name, walk.after) :: onward.after⟩
  | .error error => ⟨.error error, (name, walk.after) :: rest⟩

def result {α : Type} (walk : Walk α) : Except TensorError α :=
  walk.outcome.map fun _ => walk.after

end Walk

mutual

/-- Adds a value onto another one of the same structure. -/
def addTo : Value → Value → Walk Value
  | .tensor target, .tensor addend => .ofStep target (target.add addend)
  | .record ⟨target⟩, .record ⟨addend⟩ =>
      if target.map Prod.fst = addend.map Prod.fst then
        let walk := addToElements target addend
        ⟨walk.outcome, .record ⟨walk.after⟩⟩
      else ⟨.error (.namesMismatch "add"), .record ⟨target⟩⟩
  | .tensor target, .record _ => ⟨.error (.notTensor "add"), .tensor target⟩
  | .record target, .tensor _ => ⟨.error (.notRecord "add"), .record target⟩
termination_by structural target => target

/-- Adds values pairwise onto named values, until one of the lists ends. -/
def addToElements : List (Option String × Value) → List (Option String × Value) →
    Walk (List (Option String × Value))
  | (name, target) :: rest, (_, addend) :: rest' =>
      (addTo target addend).followedBy name rest (addToElements rest rest')
  | target, _ => ⟨.ok (), target⟩
termination_by structural target => target

end

mutual

def scaleBy (factor : Float) : Value → Walk Value
  | .tensor leaf => .ofStep leaf (leaf.scale factor)
  | .record ⟨elements⟩ =>
      let walk := scaleByElements factor elements
      ⟨walk.outcome, .record ⟨walk.after⟩⟩
termination_by structural value => value

def scaleByElements (factor : Float) :
    List (Option String × Value) → Walk (List (Option String × Value))
  | [] => ⟨.ok (), []⟩
  | (name, value) :: rest =>
      (scaleBy factor value).followedBy name rest (scaleByElements factor rest)
termination_by structural elements => elements

end

def add (left right : Value) : Except TensorError Value :=
  (left.addTo right).result

def scale (value : Value) (factor : Float) : Except TensorError Value :=
  (value.scaleBy factor).result

end FederatedLearning.Value
