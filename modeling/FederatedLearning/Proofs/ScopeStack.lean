import FederatedLearning.Variable.Construction

/-!
# The stack of open scopes

What registering a variable, entering a scope and dropping a guard do to the graphs
of a construction.  A variable joins the innermost open graph, and the base graph
only when no scope is open; a guard that is dropped cuts the stack off below the
depth that the guard was given.
-/

namespace FederatedLearning.Construction

variable {α : Type} {construction : Construction} {handle : Variable} {scope : Scope}
  {name : String} {initial : Tensor} {outer : List (List Variable)} {innermost : List Variable}

theorem closed_or_open (construction : Construction) :
    construction.scopes = [] ∨
      ∃ outer innermost, construction.scopes = outer ++ [innermost] := by
  rcases List.eq_nil_or_concat construction.scopes with closed | ⟨outer, innermost, inside⟩
  · exact .inl closed
  · exact .inr ⟨outer, innermost, by rw [inside, List.concat_eq_append]⟩

@[simp] theorem store_register (construction : Construction) (handle : Variable) :
    (construction.register handle).store = construction.store := by
  unfold register
  split <;> rfl

theorem register_of_closed (closed : construction.scopes = []) :
    construction.register handle =
      { construction with base := construction.base ++ [handle] } := by
  simp [register, closed]

theorem register_of_open (inside : construction.scopes = outer ++ [innermost]) :
    construction.register handle =
      { construction with scopes := outer ++ [innermost ++ [handle]] } := by
  simp [register, depth, inside, List.modify_eq_take_cons_drop]

@[simp] theorem depth_register : (construction.register handle).depth = construction.depth := by
  unfold register depth
  split <;> simp

/-- What registering does to the graphs hangs on the graphs alone. -/
theorem register_congr (construction other : Construction) (handle : Variable)
    (sameBase : construction.base = other.base) (sameScopes : construction.scopes = other.scopes) :
    (construction.register handle).base = (other.register handle).base ∧
      (construction.register handle).scopes = (other.register handle).scopes := by
  rcases closed_or_open construction with closed | ⟨outer, innermost, inside⟩
  · rw [register_of_closed closed, register_of_closed (sameScopes ▸ closed)]
    exact ⟨by rw [sameBase], sameScopes⟩
  · rw [register_of_open inside, register_of_open (sameScopes ▸ inside)]
    exact ⟨sameBase, rfl⟩

/-- Registers variables one after the other. -/
def registerAll (construction : Construction) (handles : List Variable) : Construction :=
  handles.foldl register construction

theorem registerAll_concat {handles : List Variable} :
    construction.registerAll (handles ++ [handle]) =
      (construction.registerAll handles).register handle :=
  List.foldl_append

theorem registerAll_of_closed {handles : List Variable} (closed : construction.scopes = []) :
    construction.registerAll handles =
      { construction with base := construction.base ++ handles } := by
  induction handles generalizing construction with
  | nil => simp [registerAll]
  | cons handle handles induction =>
      rw [registerAll, List.foldl_cons, register_of_closed closed]
      refine (induction ?_).trans ?_
      · exact closed
      · rw [List.append_assoc]
        rfl

theorem registerAll_of_open {handles : List Variable}
    (inside : construction.scopes = outer ++ [innermost]) :
    construction.registerAll handles =
      { construction with scopes := outer ++ [innermost ++ handles] } := by
  induction handles generalizing construction innermost with
  | nil => simp [registerAll, ← inside]
  | cons handle handles induction =>
      rw [registerAll, List.foldl_cons, register_of_open inside]
      refine (induction rfl).trans ?_
      rw [List.append_assoc]
      rfl

@[simp] theorem depth_registerAll {handles : List Variable} :
    (construction.registerAll handles).depth = construction.depth := by
  induction handles generalizing construction with
  | nil => rfl
  | cons handle handles induction => exact induction.trans depth_register

theorem create_apply :
    create name initial construction =
      ((construction.store.create name initial).1,
        ({ construction with store := (construction.store.create name initial).2 }).register
          (construction.store.create name initial).1) :=
  rfl

theorem create_of_closed (closed : construction.scopes = []) :
    (create name initial construction).2 =
      { construction with
        store := (construction.store.create name initial).2
        base := construction.base ++ [(create name initial construction).1] } :=
  register_of_closed closed

theorem create_of_open (inside : construction.scopes = outer ++ [innermost]) :
    (create name initial construction).2 =
      { construction with
        store := (construction.store.create name initial).2
        scopes := outer ++ [innermost ++ [(create name initial construction).1]] } :=
  register_of_open inside

theorem enter_apply :
    enter construction =
      (⟨construction.depth + 1⟩,
        { construction with scopes := construction.scopes ++ [[]] }) :=
  rfl

@[simp] theorem depth_enter : (enter construction).2.depth = construction.depth + 1 := by
  simp [enter_apply, depth]

@[simp] theorem depth_create :
    (create name initial construction).2.depth = construction.depth := by
  rw [create_apply, depth_register]
  rfl

@[simp] theorem depth_leave :
    (construction.leave scope).depth = min (scope.depth - 1) construction.depth := by
  simp [leave, depth]

/-- A body within a scope runs with an empty graph on top, which is left whatever the
body returns. -/
theorem within_apply (body : StateM Construction α) :
    within body construction =
      ((body (enter construction).2).1,
        (body (enter construction).2).2.leave ⟨construction.depth + 1⟩) :=
  rfl

end FederatedLearning.Construction
