import FederatedLearning.Value.Arithmetic

/-!
# Groupings

A list of values can be summed in groups: its parts are summed apart, and then
their sums.  A grouping is a binary tree that says how; its items, from left to
right, are the values.  How a list is grouped is left to the machine that sums it,
and a splitter stands for what the machine chooses: any grouping that keeps the
items in their order.  `Splitter.halves` cuts a list in the middle again and again.
-/

namespace FederatedLearning

/-- A way to combine the items of a list two by two. -/
inductive Grouping (α : Type) where
  | single (item : α)
  | join (left right : Grouping α)

namespace Grouping

variable {α β : Type}

def items : Grouping α → List α
  | single item => [item]
  | join left right => left.items ++ right.items

def map (function : α → β) : Grouping α → Grouping β
  | single item => single (function item)
  | join left right => join (left.map function) (right.map function)

theorem items_map (function : α → β) (grouping : Grouping α) :
    (grouping.map function).items = grouping.items.map function := by
  induction grouping with
  | single item => rfl
  | join left right front back => rw [map, items, front, back, items, List.map_append]

/-- Groups a list by halves; of an odd number of items, the second half takes
one more. -/
def halves : (items : List α) → items ≠ [] → Grouping α
  | [], nonempty => absurd rfl nonempty
  | [item], _ => single item
  | first :: second :: rest, _ =>
      let middle := (rest.length + 2) / 2
      join (halves ((first :: second :: rest).take middle) (by simp; omega))
        (halves ((first :: second :: rest).drop middle) (by simp; omega))
termination_by items => items.length
decreasing_by
  · simp only [List.length_take, List.length_cons]; omega
  · simp only [List.length_drop, List.length_cons]; omega

theorem items_halves (list : List α) (nonempty : list ≠ []) :
    (halves list nonempty).items = list := by
  fun_induction halves list nonempty with
  | case1 item => rfl
  | case2 first second rest _ middle _ front behind =>
      rw [items, front, behind, List.take_append_drop]

/-- The sum of a grouping: of a group in front, of one behind, and then of the
two. -/
def sum : Grouping Value → Except TensorError Value
  | single value => .ok value
  | join left right => do
      let front ← left.sum
      let back ← right.sum
      front.add back

end Grouping

/-- How a machine groups the items of lists that have any. -/
structure Splitter (α : Type) where
  group : (list : List α) → list ≠ [] → Grouping α
  items_group : ∀ list present, (group list present).items = list

def Splitter.halves {α : Type} : Splitter α where
  group := Grouping.halves
  items_group := Grouping.items_halves

end FederatedLearning
