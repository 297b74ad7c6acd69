import FederatedLearning.LearningError
import FederatedLearning.Value.Basic

/-!
# Matrices

A matrix holds rows of equal width in single precision.  A tensor of two
dimensions is viewed as a matrix and a matrix turned into a tensor without any
change to the numbers.  Two matrices are combined entry by entry, where a
dimension of one is stretched to that of the other.
-/

namespace FederatedLearning

/-- Rows of single precision numbers of a common width. -/
structure Matrix where
  width : Nat
  rows : List (List Float32)
  rectangular : ∀ row ∈ rows, row.length = width

namespace Matrix

def height (matrix : Matrix) : Nat :=
  matrix.rows.length

/-- Cuts a number of rows of the given width off a list. -/
def cut (width : Nat) : Nat → List Float32 → List (List Float32)
  | 0, _ => []
  | count + 1, entries => entries.take width :: cut width count (entries.drop width)

@[simp] theorem length_cut (width count : Nat) (entries : List Float32) :
    (cut width count entries).length = count := by
  induction count generalizing entries with
  | zero => rfl
  | succ count induction => simp [cut, induction]

theorem length_of_mem_cut {width count : Nat} {entries row : List Float32}
    (enough : entries.length = count * width) (member : row ∈ cut width count entries) :
    row.length = width := by
  induction count generalizing entries with
  | zero => simp [cut] at member
  | succ count induction =>
      rw [Nat.succ_mul] at enough
      cases List.mem_cons.mp member with
      | inl same => rw [same, List.length_take]; omega
      | inr later => exact induction (by rw [List.length_drop]; omega) later

def ofArray? (array : DenseArray Float32) : Option Matrix :=
  match shape : array.sizes with
  | [height, width] =>
      some ⟨width, cut width height array.elements, fun _ member =>
        length_of_mem_cut (by rw [array.complete, shape]; simp) member⟩
  | _ => none

def ofTensor (what : String) (tensor : Tensor) : Except LearningError Matrix := do
  let array ← tensor.singles what
  match ofArray? array with
  | some matrix => return matrix
  | none => throw (.countMismatch what array.sizes.length 2)

def ofValue (what : String) (value : Value) : Except LearningError Matrix := do
  ofTensor what (← value.asTensor what)

theorem length_flatten (matrix : Matrix) :
    matrix.rows.flatten.length = matrix.height * matrix.width := by
  obtain ⟨width, rows, rectangular⟩ := matrix
  simp only [height]
  induction rows with
  | nil => simp
  | cons row rest induction =>
      have first := rectangular row (by simp)
      have others := induction fun row member => rectangular row (by simp [member])
      simp only [List.flatten_cons, List.length_append, List.length_cons, first, others,
        Nat.succ_mul]
      omega

def toTensor (matrix : Matrix) : Tensor :=
  .float32 ⟨[matrix.height, matrix.width], matrix.rows.flatten, by
    rw [length_flatten]; simp⟩

def entries (matrix : Matrix) : List Float32 :=
  matrix.rows.flatten

def column (matrix : Matrix) (position : Nat) : List Float32 :=
  matrix.rows.filterMap (·[position]?)

def mapRows (matrix : Matrix) (width : Nat) (function : List Float32 → List Float32)
    (fits : ∀ row, row.length = matrix.width → (function row).length = width) : Matrix :=
  ⟨width, matrix.rows.map function, fun row member => by
    obtain ⟨source, inside, same⟩ := List.mem_map.mp member
    rw [← same]
    exact fits source (matrix.rectangular source inside)⟩

def map (function : Float32 → Float32) (matrix : Matrix) : Matrix :=
  matrix.mapRows matrix.width (·.map function) fun row length => by simp [length]

/-- The common size of two dimensions, one of which may be stretched. -/
def commonSize? (left right : Nat) : Option Nat :=
  if left = right then some left
  else if left = 1 then some right
  else if right = 1 then some left
  else none

/-- Repeats a single item until the wanted size is reached. -/
def stretch {α : Type} (size : Nat) (items : List α) : List α :=
  if items.length = size then items
  else
    match items with
    | [item] => List.replicate size item
    | items => items

theorem length_stretch {α : Type} {size : Nat} {items : List α}
    (fits : items.length = size ∨ items.length = 1) : (stretch size items).length = size := by
  unfold stretch
  split
  · assumption
  · match items with
    | [item] => simp
    | [] => simp_all
    | _ :: _ :: _ => simp_all

theorem commonSize?_fits {left right size : Nat} (same : commonSize? left right = some size) :
    (left = size ∨ left = 1) ∧ (right = size ∨ right = 1) := by
  unfold commonSize? at same
  split at same
  · simp_all
  · split at same
    · simp_all
    · split at same <;> simp_all

/-- Combines two matrices entry by entry, if their shapes agree after a dimension
of one has been stretched. -/
def zipWith? (function : Float32 → Float32 → Float32) (left right : Matrix) : Option Matrix :=
  match commonSize? left.height right.height, same : commonSize? left.width right.width with
  | some height, some width =>
      some ⟨width,
        List.zipWith
          (fun row row' => List.zipWith function (stretch width row) (stretch width row'))
          (stretch height left.rows) (stretch height right.rows), fun row member => by
        obtain ⟨fitsLeft, fitsRight⟩ := commonSize?_fits same
        have stretched : ∀ (matrix : Matrix) (row : List Float32) (size : Nat),
            row ∈ stretch size matrix.rows → row ∈ matrix.rows := by
          intro matrix row size inside
          unfold stretch at inside
          split at inside
          · exact inside
          · match shape : matrix.rows, inside with
            | [item], inside => simp_all
            | [], inside => exact inside
            | _ :: _ :: _, inside => exact inside
        rw [List.mem_iff_getElem] at member
        obtain ⟨position, bound, equal⟩ := member
        simp only [List.length_zipWith, Nat.lt_min] at bound
        rw [List.getElem_zipWith] at equal
        have inLeft := stretched left _ height (List.getElem_mem bound.1)
        have inRight := stretched right _ height (List.getElem_mem bound.2)
        rw [← equal, List.length_zipWith,
          length_stretch (by rw [left.rectangular _ inLeft]; exact fitsLeft),
          length_stretch (by rw [right.rectangular _ inRight]; exact fitsRight),
          Nat.min_self]⟩
  | _, _ => none

/-- A row times a matrix: the rows of the matrix, each times an entry, added up
from zero. -/
def rowTimes (row : List Float32) (matrix : Matrix) : List Float32 :=
  (row.zip matrix.rows).foldl
    (fun total (factor, other) => List.zipWith (fun sum entry => sum + factor * entry) total other)
    (List.replicate matrix.width 0)

theorem length_rowTimes (row : List Float32) (matrix : Matrix) :
    (rowTimes row matrix).length = matrix.width := by
  unfold rowTimes
  have general : ∀ (pairs : List (Float32 × List Float32)) (total : List Float32),
      (∀ pair ∈ pairs, pair.2.length = matrix.width) → total.length = matrix.width →
      (pairs.foldl (fun total (factor, other) =>
        List.zipWith (fun sum entry => sum + factor * entry) total other) total).length =
          matrix.width := by
    intro pairs
    induction pairs with
    | nil => intro total _ length; exact length
    | cons pair rest induction =>
        intro total lengths length
        refine induction _ (fun other member => lengths other (by simp [member])) ?_
        simp [List.length_zipWith, length, lengths pair (by simp)]
  refine general _ _ (fun pair member => ?_) (by simp)
  exact matrix.rectangular pair.2 (List.of_mem_zip (a := pair.1) (b := pair.2) member).2

def times (left right : Matrix) : Matrix :=
  left.mapRows right.width (rowTimes · right) fun row _ => length_rowTimes row right

/-- The product of two matrices, of which the first has to be as wide as the
second is high. -/
def product (left right : Matrix) : Except LearningError Matrix :=
  if left.width = right.height then .ok (left.times right) else .error .shapesDiffer

/-- Combines every row with a vector, entry by entry; the vector has an entry for
each column. -/
def zipRows (function : Float32 → Float32 → Float32) (matrix : Matrix) (vector : List Float32)
    (fits : vector.length = matrix.width) : Matrix :=
  matrix.mapRows matrix.width (List.zipWith function · vector) fun row length => by
    rw [List.length_zipWith, length, fits, Nat.min_self]

/-- Combines every row with a vector, which has to have an entry for each column. -/
def withRow (function : Float32 → Float32 → Float32) (matrix : Matrix)
    (vector : List Float32) : Except LearningError Matrix :=
  if fits : vector.length = matrix.width then .ok (matrix.zipRows function vector fits)
  else .error .shapesDiffer

end Matrix

end FederatedLearning
