import FederatedLearning.ValueType.Text
import FederatedLearning.Proofs.JsonTexts
import Mathlib.Data.Nat.PSub

/-!
# The compact text of a type identifies it

A compact text is told apart from its outside.  Its last character says what kind of type
it shows, a record's elements stand between the commas outside of all further brackets,
and an element's name stands before the sign of equality outside of all brackets.  This
needs names that contain none of these characters themselves.
-/

namespace FederatedLearning

namespace CompactText

open Json (eachAfterComma eachAfterComma_cons intercalate_cons)

variable {mark char : Char} {least depth : Nat} {text front front' middle back back' : List Char}
  {pieces pieces' : List (List Char)}

/-- The characters that set the parts of a compact text apart. -/
def signs : List Char :=
  ['=', ',', '<', '>', '\x7b', '\x7d', '[', ']', '@']

def Plain (text : List Char) : Prop :=
  ∀ char ∈ text, char ∉ signs

def openings : List Char :=
  ['<', '\x7b', '[']

def closings : List Char :=
  ['>', '\x7d', ']']

/-- How many brackets are open after a character, where `depth` of them are open before it.
There is no such number where the mark stands outside of all brackets, or a bracket is
closed that has not been opened. -/
def bracketStep (mark : Char) (depth : Nat) (char : Char) : Option Nat :=
  if char ∈ openings then some (depth + 1)
  else if char ∈ closings then depth.ppred
  else if char = mark ∧ depth = 0 then none
  else some depth

/-- Wherever at least `least` brackets are open, the text closes the brackets that it opens
and no others, and the mark stands within brackets only. -/
def Paired (mark : Char) (least : Nat) (text : List Char) : Prop :=
  ∀ depth ≥ least, text.foldlM (bracketStep mark) depth = some depth

theorem paired_nil : Paired mark least [] :=
  fun _ _ => rfl

theorem Paired.append (paired : Paired mark least front) (paired' : Paired mark least back) :
    Paired mark least (front ++ back) := by
  intro depth enough
  rw [List.foldlM_append, paired depth enough]
  exact paired' depth enough

theorem Paired.weaken (paired : Paired mark 0 text) : Paired mark least text :=
  fun depth _ => paired depth (Nat.zero_le depth)

theorem bracketStep_of_ordinary (noOpening : char ∉ openings) (noClosing : char ∉ closings)
    (unmarked : char ≠ mark ∨ 0 < depth) : bracketStep mark depth char = some depth := by
  rw [bracketStep, if_neg noOpening, if_neg noClosing, if_neg]
  rintro ⟨same, outside⟩
  rcases unmarked with differ | inside
  · exact differ same
  · omega

theorem Paired.cons (noOpening : char ∉ openings) (noClosing : char ∉ closings)
    (unmarked : char ≠ mark ∨ 0 < least) (paired : Paired mark least text) :
    Paired mark least (char :: text) := by
  intro depth enough
  have unmarked' : char ≠ mark ∨ 0 < depth := unmarked.imp_right fun inside =>
    Nat.lt_of_lt_of_le inside enough
  rw [List.foldlM_cons, bracketStep_of_ordinary noOpening noClosing unmarked']
  exact paired depth enough

/-- Brackets around a text hide the marks in it. -/
theorem Paired.enclosed {opening closing : Char} (opens : opening ∈ openings)
    (closes : closing ∈ closings) (paired : Paired mark 1 text) :
    Paired mark 0 (opening :: (text ++ [closing])) := by
  intro depth _
  have opened : bracketStep mark depth opening = some (depth + 1) := if_pos opens
  have closed : bracketStep mark (depth + 1) closing = some depth := by
    have noOpening : closing ∉ openings := by
      simp only [closings, List.mem_cons, List.not_mem_nil, or_false] at closes
      rcases closes with rfl | rfl | rfl <;> decide
    rw [bracketStep, if_neg noOpening, if_pos closes, Nat.ppred_succ]
  rw [List.foldlM_cons, opened, Option.bind_eq_bind, Option.bind_some, List.foldlM_append,
    paired (depth + 1) (Nat.le_add_left 1 depth)]
  simp [closed]

theorem paired_intercalate (each : ∀ piece ∈ pieces, Paired mark 1 piece) :
    Paired mark 1 (List.intercalate [','] pieces) := by
  have separated (pieces : List (List Char)) (each : ∀ piece ∈ pieces, Paired mark 1 piece) :
      Paired mark 1 (eachAfterComma pieces) := by
    induction pieces with
    | nil => exact paired_nil
    | cons piece pieces induction =>
        rw [List.forall_mem_cons] at each
        rw [eachAfterComma_cons]
        exact (each.1.append (induction each.2)).cons (by decide) (by decide) (.inr Nat.one_pos)
  cases pieces with
  | nil => exact paired_nil
  | cons piece pieces =>
      rw [List.forall_mem_cons] at each
      rw [intercalate_cons]
      exact each.1.append (separated pieces each.2)

section Separators

variable (separates : mark ∈ [',', '='])
include separates

theorem paired_of_plain (plain : Plain text) : Paired mark 0 text := by
  induction text with
  | nil => exact paired_nil
  | cons char text induction =>
      obtain ⟨plainHead, plainTail⟩ := List.forall_mem_cons.mp plain
      simp only [signs, List.mem_cons, List.not_mem_nil, or_false, not_or] at plainHead separates
      refine (induction plainTail).cons ?_ ?_ (.inl ?_)
      · simp [openings, plainHead]
      · simp [closings, plainHead]
      · rintro rfl
        simp [plainHead] at separates

theorem bracketStep_mark : bracketStep mark 0 mark = none := by
  simp only [List.mem_cons, List.not_mem_nil, or_false] at separates
  rcases separates with rfl | rfl <;> rfl

/-- Behind a paired text the mark stands outside of all brackets. -/
theorem Paired.not_marked (paired : Paired mark 0 front) :
    ¬ Paired mark 0 (front ++ mark :: back) := by
  intro whole
  have scanned := whole 0 (Nat.le_refl 0)
  rw [List.foldlM_append, paired 0 (Nat.le_refl 0), Option.bind_eq_bind, Option.bind_some,
    List.foldlM_cons, bracketStep_mark separates] at scanned
  cases scanned

theorem Paired.eq_nil_of_append (paired : Paired mark 0 front)
    (longer : Paired mark 0 (front ++ middle))
    (begins : ∀ char ∈ (middle ++ back).head?, char = mark) : middle = [] := by
  cases middle with
  | nil => rfl
  | cons char middle =>
      obtain rfl : char = mark := begins char rfl
      exact absurd longer (paired.not_marked separates)

/-- A paired text ends at the first mark outside of brackets, or where the whole text does. -/
theorem Paired.append_inj (paired : Paired mark 0 front) (paired' : Paired mark 0 front')
    (begins : ∀ char ∈ back.head?, char = mark) (begins' : ∀ char ∈ back'.head?, char = mark)
    (same : front ++ back = front' ++ back') : front = front' ∧ back = back' := by
  rcases List.append_eq_append_iff.mp same with ⟨middle, rfl, rfl⟩ | ⟨middle, rfl, rfl⟩
  · obtain rfl := paired.eq_nil_of_append separates paired' begins
    simp
  · obtain rfl := paired'.eq_nil_of_append separates paired begins'
    simp

end Separators

theorem begins_eachAfterComma (pieces : List (List Char)) :
    ∀ char ∈ (eachAfterComma pieces).head?, char = ',' := by
  cases pieces with
  | nil => simp [eachAfterComma]
  | cons piece pieces => simp [eachAfterComma_cons]

theorem eachAfterComma_inj (each : ∀ piece ∈ pieces, Paired ',' 0 piece)
    (each' : ∀ piece ∈ pieces', Paired ',' 0 piece)
    (same : eachAfterComma pieces = eachAfterComma pieces') : pieces = pieces' := by
  induction pieces generalizing pieces' with
  | nil =>
      cases pieces' with
      | nil => rfl
      | cons piece' pieces' => cases same
  | cons piece pieces induction =>
      cases pieces' with
      | nil => cases same
      | cons piece' pieces' =>
          rw [List.forall_mem_cons] at each each'
          rw [eachAfterComma_cons, eachAfterComma_cons] at same
          obtain ⟨rfl, sameRest⟩ := each.1.append_inj (by decide) each'.1
            (begins_eachAfterComma pieces) (begins_eachAfterComma pieces') (List.cons.inj same).2
          rw [induction each.2 each'.2 sameRest]

/-- The text can stand between commas: it has commas within brackets only and is not empty. -/
structure IsItem (piece : List Char) : Prop where
  paired : Paired ',' 0 piece
  nonempty : piece ≠ []

/-- Items that are separated by commas can be told apart. -/
theorem intercalate_inj (items : ∀ piece ∈ pieces, IsItem piece)
    (items' : ∀ piece ∈ pieces', IsItem piece)
    (same : List.intercalate [','] pieces = List.intercalate [','] pieces') : pieces = pieces' := by
  cases pieces with
  | nil =>
      cases pieces' with
      | nil => rfl
      | cons piece' pieces' =>
          rw [intercalate_cons] at same
          exact absurd (List.append_eq_nil_iff.mp same.symm).1
            (items' piece' List.mem_cons_self).nonempty
  | cons piece pieces =>
      cases pieces' with
      | nil =>
          rw [intercalate_cons] at same
          exact absurd (List.append_eq_nil_iff.mp same).1 (items piece List.mem_cons_self).nonempty
      | cons piece' pieces' =>
          rw [List.forall_mem_cons] at items items'
          rw [intercalate_cons, intercalate_cons] at same
          obtain ⟨rfl, sameRest⟩ := items.1.paired.append_inj (by decide) items'.1.paired
            (begins_eachAfterComma pieces) (begins_eachAfterComma pieces') same
          rw [eachAfterComma_inj (fun piece inside => (items.2 piece inside).paired)
            (fun piece inside => (items'.2 piece inside).paired) sameRest]

theorem isDigit_of_mem_signs (sign : char ∈ signs) : char.isDigit = false := by
  have none_digit : signs.all (fun sign => !sign.isDigit) = true := rfl
  simpa using List.all_eq_true.mp none_digit char sign

end CompactText

open CompactText

namespace Shape

variable {mark : Char}

theorem plain_dimChars (dim : Option Nat) : Plain (dimChars dim) := by
  intro char inside sign
  cases dim with
  | none =>
      rw [dimChars, List.mem_singleton] at inside
      subst inside
      revert sign
      decide
  | some size =>
      have digit : char.isDigit := Nat.isDigit_of_mem_toDigits (by decide) (by decide) inside
      rw [isDigit_of_mem_signs sign] at digit
      cases digit

theorem dimChars_ne_nil (dim : Option Nat) : dimChars dim ≠ [] := by
  cases dim with
  | none => exact List.cons_ne_nil _ _
  | some size => exact Nat.toDigits_ne_nil

theorem dimChars_injective : Function.Injective dimChars := by
  have undefined_ne (size : Nat) : dimChars none ≠ dimChars (some size) := by
    intro same
    have inside : '?' ∈ Nat.toDigits 10 size := by
      change '?' ∈ dimChars (some size)
      rw [← same]
      exact List.mem_singleton_self '?'
    have digit : '?'.isDigit := Nat.isDigit_of_mem_toDigits (by decide) (by decide) inside
    cases digit
  intro dim dim' same
  cases dim with
  | none =>
      cases dim' with
      | none => rfl
      | some size' => exact absurd same (undefined_ne size')
  | some size =>
      cases dim' with
      | none => exact absurd same.symm (undefined_ne size)
      | some size' =>
          have values := congrArg (Nat.ofDigitChars 10 · 0) same
          simpa [dimChars, Nat.ofDigitChars_toDigits] using values

theorem chars_of_ne_nil {shape : Shape} (some_dims : shape.dims ≠ []) :
    shape.chars = '[' :: (List.intercalate [','] (shape.dims.map dimChars) ++ [']']) := by
  rw [chars, List.isEmpty_eq_false_iff.mpr some_dims]
  rfl

theorem paired_chars (separates : mark ∈ [',', '=']) (shape : Shape) :
    Paired mark 0 shape.chars := by
  by_cases none_dims : shape.dims = []
  · rw [chars, none_dims]
    exact paired_nil
  · rw [chars_of_ne_nil none_dims]
    refine (paired_intercalate ?_).enclosed (by decide) (by decide)
    intro piece inside
    obtain ⟨dim, _, rfl⟩ := List.mem_map.mp inside
    exact (paired_of_plain separates (plain_dimChars dim)).weaken

theorem isItem_dimChars (dim : Option Nat) : IsItem (dimChars dim) where
  paired := paired_of_plain (by decide) (plain_dimChars dim)
  nonempty := dimChars_ne_nil dim

theorem chars_injective : Function.Injective chars := by
  intro shape shape' same
  have items (shape : Shape) : ∀ piece ∈ shape.dims.map dimChars, IsItem piece :=
    List.forall_mem_map.mpr fun dim _ => isItem_dimChars dim
  by_cases none_dims : shape.dims = []
  · by_cases none_dims' : shape'.dims = []
    · rw [Shape.mk.injEq, none_dims, none_dims']
    · rw [chars_of_ne_nil none_dims', chars, none_dims] at same
      cases same
  · by_cases none_dims' : shape'.dims = []
    · rw [chars_of_ne_nil none_dims, chars, none_dims'] at same
      cases same
    · rw [chars_of_ne_nil none_dims, chars_of_ne_nil none_dims'] at same
      have sameItems := intercalate_inj (items shape) (items shape')
        (List.append_cancel_right (List.cons.inj same).2)
      have sameDims := List.map_injective_iff.mpr dimChars_injective sameItems
      exact congrArg Shape.mk sameDims

end Shape

namespace TensorType

variable {mark : Char}

theorem paired_chars (separates : mark ∈ [',', '=']) (type : TensorType) :
    Paired mark 0 type.chars := by
  have plain : Plain type.elementType.text.toList := by
    cases type.elementType <;> simp [Plain, signs, ElementType.text]
  exact (paired_of_plain separates plain).append (type.shape.paired_chars separates)

theorem chars_injective : Function.Injective chars := by
  rintro ⟨elementType, shape⟩ ⟨elementType', shape'⟩ same
  simp only [chars] at same
  -- The names of the element types differ before a shape could make up for it.
  obtain rfl : elementType = elementType' := by
    by_contra differ
    cases elementType <;> cases elementType' <;> simp [ElementType.text] at differ same
  rw [Shape.chars_injective (List.append_cancel_left same)]

/-- The text of a tensor type ends with its number of bits or with its shape. -/
theorem getLast?_chars (type : TensorType) :
    type.chars.getLast? ∈ [some '2', some '4', some ']'] := by
  obtain ⟨elementType, shape⟩ := type
  by_cases none_dims : shape.dims = []
  · have noShape : shape.chars = [] := by
      rw [Shape.chars, none_dims]
      rfl
    rw [chars, noShape, List.append_nil]
    cases elementType <;> simp [ElementType.text]
  · rw [chars, Shape.chars_of_ne_nil none_dims, ← List.cons_append, ← List.append_assoc,
      List.getLast?_concat]
    decide

end TensorType

namespace ValueType

variable {mark : Char} {type left right : ValueType} {label : Option String}
  {element element' : Option String × ValueType}
  {elements elements' : List (Option String × ValueType)}

/-- No element's name contains a character that sets the parts of a text apart. -/
inductive PlainlyNamed : ValueType → Prop where
  | tensor (type : TensorType) : PlainlyNamed (.tensor type)
  | record {elements : List (Option String × ValueType)} :
      (∀ element ∈ elements, ∀ name ∈ element.1, Plain name.toList) →
      (∀ element ∈ elements, PlainlyNamed element.2) → PlainlyNamed (.record ⟨elements⟩)
  | placed {member : ValueType} (placement : Placement) (allEqual : Bool) :
      PlainlyNamed member → PlainlyNamed (.placed member placement allEqual)

/-- A member that a plainly named record can have. -/
structure PlainElement (element : Option String × ValueType) : Prop where
  name : ∀ name ∈ element.1, Plain name.toList
  type : element.2.PlainlyNamed

/-- An element as it stands in the text of a record. -/
def elementChars (element : Option String × ValueType) : List Char :=
  labelChars element.1 ++ chars element.2

theorem chars_record (elements : List (Option String × ValueType)) :
    chars (.record ⟨elements⟩) =
      '<' :: (List.intercalate [','] (elements.map elementChars) ++ ['>']) := by
  rw [chars, charsElements_eq_map]
  rfl

theorem chars_placed (member : ValueType) (placement : Placement) (allEqual : Bool) :
    chars (.placed member placement allEqual) =
      (if allEqual then chars member else '\x7b' :: (chars member ++ ['\x7d'])) ++
        '@' :: placement.text.toList := by
  cases allEqual <;> simp [chars]

/-- The characters that the text of a type can end with, which tell its kind. -/
def endings : ValueType → List Char
  | .tensor _ => ['2', '4', ']']
  | .record _ => ['>']
  | .placed _ .clients _ => ['S']
  | .placed _ .server _ => ['R']

theorem exists_ending (type : ValueType) :
    ∃ last ∈ type.endings, (chars type).getLast? = some last := by
  cases type with
  | tensor type => simpa [endings, chars, eq_comm] using type.getLast?_chars
  | record members =>
      obtain ⟨elements⟩ := members
      refine ⟨'>', List.mem_singleton_self _, ?_⟩
      rw [chars_record, ← List.cons_append, List.getLast?_concat]
  | placed member placement allEqual =>
      rw [chars_placed]
      cases placement <;> simp [endings, Placement.text]

theorem chars_ne_nil (type : ValueType) : chars type ≠ [] := by
  obtain ⟨last, _, ends⟩ := type.exists_ending
  intro empty
  rw [empty] at ends
  cases ends

theorem chars_ne_of_endings (apart : ∀ last ∈ left.endings, last ∉ right.endings) :
    chars left ≠ chars right := by
  intro same
  obtain ⟨last, inside, ends⟩ := left.exists_ending
  obtain ⟨last', inside', ends'⟩ := right.exists_ending
  rw [same, ends', Option.some.injEq] at ends
  exact apart last inside (ends ▸ inside')

theorem chars_tensor_ne_record (type : TensorType) (members : Record ValueType) :
    chars (.tensor type) ≠ chars (.record members) :=
  chars_ne_of_endings (by simp [endings])

theorem chars_tensor_ne_placed (type : TensorType) (member : ValueType) (placement : Placement)
    (allEqual : Bool) : chars (.tensor type) ≠ chars (.placed member placement allEqual) :=
  chars_ne_of_endings (by cases placement <;> simp [endings])

theorem chars_record_ne_placed (members : Record ValueType) (member : ValueType)
    (placement : Placement) (allEqual : Bool) :
    chars (.record members) ≠ chars (.placed member placement allEqual) :=
  chars_ne_of_endings (by cases placement <;> simp [endings])

/-- No type's text ends with the brace that encloses the type of values that may differ. -/
theorem chars_ne_enclosed (type : ValueType) (front : List Char) :
    chars type ≠ front ++ ['\x7d'] := by
  intro same
  obtain ⟨last, inside, ends⟩ := type.exists_ending
  rw [same, List.getLast?_concat, Option.some.injEq] at ends
  subst ends
  cases type with
  | tensor type => simp [endings] at inside
  | record members => simp [endings] at inside
  | placed member placement allEqual => cases placement <;> simp [endings] at inside

theorem chars_placed_inj {member member' : ValueType} {placement placement' : Placement}
    {allEqual allEqual' : Bool}
    (same : chars (.placed member placement allEqual) =
      chars (.placed member' placement' allEqual')) :
    chars member = chars member' ∧ placement = placement' ∧ allEqual = allEqual' := by
  obtain rfl : placement = placement' := by
    by_contra differ
    refine absurd same (chars_ne_of_endings ?_)
    cases placement <;> cases placement' <;> simp [endings] at differ ⊢
  rw [chars_placed, chars_placed] at same
  have sameFront := List.append_cancel_right same
  -- With braces on one side only, a member's text would have to end with a brace.
  cases allEqual <;> cases allEqual'
  · exact ⟨List.append_cancel_right (List.cons.inj sameFront).2, rfl, rfl⟩
  · exact absurd sameFront.symm (member'.chars_ne_enclosed ('\x7b' :: chars member))
  · exact absurd sameFront (member.chars_ne_enclosed ('\x7b' :: chars member'))
  · exact ⟨sameFront, rfl, rfl⟩

theorem paired_labelChars (plain : ∀ name ∈ label, Plain name.toList)
    (separates : mark ∈ [',', '=']) {least : Nat} (unmarked : '=' ≠ mark ∨ 0 < least) :
    Paired mark least (labelChars label) := by
  cases label with
  | none => exact paired_nil
  | some name =>
      exact (paired_of_plain separates (plain name rfl)).weaken.append
        (paired_nil.cons (by decide) (by decide) unmarked)

theorem PlainlyNamed.paired_chars (plain : type.PlainlyNamed) (separates : mark ∈ [',', '=']) :
    Paired mark 0 (chars type) := by
  induction plain with
  | tensor type => exact type.paired_chars separates
  | record names _ induction =>
      rw [chars_record]
      refine (paired_intercalate ?_).enclosed (by decide) (by decide)
      intro piece inside
      obtain ⟨element, within, rfl⟩ := List.mem_map.mp inside
      exact (paired_labelChars (names element within) separates (.inr Nat.one_pos)).append
        (induction element within).weaken
  | placed placement allEqual _ induction =>
      have notMark : '@' ≠ mark := by
        rintro rfl
        exact absurd separates (by decide)
      have plainPlacement : Plain placement.text.toList := by
        cases placement <;> simp [Plain, signs, Placement.text]
      have suffix : Paired mark 0 ('@' :: placement.text.toList) :=
        (paired_of_plain separates plainPlacement).cons (by decide) (by decide) (.inl notMark)
      rw [chars_placed]
      refine Paired.append ?_ suffix
      split
      · exact induction
      · exact (induction.weaken).enclosed (by decide) (by decide)

theorem PlainElement.isItem (plain : PlainElement element) : IsItem (elementChars element) where
  paired := (paired_labelChars plain.name (by decide) (.inl (by decide))).append
    (plain.type.paired_chars (by decide))
  nonempty := List.append_ne_nil_of_right_ne_nil _ (chars_ne_nil element.2)

theorem elementChars_named (name : String) (type : ValueType) :
    elementChars (some name, type) = name.toList ++ '=' :: chars type := by
  simp [elementChars, labelChars]

/-- Behind a name, an element has a sign of equality outside of brackets, and no type has one. -/
theorem PlainlyNamed.chars_ne_named (plain : type.PlainlyNamed) {name : String}
    (plainName : Plain name.toList) (type' : ValueType) :
    chars type ≠ elementChars (some name, type') := by
  intro same
  rw [elementChars_named] at same
  have paired : Paired '=' 0 (chars type) := plain.paired_chars (by decide)
  rw [same] at paired
  exact (paired_of_plain (by decide) plainName).not_marked (by decide) paired

theorem PlainElement.chars_inj (plain : PlainElement element) (plain' : PlainElement element')
    (same : elementChars element = elementChars element') :
    element.1 = element'.1 ∧ chars element.2 = chars element'.2 := by
  obtain ⟨label, left⟩ := element
  obtain ⟨label', right⟩ := element'
  cases label with
  | none =>
      cases label' with
      | none => exact ⟨rfl, same⟩
      | some name' => exact absurd same (plain.type.chars_ne_named (plain'.name name' rfl) right)
  | some name =>
      cases label' with
      | none => exact absurd same.symm (plain'.type.chars_ne_named (plain.name name rfl) left)
      | some name' =>
          rw [elementChars_named, elementChars_named] at same
          have paired : Paired '=' 0 name.toList :=
            paired_of_plain (by decide) (plain.name name rfl)
          have paired' : Paired '=' 0 name'.toList :=
            paired_of_plain (by decide) (plain'.name name' rfl)
          obtain ⟨sameName, sameType⟩ :=
            paired.append_inj (by decide) paired' (by simp) (by simp) same
          exact ⟨congrArg some (String.toList_injective sameName), (List.cons.inj sameType).2⟩

/-- Lists of elements are told apart by their texts if the types in the first list are told
apart from all others. -/
theorem elements_inj (plain : ∀ element ∈ elements, PlainElement element)
    (plain' : ∀ element ∈ elements', PlainElement element)
    (told : ∀ element ∈ elements, ∀ {right : ValueType}, right.PlainlyNamed →
      chars element.2 = chars right → element.2 = right)
    (same : elements.map elementChars = elements'.map elementChars) : elements = elements' := by
  induction elements generalizing elements' with
  | nil => exact (List.map_eq_nil_iff.mp same.symm).symm
  | cons element rest induction =>
      cases elements' with
      | nil => cases same
      | cons element' rest' =>
          rw [List.forall_mem_cons] at plain plain' told
          rw [List.map_cons, List.map_cons, List.cons.injEq] at same
          obtain ⟨sameName, sameChars⟩ := plain.1.chars_inj plain'.1 same.1
          have sameElement : element = element' :=
            Prod.ext sameName (told.1 plain'.1.type sameChars)
          rw [sameElement, induction plain.2 plain'.2 told.2 same.2]

theorem PlainlyNamed.chars_inj (plain : left.PlainlyNamed) (plain' : right.PlainlyNamed)
    (same : chars left = chars right) : left = right := by
  induction plain generalizing right with
  | tensor type =>
      cases plain' with
      | tensor type' => rw [TensorType.chars_injective same]
      | record => exact absurd same (chars_tensor_ne_record _ _)
      | placed => exact absurd same (chars_tensor_ne_placed _ _ _ _)
  | record names types induction =>
      cases plain' with
      | tensor type' => exact absurd same.symm (chars_tensor_ne_record _ _)
      | record names' types' =>
          have plain (element) (inside : element ∈ _) : PlainElement element :=
            ⟨names element inside, types element inside⟩
          have plain' (element) (inside : element ∈ _) : PlainElement element :=
            ⟨names' element inside, types' element inside⟩
          rw [chars_record, chars_record] at same
          have sameItems := intercalate_inj
            (List.forall_mem_map.mpr fun element inside => (plain element inside).isItem)
            (List.forall_mem_map.mpr fun element inside => (plain' element inside).isItem)
            (List.append_cancel_right (List.cons.inj same).2)
          rw [elements_inj plain plain' induction sameItems]
      | placed => exact absurd same (chars_record_ne_placed _ _ _ _)
  | placed placement allEqual _ induction =>
      cases plain' with
      | tensor type' => exact absurd same.symm (chars_tensor_ne_placed _ _ _ _)
      | record => exact absurd same.symm (chars_record_ne_placed _ _ _ _)
      | placed placement' allEqual' plain' =>
          obtain ⟨sameMember, rfl, rfl⟩ := chars_placed_inj same
          rw [induction plain' sameMember]

/-- The compact texts of two types are equal only if the types are, where no element's name
contains a character that sets the parts of a text apart. -/
theorem text_inj (plain : left.PlainlyNamed) (plain' : right.PlainlyNamed) :
    left.text = right.text ↔ left = right := by
  constructor
  · intro same
    exact plain.chars_inj plain' (String.ofList_injective same)
  · rintro rfl
    rfl

/-- A record that names only its first element, with an empty record behind it. -/
def partlyNamed : ValueType :=
  .record ⟨[
    (some "a", .tensor ⟨.float32, ⟨[none, some 2]⟩⟩),
    (none, .record ⟨[]⟩),
    (none, .tensor ⟨.int64, .scalar⟩)]⟩

theorem plainlyNamed_partlyNamed : partlyNamed.PlainlyNamed := by
  refine .record ?_ ?_
  · simp [Plain, signs]
  · simp only [List.forall_mem_cons]
    exact ⟨.tensor _, .record (List.forall_mem_nil _) (List.forall_mem_nil _), .tensor _,
      List.forall_mem_nil _⟩

/-- The texts are `{<a=float32[?,2],<>,int64>}@CLIENTS@SERVER` and
`{<a=float32[?,2],<>,int64>@SERVER}@CLIENTS`. -/
theorem stacked_placements_told_apart :
    partlyNamed.atClients.atServer.PlainlyNamed ∧ partlyNamed.atServer.atClients.PlainlyNamed ∧
      partlyNamed.atClients.atServer.text ≠ partlyNamed.atServer.atClients.text := by
  have plain : partlyNamed.atClients.atServer.PlainlyNamed :=
    .placed .server true (.placed .clients false plainlyNamed_partlyNamed)
  have plain' : partlyNamed.atServer.atClients.PlainlyNamed :=
    .placed .clients false (.placed .server true plainlyNamed_partlyNamed)
  exact ⟨plain, plain', mt (text_inj plain plain').mp (by decide)⟩

-- A name with a comma in it looks like one more element.
example :
    (record ⟨[(some "float32,b", .tensor ⟨.int32, .scalar⟩)]⟩).text =
      (record ⟨[
        (none, .tensor ⟨.float32, .scalar⟩),
        (some "b", .tensor ⟨.int32, .scalar⟩)]⟩).text :=
  rfl

end ValueType

end FederatedLearning
