import FederatedLearning.ValueType.Basic

/-!
# Types as text

The compact text shown in messages: `float32[?,2]` for a tensor,
`<a=float32,int64>` for a record, `float32@SERVER` and `{float32}@CLIENTS` for
placed types, where the braces stand for values that may differ.
-/

namespace FederatedLearning.ValueType

/-- An element's name with the sign that sets it off from its type. -/
def labelChars : Option String → List Char
  | none => []
  | some name => name.toList ++ ['=']

mutual

def chars : ValueType → List Char
  | .tensor type => type.chars
  | .record ⟨elements⟩ =>
      '<' :: (List.intercalate [','] (charsElements elements) ++ ['>'])
  | .placed member placement true =>
      chars member ++ '@' :: placement.text.toList
  | .placed member placement false =>
      '\x7b' :: (chars member ++ '\x7d' :: '@' :: placement.text.toList)
termination_by structural type => type

def charsElements : List (Option String × ValueType) → List (List Char)
  | [] => []
  | (name, type) :: rest => (labelChars name ++ chars type) :: charsElements rest
termination_by structural elements => elements

end

@[simp] theorem charsElements_eq_map (elements : List (Option String × ValueType)) :
    charsElements elements =
      elements.map fun element => labelChars element.1 ++ chars element.2 := by
  induction elements with
  | nil => rfl
  | cons element rest induction => simp [charsElements, induction]

def text (type : ValueType) : String :=
  String.ofList type.chars

end FederatedLearning.ValueType
