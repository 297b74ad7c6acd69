import FederatedLearning.ValueType.Basic
import FederatedLearning.Json.Record

/-!
# Types as JSON

The serialized form of a type is an object with a single key that names its
kind.  `ValueType.json` writes it without blanks, `ValueType.ofJson` reads it.
-/

namespace FederatedLearning

open Json

namespace TensorType

def dimJson : Option Nat → List Char
  | none => "null".toList
  | some size => Nat.toDigits 10 size

def json (type : TensorType) : List Char :=
  "\x7b\"dtype\":".toList ++ quoted type.elementType.tag ++ ",\"shape\":[".toList ++
    List.intercalate [','] (type.shape.dims.map dimJson) ++ "]\x7d".toList

/-- What is known of a tensor type while its fields are read. -/
structure Partial where
  elementType : Option ElementType
  shape : Option Shape

def layout (depth : Nat) : Layout Partial where
  fields := [
    ⟨"dtype", fun known => do
      return { known with elementType := some (← word depth ElementType.ofTag?) }⟩,
    ⟨"shape", fun known => do
      let dims ← array depth fun _ _ => elements (optional natural64)
      return { known with shape := some ⟨dims⟩ }⟩]
  skipsUnknown := true

def read (depth : Nat) : Reader TensorType := do
  let known ← group depth ⟨none, none⟩ fun inner _ => layout inner
  match known with
  | ⟨some elementType, some shape⟩ => return ⟨elementType, shape⟩
  | _ => throw .unsuited

end TensorType

namespace ValueType

/-- What is known of a placed type while its fields are read. -/
structure Partial where
  member : Option ValueType
  placement : Option Placement
  allEqual : Option Bool

def layout (depth : Nat) (member : Reader ValueType) : Layout Partial where
  fields := [
    ⟨"member", fun known => do return { known with member := some (← member) }⟩,
    ⟨"placement", fun known => do
      return { known with placement := some (← word depth Placement.ofTag?) }⟩,
    ⟨"all_equal", fun known => do return { known with allEqual := some (← flag) }⟩]
  skipsUnknown := true

def Partial.complete? : Partial → Option ValueType
  | ⟨some member, some placement, some allEqual⟩ => some (.placed member placement allEqual)
  | _ => none

/-- Reads a type whose arrays and objects nest no deeper than the given bound. -/
def read (depth : Nat) : Reader ValueType :=
  variant depth fun inner _ kind =>
    match kind with
    | "tensor" => some do return .tensor (← TensorType.read inner)
    | "struct" => some do
        return .record (← Record.read inner fun deeper _ => read deeper)
    | "federated" => some do
        let known ← group inner ⟨none, none, none⟩ fun deeper _ =>
          layout deeper (read deeper)
        match known.complete? with
        | some type => return type
        | none => throw .unsuited
    | _ => none
termination_by depth

def ofJson (text : String) : Except Fault ValueType :=
  readAll (read maxDepth) text

mutual

def json : ValueType → List Char
  | .tensor type => "\x7b\"tensor\":".toList ++ type.json ++ ['\x7d']
  | .record ⟨elements⟩ =>
      "\x7b\"struct\":".toList ++ Record.json ⟨jsonElements elements⟩ ++ ['\x7d']
  | .placed member placement allEqual =>
      "\x7b\"federated\":\x7b\"member\":".toList ++ json member ++
        ",\"placement\":".toList ++ quoted placement.tag ++
        ",\"all_equal\":".toList ++ (if allEqual then "true" else "false").toList ++
        "\x7d\x7d".toList
termination_by structural type => type

def jsonElements : List (Option String × ValueType) → List (Option String × List Char)
  | [] => []
  | (name, type) :: rest => (name, json type) :: jsonElements rest
termination_by structural elements => elements

end

def jsonText (type : ValueType) : String :=
  String.ofList type.json

end ValueType

end FederatedLearning
