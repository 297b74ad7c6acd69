import FederatedLearning.ValueType.Json
import FederatedLearning.Proofs.JsonCollections
import FederatedLearning.Proofs.JsonNumbers
import FederatedLearning.Proofs.ValueTypes

/-!
# Types as texts and back

A type is read back from the text that it is serialized to, whatever names its records
have, as long as the text nests no deeper than a reader accepts and the dimensions
fit a word of 64 bits.
-/

namespace FederatedLearning

open Json

namespace Record

variable {α : Type} {inner : Nat} {label : Option String} {piece : List Char} {value : α}

theorem json_eq (record : Record (List Char)) :
    record.json = objectText [("elements", arrayText (record.elements.map fun element =>
      arrayText [labelJson element.1, element.2]))] := by
  have element_eq (element : Option String × List Char) :
      '[' :: (labelJson element.1 ++ ',' :: (element.2 ++ [']'])) =
        arrayText [labelJson element.1, element.2] := by
    simp [arrayText]
  unfold json
  simp only [element_eq]
  rw [objectText_single, arrayText, List.append_assoc, List.cons_append, List.append_assoc]
  rfl

theorem takes_label (label : Option String) : Takes (optional string) (labelJson label) label := by
  cases label with
  | none => exact takes_optional_none
  | some name =>
      intro rest
      have opened : optional string (quoted name ++ rest) =
          (string >>= fun name => pure (some name)) (quoted name ++ rest) :=
        optional_of_visible rfl (by decide)
      exact opened.trans ((takes_string name).map some rest)

theorem beginsElement_label (label : Option String) : BeginsElement (labelJson label) := by
  cases label with
  | none => exact ⟨_, _, rfl, rfl, by decide⟩
  | some name => exact beginsElement_quoted name

theorem nests_label (label : Option String) : Nests (labelJson label) 0 := by
  cases label with
  | none => exact nests_of_plain rfl
  | some name => exact nests_quoted name

/-- An element that is taken is taken with its name. -/
theorem takes_readElement {item : (deeper : Nat) → deeper < inner + 1 → Reader α}
    (begins : BeginsElement piece) (takes : Takes (item inner (Nat.lt_succ_self inner)) piece value)
    (label : Option String) :
    Takes (readElement (inner + 1) item) (arrayText [labelJson label, piece]) (label, value) := by
  apply takes_array
  intro closing inside rest
  have written : List.intercalate [','] [labelJson label, piece] ++ closing :: rest =
      labelJson label ++ (',' :: (piece ++ closing :: rest)) := by
    simp
  rw [written, bind_of_eq_ok (another_of_first (beginsElement_label label) _), if_pos rfl,
    bind_of_eq_ok (takes_label label _), bind_of_eq_ok (another_of_later begins _), if_pos rfl,
    bind_of_eq_ok (takes _)]
  rfl

/-- A record is taken if its elements are, each with its name. -/
theorem takes_read {item : (deeper : Nat) → deeper < inner + 2 → Reader α} {text : α → List Char}
    {elements : List (Option String × α)}
    (each : ∀ element ∈ elements,
      Takes (readElement inner fun deeper below => item deeper (by omega))
        (arrayText [labelJson element.1, text element.2]) element) :
    Takes (read (inner + 2) item) (json ⟨elements.map fun element => (element.1, text element.2)⟩)
      ⟨elements⟩ := by
  have listed : List.Forall₂
      (TakesElement (readElement inner fun deeper below => item deeper (by omega)))
      (elements.map fun element => arrayText [labelJson element.1, text element.2]) elements := by
    rw [List.forall₂_map_left_iff, List.forall₂_same]
    intro element inside
    exact ⟨beginsElement_arrayText _, (each element inside).before _⟩
  have read_elements : Takes ((elementsField (inner + 1) fun deeper below =>
      item deeper (by omega)).read none)
      (arrayText (elements.map fun element => arrayText [labelJson element.1, text element.2]))
      (some elements) := (takes_array (takes_elements listed)).map some
  have taken : TakesMembers ⟨[elementsField (inner + 1) fun deeper below =>
      item deeper (by omega)], true⟩ [] none
      [("elements", arrayText (elements.map fun element =>
        arrayText [labelJson element.1, text element.2]))] (some elements) :=
    .member rfl List.not_mem_nil (read_elements.before _) .done
  rw [json_eq, List.map_map]
  unfold read
  apply (takes_group taken).bind_nil
  exact takes_pure _

end Record

namespace TensorType

theorem json_eq (type : TensorType) :
    type.json = objectText [("dtype", quoted type.elementType.tag),
      ("shape", arrayText (type.shape.dims.map dimJson))] := by
  unfold json
  have written : objectText [("dtype", quoted type.elementType.tag),
      ("shape", arrayText (type.shape.dims.map dimJson))] =
      '\x7b' :: (quoted "dtype" ++ ':' :: (quoted type.elementType.tag ++ ',' ::
        (quoted "shape" ++ ':' :: '[' :: (List.intercalate [','] (type.shape.dims.map dimJson) ++
          [']', '\x7d'])))) := by
    simp [objectText, memberText, arrayText]
  rw [written, List.append_assoc, List.append_assoc, List.append_assoc]
  rfl

theorem takesElement_dim {dim : Option Nat} (fits : ∀ size, dim = some size → size < UInt64.size) :
    TakesElement (optional natural64) (dimJson dim) dim := by
  cases dim with
  | none => exact ⟨⟨_, _, rfl, rfl, by decide⟩, takes_optional_none.before _⟩
  | some size =>
      obtain ⟨head, tail, written, digit⟩ := (isWhole_toDigits size).isRun.exists_head
      have visible := isBlank_of_isDigit digit
      have notNull : head ≠ 'n' := by
        rintro rfl
        exact absurd digit (by decide)
      have notClosed : head ≠ ']' := by
        rintro rfl
        exact absurd digit (by decide)
      refine ⟨⟨head, tail, written, visible, notClosed⟩, ?_⟩
      intro delimiter inside rest
      have read := (takes_natural64 (fits size rfl) fun _ => endsNumeral_of_mem (.inl rfl)).map some
        delimiter inside rest
      have opened : optional natural64 (dimJson (some size) ++ delimiter :: rest) =
          (natural64 >>= fun size => pure (some size)) (dimJson (some size) ++ delimiter :: rest) := by
        rw [dimJson, written]
        exact optional_of_visible visible notNull
      exact opened.trans read

theorem takes_read {type : TensorType}
    (fits : ∀ size, some size ∈ type.shape.dims → size < UInt64.size) (inner : Nat) :
    Takes (read (inner + 2)) type.json type := by
  have dims : List.Forall₂ (TakesElement (optional natural64)) (type.shape.dims.map dimJson)
      type.shape.dims := by
    rw [List.forall₂_map_left_iff, List.forall₂_same]
    intro dim inside
    exact takesElement_dim fun size is => fits size (is ▸ inside)
  have elementType (known : Partial) : Takes
      (word (inner + 1) ElementType.ofTag? >>= fun elementType =>
        pure { known with elementType := some elementType })
      (quoted type.elementType.tag) { known with elementType := some type.elementType } :=
    (takes_word (ElementType.ofTag?_tag type.elementType) (inner + 1)).map _
  have shape (known : Partial) : Takes
      (array (inner + 1) (fun _ _ => elements (optional natural64)) >>= fun dims =>
        pure { known with shape := some ⟨dims⟩ })
      (arrayText (type.shape.dims.map dimJson)) { known with shape := some type.shape } :=
    (takes_array (takes_elements dims)).map _
  have taken : TakesMembers (layout (inner + 1)) [] ⟨none, none⟩
      [("dtype", quoted type.elementType.tag), ("shape", arrayText (type.shape.dims.map dimJson))]
      ⟨some type.elementType, some type.shape⟩ :=
    .member rfl List.not_mem_nil ((elementType _).before _)
      (.member rfl (by decide) ((shape _).before _) .done)
  rw [json_eq]
  unfold read
  apply (takes_group taken).bind_nil
  exact takes_pure type

theorem nests_dimJson (dim : Option Nat) : Nests (dimJson dim) 0 := by
  cases dim with
  | none => exact nests_of_plain rfl
  | some size =>
      apply nests_of_plain
      rw [List.all_eq_true]
      intro char inside
      have digit := (isWhole_toDigits size).allDigits char inside
      simp only [isPlain, Bool.and_eq_true, bne_iff_ne]
      refine ⟨⟨⟨⟨?_, ?_⟩, ?_⟩, ?_⟩, ?_⟩ <;> rintro rfl <;> exact absurd digit (by decide)

theorem nests_json (type : TensorType) : Nests type.json 2 := by
  have dims := nests_arrayText_map fun dim (_ : dim ∈ type.shape.dims) => nests_dimJson dim
  have level : (type.shape.dims.map fun _ => 0).foldr max 0 = 0 := by
    induction type.shape.dims with
    | nil => rfl
    | cons dim dims induction => rw [List.map_cons, List.foldr_cons, induction, Nat.max_self]
  rw [level] at dims
  have members : List.Forall₂ (fun member depth => Nests member.2 depth)
      [("dtype", quoted type.elementType.tag), ("shape", arrayText (type.shape.dims.map dimJson))]
      [0, 1] := .cons (nests_quoted _) (.cons dims .nil)
  rw [json_eq]
  exact nests_objectText members

end TensorType

namespace ValueType

variable {depth : Nat} {type member : ValueType} {placement : Placement} {allEqual : Bool}
  {elements : List (Option String × ValueType)}

theorem jsonElements_eq_map (elements : List (Option String × ValueType)) :
    jsonElements elements = elements.map fun element => (element.1, element.2.json) := by
  induction elements with
  | nil => rfl
  | cons element rest induction => rw [jsonElements, induction, List.map_cons]

theorem json_tensor (type : TensorType) :
    (tensor type).json = objectText [("tensor", type.json)] := by
  rw [objectText_single]
  rfl

theorem json_record (elements : List (Option String × ValueType)) :
    (record ⟨elements⟩).json = objectText [("struct",
      Record.json ⟨elements.map fun element => (element.1, element.2.json)⟩)] := by
  rw [objectText_single, ← jsonElements_eq_map]
  rfl

theorem json_placed (member : ValueType) (placement : Placement) (allEqual : Bool) :
    (placed member placement allEqual).json = objectText [("federated", objectText [
      ("member", member.json), ("placement", quoted placement.tag),
      ("all_equal", flagText allEqual)])] := by
  have written : objectText [("federated", objectText [
      ("member", member.json), ("placement", quoted placement.tag),
      ("all_equal", flagText allEqual)])] =
      '\x7b' :: (quoted "federated" ++ ':' :: '\x7b' :: (quoted "member" ++ ':' ::
        (member.json ++ ',' :: (quoted "placement" ++ ':' :: (quoted placement.tag ++ ',' ::
          (quoted "all_equal" ++ ':' :: (flagText allEqual ++ ['\x7d', '\x7d']))))))) := by
    simp [objectText, memberText]
  have opened : (placed member placement allEqual).json =
      "\x7b\"federated\":\x7b\"member\":".toList ++ member.json ++ ",\"placement\":".toList ++
        quoted placement.tag ++ ",\"all_equal\":".toList ++
        flagText allEqual ++ "\x7d\x7d".toList := rfl
  rw [written, opened]
  simp only [List.append_assoc]
  rfl

theorem beginsElement_json (type : ValueType) : BeginsElement type.json := by
  cases type with
  | tensor type =>
      rw [json_tensor]
      exact beginsElement_objectText _
  | record members =>
      rw [json_record]
      exact beginsElement_objectText _
  | placed member placement allEqual =>
      rw [json_placed]
      exact beginsElement_objectText _

mutual

/-- How many arrays and objects are open at most where the type is written. -/
def levels : ValueType → Nat
  | .tensor _ => 3
  | .record ⟨elements⟩ => levelsElements elements + 3
  | .placed member _ _ => levels member + 2
termination_by structural type => type

def levelsElements : List (Option String × ValueType) → Nat
  | [] => 0
  | (_, type) :: rest => max (levels type + 1) (levelsElements rest)
termination_by structural elements => elements

end

theorem levelsElements_eq_foldr (elements : List (Option String × ValueType)) :
    levelsElements elements = (elements.map fun element => element.2.levels + 1).foldr max 0 := by
  induction elements with
  | nil => rfl
  | cons first rest induction => rw [levelsElements, induction, List.map_cons, List.foldr_cons]

theorem levels_lt_levelsElements {element : Option String × ValueType}
    (inside : element ∈ elements) : element.2.levels < levelsElements elements := by
  induction elements with
  | nil => cases inside
  | cons first rest induction =>
      rw [levelsElements]
      rcases List.mem_cons.mp inside with rfl | later
      · omega
      · have below := induction later
        omega

/-- Every defined dimension of the type fits a word of 64 bits. -/
def FitsWords (type : ValueType) : Prop :=
  ∀ tensor ∈ type.tensors, ∀ size, some size ∈ tensor.shape.dims → size < UInt64.size

theorem FitsWords.of_mem {element : Option String × ValueType}
    (fits : (record ⟨elements⟩).FitsWords) (inside : element ∈ elements) :
    element.2.FitsWords := by
  intro tensor among
  apply fits tensor
  rw [tensors, tensorsElements_eq_flatMap]
  exact List.mem_flatMap.mpr ⟨element, inside, among⟩

theorem takes_placed (takes : Takes (read depth) member.json member) :
    Takes (read (depth + 2)) (placed member placement allEqual).json
      (placed member placement allEqual) := by
  have memberTaken (known : Partial) : Takes
      (read depth >>= fun member => pure { known with member := some member })
      member.json { known with member := some member } := takes.map _
  have placementTaken (known : Partial) : Takes
      (word depth Placement.ofTag? >>= fun placement =>
        pure { known with placement := some placement })
      (quoted placement.tag) { known with placement := some placement } :=
    (takes_word (Placement.ofTag?_tag placement) depth).map _
  have allEqualTaken (known : Partial) : Takes
      (flag >>= fun allEqual => pure { known with allEqual := some allEqual })
      (flagText allEqual) { known with allEqual := some allEqual } :=
    (takes_flag allEqual).map _
  have taken : TakesMembers (layout depth (read depth)) [] ⟨none, none, none⟩
      [("member", member.json), ("placement", quoted placement.tag),
        ("all_equal", flagText allEqual)]
      ⟨some member, some placement, some allEqual⟩ :=
    .member rfl List.not_mem_nil ((memberTaken _).before _)
      (.member rfl (by decide) ((placementTaken _).before _)
        (.member rfl (by decide) ((allEqualTaken _).before _) .done))
  rw [json_placed, read]
  apply takes_variant rfl
  apply (takes_group taken).bind_nil
  exact takes_pure _

theorem takes_json (fits : type.FitsWords) :
    ∀ {depth}, type.levels ≤ depth → Takes (read depth) type.json type := by
  induction type using ValueType.induct with
  | tensorCase type =>
      intro depth enough
      obtain ⟨inner, rfl⟩ := Nat.exists_eq_add_of_le' enough
      rw [json_tensor, read]
      have tensorFits : ∀ size, some size ∈ type.shape.dims → size < UInt64.size :=
        fits type (by simp [tensors])
      exact takes_variant rfl ((TensorType.takes_read tensorFits inner).map tensor)
  | recordCase members induction =>
      obtain ⟨elements⟩ := members
      intro depth enough
      -- The record spends three levels, and each element one more on the pair it stands in.
      obtain ⟨inner, rfl⟩ : ∃ inner, depth = inner + 3 :=
        ⟨depth - 3, by simp only [levels] at enough; omega⟩
      have each : ∀ element ∈ elements,
          Takes (Record.readElement inner fun deeper _ => read deeper)
            (arrayText [Record.labelJson element.1, element.2.json]) element := by
        intro element inside
        have below := levels_lt_levelsElements inside
        simp only [levels] at enough
        obtain ⟨deeper, rfl⟩ : ∃ deeper, inner = deeper + 1 := ⟨inner - 1, by omega⟩
        exact Record.takes_readElement (beginsElement_json element.2)
          (induction element inside (fits.of_mem inside) (by omega)) element.1
      have members : Takes (Record.read (inner + 2) fun deeper _ => read deeper)
          (Record.json ⟨elements.map fun element => (element.1, element.2.json)⟩) ⟨elements⟩ :=
        Record.takes_read each
      rw [json_record, read]
      exact takes_variant rfl (members.map record)
  | placedCase member placement allEqual induction =>
      intro depth enough
      obtain ⟨inner, rfl⟩ : ∃ inner, depth = inner + 2 :=
        ⟨depth - 2, by simp only [levels] at enough; omega⟩
      simp only [levels] at enough
      exact takes_placed (induction fits (by omega))

/-- Where the type is written, `levels` arrays and objects are open at most. -/
theorem nests_json (type : ValueType) : Nests type.json type.levels := by
  induction type using ValueType.induct with
  | tensorCase type =>
      rw [json_tensor]
      exact nests_single type.nests_json "tensor"
  | recordCase members induction =>
      obtain ⟨elements⟩ := members
      have each : ∀ element ∈ elements,
          Nests (arrayText [Record.labelJson element.1, element.2.json])
            (element.2.levels + 1) := by
        intro element inside
        have nests := nests_arrayText
          (.cons (Record.nests_label element.1) (.cons (induction element inside) .nil))
        simpa using nests
      rw [json_record, Record.json_eq, List.map_map, levels, levelsElements_eq_foldr]
      exact nests_single (nests_single (nests_arrayText_map each) "elements") "struct"
  | placedCase member placement allEqual induction =>
      have members : List.Forall₂ (fun member depth => Nests member.2 depth)
          [("member", member.json), ("placement", quoted placement.tag),
            ("all_equal", flagText allEqual)]
          [member.levels, 0, 0] :=
        .cons induction (.cons (nests_quoted _) (.cons (nests_flagText allEqual) .nil))
      have nests := nests_single (nests_objectText members) "federated"
      rw [json_placed, levels]
      simpa using nests

theorem toList_jsonText (type : ValueType) : type.jsonText.toList = type.json :=
  String.toList_ofList

theorem nesting_jsonText (type : ValueType) : nesting type.jsonText.toList = type.levels := by
  rw [toList_jsonText]
  exact type.nests_json.nesting_eq

/-- A type is read back from the text that it is serialized to, if the arrays and objects
of the text nest no deeper than 127 levels and all defined dimensions are words. -/
theorem ofJson_jsonText (fits : type.FitsWords) (shallow : nesting type.jsonText.toList ≤ 127) :
    ofJson type.jsonText = .ok type := by
  rw [nesting_jsonText] at shallow
  apply readAll_of_takes
  rw [toList_jsonText]
  exact takes_json fits shallow

/-- A placed record with an empty name, a name that needs all kinds of escapes, an element
without a name, and the same name again deeper inside, whose text looks like JSON itself. -/
def oddlyNamed : ValueType :=
  .placed (.record ⟨[
    (some "", .tensor ⟨.float32, ⟨[none, some 18446744073709551615, some 0]⟩⟩),
    (some "]\"\\\n\x01ü𝄞", .placed (.tensor ⟨.int64, .scalar⟩) .clients false),
    (none, .record ⟨[]⟩),
    (some "", .record ⟨[(some "null,[", .tensor ⟨.float64, ⟨[some 10]⟩⟩)]⟩)]⟩) .server true

theorem oddlyNamed_read_back :
    oddlyNamed.FitsWords ∧ nesting oddlyNamed.jsonText.toList ≤ 127 ∧
      ofJson oddlyNamed.jsonText = .ok oddlyNamed := by
  have fits : oddlyNamed.FitsWords := by
    simp [FitsWords, oddlyNamed, tensors, Shape.scalar, UInt64.size]
  have shallow : nesting oddlyNamed.jsonText.toList ≤ 127 := by
    rw [nesting_jsonText]
    decide
  exact ⟨fits, shallow, ofJson_jsonText fits shallow⟩

end ValueType

end FederatedLearning
