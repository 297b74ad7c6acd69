import FederatedLearning.Proofs.JsonReading

/-!
# Reading arrays and objects

An array whose elements are taken one by one is taken as a whole, and so is an object
whose members are fields of a group.  Both spend one of the levels that may be open.
-/

namespace FederatedLearning.Json

/-- After a text either a comma follows or the closing bracket. -/
theorem exists_delimiter (closing : Char) (pieces : List (List Char)) (rest : List Char) :
    ∃ delimiter ∈ [',', closing], ∃ tail,
      eachAfterComma pieces ++ closing :: rest = delimiter :: tail := by
  cases pieces with
  | nil => exact ⟨closing, by simp, rest, rfl⟩
  | cons piece pieces => exact ⟨',', by simp, _, rfl⟩

section

variable {α : Type} {item : Reader α} {piece : List Char} {pieces : List (List Char)} {value : α}
  {values : List α} {bound inner : Nat}

/-- The piece can begin an element of an array. -/
def BeginsElement (piece : List Char) : Prop :=
  ∃ head tail, piece = head :: tail ∧ isBlank head = false ∧ head ≠ ']'

theorem beginsElement_quoted (text : String) : BeginsElement (quoted text) :=
  ⟨_, _, rfl, rfl, by decide⟩

theorem beginsElement_arrayText (pieces : List (List Char)) : BeginsElement (arrayText pieces) :=
  ⟨_, _, rfl, rfl, by decide⟩

theorem beginsElement_objectText (members : List (String × List Char)) :
    BeginsElement (objectText members) :=
  ⟨_, _, rfl, rfl, by decide⟩

theorem another_of_first (begins : BeginsElement piece) (rest : List Char) :
    another true (piece ++ rest) = .ok (true, piece ++ rest) := by
  obtain ⟨head, tail, rfl, visible, notClosed⟩ := begins
  rw [another, List.cons_append, bind_of_eq_ok (next?_of_visible visible)]
  generalize shown : some head = next
  split
  · cases shown
  · exact absurd (Option.some.inj shown) notClosed
  · rfl

theorem another_of_later (begins : BeginsElement piece) (rest : List Char) :
    another false (',' :: (piece ++ rest)) = .ok (true, piece ++ rest) := by
  obtain ⟨head, tail, rfl, visible, notClosed⟩ := begins
  have entered (text : List Char) : advance (',' :: text) = .ok ((), text) := rfl
  rw [another, bind_of_eq_ok (next?_of_visible rfl)]
  show (advance >>= fun _ => (next? >>= _ : Reader Bool)) _ = _
  rw [bind_of_eq_ok (entered _), List.cons_append, bind_of_eq_ok (next?_of_visible visible)]
  generalize shown : some head = next
  split
  · cases shown
  · exact absurd (Option.some.inj shown) notClosed
  · rfl

/-- The reader takes the piece where it is an element of an array. -/
structure TakesElement (item : Reader α) (piece : List Char) (value : α) : Prop where
  begins : BeginsElement piece
  takes : TakesBefore [',', ']'] item piece value

theorem TakesElement.read (element : TakesElement item piece value) (pieces : List (List Char))
    (rest : List Char) :
    item (piece ++ (eachAfterComma pieces ++ ']' :: rest)) =
      .ok (value, eachAfterComma pieces ++ ']' :: rest) := by
  obtain ⟨delimiter, inside, tail, begun⟩ := exists_delimiter ']' pieces rest
  rw [begun]
  exact element.takes delimiter inside tail

theorem elementsWithin_of_later (each : List.Forall₂ (TakesElement item) pieces values)
    (bounded : pieces.length < bound) (rest : List Char) :
    elementsWithin item bound false (eachAfterComma pieces ++ ']' :: rest) =
      .ok (values, ']' :: rest) := by
  induction each generalizing bound with
  | nil =>
      cases bound with
      | zero => exact absurd bounded (Nat.not_lt_zero _)
      | succ bound => rfl
  | @cons piece value pieces values element each induction =>
      cases bound with
      | zero => exact absurd bounded (Nat.not_lt_zero _)
      | succ bound =>
          have begun := another_of_later element.begins (eachAfterComma pieces ++ ']' :: rest)
          have others := induction (Nat.lt_of_succ_lt_succ bounded)
          simp only [eachAfterComma_cons, List.cons_append, List.append_assoc]
          rw [elementsWithin, bind_of_eq_ok begun, if_pos rfl,
            bind_of_eq_ok (element.read pieces rest), bind_of_eq_ok others]
          rfl

theorem takes_elementsWithin (each : List.Forall₂ (TakesElement item) pieces values)
    (bounded : pieces.length < bound) :
    TakesBefore [']'] (elementsWithin item bound true) (List.intercalate [','] pieces) values := by
  intro closing inside rest
  obtain rfl := List.mem_singleton.mp inside
  cases bound with
  | zero => exact absurd bounded (Nat.not_lt_zero _)
  | succ bound =>
      cases each with
      | nil => rfl
      | @cons piece value pieces values element each =>
          have begun := another_of_first element.begins (eachAfterComma pieces ++ ']' :: rest)
          have others := elementsWithin_of_later each (Nat.lt_of_succ_lt_succ bounded) rest
          rw [intercalate_cons, List.append_assoc, elementsWithin, bind_of_eq_ok begun, if_pos rfl,
            bind_of_eq_ok (element.read pieces rest), bind_of_eq_ok others]
          rfl

theorem takes_elements (each : List.Forall₂ (TakesElement item) pieces values) :
    TakesBefore [']'] (elements item) (List.intercalate [','] pieces) values := by
  intro closing inside rest
  have bounded : pieces.length <
      (List.intercalate [','] pieces ++ closing :: rest).length + 1 := by
    have enough := length_le_intercalate pieces
    simp only [List.length_append, List.length_cons]
    omega
  rw [elements, bind_of_eq_ok (get_apply _)]
  exact takes_elementsWithin each bounded closing inside rest

theorem takes_array {body : (deeper : Nat) → deeper < inner + 1 → Reader α}
    (takes : TakesBefore [']'] (body inner (Nat.lt_succ_self inner))
      (List.intercalate [','] pieces) value) :
    Takes (array (inner + 1) body) (arrayText pieces) value := by
  apply takes_of_next rfl
  apply (takes_advance '[').bind
  apply takes.bind
  exact (takes_token rfl).map fun _ => value

end

section

variable {σ : Type} {layout : Layout σ} {field : FieldReader σ} {seen : List String}
  {known next start final : σ} {key : String} {name piece text rest : List Char}
  {members : List (String × List Char)} {bound inner : Nat} {first : Bool}

theorem anotherKey_of_first (key : String) (piece rest : List Char) :
    anotherKey true (memberText (key, piece) ++ rest) =
      .ok (true, memberText (key, piece) ++ rest) :=
  rfl

theorem anotherKey_of_later (key : String) (piece rest : List Char) :
    anotherKey false (',' :: (memberText (key, piece) ++ rest)) =
      .ok (true, memberText (key, piece) ++ rest) :=
  rfl

/-- The members are fields that have not been seen, and are taken one after the other. -/
inductive TakesMembers (layout : Layout σ) :
    List String → σ → List (String × List Char) → σ → Prop where
  | done {seen : List String} {known : σ} : TakesMembers layout seen known [] known
  | member {seen : List String} {known next final : σ} {key : String} {piece : List Char}
      {members : List (String × List Char)} {field : FieldReader σ} :
      layout.fields.find? (·.name == key) = some field → key ∉ seen →
      TakesBefore [',', '\x7d'] (field.read known) piece next →
      TakesMembers layout (key :: seen) next members final →
      TakesMembers layout seen known ((key, piece) :: members) final

/-- Behind the key of a field that has not been seen, its value is read. -/
theorem fieldsByName_of_fresh (quotes : Quotes name key)
    (found : layout.fields.find? (·.name == key) = some field) (fresh : key ∉ seen)
    (begun : anotherKey first text = .ok (true, name ++ rest)) :
    fieldsByName layout (bound + 1) first seen known text =
      (token ':' >>= fun _ => field.read known >>= fun next =>
        fieldsByName layout bound false (key :: seen) next) rest := by
  obtain ⟨spells⟩ := quotes
  have entered (tail : List Char) : advance ('"' :: tail) = .ok ((), tail) := rfl
  have notSeen : seen.contains key = false := by simpa using fresh
  rw [fieldsByName, bind_of_eq_ok begun, if_pos rfl, List.cons_append, bind_of_eq_ok (entered _),
    bind_of_eq_ok (spells.takes_stringBody _)]
  simp only [found, notSeen, Bool.false_eq_true, if_false]

/-- A second key of the same name is refused, and so is a key that names no field. -/
theorem fieldsByName_of_refused (quotes : Quotes name key) (strict : layout.skipsUnknown = false)
    (refused : key ∈ seen ∨ layout.fields.find? (·.name == key) = none)
    (begun : anotherKey first text = .ok (true, name ++ rest)) :
    fieldsByName layout (bound + 1) first seen known text = .error .unsuited := by
  obtain ⟨spells⟩ := quotes
  have entered (tail : List Char) : advance ('"' :: tail) = .ok ((), tail) := rfl
  rw [fieldsByName, bind_of_eq_ok begun, if_pos rfl, List.cons_append, bind_of_eq_ok (entered _),
    bind_of_eq_ok (spells.takes_stringBody _)]
  cases found : layout.fields.find? (·.name == key) with
  | none =>
      simp only [strict, Bool.false_eq_true, if_false]
      rfl
  | some field =>
      have isSeen : seen.contains key = true := by simpa [found] using refused
      simp only [isSeen, if_true]
      rfl

/-- One member of an object is taken, once its beginning has been seen. -/
theorem fieldsByName_of_member (found : layout.fields.find? (·.name == key) = some field)
    (fresh : key ∉ seen) (takes : TakesBefore [',', '\x7d'] (field.read known) piece next)
    {delimiter : Char} {rest : List Char} (inside : delimiter ∈ [',', '\x7d'])
    (begun : anotherKey first text = .ok (true, memberText (key, piece) ++ delimiter :: rest)) :
    fieldsByName layout (bound + 1) first seen known text =
      fieldsByName layout bound false (key :: seen) next (delimiter :: rest) := by
  have separated : token ':' (':' :: (piece ++ delimiter :: rest)) =
      .ok ((), piece ++ delimiter :: rest) := takes_token rfl _
  rw [memberText, List.append_assoc] at begun
  rw [fieldsByName_of_fresh (quotes_quoted key) found fresh begun, List.cons_append,
    bind_of_eq_ok separated, bind_of_eq_ok (takes delimiter inside rest)]

theorem fieldsByName_of_later (taken : TakesMembers layout seen known members final)
    (bounded : members.length < bound) (rest : List Char) :
    fieldsByName layout bound false seen known
        (eachAfterComma (members.map memberText) ++ '\x7d' :: rest) =
      .ok (final, '\x7d' :: rest) := by
  induction taken generalizing bound with
  | done =>
      cases bound with
      | zero => exact absurd bounded (Nat.not_lt_zero _)
      | succ bound => rfl
  | @member seen known next final key piece members field found fresh takes taken induction =>
      cases bound with
      | zero => exact absurd bounded (Nat.not_lt_zero _)
      | succ bound =>
          obtain ⟨delimiter, inside, tail, begun⟩ :=
            exists_delimiter '\x7d' (members.map memberText) rest
          have others := induction (Nat.lt_of_succ_lt_succ bounded)
          simp only [List.map_cons, eachAfterComma_cons, List.cons_append, List.append_assoc]
          rw [begun] at others ⊢
          rw [fieldsByName_of_member found fresh takes inside (anotherKey_of_later key piece _),
            others]

theorem takes_fieldsByName (taken : TakesMembers layout seen known members final)
    (bounded : members.length < bound) :
    TakesBefore ['\x7d'] (fieldsByName layout bound true seen known)
      (List.intercalate [','] (members.map memberText)) final := by
  intro closing inside rest
  obtain rfl := List.mem_singleton.mp inside
  cases bound with
  | zero => exact absurd bounded (Nat.not_lt_zero _)
  | succ bound =>
      cases taken with
      | done => rfl
      | @member _ _ next _ key piece members field found fresh takes taken =>
          obtain ⟨delimiter, inside, tail, begun⟩ :=
            exists_delimiter '\x7d' (members.map memberText) rest
          have others := fieldsByName_of_later taken (Nat.lt_of_succ_lt_succ bounded) rest
          rw [List.map_cons, intercalate_cons, List.append_assoc]
          rw [begun] at others ⊢
          rw [fieldsByName_of_member found fresh takes inside (anotherKey_of_first key piece _),
            others]

theorem takes_group {layout : (deeper : Nat) → deeper < inner + 1 → Layout σ}
    (taken : TakesMembers (layout inner (Nat.lt_succ_self inner)) [] start members final) :
    Takes (group (inner + 1) start layout) (objectText members) final := by
  apply takes_of_next rfl
  apply (takes_advance '\x7b').bind
  apply takes_of_get
  intro text enough
  have bounded : members.length < text.length + 1 := by
    have commas := length_le_intercalate (members.map memberText)
    simp only [List.length_map] at commas
    simp only [List.append_eq, List.length_append, List.length_singleton] at enough
    omega
  apply (takes_fieldsByName taken bounded).bind
  exact (takes_token rfl).map fun _ => final

end

/-- An object with a single member, whose key says how the value is read. -/
theorem takes_variant {α : Type} {inner : Nat} {kind : String} {piece : List Char}
    {reader : Reader α} {value : α}
    {body : (deeper : Nat) → deeper < inner + 1 → String → Option (Reader α)}
    (chosen : body inner (Nat.lt_succ_self inner) kind = some reader)
    (takes : Takes reader piece value) :
    Takes (variant (inner + 1) body) (objectText [(kind, piece)]) value := by
  rw [objectText_single]
  apply takes_of_next rfl
  apply (takes_advance '\x7b').bind
  apply (takes_string kind).bind
  rw [chosen]
  apply (takes_token rfl).bind
  apply takes.bind
  exact (takes_token rfl).map fun _ => value

end FederatedLearning.Json
