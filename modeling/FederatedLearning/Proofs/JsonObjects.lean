import FederatedLearning.Proofs.JsonCollections
import FederatedLearning.Proofs.JsonNumbers

/-!
# Objects read as groups of fields

A reader of a group without unknown fields is told by what it makes of the documents that
are given for each field.  Whatever text says an object, the group is read from it exactly
if its members can be settled one after the other: each names a field that has not been
given before, and its document has a meaning for that field.
-/

namespace FederatedLearning.Json

variable {α β : Type} {reader : Reader α} {gap piece rest text left : List Char}
  {document : Document} {delimiter : Char}

/-! ## Blanks -/

/-- Blanks in front of what is read make no difference. -/
def SkipsGaps (reader : Reader α) : Prop :=
  ∀ gap text, gap.all isBlank = true → reader (gap ++ text) = reader text

theorem skipsGaps_next : SkipsGaps next? := by
  intro gap text blank
  rw [next?, next?, List.dropWhile_append_of_pos (List.all_eq_true.mp blank)]

theorem SkipsGaps.bind (skips : SkipsGaps reader) {next : α → Reader β} :
    SkipsGaps (reader >>= next) := by
  intro gap text blank
  rw [bind_apply, bind_apply, skips gap text blank]

theorem skipsGaps_token (char : Char) : SkipsGaps (token char) :=
  skipsGaps_next.bind

theorem skipsGaps_anotherKey (first : Bool) : SkipsGaps (anotherKey first) :=
  skipsGaps_next.bind

theorem skipsGaps_integer : SkipsGaps integer :=
  skipsGaps_next.bind

theorem skipsGaps_natural64 : SkipsGaps natural64 :=
  skipsGaps_integer.bind

theorem skipsGaps_optional : SkipsGaps (optional reader) :=
  skipsGaps_next.bind

theorem endsNumeral_of_isBlank {char : Char} (blank : isBlank char = true) : EndsNumeral char := by
  simp only [isBlank, Bool.or_eq_true, beq_iff_eq] at blank
  rcases blank with ((rfl | rfl) | rfl) | rfl <;> constructor <;> decide

/-! ## Readers of single documents -/

/-- From every text of a document the reader yields exactly what the document means, and
leaves what follows the text. -/
structure ReadsAs (reader : Reader α) (means : Document → α → Prop) : Prop where
  skips : SkipsGaps reader
  eq_ok_iff {piece : List Char} {document : Document} (writes : Writes piece document)
    {delimiter : Char} (ends : EndsNumeral delimiter) (rest : List Char) (value : α)
    (left : List Char) :
    reader (piece ++ delimiter :: rest) = .ok (value, left) ↔
      means document value ∧ left = delimiter :: rest

variable {means : Document → α → Prop} {means' : Document → β → Prop}

theorem ReadsAs.map (reads : ReadsAs reader means) (function : α → β)
    (same : ∀ document result,
      means' document result ↔ ∃ value, means document value ∧ function value = result) :
    ReadsAs (reader >>= fun value => pure (function value)) means' where
  skips := reads.skips.bind
  eq_ok_iff writes _ ends rest result left := by
    rw [bind_eq_ok_iff, same]
    constructor
    · rintro ⟨value, middle, read, mapped⟩
      cases mapped
      obtain ⟨meant, rfl⟩ := (reads.eq_ok_iff writes ends rest _ _).mp read
      exact ⟨⟨value, meant, rfl⟩, rfl⟩
    · rintro ⟨⟨value, meant, rfl⟩, rfl⟩
      exact ⟨value, _, (reads.eq_ok_iff writes ends rest _ _).mpr ⟨meant, rfl⟩, rfl⟩

/-- Whatever the text is, the reader yields nothing. -/
def Fails (reader : Reader α) : Prop :=
  ∀ text result, reader text ≠ .ok result

theorem fails_throw (fault : Fault) : Fails (throw fault : Reader α) :=
  fun _ _ => nofun

theorem fails_bind {next : α → Reader β} (fails : ∀ value, Fails (next value)) :
    Fails (reader >>= next) := by
  intro text result read
  obtain ⟨value, middle, _, last⟩ := bind_eq_ok_iff.mp read
  exact fails value middle result last

theorem fails_mismatch : Fails (mismatch : Reader α) := by
  apply fails_bind
  intro head
  split
  case h_5 => exact fails_bind fun _ => fails_bind fun _ => fails_throw _
  case h_6 | h_7 => exact fails_throw _
  case h_8 =>
    split
    · exact fails_bind fun _ => fails_throw _
    · exact fails_bind fun _ => fails_throw _
  all_goals exact fails_bind fun _ => fails_throw _

/-- Only a number is read where a number is wanted. -/
theorem exists_number_of_integer_eq_ok (writes : Writes piece document) {result : Int × List Char}
    (read : integer (piece ++ rest) = .ok result) : ∃ numeral, document = .number numeral := by
  by_contra other
  obtain ⟨head, tail, rfl, begins⟩ := writes.begins
  have notNumber := begins.notNumber fun numeral same => other ⟨numeral, same⟩
  rw [integer, List.cons_append, bind_of_eq_ok (next?_of_visible begins.visible)] at read
  simp only [notNumber, Bool.false_eq_true, if_false] at read
  exact fails_mismatch _ _ read

/-- A whole number is read from its own text only. -/
theorem integer_eq_ofNat_iff (writes : Writes piece document) (ends : EndsNumeral delimiter)
    {number : Nat} (fits : number < UInt64.size) :
    integer (piece ++ delimiter :: rest) = .ok ((number : Int), left) ↔
      document = .whole number ∧ left = delimiter :: rest := by
  constructor
  · intro read
    obtain ⟨numeral, rfl⟩ := exists_number_of_integer_eq_ok writes read
    cases writes with
    | number spells =>
        obtain ⟨rfl, same⟩ := (spells.integer_eq_ofNat_iff ends fits).mp read
        exact ⟨rfl, same⟩
  · rintro ⟨rfl, rfl⟩
    cases writes with
    | number spells => exact (spells.integer_eq_ofNat_iff ends fits).mpr ⟨rfl, rfl⟩

theorem readsAs_natural64 :
    ReadsAs natural64 fun document number => number < UInt64.size ∧ document = .whole number where
  skips := skipsGaps_natural64
  eq_ok_iff writes _ ends rest number left := by
    rw [natural64_eq_ok_iff]
    constructor
    · rintro ⟨read, fits⟩
      obtain ⟨same, rest⟩ := (integer_eq_ofNat_iff writes ends fits).mp read
      exact ⟨⟨fits, same⟩, rest⟩
    · rintro ⟨⟨fits, same⟩, rest⟩
      exact ⟨(integer_eq_ofNat_iff writes ends fits).mpr ⟨same, rest⟩, fits⟩

/-- Nothing is given by `null`, if `null` has no meaning of its own. -/
theorem ReadsAs.optional (reads : ReadsAs reader means) (apart : ∀ value, ¬means .null value) :
    ReadsAs (optional reader) fun document result =>
      result.elim (document = .null) (means document) where
  skips := skipsGaps_optional
  eq_ok_iff {piece document} writes delimiter ends rest result left := by
    by_cases isNull : document = .null
    · subst isNull
      cases writes with
      | null =>
          rw [takes_optional_none (delimiter :: rest)]
          cases result with
          | none => simp [eq_comm]
          | some value => simp [apart value]
    · obtain ⟨head, tail, rfl, begins⟩ := writes.begins
      have given := (reads.map some fun _ _ => Iff.rfl).eq_ok_iff writes ends rest result left
      rw [List.cons_append] at given ⊢
      rw [optional_of_visible begins.visible (begins.notNull isNull), given]
      cases result with
      | none => simp [isNull]
      | some value => simp

/-! ## Members and groups -/

section

variable {σ : Type} {layout : Layout σ} {seen : List String} {known final : σ} {key : String}
  {name : List Char} {first : Bool} {bound : Nat} {members : List (String × Document)}
  {pieces : List (List Char)} {inside ending : List Char}

theorem anotherKey_of_quotes (blank : gap.all isBlank = true) (quotes : Quotes name key) :
    anotherKey true (gap ++ (name ++ rest)) = .ok (true, name ++ rest) := by
  rw [skipsGaps_anotherKey true gap _ blank]
  obtain ⟨_⟩ := quotes
  rfl

theorem anotherKey_of_comma (blank : gap.all isBlank = true) {front : List Char}
    (frontBlank : front.all isBlank = true) (quotes : Quotes name key) :
    anotherKey false (gap ++ ',' :: (front ++ (name ++ rest))) = .ok (true, name ++ rest) := by
  have entered (text : List Char) : advance (',' :: text) = .ok ((), text) := rfl
  rw [skipsGaps_anotherKey false gap _ blank, anotherKey, bind_of_eq_ok (next?_of_visible rfl)]
  show (advance >>= fun _ => (next? >>= _ : Reader Bool)) _ = _
  rw [bind_of_eq_ok (entered _), skipsGaps_next.bind front _ frontBlank]
  obtain ⟨_⟩ := quotes
  rfl

theorem anotherKey_of_end (blank : gap.all isBlank = true) (first : Bool) :
    anotherKey first (gap ++ '\x7d' :: rest) = .ok (false, '\x7d' :: rest) := by
  rw [skipsGaps_anotherKey first gap _ blank]
  rfl

theorem fieldsByName_of_end (blank : gap.all isBlank = true) (first : Bool) :
    fieldsByName layout (bound + 1) first seen known (gap ++ '\x7d' :: rest) =
      .ok (known, '\x7d' :: rest) := by
  rw [fieldsByName]
  exact bind_of_eq_ok (anotherKey_of_end blank first)

/-- What each field makes of the documents that are given for it: from what is known to
what is known then. -/
structure Layout.Means (layout : Layout σ) (means : String → σ → Document → σ → Prop) :
    Prop where
  strict : layout.skipsUnknown = false
  reads : ∀ field ∈ layout.fields, ∀ known,
    ReadsAs (field.read known) (means field.name known)
  named {key : String} {known next : σ} {document : Document} :
    means key known document next → ∃ field ∈ layout.fields, field.name = key

/-- The members are settled one after the other, each for a key that has not been seen. -/
inductive Settles (means : String → σ → Document → σ → Prop) :
    List String → σ → List (String × Document) → σ → Prop where
  | done {seen : List String} {known : σ} : Settles means seen known [] known
  | member {seen : List String} {known next final : σ} {key : String} {document : Document}
      {members : List (String × Document)} :
      key ∉ seen → means key known document next →
      Settles means (key :: seen) next members final →
      Settles means seen known ((key, document) :: members) final

theorem settles_nil_iff {means : String → σ → Document → σ → Prop} :
    Settles means seen known [] final ↔ final = known := by
  constructor
  · rintro ⟨⟩
    rfl
  · rintro rfl
    exact .done

theorem settles_cons_iff {means : String → σ → Document → σ → Prop} :
    Settles means seen known ((key, document) :: members) final ↔
      key ∉ seen ∧ ∃ next, means key known document next ∧
        Settles means (key :: seen) next members final := by
  constructor
  · rintro (_ | ⟨fresh, meant, later⟩)
    exact ⟨fresh, _, meant, later⟩
  · rintro ⟨fresh, next, meant, later⟩
    exact .member fresh meant later

variable {means : String → σ → Document → σ → Prop}

/-- After blanks there is still something that ends a number. -/
theorem exists_end (blank : gap.all isBlank = true) (ends : EndsNumeral delimiter)
    (rest : List Char) :
    ∃ head tail, gap ++ delimiter :: rest = head :: tail ∧ EndsNumeral head := by
  cases gap with
  | nil => exact ⟨delimiter, rest, rfl, ends⟩
  | cons head gap =>
      rw [List.all_cons, Bool.and_eq_true] at blank
      exact ⟨head, gap ++ delimiter :: rest, rfl, endsNumeral_of_isBlank blank.1⟩

theorem ReadsAs.eq_ok_iff_of_said {means : Document → α → Prop} (reads : ReadsAs reader means)
    (said : Says piece document) :
    ∃ gap, gap.all isBlank = true ∧
      ∀ {delimiter}, EndsNumeral delimiter → ∀ {rest value left},
      reader (piece ++ delimiter :: rest) = .ok (value, left) ↔
        means document value ∧ left = gap ++ delimiter :: rest := by
  cases said with
  | @padded front piece back _ frontBlank writes backBlank =>
      refine ⟨back, backBlank, fun {delimiter} ends {rest value left} => ?_⟩
      obtain ⟨head, tail, begun, headEnds⟩ := exists_end backBlank ends rest
      rw [List.append_assoc, List.append_assoc, reads.skips front _ frontBlank, begun]
      exact reads.eq_ok_iff writes headEnds tail value left

/-- One member is read: the rest of the group is what it is after the member has been
settled. -/
theorem fieldsByName_member_eq_ok_iff (described : layout.Means means)
    (quotes : Quotes name key) (blank : gap.all isBlank = true) (said : Says piece document)
    (ends : EndsNumeral delimiter)
    (begun : anotherKey first text =
      .ok (true, name ++ (gap ++ ':' :: (piece ++ delimiter :: rest))))
    (later : ∀ next gap, gap.all isBlank = true →
      (fieldsByName layout bound false (key :: seen) next (gap ++ delimiter :: rest) =
        .ok (final, left) ↔ Settles means (key :: seen) next members final ∧ left = ending)) :
    fieldsByName layout (bound + 1) first seen known text = .ok (final, left) ↔
      Settles means seen known ((key, document) :: members) final ∧ left = ending := by
  rw [settles_cons_iff]
  by_cases seenBefore : key ∈ seen
  · rw [fieldsByName_of_refused quotes described.strict (.inl seenBefore) begun]
    exact ⟨nofun, fun settled => absurd seenBefore settled.1.1⟩
  cases found : layout.fields.find? (·.name == key) with
  | none =>
      rw [fieldsByName_of_refused quotes described.strict (.inr found) begun]
      refine ⟨nofun, ?_⟩
      rintro ⟨⟨_, next, meant, _⟩, _⟩
      obtain ⟨field, inside, named⟩ := described.named meant
      have other := List.find?_eq_none.mp found field inside
      exact absurd (beq_iff_eq.mpr named) other
  | some field =>
      have named : field.name = key := by simpa using List.find?_some found
      have reads := described.reads field (List.mem_of_find?_eq_some found) known
      obtain ⟨back, backBlank, read⟩ := reads.eq_ok_iff_of_said said
      have separated : token ':' (gap ++ ':' :: (piece ++ delimiter :: rest)) =
          .ok ((), piece ++ delimiter :: rest) := by
        rw [skipsGaps_token ':' gap _ blank]
        exact takes_token rfl _
      rw [fieldsByName_of_fresh quotes found seenBefore begun, bind_of_eq_ok separated,
        bind_eq_ok_iff]
      constructor
      · rintro ⟨next, middle, valueRead, others⟩
        obtain ⟨meant, rfl⟩ := (read ends).mp valueRead
        obtain ⟨settled, rfl⟩ := (later next back backBlank).mp others
        exact ⟨⟨seenBefore, next, named ▸ meant, settled⟩, rfl⟩
      · rintro ⟨⟨_, next, meant, settled⟩, rfl⟩
        refine ⟨next, back ++ delimiter :: rest, ?_, ?_⟩
        · exact (read ends).mpr ⟨named.symm ▸ meant, rfl⟩
        · exact (later next back backBlank).mpr ⟨settled, rfl⟩

/-- Behind the first members the others are settled in their order. -/
theorem fieldsByName_later_eq_ok_iff (described : layout.Means means)
    (each : List.Forall₂ SaysMember pieces members) (bounded : members.length < bound)
    (blank : gap.all isBlank = true) :
    fieldsByName layout bound false seen known
        (gap ++ (eachAfterComma pieces ++ '\x7d' :: rest)) = .ok (final, left) ↔
      Settles means seen known members final ∧ left = '\x7d' :: rest := by
  -- The gap is what the reader of the value before has left in front of the comma.
  induction each generalizing bound seen known gap with
  | nil =>
      cases bound with
      | zero => exact absurd bounded (Nat.not_lt_zero _)
      | succ bound =>
          have ended : fieldsByName layout (bound + 1) false seen known
              (gap ++ (eachAfterComma [] ++ '\x7d' :: rest)) = .ok (known, '\x7d' :: rest) :=
            fieldsByName_of_end blank false
          rw [ended, settles_nil_iff]
          simp [eq_comm]
  | @cons piece member pieces members memberSaid each induction =>
      cases bound with
      | zero => exact absurd bounded (Nat.not_lt_zero _)
      | succ bound =>
          obtain ⟨delimiter, among, tail, begun⟩ := exists_delimiter '\x7d' pieces rest
          cases memberSaid with
          | @member front name back value key document frontBlank quotes backBlank said =>
              apply fieldsByName_member_eq_ok_iff described quotes backBlank said
                (endsNumeral_of_mem (.inr rfl) among)
              · rw [← begun]
                have written :
                    eachAfterComma ((front ++ (name ++ (back ++ ':' :: value))) :: pieces)
                    ++ '\x7d' :: rest = ',' :: (front ++ (name ++ (back ++ ':' ::
                      (value ++ (eachAfterComma pieces ++ '\x7d' :: rest))))) := by
                  simp [eachAfterComma_cons]
                rw [written]
                exact anotherKey_of_comma blank frontBlank quotes
              · intro next gap gapBlank
                rw [← begun]
                exact induction (Nat.lt_of_succ_lt_succ bounded) gapBlank

theorem fieldsByName_eq_ok_iff (described : layout.Means means)
    (each : List.Forall₂ SaysMember pieces members) (fills : Fills pieces inside)
    (bounded : members.length < bound) :
    fieldsByName layout bound true seen known (inside ++ '\x7d' :: rest) = .ok (final, left) ↔
      Settles means seen known members final ∧ left = '\x7d' :: rest := by
  cases bound with
  | zero => exact absurd bounded (Nat.not_lt_zero _)
  | succ bound =>
      cases each with
      | nil =>
          cases fills with
          | blanks blank =>
              rw [fieldsByName_of_end blank true, settles_nil_iff]
              simp [eq_comm]
      | @cons piece member pieces members memberSaid each =>
          cases fills with
          | pieces =>
              obtain ⟨delimiter, among, tail, begun⟩ := exists_delimiter '\x7d' pieces rest
              cases memberSaid with
              | @member front name back value key document frontBlank quotes backBlank said =>
                  apply fieldsByName_member_eq_ok_iff described quotes backBlank said
                    (endsNumeral_of_mem (.inr rfl) among)
                  · rw [← begun]
                    simp only [List.append_assoc, List.cons_append]
                    exact anotherKey_of_quotes frontBlank quotes
                  · intro next gap gapBlank
                    rw [← begun]
                    exact fieldsByName_later_eq_ok_iff described each
                      (Nat.lt_of_succ_lt_succ bounded) gapBlank

theorem Fills.length_le (fills : Fills pieces inside) : pieces.length ≤ inside.length + 1 := by
  cases fills with
  | blanks _ => exact Nat.zero_le _
  | pieces piece pieces =>
      rw [← intercalate_cons]
      exact length_le_intercalate (piece :: pieces)

theorem skipsGaps_group {depth : Nat} {start : σ}
    {layout : (inner : Nat) → inner < depth → Layout σ} :
    SkipsGaps (group depth start layout) :=
  skipsGaps_next.bind

/-- From every text of an object a group is read exactly if the members can be settled. -/
theorem group_eq_ok_iff {inner : Nat} {start : σ}
    {layout : (deeper : Nat) → deeper < inner + 1 → Layout σ}
    (described : (layout inner (Nat.lt_succ_self inner)).Means means)
    (writes : Writes piece (.object members)) :
    group (inner + 1) start layout (piece ++ rest) = .ok (final, left) ↔
      Settles means [] start members final ∧ left = rest := by
  cases writes with
  | @object pieces inside _ each fills =>
      have joined : inside ++ ['\x7d'] ++ rest = inside ++ '\x7d' :: rest :=
        List.append_assoc inside ['\x7d'] rest
      have opened (text : List Char) : group (inner + 1) start layout ('\x7b' :: text) =
          (fieldsByName (layout inner (Nat.lt_succ_self inner)) (text.length + 1) true [] start >>=
            fun known => token '\x7d' >>= fun _ => pure known) text := rfl
      have bounded : members.length < (inside ++ '\x7d' :: rest).length + 1 := by
        have enough := fills.length_le
        have lengths := each.length_eq
        simp only [List.length_append, List.length_cons]
        omega
      have closed : token '\x7d' ('\x7d' :: rest) = .ok ((), rest) := takes_token rfl rest
      rw [List.cons_append, joined, opened, bind_eq_ok_iff]
      constructor
      · rintro ⟨known, middle, read, last⟩
        obtain ⟨settled, rfl⟩ := (fieldsByName_eq_ok_iff described each fills bounded).mp read
        rw [bind_of_eq_ok closed] at last
        cases last
        exact ⟨settled, rfl⟩
      · rintro ⟨settled, rfl⟩
        refine ⟨final, '\x7d' :: left, ?_, ?_⟩
        · exact (fieldsByName_eq_ok_iff described each fills bounded).mpr ⟨settled, rfl⟩
        · rw [bind_of_eq_ok closed]
          rfl

theorem readAll_eq_ok_iff {text : String} {value : α} :
    readAll reader text = .ok value ↔
      ∃ rest, reader text.toList = .ok (value, rest) ∧ rest.all isBlank = true := by
  rw [readAll]
  constructor
  · intro read
    split at read
    · cases read
    · next found rest front =>
        split at read
        · next blank =>
            cases read
            exact ⟨rest, front, blank⟩
        · cases read
  · rintro ⟨rest, front, blank⟩
    rw [front]
    exact if_pos blank

/-- A whole text that says an object. -/
theorem readAll_group_eq_ok_iff {inner : Nat} {start : σ} {text : String}
    {layout : (deeper : Nat) → deeper < inner + 1 → Layout σ}
    (described : (layout inner (Nat.lt_succ_self inner)).Means means)
    (said : Says text.toList (.object members)) :
    readAll (group (inner + 1) start layout) text = .ok final ↔
      Settles means [] start members final := by
  rw [readAll_eq_ok_iff]
  generalize text.toList = whole at said
  cases said with
  | @padded front piece back _ frontBlank writes backBlank =>
      rw [skipsGaps_group front _ frontBlank]
      constructor
      · rintro ⟨rest, read, _⟩
        exact ((group_eq_ok_iff described writes).mp read).1
      · intro settled
        exact ⟨back, (group_eq_ok_iff described writes).mpr ⟨settled, rfl⟩, backBlank⟩

end

end FederatedLearning.Json
