import FederatedLearning.Json.Form
import FederatedLearning.Proofs.JsonDocuments

/-!
# What readers take

A reader that is given a text takes a piece from its front and leaves the rest.  What is
said here of the readers for words and strings holds whatever follows the piece, so that
readers are put together as the texts they take are.  A string is read from every text
that stands for it, and so from the text that it is quoted as.
-/

namespace FederatedLearning.Json

variable {α β : Type} {reader : Reader α} {next : α → Reader β} {piece piece' : List Char}
  {rest text : List Char} {value : α} {value' : β} {delimiters : List Char} {head : Char}

theorem get_apply (text : List Char) : (get : Reader (List Char)) text = .ok (text, text) :=
  rfl

theorem bind_apply (reader : Reader α) (next : α → Reader β) (text : List Char) :
    (reader >>= next) text = (reader text >>= fun result => next result.1 result.2) :=
  rfl

theorem bind_of_eq_ok (read : reader text = .ok (value, rest)) :
    (reader >>= next) text = next value rest := by
  rw [bind_apply, read]
  rfl

theorem bind_eq_ok_iff :
    (reader >>= next) text = .ok (value', rest) ↔
      ∃ value middle,
        reader text = .ok (value, middle) ∧ next value middle = .ok (value', rest) := by
  rw [bind_apply]
  cases reader text with
  | error fault => exact ⟨nofun, nofun⟩
  | ok result =>
      constructor
      · intro read
        exact ⟨result.1, result.2, rfl, read⟩
      · rintro ⟨value, middle, same, read⟩
        cases same
        exact read

/-- The reader takes the piece, whatever follows it, and yields the value. -/
def Takes (reader : Reader α) (piece : List Char) (value : α) : Prop :=
  ∀ rest, reader (piece ++ rest) = .ok (value, rest)

/-- The reader takes the piece where one of the delimiters follows, which it leaves. -/
def TakesBefore (delimiters : List Char) (reader : Reader α) (piece : List Char)
    (value : α) : Prop :=
  ∀ delimiter ∈ delimiters, ∀ rest,
    reader (piece ++ delimiter :: rest) = .ok (value, delimiter :: rest)

theorem Takes.before (takes : Takes reader piece value) (delimiters : List Char) :
    TakesBefore delimiters reader piece value :=
  fun delimiter _ rest => takes (delimiter :: rest)

theorem takes_pure (value : α) : Takes (pure value) [] value :=
  fun _ => rfl

theorem Takes.bind (takes : Takes reader piece value)
    (takesNext : Takes (next value) piece' value') :
    Takes (reader >>= next) (piece ++ piece') value' := by
  intro rest
  rw [List.append_assoc, bind_of_eq_ok (takes (piece' ++ rest))]
  exact takesNext rest

/-- What comes next need not take anything. -/
theorem Takes.bind_nil (takes : Takes reader piece value)
    (takesNext : Takes (next value) [] value') : Takes (reader >>= next) piece value' := by
  rw [← List.append_nil piece]
  exact takes.bind takesNext

theorem Takes.map (takes : Takes reader piece value) (function : α → β) :
    Takes (reader >>= fun result => pure (function result)) piece (function value) :=
  takes.bind_nil (takes_pure (function value))

theorem TakesBefore.bind {delimiter : Char} (takes : TakesBefore [delimiter] reader piece value)
    (takesNext : Takes (next value) (delimiter :: piece') value') :
    Takes (reader >>= next) (piece ++ delimiter :: piece') value' := by
  intro rest
  rw [List.append_assoc, List.cons_append,
    bind_of_eq_ok (takes delimiter (List.mem_singleton_self _) (piece' ++ rest))]
  exact takesNext rest

theorem TakesBefore.map (takes : TakesBefore delimiters reader piece value) (function : α → β) :
    TakesBefore delimiters (reader >>= fun result => pure (function result)) piece
      (function value) := by
  intro delimiter inside rest
  rw [bind_of_eq_ok (takes delimiter inside rest)]
  rfl

/-- A reader that looks at the whole text sees what it is to take at least. -/
theorem takes_of_get {next : List Char → Reader β}
    (takes : ∀ text, piece.length ≤ text.length → Takes (next text) piece value') :
    Takes (get >>= next) piece value' := by
  intro rest
  rw [bind_of_eq_ok (get_apply _)]
  exact takes (piece ++ rest) (by simp) rest

theorem readAll_of_takes {text : String} (takes : Takes reader text.toList value) :
    readAll reader text = .ok value := by
  have read := takes []
  rw [List.append_nil] at read
  rw [readAll, read]
  rfl

/-- A character that is not blank is shown and left. -/
theorem next?_of_visible (visible : isBlank head = false) :
    next? (head :: text) = .ok (some head, head :: text) := by
  simp [next?, visible]

theorem takes_of_next {next : Option Char → Reader β} (visible : isBlank head = false)
    (takes : Takes (next (some head)) (head :: piece) value') :
    Takes (next? >>= next) (head :: piece) value' := by
  intro rest
  rw [List.cons_append, bind_of_eq_ok (next?_of_visible visible)]
  exact takes rest

theorem takes_advance (char : Char) : Takes advance [char] () :=
  fun _ => rfl

theorem takes_token {char : Char} (visible : isBlank char = false) :
    Takes (token char) [char] () := by
  apply takes_of_next visible
  simp only [BEq.rfl, if_true]
  exact takes_advance char

theorem takes_literal (word : List Char) : Takes (literal word) word () := by
  induction word with
  | nil => exact takes_pure ()
  | cons char word induction =>
      intro rest
      rw [List.cons_append, literal, bind_of_eq_ok (get_apply _)]
      simp only [BEq.rfl, if_true]
      exact induction rest

theorem takes_flag (answer : Bool) : Takes flag (flagText answer) answer := by
  cases answer with
  | true => exact takes_of_next rfl ((takes_literal "true".toList).map fun _ => true)
  | false => exact takes_of_next rfl ((takes_literal "false".toList).map fun _ => false)

theorem takes_optional_none : Takes (optional reader) "null".toList none :=
  takes_of_next rfl ((takes_literal "null".toList).map fun _ => none)

/-- What does not begin as `null` does is left to the reader. -/
theorem optional_of_visible (visible : isBlank head = false) (notNull : head ≠ 'n') :
    optional reader (head :: text) =
      (reader >>= fun value => pure (some value)) (head :: text) := by
  rw [optional, bind_of_eq_ok (next?_of_visible visible)]
  generalize shown : some head = next
  split
  · exact absurd (Option.some.inj shown) notNull
  · rfl

/-- The text of an escape, behind its backslash, stands for the character. -/
def Escapes (code : List Char) (char : Char) : Prop :=
  ∀ text, ∃ bound, escape (code ++ text) = .ok (char, ⟨text, bound⟩)

theorem escapes_of_short {marker char : Char} (short : shortEscape? marker = some char) :
    Escapes [marker] char := by
  have notLong : marker ≠ 'u' := by
    rintro rfl
    cases short
  intro text
  refine ⟨Nat.le_succ _, ?_⟩
  simp only [List.singleton_append, escape, short]

theorem hexValue?_of_digit : ∀ value < 16,
    hexValue? value.digitChar = some value ∧ hexValue? value.digitChar.toUpper = some value := by
  decide

theorem IsHexDigit.hexValue?_eq {digit : Char} {value : Nat} (isHexDigit : IsHexDigit digit value) :
    hexValue? digit = some value := by
  obtain ⟨small, rfl | rfl⟩ := isHexDigit
  · exact (hexValue?_of_digit value small).1
  · exact (hexValue?_of_digit value small).2

theorem SpellsUnit.hexUnit_eq {digits whole : List Char} {unit : Nat}
    (spells : SpellsUnit digits unit) (rest : List Char) (begun : whole = digits ++ rest) :
    ∃ bound, hexUnit whole = .ok (unit, ⟨rest, bound⟩) := by
  subst begun
  cases spells with
  | digits first second third fourth =>
      refine ⟨by simp; omega, ?_⟩
      simp [hexUnit, hexUnit?, first.hexValue?_eq, second.hexValue?_eq, third.hexValue?_eq,
        fourth.hexValue?_eq]

/-- No character is a surrogate. -/
theorem not_surrogate (char : Char) :
    isTrailing char.toNat = false ∧ isLeading char.toNat = false := by
  have valid : char.toNat < 0xD800 ∨ 0xDFFF < char.toNat ∧ char.toNat < 0x110000 := char.valid
  constructor <;> simp [isTrailing, isLeading] <;> omega

theorem escapes_of_unit {digits : List Char} {char : Char}
    (spells : SpellsUnit digits char.toNat) : Escapes ('u' :: digits) char := by
  intro text
  obtain ⟨bound, read⟩ := spells.hexUnit_eq text rfl
  obtain ⟨notTrailing, notLeading⟩ := not_surrogate char
  refine ⟨by simp only [List.cons_append, List.length_cons]; omega, ?_⟩
  simp [escape, read, notTrailing, notLeading, Char.ofNat_toNat]

theorem escapes_of_pair {leading trailing : List Char} {char : Char}
    (large : 0x10000 ≤ char.toNat)
    (spellsLeading : SpellsUnit leading (0xD800 + (char.toNat - 0x10000) / 0x400))
    (spellsTrailing : SpellsUnit trailing (0xDC00 + (char.toNat - 0x10000) % 0x400)) :
    Escapes ('u' :: (leading ++ '\\' :: 'u' :: trailing)) char := by
  intro text
  obtain ⟨bound, readLeading⟩ := spellsLeading.hexUnit_eq _
    (List.append_assoc leading ('\\' :: 'u' :: trailing) text)
  obtain ⟨bound', readTrailing⟩ := spellsTrailing.hexUnit_eq text rfl
  have valid : char.toNat < 0xD800 ∨ 0xDFFF < char.toNat ∧ char.toNat < 0x110000 := char.valid
  have notTrailing : isTrailing (0xD800 + (char.toNat - 0x10000) / 0x400) = false := by
    simp [isTrailing]; omega
  have isLeading : isLeading (0xD800 + (char.toNat - 0x10000) / 0x400) = true := by
    simp [Json.isLeading]; omega
  have isTrailing : isTrailing (0xDC00 + (char.toNat - 0x10000) % 0x400) = true := by
    simp [Json.isTrailing]; omega
  have paired : pairedPoint (0xD800 + (char.toNat - 0x10000) / 0x400)
      (0xDC00 + (char.toNat - 0x10000) % 0x400) = char.toNat := by
    simp only [pairedPoint]; omega
  refine ⟨by simp; omega, ?_⟩
  simp [escape, trailingUnit, readLeading, readTrailing, notTrailing, isLeading, isTrailing, paired,
    Char.ofNat_toNat]

theorem shortEscape?_of_mem : ∀ entry ∈ shortEscapes, shortEscape? entry.1 = some entry.2 := by
  decide

/-- A piece stands for its character by an escape, or is the character itself. -/
theorem SpellsChar.escapes {char : Char} (spells : SpellsChar piece char) :
    (∃ code, piece = '\\' :: code ∧ Escapes code char) ∨
      piece = [char] ∧ char ≠ '"' ∧ char ≠ '\\' ∧ ¬char.toNat < 0x20 := by
  cases spells with
  | plain quote slash printed => exact .inr ⟨rfl, quote, slash, printed⟩
  | short listed => exact .inl ⟨_, rfl, escapes_of_short (shortEscape?_of_mem _ listed)⟩
  | unit spells => exact .inl ⟨_, rfl, escapes_of_unit spells⟩
  | pair large leading trailing => exact .inl ⟨_, rfl, escapes_of_pair large leading trailing⟩

theorem SpellsChar.stringChars_eq {char : Char} {chars : List Char} (spells : SpellsChar piece char)
    (read : stringChars text = .ok (chars, rest)) :
    stringChars (piece ++ text) = .ok (char :: chars, rest) := by
  rcases spells.escapes with ⟨code, rfl, escapes⟩ | ⟨rfl, notQuote, notSlash, printed⟩
  · obtain ⟨bound, escaped⟩ := escapes text
    rw [List.cons_append, stringChars, escaped]
    simp only [read]
  · rw [List.singleton_append, stringChars]
    · simp only [printed, if_false, read]
    · exact notQuote
    · exact notSlash

theorem SpellsChars.stringChars_eq {chars : List Char} (spells : SpellsChars piece chars)
    (rest : List Char) : stringChars (piece ++ '"' :: rest) = .ok (chars, rest) := by
  induction spells with
  | nil => rw [List.nil_append, stringChars]
  | cons first later induction =>
      rw [List.append_assoc]
      exact first.stringChars_eq induction

theorem SpellsChars.takes_stringBody {text : String} (spells : SpellsChars piece text.toList) :
    Takes stringBody (piece ++ ['"']) text := by
  intro rest
  simp only [stringBody, List.append_assoc, List.singleton_append, spells.stringChars_eq,
    String.ofList_toList]

theorem Quotes.takes_string {text : String} (quotes : Quotes piece text) :
    Takes string piece text := by
  obtain ⟨spells⟩ := quotes
  apply takes_of_next rfl
  exact (takes_advance '"').bind spells.takes_stringBody

theorem takes_string (text : String) : Takes string (quoted text) text :=
  (quotes_quoted text).takes_string

theorem takes_word {meaning? : String → Option α} {name : String} {meaning : α}
    (means : meaning? name = some meaning) (depth : Nat) :
    Takes (word depth meaning?) (quoted name) meaning := by
  apply takes_of_next rfl
  apply (takes_advance '"').bind
  apply (spellsChars_flatMap name.toList).takes_stringBody.bind_nil
  rw [means]
  exact takes_pure meaning

end FederatedLearning.Json
