import FederatedLearning.Json.Numeral
import FederatedLearning.Proofs.JsonTexts

/-!
# JSON documents and their texts

A document is what a JSON text says.  Many texts say the same: blanks may stand around any
token, a character of a string may be escaped in several ways, and an exponent may be
marked and signed in several ways.  The grammar is a relation between texts and
documents that mentions no reader.  A whole number has one text only, its decimal digits.
-/

namespace FederatedLearning.Json

variable {run piece digits : List Char} {number start : Nat} {char : Char} {text : String}
  {numeral : Numeral} {document : Document}

/-- What a JSON text says.  Of a number the digits are kept as they are written. -/
inductive Document where
  | null
  | flag (answer : Bool)
  | number (numeral : Numeral)
  | string (text : String)
  | array (elements : List Document)
  | object (members : List (String × Document))

/-! ## Strings -/

/-- A hexadecimal digit of either case. -/
def IsHexDigit (digit : Char) (value : Nat) : Prop :=
  value < 16 ∧ (digit = value.digitChar ∨ digit = value.digitChar.toUpper)

/-- Four hexadecimal digits, and the code unit for which they stand. -/
inductive SpellsUnit : List Char → Nat → Prop where
  | digits {first second third fourth : Char} {a b c d : Nat} :
      IsHexDigit first a → IsHexDigit second b → IsHexDigit third c → IsHexDigit fourth d →
      SpellsUnit [first, second, third, fourth] (((a * 16 + b) * 16 + c) * 16 + d)

/-- The characters that a single mark behind a backslash stands for. -/
def shortEscapes : List (Char × Char) :=
  [('"', '"'), ('\\', '\\'), ('/', '/'), ('b', '\x08'), ('f', '\x0c'), ('n', '\n'), ('r', '\r'),
    ('t', '\t')]

/-- The piece stands for the character where it is part of a string. -/
inductive SpellsChar : List Char → Char → Prop where
  | plain {char : Char} :
      char ≠ '"' → char ≠ '\\' → ¬char.toNat < 0x20 → SpellsChar [char] char
  | short {mark char : Char} :
      (mark, char) ∈ shortEscapes → SpellsChar ['\\', mark] char
  | unit {digits : List Char} {char : Char} :
      SpellsUnit digits char.toNat → SpellsChar ('\\' :: 'u' :: digits) char
  /-- A character beyond the basic plane takes a pair of surrogates. -/
  | pair {leading trailing : List Char} {char : Char} :
      0x10000 ≤ char.toNat →
      SpellsUnit leading (0xD800 + (char.toNat - 0x10000) / 0x400) →
      SpellsUnit trailing (0xDC00 + (char.toNat - 0x10000) % 0x400) →
      SpellsChar ('\\' :: 'u' :: (leading ++ '\\' :: 'u' :: trailing)) char

inductive SpellsChars : List Char → List Char → Prop where
  | nil : SpellsChars [] []
  | cons {piece pieces chars : List Char} {char : Char} :
      SpellsChar piece char → SpellsChars pieces chars →
      SpellsChars (piece ++ pieces) (char :: chars)

/-- The piece is a string in its quotes, and the text is what it stands for. -/
inductive Quotes : List Char → String → Prop where
  | quotes {inside : List Char} {text : String} :
      SpellsChars inside text.toList → Quotes ('"' :: (inside ++ ['"'])) text

theorem isHexDigit_digitChar {value : Nat} (small : value < 16) :
    IsHexDigit value.digitChar value :=
  ⟨small, .inl rfl⟩

/-- A character is quoted by a piece that stands for it. -/
theorem spellsChar_quotedChar (char : Char) : SpellsChar (quotedChar char) char := by
  unfold quotedChar
  split
  case h_8 quote slash _ _ _ _ _ =>
    split
    · next control =>
        have zero : IsHexDigit '0' 0 := isHexDigit_digitChar (by decide)
        have high : IsHexDigit (char.toNat / 16).digitChar (char.toNat / 16) :=
          isHexDigit_digitChar (by omega)
        have low : IsHexDigit (char.toNat % 16).digitChar (char.toNat % 16) :=
          isHexDigit_digitChar (by omega)
        have code : ((0 * 16 + 0) * 16 + char.toNat / 16) * 16 + char.toNat % 16 = char.toNat := by
          omega
        apply SpellsChar.unit
        have unit := SpellsUnit.digits zero zero high low
        rwa [code] at unit
    · next printed => exact .plain quote slash printed
  all_goals exact .short (by decide)

theorem spellsChars_flatMap (chars : List Char) : SpellsChars (chars.flatMap quotedChar) chars := by
  induction chars with
  | nil => exact .nil
  | cons char chars induction => exact .cons (spellsChar_quotedChar char) induction

theorem quotes_quoted (text : String) : Quotes (quoted text) text :=
  .quotes (spellsChars_flatMap text.toList)

/-! ## Numbers -/

/-- The digits can stand behind a point or an exponent's mark. -/
structure IsRun (run : List Char) : Prop where
  allDigits : ∀ char ∈ run, char.isDigit
  nonempty : run ≠ []

/-- The digits can stand before the point of a number. -/
structure IsWhole (run : List Char) : Prop where
  allDigits : ∀ char ∈ run, char.isDigit
  nonempty : run ≠ []
  plain : ∀ second rest, run ≠ '0' :: second :: rest

theorem IsWhole.isRun (whole : IsWhole run) : IsRun run :=
  ⟨whole.allDigits, whole.nonempty⟩

theorem IsRun.exists_head (isRun : IsRun run) :
    ∃ head tail, run = head :: tail ∧ head.isDigit := by
  obtain ⟨head, tail, rfl⟩ := List.exists_cons_of_ne_nil isRun.nonempty
  exact ⟨head, tail, rfl, isRun.allDigits head List.mem_cons_self⟩

inductive SpellsFraction : List Char → Option (List Char) → Prop where
  | absent : SpellsFraction [] none
  | digits {run : List Char} : IsRun run → SpellsFraction ('.' :: run) (some run)

/-- The sign of an exponent, and whether the exponent is negative. -/
inductive SpellsSign : List Char → Bool → Prop where
  | absent : SpellsSign [] false
  | plus : SpellsSign ['+'] false
  | minus : SpellsSign ['-'] true

inductive SpellsExponent : List Char → Option (Bool × List Char) → Prop where
  | absent : SpellsExponent [] none
  | digits {mark : Char} {sign run : List Char} {negative : Bool} :
      mark = 'e' ∨ mark = 'E' → SpellsSign sign negative → IsRun run →
      SpellsExponent (mark :: (sign ++ run)) (some (negative, run))

inductive SpellsNumeral : List Char → Numeral → Prop where
  | parts {negative : Bool} {whole point power : List Char} {fraction : Option (List Char)}
      {exponent : Option (Bool × List Char)} :
      IsWhole whole → SpellsFraction point fraction → SpellsExponent power exponent →
      SpellsNumeral ((if negative then ['-'] else []) ++ (whole ++ (point ++ power)))
        ⟨negative, whole, fraction, exponent⟩

/-- The number is zero, whatever its sign and its exponent are. -/
def Numeral.IsZero (numeral : Numeral) : Prop :=
  ∀ digit ∈ numeral.whole ++ numeral.fraction.getD [], digit = '0'

/-- A whole number in decimal digits. -/
def Numeral.ofNat (number : Nat) : Numeral :=
  ⟨false, Nat.toDigits 10 number, none, none⟩

theorem SpellsNumeral.exists_head (spells : SpellsNumeral piece numeral) :
    ∃ head tail, piece = head :: tail ∧ (head = '-' ∨ head.isDigit) := by
  cases spells with
  | @parts negative _ _ _ _ _ whole _ _ =>
      cases negative with
      | true => exact ⟨'-', _, rfl, .inl rfl⟩
      | false =>
          obtain ⟨head, tail, rfl, digit⟩ := whole.isRun.exists_head
          exact ⟨head, _, rfl, .inr digit⟩

theorem isBlank_of_isDigit {char : Char} (digit : char.isDigit) : isBlank char = false := by
  cases blank : isBlank char with
  | false => rfl
  | true =>
      simp only [isBlank, Bool.or_eq_true, beq_iff_eq] at blank
      rcases blank with ((rfl | rfl) | rfl) | rfl <;> exact absurd digit (by decide)

theorem eq_zero_of_toDigits_eq (written : Nat.toDigits 10 number = ['0']) : number = 0 := by
  have value := Nat.ofDigitChars_toDigits (b := 10) (n := number) (by decide) (by decide)
  rw [written] at value
  exact value.symm

/-- Decimal digits have no leading zero. -/
theorem toDigits_plain (number : Nat) :
    ∀ second rest, Nat.toDigits 10 number ≠ '0' :: second :: rest := by
  induction number using Nat.strongRecOn with
  | ind number induction =>
      intro second rest leading
      by_cases single : number < 10
      · rw [Nat.toDigits_of_lt_base single] at leading
        exact absurd (congrArg List.length leading) (by simp)
      · have large : 10 ≤ number := Nat.le_of_not_lt single
        have smaller : number / 10 < number := Nat.div_lt_self (by omega) (by decide)
        rw [Nat.toDigits_of_base_le (by decide) large] at leading
        cases front : Nat.toDigits 10 (number / 10) with
        | nil => exact absurd front Nat.toDigits_ne_nil
        | cons first others =>
            rw [front] at leading
            obtain rfl : first = '0' := (List.cons.inj leading).1
            cases others with
            | nil =>
                have zero := eq_zero_of_toDigits_eq front
                omega
            | cons next last => exact absurd front (induction _ smaller next last)

theorem isWhole_toDigits (number : Nat) : IsWhole (Nat.toDigits 10 number) where
  allDigits _ inside := Nat.isDigit_of_mem_toDigits (by decide) (by decide) inside
  nonempty := Nat.toDigits_ne_nil
  plain := toDigits_plain number

theorem digitChar_of_isDigit {digit : Char} (isDigit : digit.isDigit) :
    digit.toNat - '0'.toNat < 10 ∧ (digit.toNat - '0'.toNat).digitChar = digit := by
  obtain ⟨least, most⟩ := Char.isDigit_iff_toNat.mp isDigit
  have zero : '0'.toNat = 48 := rfl
  have nine : '9'.toNat = 57 := rfl
  have small : digit.toNat - '0'.toNat < 10 := by omega
  refine ⟨small, Char.toNat_inj.mp ?_⟩
  rw [Nat.toNat_digitChar_of_lt_ten small]
  omega

/-- More digits behind those of a positive number. -/
theorem toDigits_append (positive : 0 < start) (allDigits : ∀ char ∈ run, char.isDigit) :
    Nat.toDigits 10 start ++ run = Nat.toDigits 10 (Nat.ofDigitChars 10 run start) := by
  induction run generalizing start with
  | nil => simp
  | cons digit run induction =>
      obtain ⟨small, written⟩ := digitChar_of_isDigit (allDigits digit List.mem_cons_self)
      have longer : Nat.toDigits 10 start ++ [digit] =
          Nat.toDigits 10 (10 * start + (digit.toNat - '0'.toNat)) := by
        rw [← Nat.toDigits_append_toDigits (by decide) positive small,
          Nat.toDigits_of_lt_base small, written]
      rw [Nat.ofDigitChars_cons, ← induction (by omega) fun char inside =>
        allDigits char (List.mem_cons_of_mem digit inside), ← longer, List.append_assoc]
      rfl

/-- A whole number has no other digits than its own. -/
theorem IsWhole.toDigits_ofDigitChars (whole : IsWhole run) :
    Nat.toDigits 10 (Nat.ofDigitChars 10 run 0) = run := by
  obtain ⟨head, tail, rfl, isDigit⟩ := whole.isRun.exists_head
  obtain ⟨small, written⟩ := digitChar_of_isDigit isDigit
  have digits : Nat.toDigits 10 (head.toNat - '0'.toNat) = [head] := by
    rw [Nat.toDigits_of_lt_base small, written]
  rw [Nat.ofDigitChars_cons, Nat.mul_zero, Nat.zero_add]
  rcases Nat.eq_zero_or_pos (head.toNat - '0'.toNat) with zero | positive
  · -- Nothing stands behind a leading zero.
    obtain rfl : head = '0' := by
      rw [zero] at written
      exact written.symm
    cases tail with
    | nil => exact digits
    | cons second rest => exact absurd rfl (whole.plain second rest)
  · rw [← toDigits_append positive fun char inside =>
      whole.allDigits char (List.mem_cons_of_mem head inside), digits]
    rfl

theorem Numeral.ofNat_inj {number number' : Nat} (same : ofNat number = ofNat number') :
    number = number' := by
  have digits : Nat.toDigits 10 number = Nat.toDigits 10 number' :=
    congrArg Numeral.whole same
  have value := congrArg (fun run => Nat.ofDigitChars 10 run 0) digits
  simpa using value

theorem Numeral.eq_zero_of_isZero (zero : (ofNat number).IsZero) : number = 0 := by
  have digits : Nat.toDigits 10 number =
      List.replicate (Nat.toDigits 10 number).length '0' := by
    apply List.eq_replicate_of_mem
    intro digit inside
    exact zero digit (List.mem_append_left _ inside)
  have value := Nat.ofDigitChars_ten_toDigits (n := number)
  rw [digits, Nat.ofDigitChars_replicate_zero, Nat.mul_zero] at value
  exact value.symm

theorem spellsNumeral_ofNat (number : Nat) :
    SpellsNumeral (Nat.toDigits 10 number) (Numeral.ofNat number) := by
  have spells := @SpellsNumeral.parts false _ _ _ _ _ (isWhole_toDigits number) .absent .absent
  simpa [Numeral.ofNat] using spells

/-! ## Documents -/

/-- The text between the brackets of an array or an object: its pieces with commas between
them, or blanks where it has none. -/
inductive Fills : List (List Char) → List Char → Prop where
  | blanks {gap : List Char} : gap.all isBlank = true → Fills [] gap
  | pieces (piece : List Char) (pieces : List (List Char)) :
      Fills (piece :: pieces) (piece ++ eachAfterComma pieces)

mutual

/-- The text says the document, from its first token to its last. -/
inductive Writes : List Char → Document → Prop where
  | null : Writes "null".toList .null
  | flag (answer : Bool) : Writes (flagText answer) (.flag answer)
  | number {piece : List Char} {numeral : Numeral} :
      SpellsNumeral piece numeral → Writes piece (.number numeral)
  | string {piece : List Char} {text : String} : Quotes piece text → Writes piece (.string text)
  | array {pieces : List (List Char)} {inside : List Char} {elements : List Document} :
      List.Forall₂ Says pieces elements → Fills pieces inside →
      Writes ('[' :: (inside ++ [']'])) (.array elements)
  | object {pieces : List (List Char)} {inside : List Char}
      {members : List (String × Document)} :
      List.Forall₂ SaysMember pieces members → Fills pieces inside →
      Writes ('\x7b' :: (inside ++ ['\x7d'])) (.object members)

/-- The text says the document, with blanks on both sides. -/
inductive Says : List Char → Document → Prop where
  | padded {front piece back : List Char} {document : Document} :
      front.all isBlank = true → Writes piece document → back.all isBlank = true →
      Says (front ++ (piece ++ back)) document

/-- The text says the key and the value of a member, with blanks around both. -/
inductive SaysMember : List Char → String × Document → Prop where
  | member {front name back piece : List Char} {key : String} {document : Document} :
      front.all isBlank = true → Quotes name key → back.all isBlank = true →
      Says piece document →
      SaysMember (front ++ (name ++ (back ++ ':' :: piece))) (key, document)

end

/-- A whole number as a document. -/
def Document.whole (number : Nat) : Document :=
  .number (.ofNat number)

theorem writes_whole (number : Nat) : Writes (Nat.toDigits 10 number) (.whole number) :=
  .number (spellsNumeral_ofNat number)

/-- What the first character of a text tells of the document: whether it is `null`, and
whether it is a number. -/
structure Begins (head : Char) (document : Document) : Prop where
  visible : isBlank head = false
  notNull : document ≠ .null → head ≠ 'n'
  notNumber : (∀ numeral, document ≠ .number numeral) → (head == '-' || head.isDigit) = false

theorem begins_number {head : Char} (begins : head = '-' ∨ head.isDigit) (numeral : Numeral) :
    Begins head (.number numeral) where
  visible := by
    rcases begins with rfl | digit
    · rfl
    · exact isBlank_of_isDigit digit
  notNull _ := by
    rintro rfl
    exact absurd begins (by decide)
  notNumber other := absurd rfl (other numeral)

theorem Writes.begins (writes : Writes piece document) :
    ∃ head tail, piece = head :: tail ∧ Begins head document := by
  cases writes with
  | null => exact ⟨'n', _, rfl, rfl, fun other => absurd rfl other, fun _ => by decide⟩
  | flag answer =>
      cases answer with
      | false => exact ⟨'f', _, rfl, rfl, fun _ => by decide, fun _ => by decide⟩
      | true => exact ⟨'t', _, rfl, rfl, fun _ => by decide, fun _ => by decide⟩
  | number spells =>
      obtain ⟨head, tail, rfl, begins⟩ := spells.exists_head
      exact ⟨head, tail, rfl, begins_number begins _⟩
  | string quotes =>
      obtain ⟨_⟩ := quotes
      exact ⟨'"', _, rfl, rfl, fun _ => by decide, fun _ => by decide⟩
  | array each fills => exact ⟨'[', _, rfl, rfl, fun _ => by decide, fun _ => by decide⟩
  | object each fills => exact ⟨'\x7b', _, rfl, rfl, fun _ => by decide, fun _ => by decide⟩

end FederatedLearning.Json
