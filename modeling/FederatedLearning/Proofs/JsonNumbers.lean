import FederatedLearning.Proofs.JsonReading

/-!
# Reading numbers

A number is scanned from every text that spells it, wherever something follows that no
number goes on with.  A whole number below 2^64 is read from its decimal digits.
-/

namespace FederatedLearning.Json

variable {rest run piece point power delimiters : List Char} {cut : Fault} {number : Nat}
  {delimiter : Char} {scanned : Numeral}

/-- The character cannot go on with a number that has been read up to it. -/
structure EndsNumeral (char : Char) : Prop where
  notDigit : char.isDigit = false
  notPoint : char ≠ '.'
  notSmall : char ≠ 'e'
  notLarge : char ≠ 'E'

/-- A comma and a closing bracket end the number before them. -/
theorem endsNumeral_of_mem {closing : Char} (closes : closing = ']' ∨ closing = '\x7d')
    (inside : delimiter ∈ [',', closing]) : EndsNumeral delimiter := by
  simp only [List.mem_cons, List.not_mem_nil, or_false] at inside
  rcases inside with rfl | rfl
  · constructor <;> decide
  · rcases closes with rfl | rfl <;> constructor <;> decide

theorem digits_eq (allDigits : ∀ char ∈ run, char.isDigit)
    (stops : ∀ head ∈ rest.head?, head.isDigit = false) :
    digits (run ++ rest) = .ok (run, rest) := by
  have noneTaken : rest.takeWhile Char.isDigit = [] ∧ rest.dropWhile Char.isDigit = rest := by
    cases rest with
    | nil => exact ⟨rfl, rfl⟩
    | cons head tail => simp [stops head rfl]
  rw [digits, List.takeWhile_append_of_pos allDigits, List.dropWhile_append_of_pos allDigits,
    noneTaken.1, noneTaken.2, List.append_nil]

theorem IsRun.someDigits_eq (isRun : IsRun run) (cut : Fault)
    (stops : ∀ head ∈ rest.head?, head.isDigit = false) :
    someDigits cut (run ++ rest) = .ok (run, rest) := by
  have read := digits_eq isRun.allDigits stops
  obtain ⟨head, tail, rfl, digit⟩ := isRun.exists_head
  have opened : someDigits cut (head :: tail ++ rest) =
      (if head.isDigit then digits else throw Fault.malformed) (head :: tail ++ rest) := rfl
  rwa [opened, if_pos digit]

theorem IsWhole.wholeDigits_eq (whole : IsWhole run)
    (stops : ∀ head ∈ rest.head?, head.isDigit = false) :
    wholeDigits cut (run ++ rest) = .ok (run, rest) := by
  rw [wholeDigits, bind_of_eq_ok (whole.isRun.someDigits_eq cut stops)]
  split
  · next second tail => exact absurd rfl (whole.plain second tail)
  · rfl

theorem SpellsFraction.fractionDigits_eq {fraction : Option (List Char)}
    (spells : SpellsFraction point fraction)
    (stops : ∀ head ∈ rest.head?, head.isDigit = false ∧ head ≠ '.') :
    fractionDigits cut (point ++ rest) = .ok (fraction, rest) := by
  cases spells with
  | absent =>
      rw [List.nil_append, fractionDigits, bind_of_eq_ok (get_apply rest)]
      split
      · exact absurd rfl (stops '.' rfl).2
      · rfl
  | @digits run isRun =>
      have read := isRun.someDigits_eq cut fun head inside => (stops head inside).1
      have opened : fractionDigits cut ('.' :: run ++ rest) =
          (someDigits cut >>= fun run => pure (some run)) (run ++ rest) := rfl
      rw [opened, bind_of_eq_ok read]
      rfl

/-- The digits of an exponent are read behind its mark and its sign. -/
theorem exponentDigits_of_marked {mark : Char} {sign : List Char} {negative : Bool}
    (marked : mark = 'e' ∨ mark = 'E') (signed : SpellsSign sign negative) (isRun : IsRun run) :
    exponentDigits cut (mark :: (sign ++ (run ++ rest))) =
      (someDigits cut >>= fun run => pure (some (negative, run))) (run ++ rest) := by
  cases signed with
  | plus => rcases marked with rfl | rfl <;> rfl
  | minus => rcases marked with rfl | rfl <;> rfl
  | absent =>
      obtain ⟨first, others, rfl, digit⟩ := isRun.exists_head
      have notMinus : first ≠ '-' := by
        rintro rfl
        exact absurd digit (by decide)
      have notPlus : first ≠ '+' := by
        rintro rfl
        exact absurd digit (by decide)
      rw [exponentDigits, bind_of_eq_ok (get_apply _), List.nil_append, List.cons_append]
      rcases marked with rfl | rfl
      all_goals
        simp only [List.cons.injEq, notMinus, notPlus, false_and, imp_self, implies_true]
        rfl

theorem SpellsExponent.exponentDigits_eq {exponent : Option (Bool × List Char)}
    (spells : SpellsExponent power exponent)
    (stops : ∀ head ∈ rest.head?, head.isDigit = false ∧ head ≠ 'e' ∧ head ≠ 'E') :
    exponentDigits cut (power ++ rest) = .ok (exponent, rest) := by
  cases spells with
  | absent =>
      rw [List.nil_append, exponentDigits, bind_of_eq_ok (get_apply rest)]
      split
      · exact absurd rfl (stops 'e' rfl).2.1
      · exact absurd rfl (stops 'E' rfl).2.2
      · rfl
  | @digits mark sign run negative marked signed isRun =>
      have read := isRun.someDigits_eq cut fun head inside => (stops head inside).1
      rw [List.cons_append, List.append_assoc, exponentDigits_of_marked marked signed isRun,
        bind_of_eq_ok read]
      rfl

/-- What stands behind the digits before the point does not go on with them. -/
theorem SpellsExponent.stops {exponent : Option (Bool × List Char)}
    (spells : SpellsExponent power exponent) (ends : EndsNumeral delimiter) (rest : List Char) :
    ∀ head ∈ (power ++ delimiter :: rest).head?, head.isDigit = false ∧ head ≠ '.' := by
  intro head inside
  cases spells with
  | absent =>
      obtain rfl : delimiter = head := Option.some.inj inside
      exact ⟨ends.notDigit, ends.notPoint⟩
  | @digits mark _ _ _ marked _ _ =>
      obtain rfl : mark = head := Option.some.inj inside
      rcases marked with rfl | rfl <;> decide

theorem SpellsFraction.stops {fraction : Option (List Char)}
    (spells : SpellsFraction point fraction)
    (stops : ∀ head ∈ rest.head?, head.isDigit = false ∧ head ≠ '.') :
    ∀ head ∈ (point ++ rest).head?, head.isDigit = false := by
  intro head inside
  cases spells with
  | absent => exact (stops head inside).1
  | digits _ =>
      obtain rfl : '.' = head := Option.some.inj inside
      rfl

theorem scanNumeral_of_unsigned (unsigned : ∀ tail, rest ≠ '-' :: tail) :
    scanNumeral cut rest =
      (do
        let whole ← wholeDigits cut
        let fraction ← fractionDigits cut
        return ⟨false, whole, fraction, ← exponentDigits cut⟩ : Reader Numeral) rest := by
  rw [scanNumeral, bind_of_eq_ok (get_apply rest)]
  split
  · next tail => exact absurd rfl (unsigned tail)
  · rfl

/-- What is read of a number behind its sign. -/
theorem scan_magnitude {whole : List Char} {fraction : Option (List Char)}
    {exponent : Option (Bool × List Char)} (cut : Fault) (negative : Bool)
    (isWhole : IsWhole whole) (spellsFraction : SpellsFraction point fraction)
    (spellsExponent : SpellsExponent power exponent) (ends : EndsNumeral delimiter)
    (rest : List Char) :
    (do
      let whole ← wholeDigits cut
      let fraction ← fractionDigits cut
      let exponent ← exponentDigits cut
      return ⟨negative, whole, fraction, exponent⟩ : Reader Numeral)
        (whole ++ (point ++ (power ++ delimiter :: rest))) =
      .ok (⟨negative, whole, fraction, exponent⟩, delimiter :: rest) := by
  have stops := spellsExponent.stops ends rest
  have last : ∀ head ∈ (delimiter :: rest).head?,
      head.isDigit = false ∧ head ≠ 'e' ∧ head ≠ 'E' := by
    intro head inside
    obtain rfl : delimiter = head := Option.some.inj inside
    exact ⟨ends.notDigit, ends.notSmall, ends.notLarge⟩
  rw [bind_of_eq_ok (isWhole.wholeDigits_eq (spellsFraction.stops stops)),
    bind_of_eq_ok (spellsFraction.fractionDigits_eq stops),
    bind_of_eq_ok (spellsExponent.exponentDigits_eq last)]
  rfl

theorem SpellsNumeral.scanNumeral_eq (spells : SpellsNumeral piece scanned)
    (ends : EndsNumeral delimiter) (rest : List Char) :
    scanNumeral cut (piece ++ delimiter :: rest) = .ok (scanned, delimiter :: rest) := by
  cases spells with
  | @parts negative whole point power fraction exponent isWhole spellsFraction spellsExponent =>
      have read := scan_magnitude cut negative isWhole spellsFraction spellsExponent ends rest
      simp only [List.append_assoc]
      cases negative with
      | true => exact read
      | false =>
          obtain ⟨head, tail, rfl, digit⟩ := isWhole.isRun.exists_head
          have unsigned : head ≠ '-' := by
            rintro rfl
            exact absurd digit (by decide)
          exact (scanNumeral_of_unsigned fun _ same => unsigned (List.cons.inj same).1).trans read

theorem SpellsNumeral.numeral_eq_ok_iff (spells : SpellsNumeral piece scanned)
    (ends : EndsNumeral delimiter) (rest : List Char) (result : Numeral × List Char) :
    numeral (piece ++ delimiter :: rest) = .ok result ↔
      scanned.isHuge = false ∧ result = (scanned, delimiter :: rest) := by
  rw [numeral, bind_of_eq_ok (spells.scanNumeral_eq ends rest)]
  cases scanned.isHuge with
  | true => exact ⟨nofun, nofun⟩
  | false =>
      constructor
      · intro read
        exact ⟨rfl, (Except.ok.inj read).symm⟩
      · rintro ⟨_, rfl⟩
        rfl

theorem SpellsNumeral.integer_eq_ok_iff (spells : SpellsNumeral piece scanned)
    (ends : EndsNumeral delimiter) {value : Int} {left : List Char} :
    integer (piece ++ delimiter :: rest) = .ok (value, left) ↔
      (scanned.isHuge = false ∧ scanned.integer? = some value) ∧ left = delimiter :: rest := by
  have read (result : Numeral × List Char) := spells.numeral_eq_ok_iff ends rest result
  obtain ⟨head, tail, rfl, begins⟩ := spells.exists_head
  have isNumeral : (head == '-' || head.isDigit) = true := by
    rcases begins with rfl | digit
    · rfl
    · simp [digit]
  have visible := (begins_number begins scanned).visible
  rw [integer, List.cons_append, bind_of_eq_ok (next?_of_visible visible)]
  simp only [isNumeral, if_true]
  rw [bind_eq_ok_iff]
  constructor
  · rintro ⟨result, middle, scan, answer⟩
    obtain ⟨notHuge, same⟩ := (read _).mp scan
    cases same
    cases whole : scanned.integer? with
    | none =>
        rw [whole] at answer
        cases answer
    | some number =>
        rw [whole] at answer
        cases answer
        exact ⟨⟨notHuge, rfl⟩, rfl⟩
  · rintro ⟨⟨notHuge, whole⟩, rfl⟩
    refine ⟨scanned, delimiter :: rest, (read _).mpr ⟨notHuge, rfl⟩, ?_⟩
    rw [whole]
    rfl

theorem le_ofDigitChars (run : List Char) (start : Nat) :
    start ≤ Nat.ofDigitChars 10 run start := by
  induction run generalizing start with
  | nil => exact Nat.le_refl start
  | cons digit run induction =>
      rw [Nat.ofDigitChars_cons]
      exact Nat.le_trans (by omega) (induction _)

/-- No digit is dropped from a number that fits a word of 64 bits. -/
theorem Numeral.extend_eq {start : Nat} (fits : Nat.ofDigitChars 10 run start < UInt64.size) :
    extend start run = (Nat.ofDigitChars 10 run start, 0) := by
  induction run generalizing start with
  | nil => rfl
  | cons digit run induction =>
      have longer : start * 10 + digitValue digit = 10 * start + (digit.toNat - '0'.toNat) := by
        rw [digitValue, Nat.mul_comm]
      rw [Nat.ofDigitChars_cons, ← longer] at fits
      have fitsSoFar : start * 10 + digitValue digit < UInt64.size :=
        Nat.lt_of_le_of_lt (le_ofDigitChars run _) fits
      rw [extend, if_pos fitsSoFar, induction fits, longer, Nat.ofDigitChars_cons]

theorem Numeral.isHuge_ofNat (fits : number < UInt64.size) : (ofNat number).isHuge = false := by
  rw [← Nat.ofDigitChars_ten_toDigits (n := number)] at fits
  simp [isHuge, ofNat, extend_eq fits, extend, writtenExponent]

theorem Numeral.integer?_ofNat (number : Nat) : (ofNat number).integer? = some (number : Int) := by
  simp [integer?, ofNat]

/-- Only its decimal digits denote a whole number. -/
theorem SpellsNumeral.eq_ofNat (spells : SpellsNumeral piece scanned)
    (denotes : scanned.integer? = some (number : Int)) : scanned = .ofNat number := by
  cases spells with
  | @parts negative whole _ _ _ _ isWhole fraction exponent =>
      cases fraction with
      | digits _ => cases denotes
      | absent =>
          cases exponent with
          | digits _ _ _ => cases denotes
          | absent =>
              cases negative with
              | true =>
                  simp only [Numeral.integer?, if_true] at denotes
                  split at denotes
                  · cases denotes
                  · next notZero =>
                      have value := Option.some.inj denotes
                      rw [beq_iff_eq] at notZero
                      omega
              | false =>
                  have value : Nat.ofDigitChars 10 whole 0 = number :=
                    Int.ofNat_inj.mp (Option.some.inj denotes)
                  rw [Numeral.ofNat, ← value, isWhole.toDigits_ofDigitChars]

/-- A whole number is read from its decimal digits and from nothing else. -/
theorem SpellsNumeral.integer_eq_ofNat_iff (spells : SpellsNumeral piece scanned)
    (ends : EndsNumeral delimiter) (fits : number < UInt64.size) {left : List Char} :
    integer (piece ++ delimiter :: rest) = .ok ((number : Int), left) ↔
      scanned = .ofNat number ∧ left = delimiter :: rest := by
  rw [spells.integer_eq_ok_iff ends]
  apply and_congr_left'
  constructor
  · rintro ⟨_, denotes⟩
    exact spells.eq_ofNat denotes
  · rintro rfl
    exact ⟨Numeral.isHuge_ofNat fits, Numeral.integer?_ofNat number⟩

theorem takes_integer (fits : number < UInt64.size)
    (ends : ∀ delimiter ∈ delimiters, EndsNumeral delimiter) :
    TakesBefore delimiters integer (Nat.toDigits 10 number) number := by
  intro delimiter inside rest
  exact ((spellsNumeral_ofNat number).integer_eq_ofNat_iff (ends delimiter inside) fits).mpr
    ⟨rfl, rfl⟩

theorem natural64_eq_ok_iff {text left : List Char} :
    natural64 text = .ok (number, left) ↔
      integer text = .ok ((number : Int), left) ∧ number < UInt64.size := by
  rw [natural64, bind_eq_ok_iff]
  constructor
  · rintro ⟨value, middle, read, checked⟩
    cases value with
    | negSucc _ => cases checked
    | ofNat value =>
        dsimp only at checked
        split at checked
        · next fits =>
            cases checked
            exact ⟨read, fits⟩
        · cases checked
  · rintro ⟨read, fits⟩
    refine ⟨number, left, read, ?_⟩
    simp only [fits, if_true]
    rfl

theorem takes_natural64 (fits : number < UInt64.size)
    (ends : ∀ delimiter ∈ delimiters, EndsNumeral delimiter) :
    TakesBefore delimiters natural64 (Nat.toDigits 10 number) number :=
  fun delimiter inside rest =>
    natural64_eq_ok_iff.mpr ⟨takes_integer fits ends delimiter inside rest, fits⟩

end FederatedLearning.Json
