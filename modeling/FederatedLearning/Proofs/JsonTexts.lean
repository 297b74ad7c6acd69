import FederatedLearning.Json.Text
import Mathlib.Data.List.Forall2

/-!
# JSON texts

Arrays and objects are written without blanks.  A text nests as deeply as the number
of arrays and objects that are open at the same time; brackets within strings do
not count.  The nesting of a text is told by that of its parts.
-/

namespace FederatedLearning.Json

variable {piece piece' rest text : List Char} {pieces : List (List Char)}
  {members : List (String × List Char)} {depth depth' level : Nat} {depths : List Nat}

/-- The texts in their order, a comma before each of them. -/
def eachAfterComma (pieces : List (List Char)) : List Char :=
  pieces.flatMap fun piece => ',' :: piece

theorem eachAfterComma_cons (piece : List Char) (pieces : List (List Char)) :
    eachAfterComma (piece :: pieces) = ',' :: (piece ++ eachAfterComma pieces) :=
  rfl

theorem intercalate_cons (piece : List Char) (pieces : List (List Char)) :
    List.intercalate [','] (piece :: pieces) = piece ++ eachAfterComma pieces := by
  induction pieces generalizing piece with
  | nil => simp [eachAfterComma]
  | cons later pieces induction =>
      rw [List.intercalate_cons_cons, List.append_assoc, induction, eachAfterComma_cons]
      rfl

/-- Each text but the first takes a comma. -/
theorem length_le_intercalate (pieces : List (List Char)) :
    pieces.length ≤ (List.intercalate [','] pieces).length + 1 := by
  have commas (pieces : List (List Char)) : pieces.length ≤ (eachAfterComma pieces).length := by
    induction pieces with
    | nil => exact Nat.le_refl 0
    | cons piece pieces induction =>
        simp only [eachAfterComma_cons, List.length_append, List.length_cons]
        omega
  cases pieces with
  | nil => exact Nat.zero_le _
  | cons piece pieces =>
      have enough := commas pieces
      simp only [intercalate_cons, List.length_append, List.length_cons]
      omega

/-- An array with the given texts as its elements. -/
def arrayText (pieces : List (List Char)) : List Char :=
  '[' :: (List.intercalate [','] pieces ++ [']'])

/-- A member of an object: its key and the text of its value. -/
def memberText (member : String × List Char) : List Char :=
  quoted member.1 ++ ':' :: member.2

def objectText (members : List (String × List Char)) : List Char :=
  '\x7b' :: (List.intercalate [','] (members.map memberText) ++ ['\x7d'])

def flagText (answer : Bool) : List Char :=
  (if answer then "true" else "false").toList

/-- The most arrays and objects that are open at the same time from here on, where
`level` of them are open already, within a string or outside of one. -/
def deepest : (inString : Bool) → (level : Nat) → List Char → Nat
  | _, level, [] => level
  | true, level, '\\' :: _ :: rest => deepest true level rest
  | true, level, char :: rest => deepest (char != '"') level rest
  | false, level, char :: rest =>
      if char = '"' then deepest true level rest
      else if char = '[' ∨ char = '\x7b' then deepest false (level + 1) rest
      else if char = ']' ∨ char = '\x7d' then max level (deepest false (level - 1) rest)
      else deepest false level rest

/-- How deeply the arrays and objects of a text nest. -/
def nesting (text : List Char) : Nat :=
  deepest false 0 text

/-- Outside of strings, the piece opens `depth` arrays and objects at most, and closes
all that it opens. -/
def Nests (piece : List Char) (depth : Nat) : Prop :=
  ∀ level rest,
    deepest false level (piece ++ rest) = max (level + depth) (deepest false level rest)

theorem le_deepest (inString : Bool) (level : Nat) (text : List Char) :
    level ≤ deepest inString level text := by
  fun_induction deepest inString level text <;> omega

theorem Nests.nesting_eq (nests : Nests piece depth) : nesting piece = depth := by
  have whole := nests 0 []
  rw [List.append_nil] at whole
  rw [nesting, whole]
  simp [deepest]

theorem nests_nil : Nests [] 0 := by
  intro level rest
  have above := le_deepest false level rest
  simp only [List.nil_append]
  omega

theorem Nests.append (nests : Nests piece depth) (nests' : Nests piece' depth') :
    Nests (piece ++ piece') (max depth depth') := by
  intro level rest
  rw [List.append_assoc, nests, nests']
  omega

/-- Whether the character is no bracket and begins no string. -/
def isPlain (char : Char) : Bool :=
  char != '"' && char != '[' && char != '\x7b' && char != ']' && char != '\x7d'

theorem Nests.cons_plain {char : Char} (plain : isPlain char = true)
    (nests : Nests piece depth) : Nests (char :: piece) depth := by
  intro level rest
  simp only [isPlain, Bool.and_eq_true, bne_iff_ne] at plain
  obtain ⟨⟨⟨⟨notQuote, notArray⟩, notObject⟩, notArrayEnd⟩, notObjectEnd⟩ := plain
  rw [List.cons_append, deepest, if_neg notQuote, if_neg (by simp [notArray, notObject]),
    if_neg (by simp [notArrayEnd, notObjectEnd])]
  exact nests level rest

theorem nests_of_plain (plain : piece.all isPlain = true) : Nests piece 0 := by
  induction piece with
  | nil => exact nests_nil
  | cons char piece induction =>
      rw [List.all_cons, Bool.and_eq_true] at plain
      exact (induction plain.2).cons_plain plain.1

theorem nests_flagText (answer : Bool) : Nests (flagText answer) 0 := by
  cases answer <;> exact nests_of_plain rfl

/-- Brackets around a text take one level. -/
theorem Nests.enclosed {opening closing : Char} (opens : opening = '[' ∨ opening = '\x7b')
    (closes : closing = ']' ∨ closing = '\x7d') (nests : Nests piece depth) :
    Nests (opening :: (piece ++ [closing])) (depth + 1) := by
  intro level rest
  have opened (text : List Char) :
      deepest false level (opening :: text) = deepest false (level + 1) text := by
    rcases opens with rfl | rfl <;> simp [deepest]
  have closed : deepest false (level + 1) (closing :: rest) =
      max (level + 1) (deepest false level rest) := by
    rcases closes with rfl | rfl <;> simp [deepest]
  rw [List.cons_append, opened, List.append_assoc, nests, List.singleton_append, closed]
  omega

theorem nests_eachAfterComma (each : List.Forall₂ Nests pieces depths) :
    Nests (eachAfterComma pieces) (depths.foldr max 0) := by
  induction each with
  | nil => exact nests_nil
  | cons nests each induction =>
      rw [eachAfterComma_cons, List.foldr_cons]
      exact (nests.append induction).cons_plain rfl

theorem nests_intercalate (each : List.Forall₂ Nests pieces depths) :
    Nests (List.intercalate [','] pieces) (depths.foldr max 0) := by
  cases each with
  | nil => exact nests_nil
  | cons nests each =>
      rw [intercalate_cons, List.foldr_cons]
      exact nests.append (nests_eachAfterComma each)

theorem nests_arrayText (each : List.Forall₂ Nests pieces depths) :
    Nests (arrayText pieces) (depths.foldr max 0 + 1) :=
  (nests_intercalate each).enclosed (.inl rfl) (.inl rfl)

/-- Texts of items, each of which nests as deeply as is known of the item. -/
theorem nests_arrayText_map {α : Type} {items : List α} {textOf : α → List Char}
    {depthOf : α → Nat} (each : ∀ item ∈ items, Nests (textOf item) (depthOf item)) :
    Nests (arrayText (items.map textOf)) ((items.map depthOf).foldr max 0 + 1) := by
  apply nests_arrayText
  rw [List.forall₂_map_left_iff, List.forall₂_map_right_iff, List.forall₂_same]
  exact each

theorem deepest_of_ordinary {char : Char} (notQuote : char ≠ '"') (notSlash : char ≠ '\\') :
    deepest true level (char :: text) = deepest true level text := by
  rw [deepest]
  · rw [bne_iff_ne.mpr notQuote]
  · exact fun _ _ slash _ => notSlash slash

theorem digitChar_ordinary : ∀ digit < 16, digit.digitChar ≠ '"' ∧ digit.digitChar ≠ '\\' := by
  decide

/-- A quoted character keeps a string open. -/
theorem deepest_quotedChar (char : Char) (level : Nat) (text : List Char) :
    deepest true level (quotedChar char ++ text) = deepest true level text := by
  unfold quotedChar
  split
  case h_8 quote slash _ _ _ _ _ =>
    split
    · next control =>
        have high := digitChar_ordinary (char.toNat / 16) (by omega)
        have low := digitChar_ordinary (char.toNat % 16) (by omega)
        simp only [List.cons_append, List.nil_append]
        -- The backslash takes the letter after it along, and the digits are ordinary.
        rw [deepest, deepest_of_ordinary (by decide) (by decide),
          deepest_of_ordinary (by decide) (by decide), deepest_of_ordinary high.1 high.2,
          deepest_of_ordinary low.1 low.2]
    · exact deepest_of_ordinary quote slash
  all_goals rfl

theorem nests_quoted (text : String) : Nests (quoted text) 0 := by
  intro level rest
  have kept (chars : List Char) : deepest true level (chars.flatMap quotedChar ++ '"' :: rest) =
      deepest false level rest := by
    induction chars with
    | nil => rfl
    | cons char chars induction =>
        rw [List.flatMap_cons, List.append_assoc, deepest_quotedChar, induction]
  have above := le_deepest false level rest
  have opened : deepest false level (quoted text ++ rest) =
      deepest true level (text.toList.flatMap quotedChar ++ '"' :: rest) := by
    simp [quoted, deepest]
  rw [opened, kept]
  omega

theorem nests_memberText {key : String} (nests : Nests piece depth) :
    Nests (memberText (key, piece)) depth := by
  have separated : Nests (':' :: piece) depth := nests.cons_plain rfl
  rw [← Nat.zero_max depth]
  exact (nests_quoted key).append separated

theorem nests_objectText
    (each : List.Forall₂ (fun member depth => Nests member.2 depth) members depths) :
    Nests (objectText members) (depths.foldr max 0 + 1) := by
  have written : List.Forall₂ Nests (members.map memberText) depths :=
    List.forall₂_map_left_iff.mpr (each.imp fun _ _ nests => nests_memberText nests)
  exact (nests_intercalate written).enclosed (.inr rfl) (.inr rfl)

theorem objectText_single (key : String) (piece : List Char) :
    objectText [(key, piece)] = '\x7b' :: (quoted key ++ ':' :: (piece ++ ['\x7d'])) := by
  simp [objectText, memberText]

theorem nests_single (nests : Nests piece depth) (key : String) :
    Nests (objectText [(key, piece)]) (depth + 1) := by
  have member : List.Forall₂ (fun member depth => Nests member.2 depth) [(key, piece)] [depth] :=
    .cons nests .nil
  rw [← Nat.max_zero depth]
  exact nests_objectText member

end FederatedLearning.Json
