import FederatedLearning.Json.Reader

/-!
# JSON strings

Strings are read with all escapes of the format: the short ones, and `\u` with
four hexadecimal digits, where code points beyond the basic plane take a pair of
surrogates.  Strings are written with the short escapes where they exist, and
with `\u` for the other control characters.
-/

namespace FederatedLearning.Json

def hexValue? (char : Char) : Option Nat :=
  if '0' ≤ char ∧ char ≤ '9' then some (char.toNat - '0'.toNat)
  else if 'a' ≤ char ∧ char ≤ 'f' then some (char.toNat - 'a'.toNat + 10)
  else if 'A' ≤ char ∧ char ≤ 'F' then some (char.toNat - 'A'.toNat + 10)
  else none

def hexUnit? (first second third fourth : Char) : Option Nat := do
  let first ← hexValue? first
  let second ← hexValue? second
  let third ← hexValue? third
  let fourth ← hexValue? fourth
  return ((first * 16 + second) * 16 + third) * 16 + fourth

/-- What is left of a text, known to be no longer than the text. -/
abbrev RestOf (text : List Char) := { rest : List Char // rest.length ≤ text.length }

/-- Reads the four digits of a `\u` escape.  With fewer than four bytes left
the text has ended; other characters in their place are malformed. -/
def hexUnit : (text : List Char) → Except Fault (Nat × RestOf text)
  | first :: second :: third :: fourth :: rest =>
      match hexUnit? first second third fourth with
      | some unit => .ok (unit, ⟨rest, by simp; omega⟩)
      | none => .error .malformed
  | text =>
      if (String.ofList text).utf8ByteSize < 4 then .error .ended else .error .malformed

def shortEscape? : Char → Option Char
  | '"' => some '"'
  | '\\' => some '\\'
  | '/' => some '/'
  | 'b' => some '\x08'
  | 'f' => some '\x0c'
  | 'n' => some '\n'
  | 'r' => some '\r'
  | 't' => some '\t'
  | _ => none

/-- Whether a code unit is the first of a surrogate pair. -/
def isLeading (unit : Nat) : Bool :=
  0xD800 ≤ unit && unit ≤ 0xDBFF

def isTrailing (unit : Nat) : Bool :=
  0xDC00 ≤ unit && unit ≤ 0xDFFF

/-- The code point that a pair of surrogates stands for. -/
def pairedPoint (leading trailing : Nat) : Nat :=
  (leading - 0xD800) * 0x400 + (trailing - 0xDC00) + 0x10000

def trailingUnit : (text : List Char) → Except Fault (Nat × RestOf text)
  | [] => .error .ended
  | '\\' :: [] => .error .ended
  | '\\' :: 'u' :: text =>
      match hexUnit text with
      | .error fault => .error fault
      | .ok (unit, rest) =>
          if isTrailing unit then .ok (unit, ⟨rest.1, by have := rest.2; simp; omega⟩)
          else .error .malformed
  | _ => .error .malformed

def escape : (text : List Char) → Except Fault (Char × RestOf text)
  | [] => .error .ended
  | 'u' :: text =>
      match hexUnit text with
      | .error fault => .error fault
      | .ok (unit, rest) =>
          if isTrailing unit then .error .malformed
          else if isLeading unit then
            match trailingUnit rest.1 with
            | .error fault => .error fault
            | .ok (trailing, last) =>
                .ok (Char.ofNat (pairedPoint unit trailing),
                  ⟨last.1, by have := rest.2; have := last.2; simp; omega⟩)
          else .ok (Char.ofNat unit, ⟨rest.1, by have := rest.2; simp; omega⟩)
  | char :: text =>
      match shortEscape? char with
      | some meant => .ok (meant, ⟨text, by simp⟩)
      | none => .error .malformed

/-- Reads the characters of a string up to and including the closing quote. -/
def stringChars (text : List Char) : Except Fault (List Char × List Char) :=
  match text with
  | [] => .error .ended
  | '"' :: rest => .ok ([], rest)
  | '\\' :: rest =>
      match escape rest with
      | .error fault => .error fault
      | .ok (char, after) =>
          match stringChars after.1 with
          | .error fault => .error fault
          | .ok (chars, last) => .ok (char :: chars, last)
  | char :: rest =>
      if char.toNat < 0x20 then .error .malformed
      else
        match stringChars rest with
        | .error fault => .error fault
        | .ok (chars, last) => .ok (char :: chars, last)
termination_by text.length
decreasing_by
  · have := after.2; simp; omega
  · simp

def stringBody : Reader String := fun text =>
  match stringChars text with
  | .error fault => .error fault
  | .ok (chars, rest) => .ok (String.ofList chars, rest)

/-- Skips what follows a backslash in a string that nobody reads: any `\u` with
four digits will do. -/
def skipEscape : (text : List Char) → Except Fault (RestOf text)
  | [] => .error .ended
  | 'u' :: text =>
      match hexUnit text with
      | .error fault => .error fault
      | .ok (_, rest) => .ok ⟨rest.1, by have := rest.2; simp; omega⟩
  | char :: text =>
      if (shortEscape? char).isSome then .ok ⟨text, by simp⟩ else .error .malformed

def skipChars (text : List Char) : Except Fault (List Char) :=
  match text with
  | [] => .error .ended
  | '"' :: rest => .ok rest
  | '\\' :: rest =>
      match skipEscape rest with
      | .error fault => .error fault
      | .ok after => skipChars after.1
  | char :: rest =>
      if char.toNat < 0x20 then .error .malformed else skipChars rest
termination_by text.length
decreasing_by
  · have := after.2; simp; omega
  · simp

def skipString : Reader Unit := fun text =>
  match skipChars text with
  | .error fault => .error fault
  | .ok rest => .ok ((), rest)

def quotedChar (char : Char) : List Char :=
  match char with
  | '"' => ['\\', '"']
  | '\\' => ['\\', '\\']
  | '\x08' => ['\\', 'b']
  | '\x0c' => ['\\', 'f']
  | '\n' => ['\\', 'n']
  | '\r' => ['\\', 'r']
  | '\t' => ['\\', 't']
  | char =>
      if char.toNat < 0x20 then
        ['\\', 'u', '0', '0', (char.toNat / 16).digitChar, (char.toNat % 16).digitChar]
      else [char]

def quoted (text : String) : List Char :=
  '"' :: (text.toList.flatMap quotedChar ++ ['"'])

end FederatedLearning.Json
