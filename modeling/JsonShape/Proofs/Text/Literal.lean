import JsonShape.Text.Literal
import JsonShape.Json.StringReader
import Mathlib.Data.List.Basic

/-!
# Reading string literals

`literalFrom` reads a literal back character by character, up to its closing quotation mark.  Inside the
braces of a code point it keeps the number that the digits so far make.  Whatever follows a literal in a
text, reading gives the string and what follows (`literalFrom_literal`), so two texts that begin with
literals agree only if the strings do.  `literalValue?` reads a text that is a literal as a whole.
-/

namespace JsonShape

/-- The character that a letter after a backslash stands for in a literal. -/
def literalEscape : Char → Option Char
  | '0' => some '\x00'
  | 't' => some '\t'
  | 'r' => some '\r'
  | 'n' => some '\n'
  | '\\' => some '\\'
  | '"' => some '"'
  | '\'' => some '\''
  | _ => none

/-- What follows an opening quotation mark: the characters of the literal, and the text after it.  The
first argument is the number made by the digits of a code point whose braces are still open. -/
def literalFrom : Option Nat → List Char → Option (List Char × List Char)
  | _, [] => none
  | some code, c :: rest =>
    if c = '\x7d' then (literalFrom none rest).map fun (body, rest) => (Char.ofNat code :: body, rest)
    else (hexDigit c).bind fun digit => literalFrom (some (code * 16 + digit)) rest
  | none, '"' :: rest => some ([], rest)
  | none, '\\' :: 'u' :: '\x7b' :: rest => literalFrom (some 0) rest
  | none, '\\' :: letter :: rest =>
    (literalEscape letter).bind fun c =>
      (literalFrom none rest).map fun (body, rest) => (c :: body, rest)
  | none, c :: rest => (literalFrom none rest).map fun (body, rest) => (c :: body, rest)

/-! ## Code points -/

theorem hexDigit_digitChar : ∀ digit < 16, hexDigit (Nat.digitChar digit) = some digit := by decide

theorem digitChar_ne_brace : ∀ digit < 16, Nat.digitChar digit ≠ '\x7d' := by decide

/-- Hexadecimal digits make the number that they write. -/
theorem literalFrom_toDigits (n : Nat) (rest : List Char) :
    literalFrom (some 0) (Nat.toDigits 16 n ++ rest) = literalFrom (some n) rest := by
  induction n using Nat.strongRecOn generalizing rest with
  | ind n ih =>
    have hstep : ∀ code digit, digit < 16 → ∀ rest,
        literalFrom (some code) (Nat.digitChar digit :: rest) =
          literalFrom (some (code * 16 + digit)) rest := by
      intro code digit hd rest
      rw [literalFrom, if_neg (digitChar_ne_brace digit hd), hexDigit_digitChar digit hd]
      rfl
    rw [Nat.toDigits_eq_if (by decide)]
    by_cases hn : n < 16
    · rw [if_pos hn, List.singleton_append, hstep 0 n hn, Nat.zero_mul, Nat.zero_add]
    · rw [if_neg hn, List.append_assoc, ih (n / 16) (by omega), List.singleton_append,
        hstep _ _ (Nat.mod_lt n (by decide)), Nat.div_add_mod']

/-! ## Characters and strings -/

/-- A character reads back from the way it stands in a literal. -/
theorem literalFrom_literalChar (c : Char) (rest : List Char) :
    literalFrom none (literalChar c ++ rest) =
      (literalFrom none rest).map fun (body, rest) => (c :: body, rest) := by
  unfold literalChar
  split
  · rfl
  · rfl
  · rfl
  · rfl
  · rfl
  · rfl
  · rename_i hslash hquote
    by_cases hp : (isPrintable c && !isExtending c) = true
    · rw [if_pos hp, List.singleton_append, literalFrom]
      · exact hquote
      · exact fun _ e _ => hslash e
      · exact fun _ _ e _ => hslash e
    · rw [if_neg hp, codePointEscape, List.append_assoc, List.append_assoc]
      show literalFrom (some 0) (Nat.toDigits 16 c.toNat ++ ('\x7d' :: rest)) = _
      rw [literalFrom_toDigits, literalFrom, if_pos rfl, Char.ofNat_toNat]

/-- **A literal reads back**: after the opening quotation mark come the characters of the string, and then
what follows the literal. -/
theorem literalFrom_literal (s : String) (rest : List Char) :
    ∃ body, (literal s).toList = '"' :: body ∧
      literalFrom none (body ++ rest) = some (s.toList, rest) := by
  refine ⟨s.toList.flatMap literalChar ++ ['"'], by simp [literal], ?_⟩
  induction s.toList with
  | nil => rfl
  | cons c others ih =>
    rw [List.flatMap_cons, List.append_assoc, List.append_assoc, literalFrom_literalChar,
      ← List.append_assoc, ih]
    rfl

/-- The string that a whole text stands for as a literal. -/
def literalValue? (text : String) : Option String :=
  match text.toList with
  | '"' :: body =>
    match literalFrom none body with
    | some (s, []) => some (String.ofList s)
    | _ => none
  | _ => none

theorem literalValue?_literal (s : String) : literalValue? (literal s) = some s := by
  obtain ⟨body, htext, hread⟩ := literalFrom_literal s []
  rw [List.append_nil] at hread
  simp [literalValue?, htext, hread]

end JsonShape
