/-
This file is a small library of Python's text operations, on texts as lists of characters: the
character classes of `str`, stripping and lines, decimal numbers, and the steps of regular
expressions that need no backtracking. Which characters beyond ASCII are digits is left to a table.
-/

import Mathlib

namespace PythonText

/-! ### Characters -/

/-- `str.isspace`, and the class `\s` of regular expressions. -/
def isSpace (character : Char) : Bool :=
  let code := character.toNat
  decide (9 ≤ code ∧ code ≤ 13 ∨ 28 ≤ code ∧ code ≤ 32 ∨ code = 133 ∨ code = 160 ∨ code = 5760 ∨
    8192 ≤ code ∧ code ≤ 8202 ∨ code = 8232 ∨ code = 8233 ∨ code = 8239 ∨ code = 8287 ∨
    code = 12288)

/-- The characters at which `str.splitlines` ends a line. -/
def isLineBreak (character : Char) : Bool :=
  let code := character.toNat
  decide (10 ≤ code ∧ code ≤ 13 ∨ 28 ≤ code ∧ code ≤ 30 ∨ code = 133 ∨ code = 8232 ∨ code = 8233)

/-- The decimal digits of Unicode, which `\d` and `int` know, with their values. -/
structure DigitTable where
  decimal : Char → Option Nat
  decimal_ascii : ∀ character, character.toNat < 128 →
    decimal character = if character.isDigit then some (character.toNat - 48) else none

/-- A table without digits beyond ASCII. -/
def asciiTable : DigitTable where
  decimal character := if character.isDigit then some (character.toNat - 48) else none
  decimal_ascii _ _ := rfl

/-- The class `\d` of regular expressions. -/
def DigitTable.isDecimal (table : DigitTable) (character : Char) : Bool :=
  (table.decimal character).isSome

/-! ### Stripping and cutting -/

/-- `str.strip()`. -/
def strip (text : List Char) : List Char := (text.dropWhile isSpace).rdropWhile isSpace

/-- `str.split()`. -/
def split (text : List Char) : List (List Char) :=
  (text.splitOnP isSpace).filter (· ≠ [])

/-- `str.startswith`. -/
def startsWith (text beginning : List Char) : Bool := beginning.isPrefixOf text

/-! ### Lines -/

/-- `str.splitlines()` with the characters of the present line so far. -/
def splitlinesFrom (line : List Char) : List Char → List (List Char)
  | [] => if line = [] then [] else [line]
  | '\r' :: '\n' :: rest => line :: splitlinesFrom [] rest
  | character :: rest =>
    if isLineBreak character then line :: splitlinesFrom [] rest
    else splitlinesFrom (line ++ [character]) rest

/-- `str.splitlines()`. -/
def splitlines (text : List Char) : List (List Char) := splitlinesFrom [] text

/-! ### Numbers -/

/-- A nonempty text of ASCII digits. -/
structure Digits (text : List Char) : Prop where
  filled : text ≠ []
  digit : ∀ character ∈ text, character.isDigit = true

theorem digits_toDigits (number : Nat) : Digits (Nat.toDigits 10 number) where
  filled := Nat.toDigits_ne_nil
  digit _ found := Nat.isDigit_of_mem_toDigits (by decide) (by decide) found

/-! ### Scans -/

/-- A class of characters, repeated at least once: the longest stretch and what follows it. -/
def many1 (accepts : Char → Bool) (text : List Char) : Option (List Char × List Char) :=
  if text.takeWhile accepts = [] then none
  else some (text.takeWhile accepts, text.dropWhile accepts)

/-- A literal part of a regular expression, and what follows it. -/
def literal (pattern text : List Char) : Option (List Char) :=
  if startsWith text pattern then some (text.drop pattern.length) else none

end PythonText
