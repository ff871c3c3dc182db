import RyzenBuild.Lib.Digits
import Mathlib.Data.List.TakeWhile

/-!
Formatted input as the kernel's `sscanf` reads it: white space in a format
matches any amount of it, a literal byte matches itself, `%u` takes decimal
digits and `%Ns` up to `N` bytes that are not white space. The scan ends at
the first item that does not match and gives the conversions made until then.
-/
namespace RyzenBuild.Scan

open Digits

def isSpace (byte : UInt8) : Bool := (9 ≤ byte && byte ≤ 13) || byte == 32 || byte == 160

inductive Item where
  | space
  | literal (byte : UInt8)
  | unsigned
  | word (width : Nat)
  deriving DecidableEq, Repr

inductive Scanned where
  | number (value : UInt32)
  | word (bytes : List UInt8)
  deriving DecidableEq, Repr

def skipSpaces (str : List UInt8) : List UInt8 := str.dropWhile isSpace

/-- `str` is the rest of the string before its NUL. -/
def scan : List Item → List UInt8 → List Scanned
  | [], _ => []
  | .space :: format, str => scan format (skipSpaces str)
  | .literal byte :: format, str =>
      match str with
      | [] => []
      | first :: str => if first = byte then scan format str else []
  | .unsigned :: format, str =>
      -- No digit there, the end of the string included: the conversion fails.
      let str := skipSpaces str
      let digits := str.takeWhile isDigit
      if digits = [] then []
      else .number (UInt32.ofNat (value digits)) :: scan format (str.dropWhile isDigit)
  | .word width :: format, str =>
      if str = [] then []
      else
        let str := skipSpaces str
        let bytes := (str.takeWhile (!isSpace ·)).take width
        .word bytes :: scan format (str.drop bytes.length)

def literals (bytes : List UInt8) : List Item := bytes.map Item.literal

section Items

variable (format : List Item) (byte first : UInt8) (str : List UInt8)

@[simp] theorem scan_done : scan [] str = [] := rfl

@[simp] theorem scan_space : scan (.space :: format) str = scan format (skipSpaces str) := rfl

@[simp] theorem scan_literal :
    scan (.literal byte :: format) (first :: str) =
      if first = byte then scan format str else [] := rfl

@[simp] theorem scan_literal_end : scan (.literal byte :: format) [] = [] := rfl

end Items

theorem isSpace_of_digit (byte : UInt8) (digit : isDigit byte = true) : isSpace byte = false := by
  have range : 48 ≤ byte.toNat ∧ byte.toNat ≤ 57 := by
    simpa [isDigit, UInt8.le_iff_toNat_le] using digit
  have other : byte ≠ 32 ∧ byte ≠ 160 := by
    constructor <;> rintro rfl <;> simp at range
  simp [isSpace, UInt8.le_iff_toNat_le, other]
  omega

theorem skipSpaces_of_head (first : UInt8) (str : List UInt8) (solid : isSpace first = false) :
    skipSpaces (first :: str) = first :: str := by
  simp [skipSpaces, solid]

@[simp] theorem skipSpaces_blank (str : List UInt8) : skipSpaces (32 :: str) = skipSpaces str := by
  simp [skipSpaces, isSpace]

/-- What follows a conversion of digits: the end, or a byte that ends it. -/
def EndsDigits (str : List UInt8) : Prop := ∀ first ∈ str.head?, isDigit first = false

@[simp] theorem endsDigits_nil : EndsDigits [] := by simp [EndsDigits]

@[simp] theorem endsDigits_blank (str : List UInt8) : EndsDigits (32 :: str) := by
  simp [EndsDigits, isDigit]

theorem takeWhile_numeral (n : Nat) (tail : List UInt8) (ends : EndsDigits tail) :
    (numeral n ++ tail).takeWhile isDigit = numeral n ∧
      (numeral n ++ tail).dropWhile isDigit = tail := by
  have digits := numeral_digits n
  rw [List.takeWhile_append_of_pos digits, List.dropWhile_append_of_pos digits]
  cases tail with
  | nil => simp
  | cons first rest =>
      have stop := ends first (by simp)
      simp [stop]

@[simp] theorem skipSpaces_numeral (n : Nat) (tail : List UInt8) :
    skipSpaces (numeral n ++ tail) = numeral n ++ tail := by
  cases digits : numeral n with
  | nil => exact absurd digits (numeral_ne_nil n)
  | cons first rest =>
      have solid := isSpace_of_digit first (numeral_digits n first (by rw [digits]; simp))
      exact skipSpaces_of_head first (rest ++ tail) solid

@[simp] theorem skipSpaces_numeral_end (n : Nat) : skipSpaces (numeral n) = numeral n := by
  simpa using skipSpaces_numeral n []

/-- A numeral is read back modulo the width of the conversion. -/
@[simp] theorem scan_numeral (format : List Item) (n : UInt32) (tail : List UInt8)
    (ends : EndsDigits tail) :
    scan (.unsigned :: format) (numeral n.toNat ++ tail) = .number n :: scan format tail := by
  obtain ⟨taken, dropped⟩ := takeWhile_numeral n.toNat tail ends
  simp only [scan, skipSpaces_numeral, taken, dropped, numeral_ne_nil, if_false, value_numeral,
    UInt32.ofNat_toNat]

@[simp] theorem scan_numeral_end (format : List Item) (n : UInt32) :
    scan (.unsigned :: format) (numeral n.toNat) = .number n :: scan format [] := by
  simpa using scan_numeral format n [] endsDigits_nil

theorem skipSpaces_word (bytes : List UInt8) (some : bytes ≠ [])
    (solid : ∀ byte ∈ bytes, isSpace byte = false) : skipSpaces bytes = bytes := by
  cases bytes with
  | nil => exact absurd rfl some
  | cons first rest => exact skipSpaces_of_head first rest (solid first List.mem_cons_self)

/-- A word without white space in it is read whole if it fits the width. -/
theorem scan_word (format : List Item) (width : Nat) (bytes : List UInt8) (some : bytes ≠ [])
    (fits : bytes.length ≤ width) (solid : ∀ byte ∈ bytes, isSpace byte = false) :
    scan (.word width :: format) bytes = .word bytes :: scan format [] := by
  have kept := skipSpaces_word bytes some solid
  have all : bytes.takeWhile (!isSpace ·) = bytes := by
    rw [List.takeWhile_eq_self_iff]
    exact fun byte member => by simp [solid byte member]
  simp only [scan, kept, all, if_neg some, List.take_of_length_le fits, List.drop_length]

end RyzenBuild.Scan
