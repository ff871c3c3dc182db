import Mathlib.Algebra.Group.Nat.Defs
import Mathlib.Data.List.Basic

/-!
Numerals as bytes: what a printer writes for a natural number, in decimal or
in padded hexadecimal, and what a reader of digits makes of it again.
-/
namespace RyzenBuild.Digits

def isDigit (byte : UInt8) : Bool := 48 ≤ byte && byte ≤ 57

def value (bytes : List UInt8) : Nat :=
  bytes.foldl (fun sum byte => 10 * sum + (byte.toNat - 48)) 0

def ofChar (c : Char) : UInt8 := c.toNat.toUInt8

def numeral (n : Nat) : List UInt8 := (Nat.toDigits 10 n).map ofChar

theorem ofChar_toNat (c : Char) (digit : c.isDigit = true) : (ofChar c).toNat = c.toNat := by
  have range : 48 ≤ c.toNat ∧ c.toNat ≤ 57 := by
    simpa [Char.isDigit, UInt32.le_iff_toNat_le] using digit
  simp [ofChar]
  omega

theorem numeral_digits (n : Nat) (byte : UInt8) (member : byte ∈ numeral n) :
    isDigit byte = true := by
  obtain ⟨c, digit, rfl⟩ := List.mem_map.mp member
  have decimal := Nat.isDigit_of_mem_toDigits (by decide) (by decide) digit
  have range : 48 ≤ c.toNat ∧ c.toNat ≤ 57 := by
    simpa [Char.isDigit, UInt32.le_iff_toNat_le] using decimal
  simp [isDigit, UInt8.le_iff_toNat_le, ofChar_toNat c decimal, range]

theorem numeral_ne_nil (n : Nat) : numeral n ≠ [] := by
  simp [numeral]

theorem value_numeral (n : Nat) : value (numeral n) = n := by
  have digits : ∀ c ∈ Nat.toDigits 10 n, (ofChar c).toNat = c.toNat := fun c member =>
    ofChar_toNat c (Nat.isDigit_of_mem_toDigits (by decide) (by decide) member)
  conv_rhs => rw [← Nat.ofDigitChars_ten_toDigits (n := n)]
  simp only [value, numeral, Nat.ofDigitChars, List.foldl_map]
  apply List.foldl_ext
  intro sum c member
  rw [digits c member]
  rfl

/-- Only zero is written with a zero in front. -/
theorem numeral_head (n : Nat) (positive : 0 < n) (rest : List UInt8) :
    numeral n ≠ 48 :: rest := by
  induction n using Nat.strongRecOn generalizing rest with
  | ind n ih =>
      by_cases single : n < 10
      · intro zero
        have alone : rest = [] := by
          rw [numeral, Nat.toDigits_of_lt_base single] at zero
          simp at zero
          exact zero.2
        have same := value_numeral n
        rw [zero, alone] at same
        simp [value] at same
        omega
      · have shorter := ih (n / 10) (by omega) (by omega)
        have split : numeral n = numeral (n / 10) ++ [ofChar (Nat.digitChar (n % 10))] := by
          simp [numeral, Nat.toDigits_of_base_le (by decide : 1 < 10) (by omega : 10 ≤ n)]
        cases front : numeral (n / 10) with
        | nil => exact absurd front (numeral_ne_nil _)
        | cons first tail =>
            rw [split, front]
            intro zero
            injection zero with same _
            exact shorter tail (by rw [front, same])

/-- What `%d` writes. -/
def signed (n : Int) : List UInt8 := if n < 0 then 45 :: numeral n.natAbs else numeral n.natAbs

def signedValue (bytes : List UInt8) : Int :=
  if bytes.head? = some 45 then -(value bytes.tail : Int) else value bytes

theorem numeral_unsigned (n : Nat) : (numeral n).head? ≠ some 45 := by
  intro minus
  have digit := numeral_digits n 45 (List.mem_of_mem_head? minus)
  cases digit

theorem signedValue_signed (n : Int) : signedValue (signed n) = n := by
  unfold signed
  split
  · rw [signedValue, List.head?_cons, if_pos rfl, List.tail_cons, value_numeral]
    omega
  · rw [signedValue, if_neg (numeral_unsigned _), value_numeral]
    omega

theorem signed_natCast (n : Nat) : signed n = numeral n := by
  have natural : ¬(n : Int) < 0 := by omega
  simp [signed, natural]

theorem signed_begins (n : Int) :
    ∃ first rest, signed n = first :: rest ∧ (first = 45 ∨ isDigit first = true) := by
  cases front : numeral n.natAbs with
  | nil => exact absurd front (numeral_ne_nil _)
  | cons first rest =>
      have digit := numeral_digits n.natAbs first (by simp [front])
      unfold signed
      split
      · exact ⟨45, _, rfl, .inl rfl⟩
      · exact ⟨first, rest, front, .inr digit⟩

section Hexadecimal

/-- The last `width` hexadecimal digits. -/
def hexFixed : Nat → Nat → List UInt8
  | 0, _ => []
  | width + 1, n => hexFixed width (n / 16) ++ [ofChar (Nat.digitChar (n % 16))]

def hexLength (n : Nat) : Nat := n.log2 / 4 + 1

/-- What `%0*x` writes: at least `width` digits. -/
def hex (width n : Nat) : List UInt8 := hexFixed (max width (hexLength n)) n

def hexDigitValue (byte : UInt8) : Nat :=
  if byte < 58 then byte.toNat - 48 else byte.toNat - 87

def hexValue (bytes : List UInt8) : Nat :=
  bytes.foldl (fun sum byte => 16 * sum + hexDigitValue byte) 0

theorem hexDigitValue_digitChar (digit : Nat) (below : digit < 16) :
    hexDigitValue (ofChar (Nat.digitChar digit)) = digit := by
  have all : ∀ digit : Fin 16, hexDigitValue (ofChar (Nat.digitChar digit.val)) = digit.val := by
    decide
  exact all ⟨digit, below⟩

theorem hexValue_hexFixed (width n : Nat) : hexValue (hexFixed width n) = n % 16 ^ width := by
  induction width generalizing n with
  | zero => simp [hexFixed, hexValue, Nat.mod_one]
  | succ width ih =>
      have front := ih (n / 16)
      simp only [hexValue] at front
      rw [hexValue, hexFixed, List.foldl_append, front, List.foldl_cons, List.foldl_nil,
        hexDigitValue_digitChar _ (Nat.mod_lt n (by decide)), Nat.pow_succ', Nat.mod_mul]
      omega

theorem lt_hexLength (n : Nat) : n < 16 ^ hexLength n := by
  calc n < 2 ^ (n.log2 + 1) := Nat.lt_log2_self
    _ ≤ 2 ^ (4 * hexLength n) := Nat.pow_le_pow_right (by decide) (by unfold hexLength; omega)
    _ = 16 ^ hexLength n := by rw [Nat.pow_mul]

theorem hexValue_hex (width n : Nat) : hexValue (hex width n) = n := by
  rw [hex, hexValue_hexFixed]
  apply Nat.mod_eq_of_lt
  calc n < 16 ^ hexLength n := lt_hexLength n
    _ ≤ 16 ^ max width (hexLength n) :=
        Nat.pow_le_pow_right (by decide) (Nat.le_max_right _ _)

theorem hex_inj (width : Nat) {first second : Nat} (same : hex width first = hex width second) :
    first = second := by
  rw [← hexValue_hex width first, same, hexValue_hex]

end Hexadecimal

end RyzenBuild.Digits
