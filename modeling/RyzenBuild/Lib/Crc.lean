import Mathlib.Logic.Basic

/-!
Cyclic redundancy checks over registers of any width, least significant bit first. A shift
is linear and, for a polynomial with its last bit, loses nothing; so two texts that
differ within one register's width of bytes leave different remainders.
-/
namespace RyzenBuild.Crc

variable {w : Nat} (poly : BitVec w)

/-- One bit out of the register, which takes up the polynomial if the bit was set. -/
def shift (register : BitVec w) : BitVec w :=
  if register.getLsbD 0 then (register >>> 1) ^^^ poly else register >>> 1

def shifts : Nat → BitVec w → BitVec w
  | 0, register => register
  | n + 1, register => shifts n (shift poly register)

def feed (register : BitVec w) (byte : UInt8) : BitVec w :=
  shifts poly 8 (register ^^^ byte.toBitVec.setWidth w)

def remainder (register : BitVec w) (bytes : List UInt8) : BitVec w :=
  bytes.foldl (feed poly) register

section Linear

theorem xor_exchange (a b c d : BitVec w) : (a ^^^ b) ^^^ (c ^^^ d) = (a ^^^ c) ^^^ (b ^^^ d) := by
  ac_rfl

theorem shift_xor (a b : BitVec w) : shift poly (a ^^^ b) = shift poly a ^^^ shift poly b := by
  unfold shift
  rw [BitVec.getLsbD_xor, BitVec.ushiftRight_xor_distrib]
  cases a.getLsbD 0 with
  | false =>
      cases b.getLsbD 0 with
      | false => simp
      | true => simp [BitVec.xor_assoc]
  | true =>
      cases b.getLsbD 0 with
      | false =>
          simp only [Bool.xor_false, if_true, Bool.false_eq_true, if_false]
          ac_rfl
      | true =>
          simp only [Bool.xor_self, Bool.false_eq_true, if_false, if_true]
          rw [xor_exchange, BitVec.xor_self, BitVec.xor_zero]

theorem shifts_xor (n : Nat) (a b : BitVec w) :
    shifts poly n (a ^^^ b) = shifts poly n a ^^^ shifts poly n b := by
  induction n generalizing a b with
  | zero => rfl
  | succ n ih => rw [shifts, shifts, shifts, shift_xor, ih]

theorem shifts_add (n m : Nat) (register : BitVec w) :
    shifts poly (n + m) register = shifts poly m (shifts poly n register) := by
  induction n generalizing register with
  | zero => rw [Nat.zero_add, shifts]
  | succ n ih => rw [Nat.succ_add, shifts, ih, shifts]

/-- Bits that stand above the ones shifted out only move down. -/
theorem shifts_raised (n : Nat) (register : BitVec w)
    (room : ∀ i, w ≤ i + n → register.getLsbD i = false) :
    shifts poly n (register <<< n) = register := by
  induction n with
  | zero => rw [shifts, BitVec.shiftLeft_zero]
  | succ n ih =>
      have out : (register <<< (n + 1)).getLsbD 0 = false := by simp
      have lower : (register <<< (n + 1)) >>> 1 = register <<< n := by
        apply BitVec.eq_of_getLsbD_eq
        intro i inside
        simp only [BitVec.getLsbD_ushiftRight, BitVec.getLsbD_shiftLeft]
        have place : 1 + i - (n + 1) = i - n := by omega
        rw [place]
        by_cases top : 1 + i < w
        · have below : (1 + i < n + 1) ↔ i < n := by omega
          simp [top, inside, below]
        · by_cases low : i < n
          · simp [top, low]
          · have clear := room (i - n) (by omega)
            simp [top, clear]
      rw [shifts, shift, out, if_neg Bool.false_ne_true, lower]
      exact ih fun i beyond => room i (by omega)

end Linear

section Injective

variable (last : poly.getLsbD (w - 1) = true)

include last

theorem shift_zero (register : BitVec w) (zero : shift poly register = 0) : register = 0 := by
  unfold shift at zero
  split at zero
  · have same : register >>> 1 = poly := BitVec.xor_eq_zero_iff.mp zero
    have high : (register >>> 1).getLsbD (w - 1) = false := by
      rw [BitVec.getLsbD_ushiftRight]
      exact BitVec.getLsbD_of_ge _ _ (by omega)
    rw [same, last] at high
    cases high
  · next low =>
      apply BitVec.eq_of_getLsbD_eq
      intro i _
      cases i with
      | zero => simpa using low
      | succ i =>
          have bit : (register >>> 1).getLsbD i = false := by simp [zero]
          rw [BitVec.getLsbD_ushiftRight, Nat.add_comm] at bit
          simpa using bit

theorem shifts_zero (n : Nat) (register : BitVec w) (zero : shifts poly n register = 0) :
    register = 0 := by
  induction n generalizing register with
  | zero => exact zero
  | succ n ih => exact shift_zero poly last register (ih _ zero)

/-- Shifting is linear, and only nothing is shifted to nothing. -/
theorem shifts_inj (n : Nat) (a b : BitVec w) (same : shifts poly n a = shifts poly n b) :
    a = b := by
  have zero : shifts poly n (a ^^^ b) = 0 := by
    rw [shifts_xor, same]
    exact BitVec.xor_self
  exact BitVec.xor_eq_zero_iff.mp (shifts_zero poly last n _ zero)

theorem remainder_register (bytes : List UInt8) (a b : BitVec w)
    (same : remainder poly a bytes = remainder poly b bytes) : a = b := by
  induction bytes generalizing a b with
  | nil => exact same
  | cons byte bytes ih =>
      have fed := shifts_inj poly last 8 _ _ (ih _ _ same)
      exact (BitVec.xor_left_inj _).mp fed

end Injective

section Bursts

/-- The bytes as they enter the register, the first of them lowest. -/
def word (w : Nat) : List UInt8 → BitVec w
  | [] => 0
  | byte :: bytes => byte.toBitVec.setWidth w ^^^ (word w bytes <<< 8)

theorem word_high (bytes : List UInt8) (i : Nat) (beyond : 8 * bytes.length ≤ i) :
    (word w bytes).getLsbD i = false := by
  induction bytes generalizing i with
  | nil => simp [word]
  | cons byte bytes ih =>
      rw [List.length_cons] at beyond
      have later := ih (i - 8) (by omega)
      have here : byte.toBitVec.getLsbD i = false := BitVec.getLsbD_of_ge _ _ (by omega)
      rw [word, BitVec.getLsbD_xor, BitVec.getLsbD_setWidth, BitVec.getLsbD_shiftLeft, later, here]
      simp

/-- Bytes that fit the register are shifted through it as one word. -/
theorem remainder_word (bytes : List UInt8) (register : BitVec w) (fits : 8 * bytes.length ≤ w) :
    remainder poly register bytes = shifts poly (8 * bytes.length) (register ^^^ word w bytes) := by
  induction bytes generalizing register with
  | nil =>
      have empty : register ^^^ word w [] = register := BitVec.xor_zero
      rw [empty]
      rfl
  | cons byte bytes ih =>
      rw [List.length_cons] at fits
      have raised := shifts_raised poly 8 (word w bytes) fun i beyond =>
        word_high bytes i (by omega)
      have split : 8 * (byte :: bytes).length = 8 + 8 * bytes.length := by
        rw [List.length_cons]
        omega
      calc remainder poly register (byte :: bytes)
          = remainder poly (feed poly register byte) bytes := rfl
        _ = shifts poly (8 * bytes.length) (feed poly register byte ^^^ word w bytes) :=
            ih _ (by omega)
        _ = shifts poly (8 * bytes.length)
              (feed poly register byte ^^^ shifts poly 8 (word w bytes <<< 8)) := by rw [raised]
        _ = shifts poly (8 * bytes.length)
              (shifts poly 8 (register ^^^ word w (byte :: bytes))) := by
            rw [feed, ← shifts_xor, BitVec.xor_assoc, ← word]
        _ = shifts poly (8 * (byte :: bytes).length) (register ^^^ word w (byte :: bytes)) := by
            rw [split, shifts_add]

theorem word_inj (first second : List UInt8) (length : first.length = second.length)
    (fits : 8 * first.length ≤ w) (same : word w first = word w second) : first = second := by
  induction first generalizing second with
  | nil => exact (List.length_eq_zero_iff.mp length.symm).symm
  | cons a first ih =>
      cases second with
      | nil => cases length
      | cons b second =>
          rw [List.length_cons, List.length_cons, Nat.succ.injEq] at length
          rw [List.length_cons] at fits
          have bits (i : Nat) :
              (word w (a :: first)).getLsbD i = (word w (b :: second)).getLsbD i := by
            rw [same]
          have heads : a = b := by
            rw [← UInt8.toBitVec_inj]
            apply BitVec.eq_of_getLsbD_eq
            intro i inside
            have bit := bits i
            rw [word, word, BitVec.getLsbD_xor, BitVec.getLsbD_xor, BitVec.getLsbD_setWidth,
              BitVec.getLsbD_setWidth, BitVec.getLsbD_shiftLeft, BitVec.getLsbD_shiftLeft] at bit
            have within : i < w := by omega
            simpa [inside, within] using bit
          have tails : word w first = word w second := by
            apply BitVec.eq_of_getLsbD_eq
            intro i inside
            by_cases top : i + 8 < w
            · have bit := bits (i + 8)
              have out (c : UInt8) : c.toBitVec.getLsbD (i + 8) = false :=
                BitVec.getLsbD_of_ge _ _ (by omega)
              rw [word, word, BitVec.getLsbD_xor, BitVec.getLsbD_xor, BitVec.getLsbD_setWidth,
                BitVec.getLsbD_setWidth, BitVec.getLsbD_shiftLeft, BitVec.getLsbD_shiftLeft, out,
                out] at bit
              have above : ¬i + 8 < 8 := by omega
              simpa [top, above] using bit
            · rw [word_high first i (by omega), word_high second i (by omega)]
          rw [heads, ih second length (by omega) tails]

/-- Texts that differ in no more bytes in a row than the register holds leave different
remainders. -/
theorem burst_noticed (last : poly.getLsbD (w - 1) = true) (register : BitVec w)
    (before after first second : List UInt8) (length : first.length = second.length)
    (fits : 8 * first.length ≤ w)
    (same : remainder poly register (before ++ first ++ after) =
      remainder poly register (before ++ second ++ after)) : first = second := by
  have parts (middle : List UInt8) : remainder poly register (before ++ middle ++ after) =
      remainder poly (remainder poly (remainder poly register before) middle) after := by
    rw [remainder, List.foldl_append, List.foldl_append]
    rfl
  rw [parts, parts] at same
  have middle := remainder_register poly last after _ _ same
  rw [remainder_word poly first _ fits, remainder_word poly second _ (length ▸ fits),
    length] at middle
  have words := shifts_inj poly last _ _ _ middle
  exact word_inj first second length fits ((BitVec.xor_right_inj _).mp words)

end Bursts

end RyzenBuild.Crc
