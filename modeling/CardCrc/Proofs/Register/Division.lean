import CardCrc.Proofs.Register.Feeding
import CardCrc.Proofs.Register.Remainder
import Mathlib.Algebra.CharP.Two
import Mathlib.Algebra.Field.ZMod
import Mathlib.Algebra.Polynomial.Coeff
import Mathlib.Algebra.Polynomial.Degree.Defs
import Mathlib.Tactic.LinearCombination

/-!
# Division by the generator

A run of bits is a polynomial over the field of two elements, the first bit
being its highest coefficient. The word that long division keeps is the
remainder of that polynomial by x⁷ + x³ + 1: each step multiplies by x, adds the
next coefficient and subtracts the generator when x⁷ appears.

The checksum of a message is the remainder of the message times x⁷. The seven
places are those of the checksum itself, which a frame appends to the message.
-/

namespace CardCrc

open Polynomial

/-- The generator. -/
noncomputable def generator : (ZMod 2)[X] := X ^ 7 + X ^ 3 + 1

/-- A bit as an element of the field. -/
def coefficient (bit : Bool) : ZMod 2 := if bit then 1 else 0

/-- Exclusive or is addition. -/
theorem coefficient_xor (bit other : Bool) :
    coefficient (bit ^^ other) = coefficient bit + coefficient other := by
  cases bit <;> cases other <;> decide

namespace Message

/-- The polynomial of a run of bits, the first being the highest coefficient. -/
noncomputable def polynomial : List Bool → (ZMod 2)[X]
  | [] => 0
  | bit :: rest => C (coefficient bit) * X ^ rest.length + polynomial rest

/-- A bit that follows multiplies by x and becomes the constant term. -/
theorem polynomial_concat (bits : List Bool) (bit : Bool) :
    polynomial (bits ++ [bit]) = X * polynomial bits + C (coefficient bit) := by
  induction bits with
  | nil => simp [polynomial]
  | cons first rest inductionHypothesis =>
    simp only [List.cons_append, polynomial, inductionHypothesis, List.length_append,
      List.length_singleton, pow_succ]
    ring

/-- The coefficients are the bits, counted from the last one on. -/
theorem coeff_polynomial (bits : List Bool) (place : Nat) :
    (polynomial bits).coeff place = coefficient ((bits.reverse[place]?).getD false) := by
  induction bits using List.reverseRecOn generalizing place with
  | nil => simp [polynomial, coefficient]
  | append_singleton bits bit inductionHypothesis =>
    rw [polynomial_concat, coeff_add, List.reverse_append, List.reverse_singleton]
    cases place with
    | zero => simp
    | succ place => simp [coeff_X_mul, inductionHypothesis]

end Message

namespace Remainder

/-- The polynomial that a remainder stands for. -/
noncomputable def polynomial (remainder : Remainder) : (ZMod 2)[X] :=
  ∑ place ∈ Finset.range 7, C (coefficient (remainder.getLsbD place)) * X ^ place

/-- The coefficients are the bits, and there are none beyond the word. -/
theorem coeff_polynomial (remainder : Remainder) (place : Nat) :
    remainder.polynomial.coeff place = coefficient (remainder.getLsbD place) := by
  rw [polynomial, finsetSum_coeff]
  simp only [coeff_C_mul_X_pow, Finset.sum_ite_eq, Finset.mem_range]
  split
  case isTrue => rfl
  case isFalse outside =>
    rw [BitVec.getLsbD_of_ge remainder place (Nat.le_of_not_lt outside)]
    rfl

/-- A remainder is of smaller degree than the generator. -/
theorem degree_polynomial_lt (remainder : Remainder) : remainder.polynomial.degree < 7 := by
  apply (degree_lt_iff_coeff_zero _ 7).mpr
  intro place outside
  rw [coeff_polynomial, BitVec.getLsbD_of_ge remainder place outside]
  rfl

/-- Sums of remainders are sums of polynomials. -/
theorem polynomial_sum (first second : Remainder) :
    polynomial (first ^^^ second) = first.polynomial + second.polynomial := by
  ext place
  simp only [coeff_add, coeff_polynomial, BitVec.getLsbD_xor, coefficient_xor]

/-- Moving up multiplies by x, except that the top coefficient leaves the word. -/
theorem X_mul_polynomial (remainder : Remainder) :
    X * remainder.polynomial =
      C (coefficient remainder.msb) * X ^ 7 + polynomial (remainder <<< 1) := by
  ext place
  rw [coeff_add, coeff_C_mul_X_pow, coeff_polynomial, BitVec.getLsbD_shiftLeft]
  cases place with
  | zero => simp [coefficient]
  | succ place =>
    rw [coeff_X_mul, coeff_polynomial]
    by_cases top : place = 6
    · subst place
      simp [coefficient, BitVec.msb_eq_getLsbD_last]
    · by_cases inside : place < 6
      · simp [coefficient, top, show place + 1 < 7 by omega]
      · have absent : remainder.getLsbD place = false :=
          BitVec.getLsbD_of_ge remainder place (by omega)
        simp [coefficient, top, absent]

/-- The tap is what the generator has below its leading term. -/
theorem polynomial_scaled_tap (bit : Bool) :
    (scaled bit tap).polynomial = C (coefficient bit) * (X ^ 3 + 1) := by
  cases bit <;> simp [scaled, tap, polynomial, coefficient, Finset.sum_range_succ, add_comm]

/-- A single bit is a constant. -/
theorem polynomial_scaled_one (bit : Bool) :
    (scaled bit 1#7).polynomial = C (coefficient bit) := by
  cases bit <;> simp [scaled, polynomial, coefficient]

/-- Multiplying a remainder by x subtracts the generator at most once, exactly
when the top coefficient is set. -/
theorem polynomial_timesX (remainder : Remainder) :
    X * remainder.polynomial =
      C (coefficient remainder.msb) * generator + remainder.timesX.polynomial := by
  have twice : (2 : (ZMod 2)[X]) = 0 := CharTwo.two_eq_zero
  rw [timesX, polynomial_sum, polynomial_scaled_tap, X_mul_polynomial, generator]
  linear_combination -(C (coefficient remainder.msb) * (X ^ 3 + 1)) * twice

/-- Multiplying by a power of x changes the polynomial by a multiple of the
generator. -/
theorem iterate_division (count : Nat) (remainder : Remainder) :
    ∃ quotient, X ^ count * remainder.polynomial =
      quotient * generator + (timesX^[count] remainder).polynomial := by
  induction count with
  | zero => exact ⟨0, by simp⟩
  | succ count inductionHypothesis =>
    obtain ⟨quotient, divided⟩ := inductionHypothesis
    have step := polynomial_timesX (timesX^[count] remainder)
    refine ⟨X * quotient + C (coefficient (timesX^[count] remainder).msb), ?_⟩
    rw [Function.iterate_succ_apply']
    linear_combination X * divided + step

/-- Long division of a run of bits leaves its remainder by the generator. The
quotient grows by one coefficient with every bit, the one that the step found on
top. -/
theorem ofBits_division (bits : List Bool) :
    ∃ quotient, Message.polynomial bits = quotient * generator + (ofBits bits).polynomial := by
  induction bits using List.reverseRecOn with
  | nil => exact ⟨0, by simp [Message.polynomial, ofBits, polynomial, coefficient]⟩
  | append_singleton bits bit inductionHypothesis =>
    obtain ⟨quotient, divided⟩ := inductionHypothesis
    have step := polynomial_timesX (ofBits bits)
    refine ⟨X * quotient + C (coefficient (ofBits bits).msb), ?_⟩
    rw [Message.polynomial_concat, ofBits_concat, bringDown, polynomial_sum,
      polynomial_scaled_one]
    linear_combination X * divided + step

end Remainder

namespace Register

/-- The checksum of a message is the remainder of its polynomial times x⁷ by the
generator x⁷ + x³ + 1. The message's bits are the coefficients of the dividend,
the last bit being the constant term, and the checksum's bits are those of the
remainder. The checksum byte holds twice the checksum plus one.

The division of the message and the division of its remainder times x⁷ each have
a quotient; the whole quotient is the first moved up, plus the second. -/
theorem value_is_remainder (message : List UInt8) :
    ∃ dividend quotient remainder : (ZMod 2)[X],
      (∀ place, dividend.coeff place =
        coefficient (((Message.bits message).reverse[place]?).getD false)) ∧
      dividend * X ^ 7 = quotient * (X ^ 7 + X ^ 3 + 1) + remainder ∧
      remainder.degree < 7 ∧
      (∀ place, remainder.coeff place =
        coefficient ((empty.append message).value.toBitVec.getLsbD place)) ∧
      (empty.append message).framed.toNat = 2 * (empty.append message).value.toNat + 1 ∧
      (crc7 message).toNat = 2 * (empty.append message).value.toNat + 1 := by
  let bits := Message.bits message
  obtain ⟨short, shortDivision⟩ := Remainder.ofBits_division bits
  obtain ⟨long, longDivision⟩ := Remainder.iterate_division 7 (Remainder.ofBits bits)
  have left : (empty.append message).remainder = Remainder.timesX^[7] (Remainder.ofBits bits) := by
    rw [append_eq_appendBits, remainder_empty_appendBits]
  have framed := framed_toNat (empty.append message)
  refine ⟨Message.polynomial bits, short * X ^ 7 + long,
    (empty.append message).remainder.polynomial, Message.coeff_polynomial bits, ?_,
    Remainder.degree_polynomial_lt _, ?_, framed, framed⟩
  · rw [left]
    change _ = _ * generator + _
    linear_combination X ^ 7 * shortDivision + longDivision
  · intro place
    rw [Remainder.coeff_polynomial, getLsbD_value]

end Register

end CardCrc
