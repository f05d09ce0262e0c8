import CardCrc.Proofs.Register.Linearity
import Mathlib.Dynamics.PeriodicPts.Lemmas
import Mathlib.Tactic.NormNum.Prime

/-!
# Remainders by the generator

The low seven bits of a register are a remainder of division by the generator
x⁷ + x³ + 1, written as a word of seven bits with the coefficient of x⁶ on top.
Multiplying a remainder by x moves it up one place; a coefficient that leaves at
the top stands for x⁷ and is replaced by x³ + 1. Long division of a run of bits
multiplies what it has by x and adds the next bit.

Seven multiplications by x are three of them and one copy more. Everything about
the cycle of remainders follows from this one law and from linearity: repeated
squaring gives the period 127, no remainder but zero stands still, and as 127 is
prime every other remainder returns after 127 steps and their multiples only.

A register is the remainder of its input taken seven places further up, so that
it vanishes exactly when the remainder of the input does.
-/

namespace CardCrc

/-- A polynomial of degree below seven, its coefficients as bits with the
highest on top. -/
abbrev Remainder := BitVec 7

namespace Remainder

/-- The generator without its leading term, which is what the leading term is
equal to. -/
def tap : Remainder := 0x09

/-- A remainder taken once or not at all. -/
def scaled (bit : Bool) (remainder : Remainder) : Remainder := if bit then remainder else 0#7

/-- The remainder times x. -/
def timesX (remainder : Remainder) : Remainder := (remainder <<< 1) ^^^ scaled remainder.msb tap

/-- One step of long division: times x, plus the next bit. -/
def bringDown (remainder : Remainder) (bit : Bool) : Remainder :=
  timesX remainder ^^^ scaled bit 1#7

/-- The remainder of a run of bits, the first being the coefficient of the
highest power. -/
def ofBits (bits : List Bool) : Remainder := bits.foldl bringDown 0#7

/-- A sum of coefficients takes the remainder for each of them. -/
theorem scaled_xor (bit other : Bool) (remainder : Remainder) :
    scaled (bit ^^ other) remainder = scaled bit remainder ^^^ scaled other remainder := by
  cases bit <;> cases other <;> simp [scaled]

/-- Multiplying by x is linear. -/
theorem timesX_sum (first second : Remainder) :
    timesX (first ^^^ second) = timesX first ^^^ timesX second := by
  simp only [timesX, BitVec.shiftLeft_xor_distrib, BitVec.msb_xor, scaled_xor]
  ac_rfl

/-- Multiplying by a power of x is linear. -/
theorem iterate_sum (count : Nat) (first second : Remainder) :
    timesX^[count] (first ^^^ second) = timesX^[count] first ^^^ timesX^[count] second := by
  induction count generalizing first second with
  | zero => rfl
  | succ count inductionHypothesis =>
    simp only [Function.iterate_succ_apply, timesX_sum, inductionHypothesis]

/-- Zero stays zero. -/
theorem iterate_zero (count : Nat) : timesX^[count] 0#7 = 0#7 :=
  Function.iterate_fixed (by decide) count

/-- A coefficient may be applied before or after multiplying. -/
theorem iterate_scaled (count : Nat) (bit : Bool) (remainder : Remainder) :
    timesX^[count] (scaled bit remainder) = scaled bit (timesX^[count] remainder) := by
  cases bit with
  | false => exact iterate_zero count
  | true => rfl

/-- The generator vanishes: x⁷ is x³ + 1, whatever it multiplies. -/
theorem iterate_seven (remainder : Remainder) :
    timesX^[7] remainder = timesX^[3] remainder ^^^ remainder := by
  revert remainder
  decide +kernel

/-- The seventh power of x itself. -/
theorem iterate_seven_one : timesX^[7] 1#7 = tap := by decide

/-- A law of this shape may be squared: the mixed terms cancel. -/
theorem iterate_doubled (high low : Nat)
    (law : ∀ remainder, timesX^[high] remainder = timesX^[low] remainder ^^^ remainder)
    (remainder : Remainder) :
    timesX^[2 * high] remainder = timesX^[2 * low] remainder ^^^ remainder := by
  calc
    timesX^[2 * high] remainder = timesX^[high] (timesX^[high] remainder) := by
      rw [Nat.two_mul, Function.iterate_add_apply]
    _ = timesX^[low] (timesX^[low] remainder ^^^ remainder) ^^^
          (timesX^[low] remainder ^^^ remainder) := by rw [law, law]
    _ = timesX^[2 * low] remainder ^^^ remainder := by
      rw [iterate_sum, Nat.two_mul, Function.iterate_add_apply, BitVec.xor_assoc,
        ← BitVec.xor_assoc (timesX^[low] remainder), BitVec.xor_self, BitVec.zero_xor]

/-- Every remainder returns after 127 multiplications by x. Squaring four times
leads from x⁷ to x¹¹², and the fifteen places left are taken apart by the laws
met on the way: x¹²⁷ is x⁶³ + x¹⁵, x⁶³ is x³¹ + x⁷ and x³¹ is x¹⁵ + x³. -/
theorem iterate_period (remainder : Remainder) : timesX^[127] remainder = remainder := by
  have fourteen := iterate_doubled 7 3 iterate_seven
  have twentyEight := iterate_doubled 14 6 fourteen
  have fiftySix := iterate_doubled 28 12 twentyEight
  have hundredTwelve := iterate_doubled 56 24 fiftySix
  have at31 : timesX^[31] remainder = timesX^[15] remainder ^^^ timesX^[3] remainder := by
    rw [Function.iterate_add_apply timesX 28 3, twentyEight, ← Function.iterate_add_apply]
  have at63 : timesX^[63] remainder = timesX^[31] remainder ^^^ timesX^[7] remainder := by
    rw [Function.iterate_add_apply timesX 56 7, fiftySix, ← Function.iterate_add_apply]
  have at127 : timesX^[127] remainder = timesX^[63] remainder ^^^ timesX^[15] remainder := by
    rw [Function.iterate_add_apply timesX 112 15, hundredTwelve, ← Function.iterate_add_apply]
  calc
    timesX^[127] remainder =
        timesX^[15] remainder ^^^ (timesX^[3] remainder ^^^ timesX^[7] remainder) ^^^
          timesX^[15] remainder := by
      rw [at127, at63, at31, BitVec.xor_assoc (timesX^[15] remainder)]
    _ = timesX^[3] remainder ^^^ timesX^[7] remainder := by
      rw [BitVec.xor_comm (timesX^[15] remainder), BitVec.xor_assoc, BitVec.xor_self,
        BitVec.xor_zero]
    _ = remainder := by
      rw [iterate_seven, ← BitVec.xor_assoc, BitVec.xor_self, BitVec.zero_xor]

/-- Only zero stands still: for a fixed remainder the law of the generator says
that it is twice itself. -/
theorem timesX_eq_self (remainder : Remainder) (fixed : timesX remainder = remainder) :
    remainder = 0#7 := by
  have law := iterate_seven remainder
  rw [Function.iterate_fixed fixed, Function.iterate_fixed fixed, BitVec.xor_self] at law
  exact law

/-- Every remainder but zero returns after the multiples of 127 and no other
number of steps, since its period divides a prime and is not one. -/
theorem iterate_eq_self_iff (count : Nat) (remainder : Remainder) (nonzero : remainder ≠ 0#7) :
    timesX^[count] remainder = remainder ↔ 127 ∣ count := by
  have prime : Fact (Nat.Prime 127) := ⟨by norm_num⟩
  have period : Function.minimalPeriod timesX remainder = 127 :=
    Function.minimalPeriod_eq_prime (iterate_period remainder)
      fun fixed => nonzero (timesX_eq_self remainder fixed)
  rw [← period]
  exact Function.isPeriodicPt_iff_minimalPeriod_dvd

/-- No two remainders have the same multiple, as both would return to it. -/
theorem timesX_injective : Function.Injective timesX := by
  intro first second same
  have further : timesX^[127] first = timesX^[127] second := by
    simp only [Function.iterate_succ_apply timesX 126, same]
  simpa only [iterate_period] using further

/-- Every remainder is a multiple by each power of x. To find what it is a multiple
of, go on round the cycle. -/
theorem iterate_surjective (count : Nat) : Function.Surjective timesX^[count] := by
  intro remainder
  have round : timesX^[127 * count] remainder = remainder := by
    rw [Function.iterate_mul]
    exact Function.iterate_fixed (iterate_period remainder) count
  refine ⟨timesX^[126 * count] remainder, ?_⟩
  calc
    timesX^[count] (timesX^[126 * count] remainder) = timesX^[127 * count] remainder := by
      rw [← Function.iterate_add_apply, show count + 126 * count = 127 * count by omega]
    _ = remainder := round

/-- Multiplying by powers of x neither makes a remainder vanish nor brings one
back. -/
theorem iterate_eq_zero_iff (count : Nat) (remainder : Remainder) :
    timesX^[count] remainder = 0#7 ↔ remainder = 0#7 := by
  constructor
  · intro vanished
    exact timesX_injective.iterate count (vanished.trans (iterate_zero count).symm)
  · rintro rfl
    exact iterate_zero count

/-- Two multiples by powers of x are the same exactly when the remainder is zero
or the powers are a multiple of 127 apart: seen from the smaller power, the
larger one has gone round the cycle a whole number of times. -/
theorem iterate_eq_iterate_iff (less more : Nat) (ordered : less ≤ more)
    (remainder : Remainder) :
    timesX^[more] remainder = timesX^[less] remainder ↔
      remainder = 0#7 ∨ 127 ∣ more - less := by
  have split : timesX^[more] remainder = timesX^[less] (timesX^[more - less] remainder) := by
    rw [← Function.iterate_add_apply, Nat.add_sub_cancel' ordered]
  rw [split, (timesX_injective.iterate less).eq_iff]
  by_cases vanished : remainder = 0#7
  · simp only [vanished, iterate_zero, true_or]
  · simp only [vanished, false_or, iterate_eq_self_iff _ remainder vanished]

/-- One more bit is one more step of the division. -/
theorem ofBits_concat (bits : List Bool) (bit : Bool) :
    ofBits (bits ++ [bit]) = bringDown (ofBits bits) bit := by
  simp [ofBits]

/-- Bits that follow move the remainder of those before them up. -/
theorem ofBits_append (first second : List Bool) :
    ofBits (first ++ second) = timesX^[second.length] (ofBits first) ^^^ ofBits second := by
  induction second using List.reverseRecOn with
  | nil => simp [ofBits]
  | append_singleton second bit inductionHypothesis =>
    calc
      ofBits (first ++ (second ++ [bit])) = bringDown (ofBits (first ++ second)) bit := by
        rw [← List.append_assoc, ofBits_concat]
      _ = timesX (timesX^[second.length] (ofBits first) ^^^ ofBits second) ^^^ scaled bit 1#7 := by
        rw [inductionHypothesis, bringDown]
      _ = timesX^[(second ++ [bit]).length] (ofBits first) ^^^ ofBits (second ++ [bit]) := by
        rw [timesX_sum, BitVec.xor_assoc, ofBits_concat, bringDown, List.length_append,
          List.length_singleton, Function.iterate_succ_apply']

/-- Clear bits leave nothing. -/
theorem ofBits_clear (bits : List Bool) (clear : true ∉ bits) : ofBits bits = 0#7 := by
  induction bits using List.reverseRecOn with
  | nil => rfl
  | append_singleton bits bit inductionHypothesis =>
    have lastClear : bit = false := by
      cases bit with
      | false => rfl
      | true => exact absurd (List.mem_append_right bits List.mem_cons_self) clear
    have restClear : true ∉ bits := fun member => clear (List.mem_append_left _ member)
    rw [ofBits_concat, inductionHypothesis restClear, lastClear]
    rfl

/-- Clear bits in front of others do not matter. -/
theorem ofBits_clear_append (lead bits : List Bool) (leadClear : true ∉ lead) :
    ofBits (lead ++ bits) = ofBits bits := by
  rw [ofBits_append, ofBits_clear lead leadClear, iterate_zero, BitVec.zero_xor]

/-- Clear bits behind others only move their remainder up. -/
theorem ofBits_append_clear (bits tail : List Bool) (tailClear : true ∉ tail) :
    ofBits (bits ++ tail) = timesX^[tail.length] (ofBits bits) := by
  rw [ofBits_append, ofBits_clear tail tailClear, BitVec.xor_zero]

/-- At most seven bits are their own remainder, the last of them being the
constant term. Nothing leaves at the top as long as one of the seven places is
still unused. -/
theorem getLsbD_ofBits (bits : List Bool) (short : bits.length ≤ 7) (place : Nat) :
    (ofBits bits).getLsbD place = (bits.reverse[place]?).getD false := by
  induction bits using List.reverseRecOn generalizing place with
  | nil => simp [ofBits]
  | append_singleton bits bit inductionHypothesis =>
    have shorter : bits.length ≤ 6 := by
      rw [List.length_append, List.length_singleton] at short
      omega
    have noOverflow : (ofBits bits).msb = false := by
      rw [BitVec.msb_eq_getLsbD_last, inductionHypothesis (by omega)]
      simp [shorter]
    rw [ofBits_concat, bringDown, timesX, noOverflow]
    cases place with
    | zero => cases bit <;> simp [scaled]
    | succ place =>
      have above := inductionHypothesis (by omega) place
      have inside : (bits.reverse[place]?).getD false = true → place + 1 < 7 := by
        intro present
        by_contra outside
        simp [show bits.length ≤ place by omega] at present
      cases bit <;> simpa [scaled, above] using inside

end Remainder

namespace Register

/-- The seven checksum bits of a register as a remainder. -/
def remainder (register : Register) : Remainder := register.toBitVec.setWidth 7

/-- The remainder of a sum of registers. -/
theorem remainder_sum (first second : Register) :
    remainder (first ^^^ second) = first.remainder ^^^ second.remainder := by
  simp [remainder]

/-- The checksum bits of a register are its remainder. -/
theorem getLsbD_value (register : Register) (place : Nat) :
    register.value.toBitVec.getLsbD place = register.remainder.getLsbD place := by
  have mask : checksumMask.toBitVec.getLsbD place = decide (place < 7) := by
    change (255#8 >>> 1).getLsbD place = _
    rw [show 255#8 = BitVec.allOnes 8 from rfl, BitVec.getLsbD_ushiftRight, BitVec.getLsbD_allOnes]
    exact decide_eq_decide.mpr (by omega)
  simp [value, remainder, mask, Bool.and_comm]

/-- The checksum is the register without its top bit. -/
theorem value_toNat (register : Register) : register.value.toNat = register.toNat % 128 :=
  Nat.and_two_pow_sub_one_eq_mod register.toNat 7

/-- Framing doubles the checksum and adds the stop bit. -/
theorem framed_toNat (register : Register) :
    register.framed.toNat = 2 * register.value.toNat + 1 := by
  have moved : (register <<< 1).toNat = 2 ^ 1 * register.value.toNat := by
    rw [value_toNat, UInt8.toNat_shiftLeft, Nat.shiftLeft_eq]
    change register.toNat * 2 % 256 = 2 * (register.toNat % 128)
    omega
  calc
    register.framed.toNat = 2 ^ 1 * register.value.toNat ||| 1 := by
      rw [← moved]
      exact UInt8.toNat_or (register <<< 1) stopBit
    _ = 2 * register.value.toNat + 1 :=
      (Nat.two_pow_add_eq_or_of_lt (by decide) register.value.toNat).symm

/-- A step multiplies by x and adds the tap for a set bit: the bit enters at the
place of x⁷. -/
theorem remainder_shiftIn (register : Register) (bit : Bool) :
    (register.shiftIn bit).remainder =
      register.remainder.timesX ^^^ Remainder.scaled bit Remainder.tap := by
  have moved : remainder (register <<< 1) = register.remainder <<< 1 := by
    simp [remainder]
  have top : (register <<< 1).toBitVec.msb = register.remainder.msb := by
    simp [remainder, BitVec.msb_eq_getMsbD_zero]
  have corrected : remainder (correction (register.feedback bit)) =
      Remainder.scaled bit Remainder.tap ^^^
        Remainder.scaled register.remainder.msb Remainder.tap := by
    rw [feedback, top]
    cases bit <;> cases register.remainder.msb <;> rfl
  rw [shiftIn_eq_correction, remainder_sum, moved, corrected, Remainder.timesX]
  ac_rfl

/-- A register is what it held before, moved up by the number of bits, plus the
remainder of the bits moved up by seven. -/
theorem remainder_appendBits (register : Register) (bits : List Bool) :
    (register.appendBits bits).remainder =
      Remainder.timesX^[bits.length] register.remainder ^^^
        Remainder.timesX^[7] (Remainder.ofBits bits) := by
  induction bits using List.reverseRecOn with
  | nil =>
    change register.remainder = register.remainder ^^^ Remainder.timesX^[7] 0#7
    rw [Remainder.iterate_zero]
    exact BitVec.xor_zero.symm
  | append_singleton bits bit inductionHypothesis =>
    have step : register.appendBits (bits ++ [bit]) = (register.appendBits bits).shiftIn bit := by
      rw [appendBits_append]
      rfl
    have brought : Remainder.timesX^[7] (Remainder.ofBits (bits ++ [bit])) =
        Remainder.timesX (Remainder.timesX^[7] (Remainder.ofBits bits)) ^^^
          Remainder.scaled bit Remainder.tap := by
      rw [Remainder.ofBits_concat, Remainder.bringDown, Remainder.iterate_sum,
        Remainder.iterate_scaled, Remainder.iterate_seven_one, ← Function.iterate_succ_apply,
        Function.iterate_succ_apply']
    rw [step, remainder_shiftIn, inductionHypothesis, Remainder.timesX_sum, brought,
      List.length_append, List.length_singleton,
      Function.iterate_succ_apply' Remainder.timesX bits.length, BitVec.xor_assoc]

/-- The empty register is left with the remainder of its input alone. -/
theorem remainder_empty_appendBits (bits : List Bool) :
    (empty.appendBits bits).remainder = Remainder.timesX^[7] (Remainder.ofBits bits) := by
  rw [remainder_appendBits, show empty.remainder = 0#7 from rfl, Remainder.iterate_zero,
    BitVec.zero_xor]

end Register

namespace Remainder

/-- The remainder of a sum is the sum of the remainders, because the register
that divides is linear. -/
theorem ofBits_sum (bits others : List Bool) (sameLength : bits.length = others.length) :
    ofBits (List.zipWith (· ^^ ·) bits others) = ofBits bits ^^^ ofBits others := by
  have linear := Register.appendBits_xor Register.empty Register.empty bits others sameLength
  rw [show Register.empty ^^^ Register.empty = Register.empty from rfl] at linear
  apply timesX_injective.iterate 7
  calc
    timesX^[7] (ofBits (List.zipWith (· ^^ ·) bits others)) =
        (Register.empty.appendBits (List.zipWith (· ^^ ·) bits others)).remainder :=
      (Register.remainder_empty_appendBits _).symm
    _ = timesX^[7] (ofBits bits) ^^^ timesX^[7] (ofBits others) := by
      rw [linear, Register.remainder_sum, Register.remainder_empty_appendBits,
        Register.remainder_empty_appendBits]
    _ = timesX^[7] (ofBits bits ^^^ ofBits others) := (iterate_sum 7 _ _).symm

/-- The remainder of a sum of bytes. -/
theorem ofBits_inputBits_xor (byte other : UInt8) :
    ofBits (Register.inputBits (byte ^^^ other)) =
      ofBits (Register.inputBits byte) ^^^ ofBits (Register.inputBits other) := by
  have sameWidth : (Register.inputBits byte).length = (Register.inputBits other).length := by
    rw [Register.length_inputBits, Register.length_inputBits]
  rw [Register.inputBits_xor, ofBits_sum _ _ sameWidth]

/-- Bytes that follow move the remainder of those before them up by eight places
each. -/
theorem ofBits_bits_append (front rest : List UInt8) :
    ofBits (Message.bits (front ++ rest)) =
      timesX^[8 * rest.length] (ofBits (Message.bits front)) ^^^ ofBits (Message.bits rest) := by
  rw [Message.bits_append, ofBits_append, Message.length_bits]

/-- A message taken apart at one of its bytes: what stands in front is moved up by
one byte more than the byte itself. -/
theorem ofBits_bits_around (front rest : List UInt8) (byte : UInt8) :
    ofBits (Message.bits (front ++ byte :: rest)) =
      timesX^[8 * (rest.length + 1)] (ofBits (Message.bits front)) ^^^
        (timesX^[8 * rest.length] (ofBits (Register.inputBits byte)) ^^^
          ofBits (Message.bits rest)) := by
  rw [ofBits_bits_append, List.length_cons, Message.bits_cons, ofBits_append, Message.length_bits]

end Remainder

end CardCrc
