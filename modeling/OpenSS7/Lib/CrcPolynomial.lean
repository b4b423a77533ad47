import Mathlib.Algebra.Polynomial.FieldDivision
import Mathlib.Algebra.Field.ZMod
import Mathlib.Tactic.Ring
import OpenSS7.Lib.Crc

/-!
The shift register of a cyclic redundancy check as a remainder of polynomials:
the bit that is shifted out first is the highest coefficient.
-/

namespace Crc

open Polynomial

variable {w : Nat} (poly : BitVec w)

def bitsOf (reg : BitVec w) : List Bool := (List.range w).map reg.getLsbD

def ofBits (w : Nat) (bits : List Bool) : BitVec w :=
  (BitVec.ofBoolListLE bits).setWidth w

@[simp] theorem length_bitsOf (reg : BitVec w) : (bitsOf reg).length = w := by
  simp [bitsOf]

theorem bitsOf_ofBits {bits : List Bool} (width : bits.length = w) :
    bitsOf (ofBits w bits) = bits := by
  apply List.ext_getElem (by simp [width])
  intro i inside _
  have bound : i < w := by simpa using inside
  simp only [bitsOf, ofBits, List.getElem_map, List.getElem_range,
    BitVec.getLsbD_setWidth, BitVec.getLsbD_ofBoolListLE]
  simp [bound, width]

theorem bitsOf_injective : Function.Injective (bitsOf (w := w)) := by
  intro x y same
  apply BitVec.eq_of_getLsbD_eq
  intro i bound
  have bit := congrArg (fun bits => bits.getD i false) same
  simpa [bitsOf, bound] using bit

def coefficient (bit : Bool) : ZMod 2 := if bit then 1 else 0

/-- The bits as a polynomial, the first the highest. -/
noncomputable def bitPoly : List Bool → (ZMod 2)[X]
  | [] => 0
  | bit :: bits => C (coefficient bit) * X ^ bits.length + bitPoly bits

theorem degree_bitPoly (bits : List Bool) :
    (bitPoly bits).degree < bits.length := by
  induction bits with
  | nil => simp [bitPoly]
  | cons bit bits ih =>
      rw [bitPoly, List.length_cons]
      refine (degree_add_le _ _).trans_lt (max_lt ?_ ?_)
      · exact (degree_C_mul_X_pow_le _ _).trans_lt
          (by exact_mod_cast Nat.lt_succ_self _)
      · exact ih.trans (by exact_mod_cast Nat.lt_succ_self _)

theorem bitPoly_append (first rest : List Bool) :
    bitPoly (first ++ rest) = X ^ rest.length * bitPoly first + bitPoly rest := by
  induction first with
  | nil => simp [bitPoly]
  | cons bit bits ih =>
      rw [List.cons_append, bitPoly, bitPoly, ih, List.length_append]
      ring

theorem bitPoly_injective {xs ys : List Bool}
    (length : xs.length = ys.length) (same : bitPoly xs = bitPoly ys) :
    xs = ys := by
  induction xs generalizing ys with
  | nil => exact (List.eq_nil_of_length_eq_zero length.symm).symm
  | cons x xs ih =>
      cases ys with
      | nil => cases length
      | cons y ys =>
          have rest : xs.length = ys.length := Nat.succ.inj length
          rw [bitPoly, bitPoly, rest] at same
          have highest := congrArg (fun p => p.coeff ys.length) same
          simp only [coeff_add, coeff_C_mul, coeff_X_pow_self, mul_one] at highest
          rw [coeff_eq_zero_of_degree_lt (degree_bitPoly ys),
            coeff_eq_zero_of_degree_lt (rest ▸ degree_bitPoly xs), add_zero,
            add_zero] at highest
          have head : x = y := by
            cases x <;> cases y <;> simp_all [coefficient]
          rw [head, ih rest (add_left_cancel (head ▸ same))]

theorem bitPoly_xor {α : Type} (f g : α → Bool) (places : List α) :
    bitPoly (places.map fun i => f i ^^ g i) =
      bitPoly (places.map f) + bitPoly (places.map g) := by
  induction places with
  | nil => simp [bitPoly]
  | cons i places ih =>
      have bit : coefficient (f i ^^ g i) =
          coefficient (f i) + coefficient (g i) := by
        cases f i <;> cases g i <;> decide
      simp only [List.map_cons, bitPoly, List.length_map, ih, bit, map_add]
      ring

noncomputable def toPoly (reg : BitVec w) : (ZMod 2)[X] := bitPoly (bitsOf reg)

theorem degree_toPoly (reg : BitVec w) : (toPoly reg).degree < w := by
  have low := degree_bitPoly (bitsOf reg)
  rwa [length_bitsOf] at low

theorem toPoly_injective : Function.Injective (toPoly (w := w)) :=
  fun x y same => bitsOf_injective
    (bitPoly_injective (by simp) same)

theorem toPoly_xor (x y : BitVec w) :
    toPoly (x ^^^ y) = toPoly x + toPoly y := by
  unfold toPoly bitsOf
  rw [← bitPoly_xor]
  congr 2
  funext i
  exact BitVec.getLsbD_xor

theorem toPoly_zero : toPoly (0#w) = 0 := by
  have twice := toPoly_xor (0#w) 0#w
  rw [BitVec.xor_self] at twice
  exact left_eq_add.mp twice

theorem X_mul_toPoly (reg : BitVec w) :
    X * toPoly reg =
      toPoly (reg >>> 1) + C (coefficient (reg.getLsbD 0)) * X ^ w := by
  cases w with
  | zero => simp [toPoly, bitsOf, bitPoly, coefficient]
  | succ w =>
      have bits : bitsOf reg =
          reg.getLsbD 0 :: (List.range w).map fun i => reg.getLsbD (i + 1) := by
        simp [bitsOf, List.range_succ_eq_map, Function.comp_def]
      have moved : bitsOf (reg >>> 1) =
          (List.range w).map (fun i => reg.getLsbD (i + 1)) ++ [false] := by
        simp [bitsOf, List.range_succ, Nat.add_comm]
      have last : bitPoly [false] = 0 := by simp [bitPoly, coefficient]
      rw [toPoly, toPoly, bits, moved, bitPoly_append, bitPoly, last,
        List.length_map, List.length_range, List.length_singleton]
      ring

/-- The divisor: the polynomial with its highest power. -/
noncomputable def generator : (ZMod 2)[X] := X ^ w + toPoly poly.reverse

theorem degree_generator : (generator poly).degree = w := by
  rw [generator, degree_add_eq_left_of_degree_lt
    (by rw [degree_X_pow]; exact degree_toPoly _), degree_X_pow]

theorem toPoly_shift (reg : BitVec w) :
    ∃ c, toPoly (shift poly reg) = X * toPoly reg + generator poly * c := by
  rw [X_mul_toPoly, shift, toPoly_xor]
  cases reg.getLsbD 0 with
  | false => exact ⟨0, by simp [toPoly_zero, coefficient]⟩
  | true =>
      refine ⟨1, ?_⟩
      have twice : (X : (ZMod 2)[X]) ^ w + X ^ w = 0 := CharTwo.add_self_eq_zero _
      simp only [if_true, coefficient, map_one, one_mul, mul_one, generator]
      rw [add_assoc, ← add_assoc (X ^ w), twice, zero_add]

theorem X_mul_toPoly_bit (positive : 0 < w) (bit : Bool) :
    X * toPoly ((BitVec.ofBool bit).setWidth w) =
      C (coefficient bit) * X ^ w := by
  have none : (BitVec.ofBool bit).setWidth w >>> 1 = 0#w := by
    apply BitVec.eq_of_getLsbD_eq
    intro i _
    rw [BitVec.getLsbD_ushiftRight, getLsbD_bit]
    simp
  simp [X_mul_toPoly, none, toPoly_zero, positive]

theorem toPoly_foldl_serial (positive : 0 < w) (reg : BitVec w)
    (bits : List Bool) :
    toPoly (bits.foldl (serial poly) reg) =
      (X ^ bits.length * toPoly reg + X ^ w * bitPoly bits) %ₘ
        generator poly := by
  have monic : (generator poly).Monic := monic_X_pow_add (degree_toPoly _)
  have congruent : ∃ c, toPoly (bits.foldl (serial poly) reg) +
      generator poly * c =
        X ^ bits.length * toPoly reg + X ^ w * bitPoly bits := by
    induction bits generalizing reg with
    | nil => exact ⟨0, by simp [bitPoly]⟩
    | cons bit bits ih =>
        obtain ⟨c, first⟩ := toPoly_shift poly
          (reg ^^^ (BitVec.ofBool bit).setWidth w)
        obtain ⟨d, rest⟩ := ih (serial poly reg bit)
        rw [toPoly_xor, mul_add, X_mul_toPoly_bit positive] at first
        refine ⟨d - X ^ bits.length * c, ?_⟩
        rw [List.foldl_cons, mul_sub, ← add_sub_assoc, rest, serial, first,
          bitPoly, List.length_cons]
        ring
  obtain ⟨c, eq⟩ := congruent
  exact ((div_modByMonic_unique c _ monic
    ⟨eq, (degree_generator poly).symm ▸ degree_toPoly _⟩).2).symm

theorem isCoprime_generator (odd : poly.getLsbD 0 = true) (k : Nat) :
    IsCoprime (generator poly) (X ^ k) := by
  have positive : 0 < w := BitVec.lt_of_getLsbD odd
  have prime : Irreducible (X : (ZMod 2)[X]) := irreducible_X
  refine (prime.coprime_iff_not_dvd.mpr fun divides => ?_).symm.pow_right
  have none := X_dvd_iff.mp divides
  obtain ⟨w, rfl⟩ : ∃ v, w = v + 1 := ⟨w - 1, by omega⟩
  rw [generator, coeff_add, coeff_X_pow, if_neg (by omega), zero_add, toPoly,
    bitsOf, List.range_succ, List.map_append, bitPoly_append, coeff_add] at none
  simp [bitPoly, coefficient, BitVec.getLsbD_reverse, BitVec.getMsbD, odd] at none

/-- Bits that differ only within the width of the register leave it different. -/
theorem foldl_serial_burst (odd : poly.getLsbD 0 = true) (reg : BitVec w)
    {before bits bits' after : List Bool} (length : bits.length = bits'.length)
    (short : bits.length ≤ w)
    (same : (before ++ bits ++ after).foldl (serial poly) reg =
      (before ++ bits' ++ after).foldl (serial poly) reg) : bits = bits' := by
  have positive : 0 < w := BitVec.lt_of_getLsbD odd
  have monic : (generator poly).Monic := monic_X_pow_add (degree_toPoly _)
  have remainders := congrArg toPoly same
  rw [toPoly_foldl_serial _ positive, toPoly_foldl_serial _ positive,
    ← sub_eq_zero, ← sub_modByMonic, modByMonic_eq_zero_iff_dvd monic] at remainders
  have difference : X ^ (before ++ bits ++ after).length * toPoly reg +
      X ^ w * bitPoly (before ++ bits ++ after) -
        (X ^ (before ++ bits' ++ after).length * toPoly reg +
          X ^ w * bitPoly (before ++ bits' ++ after)) =
      X ^ (w + after.length) * (bitPoly bits - bitPoly bits') := by
    simp only [List.length_append, length, bitPoly_append]
    ring
  rw [difference] at remainders
  have divides := (isCoprime_generator poly odd _).dvd_of_dvd_mul_left remainders
  have low : (bitPoly bits - bitPoly bits').degree < (generator poly).degree := by
    rw [degree_generator]
    refine (degree_sub_le _ _).trans_lt (max_lt ?_ ?_)
    · exact (degree_bitPoly bits).trans_le (by exact_mod_cast short)
    · exact (degree_bitPoly bits').trans_le (by exact_mod_cast length ▸ short)
  exact bitPoly_injective length
    (sub_eq_zero.mp (eq_zero_of_dvd_of_degree_lt divides low))

end Crc
