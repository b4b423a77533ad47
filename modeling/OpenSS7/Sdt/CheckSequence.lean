import Mathlib.Dynamics.PeriodicPts.Defs
import Mathlib.NumberTheory.Divisors
import OpenSS7.Lib.CrcPolynomial

/-!
The check octets of a signal unit: the register that is updated from `bc_table`,
and the remainder that Q.703 has in its place.
-/

namespace OpenSS7.Sdt

open Crc Polynomial

def bcTableValue (bitString : BitVec 16) : Nat → BitVec 16
  | 0 => bitString
  | bitLength + 1 =>
      bcTableValue
        (if bitString.getLsbD 0 then bitString >>> 1 ^^^ 0x8408
        else bitString >>> 1) bitLength

/-- The entries of `bc_table` for eight bits. -/
def bcTable (index : BitVec 8) : BitVec 16 :=
  bcTableValue (index.setWidth 16) 8

def bccUpdate (bcc : BitVec 16) (octet : UInt8) : BitVec 16 :=
  bcc >>> 8 ^^^ bcTable ((bcc ^^^ octet.toBitVec.setWidth 16).setWidth 8)

def blockCheck (message : List UInt8) : BitVec 16 :=
  message.foldl bccUpdate 0x00ff#16

/-- The octets, the lowest bit of each first. -/
def lineBits (octets : List UInt8) : List Bool :=
  octets.flatMap fun octet => bitsOf octet.toBitVec

/-- The first octet of `TX_MODE_BCC` goes out at the end of `TX_MODE_MOF`. -/
def bccOctets (bcc : BitVec 16) : List UInt8 :=
  [.ofBitVec (bcc.setWidth 8), .ofBitVec ((bcc >>> 8).setWidth 8)]

/-- The sixteen check bits of Q.703, the first to be sent the highest. -/
noncomputable def q703 (message : List UInt8) : (ZMod 2)[X] :=
  let ones := ∑ i ∈ Finset.range 16, X ^ i
  ones + (X ^ (lineBits message).length * ones +
    X ^ 16 * bitPoly (lineBits message)) %ₘ (X ^ 16 + X ^ 12 + X ^ 5 + 1)

theorem reverse_poly : (0x1021#16).reverse = 0x8408#16 := by decide

theorem bcTableValue_shifts (bitString : BitVec 16) (bitLength : Nat) :
    bcTableValue bitString bitLength =
      (shift 0x1021#16)^[bitLength] bitString := by
  induction bitLength generalizing bitString with
  | zero => rfl
  | succ bitLength ih =>
      rw [bcTableValue, ih, Function.iterate_succ_apply, shift, reverse_poly]
      cases bitString.getLsbD 0 <;> simp

theorem foldl_bccUpdate (octets : List UInt8) (bcc : BitVec 16) :
    octets.foldl bccUpdate bcc =
      (lineBits octets).foldl (serial 0x1021#16) bcc := by
  unfold lineBits
  induction octets generalizing bcc with
  | nil => rfl
  | cons octet octets ih =>
      rw [List.foldl_cons, ih, List.flatMap_cons, List.foldl_append]
      unfold bitsOf
      rw [foldl_serial_octet _ (by omega), bccUpdate, bcTable,
        bcTableValue_shifts]

@[simp] theorem length_lineBits (octets : List UInt8) :
    (lineBits octets).length = 8 * octets.length := by
  simp [lineBits, Nat.mul_comm]

theorem lineBits_append (xs ys : List UInt8) :
    lineBits (xs ++ ys) = lineBits xs ++ lineBits ys :=
  List.flatMap_append

theorem lineBits_bccOctets (bcc : BitVec 16) :
    lineBits (bccOctets bcc) = bitsOf bcc := by
  simp [lineBits, bccOctets, bitsOf, List.range_succ]

theorem generator_eq :
    generator 0x1021#16 = X ^ 16 + X ^ 12 + X ^ 5 + 1 := by
  rw [generator, reverse_poly]
  simp [toPoly, bitsOf, List.range_succ, bitPoly, coefficient]
  ring

/-- Of the same division, but from a register preset to half the ones, and not
complemented. -/
noncomputable def remainder (message : List UInt8) : (ZMod 2)[X] :=
  (X ^ (lineBits message).length * ∑ i ∈ Finset.range 8, X ^ (8 + i) +
    X ^ 16 * bitPoly (lineBits message)) %ₘ (X ^ 16 + X ^ 12 + X ^ 5 + 1)

theorem toPoly_blockCheck (message : List UInt8) :
    toPoly (blockCheck message) = remainder message := by
  have preset : toPoly (0x00ff#16) = ∑ i ∈ Finset.range 8, X ^ (8 + i) := by
    simp [toPoly, bitsOf, List.range_succ, bitPoly, coefficient,
      Finset.sum_range_succ]
    ring
  have register := toPoly_foldl_serial 0x1021#16 (by omega) 0x00ff#16
    (lineBits message)
  rw [preset, generator_eq] at register
  rw [blockCheck, foldl_bccUpdate]
  exact register

/-- The register that would give the check bits of Q.703. -/
def q703Register (message : List UInt8) : BitVec 16 :=
  (lineBits message).foldl (serial 0x1021#16) 0xffff#16 ^^^ 0xffff#16

theorem toPoly_q703Register (message : List UInt8) :
    toPoly (q703Register message) = q703 message := by
  have ones : toPoly (0xffff#16) = ∑ i ∈ Finset.range 16, X ^ i := by
    simp [toPoly, bitsOf, List.range_succ, bitPoly, coefficient,
      Finset.sum_range_succ]
    ring
  rw [q703Register, toPoly_xor, toPoly_foldl_serial _ (by omega), ones,
    generator_eq, add_comm]
  rfl

def shiftNat (x : Nat) : Nat := x >>> 1 ^^^ x % 2 * 0x8408

/-- The shifts as the kernel can run them. -/
def shiftsNat : Nat → Nat → Nat
  | 0, x => x
  | n + 1, x =>
      match shiftNat x with
      | 0 => shiftsNat n 0
      | y + 1 => shiftsNat n (y + 1)

theorem toNat_shift (x : BitVec 16) :
    (shift 0x1021#16 x).toNat = shiftNat x.toNat := by
  have low : x.toNat % 2 = (x.getLsbD 0).toNat := by
    rw [BitVec.getLsbD, Nat.testBit_zero]
    rcases Nat.mod_two_eq_zero_or_one x.toNat with even | odd <;> simp [*]
  rw [shift, reverse_poly, shiftNat, low, BitVec.toNat_xor,
    BitVec.toNat_ushiftRight]
  cases x.getLsbD 0 <;> rfl

theorem toNat_shifts (n : Nat) (x : BitVec 16) :
    ((shift 0x1021#16)^[n] x).toNat = shiftsNat n x.toNat := by
  induction n generalizing x with
  | zero => rfl
  | succ n ih =>
      rw [Function.iterate_succ_apply, ih, toNat_shift, shiftsNat]
      cases shiftNat x.toNat <;> rfl

theorem shifts_eq_iff {n : Nat} {x y : BitVec 16} :
    (shift 0x1021#16)^[n] x = y ↔ shiftsNat n x.toNat = y.toNat := by
  rw [← toNat_shifts, BitVec.toNat_inj]

theorem shift_minimalPeriod :
    Function.minimalPeriod (shift 0x1021#16) 0xff00#16 = 32767 := by
  have divides : Function.minimalPeriod (shift 0x1021#16) 0xff00#16 ∣ 32767 :=
    Function.IsPeriodicPt.minimalPeriod_dvd
      (shifts_eq_iff.mpr (by decide +kernel))
  have longer {n : Nat} (returns : shiftsNat n 0xff00 ≠ 0xff00) :
      ¬Function.minimalPeriod (shift 0x1021#16) 0xff00#16 ∣ n := fun divides =>
    returns (shifts_eq_iff.mp
      ((Function.isPeriodicPt_minimalPeriod _ _).trans_dvd divides))
  have a := longer (n := 4681) (by decide +kernel)
  have b := longer (n := 1057) (by decide +kernel)
  have c := longer (n := 217) (by decide +kernel)
  have member := Nat.mem_divisors.mpr ⟨divides, by omega⟩
  have all : Nat.divisors 32767 = {1, 7, 31, 151, 217, 1057, 4681, 32767} := by
    decide +kernel
  rw [all] at member
  simp only [Finset.mem_insert, Finset.mem_singleton] at member
  rcases member with eq | eq | eq | eq | eq | eq | eq | eq
  all_goals first | exact eq | (rw [eq] at a b c; omega)

/-- Only at lengths that no signal unit has are they those of Q.703. -/
theorem blockCheck_q703_iff (message : List UInt8) :
    bitPoly (lineBits (bccOctets (blockCheck message))) = q703 message ↔
      message.length % 32767 = 25627 := by
  have apart : blockCheck message = q703Register message ↔
      (shift 0x1021#16)^[8 * message.length] 0xff00#16 = 0xffff#16 := by
    have split := foldl_serial_xor 0x1021#16 (lineBits message) 0xffff#16
      0xff00#16
    rw [length_lineBits, show 0xffff#16 ^^^ 0xff00#16 = 0x00ff#16 by decide]
      at split
    rw [blockCheck, foldl_bccUpdate, split, q703Register]
    exact BitVec.xor_right_inj _
  have there : (shift 0x1021#16)^[8414] 0xff00#16 = 0xffff#16 :=
    shifts_eq_iff.mpr (by decide +kernel)
  have orbit := Function.iterate_eq_iterate_iff_of_lt_minimalPeriod
    (f := shift 0x1021#16) (x := 0xff00#16) (m := 8 * message.length % 32767)
    (n := 8414) (by rw [shift_minimalPeriod]; omega)
    (by rw [shift_minimalPeriod]; omega)
  have round := Function.iterate_mod_minimalPeriod_eq
    (f := shift 0x1021#16) (x := 0xff00#16) (n := 8 * message.length)
  rw [shift_minimalPeriod] at round
  rw [round, there] at orbit
  rw [← toPoly_q703Register, lineBits_bccOctets]
  change toPoly _ = toPoly _ ↔ _
  rw [toPoly_injective.eq_iff, apart, orbit]
  omega

end OpenSS7.Sdt
