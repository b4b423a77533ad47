import Mathlib.Data.List.Basic
import Mathlib.Logic.Function.Iterate

/-!
Cyclic redundancy checks: a shift register that takes one bit after another,
the same register with its ends exchanged, and many shifts at a time.
-/

namespace Crc

variable {w : Nat} (poly : BitVec w)

def shift (reg : BitVec w) : BitVec w :=
  reg >>> 1 ^^^ if reg.getLsbD 0 then poly.reverse else 0

def serial (reg : BitVec w) (bit : Bool) : BitVec w :=
  shift poly (reg ^^^ (BitVec.ofBool bit).setWidth w)

theorem getLsbD_bit (bit : Bool) (i : Nat) :
    ((BitVec.ofBool bit).setWidth w).getLsbD i =
      (decide (i = 0 ∧ 0 < w) && bit) := by
  rw [BitVec.getLsbD_setWidth, BitVec.getLsbD_ofBool]
  cases bit with
  | false => simp
  | true =>
      by_cases zero : i = 0
      · simp [zero]
      · simp [zero]

theorem shift_xor (x y : BitVec w) :
    shift poly (x ^^^ y) = shift poly x ^^^ shift poly y := by
  have odd : (if (x.getLsbD 0 ^^ y.getLsbD 0) = true then poly.reverse
      else 0#w) = (if x.getLsbD 0 = true then poly.reverse else 0#w) ^^^
        if y.getLsbD 0 = true then poly.reverse else 0#w := by
    cases x.getLsbD 0 with
    | false => simp
    | true => cases y.getLsbD 0 <;> simp
  unfold shift
  rw [BitVec.getLsbD_xor, BitVec.ushiftRight_xor_distrib]
  change _ ^^^ (if (x.getLsbD 0 ^^ y.getLsbD 0) = true then poly.reverse
      else 0#w) = _
  rw [odd]
  ac_rfl

theorem shifts_xor (n : Nat) (x y : BitVec w) :
    (shift poly)^[n] (x ^^^ y) =
      (shift poly)^[n] x ^^^ (shift poly)^[n] y := by
  induction n generalizing x y with
  | zero => rfl
  | succ n ih =>
      simp only [Function.iterate_succ, Function.comp_apply]
      rw [shift_xor, ih]

theorem shift_even {x : BitVec w} (even : x.getLsbD 0 = false) :
    shift poly x = x >>> 1 := by
  simp [shift, even]

theorem shifts_clear (n : Nat) {x : BitVec w}
    (clear : ∀ i < n, x.getLsbD i = false) :
    (shift poly)^[n] x = x >>> n := by
  induction n generalizing x with
  | zero => simp
  | succ n ih =>
      rw [Function.iterate_succ_apply, shift_even poly (clear 0 (by omega)),
        ih ?_, ← BitVec.shiftRight_add, Nat.add_comm]
      intro i bound
      rw [BitVec.getLsbD_ushiftRight]
      exact clear (1 + i) (by omega)

theorem shifts_split (n : Nat) (x : BitVec w) :
    (shift poly)^[n] x =
      x >>> n ^^^ (shift poly)^[n] ((x.setWidth n).setWidth w) := by
  have apart : x =
      (x >>> n <<< n) ^^^ (x.setWidth n).setWidth w := by
    apply BitVec.eq_of_getLsbD_eq
    intro i bound
    simp only [BitVec.getLsbD_xor, BitVec.getLsbD_shiftLeft,
      BitVec.getLsbD_ushiftRight, BitVec.getLsbD_setWidth]
    by_cases low : i < n
    · simp [low, bound]
    · simp [low, bound, Nat.add_sub_cancel' (Nat.le_of_not_lt low)]
  have high : (shift poly)^[n] (x >>> n <<< n) = x >>> n := by
    rw [shifts_clear poly n ?_]
    · apply BitVec.eq_of_getLsbD_eq
      intro i bound
      simp only [BitVec.getLsbD_shiftLeft, BitVec.getLsbD_ushiftRight]
      by_cases inside : n + i < w
      · simp [inside]
      · simp [inside, BitVec.getLsbD_of_ge x (n + i) (by omega)]
    · intro i bound
      simp [BitVec.getLsbD_shiftLeft, bound]
  conv => lhs; rw [apart, shifts_xor, high]

theorem foldl_serial (n : Nat) (reg x : BitVec w)
    (short : ∀ i, n ≤ i → x.getLsbD i = false) :
    ((List.range n).map x.getLsbD).foldl (serial poly) reg =
      (shift poly)^[n] (reg ^^^ x) := by
  induction n generalizing reg x with
  | zero =>
      have none : x = 0#w := BitVec.eq_of_getLsbD_eq fun i _ => by
        simpa using short i (Nat.zero_le i)
      simp [none]
  | succ n ih =>
      have first : shift poly (reg ^^^ x) =
          serial poly reg (x.getLsbD 0) ^^^ x >>> 1 := by
        have apart : reg ^^^ x =
            (reg ^^^ (BitVec.ofBool (x.getLsbD 0)).setWidth w) ^^^
              (x ^^^ (BitVec.ofBool (x.getLsbD 0)).setWidth w) := by
          ext i bound
          simp only [BitVec.getElem_xor]
          grind
        have even : (x ^^^ (BitVec.ofBool (x.getLsbD 0)).setWidth w).getLsbD 0
            = false := by
          rw [BitVec.getLsbD_xor, getLsbD_bit]
          by_cases empty : w = 0
          · subst empty
            simp
          · simp [Nat.pos_of_ne_zero empty]
        rw [apart, shift_xor, shift_even poly even, serial]
        congr 1
        apply BitVec.eq_of_getLsbD_eq
        intro i bound
        simp only [BitVec.getLsbD_ushiftRight, BitVec.getLsbD_xor, getLsbD_bit]
        simp
      rw [List.range_succ_eq_map, List.map_cons, List.foldl_cons,
        Function.iterate_succ_apply, first, List.map_map]
      have next := ih (serial poly reg (x.getLsbD 0)) (x >>> 1) (by
        intro i bound
        rw [BitVec.getLsbD_ushiftRight]
        exact short (1 + i) (by omega))
      rw [← next]
      congr 1
      apply List.map_congr_left
      intro i _
      rw [Function.comp_apply, BitVec.getLsbD_ushiftRight, Nat.add_comm]

theorem foldl_serial_octet {n : Nat} (inside : n ≤ w) (reg : BitVec w)
    (octet : BitVec n) :
    ((List.range n).map octet.getLsbD).foldl (serial poly) reg =
      reg >>> n ^^^
        (shift poly)^[n] (((reg ^^^ octet.setWidth w).setWidth n).setWidth w) := by
  have bits : octet.getLsbD = (octet.setWidth w).getLsbD := by
    funext i
    rw [BitVec.getLsbD_setWidth]
    by_cases bound : i < w
    · simp [bound]
    · simp [BitVec.getLsbD_of_ge octet i (by omega)]
  have short : ∀ i, n ≤ i → (octet.setWidth w).getLsbD i = false := by
    intro i beyond
    rw [BitVec.getLsbD_setWidth, BitVec.getLsbD_of_ge octet i beyond,
      Bool.and_false]
  have above : (reg ^^^ octet.setWidth w) >>> n = reg >>> n := by
    apply BitVec.eq_of_getLsbD_eq
    intro i bound
    rw [BitVec.getLsbD_ushiftRight, BitVec.getLsbD_xor,
      short (n + i) (Nat.le_add_right n i), Bool.xor_false,
      BitVec.getLsbD_ushiftRight]
  rw [bits, foldl_serial poly n reg _ short, shifts_split, above]

theorem foldl_serial_xor (bits : List Bool) (x y : BitVec w) :
    bits.foldl (serial poly) (x ^^^ y) =
      bits.foldl (serial poly) x ^^^ (shift poly)^[bits.length] y := by
  induction bits generalizing x y with
  | nil => rfl
  | cons bit bits ih =>
      have first : serial poly (x ^^^ y) bit =
          serial poly x bit ^^^ shift poly y := by
        rw [serial, serial, ← shift_xor]
        congr 1
        ac_rfl
      rw [List.foldl_cons, List.foldl_cons, first, ih, List.length_cons,
        Function.iterate_succ_apply]

end Crc
