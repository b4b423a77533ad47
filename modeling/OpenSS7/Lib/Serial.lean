import Mathlib.Data.BitVec

/-!
Serial numbers of a fixed width: places on an unbounded line of which only the
low bits are seen, and comparisons that are right for places less than half of
the numbers apart.
-/

namespace Serial

variable {w : Nat}

def before (a b : BitVec w) : Bool := (a - b).toInt < 0

def after (a b : BitVec w) : Bool := (b - a).toInt < 0

def between (a low high : BitVec w) : Bool := a - low ≤ high - low

def number (base : BitVec w) (i : Int) : BitVec w := base + BitVec.ofInt w i

def ahead (a b : BitVec w) : Int := -(b - a).toInt

variable (base : BitVec w) {i j k : Int}

theorem number_zero : number base 0 = base := by
  simp [number]

theorem number_add (i j : Int) :
    number base (i + j) = number base i + BitVec.ofInt w j := by
  unfold number
  rw [BitVec.ofInt_add, BitVec.add_assoc]

theorem number_succ (i : Int) :
    number base (i + 1) = number base i + 1 := by
  rw [number_add]
  rfl

theorem number_sub (i j : Int) :
    number base i - number base j = BitVec.ofInt w (i - j) := by
  have split := number_add base j (i - j)
  rw [add_sub_cancel] at split
  rw [split, add_sub_cancel_left]

theorem toInt_number_sub (low : -(2 ^ w : Int) ≤ 2 * (i - j))
    (high : 2 * (i - j) < 2 ^ w) :
    (number base i - number base j).toInt = i - j := by
  rw [number_sub, BitVec.toInt_ofInt]
  exact Int.bmod_eq_of_le_mul_two (by push_cast; omega) (by push_cast; omega)

theorem toNat_number_sub (low : 0 ≤ i - j) (high : i - j < 2 ^ w) :
    ((number base i - number base j).toNat : Int) = i - j := by
  have width : ((2 ^ w : Nat) : Int) = 2 ^ w := by push_cast; rfl
  rw [number_sub, BitVec.toNat_ofInt, width, Int.emod_eq_of_lt low high,
    Int.toNat_of_nonneg low]

theorem before_iff (low : -(2 ^ w : Int) ≤ 2 * (i - j))
    (high : 2 * (i - j) < 2 ^ w) :
    before (number base i) (number base j) = true ↔ i < j := by
  rw [before, decide_eq_true_iff, toInt_number_sub base low high]
  omega

theorem after_iff (low : -(2 ^ w : Int) ≤ 2 * (j - i))
    (high : 2 * (j - i) < 2 ^ w) :
    after (number base i) (number base j) = true ↔ j < i :=
  before_iff base low high

theorem number_inj (near : i - j < 2 ^ w) (near' : j - i < 2 ^ w) :
    number base i = number base j ↔ i = j := by
  refine ⟨fun same => ?_, fun same => same ▸ rfl⟩
  obtain forward | back := le_total j i
  · have apart := toNat_number_sub base (by omega) near
    rw [same, BitVec.sub_self, BitVec.toNat_zero] at apart
    omega
  · have apart := toNat_number_sub base (by omega) near'
    rw [same, BitVec.sub_self, BitVec.toNat_zero] at apart
    omega

theorem number_add_width (i : Int) :
    number base (i + 2 ^ w) = number base i := by
  rw [number_add]
  have none : BitVec.ofInt w (2 ^ w) = 0#w := by
    apply BitVec.eq_of_toNat_eq
    rw [BitVec.toNat_ofInt, show (2 ^ w : Int) = ((2 ^ w : Nat) : Int) by
      push_cast; rfl, Int.emod_self]
    rfl
  rw [none, BitVec.add_zero]

theorem between_iff (bounds : j ≤ k) (range : k - j < 2 ^ w)
    (near : i - j < 2 ^ w) (near' : k - i < 2 ^ w) :
    between (number base i) (number base j) (number base k) = true ↔
      j ≤ i ∧ i ≤ k := by
  have top := toNat_number_sub base (show 0 ≤ k - j by omega) range
  rw [between, decide_eq_true_iff, BitVec.le_def]
  obtain above | below := le_or_gt j i
  · have distance := toNat_number_sub base (show 0 ≤ i - j by omega) near
    omega
  · -- the distance from below goes round
    have distance := toNat_number_sub base
      (show 0 ≤ i + 2 ^ w - j by omega) (by omega)
    rw [number_add_width] at distance
    omega

theorem number_ahead (a : BitVec w) (i : Int) :
    number base (i + ahead a (number base i)) = a := by
  have back : BitVec.ofInt w (ahead a (number base i)) =
      a - number base i := by
    rw [ahead, BitVec.ofInt_neg, BitVec.ofInt_toInt, neg_sub]
  rw [number_add, back, add_sub_cancel]

theorem ahead_le (a b : BitVec w) : 2 * ahead a b ≤ 2 ^ w := by
  have := BitVec.le_two_mul_toInt (x := b - a)
  unfold ahead
  omega

theorem after_iff_ahead (a b : BitVec w) : after a b = true ↔ 0 < ahead a b := by
  rw [after, decide_eq_true_iff, ahead]
  omega

theorem within {a : BitVec w} (bounds : i ≤ j) (range : 2 * (j - i) < 2 ^ w)
    (low : before a (number base i) = false)
    (high : after a (number base j) = false) :
    ∃ k, i ≤ k ∧ k ≤ j ∧ a = number base k := by
  have least := BitVec.le_two_mul_toInt (x := a - number base i)
  have most := BitVec.two_mul_toInt_lt (x := a - number base i)
  have here : a = number base (i + (a - number base i).toInt) := by
    rw [number_add, BitVec.ofInt_toInt, add_sub_cancel]
  rw [before, decide_eq_false_iff_not] at low
  generalize (a - number base i).toInt = d at *
  refine ⟨i + d, by omega, ?_, here⟩
  rw [here, ← Bool.not_eq_true, after_iff base (by omega) (by omega)] at high
  omega

def runs : List (BitVec w) → List (BitVec w × BitVec w)
  | [] => []
  | a :: rest =>
      match runs rest with
      | [] => [(a, a)]
      | (b, c) :: more =>
          if b = a + 1 then (a, c) :: more else (a, a) :: (b, c) :: more

theorem runs_apart {a : BitVec w} {l : List (BitVec w)}
    (apart : ∀ p ∈ (runs l).head?, p.1 ≠ a + 1) :
    runs (a :: l) = (a, a) :: runs l := by
  rw [runs]
  cases later : runs l with
  | nil => rfl
  | cons p more =>
      have other : p.1 ≠ a + 1 := apart p (by simp [later])
      simp only [if_neg other]

theorem runs_joined {a b : BitVec w} {l : List (BitVec w)}
    {more : List (BitVec w × BitVec w)}
    (later : runs l = (a + 1, b) :: more) :
    runs (a :: l) = (a, b) :: more := by
  rw [runs, later]
  simp

end Serial
