import Mathlib.Algebra.Order.Group.Int
import Mathlib.Data.List.Range
import OpenSS7.Lib.Program

/-!
Programs that read a buffer through a pointer which they move, and rules by
which what they read is in the buffer.
-/

/-- A memory, the octets of a buffer in it from `rptr` to `wptr`, and the
addresses read so far. -/
structure Cursor where
  memory : Int → UInt8
  rptr : Int
  wptr : Int
  touched : List Int

abbrev Reader (ε : Type) := Program Cursor ε

namespace Cursor

def octets (memory : Int → UInt8) (r w : Int) : List UInt8 :=
  (List.range (w - r).toNat).map fun (i : Nat) => memory (r + (i : Int))

variable {memory : Int → UInt8} {r w : Int}

@[simp] theorem length_octets :
    (octets memory r w).length = (w - r).toNat := by
  simp [octets]

theorem octets_nil (none : w ≤ r) : octets memory r w = [] := by
  rw [octets, Int.toNat_of_nonpos (by omega)]
  rfl

theorem octets_cons (some : r < w) :
    octets memory r w = memory r :: octets memory (r + 1) w := by
  have one : (w - r).toNat = (w - (r + 1)).toNat + 1 := by omega
  rw [octets, one, List.range_succ_eq_map, List.map_cons, List.map_map]
  refine congrArg₂ List.cons (by simp) (List.map_congr_left fun i _ => ?_)
  simp only [Function.comp_apply, Nat.succ_eq_add_one]
  congr 1
  push_cast
  omega

theorem octets_two (some : r + 2 ≤ w) :
    octets memory r w =
      memory r :: memory (r + 1) :: octets memory (r + 2) w := by
  rw [octets_cons (by omega), octets_cons (by omega), add_assoc]
  rfl

theorem octets_three (some : r + 3 ≤ w) :
    octets memory r w = memory r :: memory (r + 1) :: memory (r + 2) ::
      octets memory (r + 3) w := by
  rw [octets_two (by omega), octets_cons (by omega), add_assoc]
  rfl

theorem octets_four (some : r + 4 ≤ w) :
    octets memory r w = memory r :: memory (r + 1) :: memory (r + 2) ::
      memory (r + 3) :: octets memory (r + 4) w := by
  rw [octets_three (by omega), octets_cons (by omega), add_assoc]
  rfl

theorem octets_take {n : Nat} (some : r + n ≤ w) :
    (octets memory r w).take n = octets memory r (r + n) := by
  rw [octets, ← List.map_take, List.take_range, octets]
  congr 2
  omega

end Cursor

namespace Reader

variable {ε α β : Type}

/-- `rptr[i]` -/
def peek (i : Int) : Reader ε UInt8 := do
  let c ← get
  set { c with touched := c.touched ++ [c.rptr + i] }
  return c.memory (c.rptr + i)

/-- `rptr += n` -/
def skip (n : Int) : Reader ε Unit :=
  modify fun c => { c with rptr := c.rptr + n }

/-- `wptr += n` -/
def extend (n : Int) : Reader ε Unit :=
  modify fun c => { c with wptr := c.wptr + n }

/-- Stops where fewer than `n` octets are left. -/
def need (n : Int) (e : ε) : Reader ε Unit := do
  let c ← get
  if c.wptr < c.rptr + n then throw e

def restoring (m : Reader ε α) : Reader ε α :=
  ExceptT.mk fun c =>
    let (result, c') := m.exec c
    (result, { c' with rptr := c.rptr })

/-- The read pointer is at `r`, and what has been read is allowed. -/
structure At (memory : Int → UInt8) (allowed : Int → Prop) (w r : Int)
    (c : Cursor) : Prop where
  memory : c.memory = memory
  rptr : c.rptr = r
  wptr : c.wptr = w
  touched : ∀ a ∈ c.touched, allowed a

variable {memory : Int → UInt8} {allowed : Int → Prop} {w r i n : Int}
  {e : ε} {E : Cursor → Prop} {Q : β → Cursor → Prop}

theorem peek_bind {f : UInt8 → Reader ε β} (inside : allowed (r + i))
    (rest : Program.Triple (At memory allowed w r) (f (memory (r + i))) Q E) :
    Program.Triple (At memory allowed w r) (peek i >>= f) Q E := by
  intro c holds
  obtain ⟨rfl, rfl, rfl, touched⟩ := holds
  have next := rest { c with touched := c.touched ++ [c.rptr + i] }
    ⟨rfl, rfl, rfl, fun a member => by
      rcases List.mem_append.1 member with old | new
      · exact touched a old
      · rw [List.mem_singleton.1 new]
        exact inside⟩
  have run : (peek i >>= f : Reader ε β).exec c =
      (f (c.memory (c.rptr + i))).exec
        { c with touched := c.touched ++ [c.rptr + i] } := rfl
  rw [run]
  exact next

theorem skip_bind {f : Unit → Reader ε β}
    (rest : Program.Triple (At memory allowed w (r + n)) (f ()) Q E) :
    Program.Triple (At memory allowed w r) (skip n >>= f) Q E := by
  intro c holds
  obtain ⟨rfl, rfl, rfl, touched⟩ := holds
  exact rest { c with rptr := c.rptr + n } ⟨rfl, rfl, rfl, touched⟩

theorem extend_bind {f : Unit → Reader ε β}
    (rest : Program.Triple (At memory allowed (w + n) r) (f ()) Q E) :
    Program.Triple (At memory allowed w r) (extend n >>= f) Q E := by
  intro c holds
  obtain ⟨rfl, rfl, rfl, touched⟩ := holds
  exact rest { c with wptr := c.wptr + n } ⟨rfl, rfl, rfl, touched⟩

theorem need_bind {f : Unit → Reader ε β}
    (short : w < r + n → ∀ c, At memory allowed w r c → E c)
    (rest : r + n ≤ w →
      Program.Triple (At memory allowed w r) (f ()) Q E) :
    Program.Triple (At memory allowed w r) (need n e >>= f) Q E := by
  intro c holds
  obtain ⟨memory', rptr, wptr, -⟩ := id holds
  by_cases lacks : w < r + n
  · have run : (need n e >>= f : Reader ε β).exec c = (.error e, c) := by
      have condition : c.wptr < c.rptr + n := by rwa [rptr, wptr]
      rw [Program.exec_bind]
      simp only [need, Program.exec_bind, Program.exec_get, condition, if_true]
      rfl
    rw [run]
    exact short lacks c holds
  · have run : (need n e >>= f : Reader ε β).exec c = (f ()).exec c := by
      have condition : ¬c.wptr < c.rptr + n := by rwa [rptr, wptr]
      rw [Program.exec_bind]
      simp only [need, Program.exec_bind, Program.exec_get, condition,
        if_false]
      rfl
    rw [run]
    exact rest (by omega) c holds

theorem exec_restoring (m : Reader ε α) (c : Cursor) :
    (restoring m).exec c =
      ((m.exec c).1, { (m.exec c).2 with rptr := c.rptr }) := rfl

end Reader
