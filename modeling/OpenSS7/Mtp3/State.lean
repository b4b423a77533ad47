import Mathlib.Data.BitVec
import OpenSS7.Lib.Program
import OpenSS7.Lib.Tally

/-!
The states that the entities of message transfer part level 3 share: their
numbers, the changes that set and clear the flags behind them, and the counters
that a parent keeps of the states of its children.
-/

namespace OpenSS7.Mtp3

/-- The primary states, `MTP_ALLOWED` to `MTP_INACTIVE`. -/
inductive State where
  | allowed
  | danger
  | congested
  | restricted
  | restart
  | prohibited
  | inhibited
  | blocked
  | inactive
deriving DecidableEq

namespace State

def number : State → Fin 9
  | allowed => 0
  | danger => 1
  | congested => 2
  | restricted => 3
  | restart => 4
  | prohibited => 5
  | inhibited => 6
  | blocked => 7
  | inactive => 8

instance : LT State := ⟨fun s s' => s.number < s'.number⟩

instance : LE State := ⟨fun s s' => s.number ≤ s'.number⟩

instance (s s' : State) : Decidable (s < s') :=
  inferInstanceAs (Decidable (s.number < s'.number))

instance (s s' : State) : Decidable (s ≤ s') :=
  inferInstanceAs (Decidable (s.number ≤ s'.number))

theorem number_injective {s s' : State} (same : s.number = s'.number) :
    s = s' := by
  cases s <;> cases s' <;> first | rfl | exact absurd same (by decide)

theorem number_surjective (number : Fin 9) :
    ∃ s : State, s.number = number :=
  match number with
  | 0 => ⟨allowed, rfl⟩
  | 1 => ⟨danger, rfl⟩
  | 2 => ⟨congested, rfl⟩
  | 3 => ⟨restricted, rfl⟩
  | 4 => ⟨restart, rfl⟩
  | 5 => ⟨prohibited, rfl⟩
  | 6 => ⟨inhibited, rfl⟩
  | 7 => ⟨blocked, rfl⟩
  | 8 => ⟨inactive, rfl⟩

def accessible (s : State) : Prop := s ≤ restricted

instance (s : State) : Decidable s.accessible :=
  inferInstanceAs (Decidable (s ≤ restricted))

end State

inductive Change where
  | enter (state : State)
  | noDanger
  | uncongested
  | restarted
  | uninhibited
  | unblocked
  | active
deriving DecidableEq

instance : Coe State Change := ⟨.enter⟩

structure Flags where
  allowed : Bool
  danger : Bool
  congested : Bool
  restricted : Bool
  restart : Bool
  prohibited : Bool
  inhibited : Bool
  blocked : Bool
  inactive : Bool
  tfrPending : Bool
  xferFunc : Bool
  adjacent : Bool
  restartPhase1 : Bool
  restartPhase2 : Bool
deriving DecidableEq

/-- `flags = 0` -/
def Flags.none : Flags :=
  ⟨false, false, false, false, false, false, false, false, false, false,
    false, false, false, false⟩

def mtpStaFlags (state : Change) (oldflags : Flags) : Flags :=
  match state with
  | .enter .inactive => { oldflags with inactive := true }
  | .active => { oldflags with inactive := false }
  | .enter .blocked => { oldflags with blocked := true }
  | .unblocked => { oldflags with blocked := false }
  | .enter .inhibited => { oldflags with inhibited := true }
  | .uninhibited => { oldflags with inhibited := false }
  | .enter .prohibited =>
      { oldflags with prohibited := true, restricted := false, allowed := false }
  | .enter .restart => { oldflags with restart := true }
  | .restarted => { oldflags with restart := false }
  | .enter .restricted =>
      { oldflags with restricted := true, prohibited := false, allowed := false }
  | .enter .congested => { oldflags with congested := true }
  | .uncongested => { oldflags with congested := false }
  | .enter .danger => { oldflags with danger := true }
  | .noDanger => { oldflags with danger := false }
  | .enter .allowed =>
      { oldflags with allowed := true, restricted := false, prohibited := false }

def mtpFlgState (newflags : Flags) : State :=
  if newflags.inactive then .inactive
  else if newflags.blocked then .blocked
  else if newflags.inhibited then .inhibited
  else if newflags.prohibited then .prohibited
  else if newflags.restart then .restart
  else if newflags.restricted then .restricted
  else if newflags.congested then .congested
  else if newflags.danger then .danger
  else .allowed

/-- The array `states[9]` of `SLIST_COUNTERS` and the list that it counts. -/
structure Counters where
  list : List Nat
  states : Fin 9 → BitVec 64
  slsBits : Nat

namespace Counters

/-- The counters as they are after `bzero`. -/
def zero (list : List Nat) (slsBits : Nat) : Counters := ⟨list, fun _ => 0, slsBits⟩

/-! The named members of the union, by their places in the structure. -/

def allowed (c : Counters) : BitVec 64 := c.states 0
def danger (c : Counters) : BitVec 64 := c.states 1
def congested (c : Counters) : BitVec 64 := c.states 2
def restricted (c : Counters) : BitVec 64 := c.states 3
def prohibited (c : Counters) : BitVec 64 := c.states 4
def inhibited (c : Counters) : BitVec 64 := c.states 5
def blocked (c : Counters) : BitVec 64 := c.states 6
def inactive (c : Counters) : BitVec 64 := c.states 7
def restart (c : Counters) : BitVec 64 := c.states 8

def named (c : Counters) : State → BitVec 64
  | .allowed => c.allowed
  | .danger => c.danger
  | .congested => c.congested
  | .restricted => c.restricted
  | .restart => c.restart
  | .prohibited => c.prohibited
  | .inhibited => c.inhibited
  | .blocked => c.blocked
  | .inactive => c.inactive

/-- `states[oldstate]--; states[newstate]++;` -/
def move (c : Counters) (oldstate newstate : State) : Counters :=
  { c with states := Tally.moved c.states oldstate.number newstate.number }

end Counters

def mtpCntState (c : Counters) (oldstate : State) : State :=
  if c.allowed ≠ 0 then .allowed
  else if c.danger ≠ 0 then .danger
  else if c.congested ≠ 0 then .congested
  else if c.restricted ≠ 0 then .restricted
  else if c.restart ≠ 0 then .restart
  else if c.prohibited ≠ 0 then .prohibited
  else if c.inhibited ≠ 0 then .inhibited
  else if c.blocked ≠ 0 then .blocked
  else if c.inactive ≠ 0 then .inactive
  else oldstate

end OpenSS7.Mtp3
