import OpenSS7.Mtp3.Books

/-!
The current route list of a route set: which of its route lists carries the
traffic, and when the set is marked inaccessible.
-/

namespace OpenSS7.Mtp3

open Program

structure Choice where
  lists : List Nat
  cost : Nat → Nat
  state : Nat → State
  flags : Nat → Flags
  curr : Option Nat
  setState : State
  setFlags : Flags

namespace Choice

def newflags (v : Choice) (rl : Nat) (state : Change) : Flags :=
  mtpStaFlags state (v.flags rl)

def newstate (v : Choice) (rl : Nat) (state : Change) : State :=
  mtpFlgState (v.newflags rl state)

/-- The first accessible list besides `rl`. -/
def other (v : Choice) (rl : Nat) : Option Nat :=
  v.lists.find? fun ra => ra ≠ rl ∧ (v.state ra).accessible

def Fails (v : Choice) (rl : Nat) (state : Change) : Prop :=
  (v.state rl).accessible ∧ ¬ (v.newstate rl state).accessible ∧
    v.curr = some rl

def Recovers (v : Choice) (rl : Nat) (state : Change) : Prop :=
  ¬ (v.state rl).accessible ∧ (v.newstate rl state).accessible ∧
    ∀ ra ∈ v.curr, v.cost rl < v.cost ra

instance (v : Choice) (rl : Nat) (state : Change) :
    Decidable (v.Fails rl state) :=
  inferInstanceAs (Decidable (_ ∧ _))

instance (v : Choice) (rl : Nat) (state : Change) :
    Decidable (v.Recovers rl state) :=
  inferInstanceAs (Decidable (_ ∧ _))

def Tells (v : Choice) (rl : Nat) (state : Change) : Prop :=
  v.newstate rl state ≠ v.state rl ∧
    (v.Recovers rl state ∨ v.curr = some rl)

instance (v : Choice) (rl : Nat) (state : Change) :
    Decidable (v.Tells rl state) :=
  inferInstanceAs (Decidable (_ ∧ _))

def place (v : Choice) (rl : Nat) (state : State) (flags : Flags) : Choice :=
  { v with
    state := Function.update v.state rl state
    flags := Function.update v.flags rl flags }

def after (v : Choice) (rl : Nat) (state : Change) : Choice where
  lists := v.lists
  cost := v.cost
  state := Function.update v.state rl (v.newstate rl state)
  flags := Function.update v.flags rl (v.newflags rl state)
  curr :=
    if v.Fails rl state then v.other rl
    else if v.Recovers rl state then some rl
    else v.curr
  setState :=
    if v.Tells rl state then mtpFlgState (mtpStaFlags state v.setFlags)
    else v.setState
  setFlags :=
    if v.Tells rl state then mtpStaFlags state v.setFlags else v.setFlags

structure Consistent (v : Choice) : Prop where
  set : v.setState = mtpFlgState v.setFlags
  lists : ∀ rl, v.state rl = mtpFlgState (v.flags rl)

def Marked (v : Choice) : Prop := .restart < v.setState → v.curr = none

def Safe (v : Choice) (rl : Nat) (state : Change) : Prop :=
  v.Tells rl state →
    mtpFlgState (mtpStaFlags state v.setFlags) ≤ .restart ∨
      ∀ ra ∈ v.lists, ¬ ((v.after rl state).state ra).accessible

end Choice

section Refinement

variable {rs : Nat}

/-- What `rl_set_state` does up to the state of the list. -/
def Choice.selected (v : Choice) (rl : Nat) (state : Change) : Choice :=
  { v.after rl state with state := v.state, flags := v.flags }

end Refinement

namespace Choice

variable {v : Choice} {seen : Nat → Prop} {rl : Nat} {state : Change}

structure Kept (seen : Nat → Prop) (v : Choice) : Prop where
  consistent : v.Consistent
  ordered : v.lists.Pairwise fun a b => v.cost a ≤ v.cost b
  away : ∀ rl, ¬ (v.state rl).accessible → seen rl
  current : ∀ rl, v.curr = some rl →
    rl ∈ v.lists ∧ (v.state rl).accessible ∧
      ∀ ra ∈ v.lists, seen ra → (v.state ra).accessible → v.cost rl ≤ v.cost ra
  none : v.curr = none → ∀ rl ∈ v.lists, seen rl → ¬ (v.state rl).accessible

end Choice

/-- A route set as `mtp_alloc_rs` and `mtp_alloc_rl` leave it: its lists in the
order of their costs, all states allowed, and no current list. -/
structure Choice.Allocated (v : Choice) : Prop where
  ordered : v.lists.Pairwise fun a b => v.cost a ≤ v.cost b
  state : ∀ rl, v.state rl = .allowed
  flags : ∀ rl, mtpFlgState (v.flags rl) = .allowed
  curr : v.curr = none
  setState : v.setState = .allowed
  setFlags : mtpFlgState v.setFlags = .allowed

end OpenSS7.Mtp3
