import Mathlib.Algebra.Order.Ring.Nat

/-!
The private structures of STREAMS drivers: `struct mi_comm`, the queues they
are attached to, the list they are linked on, and their references.
-/

namespace OpenSS7.Mps

abbrev Addr := Nat

/-- What a `struct mi_comm **` points at: the head of the list, the `mi_next`
of a structure, or an automatic variable of a call that has returned. -/
inductive Place where
  | head
  | next (mi : Addr)
  | stack
deriving DecidableEq

/-- `struct mi_comm`; the Booleans are bits of `mi_flags`. -/
structure Comm where
  miPrev : Place
  miHead : Option Place
  miNext : Option Addr
  miMid : Nat
  miSid : Nat
  miBcid : Nat
  miUsers : Nat
  miWaitSleep : Bool
  miWaitRq : Bool
  miWaitWq : Bool
  miQ : Option Addr
  miRefs : Nat
  miWaiter : Option Addr
  miDev : Nat
deriving DecidableEq

/-- A queue pair: `q_ptr` of both queues and the `mi_idnum` of its module. -/
structure Pair where
  qPtr : Option Addr
  miIdnum : Nat
deriving DecidableEq

structure Queue where
  pair : Addr
  qreadr : Bool
deriving DecidableEq

structure Comms where
  miHead : Option Addr
  comm : Addr → Comm
  pair : Addr → Pair

def getmajor (dev : Nat) : Nat := dev / 2 ^ 16 % 2 ^ 16

def getminor (dev : Nat) : Nat := dev % 2 ^ 16

def makedevice (major minor : Nat) : Nat :=
  major % 2 ^ 16 * 2 ^ 16 + minor % 2 ^ 16

namespace Comms

variable (s : Comms)

def modify (mi : Addr) (f : Comm → Comm) : Comms :=
  { s with comm := Function.update s.comm mi (f (s.comm mi)) }

def setPair (q : Addr) (p : Pair) : Comms :=
  { s with pair := Function.update s.pair q p }

/-- `*mip` -/
def read : Place → Option Addr
  | .head => s.miHead
  | .next mi => (s.comm mi).miNext
  | .stack => none

/-- `*mip = v;`; no structure is changed where nothing is left at `mip`. -/
def write (mip : Place) (v : Option Addr) : Comms :=
  match mip with
  | .head => { s with miHead := v }
  | .next mi => s.modify mi fun c => { c with miNext := v }
  | .stack => s

/-- `if (p) p->mi_prev = mip;` -/
def setPrev? (p : Option Addr) (mip : Place) : Comms :=
  match p with
  | none => s
  | some mi => s.modify mi fun c => { c with miPrev := mip }

def miGrab (mi : Addr) : Comms :=
  s.modify mi fun c => { c with miRefs := c.miRefs + 1 }

/-- `mi_put`; `none` when the last reference is given back, which frees the
structure. -/
def miPut (mi : Addr) : Option Comms :=
  if (s.comm mi).miRefs ≤ 1 then none
  else some (s.modify mi fun c => { c with miRefs := c.miRefs - 1 })

end Comms

section Access

variable (s : Comms) (mi other : Addr) (f : Comm → Comm)
  (mip place : Place) (v : Option Addr)

@[simp] theorem modify_comm : (s.modify mi f).comm other =
    if other = mi then f (s.comm other) else s.comm other := by
  by_cases same : other = mi
  · subst same
    simp [Comms.modify]
  · simp [Comms.modify, same]

theorem modify_field {β : Type} (field : Comm → β)
    (same : ∀ c, field (f c) = field c) :
    field ((s.modify mi f).comm other) = field (s.comm other) := by
  rw [modify_comm]
  split
  · exact same _
  · rfl

@[simp] theorem setPair_comm (q : Addr) (p : Pair) :
    (s.setPair q p).comm = s.comm := rfl

theorem modify_read : (s.modify mi f).read place =
    if place = .next mi then (f (s.comm mi)).miNext else s.read place := by
  cases place with
  | head => rfl
  | next other =>
      by_cases same : other = mi
      · subst same
        simp [Comms.read]
      · simp [Comms.read, same]
  | stack => rfl

theorem modify_read_same (same : ∀ c, (f c).miNext = c.miNext) :
    (s.modify mi f).read place = s.read place := by
  rw [modify_read]
  split
  · rename_i eq
    rw [same, eq]
    rfl
  · rfl

theorem write_read (mapped : mip ≠ .stack) : (s.write mip v).read place =
    if place = mip then v else s.read place := by
  cases mip with
  | head => cases place <;> rfl
  | next mi => simp only [Comms.write, modify_read]
  | stack => exact absurd rfl mapped

@[simp] theorem write_miPrev :
    ((s.write mip v).comm other).miPrev = (s.comm other).miPrev := by
  cases mip with
  | head => rfl
  | next mi => by_cases same : other = mi <;> simp [Comms.write, same]
  | stack => rfl

@[simp] theorem setPrev?_read :
    (s.setPrev? v mip).read place = s.read place := by
  cases v with
  | none => rfl
  | some mi =>
      apply modify_read_same
      exact fun _ => rfl

theorem setPrev?_miPrev : ((s.setPrev? v mip).comm other).miPrev =
    if v = some other then mip else (s.comm other).miPrev := by
  cases v with
  | none => rfl
  | some mi =>
      by_cases same : other = mi
      · simp [Comms.setPrev?, same]
      · simp [Comms.setPrev?, same, Ne.symm same]

end Access

end OpenSS7.Mps
