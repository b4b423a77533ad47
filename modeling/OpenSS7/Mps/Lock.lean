import OpenSS7.Lib.Tally
import OpenSS7.Mps.Comm

/-!
The lock on a private structure, the waiters it wakes, and buffer calls.
-/

namespace OpenSS7.Mps

/-- The bits of `mi_flags` that a queue waits by. -/
inductive WaitBit where
  | rq
  | wq
deriving DecidableEq

namespace Queue

/-- `MI_WAIT_RQ_BIT` or `MI_WAIT_WQ_BIT`, as `QREADR` tells. -/
def waitBit (q : Queue) : WaitBit := if q.qreadr then .rq else .wq

end Queue

namespace Comm

def waits (c : Comm) : WaitBit → Bool
  | .rq => c.miWaitRq
  | .wq => c.miWaitWq

def setBit (c : Comm) : WaitBit → Comm
  | .rq => { c with miWaitRq := true }
  | .wq => { c with miWaitWq := true }

/-- The queues that `mi_wakeold` enables. -/
def woken (c : Comm) : List Queue :=
  match c.miQ with
  | none => []
  | some q =>
      (if c.miWaitRq then [⟨q, true⟩] else []) ++
        if c.miWaitWq then [⟨q, false⟩] else []

end Comm

namespace Comms

/-- `mi_wakeold`, with the queues it enables. -/
def miWakeold (s : Comms) (mi : Addr) : Option (Comms × List Queue) := do
  let woken := (s.comm mi).woken
  let s := s.modify mi fun c => { c with
    miWaitSleep := false
    miWaitRq := false
    miWaitWq := false }
  let s ← s.miPut mi
  some (s, woken)

/-- `if (mo != NULL) mi_wakeold(mo);` -/
def wakeold? (s : Comms) : Option Addr → Option (Comms × List Queue)
  | none => some (s, [])
  | some mo => s.miWakeold mo

/-- `__mi_waitpriv`, with the waiter that is displaced. -/
def miWaitpriv (s : Comms) (mi : Addr) (q : Option Queue) :
    Comms × Option Addr :=
  match q with
  | none => (s, none)
  | some q =>
      match (s.pair q.pair).qPtr with
      | none => (s, none)
      | some mw =>
          if (s.comm mi).miWaiter = some mw then
            (s.modify mw fun c => c.setBit q.waitBit, none)
          else
            let s := s.miGrab mw
            let s := s.modify mw fun c => c.setBit q.waitBit
            (s.modify mi fun c => { c with miWaiter := some mw },
              (s.comm mi).miWaiter)

/-- `mi_acquire`: whether the structure was locked, and the queues enabled. -/
def miAcquire (s : Comms) (mi : Addr) (q : Option Queue) :
    Option (Comms × Bool × List Queue) := do
  let users := (s.comm mi).miUsers
  let s := s.modify mi fun c => { c with miUsers := c.miUsers + 1 }
  if users = 0 then
    some (s, true, [])
  else
    let (s, mo) := s.miWaitpriv mi q
    let s := s.modify mi fun c => { c with miUsers := c.miUsers - 1 }
    let (s, woken) ← s.wakeold? mo
    some (s, false, woken)

def miRelease (s : Comms) (mi : Addr) : Option (Comms × List Queue) :=
  let mo := (s.comm mi).miWaiter
  let s := s.modify mi fun c => { c with miUsers := 0, miWaiter := none }
  s.wakeold? mo

/-- `mi_qenable`, called when buffers are available again. -/
def miQenable (s : Comms) (mi : Addr) : Option (Comms × List Queue) :=
  let bcid := (s.comm mi).miBcid
  let s := s.modify mi fun c => { c with miBcid := 0 }
  if bcid = 0 then some (s, []) else s.miWakeold mi

/-- `mi_rebufcall`; the buffer call that is replaced is cancelled. -/
def miRebufcall (s : Comms) (mi : Addr) (bcid : Nat) : Option Comms :=
  let old := (s.comm mi).miBcid
  let s := s.modify mi fun c => { c with miBcid := bcid }
  if old = 0 then some s else s.miPut mi

/-- `mi_bufcall`; `bid` is what `bufcall` returns, zero when it fails. -/
def miBufcall (s : Comms) (q : Option Queue) (bid : Nat) :
    Option (Comms × List Queue) :=
  match q with
  | none => some (s, [])
  | some q =>
      match (s.pair q.pair).qPtr with
      | none => some (s, [])
      | some mi => do
          let s := s.miGrab mi
          let s := s.modify mi fun c => c.setBit q.waitBit
          if bid = 0 then
            s.miWakeold mi
          else do
            let s ← s.miRebufcall mi bid
            some (s, [])

end Comms

inductive LockOp where
  | acquire (mi : Addr) (q : Queue)
  | release (mi : Addr) (q : Queue)
  | bufcall (q : Queue) (bid : Nat)
  | qenable (mi : Addr)
deriving DecidableEq

structure LockOutcome where
  locked : Bool
  woken : List Queue
deriving DecidableEq

def Comms.execLock (s : Comms) : LockOp → Option (Comms × LockOutcome)
  | .acquire mi q => do
      let (s, locked, woken) ← s.miAcquire mi (some q)
      some (s, ⟨locked, woken⟩)
  | .release mi _ => do
      let (s, woken) ← s.miRelease mi
      some (s, ⟨false, woken⟩)
  | .bufcall q bid => do
      let (s, woken) ← s.miBufcall (some q) bid
      some (s, ⟨false, woken⟩)
  | .qenable mi => do
      let (s, woken) ← s.miQenable mi
      some (s, ⟨false, woken⟩)

end OpenSS7.Mps
