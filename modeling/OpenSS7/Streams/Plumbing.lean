import Mathlib.Logic.Function.Basic

/-!
How queue pairs are put into a stream and taken out of it: `q_next` and the
pointers to the nearest queues with service procedures.
-/

namespace OpenSS7.Streams

inductive Side where
  | read
  | write
deriving DecidableEq

def Side.other : Side → Side
  | .read => .write
  | .write => .read

structure QueuePtr where
  pair : Nat
  side : Side
deriving DecidableEq

def QueuePtr.otherq (q : QueuePtr) : QueuePtr := ⟨q.pair, q.side.other⟩

def rd (pair : Nat) : QueuePtr := ⟨pair, .read⟩

def wr (pair : Nat) : QueuePtr := ⟨pair, .write⟩

/-- The pointers and flags of the queues of a stream; `sdRq` is the queue pair
of its head. -/
structure Plumbing where
  sdRq : Nat
  qNext : QueuePtr → Option QueuePtr
  qNfsrv : QueuePtr → Option QueuePtr
  qNbsrv : QueuePtr → Option QueuePtr
  qsrvp : QueuePtr → Bool
  qprocs : QueuePtr → Bool

namespace Plumbing

def setNext (s : Plumbing) (q : QueuePtr) (p : Option QueuePtr) : Plumbing :=
  { s with qNext := Function.update s.qNext q p }

def setNfsrv (s : Plumbing) (q : QueuePtr) (p : Option QueuePtr) : Plumbing :=
  { s with qNfsrv := Function.update s.qNfsrv q p }

def setNbsrv (s : Plumbing) (q : QueuePtr) (p : Option QueuePtr) : Plumbing :=
  { s with qNbsrv := Function.update s.qNbsrv q p }

def setProcs (s : Plumbing) (pair : Nat) (b : Bool) : Plumbing :=
  { s with
    qprocs := Function.update (Function.update s.qprocs (rd pair) b)
      (wr pair) b }

def backq (s : Plumbing) (q : QueuePtr) : Option QueuePtr :=
  (s.qNext q.otherq).map QueuePtr.otherq

/-- `qalloc` with the service procedures of a module. -/
def qalloc (s : Plumbing) (pair : Nat) (rsrv wsrv : Bool) : Plumbing :=
  { s.setProcs pair true with
    qsrvp := Function.update (Function.update s.qsrvp (rd pair) rsrv)
      (wr pair) wsrv }

def qinsert (s : Plumbing) (pair : Nat) : Plumbing :=
  let irq := rd pair
  let iwq := wr pair
  let srq := rd s.sdRq
  let swq := wr s.sdRq
  let s := s.setNext irq (some srq)
  let s := s.setNfsrv irq (some srq)
  let s := s.setNbsrv iwq (some swq)
  if s.qNext swq ≠ some srq then
    let s := s.setNext iwq (s.qNext swq)
    let s := s.setNfsrv iwq (s.qNfsrv swq)
    s.setNbsrv irq (s.qNbsrv srq)
  else
    let s := s.setNext iwq (some irq)
    let s := s.setNfsrv iwq (some (if s.qsrvp irq then irq else srq))
    s.setNbsrv irq (some (if s.qsrvp iwq then iwq else swq))

/-- `for (bq = start; bq && bq != q; bq = advance(bq))`; `none` when the fuel
is used up. -/
def loop (advance : Plumbing → QueuePtr → Option QueuePtr)
    (body : Plumbing → QueuePtr → Plumbing) (q : QueuePtr) :
    Nat → Plumbing → Option QueuePtr → Option Plumbing
  | _, s, none => some s
  | fuel, s, some bq =>
      if bq = q then some s
      else
        match fuel with
        | 0 => none
        | fuel + 1 =>
            let s := body s bq
            loop advance body q fuel s (advance s bq)

/-- How `qprocson` fixes up the cache pointers for one queue. -/
def cacheOn (s : Plumbing) (fuel : Nat) (q : QueuePtr) : Option Plumbing :=
  if s.qsrvp q ∨ s.qNext q = none then do
    let s ← loop qNext (fun s bq => s.setNfsrv bq (some q)) q fuel s
      (s.qNbsrv q)
    loop backq (fun s bq => s.setNbsrv bq (some q)) q fuel s (s.qNfsrv q)
  else some s

/-- How `qprocsoff` bypasses the service procedure of one queue. -/
def cacheOff (s : Plumbing) (fuel : Nat) (q : QueuePtr) : Option Plumbing :=
  if s.qsrvp q ∨ s.qNext q = none then do
    let s ← loop qNext (fun s bq =>
      if s.qNfsrv bq = some q then s.setNfsrv bq (s.qNfsrv q) else s)
      q fuel s (s.qNbsrv q)
    loop backq (fun s bq =>
      if s.qNbsrv bq = some q then s.setNbsrv bq (s.qNbsrv q) else s)
      q fuel s (s.qNfsrv q)
  else some s

/-- `if ((bq = backq(q))) bq->q_next = q` -/
def join (s : Plumbing) (q : QueuePtr) : Plumbing :=
  match s.backq q with
  | some bq => s.setNext bq (some q)
  | none => s

/-- `if ((bq = backq(q))) if (bq->q_next == q) bq->q_next = q->q_next` -/
def bypass (s : Plumbing) (q : QueuePtr) : Plumbing :=
  match s.backq q with
  | some bq =>
      if s.qNext bq = some q then s.setNext bq (s.qNext q) else s
  | none => s

def qprocson (s : Plumbing) (fuel pair : Nat) : Option Plumbing :=
  if s.qprocs (rd pair) then do
    let s := s.setProcs pair false
    let s := s.join (rd pair)
    let s := s.join (wr pair)
    let s ← s.cacheOn fuel (rd pair)
    s.cacheOn fuel (wr pair)
  else some s

def qprocsoff (s : Plumbing) (fuel pair : Nat) : Option Plumbing :=
  if s.qprocs (rd pair) then some s
  else
    let s := s.setProcs pair true
    if s.sdRq = pair then some s
    else do
      let s ← s.cacheOff fuel (rd pair)
      let s ← s.cacheOff fuel (wr pair)
      let s := s.bypass (rd pair)
      some (s.bypass (wr pair))

/-- One queue as `qdelete` leaves it. -/
def clear (s : Plumbing) (q : QueuePtr) : Plumbing :=
  ((s.setNext q none).setNfsrv q none).setNbsrv q none

def qdelete (s : Plumbing) (pair : Nat) : Plumbing :=
  if s.sdRq = pair then s else (s.clear (rd pair)).clear (wr pair)

/-- `qattach` of a driver or a module whose open procedure succeeds. -/
def qattach (s : Plumbing) (fuel pair : Nat) (rsrv wsrv : Bool) :
    Option Plumbing :=
  let s := s.qalloc pair rsrv wsrv
  let s := s.qinsert pair
  s.qprocson fuel pair

def qdetach (s : Plumbing) (fuel pair : Nat) : Option Plumbing := do
  let s ← s.qprocsoff fuel pair
  some (s.qdelete pair)

/-- `str_open` of a stream that is no pipe, FIFO or socket. -/
def strOpen (s : Plumbing) (fuel pair : Nat) (rsrv wsrv : Bool) :
    Option Plumbing := do
  let s ← s.qattach fuel pair rsrv wsrv
  s.qprocson fuel s.sdRq

/-- `str_i_pop` with a module on the stream. -/
def strPop (s : Plumbing) (fuel : Nat) : Option Plumbing :=
  match s.qNext (wr s.sdRq) with
  | some q => s.qdetach fuel q.pair
  | none => some s

/-- `__bcanputnext`, with the test that is made of a queue. -/
def bcanputnext (s : Plumbing) (bcanput : QueuePtr → Bool) (q : QueuePtr) :
    Bool :=
  match s.qNfsrv q with
  | none => false
  | some nfsrv => if s.qprocs nfsrv then false else bcanput nfsrv

end Plumbing

end OpenSS7.Streams
