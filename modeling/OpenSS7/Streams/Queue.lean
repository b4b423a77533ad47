import Mathlib.Algebra.Ring.Nat
import OpenSS7.Lib.LinkedList

/-!
The STREAMS message queue: message blocks linked through `b_next`/`b_prev`,
the queue head with its byte counts and flow-control flags, and the chain of
`qband` structures. A pointer is an optional address.
-/

namespace OpenSS7.Streams

open LinkedList

abbrev Addr := Nat

/-- What a message holds besides its place on a queue: `b_band`, the
`db_type` of its data block, and the read and write pointers of the blocks
on its `b_cont` chain. -/
structure Msg where
  bBand : Nat
  dbType : Nat
  blocks : List (Nat × Nat)
deriving DecidableEq, Inhabited

structure Mblk extends Msg where
  bNext : Option Addr
  bPrev : Option Addr
deriving DecidableEq, Inhabited

abbrev Heap := Addr → Mblk

structure Qband where
  qbCount : Nat
  qbFirst : Option Addr
  qbLast : Option Addr
  qbHiwat : Nat
  qbLowat : Nat
  qbMsgs : Nat
  qbFull : Bool
  qbWantw : Bool
deriving DecidableEq

/-- `qBandp` is the chain of bands from `q_nband` downwards; `qNext` tells
whether `q_next` is set, and the other Booleans are bits of `q_flag`. -/
structure Queue where
  qFirst : Option Addr
  qLast : Option Addr
  qCount : Nat
  qMsgs : Nat
  qHiwat : Nat
  qLowat : Nat
  qBandp : List Qband
  qNband : Nat
  qBlocked : Nat
  qFull : Bool
  qWantw : Bool
  qWantr : Bool
  qNoenb : Bool
  qProcs : Bool
  qSrvp : Bool
  qNext : Bool
deriving DecidableEq

structure QState where
  heap : Heap
  q : Queue

def QPCTL : Nat := 0x80
def M_DATA : Nat := 0x00
def M_PROTO : Nat := 0x01
def M_DELAY : Nat := 0x0c
def M_PCPROTO : Nat := 0x83

def msgsize (m : Msg) : Nat :=
  (m.blocks.map fun block => block.2 - block.1).sum

def datamsg (type : Nat) : Bool :=
  let mod := type % QPCTL
  (1 <<< mod) &&& ((1 <<< M_DATA) ||| (1 <<< M_PROTO) |||
    (1 <<< (M_PCPROTO % QPCTL)) ||| (1 <<< M_DELAY)) != 0

namespace Msg

def isHiPri (m : Msg) : Bool := decide (QPCTL ≤ m.dbType)

def isdatamsg (m : Msg) : Bool := datamsg m.dbType

end Msg

namespace Heap

def next (heap : Heap) (mp : Addr) : Option Addr := (heap mp).bNext

def prev (heap : Heap) (mp : Addr) : Option Addr := (heap mp).bPrev

def msg (heap : Heap) (mp : Addr) : Msg := (heap mp).toMsg

def setNext (heap : Heap) (mp : Addr) (p : Option Addr) : Heap :=
  Function.update heap mp { heap mp with bNext := p }

def setPrev (heap : Heap) (mp : Addr) (p : Option Addr) : Heap :=
  Function.update heap mp { heap mp with bPrev := p }

/-- `if (p) p->b_next = v;` -/
def setNext? (heap : Heap) : Option Addr → Option Addr → Heap
  | none, _ => heap
  | some mp, v => heap.setNext mp v

/-- `if (p) p->b_prev = v;` -/
def setPrev? (heap : Heap) : Option Addr → Option Addr → Heap
  | none, _ => heap
  | some mp, v => heap.setPrev mp v

def setMsg (heap : Heap) (mp : Addr) (m : Msg) : Heap :=
  Function.update heap mp { heap mp with toMsg := m }

def zeroBand (heap : Heap) (mp : Addr) : Heap :=
  heap.setMsg mp { heap.msg mp with bBand := 0 }

end Heap

namespace Queue

/-- `__find_qband`: the position on `q_bandp` reached by stepping down from
`q_nband` to the band. -/
def findQband (q : Queue) (band : Nat) : Option Nat :=
  let ix := q.qNband - band
  if ix < q.qBandp.length then some ix else none

/-- The `qband` that `__get_qband` sets up after `allocqb`. -/
def newQband (q : Queue) : Qband :=
  { qbCount := 0
    qbFirst := none
    qbLast := none
    qbHiwat := q.qHiwat
    qbLowat := q.qLowat
    qbMsgs := 0
    qbFull := false
    qbWantw := false }

/-- One turn of the allocation loop of `__get_qband`. -/
def pushQband (q : Queue) : Queue :=
  { q with qBandp := q.newQband :: q.qBandp, qNband := q.qNband + 1 }

/-- The allocation loop; `mem` is the number of bands that can be allocated
before `allocqb` fails. -/
def allocBands (q : Queue) : Nat → Nat → Queue × Bool
  | 0, _ => (q, true)
  | _ + 1, 0 => (q, false)
  | n + 1, mem + 1 => q.pushQband.allocBands n mem

def getQband (q : Queue) (band mem : Nat) : Queue × Option Nat :=
  if band ≤ q.qNband then
    (q, q.findQband band)
  else
    match q.allocBands (band - q.qNband) mem with
    | (q', true) => (q', some 0)
    | (q', false) => (q', none)

/-- `q_count += msgsize(mp)` with the high-water test. -/
def charge (q : Queue) (size : Nat) : Queue :=
  { q with
    qCount := q.qCount + size
    qFull := q.qFull || decide (q.qHiwat < q.qCount + size) }

/-- `q_count -= msgsize(mp)` with the low-water test; the result tells
whether a writer waits to be back-enabled. -/
def release (q : Queue) (size : Nat) : Queue × Bool :=
  let count := q.qCount - size
  if (count = 0 ∨ count < q.qLowat) ∧ q.qFull then
    ({ q with qCount := count, qFull := false, qWantw := false }, q.qWantw)
  else
    ({ q with qCount := count }, false)

def chargeBand (q : Queue) (ix : Nat) (mp : Addr) (bPrev bNext : Option Addr)
    (size : Nat) : Option Queue := do
  let qb ← q.qBandp[ix]?
  let full := decide (qb.qbHiwat < qb.qbCount + size)
  some { q with
    qBandp := q.qBandp.set ix
      { qb with
        qbLast :=
          if qb.qbLast = bPrev ∨ qb.qbLast = none then some mp else qb.qbLast
        qbFirst :=
          if qb.qbFirst = bNext ∨ qb.qbFirst = none then some mp
          else qb.qbFirst
        qbMsgs := qb.qbMsgs + 1
        qbCount := qb.qbCount + size
        qbFull := qb.qbFull || full }
    qBlocked := if full && !qb.qbFull then q.qBlocked + 1 else q.qBlocked }

def releaseBand (q : Queue) (ix : Nat) (size : Nat)
    (mark : Qband → Qband) : Option (Queue × Bool) := do
  let qb ← q.qBandp[ix]?
  let qb := mark qb
  let count := qb.qbCount - size
  let qb := { qb with qbMsgs := qb.qbMsgs - 1, qbCount := count }
  if (count = 0 ∨ count < qb.qbLowat) ∧ qb.qbFull then
    some ({ q with
        qBandp := q.qBandp.set ix { qb with qbFull := false, qbWantw := false }
        qBlocked := q.qBlocked - 1 }, qb.qbWantw)
  else
    some ({ q with qBandp := q.qBandp.set ix qb }, false)

def bcanputSlow (q : Queue) (band : Nat) : Option (Queue × Nat) :=
  if band ≤ q.qNband ∧ 0 < q.qBlocked then do
    let ix ← q.findQband band
    let qb ← q.qBandp[ix]?
    if qb.qbFull then
      some ({ q with qBandp := q.qBandp.set ix { qb with qbWantw := true } }, 0)
    else
      some (q, 1)
  else
    some (q, 1)

/-- `__bcanput` -/
def bcanputLocked (q : Queue) (band : Nat) : Option (Queue × Nat) :=
  if band = 0 then
    if q.qFull then some ({ q with qWantw := true }, 0) else some (q, 1)
  else
    q.bcanputSlow band

/-- `__bcanputnext`, on the queue that `q_nfsrv` points to. -/
def bcanputnextLocked (nfsrv : Option Queue) (band : Nat) :
    Option (Option Queue × Nat) :=
  match nfsrv with
  | none => some (none, 0)
  | some q =>
      if q.qProcs then some (some q, 0)
      else do
        let (q, result) ← q.bcanputLocked band
        some (some q, result)

/-- `bcanputnext` on `q`, with the queue its `q_nfsrv` points to. -/
def bcanputnext (q : Queue) (nfsrv : Option Queue) (band : Nat) :
    Option (Option Queue × Nat) :=
  if q.qProcs then some (nfsrv, 0) else bcanputnextLocked nfsrv band

/-- `bcanput` on `q`, with the queue its `q_nfsrv` points to. -/
def bcanput (q : Queue) (nfsrv : Option Queue) (band : Nat) :
    Option (Queue × Option Queue × Nat) :=
  if q.qProcs then
    some (q, nfsrv, 0)
  else if q.qSrvp || !q.qNext then do
    let (q, result) ← q.bcanputLocked band
    some (q, nfsrv, result)
  else do
    let (nfsrv, result) ← bcanputnextLocked nfsrv band
    some (q, nfsrv, result)

end Queue

namespace QState

/-- The end-marker and link updates that place `mp` between two neighbours,
as written out in `__putq_pri`, `__putq_band`, `__putbq_band` and
`__putbq_norm`. -/
def link (s : QState) (mp : Addr) (bPrev bNext : Option Addr) : QState :=
  { heap :=
      (((s.heap.setNext mp bNext).setPrev? bNext (some mp)).setPrev mp
        bPrev).setNext? bPrev (some mp)
    q := { s.q with
      qLast := if s.q.qLast = bPrev then some mp else s.q.qLast
      qFirst := if s.q.qFirst = bNext then some mp else s.q.qFirst
      qMsgs := s.q.qMsgs + 1 } }

/-- `__putq_pri`; `insq` is false when called from `putq`. -/
def putqPri (fuel : Nat) (s : QState) (mp : Addr) (insq : Bool) :
    Option (QState × Nat) := do
  let (bPrev, bNext) ←
    walk s.heap.next (fun b => (s.heap.msg b).isHiPri) fuel none s.q.qFirst
  let s := { s with heap := s.heap.zeroBand mp }
  let s := { s with q := s.q.charge (msgsize (s.heap.msg mp)) }
  let s := s.link mp bPrev bNext
  some (s, if !insq || !s.q.qNoenb then 2 else 1)

def putqBand (fuel mem : Nat) (s : QState) (mp : Addr) :
    Option (QState × Nat) := do
  let band := (s.heap.msg mp).bBand
  let (bPrev, bNext) ←
    walk s.heap.next (fun b => (s.heap.msg b).isHiPri) fuel none s.q.qFirst
  match s.q.getQband band mem with
  | (q, none) => some ({ s with q := q }, 0)
  | (q, some ix) =>
      let (bPrev, bNext) ←
        walk s.heap.next (fun b => decide (band ≤ (s.heap.msg b).bBand)) fuel
          bPrev bNext
      let q ← q.chargeBand ix mp bPrev bNext (msgsize (s.heap.msg mp))
      let s := link { s with q := q } mp bPrev bNext
      some (s, if s.q.qFirst = some mp ∧ !s.q.qNoenb then 2 else 1)

def putqNorm (fuel mem : Nat) (s : QState) (mp : Addr) :
    Option (QState × Nat) :=
  if (s.heap.msg mp).bBand = 0 then
    let heap :=
      ((s.heap.setNext mp none).setPrev mp s.q.qLast).setNext? s.q.qLast
        (some mp)
    let q := { s.q with
      qLast := some mp
      qFirst := if s.q.qFirst = none then some mp else s.q.qFirst
      qMsgs := s.q.qMsgs + 1 }
    let s : QState := { heap := heap, q := q.charge (msgsize (s.heap.msg mp)) }
    some (s, if s.q.qFirst = some mp ∧ !s.q.qNoenb ∧ s.q.qWantr then 2 else 1)
  else
    putqBand fuel mem s mp

/-- `__putq` -/
def putqLocked (fuel mem : Nat) (s : QState) (mp : Addr) :
    Option (QState × Nat) :=
  if (s.heap.msg mp).dbType < QPCTL then putqNorm fuel mem s mp
  else putqPri fuel s mp false

def putbqPri (s : QState) (mp : Addr) : QState × Nat :=
  let heap := s.heap.zeroBand mp
  let heap :=
    ((heap.setNext mp s.q.qFirst).setPrev? s.q.qFirst (some mp)).setPrev mp
      none
  let q := { s.q with
    qFirst := some mp
    qLast := if s.q.qLast = none then some mp else s.q.qLast
    qMsgs := s.q.qMsgs + 1 }
  ({ heap := heap, q := q.charge (msgsize (heap.msg mp)) }, 2)

def putbqBand (fuel mem : Nat) (s : QState) (mp : Addr) :
    Option (QState × Nat) := do
  let band := (s.heap.msg mp).bBand
  let (bPrev, bNext) ←
    walk s.heap.next (fun b => (s.heap.msg b).isHiPri) fuel none s.q.qFirst
  let (bPrev, bNext) ←
    walk s.heap.next (fun b => decide (band < (s.heap.msg b).bBand)) fuel
      bPrev bNext
  match s.q.getQband band mem with
  | (q, none) => some ({ s with q := q }, 0)
  | (q, some ix) =>
      let q ← q.chargeBand ix mp bPrev bNext (msgsize (s.heap.msg mp))
      let s := link { s with q := q } mp bPrev bNext
      some (s,
        if s.q.qFirst = some mp ∧ !s.q.qNoenb ∧ s.q.qWantr then 2 else 1)

def putbqNorm (fuel mem : Nat) (s : QState) (mp : Addr) :
    Option (QState × Nat) :=
  if (s.heap.msg mp).bBand = 0 then do
    let (bPrev, bNext) ←
      walk s.heap.next (fun b => (s.heap.msg b).isHiPri) fuel none s.q.qFirst
    let (bPrev, bNext) ←
      walk s.heap.next (fun b => decide (0 < (s.heap.msg b).bBand)) fuel
        bPrev bNext
    let s := s.link mp bPrev bNext
    let s := { s with q := s.q.charge (msgsize (s.heap.msg mp)) }
    some (s, if s.q.qFirst = some mp ∧ !s.q.qNoenb ∧ s.q.qWantr then 2 else 1)
  else
    putbqBand fuel mem s mp

/-- `__putbq` -/
def putbqLocked (fuel mem : Nat) (s : QState) (mp : Addr) :
    Option (QState × Nat) :=
  if (s.heap.msg mp).dbType < QPCTL then putbqNorm fuel mem s mp
  else some (putbqPri s mp)

/-- The unlinking code of `__rmvq_band` and `__rmvq_norm`. -/
def unlink (s : QState) (mp : Addr) : QState :=
  let bPrev := s.heap.prev mp
  let bNext := s.heap.next mp
  let heap := match bPrev with
    | none => s.heap
    | some prev => (s.heap.setNext prev bNext).setPrev mp none
  let heap := match bNext with
    | none => heap
    | some next => (heap.setPrev next bPrev).setNext mp none
  { heap := heap
    q := { s.q with
      qFirst := if s.q.qFirst = some mp then bNext else s.q.qFirst
      qLast := if s.q.qLast = some mp then bPrev else s.q.qLast
      qMsgs := s.q.qMsgs - 1 } }

def rmvqBand (s : QState) (mp : Addr) : Option (QState × Bool) := do
  let bPrev := s.heap.prev mp
  let bNext := s.heap.next mp
  let s := s.unlink mp
  let ix ← s.q.findQband (s.heap.msg mp).bBand
  let (q, be) ← s.q.releaseBand ix (msgsize (s.heap.msg mp)) fun qb =>
    if qb.qbFirst = some mp ∧ qb.qbLast = some mp then
      { qb with qbFirst := none, qbLast := none }
    else
      { qb with
        qbFirst := if qb.qbFirst = some mp then bNext else qb.qbFirst
        qbLast := if qb.qbLast = some mp then bPrev else qb.qbLast }
  some ({ s with q := q }, be)

def rmvqNorm (s : QState) (mp : Addr) : QState × Bool :=
  let s := s.unlink mp
  let (q, be) := s.q.release (msgsize (s.heap.msg mp))
  ({ s with q := q }, be)

/-- `__rmvq` -/
def rmvqLocked (s : QState) (mp : Addr) : Option (QState × Bool) :=
  if (s.heap.msg mp).bBand = 0 then some (rmvqNorm s mp) else rmvqBand s mp

/-- The hand-optimised unlinking of the first message in `__getq`. -/
def unlinkFirst (s : QState) (mp : Addr) : QState :=
  let bNext := s.heap.next mp
  { heap := match bNext with
      | none => s.heap
      | some next => (s.heap.setPrev next none).setNext mp none
    q := { s.q with
      qFirst := bNext
      qLast := if s.q.qLast = some mp then none else s.q.qLast
      qMsgs := s.q.qMsgs - 1 } }

/-- `__getq` -/
def getqLocked (s : QState) : Option (QState × Option Addr × Bool) :=
  match s.q.qFirst with
  | none => some ({ s with q := { s.q with qWantr := true } }, none, false)
  | some mp => do
      let s := s.unlinkFirst mp
      let size := msgsize (s.heap.msg mp)
      let (q, be) ←
        if (s.heap.msg mp).bBand = 0 then
          some (s.q.release size)
        else do
          let ix ← s.q.findQband (s.heap.msg mp).bBand
          s.q.releaseBand ix size fun qb =>
            { qb with
              qbFirst := s.q.qFirst
              qbLast := if qb.qbLast = some mp then none else qb.qbLast }
      some ({ s with q := { q with qWantr := false } }, some mp, be)

end QState

inductive FlushFlag where
  | flushall
  | flushdata
deriving DecidableEq

/-- What a call does besides changing the queue: its integer result, the
message it returns, whether it calls `qenable`, and the bands it asks
`qbackenable` to back-enable. -/
structure Outcome where
  result : Nat
  msg : Option Addr
  enable : Bool
  backenable : List Nat
deriving DecidableEq

/-- What `__flushq` hands back: the chain of messages to be freed, by its
first and last message, and the bits set in `bands`. -/
structure Flushed where
  chain : Option Addr
  tail : Option Addr
  bands : List Nat
deriving DecidableEq

namespace Flushed

def empty : Flushed := ⟨none, none, []⟩

end Flushed

namespace QState

/-- `**mppp = b; *mppp = &b->b_next; **mppp = NULL;` -/
def chainOn (s : QState) (flushed : Flushed) (b : Addr) : QState × Flushed :=
  ({ s with heap := (s.heap.setNext? flushed.tail (some b)).setNext b none },
    { flushed with
      chain := if flushed.tail = none then some b else flushed.chain
      tail := some b })

/-- The loop of the FLUSHDATA branch of `__flushq`, from message `b` on. -/
def flushData : Nat → QState → Addr → Flushed → Option (QState × Flushed)
  | 0, _, _, _ => none
  | fuel + 1, s, b, flushed => do
      let bNext := s.heap.next b
      let (s, flushed) ←
        if (s.heap.msg b).isdatamsg then do
          let (s, be) ← s.rmvqLocked b
          let flushed :=
            if be then
              { flushed with bands := (s.heap.msg b).bBand :: flushed.bands }
            else flushed
          some (s.chainOn flushed b)
        else
          some (s, flushed)
      match bNext with
      | none => some (s, flushed)
      | some next => flushData fuel s next flushed

def flushBands : List Qband → Nat → List Qband × List Nat
  | [], _ => ([], [])
  | qb :: rest, nband =>
      let (rest', bands) := flushBands rest (nband - 1)
      let cleared := { qb with
        qbFirst := none
        qbLast := none
        qbCount := 0
        qbMsgs := 0
        qbFull := false
        qbWantw := if qb.qbFull then false else qb.qbWantw }
      (cleared :: rest', if qb.qbFull && qb.qbWantw then nband :: bands else bands)

/-- The FLUSHALL branch of `__flushq`. -/
def flushAll (s : QState) (b : Addr) : Option (QState × Flushed) := do
  let last ← s.q.qLast
  let (bandp, bands) := flushBands s.q.qBandp s.q.qNband
  some ({ heap := s.heap.setNext last none
          q := { s.q with
            qFirst := none
            qLast := none
            qCount := 0
            qMsgs := 0
            qFull := false
            qWantw := if s.q.qFull then false else s.q.qWantw
            qBandp := bandp
            qBlocked := 0 } },
    { chain := some b
      tail := some last
      bands := if s.q.qFull && s.q.qWantw then 0 :: bands else bands })

/-- `__flushq` -/
def flushqLocked (fuel : Nat) (s : QState) (flag : FlushFlag) :
    Option (QState × Flushed) :=
  match s.q.qFirst with
  | none => some (s, Flushed.empty)
  | some b =>
      match flag with
      | .flushall => s.flushAll b
      | .flushdata => flushData fuel s b Flushed.empty

/-- The tail of `putq` and `putbq` after the queue is unlocked. -/
def putOutcome (result : Nat) : Outcome :=
  { result := if result < 2 then result else 1
    msg := none
    enable := !decide (result < 2)
    backenable := [] }

def putq (fuel mem : Nat) (s : QState) (mp : Addr) :
    Option (QState × Outcome) := do
  let (s, result) ← s.putqLocked fuel mem mp
  some (s, putOutcome result)

def putbq (fuel mem : Nat) (s : QState) (mp : Addr) :
    Option (QState × Outcome) := do
  let (s, result) ← s.putbqLocked fuel mem mp
  some (s, putOutcome result)

def getq (s : QState) : Option (QState × Outcome) := do
  let (s, mp, be) ← s.getqLocked
  let bands := match mp with
    | some mp => if be then [(s.heap.msg mp).bBand] else []
    | none => []
  some (s, { result := 0, msg := mp, enable := false, backenable := bands })

def rmvq (s : QState) (mp : Addr) : Option (QState × Outcome) := do
  let (s, be) ← s.rmvqLocked mp
  let bands := if be then [(s.heap.msg mp).bBand] else []
  some (s, { result := 0, msg := none, enable := false, backenable := bands })

/-- `flushq`; with an array of bands `qbackenable` looks at the bits from
zero up to the `q_nband` it is given. -/
def flushq (fuel : Nat) (s : QState) (flag : FlushFlag) :
    Option (QState × Outcome) := do
  let nband := s.q.qNband
  let (s, flushed) ← s.flushqLocked fuel flag
  let bands := (List.range (nband + 1)).filter (· ∈ flushed.bands)
  some (s,
    { result := 0
      msg := flushed.chain
      enable := false
      backenable := bands })

end QState

end OpenSS7.Streams
