import Mathlib.Algebra.Order.Ring.Nat

/-!
Buffer queues: messages linked by `b_next` and `b_prev` between `q_head` and
`q_tail`, with the number of messages and of their octets.
-/

namespace OpenSS7.Drivers

abbrev Addr := Nat

structure Mblk where
  bNext : Option Addr
  bPrev : Option Addr
  bCont : Option Addr
  bRptr : Int
  bWptr : Int
  bDatap : Addr
deriving DecidableEq

structure Dblk where
  dbType : Nat
  dbBase : Int
deriving DecidableEq

def mData : Nat := 0

structure Bufq where
  qHead : Option Addr
  qTail : Option Addr
  qMsgs : Nat
  qCount : Nat
deriving DecidableEq

/-- `bufq_init` -/
def Bufq.init : Bufq := ⟨none, none, 0, 0⟩

structure Bufqs where
  blk : Addr → Mblk
  data : Addr → Dblk
  queue : Nat → Bufq

namespace Bufqs

def next (s : Bufqs) (b : Addr) : Option Addr := (s.blk b).bNext

def prev (s : Bufqs) (b : Addr) : Option Addr := (s.blk b).bPrev

def modifyBlk (s : Bufqs) (b : Addr) (f : Mblk → Mblk) : Bufqs :=
  { s with blk := Function.update s.blk b (f (s.blk b)) }

def modifyQueue (s : Bufqs) (i : Nat) (f : Bufq → Bufq) : Bufqs :=
  { s with queue := Function.update s.queue i (f (s.queue i)) }

def setNext (s : Bufqs) (b : Addr) (p : Option Addr) : Bufqs :=
  s.modifyBlk b fun m => { m with bNext := p }

def setPrev (s : Bufqs) (b : Addr) (p : Option Addr) : Bufqs :=
  s.modifyBlk b fun m => { m with bPrev := p }

def setCont (s : Bufqs) (b : Addr) (p : Option Addr) : Bufqs :=
  s.modifyBlk b fun m => { m with bCont := p }

def setHead (s : Bufqs) (i : Nat) (p : Option Addr) : Bufqs :=
  s.modifyQueue i fun q => { q with qHead := p }

def setTail (s : Bufqs) (i : Nat) (p : Option Addr) : Bufqs :=
  s.modifyQueue i fun q => { q with qTail := p }

/-- The pointer to what comes after `before`, or first when nothing is. -/
def setForward (s : Bufqs) (i : Nat) (before p : Option Addr) : Bufqs :=
  match before with
  | some b => s.setNext b p
  | none => s.setHead i p

/-- The pointer to what comes before `after`, or last when nothing is. -/
def setBackward (s : Bufqs) (i : Nat) (after p : Option Addr) : Bufqs :=
  match after with
  | some b => s.setPrev b p
  | none => s.setTail i p

/-- The loop of `__bufq_add`; `none` when the fuel is used up. -/
def addCount (s : Bufqs) : Nat → Option Addr → Nat → Option Nat
  | _, none, count => some count
  | 0, some _, _ => none
  | fuel + 1, some md, count =>
      let b := s.blk md
      s.addCount fuel b.bCont
        (if b.bRptr < b.bWptr then count + (b.bWptr - b.bRptr).toNat
        else count)

/-- The loop of `__bufq_sub`. -/
def subCount (s : Bufqs) : Nat → Option Addr → Nat → Option Nat
  | _, none, count => some count
  | 0, some _, _ => none
  | fuel + 1, some md, count =>
      let b := s.blk md
      s.subCount fuel b.bCont
        (if b.bRptr < b.bWptr then
          if (b.bWptr - b.bRptr).toNat ≤ count then
            count - (b.bWptr - b.bRptr).toNat
          else 0
        else count)

def bufqAdd (s : Bufqs) (fuel i : Nat) (mp : Addr) : Option Bufqs := do
  let count ← s.addCount fuel (some mp) (s.queue i).qCount
  some (s.modifyQueue i fun q =>
    { q with qMsgs := q.qMsgs + 1, qCount := count })

def bufqSub (s : Bufqs) (fuel i : Nat) (mp : Addr) : Option Bufqs := do
  let count ← s.subCount fuel (some mp) (s.queue i).qCount
  some (s.modifyQueue i fun q =>
    { q with
      qMsgs := q.qMsgs - 1
      qCount := if q.qMsgs - 1 = 0 then 0 else count })

def bufqQueue (s : Bufqs) (fuel i : Nat) (mp : Addr) : Option Bufqs :=
  let tail := (s.queue i).qTail
  let s := s.setPrev mp tail
  let s := s.setForward i tail (some mp)
  let s := s.setNext mp none
  let s := s.setTail i (some mp)
  s.bufqAdd fuel i mp

def bufqQueueHead (s : Bufqs) (fuel i : Nat) (mp : Addr) : Option Bufqs :=
  let head := (s.queue i).qHead
  let s := s.setNext mp head
  let s := s.setBackward i head (some mp)
  let s := s.setPrev mp none
  let s := s.setHead i (some mp)
  s.bufqAdd fuel i mp

def bufqInsert (s : Bufqs) (fuel i : Nat) (mp np : Addr) : Option Bufqs :=
  let prev := s.prev mp
  let s := s.setPrev np prev
  let s := s.setForward i prev (some np)
  let s := s.setPrev mp (some np)
  let s := s.setNext np (some mp)
  s.bufqAdd fuel i np

def bufqAppend (s : Bufqs) (fuel i : Nat) (mp np : Addr) : Option Bufqs :=
  let next := s.next mp
  let s := s.setNext np next
  let s := s.setBackward i next (some np)
  let s := s.setNext mp (some np)
  let s := s.setPrev np (some mp)
  s.bufqAdd fuel i np

def bufqDequeue (s : Bufqs) (fuel i : Nat) : Option (Bufqs × Option Addr) :=
  match (s.queue i).qHead with
  | none => some (s, none)
  | some mp => do
      let next := s.next mp
      let s := s.setHead i next
      let s := s.setBackward i next none
      let s := s.setNext mp none
      let s := s.setPrev mp none
      let s ← s.bufqSub fuel i mp
      some (s, some mp)

def bufqDequeueTail (s : Bufqs) (fuel i : Nat) :
    Option (Bufqs × Option Addr) :=
  match (s.queue i).qTail with
  | none => some (s, none)
  | some mp => do
      let prev := s.prev mp
      let s := s.setTail i prev
      let s := s.setForward i prev none
      let s := s.setNext mp none
      let s := s.setPrev mp none
      let s ← s.bufqSub fuel i mp
      some (s, some mp)

def bufqUnlink (s : Bufqs) (fuel i : Nat) (mp : Addr) : Option Bufqs :=
  let next := s.next mp
  let prev := s.prev mp
  let s := s.setBackward i next prev
  let s := s.setForward i prev next
  let s := s.setNext mp none
  let s := s.setPrev mp none
  s.bufqSub fuel i mp

/-- The loop of `bufq_splice_head`. -/
def bufqSpliceHead (fuel i j : Nat) : Nat → Bufqs → Option Bufqs
  | 0, _ => none
  | turns + 1, s => do
      let (s, mp) ← s.bufqDequeueTail fuel j
      match mp with
      | none => some s
      | some mp =>
          let s ← s.bufqQueueHead fuel i mp
          bufqSpliceHead fuel i j turns s

/-- The loop of `bufq_splice_tail`. -/
def bufqSpliceTail (fuel i j : Nat) : Nat → Bufqs → Option Bufqs
  | 0, _ => none
  | turns + 1, s => do
      let (s, mp) ← s.bufqDequeue fuel j
      match mp with
      | none => some s
      | some mp =>
          let s ← s.bufqQueue fuel i mp
          bufqSpliceTail fuel i j turns s

def bufqFreehead (s : Bufqs) (fuel i : Nat) : Option (Bufqs × Option Addr) :=
  match (s.queue i).qHead with
  | none => some (s, none)
  | some _ => s.bufqDequeue fuel i

/-- The loop of `bufq_purge`, with the messages that are freed. -/
def bufqPurge (fuel i : Nat) : Nat → Bufqs → Option (Bufqs × List Addr)
  | 0, _ => none
  | turns + 1, s =>
      match (s.queue i).qHead with
      | none => some (s, [])
      | some _ => do
          let (s, mp) ← s.bufqDequeue fuel i
          let (s, freed) ← bufqPurge fuel i turns s
          some (s, mp.toList ++ freed)

def unlinkb (s : Bufqs) (mp : Addr) : Bufqs × Option Addr :=
  (s.setCont mp none, (s.blk mp).bCont)

/-- What `__bufq_supply` does to a block before it is queued. -/
def reset (s : Bufqs) (md : Addr) : Bufqs :=
  let d := (s.blk md).bDatap
  let base := (s.data d).dbBase
  let s := { s with
    data := Function.update s.data d { s.data d with dbType := mData } }
  s.modifyBlk md fun m => { m with bRptr := base, bWptr := base }

/-- The loop of `__bufq_supply`. -/
def bufqSupply (fuel i : Nat) : Nat → Option Addr → Bufqs → Option Bufqs
  | _, none, s => some s
  | 0, some _, _ => none
  | turns + 1, some md, s => do
      let s ← (s.reset md).bufqQueue fuel i md
      let (s, md) := s.unlinkb md
      bufqSupply fuel i turns md s

/-- The test of `bufq_resupply`: counts are compared as `size_t`. -/
def refuses (s : Bufqs) (i : Nat) (maxsize maxcount : Int) : Bool :=
  decide ((maxcount % 2 ^ 64).toNat < (s.queue i).qMsgs) ||
    decide ((maxsize % 2 ^ 64).toNat < (s.queue i).qCount)

def bufqResupply (s : Bufqs) (fuel i : Nat) (mp : Addr)
    (maxsize maxcount : Int) : Option (Bufqs × Option Addr) :=
  if s.refuses i maxsize maxcount then
    some (s, some mp)
  else do
    let s ← bufqSupply fuel i fuel (some mp) s
    some (s, none)

end Bufqs

/-- A message by its blocks, along `b_cont`. -/
structure Message where
  mp : Addr
  rest : List Addr
deriving DecidableEq

def Message.blocks (m : Message) : List Addr := m.mp :: m.rest

inductive Op where
  | queue (i : Nat) (m : Message)
  | queueHead (i : Nat) (m : Message)
  | insert (i : Nat) (mp : Addr) (m : Message)
  | append (i : Nat) (mp : Addr) (m : Message)
  | dequeue (i : Nat)
  | dequeueTail (i : Nat)
  | unlink (i : Nat) (mp : Addr)
  | spliceHead (i j : Nat)
  | spliceTail (i j : Nat)
  | freehead (i : Nat)
  | purge (i : Nat)
  | supply (i : Nat) (m : Message)
  | resupply (i : Nat) (m : Message) (maxsize maxcount : Int)
  | write (b : Addr) (v : Mblk)
  | writeData (d : Addr) (v : Dblk)

def Bufqs.exec (s : Bufqs) (fuel : Nat) : Op → Option (Bufqs × List Addr)
  | .queue i m => do some (← s.bufqQueue fuel i m.mp, [])
  | .queueHead i m => do some (← s.bufqQueueHead fuel i m.mp, [])
  | .insert i mp m => do some (← s.bufqInsert fuel i mp m.mp, [])
  | .append i mp m => do some (← s.bufqAppend fuel i mp m.mp, [])
  | .dequeue i => do
      let (s, mp) ← s.bufqDequeue fuel i
      some (s, mp.toList)
  | .dequeueTail i => do
      let (s, mp) ← s.bufqDequeueTail fuel i
      some (s, mp.toList)
  | .unlink i mp => do some (← s.bufqUnlink fuel i mp, [mp])
  | .spliceHead i j => do some (← bufqSpliceHead fuel i j fuel s, [])
  | .spliceTail i j => do some (← bufqSpliceTail fuel i j fuel s, [])
  | .freehead i => do
      let (s, mp) ← s.bufqFreehead fuel i
      some (s, mp.toList)
  | .purge i => bufqPurge fuel i fuel s
  | .supply i m => do some (← bufqSupply fuel i fuel (some m.mp) s, [])
  | .resupply i m maxsize maxcount => do
      let (s, mp) ← s.bufqResupply fuel i m.mp maxsize maxcount
      some (s, mp.toList)
  | .write b v => some (s.modifyBlk b fun _ => v, [])
  | .writeData d v =>
      some ({ s with data := Function.update s.data d v }, [])

end OpenSS7.Drivers
