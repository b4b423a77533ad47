import OpenSS7.Sth.Getpmsg

/-!
Messages arriving at the stream head, and readers that take them off: the
sections under a lock are the steps.
-/

namespace OpenSS7.Sth

open PriorityList

def Message.isPcproto (mp : Message) : Bool :=
  decide (mp.first.dbType = .mPcproto)

namespace Head

def strMPcproto (h : Head) (mp : Message) : Head :=
  if h.strclose || h.strpri then h
  else ({ h with strpri := true } : Head).putq mp

/-- `strrput` for M_DATA, M_PROTO and M_PCPROTO. -/
def strrput (h : Head) (mp : Message) : Head :=
  if mp.isPcproto then h.strMPcproto mp else h.putq mp

/-- The first section of `str_m_flush` for the whole read queue. -/
def flushq (h : Head) : Head := { h with q := [] }

/-- The section that fixes up STRPRI after `flushq`. -/
def flushFix (h : Head) : Head :=
  { h with strpri := h.strpri && (h.q.head?.any Message.isPcproto) }

def inBand (band : Nat) (mp : Message) : Bool :=
  !mp.isPcproto && decide (mp.first.bBand = band)

/-- `flushband` for the read queue. Of band zero only one message behind others
is taken off cleanly: else `q_last` is left at a message that is freed, or a
null pointer is followed, and the queue is no list any more. -/
def flushband (h : Head) (band : Nat) : Option Head :=
  let flushed := h.q.filter (inBand band)
  let rest := h.q.filter fun mp => !inBand band mp
  if band = 0 ∧ flushed ≠ [] ∧ (flushed.length ≠ 1 ∨ rest = []) then none
  else some { h with q := rest }

end Head

/-- A call of `read`, with after how many copies one fails. -/
structure ReadReq where
  opt : ReadOpt
  nbytes : Nat
  faults : Option Nat
deriving DecidableEq

/-- What `strread_fast` puts back of what it has gathered. -/
def ReadReq.rest (call : ReadReq) (r : Reading) : Option Message :=
  match r.first with
  | none => none
  | some first =>
      let c := strmcopyout call.opt.protdis call.faults call.nbytes first.blocks
      if c.copied ≠ [] ∧ c.fault = false ∧ call.opt.mode = .rmsgd then none
      else Message.ofBlocks c.left

inductive Reader where
  | idle
  /-- In the loop of `read`, about to call `strgetq`. -/
  | reading (call : ReadReq) (r : Reading)
  /-- In `getpmsg`, about to call `strgetq`. -/
  | getting (call : GetCall)
  /-- The loop of `read` is over, and the locks are released. -/
  | copying (call : ReadReq) (r : Reading)
  /-- `getpmsg` has a message, and the locks are released. -/
  | got (call : GetCall) (mp : Message)
  /-- About to put a message back; a `read` then copies out what it has. -/
  | returning (mp : Message) (next : Option (ReadReq × Reading))
  /-- Between the two sections of `strputbq`. -/
  | cleaning (next : Option (ReadReq × Reading))
deriving DecidableEq

structure Point where
  h : Head
  reader : Reader
  fixes : Nat
deriving DecidableEq

inductive Event where
  | strrput (mp : Message)
  | flush
  | flushq
  | flushFix
  | flushband (band : Nat)
  | close
  | read (call : ReadReq)
  | getpmsg (call : GetCall)
  | strgetq
  | giveUp
  | copyout
  | putbq
  | putbqFlags
deriving DecidableEq

namespace Point

def start : Point := ⟨⟨[], false, false⟩, .idle, 0⟩

def afterPut : Option (ReadReq × Reading) → Reader
  | none => .idle
  | some (call, r) => .copying call r

def afterCopyout : Option Message → Reader
  | none => .idle
  | some left => .returning left none

def strgetq (p : Point) : Option Point :=
  match p.reader with
  | .reading call r =>
      match p.h.strgetq call.opt.getFlags 0 with
      | (.empty, _) => some p
      | (.ebadmsg, h) => some { p with h := h, reader := .copying call r }
      | (.msg mp, h) =>
          match r.take call.opt call.nbytes mp with
          | .again r => some { p with h := h, reader := .reading call r }
          | .stop r => some { p with h := h, reader := .copying call r }
          | .putBack mp r =>
              some { p with h := h, reader := .returning mp (some (call, r)) }
  | .getting call =>
      match p.h.strgetq call.flags call.band with
      | (.empty, _) => some p
      | (.ebadmsg, h) => some { p with h := h, reader := .idle }
      | (.msg mp, h) => some { p with h := h, reader := .got call mp }
  | _ => none

def giveUp (p : Point) : Option Point :=
  match p.reader with
  | .reading call r => some { p with reader := .copying call r }
  | .getting _ => some { p with reader := .idle }
  | _ => none

def copyout (p : Point) : Option Point :=
  match p.reader with
  | .copying call r => some { p with reader := afterCopyout (call.rest r) }
  | .got call mp => some { p with reader := afterCopyout (call.rest mp) }
  | _ => none

def putbq (p : Point) : Option Point :=
  match p.reader with
  | .returning mp next =>
      some { p with h := p.h.putbq mp, reader := .cleaning next }
  | _ => none

def putbqFlags (p : Point) : Option Point :=
  match p.reader with
  | .cleaning next =>
      some { p with h := p.h.strputbqFlags, reader := afterPut next }
  | _ => none

/-- A reader waits in `strwaithlist` until no other has the queue. -/
def enter (p : Point) (reader : Reader) : Option Point :=
  if p.reader = .idle then some { p with reader := reader } else none

def step (p : Point) : Event → Option Point
  | .strrput mp => some { p with h := p.h.strrput mp }
  | .flush => some { p with h := p.h.flushq.flushFix }
  | .flushq => some { p with h := p.h.flushq, fixes := p.fixes + 1 }
  | .flushFix =>
      if p.fixes = 0 then none
      else some { p with h := p.h.flushFix, fixes := p.fixes - 1 }
  | .flushband band => (p.h.flushband band).map fun h => { p with h := h }
  | .close => some { p with h := { p.h with strclose := true } }
  | .read call => p.enter (.reading call ⟨none, 0⟩)
  | .getpmsg call => p.enter (.getting call)
  | .strgetq => p.strgetq
  | .giveUp => p.giveUp
  | .copyout => p.copyout
  | .putbq => p.putbq
  | .putbqFlags => p.putbqFlags

def run (p : Point) : List Event → Option Point
  | [] => some p
  | e :: rest => (p.step e).bind fun p => p.run rest

end Point

end OpenSS7.Sth
