import Mathlib.Data.Nat.Cast.WithTop
import OpenSS7.Lib.PriorityList

/-!
Messages at the stream head, and how readers take them off its read queue and
put them back.
-/

namespace OpenSS7.Sth

open PriorityList

inductive DbType where
  | mData
  | mProto
  | mPcproto
deriving DecidableEq

/-- A message block: the bits of `b_flag` that readers look at, and the octets
between its read and its write pointer. -/
structure Block where
  dbType : DbType
  bBand : Nat
  msgmark : Bool
  msgdelim : Bool
  data : List UInt8
deriving DecidableEq

structure Message where
  first : Block
  cont : List Block
deriving DecidableEq

def Message.blocks (mp : Message) : List Block := mp.first :: mp.cont

def Message.ofBlocks : List Block → Option Message
  | [] => none
  | first :: cont => some ⟨first, cont⟩

def Block.cls (b : Block) : WithTop ℕ :=
  if b.dbType = .mPcproto then ⊤ else (b.bBand : ℕ)

def Message.cls (mp : Message) : WithTop ℕ := mp.first.cls

def Message.queued (mp : Message) : Message :=
  if mp.first.dbType = .mPcproto then
    { mp with first := { mp.first with bBand := 0 } }
  else mp

@[simp] theorem Message.queued_dbType (mp : Message) :
    mp.queued.first.dbType = mp.first.dbType := by
  unfold Message.queued
  split <;> rfl

@[simp] theorem Message.queued_cls (mp : Message) : mp.queued.cls = mp.cls := by
  unfold Message.queued Message.cls Block.cls
  split
  case isTrue high => simp [high]
  case isFalse => rfl

/-- The read queue of a stream head, and the bits of `sd_flag` that go with
high priority messages. -/
structure Head where
  q : List Message
  strpri : Bool
  strclose : Bool
deriving DecidableEq

/-- The flags of `getpmsg`; `zero` asks for data only. -/
inductive GetFlags where
  | zero
  | msgHipri
  | msgAny
  | msgBand
deriving DecidableEq

inductive Got where
  | empty
  | ebadmsg
  | msg (mp : Message)
deriving DecidableEq

namespace Head

/-- Whether `strgetq` takes this message off. -/
def accepts (flags : GetFlags) (band : Nat) (mp : Message) : Bool :=
  match mp.first.dbType with
  | .mData => !(flags = .msgHipri || mp.first.bBand < band)
  | .mProto =>
      !(flags = .msgHipri || flags = .zero || mp.first.bBand < band)
  | .mPcproto => !(flags ≠ .msgHipri && flags ≠ .msgAny)

def strgetq (h : Head) (flags : GetFlags) (band : Nat) : Got × Head :=
  match h.q with
  | [] => (.empty, h)
  | mp :: rest =>
      if accepts flags band mp then
        let strpri := if mp.first.dbType = .mPcproto then false else h.strpri
        (.msg mp, { h with q := rest, strpri := strpri })
      else (.ebadmsg, h)

def putq (h : Head) (mp : Message) : Head :=
  { h with q := enqueue Message.cls mp.queued h.q }

def putbq (h : Head) (mp : Message) : Head :=
  { h with q := requeue Message.cls mp.queued h.q }

/-- The second half of `strputbq`, which cleans up the flags. -/
def strputbqFlags (h : Head) : Head :=
  match h.q with
  | [] => h
  | b :: _ => { h with strpri := decide (b.first.dbType = .mPcproto) }

def strputbq (h : Head) (mp : Message) : Head := (h.putbq mp).strputbqFlags

end Head

end OpenSS7.Sth
