import OpenSS7.Mblk.Block

/-!
The operations on message blocks and messages.
-/

namespace OpenSS7.Mblk

structure SkBuff where
  skb : Nat
  head : Addr
  data : Addr
  tail : Addr
  fin : Addr
deriving DecidableEq

/-- What the kernel answers to `kmem_alloc` and to `alloc_skb`. -/
structure Memory where
  kmemAlloc : Option Addr
  allocSkb : Option SkBuff
deriving DecidableEq

namespace Heap

/-- `db_inc`: fails when the count has hit 255. -/
def dbInc (h : Heap) (db : Nat) : Bool × Heap :=
  if (h.blk db).dbRef ≠ 255 then
    (true, h.modify db fun md => { md with dbRef := md.dbRef + 1 })
  else (false, h)

/-- `db_dec_and_test`; the count is an unsigned char. -/
def dbDecAndTest (h : Heap) (db : Nat) : Bool × Heap :=
  let h := h.modify db fun md =>
    { md with dbRef := (md.dbRef + 255) % 256 }
  (decide ((h.blk db).dbRef = 0), h)

/-- What `freedb` releases with the last reference to a data block. -/
def releases (md : Mdbblock) : Option Resource :=
  if md.dbBase ≠ md.databuf then
    match md.dbFrtnp with
    | some frtnp =>
        frtnp.freeFunc.map fun freeFunc => .routine freeFunc frtnp.freeArg
    | none => some (.kmem md.dbBase md.dbSize)
  else none

def release (h : Heap) (db : Nat) : Heap :=
  match releases (h.blk db) with
  | some resource => h.note (.gave (some db) resource)
  | none => h

def freedb (h : Heap) (db : Nat) : Heap :=
  let (last, h) := h.dbDecAndTest db
  if last then
    let h := h.release db
    -- the whole mdbblock can go if its message block is also unused
    if (h.blk db).bDatap = none then h.mdbblockFree db else h
  else h

def freeb (h : Heap) (mp : Nat) : Heap :=
  match (h.blk mp).bDatap with
  | none => h
  | some db =>
      let h := h.modify mp fun md => { md with bDatap := none }
      let h := h.freedb db
      if db ≠ mp ∧ (h.blk mp).dbRef = 0 then h.mdbblockFree mp else h

/-- `freemsg`, for a message of at most `fuel` blocks. -/
def freemsg (h : Heap) : Nat → Option Nat → Heap
  | 0, _ => h
  | _, none => h
  | fuel + 1, some bp => (h.freeb bp).freemsg fuel (h.blk bp).bCont

def dupb (h : Heap) (cfg : Config) (bp : Nat) : Option Nat × Heap :=
  match h.mdbblockAlloc cfg with
  | (none, h) => (none, h)
  | (some mp, h) =>
      match (h.blk bp).bDatap with
      | none => (none, h)
      | some db =>
          match h.dbInc db with
          | (true, h) =>
              let h := h.modify mp fun md =>
                { md with
                  bRptr := (h.blk bp).bRptr
                  bWptr := (h.blk bp).bWptr
                  bDatap := (h.blk bp).bDatap }
              -- the data block that comes with it is unused
              (some mp, h.modify mp fun md => { md with dbRef := 0 })
          | (false, h) => (none, h.freeb mp)

def append (h : Heap) (last : Option Nat) (mp : Nat) : Heap :=
  match last with
  | none => h
  | some tail => h.modify tail fun md => { md with bCont := some mp }

/-- The loop of `dupmsg`: `b` is the block to duplicate next, `msg` the
duplicate so far and `last` its last block. -/
def dupmsgFrom (cfg : Config) (freeFuel : Nat) :
    Nat → Heap → Option Nat → Option Nat → Option Nat → Option Nat × Heap
  | 0, h, _, msg, _ => (msg, h)
  | _, h, none, msg, _ => (msg, h)
  | fuel + 1, h, some b, msg, last =>
      match h.dupb cfg b with
      | (none, h) => (none, h.freemsg freeFuel msg)
      | (some mp, h) =>
          let h := h.append last mp
          dupmsgFrom cfg freeFuel fuel h (h.blk b).bCont
            (msg.or (some mp)) (some mp)

def dupmsg (h : Heap) (cfg : Config) (mp : Nat) : Option Nat × Heap :=
  dupmsgFrom cfg h.made h.made h (some mp) none none

def esballoc (h : Heap) (cfg : Config) (base : Addr) (size : Nat)
    (freeinfo : FreeRtn) : Option Nat × Heap :=
  match h.mdbblockAlloc cfg with
  | (none, h) => (none, h)
  | (some mp, h) =>
      let h := h.modify mp fun md =>
        { md with
          bRptr := base
          bWptr := base
          dbFrtnp := some freeinfo
          dbBase := base
          dbSize := size }
      match freeinfo.freeFunc with
      | some freeFunc =>
          (some mp, h.note (.took (some mp) (.routine freeFunc
            freeinfo.freeArg)))
      | none => (some mp, h)

def skballoc (h : Heap) (cfg : Config) (skb : SkBuff) : Option Nat × Heap :=
  match h.mdbblockAlloc cfg with
  | (none, h) => (none, h)
  | (some mp, h) =>
      let h := h.modify mp fun md =>
        { md with
          bRptr := skb.data
          bWptr := skb.tail
          dbFrtnp := some ⟨some .freebSkb, skb.skb⟩
          dbBase := skb.head
          dbSize := (skb.fin - skb.head).toNat }
      (some mp, h.note (.took (some mp) (.routine .freebSkb skb.skb)))

def giveUp (h : Heap) (resource : Resource) : Heap :=
  (h.note (.took none resource)).note (.gave none resource)

def allocbSkb (h : Heap) (cfg : Config) (allocSkb : Option SkBuff) :
    Option Nat × Heap :=
  match allocSkb with
  | none => (none, h)
  | some skb =>
      match h.skballoc cfg skb with
      | (some mp, h) => (some mp, h)
      | (none, h) => (none, h.giveUp (.routine .freebSkb skb.skb))

def allocbFast (h : Heap) (cfg : Config) (size : Nat) : Option Nat × Heap :=
  match h.mdbblockAlloc cfg with
  | (none, h) => (none, h)
  | (some mp, h) =>
      let base := (h.blk mp).databuf
      (some mp, h.modify mp fun md =>
        { md with
          bRptr := base
          bWptr := base
          dbBase := base
          dbSize := size })

def allocbKmem (h : Heap) (cfg : Config) (size : Nat)
    (kmemAlloc : Option Addr) : Option Nat × Heap :=
  match kmemAlloc with
  | none => (none, h)
  | some base =>
      match h.mdbblockAlloc cfg with
      | (none, h) => (none, h.giveUp (.kmem base size))
      | (some mp, h) =>
          let h := h.modify mp fun md =>
            { md with
              bRptr := base
              bWptr := base
              dbBase := base
              dbSize := size }
          (some mp, h.note (.took (some mp) (.kmem base size)))

/-- `skbuff` is the bit `BPRI_SKBUFF` of the priority. -/
def allocb (h : Heap) (cfg : Config) (memory : Memory) (size : Nat)
    (skbuff : Bool) : Option Nat × Heap :=
  if skbuff then h.allocbSkb cfg memory.allocSkb
  else if size ≤ cfg.fastbuf then h.allocbFast cfg size
  else h.allocbKmem cfg size memory.kmemAlloc

/-- `b_wptr - b_rptr`. -/
def blen (h : Heap) (bp : Nat) : Int := (h.blk bp).bWptr - (h.blk bp).bRptr

/-- `b_datap->db_type`. -/
def typeOf (h : Heap) (bp : Nat) : Nat :=
  ((h.blk bp).bDatap.map fun db => (h.blk db).dbType).getD MData

/-- The first loop of `pullupmsg`: the octets it will pull up, when the loop
leaves for `pull_len` (`true`), and the octets it found otherwise. -/
def pullSize (h : Heap) (len : Int) (type : Nat) :
    Nat → Option Nat → Int → Bool × Int
  | 0, _, size => (false, size)
  | _, none, size => (false, size)
  | fuel + 1, some bp, size =>
      if h.blen bp ≤ 0 then pullSize h len type fuel (h.blk bp).bCont size
      else if h.typeOf bp ≠ type then (false, size)
      else if size + h.blen bp > len ∧ 0 ≤ len then (true, size + h.blen bp)
      else pullSize h len type fuel (h.blk bp).bCont (size + h.blen bp)

/-- Cuts the block after `mp` out of the message. -/
def unlinkNext (h : Heap) (mp bp : Nat) : Heap :=
  h.modify mp fun md => { md with bCont := (h.blk bp).bCont }

/-- The second loop of `pullupmsg`: takes in the blocks behind `mp` until
`size` octets have been pulled up, and answers what is still wanting. -/
def pullBlocks (mp type : Nat) : Nat → Heap → Int → Int × Heap
  | 0, h, size => (size, h)
  | fuel + 1, h, size =>
      match (h.blk mp).bCont with
      | none => (size, h)
      | some bp =>
          let blen := max (h.blen bp) 0
          if 0 < blen ∧ h.typeOf bp ≠ type then (size, h)
          else if blen ≤ size then
            let h := h.modify mp fun md => { md with bWptr := md.bWptr + blen }
            let h := (h.unlinkNext mp bp).freeb bp
            if size - blen ≤ 0 then (size - blen, h)
            else pullBlocks mp type fuel h (size - blen)
          else
            let h := h.modify mp fun md => { md with bWptr := md.bWptr + size }
            (0, h.modify bp fun md => { md with bRptr := md.bRptr + size })

/-- `pull_len`: moves the first block to a new data block of `size` octets and
pulls the others into it. -/
def pullLen (h : Heap) (cfg : Config) (kmemAlloc : Option Addr) (mp : Nat)
    (size : Int) (type : Nat) : Bool × Heap :=
  match (h.blk mp).bDatap, h.mdbblockAlloc cfg with
  | none, (_, h) => (false, h)
  | some _, (none, h) => (false, h)
  | some db, (some md, h) =>
      match kmemAlloc with
      | none => (false, h.mdbblockFree md)
      | some base =>
          let h := h.modify md fun block =>
            { block with
              bDatap := none
              dbBase := base
              dbType := (h.blk db).dbType
              dbSize := size.toNat }
          let h := h.note (.took (some md) (.kmem base size.toNat))
          let blen := max (h.blen mp) 0
          let h := h.modify mp fun block =>
            { block with
              bRptr := (h.blk db).dbBase
              bWptr := (h.blk db).dbBase + blen
              bDatap := some md }
          let h := h.freedb db
          let (left, h) := pullBlocks mp type h.made h (size - blen)
          (decide (left = 0), h)

def pullupmsg (h : Heap) (cfg : Config) (kmemAlloc : Option Addr) (mp : Nat)
    (len : Int) : Bool × Heap :=
  if len < -1 then (false, h)
  else if len = 0 ∨ (len ≤ h.blen mp ∧ 0 ≤ len ∧
      (h.blk mp).bRptr % cfg.l1CacheBytes = 0) then (true, h)
  else
    let type := h.typeOf mp
    let (pull, size) := h.pullSize len type h.made (some mp) 0
    if pull then h.pullLen cfg kmemAlloc mp size type
    else if size ≤ len then (false, h)
    else h.pullLen cfg kmemAlloc mp size type

end Heap

end OpenSS7.Mblk
