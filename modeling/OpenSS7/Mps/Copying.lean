import Mathlib.Algebra.Ring.Nat
import Mathlib.Data.List.Basic
import Mathlib.Logic.Function.Iterate

/-!
The helpers of drivers for ioctls that copy data in and out, `mi_copyin` to
`mi_copy_set_rval`, and the stream head that issues the ioctl.
-/

namespace OpenSS7.Mps

abbrev Data := List UInt8

inductive IocType where
  | ioctl
  | iocdata
  | copyin
  | copyout
  | iocack
  | iocnak
deriving DecidableEq

inductive CopyDir where
  | copyIn
  | copyOut
deriving DecidableEq

/-- `MI_COPY_IN` and `MI_COPY_OUT` -/
def CopyDir.value : CopyDir → BitVec 32
  | .copyIn => 1
  | .copyOut => 2

/-- A data block. The pointer is the argument that the block of a transparent
ioctl holds, and the user address in `b_next` of a block to be copied out. -/
structure DataBlk where
  id : Nat
  octets : Data
  pointer : Nat
deriving DecidableEq

/-- `struct mi_iocblk`; a return value that was not written yet is whatever the
memory held before. -/
structure MiIocblk where
  caddr : Nat
  uaddr : Nat
  dir : CopyDir
  cnt : BitVec 16
  rval : Option Int
deriving DecidableEq

/-- The message block behind `cp_private`. -/
structure PrivBlk where
  id : Nat
  mi : MiIocblk
  cont : List DataBlk
deriving DecidableEq

/-- The message of an ioctl with its `union ioctypes`. The fields are those that
`ioc_count`, `cq_addr` and `cp_rval` share, those of `ioc_error` and `cq_size`,
of `ioc_rval` and `cq_flag`, and of `cq_private` and `cp_private`. -/
structure IocMsg where
  type : IocType
  count : Nat
  size : Nat
  rval : Int
  priv : Option PrivBlk
  cont : List DataBlk
deriving DecidableEq

/-- Where the message goes from the driver: to its own queue by `putq`, or
upstream by `qreply`. -/
inductive Sent where
  | kept
  | putq
  | qreply
  | freed
deriving DecidableEq

structure Copying where
  mp : IocMsg
  sent : Sent
  fresh : Nat
  freed : List Nat
  acks : Nat
deriving DecidableEq

structure Heap where
  rval : Int
  beyond : Nat → UInt8
  allocb : Nat → Bool

def eproto : Int := 71

def enosr : Int := 63

def copyEinval : Int := 22

def copyEio : Int := 5

def transparent : Nat := 2 ^ 64 - 1

def blkIds (blks : List DataBlk) : List Nat := blks.map DataBlk.id

def PrivBlk.ids (bp : PrivBlk) : List Nat := bp.id :: blkIds bp.cont

def msgdsize (blks : List DataBlk) : Nat :=
  (blks.map fun db => db.octets.length).sum

def pastEnd (heap : Heap) (octets : Data) (offset len : Nat) : Data :=
  (List.range len).map fun i =>
    octets.getD (offset + i) (heap.beyond (offset + i))

namespace Copying

variable (heap : Heap) (c : Copying)

def free (ids : List Nat) : Copying := { c with freed := c.freed ++ ids }

def dropCont : Copying :=
  { c.free (blkIds c.mp.cont) with mp := { c.mp with cont := [] } }

def dropPriv : Copying :=
  match c.mp.priv with
  | none => c
  | some bp => { c.free bp.ids with mp := { c.mp with priv := none } }

def freemsg : Copying :=
  { c.free (0 :: blkIds c.mp.cont) with sent := .freed }

/-- The M_IOCACK or M_IOCNAK of `mi_copy_done`. -/
def answer (err rval : Int) : Copying :=
  { c with
    mp := { c.mp with
      type := if err ≠ 0 then .iocnak else .iocack
      size := err.natAbs
      rval := if err ≠ 0 then -1 else rval
      count := 0 }
    sent := .qreply
    acks := c.acks + 1 }

def miCopyDone (err : Int) : Copying :=
  match c.mp.type with
  | .iocdata =>
      let rval :=
        match c.mp.priv with
        | some bp => bp.mi.rval.getD heap.rval
        | none => c.mp.rval
      let c := c.dropPriv
      if c.mp.count = 0 then c.answer err rval else c.freemsg
  | .ioctl => c.answer err c.mp.rval
  | _ => c.freemsg

def copyinReq (uaddr len : Nat) (bp : PrivBlk) : Copying :=
  { c with
    mp :=
      { c.mp with
        type := .copyin
        count := uaddr
        size := len
        rval := 0
        priv := some bp }
    sent := .qreply }

def miCopyin (uaddr len : Nat) : Copying :=
  match c.mp.type with
  | .ioctl =>
      match c.mp.cont with
      | [] => c.miCopyDone heap eproto
      | db :: rest =>
          if c.mp.count = transparent then
            let mi := ⟨db.pointer, db.pointer, .copyIn, 1, none⟩
            { c with mp := { c.mp with cont := [] } }.copyinReq db.pointer len
              ⟨db.id, mi, rest⟩
          else if msgdsize c.mp.cont < len then c.miCopyDone heap copyEinval
          else if heap.allocb c.fresh = false then c.miCopyDone heap enosr
          else if heap.allocb (c.fresh + 1) = false then
            ({ c with fresh := c.fresh + 1 }.free [c.fresh]).miCopyDone heap
              enosr
          else
            let dp := ⟨c.fresh, pastEnd heap db.octets 0 len, 0⟩
            let mi := ⟨0, 0, .copyIn, 1, some 0⟩
            { c with
              mp := { c.mp with
                type := .iocdata
                count := 0
                priv := some ⟨c.fresh + 1, mi, db :: rest⟩
                cont := [dp] }
              sent := .putq
              fresh := c.fresh + 2 }
  | .iocdata =>
      match c.mp.priv with
      | none => c.miCopyDone heap eproto
      | some bp =>
          let mi := { bp.mi with
            uaddr := uaddr, cnt := bp.mi.cnt + 1, dir := .copyIn }
          (c.dropCont.free (blkIds bp.cont)).copyinReq uaddr len
            ⟨bp.id, mi, []⟩
  | _ => c.miCopyDone heap eproto

def miCopyinN (offset len : Nat) : Copying :=
  match c.mp.type, c.mp.priv with
  | .iocdata, some bp =>
      let mi := { bp.mi with cnt := bp.mi.cnt + 1 }
      if bp.mi.dir ≠ .copyIn then c.miCopyDone heap eproto
      else if bp.mi.uaddr ≠ 0 then
        c.dropCont.copyinReq (bp.mi.uaddr + offset) len { bp with mi := mi }
      else
        match bp.cont with
        | [] => c.miCopyDone heap eproto
        | db :: _ =>
            if msgdsize bp.cont < offset + len then
              c.miCopyDone heap copyEinval
            else if heap.allocb c.fresh = false then c.miCopyDone heap enosr
            else
              let dp := ⟨c.fresh, pastEnd heap db.octets offset len, 0⟩
              let c := c.dropCont
              { c with
                mp := { c.mp with
                  count := 0, priv := some { bp with mi := mi }, cont := [dp] }
                sent := .putq
                fresh := c.fresh + 1 }
  | _, _ => c.miCopyDone heap eproto

/-- The block that `mi_copyout_alloc` links to the private one; the driver
writes the octets. -/
def linkCopyout (bp : PrivBlk) (uaddr : Nat) (octets : Data)
    (freeOnError : Bool) : Bool × Copying :=
  let c := c.dropCont
  if heap.allocb c.fresh = false then
    let c := { c with mp := { c.mp with priv := some bp } }
    (false, if freeOnError = true then c.miCopyDone heap enosr else c)
  else
    let pointer := if uaddr ≠ 0 then uaddr else bp.mi.caddr
    let db := ⟨c.fresh, octets, pointer⟩
    (true, { c with
      mp := { c.mp with priv := some { bp with cont := bp.cont ++ [db] } }
      fresh := c.fresh + 1 })

/-- `mi_copyout_alloc`, and the octets that the driver then writes into the
block that is returned. -/
def miCopyoutAlloc (uaddr : Nat) (octets : Data) (freeOnError : Bool) :
    Bool × Copying :=
  let fail err :=
    (false, if freeOnError = true then c.miCopyDone heap err else c)
  let begun := { c with mp := { c.mp with type := .iocdata, count := 0 } }
  match c.mp.type with
  | .ioctl =>
      if c.mp.count = transparent then
        match c.mp.cont with
        | [] => fail enosr
        | db :: rest =>
            let mi := ⟨db.pointer, 0, .copyOut, 0, none⟩
            { begun with mp := { begun.mp with cont := [] } }.linkCopyout heap
              ⟨db.id, mi, rest⟩ uaddr octets freeOnError
      else if heap.allocb c.fresh = false then fail enosr
      else
        let mi := ⟨0, 0, .copyOut, 0, some 0⟩
        { begun with fresh := c.fresh + 1 }.linkCopyout heap ⟨c.fresh, mi, []⟩
          uaddr octets freeOnError
  | .iocdata =>
      match c.mp.priv with
      | none => fail eproto
      | some bp =>
          if bp.mi.dir = .copyIn then
            (c.free (blkIds bp.cont)).linkCopyout heap
              ⟨bp.id, { bp.mi with dir := .copyOut }, []⟩ uaddr octets
              freeOnError
          else c.linkCopyout heap bp uaddr octets freeOnError
  | _ => fail eproto

def miCopyout : Copying :=
  match c.mp.type, c.mp.priv with
  | .iocdata, some bp =>
      match bp.cont with
      | [] => c.miCopyDone heap 0
      | db :: rest =>
          if bp.mi.dir = .copyIn then c.miCopyDone heap 0
          else
            let uaddr := if db.pointer ≠ 0 then db.pointer else bp.mi.caddr
            let out := { db with pointer := 0 }
            if uaddr ≠ 0 then
              let mi := { bp.mi with cnt := bp.mi.cnt + 1, dir := .copyOut }
              let c := c.dropCont
              { c with
                mp := { c.mp with
                  type := .copyout
                  count := uaddr
                  size := db.octets.length
                  rval := 0
                  priv := some ⟨bp.id, mi, rest⟩
                  cont := [out] }
                sent := .qreply }
            else
              let c := (c.free (bp.id :: blkIds rest)).dropCont
              { c with
                mp := { c.mp with
                  type := .iocack
                  count := db.octets.length
                  size := 0
                  priv := none
                  cont := [out] }
                sent := .qreply
                acks := c.acks + 1 }
  | _, _ => c.miCopyDone heap eproto

/-- What `mi_copy_state` gives a driver: the state of the ioctl, and the data
that were copied in. -/
structure Seen where
  state : BitVec 32
  data : Option Data
deriving DecidableEq

def miCopyCase (dir : CopyDir) (cnt : BitVec 16) : BitVec 32 :=
  (cnt.signExtend 32 <<< 2) ||| dir.value

def miCopyState : Option Seen × Copying :=
  match c.mp.type, c.mp.cont, c.mp.priv with
  | .iocdata, db :: rest, some bp =>
      let data := (db :: rest).flatMap DataBlk.octets
      (some ⟨miCopyCase bp.mi.dir bp.mi.cnt,
        if bp.mi.dir = .copyIn then some data else none⟩, c)
  | _, _, _ => (none, c.miCopyDone heap eproto)

def miCopySetRval (rval : Int) : Copying :=
  match c.mp.type, c.mp.priv with
  | .iocdata, some bp =>
      { c with mp := { c.mp with
        priv := some { bp with mi := { bp.mi with rval := some rval } } } }
  | .iocdata, none => { c with mp := { c.mp with rval := rval } }
  | .ioctl, _ => { c with mp := { c.mp with rval := rval } }
  | _, _ => c

end Copying

inductive Prep where
  | setRval (rval : Int)
  | copyoutAlloc (uaddr : Nat) (octets : Data)
deriving DecidableEq

inductive Final where
  | copyin (uaddr len : Nat)
  | copyinN (offset len : Nat)
  | copyout
  | done (err : Int)
deriving DecidableEq

structure Turn where
  preps : List Prep
  final : Final
deriving DecidableEq

abbrev Driver := List Copying.Seen → Turn

namespace Copying

variable (heap : Heap) (c : Copying)

def prep (c : Copying) : Prep → Copying
  | .setRval rval => c.miCopySetRval rval
  | .copyoutAlloc uaddr octets =>
      (c.miCopyoutAlloc heap uaddr octets true).2

def final : Final → Copying
  | .copyin uaddr len => c.miCopyin heap uaddr len
  | .copyinN offset len => c.miCopyinN heap offset len
  | .copyout => c.miCopyout heap
  | .done err => c.miCopyDone heap err

def prepare (preps : List Prep) : Copying :=
  preps.foldl
    (fun c prep => if c.sent = .kept then c.prep heap prep else c) c

def turn (turn : Turn) : Copying :=
  let c := c.prepare heap turn.preps
  if c.sent = .kept then c.final heap turn.final else c

end Copying

inductive IoctlForm where
  | str (dp : Nat)
  | trans
deriving DecidableEq

abbrev UserMemory := Nat → UInt8

def UserMemory.read (memory : UserMemory) (addr len : Nat) : Data :=
  (List.range len).map fun i => memory (addr + i)

def UserMemory.write (memory : UserMemory) (addr : Nat) (octets : Data) :
    UserMemory :=
  fun a => if addr ≤ a then octets.getD (a - addr) (memory a) else memory a

structure UserIoctl where
  copying : Copying
  memory : UserMemory
  seen : List Copying.Seen
  result : Option Int

namespace UserIoctl

variable (heap : Heap) (driver : Driver) (form : IoctlForm) (u : UserIoctl)

def respond (c : Copying) (cont : List DataBlk) : Copying :=
  { c with
    mp := { c.mp with type := .iocdata, count := 0, cont := cont }
    sent := .kept }

/-- The stream head in `strdoioctl_str` and `strdoioctl_trans`; all that is
copied from and to the user succeeds. -/
def strdoioctl : UserIoctl :=
  let c := u.copying
  let copied (cont : List DataBlk) (size : Nat) : Data :=
    (cont.flatMap DataBlk.octets).take size
  match c.mp.type with
  | .copyin =>
      if c.mp.size = 0 then { u with copying := respond c c.mp.cont }
      else
        let db := ⟨c.fresh, u.memory.read c.mp.count c.mp.size, 0⟩
        { u with
          copying := respond { c.dropCont with fresh := c.fresh + 1 } [db] }
  | .copyout =>
      { u with
        copying := respond c c.mp.cont
        memory := u.memory.write c.mp.count (copied c.mp.cont c.mp.size) }
  | .iocack =>
      let memory :=
        match form with
        | .str dp => u.memory.write dp (copied c.mp.cont c.mp.count)
        | .trans => u.memory
      { u with
        copying := c.freemsg
        memory := memory
        result := some c.mp.rval }
  | .iocnak =>
      let err : Int := if c.mp.size = 0 then copyEinval else c.mp.size
      { u with copying := c.freemsg, result := some (-err) }
  | _ => { u with copying := c.freemsg, result := some (-copyEio) }

def pass : UserIoctl :=
  match u.copying.sent with
  | .putq => { u with copying := { u.copying with sent := .kept } }
  | .qreply => u.strdoioctl form
  | _ => u

def advance : UserIoctl :=
  if u.result.isSome = true then u
  else
    match u.copying.mp.type with
    | .ioctl =>
        pass form { u with copying := u.copying.turn heap (driver u.seen) }
    | _ =>
        match u.copying.miCopyState heap with
        | (none, c) => pass form { u with copying := c }
        | (some state, c) =>
            let seen := u.seen ++ [state]
            pass form
              { u with copying := c.turn heap (driver seen), seen := seen }

def turns (n : Nat) : UserIoctl := (advance heap driver form)^[n] u

def issueTrans (memory : UserMemory) (arg : Nat) : UserIoctl :=
  ⟨⟨⟨.ioctl, transparent, 0, 0, none, [⟨1, [], arg⟩]⟩, .kept, 2, [], 0⟩,
    memory, [], none⟩

def userBlks (user : List Data) : List DataBlk :=
  (user.zipIdx 1).map fun (octets, id) => ⟨id, octets, 0⟩

def issueStr (memory : UserMemory) (user : List Data) : UserIoctl :=
  let blks := userBlks user
  ⟨⟨⟨.ioctl, msgdsize blks, 0, 0, none, blks⟩, .kept, blks.length + 1, [], 0⟩,
    memory, [], none⟩

end UserIoctl

end OpenSS7.Mps
