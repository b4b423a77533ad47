import Mathlib.Data.BitVec
import Mathlib.Data.List.Nodup
import Mathlib.Logic.Function.Basic

/-!
Processes that issue ioctls on one stream head and the responses to them.
-/

namespace OpenSS7.Sth

inductive RespType where
  | iocack
  | iocnak
  | copyin
  | copyout
deriving DecidableEq

/-- A response message; `mid` tells it from all others. -/
structure Resp where
  mid : Nat
  type : RespType
  iocId : BitVec 32
  iocError : Int
  iocRval : Int
  iocCount : Nat
deriving DecidableEq

/-- The four functions that do an ioctl: `strdoioctl_str`, `strdoioctl_trans`,
`strdoioctl_link` and `strdoioctl_unlink`. -/
inductive IoctlKind where
  | str
  | trans
  | link
  | unlink
deriving DecidableEq

def IoctlKind.timed : IoctlKind → Bool
  | .str => true
  | .trans => true
  | .link => false
  | .unlink => false

structure Ioctl where
  kind : IoctlKind
  iocId : BitVec 32
deriving DecidableEq

inductive Down where
  | ioctl
  | iocdata (mp : Resp) (err : Option Int)
deriving DecidableEq

inductive Phase where
  | idle
  /-- In `strwaitioctl`. -/
  | queued (kind : IoctlKind)
  | sending (io : Ioctl) (mb : Down)
  /-- In `strwaitiocack`, about to look for a response. -/
  | waiting (io : Ioctl)
  | asleep (io : Ioctl)
  | acting (io : Ioctl) (mp : Resp)
  /-- `strwaitiocack` has returned a null pointer, which is then followed. -/
  | null (io : Ioctl)
  /-- About to call `strwakeioctl`; nobody reads the error of an unlink. -/
  | ending (io : Ioctl) (err : Int)
deriving DecidableEq

inductive Fate where
  | freed
  | iocdata
  /-- Given by `strirput` to the procedure of the lower multiplex. -/
  | passed
deriving DecidableEq

structure Ioctls where
  iocid : BitVec 32
  iocblk : Option Resp
  iocwait : Bool
  proc : Nat → Phase
  assigned : List (BitVec 32)
  arrived : List Nat
  log : List (Nat × Fate)

/-- How a response gets to the stream head: by `str_m_ioc` or `str_m_copy`, with
or without a queue below, or by `strirput`. -/
inductive Via where
  | rput (below : Bool)
  | strirput
deriving DecidableEq

inductive IoctlEvent where
  | start (i : Nat) (kind : IoctlKind)
  | acquire (i : Nat)
  | refuse (i : Nat)
  | strput (i : Nat)
  | take (i : Nat)
  | sleep (i : Nat)
  | wake (i : Nat) (err : Option Int)
  | act (i : Nat) (copyErr : Int)
  | strwakeioctl (i : Nat)
  | respond (mp : Resp) (via : Via)
deriving DecidableEq

namespace Ioctls

def setProc (s : Ioctls) (i : Nat) (phase : Phase) : Ioctls :=
  { s with proc := Function.update s.proc i phase }

def note (s : Ioctls) (mid : Nat) (fate : Fate) : Ioctls :=
  { s with log := (mid, fate) :: s.log }

def strwaitioctl (s : Ioctls) (i : Nat) : Option Ioctls :=
  match s.proc i with
  | .queued kind =>
      if s.iocwait then none
      else
        some ({ s with
          iocwait := true
          assigned := s.iocid :: s.assigned }.setProc i
            (.sending ⟨kind, s.iocid⟩ .ioctl))
  | _ => none

def strwakeioctl (s : Ioctls) (i : Nat) : Option Ioctls :=
  match s.proc i with
  | .ending _ _ =>
      let log :=
        match s.iocblk with
        | none => s.log
        | some mp => (mp.mid, .freed) :: s.log
      some ({ s with
        iocid := s.iocid + 1
        iocblk := none
        iocwait := false
        log := log }.setProc i .idle)
  | _ => none

def strput (s : Ioctls) (i : Nat) : Option Ioctls :=
  match s.proc i with
  | .sending io .ioctl => some (s.setProc i (.waiting io))
  | .sending io (.iocdata mp none) =>
      some ((s.note mp.mid .iocdata).setProc i (.waiting io))
  | .sending io (.iocdata mp (some err)) =>
      some ((s.note mp.mid .iocdata).setProc i (.ending io err))
  | _ => none

/-- `strwaitiocack` finds a response. -/
def take (s : Ioctls) (i : Nat) : Option Ioctls :=
  match s.proc i, s.iocblk with
  | .waiting io, some mp =>
      some ({ s with iocblk := none }.setProc i (.acting io mp))
  | _, _ => none

def sleep (s : Ioctls) (i : Nat) : Option Ioctls :=
  match s.proc i, s.iocblk with
  | .waiting io, none => some (s.setProc i (.asleep io))
  | _, _ => none

/-- The loop of `__strwaitiocack` goes on, or breaks: without a timeout the
error is not put into the pointer that is returned. `straccess` gives no error
for a close. -/
def wake (s : Ioctls) (i : Nat) (err : Option Int) : Option Ioctls :=
  match s.proc i, err with
  | .asleep io, none => some (s.setProc i (.waiting io))
  | .asleep io, some err =>
      match io.kind with
      | .str => some (s.setProc i (.ending io err))
      | .trans => some (s.setProc i (.ending io err))
      | .link => some (s.setProc i (.null io))
      | .unlink => none
  | _, _ => none

def einval : Int := 22

def enxio : Int := 6

def nakErr (kind : IoctlKind) (mp : Resp) : Int :=
  let unset := if kind = .link then enxio else einval
  let err := if mp.iocError = 0 then unset else mp.iocError
  if 0 < err then -err else err

def ackErr (kind : IoctlKind) (mp : Resp) (copyErr : Int) : Int :=
  match kind with
  | .str => if 0 < mp.iocCount ∧ copyErr ≠ 0 then copyErr else mp.iocRval
  | .trans => mp.iocRval
  | .link => 0
  | .unlink => 0

def act (s : Ioctls) (i : Nat) (copyErr : Int) : Option Ioctls :=
  match s.proc i with
  | .acting io mp =>
      match mp.type with
      | .iocnak =>
          some ((s.note mp.mid .freed).setProc i
            (.ending io (nakErr io.kind mp)))
      | .iocack =>
          some ((s.note mp.mid .freed).setProc i
            (.ending io (ackErr io.kind mp copyErr)))
      | _ =>
          let err :=
            if io.kind.timed then
              if copyErr = 0 then none else some copyErr
            else some (-enxio)
          some (s.setProc i (.sending io (.iocdata mp err)))
  | _ => none

/-- Whether `strwakeiocack` takes the response. -/
def expects (s : Ioctls) (mp : Resp) : Bool :=
  decide (s.iocblk = none) && s.iocwait && decide (mp.iocId = s.iocid)

def reject (mp : Resp) : Via → Fate
  | .strirput => .passed
  | .rput below =>
      match mp.type with
      | .iocack => .freed
      | .iocnak => .freed
      | _ => if below then .iocdata else .freed

def respond (s : Ioctls) (mp : Resp) (via : Via) : Ioctls :=
  let s := { s with arrived := mp.mid :: s.arrived }
  if s.expects mp then { s with iocblk := some mp }
  else s.note mp.mid (reject mp via)

def step (s : Ioctls) : IoctlEvent → Option Ioctls
  | .start i kind =>
      if s.proc i = .idle then some (s.setProc i (.queued kind)) else none
  | .acquire i => s.strwaitioctl i
  | .refuse i =>
      match s.proc i with
      | .queued kind =>
          if kind = .unlink then none else some (s.setProc i .idle)
      | _ => none
  | .strput i => s.strput i
  | .take i => s.take i
  | .sleep i => s.sleep i
  | .wake i err => s.wake i err
  | .act i copyErr => s.act i copyErr
  | .strwakeioctl i => s.strwakeioctl i
  | .respond mp via => some (s.respond mp via)

def run (s : Ioctls) : List IoctlEvent → Option Ioctls
  | [] => some s
  | e :: rest => (s.step e).bind fun s => s.run rest

def fresh (iocid : BitVec 32) : Ioctls :=
  { iocid := iocid
    iocblk := none
    iocwait := false
    proc := fun _ => .idle
    assigned := []
    arrived := []
    log := [] }

end Ioctls

end OpenSS7.Sth
