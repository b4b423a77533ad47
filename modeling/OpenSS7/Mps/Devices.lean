import OpenSS7.Lib.BackLinkedList
import OpenSS7.Mps.Comm

/-!
The list of open instances of a driver: opening, attaching, detaching and
unlinking.
-/

namespace OpenSS7.Mps

open BackLinkedList

def EAGAIN : Nat := 11
def ENXIO : Nat := 6
def EINVAL : Nat := 22

def MI_OPEN_COMM_CLONE_MINOR : Nat := 10

inductive SFlag where
  | cloneopen
  | drvopen
  | modopen
  | other
deriving DecidableEq

/-- How the insertion loop of `mi_open_link` ends: at a slot with the minor
number reached, with a number that is taken, or without a number left. -/
inductive Search where
  | found (mip : Place) (cminor : Nat)
  | conflict
  | exhausted
deriving DecidableEq

namespace Comms

/-- The insertion loop of `mi_open_link`; `none` when it takes more than
`fuel` turns. -/
def search (s : Comms) (sflag : SFlag) (cmajor : Nat) :
    Nat → Place → Nat → Option Search
  | 0, _, _ => none
  | fuel + 1, mip, cminor =>
      match s.read mip with
      | none => some (.found mip cminor)
      | some mi =>
          if cmajor ≠ (s.comm mi).miMid then
            some (.found mip cminor)
          else if cminor < (s.comm mi).miSid then
            some (.found mip cminor)
          else if (s.comm mi).miSid < cminor then
            s.search sflag cmajor fuel (.next mi) cminor
          else if sflag = .drvopen then
            some .conflict
          else if getminor (makedevice 0 (cminor + 1)) = 0 then
            some .exhausted
          else
            s.search sflag cmajor fuel (.next mi) (cminor + 1)

/-- The linking code of `mi_open_link`. The back link of the structure that
follows is set to `&mi`, the address of the local variable. -/
def insert (s : Comms) (mi : Addr) (mip : Place) (cmajor cminor : Nat) :
    Comms :=
  let next := s.read mip
  let s := s.modify mi fun c => { c with
    miDev := makedevice cmajor cminor
    miMid := cmajor
    miSid := cminor
    miNext := next }
  let s := s.setPrev? next .stack
  let s := s.modify mi fun c => { c with miPrev := mip }
  let s := s.write mip (some mi)
  s.modify mi fun c => { c with miHead := some .head }

/-- The part of `mi_open_link` under `mi_list_lock`, with the device number
stored at `devp` and the result. -/
def linkLocked (fuel : Nat) (s : Comms) (mi : Addr) (devp : Option Nat)
    (sflag : SFlag) (cmajor cminor : Nat) :
    Option (Comms × Option Nat × Nat) := do
  let s := s.miGrab mi
  match ← s.search sflag cmajor fuel .head cminor with
  | .conflict => do
      let s ← s.miPut mi
      some (s, devp, ENXIO)
  | .exhausted => do
      let s ← s.miPut mi
      some (s, devp, EAGAIN)
  | .found mip cminor =>
      some (s.insert mi mip cmajor cminor,
        if sflag = .cloneopen then some (makedevice cmajor cminor) else devp,
        0)

/-- The major and the first minor number that `mi_open_link` tries; `none`
when it returns EINVAL. -/
def request (devp : Option Nat) : SFlag → Option (Nat × Nat)
  | .cloneopen => do
      let dev ← devp
      some (getmajor dev,
        if getminor dev ≤ MI_OPEN_COMM_CLONE_MINOR then
          MI_OPEN_COMM_CLONE_MINOR + 1
        else getminor dev)
  | .drvopen => do
      let dev ← devp
      some (getmajor dev, getminor dev)
  | .modopen =>
      let cminor := match devp with
        | some dev => getminor dev
        | none => 0
      some (0, if cminor = 0 then 1 else cminor)
  | .other => none

def miOpenLink (fuel : Nat) (s : Comms) (ptr : Option Addr)
    (devp : Option Nat) (sflag : SFlag) : Option (Comms × Option Nat × Nat) :=
  match ptr, request devp sflag with
  | some mi, some (cmajor, cminor) =>
      s.linkLocked fuel mi devp sflag cmajor cminor
  | _, _ => some (s, devp, EINVAL)

def miAttach (s : Comms) (q mi : Addr) : Comms :=
  let s := s.miGrab mi
  let s := s.modify mi fun c => { c with
    miMid := (s.pair q).miIdnum
    miQ := some q }
  s.setPair q { s.pair q with qPtr := some mi }

/-- The part of `mi_close_unlink` under `mi_list_lock`. -/
def unlink (s : Comms) (mi : Addr) : Comms :=
  let next := (s.comm mi).miNext
  let s := s.write (s.comm mi).miPrev next
  let s := s.setPrev? next (s.comm mi).miPrev
  s.modify mi fun c => { c with
    miNext := none
    miPrev := .next mi
    miHead := none }

def miCloseUnlink (s : Comms) (ptr : Option Addr) : Option Comms :=
  match ptr with
  | none => some s
  | some mi => (s.unlink mi).miPut mi

/-- The part of `mi_detach` under `mi_lock`. -/
def detach (s : Comms) (q mi : Addr) : Comms :=
  let s := s.modify mi fun c => { c with
    miWaitSleep := false
    miWaitRq := false
    miWaitWq := false
    miQ := none }
  s.setPair q { s.pair q with qPtr := none }

def miDetach (s : Comms) (q : Addr) (ptr : Option Addr) : Option Comms :=
  match ptr with
  | none => some (s.setPair q { s.pair q with qPtr := none })
  | some mi => (s.detach q mi).miPut mi

end Comms

inductive Op where
  | openLink (ptr : Option Addr) (devp : Option Nat) (sflag : SFlag)
  | attach (q mi : Addr)
  | detach (q : Addr) (ptr : Option Addr)
  | closeUnlink (ptr : Option Addr)
deriving DecidableEq

/-- The result of an open, and the device number it leaves at `devp`. -/
structure Outcome where
  result : Nat
  devp : Option Nat
deriving DecidableEq

def Comms.exec (fuel : Nat) (s : Comms) : Op → Option (Comms × Outcome)
  | .openLink ptr devp sflag => do
      let (s, devp, result) ← s.miOpenLink fuel ptr devp sflag
      some (s, ⟨result, devp⟩)
  | .attach q mi => some (s.miAttach q mi, ⟨0, none⟩)
  | .detach q ptr => do
      let s ← s.miDetach q ptr
      some (s, ⟨0, none⟩)
  | .closeUnlink ptr => do
      let s ← s.miCloseUnlink ptr
      some (s, ⟨0, none⟩)

end OpenSS7.Mps
