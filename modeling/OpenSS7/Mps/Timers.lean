import Mathlib.Logic.Function.Basic
import OpenSS7.Lib.Runs

/-!
The timer messages of STREAMS drivers: `mi_timer_ticks`, `mi_timer_cond`,
`mi_timer_cancel`, `mi_timer_move`, `mi_timer_q_switch`, `mi_timer_expiry`,
`mi_timer_valid` and `mi_timer_remain`.
-/

namespace OpenSS7.Mps

/-- `TB_ZOMBIE` to `TB_TRANSIENT` -/
inductive TbState where
  | zombie
  | cancelled
  | idle
  | active
  | expired
  | rescheduled
  | transient
deriving DecidableEq

inductive Lies where
  | apart
  | queued (q : Nat)
  | held
deriving DecidableEq

def Lies.requeued (lies : Lies) : Option Nat → Lies
  | none => lies
  | some q => .queued q

/-- `struct mi_timeb`, and where its message is. `tid` is the time at which the
timeout that it stands for is due. -/
structure Tblk where
  state : TbState
  tid : Option Int
  time : Int
  q : Option Nat
  lies : Lies
deriving DecidableEq

namespace Tblk

variable (now ticks : Int) (room : Bool) (b : Tblk)

def miTimerAlloc (q : Option Nat) : Tblk := ⟨.idle, none, 0, q, .apart⟩

def miTimerPutq : Tblk := { b with lies := b.lies.requeued b.q }

def timeout : Tblk :=
  { b with state := .active, tid := some (now + ticks) }

def start : Tblk :=
  let ticks := if ticks ≤ 0 then 2 else ticks
  if room = true then b.timeout now ticks
  else { b with time := now + ticks, state := .rescheduled }.miTimerPutq

/-- The locked part of `mi_timer_ticks`; `tid` tells that a timeout was undone
before. -/
def ticksLocked (tid : Bool) : Tblk :=
  let b := { b with time := now + ticks }
  match b.state with
  | .expired | .transient | .cancelled | .rescheduled =>
      { b with state := .rescheduled }
  | .active =>
      if tid = false then { b with state := .rescheduled }
      else b.start now ticks room
  | .idle => b.start now ticks room
  | .zombie => b

def miTimerTicks : Tblk :=
  { b with tid := none }.ticksLocked now ticks room b.tid.isSome

def miTimerCond : Bool × Tblk :=
  match b.state with
  | .active | .expired | .rescheduled => (false, b)
  | .idle | .transient => (true, b.start now ticks room)
  | .cancelled =>
      (true, { b with time := now + ticks, state := .rescheduled })
  | .zombie => (false, b)

/-- The locked part of `mi_timer_cancel`. -/
def cancelLocked (tid : Bool) : Bool × Tblk :=
  match b.state with
  | .expired | .transient | .rescheduled | .cancelled =>
      (false, { b with state := .cancelled })
  | .active =>
      if tid = false then (false, { b with state := .cancelled })
      else (true, { b with state := .idle })
  | .idle => (true, { b with state := .idle })
  | .zombie => (false, b)

def miTimerCancel : Bool × Tblk :=
  { b with tid := none }.cancelLocked b.tid.isSome

def resume (expire : Tblk → Bool × Tblk) : Bool × Tblk :=
  if now < b.time then
    (false, if room = true then b.timeout now (b.time - now)
      else { b with state := .rescheduled }.miTimerPutq)
  else expire b

/-- The part of `mi_timer_move` for a message that was removed from the old
queue. -/
def dispose : Tblk :=
  let expire b := (true, miTimerPutq { b with state := .expired })
  match b.state with
  | .rescheduled => (b.resume now room expire).2
  | .transient | .expired => (expire b).2
  | .cancelled | .zombie => { b with state := .idle }
  | .active | .idle => b

def miTimerMove (q : Nat) : Tblk :=
  let moved := { b with q := some q }
  if b.q = some q then moved
  else
    match b.state with
    | .active | .idle => moved
    | _ =>
        match b.q with
        | none => moved.dispose now room
        | some oldq =>
            if b.lies = .queued oldq then
              { moved with lies := .apart }.dispose now room
            else moved

/-- `mi_timer_expiry`, once the timeout is due. -/
def miTimerExpiry : Tblk :=
  match b.tid with
  | none => b
  | some due =>
      if due ≤ now then
        let b := { b with tid := none }
        (if b.state = .active then { b with state := .expired } else b).miTimerPutq
      else b

def getq : Tblk :=
  match b.lies with
  | .queued _ => { b with lies := .held }
  | _ => b

/-- `mi_timer_valid`, for a message that a consumer holds. -/
def miTimerValid : Bool × Tblk :=
  let expire b : Bool × Tblk := (true, { b with state := .idle })
  let b := { b with lies := .apart }
  match b.state with
  | .rescheduled => b.resume now room expire
  | .expired | .transient => expire b
  | .cancelled | .idle | .zombie => (false, { b with state := .idle })
  | .active => (false, b)

/-- `mi_timer_remain` before `drv_hztomsec` -/
def remainTicks : Nat :=
  match b.state with
  | .active | .rescheduled => (b.time - now).toNat
  | _ => 0

end Tblk

def miTimerRemain (drvHztomsec : Nat → Nat) (now : Int) (b : Tblk) : Nat :=
  if b.remainTicks now ≠ 0 then drvHztomsec (b.remainTicks now) else 0

structure Timers where
  clock : Int
  block : Nat → Tblk

namespace Timers

variable (t : Timers)

def set (mp : Nat) (b : Tblk) : Timers :=
  { t with block := Function.update t.block mp b }

/-- `mi_timer_q_switch`, with the message that is used. -/
def miTimerQSwitch (mp q newMp : Nat) (room : Bool) : Nat × Timers :=
  let (rval, b) := (t.block mp).miTimerCancel
  let ticks := b.time - t.clock
  if rval = true then
    (mp, t.set mp ((b.miTimerMove t.clock room q).miTimerTicks t.clock ticks
      room))
  else
    let new := (t.block newMp).miTimerMove t.clock room q
    (newMp, (t.set mp b).set newMp (new.miTimerTicks t.clock ticks room))

end Timers

/-- The atomic operations on timer messages; `room` tells that `timeout` does
not fail. -/
inductive TimerOp where
  | ticks (mp : Nat) (ticks : Int) (room : Bool)
  | cond (mp : Nat) (ticks : Int) (room : Bool)
  | cancel (mp : Nat)
  | move (mp q : Nat) (room : Bool)
  | qSwitch (mp q newMp : Nat) (room : Bool)
  | expiry (mp : Nat)
  | getq (mp : Nat)
  | valid (mp : Nat) (room : Bool)
deriving DecidableEq

namespace Timers

variable (t : Timers)

/-- The operation at the time of the clock; a message is passed to
`mi_timer_valid` by a consumer that holds it. -/
def perform : TimerOp → Timers
  | .ticks mp ticks room =>
      t.set mp ((t.block mp).miTimerTicks t.clock ticks room)
  | .cond mp ticks room =>
      t.set mp ((t.block mp).miTimerCond t.clock ticks room).2
  | .cancel mp => t.set mp (t.block mp).miTimerCancel.2
  | .move mp q room => t.set mp ((t.block mp).miTimerMove t.clock room q)
  | .qSwitch mp q newMp room => (t.miTimerQSwitch mp q newMp room).2
  | .expiry mp => t.set mp ((t.block mp).miTimerExpiry t.clock)
  | .getq mp => t.set mp (t.block mp).getq
  | .valid mp room =>
      if (t.block mp).lies = .held then
        t.set mp ((t.block mp).miTimerValid t.clock room).2
      else t

end Timers

end OpenSS7.Mps
