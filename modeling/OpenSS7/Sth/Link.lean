import Mathlib.Data.List.Nodup
import Mathlib.Logic.Function.Basic

/-!
Streams linked under multiplexing drivers: `str_i_xlink`, `str_i_xunlink` and
`strunlink`.
-/

namespace OpenSS7.Sth

/-- What `q_ptr` of a queue refers to. -/
inductive QPtr where
  | null
  | head (sd : Nat)
  | driver (data : Nat)
deriving DecidableEq

structure StreamHead where
  /-- `qu_refs`. -/
  refs : Int
  fifo : Bool
  cdevsw : Nat
  opens : Nat
  strclose : Bool
  stplex : Bool
  rqQshead : Bool
  wqQshead : Bool
  muxinit : Option Nat
  rqPtr : QPtr
  wqPtr : QPtr
  linkblk : Option Nat
deriving DecidableEq

inductive Owner where
  | links (mux : Nat)
  | plinks (cdevsw : Nat)
deriving DecidableEq

structure System where
  sd : Nat → StreamHead
  list : Owner → List Nat
  /-- The drivers with `st_muxrinit` and `st_muxwinit`. -/
  muxes : Nat → Bool

inductive LinkErr where
  | einval
  | enosr
  | ebadf
  | access
  | driver
deriving DecidableEq

/-- `qbot->q_ptr = _RD(qbot)->q_ptr = NULL`. -/
def StreamHead.clearPtrs (h : StreamHead) : StreamHead :=
  { h with rqPtr := .null, wqPtr := .null }

namespace System

def modify (sys : System) (sd : Nat) (f : StreamHead → StreamHead) : System :=
  { sys with sd := Function.update sys.sd sd (f (sys.sd sd)) }

def setList (sys : System) (owner : Owner) (sds : List Nat) : System :=
  { sys with list := Function.update sys.list owner sds }

def sdGet (sys : System) (sd : Nat) : System :=
  sys.modify sd fun h => { h with refs := h.refs + 1 }

def sdPut (sys : System) (sd : Nat) : System :=
  sys.modify sd fun h => { h with refs := h.refs - 1 }

/-- `strdetached`: the last close that could not be done is done now. -/
def strdetached (sys : System) (sd : Nat) : System :=
  sys.modify sd fun h =>
    { h with
      strclose := h.strclose || (decide (h.opens = 0) && !h.stplex) }

def owner (sys : System) (mux : Nat) (persistent : Bool) : Owner :=
  if persistent then .plinks (sys.sd mux).cdevsw else .links mux

/-- `straccess` for the control stream. -/
def closed (sys : System) (sd : Nat) : Bool :=
  (sys.sd sd).stplex || (sys.sd sd).strclose

end System

/-- A call of I_LINK or I_PLINK, with what it meets: a failure to allocate or to
get the control stream, the stream behind the file descriptor, a failure to get
that or to set up its synchronization queues, and the answer of the driver,
which sets `q_ptr` of the two queues when it accepts. -/
structure LinkCall where
  mux : Nat
  persistent : Bool
  alloclk : Bool
  muxErr : Bool
  fd : Option Nat
  sdErr : Bool
  setsq : Bool
  index : Nat
  answer : Option (Nat × Nat)
deriving DecidableEq

namespace LinkCall

/-- `str_i_xlink` up to the call of `stri_acquire`. -/
def acquire (sys : System) (call : LinkCall) : Except LinkErr Nat :=
  let mux := sys.sd call.mux
  if mux.fifo then .error .einval
  else if sys.muxes mux.cdevsw = false then .error .einval
  else if call.alloclk = false then .error .enosr
  else if call.muxErr || sys.closed call.mux then .error .access
  else
    match call.fd with
    | none => .error .ebadf
    | some sd => .ok sd

def check (sys : System) (call : LinkCall) (sd : Nat) : Option LinkErr :=
  if call.sdErr || sys.closed sd then some .access
  else if call.setsq = false then some .enosr
  else none

def linked (sys : System) (call : LinkCall) (ptrs : Nat × Nat)
    (h : StreamHead) : StreamHead :=
  { h with
    linkblk := some call.index
    muxinit := some (sys.sd call.mux).cdevsw
    rqQshead := false
    wqQshead := false
    stplex := true
    rqPtr := .driver ptrs.1
    wqPtr := .driver ptrs.2 }

/-- The part of `str_i_xlink` that links the stream. -/
def xlink (sys : System) (call : LinkCall) (sd : Nat) :
    Except LinkErr Nat × System :=
  let sys := sys.modify sd StreamHead.clearPtrs
  match call.answer with
  | some ptrs =>
      let owner := sys.owner call.mux call.persistent
      let sys := sys.setList owner (sd :: sys.list owner)
      let sys := sys.modify sd (call.linked sys ptrs)
      (.ok call.index, sys.strdetached sd)
  | none => (.error .driver, sys.strdetached sd)

end LinkCall

def strIXlink (sys : System) (call : LinkCall) :
    Except LinkErr Nat × System :=
  match call.acquire sys with
  | .error err => (.error err, sys)
  | .ok sd =>
      let got := sys.sdGet sd
      -- the reference to the control stream itself is not put
      if sd = call.mux then (.error .einval, got)
      else
        match call.check got sd with
        | some err => (.error err, got.sdPut sd)
        | none =>
            let (result, sys) := call.xlink got sd
            (result, sys.sdPut sd)

inductive Answer where
  | waitErr
  | refused
  | accepted
deriving DecidableEq

structure UnlinkCall where
  mux : Nat
  persistent : Bool
  muxErr : Bool
  index : Option Nat
  answers : List Answer
deriving DecidableEq

/-- `str_i_xunlink` up to the loop: the streams the loop goes over. -/
def UnlinkCall.find (sys : System) (call : UnlinkCall) :
    Except LinkErr (List Nat) :=
  if (sys.sd call.mux).fifo then .error .einval
  else if call.muxErr || sys.closed call.mux then .error .access
  else
    let sds := sys.list (sys.owner call.mux call.persistent)
    match call.index with
    | none => .ok sds
    | some index =>
        match sds.find? fun sd => (sys.sd sd).linkblk = some index with
        | none => .error .einval
        | some sd => .ok [sd]

namespace System

def unlinked (h : StreamHead) : StreamHead :=
  { h with
    linkblk := none
    muxinit := none
    rqQshead := true
    wqQshead := true
    stplex := false }

/-- One stream is taken off its list and is a stream head again; the driver
clears `q_ptr` if it accepts. -/
def unlink (sys : System) (owner : Owner) (accepted : Bool) (sd : Nat) :
    System :=
  let sys := sys.setList owner ((sys.list owner).erase sd)
  let sys := if accepted then sys.modify sd StreamHead.clearPtrs else sys
  (sys.modify sd unlinked).strdetached sd

/-- The loop of `str_i_xunlink`: only before it is the reference count of a
stream incremented. -/
def unlinkLoop (owner : Owner) :
    List Answer → List Nat → System → Option LinkErr × System
  | _, [], sys => (none, sys)
  | answers, sd :: rest, sys =>
      match answers.headD .refused with
      | .waitErr => (some .access, sys.sdPut sd)
      | .refused => (some .driver, (sys.strdetached sd).sdPut sd)
      | .accepted =>
          unlinkLoop owner answers.tail rest
            ((sys.unlink owner true sd).sdPut sd)

end System

def strIXunlink (sys : System) (call : UnlinkCall) :
    Option LinkErr × System :=
  match call.find sys with
  | .error err => (some err, sys)
  | .ok [] => (none, sys)
  | .ok (sd :: rest) =>
      (sys.sdGet sd).unlinkLoop (sys.owner call.mux call.persistent)
        call.answers (sd :: rest)

/-- The loop of `strunlink`, with whether the driver accepts each. -/
def strunlink (mux : Nat) : List Bool → List Nat → System → System
  | _, [], sys => sys
  | answers, sd :: rest, sys =>
      strunlink mux answers.tail rest
        (((sys.sdGet sd).unlink (.links mux) (answers.headD false) sd).sdPut sd)

inductive LinkOp where
  | xlink (call : LinkCall)
  | xunlink (call : UnlinkCall)
  | close (sd : Nat)
  /-- `strlastclose`. -/
  | lastclose (sd : Nat) (answers : List Bool)
deriving DecidableEq

namespace System

def strclose (sys : System) (sd : Nat) : System :=
  (sys.modify sd fun h => { h with opens := h.opens - 1 }).strdetached sd

def strlastclose (sys : System) (sd : Nat) (answers : List Bool) : System :=
  if (sys.sd sd).strclose then
    strunlink sd answers (sys.list (.links sd)) sys
  else sys

def step (sys : System) : LinkOp → System
  | .xlink call => (strIXlink sys call).2
  | .xunlink call => (strIXunlink sys call).2
  | .close sd => sys.strclose sd
  | .lastclose sd answers => sys.strlastclose sd answers

end System

end OpenSS7.Sth
