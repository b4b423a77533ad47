import Mathlib.Data.BitVec
import Mathlib.Data.List.Basic

/-!
Address configuration: the two passes of `sctp_recv_asconf` over the parameters
of an ASCONF chunk, and the list of destination addresses that they work on.
-/

namespace OpenSS7.Sctp.Asconf

/-- An address as `ntohl` gives it. -/
abbrev Addr := BitVec 32

/-- What `inet_addr_type` tells of an address. -/
inductive AddrType where
  | rtnUnicast
  | rtnLocal
  | rtnAnycast
  | other (n : Nat)
deriving DecidableEq

/-- `struct sctp_daddr` -/
structure Daddr where
  daddr : Addr
  /-- `SCTP_DESTF_UNUSABLE` -/
  unusable : Bool
  /-- `timer_retrans` is pending or data are in flight. -/
  busy : Bool
deriving DecidableEq

def ADD_IP : BitVec 16 := 0xC001
def DEL_IP : BitVec 16 := 0xC002
def SET_IP : BitVec 16 := 0xC004
def IPV4_ADDR : BitVec 16 := 5

structure Parm where
  type : BitVec 16
  plen : Nat
  id : BitVec 32
  addrType : BitVec 16
  addrLen : Nat
  addr : Addr
deriving DecidableEq

namespace Parm

def report (p : Parm) : Bool := p.type.getLsbD 14
def goesOn (p : Parm) : Bool := p.type.getLsbD 15

def wellFormed (p : Parm) : Bool := p.addrLen = 8 && p.addrType = IPV4_ADDR

def Known (p : Parm) : Prop :=
  p.type = ADD_IP ∨ p.type = DEL_IP ∨ p.type = SET_IP

instance (p : Parm) : Decidable p.Known := by
  unfold Known
  infer_instance

end Parm

structure Sp where
  /-- `SCTP_CAPS_ADD_IP` and `SCTP_CAPS_SET_IP` of `l_caps`. -/
  addIp : Bool
  setIp : Bool
  established : Bool
  pAsn : BitVec 32
  /-- The list, first to last; `danum` is its length. -/
  daddr : List Daddr
  /-- The calls of `sctp_dget`. -/
  dgets : Nat
  errors : List Parm

/-- What the rest of the system answers: the types of addresses, whether each
destination can be allocated, the source of the packet, and `kmalloc`. -/
structure Env where
  inetAddrType : Addr → AddrType
  sctpDget : Nat → Bool
  saddr : Addr
  kmalloc : Nat → Bool

def Sp.danum (sp : Sp) : Nat := sp.daddr.length

/-! ### The list of addresses -/

def isFound (daddr : Addr) (sd : Daddr) : Bool :=
  sd.unusable || sd.daddr = daddr

/-- `sctp_find_daddr`: the walk stops at an unusable address too. -/
def Sp.sctpFindDaddr (sp : Sp) (daddr : Addr) : Option Daddr :=
  sp.daddr.find? (isFound daddr)

/-- `__sctp_daddr_alloc` -/
def Sp.sctpAddDaddr (sp : Sp) (env : Env) (daddr : Addr) : Sp × Bool :=
  let dat := env.inetAddrType daddr
  if daddr = 0 then (sp, false)
  else if ∃ sd ∈ sp.daddr.head?, env.inetAddrType sd.daddr ≠ dat then
    (sp, false)
  else if dat ≠ .rtnUnicast ∧ dat ≠ .rtnLocal ∧ dat ≠ .rtnAnycast then
    (sp, false)
  else if env.sctpDget sp.dgets then
    ({ sp with
        daddr := ⟨daddr, false, false⟩ :: sp.daddr
        dgets := sp.dgets + 1 }, true)
  else ({ sp with dgets := sp.dgets + 1 }, false)

/-- `sctp_del_daddr` of the destination that `sctp_find_daddr` finds: it is
freed if nothing is in flight to it, and marked unusable otherwise. -/
def delDaddr (daddr : Addr) : List Daddr → List Daddr
  | [] => []
  | sd :: rest =>
      if isFound daddr sd then
        if sd.busy then { sd with unusable := true } :: rest else rest
      else sd :: delDaddr daddr rest

def Sp.sctpDelDaddr (sp : Sp) (daddr : Addr) : Sp :=
  { sp with daddr := delDaddr daddr sp.daddr }

inductive Answer where
  | success
  | error
  | badParm
deriving DecidableEq

/-- `sizeof(*sr)`, or `sizeof(*er) + sizeof(*eh)` and the parameter. -/
def Answer.size (p : Parm) : Answer → Nat
  | .success => 8
  | .error => 8 + 4 + p.plen
  | .badParm => 0

def Sp.badParm (sp : Sp) (p : Parm) : Sp × Answer :=
  (if p.report then { sp with errors := sp.errors ++ [p] } else sp, .badParm)

def Sp.process (sp : Sp) (env : Env) (p : Parm) : Sp × Answer :=
  if p.type = ADD_IP then
    if !sp.addIp || !p.wellFormed then sp.badParm p
    else if (sp.sctpFindDaddr p.addr).isSome then (sp, .success)
    else
      let added := sp.sctpAddDaddr env p.addr
      if added.2 then (added.1, .success) else (added.1, .error)
  else if p.type = DEL_IP then
    if !sp.addIp || !p.wellFormed then sp.badParm p
    else if (sp.sctpFindDaddr p.addr).isNone then (sp, .success)
    else if p.addr ≠ env.saddr ∧ sp.danum ≠ 1 then
      (sp.sctpDelDaddr p.addr, .success)
    else (sp, .error)
  else if p.type = SET_IP then
    if !sp.setIp || !p.wellFormed then sp.badParm p
    else if (sp.sctpFindDaddr p.addr).isNone then sp.badParm p
    else (sp, .success)
  else sp.badParm p

inductive Stop where
  | eproto
  | discard
deriving DecidableEq

def Sp.firstPass (sp : Sp) (env : Env) :
    List Parm → Sp × Except Stop (List (Parm × Answer))
  | [] => (sp, .ok [])
  | p :: parms =>
      if p.plen < 4 then (sp, .error .eproto)
      else
        let (sp, answer) := sp.process env p
        if answer = .badParm ∧ p.goesOn = false then (sp, .error .discard)
        else
          let (sp, answers) := sp.firstPass env parms
          (sp, answers.map ((p, answer) :: ·))

def SCTP_CAUSE_RES_SHORTAGE : Nat := 0x0101
def SCTP_CAUSE_LAST_ADDR : Nat := 0x0100
def SCTP_CAUSE_SOURCE_ADDR : Nat := 0x0102

inductive Report where
  | success (cid : BitVec 32)
  | errorCause (cid : BitVec 32) (code : Nat) (p : Parm)
deriving DecidableEq

def Report.size : Report → Nat
  | .success _ => 8
  | .errorCause _ _ p => 8 + 4 + p.plen

def Report.tells : Report → BitVec 32 × Bool
  | .success cid => (cid, true)
  | .errorCause cid _ _ => (cid, false)

def Sp.respond (sp : Sp) (env : Env) (p : Parm) : Option Report :=
  if p.type = ADD_IP then
    if !sp.addIp || !p.wellFormed then none
    else if (sp.sctpFindDaddr p.addr).isSome then some (.success p.id)
    else some (.errorCause p.id SCTP_CAUSE_RES_SHORTAGE p)
  else if p.type = DEL_IP then
    if !sp.addIp || !p.wellFormed then none
    else if (sp.sctpFindDaddr p.addr).isNone then some (.success p.id)
    else if p.addr = env.saddr then
      some (.errorCause p.id SCTP_CAUSE_SOURCE_ADDR p)
    else if sp.danum = 1 then some (.errorCause p.id SCTP_CAUSE_LAST_ADDR p)
    else none
  else if p.type = SET_IP then
    if !sp.setIp || !p.wellFormed then none
    else if (sp.sctpFindDaddr p.addr).isNone then none
    else some (.success p.id)
  else none

structure Chunk where
  len : Nat
  asn : BitVec 32
  /-- `b_wptr` is not before the end of the fixed part. -/
  whole : Bool
  parms : List Parm

/-- What `sctp_recv_asconf` comes to. -/
inductive Outcome where
  | emsgsize
  | refuse
  | discard
  | eproto
  | enomem
  | again
  | response (answers : List (Parm × Answer)) (rlen : Nat)
      (reports : List Report)

def rlen (answers : List (Parm × Answer)) : Nat :=
  (answers.map fun answer => answer.2.size answer.1).sum

end OpenSS7.Sctp.Asconf
