import OpenSS7.Mtp3.Disposition
import OpenSS7.Mtp3.Retrieval

/-!
How messages leave the signalling point: `mtp_send_link` and `mtp_send_route`,
the congestion of a route set that sending meets with, and the messages that
come back from a link by retrieval.
-/

namespace OpenSS7.Mtp3

/-- A timer of a route set; the expiry of a `requeued` one failed and is taken
up again. -/
inductive Clock where
  | stopped
  | running
  | requeued
deriving DecidableEq

structure Congestion where
  status : Int
  t15 : Clock
  t16 : Clock
deriving DecidableEq

structure Posted where
  code : Int
  fates : List Fate
  octets : Octets
  congestion : Nat → Congestion

/-- What `mtp_cong_status_ind_all_local` returns, and what `canputnext`
says. -/
structure Ready where
  told : Int
  canput : Bool

def unrotateSls (sls : Nat) : Nat :=
  sls &&& 0xe0 ||| (sls &&& 0x0f) <<< 1 |||
    (if sls &&& 0x10 ≠ 0 then 0x01 else 0x00)

section Sending

variable (r : Routing) (n : Net)

/-- `sl->lk.lk->ls.ls->lk.numb > 1` -/
def Net.combined (sl : Nat) : Prop :=
  1 < (n.ls (n.lk (n.sl sl).lk).ls).lks.list.length

instance (sl : Nat) : Decidable (n.combined sl) :=
  inferInstanceAs (Decidable (_ < _))

/-- `mtp_send_link`; `mask` is `sp->ls.sls_mask`. -/
def mtpSendLink (canput : Bool) (mask sl : Nat) (octets : Octets)
    (congestion : Nat → Congestion) : Posted :=
  if canput = false then ⟨-EBUSY, [.freed], octets, congestion⟩
  else if n.combined sl ∧ r.protocol.rotates = true then
    let sls := (octets.getD 7 0).toNat &&& mask
    ⟨0, [.link sl], octets.set 7 (rotateSls sls).toUInt8, congestion⟩
  else ⟨0, [.link sl], octets, congestion⟩

/-- The priority that `mtp_send_route` compares with the status of a link. -/
def Routing.urgency (priority : Nat) : Nat :=
  if r.protocol.mplev = true then priority else 0

/-- The part of `mtp_send_route` for the link that was selected. -/
def postLink (a : Ready) (rs rl sl priority sls : Nat) (octets : Octets)
    (congestion : Nat → Congestion) : Posted :=
  let priority := r.urgency priority
  if priority < r.congStatus sl ∧ a.told ≠ 0 then
    ⟨a.told, [], octets,
      Function.update congestion rs
        ⟨(congestion rs).status, .stopped, .stopped⟩⟩
  else
    let congestion :=
      if priority < r.congStatus sl then
        Function.update congestion rs ⟨r.congStatus sl, .running, .stopped⟩
      else congestion
    if priority < r.discStatus sl then ⟨0, [.freed], octets, congestion⟩
    else if a.canput = false then ⟨-EBUSY, [], octets, congestion⟩
    else if 1 < (n.ls (n.rl rl).ls).lks.list.length ∧
        r.protocol.rotates = true then
      ⟨0, [.link sl], octets.set 7 (rotateSls sls).toUInt8, congestion⟩
    else ⟨0, [.link sl], octets, congestion⟩

/-- `mtp_send_route`, and `mtp_send_route_loadshare` -/
def mtpSendRoute (a : Ready) (sp priority dpc sls : Nat) (octets : Octets)
    (congestion : Nat → Congestion) : Posted :=
  match r.routeSet sp dpc with
  | none => ⟨0, [.freed], octets, congestion⟩
  | some rs =>
      if .restricted < (n.rs rs).state then ⟨0, [.freed], octets, congestion⟩
      else
        match r.hop n rs sls with
        | .missing => ⟨0, [.freed], octets, congestion⟩
        | .buffer fate => ⟨0, [fate], octets, congestion⟩
        | .link rl sl =>
            postLink r n a rs rl sl priority sls octets congestion

def unrotated (sl : Nat) (octets : Octets) : Octets :=
  if n.combined sl ∧ r.protocol.rotates = true then
    octets.set 7 (unrotateSls (octets.getD 7 0).toNat).toUInt8
  else octets

/-- `sl_retrieved_message_ind`, given `l_state` and the retrieval buffer. -/
def slRetrievedMessageInd (phase : LinkPhase) (sl : Nat) (octets : Octets)
    (rbuf : List Octets) : Option (List Octets) :=
  if phase ≠ .wconRet then none
  else some (rbuf ++ [unrotated r n sl octets])

/-- The first part of `sl_retrieval_complete_ind`, which may hand over a last
message. -/
def retrievalCompleteData (phase : LinkPhase) (sl : Nat)
    (octets : Option Octets) (rbuf : List Octets) : Option (List Octets) :=
  if phase ≠ .wconRet then none
  else some (rbuf ++ (octets.map (unrotated r n sl)).toList)

end Sending

end OpenSS7.Mtp3
