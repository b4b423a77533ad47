import OpenSS7.Sctp.Packet

/-!
The state of a stream and its place in the hash of verification tags, and the
functions by which they change.
-/

namespace OpenSS7.Sctp

abbrev Tag := BitVec 32

inductive Deed where
  | reset
  | established
  | retagged
  | connInd
  | connCon
  | ordrelInd
  | resetInd
deriving DecidableEq

/-- `struct sctp`, as far as the state and the hashes go: `vhash` is the tag
under which the stream has been hashed. -/
structure Stream where
  state : State
  vTag : Tag
  pTag : Tag
  conind : Bool
  prev : Bool
  vhash : Option Tag
  phash : Bool
  rq : Bool
  deeds : List Deed
deriving DecidableEq

def efault : Int := 14
def etimedout : Int := 110
def econnreset : Int := 104

/-- `SCTPF_NEEDABORT` -/
def State.needabort : State → Bool
  | cookieEchoed | established | shutdownPending | shutdownReceived
  | shutdownRecvwait | shutdownSent => true
  | _ => false

/-- `SCTPF_OPENING` -/
def State.opening : State → Bool
  | cookieWait | cookieEchoed => true
  | _ => false

structure Means where
  route : Bool
  alloc : Bool
deriving DecidableEq

namespace Stream

variable (s : Stream)

def log (deed : Deed) : Stream := { s with deeds := s.deeds ++ [deed] }

/-- `sp->conind ? SCTP_LISTEN : SCTP_CLOSED` -/
def idle : State := if s.conind then .listen else .closed

def sctpChangeState (newstate : State) : Stream := { s with state := newstate }

def establish : Stream := (s.sctpChangeState .established).log .established

def vhashInsert : Stream := { s with vhash := s.vhash.or (some s.vTag) }

def vhashUnhash : Stream := { s with vhash := none }

/-- `sctp_conn_hash`, where it finds no conflict. -/
def sctpConnHash : Stream := { s.vhashInsert with phash := true }

def sctpUnhash : Stream :=
  if s.prev then { s with vhash := none, vTag := 0, phash := false, pTag := 0 }
  else s

def sctpReset : Stream :=
  { (s.sctpChangeState s.idle).sctpUnhash with vTag := 0, pTag := 0 }.log .reset

def sctpAbort : Stream := if s.state = .listen then s else s.sctpReset

/-- `sctp_route_normal`, and `sctp_route_response` where the packet's own
address does not do. -/
def sctpRouteNormal (route : Bool) : Stream :=
  if !route ∧ s.state.opening then s.sctpAbort else s

def disconnect : Stream :=
  if s.state.disconnected then s else s.sctpChangeState s.idle

def sctpSendAbort (route : Bool) : Stream :=
  if !s.state.needabort then s
  else if s.state.connected then (s.sctpRouteNormal route).disconnect
  else s.disconnect

def sctpSendAbortError (route : Bool) : Stream :=
  if !s.state.needabort then s else (s.sctpRouteNormal route).disconnect

def sctpSendCookieAck (route : Bool) : Stream :=
  if route then s.establish else s.sctpRouteNormal route

def sctpSendShutdownAck (m : Means) : Stream :=
  if m.route && m.alloc then s.sctpChangeState .shutdownAckSent
  else s.sctpRouteNormal m.route

/-- `sctp_conn_con`: where the interface refuses, the state is put back. -/
def sctpConnCon (connCon : Option Int) : Stream × Int :=
  if s.rq then
    let err := connCon.getD 0
    if err < 0 then (s, err) else (s.establish.log .connCon, err)
  else (s, -efault)

def sctpResetInd (resetInd : Option Int) : Stream × Int :=
  if s.rq then
    match resetInd with
    | some err => (s.log .resetInd, err)
    | none => (s.sctpAbort, 0)
  else (s, -efault)

variable {s}

@[simp] theorem state_sctpUnhash : s.sctpUnhash.state = s.state := by
  unfold sctpUnhash
  split <;> rfl

@[simp] theorem deeds_sctpUnhash : s.sctpUnhash.deeds = s.deeds := by
  unfold sctpUnhash
  split <;> rfl

@[simp] theorem state_sctpReset : s.sctpReset.state = s.idle :=
  state_sctpUnhash

@[simp] theorem deeds_sctpReset : s.sctpReset.deeds = s.deeds ++ [.reset] := by
  show (s.sctpChangeState s.idle).sctpUnhash.deeds ++ [.reset] = _
  rw [deeds_sctpUnhash]
  rfl

end Stream

end OpenSS7.Sctp
