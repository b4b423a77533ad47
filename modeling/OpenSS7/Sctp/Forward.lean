import OpenSS7.Lib.Runs
import OpenSS7.Sctp.Tracking

/-!
The receiving side with partial reliability: FORWARD-TSN moves `p_fsn`, and the
delivery loop lets the cumulative point pass over what the sender has given up.
-/

namespace OpenSS7.Sctp

open Serial

structure PrRx extends Rx where
  pFsn : Tsn
  /-- The place of `p_fsn`. -/
  fsn : Int

structure ForwardTsn where
  len : Nat
  fTsn : Tsn
  words : List (UInt16 × UInt16)

namespace PrRx

def initial (rAck : Tsn) (nIstr : UInt16) (aRwnd : Nat) : PrRx where
  toRx := .initial rAck nIstr aRwnd
  pFsn := rAck
  fsn := 0

/-- `if (before(sp->p_fsn, sp->r_ack)) sp->p_fsn = sp->r_ack` -/
def pushFsn (rx : PrRx) : PrRx :=
  if before rx.pFsn rx.rAck then { rx with pFsn := rx.rAck, fsn := rx.count }
  else rx

/-- `r_ack++`, with `p_fsn` not left behind. -/
def advance (rx : PrRx) : PrRx := { rx with toRx := rx.toRx.advance }.pushFsn

/-- `r_ack = cb->tsn` -/
def skipTo (rx : PrRx) (tsn : Tsn) : PrRx :=
  { rx with rAck := tsn, count := rx.place tsn }

def ackTo (rx : PrRx) (tsn : Tsn) : PrRx :=
  if tsn = rx.rAck + 1 then rx.advance
  else if after tsn rx.rAck && !after tsn rx.pFsn then rx.skipTo tsn
  else rx

/-- A chunk beyond `p_fsn + 1` has to wait for others before it. -/
def waits (rx : PrRx) (cb : Cb) : Bool :=
  let st := rx.strm cb.sid
  after cb.tsn (rx.pFsn + 1) &&
    (!cb.first ||
      if cb.urg then st.xMore || !cb.last
      else st.nMore || cb.ssn ≠ st.ssn + 1)

/-- A block at or below `r_ack` leaves the list, and what is linked before it. -/
def drop (rx : PrRx) (cb : Cb) (rest : List Cb) : PrRx :=
  let ngaps :=
    if rest = [] then 0
    else if cb.tsn = cb.tail then rx.ngaps - 1 else rx.ngaps
  { rx with toRx := { rx.unlink cb.tsn with ngaps := ngaps } }

/-- `sctp_deliver_data` from some block on; `dupb` says for which blocks the
message can be duplicated, and the loop stops at one for which it cannot. -/
def deliverFrom (rx : PrRx) (dupb : Tsn → Bool) (passed : List Cb)
    (patch : Option Tsn) : List Cb → PrRx
  | [] => { rx with gaps := passed }
  | cb :: rest =>
      let cb := { cb with tail := patch.getD cb.tail }
      if !cb.deliv && rx.waits cb then
        rx.deliverFrom dupb (passed ++ [cb]) none rest
      else if !cb.deliv && !dupb cb.tsn then
        { rx with gaps := passed ++ cb :: rest }
      else
        let rx := if cb.deliv then rx else { rx with toRx := rx.deliver cb }
        let cb := { cb with deliv := true }
        let rx := rx.ackTo cb.tsn
        if !after cb.tsn rx.rAck then
          (rx.drop cb rest).deliverFrom dupb []
            (if cb.tsn = cb.tail then none else some cb.tail) rest
        else rx.deliverFrom dupb (passed ++ [cb]) none rest

def sctpDeliverData (rx : PrRx) (dupb : Tsn → Bool) : PrRx :=
  rx.deliverFrom dupb [] none rx.gaps

def take (rx : PrRx) (m : Data) : PrRx × Bool :=
  let taken := rx.toRx.take m
  let rx' := { rx with toRx := taken.1 }
  (if m.tsn = rx.rAck + 1 ∧ rx.oooq = [] then rx'.pushFsn else rx', taken.2)

def takeAll (rx : PrRx) (newd : Bool) : List Chunk → PrRx × Bool
  | [] => (rx, newd)
  | .otherType :: _ => (rx, newd)
  | .badSize :: _ => (rx, newd)
  | .data m :: chunks =>
      if m.dlen = 0 then ({ rx with receiving := false }, false)
      else if rx.nIstr ≤ m.sid then rx.takeAll newd chunks
      else if rx.flowControlled then (rx, newd)
      else
        let (rx, new) := rx.take m
        rx.takeAll (newd || new) chunks

def sctpRecvData (rx : PrRx) (dupb : Tsn → Bool) (packet : List Chunk) : PrRx :=
  if !rx.receiving then rx
  else
    let (rx, newd) := rx.takeAll false packet
    if newd then rx.sctpDeliverData dupb else rx

def pushSsn (istrm : UInt16 → Bool) (rx : PrRx) (word : UInt16 × UInt16) :
    PrRx :=
  let st := rx.strm word.1
  if istrm word.1 && !after st.ssn.toBitVec word.2.toBitVec then
    { rx with strm := Function.update rx.strm word.1 { st with ssn := word.2 } }
  else rx

def accepts (rx : PrRx) (m : ForwardTsn) : Bool :=
  rx.receiving && 8 ≤ m.len && after m.fTsn rx.pFsn

/-- The state after `p_fsn` and the streams have been pushed. -/
def pushed (rx : PrRx) (istrm : UInt16 → Bool) (m : ForwardTsn) : PrRx :=
  (m.words.take ((m.len - 8) / 4)).foldl (pushSsn istrm)
    { rx with pFsn := m.fTsn, fsn := rx.fsn + ahead m.fTsn rx.pFsn }

def sctpRecvForwardTsn (rx : PrRx) (istrm : UInt16 → Bool) (dupb : Tsn → Bool)
    (m : ForwardTsn) : PrRx :=
  if rx.accepts m then
    let rx := rx.pushed istrm m
    if rx.ngaps = 0 then { rx with rAck := rx.pFsn, count := rx.fsn }
    else rx.sctpDeliverData dupb
  else rx

inductive Event where
  | packet (dupb : Tsn → Bool) (chunks : List Chunk)
  | forward (istrm : UInt16 → Bool) (dupb : Tsn → Bool) (m : ForwardTsn)
  | sack
  | readNormal
  | readExpedited

def handle (rx : PrRx) : Event → PrRx
  | .packet dupb chunks => rx.sctpRecvData dupb chunks
  | .forward istrm dupb m => rx.sctpRecvForwardTsn istrm dupb m
  | .sack => { rx with toRx := rx.sacked }
  | .readNormal => { rx with rcvq := rx.rcvq.tail }
  | .readExpedited => { rx with expq := rx.expq.tail }

end PrRx

end OpenSS7.Sctp
