import OpenSS7.Lib.Serial

/-!
The receiving side of an association: the cumulative point, the list of chunks
received beyond it with its runs, and the queues that DATA chunks are put on.
-/

namespace OpenSS7.Sctp

open Serial

abbrev Tsn := BitVec 32

structure Data where
  tsn : Tsn
  sid : UInt16
  ssn : UInt16
  first : Bool
  last : Bool
  urg : Bool
  dlen : Nat
deriving DecidableEq

inductive Chunk where
  | data (m : Data)
  | otherType
  | badSize
deriving DecidableEq

/-- The control block of a received chunk. Blocks on the gap list are named by
their TSNs: `tail` is the TSN of the block that the pointer leads to. -/
structure Cb where
  tsn : Tsn
  tail : Tsn
  sid : UInt16
  ssn : UInt16
  first : Bool
  last : Bool
  urg : Bool
  deliv : Bool
  dlen : Nat
deriving DecidableEq

structure Strm where
  ssn : UInt16
  nMore : Bool
  xMore : Bool
deriving DecidableEq

def Strm.delivered (st : Strm) (cb : Cb) : Strm :=
  if cb.urg then { st with xMore := !cb.last }
  else if cb.last then { st with nMore := false, ssn := cb.ssn }
  else { st with nMore := true }

/-- A chunk put on `rcvq` or `expq`, with its place counted from the initial
cumulative point, and whether it came on the fast path. -/
structure Put where
  place : Int
  fast : Bool
  cb : Cb
deriving DecidableEq

structure Rx where
  /-- The state is one of `SCTPF_RECEIVING`. -/
  receiving : Bool
  rAck : Tsn
  nIstr : UInt16
  aRwnd : Nat
  gaps : List Cb
  ngaps : Nat
  nunds : Nat
  oooq : List Tsn
  oooqCount : Nat
  dups : List Cb
  ndups : Nat
  rcvq : List Cb
  expq : List Cb
  strm : UInt16 → Strm
  /-- How far `r_ack` has moved. -/
  count : Int
  heard : List Int
  put : List Put

namespace Rx

def initial (rAck : Tsn) (nIstr : UInt16) (aRwnd : Nat) : Rx where
  receiving := true
  rAck := rAck
  nIstr := nIstr
  aRwnd := aRwnd
  gaps := []
  ngaps := 0
  nunds := 0
  oooq := []
  oooqCount := 0
  dups := []
  ndups := 0
  rcvq := []
  expq := []
  strm := fun _ => { ssn := 0xffff, nMore := false, xMore := false }
  count := 0
  heard := []
  put := []

/-- The place of a TSN, as the comparisons with `r_ack` read it. -/
def place (rx : Rx) (tsn : Tsn) : Int := rx.count + ahead tsn rx.rAck

def size (q : List Cb) : Nat := (q.map Cb.dlen).sum

def flowControlled (rx : Rx) : Bool :=
  rx.aRwnd * 2 ≤ rx.oooqCount + size rx.dups + size rx.rcvq + size rx.expq

def queue (rx : Rx) (fast : Bool) (cb : Cb) : Rx :=
  let put : Put := ⟨rx.place cb.tsn, fast, cb⟩
  let rx := { rx with put := rx.put ++ [put] }
  if cb.urg then { rx with expq := rx.expq ++ [cb] }
  else { rx with rcvq := rx.rcvq ++ [cb] }

/-- `r_ack++` -/
def advance (rx : Rx) : Rx :=
  { rx with rAck := rx.rAck + 1, count := rx.count + 1 }

end Rx

/-- What `sctp_recv_data` makes of the gap list for a chunk beyond the
cumulative point: nothing for a duplicate, else the list and `ngaps`, and the
head of the run before which the chunk goes on `oooq`. -/
structure Placed where
  gaps : List Cb
  ngaps : Nat
  before : Option Tsn
deriving DecidableEq

def Placed.keep (cb : Cb) (placed : Placed) : Placed :=
  { placed with gaps := cb :: placed.gaps }

/-- The block behind another on the list, past the block `tail`. -/
def afterTail (tail : Tsn) : List Cb → List Cb
  | [] => []
  | cb :: rest => if cb.tsn = tail then rest else afterTail tail rest

/-- The block goes behind the block `tail`. -/
def linkAfter (tail : Tsn) (cb : Cb) : List Cb → List Cb
  | [] => [cb]
  | x :: rest =>
      if x.tsn = tail then x :: cb :: rest else x :: linkAfter tail cb rest

/-- `cb->next && cb->next->tsn == tsn + 1` -/
def joins (cb : Cb) : List Cb → Option Tsn
  | [] => none
  | next :: _ => if next.tsn = cb.tsn + 1 then some next.tail else none

def placeGap (cb : Cb) (ngaps : Nat) : Option Tsn → List Cb → Option Placed
  | none, [] => some ⟨[cb], ngaps + 1, none⟩
  | some _, [] => some ⟨[cb], ngaps + 1, none⟩
  | some tail, x :: rest =>
      let skip := if x.tsn = tail then none else some tail
      (placeGap cb ngaps skip rest).map (.keep x)
  | none, head :: rest =>
      if between cb.tsn head.tsn head.tail then none
      else if before cb.tsn head.tsn then
        -- insert in front of gap
        match joins cb (head :: rest) with
        | some tail =>
            some ⟨{ cb with tail := tail } :: head :: rest, ngaps + 1 - 1,
              some head.tsn⟩
        | none => some ⟨cb :: head :: rest, ngaps + 1, some head.tsn⟩
      else if cb.tsn = head.tail + 1 then
        -- expand at end of gap
        let rest' := linkAfter head.tail cb (head :: rest)
        match joins cb (afterTail head.tail (head :: rest)) with
        | some tail =>
            some ⟨rest'.modifyHead fun head => { head with tail := tail },
              ngaps - 1, none⟩
        | none =>
            some ⟨rest'.modifyHead fun head => { head with tail := cb.tsn },
              ngaps, none⟩
      else
        -- try next gap
        let skip := if head.tsn = head.tail then none else some head.tail
        (placeGap cb ngaps skip rest).map (.keep head)

/-- `bufq_insert` before a block, `bufq_queue` where none is named. -/
def bufqInsert (q : List Tsn) (tsn : Tsn) : Option Tsn → List Tsn
  | none => q ++ [tsn]
  | some head => q.takeWhile (· ≠ head) ++ tsn :: q.dropWhile (· ≠ head)

namespace Rx

def control (m : Data) : Cb where
  tsn := m.tsn
  tail := m.tsn
  sid := m.sid
  ssn := m.ssn
  first := m.first
  last := m.last
  urg := m.urg
  deliv := false
  dlen := m.dlen

def take (rx : Rx) (m : Data) : Rx × Bool :=
  let cb := control m
  let rx := { rx with heard := rx.heard ++ [rx.place m.tsn] }
  let duplicate : Rx × Bool :=
    ({ rx with dups := cb :: rx.dups, ndups := rx.ndups + 1 }, false)
  if m.tsn = rx.rAck + 1 ∧ rx.oooq = [] then
    ((rx.queue true { cb with deliv := true }).advance, true)
  else if !after m.tsn rx.rAck then duplicate
  else
    match placeGap cb rx.ngaps none rx.gaps with
    | none => duplicate
    | some placed =>
        ({ rx with
            gaps := placed.gaps
            ngaps := placed.ngaps
            oooq := bufqInsert rx.oooq m.tsn placed.before
            oooqCount := rx.oooqCount + m.dlen
            nunds := rx.nunds + 1 }, true)

def takeAll (rx : Rx) (newd : Bool) : List Chunk → Rx × Bool
  | [] => (rx, newd)
  | .otherType :: _ => (rx, newd)
  | .badSize :: _ => (rx, newd)
  | .data m :: chunks =>
      if m.dlen = 0 then ({ rx with receiving := false }, false)
      else if rx.nIstr ≤ m.sid then rx.takeAll newd chunks
      else if rx.flowControlled then (rx, newd)
      else
        let (rx, new) := rx.take m
        rx.takeAll (newd || new) chunks

def waits (rx : Rx) (cb : Cb) : Bool :=
  let st := rx.strm cb.sid
  after cb.tsn (rx.rAck + 1) &&
    (!cb.first ||
      if cb.urg then st.xMore || !cb.last
      else st.nMore || cb.ssn ≠ st.ssn + 1)

def deliver (rx : Rx) (cb : Cb) : Rx :=
  let rx := rx.queue false { cb with deliv := true }
  { rx with
    oooqCount := rx.oooqCount - cb.dlen
    strm := Function.update rx.strm cb.sid
      ((rx.strm cb.sid).delivered cb)
    nunds := rx.nunds - 1 }

/-- `bufq_unlink` from `oooq`. -/
def unlink (rx : Rx) (tsn : Tsn) : Rx :=
  let oooq := rx.oooq.erase tsn
  { rx with
    oooq := oooq
    oooqCount := if oooq = [] then 0 else rx.oooqCount }

/-- `sctp_deliver_data` from some block on, behind the blocks passed over; the
tail pointer of the block may have been set by the removal of the one before
it. -/
def deliverFrom (rx : Rx) (passed : List Cb) (patch : Option Tsn) :
    List Cb → Rx
  | [] => { rx with gaps := passed }
  | cb :: rest =>
      let cb := { cb with tail := patch.getD cb.tail }
      if !cb.deliv && rx.waits cb then
        rx.deliverFrom (passed ++ [cb]) none rest
      else
        let rx := if cb.deliv then rx else rx.deliver cb
        let cb := { cb with deliv := true }
        let rx := if cb.tsn = rx.rAck + 1 then rx.advance else rx
        if !after cb.tsn rx.rAck then
          let alone := cb.tsn = cb.tail
          let ngaps :=
            if rest = [] then 0 else if alone then rx.ngaps - 1 else rx.ngaps
          { rx.unlink cb.tsn with ngaps := ngaps }.deliverFrom []
            (if alone then none else some cb.tail) rest
        else rx.deliverFrom (passed ++ [cb]) none rest

def sctpDeliverData (rx : Rx) : Rx := rx.deliverFrom [] none rx.gaps

def sctpRecvData (rx : Rx) (packet : List Chunk) : Rx :=
  if !rx.receiving then rx
  else
    let (rx, newd) := rx.takeAll false packet
    if newd then rx.sctpDeliverData else rx

def sacked (rx : Rx) : Rx := { rx with dups := [], ndups := 0 }

inductive Event where
  | packet (chunks : List Chunk)
  | sack
  | readNormal
  | readExpedited

def handle (rx : Rx) : Event → Rx
  | .packet chunks => rx.sctpRecvData chunks
  | .sack => rx.sacked
  | .readNormal => { rx with rcvq := rx.rcvq.tail }
  | .readExpedited => { rx with expq := rx.expq.tail }

def run (rx : Rx) (events : List Event) : Rx := events.foldl handle rx

end Rx

end OpenSS7.Sctp
