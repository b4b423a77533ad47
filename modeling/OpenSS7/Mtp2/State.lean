import Mathlib.Algebra.Ring.Nat
import OpenSS7.Lib.Program

/-!
The state of the signalling link module: `sl->statem`, the buffers, the
options and configuration that its state machines read, and what surrounds
the module while it handles one event.
-/

namespace OpenSS7.Mtp2

inductive Lssu where
  | sio
  | sin
  | sie
  | sios
  | sipo
  | sib
  | unassigned
deriving DecidableEq

inductive LscState where
  | powerOff
  | outOfService
  | initialAlignment
  | alignedNotReady
  | alignedReady
  | inService
  | processorOutage
deriving DecidableEq

inductive IacState where
  | idle
  | notAligned
  | aligned
  | proving
deriving DecidableEq

inductive PocState where
  | idle
  | localProcessorOutage
  | remoteProcessorOutage
  | bothProcessorsOut
deriving DecidableEq

inductive TxcState where
  | idle
  | inService
  | sleeping
deriving DecidableEq

inductive RcState where
  | idle
  | inService
deriving DecidableEq

inductive CcState where
  | normal
  | busy
deriving DecidableEq

def SS7_PVAR_MASK : Nat := 0xff00
def SS7_PVAR_ANSI : Nat := 0x0300
def SS7_PVAR_JTTC : Nat := 0x0400
def SS7_PVAR_ITUT_93 : Nat := 0x0101
def SS7_PVAR_ITUT_96 : Nat := 0x0102
def SS7_PVAR_ANSI_92 : Nat := 0x0301

/-- `sl->option`: the variant and three bits of `popt`. -/
structure Options where
  pvar : Nat
  pcr : Bool
  xsn : Bool
  mplev : Bool
deriving DecidableEq

def Options.isAnsi (option : Options) : Bool :=
  decide (option.pvar &&& SS7_PVAR_MASK = SS7_PVAR_ANSI)

/-- Octets of header in front of a message: `hlen`. -/
def Options.hlen (option : Options) : Nat := if option.xsn then 6 else 3

structure Config where
  N1 : Nat
  N2 : Nat
  M : Nat
  t4e : Nat
  t4n : Nat
  rbAbate : Nat
  rbAccept : Nat
  rbDiscard : Nat
  tbAbate1 : Nat
  tbOnset1 : Nat
  tbDiscd1 : Nat
  tbAbate2 : Nat
  tbOnset2 : Nat
  tbDiscd2 : Nat
  tbAbate3 : Nat
  tbOnset3 : Nat
  tbDiscd3 : Nat
deriving DecidableEq

/-- `sl_default`, with timers in jiffies of 10 ms. -/
def slDefault : Config where
  N1 := 127
  N2 := 8192
  M := 5
  t4e := 50
  t4n := 800
  rbAbate := 3
  rbAccept := 6
  rbDiscard := 9
  tbAbate1 := 128 * 272
  tbOnset1 := 256 * 272
  tbDiscd1 := 384 * 272
  tbAbate2 := 512 * 272
  tbOnset2 := 640 * 272
  tbDiscd2 := 768 * 272
  tbAbate3 := 896 * 272
  tbOnset3 := 1024 * 272
  tbDiscd3 := 1152 * 272

/-- A message signal unit in a buffer. `id` is the address of its message
block, `hdr` the header octets in front of the octets `sdu` that were
submitted. No code reads the last two: `idx` is its place among the
messages submitted and `fsn` the number under which it was first sent. -/
structure Msu where
  id : Nat
  hdr : List UInt8
  sdu : List UInt8
  idx : Nat
  fsn : Nat
deriving DecidableEq, Inhabited

/-- `msgdsize` -/
def Msu.size (m : Msu) : Nat := m.hdr.length + m.sdu.length

/-- `q_count` of a buffer. -/
def qCount (q : List Msu) : Nat := (q.map Msu.size).sum

/-- A signal unit on its way to the other side. No code reads the last two:
`idx` is the place of its message among those submitted, `ack` the number of
messages whose reception its backward sequence number acknowledges. -/
structure Su where
  octets : List UInt8
  idx : Option Nat
  ack : Nat
deriving DecidableEq

/-- What is passed upstream: primitives, and the messages of `rb`. -/
inductive Ind where
  | data (octets : List UInt8)
  | linkCongested (cong disc : Nat)
  | linkCongestionCeased (cong disc : Nat)
  | retrievedMessage (octets : List UInt8)
  | retrievalComplete
  | bsnt (bsnt : Nat)
  | inService
  | outOfService (reason : Nat)
  | remoteProcessorOutage
  | remoteProcessorRecovered
  | rtbCleared
  | rbCleared
deriving DecidableEq

inductive SdtReq where
  | daedtStart
  | daedrStart
  | aermStart
  | aermStop
  | aermSetTiToTie
  | aermSetTiToTin
  | suermStart
  | suermStop
deriving DecidableEq

structure Stale where
  msu : Msu
  next : Option Nat
deriving DecidableEq, Inhabited

/-- What surrounds the module during one event: the answers of
`canputnext(iq)` and of `canputnext(oq)` in turn, the answer of `canput(oq)`,
the octets waiting on `iq`, the outcomes of allocations (those of signal
units, of indications and of requests to the terminal; no failure once a
list is used up), and what freed memory holds. -/
structure Env where
  room : List Bool
  roomAbove : List Bool
  canputOq : Bool
  iqCount : Nat
  suMem : List Bool
  indMem : List Bool
  reqMem : List Bool
  stale : Nat → Stale

def Env.taking (n : Nat) : Env where
  room := List.replicate n true
  roomAbove := List.replicate 8 true
  canputOq := true
  iqCount := 0
  suMem := []
  indMem := []
  reqMem := []
  stale := fun _ => default

structure Sl where
  option : Options
  config : Config
  env : Env
  tb : List Msu
  rtb : List Msu
  rb : List (List UInt8)
  lscState : LscState
  localProcessorOutage : Bool
  remoteProcessorOutage : Bool
  processorOutage : Bool
  emergency : Bool
  l3IndicationReceived : Bool
  failureReason : Nat
  iacState : IacState
  furtherProving : Bool
  t4v : Nat
  Cp : Nat
  ibMask : Nat
  snMask : Nat
  txcState : TxcState
  txNFsn : Nat
  txNBsn : Nat
  txNFib : Nat
  txNBib : Nat
  txFFsn : Nat
  txLFsn : Nat
  txCFsn : Nat
  txXFsn : Nat
  txRBsn : Nat
  txRBib : Nat
  txSio : Lssu
  msuInhibited : Bool
  lssuAvailable : Bool
  rtbFull : Bool
  clearRtb : Bool
  sibReceived : Bool
  retransCycle : Bool
  forcedRetransmission : Bool
  Cm : Int
  Ct : Int
  congStatus : Nat
  discStatus : Nat
  Z : Nat
  zPtr : Option Nat
  rcState : RcState
  rxXFsn : Nat
  rxXFib : Nat
  rxFFsn : Nat
  rxRBsn : Nat
  rxRBib : Nat
  rxRFsn : Nat
  rxRFib : Nat
  rxTFsn : Nat
  rxTBsn : Nat
  rxLen : Nat
  rxSio : Lssu
  rtr : Bool
  unb : Bool
  unf : Bool
  msuFisuAccepted : Bool
  abnormalBsnr : Bool
  abnormalFibr : Bool
  congestionDiscard : Bool
  congestionAccept : Bool
  l2CongestionDetect : Bool
  l3CongestionDetect : Bool
  Cr : Int
  ccState : CcState
  pocState : PocState
  /- Whether the timers t1 to t4 run. -/
  t1 : Bool
  t2 : Bool
  t3 : Bool
  t4 : Bool
  /- What the module has passed on during the event. -/
  sent : List Su
  inds : List Ind
  reqs : List SdtReq
  /- History since the last start, which no code reads: the messages
  submitted, those put on `rb`, those freed from `rtb`, how many `txXFsn`
  acknowledges, and whether three things have happened: a message was taken from an empty `rtb`,
  a retransmission took its message from a place that does not hold the
  message of the number it was sent under, and `rtb_full` was cleared with
  the whole sequence-number space less one outstanding. -/
  submitted : List (List UInt8)
  accepted : List (List UInt8)
  released : List Msu
  acked : Nat
  underrun : Bool
  crossed : Bool
  reopened : Bool

def Sl.allocated (option : Options) (config : Config) (env : Env) : Sl where
  option := option
  config := config
  env := env
  tb := []
  rtb := []
  rb := []
  lscState := .powerOff
  localProcessorOutage := false
  remoteProcessorOutage := false
  processorOutage := false
  emergency := false
  l3IndicationReceived := false
  failureReason := 0
  iacState := .idle
  furtherProving := false
  t4v := 0
  Cp := 0
  ibMask := 0
  snMask := 0
  txcState := .idle
  txNFsn := 0
  txNBsn := 0
  txNFib := 0
  txNBib := 0
  txFFsn := 0
  txLFsn := 0
  txCFsn := 0
  txXFsn := 0
  txRBsn := 0
  txRBib := 0
  txSio := .sio
  msuInhibited := false
  lssuAvailable := false
  rtbFull := false
  clearRtb := false
  sibReceived := false
  retransCycle := false
  forcedRetransmission := false
  Cm := 0
  Ct := 0
  congStatus := 0
  discStatus := 0
  Z := 0
  zPtr := none
  rcState := .idle
  rxXFsn := 0
  rxXFib := 0
  rxFFsn := 0
  rxRBsn := 0
  rxRBib := 0
  rxRFsn := 0
  rxRFib := 0
  rxTFsn := 0
  rxTBsn := 0
  rxLen := 0
  rxSio := .sio
  rtr := false
  unb := false
  unf := false
  msuFisuAccepted := false
  abnormalBsnr := false
  abnormalFibr := false
  congestionDiscard := false
  congestionAccept := false
  l2CongestionDetect := false
  l3CongestionDetect := false
  Cr := 0
  ccState := .normal
  pocState := .idle
  t1 := false
  t2 := false
  t3 := false
  t4 := false
  sent := []
  inds := []
  reqs := []
  submitted := []
  accepted := []
  released := []
  acked := 0
  underrun := false
  crossed := false
  reopened := false

inductive SlError where
  | ENOBUFS
deriving DecidableEq

abbrev SlM := Program Sl SlError

namespace Sl

/-- `x & sn_mask` -/
def masked (s : Sl) (x : Nat) : Nat := x % (s.snMask + 1)

/-- `(x - 1) & sn_mask` -/
def pred (s : Sl) (x : Nat) : Nat := (x + s.snMask) % (s.snMask + 1)

/-- `(x + 1) & sn_mask` -/
def succ (s : Sl) (x : Nat) : Nat := (x + 1) % (s.snMask + 1)

end Sl

/-- `ss7_allocb` and `putnext(oq)` of an indication. -/
def ind (i : Ind) : SlM Unit := do
  let s ← get
  modify fun s =>
    { s with env := { s.env with indMem := s.env.indMem.tail } }
  if s.env.indMem.headD true then
    modify fun s => { s with inds := s.inds ++ [i] }
  else
    throw .ENOBUFS

/-- `ss7_allocb` and `putnext(iq)` of a request. -/
def sdtReq (r : SdtReq) : SlM Unit := do
  let s ← get
  modify fun s =>
    { s with env := { s.env with reqMem := s.env.reqMem.tail } }
  if s.env.reqMem.headD true then
    modify fun s => { s with reqs := s.reqs ++ [r] }
  else
    throw .ENOBUFS

/-- `allocb` and `dupmsg` in transmission control; `false` is the null
pointer. -/
def suAlloc : SlM Bool := do
  let s ← get
  modify fun s => { s with env := { s.env with suMem := s.env.suMem.tail } }
  pure (s.env.suMem.headD true)

/-- `canputnext(iq)` -/
def canputnextIq : SlM Bool := do
  let s ← get
  modify fun s => { s with env := { s.env with room := s.env.room.tail } }
  pure (s.env.room.headD false)

/-- `canputnext(oq)` -/
def canputnextOq : SlM Bool := do
  let s ← get
  modify fun s =>
    { s with env := { s.env with roomAbove := s.env.roomAbove.tail } }
  pure (s.env.roomAbove.headD false)

def SN_OUTSIDE (lower middle upper : Nat) : Bool :=
  if lower ≤ upper then
    decide (middle < lower ∨ middle > upper)
  else
    decide (middle < lower ∧ middle > upper)

end OpenSS7.Mtp2
