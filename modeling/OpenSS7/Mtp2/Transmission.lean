import OpenSS7.Mtp2.Header

/-!
Transmission control: the choice of the next signal unit, the transmitter
wakeup that every change of the transmit side ends in, and the treatment of
received acknowledgements.
-/

namespace OpenSS7.Mtp2

namespace Sl

/-- The fields of `tx.N` as they go into a header. -/
def header (s : Sl) : Header :=
  { bsn := s.txNBsn, bib := s.txNBib, fsn := s.txNFsn, fib := s.txNFib }

/-- `rtb.q_msgs < N1 && rtb.q_count < N2` -/
def rtbBelow (s : Sl) : Bool :=
  decide (s.rtb.length < s.config.N1 ∧ qCount s.rtb < s.config.N2)

def retransmits (s : Sl) : Bool :=
  (!s.option.pcr && s.retransCycle) ||
    (s.option.pcr &&
      (s.forcedRetransmission ||
        (decide (qCount s.tb = 0) && decide (qCount s.rtb ≠ 0))))

def idles (s : Sl) : Bool :=
  (!s.option.pcr && (decide (qCount s.tb = 0) || s.rtbFull)) ||
    (s.option.pcr && (decide (qCount s.tb = 0) && decide (qCount s.rtb = 0)))

def retransFsn (s : Sl) : Nat :=
  if s.option.pcr then s.Z else s.succ s.txNFsn

def msuHeader (s : Sl) (m : Msu) (fsn : Nat) : List UInt8 :=
  slDaedtMsuHeader s.option.xsn
    { bsn := s.pred s.txXFsn, bib := s.txNBib, fsn := fsn, fib := s.txNFib }
    m.size

end Sl

def numberIdleUnit : SlM Unit :=
  modify fun s => { s with txNFsn := s.txLFsn, txNBsn := s.pred s.txXFsn }

def slDaedtFisu : SlM Su := do
  modify fun s => { s with txcState := .sleeping }
  let s ← get
  pure ⟨slDaedtFisuOctets s.option.xsn s.header, none, s.acked⟩

def slDaedtLssu : SlM Su := do
  modify fun s =>
    { s with txcState := if s.txSio = .sib then s.txcState else .sleeping }
  let s ← get
  pure ⟨slDaedtLssuOctets s.option.xsn s.header s.txSio, none, s.acked⟩

def slTxcTransmitLssu : SlM (Option Su) := do
  if ← suAlloc then
    modify fun s =>
      { s with lssuAvailable :=
          if s.txSio = .sib then false else s.lssuAvailable }
    numberIdleUnit
    some <$> slDaedtLssu
  else
    pure none

def slTxcTransmitFisu : SlM (Option Su) := do
  if ← suAlloc then
    numberIdleUnit
    some <$> slDaedtFisu
  else
    pure none

/-- The cursor moves on to `next` after a retransmission under `fsn`. -/
def Sl.advance (s : Sl) (fsn : Nat) (next : Option Nat) : Sl :=
  { s with
    zPtr := next
    txNFsn := fsn
    txNBsn := s.pred s.txXFsn
    Z := if s.option.pcr then s.succ s.Z else s.Z
    retransCycle :=
      if fsn = s.txLFsn ∨ next = none then false else s.retransCycle }

/-- The retransmission of the message at `z`. Where `z` is no longer on
`rtb`, the message and its `b_next` come from freed memory. -/
def slTxcRetransmit (z : Nat) : SlM Su := do
  let s ← get
  let fsn := s.retransFsn
  match s.rtb.findIdx? fun m => m.id == z with
  | some i =>
      let m := (s.rtb[i]?).getD default
      let hdr := s.msuHeader m fsn
      modify fun s =>
        { s.advance fsn ((s.rtb[i + 1]?).map Msu.id) with
          rtb := s.rtb.set i { m with hdr := hdr }
          crossed := s.crossed || decide (m.fsn ≠ fsn) }
      pure ⟨hdr ++ m.sdu, some m.idx, s.acked⟩
  | none =>
      let m := (s.env.stale z).msu
      modify fun s =>
        { s.advance fsn (s.env.stale z).next with crossed := true }
      pure ⟨s.msuHeader m fsn ++ m.sdu, some m.idx, s.acked⟩

/-- The limit on `rtb` that makes it full, with the message `m` on it. -/
def Sl.fills (s : Sl) (m : Msu) : Bool :=
  decide (s.config.N1 ≤ s.rtb.length + 1 ∨
    s.config.N2 ≤ qCount s.rtb + m.size)

/-- The first transmission of the message `m` at the head of `tb`, which
moves to `rtb`. -/
def slTxcTransmitNew (m : Msu) (rest : List Msu) : SlM Su := do
  let s ← get
  let fsn := s.succ s.txLFsn
  let hdr := s.msuHeader m fsn
  modify fun s =>
    { s with
      tb := rest
      Cm := s.Cm - 1
      txLFsn := fsn
      txNFsn := fsn
      txNBsn := s.pred s.txXFsn
      rtb := s.rtb ++ [{ m with hdr := hdr, fsn := fsn }]
      Ct := s.Ct + 1
      rxTFsn := fsn
      rtbFull := s.rtbFull || s.fills m ||
        (!s.option.pcr && decide (fsn = s.pred (s.pred s.txFFsn)))
      forcedRetransmission :=
        s.forcedRetransmission || (s.option.pcr && s.fills m) }
  pure ⟨hdr ++ m.sdu, some m.idx, s.acked⟩

def slTxcTransmitFirst : SlM (Option Su) := do
  let s ← get
  match s.tb with
  | [] => pure none
  | m :: rest =>
      if ← suAlloc then some <$> slTxcTransmitNew m rest else pure none

def slTxcTransmitNext : SlM (Option Su) := do
  let s ← get
  if s.idles then
    slTxcTransmitFisu
  else
    slTxcTransmitFirst

/-- A retransmission when one is due, from `rtb.q_head` when the cursor has
none, else a new message or an idle unit. -/
def slTxcTransmitDue : SlM (Option Su) := do
  let s ← get
  if s.retransmits then
    match s.zPtr with
    | some z =>
        if ← suAlloc then some <$> slTxcRetransmit z else pure none
    | none =>
        if s.option.pcr then
          match s.rtb.head? with
          | some m =>
              if ← suAlloc then
                modify fun s => { s with Z := s.txFFsn }
                some <$> slTxcRetransmit m.id
              else
                pure none
          | none =>
              modify fun s => { s with Z := s.txFFsn }
              slTxcTransmitNext
        else
          slTxcTransmitNext
  else
    slTxcTransmitNext

def slTxcTransmitMsu : SlM (Option Su) := do
  modify fun s =>
    if s.option.pcr && s.rtbBelow then
      { s with forcedRetransmission := false, rtbFull := false }
    else s
  modify fun s =>
    if s.option.pcr && decide (qCount s.tb ≠ 0) && s.rtbFull then
      { s with forcedRetransmission := true }
    else s
  slTxcTransmitDue

def slTxcTransmissionRequest : SlM (Option Su) := do
  let s ← get
  if s.txcState = .inService then
    if s.lssuAvailable then
      slTxcTransmitLssu
    else if s.msuInhibited then
      slTxcTransmitFisu
    else
      slTxcTransmitMsu
  else
    pure none

/-- A transmission request whose signal unit, if there is one, is passed on
with `putnext(iq)`; whether there was one. -/
def transmit : SlM Bool := do
  match ← slTxcTransmissionRequest with
  | some su =>
      modify fun s => { s with sent := s.sent ++ [su] }
      pure true
  | none => pure false

/-- The loop of `sl_tx_wakeup`, each turn of which takes an answer of
`canputnext(iq)`. -/
def slTxWakeupLoop : Nat → SlM Unit
  | 0 => pure ()
  | fuel + 1 => do
      let s ← get
      if s.txcState = .inService then
        if ← canputnextIq then
          if ← transmit then slTxWakeupLoop fuel else pure ()
        else
          pure ()
      else
        pure ()

def slTxWakeup : SlM Unit := do
  let s ← get
  slTxWakeupLoop (s.env.room.length + 1)

def slDaedtTransmitterWakeup : SlM Unit := do
  modify fun s =>
    { s with txcState :=
        if s.txcState = .sleeping then .inService else s.txcState }
  slTxWakeup

/-- `sl_txc_send_sios`, `sl_txc_send_sib` and their kind. -/
def slTxcSendLssu (status : Lssu) : SlM Unit := do
  modify fun s => { s with lssuAvailable := true, txSio := status }
  slDaedtTransmitterWakeup

def slTxcSendSios : SlM Unit := slTxcSendLssu .sios
def slTxcSendSib : SlM Unit := slTxcSendLssu .sib
def slTxcSendSipo : SlM Unit := slTxcSendLssu .sipo
def slTxcSendSio : SlM Unit := slTxcSendLssu .sio
def slTxcSendSin : SlM Unit := slTxcSendLssu .sin
def slTxcSendSie : SlM Unit := slTxcSendLssu .sie

def slTxcSendMsu : SlM Unit := do
  modify fun s => { s with msuInhibited := false, lssuAvailable := false }
  slDaedtTransmitterWakeup

def slTxcSendFisu : SlM Unit := do
  modify fun s => { s with msuInhibited := true, lssuAvailable := false }
  slDaedtTransmitterWakeup

def slTxcFsnxValue : SlM Unit := do
  let s ← get
  if s.txXFsn ≠ s.rxXFsn then
    modify fun s => { s with txXFsn := s.rxXFsn, acked := s.accepted.length }
    slDaedtTransmitterWakeup
  else
    pure ()

def slTxcNackToBeSent : SlM Unit := do
  modify fun s =>
    { s with txNBib := if s.txNBib ≠ 0 then 0 else s.ibMask }
  slDaedtTransmitterWakeup

/-- The congestion and discard status that `sl_check_congestion` arrives at
from the occupancy of the transmit buffers. -/
def congestion (c : Config) (multi : Bool) (occupancy cong disc : Nat) :
    Nat × Nat :=
  match cong with
  | 0 =>
      if c.tbOnset1 ≤ occupancy then
        if c.tbDiscd1 ≤ occupancy then
          if !multi then (1, 1)
          else if c.tbOnset2 ≤ occupancy then
            if c.tbDiscd2 ≤ occupancy then
              if c.tbOnset3 ≤ occupancy then
                if c.tbDiscd3 ≤ occupancy then (3, 3) else (3, 2)
              else (2, 2)
            else (2, 1)
          else (1, 1)
        else (1, disc)
      else (0, disc)
  | 1 =>
      if occupancy < c.tbAbate1 then (0, 0)
      else if !multi then (1, disc)
      else if c.tbOnset2 ≤ occupancy then
        if c.tbDiscd2 ≤ occupancy then
          if c.tbOnset3 ≤ occupancy then
            if c.tbDiscd3 ≤ occupancy then (3, 3) else (3, 2)
          else (2, 2)
        else (2, disc)
      else (1, disc)
  | 2 =>
      if !multi then (1, 1)
      else if occupancy < c.tbAbate2 then
        if occupancy < c.tbAbate1 then (0, 0) else (1, 1)
      else if c.tbOnset3 ≤ occupancy then
        if c.tbDiscd3 ≤ occupancy then (3, 3) else (3, disc)
      else (2, disc)
  | 3 =>
      if !multi then (1, 1)
      else if occupancy < c.tbAbate3 then
        if occupancy < c.tbAbate2 then
          if occupancy < c.tbAbate1 then (0, 0) else (1, 1)
        else (2, 2)
      else (3, disc)
  | cong => (cong, disc)

def slCheckCongestion : SlM Unit := do
  let s ← get
  let (cong, disc) := congestion s.config s.option.mplev
    (s.env.iqCount + qCount s.tb + qCount s.rtb) s.congStatus s.discStatus
  modify fun s => { s with congStatus := cong, discStatus := disc }
  if cong ≠ s.congStatus ∨ disc ≠ s.discStatus then
    if cong < s.congStatus then
      ind (.linkCongestionCeased cong disc)
    else
      ind (.linkCongested cong disc)
  else
    pure ()

def slLscRtbCleared : SlM Unit := do
  let s ← get
  if s.lscState = .processorOutage then
    modify fun s => { s with remoteProcessorOutage := false }
    if s.localProcessorOutage then
      pure ()
    else
      ind .remoteProcessorRecovered
      ind .rtbCleared
      slTxcSendMsu
      modify fun s => { s with lscState := .inService }
  else
    pure ()

/-- One turn of the freeing loop of `sl_txc_bsnr_and_bibr`. -/
def Sl.freeOne (s : Sl) : Sl :=
  { s with
    rtb := s.rtb.tail
    Ct := s.Ct - 1
    txFFsn := s.succ s.txFFsn
    released := s.released ++ s.rtb.head?.toList
    underrun := s.underrun || s.rtb.isEmpty }

/-- The freeing loop, which ends when `tx.F` has come to the number after
`tx.R.bsn`; `none` when it has not within the given number of turns. -/
def Sl.freeAcknowledged : Nat → Sl → Option Sl
  | 0, _ => none
  | fuel + 1, s =>
      if s.freeOne.txFFsn = s.succ s.txRBsn then some s.freeOne
      else freeAcknowledged fuel s.freeOne

/-- The branch of `sl_txc_bsnr_and_bibr` for a cleared `rtb`. -/
def slTxcRtbCleared : SlM Unit := do
  modify fun s => { s with rtb := [], Ct := 0 }
  slCheckCongestion
  modify fun s =>
    { s with
      txFFsn := s.succ s.txRBsn
      txLFsn := s.txRBsn
      txNFsn := s.txRBsn
      txNFib := s.txRBib
      Z := s.succ s.txRBsn
      zPtr := none }
  slLscRtbCleared
  modify fun s => { s with clearRtb := false, rtbFull := false }

def slTxcRtbFreed : SlM Unit := do
  slCheckCongestion
  slDaedtTransmitterWakeup
  modify fun s =>
    if !s.option.pcr || s.rtbBelow then
      { s with
        rtbFull := false
        reopened := s.reopened ||
          (!s.option.pcr && decide (s.snMask ≤ s.rtb.length)) }
    else s
  modify fun s =>
    if SN_OUTSIDE s.txFFsn s.Z s.txLFsn ∨ qCount s.rtb = 0 then
      { s with Z := s.txFFsn, zPtr := s.rtb.head?.map Msu.id }
    else s

def slTxcRetransmissionStart : SlM Unit := do
  modify fun s =>
    { s with
      sibReceived := false
      txNFib := s.txRBib
      txNFsn := s.pred s.txFFsn
      zPtr := s.rtb.head?.map Msu.id
      retransCycle := s.retransCycle || !s.rtb.isEmpty }
  slDaedtTransmitterWakeup

/-- `sl_txc_bsnr_and_bibr`. A freeing loop that does not end leaves the
state as it was. -/
def slTxcBsnrAndBibr : SlM Unit := do
  modify fun s => { s with txRBsn := s.rxRBsn, txRBib := s.rxRBib }
  let s ← get
  if s.clearRtb then
    slTxcRtbCleared
  else do
    if s.txFFsn ≠ s.succ s.txRBsn then
      modify fun s =>
        (s.freeAcknowledged (s.snMask + 1)).elim s
          fun s => { s with sibReceived := false }
      slTxcRtbFreed
    let s ← get
    if !s.option.pcr && decide (s.txNFib ≠ s.txRBib) then
      slTxcRetransmissionStart

def slTxcSibReceived : SlM Unit :=
  modify fun s =>
    if s.option.pvar = SS7_PVAR_ANSI_92 ∧ s.lssuAvailable ∧ s.txSio ≠ .sib then
      s
    else if s.option.pvar ≠ SS7_PVAR_ITUT_93 ∧ qCount s.rtb = 0 then
      s
    else
      { s with sibReceived := true }

end OpenSS7.Mtp2
