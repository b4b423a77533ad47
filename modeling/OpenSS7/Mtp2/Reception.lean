import OpenSS7.Mtp2.LinkState

/-!
Reception control, and the requests of level three that start the link,
submit messages, and retrieve what has not been acknowledged.
-/

namespace OpenSS7.Mtp2

section Reception

def acknowledge : SlM Unit := do
  slTxcBsnrAndBibr
  modify fun s => { s with rxFFsn := s.succ s.rxRBsn }

/-- A message in sequence goes to `rb`. -/
def acceptMsu (octets : List UInt8) : SlM Unit := do
  modify fun s =>
    { s with
      rxXFsn := s.succ s.rxXFsn
      rb := s.rb ++ [octets]
      Cr := s.Cr + 1
      accepted := s.accepted ++ [octets] }
  let s ← get
  if s.congestionAccept then slCcBusy else slTxcFsnxValue

/-- The end of `sl_rc_signal_unit` for preventive cyclic retransmission. -/
def slRcPcr (octets : List UInt8) : SlM Unit := do
  slLscFisuMsuReceived
  acknowledge
  let s ← get
  if s.msuFisuAccepted then
    slRbCongestionFunction
    let s ← get
    if s.congestionDiscard then
      slCcBusy
    else if s.rxRFsn = s.rxXFsn ∧ 2 < s.rxLen then
      acceptMsu octets
    else
      pure ()
  else
    pure ()

def slRcBasicInSequence (octets : List UInt8) : SlM Unit := do
  slLscFisuMsuReceived
  acknowledge
  let s ← get
  if s.msuFisuAccepted then
    slRbCongestionFunction
    let s ← get
    if s.congestionDiscard then
      modify fun s => { s with rtr := true }
      slCcBusy
    else if s.rxRFsn = s.rxXFsn ∧ 2 < s.rxLen then
      modify fun s => { s with rtr := false }
      acceptMsu octets
    else if s.rxRFsn = s.pred s.rxXFsn then
      pure ()
    else if s.congestionAccept then
      modify fun s => { s with rtr := true }
      slCcBusy
    else
      slTxcNackToBeSent
      modify fun s => { s with rtr := true, rxXFib := s.flippedFib }
  else
    pure ()

/-- The end of `sl_rc_signal_unit` for the basic method. -/
def slRcBasic (octets : List UInt8) : SlM Unit := do
  let s ← get
  if s.rxRFib = s.rxXFib then
    if s.abnormalFibr && !s.unf then
      modify fun s => { s with unf := true }
    else
      modify fun s => { s with abnormalFibr := false }
      slRcBasicInSequence octets
  else if s.abnormalFibr then
    slLscLinkFailure SL_FAIL_ABNORMAL_FIBR
  else if s.rtr then
    acknowledge
  else
    modify fun s => { s with abnormalFibr := true, unf := false }

def slRcLssu (status : Lssu) : SlM Unit :=
  match status with
  | .sio => do
      slLscSio
      slIacSio
  | .sin => do
      slLscSin
      slIacSin
  | .sie => do
      slLscSie
      slIacSie
  | .sios => do
      slLscSios
      slIacSios
  | .sipo => slLscSipo
  | .sib => slLscSib
  | .unassigned => pure ()

def Sl.decode (s : Sl) (octets : List UInt8) : Sl :=
  let d := slRcDecode s.option.xsn octets
  { s with
    rxRBsn := d.header.bsn
    rxRBib := d.header.bib
    rxRFsn := d.header.fsn
    rxRFib := d.header.fib
    rxLen := d.len
    rxSio := if d.len = 1 ∨ d.len = 2 then slRcStatus octets d else s.rxSio }

def slRcFisuMsu (octets : List UInt8) : SlM Unit := do
  let s ← get
  if SN_OUTSIDE (s.pred s.rxFFsn) s.rxRBsn s.rxTFsn then
    if s.abnormalBsnr then
      slLscLinkFailure SL_FAIL_ABNORMAL_BSNR
      modify fun s => { s with rcState := .idle }
    else
      modify fun s => { s with abnormalBsnr := true, unb := false }
  else if s.abnormalBsnr && !s.unb then
    modify fun s => { s with unb := true }
  else
    modify fun s => { s with abnormalBsnr := false }
    if s.option.pcr then slRcPcr octets else slRcBasic octets

def slRcSignalUnit (octets : List UInt8) : SlM Unit := do
  let s ← get
  if s.rcState = .inService then
    modify fun s => s.decode octets
    let s ← get
    if s.rxLen = 1 ∨ s.rxLen = 2 then
      slRcLssu s.rxSio
    else
      -- what is left of the message once the header has been read
      slRcFisuMsu (octets.drop (slRcDecode s.option.xsn octets).rptr)
  else
    pure ()

/-- The delivery loop of `sl_rx_wakeup`; `rb` is its measure. -/
def slRxDeliver : Nat → SlM Unit
  | 0 => pure ()
  | fuel + 1 => do
      let s ← get
      modify fun s =>
        { s with
          rb := s.rb.tail
          Cr := s.Cr - 1
          inds := s.inds ++ (s.rb.head?.map Ind.data).toList }
      if s.rb.tail.isEmpty then
        pure ()
      else if ← canputnextOq then
        slRxDeliver fuel
      else
        pure ()

def slRxWakeup : SlM Unit := do
  let s ← get
  if s.rb.isEmpty then
    pure ()
  else if ← canputnextOq then
    match s.lscState with
    | .initialAlignment | .alignedReady | .alignedNotReady =>
        modify fun s => { s with rb := [] }
    | .processorOutage =>
        if s.localProcessorOutage then pure () else slRxDeliver s.rb.length
    | .inService => slRxDeliver s.rb.length
    | _ => pure ()
  else
    pure ()

end Reception

section Start

def slRcStart : SlM Unit := do
  let s ← get
  if s.rcState = .idle then
    modify fun s =>
      { s with
        accepted := []
        rxXFsn := 0
        rxXFib := s.ibMask
        rxFFsn := 0
        rxTFsn := s.snMask
        rtr := false
        msuFisuAccepted := decide (s.option.pvar = SS7_PVAR_ANSI_92)
        abnormalBsnr := false
        abnormalFibr := false
        congestionDiscard := false
        congestionAccept := false }
    sdtReq .daedrStart
    modify fun s => { s with rcState := .inService }
  else
    pure ()

/-- The numbers and flags that `sl_txc_start` sets. -/
def Sl.txcReset (s : Sl) : Sl :=
  let snMask := if s.option.xsn then 0x7fff else 0x7f
  let ibMask := if s.option.xsn then 0x8000 else 0x80
  { s with
    forcedRetransmission := false
    sibReceived := false
    Ct := 0
    rtbFull := false
    clearRtb := false
    txSio := if s.option.isAnsi then .sios else s.txSio
    lssuAvailable := s.option.isAnsi || s.lssuAvailable
    msuInhibited := false
    snMask := snMask
    ibMask := ibMask
    txLFsn := snMask
    txNFsn := snMask
    txXFsn := 0
    txNFib := ibMask
    txNBib := ibMask
    txFFsn := 0
    Cm := 0
    Z := 0
    zPtr := none
    submitted := []
    released := []
    acked := 0
    underrun := false
    crossed := false
    reopened := false }

def slTxcStart : SlM Unit := do
  modify Sl.txcReset
  let s ← get
  if s.txcState = .idle then
    modify fun s =>
      { s with lssuAvailable := s.option.isAnsi && s.lssuAvailable }
    sdtReq .daedtStart
  modify fun s => { s with txcState := .sleeping }

def slIacEmergency : SlM Unit := do
  let s ← get
  match s.iacState with
  | .proving =>
      slTxcSendSie
      modify fun s => { s with t4 := false, t4v := s.config.t4e }
      sdtReq .aermStop
      sdtReq .aermSetTiToTie
      sdtReq .aermStart
      modify fun s => { s with t4 := true, furtherProving := false }
  | .aligned =>
      slTxcSendSie
      modify fun s => { s with t4v := s.config.t4e }
  | _ => modify fun s => { s with emergency := true }

def slIacStart : SlM Unit := do
  let s ← get
  if s.iacState = .idle then
    slTxcSendSio
    modify fun s => { s with t2 := true, iacState := .notAligned }
  else
    pure ()

def slLscStart : SlM Unit := do
  let s ← get
  if s.lscState = .outOfService then
    slRcStart
    slTxcStart
    let s ← get
    if s.emergency then
      slIacEmergency
    slIacStart
    modify fun s => { s with lscState := .initialAlignment }
  else
    pure ()

def slLscPowerOn : SlM Unit := do
  let s ← get
  if s.lscState = .powerOff then
    slTxcStart
    slTxcSendSios
    sdtReq .aermSetTiToTin
    modify fun s =>
      { s with
        localProcessorOutage := false
        emergency := false
        lscState := .outOfService }
  else
    pure ()

end Start

section Submission

def slTxcMessageForTransmission (m : Msu) : SlM Unit := do
  modify fun s =>
    { s with
      tb := s.tb ++ [m]
      Cm := s.Cm + 1
      submitted := s.submitted ++ [m.sdu] }
  tryCatch slCheckCongestion fun e => do
    -- `bufq_unlink`: the message goes back to the sender
    modify fun s =>
      { s with
        tb := s.tb.eraseP fun m' => m'.id == m.id
        Cm := s.Cm - 1
        submitted := s.submitted.dropLast }
    throw e
  slDaedtTransmitterWakeup

/-- The header that `sl_lsc_pdu` puts in front of a message. -/
def Options.blankHeader (option : Options) (priority : Nat) : List UInt8 :=
  List.replicate (option.hlen - 1) (0 : UInt8) ++
    [if option.pvar &&& SS7_PVAR_MASK = SS7_PVAR_JTTC then
      (priority <<< 6).toUInt8 else 0]

/-- `sl_lsc_pdu` of a message at `id`; `headroom` tells whether its block
has room for the header in front. -/
def slLscPdu (id : Nat) (sdu : List UInt8) (priority : Nat)
    (headroom : Bool) : SlM Unit := do
  let s ← get
  let m : Msu :=
    { id := id
      hdr := s.option.blankHeader priority
      sdu := sdu
      idx := s.submitted.length
      fsn := 0 }
  if headroom then
    slTxcMessageForTransmission m
  else if ← suAlloc then
    slTxcMessageForTransmission m
  else
    throw .ENOBUFS

end Submission

section Retrieval

def slRcRetrieveBsnt : SlM Unit := do
  modify fun s => { s with rxTBsn := s.pred s.rxXFsn &&& 0x7f }
  let s ← get
  ind (.bsnt s.rxTBsn)

def slLscRetrieveBsnt : SlM Unit := do
  let s ← get
  match s.lscState with
  | .outOfService | .processorOutage => slRcRetrieveBsnt
  | _ => pure ()

/-- The messages acknowledged by `fsnc` leave `rtb`, unless it runs empty
first. -/
def Sl.freeRetrieved (fsnc : Nat) : Nat → Sl → Sl
  | 0, s => s
  | fuel + 1, s =>
      if qCount s.rtb ≠ 0 ∧ s.txFFsn ≠ s.succ fsnc then
        freeRetrieved fsnc fuel s.freeOne
      else s

/-- The messages of `rtb` go up one by one. -/
def slTxcRetrieve : Nat → SlM Unit
  | 0 => pure ()
  | fuel + 1 => do
      let s ← get
      match s.rtb with
      | [] => pure ()
      | m :: rest =>
          modify fun s => { s with rtb := rest, Ct := s.Ct - 1 }
          ind (.retrievedMessage (m.hdr ++ m.sdu))
          slTxcRetrieve fuel

def slTxcRetrievalRequestAndFsnc (fsnc : Nat) : SlM Unit := do
  modify fun s => { s with txCFsn := s.masked fsnc }
  modify fun s => s.freeRetrieved fsnc s.rtb.length
  modify fun s =>
    { s with
      tb := []
      Cm := s.Cm - s.tb.length
      rtb := s.rtb ++ s.tb
      Ct := s.Ct + s.tb.length }
  modify fun s =>
    { s with txFFsn := s.succ s.txCFsn, Z := s.succ s.txCFsn }
  let s ← get
  slTxcRetrieve s.rtb.length
  modify fun s => { s with rtbFull := false }
  ind .retrievalComplete
  modify fun s =>
    { s with Cm := 0, Ct := 0, txNFsn := s.txCFsn, txLFsn := s.txCFsn }

def slLscRetrievalRequestAndFsnc (fsnc : Nat) : SlM Unit := do
  let s ← get
  match s.lscState with
  | .outOfService | .processorOutage => slTxcRetrievalRequestAndFsnc fsnc
  | _ => pure ()

end Retrieval

section Events

inductive Event where
  | pdu (id : Nat) (sdu : List UInt8) (priority : Nat) (headroom : Bool)
  | transmissionRequest
  | txWakeup
  | signalUnit (octets : List UInt8)
  | rxWakeup
  | congestionDiscard
  | congestionAccept
  | noCongestion
  | t1Timeout
  | t2Timeout
  | t3Timeout
  | t4Timeout
  | t5Timeout
  | t6Timeout
  | t7Timeout
  | errorRate
deriving DecidableEq

def Event.program : Event → SlM Unit
  | .pdu id sdu priority headroom => slLscPdu id sdu priority headroom
  | .transmissionRequest => do let _ ← transmit
  | .txWakeup => slTxWakeup
  | .signalUnit octets => slRcSignalUnit octets
  | .rxWakeup => slRxWakeup
  | .congestionDiscard => slLscCongestionDiscard
  | .congestionAccept => slLscCongestionAccept
  | .noCongestion => slLscNoCongestion
  | .t1Timeout => slT1Timeout
  | .t2Timeout => slT2Timeout
  | .t3Timeout => slT3Timeout
  | .t4Timeout => slT4Timeout
  | .t5Timeout => slT5Timeout
  | .t6Timeout => slT6Timeout
  | .t7Timeout => slT7Timeout
  | .errorRate => slLscLinkFailure SL_FAIL_SUERM_EIM

def Sl.enter (s : Sl) (env : Env) : Sl :=
  { s with env := env, sent := [], inds := [], reqs := [] }

def Sl.handle (s : Sl) (env : Env) (event : Event) : Sl :=
  event.program.after (s.enter env)

def Sl.start (s : Sl) (env : Env) : Sl := slLscStart.after (s.enter env)

def Sl.run (s : Sl) (events : List (Env × Event)) : Sl :=
  events.foldl (fun s e => s.handle e.1 e.2) s

def Sl.poweredOn (option : Options) (config : Config) : Sl :=
  slLscPowerOn.after (.allocated option config (.taking 0))

def alignment : List (Env × Event) :=
  [(.taking 2, .signalUnit [0xff, 0xff, 1, 0]),
    (.taking 2, .signalUnit [0xff, 0xff, 1, 1]),
    (.taking 2, .t4Timeout),
    (.taking 2, .signalUnit [0xff, 0xff, 0])]

end Events

end OpenSS7.Mtp2
