import OpenSS7.Mtp2.Transmission

/-!
Link state control, initial alignment control, processor outage control and
congestion control: what they do on received status units, on timer expiry
and on requests of level three.
-/

namespace OpenSS7.Mtp2

def SL_FAIL_CONG_TIMEOUT : Nat := 0x0002
def SL_FAIL_ACK_TIMEOUT : Nat := 0x0004
def SL_FAIL_ABNORMAL_BSNR : Nat := 0x0008
def SL_FAIL_ABNORMAL_FIBR : Nat := 0x0010
def SL_FAIL_SUERM_EIM : Nat := 0x0020
def SL_FAIL_ALIGNMENT_NOT_POSSIBLE : Nat := 0x0040
def SL_FAIL_RECEIVED_SIO : Nat := 0x0080
def SL_FAIL_RECEIVED_SIN : Nat := 0x0100
def SL_FAIL_RECEIVED_SIE : Nat := 0x0200
def SL_FAIL_RECEIVED_SIOS : Nat := 0x0400
def SL_FAIL_T1_TIMEOUT : Nat := 0x0800

section Stopping

/-- `sl_cc_normal`, also under the name `sl_cc_stop`. -/
def slCcNormal : SlM Unit :=
  modify fun s => { s with ccState := .normal }

def slRcStop : SlM Unit := do
  slCcNormal
  modify fun s => { s with rcState := .idle }

def slIacStop : SlM Unit := do
  let s ← get
  if s.iacState ≠ .idle then
    modify fun s => { s with t2 := false, t3 := false, t4 := false }
    sdtReq .aermStop
    modify fun s => { s with emergency := false, iacState := .idle }
  else
    pure ()

def slPocStop : SlM Unit :=
  modify fun s => { s with pocState := .idle }

def outOfService (s : Sl) : Sl :=
  { s with
    emergency := false
    localProcessorOutage := false
    remoteProcessorOutage := false
    lscState := .outOfService }

def slLscLinkFailure (reason : Nat) : SlM Unit := do
  let s ← get
  if s.lscState ≠ .outOfService then
    ind (.outOfService reason)
    modify fun s => { s with failureReason := reason }
    slIacStop
    modify fun s => { s with t1 := false }
    sdtReq .suermStop
    slRcStop
    slTxcSendSios
    slPocStop
    modify outOfService
  else
    pure ()

def slLscStop : SlM Unit := do
  let s ← get
  if s.lscState ≠ .outOfService then
    slIacStop
    modify fun s => { s with t1 := false }
    slRcStop
    sdtReq .suermStop
    slPocStop
    slTxcSendSios
    modify outOfService
  else
    pure ()

def slLscAlignmentNotPossible : SlM Unit := do
  ind (.outOfService SL_FAIL_ALIGNMENT_NOT_POSSIBLE)
  modify fun s =>
    { s with failureReason := SL_FAIL_ALIGNMENT_NOT_POSSIBLE }
  slRcStop
  slTxcSendSios
  modify fun s =>
    { s with
      localProcessorOutage := false
      emergency := false
      lscState := .outOfService }

/-- `sl_out_of_service_ind` where the caller ignores its result. -/
def outOfServiceInd (reason : Nat) : SlM Unit := do
  tryCatch (ind (.outOfService reason)) fun _ => pure ()
  modify fun s => { s with failureReason := reason }

end Stopping

section Received

def slLscSio : SlM Unit := do
  let s ← get
  match s.lscState with
  | .outOfService | .initialAlignment => pure ()
  | _ =>
      modify fun s => { s with t1 := false }
      outOfServiceInd SL_FAIL_RECEIVED_SIO
      slRcStop
      sdtReq .suermStop
      slPocStop
      slTxcSendSios
      modify outOfService

def slIacSio : SlM Unit := do
  let s ← get
  match s.iacState with
  | .notAligned =>
      if s.emergency then
        modify fun s => { s with t2 := false, t4v := s.config.t4e }
        slTxcSendSie
      else
        modify fun s => { s with t2 := false, t4v := s.config.t4n }
        slTxcSendSin
      modify fun s => { s with t3 := true, iacState := .aligned }
  | .proving =>
      modify fun s => { s with t4 := false }
      sdtReq .aermStop
      modify fun s => { s with t3 := true, iacState := .aligned }
  | _ => pure ()

/-- What `sl_lsc_sios` does once timer t1 does not run. -/
def failSios : SlM Unit := do
  outOfServiceInd SL_FAIL_RECEIVED_SIOS
  sdtReq .suermStop
  slRcStop
  slPocStop
  slTxcSendSios
  modify outOfService

def slLscSios : SlM Unit := do
  let s ← get
  match s.lscState with
  | .alignedReady | .alignedNotReady =>
      modify fun s => { s with t1 := false }
      failSios
  | .inService | .processorOutage => failSios
  | _ => pure ()

def slIacSios : SlM Unit := do
  let s ← get
  match s.iacState with
  | .aligned | .proving =>
      modify fun s => { s with t4 := false }
      slLscAlignmentNotPossible
      sdtReq .aermStop
      modify fun s =>
        { s with t3 := false, emergency := false, iacState := .idle }
  | _ => pure ()

/-- `sl_lsc_sin` and `sl_lsc_sie`, which differ in the reason given. -/
def slLscSinSie (reason : Nat) : SlM Unit := do
  let s ← get
  match s.lscState with
  | .inService =>
      outOfServiceInd reason
      sdtReq .suermStop
      slRcStop
      slTxcSendSios
      modify fun s => { s with emergency := false, lscState := .outOfService }
  | .processorOutage =>
      outOfServiceInd reason
      sdtReq .suermStop
      slRcStop
      slPocStop
      slTxcSendSios
      modify outOfService
  | _ => pure ()

def slLscSin : SlM Unit := slLscSinSie SL_FAIL_RECEIVED_SIN
def slLscSie : SlM Unit := slLscSinSie SL_FAIL_RECEIVED_SIE

def startProving : SlM Unit := do
  sdtReq .aermStart
  modify fun s =>
    { s with t4 := true, furtherProving := false, Cp := 0, iacState := .proving }

def slIacSin : SlM Unit := do
  let s ← get
  match s.iacState with
  | .notAligned =>
      if s.emergency then
        modify fun s => { s with t2 := false, t4v := s.config.t4e }
        slTxcSendSie
      else
        modify fun s => { s with t2 := false, t4v := s.config.t4n }
        slTxcSendSin
      modify fun s => { s with t3 := true, iacState := .aligned }
  | .aligned =>
      modify fun s => { s with t3 := false }
      if s.t4v = s.config.t4e then
        sdtReq .aermSetTiToTie
      startProving
  | _ => pure ()

def slIacSie : SlM Unit := do
  let s ← get
  match s.iacState with
  | .notAligned =>
      modify fun s => { s with t2 := false, t4v := s.config.t4e }
      if s.emergency then slTxcSendSie else slTxcSendSin
      modify fun s => { s with t3 := true, iacState := .aligned }
  | .aligned =>
      modify fun s => { s with t3 := false, t4v := s.config.t4e }
      sdtReq .aermSetTiToTie
      startProving
  | .proving =>
      if s.t4v = s.config.t4e then
        pure ()
      else
        modify fun s => { s with t4 := false, t4v := s.config.t4e }
        sdtReq .aermStop
        sdtReq .aermSetTiToTie
        sdtReq .aermStart
        modify fun s => { s with t4 := true, furtherProving := false }
  | _ => pure ()

def slLscNoProcessorOutage : SlM Unit := do
  let s ← get
  if s.lscState = .processorOutage then
    modify fun s => { s with processorOutage := false }
    if s.l3IndicationReceived then
      modify fun s => { s with l3IndicationReceived := false }
      slTxcSendMsu
      modify fun s =>
        { s with
          localProcessorOutage := false
          msuFisuAccepted := true
          lscState := .inService }
    else
      pure ()
  else
    pure ()

def slPocRemoteProcessorRecovered : SlM Unit := do
  let s ← get
  match s.pocState with
  | .remoteProcessorOutage =>
      slLscNoProcessorOutage
      modify fun s => { s with pocState := .idle }
  | .bothProcessorsOut =>
      modify fun s => { s with pocState := .localProcessorOutage }
  | _ => pure ()

def slPocRemoteProcessorOutage : SlM Unit :=
  modify fun s =>
    match s.pocState with
    | .idle => { s with pocState := .remoteProcessorOutage }
    | .localProcessorOutage => { s with pocState := .bothProcessorsOut }
    | _ => s

def slPocLocalProcessorOutage : SlM Unit :=
  modify fun s =>
    match s.pocState with
    | .idle => { s with pocState := .localProcessorOutage }
    | .remoteProcessorOutage => { s with pocState := .bothProcessorsOut }
    | _ => s

def slLscFisuMsuReceived : SlM Unit := do
  let s ← get
  match s.lscState with
  | .alignedReady =>
      ind .inService
      modify fun s =>
        { s with
          msuFisuAccepted :=
            s.msuFisuAccepted || decide (s.option.pvar = SS7_PVAR_ITUT_93)
          t1 := false }
      slTxcSendMsu
      modify fun s => { s with lscState := .inService }
  | .alignedNotReady =>
      ind .inService
      modify fun s => { s with t1 := false, lscState := .processorOutage }
  | .processorOutage =>
      if s.option.isAnsi then
        if s.remoteProcessorOutage then
          modify fun s => { s with remoteProcessorOutage := false }
          ind .remoteProcessorRecovered
        else
          pure ()
      else
        slPocRemoteProcessorRecovered
        ind .remoteProcessorRecovered
  | _ => pure ()

def slLscSib : SlM Unit := do
  let s ← get
  match s.lscState with
  | .inService | .processorOutage => slTxcSibReceived
  | _ => pure ()

/-- The record that `sl_lsc_sipo` makes of the outage, which depends on the
variant. -/
def recordRemoteOutage (ansi : Bool) : SlM Unit :=
  if ansi then
    modify fun s => { s with remoteProcessorOutage := true }
  else
    slPocRemoteProcessorOutage

/-- What `sl_lsc_sipo` does on an aligned link. -/
def sipoAligned (ansi : Bool) : SlM Unit := do
  ind .remoteProcessorOutage
  recordRemoteOutage ansi
  modify fun s => { s with t1 := false, lscState := .processorOutage }

def slLscSipo : SlM Unit := do
  let s ← get
  match s.lscState with
  | .alignedReady =>
      modify fun s => { s with t1 := false }
      sipoAligned s.option.isAnsi
  | .alignedNotReady => sipoAligned s.option.isAnsi
  | .inService =>
      slTxcSendFisu
      ind .remoteProcessorOutage
      recordRemoteOutage s.option.isAnsi
      if s.option.isAnsi then
        slTxcFsnxValue
        slCcNormal
      else
        modify fun s => { s with processorOutage := true }
      modify fun s => { s with lscState := .processorOutage }
  | .processorOutage =>
      if s.option.isAnsi then
        if s.remoteProcessorOutage then
          pure ()
        else
          modify fun s => { s with remoteProcessorOutage := true }
          ind .remoteProcessorOutage
      else
        ind .remoteProcessorOutage
        slPocRemoteProcessorOutage
  | _ => pure ()

end Received

section Congestion

def slCcBusy : SlM Unit := do
  let s ← get
  if s.ccState = .normal then
    slTxcSendSib
    modify fun s => { s with ccState := .busy }
  else
    pure ()

def slRcCongestionDiscard : SlM Unit := do
  modify fun s => { s with congestionDiscard := true }
  slCcBusy

def slRcCongestionAccept : SlM Unit := do
  modify fun s => { s with congestionAccept := true }
  slCcBusy

/-- `rx.X.fib ? 0 : ib_mask` -/
def Sl.flippedFib (s : Sl) : Nat := if s.rxXFib ≠ 0 then 0 else s.ibMask

def slRcNoCongestion : SlM Unit := do
  modify fun s => { s with congestionDiscard := false, congestionAccept := false }
  slCcNormal
  slTxcFsnxValue
  let s ← get
  if s.rtr then
    slTxcNackToBeSent
    modify fun s => { s with rxXFib := s.flippedFib }
  else
    pure ()

def slLscCongestionDiscard : SlM Unit := do
  slRcCongestionDiscard
  modify fun s => { s with l3CongestionDetect := true }

def slLscCongestionAccept : SlM Unit := do
  slRcCongestionAccept
  modify fun s => { s with l3CongestionDetect := true }

def slLscNoCongestion : SlM Unit := do
  slRcNoCongestion
  modify fun s => { s with l3CongestionDetect := false }

def slRbCongestionFunction : SlM Unit := do
  let s ← get
  if s.l3CongestionDetect then
    pure ()
  else if s.l2CongestionDetect then
    if s.Cr ≤ s.config.rbAbate then
      if ← canputnextOq then
        slRcNoCongestion
        modify fun s => { s with l2CongestionDetect := false }
      else
        pure ()
    else
      pure ()
  else if s.config.rbDiscard ≤ s.Cr ∨ s.env.canputOq = false then
    slRcCongestionDiscard
    modify fun s => { s with l2CongestionDetect := true }
  else if s.config.rbAccept ≤ s.Cr then
    slRcCongestionAccept
    modify fun s => { s with l2CongestionDetect := true }
  else
    if ← canputnextOq then
      pure ()
    else
      slRcCongestionAccept
      modify fun s => { s with l2CongestionDetect := true }

end Congestion

section Timers

def slLscAlignmentComplete : SlM Unit := do
  let s ← get
  if s.lscState = .initialAlignment then
    sdtReq .suermStart
    if s.localProcessorOutage then
      if s.option.pvar ≠ SS7_PVAR_ANSI_92 then
        slPocLocalProcessorOutage
      slTxcSendSipo
      modify fun s =>
        { s with
          t1 := true
          msuFisuAccepted :=
            if s.option.pvar ≠ SS7_PVAR_ITUT_93 then false
            else s.msuFisuAccepted
          lscState := .alignedNotReady }
    else
      slTxcSendMsu
      modify fun s =>
        { s with
          t1 := true
          msuFisuAccepted := true
          lscState := .alignedReady }
  else
    pure ()

def slT1Timeout : SlM Unit := do
  ind (.outOfService SL_FAIL_T1_TIMEOUT)
  modify fun s => { s with failureReason := SL_FAIL_T1_TIMEOUT }
  slRcStop
  sdtReq .suermStop
  slTxcSendSios
  modify fun s => { s with emergency := false }
  modify fun s =>
    if s.lscState = .alignedNotReady then
      { s with pocState := .idle, localProcessorOutage := false }
    else s
  modify fun s => { s with lscState := .outOfService }

/-- `sl_t2_timeout` and `sl_t3_timeout`. -/
def alignmentTimeout (state : IacState) : SlM Unit := do
  let s ← get
  if s.iacState = state then
    slLscAlignmentNotPossible
    modify fun s => { s with emergency := false, iacState := .idle }
  else
    pure ()

def slT2Timeout : SlM Unit := alignmentTimeout .notAligned
def slT3Timeout : SlM Unit := alignmentTimeout .aligned

def slT4Timeout : SlM Unit := do
  let s ← get
  if s.iacState = .proving then
    if s.furtherProving then
      sdtReq .aermStart
      modify fun s => { s with t4 := true, furtherProving := false }
    else
      slLscAlignmentComplete
      sdtReq .aermStop
      modify fun s => { s with emergency := false, iacState := .idle }
  else
    pure ()

def slT5Timeout : SlM Unit := do
  let s ← get
  if s.ccState = .busy then slTxcSendSib else pure ()

def slT6Timeout : SlM Unit := do
  slLscLinkFailure SL_FAIL_CONG_TIMEOUT
  modify fun s => { s with sibReceived := false }

def slT7Timeout : SlM Unit := do
  slLscLinkFailure SL_FAIL_ACK_TIMEOUT
  modify fun s =>
    { s with sibReceived :=
        if s.option.pvar = SS7_PVAR_ITUT_96 then false else s.sibReceived }

end Timers

end OpenSS7.Mtp2
