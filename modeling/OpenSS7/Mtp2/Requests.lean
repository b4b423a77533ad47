import OpenSS7.Mtp2.Reception

/-!
The other requests of level three, the indications of the signal data
terminal to alignment control, and all that a module handles from the moment
it is opened.
-/

namespace OpenSS7.Mtp2

section Buffers

def slTxcClearRtb : SlM Unit := do
  modify fun s =>
    { s with
      rtb := []
      Ct := 0
      clearRtb := true
      rtbFull := false
      released := s.released ++ s.rtb }
  slCheckCongestion

/-- `sl_txc_clear_tb`, with `flushq(iq)`. -/
def slTxcClearTb : SlM Unit := do
  modify fun s =>
    { s with tb := [], Cm := 0, env := { s.env with iqCount := 0 } }
  slCheckCongestion

def slTxcFlushBuffers : SlM Unit :=
  modify fun s =>
    { s with
      rtb := []
      rtbFull := false
      Ct := 0
      tb := []
      env := { s.env with iqCount := 0 }
      Cm := 0
      zPtr := none
      Z := s.succ s.txRBsn
      txFFsn := s.succ s.txRBsn
      txLFsn := s.rxRBsn
      rxTFsn := s.rxRBsn
      released := s.released ++ s.rtb }

def slRcClearRb : SlM Unit := do
  modify fun s => { s with rb := [], Cr := 0 }
  ind .rbCleared

def slLscClearRtb : SlM Unit := do
  let s ← get
  if s.lscState = .processorOutage then
    modify fun s => { s with localProcessorOutage := false }
    slTxcSendFisu
    slTxcClearRtb
  else
    pure ()

/-- `sl_lsc_clear_buffers`, also under the name `sl_lsc_flush_buffers`. -/
def slLscClearBuffers : SlM Unit := do
  let s ← get
  match s.lscState with
  | .outOfService | .initialAlignment =>
      if s.option.isAnsi then
        ind .rtbCleared
        modify fun s => { s with localProcessorOutage := false }
      else
        pure ()
  | .alignedNotReady =>
      if s.option.isAnsi then
        ind .rtbCleared
        modify fun s => { s with localProcessorOutage := false }
        slTxcSendFisu
        modify fun s => { s with lscState := .alignedReady }
      else
        pure ()
  | .processorOutage =>
      if s.option.isAnsi then
        modify fun s => { s with localProcessorOutage := false }
        slRcClearRb
        modify fun s => { s with msuFisuAccepted := true }
        slTxcSendFisu
        slTxcClearTb
        slTxcClearRtb
      else
        slTxcFlushBuffers
        modify fun s => { s with l3IndicationReceived := true }
        if s.processorOutage then
          pure ()
        else
          modify fun s => { s with l3IndicationReceived := false }
          slTxcSendMsu
          modify fun s =>
            { s with
              localProcessorOutage := false
              msuFisuAccepted := true
              lscState := .inService }
  | _ => pure ()

end Buffers

section Outage

def slPocLocalProcessorRecovered : SlM Unit := do
  let s ← get
  match s.pocState with
  | .localProcessorOutage =>
      slLscNoProcessorOutage
      modify fun s => { s with pocState := .idle }
  | .bothProcessorsOut =>
      modify fun s => { s with pocState := .remoteProcessorOutage }
  | _ => pure ()

def slRcRetrieveFsnx : SlM Unit := do
  slTxcFsnxValue
  modify fun s => { s with congestionDiscard := false, congestionAccept := false }
  slCcNormal
  modify fun s => { s with rtr := false }

/-- `sl_lsc_local_processor_recovered`, also under the name
`sl_lsc_resume`. -/
def slLscLocalProcessorRecovered : SlM Unit := do
  let s ← get
  match s.lscState with
  | .outOfService | .initialAlignment =>
      modify fun s => { s with localProcessorOutage := false }
  | .alignedNotReady =>
      if s.option.pvar ≠ SS7_PVAR_ANSI_92 then
        slPocLocalProcessorRecovered
      modify fun s => { s with localProcessorOutage := false }
      slTxcSendFisu
      modify fun s =>
        { s with
          msuFisuAccepted :=
            s.msuFisuAccepted || decide (s.option.pvar = SS7_PVAR_ITUT_96)
          lscState := .alignedReady }
  | .processorOutage =>
      if s.option.isAnsi then
        modify fun s =>
          { s with localProcessorOutage := false, msuFisuAccepted := true }
        if s.remoteProcessorOutage then
          slTxcSendFisu
          tryCatch (ind .remoteProcessorOutage) fun _ => pure ()
        else
          slTxcSendMsu
          modify fun s => { s with lscState := .inService }
      else
        slPocLocalProcessorRecovered
        slRcRetrieveFsnx
        slTxcSendFisu
        modify fun s => { s with lscState := .inService }
  | _ => pure ()

/-- The record that `sl_lsc_local_processor_outage` makes of the outage,
which depends on the variant. -/
def recordLocalOutage (ansi92 : Bool) : SlM Unit :=
  if ansi92 then
    modify fun s => { s with localProcessorOutage := true }
  else
    slPocLocalProcessorOutage

/-- `sl_lsc_local_processor_outage`, also under the name
`sl_lsc_level_3_failure`. -/
def slLscLocalProcessorOutage : SlM Unit := do
  let s ← get
  let ansi92 := decide (s.option.pvar = SS7_PVAR_ANSI_92)
  match s.lscState with
  | .outOfService | .initialAlignment =>
      modify fun s => { s with localProcessorOutage := true }
  | .alignedReady =>
      recordLocalOutage ansi92
      slTxcSendSipo
      modify fun s =>
        { s with
          msuFisuAccepted :=
            if s.option.pvar ≠ SS7_PVAR_ITUT_93 then false
            else s.msuFisuAccepted
          lscState := .alignedNotReady }
  | .inService =>
      recordLocalOutage ansi92
      modify fun s => { s with processorOutage := s.processorOutage || !ansi92 }
      slTxcSendSipo
      modify fun s => { s with msuFisuAccepted := false }
      if ansi92 then
        slTxcFsnxValue
        slCcNormal
      modify fun s => { s with lscState := .processorOutage }
  | .processorOutage =>
      recordLocalOutage ansi92
      slTxcSendSipo
  | _ => pure ()

end Outage

section Alignment

def slLscEmergency : SlM Unit := do
  slIacEmergency
  modify fun s => { s with emergency := true }

def slLscEmergencyCeases : SlM Unit :=
  modify fun s => { s with emergency := false }

def slIacCorrectSu : SlM Unit := do
  let s ← get
  if s.iacState = .proving ∧ s.furtherProving then
    modify fun s => { s with t4 := false }
    sdtReq .aermStart
    modify fun s => { s with t4 := true, furtherProving := false }
  else
    pure ()

def slIacAbortProving : SlM Unit := do
  let s ← get
  if s.iacState = .proving then
    modify fun s => { s with Cp := s.Cp + 1 }
    if s.Cp + 1 = s.config.M then
      slLscAlignmentNotPossible
      modify fun s => { s with t4 := false }
      sdtReq .aermStop
      modify fun s => { s with emergency := false, iacState := .idle }
    else
      modify fun s => { s with furtherProving := true }
  else
    pure ()

end Alignment

section Primitives

/-- `ss7_do_timeout`: a running timer runs out. It stops before its handler
is called and is started again when the handler lacks a buffer. -/
def expire (runs : Sl → Bool) (set : Bool → Sl → Sl) (timeout : SlM Unit) :
    SlM Unit := do
  let s ← get
  if runs s then
    modify (set false)
    tryCatch timeout fun e => do
      modify (set true)
      throw e
  else
    pure ()

inductive Timer where
  | t1
  | t2
  | t3
  | t4
deriving DecidableEq

def Timer.runs (timer : Timer) (s : Sl) : Bool :=
  match timer with
  | .t1 => s.t1
  | .t2 => s.t2
  | .t3 => s.t3
  | .t4 => s.t4

def Timer.set (timer : Timer) (running : Bool) (s : Sl) : Sl :=
  match timer with
  | .t1 => { s with t1 := running }
  | .t2 => { s with t2 := running }
  | .t3 => { s with t3 := running }
  | .t4 => { s with t4 := running }

def Timer.timeout : Timer → SlM Unit
  | .t1 => slT1Timeout
  | .t2 => slT2Timeout
  | .t3 => slT3Timeout
  | .t4 => slT4Timeout

def Event.timer : Event → Option Timer
  | .t1Timeout => some .t1
  | .t2Timeout => some .t2
  | .t3Timeout => some .t3
  | .t4Timeout => some .t4
  | _ => none

inductive Primitive where
  | event (event : Event)
  | powerOnReq
  | startReq
  | stopReq
  | emergencyReq
  | emergencyCeasesReq
  | localProcessorOutageReq
  | resumeReq
  | clearBuffersReq
  | clearRtbReq
  | retrieveBsntReq
  | retrievalRequestAndFsncReq (fsnc : Nat)
  | correctSuInd
  | abortProvingInd
  | congestionAcceptInd
  | congestionDiscardInd
  | noCongestionInd
deriving DecidableEq

def Primitive.program : Primitive → SlM Unit
  | .event e =>
      match e.timer with
      | some timer => expire timer.runs timer.set timer.timeout
      | none => e.program
  | .powerOnReq => slLscPowerOn
  | .startReq => slLscStart
  | .stopReq => slLscStop
  | .emergencyReq => slLscEmergency
  | .emergencyCeasesReq => slLscEmergencyCeases
  | .localProcessorOutageReq => slLscLocalProcessorOutage
  | .resumeReq => slLscLocalProcessorRecovered
  | .clearBuffersReq => slLscClearBuffers
  | .clearRtbReq => slLscClearRtb
  | .retrieveBsntReq => slLscRetrieveBsnt
  | .retrievalRequestAndFsncReq fsnc => slLscRetrievalRequestAndFsnc fsnc
  | .correctSuInd => slIacCorrectSu
  | .abortProvingInd => slIacAbortProving
  | .congestionAcceptInd => slRcCongestionAccept
  | .congestionDiscardInd => slRcCongestionDiscard
  | .noCongestionInd => slRcNoCongestion

def Sl.perform (s : Sl) (env : Env) (primitive : Primitive) : Sl :=
  primitive.program.after (s.enter env)

def Sl.performAll (s : Sl) (primitives : List (Env × Primitive)) : Sl :=
  primitives.foldl (fun s p => s.perform p.1 p.2) s

end Primitives

end OpenSS7.Mtp2
