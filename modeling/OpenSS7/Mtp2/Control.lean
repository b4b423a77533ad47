import OpenSS7.Mtp2.Requests

/-!
Link state control, initial alignment control and processor outage control
without their buffers: a machine on the states and timers alone, which the
module follows step by step as long as no indication or request fails.
-/

namespace OpenSS7.Mtp2

open Program

structure Control where
  pvar : Nat
  config : Config
  lscState : LscState
  iacState : IacState
  rcState : RcState
  pocState : PocState
  localProcessorOutage : Bool
  remoteProcessorOutage : Bool
  processorOutage : Bool
  l3IndicationReceived : Bool
  msuInhibited : Bool
  msuFisuAccepted : Bool
  clearRtb : Bool
  emergency : Bool
  furtherProving : Bool
  t4v : Nat
  Cp : Nat
  t1 : Bool
  t2 : Bool
  t3 : Bool
  t4 : Bool
deriving DecidableEq

def Sl.control (s : Sl) : Control where
  pvar := s.option.pvar
  config := s.config
  lscState := s.lscState
  iacState := s.iacState
  rcState := s.rcState
  pocState := s.pocState
  localProcessorOutage := s.localProcessorOutage
  remoteProcessorOutage := s.remoteProcessorOutage
  processorOutage := s.processorOutage
  l3IndicationReceived := s.l3IndicationReceived
  msuInhibited := s.msuInhibited
  msuFisuAccepted := s.msuFisuAccepted
  clearRtb := s.clearRtb
  emergency := s.emergency
  furtherProving := s.furtherProving
  t4v := s.t4v
  Cp := s.Cp
  t1 := s.t1
  t2 := s.t2
  t3 := s.t3
  t4 := s.t4

namespace Control

def isAnsi (c : Control) : Bool :=
  decide (c.pvar &&& SS7_PVAR_MASK = SS7_PVAR_ANSI)

section Stopping

def rcStop (c : Control) : Control := { c with rcState := .idle }

def pocStop (c : Control) : Control := { c with pocState := .idle }

def iacStop (c : Control) : Control :=
  if c.iacState ≠ .idle then
    { c with
      t2 := false
      t3 := false
      t4 := false
      emergency := false
      iacState := .idle }
  else c

def outOfService (c : Control) : Control :=
  { c with
    emergency := false
    localProcessorOutage := false
    remoteProcessorOutage := false
    lscState := .outOfService }

def lscStop (c : Control) : Control :=
  if c.lscState ≠ .outOfService then
    { c.iacStop with t1 := false }.rcStop.pocStop.outOfService
  else c

def alignmentNotPossible (c : Control) : Control :=
  { c.rcStop with
    localProcessorOutage := false
    emergency := false
    lscState := .outOfService }

end Stopping

section Received

def lscSio (c : Control) : Control :=
  match c.lscState with
  | .outOfService | .initialAlignment => c
  | _ => { c with t1 := false }.rcStop.pocStop.outOfService

/-- The state aligned is reached from the state not aligned; the proving
period will be `t4v` long. -/
def becomesAligned (c : Control) (t4v : Nat) : Control :=
  { c with t2 := false, t3 := true, t4v := t4v, iacState := .aligned }

/-- The proving period of `sl_iac_sio` and `sl_iac_sin`. -/
def provingPeriod (c : Control) : Nat :=
  if c.emergency then c.config.t4e else c.config.t4n

def iacSio (c : Control) : Control :=
  match c.iacState with
  | .notAligned => c.becomesAligned c.provingPeriod
  | .proving => { c with t4 := false, t3 := true, iacState := .aligned }
  | _ => c

def lscSios (c : Control) : Control :=
  match c.lscState with
  | .alignedReady | .alignedNotReady =>
      { c with t1 := false }.rcStop.pocStop.outOfService
  | .inService | .processorOutage => c.rcStop.pocStop.outOfService
  | _ => c

def iacSios (c : Control) : Control :=
  match c.iacState with
  | .aligned | .proving =>
      { { c with t4 := false }.alignmentNotPossible with
        t3 := false, iacState := .idle }
  | _ => c

def lscSinSie (c : Control) : Control :=
  match c.lscState with
  | .inService =>
      { c.rcStop with emergency := false, lscState := .outOfService }
  | .processorOutage => c.rcStop.pocStop.outOfService
  | _ => c

def startProving (c : Control) : Control :=
  { c with
    t3 := false
    t4 := true
    furtherProving := false
    Cp := 0
    iacState := .proving }

def proveAgain (c : Control) : Control :=
  { c with t4 := true, furtherProving := false }

def proveInEmergency (c : Control) : Control :=
  { c with t4v := c.config.t4e }.proveAgain

def iacSin (c : Control) : Control :=
  match c.iacState with
  | .notAligned => c.becomesAligned c.provingPeriod
  | .aligned => c.startProving
  | _ => c

def iacSie (c : Control) : Control :=
  match c.iacState with
  | .notAligned => c.becomesAligned c.config.t4e
  | .aligned => { c with t4v := c.config.t4e }.startProving
  | .proving =>
      if c.t4v = c.config.t4e then c else c.proveInEmergency
  | _ => c

def noProcessorOutage (c : Control) : Control :=
  if c.lscState = .processorOutage then
    if c.l3IndicationReceived then
      { c with
        processorOutage := false
        l3IndicationReceived := false
        msuInhibited := false
        localProcessorOutage := false
        msuFisuAccepted := true
        lscState := .inService }
    else { c with processorOutage := false }
  else c

def pocRemoteProcessorRecovered (c : Control) : Control :=
  match c.pocState with
  | .remoteProcessorOutage => c.noProcessorOutage.pocStop
  | .bothProcessorsOut => { c with pocState := .localProcessorOutage }
  | _ => c

def pocRemoteProcessorOutage (c : Control) : Control :=
  match c.pocState with
  | .idle => { c with pocState := .remoteProcessorOutage }
  | .localProcessorOutage => { c with pocState := .bothProcessorsOut }
  | _ => c

def pocLocalProcessorOutage (c : Control) : Control :=
  match c.pocState with
  | .idle => { c with pocState := .localProcessorOutage }
  | .remoteProcessorOutage => { c with pocState := .bothProcessorsOut }
  | _ => c

def pocLocalProcessorRecovered (c : Control) : Control :=
  match c.pocState with
  | .localProcessorOutage => c.noProcessorOutage.pocStop
  | .bothProcessorsOut => { c with pocState := .remoteProcessorOutage }
  | _ => c

def fisuMsuReceived (c : Control) : Control :=
  match c.lscState with
  | .alignedReady =>
      { c with
        msuFisuAccepted :=
          c.msuFisuAccepted || decide (c.pvar = SS7_PVAR_ITUT_93)
        t1 := false
        msuInhibited := false
        lscState := .inService }
  | .alignedNotReady => { c with t1 := false, lscState := .processorOutage }
  | .processorOutage =>
      if c.isAnsi then { c with remoteProcessorOutage := false }
      else c.pocRemoteProcessorRecovered
  | _ => c

def recordRemoteOutage (c : Control) : Control :=
  if c.isAnsi then { c with remoteProcessorOutage := true }
  else c.pocRemoteProcessorOutage

def lscSipo (c : Control) : Control :=
  match c.lscState with
  | .alignedReady | .alignedNotReady =>
      { c.recordRemoteOutage with t1 := false, lscState := .processorOutage }
  | .inService =>
      { { c with msuInhibited := true }.recordRemoteOutage with
        processorOutage := c.processorOutage || !c.isAnsi
        lscState := .processorOutage }
  | .processorOutage => c.recordRemoteOutage
  | _ => c

def rtbCleared (c : Control) : Control :=
  if c.lscState = .processorOutage then
    if c.localProcessorOutage then { c with remoteProcessorOutage := false }
    else
      { c with
        remoteProcessorOutage := false
        msuInhibited := false
        lscState := .inService }
  else c

def bsnrAndBibr (c : Control) : Control :=
  if c.clearRtb then { c.rtbCleared with clearRtb := false } else c

def status (c : Control) (status : Lssu) : Control :=
  match status with
  | .sio => c.lscSio.iacSio
  | .sin => c.lscSinSie.iacSin
  | .sie => c.lscSinSie.iacSie
  | .sios => c.lscSios.iacSios
  | .sipo => c.lscSipo
  | _ => c

end Received

section Requests

def alignmentComplete (c : Control) : Control :=
  if c.lscState = .initialAlignment then
    if c.localProcessorOutage then
      { (if c.pvar ≠ SS7_PVAR_ANSI_92 then c.pocLocalProcessorOutage else c) with
        t1 := true
        msuFisuAccepted :=
          if c.pvar ≠ SS7_PVAR_ITUT_93 then false else c.msuFisuAccepted
        lscState := .alignedNotReady }
    else
      { c with
        msuInhibited := false
        t1 := true
        msuFisuAccepted := true
        lscState := .alignedReady }
  else c

def t1Timeout (c : Control) : Control :=
  if c.lscState = .alignedNotReady then
    { c.rcStop.pocStop with
      emergency := false
      localProcessorOutage := false
      lscState := .outOfService }
  else { c.rcStop with emergency := false, lscState := .outOfService }

def alignmentTimeout (c : Control) (state : IacState) : Control :=
  if c.iacState = state then
    { c.alignmentNotPossible with iacState := .idle }
  else c

def t4Timeout (c : Control) : Control :=
  if c.iacState = .proving then
    if c.furtherProving then c.proveAgain
    else { c.alignmentComplete with emergency := false, iacState := .idle }
  else c

def expire (c : Control) (timer : Timer) : Control :=
  match timer with
  | .t1 => if c.t1 then { c with t1 := false }.t1Timeout else c
  | .t2 =>
      if c.t2 then { c with t2 := false }.alignmentTimeout .notAligned else c
  | .t3 => if c.t3 then { c with t3 := false }.alignmentTimeout .aligned else c
  | .t4 => if c.t4 then { c with t4 := false }.t4Timeout else c

def rcStart (c : Control) : Control :=
  if c.rcState = .idle then
    { c with
      msuFisuAccepted := decide (c.pvar = SS7_PVAR_ANSI_92)
      rcState := .inService }
  else c

def txcStart (c : Control) : Control :=
  { c with clearRtb := false, msuInhibited := false }

def iacStart (c : Control) : Control :=
  if c.iacState = .idle then { c with t2 := true, iacState := .notAligned }
  else c

def iacEmergency (c : Control) : Control :=
  match c.iacState with
  | .proving => c.proveInEmergency
  | .aligned => { c with t4v := c.config.t4e }
  | _ => { c with emergency := true }

def lscEmergency (c : Control) : Control :=
  { c.iacEmergency with emergency := true }

def lscEmergencyCeases (c : Control) : Control := { c with emergency := false }

def lscStart (c : Control) : Control :=
  if c.lscState = .outOfService then
    let started := c.rcStart.txcStart
    { (if c.emergency then started.iacEmergency else started).iacStart with
      lscState := .initialAlignment }
  else c

def powerOn (c : Control) : Control :=
  if c.lscState = .powerOff then
    { c.txcStart with
      localProcessorOutage := false
      emergency := false
      lscState := .outOfService }
  else c

def lscClearRtb (c : Control) : Control :=
  if c.lscState = .processorOutage then
    { c with
      localProcessorOutage := false
      msuInhibited := true
      clearRtb := true }
  else c

def lscClearBuffers (c : Control) : Control :=
  match c.lscState with
  | .outOfService | .initialAlignment =>
      if c.isAnsi then { c with localProcessorOutage := false } else c
  | .alignedNotReady =>
      if c.isAnsi then
        { c with
          localProcessorOutage := false
          msuInhibited := true
          lscState := .alignedReady }
      else c
  | .processorOutage =>
      if c.isAnsi then
        { c with
          localProcessorOutage := false
          msuFisuAccepted := true
          msuInhibited := true
          clearRtb := true }
      else if c.processorOutage then { c with l3IndicationReceived := true }
      else
        { c with
          l3IndicationReceived := false
          msuInhibited := false
          localProcessorOutage := false
          msuFisuAccepted := true
          lscState := .inService }
  | _ => c

def lscResume (c : Control) : Control :=
  match c.lscState with
  | .outOfService | .initialAlignment =>
      { c with localProcessorOutage := false }
  | .alignedNotReady =>
      let c := if c.pvar ≠ SS7_PVAR_ANSI_92 then c.pocLocalProcessorRecovered
        else c
      { c with
        localProcessorOutage := false
        msuInhibited := true
        msuFisuAccepted :=
          c.msuFisuAccepted || decide (c.pvar = SS7_PVAR_ITUT_96)
        lscState := .alignedReady }
  | .processorOutage =>
      if c.isAnsi then
        if c.remoteProcessorOutage then
          { c with
            localProcessorOutage := false
            msuFisuAccepted := true
            msuInhibited := true }
        else
          { c with
            localProcessorOutage := false
            msuFisuAccepted := true
            msuInhibited := false
            lscState := .inService }
      else
        { c.pocLocalProcessorRecovered with
          msuInhibited := true, lscState := .inService }
  | _ => c

def recordLocalOutage (c : Control) : Control :=
  if c.pvar = SS7_PVAR_ANSI_92 then { c with localProcessorOutage := true }
  else c.pocLocalProcessorOutage

def lscLocalProcessorOutage (c : Control) : Control :=
  match c.lscState with
  | .outOfService | .initialAlignment =>
      { c with localProcessorOutage := true }
  | .alignedReady =>
      { c.recordLocalOutage with
        msuFisuAccepted :=
          if c.pvar ≠ SS7_PVAR_ITUT_93 then false else c.msuFisuAccepted
        lscState := .alignedNotReady }
  | .inService =>
      { c.recordLocalOutage with
        processorOutage :=
          c.processorOutage || !decide (c.pvar = SS7_PVAR_ANSI_92)
        msuFisuAccepted := false
        lscState := .processorOutage }
  | .processorOutage => c.recordLocalOutage
  | _ => c

def iacCorrectSu (c : Control) : Control :=
  if c.iacState = .proving ∧ c.furtherProving then c.proveAgain else c

def iacAbortProving (c : Control) : Control :=
  if c.iacState = .proving then
    let counted := { c with Cp := c.Cp + 1 }
    if c.Cp + 1 = c.config.M then
      { counted.alignmentNotPossible with t4 := false, iacState := .idle }
    else { counted with furtherProving := true }
  else c

end Requests

inductive Input where
  | quiet
  | powerOn
  | start
  | stop
  | emergency
  | emergencyCeases
  | localProcessorOutage
  | resume
  | clearBuffers
  | clearRtb
  | correctSu
  | abortProving
  | status (status : Lssu)
  | acknowledged (taken : Bool)
  | abnormalBsnr
  | expire (timer : Timer)
deriving DecidableEq

def step (c : Control) : Input → Control
  | .quiet => c
  | .powerOn => c.powerOn
  | .start => c.lscStart
  | .stop => c.lscStop
  | .emergency => c.lscEmergency
  | .emergencyCeases => c.lscEmergencyCeases
  | .localProcessorOutage => c.lscLocalProcessorOutage
  | .resume => c.lscResume
  | .clearBuffers => c.lscClearBuffers
  | .clearRtb => c.lscClearRtb
  | .correctSu => c.iacCorrectSu
  | .abortProving => c.iacAbortProving
  | .status status => c.status status
  | .acknowledged taken =>
      (if taken then c.fisuMsuReceived else c).bsnrAndBibr
  | .abnormalBsnr => c.lscStop.rcStop
  | .expire timer => c.expire timer

end Control

section Inputs

def Sl.reading (s : Sl) (octets : List UInt8) : Control.Input :=
  let d := s.decode octets
  if s.rcState ≠ .inService then .quiet
  else if d.rxLen = 1 ∨ d.rxLen = 2 then .status d.rxSio
  else if SN_OUTSIDE (s.pred s.rxFFsn) d.rxRBsn s.rxTFsn then
    if s.abnormalBsnr then .abnormalBsnr else .quiet
  else if s.abnormalBsnr && !s.unb then .quiet
  else if s.option.pcr then .acknowledged true
  else if d.rxRFib = s.rxXFib then
    if s.abnormalFibr && !s.unf then .quiet else .acknowledged true
  else if s.abnormalFibr then .stop
  else if s.rtr then .acknowledged false
  else .quiet

def Sl.input (s : Sl) : Primitive → Control.Input
  | .event e =>
      match e.timer with
      | some timer => .expire timer
      | none =>
          match e with
          | .signalUnit octets => s.reading octets
          | .t6Timeout | .t7Timeout | .errorRate => .stop
          | _ => .quiet
  | .powerOnReq => .powerOn
  | .startReq => .start
  | .stopReq => .stop
  | .emergencyReq => .emergency
  | .emergencyCeasesReq => .emergencyCeases
  | .localProcessorOutageReq => .localProcessorOutage
  | .resumeReq => .resume
  | .clearBuffersReq => .clearBuffers
  | .clearRtbReq => .clearRtb
  | .correctSuInd => .correctSu
  | .abortProvingInd => .abortProving
  | _ => .quiet

end Inputs

end OpenSS7.Mtp2
