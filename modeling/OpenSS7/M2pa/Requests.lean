import OpenSS7.M2pa.LinkState

/-!
Requests of level three other than those that start and stop the link, and
the expiry of timers.
-/

namespace OpenSS7.M2pa

open Program

section Outage

def slLscEmergency : SlM Unit := do
  modify fun s => { s with flags.locEmerg := true }
  let s ← get
  if !s.nopr && (s.state = .proving || s.state = .aligned) then
    slSendProving .provingEmergency
  else
    throw .EPROTO

def slLscEmergencyCeases : SlM Unit :=
  modify fun s => { s with flags.locEmerg := false }

def slLscLocalProcessorOutage : SlM Unit := do
  let s ← get
  match s.state with
  | .powerOff | .outOfService | .notAligned | .aligned | .proving =>
      modify fun s =>
        { s with flags := { s.flags with waitSync := false, lpo := true } }
  | .alignedReady => do
      slSendStatus .processorOutage
      modify fun s =>
        { s with
          flags := { s.flags with
            waitSync := false
            lpo := true
            recvMsu := false }
          state := .alignedNotReady }
  | .inService => do
      slSendStatus .processorOutage
      modify fun s =>
        { s with flags := { s.flags with
            waitSync := false
            lpo := true
            recvMsu := false } }
      slOutageBegins
      modify fun s =>
        { s with
          state := .processorOutage
          slips := s.slips ++
            if !s.flags.sendMsu then [] else [.localOutage] }
  | .processorOutage => do
      when (!s.flags.lpo) (slSendStatus .processorOutage)
      modify fun s =>
        { s with flags := { s.flags with waitSync := false, lpo := true } }
  | .alignedNotReady => throw .EPROTO

def slOutageEnded : SlM Unit := do
  let s ← get
  when s.flags.lpo do
    slSendStatus .processorOutageEnded
    modify fun s =>
      { s with flags := { s.flags with
          waitSync := s.flags.waitSync || s.version.late
          lpo := false } }

/-- `sl_lsc_resume` in `MS_ALIGNED_NOT_READY`. -/
def slResumeAligned : SlM Unit := do
  modify fun s => { s with flags.lpo := false }
  let s ← get
  when (s.pvar ≠ SS7_PVAR_ANSI_92 ∧ !s.flags.rpo) slLscNoProcessorOutage
  when (s.pvar = SS7_PVAR_ITUT_96) do
    modify fun s =>
      { s with flags.recvMsu := true, slips := s.slips ++ [.resumed] }
  modify fun s => { s with flags.sendMsu := false, state := .alignedReady }

/-- `sl_lsc_resume` in `MS_PROCESSOR_OUTAGE`, but for the ANSI variant. -/
def slResumeItut : SlM Unit := do
  slOutageEnded
  let s ← get
  when (!s.flags.rpo) slLscNoProcessorOutage
  modify fun s =>
    { s with
      rack := s.rack + s.rmsu
      rmsu := 0
      flags := { s.flags with congDiscard := false, congAccept := false } }
  let s ← get
  when s.flags.locBusy (slSendStatus .busyEnded)
  modify fun s =>
    { s with flags := { s.flags with locBusy := false, sendMsu := false } }

def slResumeAnsi : SlM Unit := do
  slOutageEnded
  modify fun s => { s with flags.recvMsu := true }
  let s ← get
  if s.flags.rpo then
    modify fun s => { s with flags.sendMsu := false }
    ind .remoteProcessorOutage
  else
    modify fun s => { s with flags.sendMsu := true, state := .inService }

def slLscResume : SlM Unit := do
  let s ← get
  match s.state with
  | .powerOff | .outOfService | .notAligned | .aligned | .proving =>
      modify fun s => { s with flags.lpo := false }
  | .alignedReady => pure ()
  | .alignedNotReady => slResumeAligned
  | .processorOutage =>
      if s.pvar = SS7_PVAR_ANSI_92 then slResumeAnsi else slResumeItut
  | .inService => throw .EPROTO

end Outage

section Clearing

/-- The end of `sl_lsc_clear_rtb`: messages may be sent before the link is in
service. -/
def slRecovered : SlM Unit := do
  modify fun s =>
    { s with
      flags.sendMsu := true
      slips := s.slips ++
        if s.env.indMem.headD true then [] else [.recoveryUntold] }
  ind .remoteProcessorRecovered
  modify fun s => { s with state := .inService }

def slLscClearRtb : SlM Unit := do
  let s ← get
  if s.state = .processorOutage then
    modify fun s => s.purgeRtb false
    ind .rtbCleared
    slCheckCongestion
    modify fun s => { s with flags.lpo := false }
    when s.flags.rpo do
      notice .rpoEnd
      modify fun s => { s with flags.rpo := false }
    slRecovered
  else
    throw .EPROTO

/-- The end of `sl_lsc_clear_buffers`: the link comes into service. -/
def slBuffersCleared : SlM Unit :=
  modify fun s =>
    { s with
      flags := { s.flags with recvMsu := true, sendMsu := true, lpo := false }
      state := .inService }

/-- `sl_lsc_clear_buffers` in `MS_PROCESSOR_OUTAGE`. -/
def slClearBuffers : SlM Unit := do
  modify fun s => { s.purgeRtb false with tb := [] }
  slCheckCongestion
  let s ← get
  if s.pvar = SS7_PVAR_ANSI_92 then
    notice .rpoEnd
    ind .rtbCleared
    modify fun s => { s with rb := [] }
    ind .rbCleared
    when s.flags.rpo do
      ind .remoteProcessorRecovered
      modify fun s => { s with flags.rpo := false }
    slBuffersCleared
  else
    modify fun s => { s with flags.needFlush := s.flags.continued }
    when s.flags.continued slBuffersCleared

def slLscClearBuffers : SlM Unit := do
  let s ← get
  match s.state with
  | .powerOff | .outOfService | .notAligned | .aligned | .proving =>
      if s.pvar = SS7_PVAR_ANSI_92 then
        ind .rtbCleared
        modify fun s => { s with flags.lpo := false }
      else
        pure ()
  | .alignedNotReady =>
      if s.pvar = SS7_PVAR_ANSI_92 then
        ind .rtbCleared
        modify fun s =>
          { s with
            flags := { s.flags with lpo := false, sendMsu := false }
            state := .alignedReady }
      else
        pure ()
  | .processorOutage => slClearBuffers
  | _ => throw .EPROTO

end Clearing

section Retrieval

def slLscRetrieveBsnt : SlM Unit := do
  let s ← get
  match s.state with
  | .powerOff | .outOfService | .processorOutage =>
      ignoring (ind (.bsnt s.fsnr))
  | _ => throw .EPROTO

/-- The first loop of retrieval, which counts `fsnt` down. -/
def Sl.freeRetrieved (fsnc : Nat) : Nat → Sl → Sl
  | 0, s => s
  | fuel + 1, s =>
      if s.rtb ≠ [] ∧ s.fsnt ≠ fsnc then
        freeRetrieved fsnc fuel
          { s with
            rtb := s.rtb.tail
            fsnt := (s.fsnt + 0xffffff) % 2 ^ 24 }
      else s

/-- The loops that pass up what is on `rtb` and on `tb`. -/
def slRetrieveRtb : Nat → SlM Unit
  | 0 => pure ()
  | fuel + 1 => do
      let s ← get
      match s.rtb with
      | [] => pure ()
      | m :: rest => do
          ind (.retrievedMessage m.msg.flatten)
          modify fun s => { s with rtb := rest, flags.rtbFull := false }
          slRetrieveRtb fuel

def slRetrieveTb : Nat → SlM Unit
  | 0 => pure ()
  | fuel + 1 => do
      let s ← get
      match s.tb with
      | [] => pure ()
      | m :: rest => do
          ind (.retrievedMessage m.flatten)
          modify fun s => { s with tb := rest }
          slRetrieveTb fuel

def slLscRetrievalRequestAndFsnc (fsnc : Nat) : SlM Unit := do
  let s ← get
  match s.state with
  | .powerOff | .outOfService | .processorOutage => do
      modify fun s =>
        { s with missteps := s.missteps ++
            if s.rtb = [] then [] else [.retrieved] }
      modify fun s => s.freeRetrieved fsnc s.rtb.length
      slRetrieveRtb s.rtb.length
      slRetrieveTb s.tb.length
      ind .retrievalComplete
  | _ => do
      ind .retrievalNotPossible
      throw .EPROTO

end Retrieval

section Timers

def slT1Timeout : SlM Unit := fail .failT1Timeout SL_FAIL_T1_TIMEOUT

/-- `sl_t2_timeout` and `sl_t3_timeout` -/
def alignmentTimeout (waiting : LinkState) : SlM Unit := do
  let s ← get
  if s.state = waiting then
    fail .failAlignment SL_FAIL_ALIGNMENT_NOT_POSSIBLE
  else
    throw .EPROTO

def slT2Timeout : SlM Unit := alignmentTimeout .notAligned
def slT3Timeout : SlM Unit := alignmentTimeout .aligned

def slT4Timeout : SlM Unit := do
  let s ← get
  if s.state = .proving then slReady else throw .EPROTO

def slT6Timeout : SlM Unit := fail .failCongTimeout SL_FAIL_CONG_TIMEOUT

def slT7Timeout : SlM Unit := fail .failAckTimeout SL_FAIL_ACK_TIMEOUT

end Timers

end OpenSS7.M2pa
