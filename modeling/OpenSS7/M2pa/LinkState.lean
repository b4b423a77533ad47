import OpenSS7.M2pa.Sending

/-!
Link state control: alignment, proving, processor outage and congestion, on
the status messages of the peer and on requests of level three.
-/

namespace OpenSS7.M2pa

open Program

/-- `bufq_purge(&sl->rtb)` and what goes with it. That the transmit numbers
follow at once makes up for the purge. -/
def Sl.purgeRtb (s : Sl) (follows : Bool) : Sl :=
  { s with
    rtb := []
    tack := 0
    flags := { s.flags with rtbFull := false, clearRtb := false }
    missteps := s.missteps ++
      if s.rtb = [] ∨ follows then [] else [.purged] }

def Sl.syncNumber (s : Sl) (octets : List UInt8) : Nat :=
  ntohl (octets ++ s.env.beyond) % 2 ^ 24

def Sl.resync (s : Sl) (octets : List UInt8) : Sl :=
  { s with
    fsnt := s.syncNumber octets
    missteps := s.missteps ++
      if s.syncNumber octets = (if s.rtb = [] then s.bsnr else s.fsnt) then []
      else [.renumbered] }

section Stopping

def slLscStop : SlM Unit := do
  let s ← get
  if s.state.started then
    slSendStatus .outOfService
    modify fun s => { s with flags.lpo := false }
    when s.flags.rpo do
      notice .rpoEnd
      modify fun s => { s with flags.rpo := false }
    modify fun s =>
      { s with
        flags := { s.flags with
          locIns := false
          remIns := false
          locBusy := false
          remBusy := false
          locEmerg := false
          remEmerg := false }
        state := .outOfService
        slips := s.slips ++
          if !s.flags.sendMsu && !s.flags.recvMsu then [] else [.stopped] }
  else
    pure ()

def slLscOutOfService (reason : Nat) : SlM Unit := do
  let s ← get
  if s.state.started then
    ind (.outOfService reason)
    slLscStop
  else
    pure ()

def fail (n : Notice) (reason : Nat) : SlM Unit := do
  notice n
  slLscOutOfService reason

end Stopping

section Starting

/-- The message at the head of `tb` is sent, or that the link is ready. -/
def slSendReady : SlM Unit := do
  let s ← get
  match s.tb with
  | m :: rest => slTransmit m rest
  | [] => slSendStatus .inService

def slReady : SlM Unit := do
  modify fun s =>
    { s with flags := { s.flags with
        locEmerg := false
        remEmerg := false
        locIns := true } }
  let s ← get
  if s.flags.lpo then
    slSendStatus .processorOutage
    if s.flags.remIns then
      ind .inService
      modify fun s =>
        { s with
          flags := { s.flags with sendMsu := false, recvMsu := false }
          state := .processorOutage }
    else
      modify fun s => { s with state := .alignedNotReady }
  else
    slSendReady
    if s.flags.remIns then
      ind .inService
      modify fun s =>
        { s with
          flags := { s.flags with sendMsu := true, recvMsu := true }
          state := .inService }
    else if s.flags.rpo then
      ind .remoteProcessorOutage
      modify fun s =>
        { s with
          flags := { s.flags with sendMsu := false, recvMsu := false }
          state := .processorOutage }
    else
      modify fun s => { s with state := .alignedReady }

def slProve : SlM Unit := do
  let s ← get
  slSendProving
    (if s.flags.locEmerg then .provingEmergency else .provingNormal)

/-- The counters that both `sl_lsc_power_on` and `sl_lsc_start` set. -/
def Sl.reset (s : Sl) : Sl :=
  { s with
    rmsu := 0
    rack := 0
    fsnr := 0xffffff
    bsnr := 0xffffff
    fsnx := 0
    tmsu := 0
    tack := 0
    fsnt := 0xffffff
    back := 0
    bbsn := 0
    bfsn := 0
    accepted := []
    delivered := []
    freed := []
    missteps := if s.rtb = [] then [] else [.restarted] }

def slLscPowerOn : SlM Unit := do
  let s ← get
  if s.state = .powerOff then
    modify fun s => { s.reset with flags := .none }
    slSendStatus .outOfService
    modify fun s => { s with state := .outOfService }
  else
    throw .EPROTO

def slLscStart : SlM Unit := do
  let s ← get
  if s.state = .outOfService then
    modify Sl.reset
    slSendStatus .alignment
    if !s.flags.remAln then
      modify fun s => { s with state := .notAligned }
    else if !s.nopr then
      slProve
      modify fun s => { s with state := .aligned }
    else
      slReady
  else
    throw .EPROTO

end Starting

section Status

def slLscStatusAlignment : SlM Unit := do
  modify fun s => { s with flags.remAln := true }
  let s ← get
  let proving := !s.nopr
  match s.state with
  | .powerOff | .outOfService => pure ()
  | .notAligned =>
      if proving then
        slProve
        modify fun s => { s with state := .aligned }
      else
        slReady
  | .aligned => if proving then pure () else slReady
  | .proving => modify fun s => { s with state := .aligned }
  | .alignedReady =>
      if proving then fail .failReceivedSio SL_FAIL_RECEIVED_SIO else pure ()
  | _ => fail .failReceivedSio SL_FAIL_RECEIVED_SIO

def slAlign : SlM Unit := do
  let s ← get
  when (!s.nopr) do
    slProve
    modify fun s => { s with state := .aligned }

def slProvingNormal : SlM Unit := do
  modify fun s => { s with flags.remEmerg := false }
  let s ← get
  if !s.nopr then
    modify fun s => { s with state := .proving }
  else
    slReady

def slProvingEmergency : SlM Unit := do
  let s ← get
  if !s.nopr then
    modify fun s => { s with flags.remEmerg := true, state := .proving }
  else
    slReady

def slLscStatusProvingNormal : SlM Unit := do
  modify fun s => { s with flags.remAln := false }
  let s ← get
  match s.state with
  | .notAligned => do
      slAlign
      slProvingNormal
  | .aligned => slProvingNormal
  | .inService | .processorOutage =>
      fail .failReceivedSin SL_FAIL_RECEIVED_SIN
  | _ => throw .EPROTO

def slLscStatusProvingEmergency : SlM Unit := do
  modify fun s => { s with flags.remAln := false }
  let s ← get
  match s.state with
  | .notAligned => do
      slAlign
      slProvingEmergency
  | .aligned => slProvingEmergency
  | .proving => modify fun s => { s with flags.remEmerg := true }
  | .inService | .processorOutage =>
      fail .failReceivedSie SL_FAIL_RECEIVED_SIE
  | _ => throw .EPROTO

/-- `sl_lsc_status_in_service` of a message with the given octets. -/
def slLscStatusInService (octets : List UInt8) : SlM Unit := do
  modify fun s => { s with flags.remAln := false }
  let s ← get
  match s.state with
  | .notAligned =>
      if !s.nopr then
        throw .EPROTO
      else
        modify fun s => { s with flags.remIns := true }
        slReady
  | .aligned | .proving => modify fun s => { s with flags.remIns := true }
  | .alignedNotReady =>
      ind .inService
      modify fun s =>
        { s with
          flags := { s.flags with sendMsu := false, recvMsu := false }
          state := .processorOutage }
  | .alignedReady =>
      ind .inService
      modify fun s =>
        { s with
          flags := { s.flags with sendMsu := true, recvMsu := true }
          state := .inService }
  | .inService | .processorOutage =>
      if s.version.late && s.flags.waitSync then
        modify fun s => s.resync octets
        modify fun s =>
          { s with
            flags := { s.flags with waitSync := false, sendMsu := true }
            slips := s.slips ++
              if s.state = .inService then [] else [.resynchronised] }
        slTxWakeup
      else
        pure ()
  | .powerOff | .outOfService => pure ()

def slLscStatusBusy : SlM Unit := do
  modify fun s => { s with flags.remAln := false }
  let s ← get
  match s.state with
  | .inService | .processorOutage =>
      modify fun s => { s with flags.remBusy := true }
  | .powerOff | .outOfService => pure ()
  | _ => throw .EPROTO

def slLscStatusBusyEnded : SlM Unit := do
  modify fun s => { s with flags.remAln := false }
  let s ← get
  if s.state.started then
    modify fun s => { s with flags.remBusy := false }
  else
    pure ()

/-- The peer's outage is remembered, and indicated where `told`. -/
def slRpoBegins (told : Bool) : SlM Unit := do
  let s ← get
  if s.flags.rpo then
    pure ()
  else
    notice .rpoBegin
    when told (ind .remoteProcessorOutage)
    modify fun s => { s with flags.rpo := true }

def slOutageBegins : SlM Unit := do
  let s ← get
  if s.pvar = SS7_PVAR_ANSI_92 then
    modify fun s => { s with rack := s.rack + s.rmsu, rmsu := 0 }
    when s.flags.locBusy (slSendStatus .busyEnded)
    modify fun s => { s with flags.locBusy := false }
  else
    modify fun s => { s with flags.continued := false }

def slLscStatusProcessorOutage : SlM Unit := do
  modify fun s => { s with flags.remAln := false }
  let s ← get
  match s.state with
  | .powerOff | .outOfService => pure ()
  | .notAligned =>
      if !s.nopr then
        pure ()
      else
        slRpoBegins false
        slReady
  | .aligned | .proving => slRpoBegins false
  | .alignedReady | .alignedNotReady => do
      slRpoBegins true
      modify fun s => { s with state := .processorOutage }
  | .inService => do
      notice .rpoBegin
      when (!s.flags.rpo) do
        ind .remoteProcessorOutage
        modify fun s => { s with flags.rpo := true }
      modify fun s => { s with flags.sendMsu := false }
      slOutageBegins
      modify fun s => { s with state := .processorOutage }
  | .processorOutage => slRpoBegins true

def slLscNoProcessorOutage : SlM Unit := do
  let s ← get
  when (s.state = .processorOutage) do
    modify fun s => { s with flags.continued := true }
    when (!s.flags.needFlush) do
      modify fun s =>
        { s with
          flags := { s.flags with
            lpo := false
            needFlush := true
            recvMsu := true
            sendMsu := s.flags.sendMsu || !s.flags.waitSync }
          state := .inService }
      slTxWakeup

def slSynchronised : SlM Unit := do
  slSendStatus .inService
  modify fun s => { s with flags.waitSync := false }

/-- From draft 10 on `rtb` is cleared when the peer has recovered, and the
transmit numbers follow its message. -/
def slSynchronise (octets : List UInt8) : SlM Unit := do
  modify fun s => s.purgeRtb
    (decide (s.syncNumber octets = s.bsnr) && s.env.indMem.all id)
  slCheckCongestion
  modify fun s => s.resync octets
  slSynchronised

/-- `sl_lsc_status_processor_outage_ended` of a message with the given
octets. -/
def slLscStatusProcessorOutageEnded (octets : List UInt8) : SlM Unit := do
  modify fun s => { s with flags.remAln := false }
  let s ← get
  if s.state = .processorOutage then
    when s.flags.rpo do
      when s.version.late (slSynchronise octets)
      notice .rpoEnd
      ind .remoteProcessorRecovered
      modify fun s => { s with flags.rpo := false }
    when (s.pvar ≠ SS7_PVAR_ANSI_92 ∧ !s.flags.lpo) do
      slLscNoProcessorOutage
  else
    throw .EPROTO

def slLscStatusOutOfService : SlM Unit := do
  modify fun s => { s with flags.remAln := false }
  let s ← get
  match s.state with
  | .alignedReady | .alignedNotReady | .inService | .processorOutage => do
      modify fun s => { s with flags.remIns := false }
      fail .failReceivedSios SL_FAIL_RECEIVED_SIOS
  | .aligned | .proving => do
      modify fun s => { s with flags.remIns := false }
      fail .failAlignment SL_FAIL_ALIGNMENT_NOT_POSSIBLE
  | .powerOff | .outOfService | .notAligned => pure ()

end Status

section ReceiveCongestion

def slBusy : SlM Unit := do
  let s ← get
  when (!s.flags.locBusy) do
    slSendStatus .busy
    modify fun s => { s with flags.locBusy := true }

def slNotBusy : SlM Unit := do
  let s ← get
  when s.flags.locBusy (slSendStatus .busyEnded)
  modify fun s =>
    { s with
      flags := { s.flags with
        locBusy := false
        congDiscard := false
        congAccept := false }
      rack := s.rack + s.rmsu
      rmsu := 0 }

/-- `rb` holds as much as the level given, or there is no room behind it. -/
def reaches (level : Nat) (room : SlM Bool) : SlM Bool := do
  let s ← get
  if level ≤ s.rb.length then pure true else not <$> room

/-- The part of `sl_rb_congestion_function` that detects an onset. -/
def slRbOnset : SlM Unit := do
  let s ← get
  if ← reaches s.config.rbDiscard canputOq then
    modify fun s => { s with flags.congDiscard := true }
    slBusy
    modify fun s => { s with flags.l2CongDetect := true }
  else if ← reaches s.config.rbAccept canputnextOq then
    modify fun s => { s with flags.congAccept := true }
    slBusy
    modify fun s => { s with flags.l2CongDetect := true }
  else
    pure ()

def slRbAbate : SlM Unit := do
  let s ← get
  if s.rb.length ≤ s.config.rbAbate then
    if ← canputnextOq then
      slNotBusy
      modify fun s => { s with flags.l2CongDetect := false }
    else
      pure ()
  else
    pure ()

def slRbCongestionFunction : SlM Unit := do
  let s ← get
  if s.flags.l3CongDetect then pure ()
  else if s.flags.l2CongDetect then slRbAbate
  else slRbOnset

def slLscCongestionDiscard : SlM Unit := do
  slBusy
  modify fun s =>
    { s with flags := { s.flags with congDiscard := true, l3CongDetect := true } }

def slLscCongestionAccept : SlM Unit := do
  slBusy
  modify fun s =>
    { s with flags := { s.flags with congAccept := true, l3CongDetect := true } }

def slLscNoCongestion : SlM Unit := do
  slNotBusy
  modify fun s => { s with flags.l3CongDetect := false }

end ReceiveCongestion

end OpenSS7.M2pa
