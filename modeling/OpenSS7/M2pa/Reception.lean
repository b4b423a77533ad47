import OpenSS7.Lib.SlidingWindow
import OpenSS7.M2pa.Requests

/-!
Received messages: the check of their sequence numbers, the release of what
they acknowledge, the receive buffer, and the events of the module.
-/

namespace OpenSS7.M2pa

open Program

section SequenceNumbers

/-- `between24(s1, s2, s3)`: whether `s1` comes no later than `s3` when
counted from `s2`. -/
def between24 (s1 s2 s3 : Nat) : Bool :=
  decide ((s1 + (2 ^ 24 - s2 % 2 ^ 24)) % 2 ^ 24 ≤
    (s3 + (2 ^ 24 - s2 % 2 ^ 24)) % 2 ^ 24)

def diff24 (s1 s2 : Nat) : Nat :=
  if 2 ^ 23 ≤ (s1 + (2 ^ 24 - s2 % 2 ^ 24)) % 2 ^ 24 then
    (s2 + (2 ^ 24 - s1 % 2 ^ 24)) % 2 ^ 24
  else (s1 + (2 ^ 24 - s2 % 2 ^ 24)) % 2 ^ 24

/-- `between16(s1, s2, s3)`. The operands are promoted to `int`, so that the
differences do not wrap. -/
def between16 (s1 s2 s3 : Nat) : Bool :=
  decide (((s1 % 2 ^ 16 : Nat) : Int) - (s2 % 2 ^ 16 : Nat) ≤
    ((s3 % 2 ^ 16 : Nat) : Int) - (s2 % 2 ^ 16 : Nat))

/-- `(int16_t)(x)` -/
def int16 (x : Int) : Int := Int.bmod x (2 ^ 16)

/-- `diff16(s1, s2)`, as an unsigned count. -/
def diff16 (s1 s2 : Nat) : Nat :=
  ((if int16 (s1 - s2 : Int) < 0 then int16 (s2 - s1 : Int)
    else int16 (s1 - s2 : Int)) % 2 ^ 32).toNat

/-- The steps from `a` forward to `b`. -/
def Version.forward (v : Version) (a b : Nat) : Nat :=
  SlidingWindow.ahead v.space a b

def Version.between (v : Version) (s1 s2 s3 : Nat) : Bool :=
  if v.short then between16 s1 s2 s3 else between24 s1 s2 s3

def Version.diff (v : Version) (s1 s2 : Nat) : Nat :=
  if v.short then diff16 s1 s2 else diff24 s1 s2

def Version.discards : Version → Bool
  | .draft11 | .rfc4165 => true
  | _ => false

end SequenceNumbers

section Acknowledgement

/-- `--` of an unsigned counter. -/
def decrement (n : Nat) : Nat := (n + 0xffffffff) % 2 ^ 32

/-- The loop of `sl_txc_datack`, which stops early when `rtb` runs empty;
what is left of the count. -/
def Sl.release (bsn : Nat) : Nat → Sl → Nat × Sl
  | 0, s => (0, s)
  | count + 1, s =>
      match s.rtb with
      | [] => (count + 1, s)
      | m :: rest =>
          release bsn count
            { s with
              rtb := rest
              tack := decrement s.tack
              freed := s.freed ++ [⟨m.fsn, bsn, s.bsnr⟩] }

def LinkState.releases : LinkState → Bool
  | .inService | .processorOutage | .alignedReady | .alignedNotReady => true
  | _ => false

/-- `sl_txc_datack` for the acknowledgement `bsn`. -/
def slTxcDatack (bsn count : Nat) : SlM Unit := do
  let s ← get
  if s.state.releases then
    let left := (s.release bsn count).1
    modify fun s => (s.release bsn count).2
    if left = 0 then
      modify fun s => { s with back := 0, flags.rtbFull := false }
      ignoring slCheckCongestion
      slTxWakeup
    else if s.back ≠ 0 then
      fail .failAbnormalBsnr SL_FAIL_ABNORMAL_BSNR
    else
      modify fun s => { s with back := s.back + 1 }
  else
    pure ()

def slBadBsn : SlM Unit := do
  let s ← get
  if s.bbsn ≠ 0 then
    fail .failAbnormalBsnr SL_FAIL_ABNORMAL_BSNR
    throw .EPROTO
  else
    modify fun s => { s with bbsn := (s.bbsn + 1) % 2 ^ 24 }

/-- The part of `sl_rc_sn_check` on the backward sequence number. -/
def slBsnCheck (bsn : Nat) : SlM Unit := do
  let s ← get
  if s.version.between bsn s.bsnr s.fsnt then
    when (s.bsnr ≠ bsn) do
      let count := s.version.diff s.bsnr bsn
      modify fun s =>
        { s with missteps := s.missteps ++
            if count = s.version.forward s.bsnr bsn ∧
                count ≤ s.version.forward s.bsnr s.fsnt ∧
                (s.state.releases ∨ count = 0) then []
            else [.miscounted] }
      slTxcDatack bsn count
      modify fun s => { s with bsnr := bsn }
    modify fun s => { s with bbsn := 0 }
  else
    slBadBsn

/-- The part of `sl_rc_sn_check` on the forward sequence number: a message
of data has the next number, any other the last one. -/
def slFsnCheck (fsn : Nat) (msu : Bool) : SlM Unit := do
  let s ← get
  let expected := if msu then s.fsnx else s.fsnx + (s.version.space - 1)
  if fsn = expected % s.version.space then
    if s.version.discards then pure ()
    else modify fun s => { s with bfsn := 0 }
  else if s.version.discards then
    throw .EPROTO
  else if s.bfsn ≠ 0 then
    fail .failAbnormalFibr SL_FAIL_ABNORMAL_FIBR
    throw .EPROTO
  else
    modify fun s => { s with bfsn := (s.bfsn + 1) % 2 ^ 24 }
    throw .EPROTO

def Version.bsnOf (v : Version) (octets : List UInt8) : Nat :=
  if v.short then ntohs octets else ntohl octets % 2 ^ 24

def Version.fsnOf (v : Version) (octets : List UInt8) : Nat :=
  if v.short then ntohs (octets.drop 2) else ntohl (octets.drop 4) % 2 ^ 24

def Version.hlen (v : Version) : Nat :=
  if v.bare then 0 else if v.short then 4 else 8

/-- `sl_rc_sn_check`; what is left of the message. -/
def slRcSnCheck (octets : List UInt8) : SlM (List UInt8) := do
  let s ← get
  let v := s.version
  if v.bare then
    pure octets
  else if v.hlen ≤ octets.length then
    let left := octets.drop v.hlen
    slFsnCheck (v.fsnOf octets) (decide (4 < left.length))
    slBsnCheck (v.bsnOf octets)
    pure left
  else
    throw .EMSGSIZE

end Acknowledgement

section Reception

/-- The end of `sl_rc_signal_unit`, of a message whose numbers are right.
`fsn` is the number it carried. -/
def slReceive (fsn : Nat) (octets : List UInt8) : SlM Qr := do
  let s ← get
  if s.flags.recvMsu then
    if s.flags.congDiscard then
      throw .EBUSY
    else if 4 < octets.length then
      modify fun s =>
        { s with
          rb := s.rb ++ [octets]
          accepted := s.accepted ++ [(fsn, octets)] }
      ignoring slRbCongestionFunction
      modify fun s => { s with fsnx := (s.fsnx + 1) % 2 ^ 24 }
      pure .absorbed
    else
      pure .done
  else
    throw .EPROTO

def slRcSignalUnit (octets : List UInt8) : SlM Qr := do
  modify fun s => { s with flags.remAln := false }
  let s ← get
  let fsn := s.version.fsnOf octets
  match s.state with
  | .powerOff | .outOfService => pure .done
  | .alignedNotReady => do
      let left ← slRcSnCheck octets
      ind .inService
      modify fun s =>
        { s with
          flags := { s.flags with sendMsu := false, recvMsu := false }
          state := .processorOutage }
      slReceive fsn left
  | .alignedReady => do
      let left ← slRcSnCheck octets
      ind .inService
      modify fun s =>
        { s with
          flags := { s.flags with sendMsu := true, recvMsu := true }
          state := .inService }
      slReceive fsn left
  | _ => do
      let left ← slRcSnCheck octets
      slReceive fsn left

/-- The delivery loop of `sl_rx_wakeup`; `rb` is its measure. -/
def slRxDeliver : Nat → SlM Unit
  | 0 => pure ()
  | fuel + 1 => do
      let s ← get
      match s.rb with
      | [] => pure ()
      | octets :: rest => do
          ind (.pdu octets)
          modify fun s =>
            { s with
              rb := rest
              delivered := s.delivered ++ [octets]
              rmsu := s.rmsu + 1
              fsnr := (s.fsnr + 1) % 2 ^ 24 }
          ignoring slRbCongestionFunction
          modify fun s =>
            if s.flags.congAccept then s
            else { s with rack := s.rack + s.rmsu, rmsu := 0 }
          slRxDeliver fuel

def slRxWakeup : SlM Unit := ignoring do
  let s ← get
  when (s.state.started && s.flags.recvMsu && !s.rb.isEmpty) do
    slRxDeliver s.rb.length
    let s ← get
    when (s.rack ≠ 0) slSendAck

/-- `sl_recv_datack`: only draft 3.1 has such messages. -/
def slRecvDatack (octets : List UInt8) : SlM Qr := do
  modify fun s => { s with flags.remAln := false }
  let s ← get
  if s.version = .draft3_1 then
    if 4 ≤ octets.length then
      -- the count is read from behind the message
      let count := ntohl s.env.beyond
      if count ≠ 0 then
        modify fun s => { s with missteps := s.missteps ++ [.uncounted] }
        slTxcDatack s.bsnr count
        pure .done
      else
        throw .EPROTO
    else
      throw .EMSGSIZE
  else
    throw .EPROTO

def slRecvProving : SlM Qr := do
  modify fun s => { s with flags.remAln := false }
  let s ← get
  if s.version.bare then pure .done else throw .EPROTO

/-- `hlen` in `sl_recv_status`. -/
def Version.statusHlen (v : Version) : Nat :=
  if v = .draft6_9 then 0 else v.hlen

def slRecvStatus (octets : List UInt8) : SlM Qr := do
  let s ← get
  if 4 ≤ octets.length then
    match Status.ofCode
        (ntohl ((octets ++ s.env.beyond).drop s.version.statusHlen)) with
    | some .busyEnded => do slLscStatusBusyEnded; pure .done
    | some .inService => do slLscStatusInService octets; pure .done
    | some .processorOutageEnded => do
        slLscStatusProcessorOutageEnded octets
        pure .done
    | some .outOfService => do slLscStatusOutOfService; pure .done
    | some .processorOutage => do slLscStatusProcessorOutage; pure .done
    | some .busy => do slLscStatusBusy; pure .done
    | some .alignment => do slLscStatusAlignment; pure .done
    | some .provingNormal => do slLscStatusProvingNormal; pure .done
    | some .provingEmergency => do slLscStatusProvingEmergency; pure .done
    | some .ack => slRcSignalUnit octets
    | none => throw .EPROTO
  else
    throw .EMSGSIZE

def Sl.rlen (s : Sl) : Nat :=
  if s.pvar = SS7_PVAR_ANSI_88 ∨ s.pvar = SS7_PVAR_ANSI_92 ∨
      s.pvar = SS7_PVAR_ANSI_96 ∨ s.pvar = SS7_PVAR_ANSI_00 ∨
      s.pvar = SS7_PVAR_JTTC_94 then 7 else 5

def Version.emptyAcks : Version → Bool
  | .draft3 | .draft3_1 | .draft4 | .draft4_1 | .draft4_9 | .draft5 => false
  | _ => true

def slRecvData (octets : List UInt8) : SlM Qr := do
  let s ← get
  let mlen := octets.length
  if s.version.hlen + s.rlen < mlen ∨ mlen = 0 ∨
      s.version.emptyAcks ∧ mlen = s.version.hlen then
    slRcSignalUnit octets
  else
    throw .EMSGSIZE

def slRecvMsg (octets : List UInt8) : SlM Qr := do
  if 8 ≤ octets.length then
    match MsgType.ofCode (ntohl octets) with
    | some type =>
        let mlen := ntohl (octets.drop 4)
        if octets.length = PAD4 mlen % 2 ^ 32 then
          match type with
          | .data => slRecvData (octets.drop 8)
          | .status => slRecvStatus (octets.drop 8)
          | .proving => slRecvProving
          | .ack => slRecvDatack (octets.drop 8)
        else
          throw .EMSGSIZE
    | none => throw .EPROTO
  else
    throw .EPROTO

end Reception

section Events

inductive Event where
  | recv (octets : List UInt8)
  | rxWakeup
  | txWakeup
  | pdu (m : Msg)
  | powerOn
  | start
  | stop
  | emergency
  | emergencyCeases
  | localProcessorOutage
  | resume
  | clearRtb
  | clearBuffers
  | retrieveBsnt
  | retrieval (fsnc : Nat)
  | congestionDiscard
  | congestionAccept
  | noCongestion
  | t1Timeout
  | t2Timeout
  | t3Timeout
  | t4Timeout
  | t6Timeout
  | t7Timeout
deriving DecidableEq

def Event.program : Event → SlM Unit
  | .recv octets => do let _ ← slRecvMsg octets
  | .rxWakeup => slRxWakeup
  | .txWakeup => slTxWakeup
  | .pdu m => slLscPdu m
  | .powerOn => slLscPowerOn
  | .start => slLscStart
  | .stop => slLscStop
  | .emergency => slLscEmergency
  | .emergencyCeases => slLscEmergencyCeases
  | .localProcessorOutage => slLscLocalProcessorOutage
  | .resume => slLscResume
  | .clearRtb => slLscClearRtb
  | .clearBuffers => slLscClearBuffers
  | .retrieveBsnt => slLscRetrieveBsnt
  | .retrieval fsnc => slLscRetrievalRequestAndFsnc fsnc
  | .congestionDiscard => slLscCongestionDiscard
  | .congestionAccept => slLscCongestionAccept
  | .noCongestion => slLscNoCongestion
  | .t1Timeout => slT1Timeout
  | .t2Timeout => slT2Timeout
  | .t3Timeout => slT3Timeout
  | .t4Timeout => slT4Timeout
  | .t6Timeout => slT6Timeout
  | .t7Timeout => slT7Timeout

def Sl.enter (s : Sl) (env : Env) : Sl :=
  { s with env := env, sent := [], inds := [] }

def Sl.handle (s : Sl) (env : Env) (event : Event) : Sl :=
  event.program.after (s.enter env)

def Sl.run (s : Sl) (events : List (Env × Event)) : Sl :=
  events.foldl (fun s e => s.handle e.1 e.2) s

def Sl.allocated (version : Version) (pvar : Nat) (nopr mplev : Bool)
    (config : Config) (notify : Notice → Bool) : Sl where
  version := version
  pvar := pvar
  nopr := nopr
  mplev := mplev
  config := config
  notify := notify
  env := .calm
  state := .powerOff
  flags := .none
  rmsu := 0
  tmsu := 0
  rack := 0
  tack := 0
  fsnr := 0xffffff
  bsnr := 0xffffff
  fsnx := 0
  fsnt := 0
  back := 0
  bbsn := 0
  bfsn := 0
  rb := []
  tb := []
  rtb := []
  congStatus := 0
  discStatus := 0
  congOnsetInd := fun _ => 0
  congDiscdInd := fun _ => 0
  sent := []
  inds := []
  accepted := []
  delivered := []
  freed := []
  slips := []
  missteps := [.unset]

end Events

end OpenSS7.M2pa
