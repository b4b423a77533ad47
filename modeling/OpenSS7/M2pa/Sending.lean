import OpenSS7.M2pa.State

/-!
The messages sent to the peer, and the transmission of waiting messages.
-/

namespace OpenSS7.M2pa

open Program

/-- What `sl_send_proving` fills its messages with. -/
def filler : List UInt8 :=
  [0x6f, 0x43, 0x79, 0x70, 0x69, 0x72, 0x68, 0x67, 0x20, 0x74, 0x63,
    0x28, 0x20, 0x29, 0x39, 0x31, 0x37, 0x39, 0x32, 0x2d, 0x30, 0x30,
    0x20, 0x34, 0x4f, 0x20, 0x65, 0x70, 0x53, 0x6e, 0x37, 0x53, 0x43,
    0x20, 0x72, 0x6f, 0x6f, 0x70, 0x61, 0x72, 0x69, 0x74, 0x6e, 0x6f,
    0x20, 0x2e, 0x41, 0x20, 0x6c, 0x6c, 0x52, 0x20, 0x67, 0x69, 0x74,
    0x68, 0x20, 0x73, 0x65, 0x52, 0x65, 0x73, 0x76, 0x72, 0x64, 0x65,
    0x0a, 0x2e, 0x6e, 0x55, 0x75, 0x61, 0x68, 0x74, 0x72, 0x6f, 0x7a,
    0x69, 0x64, 0x65, 0x64, 0x20, 0x70, 0x75, 0x69, 0x6c, 0x61, 0x63,
    0x69, 0x74, 0x6e, 0x6f, 0x70, 0x20, 0x6f, 0x72, 0x69, 0x68, 0x69,
    0x62, 0x65, 0x74, 0x2e, 0x64, 0x00, 0x0a]

def Sl.numbers (s : Sl) : Numbers :=
  if s.version.bare then .bare
  else if s.version.short then .short s.fsnr s.fsnt
  else .long (s.fsnr % 2 ^ 24) (s.fsnt % 2 ^ 24)

def Sl.statusNumbers (s : Sl) : Numbers :=
  if s.version = .draft6_9 then .bare else s.numbers

def slSendStatus (status : Status) : SlM Unit := do
  let s ← get
  nDataReq
    { type := .status
      length := 8 + s.statusNumbers.octets.length + 4
      numbers := s.statusNumbers
      body := be32 status.code }

/-- `sl_send_proving`; drafts 3 and 3.1 have a message type of its own. -/
def slSendProving (status : Status) : SlM Unit := do
  let s ← get
  if s.version.bare then
    nDataReq
      { type := .proving
        length := 8 + filler.length
        numbers := .bare
        body := filler }
  else
    nDataReq
      { type := .status
        length := 8 + s.statusNumbers.octets.length + 4 + filler.length
        numbers := s.statusNumbers
        body := be32 status.code ++ filler }

def Sl.piggybacks (s : Sl) : Bool :=
  !s.tb.isEmpty && s.flags.sendMsu && !s.flags.rtbFull

def Sl.ackPdu (s : Sl) : Option Pdu :=
  match s.version with
  | .draft3 | .draft4 => none
  | .draft3_1 => some ⟨.ack, 12, .bare, be32 s.rack⟩
  | .draft4_1 =>
      some ⟨.status, 16, .short s.fsnr s.fsnt, be32 Status.ack.code⟩
  | .draft4_9 => some ⟨.status, 20, .long s.fsnr s.fsnt, be32 Status.ack.code⟩
  | .draft5 | .draft5_1 =>
      if s.piggybacks then none
      else some ⟨.status, 20, .long (s.fsnr % 2 ^ 24) (s.fsnt % 2 ^ 24),
        be32 Status.inService.code⟩
  | _ =>
      if s.piggybacks then none
      else some ⟨.data, 16, .long (s.fsnr % 2 ^ 24) (s.fsnt % 2 ^ 24), []⟩

def slSendAck : SlM Unit := do
  let s ← get
  if s.rack = 0 then
    pure ()
  else
    match s.ackPdu with
    | none => pure ()
    | some pdu => do
        nDataReq pdu
        modify fun s => { s with rack := 0 }

/-- The copying loop of `sl_send_data`, which follows `b_next`: it takes the
first block of the message and of each one queued behind it, `dlen` octets
at most. -/
def gather : List Msg → Nat → List UInt8
  | [], _ => []
  | m :: rest, dlen =>
      let block := (m.headD []).take dlen
      block ++ gather rest (dlen - block.length)

def Sl.dataNumbers (s : Sl) : Numbers :=
  if s.version.bare then .bare
  else if s.version.short then .short s.fsnr (s.fsnt + 1)
  else .long (s.fsnr % 2 ^ 24) ((s.fsnt + 1) % 2 ^ 24)

/-- The message that `sl_send_data` builds of `dp`, the head of `tb`. -/
def Sl.dataPdu (s : Sl) (dp : Msg) (behind : List Msg) : Pdu where
  type := .data
  length := dp.size + 8 + s.dataNumbers.octets.length
  numbers := s.dataNumbers
  body := gather (dp :: behind) dp.size

def slSendData (dp : Msg) (behind : List Msg) : SlM Unit := do
  let s ← get
  nDataReq (s.dataPdu dp behind)

/-- `rtb` has reached one of its limits. -/
def Sl.fills (s : Sl) : Bool :=
  decide (s.config.N1 ≤ s.rtb.length ∨
    s.config.N2 ≤ qCount (s.rtb.map Sent.msg) ∨
    0x7ffffff < s.tmsu + s.tack)

def Version.space (v : Version) : Nat := if v.short then 2 ^ 16 else 2 ^ 24

/-- The message `m` at the head of `tb` is sent and moves to `rtb`. -/
def slTransmit (m : Msg) (rest : List Msg) : SlM Unit := do
  slSendData m rest
  modify fun s =>
    { s with
      fsnt := (s.fsnt + 1) % 2 ^ 24
      tb := rest
      rtb := s.rtb ++ [⟨(s.fsnt + 1) % 2 ^ 24, m⟩]
      tack := (s.tack + 1) % 2 ^ 32
      missteps := s.missteps ++
        if s.rtb.length + 1 < s.version.space then [] else [.overrun] }
  modify fun s => { s with flags.rtbFull := s.flags.rtbFull || s.fills }

/-- The loop of `sl_tx_wakeup`; `tb` is its measure. -/
def slTxLoop : Nat → SlM Unit
  | 0 => pure ()
  | fuel + 1 => do
      let s ← get
      match s.tb with
      | [] => pure ()
      | m :: rest => do
          slTransmit m rest
          let s ← get
          if s.fills then pure () else slTxLoop fuel

def slTxWakeup : SlM Unit := ignoring do
  let s ← get
  if s.state.started then
    when (s.rack ≠ 0) slSendAck
    let s ← get
    when (s.flags.sendMsu && !s.tb.isEmpty && !s.flags.rtbFull) do
      slTxLoop s.tb.length
  else
    pure ()

def slCongestionNotice (onset : Bool) (cong disc : Nat) : SlM Unit := do
  let s ← get
  if onset then
    when (s.notify .congestOnset) do
      modify fun s =>
        { s with congOnsetInd :=
            Function.update s.congOnsetInd cong (s.congOnsetInd cong + 1) }
      when (s.congOnsetInd cong = 0) (ind .event)
  else
    when (s.notify .congestDiscd) do
      modify fun s =>
        { s with congDiscdInd :=
            Function.update s.congDiscdInd disc (s.congDiscdInd disc + 1) }
      when (s.congDiscdInd disc = 0) (ind .event)

def slCheckCongestion : SlM Unit := do
  let s ← get
  let (cong, disc) := congestion s.config s.mplev
    (qCount s.tb + qCount (s.rtb.map Sent.msg)) s.congStatus s.discStatus
  modify fun s => { s with congStatus := cong, discStatus := disc }
  when (cong ≠ s.congStatus ∨ disc ≠ s.discStatus) do
    if cong < s.congStatus then
      ignoring (ind (.linkCongestionCeased cong disc))
    else
      slCongestionNotice (decide (s.congStatus < cong)) cong disc
      ignoring (ind (.linkCongested cong disc))

def slLscPdu (m : Msg) : SlM Unit := do
  modify fun s => { s with tb := s.tb ++ [m] }
  ignoring slCheckCongestion
  slTxWakeup

end OpenSS7.M2pa
