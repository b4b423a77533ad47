import OpenSS7.Mtp2.LinkState

/-!
The state of the M2PA signalling link module: the private structure that its
state machines read, the messages it exchanges with its peer as octets, and
what surrounds the module while it handles one event.
-/

namespace OpenSS7.M2pa

open Program

export Mtp2 (Config slDefault congestion SS7_PVAR_ITUT_93 SS7_PVAR_ITUT_96
  SS7_PVAR_ANSI_92 SL_FAIL_ABNORMAL_BSNR SL_FAIL_ABNORMAL_FIBR
  SL_FAIL_ALIGNMENT_NOT_POSSIBLE SL_FAIL_RECEIVED_SIO SL_FAIL_RECEIVED_SIN
  SL_FAIL_RECEIVED_SIE SL_FAIL_RECEIVED_SIOS SL_FAIL_T1_TIMEOUT
  SL_FAIL_CONG_TIMEOUT SL_FAIL_ACK_TIMEOUT)

def SS7_PVAR_ANSI_88 : Nat := 0x0300
def SS7_PVAR_ANSI_96 : Nat := 0x0302
def SS7_PVAR_ANSI_00 : Nat := 0x0303
def SS7_PVAR_JTTC_94 : Nat := 0x0401

/-- `i_version`: the drafts of the protocol and its final form. -/
inductive Version where
  | draft3
  | draft3_1
  | draft4
  | draft4_1
  | draft4_9
  | draft5
  | draft5_1
  | draft6
  | draft6_1
  | draft6_9
  | draft10
  | draft11
  | rfc4165
deriving DecidableEq

/-- `i_version >= M2PA_VERSION_DRAFT10` -/
def Version.late : Version → Bool
  | .draft10 | .draft11 | .rfc4165 => true
  | _ => false

def Version.short : Version → Bool
  | .draft4 | .draft4_1 => true
  | _ => false

def Version.bare : Version → Bool
  | .draft3 | .draft3_1 => true
  | _ => false

inductive LinkState where
  | powerOff
  | outOfService
  | notAligned
  | aligned
  | proving
  | alignedReady
  | alignedNotReady
  | inService
  | processorOutage
deriving DecidableEq

/-- `sl_get_state(sl) > MS_OUT_OF_SERVICE` -/
def LinkState.started : LinkState → Bool
  | .powerOff | .outOfService => false
  | _ => true

/-- `sl->flags` -/
structure Flags where
  lpo : Bool
  rpo : Bool
  locIns : Bool
  remIns : Bool
  locBusy : Bool
  remBusy : Bool
  locEmerg : Bool
  remEmerg : Bool
  recvMsu : Bool
  sendMsu : Bool
  congAccept : Bool
  congDiscard : Bool
  rtbFull : Bool
  l3CongDetect : Bool
  l2CongDetect : Bool
  continued : Bool
  clearRtb : Bool
  needFlush : Bool
  waitSync : Bool
  remAln : Bool
deriving DecidableEq

/-- `sl->flags = 0` -/
def Flags.none : Flags :=
  ⟨false, false, false, false, false, false, false, false, false, false,
    false, false, false, false, false, false, false, false, false, false⟩

section Octets

/-- `htons` and `htonl` -/
def be16 (n : Nat) : List UInt8 := [(n / 2 ^ 8).toUInt8, n.toUInt8]

def be32 (n : Nat) : List UInt8 :=
  [(n / 2 ^ 24).toUInt8, (n / 2 ^ 16).toUInt8, (n / 2 ^ 8).toUInt8, n.toUInt8]

/-- `ntohs` and `ntohl` of the octets from the front on. -/
def ntohs (octets : List UInt8) : Nat :=
  (octets.getD 0 0).toNat * 2 ^ 8 + (octets.getD 1 0).toNat

def ntohl (octets : List UInt8) : Nat :=
  (octets.getD 0 0).toNat * 2 ^ 24 + (octets.getD 1 0).toNat * 2 ^ 16 +
    (octets.getD 2 0).toNat * 2 ^ 8 + (octets.getD 3 0).toNat

def PAD4 (n : Nat) : Nat := (n + 3) / 4 * 4

theorem ntohs_be16 (n : Nat) (rest : List UInt8) :
    ntohs (be16 n ++ rest) = n % 2 ^ 16 := by
  simp only [ntohs, be16, List.cons_append, List.nil_append,
    List.getD_cons_zero, List.getD_cons_succ, UInt8.toNat_ofNat',
    Nat.toUInt8_eq]
  omega

theorem ntohl_be32 (n : Nat) (rest : List UInt8) :
    ntohl (be32 n ++ rest) = n % 2 ^ 32 := by
  simp only [ntohl, be32, List.cons_append, List.nil_append,
    List.getD_cons_zero, List.getD_cons_succ, UInt8.toNat_ofNat',
    Nat.toUInt8_eq]
  omega

end Octets

inductive MsgType where
  | data
  | status
  | proving
  | ack
deriving DecidableEq

/-- `M2PA_DATA_MESSAGE` and its kind, in host order. -/
def MsgType.code : MsgType → Nat
  | .data => 0x01000b01
  | .status => 0x01000b02
  | .proving => 0x01000b03
  | .ack => 0x01000b04

def MsgType.ofCode : Nat → Option MsgType
  | 0x01000b01 => some .data
  | 0x01000b02 => some .status
  | 0x01000b03 => some .proving
  | 0x01000b04 => some .ack
  | _ => none

inductive Status where
  | alignment
  | provingNormal
  | provingEmergency
  | inService
  | processorOutage
  | processorOutageEnded
  | busy
  | busyEnded
  | outOfService
  | ack
deriving DecidableEq

def Status.code : Status → Nat
  | .alignment => 1
  | .provingNormal => 2
  | .provingEmergency => 3
  | .inService => 4
  | .processorOutage => 5
  | .processorOutageEnded => 6
  | .busy => 7
  | .busyEnded => 8
  | .outOfService => 9
  | .ack => 10

def Status.ofCode : Nat → Option Status
  | 1 => some .alignment
  | 2 => some .provingNormal
  | 3 => some .provingEmergency
  | 4 => some .inService
  | 5 => some .processorOutage
  | 6 => some .processorOutageEnded
  | 7 => some .busy
  | 8 => some .busyEnded
  | 9 => some .outOfService
  | 10 => some .ack
  | _ => none

inductive Numbers where
  | bare
  | short (bsn fsn : Nat)
  | long (bsn fsn : Nat)
deriving DecidableEq

def Numbers.octets : Numbers → List UInt8
  | .bare => []
  | .short bsn fsn => be16 bsn ++ be16 fsn
  | .long bsn fsn => be32 bsn ++ be32 fsn

def Numbers.bsn : Numbers → Option Nat
  | .bare => none
  | .short bsn _ => some (bsn % 2 ^ 16)
  | .long bsn _ => some (bsn % 2 ^ 24)

structure Pdu where
  type : MsgType
  length : Nat
  numbers : Numbers
  body : List UInt8
deriving DecidableEq

def Pdu.octets (pdu : Pdu) : List UInt8 :=
  be32 pdu.type.code ++ be32 pdu.length ++ pdu.numbers.octets ++ pdu.body

/-- A message on `tb`: the octets of its blocks. -/
abbrev Msg := List (List UInt8)

/-- `msgdsize` -/
def Msg.size (m : Msg) : Nat := m.flatten.length

/-- A message on `rtb`, with the number it was sent under, which no code
reads. -/
structure Sent where
  fsn : Nat
  msg : Msg
deriving DecidableEq

def qCount (q : List Msg) : Nat := (q.map Msg.size).sum

/-- A message that has left `rtb`: its number, the backward sequence number
that released it and the one received before. -/
structure Release where
  fsn : Nat
  bsn : Nat
  bsnr : Nat
deriving DecidableEq

inductive Slip where
  | stopped
  | localOutage
  | resumed
  | resynchronised
  | recoveryUntold
deriving DecidableEq

/-- Steps that leave the numbers of the transmit window behind `rtb`. -/
inductive Misstep where
  | unset
  | restarted
  | overrun
  | miscounted
  | uncounted
  | purged
  | renumbered
  | retrieved
deriving DecidableEq

inductive Ind where
  | pdu (octets : List UInt8)
  | linkCongested (cong disc : Nat)
  | linkCongestionCeased (cong disc : Nat)
  | inService
  | outOfService (reason : Nat)
  | remoteProcessorOutage
  | remoteProcessorRecovered
  | rtbCleared
  | rbCleared
  | bsnt (bsnt : Nat)
  | retrievedMessage (octets : List UInt8)
  | retrievalComplete
  | retrievalNotPossible
  | event
deriving DecidableEq

inductive Notice where
  | rpoBegin
  | rpoEnd
  | failAlignment
  | failT1Timeout
  | failCongTimeout
  | failAckTimeout
  | failAbnormalBsnr
  | failAbnormalFibr
  | failReceivedSio
  | failReceivedSin
  | failReceivedSie
  | failReceivedSios
  | congestOnset
  | congestDiscd
deriving DecidableEq

inductive SlError where
  | ENOBUFS
  | EBUSY
  | EPROTO
  | EMSGSIZE
deriving DecidableEq

/-- What surrounds the module during one event: the outcomes of requests to
the transport, of allocations of indications and of `canputnext(oq)` and
`canput(oq)` in turn (success once a list is used up), and the octets in
memory after a received message. -/
structure Env where
  transport : List (Option SlError)
  indMem : List Bool
  above : List Bool
  room : List Bool
  beyond : List UInt8
deriving DecidableEq

def Env.calm : Env := ⟨[], [], [], [], []⟩

structure Sl where
  version : Version
  pvar : Nat
  nopr : Bool
  mplev : Bool
  config : Config
  notify : Notice → Bool
  env : Env
  state : LinkState
  flags : Flags
  rmsu : Nat
  tmsu : Nat
  rack : Nat
  tack : Nat
  fsnr : Nat
  bsnr : Nat
  fsnx : Nat
  fsnt : Nat
  back : Nat
  bbsn : Nat
  bfsn : Nat
  rb : List (List UInt8)
  tb : List Msg
  rtb : List Sent
  congStatus : Nat
  discStatus : Nat
  congOnsetInd : Nat → Nat
  congDiscdInd : Nat → Nat
  /- What the module has passed on during the event; a message to the peer
  with the number of messages passed upstream by then. -/
  sent : List (Pdu × Nat)
  inds : List Ind
  /- History since the last start, which no code reads: the messages put on
  `rb` with the forward sequence numbers they carried, those passed
  upstream, and those released from `rtb`. -/
  accepted : List (Nat × List UInt8)
  delivered : List (List UInt8)
  freed : List Release
  /- The slips made since the module was allocated, and the missteps since
  the sequence numbers were last set. -/
  slips : List Slip
  missteps : List Misstep

abbrev SlM := Program Sl SlError

/-- What a handler that succeeds tells its caller about the message:
`QR_DONE` or `QR_ABSORBED`. -/
inductive Qr where
  | done
  | absorbed
deriving DecidableEq

section Effects

/-- `ss7_allocb` and `putnext(oq)` of an indication. -/
def ind (i : Ind) : SlM Unit := do
  let s ← get
  modify fun s =>
    { s with env := { s.env with indMem := s.env.indMem.tail } }
  if s.env.indMem.headD true then
    modify fun s => { s with inds := s.inds ++ [i] }
  else
    throw .ENOBUFS

/-- `lmi_event_ind` where the event is to be notified. -/
def notice (n : Notice) : SlM Unit := do
  let s ← get
  if s.notify n then ind .event else pure ()

/-- `n_data_req` and `n_exdata_req` of a message. -/
def nDataReq (pdu : Pdu) : SlM Unit := do
  let s ← get
  modify fun s =>
    { s with env := { s.env with transport := s.env.transport.tail } }
  match s.env.transport.headD none with
  | none =>
      modify fun s => { s with sent := s.sent ++ [(pdu, s.delivered.length)] }
  | some err => throw err

/-- `canputnext(oq)` -/
def canputnextOq : SlM Bool := do
  let s ← get
  modify fun s => { s with env := { s.env with above := s.env.above.tail } }
  pure (s.env.above.headD true)

/-- `canput(oq)` -/
def canputOq : SlM Bool := do
  let s ← get
  modify fun s => { s with env := { s.env with room := s.env.room.tail } }
  pure (s.env.room.headD true)

def ignoring (m : SlM Unit) : SlM Unit := tryCatch m fun _ => pure ()

end Effects

end OpenSS7.M2pa
