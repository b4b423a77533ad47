import OpenSS7.Lib.Ledger
import OpenSS7.Sctp.Sack

/-!
The sending side of an association: the retransmission queue, what is counted
of it, and what transmission, acknowledgement and timeouts do to both.
-/

namespace OpenSS7.Sctp

open Serial Ledger

inductive State where
  | closed
  | listen
  | cookieWait
  | cookieEchoed
  | established
  | shutdownPending
  | shutdownSent
  | shutdownReceived
  | shutdownRecvwait
  | shutdownAckSent
  | unreachable
deriving DecidableEq

namespace State

/-- `SCTPF_SENDING` -/
def sending : State → Bool
  | cookieEchoed | established | shutdownPending | shutdownReceived
  | shutdownRecvwait => true
  | _ => false

/-- `SCTPF_RECEIVING` -/
def receiving : State → Bool
  | cookieEchoed | established | shutdownPending | shutdownSent => true
  | _ => false

/-- `SCTPF_CONNECTED` -/
def connected : State → Bool
  | established | shutdownPending | shutdownReceived | shutdownRecvwait => true
  | _ => false

/-- `SCTPF_CLOSING` -/
def closing : State → Bool
  | shutdownSent | shutdownAckSent => true
  | _ => false

/-- `SCTPF_DISCONNECTED` -/
def disconnected : State → Bool
  | closed | listen | unreachable => true
  | _ => false

end State

/-- `SCTP_FR_COUNT` -/
def frCount : UInt16 := 4

/-- Subtraction of `size_t`. -/
def sub64 (a b : Nat) : Nat := (a + 2 ^ 64 - b % 2 ^ 64) % 2 ^ 64

/-- The control block of a chunk on `rtxq`, which has been sent to `daddr`. -/
structure Tcb (danum : Nat) where
  tsn : Tsn
  dlen : Nat
  daddr : Fin danum
  sent : Bool
  retrans : Bool
  sacked : Bool
  ack : Bool
  nack : Bool
  sacks : UInt16
deriving DecidableEq

structure Daddr where
  inFlight : Nat
  ackAccum : Nat
  mAck : Tsn
  dropping : Bool
  cwnd : Nat
  ssthresh : Nat
  partialAck : Nat
  mtu : Nat
  dmps : Nat
  rto : Nat
deriving DecidableEq

def Daddr.reach (sd : Daddr) (tsn : Tsn) : Daddr :=
  if before sd.mAck tsn then { sd with mAck := tsn } else sd

/-- `sctp_dest_calc` for one destination, timers aside. -/
def Daddr.calc (sd : Daddr) : Daddr :=
  let accum := sd.ackAccum
  let sd :=
    if accum ≠ 0 then
      let sd :=
        if sd.cwnd ≤ sd.ssthresh then
          if sd.cwnd < sd.inFlight then
            { sd with cwnd := sd.cwnd + min accum sd.mtu }
          else sd
        else
          let partialAck := (sd.partialAck + accum) % 2 ^ 64
          if sd.cwnd ≤ sd.inFlight ∧ sd.cwnd ≤ partialAck then
            { sd with
              cwnd := sd.cwnd + sd.mtu
              partialAck := sub64 partialAck (sd.cwnd + sd.mtu) }
          else { sd with partialAck := partialAck }
      { sd with inFlight := sd.inFlight - accum, ackAccum := 0 }
    else sd
  if sd.dropping then
    let ssthresh := max (sd.cwnd / 2) (sd.mtu * 2)
    { sd with
      ssthresh := ssthresh
      cwnd := ssthresh
      partialAck := 0
      dropping := false }
  else sd

structure Sp (danum : Nat) where
  state : State
  tTsn : Tsn
  tAck : Tsn
  mTsn : Tsn
  pRwnd : Nat
  pRbuf : Nat
  sndbuf : Nat
  inFlight : Nat
  nrtxs : Nat
  nsack : Nat
  daddr : Fin danum → Daddr
  rtxq : List (Tcb danum)
  urgq : List Nat
  sndq : List Nat
  errq : List Nat
  sackf : BitVec 16
  lLsn : Tsn
  rqCount : Nat
  rx : Rx
  /-- How often a check of `normal` or `ensure` has failed. -/
  alarms : Nat
  /-- How far `t_tsn` and `t_ack` have moved. -/
  numSent : Nat
  numAcked : Nat
  /-- The TSNs of the chunks taken off `rtxq`. -/
  freed : List Tsn

/-- `sizeof(struct sctp_data) + dlen` -/
def dataLen (dlen : Nat) : Nat := 16 + dlen

def BundleCookie.attachData (ckp : BundleCookie) (dlen : Nat) :
    BundleCookie :=
  { ckp.attach (padc (dataLen dlen)) (dataLen dlen) with
    swnd := sub64 ckp.swnd dlen }

namespace Sp

variable {danum : Nat}

/-- `normal` and `ensure` -/
def check (sp : Sp danum) (ok : Bool) : Sp danum :=
  if ok then sp else { sp with alarms := sp.alarms + 1 }

def setDaddr (sp : Sp danum) (d : Fin danum) (sd : Daddr) : Sp danum :=
  { sp with daddr := Function.update sp.daddr d sd }

/-! ### Transmission -/

structure Bundling (danum : Nat) where
  sp : Sp danum
  ckp : BundleCookie
  res : Bool

def outstanding (sp : Sp danum) (d : Fin danum) (dlen : Nat) : Sp danum :=
  let sd := sp.daddr d
  { sp.setDaddr d { sd with inFlight := sd.inFlight + dlen } with
    inFlight := sp.inFlight + dlen }

/-- A chunk gets its TSN and goes on `rtxq`. -/
def transmit (sp : Sp danum) (d : Fin danum) (dlen : Nat) : Sp danum :=
  let cb : Tcb danum :=
    { tsn := sp.tTsn
      dlen := dlen
      daddr := d
      sent := true
      retrans := false
      sacked := false
      ack := false
      nack := false
      sacks := 0 }
  { sp.outstanding d dlen with
    tTsn := sp.tTsn + 1
    numSent := sp.numSent + 1
    rtxq := sp.rtxq ++ [cb] }

/-- The loop of `sctp_bundle_data_urgent` and `sctp_bundle_data_normal`. -/
def bundleData (d : Fin danum) :
    Sp danum → BundleCookie → List Nat → Bundling danum × List Nat
  | sp, ckp, [] => (⟨sp, ckp, false⟩, [])
  | sp, ckp, dlen :: rest =>
      let sd := sp.daddr d
      let plen := padc (dataLen dlen)
      if ckp.mrem = 0 ∨ ckp.swnd = 0 then (⟨sp, ckp, false⟩, dlen :: rest)
      else if ckp.mrem < plen ∧ plen ≤ sd.dmps then
        (⟨sp, ckp, true⟩, dlen :: rest)
      else if ckp.swnd < dlen ∧ sd.inFlight ≠ 0 then
        (⟨sp, ckp, false⟩, dlen :: rest)
      else bundleData d (sp.transmit d dlen) (ckp.attachData dlen) rest

def sctpBundleDataUrgent (sp : Sp danum) (d : Fin danum)
    (ckp : BundleCookie) : Bundling danum :=
  let (b, urgq) := bundleData d sp ckp sp.urgq
  { b with sp := { b.sp with urgq := urgq } }

def sctpBundleDataNormal (sp : Sp danum) (d : Fin danum)
    (ckp : BundleCookie) : Bundling danum :=
  let (b, sndq) := bundleData d sp ckp sp.sndq
  { b with sp := { b.sp with sndq := sndq } }

/-- `sp->nrtxs--`, after the check. -/
def unmark (sp : Sp danum) : Sp danum :=
  { sp.check (0 < sp.nrtxs) with nrtxs := sp.nrtxs - 1 }

/-- `sp->nsack--`, after the check. -/
def unsack (sp : Sp danum) : Sp danum :=
  { sp.check (0 < sp.nsack) with nsack := sp.nsack - 1 }

/-- One chunk of `rtxq` in `sctp_bundle_data_retrans`. -/
def retransmit (d : Fin danum) (b : Bundling danum) (cb : Tcb danum) :
    Bundling danum × Option (Tcb danum) :=
  let ⟨sp, ckp, _⟩ := b
  let plen := padc (dataLen cb.dlen)
  if ckp.mrem = 0 ∨ ckp.swnd = 0 then (b, none)
  else if !cb.retrans then (b, some cb)
  else if ckp.mrem < plen ∧ plen ≤ (sp.daddr d).dmps then
    ({ b with res := true }, none)
  else if ckp.swnd < cb.dlen ∧ cb.sacks ≠ frCount then (b, none)
  else
    ({ b with
        sp := sp.unmark.outstanding d cb.dlen
        ckp := ckp.attachData cb.dlen },
      some { cb with retrans := false, daddr := d })

def sctpBundleDataRetrans (sp : Sp danum) (d : Fin danum)
    (ckp : BundleCookie) : Bundling danum :=
  let (b, rtxq) := sweep (retransmit d) ⟨sp, ckp, false⟩ sp.rtxq
  { b with sp := { b.sp with rtxq := rtxq } }

/-! ### Acknowledgement -/

def creditAssoc (sp : Sp danum) (dlen : Nat) : Sp danum :=
  { sp.check (dlen ≤ sp.inFlight) with inFlight := sp.inFlight - dlen }

def creditDest (sp : Sp danum) (d : Fin danum) (dlen : Nat) : Sp danum :=
  let sd := sp.daddr d
  (sp.check (dlen ≤ sd.inFlight)).setDaddr d
    { sd with inFlight := sd.inFlight - dlen }

/-- A destination is credited by `sctp_dest_calc`. -/
def creditLater (sp : Sp danum) (d : Fin danum) (dlen : Nat) : Sp danum :=
  let sd := sp.daddr d
  (sp.check (sd.ackAccum + dlen ≤ sd.inFlight)).setDaddr d
    { sd with ackAccum := min (sd.ackAccum + dlen) sd.inFlight }

/-- One chunk of `rtxq` in `sctp_cumm_ack`. -/
def acknowledge (ack : Tsn) (sp : Sp danum) (cb : Tcb danum) :
    Option (Sp danum) :=
  if after cb.tsn ack then none
  else
    let sp :=
      if !cb.sacked then
        if cb.retrans then sp.unmark
        else (sp.creditLater cb.daddr cb.dlen).creditAssoc cb.dlen
      else sp.unsack
    some { sp with freed := sp.freed ++ [cb.tsn] }

def sctpCummAck (sp : Sp danum) (ack : Tsn) : Sp danum :=
  let sp := { sp with
    tAck := ack
    numAcked := sp.numAcked + (ack - sp.tAck).toNat
    daddr := fun d => (sp.daddr d).reach ack }
  let (sp, rtxq) := drain (acknowledge ack) sp sp.rtxq
  { sp with rtxq := rtxq }

def sctpDestCalc (sp : Sp danum) : Sp danum :=
  { sp.check (decide (∀ d, (sp.daddr d).ackAccum ≤ (sp.daddr d).inFlight)) with
    daddr := fun d => (sp.daddr d).calc }

/-- One chunk of `rtxq` where a SACK has no gap blocks. -/
def renege (sp : Sp danum) (cb : Tcb danum) :
    Sp danum × Option (Tcb danum) :=
  if cb.sacked then (sp.unsack, some { cb with sacked := false })
  else (sp, some cb)

def markGaps (ack : Tsn) : (Fin danum → Daddr) →
    List (BitVec 16 × BitVec 16) → List (Tcb danum) →
    (Fin danum → Daddr) × List (Tcb danum)
  | daddr, [], dp => (daddr, dp)
  | daddr, block :: gaps, dp =>
      let first := ack + block.1.setWidth 32
      let last := ack + block.2.setWidth 32
      if before last first then markGaps ack daddr gaps dp
      else
        let missing := dp.takeWhile fun cb => before cb.tsn first
        let dp := dp.dropWhile fun cb => before cb.tsn first
        let found := dp.takeWhile fun cb => !after cb.tsn last
        let dp := dp.dropWhile fun cb => !after cb.tsn last
        let daddr := found.foldl
          (fun daddr cb => Function.update daddr cb.daddr
            ((daddr cb.daddr).reach cb.tsn)) daddr
        let (daddr, rest) := markGaps ack daddr gaps dp
        (daddr, (missing.map fun cb => { cb with nack := true }) ++
          (found.map fun cb => { cb with ack := true }) ++ rest)

def fastRetransmit (sp : Sp danum) (cb : Tcb danum) : Sp danum × Tcb danum :=
  if !cb.retrans && !after cb.tsn (sp.daddr cb.daddr).mAck then
    let cb := { cb with sacks := cb.sacks + 1 }
    if cb.sacks = frCount then
      let sp := { sp with nrtxs := sp.nrtxs + 1 }
      let sp := sp.setDaddr cb.daddr
        { sp.daddr cb.daddr with dropping := true }
      ((sp.creditDest cb.daddr cb.dlen).creditAssoc cb.dlen,
        { cb with retrans := true })
    else (sp, cb)
  else (sp, cb)

/-- One chunk of `rtxq` in the walk over the marked chunks. -/
def walk (sp : Sp danum) (cb : Tcb danum) : Sp danum × Option (Tcb danum) :=
  if cb.ack then
    let cb := { cb with ack := false }
    if !cb.sacked then
      let cb := { cb with sacked := true }
      let sp := { sp with nsack := sp.nsack + 1 }
      if cb.retrans then (sp.unmark, some { cb with retrans := false })
      else
        ((sp.creditDest cb.daddr cb.dlen).creditAssoc cb.dlen, some cb)
    else (sp, some cb)
  else if cb.nack then
    let cb := { cb with nack := false }
    let (sp, cb) := sp.fastRetransmit cb
    if cb.sacked then (sp.unsack, some { cb with sacked := false })
    else (sp, some cb)
  else (sp, none)

/-- A loop over `rtxq`. -/
def sweepRtxq (sp : Sp danum)
    (act : Sp danum → Tcb danum → Sp danum × Option (Tcb danum)) :
    Sp danum :=
  let (sp, rtxq) := sweep act sp sp.rtxq
  { sp with rtxq := rtxq }

/-- The chunks of `rtxq` as the gap blocks mark them. -/
def marked (sp : Sp danum) (ack : Tsn) (gaps : List (BitVec 16 × BitVec 16)) :
    Sp danum :=
  let (daddr, rtxq) := markGaps ack sp.daddr gaps sp.rtxq
  { sp with daddr := daddr, rtxq := rtxq }

/-- What `sctp_recv_sack` makes of the blocks of a SACK that acknowledges
nothing new cumulatively. -/
def processGaps (sp : Sp danum) (m : Sack) : Sp danum :=
  if m.ngaps = 0 then
    if sp.nsack = 0 then sp else sp.sweepRtxq renege
  else if ∃ d, (sp.daddr d).inFlight ≠ 0 ∧ 0 < (sp.daddr d).rto then
    (sp.marked m.cTsn (m.gaps.take m.ngaps.toNat)).sweepRtxq walk
  else sp

def sctpRecvSack (sp : Sp danum) (m : Sack) : Sp danum :=
  if !sp.state.sending then sp
  else if m.len.toNat < sackLen m.ngaps.toNat m.ndups.toNat then sp
  else if before m.cTsn sp.tAck then sp
  else
    let rwnd := m.aRwnd.toNat
    let sp := { sp with pRbuf := max sp.pRbuf rwnd, pRwnd := rwnd }
    (if after m.cTsn sp.tAck then sp.sctpCummAck m.cTsn
      else sp.processGaps m).sctpDestCalc

def sctpShutdownAckCalc (sp : Sp danum) (ack : Tsn) : Sp danum :=
  if before ack sp.tAck then sp
  else
    (if after ack sp.tAck then sp.sctpCummAck ack else sp).sctpDestCalc

def sctpRecvShutdown (sp : Sp danum) (ack : Tsn) : Sp danum :=
  if !(sp.state.connected || sp.state.closing) then sp
  else if sp.rx.ngaps ≠ 0 then { sp with state := .closed }
  else
    match sp.state with
    | .established =>
        { sp with state := .shutdownReceived }.sctpShutdownAckCalc ack
    | .shutdownPending =>
        { sp with state := .shutdownRecvwait }.sctpShutdownAckCalc ack
    | .shutdownReceived => sp.sctpShutdownAckCalc ack
    | .shutdownRecvwait => sp.sctpShutdownAckCalc ack
    | .shutdownSent => sp.sctpShutdownAckCalc ack
    | _ => sp

/-! ### Timeouts -/

/-- One chunk of `rtxq` in `__sctp_retrans_timeout`. -/
def timeoutRetrans (d : Fin danum) (sp : Sp danum) (cb : Tcb danum) :
    Sp danum × Option (Tcb danum) :=
  if cb.daddr = d ∧ cb.sent = true ∧ cb.retrans = false ∧
      cb.sacked = false then
    (({ sp with nrtxs := sp.nrtxs + 1 }.creditDest d cb.dlen).creditAssoc
        cb.dlen,
      some { cb with retrans := true, sacks := frCount })
  else (sp, some cb)

def sctpRetransTimeout (sp : Sp danum) (d : Fin danum) : Sp danum :=
  if !sp.state.connected then sp else sp.sweepRtxq (timeoutRetrans d)

/-- One chunk of `rtxq` in `__sctp_cookie_timeout`. -/
def timeoutCookie (d : Fin danum) (sp : Sp danum) (cb : Tcb danum) :
    Sp danum × Option (Tcb danum) :=
  if cb.daddr = d ∧ cb.sent = true ∧ cb.retrans = false then
    ({ sp with nrtxs := sp.nrtxs + 1 },
      some { cb with retrans := true, sacks := frCount })
  else (sp, some cb)

/-- The COOKIE ECHO goes out again, to the destination that the route leads
to, with the chunks that hang on `sp->retry`. -/
def sctpCookieTimeout (sp : Sp danum) (taddr : Fin danum)
    (route : Option (Fin danum)) (retry : List Tsn) : Sp danum :=
  if sp.state ≠ .cookieEchoed then sp
  else
    let sp := sp.sweepRtxq (timeoutCookie taddr)
    match route with
    | none => sp
    | some d =>
        { sp with
          rtxq := sp.rtxq.map fun cb =>
            if cb.tsn ∈ retry then { cb with daddr := d } else cb }

/-! ### Runs -/

inductive Event (danum : Nat) where
  | write (urgent : Bool) (dlen : Nat)
  | bundleUrgent (d : Fin danum) (ckp : BundleCookie)
  | bundleNormal (d : Fin danum) (ckp : BundleCookie)
  | bundleRetrans (d : Fin danum) (ckp : BundleCookie)
  | sack (m : Sack)
  | shutdown (ack : Tsn)
  | retransTimeout (d : Fin danum)
  | cookieTimeout (taddr : Fin danum) (route : Option (Fin danum))
      (retry : List Tsn)
  | state (state : State)
  | rto (d : Fin danum) (rto : Nat)

def handle (sp : Sp danum) : Event danum → Sp danum
  | .write true dlen => { sp with urgq := sp.urgq ++ [dlen] }
  | .write false dlen => { sp with sndq := sp.sndq ++ [dlen] }
  | .bundleUrgent d ckp => (sp.sctpBundleDataUrgent d ckp).sp
  | .bundleNormal d ckp => (sp.sctpBundleDataNormal d ckp).sp
  | .bundleRetrans d ckp => (sp.sctpBundleDataRetrans d ckp).sp
  | .sack m => sp.sctpRecvSack m
  | .shutdown ack => sp.sctpRecvShutdown ack
  | .retransTimeout d => sp.sctpRetransTimeout d
  | .cookieTimeout taddr route retry =>
      sp.sctpCookieTimeout taddr route retry
  | .state state => { sp with state := state }
  | .rto d rto => sp.setDaddr d { sp.daddr d with rto := rto }

def run (sp : Sp danum) (events : List (Event danum)) : Sp danum :=
  events.foldl handle sp

/-- The association before anything is sent; the first TSN is `tag`. -/
def initial (tag : Tsn) (state : State) (dests : Fin danum → Daddr)
    (rwnd sndbuf : Nat) (rx : Rx) : Sp danum where
  state := state
  tTsn := tag
  tAck := tag - 1
  mTsn := tag - 1
  pRwnd := rwnd
  pRbuf := rwnd
  sndbuf := sndbuf
  inFlight := 0
  nrtxs := 0
  nsack := 0
  daddr := fun d => { dests d with
    inFlight := 0
    ackAccum := 0
    mAck := tag - 1
    dropping := false
    partialAck := 0 }
  rtxq := []
  urgq := []
  sndq := []
  errq := []
  sackf := 0
  lLsn := 0
  rqCount := 0
  rx := rx
  alarms := 0
  numSent := 0
  numAcked := 0
  freed := []

def Along (met : Sp danum → Event danum → Prop) :
    Sp danum → List (Event danum) → Prop
  | _, [] => True
  | sp, event :: events => met sp event ∧ Along met (sp.handle event) events

theorem Along.run {met : Sp danum → Event danum → Prop}
    {kept : Sp danum → Prop}
    (step : ∀ {sp} event, kept sp → met sp event → kept (sp.handle event))
    {sp : Sp danum} {events : List (Event danum)} (start : kept sp)
    (along : Along met sp events) : kept (sp.run events) := by
  induction events generalizing sp with
  | nil => exact start
  | cons event events ih => exact ih (step event start along.1) along.2

end Sp

end OpenSS7.Sctp
