import OpenSS7.Sctp.Sender

/-!
The packets that `sctp_bundle_more` puts together: the window that the data of
a packet may take, and the length that `sctp_send_msg` expects of it.
-/

namespace OpenSS7.Sctp

open Serial Ledger

structure Grants where
  sack : Bool
  cwr : Bool
  urgent : Nat
  retrans : Nat
  normal : Nat
deriving DecidableEq

/-- `SCTP_SACKF_NOW` -/
def sackfNow : BitVec 16 := 0x01fe

/-- `SCTP_SACKF_ANY` -/
def sackfAny : BitVec 16 := 0x01ff

/-- `SCTP_SACKF_ECN` -/
def sackfEcn : BitVec 16 := 0x0100

/-- `SCTP_SACKF_CWR` -/
def sackfCwr : BitVec 16 := 0x1000

/-- `sizeof(struct sctp_cwr)` -/
def cwrLen : Nat := 8

/-- `sizeof(struct sctphdr)` -/
def headerLen : Nat := 12

namespace Sp

variable {danum : Nat}

def sctpAvail (sp : Sp danum) (d : Fin danum) : Nat :=
  let sd := sp.daddr d
  let cwnd := (sd.cwnd + sd.mtu + 1) % 2 ^ 64 - sd.inFlight
  let rwnd := min sp.pRwnd sp.sndbuf - sp.inFlight
  let swnd := min cwnd rwnd
  if sp.inFlight ≠ 0 then swnd else cwnd

/-! ### Control chunks -/

def ecne (sp : Sp danum) : Option Tsn :=
  if sp.sackf &&& sackfEcn ≠ 0 then some sp.lLsn else none

/-- The receiving side, as `sctp_bundle_sack` finds it. -/
def receiver (sp : Sp danum) : Rx :=
  { sp.rx with receiving := sp.state.receiving }

def clearSackf (sp : Sp danum) (flags : BitVec 16) : Sp danum :=
  { sp with sackf := sp.sackf &&& ~~~flags }

def sctpBundleSack (sp : Sp danum) (d : Fin danum) (granted : Bool)
    (ckp : BundleCookie) : Bundling danum :=
  match sp.receiver.sctpBundleSack sp.ecne (sp.daddr d).dmps ckp with
  | .outstate => ⟨sp.clearSackf sackfAny, ckp, false⟩
  | .wait => ⟨sp, ckp, true⟩
  | .attached _ ckp' =>
      if granted then
        ⟨{ sp.clearSackf sackfAny with rx := sp.rx.sacked }, ckp', false⟩
      else ⟨sp, ckp, false⟩

/-- The loop of `sctp_bundle_error`, and what stays on `errq`. -/
def bundleErrors (dmps : Nat) :
    BundleCookie → List Nat → (BundleCookie × Bool) × List Nat
  | ckp, [] => ((ckp, false), [])
  | ckp, clen :: rest =>
      let plen := padc clen
      if ckp.mrem = 0 then ((ckp, false), clen :: rest)
      else if ckp.mrem < plen ∧ plen ≤ dmps then ((ckp, true), clen :: rest)
      else bundleErrors dmps (ckp.attach plen clen) rest

def errorsWait (state : State) : Bool :=
  state == .cookieEchoed || state.disconnected

def sctpBundleError (sp : Sp danum) (d : Fin danum) (ckp : BundleCookie) :
    Bundling danum :=
  if errorsWait sp.state then ⟨sp, ckp, false⟩
  else
    let ((ckp, res), errq) := bundleErrors (sp.daddr d).dmps ckp sp.errq
    ⟨{ sp with errq := errq }, ckp, res⟩

def sctpBundleCwr (sp : Sp danum) (d : Fin danum) (granted : Bool)
    (ckp : BundleCookie) : Bundling danum :=
  let plen := padc cwrLen
  if !sp.state.receiving then ⟨sp.clearSackf sackfCwr, ckp, false⟩
  else if ckp.mrem ≤ cwrLen ∧ plen ≤ (sp.daddr d).dmps then ⟨sp, ckp, true⟩
  else if granted then
    ⟨sp.clearSackf sackfCwr, ckp.attach plen plen, false⟩
  else ⟨sp, ckp, false⟩

/-! ### Data chunks -/

/-- The loop `bundleData` where only so many messages can be duplicated. -/
def bundleDups (d : Fin danum) :
    Nat → Sp danum → BundleCookie → List Nat → Bundling danum × List Nat
  | _, sp, ckp, [] => (⟨sp, ckp, false⟩, [])
  | dups, sp, ckp, dlen :: rest =>
      let sd := sp.daddr d
      let plen := padc (dataLen dlen)
      if ckp.mrem = 0 ∨ ckp.swnd = 0 then (⟨sp, ckp, false⟩, dlen :: rest)
      else if ckp.mrem < plen ∧ plen ≤ sd.dmps then
        (⟨sp, ckp, true⟩, dlen :: rest)
      else if ckp.swnd < dlen ∧ sd.inFlight ≠ 0 then
        (⟨sp, ckp, false⟩, dlen :: rest)
      else
        match dups with
        | 0 => (⟨sp, ckp, true⟩, dlen :: rest)
        | dups + 1 =>
            bundleDups d dups (sp.transmit d dlen) (ckp.attachData dlen) rest

def bundleUrgent (sp : Sp danum) (d : Fin danum) (dups : Nat)
    (ckp : BundleCookie) : Bundling danum :=
  let (b, urgq) := bundleDups d dups sp ckp sp.urgq
  { b with sp := { b.sp with urgq := urgq } }

def bundleNormal (sp : Sp danum) (d : Fin danum) (dups : Nat)
    (ckp : BundleCookie) : Bundling danum :=
  let (b, sndq) := bundleDups d dups sp ckp sp.sndq
  { b with sp := { b.sp with sndq := sndq } }

/-- The treatment `retransmit` where only so many messages can be
duplicated. -/
def retransmitDup (d : Fin danum) (s : Nat × Bundling danum)
    (cb : Tcb danum) : (Nat × Bundling danum) × Option (Tcb danum) :=
  match retransmit d s.2 cb with
  | (b, none) => ((s.1, b), none)
  | (b, some cb') =>
      if !cb.retrans then ((s.1, b), some cb')
      else
        match s.1 with
        | 0 => ((0, { s.2 with res := true }), none)
        | dups + 1 => ((dups, b), some cb')

def bundleRetrans (sp : Sp danum) (d : Fin danum) (dups : Nat)
    (ckp : BundleCookie) : Bundling danum :=
  let ((_, b), rtxq) :=
    sweep (retransmitDup d) (dups, ⟨sp, ckp, false⟩) sp.rtxq
  { b with sp := { b.sp with rtxq := rtxq } }

/-! ### A packet -/

structure Bundle (danum : Nat) where
  sp : Sp danum
  ckp : BundleCookie
  max : Bool
  rtn : Nat

def Bundle.add (b : Bundle danum) (ready : Sp danum → Bool) (counts : Bool)
    (bundle : Sp danum → BundleCookie → Bundling danum) : Bundle danum :=
  if b.ckp.mrem ≠ 0 ∧ ready b.sp then
    let more := bundle b.sp b.ckp
    { sp := more.sp
      ckp := more.ckp
      max := b.max || more.res
      rtn := b.rtn + (counts && more.res).toNat }
  else b

/-- The arguments for a packet that is `mlen` octets long so far. -/
def cookie (sp : Sp danum) (d : Fin danum) (mlen : Nat) : BundleCookie where
  mrem := (sp.daddr d).dmps + headerLen - mlen
  mlen := mlen
  swnd := sp.sctpAvail d
  chain := []

def bundles (sp : Sp danum) (ckp : BundleCookie) (nonagle : Nat) : Bool :=
  let size := (sp.sndq.map dataLen).sum
  let pbuf := sp.pRbuf / 2
  decide (
    (sp.sackf &&& sackfNow ≠ 0 ∧ sp.rqCount = 0) ∨
    sp.nrtxs ≠ 0 ∨
    sp.urgq ≠ [] ∨
    sp.errq ≠ [] ∨
    ((sp.inFlight = 0 ∨ nonagle = 1) ∧ sp.sndq ≠ []) ∨
    (ckp.mrem ≤ size ∧ ckp.mrem ≤ ckp.swnd) ∨
    (pbuf ≤ size ∧ pbuf ≤ ckp.swnd) ∨
    before sp.mTsn sp.tAck = false)

def Bundle.sack (b : Bundle danum) (d : Fin danum) (g : Grants) :
    Bundle danum :=
  b.add (fun sp => sp.sackf &&& sackfAny ≠ 0) false
    fun sp ckp => sp.sctpBundleSack d g.sack ckp

def Bundle.error (b : Bundle danum) (d : Fin danum) : Bundle danum :=
  b.add (fun sp => sp.errq ≠ []) false
    fun sp ckp => sp.sctpBundleError d ckp

def Bundle.cwr (b : Bundle danum) (d : Fin danum) (g : Grants) :
    Bundle danum :=
  b.add (fun sp => sp.sackf &&& sackfCwr ≠ 0 ∧ sp.sndq ≠ []) false
    fun sp ckp => sp.sctpBundleCwr d g.cwr ckp

def bundleControl (sp : Sp danum) (d : Fin danum) (g : Grants)
    (ckp : BundleCookie) : Bundle danum :=
  let b : Bundle danum := ⟨sp, ckp, false, 0⟩
  ((b.sack d g).error d).cwr d g

def Bundle.urgent (b : Bundle danum) (d : Fin danum) (g : Grants) :
    Bundle danum :=
  b.add (fun sp => sp.urgq ≠ []) true
    fun sp ckp => sp.bundleUrgent d g.urgent ckp

def Bundle.retrans (b : Bundle danum) (d : Fin danum) (g : Grants) :
    Bundle danum :=
  b.add (fun sp => sp.nrtxs ≠ 0) false
    fun sp ckp => sp.bundleRetrans d g.retrans ckp

def Bundle.normal (b : Bundle danum) (d : Fin danum) (g : Grants) :
    Bundle danum :=
  b.add (fun sp => sp.sndq ≠ []) true
    fun sp ckp => sp.bundleNormal d g.normal ckp

def Bundle.data (b : Bundle danum) (d : Fin danum) (g : Grants) :
    Bundle danum :=
  ((b.urgent d g).retrans d g).normal d g

/-- What `sctp_bundle_more` leaves: the length in the leading control block,
and the arguments with the chunks linked behind the leading block. -/
structure Packet (danum : Nat) where
  sp : Sp danum
  ckp : BundleCookie
  dlen : Nat
  rtn : Nat

/-- The leading block holds `mlen` octets, which its control block says. -/
def sctpBundleMore (sp : Sp danum) (d : Fin danum) (mlen : Nat)
    (nonagle : Nat) (g : Grants) : Packet danum :=
  let ckp := sp.cookie d mlen
  if sp.bundles ckp nonagle then
    let b := sp.bundleControl d g ckp
    if b.ckp.swnd ≠ 0 then
      let b := b.data d g
      let sp' :=
        if !b.max ∧ b.sp.sndq ≠ [] ∧ after b.sp.tTsn sp.tTsn then
          -- sent a short packet
          { b.sp with mTsn := sp.tTsn }
        else if sp.inFlight % 2 ^ 32 = 0 then
          { b.sp with mTsn := b.sp.tAck }
        else b.sp
      ⟨sp', b.ckp, b.ckp.mlen, b.rtn⟩
    else ⟨b.sp, b.ckp, mlen, b.rtn⟩
  else ⟨sp, ckp, mlen, 0⟩

/-! ### What the loops do with a chunk -/

def Takes (sp : Sp danum) (d : Fin danum) (ckp : BundleCookie) (dlen : Nat) :
    Prop :=
  ¬(ckp.mrem = 0 ∨ ckp.swnd = 0) ∧
    ¬(ckp.mrem < padc (dataLen dlen) ∧
      padc (dataLen dlen) ≤ (sp.daddr d).dmps) ∧
    ¬(ckp.swnd < dlen ∧ (sp.daddr d).inFlight ≠ 0)

instance (sp : Sp danum) (d : Fin danum) (ckp : BundleCookie) (dlen : Nat) :
    Decidable (sp.Takes d ckp dlen) :=
  inferInstanceAs (Decidable (_ ∧ _ ∧ _))

section Loops

variable {d : Fin danum} {dups dlen : Nat} {sp : Sp danum}
  {ckp : BundleCookie} {rest : List Nat}

end Loops

end Sp

end OpenSS7.Sctp
