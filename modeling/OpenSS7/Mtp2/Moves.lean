import OpenSS7.Mtp2.Reception

/-!
What the machinery around the transmit window can do to it. The part of the
state that the sequence-number properties speak of is its `View`; every
function below the acknowledgement of messages changes the view by `Move`s
only, so a property closed under moves is kept by all of them.
-/

namespace OpenSS7.Mtp2

open Program

structure View where
  option : Options
  config : Config
  snMask : Nat
  ibMask : Nat
  indMem : List Bool
  tb : List Msu
  rtb : List Msu
  rtbFull : Bool
  clearRtb : Bool
  txFFsn : Nat
  txLFsn : Nat
  txXFsn : Nat
  txNBib : Nat
  txNFib : Nat
  txRBib : Nat
  Cm : Int
  Ct : Int
  rxXFsn : Nat
  rxFFsn : Nat
  rxTFsn : Nat
  rxRBsn : Nat
  rxRBib : Nat
  rxRFsn : Nat
  rxLen : Nat
  sent : List Su
  submitted : List (List UInt8)
  accepted : List (List UInt8)
  released : List Msu
  acked : Nat
  underrun : Bool
  crossed : Bool
  reopened : Bool

def Sl.view (s : Sl) : View where
  option := s.option
  config := s.config
  snMask := s.snMask
  ibMask := s.ibMask
  indMem := s.env.indMem
  tb := s.tb
  rtb := s.rtb
  rtbFull := s.rtbFull
  clearRtb := s.clearRtb
  txFFsn := s.txFFsn
  txLFsn := s.txLFsn
  txXFsn := s.txXFsn
  txNBib := s.txNBib
  txNFib := s.txNFib
  txRBib := s.txRBib
  Cm := s.Cm
  Ct := s.Ct
  rxXFsn := s.rxXFsn
  rxFFsn := s.rxFFsn
  rxTFsn := s.rxTFsn
  rxRBsn := s.rxRBsn
  rxRBib := s.rxRBib
  rxRFsn := s.rxRFsn
  rxLen := s.rxLen
  sent := s.sent
  submitted := s.submitted
  accepted := s.accepted
  released := s.released
  acked := s.acked
  underrun := s.underrun
  crossed := s.crossed
  reopened := s.reopened

namespace View

def pred (v : View) (x : Nat) : Nat := (x + v.snMask) % (v.snMask + 1)

def succ (v : View) (x : Nat) : Nat := (x + 1) % (v.snMask + 1)

/-- The header of a unit numbered `fsn`. -/
def header (v : View) (fsn : Nat) : Header :=
  { bsn := v.pred v.txXFsn, bib := v.txNBib, fsn := fsn, fib := v.txNFib }

def msuHeader (v : View) (m : Msu) (fsn : Nat) : List UInt8 :=
  slDaedtMsuHeader v.option.xsn (v.header fsn) m.size

def send (v : View) (su : Su) : View := { v with sent := v.sent ++ [su] }

/-- The head `m` of `tb` is sent for the first time. -/
def first (v : View) (m : Msu) (rest : List Msu) (full : Bool) : View :=
  let hdr := v.msuHeader m (v.succ v.txLFsn)
  { v with
    tb := rest
    Cm := v.Cm - 1
    txLFsn := v.succ v.txLFsn
    rxTFsn := v.succ v.txLFsn
    rtb := v.rtb ++ [{ m with hdr := hdr, fsn := v.succ v.txLFsn }]
    Ct := v.Ct + 1
    rtbFull := full }

def Free (v : View) : Prop :=
  v.rtbFull = false ∨
    v.option.pcr = true ∧ (v.rtb = [] ∨ qCount v.tb = 0)

def msu (v : View) (m : Msu) (fsn : Nat) : Su :=
  ⟨v.msuHeader m fsn ++ m.sdu, some m.idx, v.acked⟩

end View

inductive Move : View → View → Prop where
  | fisu (v : View) :
      Move v (v.send
        ⟨slDaedtFisuOctets v.option.xsn (v.header v.txLFsn), none, v.acked⟩)
  | lssu (v : View) (status : Lssu) :
      Move v (v.send
        ⟨slDaedtLssuOctets v.option.xsn (v.header v.txLFsn) status, none,
          v.acked⟩)
  | first (v : View) (m : Msu) (rest : List Msu) (full : Bool)
      (head : v.tb = m :: rest)
      (free : v.Free)
      (below : full = false → v.option.pcr = true →
        v.rtb.length + 1 < v.config.N1)
      (space : full = false → v.option.pcr = false →
        v.succ v.txLFsn ≠ v.pred (v.pred v.txFFsn)) :
      Move v ((v.first m rest full).send (v.msu m (v.succ v.txLFsn)))
  | again (v : View) (i : Nat) (m : Msu) (fsn : Nat)
      (found : v.rtb[i]? = some m) :
      Move v ({ v with
        rtb := v.rtb.set i { m with hdr := v.msuHeader m fsn }
        crossed := v.crossed || decide (m.fsn ≠ fsn) }.send (v.msu m fsn))
  | stray (v : View) (su : Su) :
      Move v ({ v with crossed := true }.send su)
  | clear (v : View)
      (below : v.option.pcr = true → v.rtb.length < v.config.N1) :
      Move v { v with
        rtbFull := false
        reopened := v.reopened ||
          (!v.option.pcr && decide (v.snMask ≤ v.rtb.length)) }
  | fsnx (v : View) (behind : v.txXFsn ≠ v.rxXFsn) :
      Move v { v with txXFsn := v.rxXFsn, acked := v.accepted.length }
  | nack (v : View) :
      Move v { v with txNBib := if v.txNBib ≠ 0 then 0 else v.ibMask }
  | fib (v : View) : Move v { v with txNFib := v.txRBib }
  | ind (v : View) : Move v { v with indMem := v.indMem.tail }

def Closed (J : View → Prop) : Prop := ∀ v v', Move v v' → J v → J v'

section Keeps

variable {J : View → Prop} {E : Sl → Prop}

theorem keeps_quiet {f : Sl → Sl} (quiet : ∀ s, (f s).view = s.view) :
    Keeps (fun s => J s.view) (modify f : SlM PUnit) :=
  keeps_modify fun s holds => by
    rw [quiet]
    exact holds

theorem suAlloc_total :
    Triple (fun s => J s.view) suAlloc (fun _ s => J s.view) E :=
  fun _ holds => holds

theorem sdtReq_keeps (r : SdtReq) : Keeps (fun s => J s.view) (sdtReq r) :=
  keeps_bind keeps_get fun _ => keeps_bind (keeps_quiet fun _ => rfl)
    fun _ => keeps_ite (keeps_quiet fun _ => rfl) (keeps_throw _)

theorem canputnextIq_total :
    Triple (fun s => J s.view) canputnextIq (fun _ s => J s.view) E :=
  fun _ holds => holds

theorem canputnextOq_keeps : Keeps (fun s => J s.view) canputnextOq :=
  fun _ holds => holds

variable (closed : Closed J)

include closed

theorem ind_keeps (i : Ind) : Keeps (fun s => J s.view) (ind i) :=
  keeps_bind keeps_get fun _ =>
    keeps_bind (keeps_modify fun _ holds => closed _ _ (.ind _) holds)
      fun _ => keeps_ite (keeps_quiet fun _ => rfl) (keeps_throw _)

end Keeps

theorem Closed.clear_pcr {J : View → Prop} (closed : Closed J) {v : View}
    (holds : J v) (pcr : v.option.pcr = true)
    (below : v.rtb.length < v.config.N1) : J { v with rtbFull := false } := by
  have cleared := closed _ _ (.clear v fun _ => below) holds
  simpa only [pcr, Bool.not_true, Bool.false_and, Bool.or_false] using cleared

def Passes (J : View → Prop) (su : Option Su) (s : Sl) : Prop :=
  match su with
  | some su => J (s.view.send su)
  | none => J s.view

section Transmission

variable {J : View → Prop} {E : Sl → Prop} (closed : Closed J)

include closed

theorem slTxcTransmitLssu_passes :
    Triple (fun s => J s.view) slTxcTransmitLssu (Passes J) E := by
  refine triple_bind suAlloc_total fun ok => triple_ite (fun _ => ?_)
    (fun _ => triple_pure fun _ holds => holds)
  intro s holds
  exact closed _ _ (.lssu s.view s.txSio) holds

theorem slTxcTransmitFisu_passes :
    Triple (fun s => J s.view) slTxcTransmitFisu (Passes J) E := by
  refine triple_bind suAlloc_total fun ok => triple_ite (fun _ => ?_)
    (fun _ => triple_pure fun _ holds => holds)
  intro s holds
  exact closed _ _ (.fisu s.view) holds

theorem slTxcRetransmit_passes (z : Nat) :
    Triple (fun s => J s.view) (slTxcRetransmit z)
      (fun su s => J (s.view.send su)) E := by
  refine triple_get_bind fun s holds => ?_
  split
  case h_1 i found =>
    rintro _ rfl
    obtain ⟨inside, _⟩ := List.findIdx?_eq_some_iff_findIdx_eq.1 found
    have at_ : s.rtb[i]? = some ((s.rtb[i]?).getD default) := by
      rw [List.getElem?_eq_getElem inside]
      rfl
    exact closed _ _ (.again s.view i _ s.retransFsn at_) holds
  case h_2 =>
    rintro _ rfl
    exact closed _ _ (.stray s.view _) holds

theorem slTxcTransmitNew_passes (m : Msu) (rest : List Msu) :
    Triple (fun s => J s.view ∧ s.view.Free ∧ s.view.tb = m :: rest)
      (slTxcTransmitNew m rest) (fun su s => J (s.view.send su)) E := by
  intro s ⟨holds, free, head⟩
  refine closed _ _ (.first s.view m rest _ head free ?_ ?_) holds
  · intro below pcr
    simp only [Bool.or_eq_false_iff, Sl.fills, decide_eq_false_iff_not] at below
    simp only [Sl.view]
    omega
  · intro space basic
    simp only [Sl.view] at basic
    simp only [Bool.or_eq_false_iff, basic, Bool.not_false, Bool.true_and,
      decide_eq_false_iff_not] at space
    exact space.2

theorem slTxcTransmitFirst_passes :
    Triple (fun s => J s.view ∧ s.view.Free) slTxcTransmitFirst (Passes J) E := by
  refine triple_get_bind fun s ⟨holds, free⟩ => ?_
  split
  case h_1 => exact triple_pure fun _ eq => eq ▸ holds
  case h_2 m rest head =>
    have alloc := suAlloc_total (E := E) (J := fun v =>
      J v ∧ v.Free ∧ v.tb = m :: rest)
    refine triple_bind (triple_conseq alloc (fun _ eq => ?_) (fun _ _ h => h)
      (fun _ h => h)) fun ok => triple_ite (fun _ => ?_) (fun _ => ?_)
    · exact eq ▸ ⟨holds, free, head⟩
    · exact triple_map (slTxcTransmitNew_passes closed m rest)
    · exact triple_pure fun _ h => h.1

theorem slTxcTransmitNext_passes :
    Triple (fun s => J s.view ∧ (s.option.pcr = true → s.view.Free))
      slTxcTransmitNext (Passes J) E := by
  refine triple_get_bind fun s ⟨holds, free⟩ => triple_ite
    (fun _ => triple_conseq (slTxcTransmitFisu_passes closed)
      (fun _ eq => eq ▸ holds) (fun _ _ h => h) (fun _ h => h))
    (fun busy => triple_conseq (slTxcTransmitFirst_passes closed)
      (fun _ eq => eq ▸ ⟨holds, ?_⟩) (fun _ _ h => h) (fun _ h => h))
  cases pcr : s.option.pcr with
  | true => exact free pcr
  | false =>
      simp only [Sl.idles, pcr, Bool.not_false, Bool.true_and, Bool.false_and,
        Bool.or_false, Bool.or_eq_true, not_or, Bool.not_eq_true] at busy
      exact Or.inl busy.2

/-- In the cyclic method a full `rtb` forces retransmissions as long as
messages wait. -/
def Forced (s : Sl) : Prop :=
  s.option.pcr = true → s.rtbFull = true → qCount s.tb ≠ 0 →
    s.forcedRetransmission = true

theorem slTxcTransmitDue_passes :
    Triple (fun s => J s.view ∧ Forced s) slTxcTransmitDue (Passes J) E := by
  refine triple_get_bind fun s ⟨holds, forced⟩ => triple_ite (fun due => ?_)
    (fun notDue => ?_)
  · split
    case h_1 z _ =>
      refine triple_bind (triple_conseq (suAlloc_total (J := J))
        (fun _ eq => eq ▸ holds) (fun _ _ h => h) (fun _ h => h))
        fun ok => triple_ite (fun _ => ?_) (fun _ => ?_)
      · exact triple_map (slTxcRetransmit_passes closed z)
      · exact triple_pure fun _ h => h
    case h_2 =>
      refine triple_ite (fun pcr => ?_) (fun basic => ?_)
      · split
        case h_1 m _ =>
          refine triple_bind (triple_conseq (suAlloc_total (J := J))
            (fun _ eq => eq ▸ holds) (fun _ _ h => h) (fun _ h => h))
            fun ok => triple_ite (fun _ => ?_) (fun _ => ?_)
          · exact triple_bind (triple_modify fun _ holds => holds) fun _ =>
              triple_map (slTxcRetransmit_passes closed m.id)
          · exact triple_pure fun _ h => h
        case h_2 empty =>
          refine triple_bind (triple_modify fun _ eq => eq ▸ ⟨holds, ?_⟩)
            fun _ => slTxcTransmitNext_passes closed
          intro _
          exact Or.inr ⟨pcr, Or.inl (List.head?_eq_none_iff.1 empty)⟩
      · refine triple_conseq (slTxcTransmitNext_passes closed)
          (fun _ eq => eq ▸ ⟨holds, fun pcr => absurd pcr basic⟩)
          (fun _ _ h => h) (fun _ h => h)
  · refine triple_conseq (slTxcTransmitNext_passes closed)
      (fun _ eq => eq ▸ ⟨holds, fun pcr => ?_⟩) (fun _ _ h => h)
      (fun _ h => h)
    simp only [Sl.retransmits, pcr, Bool.not_true, Bool.false_and,
      Bool.false_or, Bool.true_and, Bool.or_eq_true, not_or,
      Bool.not_eq_true] at notDue
    by_cases full : s.rtbFull = true
    · by_cases waiting : qCount s.tb = 0
      · exact Or.inr ⟨pcr, Or.inr waiting⟩
      · rw [forced pcr full waiting] at notDue
        exact absurd notDue.1 (by decide)
    · exact Or.inl (Bool.not_eq_true _ ▸ full)

theorem slTxcTransmitMsu_passes :
    Triple (fun s => J s.view) slTxcTransmitMsu (Passes J) E := by
  refine triple_bind (R := fun _ s => J s.view)
    (triple_modify fun s holds => ?_) fun _ =>
    triple_bind (R := fun _ s => J s.view ∧ Forced s)
      (triple_modify fun s holds => ?_) fun _ =>
        slTxcTransmitDue_passes closed
  · split
    case isTrue below =>
      simp only [Bool.and_eq_true, Sl.rtbBelow, decide_eq_true_eq] at below
      exact closed.clear_pcr holds below.1 below.2.1
    case isFalse => exact holds
  · split
    case isTrue => exact ⟨holds, fun _ _ _ => rfl⟩
    case isFalse idle =>
      refine ⟨holds, fun pcr full waiting => absurd ?_ idle⟩
      simp [pcr, full, waiting]

theorem slTxcTransmissionRequest_passes :
    Triple (fun s => J s.view) slTxcTransmissionRequest (Passes J) E :=
  triple_bind (triple_get fun _ holds => holds) fun _ => triple_ite
    (fun _ => triple_ite (fun _ => slTxcTransmitLssu_passes closed) fun _ =>
      triple_ite (fun _ => slTxcTransmitFisu_passes closed) fun _ =>
        slTxcTransmitMsu_passes closed)
    fun _ => triple_pure fun _ holds => holds

theorem transmit_total :
    Triple (fun s => J s.view) transmit (fun _ s => J s.view) E := by
  refine triple_bind (slTxcTransmissionRequest_passes closed) fun su => ?_
  cases su with
  | none => exact triple_pure fun _ holds => holds
  | some su =>
      exact triple_bind (triple_modify fun _ holds => holds) fun _ =>
        triple_pure fun _ holds => holds

theorem slTxWakeupLoop_total (fuel : Nat) :
    Triple (fun s => J s.view) (slTxWakeupLoop fuel) (fun _ s => J s.view)
      E := by
  induction fuel with
  | zero => exact triple_pure fun _ holds => holds
  | succ fuel ih =>
      have stop : Triple (fun s => J s.view) (pure () : SlM Unit)
          (fun _ s => J s.view) E := triple_pure fun _ holds => holds
      refine triple_bind (triple_get fun _ holds => holds) fun _ =>
        triple_ite (fun _ => ?_) fun _ => stop
      refine triple_bind canputnextIq_total fun _ =>
        triple_ite (fun _ => ?_) fun _ => stop
      exact triple_bind (transmit_total closed) fun _ =>
        triple_ite (fun _ => ih) fun _ => stop

theorem slTxWakeup_total :
    Triple (fun s => J s.view) slTxWakeup (fun _ s => J s.view) E :=
  triple_bind (triple_get fun _ holds => holds) fun _ =>
    slTxWakeupLoop_total closed _

theorem slDaedtTransmitterWakeup_total :
    Triple (fun s => J s.view) slDaedtTransmitterWakeup
      (fun _ s => J s.view) E :=
  triple_bind (triple_modify fun _ holds => holds) fun _ =>
    slTxWakeup_total closed

theorem slTxcSendLssu_keeps (status : Lssu) :
    Keeps (fun s => J s.view) (slTxcSendLssu status) :=
  keeps_bind (keeps_quiet fun _ => rfl) fun _ =>
    slDaedtTransmitterWakeup_total closed

theorem slTxcSendMsu_keeps : Keeps (fun s => J s.view) slTxcSendMsu :=
  keeps_bind (keeps_quiet fun _ => rfl) fun _ =>
    slDaedtTransmitterWakeup_total closed

theorem slTxcSendFisu_keeps : Keeps (fun s => J s.view) slTxcSendFisu :=
  keeps_bind (keeps_quiet fun _ => rfl) fun _ =>
    slDaedtTransmitterWakeup_total closed

theorem slTxcFsnxValue_keeps : Keeps (fun s => J s.view) slTxcFsnxValue := by
  refine triple_get_bind fun s holds => triple_ite (fun behind => ?_)
    (fun _ => triple_pure fun _ eq => eq ▸ holds)
  refine triple_bind (triple_modify fun _ eq => eq ▸ ?_)
    fun _ => slDaedtTransmitterWakeup_total closed
  exact closed _ _ (.fsnx s.view behind) holds

theorem slTxcNackToBeSent_keeps :
    Keeps (fun s => J s.view) slTxcNackToBeSent :=
  keeps_bind (keeps_modify fun _ holds => closed _ _ (.nack _) holds)
    fun _ => slDaedtTransmitterWakeup_total closed

end Transmission

end OpenSS7.Mtp2
