import OpenSS7.M2pa.Retrieval
import OpenSS7.M2pa.Service

/-!
The flags that the recovery paths of the link set: what leaves them alone, and
where the messages of the peer lead to a link in service that carries traffic.
-/

namespace OpenSS7.M2pa

open Program

def LinkState.apart : LinkState → Bool
  | .inService | .alignedReady => false
  | _ => true

structure Duty where
  version : Version
  pvar : Nat
  nopr : Bool
  state : LinkState
  lpo : Bool
  rpo : Bool
  recvMsu : Bool
  sendMsu : Bool
  waitSync : Bool
  remIns : Bool
  needFlush : Bool
  continued : Bool
deriving DecidableEq

def Sl.duty (s : Sl) : Duty where
  version := s.version
  pvar := s.pvar
  nopr := s.nopr
  state := s.state
  lpo := s.flags.lpo
  rpo := s.flags.rpo
  recvMsu := s.flags.recvMsu
  sendMsu := s.flags.sendMsu
  waitSync := s.flags.waitSync
  remIns := s.flags.remIns
  needFlush := s.flags.needFlush
  continued := s.flags.continued

@[simp] theorem Sl.duty_nopr (s : Sl) : s.duty.nopr = s.nopr := rfl

namespace Duty

structure Carries (d : Duty) : Prop where
  apart : d.lpo = false ∧ d.rpo = false
  receives : d.recvMsu = true
  sends : d.sendMsu = true ∨ d.waitSync = true

structure Fit (d : Duty) : Prop where
  serves : d.state = .inService → d.Carries
  ready : d.state = .alignedReady → d.lpo = false

def Clear (d : Duty) : Prop :=
  d.lpo = false → d.remIns = true → d.rpo = false

end Duty

structure Relieved (J : Duty → Prop) : Prop where
  lpo : ∀ d, J d → J { d with lpo := false }
  rpo : ∀ d, J d → J { d with rpo := false }
  remIns : ∀ d, J d → J { d with remIns := false }
  stop : ∀ d, J d → J { d with state := .outOfService }

namespace Duty

theorem Fit.idle {d : Duty} (apart : d.state.apart = true) : d.Fit where
  serves serving := by
    rw [serving] at apart
    cases apart
  ready ready := by
    rw [ready] at apart
    cases apart

theorem Fit.serving {d : Duty} (serving : d.state = .inService)
    (carries : d.Carries) : d.Fit :=
  ⟨fun _ => carries, fun eq => by rw [serving] at eq; cases eq⟩

theorem fit_relieved : Relieved Fit where
  lpo _ fit :=
    ⟨fun eq =>
      { fit.serves eq with apart := ⟨rfl, (fit.serves eq).apart.2⟩ },
      fun _ => rfl⟩
  rpo _ fit :=
    ⟨fun eq =>
      { fit.serves eq with apart := ⟨(fit.serves eq).apart.1, rfl⟩ },
      fit.ready⟩
  remIns _ fit := ⟨fun eq => { fit.serves eq with }, fit.ready⟩
  stop _ _ := .idle rfl

def Spotless (d : Duty) : Prop := d.lpo = false ∧ d.rpo = false

theorem spotless_relieved : Relieved Spotless where
  lpo _ spotless := ⟨rfl, spotless.2⟩
  rpo _ spotless := ⟨spotless.1, rfl⟩
  remIns _ spotless := spotless
  stop _ spotless := spotless

end Duty

theorem Sl.apart_duty (s : Sl) {state : LinkState} (eq : s.state = state)
    (apart : state.apart = true) : s.duty.state.apart = true := by
  show s.state.apart = true
  rw [eq]
  exact apart

section Still

variable {J : Duty → Prop}

theorem keeps_still {f : Sl → Sl} (still : ∀ s, (f s).duty = s.duty) :
    Keeps (fun s => J s.duty) (modify f : SlM PUnit) :=
  keeps_modify fun s holds => by
    rw [still]
    exact holds

theorem ind_still (i : Ind) : Keeps (fun s => J s.duty) (ind i) :=
  keeps_bind keeps_get fun _ => keeps_bind (keeps_still fun _ => rfl)
    fun _ => keeps_ite (keeps_still fun _ => rfl) (keeps_throw _)

theorem notice_still (n : Notice) : Keeps (fun s => J s.duty) (notice n) :=
  keeps_bind keeps_get fun _ => keeps_ite (ind_still _) (keeps_pure _)

theorem nDataReq_still (pdu : Pdu) :
    Keeps (fun s => J s.duty) (nDataReq pdu) := by
  refine keeps_bind keeps_get fun s =>
    keeps_bind (keeps_still fun _ => rfl) fun _ => ?_
  split
  · exact keeps_still fun _ => rfl
  · exact keeps_throw _

theorem slSendStatus_still (status : Status) :
    Keeps (fun s => J s.duty) (slSendStatus status) :=
  keeps_bind keeps_get fun _ => nDataReq_still _

theorem slSendProving_still (status : Status) :
    Keeps (fun s => J s.duty) (slSendProving status) :=
  keeps_bind keeps_get fun _ =>
    keeps_ite (nDataReq_still _) (nDataReq_still _)

theorem slSendAck_still : Keeps (fun s => J s.duty) slSendAck := by
  refine keeps_bind keeps_get fun s => keeps_ite (keeps_pure _) ?_
  split
  · exact keeps_pure _
  · exact keeps_bind (nDataReq_still _) fun _ => keeps_still fun _ => rfl

theorem slTransmit_still (m : Msg) (rest : List Msg) :
    Keeps (fun s => J s.duty) (slTransmit m rest) :=
  keeps_bind (keeps_bind keeps_get fun _ => nDataReq_still _) fun _ =>
    keeps_bind (keeps_still fun _ => rfl) fun _ => keeps_still fun _ => rfl

theorem slTxLoop_still (fuel : Nat) :
    Keeps (fun s => J s.duty) (slTxLoop fuel) := by
  induction fuel with
  | zero => exact keeps_pure _
  | succ fuel ih =>
      refine keeps_bind keeps_get fun s => ?_
      split
      · exact keeps_pure _
      · exact keeps_bind (slTransmit_still _ _) fun _ =>
          keeps_bind keeps_get fun _ => keeps_ite (keeps_pure _) ih

theorem slTxWakeup_still : Keeps (fun s => J s.duty) slTxWakeup := by
  refine ignoring_keeps (keeps_bind keeps_get fun s =>
    keeps_ite ?_ (keeps_pure _))
  exact keeps_bind (keeps_when slSendAck_still) fun _ =>
    keeps_bind keeps_get fun _ => keeps_when (slTxLoop_still _)

theorem slCongestionNotice_still (onset : Bool) (cong disc : Nat) :
    Keeps (fun s => J s.duty) (slCongestionNotice onset cong disc) := by
  refine keeps_bind keeps_get fun s => keeps_ite ?_ ?_
  · exact keeps_when (keeps_bind (keeps_still fun _ => rfl) fun _ =>
      keeps_when (ind_still _))
  · exact keeps_when (keeps_bind (keeps_still fun _ => rfl) fun _ =>
      keeps_when (ind_still _))

theorem slCheckCongestion_still :
    Keeps (fun s => J s.duty) slCheckCongestion := by
  refine keeps_bind keeps_get fun s => keeps_bind (keeps_still fun _ => rfl)
    fun _ => keeps_when (keeps_ite (ignoring_keeps (ind_still _)) ?_)
  exact keeps_bind (slCongestionNotice_still _ _ _) fun _ =>
    ignoring_keeps (ind_still _)

theorem slLscPdu_still (m : Msg) : Keeps (fun s => J s.duty) (slLscPdu m) :=
  keeps_bind (keeps_still fun _ => rfl) fun _ =>
    keeps_bind (ignoring_keeps slCheckCongestion_still) fun _ =>
      slTxWakeup_still

theorem slSendReady_still : Keeps (fun s => J s.duty) slSendReady := by
  refine keeps_bind keeps_get fun s => ?_
  split
  · exact slTransmit_still _ _
  · exact slSendStatus_still _

theorem slProve_still : Keeps (fun s => J s.duty) slProve :=
  keeps_bind keeps_get fun _ => slSendProving_still _

theorem slBusy_still : Keeps (fun s => J s.duty) slBusy :=
  keeps_bind keeps_get fun _ =>
    keeps_when (keeps_bind (slSendStatus_still _) fun _ =>
      keeps_still fun _ => rfl)

theorem slNotBusy_still : Keeps (fun s => J s.duty) slNotBusy :=
  keeps_bind keeps_get fun _ =>
    keeps_bind (keeps_when (slSendStatus_still _)) fun _ =>
      keeps_still fun _ => rfl

theorem canputnextOq_still : Keeps (fun s => J s.duty) canputnextOq :=
  fun _ holds => holds

theorem canputOq_still : Keeps (fun s => J s.duty) canputOq :=
  fun _ holds => holds

theorem slRbOnset_still : Keeps (fun s => J s.duty) slRbOnset := by
  refine keeps_bind keeps_get fun s =>
    keeps_bind (reaches_keeps _ canputOq_still) fun _ => keeps_ite ?_ ?_
  · exact keeps_bind (keeps_still fun _ => rfl) fun _ =>
      keeps_bind slBusy_still fun _ => keeps_still fun _ => rfl
  · exact keeps_bind (reaches_keeps _ canputnextOq_still) fun _ => keeps_ite
      (keeps_bind (keeps_still fun _ => rfl) fun _ =>
        keeps_bind slBusy_still fun _ => keeps_still fun _ => rfl)
      (keeps_pure _)

theorem slRbAbate_still : Keeps (fun s => J s.duty) slRbAbate := by
  refine keeps_bind keeps_get fun s => keeps_ite ?_ (keeps_pure _)
  refine keeps_bind canputnextOq_still fun _ => keeps_ite ?_ (keeps_pure _)
  exact keeps_bind slNotBusy_still fun _ => keeps_still fun _ => rfl

theorem slRbCongestionFunction_still :
    Keeps (fun s => J s.duty) slRbCongestionFunction :=
  keeps_bind keeps_get fun _ => keeps_ite (keeps_pure _)
    (keeps_ite slRbAbate_still slRbOnset_still)

theorem slRpoBegins_still (told : Bool) (K : Duty → Prop)
    (begins : ∀ d, J d → K { d with rpo := true })
    (kept : ∀ d, J d → d.rpo = true → K d) :
    Triple (fun s => J s.duty) (slRpoBegins told) (fun _ s => K s.duty)
      (fun s => J s.duty) := by
  refine triple_get_bind fun s holds => triple_ite (fun rpo => ?_) fun _ => ?_
  · exact triple_pure fun _ eq => eq ▸ kept _ holds rpo
  · refine triple_bind (R := fun _ (s : Sl) => J s.duty) (triple_conseq
      (notice_still _) (fun _ eq => eq ▸ holds) (fun _ _ h => h)
      fun _ h => h) fun _ => triple_bind (keeps_when (ind_still _)) fun _ =>
      triple_modify fun s h => begins s.duty h

theorem slRxDeliver_still (fuel : Nat) :
    Keeps (fun s => J s.duty) (slRxDeliver fuel) := by
  induction fuel with
  | zero => exact keeps_pure _
  | succ fuel ih =>
      refine keeps_bind keeps_get fun s => ?_
      split
      · exact keeps_pure _
      · refine keeps_bind (ind_still _) fun _ =>
          keeps_bind (keeps_still fun _ => rfl) fun _ =>
          keeps_bind (ignoring_keeps slRbCongestionFunction_still) fun _ =>
          keeps_bind (keeps_still fun s => ?_) fun _ => ih
        split <;> rfl

theorem slRxWakeup_still : Keeps (fun s => J s.duty) slRxWakeup :=
  ignoring_keeps (keeps_bind keeps_get fun _ => keeps_when
    (keeps_bind (slRxDeliver_still _) fun _ => keeps_bind keeps_get
      fun _ => keeps_when slSendAck_still))

theorem Sl.duty_freeRetrieved (fsnc fuel : Nat) (s : Sl) :
    (s.freeRetrieved fsnc fuel).duty = s.duty := by
  induction fuel generalizing s with
  | zero => rfl
  | succ fuel ih =>
      unfold Sl.freeRetrieved
      split
      · rw [ih]
        simp only [Sl.duty]
      · rfl

theorem slRetrieveRtb_still (fuel : Nat) :
    Keeps (fun s => J s.duty) (slRetrieveRtb fuel) := by
  induction fuel with
  | zero => exact keeps_pure _
  | succ fuel ih =>
      refine keeps_bind keeps_get fun s => ?_
      split
      · exact keeps_pure _
      · exact keeps_bind (ind_still _) fun _ =>
          keeps_bind (keeps_still fun _ => rfl) fun _ => ih

theorem slRetrieveTb_still (fuel : Nat) :
    Keeps (fun s => J s.duty) (slRetrieveTb fuel) := by
  induction fuel with
  | zero => exact keeps_pure _
  | succ fuel ih =>
      refine keeps_bind keeps_get fun s => ?_
      split
      · exact keeps_pure _
      · exact keeps_bind (ind_still _) fun _ =>
          keeps_bind (keeps_still fun _ => rfl) fun _ => ih

theorem slLscRetrievalRequestAndFsnc_still (fsnc : Nat) :
    Keeps (fun s => J s.duty) (slLscRetrievalRequestAndFsnc fsnc) := by
  refine keeps_bind keeps_get fun s => ?_
  have retrieve : Keeps (fun s => J s.duty)
      (slRetrieve fsnc s.rtb.length s.tb.length) :=
    keeps_bind (keeps_still fun _ => rfl) fun _ =>
    keeps_bind (keeps_still fun s => s.duty_freeRetrieved fsnc _) fun _ =>
    keeps_bind (slRetrieveRtb_still _) fun _ =>
    keeps_bind (slRetrieveTb_still _) fun _ => ind_still _
  split <;> first
    | exact retrieve
    | exact keeps_bind (ind_still _) fun _ => keeps_throw _

theorem slLscRetrieveBsnt_still :
    Keeps (fun s => J s.duty) slLscRetrieveBsnt := by
  refine keeps_bind keeps_get fun s => ?_
  split <;> first
    | exact ignoring_keeps (ind_still _)
    | exact keeps_throw _

end Still

section Relief

variable {J : Duty → Prop} (relieved : Relieved J)

include relieved

theorem slLscStop_relieved : Keeps (fun s => J s.duty) slLscStop := by
  refine keeps_bind keeps_get fun _ => keeps_ite ?_ (keeps_pure _)
  refine keeps_bind (slSendStatus_still _) fun _ =>
    keeps_bind (keeps_modify fun s holds => relieved.lpo s.duty holds)
      fun _ => keeps_bind (keeps_when (keeps_bind (notice_still _) fun _ =>
        keeps_modify fun s holds => relieved.rpo s.duty holds)) fun _ =>
    keeps_modify fun s holds => ?_
  exact relieved.stop _ (relieved.remIns s.duty holds)

theorem fail_relieved (n : Notice) (reason : Nat) :
    Keeps (fun s => J s.duty) (fail n reason) :=
  keeps_bind (notice_still _) fun _ => keeps_bind keeps_get fun _ =>
    keeps_ite (keeps_bind (ind_still _) fun _ => slLscStop_relieved relieved)
      (keeps_pure _)

omit relieved in
theorem Sl.duty_release (bsn count : Nat) (s : Sl) :
    (s.release bsn count).2.duty = s.duty := by
  induction count generalizing s with
  | zero => rfl
  | succ count ih =>
      unfold Sl.release
      split
      · rfl
      · rw [ih]
        simp only [Sl.duty]

theorem slTxcDatack_relieved (bsn count : Nat) :
    Keeps (fun s => J s.duty) (slTxcDatack bsn count) := by
  refine keeps_bind keeps_get fun s => keeps_ite ?_ (keeps_pure _)
  refine keeps_bind (keeps_still fun s => Sl.duty_release bsn count s)
    fun _ => keeps_ite ?_ (keeps_ite (fail_relieved relieved _ _)
      (keeps_still fun _ => rfl))
  exact keeps_bind (keeps_still fun _ => rfl) fun _ =>
    keeps_bind (ignoring_keeps slCheckCongestion_still) fun _ =>
      slTxWakeup_still

theorem slBsnCheck_relieved (bsn : Nat) :
    Keeps (fun s => J s.duty) (slBsnCheck bsn) := by
  refine keeps_bind keeps_get fun s => keeps_ite ?_ ?_
  · refine keeps_bind (keeps_when ?_) fun _ => keeps_still fun _ => rfl
    exact keeps_bind (keeps_still fun _ => rfl) fun _ =>
      keeps_bind (slTxcDatack_relieved relieved _ _) fun _ =>
        keeps_still fun _ => rfl
  · exact keeps_bind keeps_get fun _ => keeps_ite
      (keeps_bind (fail_relieved relieved _ _) fun _ => keeps_throw _)
      (keeps_still fun s => by simp only [Sl.duty])

theorem slFsnCheck_relieved (fsn : Nat) (msu : Bool) :
    Keeps (fun s => J s.duty) (slFsnCheck fsn msu) := by
  refine keeps_bind keeps_get fun s => keeps_ite ?_ ?_
  · exact keeps_ite (keeps_pure _) (keeps_still fun _ => rfl)
  · refine keeps_ite (keeps_throw _) (keeps_ite ?_ ?_)
    · exact keeps_bind (fail_relieved relieved _ _) fun _ => keeps_throw _
    · exact keeps_bind (keeps_still fun s => by simp only [Sl.duty])
        fun _ => keeps_throw _

theorem slRcSnCheck_relieved (octets : List UInt8) :
    Keeps (fun s => J s.duty) (slRcSnCheck octets) := by
  refine keeps_bind keeps_get fun s => keeps_ite (keeps_pure _)
    (keeps_ite ?_ (keeps_throw _))
  exact keeps_bind (slFsnCheck_relieved relieved _ _) fun _ =>
    keeps_bind (slBsnCheck_relieved relieved _) fun _ => keeps_pure _

omit relieved in
theorem slReceive_still (fsn : Nat) (octets : List UInt8) :
    Keeps (fun s => J s.duty) (slReceive fsn octets) := by
  refine keeps_bind keeps_get fun s => keeps_ite (keeps_ite (keeps_throw _)
    (keeps_ite ?_ (keeps_pure _))) (keeps_throw _)
  exact keeps_bind (keeps_still fun _ => rfl) fun _ =>
    keeps_bind (ignoring_keeps slRbCongestionFunction_still) fun _ =>
    keeps_bind (keeps_still fun s => by simp only [Sl.duty]) fun _ =>
      keeps_pure _

theorem slRecvDatack_relieved (octets : List UInt8) :
    Keeps (fun s => J s.duty) (slRecvDatack octets) := by
  refine keeps_bind (keeps_still fun _ => rfl) fun _ =>
    keeps_bind keeps_get fun s => keeps_ite (keeps_ite (keeps_ite ?_
      (keeps_throw _)) (keeps_throw _)) (keeps_throw _)
  exact keeps_bind (keeps_still fun _ => rfl) fun _ =>
    keeps_bind (slTxcDatack_relieved relieved _ _) fun _ => keeps_pure _

end Relief

def Leads (d : Duty) {α : Type} (m : SlM α) : Prop :=
  Triple (fun s => s.duty = d) m (fun _ s => s.duty.Fit) fun s => s.duty.Fit

section Leading

open Duty

variable {d : Duty} {α β : Type}

theorem leads_of_fit {m : SlM α} (fit : d.Fit)
    (keeps : Keeps (fun s => s.duty.Fit) m) : Leads d m :=
  triple_conseq keeps (fun _ eq => eq ▸ fit) (fun _ _ h => h) fun _ h => h

theorem leads_pure (fit : d.Fit) (a : α) : Leads d (pure a : SlM α) :=
  triple_pure fun _ eq => eq ▸ fit

theorem leads_throw (fit : d.Fit) (e : SlError) :
    Leads d (throw e : SlM α) :=
  triple_throw fun _ eq => eq ▸ fit

theorem leads_still {m : SlM α} {f : α → SlM β} (fit : d.Fit)
    (still : ∀ J : Duty → Prop, Keeps (fun s => J s.duty) m)
    (rest : ∀ a, Leads d (f a)) : Leads d (m >>= f) :=
  triple_bind (triple_conseq (still fun e => e = d) (fun _ h => h)
    (fun _ _ h => h) fun _ eq => eq ▸ fit) rest

theorem leads_modify {f : Sl → Sl} (fit : ∀ s, s.duty = d → (f s).duty.Fit) :
    Leads d (modify f : SlM PUnit) :=
  triple_modify fit

theorem leads_change {f : Sl → Sl} {m : PUnit → SlM α} (e : Duty)
    (changes : ∀ s, s.duty = d → (f s).duty = e) (rest : Leads e (m ⟨⟩)) :
    Leads d (modify f >>= m) :=
  triple_bind (triple_modify changes) fun _ => rest

theorem leads_get {f : Sl → SlM α}
    (each : ∀ s : Sl, s.duty = d → Leads d (f s)) : Leads d (get >>= f) :=
  triple_get_bind fun s eq => triple_conseq (each s eq)
    (fun _ same => same ▸ eq) (fun _ _ h => h) fun _ h => h

theorem leads_ite {c : Prop} [Decidable c] {m n : SlM α}
    (yes : c → Leads d m) (no : ¬ c → Leads d n) :
    Leads d (if c then m else n) :=
  triple_ite yes no

theorem leads_set {f : Sl → Sl} (e : Duty)
    (changes : ∀ s, s.duty = d → (f s).duty = e) (fit : e.Fit) :
    Leads d (modify f : SlM PUnit) :=
  triple_modify fun s eq => changes s eq ▸ fit

theorem slReady_leads (apart : d.state.apart = true) (clear : d.Clear) :
    Leads d slReady := by
  have fit : d.Fit := .idle apart
  refine leads_change d (fun _ eq => eq) (leads_get fun s eq => ?_)
  refine leads_ite (fun _ => ?_) fun lpo => ?_
  · refine leads_still fit (fun _ => slSendStatus_still _) fun _ =>
      leads_ite (fun _ => ?_) fun _ => leads_modify fun _ _ => .idle rfl
    exact leads_still fit (fun _ => ind_still _) fun _ =>
      leads_modify fun _ _ => .idle rfl
  · have lpo : d.lpo = false := by
      rw [← eq]
      exact Bool.eq_false_iff.2 lpo
    refine leads_still fit (fun _ => slSendReady_still) fun _ => leads_ite
      (fun remIns => ?_) fun _ => leads_ite (fun _ => ?_) fun _ => ?_
    · refine leads_still fit (fun _ => ind_still _) fun _ =>
        leads_modify fun t same => .serving rfl ⟨⟨?_, ?_⟩, rfl, .inl rfl⟩
      · exact (congrArg Duty.lpo same).trans lpo
      · refine (congrArg Duty.rpo same).trans (clear lpo ?_)
        rw [← eq]
        exact remIns
    · exact leads_still fit (fun _ => ind_still _) fun _ =>
        leads_modify fun _ _ => .idle rfl
    · exact leads_modify fun t same =>
        ⟨nofun, fun _ => (congrArg Duty.lpo same).trans lpo⟩

def Duty.resumed (d : Duty) : Duty :=
  { d with
    continued := true
    lpo := false
    needFlush := true
    recvMsu := true
    sendMsu := d.sendMsu || !d.waitSync
    state := .inService }

def Duty.recovered (d : Duty) : Duty :=
  if d.state = .processorOutage then
    if d.needFlush then { d with continued := true } else d.resumed
  else d

theorem slLscNoProcessorOutage_recovers (E : Sl → Prop) :
    Triple (fun s => s.duty = d) slLscNoProcessorOutage
      (fun _ s => s.duty = d.recovered) E := by
  refine triple_get_bind fun s eq => ?_
  subst eq
  unfold Duty.recovered
  refine triple_when (fun outage => ?_) fun other _ same => ?_
  · rw [if_pos (show s.duty.state = .processorOutage from outage)]
    refine triple_bind (R := fun _ (t : Sl) =>
      t.duty = { s.duty with continued := true })
      (triple_modify fun t same => same ▸ rfl) fun _ =>
      triple_when (fun flush => ?_) fun flush t same => ?_
    · have needless : s.duty.needFlush = false := by
        simpa [Sl.duty] using flush
      rw [if_neg (by simp [needless])]
      refine triple_bind (R := fun _ (t : Sl) => t.duty = s.duty.resumed)
        (triple_modify fun t same => ?_) fun _ => ignoring_total ?_
      · show { t.duty with
          lpo := false
          needFlush := true
          recvMsu := true
          sendMsu := t.duty.sendMsu || !t.duty.waitSync
          state := .inService } = s.duty.resumed
        rw [same]
        rfl
      · exact keeps_bind keeps_get fun _ => keeps_ite (keeps_bind (keeps_when
          (slSendAck_still (J := fun d => d = s.duty.resumed))) fun _ =>
          keeps_bind keeps_get fun _ => keeps_when
            (slTxLoop_still (J := fun d => d = s.duty.resumed) _))
          (keeps_pure _)
    · have needs : s.duty.needFlush = true := by
        simpa [Sl.duty] using flush
      rw [if_pos needs]
      exact same
  · rw [if_neg (show ¬ s.duty.state = .processorOutage from other), same]

theorem fit_recovered (fit : d.Fit) (ended : d.rpo = false) :
    d.recovered.Fit := by
  unfold Duty.recovered
  split
  case isFalse => exact fit
  case isTrue outage =>
    split
    · exact .idle (by rw [outage]; rfl)
    · refine .serving rfl ⟨⟨rfl, ended⟩, rfl, ?_⟩
      show (d.sendMsu || !d.waitSync) = true ∨ d.waitSync = true
      cases d.waitSync <;> simp

theorem slLscNoProcessorOutage_leads (fit : d.Fit) (ended : d.rpo = false) :
    Leads d slLscNoProcessorOutage :=
  triple_conseq (slLscNoProcessorOutage_recovers fun _ => False)
    (fun _ h => h) (fun _ _ eq => eq ▸ fit_recovered fit ended)
    fun _ stopped => stopped.elim

section Status

theorem slLscStatusAlignment_leads (fit : d.Fit)
    (clear : d.state = .notAligned ∨ d.state = .aligned → d.nopr = true →
      d.Clear) : Leads d slLscStatusAlignment := by
  refine leads_change d (fun _ eq => eq) (leads_get fun s eq => ?_)
  subst eq
  have failing (n : Notice) (reason : Nat) : Leads s.duty (fail n reason) :=
    leads_of_fit fit (fail_relieved fit_relieved _ _)
  split
  case h_1 => exact leads_pure fit _
  case h_2 => exact leads_pure fit _
  case h_3 state =>
    refine leads_ite (fun _ => ?_) fun bare => ?_
    · exact leads_still fit (fun _ => slProve_still) fun _ =>
        leads_modify fun _ _ => .idle rfl
    · exact slReady_leads (s.apart_duty state rfl)
        (clear (.inl state) (by simpa using bare))
  case h_4 state =>
    refine leads_ite (fun _ => leads_pure fit _) fun bare => ?_
    exact slReady_leads (s.apart_duty state rfl)
      (clear (.inr state) (by simpa using bare))
  case h_5 => exact leads_modify fun _ _ => .idle rfl
  case h_6 =>
    exact leads_ite (fun _ => failing _ _) fun _ => leads_pure fit _
  case h_7 => exact failing _ _

theorem slAlign_leads {m : SlM Unit} (fit : d.Fit) (kept : Leads d m)
    (aligned : d.nopr = false → Leads { d with state := .aligned } m) :
    Leads d (do slAlign; m) := by
  refine triple_bind (R := fun _ (s : Sl) => s.duty = d ∨
    d.nopr = false ∧ s.duty = { d with state := .aligned }) ?_
    fun _ s either => ?_
  · refine triple_get_bind fun s eq => triple_when (fun proving => ?_)
      fun _ _ same => .inl (same ▸ eq)
    subst eq
    refine triple_bind (triple_conseq (slProve_still (J := fun e =>
      e = s.duty)) (fun _ same => same ▸ rfl) (fun _ _ h => h)
      fun _ same => same ▸ fit) fun _ => triple_modify fun t same =>
        .inr ⟨by simpa using proving, ?_⟩
    rw [← same]
    rfl
  · rcases either with same | ⟨proving, same⟩
    · exact kept s same
    · exact aligned proving s same

theorem slProvingNormal_leads (apart : d.state.apart = true)
    (clear : d.nopr = true → d.Clear) : Leads d slProvingNormal := by
  refine leads_change d (fun _ eq => eq) (leads_get fun s eq => ?_)
  subst eq
  refine leads_ite (fun _ => leads_modify fun _ _ => .idle rfl) fun bare => ?_
  exact slReady_leads apart (clear (by simpa using bare))

theorem slProvingEmergency_leads (apart : d.state.apart = true)
    (clear : d.nopr = true → d.Clear) : Leads d slProvingEmergency := by
  refine leads_get fun s eq => ?_
  subst eq
  refine leads_ite (fun _ => leads_modify fun _ _ => .idle rfl) fun bare => ?_
  exact slReady_leads apart (clear (by simpa using bare))

theorem slLscStatusProvingNormal_leads (fit : d.Fit)
    (clear : d.state = .notAligned ∨ d.state = .aligned → d.nopr = true →
      d.Clear) : Leads d slLscStatusProvingNormal := by
  refine leads_change d (fun _ eq => eq) (leads_get fun s eq => ?_)
  subst eq
  have failing (n : Notice) (reason : Nat) : Leads s.duty (fail n reason) :=
    leads_of_fit fit (fail_relieved fit_relieved _ _)
  cases state : s.state with
  | notAligned =>
      refine slAlign_leads fit (slProvingNormal_leads (s.apart_duty state rfl)
        (clear (.inl state))) fun proving => ?_
      refine slProvingNormal_leads rfl fun bare => ?_
      rw [proving] at bare
      cases bare
  | aligned =>
      exact slProvingNormal_leads (s.apart_duty state rfl) (clear (.inr state))
  | inService | processorOutage => exact failing _ _
  | powerOff | outOfService | proving | alignedReady | alignedNotReady =>
      exact leads_throw fit _

theorem slLscStatusProvingEmergency_leads (fit : d.Fit)
    (clear : d.state = .notAligned ∨ d.state = .aligned → d.nopr = true →
      d.Clear) : Leads d slLscStatusProvingEmergency := by
  refine leads_change d (fun _ eq => eq) (leads_get fun s eq => ?_)
  subst eq
  have failing (n : Notice) (reason : Nat) : Leads s.duty (fail n reason) :=
    leads_of_fit fit (fail_relieved fit_relieved _ _)
  cases state : s.state with
  | notAligned =>
      refine slAlign_leads fit (slProvingEmergency_leads
        (s.apart_duty state rfl) (clear (.inl state))) fun proving => ?_
      refine slProvingEmergency_leads rfl fun bare => ?_
      rw [proving] at bare
      cases bare
  | aligned =>
      exact slProvingEmergency_leads (s.apart_duty state rfl)
        (clear (.inr state))
  | proving => exact leads_set s.duty (fun _ eq => eq) fit
  | inService | processorOutage => exact failing _ _
  | powerOff | outOfService | alignedReady | alignedNotReady =>
      exact leads_throw fit _

theorem Sl.duty_renumber (s : Sl) (fsnt : Nat) (missteps : List Misstep) :
    ({ s with fsnt := fsnt, missteps := missteps } : Sl).duty = s.duty := rfl

theorem Sl.duty_resync (s : Sl) (octets : List UInt8) :
    (s.resync octets).duty = s.duty := by
  unfold Sl.resync
  exact s.duty_renumber _ _

theorem slLscStatusInService_leads (octets : List UInt8) (fit : d.Fit)
    (clear : d.state = .notAligned → d.nopr = true → d.lpo = false →
      d.rpo = false)
    (ready : d.state = .alignedReady → d.rpo = false) :
    Leads d (slLscStatusInService octets) := by
  refine leads_change d (fun _ eq => eq) (leads_get fun s eq => ?_)
  subst eq
  have synchronise : Leads s.duty (do
      if s.version.late && s.flags.waitSync then
        modify fun s => s.resync octets
        modify fun s =>
          { s with
            flags := { s.flags with waitSync := false, sendMsu := true }
            slips := s.slips ++
              if s.state = .inService then [] else [.resynchronised] }
        slTxWakeup
      else
        pure ()) := by
    refine leads_ite (fun _ => ?_) fun _ => leads_pure fit _
    refine leads_change s.duty (fun t eq => (t.duty_resync octets).trans eq)
      (leads_change { s.duty with
      waitSync := false, sendMsu := true } (fun _ eq => by rw [← eq]; rfl)
      (leads_of_fit ?_ slTxWakeup_still))
    exact ⟨fun serving => { fit.serves serving with sends := .inl rfl },
      fit.ready⟩
  cases state : s.state with
  | notAligned =>
      refine leads_ite (fun _ => leads_throw fit _) fun bare => ?_
      refine leads_change { s.duty with remIns := true }
        (fun _ eq => by rw [← eq]; rfl)
        (slReady_leads (s.apart_duty state rfl) ?_)
      exact fun lpo _ => clear state (by simpa using bare) lpo
  | aligned | proving =>
      exact leads_set { s.duty with remIns := true }
        (fun _ eq => by rw [← eq]; rfl)
        ⟨fun serving => { fit.serves serving with }, fit.ready⟩
  | alignedNotReady =>
      exact leads_still fit (fun _ => ind_still _) fun _ =>
        leads_modify fun _ _ => .idle rfl
  | alignedReady =>
      refine leads_still fit (fun _ => ind_still _) fun _ =>
        leads_modify fun t same => .serving rfl ⟨⟨?_, ?_⟩, rfl, .inl rfl⟩
      · exact (congrArg Duty.lpo same).trans (fit.ready state)
      · exact (congrArg Duty.rpo same).trans (ready state)
  | inService | processorOutage => exact synchronise
  | powerOff | outOfService => exact leads_pure fit _

def Sl.Told (s : Sl) : Prop :=
  s.pvar = SS7_PVAR_ANSI_92 → s.flags.locBusy = true →
    s.env.transport.headD none = none

theorem slOutageBegins_told (E : Sl → Prop) :
    Triple Sl.Told slOutageBegins (fun _ _ => True) E := by
  refine triple_get_bind fun s told => triple_ite (fun ansi => ?_)
    fun _ => triple_modify fun _ _ => trivial
  refine triple_bind (R := fun _ (t : Sl) =>
    s.flags.locBusy = true → t.env.transport.headD none = none)
    (triple_modify fun t same => same ▸ told ansi) fun _ =>
    triple_bind (R := fun _ _ => True) (triple_when (fun busy => ?_)
      fun _ _ _ => trivial) fun _ => triple_modify fun _ _ => trivial
  refine triple_get_bind fun t free => triple_get_bind fun u same => ?_
  subst same
  refine triple_bind (R := fun _ _ => True) (triple_modify fun _ _ => trivial)
    fun _ => ?_
  rw [free busy]
  exact triple_modify fun _ _ => trivial

theorem slRpoBegins_leads {m : SlM Unit} (told : Bool) (fit : d.Fit)
    (rest : Leads { d with rpo := true } m) :
    Leads d (do slRpoBegins told; m) :=
  triple_bind (triple_conseq (slRpoBegins_still (J := fun e => e = d) told
    (fun e => e = { d with rpo := true }) (fun _ eq => eq ▸ rfl)
    fun e eq rpo => by rw [← rpo, ← eq]) (fun _ h => h) (fun _ _ h => h)
    fun _ eq => eq ▸ fit) fun _ => rest

theorem slLscStatusProcessorOutage_leads {s : Sl} (fit : s.duty.Fit)
    (clear : s.state = .notAligned → s.nopr = true → s.flags.lpo = false →
      s.flags.remIns = false)
    (told : s.state = .inService → s.Told) :
    Triple (fun t => s = t) slLscStatusProcessorOutage
      (fun _ t => t.duty.Fit) fun t => t.duty.Fit := by
  have begins (still : Bool) (apart : s.duty.state.apart = true) :
      Leads s.duty (slRpoBegins still) := by
    refine triple_conseq (slRpoBegins_still (J := fun e => e = s.duty) still
      (fun e => e.Fit) (fun e eq => ?_) fun e eq _ => eq ▸ fit)
      (fun _ h => h) (fun _ _ h => h) fun _ eq => eq ▸ fit
    subst eq
    exact .idle apart
  refine triple_bind (R := fun _ t => { s with flags.remAln := false } = t)
    (triple_modify fun t same => same ▸ rfl) fun _ =>
    triple_get_bind fun t same => ?_
  subst same
  refine triple_conseq (P := fun t => t.duty = s.duty ∧
    (s.state = .inService → t.Told)) ?_
    (fun t same => same ▸ ⟨rfl, told⟩) (fun _ _ h => h) fun _ h => h
  have leads {m : SlM Unit} (leads : Leads s.duty m) :
      Triple (fun t => t.duty = s.duty ∧ (s.state = .inService → t.Told)) m
        (fun _ t => t.duty.Fit) fun t => t.duty.Fit :=
    triple_conseq leads (fun _ h => h.1) (fun _ _ h => h) fun _ h => h
  split
  case h_1 => exact leads (leads_pure fit _)
  case h_2 => exact leads (leads_pure fit _)
  case h_3 state =>
    refine leads (leads_ite (fun _ => leads_pure fit _) fun bare => ?_)
    refine slRpoBegins_leads false fit (slReady_leads (s.apart_duty state rfl)
      fun lpo remIns => ?_)
    have none := clear state (by simpa using bare) lpo
    exact absurd (none.symm.trans remIns) nofun
  case h_4 state => exact leads (begins _ (s.apart_duty state rfl))
  case h_5 state => exact leads (begins _ (s.apart_duty state rfl))
  case h_6 =>
    exact leads (slRpoBegins_leads true fit
      (leads_modify fun _ _ => .idle rfl))
  case h_7 =>
    exact leads (slRpoBegins_leads true fit
      (leads_modify fun _ _ => .idle rfl))
  case h_8 state =>
    have kept (i : Ind) : Keeps (fun t => t.duty = s.duty ∧
        (s.state = .inService → t.Told)) (ind i) :=
      keeps_bind keeps_get fun _ => keeps_bind (keeps_modify fun _ h => h)
        fun _ => keeps_ite (keeps_modify fun _ h => h) (keeps_throw _)
    have stops {t : Sl} (h : t.duty = s.duty ∧
        (s.state = .inService → t.Told)) : t.duty.Fit := h.1 ▸ fit
    refine triple_bind (triple_conseq (keeps_bind keeps_get fun _ =>
      keeps_ite (kept _) (keeps_pure _)) (fun _ h => h) (fun _ _ h => h)
      fun _ => stops) fun _ => ?_
    refine triple_bind (R := fun _ t => s.state = .inService → t.Told)
      (triple_when (fun _ => ?_) fun _ _ h => h.2) fun _ => ?_
    · exact triple_bind (triple_conseq (kept _) (fun _ h => h)
        (fun _ _ h => h) fun _ => stops) fun _ =>
        triple_modify fun _ h => h.2
    · exact triple_bind (R := fun _ t => Sl.Told t)
        (triple_modify fun _ h => h state) fun _ =>
        triple_bind (slOutageBegins_told _) fun _ =>
          triple_modify fun _ _ => .idle rfl
  case h_9 state => exact leads (begins _ (s.apart_duty state rfl))

theorem slLscStatusProcessorOutageEnded_leads (octets : List UInt8)
    (fit : d.Fit) : Leads d (slLscStatusProcessorOutageEnded octets) := by
  refine leads_change d (fun _ eq => eq) (leads_get fun s eq => ?_)
  subst eq
  refine leads_ite (fun state => ?_) fun _ => leads_throw fit _
  have outage {e : Duty} (state : e.state = .processorOutage) : e.Fit :=
    .idle (by rw [state]; rfl)
  have stops {m : SlM Unit}
      (keeps : Keeps (fun t => t.duty.state = .processorOutage) m) :
      Triple (fun t => t.duty.state = .processorOutage) m
        (fun _ t => t.duty.state = .processorOutage) fun t => t.duty.Fit :=
    triple_conseq keeps (fun _ h => h) (fun _ _ h => h) fun _ => outage
  have synchronise : Keeps (fun t => t.duty.state = .processorOutage)
      (slSynchronise octets) :=
    keeps_bind (keeps_modify fun _ h => h) fun _ =>
    keeps_bind (slCheckCongestion_still (J := fun e =>
      e.state = .processorOutage)) fun _ =>
    keeps_bind (keeps_modify fun t h => (t.duty_resync octets).symm ▸ h)
      fun _ => keeps_bind (slSendStatus_still (J := fun e =>
        e.state = .processorOutage) _) fun _ => keeps_modify fun _ h => h
  refine triple_bind (R := fun _ t => t.duty.state = .processorOutage ∧
    t.duty.rpo = false) (triple_when (fun _ => ?_) fun rpo t same => ?_)
    fun _ => triple_when (fun _ => ?_) fun _ t h => outage h.1
  · refine triple_bind (R := fun _ t => t.duty.state = .processorOutage)
      (triple_conseq (stops (keeps_when synchronise)) (fun t same => ?_)
        (fun _ _ h => h) fun _ h => h) fun _ => ?_
    · exact (congrArg Duty.state same).trans state
    · exact triple_bind (stops (notice_still (J := fun e =>
        e.state = .processorOutage) _)) fun _ =>
        triple_bind (stops (ind_still (J := fun e =>
          e.state = .processorOutage) _)) fun _ =>
        triple_modify fun _ h => ⟨h, rfl⟩
  · refine ⟨(congrArg Duty.state same).trans state, ?_⟩
    exact (congrArg Duty.rpo same).trans (Bool.eq_false_iff.2 rpo)
  · exact fun t h => slLscNoProcessorOutage_leads (outage h.1) h.2 t rfl

theorem slLscStatusOutOfService_fit :
    Keeps (fun s => s.duty.Fit) slLscStatusOutOfService := by
  have fails (n : Notice) (reason : Nat) : Keeps (fun s => s.duty.Fit) (do
      modify fun s => { s with flags.remIns := false }
      fail n reason) :=
    keeps_bind (keeps_modify fun s fit => fit_relieved.remIns s.duty fit)
      fun _ => fail_relieved fit_relieved _ _
  refine keeps_bind (keeps_still fun _ => rfl) fun _ =>
    keeps_bind keeps_get fun s => ?_
  split <;> first | exact fails _ _ | exact keeps_pure _

theorem slLscStatusBusy_still {J : Duty → Prop} :
    Keeps (fun s => J s.duty) slLscStatusBusy := by
  refine keeps_bind (keeps_still fun _ => rfl) fun _ =>
    keeps_bind keeps_get fun s => ?_
  split <;> first
    | exact keeps_throw _
    | exact keeps_still fun _ => rfl

theorem slLscStatusBusyEnded_still {J : Duty → Prop} :
    Keeps (fun s => J s.duty) slLscStatusBusyEnded :=
  keeps_bind (keeps_still fun _ => rfl) fun _ => keeps_bind keeps_get
    fun _ => keeps_ite (keeps_still fun _ => rfl) (keeps_pure _)

theorem slRcSignalUnit_fit (octets : List UInt8) (fit : d.Fit)
    (ready : d.state = .alignedReady → d.rpo = false) :
    Leads d (slRcSignalUnit octets) := by
  refine leads_change d (fun _ eq => eq) (leads_get fun s eq => ?_)
  subst eq
  have checked {J : Duty → Prop} (relieved : Relieved J) (holds : J s.duty)
      (weak : ∀ e, J e → e.Fit) :
      Triple (fun t => t.duty = s.duty) (slRcSnCheck octets)
        (fun _ t => J t.duty) fun t => t.duty.Fit :=
    triple_conseq (slRcSnCheck_relieved relieved octets)
      (fun _ eq => eq ▸ holds) (fun _ _ h => h) fun t => weak t.duty
  have receives (fsn : Nat) (left : List UInt8) :
      Keeps (fun t => t.duty.Fit) (slReceive fsn left) :=
    slReceive_still fsn left
  split
  case h_1 => exact leads_pure fit _
  case h_2 => exact leads_pure fit _
  case h_3 =>
    exact triple_bind (checked fit_relieved fit fun _ h => h) fun left =>
      triple_bind (ind_still _) fun _ =>
      triple_bind (triple_modify fun _ _ => .idle rfl) fun _ =>
        receives _ left
  case h_4 state =>
    have both : Relieved fun e => e.Fit ∧ e.Spotless :=
      { lpo := fun e h => ⟨fit_relieved.lpo e h.1, spotless_relieved.lpo e h.2⟩
        rpo := fun e h => ⟨fit_relieved.rpo e h.1, spotless_relieved.rpo e h.2⟩
        remIns := fun e h =>
          ⟨fit_relieved.remIns e h.1, spotless_relieved.remIns e h.2⟩
        stop := fun e h =>
          ⟨fit_relieved.stop e h.1, spotless_relieved.stop e h.2⟩ }
    refine triple_bind (checked both ⟨fit, fit.ready state, ready state⟩
      fun _ h => h.1) fun left => triple_bind (triple_conseq
      (ind_still (J := fun e => e.Fit ∧ e.Spotless) _) (fun _ h => h)
      (fun _ _ h => h) fun _ h => h.1) fun _ =>
      triple_bind (triple_modify fun t h => ?_) fun _ => receives _ left
    exact .serving rfl ⟨h.2, rfl, .inl rfl⟩
  case h_5 =>
    exact triple_bind (checked fit_relieved fit fun _ h => h) fun left =>
      receives _ left

end Status

end Leading

end OpenSS7.M2pa
