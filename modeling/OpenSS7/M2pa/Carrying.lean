import OpenSS7.M2pa.Duty

/-!
A link in service carries traffic: no processor outage is remembered, messages
are received, and they are sent once the window permits, as long as no step
leaves a recovery half done.
-/

namespace OpenSS7.M2pa

open Program Duty

section Requests

def Sl.Fits (s : Sl) {α : Type} (m : SlM α) : Prop :=
  Triple (fun t => s = t) m (fun _ t => t.duty.Fit) fun t => t.duty.Fit

variable {d : Duty} {s : Sl} {α : Type}

theorem Leads.fits {m : SlM α} (leads : Leads s.duty m) : s.Fits m :=
  triple_conseq leads (fun _ eq => eq ▸ rfl) (fun _ _ h => h) fun _ h => h

theorem Sl.fits_of_keeps {m : SlM α} (fit : s.duty.Fit)
    (keeps : Keeps (fun t => t.duty.Fit) m) : s.Fits m :=
  triple_conseq keeps (fun _ eq => eq ▸ fit) (fun _ _ h => h) fun _ h => h

theorem slLscPowerOn_leads (fit : d.Fit) : Leads d slLscPowerOn := by
  refine leads_get fun s eq => ?_
  subst eq
  refine leads_ite (fun state => ?_) fun _ => leads_throw fit _
  refine triple_bind (R := fun _ t => t.duty.state = .powerOff)
    (triple_modify fun t same => ?_) fun _ => triple_bind (triple_conseq
    (slSendStatus_still (J := fun e => e.state = .powerOff) _) (fun _ h => h)
    (fun _ _ h => h) fun t h => .idle (by rw [h]; rfl)) fun _ =>
    triple_modify fun _ _ => .idle rfl
  exact (congrArg Duty.state same).trans state

theorem slLscStart_fits (fit : s.duty.Fit)
    (clear : s.state = .outOfService → s.flags.remAln = true →
      s.nopr = true → s.duty.Clear) : s.Fits slLscStart := by
  refine triple_get_bind fun t same => ?_
  subst same
  refine triple_ite (fun state => ?_) fun _ => triple_throw fun _ eq => eq ▸ fit
  suffices starts : Leads s.duty (do
      modify Sl.reset
      slSendStatus .alignment
      if !s.flags.remAln then
        modify fun s => { s with state := .notAligned }
      else if !s.nopr then
        slProve
        modify fun s => { s with state := .aligned }
      else
        slReady) from Leads.fits starts
  refine leads_change s.duty (fun _ eq => eq)
    (leads_still fit (fun _ => slSendStatus_still _) fun _ =>
    leads_ite (fun _ => leads_modify fun _ _ => .idle rfl) fun aligns =>
    leads_ite (fun _ => ?_) fun bare => ?_)
  · exact leads_still fit (fun _ => slProve_still) fun _ =>
      leads_modify fun _ _ => .idle rfl
  · exact slReady_leads (s.apart_duty state rfl)
      (clear state (by simpa using aligns) (by simpa using bare))

theorem slLscEmergency_still {J : Duty → Prop} :
    Keeps (fun s => J s.duty) slLscEmergency :=
  keeps_bind (keeps_still fun _ => rfl) fun _ => keeps_bind keeps_get
    fun _ => keeps_ite (slSendProving_still _) (keeps_throw _)

def Sl.ToldNext (s : Sl) : Prop :=
  s.pvar = SS7_PVAR_ANSI_92 → s.flags.locBusy = true →
    s.env.transport.headD none = none →
    s.env.transport.tail.headD none = none

theorem slSendStatus_sends (status : Status) :
    Triple (fun t => s = t) (slSendStatus status)
      (fun _ t => t.pvar = s.pvar ∧ t.flags = s.flags ∧
        t.env.transport = s.env.transport.tail ∧
        s.env.transport.headD none = none)
      (fun t => t.duty = s.duty) := by
  refine triple_get_bind fun t same => ?_
  subst same
  refine triple_get_bind fun t same => ?_
  subst same
  refine triple_bind (R := fun _ t => t.duty = s.duty ∧ t.pvar = s.pvar ∧
    t.flags = s.flags ∧ t.env.transport = s.env.transport.tail)
    (triple_modify fun t same => same ▸ ⟨rfl, rfl, rfl, rfl⟩) fun _ => ?_
  split
  case h_1 sent => exact triple_modify fun t h => ⟨h.2.1, h.2.2.1, h.2.2.2, sent⟩
  case h_2 => exact triple_throw fun _ h => h.1

theorem slLscLocalProcessorOutage_fits (fit : s.duty.Fit)
    (told : s.state = .inService → s.ToldNext) :
    s.Fits slLscLocalProcessorOutage := by
  refine triple_get_bind fun t same => ?_
  subst same
  have notes {state : LinkState} (eq : s.state = state)
      (apart : state.apart = true) : s.Fits (modify fun s =>
        { s with flags := { s.flags with waitSync := false, lpo := true } }) :=
    triple_modify fun t same => by
      subst same
      exact .idle (s.apart_duty eq apart)
  split
  case h_6 =>
    exact Leads.fits (leads_still fit (fun _ => slSendStatus_still _) fun _ =>
      leads_modify fun _ _ => .idle rfl)
  case h_7 state =>
    refine triple_bind (triple_conseq (slSendStatus_sends _) (fun _ h => h)
      (fun _ _ h => h) fun _ eq => eq ▸ fit) fun _ =>
      triple_bind (R := fun _ t => Sl.Told t) (triple_modify fun t h => ?_)
      fun _ => triple_bind (slOutageBegins_told _) fun _ =>
        triple_modify fun _ _ => .idle rfl
    obtain ⟨pvar, flags, left, sent⟩ := h
    intro ansi busy
    show t.env.transport.headD none = none
    rw [left]
    exact told state (pvar ▸ ansi) (by rw [← flags]; exact busy) sent
  case h_8 state =>
    refine triple_bind (R := fun _ t => t.duty.state = .processorOutage)
      (triple_when (fun _ => triple_conseq (slSendStatus_still (J := fun e =>
        e = s.duty) _) (fun _ eq => eq ▸ rfl)
        (fun _ _ eq => (congrArg Duty.state eq).trans state)
        fun _ eq => eq ▸ fit) fun _ t eq => eq ▸ state) fun _ =>
      triple_modify fun t h => .idle (Sl.apart_duty _ h rfl)
  case h_9 => exact triple_throw fun _ eq => eq ▸ fit
  case h_1 state => exact notes state rfl
  case h_2 state => exact notes state rfl
  case h_3 state => exact notes state rfl
  case h_4 state => exact notes state rfl
  case h_5 state => exact notes state rfl

def Duty.ended (d : Duty) : Duty :=
  if d.lpo then
    { d with waitSync := d.waitSync || d.version.late, lpo := false }
  else d

theorem Duty.ended_state (d : Duty) : d.ended.state = d.state := by
  unfold Duty.ended
  split <;> rfl

theorem Duty.ended_lpo (d : Duty) : d.ended.lpo = false := by
  unfold Duty.ended
  split
  case isTrue => rfl
  case isFalse none => exact Bool.eq_false_iff.2 none

theorem slOutageEnded_ends {E : Sl → Prop}
    (stops : ∀ t : Sl, t.duty = d → E t) :
    Triple (fun t => t.duty = d) slOutageEnded
      (fun _ t => t.duty = d.ended) E := by
  refine triple_get_bind fun s eq => ?_
  subst eq
  unfold Duty.ended
  refine triple_when (fun lpo => ?_) fun none t same => ?_
  · rw [if_pos (show s.duty.lpo = true from lpo)]
    refine triple_bind (triple_conseq (slSendStatus_still (J := fun e =>
      e = s.duty) _) (fun _ eq => eq ▸ rfl) (fun _ _ h => h) stops) fun _ =>
      triple_modify fun t same => ?_
    rw [← same]
    rfl
  · rw [if_neg (show ¬ s.duty.lpo = true from none), same]

theorem slResumeAligned_fits (state : d.state = .alignedNotReady) :
    Leads d slResumeAligned := by
  have kept : ({ d with lpo := false } : Duty).recovered =
      { d with lpo := false } :=
    if_neg (by rw [state]; nofun)
  refine leads_change { d with lpo := false } (fun _ eq => by rw [← eq]; rfl)
    (leads_get fun s eq => ?_)
  refine triple_bind (R := fun _ t => t.duty = { d with lpo := false })
    (triple_when (fun _ => triple_conseq
      (slLscNoProcessorOutage_recovers _) (fun _ h => h)
      (fun _ _ h => h.trans kept) fun _ h => h) fun _ _ h => h) fun _ =>
    triple_bind (R := fun _ t => t.duty.lpo = false)
      (triple_when (fun _ => triple_modify fun _ h => congrArg Duty.lpo h)
        fun _ _ h => congrArg Duty.lpo h) fun _ =>
    triple_modify fun _ lpo => ⟨nofun, fun _ => lpo⟩

def Duty.Resumes (d : Duty) : Prop :=
  d.rpo = true ∨ d.needFlush = true ∨ d.waitSync = true ∨
    d.lpo = true ∧ d.version.late = true

theorem resumed_fit (state : d.state = .processorOutage)
    (resumes : d.Resumes) (ended : d.rpo = false) :
    ({ d.ended.recovered with sendMsu := false } : Duty).Fit := by
  have outage : d.ended.state = .processorOutage := d.ended_state.trans state
  have rpo : d.ended.rpo = false := by
    unfold Duty.ended
    split <;> exact ended
  unfold Duty.recovered
  rw [if_pos outage]
  split
  case isTrue => exact .idle (by show d.ended.state.apart = true; rw [outage]; rfl)
  case isFalse flush =>
    refine .serving rfl ⟨⟨rfl, rpo⟩, rfl, .inr ?_⟩
    show d.ended.waitSync = true
    unfold Duty.ended at flush ⊢
    rcases resumes with late | needs | waits | ⟨lpo, late⟩
    · rw [ended] at late
      cases late
    · split at flush <;> exact absurd needs flush
    · split <;> simp [waits]
    · simp [lpo, late]

theorem slResumeItut_fits (state : d.state = .processorOutage)
    (resumes : d.Resumes) : Leads d slResumeItut := by
  have idle {e : Duty} (outage : e.state = .processorOutage) : e.Fit :=
    .idle (by rw [outage]; rfl)
  have outage : d.ended.state = .processorOutage := d.ended_state.trans state
  refine triple_bind (slOutageEnded_ends fun t eq => eq ▸ idle state)
    fun _ => triple_get_bind fun s eq => ?_
  refine triple_bind (R := fun _ t => t.duty.Fit ∧
    ({ t.duty with sendMsu := false } : Duty).Fit) ?_ fun _ => ?_
  · have rpo : s.duty.rpo = d.rpo := by
      rw [eq]
      unfold Duty.ended
      split <;> rfl
    refine triple_when (fun none => triple_conseq
      (slLscNoProcessorOutage_recovers _) (fun _ same => same ▸ eq)
      (fun _ t same => ?_) fun _ h => h) fun _ t same => ?_
    · have ended : d.rpo = false := by
        rw [← rpo]
        simpa [Sl.duty] using none
      rw [same]
      refine ⟨fit_recovered (idle outage) (by rw [← eq, rpo, ended]), ?_⟩
      exact resumed_fit state resumes ended
    · subst same
      rw [eq]
      exact ⟨idle outage, idle (e := { d.ended with sendMsu := false }) outage⟩
  · refine triple_bind (R := fun _ t => t.duty.Fit ∧
      ({ t.duty with sendMsu := false } : Duty).Fit)
      (triple_modify fun _ h => h) fun _ => triple_get_any fun t => ?_
    exact triple_bind (triple_conseq (keeps_when (slSendStatus_still
      (J := fun e => e.Fit ∧ ({ e with sendMsu := false } : Duty).Fit) _))
      (fun _ h => h) (fun _ _ h => h) fun _ h => h.1) fun _ =>
      triple_modify fun _ h => h.2

theorem slResumeAnsi_fits (state : d.state = .processorOutage) :
    Leads d slResumeAnsi := by
  have outage : d.ended.state = .processorOutage := d.ended_state.trans state
  have idle {e : Duty} (outage : e.state = .processorOutage) : e.Fit :=
    .idle (by rw [outage]; rfl)
  refine triple_bind (slOutageEnded_ends fun t eq => eq ▸ idle state)
    fun _ => leads_change { d.ended with recvMsu := true }
      (fun _ eq => by rw [← eq]; rfl) (leads_get fun s eq =>
      leads_ite (fun _ => ?_) fun rpo => ?_)
  · refine triple_bind (R := fun _ t => t.duty.state = .processorOutage)
      (triple_modify fun t same => ?_) fun _ => triple_conseq
      (ind_still (J := fun e => e.state = .processorOutage) _) (fun _ h => h)
      (fun _ _ => idle) fun _ => idle
    exact (congrArg Duty.state same).trans outage
  · refine triple_modify fun t same => .serving rfl ⟨⟨?_, ?_⟩, ?_, .inl rfl⟩
    · exact (congrArg Duty.lpo same).trans d.ended_lpo
    · refine (congrArg Duty.rpo same).trans ?_
      exact (congrArg Duty.rpo eq).symm.trans (Bool.eq_false_iff.2 rpo)
    · exact congrArg Duty.recvMsu same

theorem slLscResume_leads (fit : d.Fit)
    (resumes : d.state = .processorOutage → d.pvar ≠ SS7_PVAR_ANSI_92 →
      d.Resumes) : Leads d slLscResume := by
  refine leads_get fun s eq => ?_
  subst eq
  have forgets : Leads s.duty (modify fun s => { s with flags.lpo := false }) :=
    leads_set { s.duty with lpo := false } (fun _ eq => by rw [← eq]; rfl)
      (fit_relieved.lpo _ fit)
  split
  case h_6 => exact leads_pure fit _
  case h_7 state => exact slResumeAligned_fits state
  case h_8 state =>
    exact leads_ite (fun _ => slResumeAnsi_fits state) fun itut =>
      slResumeItut_fits state (resumes state itut)
  case h_9 => exact leads_throw fit _
  all_goals exact forgets

theorem slLscClearRtb_leads (fit : d.Fit)
    (receives : d.state = .processorOutage → d.recvMsu = true) :
    Leads d slLscClearRtb := by
  refine leads_get fun s eq => ?_
  subst eq
  refine leads_ite (fun state => ?_) fun _ => leads_throw fit _
  let cleared : Duty := { s.duty with lpo := false, rpo := false }
  have idle {e : Duty} (outage : e.state = .processorOutage) : e.Fit :=
    .idle (by rw [outage]; rfl)
  refine leads_change s.duty (fun _ eq => eq)
    (leads_still fit (fun _ => ind_still _) fun _ =>
    leads_still fit (fun _ => slCheckCongestion_still) fun _ =>
    leads_change { s.duty with lpo := false } (fun _ eq => by rw [← eq]; rfl)
      (triple_bind (R := fun _ t => t.duty = cleared)
        (triple_when (fun _ => ?_) fun none t same => ?_) fun _ => ?_))
  · refine triple_bind (triple_conseq (notice_still (J := fun e =>
      e = { s.duty with lpo := false }) _) (fun _ h => h) (fun _ _ h => h)
      fun t same => ?_) fun _ => triple_modify fun t same => ?_
    · rw [same]
      exact idle state
    · show { t.duty with rpo := false } = cleared
      rw [same]
  · have rpo : s.duty.rpo = false := Bool.eq_false_iff.2 none
    rw [same]
    exact congrArg (fun rpo : Bool =>
      ({ s.duty with lpo := false, rpo := rpo } : Duty)) rpo
  · refine leads_change { cleared with sendMsu := true }
      (fun _ eq => by rw [← eq]; rfl) (leads_still (idle state)
      (fun _ => ind_still _) fun _ => leads_modify fun t same => ?_)
    refine .serving rfl ⟨⟨congrArg Duty.lpo same, congrArg Duty.rpo same⟩,
      ?_, .inl (congrArg Duty.sendMsu same)⟩
    exact (congrArg Duty.recvMsu same).trans (receives state)

theorem slBuffersCleared_fits {P : Sl → Prop}
    (ended : ∀ t, P t → t.duty.rpo = false) :
    Triple P slBuffersCleared (fun _ t => t.duty.Fit) fun t => t.duty.Fit :=
  triple_modify fun t h => .serving rfl ⟨⟨rfl, ended t h⟩, rfl, .inl rfl⟩

theorem slClearBuffers_fits (state : d.state = .processorOutage)
    (ended : d.pvar ≠ SS7_PVAR_ANSI_92 → d.continued = true →
      d.rpo = false) : Leads d slClearBuffers := by
  have fit : d.Fit := .idle (by rw [state]; rfl)
  refine leads_change d (fun _ eq => eq) (leads_still fit
    (fun _ => slCheckCongestion_still) fun _ => leads_get fun s eq => ?_)
  subst eq
  refine leads_ite (fun _ => ?_) fun itut => ?_
  · refine leads_still fit (fun _ => notice_still _) fun _ =>
      leads_still fit (fun _ => ind_still _) fun _ =>
      leads_change s.duty (fun _ eq => eq)
        (leads_still fit (fun _ => ind_still _) fun _ =>
        triple_bind (R := fun _ t => t.duty.rpo = false)
          (triple_when (fun _ => ?_) fun none t same => ?_) fun _ =>
          slBuffersCleared_fits fun _ h => h)
    · exact triple_bind (triple_conseq (ind_still (J := fun e => e = s.duty) _)
        (fun _ h => h) (fun _ _ h => h) fun _ same => same ▸ fit)
        fun _ => triple_modify fun _ _ => rfl
    · exact (congrArg Duty.rpo same).trans (Bool.eq_false_iff.2 none)
  · refine triple_bind (R := fun _ t => t.duty.state = .processorOutage ∧
      t.duty.rpo = s.duty.rpo) (triple_modify fun t same => ?_) fun _ =>
      triple_when (fun continued => ?_) fun _ t h => ?_
    · have rpo : t.duty.rpo = s.duty.rpo := congrArg Duty.rpo same
      exact ⟨(congrArg Duty.state same).trans state, rpo⟩
    · exact slBuffersCleared_fits fun t h =>
        h.2.trans (ended itut continued)
    · exact .idle (by rw [h.1]; rfl)

theorem slLscClearBuffers_leads (fit : d.Fit)
    (ended : d.state = .processorOutage → d.pvar ≠ SS7_PVAR_ANSI_92 →
      d.continued = true → d.rpo = false) : Leads d slLscClearBuffers := by
  refine leads_get fun s eq => ?_
  subst eq
  have forgets : Leads s.duty (do
      if s.pvar = SS7_PVAR_ANSI_92 then
        ind .rtbCleared
        modify fun s => { s with flags.lpo := false }
      else
        pure ()) :=
    leads_ite (fun _ => leads_still fit (fun _ => ind_still _) fun _ =>
      leads_set { s.duty with lpo := false } (fun _ eq => by rw [← eq]; rfl)
        (fit_relieved.lpo _ fit)) fun _ => leads_pure fit _
  split
  case h_6 =>
    exact leads_ite (fun _ => leads_still fit (fun _ => ind_still _) fun _ =>
      leads_modify fun _ _ => ⟨nofun, fun _ => rfl⟩) fun _ => leads_pure fit _
  case h_7 state => exact slClearBuffers_fits state (ended state)
  case h_8 => exact leads_throw fit _
  all_goals exact forgets

end Requests

section Messages

inductive Heard where
  | unit
  | status (status : Status)
  | nothing

def Sl.heardStatus (s : Sl) (octets : List UInt8) : Heard :=
  if 4 ≤ octets.length then
    match Status.ofCode
        (ntohl ((octets ++ s.env.beyond).drop s.version.statusHlen)) with
    | some .ack => .unit
    | some status => .status status
    | none => .nothing
  else .nothing

def Sl.heardData (s : Sl) (octets : List UInt8) : Heard :=
  if s.version.hlen + s.rlen < octets.length ∨ octets.length = 0 ∨
      s.version.emptyAcks ∧ octets.length = s.version.hlen then .unit
  else .nothing

def Sl.heard (s : Sl) (octets : List UInt8) : Heard :=
  if 8 ≤ octets.length then
    match MsgType.ofCode (ntohl octets) with
    | some type =>
        if octets.length = PAD4 (ntohl (octets.drop 4)) % 2 ^ 32 then
          match type with
          | .data => s.heardData (octets.drop 8)
          | .status => s.heardStatus (octets.drop 8)
          | .proving | .ack => .nothing
        else .nothing
    | none => .nothing
  else .nothing

def Sl.HearsWell (s : Sl) : Heard → Prop
  | .unit => s.state = .alignedReady → s.flags.rpo = false
  | .status .inService =>
      (s.state = .notAligned → s.nopr = true → s.flags.lpo = false →
        s.flags.rpo = false) ∧
      (s.state = .alignedReady → s.flags.rpo = false)
  | .status .alignment | .status .provingNormal
  | .status .provingEmergency =>
      s.state = .notAligned ∨ s.state = .aligned → s.nopr = true →
        s.duty.Clear
  | .status .processorOutage =>
      (s.state = .notAligned → s.nopr = true → s.flags.lpo = false →
        s.flags.remIns = false) ∧
      (s.state = .inService → s.Told)
  | _ => True

variable {s : Sl}

theorem slRecvStatus_fits (octets : List UInt8) (fit : s.duty.Fit)
    (well : s.HearsWell (s.heardStatus octets)) :
    s.Fits (slRecvStatus octets) := by
  refine triple_get_bind fun t same => ?_
  subst same
  unfold Sl.heardStatus at well
  have answers {m : SlM Unit} (fits : s.Fits m) :
      s.Fits (do m; pure .done : SlM Qr) :=
    triple_bind fits fun _ => triple_pure fun _ h => h
  refine triple_ite (fun long => ?_) fun _ => triple_throw fun _ eq => eq ▸ fit
  rw [if_pos long] at well
  split
  case h_1 eq => exact answers (s.fits_of_keeps fit slLscStatusBusyEnded_still)
  case h_2 eq =>
    rw [eq] at well
    exact answers (slLscStatusInService_leads octets fit well.1 well.2).fits
  case h_3 =>
    exact answers (slLscStatusProcessorOutageEnded_leads octets fit).fits
  case h_4 => exact answers (s.fits_of_keeps fit slLscStatusOutOfService_fit)
  case h_5 eq =>
    rw [eq] at well
    exact answers (slLscStatusProcessorOutage_leads fit well.1 well.2)
  case h_6 => exact answers (s.fits_of_keeps fit slLscStatusBusy_still)
  case h_7 eq =>
    rw [eq] at well
    exact answers (slLscStatusAlignment_leads fit well).fits
  case h_8 eq =>
    rw [eq] at well
    exact answers (slLscStatusProvingNormal_leads fit well).fits
  case h_9 eq =>
    rw [eq] at well
    exact answers (slLscStatusProvingEmergency_leads fit well).fits
  case h_10 eq =>
    rw [eq] at well
    exact (slRcSignalUnit_fit octets fit well).fits
  case h_11 => exact triple_throw fun _ eq => eq ▸ fit

theorem slRecvMsg_fits (octets : List UInt8) (fit : s.duty.Fit)
    (well : s.HearsWell (s.heard octets)) : s.Fits (slRecvMsg octets) := by
  have refuse (e : SlError) : s.Fits (throw e : SlM Qr) :=
    triple_throw fun _ eq => eq ▸ fit
  unfold Sl.heard at well
  refine triple_ite (fun long => ?_) fun _ => refuse _
  rw [if_pos long] at well
  split
  case h_2 => exact refuse _
  case h_1 type known =>
    rw [known] at well
    refine triple_ite (fun whole => ?_) fun _ => refuse _
    simp only [if_pos whole] at well
    cases type with
    | data =>
        refine triple_get_bind fun t same => ?_
        subst same
        unfold Sl.heardData at well
        refine triple_ite (fun passes => ?_) fun _ => refuse _
        rw [if_pos passes] at well
        exact (slRcSignalUnit_fit _ fit well).fits
    | status => exact slRecvStatus_fits _ fit well
    | proving =>
        exact s.fits_of_keeps fit (keeps_bind (keeps_still fun _ => rfl)
          fun _ => keeps_bind keeps_get fun _ => keeps_ite (keeps_pure _)
            (keeps_throw _))
    | ack => exact s.fits_of_keeps fit (slRecvDatack_relieved fit_relieved _)

end Messages

section Waking

/-- The transport takes every message, and the messages sent and waiting are
those given, `n` of them waiting at most. -/
structure Flowing (all : List Msg) (n : Nat) (s : Sl) : Prop where
  takes : ∀ outcome ∈ s.env.transport, outcome = none
  whole : s.rtb.map Sent.msg ++ s.tb = all
  short : s.tb.length ≤ n

variable {all : List Msg} {n : Nat} {E : Sl → Prop}

def Taking (P : List Msg → List Sent → Flags → Prop) (s : Sl) : Prop :=
  (∀ outcome ∈ s.env.transport, outcome = none) ∧ P s.tb s.rtb s.flags

variable {P : List Msg → List Sent → Flags → Prop}

theorem nDataReq_takes (pdu : Pdu) :
    Triple (Taking P) (nDataReq pdu) (fun _ => Taking P) E := by
  refine triple_get_bind fun s ⟨takes, holds⟩ => ?_
  refine triple_bind (R := fun _ => Taking P)
    (triple_modify fun t same => ?_) fun _ => ?_
  · subst same
    exact ⟨fun outcome later => takes outcome (List.mem_of_mem_tail later),
      holds⟩
  · have taken : s.env.transport.headD none = none := by
      cases transport : s.env.transport with
      | nil => rfl
      | cons outcome rest =>
          exact takes outcome (transport ▸ List.mem_cons_self)
    rw [taken]
    exact triple_modify fun _ h => h

theorem slSendAck_takes :
    Triple (Taking P) slSendAck (fun _ => Taking P) E := by
  refine triple_get_any fun s => triple_ite (fun _ => triple_pure fun _ h => h)
    fun _ => ?_
  split
  · exact triple_pure fun _ h => h
  · exact triple_bind (nDataReq_takes _) fun _ => triple_modify fun _ h => h

theorem slTransmit_flows (m : Msg) (rest : List Msg) :
    Triple (fun s => Flowing all (rest.length + 1) s ∧ s.tb = m :: rest)
      (slTransmit m rest)
      (fun _ s => Flowing all rest.length s ∧
        (s.fills = true → s.flags.rtbFull = true)) E := by
  refine triple_bind (R := fun _ s => Flowing all (rest.length + 1) s ∧
    s.tb = m :: rest) ?_ fun _ => ?_
  · refine triple_get_any fun s => triple_conseq (nDataReq_takes
      (P := fun tb rtb _ => rtb.map Sent.msg ++ tb = all ∧ tb = m :: rest) _)
      (fun t h => ⟨h.1.takes, h.1.whole, h.2⟩)
      (fun _ t h => ⟨⟨h.1, h.2.1, ?_⟩, h.2.2⟩) fun _ h => h
    rw [h.2.2, List.length_cons]
  refine triple_bind (R := fun _ s => Flowing all rest.length s)
    (triple_modify fun s ⟨flows, head⟩ => ⟨flows.takes, ?_, Nat.le_refl _⟩)
    fun _ => triple_modify fun s flows => ⟨{ flows with }, fun fills => ?_⟩
  · show (s.rtb ++ [_]).map Sent.msg ++ rest = all
    rw [← flows.whole, head]
    simp
  · show (s.flags.rtbFull || s.fills) = true
    rw [show s.fills = true from fills, Bool.or_true]

def Drained (all : List Msg) (n : Nat) (s : Sl) : Prop :=
  Flowing all n s ∧ (s.tb = [] ∨ s.flags.rtbFull = true)

theorem slTxLoop_step {fuel : Nat} (m : Msg) (rest : List Msg)
    (loop : Triple (Flowing all rest.length) (slTxLoop fuel)
      (fun _ => Drained all rest.length) E) :
    Triple (fun s => Flowing all (rest.length + 1) s ∧ s.tb = m :: rest)
      (slTxLoop (fuel + 1)) (fun _ => Drained all rest.length) E := by
  refine triple_get_bind fun s ⟨flows, held⟩ => ?_
  have sends : Triple (fun t => s = t) (slTransmit m rest)
      (fun _ t => Flowing all rest.length t ∧
        (t.fills = true → t.flags.rtbFull = true)) E :=
    triple_conseq (slTransmit_flows m rest)
      (fun t same => same ▸ ⟨flows, held⟩) (fun _ _ h => h) fun _ h => h
  rw [held]
  refine triple_bind sends fun _ => triple_get_bind fun t sent => ?_
  refine triple_ite (fun fills => triple_pure fun u same => ?_)
    fun _ => triple_conseq loop (fun u same => same ▸ sent.1)
      (fun _ _ h => h) fun _ h => h
  subst same
  exact ⟨sent.1, .inr (sent.2 fills)⟩

theorem slTxLoop_drains (fuel : Nat) (few : n ≤ fuel) :
    Triple (Flowing all n) (slTxLoop fuel) (fun _ => Drained all n) E := by
  induction fuel generalizing n with
  | zero =>
      refine triple_pure fun s flows => ⟨flows, .inl ?_⟩
      exact List.eq_nil_of_length_eq_zero
        (Nat.le_zero.1 (Nat.le_trans flows.short few))
  | succ fuel ih =>
      intro s flows
      cases held : s.tb with
      | nil =>
          have ends : (slTxLoop (fuel + 1)).exec s = (.ok (), s) := by
            unfold slTxLoop
            rw [exec_bind, exec_get]
            simp only [held]
            rfl
          rw [ends]
          exact ⟨flows, .inl held⟩
      | cons m rest =>
          have short : rest.length + 1 ≤ n := by
            have bound := flows.short
            rwa [held, List.length_cons] at bound
          have head : Flowing all (rest.length + 1) s :=
            { flows with short := by rw [held, List.length_cons] }
          have drains : Triple (fun s => Flowing all (rest.length + 1) s ∧
              s.tb = m :: rest) (slTxLoop (fuel + 1)) (fun _ => Drained all n)
              E :=
            triple_conseq (slTxLoop_step m rest (ih (by omega)))
              (fun _ h => h) (fun _ t h => ⟨{ h.1 with
                short := Nat.le_trans h.1.short (by omega) }, h.2⟩)
              fun _ h => h
          exact drains s ⟨head, held⟩

theorem slTxWakeup_flows {s : Sl} (takes : ∀ outcome ∈ s.env.transport,
    outcome = none) (started : s.state.started = true)
    (sends : s.flags.sendMsu = true) (room : s.flags.rtbFull = false)
    (waiting : s.tb ≠ []) :
    Flowing (s.rtb.map Sent.msg ++ s.tb) (s.tb.length - 1)
        (slTxWakeup.after s) ∧
      ((slTxWakeup.after s).tb = [] ∨
        (slTxWakeup.after s).flags.rtbFull = true) := by
  obtain ⟨m, rest, held⟩ := List.exists_cons_of_ne_nil waiting
  let Done (t : Sl) : Prop :=
    Flowing (s.rtb.map Sent.msg ++ s.tb) (s.tb.length - 1) t ∧
      (t.tb = [] ∨ t.flags.rtbFull = true)
  suffices wakes : Triple (fun t => s = t) slTxWakeup (fun _ => Done) Done from
    triple_after wakes rfl
  refine triple_tryCatch (R := fun _ => False) (triple_get_bind fun t same => ?_)
    fun _ _ stopped => stopped.elim
  subst same
  rw [if_pos started]
  refine triple_bind (R := fun _ => Taking fun tb rtb flags =>
    tb = s.tb ∧ rtb = s.rtb ∧ flags = s.flags) (triple_when (fun _ => ?_)
    fun _ t same => same ▸ ⟨takes, rfl, rfl, rfl⟩) fun _ => ?_
  · exact triple_conseq slSendAck_takes
      (fun t same => same ▸ ⟨takes, rfl, rfl, rfl⟩) (fun _ _ h => h)
      fun _ h => h
  refine triple_get_bind fun t ⟨takes, tb, rtb, flags⟩ => ?_
  have ready : (t.flags.sendMsu && !t.tb.isEmpty && !t.flags.rtbFull) =
      true := by
    rw [flags, tb, held, sends, room]
    rfl
  refine triple_when (fun _ => ?_) fun idle => absurd ready idle
  have whole : t.rtb.map Sent.msg ++ t.tb = s.rtb.map Sent.msg ++ s.tb := by
    rw [rtb, tb]
  have length : s.tb.length - 1 = rest.length := by
    rw [held, List.length_cons, Nat.add_sub_cancel]
  rw [tb, held, List.length_cons]
  refine triple_conseq (@slTxLoop_step (s.rtb.map Sent.msg ++ s.tb) _ _ m rest
    (slTxLoop_drains rest.length (Nat.le_refl _))) (fun u same => ?_)
    (fun _ u h => ⟨length ▸ h.1, h.2⟩) fun _ h => h
  subst same
  exact ⟨⟨takes, whole, by rw [tb, held, List.length_cons]⟩, tb.trans held⟩

end Waking

section Runs

def Sl.Smooth (s : Sl) : Event → Prop
  | .recv octets => s.HearsWell (s.heard octets)
  | .start => s.state = .outOfService → s.flags.remAln = true →
      s.nopr = true → s.duty.Clear
  | .t4Timeout => s.state = .proving → s.duty.Clear
  | .localProcessorOutage => s.state = .inService → s.ToldNext
  | .resume => s.state = .processorOutage → s.pvar ≠ SS7_PVAR_ANSI_92 →
      s.duty.Resumes
  | .clearRtb => s.state = .processorOutage → s.flags.recvMsu = true
  | .clearBuffers => s.state = .processorOutage →
      s.pvar ≠ SS7_PVAR_ANSI_92 → s.flags.continued = true →
      s.flags.rpo = false
  | _ => True

theorem Event.program_fits {s : Sl} (fit : s.duty.Fit) (event : Event)
    (smooth : s.Smooth event) : s.Fits event.program := by
  have failing (n : Notice) (reason : Nat) : s.Fits (fail n reason) :=
    s.fits_of_keeps fit (fail_relieved fit_relieved _ _)
  have expires (waiting : LinkState) : s.Fits (alignmentTimeout waiting) :=
    s.fits_of_keeps fit (keeps_bind keeps_get fun _ => keeps_ite
      (fail_relieved fit_relieved _ _) (keeps_throw _))
  cases event with
  | recv octets =>
      exact triple_bind (slRecvMsg_fits octets fit smooth) fun _ =>
        triple_pure fun _ h => h
  | rxWakeup => exact s.fits_of_keeps fit slRxWakeup_still
  | txWakeup => exact s.fits_of_keeps fit slTxWakeup_still
  | pdu m => exact s.fits_of_keeps fit (slLscPdu_still m)
  | powerOn => exact (slLscPowerOn_leads fit).fits
  | start => exact slLscStart_fits fit smooth
  | stop => exact s.fits_of_keeps fit (slLscStop_relieved fit_relieved)
  | emergency => exact s.fits_of_keeps fit slLscEmergency_still
  | emergencyCeases =>
      exact s.fits_of_keeps fit (keeps_still fun _ => rfl)
  | localProcessorOutage => exact slLscLocalProcessorOutage_fits fit smooth
  | resume => exact (slLscResume_leads fit smooth).fits
  | clearRtb => exact (slLscClearRtb_leads fit smooth).fits
  | clearBuffers => exact (slLscClearBuffers_leads fit smooth).fits
  | retrieveBsnt => exact s.fits_of_keeps fit slLscRetrieveBsnt_still
  | retrieval fsnc =>
      exact s.fits_of_keeps fit (slLscRetrievalRequestAndFsnc_still fsnc)
  | congestionDiscard =>
      exact s.fits_of_keeps fit (keeps_bind slBusy_still fun _ =>
        keeps_still fun _ => rfl)
  | congestionAccept =>
      exact s.fits_of_keeps fit (keeps_bind slBusy_still fun _ =>
        keeps_still fun _ => rfl)
  | noCongestion =>
      exact s.fits_of_keeps fit (keeps_bind slNotBusy_still fun _ =>
        keeps_still fun _ => rfl)
  | t1Timeout => exact failing _ _
  | t2Timeout => exact expires _
  | t3Timeout => exact expires _
  | t4Timeout =>
      refine triple_get_bind fun t same => ?_
      subst same
      refine triple_ite (fun state => ?_) fun _ =>
        triple_throw fun _ eq => eq ▸ fit
      exact (slReady_leads (s.apart_duty state rfl)
        (smooth state)).fits
  | t6Timeout => exact failing _ _
  | t7Timeout => exact failing _ _

def Sl.SmoothRun : Sl → List (Env × Event) → Prop
  | _, [] => True
  | s, (env, event) :: rest =>
      (s.enter env).Smooth event ∧ (s.handle env event).SmoothRun rest

theorem fit_run {s : Sl} (fit : s.duty.Fit) (events : List (Env × Event))
    (smooth : s.SmoothRun events) : (s.run events).duty.Fit := by
  induction events generalizing s with
  | nil => exact fit
  | cons event rest ih =>
      obtain ⟨step, later⟩ := smooth
      refine ih ?_ later
      exact triple_after (Event.program_fits (s := s.enter event.1) fit
        event.2 step) rfl

structure Sl.CarriesTraffic (s : Sl) : Prop where
  apart : s.flags.lpo = false ∧ s.flags.rpo = false
  receives : s.flags.recvMsu = true
  sends : s.flags.sendMsu = true ∨ s.flags.waitSync = true
  wakes : ∀ env : Env, (∀ outcome ∈ env.transport, outcome = none) →
    s.flags.waitSync = false → s.flags.rtbFull = false → s.tb ≠ [] →
    Drained (s.rtb.map Sent.msg ++ s.tb) (s.tb.length - 1)
      (slTxWakeup.after (s.enter env))

/-- In a run whose steps leave no recovery half done, a link in service has
neither outage set, receives messages, sends them unless it waits for the
peer to synchronise, and then moves what is queued to `rtb` at the next
wakeup. -/
theorem in_service_carries (version : Version) (pvar : Nat)
    (nopr mplev : Bool) (config : Config) (notify : Notice → Bool)
    (events : List (Env × Event)) (s : Sl)
    (run : (Sl.allocated version pvar nopr mplev config notify).run events = s)
    (smooth : (Sl.allocated version pvar nopr mplev config
      notify).SmoothRun events)
    (serving : s.state = .inService) : s.CarriesTraffic := by
  have fit := fit_run (.idle rfl) events smooth
  rw [run] at fit
  have carries := fit.serves serving
  refine ⟨carries.apart, carries.receives, carries.sends,
    fun env takes synchronised room waiting => ?_⟩
  refine slTxWakeup_flows (s := s.enter env) takes ?_ ?_ room waiting
  · show s.state.started = true
    rw [serving]
    rfl
  · refine carries.sends.resolve_right fun waits => ?_
    exact absurd (synchronised.symm.trans waits) nofun

instance (d : Duty) : Decidable d.Clear :=
  inferInstanceAs (Decidable (_ → _ → _))

instance (d : Duty) : Decidable d.Resumes :=
  inferInstanceAs (Decidable (_ ∨ _ ∨ _ ∨ _ ∧ _))

instance (s : Sl) : Decidable s.Told :=
  inferInstanceAs (Decidable (_ → _ → _))

instance (s : Sl) : Decidable s.ToldNext :=
  inferInstanceAs (Decidable (_ → _ → _ → _))

instance (s : Sl) (heard : Heard) : Decidable (s.HearsWell heard) :=
  match heard with
  | .unit => inferInstanceAs (Decidable (_ → _))
  | .status .inService => inferInstanceAs (Decidable (_ ∧ _))
  | .status .alignment | .status .provingNormal
  | .status .provingEmergency => inferInstanceAs (Decidable (_ → _ → _))
  | .status .processorOutage => inferInstanceAs (Decidable (_ ∧ _))
  | .status .processorOutageEnded | .status .busy | .status .busyEnded
  | .status .outOfService | .status .ack | .nothing => .isTrue trivial

instance (s : Sl) (event : Event) : Decidable (s.Smooth event) :=
  match event with
  | .recv octets => inferInstanceAs (Decidable (s.HearsWell (s.heard octets)))
  | .start => inferInstanceAs (Decidable (_ → _ → _ → _))
  | .t4Timeout | .localProcessorOutage | .clearRtb =>
      inferInstanceAs (Decidable (_ → _))
  | .resume => inferInstanceAs (Decidable (_ → _ → _))
  | .clearBuffers => inferInstanceAs (Decidable (_ → _ → _ → _))
  | .rxWakeup | .txWakeup | .pdu _ | .powerOn | .stop | .emergency
  | .emergencyCeases | .retrieveBsnt | .retrieval _ | .congestionDiscard
  | .congestionAccept | .noCongestion | .t1Timeout | .t2Timeout | .t3Timeout
  | .t6Timeout | .t7Timeout => .isTrue trivial

instance decidableSmoothRun :
    (s : Sl) → (events : List (Env × Event)) → Decidable (s.SmoothRun events)
  | _, [] => .isTrue trivial
  | s, (env, event) :: rest =>
      have := decidableSmoothRun (s.handle env event) rest
      inferInstanceAs (Decidable (_ ∧ _))

def outageAndBack : List (Env × Event) :=
  intoService ++ [(.calm, .localProcessorOutage), (.calm, .resume),
    (.calm, .recv (statusOctets .inService))]

theorem in_service_carries_again :
    ((Sl.allocated .rfc4165 0 true false slDefault fun _ => false).run
      outageAndBack).CarriesTraffic :=
  in_service_carries .rfc4165 0 true false slDefault (fun _ => false)
    outageAndBack _ rfl (by decide) (by decide)

theorem resume_stops_sending :
    ¬ ∀ (version : Version) (pvar : Nat) (nopr mplev : Bool)
      (config : Config) (notify : Notice → Bool)
      (events : List (Env × Event)) (s : Sl),
      (Sl.allocated version pvar nopr mplev config notify).run events = s →
        s.state = .inService → s.CarriesTraffic := by
  intro claim
  have carries := claim .draft6 SS7_PVAR_ITUT_96 true false slDefault
    (fun _ => false)
    (intoService ++ [(.calm, .localProcessorOutage), (.calm, .resume)]) _ rfl
    (by decide)
  exact absurd carries.sends (by decide)

end Runs

end OpenSS7.M2pa
