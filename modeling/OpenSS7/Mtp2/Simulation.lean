import OpenSS7.Mtp2.Needs

/-!
The module follows the machine of its states and timers: what a primitive
does to `Sl.control` is the step of the machine on what the primitive
amounts to.
-/

namespace OpenSS7.Mtp2

open Program

def Sl.Supplied (s : Sl) : Prop := s.memory = ([], [])

/-- The three machines are at `c`. -/
def At (c : Control) (s : Sl) : Prop := s.control = c ∧ s.Supplied

/-- The program takes the machines from `c` to `d` and does not fail. -/
abbrev Takes {α : Type} (c : Control) (m : SlM α) (d : Control) : Prop :=
  Triple (At c) m (fun _ => At d) (fun _ => False)

section Rules

variable {α β : Type} {c d e : Control}

theorem takes_bind {m : SlM α} {f : α → SlM β} (first : Takes c m d)
    (second : ∀ a, Takes d (f a) e) : Takes c (m >>= f) e :=
  triple_bind first second

theorem takes_pure (a : α) : Takes c (pure a) c :=
  triple_pure fun _ h => h

theorem takes_get {f : Sl → SlM β}
    (each : ∀ s, s.control = c → Takes c (f s) d) : Takes c (get >>= f) d :=
  triple_get_bind fun s holds =>
    triple_conseq (each s holds.1) (fun _ eq => eq ▸ holds) (fun _ _ h => h)
      fun _ h => h

theorem takes_ite {p : Prop} [Decidable p] {m n : SlM α}
    (yes : p → Takes c m d) (no : ¬ p → Takes c n d) :
    Takes c (if p then m else n) d :=
  triple_ite yes no

theorem takes_modify {f : Sl → Sl} (g : Control → Control)
    (acts : ∀ s, ((f s).control, (f s).memory) = (g s.control, s.memory)) :
    Takes c (modify f) (g c) := by
  refine triple_modify fun s ⟨here, supplied⟩ => ?_
  obtain ⟨control, memory⟩ := Prod.mk.inj (acts s)
  exact ⟨control.trans (congrArg g here), memory.trans supplied⟩

theorem takes_quiet {f : Sl → Sl}
    (same : ∀ s, ((f s).control, (f s).memory) = (s.control, s.memory)) :
    Takes c (modify f) c :=
  takes_modify id same

theorem takes_then {f : Sl → Sl} {k : PUnit → SlM β}
    (g : Control → Control)
    (acts : ∀ s, ((f s).control, (f s).memory) = (g s.control, s.memory))
    (rest : Takes (g c) (k ⟨⟩) d) : Takes c (modify f >>= k) d :=
  takes_bind (takes_modify g acts) fun _ => rest

theorem takes_past {f : Sl → Sl} {k : PUnit → SlM β}
    (same : ∀ s, ((f s).control, (f s).memory) = (s.control, s.memory))
    (rest : Takes c (k ⟨⟩) d) : Takes c (modify f >>= k) d :=
  takes_bind (takes_quiet same) fun _ => rest

theorem takes_tryCatch {m : SlM α} {handler : SlError → SlM α}
    (takes : Takes c m d) : Takes c (tryCatch m handler) d :=
  triple_tryCatch takes fun _ _ h => h.elim

theorem takes_of_eq {m : SlM α} (takes : Takes c m d) (eq : d = e) :
    Takes c m e :=
  eq ▸ takes

theorem Asks.takes {m : SlM α} {needs : List Need} (asks : Asks c m needs d) :
    Takes c m d := by
  intro s ⟨control, supplied⟩
  have asked := asks ([], []) s ⟨control, supplied⟩
  cases ran : m.exec s with
  | mk result t =>
      rw [ran] at asked
      cases result with
      | ok a =>
          obtain ⟨control', left⟩ := asked
          rw [draw_supplied] at left
          exact ⟨control', (Option.some.inj left).symm⟩
      | error e =>
          have refused : draw needs ([], []) = none := asked
          rw [draw_supplied] at refused
          cases refused

end Rules

section Primitives

variable {c : Control}

theorem ind_takes (i : Ind) : Takes c (ind i) c := (ind_asks i).takes

theorem sdtReq_takes (r : SdtReq) : Takes c (sdtReq r) c :=
  (sdtReq_asks r).takes

theorem suAlloc_takes : Takes c suAlloc c := suAlloc_asks.takes

theorem canputnextOq_takes : Takes c canputnextOq c := canputnextOq_asks.takes

end Primitives

section Transmission

variable {c : Control}

theorem transmit_takes : Takes c transmit c := transmit_asks.takes

theorem slTxWakeup_takes : Takes c slTxWakeup c := slTxWakeup_asks.takes

theorem slDaedtTransmitterWakeup_takes :
    Takes c slDaedtTransmitterWakeup c :=
  slDaedtTransmitterWakeup_asks.takes

theorem slTxcSendLssu_takes (status : Lssu) :
    Takes c (slTxcSendLssu status) c :=
  (slTxcSendLssu_asks status).takes

theorem slTxcSendMsu_takes :
    Takes c slTxcSendMsu { c with msuInhibited := false } :=
  slTxcSendMsu_asks.takes

theorem slTxcSendFisu_takes :
    Takes c slTxcSendFisu { c with msuInhibited := true } :=
  slTxcSendFisu_asks.takes

theorem slTxcFsnxValue_takes : Takes c slTxcFsnxValue c :=
  slTxcFsnxValue_asks.takes

theorem slTxcNackToBeSent_takes : Takes c slTxcNackToBeSent c :=
  slTxcNackToBeSent_asks.takes

theorem slCheckCongestion_takes : Takes c slCheckCongestion c :=
  takes_get fun _ _ => takes_past (fun _ => rfl) <| takes_ite
    (fun _ => takes_ite (fun _ => ind_takes _) fun _ => ind_takes _)
    fun _ => takes_pure _

end Transmission

section Stopping

variable {c : Control}

theorem slCcNormal_takes : Takes c slCcNormal c := slCcNormal_asks.takes

theorem slRcStop_takes : Takes c slRcStop c.rcStop := slRcStop_asks.takes

theorem slPocStop_takes : Takes c slPocStop c.pocStop := slPocStop_asks.takes

theorem outOfService_takes :
    Takes c (modify outOfService : SlM PUnit) c.outOfService :=
  outOfService_asks.takes

theorem slIacStop_takes : Takes c slIacStop c.iacStop := slIacStop_asks.takes

theorem slLscLinkFailure_takes (reason : Nat) :
    Takes c (slLscLinkFailure reason) c.lscStop :=
  (slLscLinkFailure_asks reason).takes

theorem slLscStop_takes : Takes c slLscStop c.lscStop := by
  refine takes_get fun s eq => ?_
  rw [show s.lscState = c.lscState from congrArg Control.lscState eq]
  unfold Control.lscStop
  refine takes_ite (fun running => ?_) fun stopped => ?_
  · rw [if_pos running]
    exact takes_bind slIacStop_takes fun _ =>
      takes_then (fun c => { c with t1 := false }) (fun _ => rfl) <|
      takes_bind slRcStop_takes fun _ => takes_bind (sdtReq_takes _) fun _ =>
      takes_bind slPocStop_takes fun _ =>
      takes_bind (slTxcSendLssu_takes _) fun _ => outOfService_takes
  · rw [if_neg stopped]
    exact takes_pure _

theorem slLscAlignmentNotPossible_takes :
    Takes c slLscAlignmentNotPossible c.alignmentNotPossible :=
  slLscAlignmentNotPossible_asks.takes

end Stopping

section Received

variable {c : Control}

theorem slLscSio_takes : Takes c slLscSio c.lscSio := slLscSio_asks.takes

theorem slIacSio_takes : Takes c slIacSio c.iacSio := slIacSio_asks.takes

theorem slLscSios_takes : Takes c slLscSios c.lscSios := slLscSios_asks.takes

theorem slIacSios_takes : Takes c slIacSios c.iacSios := slIacSios_asks.takes

theorem slLscSinSie_takes (reason : Nat) :
    Takes c (slLscSinSie reason) c.lscSinSie :=
  (slLscSinSie_asks reason).takes

theorem slIacSin_takes : Takes c slIacSin c.iacSin := slIacSin_asks.takes

theorem proveInEmergency_takes :
    Takes c (do
      modify fun s => { s with t4 := false, t4v := s.config.t4e }
      sdtReq .aermStop
      sdtReq .aermSetTiToTie
      sdtReq .aermStart
      modify fun s => { s with t4 := true, furtherProving := false }
        : SlM PUnit) c.proveInEmergency :=
  proveInEmergency_asks.takes

theorem slIacSie_takes : Takes c slIacSie c.iacSie := slIacSie_asks.takes

theorem slLscNoProcessorOutage_takes :
    Takes c slLscNoProcessorOutage c.noProcessorOutage :=
  slLscNoProcessorOutage_asks.takes

theorem slPocLocalProcessorOutage_takes :
    Takes c slPocLocalProcessorOutage c.pocLocalProcessorOutage := by
  refine takes_modify Control.pocLocalProcessorOutage fun s => ?_
  have same : s.control.pocState = s.pocState := rfl
  unfold Control.pocLocalProcessorOutage
  rw [same]
  cases s.pocState <;> rfl

theorem pocLocalProcessorOutage_pvar :
    c.pocLocalProcessorOutage.pvar = c.pvar := by
  unfold Control.pocLocalProcessorOutage
  split <;> rfl

theorem pocLocalProcessorOutage_msuFisuAccepted :
    c.pocLocalProcessorOutage.msuFisuAccepted = c.msuFisuAccepted := by
  unfold Control.pocLocalProcessorOutage
  split <;> rfl

theorem slLscFisuMsuReceived_takes :
    Takes c slLscFisuMsuReceived c.fisuMsuReceived :=
  slLscFisuMsuReceived_asks.takes

theorem slLscSib_takes : Takes c slLscSib c := slLscSib_asks.takes

theorem slLscSipo_takes : Takes c slLscSipo c.lscSipo := slLscSipo_asks.takes

end Received

section Acknowledgement

variable {c : Control}

theorem slLscRtbCleared_takes : Takes c slLscRtbCleared c.rtbCleared :=
  slLscRtbCleared_asks.takes

theorem slTxcRtbCleared_takes :
    Takes c slTxcRtbCleared { c.rtbCleared with clearRtb := false } :=
  takes_past (fun _ => rfl) <| takes_bind slCheckCongestion_takes fun _ =>
    takes_past (fun _ => rfl) <| takes_bind slLscRtbCleared_takes fun _ =>
    takes_modify (fun c => { c with clearRtb := false }) fun _ => rfl

theorem slTxcRtbFreed_takes : Takes c slTxcRtbFreed c := by
  refine takes_bind slCheckCongestion_takes fun _ =>
    takes_bind slDaedtTransmitterWakeup_takes fun _ =>
    takes_past (fun s => ?_) <| takes_quiet fun s => ?_
  · split <;> rfl
  · split <;> rfl

theorem slTxcRetransmissionStart_takes :
    Takes c slTxcRetransmissionStart c :=
  slTxcRetransmissionStart_asks.takes

theorem freeAcknowledged_control (fuel : Nat) (s : Sl) :
    (((s.freeAcknowledged fuel).elim s
        fun s => { s with sibReceived := false }).control,
      ((s.freeAcknowledged fuel).elim s
        fun s => { s with sibReceived := false }).memory)
    = (s.control, s.memory) := by
  cases freed : s.freeAcknowledged fuel with
  | none => rfl
  | some s' => exact freeAcknowledged_rest fuel s s' freed

theorem slTxcBsnrAndBibr_takes : Takes c slTxcBsnrAndBibr c.bsnrAndBibr := by
  refine takes_past (fun _ => rfl) <| takes_get fun s eq => ?_
  rw [show s.clearRtb = c.clearRtb from congrArg Control.clearRtb eq]
  unfold Control.bsnrAndBibr
  refine takes_ite (fun cleared => ?_) fun kept => ?_
  · rw [if_pos cleared]
    exact slTxcRtbCleared_takes
  · rw [if_neg kept]
    have finish : Takes c (do
        let s ← get
        if !s.option.pcr && decide (s.txNFib ≠ s.txRBib) then
          slTxcRetransmissionStart : SlM PUnit) c :=
      takes_get fun _ _ => takes_ite (fun _ => slTxcRetransmissionStart_takes)
        fun _ => takes_pure _
    exact takes_ite
      (fun _ => takes_past (fun s => freeAcknowledged_control _ s) <|
        takes_bind slTxcRtbFreed_takes fun _ => finish)
      fun _ => finish

theorem acknowledge_takes : Takes c acknowledge c.bsnrAndBibr :=
  takes_bind slTxcBsnrAndBibr_takes fun _ => takes_quiet fun _ => rfl

end Acknowledgement

section Congestion

variable {c : Control}

theorem slCcBusy_takes : Takes c slCcBusy c := slCcBusy_asks.takes

theorem slRcCongestionDiscard_takes : Takes c slRcCongestionDiscard c :=
  slRcCongestionDiscard_asks.takes

theorem slRcCongestionAccept_takes : Takes c slRcCongestionAccept c :=
  slRcCongestionAccept_asks.takes

theorem slRcNoCongestion_takes : Takes c slRcNoCongestion c :=
  slRcNoCongestion_asks.takes

theorem slLscCongestionDiscard_takes : Takes c slLscCongestionDiscard c :=
  takes_bind slRcCongestionDiscard_takes fun _ => takes_quiet fun _ => rfl

theorem slLscCongestionAccept_takes : Takes c slLscCongestionAccept c :=
  takes_bind slRcCongestionAccept_takes fun _ => takes_quiet fun _ => rfl

theorem slLscNoCongestion_takes : Takes c slLscNoCongestion c :=
  takes_bind slRcNoCongestion_takes fun _ => takes_quiet fun _ => rfl

theorem slRbCongestionFunction_takes : Takes c slRbCongestionFunction c :=
  slRbCongestionFunction_asks.takes

end Congestion

section Timeouts

variable {c : Control}

theorem slLscAlignmentComplete_takes :
    Takes c slLscAlignmentComplete c.alignmentComplete := by
  refine takes_get fun s eq => ?_
  rw [show s.lscState = c.lscState from congrArg Control.lscState eq,
    show s.localProcessorOutage = c.localProcessorOutage from
      congrArg Control.localProcessorOutage eq,
    show s.option.pvar = c.pvar from congrArg Control.pvar eq]
  unfold Control.alignmentComplete
  refine takes_ite (fun aligning => ?_) fun other => ?_
  · rw [if_pos aligning]
    refine takes_bind (sdtReq_takes _) fun _ =>
      takes_ite (fun outage => ?_) fun ready => ?_
    · rw [if_pos outage]
      have finish (d : Control) : Takes d (do
          slTxcSendSipo
          modify fun s =>
            { s with
              t1 := true
              msuFisuAccepted :=
                if s.option.pvar ≠ SS7_PVAR_ITUT_93 then false
                else s.msuFisuAccepted
              lscState := .alignedNotReady } : SlM PUnit)
          { d with
            t1 := true
            msuFisuAccepted :=
              if d.pvar ≠ SS7_PVAR_ITUT_93 then false else d.msuFisuAccepted
            lscState := .alignedNotReady } :=
        takes_bind (slTxcSendLssu_takes _) fun _ =>
          takes_modify
            (fun c =>
              { c with
                t1 := true
                msuFisuAccepted :=
                  if c.pvar ≠ SS7_PVAR_ITUT_93 then false
                  else c.msuFisuAccepted
                lscState := .alignedNotReady })
            fun _ => rfl
      refine takes_ite (fun records => ?_) fun ansi => ?_
      · rw [if_pos records]
        exact takes_of_eq
          (takes_bind slPocLocalProcessorOutage_takes fun _ => finish _)
          (by simp only [pocLocalProcessorOutage_pvar,
                pocLocalProcessorOutage_msuFisuAccepted])
      · rw [if_neg ansi]
        exact finish c
    · rw [if_neg ready]
      exact takes_bind slTxcSendMsu_takes fun _ =>
        takes_modify
          (fun c =>
            { c with
              t1 := true, msuFisuAccepted := true, lscState := .alignedReady })
          fun _ => rfl
  · rw [if_neg other]
    exact takes_pure _

theorem slT1Timeout_takes : Takes c slT1Timeout c.t1Timeout := by
  refine takes_bind (ind_takes _) fun _ => takes_past (fun _ => rfl) <|
    takes_bind slRcStop_takes fun _ => takes_bind (sdtReq_takes _) fun _ =>
    takes_bind (slTxcSendLssu_takes _) fun _ =>
    takes_then (fun c => { c with emergency := false }) (fun _ => rfl) ?_
  refine takes_of_eq
    (takes_then
      (fun c =>
        if c.lscState = .alignedNotReady then
          { c with pocState := .idle, localProcessorOutage := false }
        else c)
      (fun s => ?_) <|
      takes_modify (fun c => { c with lscState := .outOfService })
        fun _ => rfl)
    ?_
  · show _ = ((if s.lscState = .alignedNotReady then _ else _ : Control), _)
    split <;> rfl
  · by_cases notReady : c.lscState = .alignedNotReady
    · simp [Control.t1Timeout, Control.rcStop, Control.pocStop, notReady]
    · simp [Control.t1Timeout, Control.rcStop, notReady]

theorem alignmentTimeout_takes (state : IacState) :
    Takes c (alignmentTimeout state) (c.alignmentTimeout state) := by
  refine takes_get fun s eq => ?_
  rw [show s.iacState = c.iacState from congrArg Control.iacState eq]
  unfold Control.alignmentTimeout
  refine takes_ite (fun expected => ?_) fun other => ?_
  · rw [if_pos expected]
    exact takes_bind slLscAlignmentNotPossible_takes fun _ =>
      takes_modify (fun c => { c with emergency := false, iacState := .idle })
        fun _ => rfl
  · rw [if_neg other]
    exact takes_pure _

theorem slT4Timeout_takes : Takes c slT4Timeout c.t4Timeout := by
  refine takes_get fun s eq => ?_
  rw [show s.iacState = c.iacState from congrArg Control.iacState eq,
    show s.furtherProving = c.furtherProving from
      congrArg Control.furtherProving eq]
  unfold Control.t4Timeout
  refine takes_ite (fun proving => ?_) fun other => ?_
  · rw [if_pos proving]
    refine takes_ite (fun again => ?_) fun complete => ?_
    · rw [if_pos again]
      exact takes_bind (sdtReq_takes _) fun _ =>
        takes_modify Control.proveAgain fun _ => rfl
    · rw [if_neg complete]
      exact takes_bind slLscAlignmentComplete_takes fun _ =>
        takes_bind (sdtReq_takes _) fun _ =>
        takes_modify (fun c => { c with emergency := false, iacState := .idle })
          fun _ => rfl
  · rw [if_neg other]
    exact takes_pure _

theorem slT5Timeout_takes : Takes c slT5Timeout c :=
  takes_get fun _ _ => takes_ite (fun _ => slTxcSendLssu_takes _)
    fun _ => takes_pure _

theorem slT6Timeout_takes : Takes c slT6Timeout c.lscStop :=
  takes_bind (slLscLinkFailure_takes _) fun _ => takes_quiet fun _ => rfl

theorem slT7Timeout_takes : Takes c slT7Timeout c.lscStop :=
  takes_bind (slLscLinkFailure_takes _) fun _ => takes_quiet fun _ => rfl

end Timeouts

end OpenSS7.Mtp2
