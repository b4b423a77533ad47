import OpenSS7.Mtp2.Simulation

/-!
The requests of level three, received signal units and the other events each
take the machines of the module one step.
-/

namespace OpenSS7.Mtp2

open Program

section Starting

variable {c : Control}

theorem slRcStart_takes : Takes c slRcStart c.rcStart := by
  refine takes_get fun s eq => ?_
  rw [show s.rcState = c.rcState from congrArg Control.rcState eq]
  unfold Control.rcStart
  refine takes_ite (fun idle => ?_) fun running => ?_
  · rw [if_pos idle]
    exact takes_then
      (fun c =>
        { c with msuFisuAccepted := decide (c.pvar = SS7_PVAR_ANSI_92) })
      (fun _ => rfl) <|
      takes_bind (sdtReq_takes _) fun _ =>
      takes_modify (fun c => { c with rcState := .inService }) fun _ => rfl
  · rw [if_neg running]
    exact takes_pure _

theorem slTxcStart_takes : Takes c slTxcStart c.txcStart := by
  have finish (c : Control) : Takes c (modify fun s =>
      { s with txcState := .sleeping } : SlM PUnit) c :=
    takes_quiet fun _ => rfl
  exact takes_then Control.txcStart (fun _ => rfl) <|
    takes_get fun _ _ => takes_ite
      (fun _ => takes_past (fun _ => rfl) <|
        takes_bind (sdtReq_takes _) fun _ => finish _)
      fun _ => finish _

theorem slIacEmergency_takes : Takes c slIacEmergency c.iacEmergency := by
  refine takes_get fun s eq => ?_
  rw [show s.iacState = c.iacState from congrArg Control.iacState eq]
  cases iac : c.iacState with
  | proving =>
      exact takes_of_eq
        (takes_bind (slTxcSendLssu_takes _) fun _ => proveInEmergency_takes)
        (by simp only [Control.iacEmergency, iac])
  | aligned =>
      exact takes_of_eq
        (takes_bind (slTxcSendLssu_takes _) fun _ =>
          takes_modify (fun c => { c with t4v := c.config.t4e }) fun _ => rfl)
        (by simp only [Control.iacEmergency, iac])
  | _ =>
      exact takes_of_eq
        (takes_modify (fun c => { c with emergency := true }) fun _ => rfl)
        (by simp only [Control.iacEmergency, iac])

theorem slIacStart_takes : Takes c slIacStart c.iacStart := by
  refine takes_get fun s eq => ?_
  rw [show s.iacState = c.iacState from congrArg Control.iacState eq]
  unfold Control.iacStart
  refine takes_ite (fun idle => ?_) fun running => ?_
  · rw [if_pos idle]
    exact takes_bind (slTxcSendLssu_takes _) fun _ =>
      takes_modify (fun c => { c with t2 := true, iacState := .notAligned })
        fun _ => rfl
  · rw [if_neg running]
    exact takes_pure _

theorem slLscStart_takes : Takes c slLscStart c.lscStart := by
  have finish (d : Control) : Takes d (do
      slIacStart
      modify fun s => { s with lscState := .initialAlignment } : SlM PUnit)
      { d.iacStart with lscState := .initialAlignment } :=
    takes_bind slIacStart_takes fun _ =>
      takes_modify (fun c => { c with lscState := .initialAlignment })
        fun _ => rfl
  have emergency : c.rcStart.txcStart.emergency = c.emergency := by
    simp only [Control.rcStart, Control.txcStart]
    split <;> rfl
  refine takes_get fun s eq => ?_
  rw [show s.lscState = c.lscState from congrArg Control.lscState eq]
  unfold Control.lscStart
  refine takes_ite (fun out => ?_) fun other => ?_
  · rw [if_pos out]
    refine takes_bind slRcStart_takes fun _ =>
      takes_bind slTxcStart_takes fun _ => takes_get fun s eq => ?_
    rw [show s.emergency = c.emergency from
      (congrArg Control.emergency eq).trans emergency]
    refine takes_ite (fun yes => ?_) fun no => ?_
    · exact takes_of_eq (takes_bind slIacEmergency_takes fun _ => finish _)
        (by simp only [if_pos yes])
    · exact takes_of_eq (finish _) (by simp only [if_neg no])
  · rw [if_neg other]
    exact takes_pure _

theorem slLscPowerOn_takes : Takes c slLscPowerOn c.powerOn := by
  refine takes_get fun s eq => ?_
  rw [show s.lscState = c.lscState from congrArg Control.lscState eq]
  unfold Control.powerOn
  refine takes_ite (fun off => ?_) fun on => ?_
  · rw [if_pos off]
    exact takes_bind slTxcStart_takes fun _ =>
      takes_bind (slTxcSendLssu_takes _) fun _ =>
      takes_bind (sdtReq_takes _) fun _ =>
      takes_modify
        (fun c =>
          { c with
            localProcessorOutage := false
            emergency := false
            lscState := .outOfService })
        fun _ => rfl
  · rw [if_neg on]
    exact takes_pure _

end Starting

section Requests

variable {c : Control}

theorem slTxcClearRtb_takes :
    Takes c slTxcClearRtb { c with clearRtb := true } :=
  takes_then (fun c => { c with clearRtb := true }) (fun _ => rfl) <|
    slCheckCongestion_takes

theorem slTxcClearTb_takes : Takes c slTxcClearTb c :=
  takes_past (fun _ => rfl) <| slCheckCongestion_takes

theorem slRcClearRb_takes : Takes c slRcClearRb c :=
  takes_past (fun _ => rfl) <| ind_takes _

theorem slLscClearRtb_takes : Takes c slLscClearRtb c.lscClearRtb := by
  refine takes_get fun s eq => ?_
  rw [show s.lscState = c.lscState from congrArg Control.lscState eq]
  unfold Control.lscClearRtb
  refine takes_ite (fun out => ?_) fun other => ?_
  · rw [if_pos out]
    exact takes_then (fun c => { c with localProcessorOutage := false })
      (fun _ => rfl) <|
      takes_bind slTxcSendFisu_takes fun _ => slTxcClearRtb_takes
  · rw [if_neg other]
    exact takes_pure _

theorem slLscClearBuffers_takes :
    Takes c slLscClearBuffers c.lscClearBuffers := by
  have cleared (d : Control) : Takes d (do
      ind .rtbCleared
      modify fun s => { s with localProcessorOutage := false } : SlM PUnit)
      { d with localProcessorOutage := false } :=
    takes_bind (ind_takes _) fun _ =>
      takes_modify (fun c => { c with localProcessorOutage := false })
        fun _ => rfl
  refine takes_get fun s eq => ?_
  rw [show s.lscState = c.lscState from congrArg Control.lscState eq,
    show s.option.isAnsi = c.isAnsi from congrArg Control.isAnsi eq]
  cases lsc : c.lscState with
  | outOfService =>
      refine takes_ite (fun ansi => ?_) fun other => ?_
      · exact takes_of_eq (cleared c)
          (by simp only [Control.lscClearBuffers, lsc, if_pos ansi])
      · exact takes_of_eq (takes_pure _)
          (by simp only [Control.lscClearBuffers, lsc, if_neg other])
  | initialAlignment =>
      refine takes_ite (fun ansi => ?_) fun other => ?_
      · exact takes_of_eq (cleared c)
          (by simp only [Control.lscClearBuffers, lsc, if_pos ansi])
      · exact takes_of_eq (takes_pure _)
          (by simp only [Control.lscClearBuffers, lsc, if_neg other])
  | alignedNotReady =>
      refine takes_ite (fun ansi => ?_) fun other => ?_
      · exact takes_of_eq
          (takes_bind (ind_takes _) fun _ =>
            takes_then (fun c => { c with localProcessorOutage := false })
              (fun _ => rfl) <|
            takes_bind slTxcSendFisu_takes fun _ =>
            takes_modify (fun c => { c with lscState := .alignedReady })
              fun _ => rfl)
          (by simp only [Control.lscClearBuffers, lsc, if_pos ansi])
      · exact takes_of_eq (takes_pure _)
          (by simp only [Control.lscClearBuffers, lsc, if_neg other])
  | processorOutage =>
      refine takes_ite (fun ansi => ?_) fun other => ?_
      · exact takes_of_eq
          (takes_then (fun c => { c with localProcessorOutage := false })
            (fun _ => rfl) <|
            takes_bind slRcClearRb_takes fun _ =>
            takes_then (fun c => { c with msuFisuAccepted := true })
              (fun _ => rfl) <|
            takes_bind slTxcSendFisu_takes fun _ =>
            takes_bind slTxcClearTb_takes fun _ => slTxcClearRtb_takes)
          (by simp only [Control.lscClearBuffers, lsc, if_pos ansi])
      · refine takes_past (fun _ => rfl) <|
          takes_then (fun c => { c with l3IndicationReceived := true })
            (fun _ => rfl) ?_
        rw [show s.processorOutage = c.processorOutage from
          congrArg Control.processorOutage eq]
        refine takes_ite (fun out => ?_) fun clear => ?_
        · exact takes_of_eq (takes_pure _)
            (by simp only [Control.lscClearBuffers, lsc, if_neg other,
                  if_pos out])
        · exact takes_of_eq
            (takes_then (fun c => { c with l3IndicationReceived := false })
              (fun _ => rfl) <|
              takes_bind slTxcSendMsu_takes fun _ =>
              takes_modify
                (fun c =>
                  { c with
                    localProcessorOutage := false
                    msuFisuAccepted := true
                    lscState := .inService })
                fun _ => rfl)
            (by simp only [Control.lscClearBuffers, lsc, if_neg other,
                  if_neg clear])
  | _ =>
      exact takes_of_eq (takes_pure _)
        (by simp only [Control.lscClearBuffers, lsc])

theorem slPocLocalProcessorRecovered_takes :
    Takes c slPocLocalProcessorRecovered c.pocLocalProcessorRecovered := by
  refine takes_get fun s eq => ?_
  rw [show s.pocState = c.pocState from congrArg Control.pocState eq]
  cases poc : c.pocState with
  | localProcessorOutage =>
      exact takes_of_eq
        (takes_bind slLscNoProcessorOutage_takes fun _ =>
          takes_modify Control.pocStop fun _ => rfl)
        (by simp only [Control.pocLocalProcessorRecovered, poc])
  | bothProcessorsOut =>
      exact takes_of_eq
        (takes_modify (fun c => { c with pocState := .remoteProcessorOutage })
          fun _ => rfl)
        (by simp only [Control.pocLocalProcessorRecovered, poc])
  | _ =>
      exact takes_of_eq (takes_pure _)
        (by simp only [Control.pocLocalProcessorRecovered, poc])

theorem slRcRetrieveFsnx_takes : Takes c slRcRetrieveFsnx c :=
  takes_bind slTxcFsnxValue_takes fun _ => takes_past (fun _ => rfl) <|
    takes_bind slCcNormal_takes fun _ => takes_quiet fun _ => rfl

theorem slLscLocalProcessorRecovered_takes :
    Takes c slLscLocalProcessorRecovered c.lscResume := by
  refine takes_get fun s eq => ?_
  rw [show s.lscState = c.lscState from congrArg Control.lscState eq,
    show s.option.isAnsi = c.isAnsi from congrArg Control.isAnsi eq,
    show s.option.pvar = c.pvar from congrArg Control.pvar eq]
  cases lsc : c.lscState with
  | outOfService =>
      exact takes_of_eq
        (takes_modify (fun c => { c with localProcessorOutage := false })
          fun _ => rfl)
        (by simp only [Control.lscResume, lsc])
  | initialAlignment =>
      exact takes_of_eq
        (takes_modify (fun c => { c with localProcessorOutage := false })
          fun _ => rfl)
        (by simp only [Control.lscResume, lsc])
  | alignedNotReady =>
      have finish (d : Control) : Takes d (do
          modify fun s => { s with localProcessorOutage := false }
          slTxcSendFisu
          modify fun s =>
            { s with
              msuFisuAccepted :=
                s.msuFisuAccepted || decide (s.option.pvar = SS7_PVAR_ITUT_96)
              lscState := .alignedReady } : SlM PUnit)
          { d with
            localProcessorOutage := false
            msuInhibited := true
            msuFisuAccepted :=
              d.msuFisuAccepted || decide (d.pvar = SS7_PVAR_ITUT_96)
            lscState := .alignedReady } :=
        takes_then (fun c => { c with localProcessorOutage := false })
          (fun _ => rfl) <|
          takes_bind slTxcSendFisu_takes fun _ =>
          takes_modify
            (fun c =>
              { c with
                msuFisuAccepted :=
                  c.msuFisuAccepted || decide (c.pvar = SS7_PVAR_ITUT_96)
                lscState := .alignedReady })
            fun _ => rfl
      refine takes_ite (fun records => ?_) fun ansi => ?_
      · exact takes_of_eq
          (takes_bind slPocLocalProcessorRecovered_takes fun _ => finish _)
          (by simp only [Control.lscResume, lsc, if_pos records])
      · exact takes_of_eq (finish c)
          (by simp only [Control.lscResume, lsc, if_neg ansi])
  | processorOutage =>
      refine takes_ite (fun ansi => ?_) fun other => ?_
      · refine takes_then
          (fun c =>
            { c with localProcessorOutage := false, msuFisuAccepted := true })
          (fun _ => rfl) ?_
        rw [show s.remoteProcessorOutage = c.remoteProcessorOutage from
          congrArg Control.remoteProcessorOutage eq]
        refine takes_ite (fun remote => ?_) fun ceased => ?_
        · exact takes_of_eq
            (takes_bind slTxcSendFisu_takes fun _ =>
              takes_tryCatch (ind_takes _))
            (by simp only [Control.lscResume, lsc, if_pos ansi, if_pos remote])
        · exact takes_of_eq
            (takes_bind slTxcSendMsu_takes fun _ =>
              takes_modify (fun c => { c with lscState := .inService })
                fun _ => rfl)
            (by simp only [Control.lscResume, lsc, if_pos ansi, if_neg ceased])
      · exact takes_of_eq
          (takes_bind slPocLocalProcessorRecovered_takes fun _ =>
            takes_bind slRcRetrieveFsnx_takes fun _ =>
            takes_bind slTxcSendFisu_takes fun _ =>
            takes_modify (fun c => { c with lscState := .inService })
              fun _ => rfl)
          (by simp only [Control.lscResume, lsc, if_neg other])
  | _ =>
      exact takes_of_eq (takes_pure _) (by simp only [Control.lscResume, lsc])

theorem recordLocalOutage_takes {ansi92 : Bool}
    (eq : ansi92 = decide (c.pvar = SS7_PVAR_ANSI_92)) :
    Takes c (recordLocalOutage ansi92) c.recordLocalOutage := by
  unfold recordLocalOutage Control.recordLocalOutage
  rw [eq]
  refine takes_ite (fun yes => ?_) fun no => ?_
  · rw [if_pos (of_decide_eq_true yes)]
    exact takes_modify (fun c => { c with localProcessorOutage := true })
      fun _ => rfl
  · rw [if_neg fun yes => no (decide_eq_true yes)]
    exact slPocLocalProcessorOutage_takes

theorem recordLocalOutage_rest :
    c.recordLocalOutage.pvar = c.pvar ∧
      c.recordLocalOutage.msuFisuAccepted = c.msuFisuAccepted ∧
      c.recordLocalOutage.processorOutage = c.processorOutage := by
  unfold Control.recordLocalOutage Control.pocLocalProcessorOutage
  split
  · exact ⟨rfl, rfl, rfl⟩
  · split <;> exact ⟨rfl, rfl, rfl⟩

theorem slLscLocalProcessorOutage_takes :
    Takes c slLscLocalProcessorOutage c.lscLocalProcessorOutage := by
  obtain ⟨pvar, accepted, outage⟩ := recordLocalOutage_rest (c := c)
  refine takes_get fun s eq => ?_
  rw [show s.lscState = c.lscState from congrArg Control.lscState eq,
    show s.option.pvar = c.pvar from congrArg Control.pvar eq]
  cases lsc : c.lscState with
  | outOfService =>
      exact takes_of_eq
        (takes_modify (fun c => { c with localProcessorOutage := true })
          fun _ => rfl)
        (by simp only [Control.lscLocalProcessorOutage, lsc])
  | initialAlignment =>
      exact takes_of_eq
        (takes_modify (fun c => { c with localProcessorOutage := true })
          fun _ => rfl)
        (by simp only [Control.lscLocalProcessorOutage, lsc])
  | alignedReady =>
      exact takes_of_eq
        (takes_bind (recordLocalOutage_takes rfl) fun _ =>
          takes_bind (slTxcSendLssu_takes _) fun _ =>
          takes_modify
            (fun c =>
              { c with
                msuFisuAccepted :=
                  if c.pvar ≠ SS7_PVAR_ITUT_93 then false
                  else c.msuFisuAccepted
                lscState := .alignedNotReady })
            fun _ => rfl)
        (by simp only [Control.lscLocalProcessorOutage, lsc, pvar, accepted])
  | inService =>
      have finish (d : Control) : Takes d (do
          modify fun s => { s with lscState := .processorOutage } : SlM PUnit)
          { d with lscState := .processorOutage } :=
        takes_modify (fun c => { c with lscState := .processorOutage })
          fun _ => rfl
      refine takes_of_eq
        (takes_bind (recordLocalOutage_takes rfl) fun _ =>
          takes_then
            (fun d =>
              { d with
                processorOutage :=
                  d.processorOutage || !decide (c.pvar = SS7_PVAR_ANSI_92) })
            (fun _ => rfl) <|
          takes_bind (slTxcSendLssu_takes _) fun _ =>
          takes_then (fun c => { c with msuFisuAccepted := false })
            (fun _ => rfl) <|
          takes_ite
            (fun _ => takes_bind slTxcFsnxValue_takes fun _ =>
              takes_bind slCcNormal_takes fun _ => finish _)
            fun _ => finish _)
        ?_
      simp only [Control.lscLocalProcessorOutage, lsc, outage]
  | processorOutage =>
      exact takes_of_eq
        (takes_bind (recordLocalOutage_takes rfl) fun _ =>
          slTxcSendLssu_takes _)
        (by simp only [Control.lscLocalProcessorOutage, lsc])
  | _ =>
      exact takes_of_eq (takes_pure _)
        (by simp only [Control.lscLocalProcessorOutage, lsc])

theorem slLscEmergency_takes : Takes c slLscEmergency c.lscEmergency :=
  takes_bind slIacEmergency_takes fun _ =>
    takes_modify (fun c => { c with emergency := true }) fun _ => rfl

theorem slLscEmergencyCeases_takes :
    Takes c slLscEmergencyCeases c.lscEmergencyCeases :=
  takes_modify Control.lscEmergencyCeases fun _ => rfl

theorem slIacCorrectSu_takes : Takes c slIacCorrectSu c.iacCorrectSu := by
  refine takes_get fun s eq => ?_
  rw [show s.iacState = c.iacState from congrArg Control.iacState eq,
    show s.furtherProving = c.furtherProving from
      congrArg Control.furtherProving eq]
  unfold Control.iacCorrectSu
  refine takes_ite (fun again => ?_) fun other => ?_
  · rw [if_pos again]
    exact takes_then (fun c => { c with t4 := false }) (fun _ => rfl) <|
      takes_bind (sdtReq_takes _) fun _ =>
      takes_modify Control.proveAgain fun _ => rfl
  · rw [if_neg other]
    exact takes_pure _

theorem slIacAbortProving_takes :
    Takes c slIacAbortProving c.iacAbortProving := by
  refine takes_get fun s eq => ?_
  rw [show s.iacState = c.iacState from congrArg Control.iacState eq,
    show s.config = c.config from congrArg Control.config eq,
    show s.Cp = c.Cp from congrArg Control.Cp eq]
  unfold Control.iacAbortProving
  refine takes_ite (fun proving => ?_) fun other => ?_
  · rw [if_pos proving]
    refine takes_then (fun d => { d with Cp := d.Cp + 1 }) (fun _ => rfl) <|
      takes_ite (fun limit => ?_) fun below => ?_
    · exact takes_of_eq
        (takes_bind slLscAlignmentNotPossible_takes fun _ =>
          takes_then (fun c => { c with t4 := false }) (fun _ => rfl) <|
          takes_bind (sdtReq_takes _) fun _ =>
          takes_modify
            (fun c => { c with emergency := false, iacState := .idle })
            fun _ => rfl)
        (by simp only [if_pos limit, Control.alignmentNotPossible])
    · exact takes_of_eq
        (takes_modify (fun c => { c with furtherProving := true })
          fun _ => rfl)
        (by simp only [if_neg below])
  · rw [if_neg other]
    exact takes_pure _

end Requests

section Reading

/-- The program takes exactly the state `s` to machines at `d`. -/
abbrev From {α : Type} (s : Sl) (m : SlM α) (d : Control) : Prop :=
  Triple (fun s' => s = s') m (fun _ => At d) (fun _ => False)

variable {α β : Type} {s : Sl} {d : Control}

theorem Takes.from {m : SlM α} (takes : Takes s.control m d)
    (supplied : s.Supplied) : From s m d :=
  triple_conseq takes (fun _ eq => eq ▸ ⟨rfl, supplied⟩) (fun _ _ h => h)
    fun _ h => h

theorem from_get {f : Sl → SlM β} (each : From s (f s) d) :
    From s (get >>= f) d :=
  triple_get_bind fun _ eq => eq ▸ each

theorem from_modify {f : Sl → Sl} {k : PUnit → SlM β}
    (rest : From (f s) (k ⟨⟩) d) : From s (modify f >>= k) d :=
  triple_bind (R := fun _ s' => f s = s')
    (triple_modify fun _ eq => congrArg f eq) fun _ => rest

theorem from_ite {p : Prop} [Decidable p] {m n : SlM α}
    (yes : p → From s m d) (no : ¬ p → From s n d) :
    From s (if p then m else n) d :=
  triple_ite yes no

theorem acceptMsu_takes {c : Control} (octets : List UInt8) :
    Takes c (acceptMsu octets) c :=
  takes_past (fun _ => rfl) <| takes_get fun _ _ =>
    takes_ite (fun _ => slCcBusy_takes) fun _ => slTxcFsnxValue_takes

theorem slRcPcr_takes {c : Control} (octets : List UInt8) :
    Takes c (slRcPcr octets) (c.step (.acknowledged true)) :=
  takes_bind slLscFisuMsuReceived_takes fun _ =>
    takes_bind acknowledge_takes fun _ => takes_get fun _ _ => takes_ite
      (fun _ => takes_bind slRbCongestionFunction_takes fun _ =>
        takes_get fun _ _ => takes_ite (fun _ => slCcBusy_takes) fun _ =>
        takes_ite (fun _ => acceptMsu_takes octets) fun _ => takes_pure _)
      fun _ => takes_pure _

theorem slRcBasicInSequence_takes {c : Control} (octets : List UInt8) :
    Takes c (slRcBasicInSequence octets) (c.step (.acknowledged true)) :=
  takes_bind slLscFisuMsuReceived_takes fun _ =>
    takes_bind acknowledge_takes fun _ => takes_get fun _ _ => takes_ite
      (fun _ => takes_bind slRbCongestionFunction_takes fun _ =>
        takes_get fun _ _ => takes_ite
          (fun _ => takes_past (fun _ => rfl) slCcBusy_takes) fun _ =>
        takes_ite (fun _ => takes_past (fun _ => rfl) (acceptMsu_takes octets))
          fun _ =>
        takes_ite (fun _ => takes_pure _) fun _ =>
        takes_ite (fun _ => takes_past (fun _ => rfl) slCcBusy_takes) fun _ =>
        takes_bind slTxcNackToBeSent_takes fun _ => takes_quiet fun _ => rfl)
      fun _ => takes_pure _

theorem slRcLssu_takes {c : Control} (status : Lssu) :
    Takes c (slRcLssu status) (c.step (.status status)) := by
  cases status with
  | sio => exact takes_bind slLscSio_takes fun _ => slIacSio_takes
  | sin => exact takes_bind (slLscSinSie_takes _) fun _ => slIacSin_takes
  | sie => exact takes_bind (slLscSinSie_takes _) fun _ => slIacSie_takes
  | sios => exact takes_bind slLscSios_takes fun _ => slIacSios_takes
  | sipo => exact slLscSipo_takes
  | sib => exact slLscSib_takes
  | unassigned => exact takes_pure _

theorem slRcBasic_from (supplied : s.Supplied) (octets : List UInt8) :
    From s (slRcBasic octets) (s.control.step (
      if s.rxRFib = s.rxXFib then
        if s.abnormalFibr && !s.unf then .quiet else .acknowledged true
      else if s.abnormalFibr then .stop
      else if s.rtr then .acknowledged false
      else .quiet)) := by
  refine from_get <| from_ite (fun same => ?_) fun differs => ?_
  · rw [if_pos same]
    refine from_ite (fun again => ?_) fun first => ?_
    · rw [if_pos again]
      exact (takes_quiet fun _ => rfl).from supplied
    · rw [if_neg first]
      exact from_modify <| (slRcBasicInSequence_takes octets).from supplied
  · rw [if_neg differs]
    refine from_ite (fun abnormal => ?_) fun normal => ?_
    · rw [if_pos abnormal]
      exact (slLscLinkFailure_takes _).from supplied
    · rw [if_neg normal]
      refine from_ite (fun requested => ?_) fun other => ?_
      · rw [if_pos requested]
        exact acknowledge_takes.from supplied
      · rw [if_neg other]
        exact (takes_quiet fun _ => rfl).from supplied

theorem slRcFisuMsu_from (supplied : s.Supplied) (octets : List UInt8) :
    From s (slRcFisuMsu octets) (s.control.step (
      if SN_OUTSIDE (s.pred s.rxFFsn) s.rxRBsn s.rxTFsn then
        if s.abnormalBsnr then .abnormalBsnr else .quiet
      else if s.abnormalBsnr && !s.unb then .quiet
      else if s.option.pcr then .acknowledged true
      else if s.rxRFib = s.rxXFib then
        if s.abnormalFibr && !s.unf then .quiet else .acknowledged true
      else if s.abnormalFibr then .stop
      else if s.rtr then .acknowledged false
      else .quiet)) := by
  refine from_get <| from_ite (fun outside => ?_) fun inside => ?_
  · rw [if_pos outside]
    refine from_ite (fun again => ?_) fun first => ?_
    · rw [if_pos again]
      exact (takes_bind (slLscLinkFailure_takes _) fun _ =>
        takes_modify Control.rcStop fun _ => rfl).from supplied
    · rw [if_neg first]
      exact (takes_quiet fun _ => rfl).from supplied
  · rw [if_neg inside]
    refine from_ite (fun again => ?_) fun first => ?_
    · rw [if_pos again]
      exact (takes_quiet fun _ => rfl).from supplied
    · rw [if_neg first]
      refine from_modify <| from_ite (fun pcr => ?_) fun basic => ?_
      · rw [if_pos pcr]
        exact (slRcPcr_takes _).from supplied
      · rw [if_neg basic]
        exact slRcBasic_from (s := { s with abnormalBsnr := false }) supplied _

theorem slRcSignalUnit_from (supplied : s.Supplied) (octets : List UInt8) :
    From s (slRcSignalUnit octets) (s.control.step (s.reading octets)) := by
  unfold Sl.reading
  refine from_get <| from_ite (fun serves => ?_) fun idle => ?_
  · rw [if_neg (not_not.mpr serves)]
    refine from_modify <| from_get <| from_ite (fun lssu => ?_) fun other => ?_
    · rw [if_pos lssu]
      exact (slRcLssu_takes _).from supplied
    · rw [if_neg other]
      exact slRcFisuMsu_from (s := s.decode octets) supplied _
  · rw [if_pos idle]
    exact (takes_pure _).from supplied

end Reading

section Delivery

variable {c : Control}

theorem slRxDeliver_takes (fuel : Nat) : Takes c (slRxDeliver fuel) c := by
  induction fuel with
  | zero => exact takes_pure _
  | succ fuel ih =>
      exact takes_get fun _ _ => takes_past (fun _ => rfl) <|
        takes_ite (fun _ => takes_pure _) fun _ =>
        takes_bind canputnextOq_takes fun _ =>
        takes_ite (fun _ => ih) fun _ => takes_pure _

theorem slRxWakeup_takes : Takes c slRxWakeup c := by
  refine takes_get fun s _ => takes_ite (fun _ => takes_pure _) fun _ =>
    takes_bind canputnextOq_takes fun _ => takes_ite (fun _ => ?_)
      fun _ => takes_pure _
  cases s.lscState with
  | initialAlignment => exact takes_quiet fun _ => rfl
  | alignedReady => exact takes_quiet fun _ => rfl
  | alignedNotReady => exact takes_quiet fun _ => rfl
  | processorOutage =>
      exact takes_ite (fun _ => takes_pure _) fun _ => slRxDeliver_takes _
  | inService => exact slRxDeliver_takes _
  | _ => exact takes_pure _

theorem slRcRetrieveBsnt_takes : Takes c slRcRetrieveBsnt c :=
  takes_past (fun _ => rfl) <| takes_get fun _ _ => ind_takes _

theorem slLscRetrieveBsnt_takes : Takes c slLscRetrieveBsnt c := by
  refine takes_get fun s _ => ?_
  cases s.lscState with
  | outOfService => exact slRcRetrieveBsnt_takes
  | processorOutage => exact slRcRetrieveBsnt_takes
  | _ => exact takes_pure _

theorem freeRetrieved_control (fsnc fuel : Nat) (s : Sl) :
    ((s.freeRetrieved fsnc fuel).control, (s.freeRetrieved fsnc fuel).memory)
    = (s.control, s.memory) := by
  induction fuel generalizing s with
  | zero => rfl
  | succ fuel ih =>
      unfold Sl.freeRetrieved
      split
      · exact ih s.freeOne
      · rfl

theorem slTxcRetrieve_takes (fuel : Nat) : Takes c (slTxcRetrieve fuel) c := by
  induction fuel with
  | zero => exact takes_pure _
  | succ fuel ih =>
      refine takes_get fun s _ => ?_
      split
      · exact takes_pure _
      · exact takes_past (fun _ => rfl) <| takes_bind (ind_takes _) fun _ => ih

theorem slTxcRetrievalRequestAndFsnc_takes (fsnc : Nat) :
    Takes c (slTxcRetrievalRequestAndFsnc fsnc) c :=
  takes_past (fun _ => rfl) <|
    takes_past (fun s => freeRetrieved_control fsnc _ s) <|
    takes_past (fun _ => rfl) <| takes_past (fun _ => rfl) <|
    takes_get fun _ _ => takes_bind (slTxcRetrieve_takes _) fun _ =>
    takes_past (fun _ => rfl) <| takes_bind (ind_takes _) fun _ =>
    takes_quiet fun _ => rfl

theorem slLscRetrievalRequestAndFsnc_takes (fsnc : Nat) :
    Takes c (slLscRetrievalRequestAndFsnc fsnc) c := by
  refine takes_get fun s _ => ?_
  cases s.lscState with
  | outOfService => exact slTxcRetrievalRequestAndFsnc_takes fsnc
  | processorOutage => exact slTxcRetrievalRequestAndFsnc_takes fsnc
  | _ => exact takes_pure _

theorem slTxcMessageForTransmission_takes (m : Msu) :
    Takes c (slTxcMessageForTransmission m) c :=
  takes_past (fun _ => rfl) <|
    takes_bind (takes_tryCatch slCheckCongestion_takes) fun _ =>
    slDaedtTransmitterWakeup_takes

end Delivery

section Steps

abbrev Ends {α : Type} (s : Sl) (m : SlM α) (d : Control) : Prop :=
  Triple (fun s' => s = s') m (fun _ => At d) (At d)

variable {α : Type} {s : Sl} {d : Control}

theorem ends_of_from {m : SlM α} (takes : From s m d) : Ends s m d :=
  triple_conseq takes (fun _ h => h) (fun _ _ h => h) fun _ h => h.elim

theorem Takes.ends {m : SlM α} (takes : Takes s.control m d)
    (supplied : s.Supplied) : Ends s m d :=
  ends_of_from (takes.from supplied)

theorem slLscPdu_ends (supplied : s.Supplied) (id : Nat) (sdu : List UInt8)
    (priority : Nat) (headroom : Bool) :
    Ends s (slLscPdu id sdu priority headroom) s.control := by
  refine triple_get_bind fun s' eq => ?_
  subst eq
  refine triple_ite (fun _ =>
    (slTxcMessageForTransmission_takes _).ends supplied) fun _ => ?_
  refine triple_bind (R := fun _ => At s.control) ?_ fun _ => triple_ite
    (fun _ => triple_conseq (slTxcMessageForTransmission_takes _)
      (fun _ h => h) (fun _ _ h => h) fun _ h => h.elim)
    fun _ => triple_throw fun _ h => h
  exact suAlloc_takes.ends supplied

theorem transmit_ends (supplied : s.Supplied) :
    Ends s (do let _ ← transmit : SlM PUnit) s.control :=
  (takes_bind transmit_takes fun _ => takes_pure _).ends supplied

theorem expire_takes {c : Control} {runs : Sl → Bool}
    {set : Bool → Sl → Sl} {timeout : SlM Unit} (running : Control → Bool)
    (g : Control → Control)
    (reads : ∀ s, runs s = running s.control)
    (sets : ∀ s, ((set false s).control, (set false s).memory)
      = (g s.control, s.memory))
    (takes : Takes (g c) timeout d) :
    Takes c (expire runs set timeout) (if running c then d else c) := by
  refine takes_get fun s eq => ?_
  rw [reads s, eq]
  refine takes_ite (fun yes => ?_) fun no => ?_
  · rw [if_pos yes]
    exact takes_then g sets (takes_tryCatch takes)
  · rw [if_neg no]
    exact takes_pure _

theorem timer_takes {c : Control} (timer : Timer) :
    Takes c (expire timer.runs timer.set timer.timeout) (c.expire timer) := by
  cases timer with
  | t1 =>
      exact expire_takes Control.t1 (fun c => { c with t1 := false })
        (fun _ => rfl) (fun _ => rfl) slT1Timeout_takes
  | t2 =>
      exact expire_takes Control.t2 (fun c => { c with t2 := false })
        (fun _ => rfl) (fun _ => rfl) (alignmentTimeout_takes .notAligned)
  | t3 =>
      exact expire_takes Control.t3 (fun c => { c with t3 := false })
        (fun _ => rfl) (fun _ => rfl) (alignmentTimeout_takes .aligned)
  | t4 =>
      exact expire_takes Control.t4 (fun c => { c with t4 := false })
        (fun _ => rfl) (fun _ => rfl) slT4Timeout_takes

theorem event_ends (supplied : s.Supplied) (e : Event)
    (other : e.timer = none) :
    Ends s e.program (s.control.step (s.input (.event e))) := by
  cases e with
  | pdu id sdu priority headroom =>
      exact slLscPdu_ends supplied id sdu priority headroom
  | transmissionRequest => exact transmit_ends supplied
  | txWakeup => exact slTxWakeup_takes.ends supplied
  | signalUnit octets =>
      exact ends_of_from (slRcSignalUnit_from supplied octets)
  | rxWakeup => exact slRxWakeup_takes.ends supplied
  | congestionDiscard => exact slLscCongestionDiscard_takes.ends supplied
  | congestionAccept => exact slLscCongestionAccept_takes.ends supplied
  | noCongestion => exact slLscNoCongestion_takes.ends supplied
  | t5Timeout => exact slT5Timeout_takes.ends supplied
  | t6Timeout => exact slT6Timeout_takes.ends supplied
  | t7Timeout => exact slT7Timeout_takes.ends supplied
  | errorRate => exact (slLscLinkFailure_takes _).ends supplied
  | _ => cases other

theorem program_ends (supplied : s.Supplied) (p : Primitive) :
    Ends s p.program (s.control.step (s.input p)) := by
  cases p with
  | event e =>
      cases timer : e.timer with
      | some timer' =>
          simp only [Primitive.program, Sl.input, timer]
          exact (timer_takes timer').ends supplied
      | none =>
          have ends := event_ends supplied e timer
          simp only [Primitive.program, timer]
          exact ends
  | powerOnReq => exact slLscPowerOn_takes.ends supplied
  | startReq => exact slLscStart_takes.ends supplied
  | stopReq => exact slLscStop_takes.ends supplied
  | emergencyReq => exact slLscEmergency_takes.ends supplied
  | emergencyCeasesReq => exact slLscEmergencyCeases_takes.ends supplied
  | localProcessorOutageReq =>
      exact slLscLocalProcessorOutage_takes.ends supplied
  | resumeReq => exact slLscLocalProcessorRecovered_takes.ends supplied
  | clearBuffersReq => exact slLscClearBuffers_takes.ends supplied
  | clearRtbReq => exact slLscClearRtb_takes.ends supplied
  | retrieveBsntReq => exact slLscRetrieveBsnt_takes.ends supplied
  | retrievalRequestAndFsncReq fsnc =>
      exact (slLscRetrievalRequestAndFsnc_takes fsnc).ends supplied
  | correctSuInd => exact slIacCorrectSu_takes.ends supplied
  | abortProvingInd => exact slIacAbortProving_takes.ends supplied
  | congestionAcceptInd => exact slRcCongestionAccept_takes.ends supplied
  | congestionDiscardInd => exact slRcCongestionDiscard_takes.ends supplied
  | noCongestionInd => exact slRcNoCongestion_takes.ends supplied

def Env.Supplies (env : Env) : Prop := env.indMem = [] ∧ env.reqMem = []

theorem perform_control (s : Sl) {env : Env} (supplies : env.Supplies)
    (p : Primitive) :
    (s.perform env p).control = s.control.step (s.input p) := by
  have supplied : (s.enter env).Supplied :=
    Prod.ext supplies.1 supplies.2
  exact triple_after
    (triple_conseq (program_ends supplied p) (fun _ h => h)
      (fun _ _ h => h.1) fun _ h => h.1) rfl

end Steps

end OpenSS7.Mtp2
