import OpenSS7.Mtp2.Alignment

/-!
Processor outage and the link in service: which steps put a link into service
that does not carry traffic in both directions, and that a link none of whose
steps is one of them carries traffic whenever it is in service.
-/

namespace OpenSS7.Mtp2

namespace Control

def outageFree (c : Control) : Prop :=
  if c.isAnsi then
    c.localProcessorOutage = false ∧ c.remoteProcessorOutage = false
  else c.pocState = .idle

def Carries (c : Control) : Prop :=
  c.lscState = .inService →
    c.outageFree ∧ c.msuInhibited = false ∧ c.msuFisuAccepted = true

def rtbClearedSafe (c : Control) : Prop :=
  c.clearRtb = true → c.localProcessorOutage = false →
    c.msuFisuAccepted = true ∧ (c.isAnsi = false → c.pocState = .idle)

def takenSafe (c : Control) : Prop :=
  if c.isAnsi then
    c.clearRtb = true → c.localProcessorOutage = false →
      c.msuFisuAccepted = true
  else if c.pocState = .remoteProcessorOutage then
    c.l3IndicationReceived = false → c.clearRtb = true →
      c.localProcessorOutage = false → c.msuFisuAccepted = true
  else c.rtbClearedSafe

def Safe (c : Control) : Input → Prop
  | .resume => c.lscState = .processorOutage → c.isAnsi = true
  | .clearBuffers =>
      c.lscState = .processorOutage → c.isAnsi = false →
        c.processorOutage = false → c.pocState = .idle
  | .acknowledged taken =>
      (taken = true → c.lscState = .alignedReady →
        c.msuFisuAccepted = true ∨ c.pvar = SS7_PVAR_ITUT_93) ∧
      (c.lscState = .processorOutage →
        if taken then c.takenSafe else c.rtbClearedSafe)
  | _ => True

instance (c : Control) : Decidable c.rtbClearedSafe := by
  unfold rtbClearedSafe
  infer_instance

instance (c : Control) : Decidable c.takenSafe := by
  unfold takenSafe
  infer_instance

instance (c : Control) (input : Input) : Decidable (c.Safe input) := by
  cases input <;> unfold Safe <;> infer_instance

instance (c : Control) : Decidable c.Carries := by
  unfold Carries outageFree
  infer_instance

structure Accounted (c : Control) : Prop where
  poc : c.isAnsi = false → c.lscState ≠ .alignedNotReady →
    c.lscState ≠ .processorOutage → c.pocState = .idle
  notReady : c.isAnsi = false → c.lscState = .alignedNotReady →
    c.pocState = .localProcessorOutage
  remote : c.lscState ≠ .processorOutage → c.remoteProcessorOutage = false
  itu : c.isAnsi = false → c.remoteProcessorOutage = false
  ready : c.lscState = .alignedReady ∨ c.lscState = .inService →
    c.localProcessorOutage = false
  uncleared : c.lscState = .initialAlignment ∨ c.lscState = .alignedNotReady ∨
    c.lscState = .alignedReady → c.clearRtb = false
  traffic : c.lscState = .inService →
    c.msuInhibited = false ∧ c.msuFisuAccepted = true

variable {c d : Control}

section Rules

theorem Accounted.carries (h : Accounted c) : Carries c := by
  intro lsc
  refine ⟨?_, h.traffic lsc⟩
  unfold outageFree
  split
  · exact ⟨h.ready (.inr lsc), h.remote (by simp [lsc])⟩
  · next itu =>
      exact h.poc ((Bool.not_eq_true _).mp itu) (by simp [lsc]) (by simp [lsc])

/-- What `Accounted` is about, apart from the state of the link. -/
def outages (c : Control) : Nat × PocState × Bool × Bool × Bool × Bool × Bool :=
  (c.pvar, c.pocState, c.localProcessorOutage, c.remoteProcessorOutage,
    c.clearRtb, c.msuInhibited, c.msuFisuAccepted)

theorem Accounted.same (h : Accounted c) (lsc : d.lscState = c.lscState)
    (eq : d.outages = c.outages) : Accounted d := by
  simp only [outages, Prod.mk.injEq] at eq
  obtain ⟨pvar, poc, lpo, rpo, cleared, inhibited, accepted⟩ := eq
  have ansi : d.isAnsi = c.isAnsi := by rw [isAnsi, isAnsi, pvar]
  constructor
  · rw [ansi, lsc, poc]
    exact h.poc
  · rw [ansi, lsc, poc]
    exact h.notReady
  · rw [lsc, rpo]
    exact h.remote
  · rw [ansi, rpo]
    exact h.itu
  · rw [lsc, lpo]
    exact h.ready
  · rw [lsc, cleared]
    exact h.uncleared
  · rw [lsc, inhibited, accepted]
    exact h.traffic

theorem accounted_of_out (lsc : c.lscState = .outOfService)
    (poc : c.isAnsi = false → c.pocState = .idle)
    (remote : c.remoteProcessorOutage = false) : Accounted c where
  poc := fun itu _ _ => poc itu
  notReady := by simp [lsc]
  remote := fun _ => remote
  itu := fun _ => remote
  ready := by simp [lsc]
  uncleared := by simp [lsc]
  traffic := by simp [lsc]

theorem accounted_of_outage
    (itu : c.isAnsi = false → c.remoteProcessorOutage = false)
    (lsc : c.lscState = .processorOutage) : Accounted c where
  poc := by simp [lsc]
  notReady := by simp [lsc]
  remote := by simp [lsc]
  itu := itu
  ready := by simp [lsc]
  uncleared := by simp [lsc]
  traffic := by simp [lsc]

theorem accounted_of_service (poc : c.isAnsi = false → c.pocState = .idle)
    (ready : c.localProcessorOutage = false)
    (remote : c.remoteProcessorOutage = false)
    (traffic : c.msuInhibited = false ∧ c.msuFisuAccepted = true)
    (lsc : c.lscState = .inService) : Accounted c where
  poc := fun itu _ _ => poc itu
  notReady := by simp [lsc]
  remote := fun _ => remote
  itu := fun _ => remote
  ready := fun _ => ready
  uncleared := by simp [lsc]
  traffic := fun _ => traffic

theorem accounted_of_ready (poc : c.isAnsi = false → c.pocState = .idle)
    (ready : c.localProcessorOutage = false)
    (remote : c.remoteProcessorOutage = false) (uncleared : c.clearRtb = false)
    (lsc : c.lscState = .alignedReady) : Accounted c where
  poc := fun itu _ _ => poc itu
  notReady := by simp [lsc]
  remote := fun _ => remote
  itu := fun _ => remote
  ready := fun _ => ready
  uncleared := fun _ => uncleared
  traffic := by simp [lsc]

theorem accounted_of_notReady
    (poc : c.isAnsi = false → c.pocState = .localProcessorOutage)
    (remote : c.remoteProcessorOutage = false) (uncleared : c.clearRtb = false)
    (lsc : c.lscState = .alignedNotReady) : Accounted c where
  poc := by simp [lsc]
  notReady := fun itu _ => poc itu
  remote := fun _ => remote
  itu := fun _ => remote
  ready := by simp [lsc]
  uncleared := fun _ => uncleared
  traffic := by simp [lsc]

theorem accounted_of_aligning (poc : c.isAnsi = false → c.pocState = .idle)
    (remote : c.remoteProcessorOutage = false) (uncleared : c.clearRtb = false)
    (lsc : c.lscState = .initialAlignment) : Accounted c where
  poc := fun itu _ _ => poc itu
  notReady := by simp [lsc]
  remote := fun _ => remote
  itu := fun _ => remote
  ready := by simp [lsc]
  uncleared := fun _ => uncleared
  traffic := by simp [lsc]

end Rules

section Stopping

theorem pocStop_outOfService_accounted :
    Accounted c.pocStop.outOfService :=
  accounted_of_out rfl (fun _ => rfl) rfl

theorem lscStop_accounted (h : Accounted c) : Accounted c.lscStop := by
  unfold lscStop
  split
  · exact pocStop_outOfService_accounted
  · exact h

theorem alignmentNotPossible_accounted (h : Accounted c)
    (lsc : c.lscState = .initialAlignment) :
    Accounted c.alignmentNotPossible :=
  accounted_of_out rfl
    (fun itu => h.poc itu (by simp [lsc]) (by simp [lsc]))
    (h.remote (by simp [lsc]))

end Stopping

section Received

theorem lscSio_accounted (h : Accounted c) : Accounted c.lscSio := by
  unfold lscSio
  split
  · exact h
  · exact h
  · exact pocStop_outOfService_accounted

theorem iacSio_accounted (h : Accounted c) : Accounted c.iacSio := by
  unfold iacSio
  split
  · exact h.same rfl rfl
  · exact h.same rfl rfl
  · exact h

theorem lscSios_accounted (h : Accounted c) : Accounted c.lscSios := by
  unfold lscSios
  split
  · exact pocStop_outOfService_accounted
  · exact pocStop_outOfService_accounted
  · exact pocStop_outOfService_accounted
  · exact pocStop_outOfService_accounted
  · exact h

theorem iacSios_accounted (sync : Synchronised c) (h : Accounted c) :
    Accounted c.iacSios := by
  have leaves (iac : c.iacState ≠ .idle) :
      Accounted { { c with t4 := false }.alignmentNotPossible with
        t3 := false, iacState := .idle } :=
    (alignmentNotPossible_accounted h (sync.aligning.mp iac)).same rfl rfl
  unfold iacSios
  split
  · next iac => exact leaves (by simp [iac])
  · next iac => exact leaves (by simp [iac])
  · exact h

theorem lscSinSie_accounted (h : Accounted c) : Accounted c.lscSinSie := by
  unfold lscSinSie
  split
  · next lsc =>
      exact accounted_of_out rfl
        (fun itu => h.poc itu (by simp [lsc]) (by simp [lsc]))
        (h.remote (by simp [lsc]))
  · exact pocStop_outOfService_accounted
  · exact h

theorem iacSin_accounted (h : Accounted c) : Accounted c.iacSin := by
  unfold iacSin
  split
  · exact h.same rfl rfl
  · exact h.same rfl rfl
  · exact h

theorem iacSie_accounted (h : Accounted c) : Accounted c.iacSie := by
  unfold iacSie
  split
  · exact h.same rfl rfl
  · exact h.same rfl rfl
  · split
    · exact h
    · exact h.same rfl rfl
  · exact h

theorem recordRemoteOutage_lscState :
    c.recordRemoteOutage.lscState = c.lscState :=
  congrArg Prod.fst recordRemoteOutage_alignment

theorem recordRemoteOutage_isAnsi :
    c.recordRemoteOutage.isAnsi = c.isAnsi := by
  unfold recordRemoteOutage pocRemoteProcessorOutage
  split
  · rfl
  · split <;> rfl

theorem recordRemoteOutage_itu (itu : c.isAnsi = false) :
    c.recordRemoteOutage.remoteProcessorOutage = c.remoteProcessorOutage := by
  unfold recordRemoteOutage pocRemoteProcessorOutage
  rw [if_neg (by simp [itu])]
  split <;> rfl

theorem recordRemoteOutage_accounted
    (itu : c.isAnsi = false → c.remoteProcessorOutage = false)
    (rest : (d.pvar, d.remoteProcessorOutage)
      = (c.recordRemoteOutage.pvar, c.recordRemoteOutage.remoteProcessorOutage))
    (lsc : d.lscState = .processorOutage) : Accounted d := by
  obtain ⟨pvar, remote⟩ := Prod.mk.inj rest
  have ansi : d.isAnsi = c.isAnsi :=
    (congrArg (fun p => decide (p &&& SS7_PVAR_MASK = SS7_PVAR_ANSI))
      pvar).trans recordRemoteOutage_isAnsi
  refine accounted_of_outage (fun other => ?_) lsc
  rw [ansi] at other
  exact remote.trans ((recordRemoteOutage_itu other).trans (itu other))

theorem lscSipo_accounted (h : Accounted c) : Accounted c.lscSipo := by
  unfold lscSipo
  split
  · exact recordRemoteOutage_accounted h.itu rfl rfl
  · exact recordRemoteOutage_accounted h.itu rfl rfl
  · exact recordRemoteOutage_accounted (c := { c with msuInhibited := true })
      h.itu rfl rfl
  · next lsc =>
      exact recordRemoteOutage_accounted h.itu rfl
        (recordRemoteOutage_lscState.trans lsc)
  · exact h

theorem status_accounted (sync : Synchronised c) (h : Accounted c)
    (status : Lssu) : Accounted (c.status status) := by
  cases status with
  | sio => exact iacSio_accounted (lscSio_accounted h)
  | sin => exact iacSin_accounted (lscSinSie_accounted h)
  | sie => exact iacSie_accounted (lscSinSie_accounted h)
  | sios =>
      exact iacSios_accounted (lscSios_synchronised sync)
        (lscSios_accounted h)
  | sipo => exact lscSipo_accounted h
  | _ => exact h

end Received

section Acknowledgement

theorem clearRtb_accounted (h : Accounted c) :
    Accounted { c with clearRtb := false } where
  poc := h.poc
  notReady := h.notReady
  remote := h.remote
  itu := h.itu
  ready := h.ready
  uncleared := fun _ => rfl
  traffic := h.traffic

theorem bsnrAndBibr_accounted (h : Accounted c)
    (safe : c.lscState = .processorOutage → c.rtbClearedSafe) :
    Accounted c.bsnrAndBibr := by
  unfold bsnrAndBibr
  split
  · next cleared =>
      apply clearRtb_accounted
      unfold rtbCleared
      split
      · next lsc =>
          split
          · exact accounted_of_outage (fun _ => rfl) lsc
          · next here =>
              have here' := (Bool.not_eq_true _).mp here
              obtain ⟨accepted, poc⟩ := safe lsc cleared here'
              exact accounted_of_service poc here' rfl ⟨rfl, accepted⟩ rfl
      · exact h
  · exact h

theorem noProcessorOutage_accounted (h : Accounted c)
    (itu : c.isAnsi = false) (lsc : c.lscState = .processorOutage) :
    Accounted c.noProcessorOutage.pocStop := by
  unfold noProcessorOutage
  rw [if_pos lsc]
  split
  · exact accounted_of_service (fun _ => rfl) rfl (h.itu itu) ⟨rfl, rfl⟩ rfl
  · exact accounted_of_outage h.itu lsc

theorem fisuMsuReceived_accounted (h : Accounted c)
    (safe : c.lscState = .alignedReady →
      c.msuFisuAccepted = true ∨ c.pvar = SS7_PVAR_ITUT_93) :
    Accounted c.fisuMsuReceived := by
  unfold fisuMsuReceived
  split
  · next lsc =>
      refine accounted_of_service
        (fun itu => h.poc itu (by simp [lsc]) (by simp [lsc]))
        (h.ready (.inl lsc)) (h.remote (by simp [lsc])) ⟨rfl, ?_⟩ rfl
      simpa using safe lsc
  · exact accounted_of_outage h.itu rfl
  · next lsc =>
      split
      · exact accounted_of_outage (fun _ => rfl) lsc
      · next other =>
          have itu := (Bool.not_eq_true _).mp other
          unfold pocRemoteProcessorRecovered
          split
          · exact noProcessorOutage_accounted h itu lsc
          · exact accounted_of_outage h.itu lsc
          · exact h
  · exact h

theorem pocRemoteProcessorRecovered_safe (taken : c.takenSafe)
    (itu : c.isAnsi = false) (lsc : c.lscState = .processorOutage)
    (lsc' : c.pocRemoteProcessorRecovered.lscState = .processorOutage) :
    c.pocRemoteProcessorRecovered.rtbClearedSafe := by
  unfold takenSafe at taken
  rw [if_neg (by simp [itu])] at taken
  unfold pocRemoteProcessorRecovered at lsc' ⊢
  cases poc : c.pocState with
  | remoteProcessorOutage =>
      rw [if_pos poc] at taken
      simp only [poc] at lsc' ⊢
      unfold noProcessorOutage at lsc' ⊢
      rw [if_pos lsc] at lsc' ⊢
      cases l3 : c.l3IndicationReceived with
      | true =>
          rw [if_pos l3] at lsc'
          cases lsc'
      | false =>
          rw [if_neg (by simp)]
          exact fun cleared here => ⟨taken l3 cleared here, fun _ => rfl⟩
  | bothProcessorsOut =>
      rw [if_neg (by simp [poc])] at taken
      intro cleared here
      have idle := (taken cleared here).2 itu
      rw [poc] at idle
      cases idle
  | idle =>
      rw [if_neg (by simp [poc])] at taken
      exact taken
  | localProcessorOutage =>
      rw [if_neg (by simp [poc])] at taken
      exact taken

theorem fisuMsuReceived_safe (h : Accounted c)
    (safe : c.lscState = .processorOutage → c.takenSafe)
    (lsc' : c.fisuMsuReceived.lscState = .processorOutage) :
    c.fisuMsuReceived.rtbClearedSafe := by
  unfold fisuMsuReceived at lsc' ⊢
  cases lsc : c.lscState with
  | alignedReady =>
      simp only [lsc] at lsc'
      cases lsc'
  | alignedNotReady =>
      intro cleared
      have uncleared := h.uncleared (.inr (.inl lsc))
      simp only [uncleared] at cleared
      cases cleared
  | processorOutage =>
      simp only [lsc] at lsc' ⊢
      have taken := safe lsc
      cases ansi : c.isAnsi with
      | true =>
          unfold takenSafe at taken
          rw [if_pos ansi] at taken
          rw [if_pos rfl]
          exact fun cleared here =>
            ⟨taken cleared here, fun itu =>
              absurd (ansi.symm.trans itu) (by simp)⟩
      | false =>
          rw [if_neg (by simp [ansi])] at lsc' ⊢
          exact pocRemoteProcessorRecovered_safe taken ansi lsc lsc'
  | _ =>
      simp only [lsc] at lsc'
      cases lsc'

theorem acknowledged_accounted {taken : Bool} (h : Accounted c)
    (safe : Safe c (.acknowledged taken)) :
    Accounted (c.step (.acknowledged taken)) := by
  obtain ⟨ready, out⟩ := safe
  cases taken with
  | true =>
      exact bsnrAndBibr_accounted (fisuMsuReceived_accounted h (ready rfl))
        (fisuMsuReceived_safe h out)
  | false => exact bsnrAndBibr_accounted h out

end Acknowledgement

section Timeouts

theorem pocLocalProcessorOutage_fields :
    (c.pocLocalProcessorOutage.pvar, c.pocLocalProcessorOutage.lscState,
      c.pocLocalProcessorOutage.remoteProcessorOutage,
      c.pocLocalProcessorOutage.clearRtb)
    = (c.pvar, c.lscState, c.remoteProcessorOutage, c.clearRtb) := by
  unfold pocLocalProcessorOutage
  split <;> rfl

theorem pocLocalProcessorOutage_idle (poc : c.pocState = .idle) :
    c.pocLocalProcessorOutage.pocState = .localProcessorOutage := by
  unfold pocLocalProcessorOutage
  simp [poc]

theorem isAnsi_of_pvar (pvar : d.pvar = c.pvar) : d.isAnsi = c.isAnsi :=
  congrArg (fun p => decide (p &&& SS7_PVAR_MASK = SS7_PVAR_ANSI)) pvar

theorem ansi92_isAnsi (ansi : c.pvar = SS7_PVAR_ANSI_92) :
    c.isAnsi = true := by
  rw [isAnsi, ansi]
  decide

theorem notReady_accounted (itu : c.isAnsi = false → c.pocState = .idle)
    (remote : c.remoteProcessorOutage = false) (uncleared : c.clearRtb = false)
    (poc : c.pvar ≠ SS7_PVAR_ANSI_92 →
      d.pocState = c.pocLocalProcessorOutage.pocState)
    (rest : (d.pvar, d.remoteProcessorOutage, d.clearRtb)
      = (c.pvar, c.remoteProcessorOutage, c.clearRtb))
    (lsc : d.lscState = .alignedNotReady) : Accounted d := by
  simp only [Prod.mk.injEq] at rest
  obtain ⟨pvar, rpo, rtb⟩ := rest
  refine accounted_of_notReady (fun other => ?_) (rpo.trans remote)
    (rtb.trans uncleared) lsc
  rw [isAnsi_of_pvar pvar] at other
  have variant : c.pvar ≠ SS7_PVAR_ANSI_92 := fun ansi => by
    simp [ansi92_isAnsi ansi] at other
  exact (poc variant).trans (pocLocalProcessorOutage_idle (itu other))

theorem alignmentComplete_accounted (h : Accounted c) :
    Accounted c.alignmentComplete := by
  unfold alignmentComplete
  split
  · next lsc =>
      have itu := fun other => h.poc other (by simp [lsc]) (by simp [lsc])
      have remote := h.remote (by simp [lsc])
      have uncleared := h.uncleared (.inl lsc)
      split
      · by_cases ansi : c.pvar = SS7_PVAR_ANSI_92
        · rw [if_neg (not_not.mpr ansi)]
          exact notReady_accounted itu remote uncleared
            (fun other => absurd ansi other) rfl rfl
        · rw [if_pos ansi]
          have fields := pocLocalProcessorOutage_fields (c := c)
          simp only [Prod.mk.injEq] at fields
          obtain ⟨pvar, -, rpo, rtb⟩ := fields
          exact notReady_accounted itu remote uncleared (fun _ => rfl)
            (by rw [pvar, rpo, rtb]) rfl
      · next ready =>
          exact accounted_of_ready itu ((Bool.not_eq_true _).mp ready) remote
            uncleared rfl
  · exact h

theorem t1Timeout_accounted (h : Accounted c)
    (lsc : c.lscState = .alignedReady ∨ c.lscState = .alignedNotReady) :
    Accounted c.t1Timeout := by
  unfold t1Timeout
  rcases lsc with ready | notReady
  · rw [if_neg (by simp [ready])]
    exact accounted_of_out rfl
      (fun itu => h.poc itu (by simp [ready]) (by simp [ready]))
      (h.remote (by simp [ready]))
  · rw [if_pos notReady]
    exact accounted_of_out rfl (fun _ => rfl) (h.remote (by simp [notReady]))

theorem alignmentTimeout_accounted (h : Accounted c) (state : IacState)
    (lsc : c.lscState = .initialAlignment) :
    Accounted (c.alignmentTimeout state) := by
  unfold alignmentTimeout
  split
  · exact (alignmentNotPossible_accounted h lsc).same rfl rfl
  · exact h

theorem t4Timeout_accounted (h : Accounted c) : Accounted c.t4Timeout := by
  unfold t4Timeout
  split
  · split
    · exact h.same rfl rfl
    · exact (alignmentComplete_accounted h).same rfl rfl
  · exact h

theorem expire_accounted (sync : Synchronised c) (h : Accounted c)
    (timer : Timer) : Accounted (c.expire timer) := by
  unfold expire
  split
  · split
    · next runs =>
        exact t1Timeout_accounted (h.same rfl rfl) (sync.t1.mp runs)
    · exact h
  · split
    · next runs =>
        exact alignmentTimeout_accounted (c := { c with t2 := false })
          (h.same rfl rfl) _ (sync.aligns (by simp [sync.t2.mp runs])).1
    · exact h
  · split
    · next runs =>
        exact alignmentTimeout_accounted (c := { c with t3 := false })
          (h.same rfl rfl) _ (sync.aligns (by simp [sync.t3.mp runs])).1
    · exact h
  · split
    · exact t4Timeout_accounted (h.same rfl rfl)
    · exact h

end Timeouts

section Requests

theorem powerOn_accounted (h : Accounted c) : Accounted c.powerOn := by
  unfold powerOn
  split
  · next lsc =>
      exact accounted_of_out rfl
        (fun itu => h.poc itu (by simp [lsc]) (by simp [lsc]))
        (h.remote (by simp [lsc]))
  · exact h

theorem iacEmergency_outages : c.iacEmergency.outages = c.outages := by
  unfold iacEmergency
  split <;> rfl

theorem iacEmergency_lscState : c.iacEmergency.lscState = c.lscState := by
  unfold iacEmergency
  split <;> rfl

theorem iacStart_outages : c.iacStart.outages = c.outages := by
  unfold iacStart
  split <;> rfl

theorem started_accounted (itu : c.isAnsi = false → c.pocState = .idle)
    (remote : c.remoteProcessorOutage = false)
    (rest : (d.pvar, d.pocState, d.remoteProcessorOutage, d.clearRtb)
      = (c.pvar, c.pocState, c.remoteProcessorOutage, false))
    (lsc : d.lscState = .initialAlignment) : Accounted d := by
  simp only [Prod.mk.injEq] at rest
  obtain ⟨pvar, poc, rpo, rtb⟩ := rest
  refine accounted_of_aligning (fun other => ?_) (rpo.trans remote) rtb lsc
  rw [isAnsi_of_pvar pvar] at other
  exact poc.trans (itu other)

theorem lscStart_accounted (h : Accounted c) : Accounted c.lscStart := by
  unfold lscStart
  split
  · next lsc =>
      have started : (if c.emergency then c.rcStart.txcStart.iacEmergency
          else c.rcStart.txcStart).iacStart.outages
          = c.rcStart.txcStart.outages := by
        rw [iacStart_outages]
        split
        · exact iacEmergency_outages
        · rfl
      have reset : (c.rcStart.txcStart.pvar, c.rcStart.txcStart.pocState,
          c.rcStart.txcStart.remoteProcessorOutage,
          c.rcStart.txcStart.clearRtb)
          = (c.pvar, c.pocState, c.remoteProcessorOutage, false) := by
        unfold rcStart
        split <;> rfl
      simp only [outages, Prod.mk.injEq] at started
      obtain ⟨pvar, poc, -, rpo, rtb, -, -⟩ := started
      refine started_accounted
        (fun itu => h.poc itu (by simp [lsc]) (by simp [lsc]))
        (h.remote (by simp [lsc])) ?_ rfl
      rw [← reset]
      simp only [pvar, poc, rpo, rtb]
  · exact h

theorem lscClearRtb_accounted (h : Accounted c) :
    Accounted c.lscClearRtb := by
  unfold lscClearRtb
  split
  · next lsc => exact accounted_of_outage h.itu lsc
  · exact h

theorem lpo_accounted (h : Accounted c)
    (lsc : c.lscState = .outOfService ∨ c.lscState = .initialAlignment)
    (outage : Bool) : Accounted { c with localProcessorOutage := outage } where
  poc := h.poc
  notReady := h.notReady
  remote := h.remote
  itu := h.itu
  ready := by rcases lsc with eq | eq <;> simp [eq]
  uncleared := h.uncleared
  traffic := h.traffic

theorem lscClearBuffers_accounted (h : Accounted c)
    (safe : Safe c .clearBuffers) : Accounted c.lscClearBuffers := by
  unfold lscClearBuffers
  split
  · next lsc =>
      split
      · exact lpo_accounted h (.inl lsc) false
      · exact h
  · next lsc =>
      split
      · exact lpo_accounted h (.inr lsc) false
      · exact h
  · next lsc =>
      split
      · next ansi =>
          exact accounted_of_ready
            (fun itu => absurd (ansi.symm.trans itu) (by simp)) rfl
            (h.remote (by simp [lsc])) (h.uncleared (.inr (.inl lsc))) rfl
      · exact h
  · next lsc =>
      split
      · exact accounted_of_outage h.itu lsc
      · next other =>
          have itu := (Bool.not_eq_true _).mp other
          split
          · exact accounted_of_outage h.itu lsc
          · next clear =>
              exact accounted_of_service
                (fun _ => safe lsc itu ((Bool.not_eq_true _).mp clear)) rfl
                (h.itu itu) ⟨rfl, rfl⟩ rfl
  · exact h

theorem pocLocalProcessorRecovered_outages
    (lsc : c.lscState = .alignedNotReady) :
    (c.pocLocalProcessorRecovered.pvar,
      c.pocLocalProcessorRecovered.remoteProcessorOutage,
      c.pocLocalProcessorRecovered.clearRtb)
    = (c.pvar, c.remoteProcessorOutage, c.clearRtb) := by
  unfold pocLocalProcessorRecovered noProcessorOutage
  split
  · rw [if_neg (by simp [lsc])]
    rfl
  · rfl
  · rfl

theorem lscResume_accounted (h : Accounted c) (safe : Safe c .resume) :
    Accounted c.lscResume := by
  unfold lscResume
  split
  · next lsc => exact lpo_accounted h (.inl lsc) false
  · next lsc => exact lpo_accounted h (.inr lsc) false
  · next lsc =>
      have remote := h.remote (by simp [lsc])
      have uncleared := h.uncleared (.inr (.inl lsc))
      split
      · next records =>
          have fields := pocLocalProcessorRecovered_outages lsc
          simp only [Prod.mk.injEq] at fields
          obtain ⟨pvar, rpo, rtb⟩ := fields
          refine accounted_of_ready (fun other => ?_) rfl (rpo.trans remote)
            (rtb.trans uncleared) rfl
          have itu : c.isAnsi = false := (isAnsi_of_pvar pvar).symm.trans other
          show c.pocLocalProcessorRecovered.pocState = .idle
          unfold pocLocalProcessorRecovered
          simp only [h.notReady itu lsc]
          rfl
      · next ansi =>
          refine accounted_of_ready (fun other => ?_) rfl remote uncleared rfl
          have ansi' := ansi92_isAnsi (not_not.mp ansi)
          exact absurd (ansi'.symm.trans other) (by simp)
  · next lsc =>
      have ansi := safe lsc
      rw [if_pos ansi]
      have itu : c.isAnsi = false → c.pocState = .idle := fun other =>
        absurd (ansi.symm.trans other) (by simp)
      split
      · exact accounted_of_outage h.itu lsc
      · next ceased =>
          exact accounted_of_service itu rfl ((Bool.not_eq_true _).mp ceased)
            ⟨rfl, rfl⟩ rfl
  · exact h

theorem recordLocalOutage_fields :
    (c.recordLocalOutage.pvar, c.recordLocalOutage.remoteProcessorOutage,
      c.recordLocalOutage.clearRtb)
    = (c.pvar, c.remoteProcessorOutage, c.clearRtb) := by
  unfold recordLocalOutage pocLocalProcessorOutage
  split
  · rfl
  · split <;> rfl

theorem recordLocalOutage_outage (h : Accounted c)
    (rest : (d.pvar, d.remoteProcessorOutage) = (c.recordLocalOutage.pvar,
      c.recordLocalOutage.remoteProcessorOutage))
    (lsc : d.lscState = .processorOutage) : Accounted d := by
  have fields := recordLocalOutage_fields (c := c)
  simp only [Prod.mk.injEq] at fields rest
  refine accounted_of_outage (fun other => ?_) lsc
  rw [isAnsi_of_pvar (rest.1.trans fields.1)] at other
  exact rest.2.trans (fields.2.1.trans (h.itu other))

theorem lscLocalProcessorOutage_accounted (h : Accounted c) :
    Accounted c.lscLocalProcessorOutage := by
  unfold lscLocalProcessorOutage
  split
  · next lsc => exact lpo_accounted h (.inl lsc) true
  · next lsc => exact lpo_accounted h (.inr lsc) true
  · next lsc =>
      refine notReady_accounted
        (fun itu => h.poc itu (by simp [lsc]) (by simp [lsc]))
        (h.remote (by simp [lsc])) (h.uncleared (.inr (.inr lsc)))
        (fun other => ?_) recordLocalOutage_fields rfl
      simp only [recordLocalOutage, if_neg other]
  · exact recordLocalOutage_outage h rfl rfl
  · next lsc =>
      exact recordLocalOutage_outage h rfl
        ((congrArg Prod.fst recordLocalOutage_alignment).trans lsc)
  · exact h

theorem iacCorrectSu_accounted (h : Accounted c) :
    Accounted c.iacCorrectSu := by
  unfold iacCorrectSu
  split
  · exact h.same rfl rfl
  · exact h

theorem iacAbortProving_accounted (sync : Synchronised c) (h : Accounted c) :
    Accounted c.iacAbortProving := by
  unfold iacAbortProving
  split
  · next iac =>
      split
      · exact (alignmentNotPossible_accounted (c := { c with Cp := c.Cp + 1 })
          (h.same rfl rfl) (sync.aligning.mp (by simp [iac]))).same rfl rfl
      · exact h.same rfl rfl
  · exact h

end Requests

theorem step_accounted (sync : Synchronised c) (h : Accounted c)
    (input : Input) (safe : Safe c input) : Accounted (c.step input) := by
  cases input with
  | quiet => exact h
  | powerOn => exact powerOn_accounted h
  | start => exact lscStart_accounted h
  | stop => exact lscStop_accounted h
  | emergency => exact h.same iacEmergency_lscState iacEmergency_outages
  | emergencyCeases => exact h.same rfl rfl
  | localProcessorOutage => exact lscLocalProcessorOutage_accounted h
  | resume => exact lscResume_accounted h safe
  | clearBuffers => exact lscClearBuffers_accounted h safe
  | clearRtb => exact lscClearRtb_accounted h
  | correctSu => exact iacCorrectSu_accounted h
  | abortProving => exact iacAbortProving_accounted sync h
  | status status => exact status_accounted sync h status
  | acknowledged taken => exact acknowledged_accounted h safe
  | abnormalBsnr => exact (lscStop_accounted h).same rfl rfl
  | expire timer => exact expire_accounted sync h timer

section Exact

end Exact

end Control

section Runs

def Sl.SafeRun (s : Sl) : List (Env × Primitive) → Prop
  | [] => True
  | p :: rest =>
      s.control.Safe (s.input p.2) ∧ (s.perform p.1 p.2).SafeRun rest

instance Sl.decidableSafeRun (s : Sl) :
    ∀ primitives, Decidable (s.SafeRun primitives)
  | [] => isTrue trivial
  | p :: rest =>
      have := (s.perform p.1 p.2).decidableSafeRun rest
      inferInstanceAs (Decidable (_ ∧ _))

theorem performAll_accounted (primitives : List (Env × Primitive))
    (supplies : ∀ p ∈ primitives, p.1.Supplies) (s : Sl)
    (sync : s.control.Synchronised) (accounted : s.control.Accounted)
    (safe : s.SafeRun primitives) :
    (s.performAll primitives).control.Accounted := by
  induction primitives generalizing s with
  | nil => exact accounted
  | cons p rest ih =>
      have step := perform_control s (supplies p List.mem_cons_self) p.2
      refine ih (fun q mem => supplies q (List.mem_cons_of_mem p mem)) _ ?_ ?_
        safe.2
      · rw [step]
        exact Control.step_synchronised sync _
      · rw [step]
        exact Control.step_accounted sync accounted _ safe.1

theorem allocated_accounted (option : Options) (config : Config) (env : Env) :
    (Sl.allocated option config env).control.Accounted where
  poc := fun _ _ _ => rfl
  notReady := by simp [Sl.control, Sl.allocated]
  remote := fun _ => rfl
  itu := fun _ => rfl
  ready := fun _ => rfl
  uncleared := fun _ => rfl
  traffic := by simp [Sl.control, Sl.allocated]

/-- In a run of safe steps a link in service carries traffic. -/
theorem performAll_carries (option : Options) (config : Config) (env : Env)
    (primitives : List (Env × Primitive))
    (supplies : ∀ p ∈ primitives, p.1.Supplies)
    (safe : (Sl.allocated option config env).SafeRun primitives) :
    ((Sl.allocated option config env).performAll
      primitives).control.Carries :=
  (performAll_accounted primitives supplies _
    (allocated_synchronised option config env)
    (allocated_accounted option config env) safe).carries

def intoService : List (Env × Primitive) :=
  [(.taking 2, .powerOnReq), (.taking 2, .startReq)] ++
    alignment.map fun e => (e.1, .event e.2)

theorem performAll_carries_remote :
    ((Sl.allocated ⟨SS7_PVAR_ITUT_96, false, false, false⟩ slDefault
      (.taking 0)).performAll (intoService ++
        [(.taking 2, .event (.signalUnit [0xff, 0xff, 1, 4])),
          (.taking 2, .event (.signalUnit [0xff, 0xff, 0])),
          (.taking 2, .clearBuffersReq)])).control.Carries := by
  refine performAll_carries _ _ _ _ (fun p mem => ?_) (by decide +kernel)
  simp only [intoService, alignment, List.map_cons, List.map_nil,
    List.cons_append, List.nil_append, List.mem_cons, List.not_mem_nil,
    or_false] at mem
  rcases mem with rfl | rfl | rfl | rfl | rfl | rfl | rfl | rfl | rfl <;>
    exact ⟨rfl, rfl⟩

theorem performAll_inhibited_resume :
    (∀ p ∈ intoService ++ [(.taking 2, .localProcessorOutageReq),
        (.taking 2, .resumeReq)], p.1.Supplies) ∧
      ¬ ((Sl.allocated ⟨SS7_PVAR_ITUT_96, false, false, false⟩ slDefault
        (.taking 0)).performAll (intoService ++
          [(.taking 2, .localProcessorOutageReq),
            (.taking 2, .resumeReq)])).control.Carries := by
  refine ⟨fun p mem => ?_, by decide +kernel⟩
  simp only [intoService, alignment, List.map_cons, List.map_nil,
    List.cons_append, List.nil_append, List.mem_cons, List.not_mem_nil,
    or_false] at mem
  rcases mem with rfl | rfl | rfl | rfl | rfl | rfl | rfl | rfl <;>
    exact ⟨rfl, rfl⟩

end Runs

end OpenSS7.Mtp2
