import OpenSS7.Mtp2.Steps

/-!
Alignment control, link state control and reception control stay in step with
each other and with the timers t1 to t4.
-/

namespace OpenSS7.Mtp2

namespace Control

structure Synchronised (c : Control) : Prop where
  aligning : c.iacState ≠ .idle ↔ c.lscState = .initialAlignment
  t1 : c.t1 = true ↔
    c.lscState = .alignedReady ∨ c.lscState = .alignedNotReady
  t2 : c.t2 = true ↔ c.iacState = .notAligned
  t3 : c.t3 = true ↔ c.iacState = .aligned
  t4 : c.t4 = true ↔ c.iacState = .proving
  receiving : c.lscState ≠ .powerOff → c.lscState ≠ .outOfService →
    c.rcState = .inService

/-- What `Synchronised` is about. -/
def alignment (c : Control) :
    LscState × IacState × RcState × Bool × Bool × Bool × Bool :=
  (c.lscState, c.iacState, c.rcState, c.t1, c.t2, c.t3, c.t4)

variable {c d : Control}

section Rules

theorem Synchronised.same (h : Synchronised c)
    (eq : d.alignment = c.alignment) : Synchronised d := by
  simp only [alignment, Prod.mk.injEq] at eq
  obtain ⟨lsc, iac, rc, t1, t2, t3, t4⟩ := eq
  constructor
  · rw [lsc, iac]
    exact h.aligning
  · rw [t1, lsc]
    exact h.t1
  · rw [t2, iac]
    exact h.t2
  · rw [t3, iac]
    exact h.t3
  · rw [t4, iac]
    exact h.t4
  · rw [lsc, rc]
    exact h.receiving

structure Idle (c : Control) : Prop where
  iac : c.iacState = .idle
  t2 : c.t2 = false
  t3 : c.t3 = false
  t4 : c.t4 = false

theorem Synchronised.idle (h : Synchronised c)
    (lsc : c.lscState ≠ .initialAlignment) : Idle c := by
  have iac : c.iacState = .idle :=
    not_not.mp fun running => lsc (h.aligning.mp running)
  refine ⟨iac, ?_, ?_, ?_⟩
  · exact Bool.eq_false_iff.mpr fun runs => by simp [h.t2.mp runs] at iac
  · exact Bool.eq_false_iff.mpr fun runs => by simp [h.t3.mp runs] at iac
  · exact Bool.eq_false_iff.mpr fun runs => by simp [h.t4.mp runs] at iac

theorem Synchronised.t1_rests (h : Synchronised c)
    (ready : c.lscState ≠ .alignedReady)
    (notReady : c.lscState ≠ .alignedNotReady) : c.t1 = false :=
  Bool.eq_false_iff.mpr fun runs => (h.t1.mp runs).elim ready notReady

theorem Idle.synchronised (idle : Idle c)
    (lsc : c.lscState ≠ .initialAlignment)
    (t1 : c.t1 = true ↔
      c.lscState = .alignedReady ∨ c.lscState = .alignedNotReady)
    (receiving : c.lscState ≠ .powerOff → c.lscState ≠ .outOfService →
      c.rcState = .inService) : Synchronised c where
  aligning := by simp [idle.iac, lsc]
  t1 := t1
  t2 := by simp [idle.iac, idle.t2]
  t3 := by simp [idle.iac, idle.t3]
  t4 := by simp [idle.iac, idle.t4]
  receiving := receiving

theorem Idle.outOfService (idle : Idle c) (lsc : c.lscState = .outOfService)
    (t1 : c.t1 = false) : Synchronised c :=
  idle.synchronised (by simp [lsc]) (by simp [lsc, t1])
    fun _ running => (running lsc).elim

theorem synchronised_of_aligning (lsc : c.lscState = .initialAlignment)
    (rc : c.rcState = .inService) (t1 : c.t1 = false)
    (iac : c.iacState ≠ .idle) (t2 : c.t2 = true ↔ c.iacState = .notAligned)
    (t3 : c.t3 = true ↔ c.iacState = .aligned)
    (t4 : c.t4 = true ↔ c.iacState = .proving) : Synchronised c where
  aligning := by simp [iac, lsc]
  t1 := by simp [t1, lsc]
  t2 := t2
  t3 := t3
  t4 := t4
  receiving := fun _ _ => rc

theorem Synchronised.aligns (h : Synchronised c) (iac : c.iacState ≠ .idle) :
    c.lscState = .initialAlignment ∧ c.rcState = .inService ∧
      c.t1 = false := by
  have lsc := h.aligning.mp iac
  exact ⟨lsc, h.receiving (by simp [lsc]) (by simp [lsc]),
    h.t1_rests (by simp [lsc]) (by simp [lsc])⟩

end Rules

section Stopping

theorem iacStop_idle (h : Synchronised c) : Idle c.iacStop := by
  unfold iacStop
  split
  · exact ⟨rfl, rfl, rfl, rfl⟩
  · next resting =>
      exact h.idle fun aligns => resting (h.aligning.mpr aligns)

theorem lscStop_synchronised (h : Synchronised c) :
    Synchronised c.lscStop := by
  unfold lscStop
  split
  · obtain ⟨iac, t2, t3, t4⟩ := iacStop_idle h
    exact Idle.outOfService ⟨iac, t2, t3, t4⟩ rfl rfl
  · exact h

theorem lscStop_lscState (c : Control) :
    c.lscStop.lscState = .outOfService := by
  unfold lscStop
  split
  · rfl
  · next stopped => exact not_not.mp stopped

theorem Synchronised.leaves (h : Synchronised c)
    (lsc : c.lscState ≠ .initialAlignment)
    (iac : d.iacState = c.iacState) (timers : (d.t2, d.t3, d.t4)
      = (c.t2, c.t3, c.t4))
    (out : d.lscState = .outOfService) (t1 : d.t1 = false) :
    Synchronised d := by
  obtain ⟨idle, t2, t3, t4⟩ := h.idle lsc
  simp only [Prod.mk.injEq] at timers
  exact Idle.outOfService ⟨iac.trans idle, timers.1.trans t2,
    timers.2.1.trans t3, timers.2.2.trans t4⟩ out t1

end Stopping

section Received

theorem lscSio_synchronised (h : Synchronised c) : Synchronised c.lscSio := by
  unfold lscSio
  split
  · exact h
  · exact h
  · next aligning =>
      exact h.leaves aligning rfl rfl rfl rfl

theorem becomesAligned_synchronised (h : Synchronised c)
    (iac : c.iacState = .notAligned) (t4v : Nat) :
    Synchronised (c.becomesAligned t4v) := by
  obtain ⟨lsc, rc, t1⟩ := h.aligns (by simp [iac])
  refine synchronised_of_aligning lsc rc t1 ?_ ?_ ?_ ?_
  · simp [becomesAligned]
  · simp [becomesAligned]
  · simp [becomesAligned]
  · simp [becomesAligned, Bool.eq_false_iff.mpr, h.t4, iac]

theorem iacSio_synchronised (h : Synchronised c) : Synchronised c.iacSio := by
  unfold iacSio
  split
  · next iac => exact becomesAligned_synchronised h iac _
  · next iac =>
      obtain ⟨lsc, rc, t1⟩ := h.aligns (by simp [iac])
      refine synchronised_of_aligning lsc rc t1 ?_ ?_ ?_ ?_
      · simp
      · simp [h.t2, iac]
      · simp
      · simp
  · exact h

theorem lscSios_synchronised (h : Synchronised c) :
    Synchronised c.lscSios := by
  unfold lscSios
  split
  · next lsc => exact h.leaves (by simp [lsc]) rfl rfl rfl rfl
  · next lsc => exact h.leaves (by simp [lsc]) rfl rfl rfl rfl
  · next lsc =>
      exact h.leaves (by simp [lsc]) rfl rfl rfl
        (h.t1_rests (by simp [lsc]) (by simp [lsc]))
  · next lsc =>
      exact h.leaves (by simp [lsc]) rfl rfl rfl
        (h.t1_rests (by simp [lsc]) (by simp [lsc]))
  · exact h

theorem iacSios_synchronised (h : Synchronised c) :
    Synchronised c.iacSios := by
  unfold iacSios
  split
  · next iac =>
      obtain ⟨lsc, rc, t1⟩ := h.aligns (by simp [iac])
      have t2 : c.t2 = false :=
        Bool.eq_false_iff.mpr fun runs => by simp [h.t2.mp runs] at iac
      exact Idle.outOfService ⟨rfl, t2, rfl, rfl⟩ rfl t1
  · next iac =>
      obtain ⟨lsc, rc, t1⟩ := h.aligns (by simp [iac])
      have t2 : c.t2 = false :=
        Bool.eq_false_iff.mpr fun runs => by simp [h.t2.mp runs] at iac
      exact Idle.outOfService ⟨rfl, t2, rfl, rfl⟩ rfl t1
  · exact h

theorem lscSinSie_synchronised (h : Synchronised c) :
    Synchronised c.lscSinSie := by
  unfold lscSinSie
  split
  · next lsc =>
      exact h.leaves (by simp [lsc]) rfl rfl rfl
        (h.t1_rests (by simp [lsc]) (by simp [lsc]))
  · next lsc =>
      exact h.leaves (by simp [lsc]) rfl rfl rfl
        (h.t1_rests (by simp [lsc]) (by simp [lsc]))
  · exact h

theorem startProving_synchronised (h : Synchronised c)
    (iac : c.iacState = .aligned) : Synchronised c.startProving := by
  obtain ⟨lsc, rc, t1⟩ := h.aligns (by simp [iac])
  refine synchronised_of_aligning lsc rc t1 ?_ ?_ ?_ ?_
  · simp [startProving]
  · simp [startProving, h.t2, iac]
  · simp [startProving]
  · simp [startProving]

theorem proveAgain_synchronised (h : Synchronised c)
    (iac : c.iacState = .proving) : Synchronised c.proveAgain :=
  h.same (by simp [alignment, proveAgain, h.t4.mpr iac])

theorem proveInEmergency_synchronised (h : Synchronised c)
    (iac : c.iacState = .proving) : Synchronised c.proveInEmergency :=
  proveAgain_synchronised (h.same rfl) iac

theorem iacSin_synchronised (h : Synchronised c) : Synchronised c.iacSin := by
  unfold iacSin
  split
  · next iac => exact becomesAligned_synchronised h iac _
  · next iac => exact startProving_synchronised h iac
  · exact h

theorem iacSie_synchronised (h : Synchronised c) : Synchronised c.iacSie := by
  unfold iacSie
  split
  · next iac => exact becomesAligned_synchronised h iac _
  · next iac => exact startProving_synchronised (h.same rfl) iac
  · next iac =>
      split
      · exact h
      · exact proveInEmergency_synchronised h iac
  · exact h

theorem Synchronised.serves (h : Synchronised c)
    (lsc : c.lscState ≠ .initialAlignment) (on : c.lscState ≠ .powerOff)
    (running : c.lscState ≠ .outOfService)
    (same : (d.iacState, d.rcState, d.t2, d.t3, d.t4)
      = (c.iacState, c.rcState, c.t2, c.t3, c.t4))
    (t1 : d.t1 = false)
    (serving : d.lscState = .inService ∨ d.lscState = .processorOutage) :
    Synchronised d := by
  obtain ⟨idle, t2, t3, t4⟩ := h.idle lsc
  simp only [Prod.mk.injEq] at same
  obtain ⟨iac', rc', t2', t3', t4'⟩ := same
  refine Idle.synchronised ⟨iac'.trans idle, t2'.trans t2, t3'.trans t3,
    t4'.trans t4⟩ ?_ ?_ fun _ _ => rc'.trans (h.receiving on running)
  · rcases serving with eq | eq
    · simp [eq]
    · simp [eq]
  · rcases serving with eq | eq
    · simp [eq, t1]
    · simp [eq, t1]

theorem noProcessorOutage_synchronised (h : Synchronised c) :
    Synchronised c.noProcessorOutage := by
  unfold noProcessorOutage
  split
  · next lsc =>
      split
      · exact h.serves (by simp [lsc]) (by simp [lsc]) (by simp [lsc]) rfl
          (h.t1_rests (by simp [lsc]) (by simp [lsc])) (.inl rfl)
      · exact h.same rfl
  · exact h

theorem pocRemoteProcessorRecovered_synchronised (h : Synchronised c) :
    Synchronised c.pocRemoteProcessorRecovered := by
  unfold pocRemoteProcessorRecovered
  split
  · exact (noProcessorOutage_synchronised h).same rfl
  · exact h.same rfl
  · exact h

theorem pocLocalProcessorRecovered_synchronised (h : Synchronised c) :
    Synchronised c.pocLocalProcessorRecovered := by
  unfold pocLocalProcessorRecovered
  split
  · exact (noProcessorOutage_synchronised h).same rfl
  · exact h.same rfl
  · exact h

theorem pocRemoteProcessorOutage_alignment :
    c.pocRemoteProcessorOutage.alignment = c.alignment := by
  unfold pocRemoteProcessorOutage
  split <;> rfl

theorem pocLocalProcessorOutage_alignment :
    c.pocLocalProcessorOutage.alignment = c.alignment := by
  unfold pocLocalProcessorOutage
  split <;> rfl

theorem recordRemoteOutage_alignment :
    c.recordRemoteOutage.alignment = c.alignment := by
  unfold recordRemoteOutage
  split
  · rfl
  · exact pocRemoteProcessorOutage_alignment

theorem recordLocalOutage_alignment :
    c.recordLocalOutage.alignment = c.alignment := by
  unfold recordLocalOutage
  split
  · rfl
  · exact pocLocalProcessorOutage_alignment

theorem fisuMsuReceived_synchronised (h : Synchronised c) :
    Synchronised c.fisuMsuReceived := by
  unfold fisuMsuReceived
  split
  · next lsc =>
      exact h.serves (by simp [lsc]) (by simp [lsc]) (by simp [lsc]) rfl rfl
        (.inl rfl)
  · next lsc =>
      exact h.serves (by simp [lsc]) (by simp [lsc]) (by simp [lsc]) rfl rfl
        (.inr rfl)
  · split
    · exact h.same rfl
    · exact pocRemoteProcessorRecovered_synchronised h
  · exact h

theorem lscSipo_synchronised (h : Synchronised c) :
    Synchronised c.lscSipo := by
  have recorded : Synchronised c.recordRemoteOutage :=
    h.same recordRemoteOutage_alignment
  have lsc' : c.recordRemoteOutage.lscState = c.lscState :=
    congrArg Prod.fst recordRemoteOutage_alignment
  unfold lscSipo
  split
  · next lsc =>
      exact recorded.serves (by simp [lsc', lsc]) (by simp [lsc', lsc])
        (by simp [lsc', lsc]) rfl rfl (.inr rfl)
  · next lsc =>
      exact recorded.serves (by simp [lsc', lsc]) (by simp [lsc', lsc])
        (by simp [lsc', lsc]) rfl rfl (.inr rfl)
  · next lsc =>
      have inhibited : Synchronised
          ({ c with msuInhibited := true } : Control).recordRemoteOutage :=
        (h.same rfl).same recordRemoteOutage_alignment
      have lsc'' : ({ c with msuInhibited := true } :
          Control).recordRemoteOutage.lscState = .inService :=
        (congrArg Prod.fst recordRemoteOutage_alignment).trans lsc
      exact inhibited.serves (by simp [lsc'']) (by simp [lsc''])
        (by simp [lsc'']) rfl
        (inhibited.t1_rests (by simp [lsc'']) (by simp [lsc''])) (.inr rfl)
  · exact recorded
  · exact h

theorem rtbCleared_synchronised (h : Synchronised c) :
    Synchronised c.rtbCleared := by
  unfold rtbCleared
  split
  · next lsc =>
      split
      · exact h.same rfl
      · exact h.serves (by simp [lsc]) (by simp [lsc]) (by simp [lsc]) rfl
          (h.t1_rests (by simp [lsc]) (by simp [lsc])) (.inl rfl)
  · exact h

theorem bsnrAndBibr_synchronised (h : Synchronised c) :
    Synchronised c.bsnrAndBibr := by
  unfold bsnrAndBibr
  split
  · exact (rtbCleared_synchronised h).same rfl
  · exact h

theorem status_synchronised (h : Synchronised c) (status : Lssu) :
    Synchronised (c.status status) := by
  cases status with
  | sio => exact iacSio_synchronised (lscSio_synchronised h)
  | sin => exact iacSin_synchronised (lscSinSie_synchronised h)
  | sie => exact iacSie_synchronised (lscSinSie_synchronised h)
  | sios => exact iacSios_synchronised (lscSios_synchronised h)
  | sipo => exact lscSipo_synchronised h
  | _ => exact h

end Received

section Timeouts

theorem alignmentComplete_alignment (lsc : c.lscState = .initialAlignment) :
    ∃ lsc', (lsc' = .alignedReady ∨ lsc' = .alignedNotReady) ∧
      c.alignmentComplete.alignment
        = (lsc', c.iacState, c.rcState, true, c.t2, c.t3, c.t4) := by
  unfold alignmentComplete
  rw [if_pos lsc]
  split
  · refine ⟨.alignedNotReady, .inr rfl, ?_⟩
    have outage := pocLocalProcessorOutage_alignment (c := c)
    simp only [alignment, Prod.mk.injEq] at outage
    split
    · simp [alignment, outage]
    · rfl
  · exact ⟨.alignedReady, .inl rfl, rfl⟩

theorem Synchronised.t2_rests (h : Synchronised c)
    (iac : c.iacState ≠ .notAligned) : c.t2 = false :=
  Bool.eq_false_iff.mpr fun runs => iac (h.t2.mp runs)

theorem Synchronised.t3_rests (h : Synchronised c)
    (iac : c.iacState ≠ .aligned) : c.t3 = false :=
  Bool.eq_false_iff.mpr fun runs => iac (h.t3.mp runs)

theorem Synchronised.t4_rests (h : Synchronised c)
    (iac : c.iacState ≠ .proving) : c.t4 = false :=
  Bool.eq_false_iff.mpr fun runs => iac (h.t4.mp runs)

theorem t4Timeout_synchronised (h : Synchronised c)
    (iac : c.iacState = .proving) :
    Synchronised ({ c with t4 := false } : Control).t4Timeout := by
  obtain ⟨lsc, rc, t1⟩ := h.aligns (by simp [iac])
  unfold t4Timeout
  rw [if_pos (show ({ c with t4 := false } : Control).iacState = .proving
    from iac)]
  split
  · exact (proveAgain_synchronised h iac).same rfl
  · obtain ⟨lsc', aligned, eq⟩ := alignmentComplete_alignment
      (c := { c with t4 := false }) lsc
    simp only [alignment, Prod.mk.injEq] at eq
    obtain ⟨lsc'', iac', rc', t1', t2', t3', t4'⟩ := eq
    refine Idle.synchronised ⟨rfl, t2'.trans (h.t2_rests (by simp [iac])),
      t3'.trans (h.t3_rests (by simp [iac])), t4'⟩ ?_ ?_
      fun _ _ => rc'.trans rc
    · rcases aligned with rfl | rfl
      · simp [lsc'']
      · simp [lsc'']
    · simp [lsc'', t1', aligned]

theorem t1Timeout_synchronised (h : Synchronised c) (runs : c.t1 = true) :
    Synchronised ({ c with t1 := false } : Control).t1Timeout := by
  have lsc : c.lscState ≠ .initialAlignment := fun aligns => by
    simpa [aligns] using h.t1.mp runs
  unfold t1Timeout
  split
  · exact h.leaves lsc rfl rfl rfl rfl
  · exact h.leaves lsc rfl rfl rfl rfl

theorem alignmentTimeout_synchronised {state : IacState}
    (iac : c.iacState = state) (t1 : c.t1 = false) (t2 : c.t2 = false)
    (t3 : c.t3 = false) (t4 : c.t4 = false) :
    Synchronised (c.alignmentTimeout state) := by
  unfold alignmentTimeout
  rw [if_pos iac]
  exact Idle.outOfService ⟨rfl, t2, t3, t4⟩ rfl t1

theorem expire_synchronised (h : Synchronised c) (timer : Timer) :
    Synchronised (c.expire timer) := by
  unfold expire
  split
  · split
    · next runs => exact t1Timeout_synchronised h runs
    · exact h
  · split
    · next runs =>
        have iac := h.t2.mp runs
        obtain ⟨lsc, rc, t1⟩ := h.aligns (by simp [iac])
        exact alignmentTimeout_synchronised iac t1 rfl
          (h.t3_rests (by simp [iac])) (h.t4_rests (by simp [iac]))
    · exact h
  · split
    · next runs =>
        have iac := h.t3.mp runs
        obtain ⟨lsc, rc, t1⟩ := h.aligns (by simp [iac])
        exact alignmentTimeout_synchronised iac t1
          (h.t2_rests (by simp [iac])) rfl (h.t4_rests (by simp [iac]))
    · exact h
  · split
    · next runs => exact t4Timeout_synchronised h (h.t4.mp runs)
    · exact h

end Timeouts

section Requests

theorem powerOn_synchronised (h : Synchronised c) :
    Synchronised c.powerOn := by
  unfold powerOn
  split
  · next lsc =>
      exact h.leaves (by simp [lsc]) rfl rfl rfl
        (h.t1_rests (by simp [lsc]) (by simp [lsc]))
  · exact h

theorem iacEmergency_synchronised (h : Synchronised c) :
    Synchronised c.iacEmergency := by
  unfold iacEmergency
  split
  · next iac => exact proveInEmergency_synchronised h iac
  · exact h.same rfl
  · exact h.same rfl

theorem rcStart_alignment :
    c.rcStart.alignment
    = (c.lscState, c.iacState, .inService, c.t1, c.t2, c.t3, c.t4) := by
  unfold rcStart
  split
  · rfl
  · next running =>
      cases rc : c.rcState with
      | idle => exact absurd rc running
      | inService => simp [alignment, rc]

theorem iacEmergency_idle (iac : c.iacState = .idle) :
    c.iacEmergency.alignment = c.alignment := by
  simp only [iacEmergency, iac, alignment]

theorem iacStart_synchronised (started : c.alignment
      = (.outOfService, .idle, .inService, false, false, false, false)) :
    Synchronised { c.iacStart with lscState := .initialAlignment } := by
  simp only [alignment, Prod.mk.injEq] at started
  obtain ⟨-, iac, rc, t1, t2, t3, t4⟩ := started
  unfold iacStart
  rw [if_pos iac]
  refine synchronised_of_aligning rfl rc t1 ?_ ?_ ?_ ?_
  · simp
  · simp
  · simpa using t3
  · simpa using t4

theorem lscStart_synchronised (h : Synchronised c) :
    Synchronised c.lscStart := by
  unfold lscStart
  split
  · next lsc =>
      obtain ⟨iac, t2, t3, t4⟩ := h.idle (by simp [lsc])
      have started : c.rcStart.txcStart.alignment
          = (.outOfService, .idle, .inService, false, false, false, false) := by
        rw [show c.rcStart.txcStart.alignment = c.rcStart.alignment from rfl,
          rcStart_alignment, lsc, iac, t2, t3, t4,
          h.t1_rests (by simp [lsc]) (by simp [lsc])]
      have emergency : (if c.emergency then c.rcStart.txcStart.iacEmergency
          else c.rcStart.txcStart).alignment
          = (.outOfService, .idle, .inService, false, false, false, false) := by
        split
        · rw [iacEmergency_idle (congrArg (fun a => a.2.1) started)]
          exact started
        · exact started
      exact iacStart_synchronised emergency
  · exact h

theorem lscClearRtb_synchronised (h : Synchronised c) :
    Synchronised c.lscClearRtb := by
  unfold lscClearRtb
  split
  · exact h.same rfl
  · exact h

theorem Synchronised.realigns (h : Synchronised c)
    (lsc : c.lscState = .alignedReady ∨ c.lscState = .alignedNotReady)
    (same : (d.iacState, d.rcState, d.t1, d.t2, d.t3, d.t4)
      = (c.iacState, c.rcState, c.t1, c.t2, c.t3, c.t4))
    (aligned : d.lscState = .alignedReady ∨ d.lscState = .alignedNotReady) :
    Synchronised d := by
  have initial : c.lscState ≠ .initialAlignment := by
    rcases lsc with eq | eq <;> simp [eq]
  have initial' : d.lscState ≠ .initialAlignment := by
    rcases aligned with eq | eq <;> simp [eq]
  have rc : c.rcState = .inService := by
    rcases lsc with eq | eq <;> exact h.receiving (by simp [eq]) (by simp [eq])
  obtain ⟨idle, t2, t3, t4⟩ := h.idle initial
  simp only [Prod.mk.injEq] at same
  obtain ⟨iac', rc', t1', t2', t3', t4'⟩ := same
  refine Idle.synchronised ⟨iac'.trans idle, t2'.trans t2, t3'.trans t3,
    t4'.trans t4⟩ initial' ?_ fun _ _ => rc'.trans rc
  simp [aligned, t1', h.t1.mpr lsc]

theorem lscClearBuffers_synchronised (h : Synchronised c) :
    Synchronised c.lscClearBuffers := by
  unfold lscClearBuffers
  split
  · split
    · exact h.same rfl
    · exact h
  · split
    · exact h.same rfl
    · exact h
  · next lsc =>
      split
      · exact h.realigns (.inr lsc) rfl (.inl rfl)
      · exact h
  · next lsc =>
      split
      · exact h.same rfl
      · split
        · exact h.same rfl
        · exact h.serves (by simp [lsc]) (by simp [lsc]) (by simp [lsc]) rfl
            (h.t1_rests (by simp [lsc]) (by simp [lsc])) (.inl rfl)
  · exact h

theorem pocLocalProcessorRecovered_notReady
    (lsc : c.lscState = .alignedNotReady) :
    c.pocLocalProcessorRecovered.alignment = c.alignment := by
  unfold pocLocalProcessorRecovered noProcessorOutage
  split
  · rw [if_neg (by simp [lsc])]
    rfl
  · rfl
  · rfl

theorem pocLocalProcessorRecovered_serving
    (lsc : c.lscState = .processorOutage) :
    c.pocLocalProcessorRecovered.lscState = .inService ∨
      c.pocLocalProcessorRecovered.lscState = .processorOutage := by
  unfold pocLocalProcessorRecovered noProcessorOutage
  split
  · rw [if_pos lsc]
    split
    · exact .inl rfl
    · exact .inr lsc
  · exact .inr lsc
  · exact .inr lsc

theorem lscResume_synchronised (h : Synchronised c) :
    Synchronised c.lscResume := by
  unfold lscResume
  split
  · exact h.same rfl
  · exact h.same rfl
  · next lsc =>
      split
      · have recovered := pocLocalProcessorRecovered_notReady lsc
        exact (h.same recovered).realigns
          (.inr ((congrArg Prod.fst recovered).trans lsc)) rfl (.inl rfl)
      · exact h.realigns (.inr lsc) rfl (.inl rfl)
  · next lsc =>
      split
      · split
        · exact h.same rfl
        · exact h.serves (by simp [lsc]) (by simp [lsc]) (by simp [lsc]) rfl
            (h.t1_rests (by simp [lsc]) (by simp [lsc])) (.inl rfl)
      · have recovered := pocLocalProcessorRecovered_synchronised h
        have serving := pocLocalProcessorRecovered_serving lsc
        refine recovered.serves ?_ ?_ ?_ rfl (recovered.t1_rests ?_ ?_)
          (.inl rfl)
        all_goals rcases serving with eq | eq <;> simp [eq]
  · exact h

theorem lscLocalProcessorOutage_synchronised (h : Synchronised c) :
    Synchronised c.lscLocalProcessorOutage := by
  have recorded : Synchronised c.recordLocalOutage :=
    h.same recordLocalOutage_alignment
  have lsc' : c.recordLocalOutage.lscState = c.lscState :=
    congrArg Prod.fst recordLocalOutage_alignment
  unfold lscLocalProcessorOutage
  split
  · exact h.same rfl
  · exact h.same rfl
  · next lsc => exact recorded.realigns (.inl (lsc'.trans lsc)) rfl (.inr rfl)
  · next lsc =>
      rw [lsc] at lsc'
      exact recorded.serves (by simp [lsc']) (by simp [lsc']) (by simp [lsc'])
        rfl (recorded.t1_rests (by simp [lsc']) (by simp [lsc'])) (.inr rfl)
  · exact recorded
  · exact h

theorem iacCorrectSu_synchronised (h : Synchronised c) :
    Synchronised c.iacCorrectSu := by
  unfold iacCorrectSu
  split
  · next proving => exact proveAgain_synchronised h proving.1
  · exact h

theorem iacAbortProving_synchronised (h : Synchronised c) :
    Synchronised c.iacAbortProving := by
  unfold iacAbortProving
  split
  · next iac =>
      obtain ⟨lsc, rc, t1⟩ := h.aligns (by simp [iac])
      split
      · exact Idle.outOfService ⟨rfl, h.t2_rests (by simp [iac]),
          h.t3_rests (by simp [iac]), rfl⟩ rfl t1
      · exact h.same rfl
  · exact h

end Requests

theorem step_synchronised (h : Synchronised c) (input : Input) :
    Synchronised (c.step input) := by
  cases input with
  | quiet => exact h
  | powerOn => exact powerOn_synchronised h
  | start => exact lscStart_synchronised h
  | stop => exact lscStop_synchronised h
  | emergency => exact (iacEmergency_synchronised h).same rfl
  | emergencyCeases => exact h.same rfl
  | localProcessorOutage => exact lscLocalProcessorOutage_synchronised h
  | resume => exact lscResume_synchronised h
  | clearBuffers => exact lscClearBuffers_synchronised h
  | clearRtb => exact lscClearRtb_synchronised h
  | correctSu => exact iacCorrectSu_synchronised h
  | abortProving => exact iacAbortProving_synchronised h
  | status status => exact status_synchronised h status
  | acknowledged taken =>
      unfold step
      apply bsnrAndBibr_synchronised
      split
      · exact fisuMsuReceived_synchronised h
      · exact h
  | abnormalBsnr =>
      have stopped := lscStop_synchronised h
      have lsc := lscStop_lscState c
      exact stopped.leaves (by simp [lsc]) rfl rfl lsc
        (stopped.t1_rests (by simp [lsc]) (by simp [lsc]))
  | expire timer => exact expire_synchronised h timer

end Control

section Runs

theorem performAll_control {I : Control → Prop}
    (step : ∀ c input, I c → I (c.step input))
    (primitives : List (Env × Primitive))
    (supplies : ∀ p ∈ primitives, p.1.Supplies) (s : Sl)
    (holds : I s.control) :
    I (s.performAll primitives).control := by
  induction primitives generalizing s with
  | nil => exact holds
  | cons p rest ih =>
      refine ih (fun q mem => supplies q (List.mem_cons_of_mem p mem)) _ ?_
      rw [perform_control s (supplies p List.mem_cons_self)]
      exact step _ _ holds

theorem allocated_synchronised (option : Options) (config : Config)
    (env : Env) : (Sl.allocated option config env).control.Synchronised where
  aligning := by simp [Sl.control, Sl.allocated]
  t1 := by simp [Sl.control, Sl.allocated]
  t2 := by simp [Sl.control, Sl.allocated]
  t3 := by simp [Sl.control, Sl.allocated]
  t4 := by simp [Sl.control, Sl.allocated]
  receiving := fun on _ => (on rfl).elim

/-- The machines are synchronised in every state that a module reaches. -/
theorem performAll_synchronised (option : Options) (config : Config)
    (env : Env) (primitives : List (Env × Primitive))
    (supplies : ∀ p ∈ primitives, p.1.Supplies) :
    ((Sl.allocated option config env).performAll
      primitives).control.Synchronised :=
  performAll_control (I := Control.Synchronised)
    (fun _ input h => Control.step_synchronised h input) primitives supplies
    _ (allocated_synchronised option config env)

theorem performAll_synchronised_alignment :
    ((Sl.allocated ⟨SS7_PVAR_ITUT_96, false, false, false⟩ slDefault
      (.taking 0)).performAll
      ([(.taking 2, .powerOnReq), (.taking 2, .startReq)] ++
        alignment.map fun e => (e.1, .event e.2))).control.Synchronised := by
  refine performAll_synchronised _ _ _ _ fun p mem => ?_
  simp only [alignment, List.map_cons, List.map_nil, List.cons_append,
    List.nil_append, List.mem_cons, List.not_mem_nil, or_false] at mem
  rcases mem with rfl | rfl | rfl | rfl | rfl | rfl <;> exact ⟨rfl, rfl⟩

end Runs

end OpenSS7.Mtp2
