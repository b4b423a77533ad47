import OpenSS7.Mtp2.Control

/-!
The buffers a program asks for, in turn, next to what it does to the machines:
it fails just where one of them is refused.
-/

namespace OpenSS7.Mtp2

open Program

def Sl.memory (s : Sl) : List Bool × List Bool := (s.env.indMem, s.env.reqMem)

inductive Need where
  | ind
  | told
  | req
deriving DecidableEq

def Need.draw : Need → List Bool × List Bool → Option (List Bool × List Bool)
  | .ind, (inds, reqs) =>
      if inds.headD true then some (inds.tail, reqs) else none
  | .told, (inds, reqs) => some (inds.tail, reqs)
  | .req, (inds, reqs) =>
      if reqs.headD true then some (inds, reqs.tail) else none

def draw : List Need → List Bool × List Bool →
    Option (List Bool × List Bool)
  | [], memory => some memory
  | need :: needs, memory => (need.draw memory).bind (draw needs)

theorem draw_append (needs more : List Need) (memory : List Bool × List Bool) :
    draw (needs ++ more) memory = (draw needs memory).bind (draw more) := by
  induction needs generalizing memory with
  | nil => rfl
  | cons need needs ih =>
      show (need.draw memory).bind (draw (needs ++ more)) =
        ((need.draw memory).bind (draw needs)).bind (draw more)
      cases need.draw memory with
      | none => rfl
      | some left => exact ih left

theorem draw_supplied (needs : List Need) : draw needs ([], []) = some ([], []) := by
  induction needs with
  | nil => rfl
  | cons need needs ih => cases need <;> exact ih

/-- The program asks for the buffers from the machines at `c`, and takes them
to `d` where it gets them all. -/
abbrev Asks {α : Type} (c : Control) (m : SlM α) (needs : List Need)
    (d : Control) : Prop :=
  ∀ memory, Triple (fun s => s.control = c ∧ s.memory = memory) m
    (fun _ s => s.control = d ∧ draw needs memory = some s.memory)
    (fun _ => draw needs memory = none)

section Rules

variable {α β : Type} {c d e : Control} {needs more : List Need}

theorem asks_bind {m : SlM α} {f : α → SlM β} (first : Asks c m needs d)
    (second : ∀ a, Asks d (f a) more e) : Asks c (m >>= f) (needs ++ more) e := by
  intro memory s here
  rw [draw_append, exec_bind]
  have middle := first memory s here
  cases ran : m.exec s with
  | mk result t =>
      rw [ran] at middle
      cases result with
      | error err =>
          show (draw needs memory).bind (draw more) = none
          rw [show draw needs memory = none from middle]
          rfl
      | ok a =>
          obtain ⟨control, left⟩ := middle
          rw [left]
          exact second a t.memory t ⟨control, rfl⟩

theorem asks_pure (a : α) : Asks c (pure a) [] c :=
  fun _ => triple_pure fun _ h => ⟨h.1, congrArg some h.2.symm⟩

theorem asks_get {f : Sl → SlM β}
    (each : ∀ s, s.control = c → Asks c (f s) needs d) :
    Asks c (get >>= f) needs d :=
  fun memory => triple_get_bind fun s holds =>
    triple_conseq (each s holds.1 memory) (fun _ eq => eq ▸ holds)
      (fun _ _ h => h) fun _ h => h

theorem asks_ite {p : Prop} [Decidable p] {m n : SlM α}
    (yes : p → Asks c m needs d) (no : ¬ p → Asks c n needs d) :
    Asks c (if p then m else n) needs d :=
  fun memory => triple_ite (fun h => yes h memory) fun h => no h memory

theorem asks_modify {f : Sl → Sl} (g : Control → Control)
    (acts : ∀ s, ((f s).control, (f s).memory) = (g s.control, s.memory)) :
    Asks c (modify f) [] (g c) := by
  refine fun memory => triple_modify fun s ⟨here, left⟩ => ?_
  obtain ⟨control, same⟩ := Prod.mk.inj (acts s)
  exact ⟨control.trans (congrArg g here),
    congrArg some (same.trans left).symm⟩

theorem asks_quiet {f : Sl → Sl}
    (same : ∀ s, ((f s).control, (f s).memory) = (s.control, s.memory)) :
    Asks c (modify f) [] c :=
  asks_modify id same

theorem asks_then {f : Sl → Sl} {k : PUnit → SlM β}
    (g : Control → Control)
    (acts : ∀ s, ((f s).control, (f s).memory) = (g s.control, s.memory))
    (rest : Asks (g c) (k ⟨⟩) needs d) : Asks c (modify f >>= k) needs d :=
  asks_bind (asks_modify g acts) fun _ => rest

theorem asks_past {f : Sl → Sl} {k : PUnit → SlM β}
    (same : ∀ s, ((f s).control, (f s).memory) = (s.control, s.memory))
    (rest : Asks c (k ⟨⟩) needs d) : Asks c (modify f >>= k) needs d :=
  asks_bind (asks_quiet same) fun _ => rest

theorem asks_map {f : α → β} {m : SlM α} (asks : Asks c m needs d) :
    Asks c (f <$> m) needs d :=
  fun memory => triple_map (asks memory)

theorem asks_of_eq {m : SlM α} (asks : Asks c m needs d)
    (eq : (needs, d) = (more, e)) : Asks c m more e := by
  obtain ⟨rfl, rfl⟩ := Prod.mk.inj eq
  exact asks

end Rules

section Primitives

variable {c : Control}

theorem ind_asks (i : Ind) : Asks c (ind i) [.ind] c := by
  refine fun memory => triple_get_bind fun s ⟨here, left⟩ => ?_
  subst left
  refine triple_bind (R := fun _ t => t.control = c ∧
    t.memory = (s.env.indMem.tail, s.env.reqMem)) (triple_modify ?_) fun _ =>
    triple_ite (fun granted => triple_modify fun t h => ⟨h.1, ?_⟩)
      fun refused => triple_throw fun _ _ => ?_
  · rintro _ rfl
    exact ⟨here, rfl⟩
  · show (if s.env.indMem.headD true = true then
      some (s.env.indMem.tail, s.env.reqMem) else none).bind some = _
    rw [if_pos granted]
    exact congrArg some h.2.symm
  · show (if s.env.indMem.headD true = true then
      some (s.env.indMem.tail, s.env.reqMem) else none).bind some = _
    rw [if_neg refused]
    rfl

theorem sdtReq_asks (r : SdtReq) : Asks c (sdtReq r) [.req] c := by
  refine fun memory => triple_get_bind fun s ⟨here, left⟩ => ?_
  subst left
  refine triple_bind (R := fun _ t => t.control = c ∧
    t.memory = (s.env.indMem, s.env.reqMem.tail)) (triple_modify ?_) fun _ =>
    triple_ite (fun granted => triple_modify fun t h => ⟨h.1, ?_⟩)
      fun refused => triple_throw fun _ _ => ?_
  · rintro _ rfl
    exact ⟨here, rfl⟩
  · show (if s.env.reqMem.headD true = true then
      some (s.env.indMem, s.env.reqMem.tail) else none).bind some = _
    rw [if_pos granted]
    exact congrArg some h.2.symm
  · show (if s.env.reqMem.headD true = true then
      some (s.env.indMem, s.env.reqMem.tail) else none).bind some = _
    rw [if_neg refused]
    rfl

theorem indIgnored_asks (i : Ind) :
    Asks c (tryCatch (ind i) fun _ => pure ()) [.told] c := by
  refine fun memory => triple_tryCatch (R := fun s => s.control = c ∧
    draw [.told] memory = some s.memory) ?_ fun _ => triple_pure fun _ h => h
  refine triple_get_bind fun s ⟨here, left⟩ => ?_
  subst left
  refine triple_bind (R := fun _ t => t.control = c ∧
    some (s.env.indMem.tail, s.env.reqMem) = some t.memory) (triple_modify ?_)
    fun _ => triple_ite (fun _ => triple_modify fun t h => h)
      fun _ => triple_throw fun _ h => h
  rintro _ rfl
  exact ⟨here, rfl⟩

theorem suAlloc_asks : Asks c suAlloc [] c :=
  fun _ _ h => ⟨h.1, congrArg some h.2.symm⟩

theorem canputnextIq_asks : Asks c canputnextIq [] c :=
  fun _ _ h => ⟨h.1, congrArg some h.2.symm⟩

theorem canputnextOq_asks : Asks c canputnextOq [] c :=
  fun _ _ h => ⟨h.1, congrArg some h.2.symm⟩

end Primitives

section Transmission

variable {c : Control}

theorem slTxcTransmitLssu_asks : Asks c slTxcTransmitLssu [] c :=
  asks_bind suAlloc_asks fun _ => asks_ite
    (fun _ => asks_past (fun _ => rfl) <| asks_past (fun _ => rfl) <|
      asks_map (asks_past (fun _ => rfl) <|
        asks_get fun _ _ => asks_pure _))
    fun _ => asks_pure _

theorem slTxcTransmitFisu_asks : Asks c slTxcTransmitFisu [] c :=
  asks_bind suAlloc_asks fun _ => asks_ite
    (fun _ => asks_past (fun _ => rfl) <|
      asks_map (asks_past (fun _ => rfl) <|
        asks_get fun _ _ => asks_pure _))
    fun _ => asks_pure _

theorem slTxcRetransmit_asks (z : Nat) : Asks c (slTxcRetransmit z) [] c := by
  refine asks_get fun s _ => ?_
  split
  · exact asks_past (fun _ => rfl) <| asks_pure _
  · exact asks_past (fun _ => rfl) <| asks_pure _

theorem slTxcTransmitFirst_asks : Asks c slTxcTransmitFirst [] c := by
  refine asks_get fun s _ => ?_
  split
  · exact asks_pure _
  · exact asks_bind suAlloc_asks fun _ => asks_ite
      (fun _ => asks_map (asks_get fun _ _ =>
        asks_past (fun _ => rfl) <| asks_pure _))
      fun _ => asks_pure _

theorem slTxcTransmitNext_asks : Asks c slTxcTransmitNext [] c :=
  asks_get fun _ _ => asks_ite (fun _ => slTxcTransmitFisu_asks)
    fun _ => slTxcTransmitFirst_asks

theorem slTxcTransmitDue_asks : Asks c slTxcTransmitDue [] c := by
  refine asks_get fun s _ => asks_ite (fun _ => ?_)
    fun _ => slTxcTransmitNext_asks
  split
  · exact asks_bind suAlloc_asks fun _ => asks_ite
      (fun _ => asks_map (slTxcRetransmit_asks _)) fun _ => asks_pure _
  · refine asks_ite (fun _ => ?_) fun _ => slTxcTransmitNext_asks
    split
    · exact asks_bind suAlloc_asks fun _ => asks_ite
        (fun _ => asks_past (fun _ => rfl) <|
          asks_map (slTxcRetransmit_asks _))
        fun _ => asks_pure _
    · exact asks_past (fun _ => rfl) <| slTxcTransmitNext_asks

theorem slTxcTransmissionRequest_asks :
    Asks c slTxcTransmissionRequest [] c := by
  refine asks_get fun s _ => asks_ite (fun _ => ?_) fun _ => asks_pure _
  refine asks_ite (fun _ => slTxcTransmitLssu_asks) fun _ =>
    asks_ite (fun _ => slTxcTransmitFisu_asks) fun _ => ?_
  refine asks_bind (asks_quiet fun s => ?_) fun _ =>
    asks_bind (asks_quiet fun s => ?_) fun _ => slTxcTransmitDue_asks
  · split <;> rfl
  · split <;> rfl

theorem transmit_asks : Asks c transmit [] c := by
  refine asks_bind slTxcTransmissionRequest_asks fun su => ?_
  cases su with
  | none => exact asks_pure _
  | some su => exact asks_past (fun _ => rfl) <| asks_pure _

theorem slTxWakeupLoop_asks (fuel : Nat) :
    Asks c (slTxWakeupLoop fuel) [] c := by
  induction fuel with
  | zero => exact asks_pure _
  | succ fuel ih =>
      exact asks_get fun _ _ => asks_ite
        (fun _ => asks_bind canputnextIq_asks fun _ => asks_ite
          (fun _ => asks_bind transmit_asks fun _ =>
            asks_ite (fun _ => ih) fun _ => asks_pure _)
          fun _ => asks_pure _)
        fun _ => asks_pure _

theorem slTxWakeup_asks : Asks c slTxWakeup [] c :=
  asks_get fun _ _ => slTxWakeupLoop_asks _

theorem slDaedtTransmitterWakeup_asks :
    Asks c slDaedtTransmitterWakeup [] c :=
  asks_past (fun _ => rfl) <| slTxWakeup_asks

theorem slTxcSendLssu_asks (status : Lssu) :
    Asks c (slTxcSendLssu status) [] c :=
  asks_past (fun _ => rfl) <| slDaedtTransmitterWakeup_asks

theorem slTxcSendMsu_asks :
    Asks c slTxcSendMsu [] { c with msuInhibited := false } :=
  asks_then (fun c => { c with msuInhibited := false }) (fun _ => rfl)
    slDaedtTransmitterWakeup_asks

theorem slTxcSendFisu_asks :
    Asks c slTxcSendFisu [] { c with msuInhibited := true } :=
  asks_then (fun c => { c with msuInhibited := true }) (fun _ => rfl)
    slDaedtTransmitterWakeup_asks

theorem slTxcFsnxValue_asks : Asks c slTxcFsnxValue [] c :=
  asks_get fun _ _ => asks_ite
    (fun _ => asks_past (fun _ => rfl) <| slDaedtTransmitterWakeup_asks)
    fun _ => asks_pure _

theorem slTxcNackToBeSent_asks : Asks c slTxcNackToBeSent [] c :=
  asks_past (fun _ => rfl) <| slDaedtTransmitterWakeup_asks

end Transmission

namespace Control

/-- What `sl_iac_stop` and its kind ask for, from the machines at `c`. -/
def iacStopNeeds (c : Control) : List Need :=
  if c.iacState ≠ .idle then [.req] else []

def linkFailureNeeds (c : Control) : List Need :=
  if c.lscState ≠ .outOfService then .ind :: (c.iacStopNeeds ++ [.req]) else []

def lscSioNeeds (c : Control) : List Need :=
  match c.lscState with
  | .outOfService | .initialAlignment => []
  | _ => [.told, .req]

def iacSioNeeds (c : Control) : List Need :=
  match c.iacState with
  | .proving => [.req]
  | _ => []

def lscSiosNeeds (c : Control) : List Need :=
  match c.lscState with
  | .alignedReady | .alignedNotReady | .inService | .processorOutage =>
      [.told, .req]
  | _ => []

def iacSiosNeeds (c : Control) : List Need :=
  match c.iacState with
  | .aligned | .proving => [.ind, .req]
  | _ => []

def lscSinSieNeeds (c : Control) : List Need :=
  match c.lscState with
  | .inService | .processorOutage => [.told, .req]
  | _ => []

def iacSinNeeds (c : Control) : List Need :=
  match c.iacState with
  | .aligned => if c.t4v = c.config.t4e then [.req, .req] else [.req]
  | _ => []

def iacSieNeeds (c : Control) : List Need :=
  match c.iacState with
  | .aligned => [.req, .req]
  | .proving => if c.t4v = c.config.t4e then [] else [.req, .req, .req]
  | _ => []

def fisuMsuReceivedNeeds (c : Control) : List Need :=
  match c.lscState with
  | .alignedReady | .alignedNotReady => [.ind]
  | .processorOutage =>
      if c.isAnsi && !c.remoteProcessorOutage then [] else [.ind]
  | _ => []

def lscSipoNeeds (c : Control) : List Need :=
  match c.lscState with
  | .alignedReady | .alignedNotReady | .inService => [.ind]
  | .processorOutage =>
      if c.isAnsi && c.remoteProcessorOutage then [] else [.ind]
  | _ => []

def rtbClearedNeeds (c : Control) : List Need :=
  if c.lscState = .processorOutage ∧ c.localProcessorOutage = false then
    [.ind, .ind]
  else []

def statusNeeds (c : Control) (status : Lssu) : List Need :=
  match status with
  | .sio => c.lscSioNeeds ++ c.lscSio.iacSioNeeds
  | .sin => c.lscSinSieNeeds ++ c.lscSinSie.iacSinNeeds
  | .sie => c.lscSinSieNeeds ++ c.lscSinSie.iacSieNeeds
  | .sios => c.lscSiosNeeds ++ c.lscSios.iacSiosNeeds
  | .sipo => c.lscSipoNeeds
  | _ => []

end Control

section Stopping

variable {c : Control}

theorem slCcNormal_asks : Asks c slCcNormal [] c := asks_quiet fun _ => rfl

theorem slRcStop_asks : Asks c slRcStop [] c.rcStop :=
  asks_bind slCcNormal_asks fun _ => asks_modify Control.rcStop fun _ => rfl

theorem slPocStop_asks : Asks c slPocStop [] c.pocStop :=
  asks_modify Control.pocStop fun _ => rfl

theorem outOfService_asks :
    Asks c (modify outOfService : SlM PUnit) [] c.outOfService :=
  asks_modify Control.outOfService fun _ => rfl

theorem slIacStop_asks : Asks c slIacStop c.iacStopNeeds c.iacStop := by
  refine asks_get fun s eq => ?_
  rw [show s.iacState = c.iacState from congrArg Control.iacState eq]
  unfold Control.iacStop Control.iacStopNeeds
  refine asks_ite (fun running => ?_) fun idle => ?_
  · rw [if_pos running, if_pos running]
    exact asks_then
      (fun c => { c with t2 := false, t3 := false, t4 := false })
      (fun _ => rfl) <|
      asks_bind (sdtReq_asks _) fun _ =>
      asks_modify (fun c => { c with emergency := false, iacState := .idle })
        fun _ => rfl
  · rw [if_neg idle, if_neg idle]
    exact asks_pure _

theorem slLscLinkFailure_asks (reason : Nat) :
    Asks c (slLscLinkFailure reason) c.linkFailureNeeds c.lscStop := by
  refine asks_get fun s eq => ?_
  rw [show s.lscState = c.lscState from congrArg Control.lscState eq]
  unfold Control.lscStop Control.linkFailureNeeds
  refine asks_ite (fun running => ?_) fun stopped => ?_
  · rw [if_pos running, if_pos running]
    exact asks_bind (ind_asks _) fun _ => asks_past (fun _ => rfl) <|
      asks_bind slIacStop_asks fun _ =>
      asks_then (fun c => { c with t1 := false }) (fun _ => rfl) <|
      asks_bind (sdtReq_asks _) fun _ => asks_bind slRcStop_asks fun _ =>
      asks_bind (slTxcSendLssu_asks _) fun _ =>
      asks_bind slPocStop_asks fun _ => outOfService_asks
  · rw [if_neg stopped, if_neg stopped]
    exact asks_pure _

theorem slLscAlignmentNotPossible_asks :
    Asks c slLscAlignmentNotPossible [.ind] c.alignmentNotPossible :=
  asks_bind (ind_asks _) fun _ => asks_past (fun _ => rfl) <|
    asks_bind slRcStop_asks fun _ =>
    asks_bind (slTxcSendLssu_asks _) fun _ =>
    asks_modify
      (fun c =>
        { c with
          localProcessorOutage := false
          emergency := false
          lscState := .outOfService })
      fun _ => rfl

theorem outOfServiceInd_asks (reason : Nat) :
    Asks c (outOfServiceInd reason) [.told] c :=
  asks_bind (indIgnored_asks _) fun _ => asks_quiet fun _ => rfl

end Stopping

section Received

variable {c : Control}

theorem slLscSio_asks : Asks c slLscSio c.lscSioNeeds c.lscSio := by
  have fails : Asks c (do
      modify fun s => { s with t1 := false }
      outOfServiceInd SL_FAIL_RECEIVED_SIO
      slRcStop
      sdtReq .suermStop
      slPocStop
      slTxcSendSios
      modify outOfService : SlM PUnit) [.told, .req]
      { c with t1 := false }.rcStop.pocStop.outOfService :=
    asks_then (fun c => { c with t1 := false }) (fun _ => rfl) <|
      asks_bind (outOfServiceInd_asks _) fun _ =>
      asks_bind slRcStop_asks fun _ => asks_bind (sdtReq_asks _) fun _ =>
      asks_bind slPocStop_asks fun _ =>
      asks_bind (slTxcSendLssu_asks _) fun _ => outOfService_asks
  refine asks_get fun s eq => ?_
  rw [show s.lscState = c.lscState from congrArg Control.lscState eq]
  cases lsc : c.lscState with
  | outOfService =>
      exact asks_of_eq (asks_pure _) (by simp [Control.lscSio, Control.lscSioNeeds, lsc])
  | initialAlignment =>
      exact asks_of_eq (asks_pure _) (by simp [Control.lscSio, Control.lscSioNeeds, lsc])
  | _ => exact asks_of_eq fails (by simp [Control.lscSio, Control.lscSioNeeds, lsc])

theorem alignedSend_asks {s : Sl} (here : s.control = c) :
    Asks c (do
      if s.emergency then
        modify fun s => { s with t2 := false, t4v := s.config.t4e }
        slTxcSendSie
      else
        modify fun s => { s with t2 := false, t4v := s.config.t4n }
        slTxcSendSin
      modify fun s => { s with t3 := true, iacState := .aligned }
        : SlM PUnit) [] (c.becomesAligned c.provingPeriod) := by
  rw [show s.emergency = c.emergency from congrArg Control.emergency here]
  unfold Control.provingPeriod
  refine asks_ite (fun emergency => ?_) fun normal => ?_
  · rw [if_pos emergency]
    exact asks_then (fun c => { c with t2 := false, t4v := c.config.t4e })
      (fun _ => rfl) <|
      asks_bind (slTxcSendLssu_asks _) fun _ =>
      asks_modify (fun c => { c with t3 := true, iacState := .aligned })
        fun _ => rfl
  · rw [if_neg normal]
    exact asks_then (fun c => { c with t2 := false, t4v := c.config.t4n })
      (fun _ => rfl) <|
      asks_bind (slTxcSendLssu_asks _) fun _ =>
      asks_modify (fun c => { c with t3 := true, iacState := .aligned })
        fun _ => rfl

theorem slIacSio_asks : Asks c slIacSio c.iacSioNeeds c.iacSio := by
  refine asks_get fun s eq => ?_
  rw [show s.iacState = c.iacState from congrArg Control.iacState eq]
  cases iac : c.iacState with
  | notAligned =>
      exact asks_of_eq (alignedSend_asks eq)
        (by simp [Control.iacSio, Control.iacSioNeeds, iac])
  | proving =>
      exact asks_of_eq
        (asks_then (fun c => { c with t4 := false }) (fun _ => rfl) <|
          asks_bind (sdtReq_asks _) fun _ =>
          asks_modify (fun c => { c with t3 := true, iacState := .aligned })
            fun _ => rfl)
        (by simp [Control.iacSio, Control.iacSioNeeds, iac])
  | _ => exact asks_of_eq (asks_pure _) (by simp [Control.iacSio, Control.iacSioNeeds, iac])

theorem failSios_asks :
    Asks c failSios [.told, .req] c.rcStop.pocStop.outOfService :=
  asks_bind (outOfServiceInd_asks _) fun _ =>
    asks_bind (sdtReq_asks _) fun _ => asks_bind slRcStop_asks fun _ =>
    asks_bind slPocStop_asks fun _ =>
    asks_bind (slTxcSendLssu_asks _) fun _ => outOfService_asks

theorem slLscSios_asks : Asks c slLscSios c.lscSiosNeeds c.lscSios := by
  have stopped : Asks c (do
      modify fun s => { s with t1 := false }
      failSios : SlM PUnit) [.told, .req]
      { c with t1 := false }.rcStop.pocStop.outOfService :=
    asks_then (fun c => { c with t1 := false }) (fun _ => rfl) failSios_asks
  refine asks_get fun s eq => ?_
  rw [show s.lscState = c.lscState from congrArg Control.lscState eq]
  cases lsc : c.lscState with
  | alignedReady =>
      exact asks_of_eq stopped (by simp [Control.lscSios, Control.lscSiosNeeds, lsc])
  | alignedNotReady =>
      exact asks_of_eq stopped (by simp [Control.lscSios, Control.lscSiosNeeds, lsc])
  | inService =>
      exact asks_of_eq failSios_asks (by simp [Control.lscSios, Control.lscSiosNeeds, lsc])
  | processorOutage =>
      exact asks_of_eq failSios_asks (by simp [Control.lscSios, Control.lscSiosNeeds, lsc])
  | _ => exact asks_of_eq (asks_pure _) (by simp [Control.lscSios, Control.lscSiosNeeds, lsc])

theorem slIacSios_asks : Asks c slIacSios c.iacSiosNeeds c.iacSios := by
  have leaves : Asks c (do
      modify fun s => { s with t4 := false }
      slLscAlignmentNotPossible
      sdtReq .aermStop
      modify fun s =>
        { s with t3 := false, emergency := false, iacState := .idle }
        : SlM PUnit) [.ind, .req]
      { { c with t4 := false }.alignmentNotPossible with
        t3 := false, iacState := .idle } :=
    asks_then (fun c => { c with t4 := false }) (fun _ => rfl) <|
      asks_bind slLscAlignmentNotPossible_asks fun _ =>
      asks_bind (sdtReq_asks _) fun _ =>
      asks_modify
        (fun c => { c with t3 := false, emergency := false, iacState := .idle })
        fun _ => rfl
  refine asks_get fun s eq => ?_
  rw [show s.iacState = c.iacState from congrArg Control.iacState eq]
  cases iac : c.iacState with
  | aligned => exact asks_of_eq leaves (by simp [Control.iacSios, Control.iacSiosNeeds, iac])
  | proving => exact asks_of_eq leaves (by simp [Control.iacSios, Control.iacSiosNeeds, iac])
  | _ => exact asks_of_eq (asks_pure _) (by simp [Control.iacSios, Control.iacSiosNeeds, iac])

theorem slLscSinSie_asks (reason : Nat) :
    Asks c (slLscSinSie reason) c.lscSinSieNeeds c.lscSinSie := by
  refine asks_get fun s eq => ?_
  rw [show s.lscState = c.lscState from congrArg Control.lscState eq]
  cases lsc : c.lscState with
  | inService =>
      exact asks_of_eq
        (asks_bind (outOfServiceInd_asks _) fun _ =>
          asks_bind (sdtReq_asks _) fun _ =>
          asks_bind slRcStop_asks fun _ =>
          asks_bind (slTxcSendLssu_asks _) fun _ =>
          asks_modify
            (fun c => { c with emergency := false, lscState := .outOfService })
            fun _ => rfl)
        (by simp [Control.lscSinSie, Control.lscSinSieNeeds, lsc])
  | processorOutage =>
      exact asks_of_eq
        (asks_bind (outOfServiceInd_asks _) fun _ =>
          asks_bind (sdtReq_asks _) fun _ =>
          asks_bind slRcStop_asks fun _ =>
          asks_bind slPocStop_asks fun _ =>
          asks_bind (slTxcSendLssu_asks _) fun _ => outOfService_asks)
        (by simp [Control.lscSinSie, Control.lscSinSieNeeds, lsc])
  | _ =>
      exact asks_of_eq (asks_pure _) (by simp [Control.lscSinSie, Control.lscSinSieNeeds, lsc])

theorem startProving_asks :
    Asks { c with t3 := false } startProving [.req] c.startProving :=
  asks_bind (sdtReq_asks _) fun _ =>
    asks_modify
      (fun c =>
        { c with
          t4 := true, furtherProving := false, Cp := 0, iacState := .proving })
      fun _ => rfl

theorem slIacSin_asks : Asks c slIacSin c.iacSinNeeds c.iacSin := by
  refine asks_get fun s eq => ?_
  rw [show s.iacState = c.iacState from congrArg Control.iacState eq]
  cases iac : c.iacState with
  | notAligned =>
      exact asks_of_eq (alignedSend_asks eq)
        (by simp [Control.iacSin, Control.iacSinNeeds, iac])
  | aligned =>
      rw [show s.t4v = c.t4v from congrArg Control.t4v eq,
        show s.config = c.config from congrArg Control.config eq]
      refine asks_then (fun c => { c with t3 := false }) (fun _ => rfl) <|
        asks_ite (fun short => ?_) fun long => ?_
      · exact asks_of_eq
          (asks_bind (sdtReq_asks _) fun _ => startProving_asks)
          (by simp [Control.iacSin, Control.iacSinNeeds, iac, short])
      · exact asks_of_eq startProving_asks
          (by simp [Control.iacSin, Control.iacSinNeeds, iac, long])
  | _ => exact asks_of_eq (asks_pure _) (by simp [Control.iacSin, Control.iacSinNeeds, iac])

theorem proveInEmergency_asks :
    Asks c (do
      modify fun s => { s with t4 := false, t4v := s.config.t4e }
      sdtReq .aermStop
      sdtReq .aermSetTiToTie
      sdtReq .aermStart
      modify fun s => { s with t4 := true, furtherProving := false }
        : SlM PUnit) [.req, .req, .req] c.proveInEmergency :=
  asks_then (fun c => { c with t4 := false, t4v := c.config.t4e })
    (fun _ => rfl) <|
    asks_bind (sdtReq_asks _) fun _ => asks_bind (sdtReq_asks _) fun _ =>
    asks_bind (sdtReq_asks _) fun _ =>
    asks_modify (fun c => { c with t4 := true, furtherProving := false })
      fun _ => rfl

theorem slIacSie_asks : Asks c slIacSie c.iacSieNeeds c.iacSie := by
  refine asks_get fun s eq => ?_
  rw [show s.iacState = c.iacState from congrArg Control.iacState eq]
  cases iac : c.iacState with
  | notAligned =>
      refine asks_of_eq
        (asks_then (fun c => { c with t2 := false, t4v := c.config.t4e })
          (fun _ => rfl) <|
          asks_ite
            (fun _ => asks_bind (slTxcSendLssu_asks _) fun _ =>
              asks_modify
                (fun c => { c with t3 := true, iacState := .aligned })
                fun _ => rfl)
            fun _ => asks_bind (slTxcSendLssu_asks _) fun _ =>
              asks_modify
                (fun c => { c with t3 := true, iacState := .aligned })
                fun _ => rfl)
        ?_
      simp [Control.iacSie, Control.iacSieNeeds, iac, Control.becomesAligned]
  | aligned =>
      exact asks_of_eq
        (asks_then (fun c => { c with t3 := false, t4v := c.config.t4e })
          (fun _ => rfl) <|
          asks_bind (sdtReq_asks _) fun _ =>
          startProving_asks (c := { c with t4v := c.config.t4e }))
        (by simp [Control.iacSie, Control.iacSieNeeds, iac])
  | proving =>
      rw [show s.t4v = c.t4v from congrArg Control.t4v eq,
        show s.config = c.config from congrArg Control.config eq]
      refine asks_ite (fun short => ?_) fun long => ?_
      · exact asks_of_eq (asks_pure _)
          (by simp [Control.iacSie, Control.iacSieNeeds, iac, if_pos short])
      · exact asks_of_eq proveInEmergency_asks
          (by simp [Control.iacSie, Control.iacSieNeeds, iac, if_neg long])
  | idle =>
      exact asks_of_eq (asks_pure _) (by simp [Control.iacSie, Control.iacSieNeeds, iac])

theorem slLscNoProcessorOutage_asks :
    Asks c slLscNoProcessorOutage [] c.noProcessorOutage := by
  refine asks_get fun s eq => ?_
  rw [show s.lscState = c.lscState from congrArg Control.lscState eq,
    show s.l3IndicationReceived = c.l3IndicationReceived from
      congrArg Control.l3IndicationReceived eq]
  unfold Control.noProcessorOutage
  refine asks_ite (fun out => ?_) fun other => ?_
  · rw [if_pos out]
    refine asks_then (fun c => { c with processorOutage := false })
      (fun _ => rfl) <| asks_ite (fun received => ?_) fun awaited => ?_
    · rw [if_pos received]
      exact asks_then (fun c => { c with l3IndicationReceived := false })
        (fun _ => rfl) <|
        asks_bind slTxcSendMsu_asks fun _ =>
        asks_modify
          (fun c =>
            { c with
              localProcessorOutage := false
              msuFisuAccepted := true
              lscState := .inService })
          fun _ => rfl
    · rw [if_neg awaited]
      exact asks_pure _
  · rw [if_neg other]
    exact asks_pure _

theorem slPocRemoteProcessorRecovered_asks :
    Asks c slPocRemoteProcessorRecovered [] c.pocRemoteProcessorRecovered := by
  refine asks_get fun s eq => ?_
  rw [show s.pocState = c.pocState from congrArg Control.pocState eq]
  cases poc : c.pocState with
  | remoteProcessorOutage =>
      exact asks_of_eq
        (asks_bind slLscNoProcessorOutage_asks fun _ =>
          asks_modify Control.pocStop fun _ => rfl)
        (by simp only [Control.pocRemoteProcessorRecovered, poc,
              List.append_nil])
  | bothProcessorsOut =>
      exact asks_of_eq
        (asks_modify (fun c => { c with pocState := .localProcessorOutage })
          fun _ => rfl)
        (by simp only [Control.pocRemoteProcessorRecovered, poc])
  | _ =>
      exact asks_of_eq (asks_pure _)
        (by simp only [Control.pocRemoteProcessorRecovered, poc])

theorem slPocRemoteProcessorOutage_asks :
    Asks c slPocRemoteProcessorOutage [] c.pocRemoteProcessorOutage := by
  refine asks_modify Control.pocRemoteProcessorOutage fun s => ?_
  have same : s.control.pocState = s.pocState := rfl
  unfold Control.pocRemoteProcessorOutage
  rw [same]
  cases s.pocState <;> rfl

theorem slLscFisuMsuReceived_asks :
    Asks c slLscFisuMsuReceived c.fisuMsuReceivedNeeds c.fisuMsuReceived := by
  refine asks_get fun s eq => ?_
  rw [show s.lscState = c.lscState from congrArg Control.lscState eq,
    show s.option.isAnsi = c.isAnsi from congrArg Control.isAnsi eq]
  cases lsc : c.lscState with
  | alignedReady =>
      exact asks_of_eq
        (asks_bind (ind_asks _) fun _ =>
          asks_then
            (fun c =>
              { c with
                msuFisuAccepted :=
                  c.msuFisuAccepted || decide (c.pvar = SS7_PVAR_ITUT_93)
                t1 := false })
            (fun _ => rfl) <|
          asks_bind slTxcSendMsu_asks fun _ =>
          asks_modify (fun c => { c with lscState := .inService })
            fun _ => rfl)
        (by simp [Control.fisuMsuReceived, Control.fisuMsuReceivedNeeds, lsc])
  | alignedNotReady =>
      exact asks_of_eq
        (asks_bind (ind_asks _) fun _ =>
          asks_modify
            (fun c => { c with t1 := false, lscState := .processorOutage })
            fun _ => rfl)
        (by simp [Control.fisuMsuReceived, Control.fisuMsuReceivedNeeds, lsc])
  | processorOutage =>
      refine asks_ite (fun ansi => ?_) fun other => ?_
      · rw [show s.remoteProcessorOutage = c.remoteProcessorOutage
          from congrArg Control.remoteProcessorOutage eq]
        refine asks_ite (fun outage => ?_) fun clear => ?_
        · exact asks_of_eq
            (asks_then (fun c => { c with remoteProcessorOutage := false })
              (fun _ => rfl) <| ind_asks _)
            (by simp [Control.fisuMsuReceived, Control.fisuMsuReceivedNeeds,
                  lsc, ansi, outage])
        · have clear := (Bool.not_eq_true _).mp clear
          have step : c.fisuMsuReceived =
              { c with remoteProcessorOutage := false } := by
            unfold Control.fisuMsuReceived
            rw [lsc]
            exact if_pos ansi
          have none : c.fisuMsuReceivedNeeds = [] := by
            simp [Control.fisuMsuReceivedNeeds, lsc, ansi, clear]
          exact asks_of_eq (asks_pure _) (by rw [none, step, ← clear])
      · exact asks_of_eq
          (asks_bind slPocRemoteProcessorRecovered_asks fun _ => ind_asks _)
          (by simp [Control.fisuMsuReceived, Control.fisuMsuReceivedNeeds, lsc,
                other])
  | _ =>
      exact asks_of_eq (asks_pure _)
        (by simp [Control.fisuMsuReceived, Control.fisuMsuReceivedNeeds, lsc])

theorem slTxcSibReceived_asks : Asks c slTxcSibReceived [] c := by
  refine asks_quiet fun s => ?_
  split
  · rfl
  · split <;> rfl

theorem slLscSib_asks : Asks c slLscSib [] c := by
  refine asks_get fun s _ => ?_
  split
  · exact slTxcSibReceived_asks
  · exact slTxcSibReceived_asks
  · exact asks_pure _

theorem recordRemoteOutage_asks {ansi : Bool} (eq : c.isAnsi = ansi) :
    Asks c (recordRemoteOutage ansi) [] c.recordRemoteOutage := by
  unfold recordRemoteOutage Control.recordRemoteOutage
  rw [eq]
  refine asks_ite (fun yes => ?_) fun no => ?_
  · rw [if_pos yes]
    exact asks_modify (fun c => { c with remoteProcessorOutage := true })
      fun _ => rfl
  · rw [if_neg no]
    exact slPocRemoteProcessorOutage_asks

theorem sipoAligned_asks {ansi : Bool} (eq : c.isAnsi = ansi) :
    Asks c (sipoAligned ansi) [.ind]
      { c.recordRemoteOutage with t1 := false, lscState := .processorOutage } :=
  asks_bind (ind_asks _) fun _ =>
    asks_bind (recordRemoteOutage_asks eq) fun _ =>
    asks_modify (fun c => { c with t1 := false, lscState := .processorOutage })
      fun _ => rfl

theorem recordRemoteOutage_t1 (t1 : Bool) :
    ({ c with t1 := t1 } : Control).recordRemoteOutage
    = { c.recordRemoteOutage with t1 := t1 } := by
  cases ansi : c.isAnsi with
  | true =>
      rw [Control.recordRemoteOutage, Control.recordRemoteOutage, if_pos ansi]
      exact if_pos ansi
  | false =>
      have other : ¬ c.isAnsi = true := Bool.eq_false_iff.mp ansi
      rw [Control.recordRemoteOutage, Control.recordRemoteOutage, if_neg other]
      refine (if_neg other).trans ?_
      cases poc : c.pocState <;>
        simp only [Control.pocRemoteProcessorOutage, poc]

theorem recordRemoteOutage_processorOutage :
    c.recordRemoteOutage.processorOutage = c.processorOutage := by
  cases ansi : c.isAnsi <;> cases poc : c.pocState <;>
    simp [Control.recordRemoteOutage, Control.pocRemoteProcessorOutage, ansi,
      poc]

theorem slLscSipo_asks : Asks c slLscSipo c.lscSipoNeeds c.lscSipo := by
  refine asks_get fun s eq => ?_
  have ansi : c.isAnsi = s.option.isAnsi := (congrArg Control.isAnsi eq).symm
  rw [show s.lscState = c.lscState from congrArg Control.lscState eq]
  cases lsc : c.lscState with
  | alignedReady =>
      refine asks_of_eq
        (asks_then (fun c => { c with t1 := false }) (fun _ => rfl) <|
          sipoAligned_asks ansi)
        ?_
      rw [recordRemoteOutage_t1]
      simp only [Control.lscSipo, Control.lscSipoNeeds, lsc]
  | alignedNotReady =>
      exact asks_of_eq (sipoAligned_asks ansi)
        (by simp [Control.lscSipo, Control.lscSipoNeeds, lsc])
  | inService =>
      have ends : Asks { c with msuInhibited := true }.recordRemoteOutage (do
          if s.option.isAnsi then
            slTxcFsnxValue
            slCcNormal
          else
            modify fun s => { s with processorOutage := true }
          modify fun s => { s with lscState := .processorOutage }
            : SlM PUnit) [] c.lscSipo := by
        refine asks_ite (fun yes => ?_) fun no => ?_
        · exact asks_of_eq
            (asks_bind slTxcFsnxValue_asks fun _ =>
              asks_bind slCcNormal_asks fun _ =>
              asks_modify (fun c => { c with lscState := .processorOutage })
                fun _ => rfl)
            (by simp [Control.lscSipo, lsc, ansi, yes,
                  recordRemoteOutage_processorOutage])
        · exact asks_of_eq
            (asks_then (fun c => { c with processorOutage := true })
              (fun _ => rfl) <|
              asks_modify (fun c => { c with lscState := .processorOutage })
                fun _ => rfl)
            (by simp [Control.lscSipo, lsc, ansi, no])
      exact asks_of_eq
        (asks_bind slTxcSendFisu_asks fun _ => asks_bind (ind_asks _) fun _ =>
          asks_bind (recordRemoteOutage_asks ansi) fun _ => ends)
        (by simp [Control.lscSipoNeeds, lsc])
  | processorOutage =>
      refine asks_ite (fun yes => ?_) fun no => ?_
      · rw [show s.remoteProcessorOutage = c.remoteProcessorOutage from
            congrArg Control.remoteProcessorOutage eq]
        refine asks_ite (fun known => ?_) fun clear => ?_
        · have outage : c.lscSipo = c.recordRemoteOutage := by
            simp only [Control.lscSipo, lsc]
          have step : c.recordRemoteOutage =
              { c with remoteProcessorOutage := true } :=
            if_pos (ansi.trans yes)
          have none : c.lscSipoNeeds = [] := by
            simp [Control.lscSipoNeeds, lsc, ansi, yes, known]
          exact asks_of_eq (asks_pure _) (by rw [none, outage, step, ← known])
        · exact asks_of_eq
            (asks_then (fun c => { c with remoteProcessorOutage := true })
              (fun _ => rfl) <| ind_asks _)
            (by simp [Control.lscSipo, Control.lscSipoNeeds,
                  Control.recordRemoteOutage, lsc, ansi, yes, clear])
      · exact asks_of_eq
          (asks_bind (ind_asks _) fun _ => slPocRemoteProcessorOutage_asks)
          (by simp [Control.lscSipo, Control.lscSipoNeeds,
                Control.recordRemoteOutage, lsc, ansi, no])
  | _ => exact asks_of_eq (asks_pure _) (by simp [Control.lscSipo, Control.lscSipoNeeds, lsc])

end Received

section Acknowledgement

variable {c : Control}

theorem slLscRtbCleared_asks :
    Asks c slLscRtbCleared c.rtbClearedNeeds c.rtbCleared := by
  refine asks_get fun s eq => ?_
  rw [show s.lscState = c.lscState from congrArg Control.lscState eq]
  unfold Control.rtbCleared Control.rtbClearedNeeds
  refine asks_ite (fun out => ?_) fun other => ?_
  · rw [if_pos out]
    refine asks_then (fun c => { c with remoteProcessorOutage := false })
      (fun _ => rfl) ?_
    rw [show s.localProcessorOutage = c.localProcessorOutage from
      congrArg Control.localProcessorOutage eq]
    refine asks_ite (fun outage => ?_) fun ceased => ?_
    · rw [if_pos outage, if_neg (by simp [outage])]
      exact asks_pure _
    · rw [if_neg ceased,
        if_pos ⟨out, (Bool.not_eq_true _).mp ceased⟩]
      exact asks_bind (ind_asks _) fun _ => asks_bind (ind_asks _) fun _ =>
        asks_bind slTxcSendMsu_asks fun _ =>
        asks_modify (fun c => { c with lscState := .inService }) fun _ => rfl
  · rw [if_neg other, if_neg fun h => other h.1]
    exact asks_pure _

theorem slTxcRetransmissionStart_asks :
    Asks c slTxcRetransmissionStart [] c :=
  asks_past (fun _ => rfl) <| slDaedtTransmitterWakeup_asks

theorem freeAcknowledged_rest (fuel : Nat) (s s' : Sl)
    (freed : s.freeAcknowledged fuel = some s') :
    (s'.control, s'.memory) = (s.control, s.memory) := by
  induction fuel generalizing s with
  | zero => cases freed
  | succ fuel ih =>
      unfold Sl.freeAcknowledged at freed
      split at freed
      · cases freed
        rfl
      · exact ih s.freeOne freed

end Acknowledgement

section Congestion

variable {c : Control}

theorem slCcBusy_asks : Asks c slCcBusy [] c :=
  asks_get fun _ _ => asks_ite
    (fun _ => asks_bind (slTxcSendLssu_asks _) fun _ =>
      asks_quiet fun _ => rfl)
    fun _ => asks_pure _

theorem slRcCongestionDiscard_asks : Asks c slRcCongestionDiscard [] c :=
  asks_past (fun _ => rfl) <| slCcBusy_asks

theorem slRcCongestionAccept_asks : Asks c slRcCongestionAccept [] c :=
  asks_past (fun _ => rfl) <| slCcBusy_asks

theorem slRcNoCongestion_asks : Asks c slRcNoCongestion [] c :=
  asks_past (fun _ => rfl) <| asks_bind slCcNormal_asks fun _ =>
    asks_bind slTxcFsnxValue_asks fun _ => asks_get fun _ _ => asks_ite
      (fun _ => asks_bind slTxcNackToBeSent_asks fun _ =>
        asks_quiet fun _ => rfl)
      fun _ => asks_pure _

theorem slRbCongestionFunction_asks : Asks c slRbCongestionFunction [] c := by
  have accept : Asks c (do
      slRcCongestionAccept
      modify fun s => { s with l2CongestionDetect := true } : SlM PUnit) [] c :=
    asks_bind slRcCongestionAccept_asks fun _ => asks_quiet fun _ => rfl
  refine asks_get fun s _ => asks_ite (fun _ => asks_pure _) fun _ =>
    asks_ite (fun _ => ?_) fun _ => asks_ite (fun _ => ?_) fun _ =>
    asks_ite (fun _ => accept) fun _ => ?_
  · exact asks_ite
      (fun _ => asks_bind canputnextOq_asks fun _ => asks_ite
        (fun _ => asks_bind slRcNoCongestion_asks fun _ =>
          asks_quiet fun _ => rfl)
        fun _ => asks_pure _)
      fun _ => asks_pure _
  · exact asks_bind slRcCongestionDiscard_asks fun _ =>
      asks_quiet fun _ => rfl
  · exact asks_bind canputnextOq_asks fun _ => asks_ite
      (fun _ => asks_pure _) fun _ => accept

end Congestion

section Reading

/-- The buffers asked for from the state `s`. -/
abbrev AsksFrom {α : Type} (s : Sl) (m : SlM α) (needs : List Need)
    (d : Control) : Prop :=
  Triple (fun s' => s = s') m
    (fun _ t => t.control = d ∧ draw needs s.memory = some t.memory)
    (fun _ => draw needs s.memory = none)

variable {α β : Type} {s : Sl} {d e : Control} {needs more : List Need}

theorem Asks.from {m : SlM α} (asks : Asks s.control m needs d) :
    AsksFrom s m needs d :=
  triple_conseq (asks s.memory) (fun _ eq => eq ▸ ⟨rfl, rfl⟩) (fun _ _ h => h)
    fun _ h => h

theorem asksFrom_of_eq {m : SlM α} (asks : AsksFrom s m needs d)
    (eq : (needs, d) = (more, e)) : AsksFrom s m more e := by
  obtain ⟨rfl, rfl⟩ := Prod.mk.inj eq
  exact asks

theorem asksFrom_get {f : Sl → SlM β} (each : AsksFrom s (f s) needs d) :
    AsksFrom s (get >>= f) needs d :=
  triple_get_bind fun _ eq => eq ▸ each

theorem asksFrom_modify {f : Sl → Sl} {k : PUnit → SlM β}
    (same : (f s).memory = s.memory) (rest : AsksFrom (f s) (k ⟨⟩) needs d) :
    AsksFrom s (modify f >>= k) needs d := by
  refine triple_bind (R := fun _ s' => f s = s')
    (triple_modify fun _ eq => congrArg f eq) fun _ => ?_
  unfold AsksFrom at rest
  rw [same] at rest
  exact rest

theorem asksFrom_ite {p : Prop} [Decidable p] {m n : SlM α}
    (yes : p → AsksFrom s m needs d) (no : ¬ p → AsksFrom s n needs d) :
    AsksFrom s (if p then m else n) needs d :=
  triple_ite yes no

theorem asksFrom_bind {m : SlM α} {f : α → SlM β}
    (first : AsksFrom s m needs d) (second : ∀ a, Asks d (f a) more e) :
    AsksFrom s (m >>= f) (needs ++ more) e := by
  rintro _ rfl
  rw [draw_append, exec_bind]
  have middle := first s rfl
  cases ran : m.exec s with
  | mk result t =>
      rw [ran] at middle
      cases result with
      | error err =>
          show (draw needs s.memory).bind (draw more) = none
          rw [show draw needs s.memory = none from middle]
          rfl
      | ok a =>
          obtain ⟨control, left⟩ := middle
          rw [left]
          exact second a t.memory t ⟨control, rfl⟩

theorem asksFrom_after {m : SlM α} {f : α → SlM β}
    (first : AsksFrom s m needs d)
    (second : ∀ a, AsksFrom (m.after s) (f a) more e) :
    AsksFrom s (m >>= f) (needs ++ more) e := by
  rintro _ rfl
  rw [draw_append, exec_bind]
  have middle := first s rfl
  have left : m.after s = (m.exec s).2 := rfl
  cases ran : m.exec s with
  | mk result t =>
      rw [ran] at middle left
      cases result with
      | error err =>
          show (draw needs s.memory).bind (draw more) = none
          rw [show draw needs s.memory = none from middle]
          rfl
      | ok a =>
          obtain ⟨control, drawn⟩ := middle
          have last := second a
          rw [left] at last
          rw [drawn]
          exact last t rfl

end Reading

end OpenSS7.Mtp2
