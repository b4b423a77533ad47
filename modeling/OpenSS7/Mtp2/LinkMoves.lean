import OpenSS7.Mtp2.Moves

/-!
The state machines around transmission control change the view by moves
only.
-/

namespace OpenSS7.Mtp2

open Program

section Quiet

variable {J : View → Prop}

theorem slCcNormal_keeps : Keeps (fun s => J s.view) slCcNormal :=
  keeps_quiet fun _ => rfl

theorem slRcStop_keeps : Keeps (fun s => J s.view) slRcStop :=
  keeps_bind slCcNormal_keeps fun _ => keeps_quiet fun _ => rfl

theorem slIacStop_keeps : Keeps (fun s => J s.view) slIacStop :=
  keeps_bind keeps_get fun _ => keeps_ite
    (keeps_bind (keeps_quiet fun _ => rfl) fun _ =>
      keeps_bind (sdtReq_keeps _) fun _ => keeps_quiet fun _ => rfl)
    (keeps_pure _)

theorem slPocStop_keeps : Keeps (fun s => J s.view) slPocStop :=
  keeps_quiet fun _ => rfl

theorem outOfService_keeps :
    Keeps (fun s => J s.view) (modify outOfService : SlM PUnit) :=
  keeps_quiet fun _ => rfl

theorem startProving_keeps : Keeps (fun s => J s.view) startProving :=
  keeps_bind (sdtReq_keeps _) fun _ => keeps_quiet fun _ => rfl

theorem slPocRemoteProcessorOutage_keeps :
    Keeps (fun s => J s.view) slPocRemoteProcessorOutage :=
  keeps_quiet fun s => by
    split <;> rfl

theorem slPocLocalProcessorOutage_keeps :
    Keeps (fun s => J s.view) slPocLocalProcessorOutage :=
  keeps_quiet fun s => by
    split <;> rfl

theorem slTxcSibReceived_keeps : Keeps (fun s => J s.view) slTxcSibReceived :=
  keeps_quiet fun s => by
    split
    · rfl
    · split <;> rfl

theorem recordRemoteOutage_keeps (ansi : Bool) :
    Keeps (fun s => J s.view) (recordRemoteOutage ansi) :=
  keeps_ite (keeps_quiet fun _ => rfl) slPocRemoteProcessorOutage_keeps

theorem slLscSib_keeps : Keeps (fun s => J s.view) slLscSib := by
  refine keeps_bind keeps_get fun s => ?_
  split
  · exact slTxcSibReceived_keeps
  · exact slTxcSibReceived_keeps
  · exact keeps_pure _

end Quiet

variable {J : View → Prop} (closed : Closed J)

include closed

section Stopping

theorem slLscLinkFailure_keeps (reason : Nat) :
    Keeps (fun s => J s.view) (slLscLinkFailure reason) :=
  keeps_bind keeps_get fun _ => keeps_ite
    (keeps_bind (ind_keeps closed _) fun _ =>
      keeps_bind (keeps_quiet fun _ => rfl) fun _ =>
      keeps_bind slIacStop_keeps fun _ =>
      keeps_bind (keeps_quiet fun _ => rfl) fun _ =>
      keeps_bind (sdtReq_keeps _) fun _ =>
      keeps_bind slRcStop_keeps fun _ =>
      keeps_bind (slTxcSendLssu_keeps closed _) fun _ =>
      keeps_bind slPocStop_keeps fun _ => outOfService_keeps)
    (keeps_pure _)

theorem slLscStop_keeps : Keeps (fun s => J s.view) slLscStop :=
  keeps_bind keeps_get fun _ => keeps_ite
    (keeps_bind slIacStop_keeps fun _ =>
      keeps_bind (keeps_quiet fun _ => rfl) fun _ =>
      keeps_bind slRcStop_keeps fun _ =>
      keeps_bind (sdtReq_keeps _) fun _ =>
      keeps_bind slPocStop_keeps fun _ =>
      keeps_bind (slTxcSendLssu_keeps closed _) fun _ => outOfService_keeps)
    (keeps_pure _)

theorem slLscAlignmentNotPossible_keeps :
    Keeps (fun s => J s.view) slLscAlignmentNotPossible :=
  keeps_bind (ind_keeps closed _) fun _ =>
    keeps_bind (keeps_quiet fun _ => rfl) fun _ =>
    keeps_bind slRcStop_keeps fun _ =>
    keeps_bind (slTxcSendLssu_keeps closed _) fun _ =>
    keeps_quiet fun _ => rfl

theorem outOfServiceInd_keeps (reason : Nat) :
    Keeps (fun s => J s.view) (outOfServiceInd reason) :=
  keeps_bind (keeps_tryCatch (ind_keeps closed _) fun _ => keeps_pure _)
    fun _ => keeps_quiet fun _ => rfl

end Stopping

section Received

theorem slLscSio_keeps : Keeps (fun s => J s.view) slLscSio := by
  refine keeps_bind keeps_get fun s => ?_
  split
  · exact keeps_pure _
  · exact keeps_pure _
  · exact keeps_bind (keeps_quiet fun _ => rfl) fun _ =>
      keeps_bind (outOfServiceInd_keeps closed _) fun _ =>
      keeps_bind slRcStop_keeps fun _ =>
      keeps_bind (sdtReq_keeps _) fun _ =>
      keeps_bind slPocStop_keeps fun _ =>
      keeps_bind (slTxcSendLssu_keeps closed _) fun _ => outOfService_keeps

theorem alignedSend_keeps {emergency : Bool} {t : Sl → Nat}
    {t' : Sl → Nat} :
    Keeps (fun s => J s.view) (do
      if emergency then
        modify fun s => { s with t2 := false, t4v := t s }
        slTxcSendSie
      else
        modify fun s => { s with t2 := false, t4v := t' s }
        slTxcSendSin
      modify fun s => { s with t3 := true, iacState := .aligned }
        : SlM PUnit) := by
  refine keeps_ite ?_ ?_
  · exact keeps_bind (keeps_quiet fun _ => rfl) fun _ =>
      keeps_bind (slTxcSendLssu_keeps closed _) fun _ =>
      keeps_quiet fun _ => rfl
  · exact keeps_bind (keeps_quiet fun _ => rfl) fun _ =>
      keeps_bind (slTxcSendLssu_keeps closed _) fun _ =>
      keeps_quiet fun _ => rfl

theorem slIacSio_keeps : Keeps (fun s => J s.view) slIacSio := by
  refine keeps_bind keeps_get fun s => ?_
  split
  · exact alignedSend_keeps closed
  · exact keeps_bind (keeps_quiet fun _ => rfl) fun _ =>
      keeps_bind (sdtReq_keeps _) fun _ => keeps_quiet fun _ => rfl
  · exact keeps_pure _

theorem failSios_keeps : Keeps (fun s => J s.view) failSios :=
  keeps_bind (outOfServiceInd_keeps closed _) fun _ =>
    keeps_bind (sdtReq_keeps _) fun _ =>
    keeps_bind slRcStop_keeps fun _ =>
    keeps_bind slPocStop_keeps fun _ =>
    keeps_bind (slTxcSendLssu_keeps closed _) fun _ => outOfService_keeps

theorem slLscSios_keeps : Keeps (fun s => J s.view) slLscSios := by
  have stopped : Keeps (fun s => J s.view) (do
      modify fun s => { s with t1 := false }
      failSios : SlM PUnit) :=
    keeps_bind (keeps_quiet fun _ => rfl) fun _ => failSios_keeps closed
  refine keeps_bind keeps_get fun s => ?_
  split
  · exact stopped
  · exact stopped
  · exact failSios_keeps closed
  · exact failSios_keeps closed
  · exact keeps_pure _

theorem slIacSios_keeps : Keeps (fun s => J s.view) slIacSios := by
  have leaves : Keeps (fun s => J s.view) (do
      modify fun s => { s with t4 := false }
      slLscAlignmentNotPossible
      sdtReq .aermStop
      modify fun s =>
        { s with t3 := false, emergency := false, iacState := .idle }
        : SlM PUnit) :=
    keeps_bind (keeps_quiet fun _ => rfl) fun _ =>
      keeps_bind (slLscAlignmentNotPossible_keeps closed) fun _ =>
      keeps_bind (sdtReq_keeps _) fun _ => keeps_quiet fun _ => rfl
  refine keeps_bind keeps_get fun s => ?_
  split
  · exact leaves
  · exact leaves
  · exact keeps_pure _

theorem slLscSinSie_keeps (reason : Nat) :
    Keeps (fun s => J s.view) (slLscSinSie reason) := by
  refine keeps_bind keeps_get fun s => ?_
  split
  · exact keeps_bind (outOfServiceInd_keeps closed _) fun _ =>
      keeps_bind (sdtReq_keeps _) fun _ =>
      keeps_bind slRcStop_keeps fun _ =>
      keeps_bind (slTxcSendLssu_keeps closed _) fun _ =>
      keeps_quiet fun _ => rfl
  · exact keeps_bind (outOfServiceInd_keeps closed _) fun _ =>
      keeps_bind (sdtReq_keeps _) fun _ =>
      keeps_bind slRcStop_keeps fun _ =>
      keeps_bind slPocStop_keeps fun _ =>
      keeps_bind (slTxcSendLssu_keeps closed _) fun _ => outOfService_keeps
  · exact keeps_pure _

theorem slIacSin_keeps : Keeps (fun s => J s.view) slIacSin := by
  refine keeps_bind keeps_get fun s => ?_
  split
  · exact alignedSend_keeps closed
  · exact keeps_bind (keeps_quiet fun _ => rfl) fun _ => keeps_ite
      (keeps_bind (sdtReq_keeps _) fun _ => startProving_keeps)
      startProving_keeps
  · exact keeps_pure _

theorem slIacSie_keeps : Keeps (fun s => J s.view) slIacSie := by
  refine keeps_bind keeps_get fun s => ?_
  split
  · refine keeps_bind (keeps_quiet fun _ => rfl) fun _ => keeps_ite ?_ ?_
    · exact keeps_bind (slTxcSendLssu_keeps closed _) fun _ =>
        keeps_quiet fun _ => rfl
    · exact keeps_bind (slTxcSendLssu_keeps closed _) fun _ =>
        keeps_quiet fun _ => rfl
  · exact keeps_bind (keeps_quiet fun _ => rfl) fun _ =>
      keeps_bind (sdtReq_keeps _) fun _ => startProving_keeps
  · exact keeps_ite (keeps_pure _)
      (keeps_bind (keeps_quiet fun _ => rfl) fun _ =>
        keeps_bind (sdtReq_keeps _) fun _ =>
        keeps_bind (sdtReq_keeps _) fun _ =>
        keeps_bind (sdtReq_keeps _) fun _ => keeps_quiet fun _ => rfl)
  · exact keeps_pure _

theorem slLscNoProcessorOutage_keeps :
    Keeps (fun s => J s.view) slLscNoProcessorOutage :=
  keeps_bind keeps_get fun _ => keeps_ite
    (keeps_bind (keeps_quiet fun _ => rfl) fun _ => keeps_ite
      (keeps_bind (keeps_quiet fun _ => rfl) fun _ =>
        keeps_bind (slTxcSendMsu_keeps closed) fun _ =>
        keeps_quiet fun _ => rfl)
      (keeps_pure _))
    (keeps_pure _)

theorem slPocRemoteProcessorRecovered_keeps :
    Keeps (fun s => J s.view) slPocRemoteProcessorRecovered := by
  refine keeps_bind keeps_get fun s => ?_
  split
  · exact keeps_bind (slLscNoProcessorOutage_keeps closed) fun _ =>
      keeps_quiet fun _ => rfl
  · exact keeps_quiet fun _ => rfl
  · exact keeps_pure _

theorem slLscFisuMsuReceived_keeps :
    Keeps (fun s => J s.view) slLscFisuMsuReceived := by
  refine keeps_bind keeps_get fun s => ?_
  split
  · exact keeps_bind (ind_keeps closed _) fun _ =>
      keeps_bind (keeps_quiet fun _ => rfl) fun _ =>
      keeps_bind (slTxcSendMsu_keeps closed) fun _ =>
      keeps_quiet fun _ => rfl
  · exact keeps_bind (ind_keeps closed _) fun _ => keeps_quiet fun _ => rfl
  · exact keeps_ite
      (keeps_ite
        (keeps_bind (keeps_quiet fun _ => rfl) fun _ => ind_keeps closed _)
        (keeps_pure _))
      (keeps_bind (slPocRemoteProcessorRecovered_keeps closed) fun _ =>
        ind_keeps closed _)
  · exact keeps_pure _

theorem sipoAligned_keeps (ansi : Bool) :
    Keeps (fun s => J s.view) (sipoAligned ansi) :=
  keeps_bind (ind_keeps closed _) fun _ =>
    keeps_bind (recordRemoteOutage_keeps _) fun _ =>
    keeps_quiet fun _ => rfl

theorem slLscSipo_keeps : Keeps (fun s => J s.view) slLscSipo := by
  refine keeps_bind keeps_get fun s => ?_
  split
  · exact keeps_bind (keeps_quiet fun _ => rfl) fun _ =>
      sipoAligned_keeps closed _
  · exact sipoAligned_keeps closed _
  · refine keeps_bind (slTxcSendFisu_keeps closed) fun _ =>
      keeps_bind (ind_keeps closed _) fun _ =>
      keeps_bind (recordRemoteOutage_keeps _) fun _ => keeps_ite ?_ ?_
    · exact keeps_bind (slTxcFsnxValue_keeps closed) fun _ =>
        keeps_bind slCcNormal_keeps fun _ => keeps_quiet fun _ => rfl
    · exact keeps_bind (keeps_quiet fun _ => rfl) fun _ =>
        keeps_quiet fun _ => rfl
  · exact keeps_ite
      (keeps_ite (keeps_pure _)
        (keeps_bind (keeps_quiet fun _ => rfl) fun _ => ind_keeps closed _))
      (keeps_bind (ind_keeps closed _) fun _ =>
        slPocRemoteProcessorOutage_keeps)
  · exact keeps_pure _

theorem slRcLssu_keeps (status : Lssu) :
    Keeps (fun s => J s.view) (slRcLssu status) := by
  cases status with
  | sio =>
      exact keeps_bind (slLscSio_keeps closed) fun _ => slIacSio_keeps closed
  | sin =>
      exact keeps_bind (slLscSinSie_keeps closed _) fun _ =>
        slIacSin_keeps closed
  | sie =>
      exact keeps_bind (slLscSinSie_keeps closed _) fun _ =>
        slIacSie_keeps closed
  | sios =>
      exact keeps_bind (slLscSios_keeps closed) fun _ =>
        slIacSios_keeps closed
  | sipo => exact slLscSipo_keeps closed
  | sib => exact slLscSib_keeps
  | unassigned => exact keeps_pure _

end Received

section Congestion

theorem slCcBusy_keeps : Keeps (fun s => J s.view) slCcBusy :=
  keeps_bind keeps_get fun _ => keeps_ite
    (keeps_bind (slTxcSendLssu_keeps closed _) fun _ =>
      keeps_quiet fun _ => rfl)
    (keeps_pure _)

theorem slRcCongestionDiscard_keeps :
    Keeps (fun s => J s.view) slRcCongestionDiscard :=
  keeps_bind (keeps_quiet fun _ => rfl) fun _ => slCcBusy_keeps closed

theorem slRcCongestionAccept_keeps :
    Keeps (fun s => J s.view) slRcCongestionAccept :=
  keeps_bind (keeps_quiet fun _ => rfl) fun _ => slCcBusy_keeps closed

theorem slRcNoCongestion_keeps :
    Keeps (fun s => J s.view) slRcNoCongestion :=
  keeps_bind (keeps_quiet fun _ => rfl) fun _ =>
    keeps_bind slCcNormal_keeps fun _ =>
    keeps_bind (slTxcFsnxValue_keeps closed) fun _ =>
    keeps_bind keeps_get fun _ => keeps_ite
      (keeps_bind (slTxcNackToBeSent_keeps closed) fun _ =>
        keeps_quiet fun _ => rfl)
      (keeps_pure _)

theorem slLscCongestionDiscard_keeps :
    Keeps (fun s => J s.view) slLscCongestionDiscard :=
  keeps_bind (slRcCongestionDiscard_keeps closed) fun _ =>
    keeps_quiet fun _ => rfl

theorem slLscCongestionAccept_keeps :
    Keeps (fun s => J s.view) slLscCongestionAccept :=
  keeps_bind (slRcCongestionAccept_keeps closed) fun _ =>
    keeps_quiet fun _ => rfl

theorem slLscNoCongestion_keeps :
    Keeps (fun s => J s.view) slLscNoCongestion :=
  keeps_bind (slRcNoCongestion_keeps closed) fun _ =>
    keeps_quiet fun _ => rfl

theorem slRbCongestionFunction_keeps :
    Keeps (fun s => J s.view) slRbCongestionFunction := by
  have discard : Keeps (fun s => J s.view) (do
      slRcCongestionDiscard
      modify fun s => { s with l2CongestionDetect := true } : SlM PUnit) :=
    keeps_bind (slRcCongestionDiscard_keeps closed) fun _ =>
      keeps_quiet fun _ => rfl
  have accept : Keeps (fun s => J s.view) (do
      slRcCongestionAccept
      modify fun s => { s with l2CongestionDetect := true } : SlM PUnit) :=
    keeps_bind (slRcCongestionAccept_keeps closed) fun _ =>
      keeps_quiet fun _ => rfl
  refine keeps_bind keeps_get fun s => keeps_ite (keeps_pure _)
    (keeps_ite (keeps_ite ?_ (keeps_pure _))
      (keeps_ite discard (keeps_ite accept ?_)))
  · exact keeps_bind canputnextOq_keeps fun _ => keeps_ite
      (keeps_bind (slRcNoCongestion_keeps closed) fun _ =>
        keeps_quiet fun _ => rfl)
      (keeps_pure _)
  · exact keeps_bind canputnextOq_keeps fun _ =>
      keeps_ite (keeps_pure _) accept

end Congestion

section Timers

theorem slLscAlignmentComplete_keeps :
    Keeps (fun s => J s.view) slLscAlignmentComplete := by
  have notReady : Keeps (fun s => J s.view) (do
      slTxcSendSipo
      modify fun s =>
        { s with
          t1 := true
          msuFisuAccepted :=
            if s.option.pvar ≠ SS7_PVAR_ITUT_93 then false
            else s.msuFisuAccepted
          lscState := .alignedNotReady } : SlM PUnit) :=
    keeps_bind (slTxcSendLssu_keeps closed _) fun _ =>
      keeps_quiet fun _ => rfl
  refine keeps_bind keeps_get fun s => keeps_ite
    (keeps_bind (sdtReq_keeps _) fun _ => keeps_ite (keeps_ite ?_ ?_) ?_)
    (keeps_pure _)
  · exact keeps_bind slPocLocalProcessorOutage_keeps fun _ => notReady
  · exact notReady
  · exact keeps_bind (slTxcSendMsu_keeps closed) fun _ =>
      keeps_quiet fun _ => rfl

theorem slT1Timeout_keeps : Keeps (fun s => J s.view) slT1Timeout :=
  keeps_bind (ind_keeps closed _) fun _ =>
    keeps_bind (keeps_quiet fun _ => rfl) fun _ =>
    keeps_bind slRcStop_keeps fun _ =>
    keeps_bind (sdtReq_keeps _) fun _ =>
    keeps_bind (slTxcSendLssu_keeps closed _) fun _ =>
    keeps_bind (keeps_quiet fun _ => rfl) fun _ =>
    keeps_bind (keeps_quiet fun s => by split <;> rfl) fun _ =>
    keeps_quiet fun _ => rfl

theorem alignmentTimeout_keeps (state : IacState) :
    Keeps (fun s => J s.view) (alignmentTimeout state) :=
  keeps_bind keeps_get fun _ => keeps_ite
    (keeps_bind (slLscAlignmentNotPossible_keeps closed) fun _ =>
      keeps_quiet fun _ => rfl)
    (keeps_pure _)

theorem slT4Timeout_keeps : Keeps (fun s => J s.view) slT4Timeout :=
  keeps_bind keeps_get fun _ => keeps_ite
    (keeps_ite
      (keeps_bind (sdtReq_keeps _) fun _ => keeps_quiet fun _ => rfl)
      (keeps_bind (slLscAlignmentComplete_keeps closed) fun _ =>
        keeps_bind (sdtReq_keeps _) fun _ => keeps_quiet fun _ => rfl))
    (keeps_pure _)

theorem slT5Timeout_keeps : Keeps (fun s => J s.view) slT5Timeout :=
  keeps_bind keeps_get fun _ =>
    keeps_ite (slTxcSendLssu_keeps closed _) (keeps_pure _)

theorem slT6Timeout_keeps : Keeps (fun s => J s.view) slT6Timeout :=
  keeps_bind (slLscLinkFailure_keeps closed _) fun _ =>
    keeps_quiet fun _ => rfl

theorem slT7Timeout_keeps : Keeps (fun s => J s.view) slT7Timeout :=
  keeps_bind (slLscLinkFailure_keeps closed _) fun _ =>
    keeps_quiet fun _ => rfl

end Timers

section Delivery

omit closed

theorem slRxDeliver_keeps (fuel : Nat) :
    Keeps (fun s => J s.view) (slRxDeliver fuel) := by
  induction fuel with
  | zero => exact keeps_pure _
  | succ fuel ih =>
      exact keeps_bind keeps_get fun _ =>
        keeps_bind (keeps_quiet fun _ => rfl) fun _ =>
        keeps_ite (keeps_pure _)
          (keeps_bind canputnextOq_keeps fun _ => keeps_ite ih (keeps_pure _))

theorem slRxWakeup_keeps : Keeps (fun s => J s.view) slRxWakeup := by
  refine keeps_bind keeps_get fun s => keeps_ite (keeps_pure _)
    (keeps_bind canputnextOq_keeps fun _ => keeps_ite ?_ (keeps_pure _))
  split
  · exact keeps_quiet fun _ => rfl
  · exact keeps_quiet fun _ => rfl
  · exact keeps_quiet fun _ => rfl
  · exact keeps_ite (keeps_pure _) (slRxDeliver_keeps _)
  · exact slRxDeliver_keeps _
  · exact keeps_pure _

end Delivery

end OpenSS7.Mtp2
