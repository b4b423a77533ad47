import OpenSS7.Mtp2.Needs
import OpenSS7.Mtp2.Congestion

/-!
What is left as it was when a buffer is refused: the window, the status and
the message itself when a message is submitted, and the read pointer of a
received unit.
-/

namespace OpenSS7.Mtp2

open Program

section Acknowledgement

def Sl.congestionNeeds (s : Sl) : List Need :=
  if congestion s.config s.option.mplev
      (s.env.iqCount + qCount s.tb + qCount s.rtb) s.congStatus s.discStatus =
      (s.congStatus, s.discStatus) then []
  else [.ind]

def Sl.freed (s : Sl) : Sl :=
  (s.freeAcknowledged (s.snMask + 1)).elim s
    fun s => { s with sibReceived := false }

def Sl.acknowledging (s : Sl) : Sl :=
  { s with txRBsn := s.rxRBsn, txRBib := s.rxRBib }

def Sl.acknowledgeNeeds (s : Sl) : List Need :=
  if s.clearRtb then
    { s.acknowledging with rtb := [], Ct := 0 }.congestionNeeds ++
      s.control.rtbClearedNeeds
  else if s.txFFsn ≠ s.succ s.rxRBsn then
    s.acknowledging.freed.congestionNeeds
  else []

theorem slCheckCongestion_asks (s : Sl) :
    AsksFrom s slCheckCongestion s.congestionNeeds s.control := by
  unfold Sl.congestionNeeds
  refine asksFrom_get ?_
  generalize congestion s.config s.option.mplev
    (s.env.iqCount + qCount s.tb + qCount s.rtb) s.congStatus s.discStatus
    = status
  obtain ⟨cong, disc⟩ := status
  refine asksFrom_modify (f := fun s =>
    { s with congStatus := cong, discStatus := disc }) rfl ?_
  have told : (cong, disc) = (s.congStatus, s.discStatus) ↔
      ¬ (cong ≠ s.congStatus ∨ disc ≠ s.discStatus) := by
    rw [Prod.mk.injEq, not_or, not_not, not_not]
  refine asksFrom_ite (fun changed => ?_) fun same => ?_
  · have needs : (if (cong, disc) = (s.congStatus, s.discStatus) then []
        else [Need.ind]) = [.ind] := if_neg fun h => told.mp h changed
    rw [needs]
    exact asksFrom_ite (fun _ => (ind_asks _).from) fun _ => (ind_asks _).from
  · have needs : (if (cong, disc) = (s.congStatus, s.discStatus) then []
        else [Need.ind]) = [] := if_pos (told.mpr same)
    rw [needs]
    exact (asks_pure _).from

theorem slTxcRtbCleared_asks (s : Sl) :
    AsksFrom s slTxcRtbCleared
      ({ s with rtb := [], Ct := 0 }.congestionNeeds ++
        s.control.rtbClearedNeeds)
      { s.control.rtbCleared with clearRtb := false } := by
  refine asksFrom_modify (f := fun s => { s with rtb := [], Ct := 0 }) rfl ?_
  refine asksFrom_of_eq (asksFrom_bind (slCheckCongestion_asks _) fun _ =>
    asks_past (fun _ => rfl) <| asks_bind slLscRtbCleared_asks fun _ =>
    asks_modify (fun c => { c with clearRtb := false }) fun _ => rfl) ?_
  rw [List.append_nil]
  rfl

theorem slTxcRtbFreed_asks (s : Sl) :
    AsksFrom s slTxcRtbFreed s.congestionNeeds s.control := by
  refine asksFrom_of_eq (asksFrom_bind (slCheckCongestion_asks s) fun _ =>
    asks_bind slDaedtTransmitterWakeup_asks fun _ =>
    asks_past (fun t => ?_) <| asks_quiet fun t => ?_) ?_
  · split <;> rfl
  · split <;> rfl
  · simp only [List.append_nil]

theorem Sl.freed_rest (s : Sl) :
    (s.freed.control, s.freed.memory) = (s.control, s.memory) := by
  unfold Sl.freed
  cases freed : s.freeAcknowledged (s.snMask + 1) with
  | none => rfl
  | some s' => exact freeAcknowledged_rest _ s s' freed

theorem slTxcBsnrAndBibr_asks (s : Sl) :
    AsksFrom s slTxcBsnrAndBibr s.acknowledgeNeeds s.control.bsnrAndBibr := by
  refine asksFrom_modify (f := Sl.acknowledging) rfl <| asksFrom_get ?_
  unfold Sl.acknowledgeNeeds Control.bsnrAndBibr
  refine asksFrom_ite (fun cleared => ?_) fun kept => ?_
  · rw [if_pos (show s.clearRtb = true from cleared),
      if_pos (show s.control.clearRtb = true from cleared)]
    exact slTxcRtbCleared_asks s.acknowledging
  · rw [if_neg (show ¬ s.clearRtb = true from kept),
      if_neg (show ¬ s.control.clearRtb = true from kept)]
    have finish : Asks s.control (do
        let s ← get
        if !s.option.pcr && decide (s.txNFib ≠ s.txRBib) then
          slTxcRetransmissionStart : SlM PUnit) [] s.control :=
      asks_get fun _ _ => asks_ite (fun _ => slTxcRetransmissionStart_asks)
        fun _ => asks_pure _
    refine asksFrom_ite (fun frees => ?_) fun none => ?_
    · rw [if_pos (show s.txFFsn ≠ s.succ s.rxRBsn from frees)]
      obtain ⟨control, memory⟩ := Prod.mk.inj s.acknowledging.freed_rest
      refine asksFrom_modify (f := fun s =>
        (s.freeAcknowledged (s.snMask + 1)).elim s
          fun s => { s with sibReceived := false }) memory ?_
      refine asksFrom_of_eq (asksFrom_bind (slTxcRtbFreed_asks
        s.acknowledging.freed) fun _ => control ▸ finish) ?_
      rw [List.append_nil, control]
      rfl
    · rw [if_neg (show ¬ s.txFFsn ≠ s.succ s.rxRBsn from none)]
      exact Asks.from (s := s.acknowledging) finish

theorem acknowledge_asks (s : Sl) :
    AsksFrom s acknowledge s.acknowledgeNeeds s.control.bsnrAndBibr :=
  asksFrom_of_eq (asksFrom_bind (slTxcBsnrAndBibr_asks s) fun _ =>
    asks_quiet fun _ => rfl) (by rw [List.append_nil])

end Acknowledgement

section Reception

def Sl.takenNeeds (s : Sl) : List Need :=
  s.control.fisuMsuReceivedNeeds ++
    (slLscFisuMsuReceived.after s).acknowledgeNeeds

def Sl.basicNeeds (s : Sl) : List Need :=
  if s.rxRFib = s.rxXFib then
    if s.abnormalFibr && !s.unf then []
    else { s with abnormalFibr := false }.takenNeeds
  else if s.abnormalFibr then s.control.linkFailureNeeds
  else if s.rtr then s.acknowledgeNeeds
  else []

def Sl.fisuMsuNeeds (s : Sl) : List Need :=
  if SN_OUTSIDE (s.pred s.rxFFsn) s.rxRBsn s.rxTFsn then
    if s.abnormalBsnr then s.control.linkFailureNeeds else []
  else if s.abnormalBsnr && !s.unb then []
  else if s.option.pcr then { s with abnormalBsnr := false }.takenNeeds
  else { s with abnormalBsnr := false }.basicNeeds

def Sl.signalUnitNeeds (s : Sl) (octets : List UInt8) : List Need :=
  if s.rcState = .inService then
    if (s.decode octets).rxLen = 1 ∨ (s.decode octets).rxLen = 2 then
      s.control.statusNeeds (s.decode octets).rxSio
    else (s.decode octets).fisuMsuNeeds
  else []

variable {c : Control} {s : Sl}

theorem acceptMsu_asks (octets : List UInt8) :
    Asks c (acceptMsu octets) [] c :=
  asks_past (fun _ => rfl) <| asks_get fun _ _ =>
    asks_ite (fun _ => slCcBusy_asks) fun _ => slTxcFsnxValue_asks

def Sl.Asked (s : Sl) (m : SlM Unit) (needs : List Need) : Prop :=
  ∃ d, AsksFrom s m needs d

theorem taken_asked {rest : SlM Unit}
    (quiet : ∀ c, Asks c rest [] c) (s : Sl) :
    s.Asked (do
      slLscFisuMsuReceived
      acknowledge
      rest) s.takenNeeds := by
  have asks := asksFrom_after (s := s) slLscFisuMsuReceived_asks.from fun _ =>
    asksFrom_bind (acknowledge_asks _) fun _ => quiet _
  rw [List.append_nil] at asks
  exact ⟨_, asks⟩

theorem slRcPcr_asked (octets : List UInt8) (s : Sl) :
    s.Asked (slRcPcr octets) s.takenNeeds := by
  refine taken_asked (fun _ => ?_) s
  refine asks_get fun _ _ => asks_ite (fun _ => ?_) fun _ => asks_pure _
  refine asks_bind slRbCongestionFunction_asks fun _ => ?_
  exact asks_get fun _ _ => asks_ite (fun _ => slCcBusy_asks) fun _ =>
    asks_ite (fun _ => acceptMsu_asks octets) fun _ => asks_pure _

theorem slRcBasicInSequence_asked (octets : List UInt8) (s : Sl) :
    s.Asked (slRcBasicInSequence octets) s.takenNeeds := by
  refine taken_asked (fun _ => ?_) s
  refine asks_get fun _ _ => asks_ite (fun _ => ?_) fun _ => asks_pure _
  suffices quiet : Asks _ _ ([] ++ []) _ from quiet
  refine asks_bind slRbCongestionFunction_asks fun _ => ?_
  refine asks_get fun _ _ => asks_ite
    (fun _ => asks_past (fun _ => rfl) slCcBusy_asks) fun _ => ?_
  refine asks_ite (fun _ => asks_past (fun _ => rfl) (acceptMsu_asks octets))
    fun _ => asks_ite (fun _ => asks_pure _) fun _ => ?_
  refine asks_ite (fun _ => asks_past (fun _ => rfl) slCcBusy_asks) fun _ => ?_
  exact asks_bind slTxcNackToBeSent_asks fun _ => asks_quiet fun _ => rfl

theorem slRcLssu_asks (status : Lssu) :
    Asks c (slRcLssu status) (c.statusNeeds status) (c.status status) := by
  cases status with
  | sio => exact asks_bind slLscSio_asks fun _ => slIacSio_asks
  | sin => exact asks_bind (slLscSinSie_asks _) fun _ => slIacSin_asks
  | sie => exact asks_bind (slLscSinSie_asks _) fun _ => slIacSie_asks
  | sios => exact asks_bind slLscSios_asks fun _ => slIacSios_asks
  | sipo => exact slLscSipo_asks
  | sib => exact slLscSib_asks
  | unassigned => exact asks_pure _

theorem asked_get {f : Sl → SlM Unit} {needs : List Need}
    (each : s.Asked (f s) needs) : s.Asked (get >>= f) needs :=
  each.imp fun _ asks => asksFrom_get asks

theorem asked_ite {p : Prop} [Decidable p] {m n : SlM Unit}
    {needs more : List Need} (yes : p → s.Asked m needs)
    (no : ¬ p → s.Asked n more) :
    s.Asked (if p then m else n) (if p then needs else more) := by
  by_cases h : p
  · rw [if_pos h, if_pos h]
    exact yes h
  · rw [if_neg h, if_neg h]
    exact no h

theorem asked_of {m : SlM Unit} {needs : List Need} {d : Control}
    (asks : Asks s.control m needs d) : s.Asked m needs :=
  ⟨d, asks.from⟩

theorem asked_modify {f : Sl → Sl} {k : PUnit → SlM Unit}
    {needs : List Need} (same : (f s).memory = s.memory)
    (rest : (f s).Asked (k ⟨⟩) needs) : s.Asked (modify f >>= k) needs :=
  rest.imp fun _ asks => asksFrom_modify same asks

theorem slRcBasic_asked (octets : List UInt8) (s : Sl) :
    s.Asked (slRcBasic octets) s.basicNeeds := by
  refine asked_get <| asked_ite (fun _ => asked_ite (fun _ => ?_) fun _ => ?_)
    fun _ => asked_ite (fun _ => ?_) fun _ => asked_ite (fun _ => ?_) fun _ => ?_
  · exact asked_of (asks_quiet fun _ => rfl)
  · exact asked_modify rfl (slRcBasicInSequence_asked octets _)
  · exact asked_of (slLscLinkFailure_asks _)
  · exact ⟨_, acknowledge_asks s⟩
  · exact asked_of (asks_quiet fun _ => rfl)

theorem slRcFisuMsu_asked (octets : List UInt8) (s : Sl) :
    s.Asked (slRcFisuMsu octets) s.fisuMsuNeeds := by
  refine asked_get <| asked_ite (fun _ => asked_ite (fun _ => ?_) fun _ => ?_)
    fun _ => asked_ite (fun _ => ?_) fun _ => asked_modify rfl <|
      asked_ite (fun _ => ?_) fun _ => ?_
  · exact asked_of (asks_of_eq (asks_bind (slLscLinkFailure_asks _) fun _ =>
      asks_modify Control.rcStop fun _ => rfl) (by rw [List.append_nil]))
  · exact asked_of (asks_quiet fun _ => rfl)
  · exact asked_of (asks_quiet fun _ => rfl)
  · exact slRcPcr_asked octets _
  · exact slRcBasic_asked octets { s with abnormalBsnr := false }

theorem slRcSignalUnit_asked (octets : List UInt8) (s : Sl) :
    s.Asked (slRcSignalUnit octets) (s.signalUnitNeeds octets) := by
  refine asked_get <| asked_ite (fun _ => asked_modify rfl <| asked_get <|
    asked_ite (fun _ => ?_) fun _ => ?_) fun _ => ?_
  · exact asked_of (s := s.decode octets) (slRcLssu_asks _)
  · exact slRcFisuMsu_asked _ _
  · exact asked_of (asks_pure _)

structure Received where
  sl : Sl
  rptr : Nat

/-- `sl_rc_signal_unit` with the read pointer of the message, which reading
the header and the status field moves on. -/
def slRcSignalUnitAt (octets : List UInt8) : Program Received SlError Unit := do
  let s ← get
  if s.sl.rcState = .inService then
    let header := (slRcDecode s.sl.option.xsn octets).rptr
    modify fun s => { sl := s.sl.decode octets, rptr := s.rptr + header }
    let s ← get
    if s.sl.rxLen = 1 ∨ s.sl.rxLen = 2 then
      modify fun s => { s with rptr := s.rptr + s.sl.rxLen }
      focus Received.sl (fun t s => { s with sl := t }) (slRcLssu s.sl.rxSio)
    else
      focus Received.sl (fun t s => { s with sl := t })
        (slRcFisuMsu (octets.drop header))
  else
    pure ()

def Sl.reads (s : Sl) (octets : List UInt8) : Nat :=
  if s.rcState = .inService then
    (slRcDecode s.option.xsn octets).rptr +
      if (s.decode octets).rxLen = 1 ∨ (s.decode octets).rxLen = 2 then
        (s.decode octets).rxLen
      else 0
  else 0

theorem slRcSignalUnitAt_exec (octets : List UInt8) (s : Sl) (rptr : Nat) :
    (slRcSignalUnitAt octets).exec ⟨s, rptr⟩ =
      (((slRcSignalUnit octets).exec s).1,
        ⟨((slRcSignalUnit octets).exec s).2, rptr + s.reads octets⟩) := by
  unfold Sl.reads
  show ((if s.rcState = .inService then _ else pure () :
    Program Received SlError Unit)).exec ⟨s, rptr⟩ =
      ((((if s.rcState = .inService then _ else pure () : SlM Unit)).exec s).1,
        ⟨(((if s.rcState = .inService then _ else pure () : SlM Unit)).exec s).2,
          _⟩)
  split
  · show ((if (s.decode octets).rxLen = 1 ∨ (s.decode octets).rxLen = 2 then _
      else _ : Program Received SlError Unit)).exec
        ⟨s.decode octets, rptr + _⟩ =
      ((((if (s.decode octets).rxLen = 1 ∨ (s.decode octets).rxLen = 2 then _
        else _ : SlM Unit)).exec (s.decode octets)).1,
        ⟨(((if (s.decode octets).rxLen = 1 ∨ (s.decode octets).rxLen = 2 then _
          else _ : SlM Unit)).exec (s.decode octets)).2, _⟩)
    split
    · show (focus Received.sl (fun t s => { s with sl := t })
        (slRcLssu (s.decode octets).rxSio)).exec
          ⟨s.decode octets, rptr + _ + (s.decode octets).rxLen⟩ = _
      rw [exec_focus, Nat.add_assoc]
    · rw [exec_focus]
      rfl
  · rfl

theorem Sl.reads_pos {s : Sl} (serves : s.rcState = .inService)
    (octets : List UInt8) : 0 < s.reads octets := by
  unfold Sl.reads slRcDecode
  rw [if_pos serves]
  split <;> exact Nat.lt_of_lt_of_le (by decide) (Nat.le_add_right 3 _)

end Reception

section Submission

structure Mblk where
  room : List UInt8
  octets : List UInt8
deriving DecidableEq

def Mblk.prepend (mp : Mblk) (header : List UInt8) : Mblk where
  room := mp.room.take (mp.room.length - header.length)
  octets := header ++ mp.octets

structure Submitted where
  sl : Sl
  mp : Mblk

/-- `sl_lsc_pdu` with the message it is given; `id` is the block that goes on
`tb`, that of the message or one for the header. -/
def slLscPduAt (id priority : Nat) : Program Submitted SlError Unit := do
  let s ← get
  let m : Msu :=
    { id := id
      hdr := s.sl.option.blankHeader priority
      sdu := s.mp.octets
      idx := s.sl.submitted.length
      fsn := 0 }
  if s.sl.option.hlen ≤ s.mp.room.length then
    modify fun s =>
      { s with mp := s.mp.prepend (s.sl.option.blankHeader priority) }
    focus Submitted.sl (fun t s => { s with sl := t })
      (slTxcMessageForTransmission m)
  else
    if ← focus Submitted.sl (fun t s => { s with sl := t }) suAlloc then
      focus Submitted.sl (fun t s => { s with sl := t })
        (slTxcMessageForTransmission m)
    else
      throw .ENOBUFS

def Submitted.headed (s : Submitted) (priority : Nat) : Mblk :=
  if s.sl.option.hlen ≤ s.mp.room.length then
    s.mp.prepend (s.sl.option.blankHeader priority)
  else s.mp

theorem slLscPduAt_exec (id priority : Nat) (s : Submitted) :
    (slLscPduAt id priority).exec s =
      (((slLscPdu id s.mp.octets priority
          (decide (s.sl.option.hlen ≤ s.mp.room.length))).exec s.sl).1,
        ⟨((slLscPdu id s.mp.octets priority
          (decide (s.sl.option.hlen ≤ s.mp.room.length))).exec s.sl).2,
          s.headed priority⟩) := by
  unfold Submitted.headed
  show ((if s.sl.option.hlen ≤ s.mp.room.length then _ else _ :
    Program Submitted SlError Unit)).exec s =
      ((((if decide (s.sl.option.hlen ≤ s.mp.room.length) = true then _ else _ :
        SlM Unit)).exec s.sl).1,
      ⟨(((if decide (s.sl.option.hlen ≤ s.mp.room.length) = true then _ else _ :
        SlM Unit)).exec s.sl).2, _⟩)
  simp only [decide_eq_true_eq]
  split
  · rw [exec_bind]
    exact exec_focus _ _ _ _
  · rw [exec_bind, exec_focus]
    show ((if s.sl.env.suMem.headD true = true then _ else _ :
      Program Submitted SlError Unit)).exec _ =
        ((((if s.sl.env.suMem.headD true = true then _ else _ :
          SlM Unit)).exec _).1,
        ⟨(((if s.sl.env.suMem.headD true = true then _ else _ :
          SlM Unit)).exec _).2, _⟩)
    split
    · rw [exec_focus]
      rfl
    · rfl

/-- The message is on `tb`, and counted. -/
def Sl.queued (s : Sl) (m : Msu) : Sl :=
  { s with
    tb := s.tb ++ [m]
    Cm := s.Cm + 1
    submitted := s.submitted ++ [m.sdu] }

theorem slCheckCongestion_refused (s : Sl) :
    Triple (fun t => s = t) slCheckCongestion
      (fun _ _ => draw s.congestionNeeds s.memory ≠ none)
      (fun t => draw s.congestionNeeds s.memory = none ∧
        t.status ≠ s.status) := by
  rintro _ rfl
  have asks := slCheckCongestion_asks s s rfl
  have settled := (slCheckCongestion_settled s).status
  have left : slCheckCongestion.after s = (slCheckCongestion.exec s).2 := rfl
  cases ran : slCheckCongestion.exec s with
  | mk result t =>
      rw [ran] at asks left
      cases result with
      | ok a =>
          intro refused
          rw [show draw s.congestionNeeds s.memory = some t.memory from
            asks.2] at refused
          cases refused
      | error e =>
          have refused : draw s.congestionNeeds s.memory = none := asks
          refine ⟨refused, fun same => ?_⟩
          rw [left] at settled
          have none : s.congestionNeeds = [] := by
            unfold Sl.congestionNeeds
            rw [← settled]
            exact if_pos same
          rw [none] at refused
          cases refused

theorem slTxcMessageForTransmission_refused (m : Msu) (s : Sl) :
    Triple (fun t => s = t) (slTxcMessageForTransmission m)
      (fun _ _ => draw (s.queued m).congestionNeeds s.memory ≠ none)
      (fun t => draw (s.queued m).congestionNeeds s.memory = none ∧
        t.status ≠ s.status) := by
  refine triple_bind (R := fun _ t => s.queued m = t) (triple_modify ?_)
    fun _ => triple_bind (R := fun _ _ =>
      draw (s.queued m).congestionNeeds s.memory ≠ none)
      (triple_tryCatch (slCheckCongestion_refused (s.queued m))
        fun e => triple_bind (R := fun _ (t : Sl) =>
          draw (s.queued m).congestionNeeds s.memory = none ∧
            t.status ≠ s.status)
          (triple_modify fun _ h => h) fun _ => triple_throw fun _ h => h)
      fun _ => ?_
  · rintro _ rfl
    rfl
  · intro t granted
    have woken := slDaedtTransmitterWakeup_asks t.memory t ⟨rfl, rfl⟩
    cases ran : slDaedtTransmitterWakeup.exec t with
    | mk result u =>
        rw [ran] at woken
        cases result with
        | ok a => exact granted
        | error e => exact absurd woken (Option.some_ne_none _)

def Sl.StaysAt (s : Sl) (size : Nat) : Prop :=
  congestion s.config s.option.mplev
    (s.env.iqCount + (qCount s.tb + size) + qCount s.rtb) s.congStatus
    s.discStatus = s.status

theorem draw_queued (m : Msu) (s : Sl) :
    draw (s.queued m).congestionNeeds s.memory ≠ none ↔
      s.StaysAt m.size ∨ s.env.indMem.headD true = true := by
  have size : qCount (s.tb ++ [m]) = qCount s.tb + m.size := by
    simp [qCount]
  unfold Sl.congestionNeeds Sl.StaysAt
  show draw (if congestion s.config s.option.mplev (s.env.iqCount +
    qCount (s.tb ++ [m]) + qCount s.rtb) s.congStatus s.discStatus =
      s.status then [] else [.ind]) s.memory ≠ none ↔ _
  rw [size]
  split
  case isTrue stays => simp [draw, stays]
  case isFalse moves =>
      simp only [moves, false_or]
      show (if s.env.indMem.headD true = true then
        some (s.env.indMem.tail, s.env.reqMem) else none).bind some ≠ none ↔ _
      split
      case isTrue granted =>
          exact ⟨fun _ => granted, fun _ => Option.some_ne_none _⟩
      case isFalse refused =>
          exact ⟨fun h => absurd rfl h, fun h => absurd h refused⟩

theorem blankHeader_length (option : Options) (priority : Nat) :
    (option.blankHeader priority).length = option.hlen := by
  unfold Options.blankHeader Options.hlen
  split <;> rfl

/-- The message as it goes on `tb`. -/
def Sl.message (s : Sl) (id : Nat) (sdu : List UInt8) (priority : Nat) : Msu where
  id := id
  hdr := s.option.blankHeader priority
  sdu := sdu
  idx := s.submitted.length
  fsn := 0

def Sl.headerAsked (s : Sl) : Sl :=
  { s with env := { s.env with suMem := s.env.suMem.tail } }

theorem slLscPdu_exec (id : Nat) (sdu : List UInt8) (priority : Nat)
    (headroom : Bool) (s : Sl) :
    (slLscPdu id sdu priority headroom).exec s =
      if headroom then
        (slTxcMessageForTransmission (s.message id sdu priority)).exec s
      else if s.env.suMem.headD true then
        (slTxcMessageForTransmission (s.message id sdu priority)).exec
          s.headerAsked
      else (.error .ENOBUFS, s.headerAsked) := by
  cases headroom with
  | true => rfl
  | false =>
      show ((if s.env.suMem.headD true = true then
        slTxcMessageForTransmission (s.message id sdu priority)
        else throw SlError.ENOBUFS : SlM Unit)).exec s.headerAsked = _
      rw [if_neg Bool.false_ne_true]
      split <;> rfl

structure Submitted.Kept (s t : Submitted) : Prop where
  tb : t.sl.tb = s.sl.tb
  Cm : t.sl.Cm = s.sl.Cm
  status : t.sl.status = s.sl.status
  mp : t.mp = s.mp

def Submitted.Headless (s : Submitted) : Prop :=
  s.mp.room.length < s.sl.option.hlen ∧ s.sl.env.suMem.headD true = false

theorem transmission_kept_iff {s : Submitted} {sl : Sl} {m : Msu} {mp : Mblk}
    (memory : sl.memory = s.sl.memory)
    (queued : (sl.queued m).congestionNeeds = (s.sl.queued m).congestionNeeds)
    (status : sl.status = s.sl.status) :
    (∀ e t, (((slTxcMessageForTransmission m).exec sl).1,
        (⟨((slTxcMessageForTransmission m).exec sl).2, mp⟩ : Submitted)) =
          (.error e, t) → s.Kept t) ↔
      s.sl.StaysAt m.size ∨ s.sl.env.indMem.headD true = true := by
  rw [← draw_queued]
  have refused := slTxcMessageForTransmission_refused m sl sl rfl
  rw [memory, queued, status] at refused
  cases ran : (slTxcMessageForTransmission m).exec sl with
  | mk result u =>
      rw [ran] at refused
      cases result with
      | ok a => exact ⟨fun _ => refused, fun _ _ _ failed => nomatch failed⟩
      | error e =>
          refine ⟨fun kept => absurd (kept e _ rfl).status refused.2,
            fun granted => absurd refused.1 granted⟩

theorem submission_kept_iff (id priority : Nat) (s : Submitted) :
    (∀ e t, (slLscPduAt id priority).exec s = (.error e, t) → s.Kept t) ↔
      s.Headless ∨
        s.sl.StaysAt (s.sl.option.hlen + s.mp.octets.length) ∨
        s.sl.env.indMem.headD true = true := by
  have size : (s.sl.message id s.mp.octets priority).size =
      s.sl.option.hlen + s.mp.octets.length := by
    show (s.sl.option.blankHeader priority).length + s.mp.octets.length = _
    rw [blankHeader_length]
  unfold Submitted.Headless
  simp only [slLscPduAt_exec, slLscPdu_exec, decide_eq_true_eq]
  rw [← size]
  by_cases headroom : s.sl.option.hlen ≤ s.mp.room.length
  · simp only [if_pos headroom]
    rw [transmission_kept_iff rfl rfl rfl]
    simp only [Nat.not_lt.mpr headroom, false_and, false_or]
  · simp only [if_neg headroom]
    by_cases granted : s.sl.env.suMem.headD true = true
    · simp only [if_pos granted]
      rw [@transmission_kept_iff s s.sl.headerAsked _ _ rfl rfl rfl]
      simp only [granted, Bool.true_eq_false, and_false, false_or]
    · simp only [if_neg granted]
      refine ⟨fun _ => .inl ⟨Nat.not_le.mp headroom,
        (Bool.not_eq_true _).mp granted⟩, ?_⟩
      rintro - e t ran
      obtain ⟨-, rfl⟩ := Prod.mk.inj ran
      exact ⟨rfl, rfl, rfl, if_neg headroom⟩

end Submission

section Atomicity

theorem reception_kept_iff (octets : List UInt8) (s : Received) :
    (∀ e t, (slRcSignalUnitAt octets).exec s = (.error e, t) →
        t.rptr = s.rptr) ↔
      draw (s.sl.signalUnitNeeds octets) s.sl.memory ≠ none := by
  obtain ⟨sl, rptr⟩ := s
  obtain ⟨d, asks⟩ := slRcSignalUnit_asked octets sl
  have asked := asks sl rfl
  simp only [slRcSignalUnitAt_exec]
  cases ran : (slRcSignalUnit octets).exec sl with
  | mk result u =>
      rw [ran] at asked
      cases result with
      | ok a =>
          refine ⟨fun _ => ?_, fun _ _ _ failed => nomatch failed⟩
          rw [show draw _ _ = some u.memory from asked.2]
          exact Option.some_ne_none _
      | error e =>
          have refused : draw (sl.signalUnitNeeds octets) sl.memory = none :=
            asked
          refine ⟨fun kept => ?_, fun granted => absurd refused granted⟩
          have moved := kept e _ rfl
          have serves : sl.rcState = .inService := by
            by_contra idle
            unfold Sl.signalUnitNeeds at refused
            rw [if_neg idle] at refused
            cases refused
          have reads := Sl.reads_pos serves octets
          dsimp only at moved
          omega

/-- The two data paths under lack of buffers. -/
theorem data_paths_atomic_iff (s : Sl) (mp : Mblk) (id priority : Nat)
    (octets : List UInt8) :
    ((∀ e t, (slLscPduAt id priority).exec ⟨s, mp⟩ = (.error e, t) →
        t.sl.tb = s.tb ∧ t.sl.Cm = s.Cm ∧ t.sl.status = s.status ∧
          t.mp = mp) ↔
      (mp.room.length < s.option.hlen ∧ s.env.suMem.headD true = false) ∨
        s.StaysAt (s.option.hlen + mp.octets.length) ∨
        s.env.indMem.headD true = true) ∧
    ((∀ e t, (slRcSignalUnitAt octets).exec ⟨s, 0⟩ = (.error e, t) →
        t.rptr = 0) ↔
      draw (s.signalUnitNeeds octets) s.memory ≠ none) := by
  refine ⟨?_, reception_kept_iff octets ⟨s, 0⟩⟩
  refine Iff.trans ?_ (submission_kept_iff id priority ⟨s, mp⟩)
  exact ⟨fun kept e t ran => ⟨(kept e t ran).1, (kept e t ran).2.1,
      (kept e t ran).2.2.1, (kept e t ran).2.2.2⟩,
    fun kept e t ran => ⟨(kept e t ran).tb, (kept e t ran).Cm,
      (kept e t ran).status, (kept e t ran).mp⟩⟩

def congesting : Sl :=
  { Sl.allocated ⟨SS7_PVAR_ITUT_93, false, false, false⟩ slDefault
      { Env.taking 0 with iqCount := 256 * 272, indMem := [false] } with
    lscState := .inService
    rcState := .inService }

def roomy : Mblk := ⟨[7, 7, 7, 7], [1, 2, 3]⟩

theorem refused_paths_change :
    ((slLscPduAt 0 0).exec ⟨congesting, roomy⟩).1 = .error .ENOBUFS ∧
    ((slLscPduAt 0 0).after ⟨congesting, roomy⟩).mp =
      ⟨[7], [0, 0, 0, 1, 2, 3]⟩ ∧
    ((slLscPduAt 0 0).after ⟨congesting, roomy⟩).sl.status = (1, 0) ∧
    ((slLscPduAt 0 0).after
      ((slLscPduAt 0 0).after ⟨congesting, roomy⟩)).sl.tb =
      [⟨0, [0, 0, 0], [0, 0, 0, 1, 2, 3], 0, 0⟩] ∧
    ((slRcSignalUnitAt [0, 0, 1, 4]).exec ⟨congesting, 0⟩).1 =
      .error .ENOBUFS ∧
    ((slRcSignalUnitAt [0, 0, 1, 4]).after ⟨congesting, 0⟩).rptr = 4 := by
  refine ⟨rfl, rfl, rfl, rfl, rfl, rfl⟩

end Atomicity

end OpenSS7.Mtp2
