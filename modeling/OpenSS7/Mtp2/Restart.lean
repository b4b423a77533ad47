import OpenSS7.Mtp2.Outage

/-!
The transmit window after the link is started, after its buffers are flushed,
and after `rtb` is cleared and the next acknowledgement is received.
-/

namespace OpenSS7.Mtp2

open Program

structure Sending where
  option : Options
  snMask : Nat
  clearRtb : Bool
  rtb : List Msu
  tb : List Msu
  Ct : Int
  Cm : Int
  txFFsn : Nat
  txLFsn : Nat
  rxFFsn : Nat
  rxTFsn : Nat
  rxRBsn : Nat
  txRBsn : Nat
  Z : Nat
  zPtr : Option Nat
  room : List Bool

def Sl.sending (s : Sl) : Sending where
  option := s.option
  snMask := s.snMask
  clearRtb := s.clearRtb
  rtb := s.rtb
  tb := s.tb
  Ct := s.Ct
  Cm := s.Cm
  txFFsn := s.txFFsn
  txLFsn := s.txLFsn
  rxFFsn := s.rxFFsn
  rxTFsn := s.rxTFsn
  rxRBsn := s.rxRBsn
  txRBsn := s.txRBsn
  Z := s.Z
  zPtr := s.zPtr
  room := s.env.room

namespace Sending

variable {v w : Sending}

def succ (w : Sending) (x : Nat) : Nat := (x + 1) % (w.snMask + 1)

/-- The message at `z` is on `rtb`, and `Z` is its number. -/
def Names (w : Sending) (z : Nat) : Prop :=
  ∃ i m, w.rtb[i]? = some m ∧ m.id = z ∧
    w.Z = (w.txFFsn + i) % (w.snMask + 1)

structure InStep (w : Sending) : Prop where
  numbered : ∀ i m, w.rtb[i]? = some m →
    m.fsn = (w.txFFsn + i) % (w.snMask + 1)
  span : w.succ w.txLFsn = (w.txFFsn + w.rtb.length) % (w.snMask + 1)
  counted : w.Ct = w.rtb.length
  waiting : w.Cm = w.tb.length
  first : w.rxFFsn = w.txFFsn
  last : w.rxTFsn = w.txLFsn
  cursor : ∀ z, w.zPtr = some z → w.Names z

/-- The window `w` begins where `v` does. Its messages lie in different
blocks, and the basic method has no message to retransmit. -/
structure Calm (v w : Sending) : Prop where
  mask : w.snMask = v.snMask
  received : w.rxRBsn = v.rxRBsn
  begins : w.txFFsn = v.txFFsn
  awaits : w.rxFFsn = v.rxFFsn
  small : w.txFFsn ≤ w.snMask
  numbered : ∀ i m, w.rtb[i]? = some m →
    m.fsn = (w.txFFsn + i) % (w.snMask + 1)
  span : w.succ w.txLFsn = (w.txFFsn + w.rtb.length) % (w.snMask + 1)
  counted : w.Ct = w.rtb.length
  waiting : w.Cm = w.tb.length
  last : w.rxTFsn = w.txLFsn
  cursor : ∀ z, w.zPtr = some z → w.Names z
  apart : ((w.rtb ++ w.tb).map Msu.id).Nodup
  basic : w.option.pcr = false → w.zPtr = none

theorem Calm.inStep (calm : v.Calm w) (agree : v.rxFFsn = v.txFFsn) :
    w.InStep where
  numbered := calm.numbered
  span := calm.span
  counted := calm.counted
  waiting := calm.waiting
  first := calm.awaits.trans (agree.trans calm.begins.symm)
  last := calm.last
  cursor := calm.cursor

theorem Names.index {z : Nat} (names : w.Names z)
    (apart : ((w.rtb ++ w.tb).map Msu.id).Nodup) :
    ∃ i m, (w.rtb.findIdx? fun m => m.id == z) = some i ∧
      w.rtb[i]? = some m ∧ w.Z = (w.txFFsn + i) % (w.snMask + 1) := by
  obtain ⟨i, m, found, rfl, number⟩ := names
  refine ⟨i, m, ?_, found, number⟩
  rw [List.map_append] at apart
  have apart := (List.nodup_append.1 apart).1
  obtain ⟨inside, rfl⟩ := List.getElem?_eq_some_iff.1 found
  rw [List.findIdx?_eq_some_iff_getElem]
  refine ⟨inside, beq_self_eq_true _, fun j before same => ?_⟩
  rw [beq_iff_eq] at same
  have ids : (w.rtb.map Msu.id)[j]? = (w.rtb.map Msu.id)[i]? := by
    rw [List.getElem?_map, List.getElem?_map,
      List.getElem?_eq_getElem (Nat.lt_trans before inside),
      List.getElem?_eq_getElem inside]
    exact congrArg some same
  have bound : j < (w.rtb.map Msu.id).length := by
    rw [List.length_map]
    omega
  have := (List.getElem?_inj bound apart).1 ids
  omega

/-- The head of `tb` is sent for the first time. -/
def sendFirst (w : Sending) (m : Msu) (rest : List Msu) (hdr : List UInt8) :
    Sending :=
  { w with
    tb := rest
    Cm := w.Cm - 1
    txLFsn := w.succ w.txLFsn
    rxTFsn := w.succ w.txLFsn
    rtb := w.rtb ++ [{ m with hdr := hdr, fsn := w.succ w.txLFsn }]
    Ct := w.Ct + 1 }

theorem Calm.sendFirst (calm : v.Calm w) {m : Msu} {rest : List Msu}
    (head : w.tb = m :: rest) (hdr : List UInt8) :
    v.Calm (w.sendFirst m rest hdr) where
  mask := calm.mask
  received := calm.received
  begins := calm.begins
  awaits := calm.awaits
  small := calm.small
  numbered := by
    intro i n found
    rw [Sending.sendFirst, List.getElem?_append] at found
    split at found
    case isTrue => exact calm.numbered i n found
    case isFalse beyond =>
      have last : i = w.rtb.length := by
        have := (List.getElem?_eq_some_iff.1 found).1
        simp only [List.length_singleton] at this
        omega
      subst last
      rw [Nat.sub_self, List.getElem?_cons_zero, Option.some.injEq] at found
      subst found
      exact calm.span
  span := by
    have span := calm.span
    simp only [Sending.succ, Sending.sendFirst, List.length_append,
      List.length_singleton] at span ⊢
    rw [span, Nat.mod_add_mod, Nat.add_assoc]
  counted := by
    simp only [Sending.sendFirst, calm.counted, List.length_append,
      List.length_singleton]
    push_cast
    rfl
  waiting := by
    simp only [Sending.sendFirst, calm.waiting, head, List.length_cons]
    push_cast
    omega
  last := rfl
  cursor := by
    intro z at_
    obtain ⟨i, n, found, id, number⟩ := calm.cursor z at_
    refine ⟨i, n, ?_, id, number⟩
    rw [Sending.sendFirst, List.getElem?_append_left
      (List.getElem?_eq_some_iff.1 found).1]
    exact found
  apart := by
    have apart := calm.apart
    rw [head] at apart
    simpa [Sending.sendFirst] using apart
  basic := calm.basic

/-- The message of `rtb` at `i` is sent again. -/
def sendAgain (w : Sending) (i : Nat) (m : Msu) (hdr : List UInt8) : Sending :=
  { w with
    rtb := w.rtb.set i { m with hdr := hdr }
    zPtr := (w.rtb[i + 1]?).map Msu.id
    Z := w.succ w.Z }

theorem Calm.sendAgain (calm : v.Calm w) {i : Nat} {m : Msu}
    (pcr : w.option.pcr = true) (found : w.rtb[i]? = some m)
    (number : w.Z = (w.txFFsn + i) % (w.snMask + 1)) (hdr : List UInt8) :
    v.Calm (w.sendAgain i m hdr) where
  mask := calm.mask
  received := calm.received
  begins := calm.begins
  awaits := calm.awaits
  small := calm.small
  numbered := by
    intro j n at_
    rw [Sending.sendAgain, List.getElem?_set] at at_
    split at at_
    case isTrue same =>
      subst same
      split at at_
      case isTrue =>
        obtain rfl := Option.some.inj at_
        exact calm.numbered i m found
      case isFalse => cases at_
    case isFalse => exact calm.numbered j n at_
  span := by
    rw [Sending.sendAgain, List.length_set]
    exact calm.span
  counted := by
    rw [Sending.sendAgain, List.length_set]
    exact calm.counted
  waiting := calm.waiting
  last := calm.last
  cursor := by
    intro z next
    obtain ⟨n, at_, rfl⟩ := Option.map_eq_some_iff.1 next
    refine ⟨i + 1, n, ?_, rfl, ?_⟩
    · rw [Sending.sendAgain, List.getElem?_set_ne (by omega)]
      exact at_
    · simp only [Sending.sendAgain, Sending.succ, number]
      rw [Nat.mod_add_mod, Nat.add_assoc]
  apart := by
    have ids : (w.rtb.set i { m with hdr := hdr }).map Msu.id =
        w.rtb.map Msu.id := by
      obtain ⟨inside, rfl⟩ := List.getElem?_eq_some_iff.1 found
      rw [List.map_set]
      apply List.ext_getElem?
      intro j
      rw [List.getElem?_set]
      split
      case isTrue same =>
        subst same
        rw [List.length_map, if_pos inside, List.getElem?_map,
          List.getElem?_eq_getElem inside]
        rfl
      case isFalse => rfl
    have apart := calm.apart
    rw [List.map_append] at apart ⊢
    rw [Sending.sendAgain, ids]
    exact apart
  basic := fun basic => by
    rw [show w.option.pcr = false from basic] at pcr
    cases pcr

theorem Calm.rewind (calm : v.Calm w) (idle : w.zPtr = none) :
    v.Calm { w with Z := w.txFFsn } :=
  { calm with
    cursor := fun z at_ => by
      rw [show w.zPtr = some z from at_] at idle
      cases idle }

theorem Calm.room (calm : v.Calm w) (room : List Bool) :
    v.Calm { w with room := room } :=
  { calm with }

end Sending

section Quiet

variable {J : Sending → Prop} {E : Sl → Prop}

theorem sending_quiet {f : Sl → Sl} (quiet : ∀ s, (f s).sending = s.sending) :
    Keeps (fun s => J s.sending) (modify f : SlM PUnit) :=
  keeps_modify fun s holds => by
    rw [quiet]
    exact holds

theorem ind_sending (i : Ind) : Keeps (fun s => J s.sending) (ind i) :=
  keeps_bind keeps_get fun _ => keeps_bind (sending_quiet fun _ => rfl)
    fun _ => keeps_ite (sending_quiet fun _ => rfl) (keeps_throw _)

theorem sdtReq_sending (r : SdtReq) : Keeps (fun s => J s.sending) (sdtReq r) :=
  keeps_bind keeps_get fun _ => keeps_bind (sending_quiet fun _ => rfl)
    fun _ => keeps_ite (sending_quiet fun _ => rfl) (keeps_throw _)

theorem suAlloc_sending :
    Triple (fun s => J s.sending) suAlloc (fun _ s => J s.sending) E :=
  fun _ holds => holds

theorem canputnextOq_sending : Keeps (fun s => J s.sending) canputnextOq :=
  fun _ holds => holds

theorem slCheckCongestion_sending :
    Keeps (fun s => J s.sending) slCheckCongestion :=
  keeps_bind keeps_get fun _ => keeps_bind (sending_quiet fun _ => rfl)
    fun _ => keeps_ite (keeps_ite (ind_sending _) (ind_sending _))
      (keeps_pure _)

end Quiet

section Wakeup

variable {J : Sending → Prop}
  (wakes : Keeps (fun s => J s.sending) slTxWakeup)

include wakes

theorem slDaedtTransmitterWakeup_sending :
    Keeps (fun s => J s.sending) slDaedtTransmitterWakeup :=
  keeps_bind (sending_quiet fun _ => rfl) fun _ => wakes

theorem slTxcSendLssu_sending (status : Lssu) :
    Keeps (fun s => J s.sending) (slTxcSendLssu status) :=
  keeps_bind (sending_quiet fun _ => rfl) fun _ =>
    slDaedtTransmitterWakeup_sending wakes

theorem slTxcSendMsu_sending : Keeps (fun s => J s.sending) slTxcSendMsu :=
  keeps_bind (sending_quiet fun _ => rfl) fun _ =>
    slDaedtTransmitterWakeup_sending wakes

theorem slTxcFsnxValue_sending : Keeps (fun s => J s.sending) slTxcFsnxValue :=
  keeps_bind keeps_get fun _ => keeps_ite
    (keeps_bind (sending_quiet fun _ => rfl) fun _ =>
      slDaedtTransmitterWakeup_sending wakes)
    (keeps_pure _)

theorem slTxcNackToBeSent_sending :
    Keeps (fun s => J s.sending) slTxcNackToBeSent :=
  keeps_bind (sending_quiet fun _ => rfl) fun _ =>
    slDaedtTransmitterWakeup_sending wakes

theorem slCcBusy_sending : Keeps (fun s => J s.sending) slCcBusy :=
  keeps_bind keeps_get fun _ => keeps_ite
    (keeps_bind (slTxcSendLssu_sending wakes _) fun _ =>
      sending_quiet fun _ => rfl)
    (keeps_pure _)

theorem slRcNoCongestion_sending :
    Keeps (fun s => J s.sending) slRcNoCongestion :=
  keeps_bind (sending_quiet fun _ => rfl) fun _ =>
    keeps_bind (sending_quiet fun _ => rfl) fun _ =>
    keeps_bind (slTxcFsnxValue_sending wakes) fun _ =>
    keeps_bind keeps_get fun _ => keeps_ite
      (keeps_bind (slTxcNackToBeSent_sending wakes) fun _ =>
        sending_quiet fun _ => rfl)
      (keeps_pure _)

theorem slRcCongestionDiscard_sending :
    Keeps (fun s => J s.sending) slRcCongestionDiscard :=
  keeps_bind (sending_quiet fun _ => rfl) fun _ => slCcBusy_sending wakes

theorem slRcCongestionAccept_sending :
    Keeps (fun s => J s.sending) slRcCongestionAccept :=
  keeps_bind (sending_quiet fun _ => rfl) fun _ => slCcBusy_sending wakes

theorem slRbCongestionFunction_sending :
    Keeps (fun s => J s.sending) slRbCongestionFunction := by
  have detected {m : SlM Unit} (rides : Keeps (fun s => J s.sending) m)
      (b : Bool) : Keeps (fun s => J s.sending) (do
        m
        modify fun s => { s with l2CongestionDetect := b }) :=
    keeps_bind rides fun _ => sending_quiet fun _ => rfl
  refine keeps_bind keeps_get fun _ => keeps_ite (keeps_pure _) ?_
  refine keeps_ite (keeps_ite ?_ (keeps_pure _)) ?_
  · exact keeps_bind canputnextOq_sending fun _ =>
      keeps_ite (detected (slRcNoCongestion_sending wakes) false)
        (keeps_pure _)
  · refine keeps_ite (detected (slRcCongestionDiscard_sending wakes) true) ?_
    refine keeps_ite (detected (slRcCongestionAccept_sending wakes) true) ?_
    exact keeps_bind canputnextOq_sending fun _ => keeps_ite (keeps_pure _)
      (detected (slRcCongestionAccept_sending wakes) true)

theorem acceptMsu_sending (octets : List UInt8) :
    Keeps (fun s => J s.sending) (acceptMsu octets) :=
  keeps_bind (sending_quiet fun _ => rfl) fun _ =>
    keeps_bind keeps_get fun _ =>
      keeps_ite (slCcBusy_sending wakes) (slTxcFsnxValue_sending wakes)

theorem slLscRtbCleared_sending :
    Keeps (fun s => J s.sending) slLscRtbCleared :=
  keeps_bind keeps_get fun _ => keeps_ite
    (keeps_bind (sending_quiet fun _ => rfl) fun _ =>
      keeps_ite (keeps_pure _) <|
      keeps_bind (ind_sending _) fun _ =>
      keeps_bind (ind_sending _) fun _ =>
      keeps_bind (slTxcSendMsu_sending wakes) fun _ =>
      sending_quiet fun _ => rfl)
    (keeps_pure _)

theorem slIacEmergency_sending :
    Keeps (fun s => J s.sending) slIacEmergency := by
  refine keeps_bind keeps_get fun _ => ?_
  split
  · exact keeps_bind (slTxcSendLssu_sending wakes _) fun _ =>
      keeps_bind (sending_quiet fun _ => rfl) fun _ =>
      keeps_bind (sdtReq_sending _) fun _ =>
      keeps_bind (sdtReq_sending _) fun _ =>
      keeps_bind (sdtReq_sending _) fun _ => sending_quiet fun _ => rfl
  · exact keeps_bind (slTxcSendLssu_sending wakes _) fun _ =>
      sending_quiet fun _ => rfl
  · exact sending_quiet fun _ => rfl

theorem slIacStart_sending : Keeps (fun s => J s.sending) slIacStart :=
  keeps_bind keeps_get fun _ => keeps_ite
    (keeps_bind (slTxcSendLssu_sending wakes _) fun _ =>
      sending_quiet fun _ => rfl)
    (keeps_pure _)

end Wakeup

section Transmission

variable {J : Sending → Prop} {E : Sl → Prop} {v : Sending}

theorem slTxcTransmitLssu_sending :
    Triple (fun s => J s.sending) slTxcTransmitLssu (fun _ s => J s.sending)
      E :=
  triple_bind suAlloc_sending fun _ => triple_ite (fun _ _ holds => holds)
    fun _ => triple_pure fun _ holds => holds

theorem slTxcTransmitFisu_sending :
    Triple (fun s => J s.sending) slTxcTransmitFisu (fun _ s => J s.sending)
      E :=
  triple_bind suAlloc_sending fun _ => triple_ite (fun _ _ holds => holds)
    fun _ => triple_pure fun _ holds => holds

theorem slTxcRetransmit_calm (z : Nat) :
    Triple (fun s => v.Calm s.sending ∧ s.option.pcr = true ∧
        s.sending.Names z)
      (slTxcRetransmit z) (fun _ s => v.Calm s.sending) E := by
  refine triple_get_bind fun s ⟨calm, pcr, names⟩ => ?_
  obtain ⟨i, m, index, found, number⟩ := names.index calm.apart
  rw [show (s.rtb.findIdx? fun m => m.id == z) = some i from index]
  rintro _ rfl
  have again := calm.sendAgain pcr found number
    (s.msuHeader m s.retransFsn)
  show v.Calm { s.sending with
    rtb := s.rtb.set i { (s.rtb[i]?).getD default with
      hdr := s.msuHeader ((s.rtb[i]?).getD default) s.retransFsn }
    zPtr := (s.rtb[i + 1]?).map Msu.id
    Z := if s.option.pcr then s.succ s.Z else s.Z }
  rw [show s.rtb[i]? = some m from found, if_pos pcr]
  exact again

theorem slTxcTransmitNew_calm (m : Msu) (rest : List Msu) :
    Triple (fun s => v.Calm s.sending ∧ s.tb = m :: rest)
      (slTxcTransmitNew m rest) (fun _ s => v.Calm s.sending) E :=
  fun s ⟨calm, head⟩ => calm.sendFirst head (s.msuHeader m (s.succ s.txLFsn))

theorem slTxcTransmitFirst_calm :
    Triple (fun s => v.Calm s.sending) slTxcTransmitFirst
      (fun _ s => v.Calm s.sending) E := by
  refine triple_get_bind fun s calm => ?_
  split
  case h_1 => exact triple_pure fun _ eq => eq ▸ calm
  case h_2 m rest head =>
    refine triple_bind (R := fun _ s => v.Calm s.sending ∧ s.tb = m :: rest)
      ?_ fun ok => triple_ite (fun _ => ?_) fun _ => ?_
    · rintro _ rfl
      exact ⟨calm, head⟩
    · exact triple_map (slTxcTransmitNew_calm m rest)
    · exact triple_pure fun _ h => h.1

theorem slTxcTransmitNext_calm :
    Triple (fun s => v.Calm s.sending) slTxcTransmitNext
      (fun _ s => v.Calm s.sending) E :=
  triple_get_any fun _ => triple_ite (fun _ => slTxcTransmitFisu_sending)
    fun _ => slTxcTransmitFirst_calm

theorem slTxcTransmitDue_calm :
    Triple (fun s => v.Calm s.sending) slTxcTransmitDue
      (fun _ s => v.Calm s.sending) E := by
  have next (s : Sl) (calm : v.Calm s.sending) :
      Triple (fun t => s = t) slTxcTransmitNext
        (fun _ s => v.Calm s.sending) E :=
    triple_conseq slTxcTransmitNext_calm (fun _ eq => eq ▸ calm)
      (fun _ _ h => h) fun _ h => h
  refine triple_get_bind fun s calm => triple_ite (fun _ => ?_)
    fun _ => next s calm
  split
  case h_1 z at_ =>
    have pcr : s.option.pcr = true := by
      by_contra basic
      rw [show s.zPtr = none from
        calm.basic ((Bool.not_eq_true _).mp basic)] at at_
      cases at_
    refine triple_bind (R := fun _ s => v.Calm s.sending ∧
      s.option.pcr = true ∧ s.sending.Names z) ?_
      fun ok => triple_ite (fun _ => ?_) fun _ => ?_
    · rintro _ rfl
      exact ⟨calm, pcr, calm.cursor z at_⟩
    · exact triple_map (slTxcRetransmit_calm z)
    · exact triple_pure fun _ h => h.1
  case h_2 idle =>
    refine triple_ite (fun pcr => ?_) fun _ => next s calm
    split
    case h_1 m head =>
      refine triple_bind (R := fun _ t => v.Calm t.sending ∧
        t.zPtr = none ∧ t.option.pcr = true ∧ t.rtb.head? = some m) ?_
        fun ok => triple_ite (fun _ => ?_) fun _ => ?_
      · rintro _ rfl
        exact ⟨calm, idle, pcr, head⟩
      · refine triple_bind (R := fun _ t => v.Calm t.sending ∧
          t.option.pcr = true ∧ t.sending.Names m.id) (triple_modify ?_)
          fun _ => triple_map (slTxcRetransmit_calm m.id)
        rintro t ⟨calm, idle, pcr, head⟩
        refine ⟨calm.rewind idle, pcr, 0, m, ?_, rfl, ?_⟩
        · exact List.head?_eq_getElem?.symm.trans head
        · exact (Nat.mod_eq_of_lt (Nat.lt_succ_of_le calm.small)).symm
      · exact triple_pure fun _ h => h.1
    case h_2 =>
      refine triple_bind (triple_modify fun _ eq => ?_)
        fun _ => slTxcTransmitNext_calm
      exact eq ▸ calm.rewind idle

theorem slTxcTransmitMsu_calm :
    Triple (fun s => v.Calm s.sending) slTxcTransmitMsu
      (fun _ s => v.Calm s.sending) E := by
  refine triple_bind (R := fun _ s => v.Calm s.sending)
    (triple_modify fun s calm => ?_) fun _ =>
    triple_bind (R := fun _ s => v.Calm s.sending)
      (triple_modify fun s calm => ?_) fun _ => slTxcTransmitDue_calm
  · split <;> exact calm
  · split <;> exact calm

theorem slTxcTransmissionRequest_calm :
    Triple (fun s => v.Calm s.sending) slTxcTransmissionRequest
      (fun _ s => v.Calm s.sending) E :=
  triple_get_any fun _ => triple_ite
    (fun _ => triple_ite (fun _ => slTxcTransmitLssu_sending) fun _ =>
      triple_ite (fun _ => slTxcTransmitFisu_sending) fun _ =>
        slTxcTransmitMsu_calm)
    fun _ => triple_pure fun _ calm => calm

theorem transmit_calm :
    Triple (fun s => v.Calm s.sending) transmit (fun _ s => v.Calm s.sending)
      E := by
  refine triple_bind slTxcTransmissionRequest_calm fun su => ?_
  cases su with
  | none => exact triple_pure fun _ calm => calm
  | some su =>
      exact triple_bind (triple_modify fun _ calm => calm) fun _ =>
        triple_pure fun _ calm => calm

theorem slTxWakeupLoop_calm (fuel : Nat) :
    Triple (fun s => v.Calm s.sending) (slTxWakeupLoop fuel)
      (fun _ s => v.Calm s.sending) E := by
  induction fuel with
  | zero => exact triple_pure fun _ calm => calm
  | succ fuel ih =>
      have stop : Triple (fun s => v.Calm s.sending) (pure () : SlM Unit)
          (fun _ s => v.Calm s.sending) E := triple_pure fun _ calm => calm
      have room : Triple (fun s => v.Calm s.sending) canputnextIq
          (fun _ s => v.Calm s.sending) E :=
        fun s calm => calm.room s.env.room.tail
      refine triple_get_any fun _ => triple_ite (fun _ => ?_) fun _ => stop
      refine triple_bind room fun _ => triple_ite (fun _ => ?_) fun _ => stop
      exact triple_bind transmit_calm fun _ =>
        triple_ite (fun _ => ih) fun _ => stop

theorem slTxWakeup_calm (v : Sending) :
    Keeps (fun s => v.Calm s.sending) slTxWakeup :=
  triple_get_any fun _ => slTxWakeupLoop_calm _

theorem slTxWakeup_still (v : Sending) (full : v.room = []) :
    Keeps (fun s => s.sending = v) slTxWakeup := by
  refine triple_get_bind fun s eq => ?_
  have none : s.env.room = [] := (congrArg Sending.room eq).trans full
  rw [none]
  refine triple_get_any fun _ => triple_ite (fun _ => ?_)
    fun _ => triple_pure fun _ here => here ▸ eq
  refine triple_bind (R := fun ok t => ok = false ∧ t.sending = v) ?_
    fun ok => ?_
  · rintro _ rfl
    show s.env.room.headD false = false ∧
      { s.sending with room := s.env.room.tail } = v
    rw [none]
    refine ⟨rfl, ?_⟩
    rw [← eq]
    exact congrArg (fun room => { s.sending with room := room }) none.symm
  · rintro t ⟨rfl, here⟩
    exact here

end Transmission

section Start

variable {J : Sending → Prop} {s : Sl}

def Sl.rcStarted (s : Sl) : Sending :=
  if s.rcState = .idle then { s.sending with rxFFsn := 0, rxTFsn := s.snMask }
  else s.sending

def Sl.restarted (s : Sl) : Sending :=
  { s.rcStarted with
    snMask := if s.option.xsn then 0x7fff else 0x7f
    clearRtb := false
    Ct := 0
    Cm := 0
    txFFsn := 0
    txLFsn := if s.option.xsn then 0x7fff else 0x7f
    Z := 0
    zPtr := none }

theorem slRcStart_sending (s : Sl) :
    Triple (fun t => s = t) slRcStart (fun _ t => t.sending = s.rcStarted)
      (fun _ => True) := by
  unfold Sl.rcStarted
  refine triple_get_bind fun _ eq => eq ▸ triple_ite (fun idle => ?_)
    fun running => ?_
  · rw [if_pos idle]
    refine triple_bind (R := fun _ t => t.sending =
      { s.sending with rxFFsn := 0, rxTFsn := s.snMask }) (triple_modify ?_)
      fun _ => triple_bind (R := fun _ t => t.sending =
        { s.sending with rxFFsn := 0, rxTFsn := s.snMask })
        (triple_conseq (sdtReq_sending (J := fun w => w =
          { s.sending with rxFFsn := 0, rxTFsn := s.snMask }) _)
          (fun _ h => h) (fun _ _ h => h) fun _ _ => trivial)
      fun _ => triple_modify fun _ h => h
    rintro _ rfl
    rfl
  · rw [if_neg running]
    exact triple_pure fun _ eq => eq ▸ rfl

theorem slTxcStart_sending (s : Sl) :
    Triple (fun t => t.sending = s.rcStarted) slTxcStart
      (fun _ t => t.sending = s.restarted) (fun _ => True) := by
  have option : s.rcStarted.option = s.option := by
    unfold Sl.rcStarted
    split <;> rfl
  refine triple_bind (R := fun _ t => t.sending = s.restarted)
    (triple_modify fun t eq => ?_) fun _ => triple_get_any fun _ =>
      triple_ite (fun _ => ?_) fun _ => triple_modify fun _ h => h
  · have known : t.option = s.option := (congrArg Sending.option eq).trans option
    unfold Sl.restarted
    rw [← eq, ← known]
    rfl
  · exact triple_bind (triple_modify fun _ h => h) fun _ =>
      triple_bind (triple_conseq (sdtReq_sending (J := fun w =>
        w = s.restarted) _) (fun _ h => h) (fun _ _ h => h) fun _ _ => trivial)
      fun _ => triple_modify fun _ h => h

theorem slLscStart_sending (wakes : Keeps (fun s => J s.sending) slTxWakeup)
    (out : s.lscState = .outOfService) (begins : J s.restarted) :
    Triple (fun t => s = t) slLscStart (fun _ t => J t.sending)
      (fun _ => True) := by
  have lax {m : SlM Unit} (keeps : Keeps (fun s => J s.sending) m) :
      Triple (fun s => J s.sending) m (fun _ s => J s.sending)
        (fun _ => True) :=
    triple_conseq keeps (fun _ h => h) (fun _ _ h => h) fun _ _ => trivial
  refine triple_get_bind fun _ eq => eq ▸ triple_ite (fun _ => ?_)
    fun other => absurd out other
  refine triple_bind (slRcStart_sending s) fun _ =>
    triple_bind (R := fun _ t => J t.sending)
      (triple_conseq (slTxcStart_sending s) (fun _ h => h)
        (fun _ _ here => here ▸ begins) fun _ h => h) fun _ => ?_
  have finish : Keeps (fun s => J s.sending) (do
      slIacStart
      modify fun s => { s with lscState := .initialAlignment } : SlM PUnit) :=
    keeps_bind (slIacStart_sending wakes) fun _ => sending_quiet fun _ => rfl
  refine lax (keeps_bind keeps_get fun _ => ?_)
  exact keeps_ite (keeps_bind (slIacEmergency_sending wakes) fun _ => finish)
    finish

theorem Sl.restarted_buffers (s : Sl) :
    s.restarted.rtb = s.rtb ∧ s.restarted.tb = s.tb := by
  unfold Sl.restarted Sl.rcStarted
  split <;> exact ⟨rfl, rfl⟩

theorem restarted_calm (rtb : s.rtb = []) (tb : s.tb = [])
    (last : s.restarted.rxTFsn = s.restarted.txLFsn) :
    s.restarted.Calm s.restarted := by
  have rtb : s.restarted.rtb = [] := s.restarted_buffers.1.trans rtb
  have tb : s.restarted.tb = [] := s.restarted_buffers.2.trans tb
  constructor
  · rfl
  · rfl
  · rfl
  · rfl
  · exact Nat.zero_le _
  · intro i m found
    rw [rtb] at found
    cases found
  · rw [rtb]
    show (s.restarted.txLFsn + 1) % (s.restarted.snMask + 1) = _
    rw [show s.restarted.txLFsn = s.restarted.snMask from rfl, Nat.mod_self]
    rfl
  · rw [rtb]
    rfl
  · rw [tb]
    rfl
  · exact last
  · intro z at_
    cases at_
  · rw [rtb, tb]
    exact List.nodup_nil
  · exact fun _ => rfl

theorem From.exec {m : SlM Unit} {d : Control} (takes : From s m d) :
    m.exec s = (.ok (), m.after s) := by
  have ended := takes s rfl
  unfold Program.after
  cases ran : m.exec s with
  | mk result t =>
      rw [ran] at ended
      cases result with
      | ok a => rfl
      | error e => exact ended.elim

/-- What `sl_rc_start` leaves of the numbers fits what `sl_txc_start` sets. -/
def Sl.Agrees (s : Sl) : Prop :=
  if s.rcState = .idle then
    s.snMask = if s.option.xsn then 0x7fff else 0x7f
  else s.rxFFsn = 0 ∧ s.rxTFsn = if s.option.xsn then 0x7fff else 0x7f

instance (s : Sl) : Decidable s.Agrees := by
  unfold Sl.Agrees
  infer_instance

theorem agrees_iff (s : Sl) :
    s.Agrees ↔ s.restarted.rxFFsn = 0 ∧
      s.restarted.rxTFsn = s.restarted.txLFsn := by
  unfold Sl.Agrees Sl.restarted Sl.rcStarted
  split
  case isTrue => exact ⟨fun mask => ⟨rfl, mask⟩, fun fits => fits.2⟩
  case isFalse => exact Iff.rfl

theorem restart_inStep_iff (out : s.lscState = .outOfService) :
    (∀ env t, slLscStart.exec (s.enter env) = (.ok (), t) →
        t.sending.InStep) ↔
      s.rtb = [] ∧ s.tb = [] ∧ s.Agrees := by
  constructor
  · intro inStep
    have ends := From.exec (slLscStart_takes.from
      (s := s.enter (.taking 0)) rfl)
    have still := slTxWakeup_still (s.enter (.taking 0)).restarted (by
      unfold Sl.restarted Sl.rcStarted
      split <;> rfl)
    have here := slLscStart_sending (s := s.enter (.taking 0))
      (J := fun w => w = (s.enter (.taking 0)).restarted) still out rfl _ rfl
    have step := inStep _ _ ends
    rw [ends] at here
    rw [show _ = (s.enter (.taking 0)).restarted from here] at step
    obtain ⟨rtb, tb⟩ := (s.enter (.taking 0)).restarted_buffers
    have counted : (0 : Int) = s.rtb.length := rtb ▸ step.counted
    have waiting : (0 : Int) = s.tb.length := tb ▸ step.waiting
    refine ⟨?_, ?_, (agrees_iff (s.enter (.taking 0))).mpr
      ⟨step.first, step.last⟩⟩
    · exact List.length_eq_zero_iff.mp (by exact_mod_cast counted.symm)
    · exact List.length_eq_zero_iff.mp (by exact_mod_cast waiting.symm)
  · rintro ⟨rtb, tb, agrees⟩ env t ran
    obtain ⟨first, last⟩ := (agrees_iff (s.enter env)).mp agrees
    have calm := slLscStart_sending (s := s.enter env)
      (slTxWakeup_calm (s.enter env).restarted) out
      (restarted_calm rtb tb last) _ rfl
    rw [ran] at calm
    exact calm.inStep first

end Start

section Flush

theorem flush_inStep_iff (s : Sl) :
    (slTxcFlushBuffers.after s).sending.InStep ↔
      s.succ s.rxRBsn = s.succ s.txRBsn ∧ s.rxFFsn = s.succ s.txRBsn := by
  constructor
  · intro step
    have small : s.succ s.txRBsn % (s.snMask + 1) = s.succ s.txRBsn :=
      Nat.mod_mod _ _
    exact ⟨step.span.trans small, step.first⟩
  · rintro ⟨span, first⟩
    constructor
    · intro i m found
      cases found
    · exact span.trans (Nat.mod_mod _ _).symm
    · rfl
    · rfl
    · exact first
    · rfl
    · intro z at_
      cases at_

end Flush

section Cleared

def Sending.cleared (w : Sending) : Sending :=
  { w with
    rtb := []
    Ct := 0
    txFFsn := w.succ w.rxRBsn
    txLFsn := w.rxRBsn
    txRBsn := w.rxRBsn
    Z := w.succ w.rxRBsn
    zPtr := none }

def Sending.followed (w : Sending) : Sending :=
  { w with clearRtb := false, rxFFsn := w.succ w.rxRBsn }

/-- What holds of the window `w` once it is cleared, and once reception
control follows; a wakeup keeps either. -/
structure Hands (w : Sending) (J K : Sending → Prop) : Prop where
  clear : w.clearRtb = true
  wakes : Keeps (fun s => J s.sending) slTxWakeup
  begins : J w.cleared
  follows : ∀ w, J w → K w.followed
  ends : Keeps (fun s => K s.sending) slTxWakeup

variable {w : Sending} {J K : Sending → Prop} {s : Sl}

theorem lax {I : Sl → Prop} {m : SlM Unit} (keeps : Keeps I m) :
    Triple I m (fun _ => I) (fun _ => True) :=
  triple_conseq keeps (fun _ h => h) (fun _ _ h => h) fun _ _ => trivial

theorem slTxcRtbCleared_sending (hands : Hands w J K) :
    Triple (fun t => t.sending = { w with txRBsn := w.rxRBsn })
      slTxcRtbCleared
      (fun _ t => ∃ v, J v ∧ t.sending = { v with clearRtb := false })
      (fun _ => True) := by
  refine triple_bind (R := fun _ t => t.sending =
      { w with rtb := [], Ct := 0, txRBsn := w.rxRBsn })
    (triple_modify fun t eq => ?_) fun _ =>
    triple_bind (lax (slCheckCongestion_sending (J := fun v => v =
      { w with rtb := [], Ct := 0, txRBsn := w.rxRBsn }))) fun _ =>
    triple_bind (R := fun _ t => J t.sending) (triple_modify fun t eq => ?_)
      fun _ => triple_bind (lax (slLscRtbCleared_sending hands.wakes))
        fun _ => triple_modify fun t holds => ⟨t.sending, holds, rfl⟩
  · exact congrArg (fun v : Sending => { v with rtb := [], Ct := 0 }) eq
  · have begins := hands.begins
    rw [show w.cleared = { t.sending with
      txFFsn := t.succ t.txRBsn
      txLFsn := t.txRBsn
      Z := t.succ t.txRBsn
      zPtr := none } from ?_] at begins
    · exact begins
    · rw [eq]
      have mask : t.snMask = w.snMask := congrArg Sending.snMask eq
      have bsn : t.txRBsn = w.rxRBsn := congrArg Sending.txRBsn eq
      unfold Sl.succ
      rw [mask, bsn]
      rfl

theorem acknowledge_sending (hands : Hands w J K) :
    Triple (fun t => t.sending = w) acknowledge (fun _ t => K t.sending)
      (fun _ => True) := by
  refine triple_bind (R := fun _ t => ∃ v, J v ∧
    t.sending = { v with clearRtb := false }) ?_ fun _ => triple_modify ?_
  · refine triple_bind (R := fun _ t => t.sending =
      { w with txRBsn := w.rxRBsn }) (triple_modify fun t eq => ?_)
      fun _ => triple_get_bind fun t eq => triple_ite (fun _ => ?_)
        fun kept => absurd hands.clear ?_
    · exact eq ▸ rfl
    · exact triple_conseq (slTxcRtbCleared_sending hands)
        (fun _ here => here ▸ eq) (fun _ _ h => h) fun _ h => h
    · rw [← show t.clearRtb = w.clearRtb from congrArg Sending.clearRtb eq]
      exact kept
  · rintro t ⟨v, holds, eq⟩
    have follows := hands.follows v holds
    rw [show v.followed = { t.sending with rxFFsn := t.succ t.rxRBsn } from ?_]
      at follows
    · exact follows
    · rw [eq]
      have mask : t.snMask = v.snMask := congrArg Sending.snMask eq
      have bsn : t.rxRBsn = v.rxRBsn := congrArg Sending.rxRBsn eq
      unfold Sl.succ
      rw [mask, bsn]
      rfl

theorem slLscFisuMsuReceived_sending (ansi : s.option.isAnsi = true)
    (settled : s.lscState ≠ .alignedReady) :
    Triple (fun t => s = t) slLscFisuMsuReceived
      (fun _ t => t.sending = s.sending) (fun _ => True) := by
  have tell (f : Sl → Sl) (quiet : ∀ s, (f s).sending = s.sending) (i : Ind) :
      Keeps (fun t => t.sending = s.sending) (do
        ind i
        modify f : SlM PUnit) :=
    keeps_bind (ind_sending (J := fun w => w = s.sending) i) fun _ =>
      sending_quiet (J := fun w => w = s.sending) quiet
  refine triple_get_bind fun _ eq => eq ▸ ?_
  split
  case h_1 ready => exact absurd ready settled
  case h_2 =>
    exact triple_conseq (lax (tell (fun s =>
      { s with t1 := false, lscState := .processorOutage }) (fun _ => rfl) _))
      (fun _ eq => eq ▸ rfl) (fun _ _ h => h) fun _ h => h
  case h_3 =>
    rw [if_pos ansi]
    refine triple_ite (fun _ => ?_) fun _ => triple_pure fun _ eq => eq ▸ rfl
    exact triple_bind (R := fun _ t => t.sending = s.sending)
      (triple_modify fun _ eq => eq ▸ rfl) fun _ =>
        lax (ind_sending (J := fun w => w = s.sending) _)
  case h_4 => exact triple_pure fun _ eq => eq ▸ rfl

theorem taken_sending (hands : Hands s.sending J K)
    (ansi : s.option.isAnsi = true) (settled : s.lscState ≠ .alignedReady)
    {rest : SlM Unit} (ends : Keeps (fun s => K s.sending) rest) :
    Triple (fun t => s = t) (do
      slLscFisuMsuReceived
      acknowledge
      rest) (fun _ t => K t.sending) (fun _ => True) :=
  triple_bind (slLscFisuMsuReceived_sending ansi settled) fun _ =>
    triple_bind (acknowledge_sending hands) fun _ => lax ends

theorem slRcPcr_sending (hands : Hands s.sending J K)
    (ansi : s.option.isAnsi = true) (settled : s.lscState ≠ .alignedReady)
    (octets : List UInt8) :
    Triple (fun t => s = t) (slRcPcr octets) (fun _ t => K t.sending)
      (fun _ => True) := by
  refine taken_sending hands ansi settled ?_
  refine keeps_bind keeps_get fun _ => keeps_ite ?_ (keeps_pure _)
  exact keeps_bind (slRbCongestionFunction_sending hands.ends) fun _ =>
    keeps_bind keeps_get fun _ => keeps_ite (slCcBusy_sending hands.ends) <|
    keeps_ite (acceptMsu_sending hands.ends octets) (keeps_pure _)

theorem slRcBasicInSequence_sending (hands : Hands s.sending J K)
    (ansi : s.option.isAnsi = true) (settled : s.lscState ≠ .alignedReady)
    (octets : List UInt8) :
    Triple (fun t => s = t) (slRcBasicInSequence octets)
      (fun _ t => K t.sending) (fun _ => True) := by
  refine taken_sending hands ansi settled ?_
  refine keeps_bind keeps_get fun _ => keeps_ite ?_ (keeps_pure _)
  have busy : Keeps (fun s => K s.sending) (do
      modify fun s => { s with rtr := true }
      slCcBusy : SlM Unit) :=
    keeps_bind (sending_quiet fun _ => rfl) fun _ => slCcBusy_sending hands.ends
  refine keeps_bind (slRbCongestionFunction_sending hands.ends) fun _ =>
    keeps_bind keeps_get fun _ => keeps_ite busy <| keeps_ite ?_ <|
    keeps_ite (keeps_pure _) <| keeps_ite busy ?_
  · exact keeps_bind (sending_quiet fun _ => rfl) fun _ =>
      acceptMsu_sending hands.ends octets
  · exact keeps_bind (slTxcNackToBeSent_sending hands.ends) fun _ =>
      sending_quiet fun _ => rfl

theorem triple_step {f : Sl → Sl} {k : PUnit → SlM Unit} {Q : Unit → Sl → Prop}
    (rest : Triple (fun t => f s = t) (k ⟨⟩) Q fun _ => True) :
    Triple (fun t => s = t) (modify f >>= k) Q fun _ => True :=
  triple_bind (R := fun _ t => f s = t)
    (triple_modify fun _ eq => congrArg f eq) fun _ => rest

theorem slRcFisuMsu_sending (hands : Hands s.sending J K)
    (ansi : s.option.isAnsi = true) (settled : s.lscState ≠ .alignedReady)
    (octets : List UInt8)
    (inside : SN_OUTSIDE (s.pred s.rxFFsn) s.rxRBsn s.rxTFsn = false)
    (confirmed : (s.abnormalBsnr && !s.unb) = false)
    (taken : s.option.pcr = true ∨ s.rxRFib = s.rxXFib ∧
        (s.abnormalFibr && !s.unf) = false ∨
      s.rxRFib ≠ s.rxXFib ∧ s.abnormalFibr = false ∧ s.rtr = true) :
    Triple (fun t => s = t) (slRcFisuMsu octets) (fun _ t => K t.sending)
      (fun _ => True) := by
  refine triple_get_bind fun _ eq => eq ▸ ?_
  rw [inside, confirmed, if_neg Bool.false_ne_true, if_neg Bool.false_ne_true]
  refine triple_step (triple_ite (fun _ => ?_) fun basic => ?_)
  · exact slRcPcr_sending (s := { s with abnormalBsnr := false }) hands ansi
      settled octets
  · have taken := taken.resolve_left basic
    refine triple_get_bind fun _ eq => eq ▸ ?_
    rcases taken with ⟨same, confirmed⟩ | ⟨differs, normal, requested⟩
    · rw [if_pos (show s.rxRFib = s.rxXFib from same)]
      rw [show (s.abnormalFibr && !s.unf) = false from confirmed,
        if_neg Bool.false_ne_true]
      exact triple_step (slRcBasicInSequence_sending
        (s := { s with abnormalBsnr := false, abnormalFibr := false })
        hands ansi settled octets)
    · rw [if_neg (show ¬ s.rxRFib = s.rxXFib from differs)]
      rw [show s.abnormalFibr = false from normal, if_neg Bool.false_ne_true]
      rw [if_pos (show s.rtr = true from requested)]
      exact triple_conseq (acknowledge_sending hands) (fun _ eq => eq ▸ rfl)
        (fun _ _ h => h) fun _ h => h

structure Sl.Taken (s : Sl) (octets : List UInt8) : Prop where
  serves : s.rcState = .inService
  long : ¬ ((s.decode octets).rxLen = 1 ∨ (s.decode octets).rxLen = 2)
  inside : SN_OUTSIDE (s.pred s.rxFFsn) (s.decode octets).rxRBsn s.rxTFsn =
    false
  confirmed : (s.abnormalBsnr && !s.unb) = false
  taken : s.option.pcr = true ∨ (s.decode octets).rxRFib = s.rxXFib ∧
      (s.abnormalFibr && !s.unf) = false ∨
    (s.decode octets).rxRFib ≠ s.rxXFib ∧ s.abnormalFibr = false ∧
      s.rtr = true

theorem Sl.Taken.of_reading {octets : List UInt8} {taken : Bool}
    (read : s.reading octets = .acknowledged taken) : s.Taken octets := by
  dsimp only [Sl.reading] at read
  split at read
  case isTrue => cases read
  case isFalse serves =>
    split at read
    case isTrue => cases read
    case isFalse long =>
      split at read
      case isTrue => split at read <;> cases read
      case isFalse inside =>
        split at read
        case isTrue => cases read
        case isFalse confirmed =>
          refine ⟨not_not.mp serves, long, (Bool.not_eq_true _).mp inside,
            (Bool.not_eq_true _).mp confirmed, ?_⟩
          split at read
          case isTrue pcr => exact .inl pcr
          case isFalse =>
            refine .inr ?_
            split at read
            case isTrue same =>
              refine .inl ⟨same, ?_⟩
              split at read
              case isTrue => cases read
              case isFalse sure => exact (Bool.not_eq_true _).mp sure
            case isFalse differs =>
              refine .inr ⟨differs, ?_⟩
              split at read
              case isTrue => cases read
              case isFalse normal =>
                refine ⟨(Bool.not_eq_true _).mp normal, ?_⟩
                split at read
                case isTrue requested => exact requested
                case isFalse => cases read

theorem slRcSignalUnit_sending {octets : List UInt8}
    (unit : s.Taken octets)
    (hands : Hands (s.decode octets).sending J K)
    (ansi : s.option.isAnsi = true)
    (settled : s.lscState ≠ .alignedReady) :
    Triple (fun t => s = t) (slRcSignalUnit octets) (fun _ t => K t.sending)
      (fun _ => True) := by
  refine triple_get_bind fun _ eq => eq ▸ ?_
  rw [if_pos unit.serves]
  refine triple_step (triple_get_bind fun _ eq => eq ▸ ?_)
  rw [if_neg unit.long]
  exact slRcFisuMsu_sending (s := s.decode octets) hands ansi settled _
    unit.inside unit.confirmed unit.taken

theorem cleared_calm (waiting : w.Cm = w.tb.length)
    (last : w.rxTFsn = w.rxRBsn) (apart : (w.tb.map Msu.id).Nodup) :
    w.cleared.Calm w.cleared where
  mask := rfl
  received := rfl
  begins := rfl
  awaits := rfl
  small := Nat.le_of_lt_succ (Nat.mod_lt _ (Nat.succ_pos _))
  numbered := fun i m found => by cases found
  span := (Nat.mod_mod _ _).symm
  counted := rfl
  waiting := waiting
  last := last
  cursor := fun z at_ => by cases at_
  apart := apart
  basic := fun _ => rfl

theorem Sending.Calm.followed {v : Sending} (calm : v.Calm w) :
    v.followed.Calm w.followed :=
  { calm with
    awaits := by
      show w.succ w.rxRBsn = v.succ v.rxRBsn
      unfold Sending.succ
      rw [calm.mask, calm.received] }

def Sl.bsn (s : Sl) (octets : List UInt8) : Nat :=
  (slRcDecode s.option.xsn octets).header.bsn

theorem clear_inStep_iff {octets : List UInt8} {taken : Bool}
    (read : s.reading octets = .acknowledged taken)
    (clear : s.clearRtb = true) (ansi : s.option.isAnsi = true)
    (settled : s.lscState ≠ .alignedReady)
    (apart : (s.tb.map Msu.id).Nodup) :
    (∀ env t, (slRcSignalUnit octets).exec (s.enter env) = (.ok (), t) →
        t.sending.InStep) ↔
      s.Cm = s.tb.length ∧ s.rxTFsn = s.bsn octets := by
  constructor
  · intro inStep
    have ends := From.exec (slRcSignalUnit_from (s := s.enter (.taking 0)) rfl
      octets)
    have hands : Hands ((s.enter (.taking 0)).decode octets).sending
        (fun w => w = ((s.enter (.taking 0)).decode octets).sending.cleared)
        (fun w => w =
          ((s.enter (.taking 0)).decode octets).sending.cleared.followed) :=
      { clear := clear
        wakes := slTxWakeup_still _ rfl
        begins := rfl
        follows := fun _ eq => eq ▸ rfl
        ends := slTxWakeup_still _ rfl }
    have here := slRcSignalUnit_sending (s := s.enter (.taking 0))
      (.of_reading read) hands ansi settled _ rfl
    have step := inStep _ _ ends
    rw [ends] at here
    rw [show _ = ((s.enter (.taking 0)).decode octets).sending.cleared.followed
      from here] at step
    exact ⟨step.waiting, step.last⟩
  · rintro ⟨waiting, last⟩ env t ran
    have calm := cleared_calm (w := ((s.enter env).decode octets).sending)
      waiting last apart
    have hands : Hands ((s.enter env).decode octets).sending _ _ :=
      { clear := clear
        wakes := slTxWakeup_calm _
        begins := calm
        follows := fun _ calm => calm.followed
        ends := slTxWakeup_calm _ }
    have after := slRcSignalUnit_sending (s := s.enter env) (.of_reading read)
      hands ansi settled _ rfl
    rw [ran] at after
    exact after.inStep rfl

end Cleared

section Restored

/-- The window is in step after a start just where nothing was left on the
buffers and reception control starts with the mask of transmission control;
after a flush just where the last unit's number was taken over and reception
control follows; and after the acknowledgement that ends a clearing of `rtb`,
which only begins in processor outage, just where it covers all that was
sent. -/
theorem window_restored_iff (stopped flushed cleared : Sl)
    (octets : List UInt8) (taken : Bool)
    (out : stopped.lscState = .outOfService)
    (read : cleared.reading octets = .acknowledged taken)
    (clear : cleared.clearRtb = true) (ansi : cleared.option.isAnsi = true)
    (settled : cleared.lscState ≠ .alignedReady)
    (apart : (cleared.tb.map Msu.id).Nodup) :
    ((∀ env t, slLscStart.exec (stopped.enter env) = (.ok (), t) →
        t.sending.InStep) ↔
      stopped.rtb = [] ∧ stopped.tb = [] ∧ stopped.Agrees) ∧
    ((slTxcFlushBuffers.after flushed).sending.InStep ↔
      flushed.succ flushed.rxRBsn = flushed.succ flushed.txRBsn ∧
        flushed.rxFFsn = flushed.succ flushed.txRBsn) ∧
    ((∀ env t, (slRcSignalUnit octets).exec (cleared.enter env) =
        (.ok (), t) → t.sending.InStep) ↔
      cleared.Cm = cleared.tb.length ∧
        cleared.rxTFsn = cleared.bsn octets) :=
  ⟨restart_inStep_iff out, flush_inStep_iff flushed,
    clear_inStep_iff read clear ansi settled apart⟩

def ansiOutage (primitives : List (Env × Primitive)) : Sl :=
  (Sl.allocated ⟨SS7_PVAR_ANSI_92, false, false, false⟩ slDefault
    (.taking 0)).performAll (intoService ++ primitives ++
      [(.taking 0, .event (.signalUnit [0xff, 0xff, 1, 4])),
        (.taking 0, .clearRtbReq)])

def stoppedWith (primitives : List (Env × Primitive)) : Sl :=
  (Sl.allocated ⟨SS7_PVAR_ITUT_96, false, false, false⟩ slDefault
    (.taking 0)).performAll (intoService ++ primitives ++
      [(.taking 2, .stopReq)])

theorem window_restored_idle :
    (∀ env t, slLscStart.exec ((stoppedWith []).enter env) = (.ok (), t) →
        t.sending.InStep) ∧
      (∀ env t, (slRcSignalUnit [0xff, 0xff, 0]).exec
        ((ansiOutage []).enter env) = (.ok (), t) → t.sending.InStep) := by
  have restored := window_restored_iff (stoppedWith []) (stoppedWith [])
    (ansiOutage []) [0xff, 0xff, 0] true (by decide +kernel)
    (by decide +kernel) (by decide +kernel) (by decide +kernel)
    (by decide +kernel) (by decide +kernel)
  exact ⟨restored.1.mpr (by decide +kernel),
    restored.2.2.mpr (by decide +kernel)⟩

theorem restart_miscounts :
    let stopped := stoppedWith [(.taking 0, .event (.pdu 0 [1, 2, 3] 0 true))]
    let cleared := ansiOutage [(.taking 1, .event (.pdu 0 [1, 2, 3] 0 true))]
    stopped.lscState = .outOfService ∧
      (slLscStart.exec (stopped.enter (.taking 2))).1 = .ok () ∧
      ¬ (slLscStart.after (stopped.enter (.taking 2))).sending.InStep ∧
      cleared.reading [0xff, 0xff, 0] = .acknowledged true ∧
      ((slRcSignalUnit [0xff, 0xff, 0]).exec
        (cleared.enter (.taking 0))).1 = .ok () ∧
      ¬ ((slRcSignalUnit [0xff, 0xff, 0]).after
        (cleared.enter (.taking 0))).sending.InStep := by
  refine ⟨by decide +kernel, by decide +kernel, fun inStep => ?_,
    by decide +kernel, by decide +kernel, fun inStep => ?_⟩
  · exact absurd inStep.waiting (by decide +kernel)
  · exact absurd inStep.last (by decide +kernel)

end Restored

end OpenSS7.Mtp2
