import OpenSS7.Sctp.Sender

/-!
The TSNs on the retransmission queue, against the counter of TSNs and the
cumulative point: what each step keeps of them, and what it takes for the
queue to hold exactly the TSNs between the two.
-/

namespace OpenSS7.Sctp

open Serial Ledger

namespace Sp

variable {danum : Nat} {base : Tsn} {sp : Sp danum} {d : Fin danum}

def stamps (sp : Sp danum) : Tsn × Tsn × Nat × Nat × List Tsn :=
  (sp.tTsn, sp.tAck, sp.numSent, sp.numAcked, sp.freed)

/-- The chunks on `rtxq` by their TSNs. -/
def tsns (sp : Sp danum) : List Tsn := sp.rtxq.map Tcb.tsn

/-! ### Steps that keep the numbering -/

section Stamps

@[simp] theorem stamps_check (sp : Sp danum) (ok : Bool) :
    (sp.check ok).stamps = sp.stamps := by
  unfold check
  split <;> rfl

@[simp] theorem stamps_setDaddr (sp : Sp danum) (d : Fin danum)
    (sd : Daddr) : (sp.setDaddr d sd).stamps = sp.stamps := rfl

@[simp] theorem stamps_outstanding (sp : Sp danum) (d : Fin danum)
    (dlen : Nat) : (sp.outstanding d dlen).stamps = sp.stamps := rfl

@[simp] theorem stamps_unmark (sp : Sp danum) :
    sp.unmark.stamps = sp.stamps := sp.stamps_check _

@[simp] theorem stamps_unsack (sp : Sp danum) :
    sp.unsack.stamps = sp.stamps := sp.stamps_check _

@[simp] theorem stamps_creditAssoc (sp : Sp danum) (dlen : Nat) :
    (sp.creditAssoc dlen).stamps = sp.stamps := sp.stamps_check _

@[simp] theorem stamps_creditDest (sp : Sp danum) (d : Fin danum)
    (dlen : Nat) : (sp.creditDest d dlen).stamps = sp.stamps := by
  simp [creditDest]

@[simp] theorem stamps_creditLater (sp : Sp danum) (d : Fin danum)
    (dlen : Nat) : (sp.creditLater d dlen).stamps = sp.stamps := by
  simp [creditLater]

@[simp] theorem stamps_sctpDestCalc (sp : Sp danum) :
    sp.sctpDestCalc.stamps = sp.stamps := sp.stamps_check _

theorem stamps_fastRetransmit (sp : Sp danum) (cb : Tcb danum) :
    (sp.fastRetransmit cb).1.stamps = sp.stamps := by
  unfold fastRetransmit
  split
  · simp only
    split
    · simp only [stamps_creditAssoc, stamps_creditDest, stamps_setDaddr]
      rfl
    · rfl
  · rfl

end Stamps

structure Kept (sp sp' : Sp danum) : Prop where
  stamps : sp'.stamps = sp.stamps
  tsns : sp'.tsns = sp.tsns

theorem Kept.refl (sp : Sp danum) : Kept sp sp := ⟨rfl, rfl⟩

theorem Kept.trans {sp sp' sp'' : Sp danum} (first : Kept sp sp')
    (second : Kept sp' sp'') : Kept sp sp'' :=
  ⟨second.stamps.trans first.stamps, second.tsns.trans first.tsns⟩

theorem sweepRtxq_kept
    {act : Sp danum → Tcb danum → Sp danum × Option (Tcb danum)}
    (stamps : ∀ sp cb, (act sp cb).1.stamps = sp.stamps)
    (tsn : ∀ sp cb, ((act sp cb).2.getD cb).tsn = cb.tsn) (sp : Sp danum) :
    Kept sp (sp.sweepRtxq act) :=
  ⟨sweep_keeps Sp.stamps stamps sp sp.rtxq, sweep_map Tcb.tsn tsn sp sp.rtxq⟩

theorem fastRetransmit_tsn (sp : Sp danum) (cb : Tcb danum) :
    (sp.fastRetransmit cb).2.tsn = cb.tsn := by
  unfold fastRetransmit
  split
  · simp only
    split <;> rfl
  · rfl

theorem walk_kept (sp : Sp danum) : Kept sp (sp.sweepRtxq walk) := by
  apply sweepRtxq_kept
  · intro sp cb
    unfold walk
    split
    · simp only
      split
      · split
        · simp only [stamps_unmark]
          rfl
        · simp only [stamps_creditAssoc, stamps_creditDest]
          rfl
      · rfl
    · split
      · have fast := sp.stamps_fastRetransmit { cb with nack := false }
        simp only
        split
        · rw [stamps_unsack, fast]
        · exact fast
      · rfl
  · intro sp cb
    unfold walk
    split
    · simp only
      split
      · split <;> rfl
      · rfl
    · split
      · have fast := sp.fastRetransmit_tsn { cb with nack := false }
        simp only
        split <;> exact fast
      · rfl

theorem renege_kept (sp : Sp danum) : Kept sp (sp.sweepRtxq renege) := by
  apply sweepRtxq_kept
  · intro sp cb
    unfold renege
    split
    · exact stamps_unsack sp
    · rfl
  · intro sp cb
    unfold renege
    split <;> rfl

theorem timeoutRetrans_kept (sp : Sp danum) (d : Fin danum) :
    Kept sp (sp.sweepRtxq (timeoutRetrans d)) := by
  apply sweepRtxq_kept
  · intro sp cb
    unfold timeoutRetrans
    split
    · simp only [stamps_creditAssoc, stamps_creditDest]
      rfl
    · rfl
  · intro sp cb
    unfold timeoutRetrans
    split <;> rfl

theorem timeoutCookie_kept (sp : Sp danum) (d : Fin danum) :
    Kept sp (sp.sweepRtxq (timeoutCookie d)) := by
  apply sweepRtxq_kept
  · intro sp cb
    unfold timeoutCookie
    split <;> rfl
  · intro sp cb
    unfold timeoutCookie
    split <;> rfl

theorem sctpCookieTimeout_kept (sp : Sp danum) (taddr : Fin danum)
    (route : Option (Fin danum)) (retry : List Tsn) :
    Kept sp (sp.sctpCookieTimeout taddr route retry) := by
  unfold sctpCookieTimeout
  split
  · exact .refl sp
  · have first := timeoutCookie_kept sp taddr
    cases route with
    | none => exact first
    | some d =>
        refine first.trans ⟨rfl, ?_⟩
        simp only [tsns, List.map_map]
        refine List.map_congr_left fun cb _ => ?_
        simp only [Function.comp]
        split <;> rfl

theorem markGaps_tsns (ack : Tsn) (daddr : Fin danum → Daddr)
    (gaps : List (BitVec 16 × BitVec 16)) (dp : List (Tcb danum)) :
    (markGaps ack daddr gaps dp).2.map Tcb.tsn = dp.map Tcb.tsn := by
  induction gaps generalizing daddr dp with
  | nil => rfl
  | cons block gaps ih =>
      rw [markGaps]
      split
      · exact ih daddr dp
      · -- the three parts make up the list
        simp only [List.map_append, List.map_map, ih]
        have missing : Tcb.tsn ∘ (fun cb : Tcb danum =>
            { cb with nack := true }) = Tcb.tsn := rfl
        have found : Tcb.tsn ∘ (fun cb : Tcb danum =>
            { cb with ack := true }) = Tcb.tsn := rfl
        rw [missing, found, List.append_assoc, ← List.map_append,
          List.takeWhile_append_dropWhile, ← List.map_append,
          List.takeWhile_append_dropWhile]

theorem processGaps_kept (sp : Sp danum) (m : Sack) :
    Kept sp (sp.processGaps m) := by
  unfold processGaps
  split
  · split
    · exact .refl sp
    · exact renege_kept sp
  · split
    · have first : Kept sp
          (sp.marked m.cTsn (m.gaps.take m.ngaps.toNat)) :=
        ⟨rfl, markGaps_tsns _ _ _ _⟩
      exact first.trans (walk_kept _)
    · exact .refl sp

theorem sctpDestCalc_kept (sp : Sp danum) : Kept sp sp.sctpDestCalc := by
  refine ⟨stamps_sctpDestCalc sp, ?_⟩
  simp only [tsns, sctpDestCalc, check]
  split <;> rfl

theorem sctpBundleDataRetrans_kept (sp : Sp danum) (d : Fin danum)
    (ckp : BundleCookie) : Kept sp (sp.sctpBundleDataRetrans d ckp).sp := by
  constructor
  · refine sweep_keeps (fun b : Bundling danum => b.sp.stamps) ?_ _ _
    intro b cb
    unfold retransmit
    simp only
    split
    · rfl
    · split
      · rfl
      · split
        · rfl
        · split
          · rfl
          · simp only [stamps_outstanding, stamps_unmark]
  · refine sweep_map Tcb.tsn ?_ _ _
    intro b cb
    unfold retransmit
    simp only
    split
    · rfl
    · split
      · rfl
      · split
        · rfl
        · split <;> rfl

/-! ### The window -/

/-- The numbers of `n` places from `i` on. -/
def numbers (base : Tsn) (i n : Nat) : List Tsn :=
  (List.range n).map fun j => number base ((i + j : Nat) : Int)

theorem numbers_add (base : Tsn) (i n k : Nat) :
    numbers base i (n + k) = numbers base i n ++ numbers base (i + n) k := by
  simp only [numbers, List.range_add, List.map_append, List.map_map]
  congr 1
  refine List.map_congr_left fun j _ => ?_
  simp only [Function.comp, Nat.add_assoc]

theorem numbers_one (base : Tsn) (i : Nat) :
    numbers base i 1 = [number base i] := rfl

/-- `rtxq` holds the TSNs from `t_ack` to `t_tsn`, those below have been taken
off, and the comparisons of TSNs are right. -/
structure Window (base : Tsn) (sp : Sp danum) : Prop where
  ack : sp.tAck = number base sp.numAcked
  next : sp.tTsn = number base (sp.numSent + 1 : Nat)
  order : sp.numAcked ≤ sp.numSent
  room : sp.numSent < sp.numAcked + 2 ^ 31
  queue : sp.tsns = numbers base (sp.numAcked + 1) (sp.numSent - sp.numAcked)
  freed : sp.freed = numbers base 1 sp.numAcked

theorem Window.kept {sp sp' : Sp danum} (window : Window base sp)
    (kept : Kept sp sp') : Window base sp' := by
  obtain ⟨stamps, tsns⟩ := kept
  simp only [Sp.stamps, Prod.mk.injEq] at stamps
  obtain ⟨tTsn, tAck, numSent, numAcked, freed⟩ := stamps
  constructor
  · rw [tAck, numAcked]
    exact window.ack
  · rw [tTsn, numSent]
    exact window.next
  · rw [numSent, numAcked]
    exact window.order
  · rw [numSent, numAcked]
    exact window.room
  · rw [tsns, numSent, numAcked]
    exact window.queue
  · rw [freed, numAcked]
    exact window.freed

theorem Window.length (window : Window base sp) :
    sp.rtxq.length = sp.numSent - sp.numAcked := by
  have := congrArg List.length window.queue
  simpa [tsns, numbers] using this

theorem Window.transmit (window : Window base sp) {dlen : Nat}
    (room : sp.rtxq.length + 1 < 2 ^ 31) :
    Window base (sp.transmit d dlen) := by
  have length := window.length
  have order := window.order
  refine ⟨window.ack, ?_, ?_, ?_, ?_, window.freed⟩
  · change sp.tTsn + 1 = number base ((sp.numSent + 1 + 1 : Nat) : Int)
    rw [window.next, Nat.cast_succ (sp.numSent + 1), number_succ]
  · exact Nat.le_succ_of_le order
  · change sp.numSent + 1 < sp.numAcked + 2 ^ 31
    omega
  · change (sp.rtxq ++ [_]).map Tcb.tsn =
      numbers base (sp.numAcked + 1) (sp.numSent + 1 - sp.numAcked)
    have more : sp.numSent + 1 - sp.numAcked =
        sp.numSent - sp.numAcked + 1 := by
      omega
    have place : sp.numAcked + 1 + (sp.numSent - sp.numAcked) =
        sp.numSent + 1 := by
      omega
    rw [List.map_append, more, numbers_add, numbers_one, place]
    exact congrArg₂ _ window.queue (congrArg (fun t => [t]) window.next)

theorem Window.bundleData (window : Window base sp) {ckp : BundleCookie}
    {queue : List Nat} (room : sp.rtxq.length + queue.length < 2 ^ 31) :
    Window base (bundleData d sp ckp queue).1.sp := by
  induction queue generalizing sp ckp with
  | nil => exact window
  | cons dlen rest ih =>
      rw [List.length_cons] at room
      rw [Sp.bundleData]
      split
      · exact window
      · split
        · exact window
        · split
          · exact window
          · apply ih (window.transmit (by omega))
            simp only [Sp.transmit, List.length_append, List.length_singleton]
            omega

theorem drain_acknowledge {ack : Tsn} {front rest : List (Tcb danum)}
    (go : ∀ cb ∈ front, after cb.tsn ack = false)
    (stop : ∀ cb ∈ rest.head?, after cb.tsn ack = true) (sp : Sp danum) :
    (drain (acknowledge ack) sp (front ++ rest)).2 = rest ∧
      (drain (acknowledge ack) sp (front ++ rest)).1.stamps =
        { sp with freed := sp.freed ++ front.map Tcb.tsn }.stamps := by
  induction front generalizing sp with
  | nil =>
      cases rest with
      | nil => simp [drain]
      | cons cb rest =>
          have stays : acknowledge ack sp cb = none := by
            rw [acknowledge, if_pos (stop cb (by simp))]
          simp [drain, stays]
  | cons cb front ih =>
      have goes : ∃ sp', acknowledge ack sp cb = some sp' ∧
          sp'.stamps =
            { sp with freed := sp.freed ++ [cb.tsn] }.stamps := by
        rw [acknowledge, if_neg (by simp [go cb List.mem_cons_self])]
        refine ⟨_, rfl, ?_⟩
        have same : ∀ sp' : Sp danum, sp'.stamps = sp.stamps →
            { sp' with freed := sp'.freed ++ [cb.tsn] }.stamps =
              { sp with freed := sp.freed ++ [cb.tsn] }.stamps := by
          intro sp' same
          simp only [stamps, Prod.mk.injEq] at same ⊢
          obtain ⟨tTsn, tAck, numSent, numAcked, freed⟩ := same
          exact ⟨tTsn, tAck, numSent, numAcked, by rw [freed]⟩
        apply same
        split
        · split
          · exact stamps_unmark sp
          · simp only [stamps_creditAssoc, stamps_creditLater]
        · exact stamps_unsack sp
      obtain ⟨sp', acted, stamps⟩ := goes
      have whole := ih (fun x member => go x (List.mem_cons_of_mem _ member)) sp'
      rw [List.cons_append, drain, acted]
      refine ⟨whole.1, whole.2.trans ?_⟩
      simp only [Sp.stamps, Prod.mk.injEq] at stamps ⊢
      obtain ⟨tTsn, tAck, numSent, numAcked, freed⟩ := stamps
      refine ⟨tTsn, tAck, numSent, numAcked, ?_⟩
      rw [freed, List.map_cons, List.append_assoc, List.singleton_append]

theorem mem_numbers {t : Tsn} {i n : Nat} (member : t ∈ numbers base i n) :
    ∃ j : Nat, i ≤ j ∧ j < i + n ∧ t = number base j := by
  obtain ⟨j, bound, rfl⟩ := List.mem_map.1 member
  rw [List.mem_range] at bound
  exact ⟨i + j, by omega, by omega, rfl⟩

theorem Window.split (window : Window base sp) {k : Nat}
    (low : sp.numAcked ≤ k) (high : k ≤ sp.numSent) :
    ∃ front rest, sp.rtxq = front ++ rest ∧
      front.map Tcb.tsn = numbers base (sp.numAcked + 1) (k - sp.numAcked) ∧
      rest.map Tcb.tsn = numbers base (k + 1) (sp.numSent - k) := by
  have queue := window.queue
  have parts : sp.numSent - sp.numAcked =
      (k - sp.numAcked) + (sp.numSent - k) := by
    omega
  have place : sp.numAcked + 1 + (k - sp.numAcked) = k + 1 := by omega
  rw [tsns, parts, numbers_add, place] at queue
  exact List.map_eq_append_iff.1 queue

theorem Window.sctpCummAck (window : Window base sp) {k : Nat}
    (low : sp.numAcked ≤ k) (high : k ≤ sp.numSent) :
    Window base (sp.sctpCummAck (number base k)) := by
  have room := window.room
  obtain ⟨front, rest, queue, frontTsns, restTsns⟩ := window.split low high
  have moved : (number base (k : Int) - sp.tAck).toNat = k - sp.numAcked := by
    have := toNat_number_sub base (show (0 : Int) ≤ k - sp.numAcked by omega)
      (by omega)
    rw [window.ack]
    omega
  generalize start : ({ sp with
    tAck := number base k
    numAcked := sp.numAcked + (number base k - sp.tAck).toNat
    daddr := fun d => (sp.daddr d).reach (number base k) } : Sp danum) = sp₀
  have go : ∀ cb ∈ front, after cb.tsn (number base k) = false := by
    intro cb member
    obtain ⟨j, least, most, here⟩ :=
      mem_numbers (frontTsns ▸ List.mem_map_of_mem member)
    rw [here, ← Bool.not_eq_true, after_iff base (by omega) (by omega)]
    omega
  have stop : ∀ cb ∈ rest.head?, after cb.tsn (number base k) = true := by
    intro cb first
    obtain ⟨j, least, most, here⟩ := mem_numbers
      (restTsns ▸ List.mem_map_of_mem (List.mem_of_mem_head? first))
    rw [here, after_iff base (by omega) (by omega)]
    omega
  obtain ⟨left, stamps⟩ := drain_acknowledge go stop sp₀
  have freed : front.map Tcb.tsn =
      numbers base (1 + sp.numAcked) (k - sp.numAcked) := by
    rw [frontTsns, Nat.add_comm]
  unfold Sp.sctpCummAck
  simp only
  rw [start, queue]
  generalize drain (acknowledge (number base k)) sp₀ (front ++ rest) = out
    at left stamps ⊢
  obtain ⟨sp', rtxq⟩ := out
  simp only [Sp.stamps, Prod.mk.injEq] at left stamps ⊢
  subst left
  obtain ⟨tTsn, tAck, numSent, numAcked, freed'⟩ := stamps
  have acked : sp₀.numAcked = k := by
    rw [← start]
    simp only [moved]
    omega
  rw [acked] at numAcked
  have sent : sp'.numSent = sp.numSent := by rw [numSent, ← start]
  constructor
  · simp only [tAck, numAcked]
    rw [← start]
  · simp only [tTsn, sent]
    rw [← start]
    exact window.next
  · simp only [numAcked, sent]
    exact high
  · simp only [numAcked, sent]
    omega
  · simp only [numAcked, sent]
    exact restTsns
  · have all : k = sp.numAcked + (k - sp.numAcked) := by omega
    have old : sp₀.freed = sp.freed := start ▸ rfl
    simp only [freed', numAcked]
    rw [freed, old, window.freed]
    conv_rhs => rw [all]
    rw [numbers_add]

def AckSent (sp : Sp danum) (ack : Tsn) : Prop :=
  before ack sp.tAck = true ∨ after ack (sp.tTsn - 1) = false

def WithinWindow (sp : Sp danum) : Event danum → Prop
  | .sack m => sp.AckSent m.cTsn
  | .shutdown ack => sp.AckSent ack
  | .bundleUrgent _ _ => sp.rtxq.length + sp.urgq.length < 2 ^ 31
  | .bundleNormal _ _ => sp.rtxq.length + sp.sndq.length < 2 ^ 31
  | _ => True

theorem Window.last (window : Window base sp) :
    sp.tTsn - 1 = number base sp.numSent := by
  rw [window.next, Nat.cast_succ, number_succ, add_sub_cancel_right]

theorem Window.acked (window : Window base sp) {ack : Tsn}
    (sent : sp.AckSent ack) (new : before ack sp.tAck = false) :
    ∃ k : Nat, sp.numAcked ≤ k ∧ k ≤ sp.numSent ∧ ack = number base k := by
  have order := window.order
  have room := window.room
  rw [AckSent, new, or_iff_right (by simp), window.last] at sent
  rw [window.ack] at new
  obtain ⟨k, low, high, here⟩ :=
    within base (by omega) (by omega) new sent
  refine ⟨k.toNat, by omega, by omega, ?_⟩
  rw [here]
  congr 1
  omega

theorem Window.sctpRecvSack (window : Window base sp) {m : Sack}
    (sent : sp.AckSent m.cTsn) : Window base (sp.sctpRecvSack m) := by
  unfold Sp.sctpRecvSack
  split
  · exact window
  · split
    · exact window
    · split
      · exact window
      case isFalse new =>
        obtain ⟨k, low, high, here⟩ := window.acked sent (by simpa using new)
        have same : Window base { sp with
            pRbuf := max sp.pRbuf m.aRwnd.toNat
            pRwnd := m.aRwnd.toNat } :=
          window.kept ⟨rfl, rfl⟩
        apply Window.kept _ (sctpDestCalc_kept _)
        simp only
        split
        · rw [here]
          exact same.sctpCummAck low high
        · exact same.kept (processGaps_kept _ m)

theorem Window.sctpShutdownAckCalc (window : Window base sp) {ack : Tsn}
    (sent : sp.AckSent ack) : Window base (sp.sctpShutdownAckCalc ack) := by
  unfold Sp.sctpShutdownAckCalc
  split
  · exact window
  case isFalse new =>
    obtain ⟨k, low, high, here⟩ := window.acked sent (by simpa using new)
    apply Window.kept _ (sctpDestCalc_kept _)
    split
    · rw [here]
      exact window.sctpCummAck low high
    · exact window

theorem Window.sctpRecvShutdown (window : Window base sp) {ack : Tsn}
    (sent : sp.AckSent ack) : Window base (sp.sctpRecvShutdown ack) := by
  have moved : ∀ state, Window base { sp with state := state } :=
    fun _ => window.kept ⟨rfl, rfl⟩
  unfold Sp.sctpRecvShutdown
  split
  · exact window
  · split
    · exact moved _
    · split
      · exact (moved _).sctpShutdownAckCalc sent
      · exact (moved _).sctpShutdownAckCalc sent
      · exact window.sctpShutdownAckCalc sent
      · exact window.sctpShutdownAckCalc sent
      · exact window.sctpShutdownAckCalc sent
      · exact window

theorem Window.handle (window : Window base sp) (event : Event danum)
    (within : sp.WithinWindow event) : Window base (sp.handle event) := by
  cases event with
  | write urgent dlen => cases urgent <;> exact window.kept ⟨rfl, rfl⟩
  | bundleUrgent d ckp => exact (window.bundleData within).kept ⟨rfl, rfl⟩
  | bundleNormal d ckp => exact (window.bundleData within).kept ⟨rfl, rfl⟩
  | bundleRetrans d ckp =>
      exact window.kept (sctpBundleDataRetrans_kept sp d ckp)
  | sack m => exact window.sctpRecvSack within
  | shutdown ack => exact window.sctpRecvShutdown within
  | retransTimeout d =>
      unfold Sp.handle sctpRetransTimeout
      simp only
      split
      · exact window
      · exact window.kept (timeoutRetrans_kept sp d)
  | cookieTimeout taddr route retry =>
      exact window.kept (sctpCookieTimeout_kept sp taddr route retry)
  | state state => exact window.kept ⟨rfl, rfl⟩
  | rto d rto => exact window.kept ⟨rfl, rfl⟩

theorem Window.initial (tag : Tsn) (state : State)
    (dests : Fin danum → Daddr) (rwnd sndbuf : Nat) (rx : Rx) :
    Window (tag - 1) (Sp.initial tag state dests rwnd sndbuf rx) := by
  refine ⟨(number_zero _).symm, ?_, le_rfl, by simp [Sp.initial], rfl, rfl⟩
  change tag = number (tag - 1) (0 + 1)
  rw [number_succ, number_zero, sub_add_cancel]

/-- `t_ack` is not ahead of `t_tsn - 1`, and `rtxq` holds the TSNs between. -/
structure Sound (base : Tsn) (sp : Sp danum) : Prop where
  window : Window base sp
  behind : after sp.tAck (sp.tTsn - 1) = false

theorem Window.sound (window : Window base sp) : Sound base sp := by
  have order := window.order
  have room := window.room
  refine ⟨window, ?_⟩
  rw [window.last, window.ack, ← Bool.not_eq_true,
    after_iff base (by omega) (by omega)]
  omega

theorem send_window_sound (tag : Tsn) (state : State)
    (dests : Fin danum → Daddr) (rwnd sndbuf : Nat) (rx : Rx)
    (events : List (Event danum))
    (within : Along WithinWindow
      (Sp.initial tag state dests rwnd sndbuf rx) events) :
    Sound (tag - 1)
      ((Sp.initial tag state dests rwnd sndbuf rx).run events) :=
  (within.run (fun event window here => window.handle event here)
    (Window.initial tag state dests rwnd sndbuf rx)).sound

def someDaddr : Daddr where
  inFlight := 0
  ackAccum := 0
  mAck := 0
  dropping := false
  cwnd := 1500
  ssthresh := 3000
  partialAck := 0
  mtu := 1500
  dmps := 1468
  rto := 3

def cumulative (ack : Tsn) : Sack where
  len := 16
  cTsn := ack
  aRwnd := 65536
  ngaps := 0
  ndups := 0
  gaps := []
  dups := []
  ecne := none

theorem send_window_sound_wrapped :
    Sound (0xffffffff - 1) ((Sp.initial 0xffffffff .established
      (fun _ : Fin 1 => someDaddr) 65536 65536 (.initial 0 1 4096)).run
      [.write false 100, .bundleNormal 0 ⟨1468, 12, 3000, []⟩,
       .sack (cumulative 0xffffffff)]) :=
  send_window_sound _ _ _ _ _ _ _
    ⟨trivial, by unfold WithinWindow; decide,
      by unfold WithinWindow AckSent; decide, trivial⟩

theorem ack_ahead : ¬ Sound (1 - 1) ((Sp.initial 1 .established
    (fun _ : Fin 1 => someDaddr) 65536 65536 (.initial 0 1 4096)).run
    [.sack (cumulative 5)]) := by
  intro sound
  exact absurd sound.behind (by decide)

end Sp

end OpenSS7.Sctp
