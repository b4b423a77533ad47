import OpenSS7.Lib.SlidingWindow
import OpenSS7.Mtp2.LinkMoves

/-!
The transmit window: the numbers of the messages on `rtb`, the counters, and
the copies that reception control keeps, in every state that a started
module can reach.
-/

namespace OpenSS7.Mtp2

open Program SlidingWindow

theorem SN_OUTSIDE_iff {M lower middle upper : Nat} (hl : lower < M)
    (hm : middle < M) (hu : upper < M) :
    SN_OUTSIDE lower middle upper = false ↔
      steps M lower middle ≤ steps M lower upper := by
  unfold SN_OUTSIDE steps
  split <;> simp only [decide_eq_false_iff_not] <;> split <;> omega

theorem map_sdu_set {rtb : List Msu} {i : Nat} {m : Msu}
    (found : rtb[i]? = some m) (hdr : List UInt8) :
    (rtb.set i { m with hdr := hdr }).map Msu.sdu = rtb.map Msu.sdu := by
  obtain ⟨inside, rfl⟩ := List.getElem?_eq_some_iff.1 found
  rw [List.map_set]
  conv_rhs => rw [← List.set_getElem_self inside, List.map_set]

namespace View

def modulus (v : View) : Nat := v.snMask + 1

structure Window (v : View) : Prop where
  mask : v.snMask = if v.option.xsn then 0x7fff else 0x7f
  first : v.txFFsn ≤ v.snMask
  last : v.txLFsn ≤ v.snMask
  numbered : ∀ i m, v.rtb[i]? = some m →
    m.fsn = (v.txFFsn + i) % v.modulus
  next : v.succ v.txLFsn = (v.txFFsn + v.rtb.length) % v.modulus
  copied : v.rxTFsn = v.txLFsn
  counted : v.Ct = v.rtb.length
  waiting : v.Cm = v.tb.length
  kept : v.clearRtb = false
  memory : v.indMem = []
  whole : v.underrun = false
  history : (v.released ++ v.rtb ++ v.tb).map Msu.sdu = v.submitted
  bound : v.option.pcr = false → v.reopened = false →
    v.rtb.length ≤ v.snMask ∧ (v.rtbFull = false → v.rtb.length < v.snMask)

end View

namespace View.Window

variable {v : View}

theorem pred_pred_eq (v : View) (wide : 0 < v.snMask) :
    v.pred (v.pred v.txFFsn) = (v.txFFsn + (v.snMask - 1)) % v.modulus := by
  have total : v.txFFsn + v.snMask + v.snMask =
      v.txFFsn + (v.snMask - 1) + v.modulus := by
    unfold View.modulus
    omega
  unfold View.pred
  rw [Nat.mod_add_mod, total]
  exact Nat.add_mod_right _ _

theorem sendFirst (window : v.Window) {m : Msu} {rest : List Msu}
    (head : v.tb = m :: rest) {full : Bool} (free : v.Free)
    (space : full = false → v.option.pcr = false →
      v.succ v.txLFsn ≠ v.pred (v.pred v.txFFsn)) (su : Su) :
    ((v.first m rest full).send su).Window where
  mask := window.mask
  first := window.first
  last := Nat.le_of_lt_succ (Nat.mod_lt _ (Nat.succ_pos _))
  numbered := by
    intro i m' at_
    simp only [View.send, View.first] at at_ ⊢
    rcases Nat.lt_or_ge i v.rtb.length with old | new
    · rw [List.getElem?_append_left old] at at_
      exact window.numbered i m' at_
    · rw [List.getElem?_append_right new] at at_
      rw [List.getElem?_singleton] at at_
      split at at_
      · have : i = v.rtb.length := by omega
        rw [← Option.some.inj at_, this]
        exact window.next
      · cases at_
  next := by
    simp only [View.send, View.first, View.succ, List.length_append,
      List.length_singleton]
    have next := window.next
    simp only [View.succ, View.modulus] at next
    rw [next, Nat.mod_add_mod]
    rfl
  copied := rfl
  counted := by
    simp only [View.send, View.first, window.counted, List.length_append,
      List.length_singleton]
    push_cast
    rfl
  waiting := by
    simp only [View.send, View.first, window.waiting, head, List.length_cons]
    push_cast
    ring
  kept := window.kept
  memory := window.memory
  whole := window.whole
  history := by
    have history := window.history
    rw [head] at history
    simpa [View.send, View.first] using history
  bound := by
    intro basic intact
    simp only [View.send, View.first, List.length_append,
      List.length_singleton] at basic intact ⊢
    have notFull : v.rtbFull = false := by
      rcases free with notFull | ⟨pcr, _⟩
      · exact notFull
      · simp [basic] at pcr
    have room := (window.bound basic intact).2 notFull
    refine ⟨room, fun stays => ?_⟩
    have apart := space stays basic
    rw [window.next, pred_pred_eq v (by omega)] at apart
    rcases Nat.lt_or_ge (v.rtb.length + 1) v.snMask with below | reached
    · exact below
    · exact absurd (by congr 2; omega) apart

theorem send (window : v.Window) (su : Su) : (v.send su).Window :=
  { window with }

theorem rewrite (window : v.Window) {i : Nat} {m : Msu}
    (found : v.rtb[i]? = some m) (hdr : List UInt8) (crossed : Bool) :
    { v with rtb := v.rtb.set i { m with hdr := hdr },
             crossed := crossed }.Window where
  mask := window.mask
  first := window.first
  last := window.last
  numbered := by
    intro j m' at_
    simp only [List.getElem?_set] at at_
    split at at_
    case isTrue same =>
      subst same
      split at at_
      · rw [← Option.some.inj at_]
        exact window.numbered i m found
      · cases at_
    case isFalse => exact window.numbered j m' at_
  next := by
    rw [List.length_set]
    exact window.next
  copied := window.copied
  counted := by
    rw [List.length_set]
    exact window.counted
  waiting := window.waiting
  kept := window.kept
  memory := window.memory
  whole := window.whole
  history := by
    rw [← window.history]
    simp only [List.map_append, map_sdu_set found]
  bound := by
    rw [List.length_set]
    exact window.bound

theorem closed : Closed View.Window := by
  intro v v' move window
  cases move with
  | fisu => exact window.send _
  | lssu => exact window.send _
  | first m rest full head free below space =>
      exact window.sendFirst head free space _
  | again i m fsn found => exact (window.rewrite found _ _).send _
  | stray su => exact { window with }
  | clear below =>
      refine { window with bound := fun basic intact => ?_ }
      dsimp only at basic intact ⊢
      simp only [basic, Bool.not_false, Bool.true_and, Bool.or_eq_false_iff,
        decide_eq_false_iff_not] at intact
      exact ⟨by omega, fun _ => by omega⟩
  | fsnx behind => exact { window with }
  | nack => exact { window with }
  | fib => exact { window with }
  | ind => exact { window with memory := by rw [window.memory]; rfl }

end View.Window

section Freeing

/-- The first `k` messages leave `rtb`. -/
def View.free (v : View) (k : Nat) : View :=
  { v with
    rtb := v.rtb.drop k
    Ct := v.Ct - k
    txFFsn := (v.txFFsn + k) % v.modulus
    released := v.released ++ v.rtb.take k }

theorem View.free_zero {v : View} (small : v.txFFsn ≤ v.snMask) :
    v.free 0 = v := by
  have number : v.txFFsn % v.modulus = v.txFFsn :=
    Nat.mod_eq_of_lt (Nat.lt_succ_of_le small)
  simp [View.free, number]

/-- `k` turns of the freeing loop on an `rtb` that long. -/
def Sl.free (s : Sl) (k : Nat) : Sl :=
  { s with
    rtb := s.rtb.drop k
    Ct := s.Ct - k
    txFFsn := (s.txFFsn + k) % (s.snMask + 1)
    released := s.released ++ s.rtb.take k }

theorem Sl.freeOne_eq {s : Sl} (nonempty : 0 < s.rtb.length) :
    s.freeOne = s.free 1 := by
  cases h : s.rtb with
  | nil => simp [h] at nonempty
  | cons m rest =>
      unfold Sl.freeOne Sl.free Sl.succ
      simp [h]

theorem Sl.free_one_free (s : Sl) (k : Nat) :
    (s.free 1).free k = s.free (k + 1) := by
  have taken : s.rtb.take 1 ++ (s.rtb.drop 1).take k =
      s.rtb.take (k + 1) := by
    rw [Nat.add_comm k 1, List.take_add]
  have number : ((s.txFFsn + 1) % (s.snMask + 1) + k) % (s.snMask + 1) =
      (s.txFFsn + (k + 1)) % (s.snMask + 1) := by
    rw [Nat.mod_add_mod, Nat.add_assoc, Nat.add_comm 1 k]
  have count : s.Ct - ((1 : Nat) : Int) - (k : Int) =
      s.Ct - ((k + 1 : Nat) : Int) := by
    push_cast
    ring
  unfold Sl.free
  dsimp only
  rw [List.drop_drop, Nat.add_comm 1 k, List.append_assoc, taken, number,
    count]

theorem Sl.freeAcknowledged_eq {s : Sl} {k fuel : Nat} (some_ : 0 < k)
    (held : k ≤ s.rtb.length) (wide : k ≤ s.snMask) (enough : k ≤ fuel)
    (target : (s.txFFsn + k) % (s.snMask + 1) = s.succ s.txRBsn) :
    s.freeAcknowledged fuel = some (s.free k) := by
  induction fuel generalizing s k with
  | zero => omega
  | succ fuel ih =>
      have one : s.freeOne = s.free 1 := Sl.freeOne_eq (by omega)
      rw [Sl.freeAcknowledged, one]
      rcases Nat.lt_or_ge 1 k with more | last
      · obtain ⟨k, rfl⟩ : ∃ j, k = j + 1 := ⟨k - 1, by omega⟩
        have apart : (s.free 1).txFFsn ≠ s.succ s.txRBsn := by
          rw [← target]
          intro same
          have := eq_of_modEq (M := s.snMask + 1) same (by omega) (by omega)
          omega
        have held' : k ≤ (s.rtb.drop 1).length := by
          rw [List.length_drop]
          omega
        have target' : ((s.txFFsn + 1) % (s.snMask + 1) + k) % (s.snMask + 1) =
            s.succ s.txRBsn := by
          rw [← target, Nat.mod_add_mod, Nat.add_assoc, Nat.add_comm 1 k]
        have rest := ih (s := s.free 1) (by omega) held'
          (show k ≤ s.snMask by omega) (by omega) target'
        rw [if_neg apart, rest, Sl.free_one_free]
      · obtain rfl : k = 1 := by omega
        exact if_pos target

theorem View.Window.free {v : View} (window : v.Window) {k : Nat}
    (held : k ≤ v.rtb.length) : (v.free k).Window where
  mask := window.mask
  first := Nat.le_of_lt_succ (Nat.mod_lt _ (Nat.succ_pos _))
  last := window.last
  numbered := by
    intro i m at_
    simp only [View.free, List.getElem?_drop] at at_ ⊢
    rw [window.numbered (k + i) m at_]
    show _ = ((v.txFFsn + k) % v.modulus + i) % v.modulus
    rw [Nat.mod_add_mod, Nat.add_assoc]
  next := by
    show v.succ v.txLFsn = ((v.txFFsn + k) % v.modulus +
      (v.rtb.drop k).length) % v.modulus
    rw [window.next, Nat.mod_add_mod, List.length_drop]
    congr 1
    omega
  copied := window.copied
  counted := by
    simp only [View.free, window.counted, List.length_drop]
    omega
  waiting := window.waiting
  kept := window.kept
  memory := window.memory
  whole := window.whole
  history := by
    have split : v.released ++ v.rtb.take k ++ v.rtb.drop k ++ v.tb =
        v.released ++ v.rtb ++ v.tb := by
      rw [List.append_assoc v.released, List.take_append_drop]
    exact (congrArg (List.map Msu.sdu) split).trans window.history
  bound := by
    intro basic intact
    have bound := window.bound basic intact
    simp only [View.free, List.length_drop]
    exact ⟨by omega, fun notFull => by have := bound.2 notFull; omega⟩

end Freeing

section Acknowledgement

namespace View

def Acceptable (v : View) : Prop :=
  ∃ k, k ≤ v.rtb.length ∧ k ≤ v.snMask ∧
    (v.txFFsn + k) % v.modulus = v.succ v.rxRBsn

theorem Window.acceptable {v : View} (window : v.Window)
    (agree : v.rxFFsn = v.txFFsn) (small : v.rxRBsn ≤ v.snMask)
    (inside : SN_OUTSIDE (v.pred v.rxFFsn) v.rxRBsn v.rxTFsn = false) :
    v.Acceptable := by
  have lower : v.pred v.txFFsn < v.modulus := Nat.mod_lt _ (Nat.succ_pos _)
  have middle : v.rxRBsn < v.modulus := Nat.lt_succ_of_le small
  have upper : v.txLFsn < v.modulus := Nat.lt_succ_of_le window.last
  have before : v.pred v.txFFsn + 1 ≡ v.txFFsn [MOD v.modulus] := by
    show ((v.txFFsn + v.snMask) % v.modulus + 1) % v.modulus = _
    rw [Nat.mod_add_mod, Nat.add_assoc]
    exact Nat.add_mod_right _ _
  have leads : v.pred v.txFFsn + v.rtb.length ≡ v.txLFsn [MOD v.modulus] := by
    apply Nat.ModEq.add_right_cancel' 1
    calc v.pred v.txFFsn + v.rtb.length + 1
        = v.pred v.txFFsn + 1 + v.rtb.length := by ring
      _ ≡ v.txFFsn + v.rtb.length [MOD v.modulus] := before.add_right _
      _ ≡ v.txLFsn + 1 [MOD v.modulus] := window.next.symm
  rw [agree, window.copied, SN_OUTSIDE_iff lower middle upper] at inside
  refine ⟨steps v.modulus (v.pred v.txFFsn) v.rxRBsn, ?_, ?_, ?_⟩
  · exact Nat.le_trans inside (steps_le lower upper leads)
  · exact Nat.le_of_lt_succ (steps_lt lower middle)
  · calc v.txFFsn + steps v.modulus (v.pred v.txFFsn) v.rxRBsn
        ≡ v.pred v.txFFsn + 1 + steps v.modulus (v.pred v.txFFsn) v.rxRBsn
          [MOD v.modulus] := before.symm.add_right _
      _ = v.pred v.txFFsn + steps v.modulus (v.pred v.txFFsn) v.rxRBsn + 1 :=
          by ring
      _ ≡ v.rxRBsn + 1 [MOD v.modulus] := (add_steps lower).add_right 1

theorem acceptable_closed : Closed Acceptable := by
  intro v v' move ⟨k, held, wide, target⟩
  cases move with
  | first m rest full head free below space =>
      refine ⟨k, ?_, wide, target⟩
      simp only [send, View.first, List.length_append]
      omega
  | again i m fsn found =>
      refine ⟨k, ?_, wide, target⟩
      simp only [send, List.length_set]
      exact held
  | _ => exact ⟨k, held, wide, target⟩

end View

variable {J : View → Prop} {E : Sl → Prop} (closed : Closed J)
  (memory : ∀ v, J v → v.indMem = [])

include closed memory

theorem ind_total (i : Ind) :
    Triple (fun s => J s.view) (ind i) (fun _ s => J s.view) E := by
  refine triple_get_bind fun s holds => ?_
  refine triple_bind (R := fun _ s => J s.view)
    (triple_modify fun _ eq => eq ▸ closed _ _ (.ind _) holds) fun _ =>
    triple_ite (fun _ => triple_modify fun _ holds => holds) fun failed => ?_
  have none : s.env.indMem = [] := memory _ holds
  simp [none] at failed

theorem slCheckCongestion_total :
    Triple (fun s => J s.view) slCheckCongestion (fun _ s => J s.view) E :=
  triple_bind (triple_get fun _ holds => holds) fun _ =>
    triple_bind (triple_modify fun _ holds => holds) fun _ =>
    triple_ite
      (fun _ => triple_ite (fun _ => ind_total closed memory _)
        fun _ => ind_total closed memory _)
      fun _ => triple_pure fun _ holds => holds

theorem slTxcRtbFreed_total :
    Triple (fun s => J s.view) slTxcRtbFreed (fun _ s => J s.view) E := by
  refine triple_bind (slCheckCongestion_total closed memory) fun _ =>
    triple_bind (slDaedtTransmitterWakeup_total closed) fun _ =>
    triple_bind (R := fun _ s => J s.view)
      (triple_modify fun s holds => ?_) fun _ =>
    triple_modify fun s holds => ?_
  · split
    case isTrue cleared =>
      refine closed _ _ (.clear s.view fun pcr => ?_) holds
      have pcr : s.option.pcr = true := pcr
      simp only [pcr, Bool.not_true, Bool.false_or, Sl.rtbBelow,
        decide_eq_true_eq] at cleared
      exact cleared.1
    case isFalse => exact holds
  · split
    case isTrue => exact holds
    case isFalse => exact holds

omit memory in
theorem slTxcRetransmissionStart_total :
    Triple (fun s => J s.view) slTxcRetransmissionStart (fun _ s => J s.view)
      E :=
  triple_bind (triple_modify fun _ holds => closed _ _ (.fib _) holds) fun _ =>
    slDaedtTransmitterWakeup_total closed

theorem slTxcBsnrAndBibr_total {P : View → Prop}
    (free : ∀ v, P v → v.clearRtb = false ∧ v.txFFsn ≤ v.snMask ∧
      ∃ k, k ≤ v.rtb.length ∧ k ≤ v.snMask ∧
        (v.txFFsn + k) % v.modulus = v.succ v.rxRBsn ∧
        J ({ v with txRBib := v.rxRBib }.free k)) :
    Triple (fun s => P s.view) slTxcBsnrAndBibr (fun _ s => J s.view) E := by
  have restart : Triple (fun s => J s.view) (do
      let s ← get
      if !s.option.pcr && decide (s.txNFib ≠ s.txRBib) then
        slTxcRetransmissionStart : SlM Unit) (fun _ s => J s.view) E :=
    triple_bind (triple_get fun _ holds => holds) fun _ => triple_ite
      (fun _ => slTxcRetransmissionStart_total closed)
      fun _ => triple_pure fun _ holds => holds
  refine triple_bind (R := fun _ s => ∃ v, P v ∧ s.txRBsn = v.rxRBsn ∧
      s.view = { v with txRBib := v.rxRBib })
    (triple_modify fun s holds => ⟨s.view, holds, rfl, rfl⟩) fun _ => ?_
  refine triple_get_bind fun s ⟨v, holds, received, same⟩ => ?_
  obtain ⟨kept, first, k, held, wide, target, next⟩ := free v holds
  have kept : s.clearRtb = false := (congrArg View.clearRtb same).trans kept
  refine triple_ite (fun cleared => absurd cleared (by simp [kept])) fun _ => ?_
  rw [← same] at next
  have mask : s.snMask = v.snMask := congrArg View.snMask same
  have first : s.txFFsn ≤ s.snMask := by
    rw [mask]
    exact (congrArg View.txFFsn same).trans_le first
  have target : (s.txFFsn + k) % (s.snMask + 1) = s.succ s.txRBsn := by
    have number : s.txFFsn = v.txFFsn := congrArg View.txFFsn same
    rw [Sl.succ, mask, number, received]
    exact target
  have unchanged : k = 0 ↔ s.txFFsn = s.succ s.txRBsn := by
    rw [← target]
    constructor
    · rintro rfl
      rw [Nat.add_zero, Nat.mod_eq_of_lt (by omega)]
    · intro level
      have : s.txFFsn ≡ s.txFFsn + k [MOD s.snMask + 1] := by
        rw [Nat.ModEq, ← level, Nat.mod_eq_of_lt (by omega)]
      have := eq_of_modEq this (by omega) (by omega)
      omega
  refine triple_ite (fun behind => ?_) fun level => ?_
  · have freed : s.freeAcknowledged (s.snMask + 1) = some (s.free k) := by
      have rtb : s.rtb = v.rtb := congrArg View.rtb same
      have some_ : 0 < k := Nat.pos_of_ne_zero (behind ∘ unchanged.1)
      exact Sl.freeAcknowledged_eq some_ (by rw [rtb]; exact held)
        (by omega) (by omega) target
    refine triple_bind (R := fun _ s => J s.view) (triple_modify ?_) fun _ =>
      triple_bind (slTxcRtbFreed_total closed memory) fun _ => restart
    rintro _ rfl
    rw [freed]
    exact next
  · obtain rfl : k = 0 := unchanged.2 (Decidable.not_not.1 level)
    rw [View.free_zero first] at next
    exact triple_conseq restart (fun _ eq => eq ▸ next) (fun _ _ h => h)
      (fun _ h => h)

end Acknowledgement

section Reception

def View.accept (v : View) (sdu : List UInt8) : View :=
  { v with rxXFsn := v.succ v.rxXFsn, accepted := v.accepted ++ [sdu] }

theorem Move.setFirst {v v' : View} (move : Move v v') (x : Nat) :
    Move { v with rxFFsn := x } { v' with rxFFsn := x } := by
  cases move with
  | fisu => exact .fisu _
  | lssu status => exact .lssu _ status
  | first m rest full head free below space =>
      exact .first { v with rxFFsn := x } m rest full head free below space
  | again i m fsn found =>
      exact .again { v with rxFFsn := x } i m fsn found
  | stray su => exact .stray _ su
  | clear below => exact .clear { v with rxFFsn := x } below
  | fsnx behind => exact .fsnx { v with rxFFsn := x } behind
  | nack => exact .nack _
  | fib => exact .fib _
  | ind => exact .ind _

structure Receives (J₀ J₁ J₂ : View → Prop) (sdu : List UInt8) : Prop where
  closed₀ : Closed J₀
  closed₁ : Closed J₁
  closed₂ : Closed J₂
  weaken₀ : ∀ v, J₀ v → J₂ v
  weaken₁ : ∀ v, J₁ v → J₂ v
  memory : ∀ v, J₁ v → v.indMem = []
  kept : ∀ v, J₀ v → v.clearRtb = false ∧ v.txFFsn ≤ v.snMask
  inside : ∀ v, J₀ v →
    SN_OUTSIDE (v.pred v.rxFFsn) v.rxRBsn v.rxTFsn = false → v.Acceptable
  frees : ∀ v k, J₀ v → k ≤ v.rtb.length → k ≤ v.snMask →
    (v.txFFsn + k) % v.modulus = v.succ v.rxRBsn →
    J₁ { { v with txRBib := v.rxRBib }.free k with
      rxFFsn := v.succ v.rxRBsn }
  accepts : ∀ v, J₁ v → v.rxRFsn = v.rxXFsn → 2 < v.rxLen →
    J₂ (v.accept sdu)

namespace Receives

variable {J₀ J₁ J₂ : View → Prop} {sdu : List UInt8}
  (rule : Receives J₀ J₁ J₂ sdu)

include rule

theorem acknowledge_leads :
    Triple (fun s => J₀ s.view ∧ s.view.Acceptable) acknowledge
      (fun _ s => J₁ s.view) (fun s => J₂ s.view) := by
  refine triple_bind (R := fun _ s =>
    J₁ { s.view with rxFFsn := s.view.succ s.view.rxRBsn }) ?_ fun _ =>
    triple_modify fun _ holds => holds
  refine slTxcBsnrAndBibr_total (P := fun v => J₀ v ∧ v.Acceptable)
    (J := fun v => J₁ { v with rxFFsn := v.succ v.rxRBsn }) ?_ ?_ ?_
  · intro v v' move holds
    have same : v'.succ v'.rxRBsn = v.succ v.rxRBsn := by cases move <;> rfl
    simp only [same]
    exact rule.closed₁ _ _ (move.setFirst _) holds
  · exact fun v => rule.memory { v with rxFFsn := v.succ v.rxRBsn }
  · rintro v ⟨holds, k, held, wide, target⟩
    obtain ⟨kept, first⟩ := rule.kept v holds
    exact ⟨kept, first, k, held, wide, target,
      rule.frees v k holds held wide target⟩

theorem acceptMsu_leads :
    Triple (fun s => J₁ s.view ∧ s.rxRFsn = s.rxXFsn ∧ 2 < s.rxLen)
      (acceptMsu sdu) (fun _ s => J₂ s.view) (fun s => J₂ s.view) := by
  refine triple_bind (R := fun _ s => J₂ s.view)
    (triple_modify fun s ⟨holds, number, long⟩ => ?_) fun _ =>
    keeps_bind keeps_get fun _ => keeps_ite (slCcBusy_keeps rule.closed₂)
      (slTxcFsnxValue_keeps rule.closed₂)
  exact rule.accepts s.view holds number long

theorem slLscFisuMsuReceived_leads :
    Triple (fun s => J₀ s.view ∧ s.view.Acceptable) slLscFisuMsuReceived
      (fun _ s => J₀ s.view ∧ s.view.Acceptable) (fun s => J₂ s.view) := by
  have closed : Closed fun v => J₀ v ∧ v.Acceptable := fun v v' move h =>
    ⟨rule.closed₀ v v' move h.1, View.acceptable_closed v v' move h.2⟩
  exact triple_conseq (slLscFisuMsuReceived_keeps closed) (fun _ h => h)
    (fun _ _ h => h) fun s h => rule.weaken₀ _ h.1

theorem accepted_leads {rest : Sl → SlM Unit}
    (each : ∀ s, J₁ s.view → Triple (fun s' => s = s') (rest s)
      (fun _ s => J₂ s.view) (fun s => J₂ s.view)) :
    Triple (fun s => J₁ s.view) (do
      let s ← get
      if s.msuFisuAccepted then
        slRbCongestionFunction
        let s ← get
        rest s
      else
        pure ()) (fun _ s => J₂ s.view) (fun s => J₂ s.view) := by
  refine triple_bind (R := fun _ s => J₁ s.view) (triple_get fun _ h => h)
    fun _ => triple_ite (fun _ => ?_) fun _ =>
      triple_pure fun s h => rule.weaken₁ _ h
  refine triple_bind (triple_conseq (slRbCongestionFunction_keeps rule.closed₁)
    (fun _ h => h) (fun _ _ h => h) fun _ h => rule.weaken₁ _ h) fun _ => ?_
  exact triple_get_bind each

theorem slRcPcr_leads :
    Triple (fun s => J₀ s.view ∧ s.view.Acceptable) (slRcPcr sdu)
      (fun _ s => J₂ s.view) (fun s => J₂ s.view) := by
  refine triple_bind rule.slLscFisuMsuReceived_leads fun _ =>
    triple_bind rule.acknowledge_leads fun _ =>
    rule.accepted_leads fun s holds => ?_
  refine triple_ite (fun _ => ?_) fun _ =>
    triple_ite (fun inSequence => ?_) fun _ => ?_
  · exact triple_conseq (slCcBusy_keeps rule.closed₂)
      (fun _ eq => eq ▸ rule.weaken₁ _ holds) (fun _ _ h => h) fun _ h => h
  · exact triple_conseq rule.acceptMsu_leads
      (fun _ eq => eq ▸ ⟨holds, inSequence⟩) (fun _ _ h => h) fun _ h => h
  · exact triple_pure fun _ eq => eq ▸ rule.weaken₁ _ holds

theorem slRcBasicInSequence_leads :
    Triple (fun s => J₀ s.view ∧ s.view.Acceptable) (slRcBasicInSequence sdu)
      (fun _ s => J₂ s.view) (fun s => J₂ s.view) := by
  refine triple_bind rule.slLscFisuMsuReceived_leads fun _ =>
    triple_bind rule.acknowledge_leads fun _ =>
    rule.accepted_leads fun s holds => ?_
  have ended := rule.weaken₁ _ holds
  refine triple_ite (fun _ => ?_) fun _ =>
      triple_ite (fun inSequence => ?_) fun _ =>
      triple_ite (fun _ => ?_) fun _ => triple_ite (fun _ => ?_) fun _ => ?_
  · exact triple_bind (R := fun _ (s : Sl) => J₂ s.view)
      (triple_modify fun _ eq => eq ▸ ended)
      fun _ => slCcBusy_keeps rule.closed₂
  · exact triple_bind (triple_modify fun _ eq => eq ▸ ⟨holds, inSequence⟩)
      fun _ => rule.acceptMsu_leads
  · exact triple_pure fun _ eq => eq ▸ ended
  · exact triple_bind (R := fun _ (s : Sl) => J₂ s.view)
      (triple_modify fun _ eq => eq ▸ ended)
      fun _ => slCcBusy_keeps rule.closed₂
  · exact triple_conseq (keeps_bind (slTxcNackToBeSent_keeps rule.closed₂)
      fun _ => keeps_quiet fun _ => rfl) (fun _ eq => eq ▸ ended)
      (fun _ _ h => h) fun _ h => h

theorem slRcBasic_leads :
    Triple (fun s => J₀ s.view ∧ s.view.Acceptable) (slRcBasic sdu)
      (fun _ s => J₂ s.view) (fun s => J₂ s.view) := by
  have weaken : ∀ s : Sl, J₀ s.view ∧ s.view.Acceptable → J₂ s.view :=
    fun _ h => rule.weaken₀ _ h.1
  refine triple_bind (R := fun _ s => J₀ s.view ∧ s.view.Acceptable)
    (triple_get fun _ h => h) fun s =>
    triple_ite (fun _ => triple_ite (fun _ => ?_) fun _ => ?_) fun _ =>
      triple_ite (fun _ => ?_) fun _ => triple_ite (fun _ => ?_) fun _ => ?_
  · exact triple_modify fun s h => weaken s h
  · exact triple_bind (triple_modify fun _ h => h) fun _ =>
      rule.slRcBasicInSequence_leads
  · exact triple_conseq (slLscLinkFailure_keeps rule.closed₂ _) weaken
      (fun _ _ h => h) fun _ h => h
  · exact triple_conseq rule.acknowledge_leads (fun _ h => h)
      (fun _ _ h => rule.weaken₁ _ h) fun _ h => h
  · exact triple_modify fun s h => weaken s h

theorem slRcFisuMsu_leads :
    Triple (fun s => J₀ s.view) (slRcFisuMsu sdu) (fun _ s => J₂ s.view)
      (fun s => J₂ s.view) := by
  refine triple_get_bind fun s holds => triple_ite
    (fun _ => triple_ite (fun _ => ?_) fun _ => ?_) fun inside =>
      triple_ite (fun _ => ?_) fun _ => ?_
  · refine triple_conseq (keeps_bind (slLscLinkFailure_keeps rule.closed₂ _)
      fun _ => keeps_quiet fun _ => rfl) (fun _ eq => ?_) (fun _ _ h => h)
      fun _ h => h
    exact eq ▸ rule.weaken₀ _ holds
  · exact triple_modify fun _ eq => eq ▸ rule.weaken₀ _ holds
  · exact triple_modify fun _ eq => eq ▸ rule.weaken₀ _ holds
  · have acceptable := rule.inside s.view holds (Bool.not_eq_true _ ▸ inside)
    refine triple_bind (R := fun _ s => J₀ s.view ∧ s.view.Acceptable)
      (triple_modify fun _ eq => eq ▸ ⟨holds, acceptable⟩) fun _ =>
      triple_ite (fun _ => rule.slRcPcr_leads) fun _ => rule.slRcBasic_leads

end Receives

theorem slRcSignalUnit_leads {J₀ J₁ J₂ : View → Prop} {octets : List UInt8}
    {s : Sl}
    (rule : Receives J₀ J₁ J₂
      (octets.drop (slRcDecode s.option.xsn octets).rptr))
    (idle : J₂ s.view) (decoded : J₀ (s.decode octets).view) :
    Triple (fun s' => s = s') (slRcSignalUnit octets) (fun _ s => J₂ s.view)
      (fun s => J₂ s.view) := by
  refine triple_get_bind ?_
  rintro _ rfl
  refine triple_ite (fun _ => ?_) fun _ => triple_pure fun _ eq => eq ▸ idle
  refine triple_bind (R := fun _ s' => s'.option = s.option ∧ J₀ s'.view)
    (triple_modify fun _ eq => by rw [← eq]; exact ⟨rfl, decoded⟩) fun _ => ?_
  refine triple_get_bind fun s' ⟨same, holds⟩ => triple_ite (fun _ => ?_)
    fun _ => ?_
  · exact triple_conseq (slRcLssu_keeps rule.closed₀ _)
      (fun _ eq => eq ▸ holds) (fun _ _ h => rule.weaken₀ _ h)
      fun _ h => rule.weaken₀ _ h
  · rw [same]
    exact triple_conseq rule.slRcFisuMsu_leads (fun _ eq => eq ▸ holds)
      (fun _ _ h => h) fun _ h => h

end Reception

end OpenSS7.Mtp2
