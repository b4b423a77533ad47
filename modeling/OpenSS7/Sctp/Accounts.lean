import Mathlib.Algebra.Group.Pi.Basic
import OpenSS7.Sctp.SendWindow

/-!
The four totals that are kept of the retransmission queue: rules for each way
in which they are adjusted, what each step keeps of them, and the steps that
adjust them wrongly.
-/

namespace OpenSS7.Sctp

open Serial Ledger

theorem Daddr.calc_inFlight (sd : Daddr) :
    sd.calc.inFlight = sd.inFlight - sd.ackAccum ∧ sd.calc.ackAccum = 0 := by
  unfold Daddr.calc
  simp only
  split
  · split <;> split <;> split <;> exact ⟨rfl, rfl⟩
  case isFalse none =>
    have zero : sd.ackAccum = 0 := by simpa using none
    split
    · exact ⟨by rw [zero]; rfl, zero⟩
    · exact ⟨by rw [zero]; rfl, zero⟩

theorem Daddr.reach_same (sd : Daddr) (tsn : Tsn) :
    (sd.reach tsn).inFlight = sd.inFlight ∧
      (sd.reach tsn).ackAccum = sd.ackAccum := by
  unfold Daddr.reach
  split <;> exact ⟨rfl, rfl⟩

namespace Sp

variable {danum : Nat} {sp : Sp danum} {d : Fin danum} {n dlen : Nat}

/-! ### The books -/

inductive Account (danum : Nat) where
  | assoc
  | dest (d : Fin danum)
  | retrans
  | sacked
  | clash
deriving DecidableEq

abbrev Totals (danum : Nat) := Account danum → Nat

variable {t : Totals danum}

def atAssoc (dlen : Nat) : Totals danum
  | .assoc => dlen
  | _ => 0

def atDest (d : Fin danum) (dlen : Nat) : Totals danum
  | .dest d' => if d = d' then dlen else 0
  | _ => 0

def flight (d : Fin danum) (dlen : Nat) : Totals danum :=
  atDest d dlen + atAssoc dlen

def one (a : Account danum) : Totals danum := fun a' => if a = a' then 1 else 0

/-- What a chunk on `rtxq` counts for. -/
def weigh (cb : Tcb danum) : Totals danum :=
  match cb.sacked, cb.retrans with
  | false, false => flight cb.daddr cb.dlen
  | false, true => one .retrans
  | true, false => one .sacked
  | true, true => one .retrans + (one .sacked + one .clash)

structure Balanced (sp : Sp danum) (t : Totals danum) : Prop where
  assoc : sp.inFlight = t .assoc
  dest : ∀ d, (sp.daddr d).inFlight = t (.dest d) + (sp.daddr d).ackAccum
  retrans : sp.nrtxs = t .retrans
  sacked : sp.nsack = t .sacked
  clash : t .clash = 0
  alarms : sp.alarms = 0

theorem check_true {ok : Bool} (holds : ok = true) : sp.check ok = sp := by
  rw [check, if_pos holds]

namespace Balanced

theorem redest {daddr : Fin danum → Daddr} (balanced : Balanced sp t)
    (same : ∀ d, (daddr d).inFlight = (sp.daddr d).inFlight ∧
      (daddr d).ackAccum = (sp.daddr d).ackAccum) :
    Balanced { sp with daddr := daddr } t := by
  refine { balanced with dest := fun d => ?_ }
  rw [(same d).1, (same d).2]
  exact balanced.dest d

theorem outstanding (balanced : Balanced sp t) :
    Balanced (sp.outstanding d n) (flight d n + t) := by
  constructor
  · change sp.inFlight + n = 0 + n + t .assoc
    rw [balanced.assoc, Nat.zero_add, Nat.add_comm]
  · intro d'
    have old := balanced.dest d'
    simp only [Sp.outstanding, setDaddr, Function.update_apply, flight,
      atDest, atAssoc, Pi.add_apply]
    by_cases same : d' = d
    · subst same
      simp only [if_true]
      omega
    · rw [if_neg same, if_neg (Ne.symm same)]
      omega
  · exact balanced.retrans.trans (Nat.zero_add _).symm
  · exact balanced.sacked.trans (Nat.zero_add _).symm
  · exact (Nat.zero_add _).trans balanced.clash
  · exact balanced.alarms

theorem creditAssoc (balanced : Balanced sp (atAssoc n + t)) :
    Balanced (sp.creditAssoc n) t := by
  have assoc : sp.inFlight = n + t .assoc := balanced.assoc
  unfold Sp.creditAssoc
  rw [check_true (by simp only [decide_eq_true_iff]; omega)]
  refine ⟨?_, fun d => ?_, ?_, ?_, ?_, balanced.alarms⟩
  · simp only
    omega
  · exact (balanced.dest d).trans (by simp [atAssoc])
  · exact balanced.retrans.trans (Nat.zero_add _)
  · exact balanced.sacked.trans (Nat.zero_add _)
  · exact (Nat.zero_add _).symm.trans balanced.clash

section Dest

variable (balanced : Balanced sp (atDest d n + t))

include balanced

theorem settle {sd : Daddr}
    (settled : sd.inFlight + (sp.daddr d).ackAccum + n =
      sd.ackAccum + (sp.daddr d).inFlight) :
    Balanced (sp.setDaddr d sd) t := by
  refine ⟨?_, fun d' => ?_, ?_, ?_, ?_, balanced.alarms⟩
  · exact balanced.assoc.trans (Nat.zero_add _)
  · have old := balanced.dest d'
    simp only [setDaddr, Function.update_apply, atDest, Pi.add_apply] at old ⊢
    by_cases same : d' = d
    · subst same
      simp only [if_true] at old ⊢
      omega
    · rw [if_neg (Ne.symm same)] at old
      rw [if_neg same]
      omega
  · exact balanced.retrans.trans (Nat.zero_add _)
  · exact balanced.sacked.trans (Nat.zero_add _)
  · exact (Nat.zero_add _).symm.trans balanced.clash

theorem covered : (sp.daddr d).ackAccum + n ≤ (sp.daddr d).inFlight := by
  have own := balanced.dest d
  simp only [Pi.add_apply, atDest, if_true] at own
  omega

theorem creditDest : Balanced (sp.creditDest d n) t := by
  have covered := balanced.covered
  unfold Sp.creditDest
  simp only
  rw [check_true (by simp only [decide_eq_true_iff]; omega)]
  apply balanced.settle
  simp only
  omega

theorem creditLater : Balanced (sp.creditLater d n) t := by
  have covered := balanced.covered
  unfold Sp.creditLater
  simp only
  rw [check_true (by simp only [decide_eq_true_iff]; omega)]
  apply balanced.settle
  simp only
  omega

end Dest

theorem creditNow (balanced : Balanced sp (flight d n + t)) :
    Balanced ((sp.creditDest d n).creditAssoc n) t := by
  rw [flight, add_assoc] at balanced
  exact balanced.creditDest.creditAssoc

theorem creditSoon (balanced : Balanced sp (flight d n + t)) :
    Balanced ((sp.creditLater d n).creditAssoc n) t := by
  rw [flight, add_assoc] at balanced
  exact balanced.creditLater.creditAssoc

theorem mark (balanced : Balanced sp t) :
    Balanced { sp with nrtxs := sp.nrtxs + 1 } (one .retrans + t) := by
  refine ⟨?_, fun d => ?_, ?_, ?_, ?_, balanced.alarms⟩
  · exact balanced.assoc.trans (Nat.zero_add _).symm
  · exact (balanced.dest d).trans (by simp [one])
  · exact (congrArg (· + 1) balanced.retrans).trans (Nat.add_comm _ _)
  · exact balanced.sacked.trans (Nat.zero_add _).symm
  · exact (Nat.zero_add _).trans balanced.clash

theorem sack (balanced : Balanced sp t) :
    Balanced { sp with nsack := sp.nsack + 1 } (one .sacked + t) := by
  refine ⟨?_, fun d => ?_, ?_, ?_, ?_, balanced.alarms⟩
  · exact balanced.assoc.trans (Nat.zero_add _).symm
  · exact (balanced.dest d).trans (by simp [one])
  · exact balanced.retrans.trans (Nat.zero_add _).symm
  · exact (congrArg (· + 1) balanced.sacked).trans (Nat.add_comm _ _)
  · exact (Nat.zero_add _).trans balanced.clash

theorem unmark (balanced : Balanced sp (one .retrans + t)) :
    Balanced sp.unmark t := by
  have count : sp.nrtxs = 1 + t .retrans := balanced.retrans
  unfold Sp.unmark
  rw [check_true (by simp only [decide_eq_true_iff]; omega)]
  refine ⟨?_, fun d => ?_, ?_, ?_, ?_, balanced.alarms⟩
  · exact balanced.assoc.trans (Nat.zero_add _)
  · exact (balanced.dest d).trans (by simp [one])
  · simp only
    omega
  · exact balanced.sacked.trans (Nat.zero_add _)
  · exact (Nat.zero_add _).symm.trans balanced.clash

theorem unsack (balanced : Balanced sp (one .sacked + t)) :
    Balanced sp.unsack t := by
  have count : sp.nsack = 1 + t .sacked := balanced.sacked
  unfold Sp.unsack
  rw [check_true (by simp only [decide_eq_true_iff]; omega)]
  refine ⟨?_, fun d => ?_, ?_, ?_, ?_, balanced.alarms⟩
  · exact balanced.assoc.trans (Nat.zero_add _)
  · exact (balanced.dest d).trans (by simp [one])
  · exact balanced.retrans.trans (Nat.zero_add _)
  · simp only
    omega
  · exact (Nat.zero_add _).symm.trans balanced.clash

end Balanced

/-! ### The loops -/

variable {cb : Tcb danum}

theorem weigh_flying (cb : Tcb danum)
    (sacked : cb.sacked = false) (retrans : cb.retrans = false) :
    weigh cb = flight cb.daddr cb.dlen := by
  simp only [weigh, sacked, retrans]

theorem weigh_retrans (cb : Tcb danum)
    (sacked : cb.sacked = false) (retrans : cb.retrans = true) :
    weigh cb = one .retrans := by
  simp only [weigh, sacked, retrans]

theorem weigh_sacked (cb : Tcb danum)
    (sacked : cb.sacked = true) (retrans : cb.retrans = false) :
    weigh cb = one .sacked := by
  simp only [weigh, sacked, retrans]

theorem weigh_moved
    (settled : cb.retrans = false → cb.sacked = false → d = cb.daddr) :
    weigh { cb with daddr := d } = weigh cb := by
  obtain ⟨tsn, dlen, daddr, sent, retrans, sacked, ack, nack, sacks⟩ := cb
  cases retrans with
  | true => cases sacked <;> rfl
  | false =>
      cases sacked with
      | true => rfl
      | false =>
          have same : d = daddr := settled rfl rfl
          subst same
          rfl

theorem Balanced.apart (balanced : Balanced sp (weigh cb + t))
    (sacked : cb.sacked = true) : cb.retrans = false := by
  rw [← Bool.not_eq_true]
  intro retrans
  have clash := balanced.clash
  simp [weigh, sacked, retrans, one] at clash

theorem acknowledge_fair {ack : Tsn} {sp' : Sp danum} {t : Totals danum}
    (balanced : Balanced sp (weigh cb + t))
    (acted : acknowledge ack sp cb = some sp') : Balanced sp' t := by
  have freed : ∀ {sp : Sp danum} {tsns : List Tsn}, Balanced sp t →
      Balanced { sp with freed := tsns } t := fun balanced =>
    ⟨balanced.assoc, balanced.dest, balanced.retrans, balanced.sacked,
      balanced.clash, balanced.alarms⟩
  unfold acknowledge at acted
  split at acted
  · cases acted
  · cases acted
    apply freed
    cases sacked : cb.sacked with
    | true =>
        rw [weigh_sacked cb sacked (balanced.apart sacked)] at balanced
        exact balanced.unsack
    | false =>
        cases retrans : cb.retrans with
        | true =>
            rw [weigh_retrans cb sacked retrans] at balanced
            exact balanced.unmark
        | false =>
            rw [weigh_flying cb sacked retrans] at balanced
            exact balanced.creditSoon

theorem Balanced.timeoutRetrans (balanced : Balanced sp (weigh cb + t)) :
    Balanced (timeoutRetrans d sp cb).1
      (weigh ((timeoutRetrans d sp cb).2.getD cb) + t) := by
  unfold Sp.timeoutRetrans
  split
  case isTrue here =>
    obtain ⟨rfl, -, retrans, sacked⟩ := here
    rw [weigh_flying cb sacked retrans] at balanced
    rw [Option.getD_some, weigh_retrans
      { cb with retrans := true, sacks := frCount } sacked rfl]
    have marked := balanced.mark
    rw [add_left_comm] at marked
    exact marked.creditNow
  case isFalse => exact balanced

theorem Balanced.retransmit {b : Bundling danum}
    (balanced : Balanced b.sp (weigh cb + t)) :
    Balanced (retransmit d b cb).1.sp
      (weigh ((retransmit d b cb).2.getD cb) + t) := by
  unfold Sp.retransmit
  simp only
  split
  · exact balanced
  · split
    · exact balanced
    case isFalse marked =>
      split
      · exact balanced
      · split
        · exact balanced
        · have retrans : cb.retrans = true := by simpa using marked
          have sacked : cb.sacked = false := by
            rw [← Bool.not_eq_true]
            intro sacked
            rw [balanced.apart sacked] at retrans
            cases retrans
          rw [weigh_retrans cb sacked retrans] at balanced
          rw [Option.getD_some, weigh_flying
            { cb with retrans := false, daddr := d } sacked rfl]
          exact balanced.unmark.outstanding

theorem Balanced.fastRetransmit (balanced : Balanced sp (weigh cb + t))
    (sacked : cb.sacked = false) :
    Balanced (sp.fastRetransmit cb).1 (weigh (sp.fastRetransmit cb).2 + t) ∧
      (sp.fastRetransmit cb).2.sacked = false := by
  unfold Sp.fastRetransmit
  split
  case isTrue eligible =>
    have retrans : cb.retrans = false := by
      cases retrans : cb.retrans with
      | false => rfl
      | true => simp [retrans] at eligible
    simp only
    split
    · refine ⟨?_, sacked⟩
      rw [weigh_flying cb sacked retrans] at balanced
      rw [weigh_retrans { cb with sacks := cb.sacks + 1, retrans := true }
        sacked rfl]
      have marked := balanced.mark
      rw [add_left_comm] at marked
      apply Balanced.creditNow
      refine marked.redest fun d => ?_
      rw [Function.update_apply]
      split
      case isTrue same => exact same ▸ ⟨rfl, rfl⟩
      case isFalse => exact ⟨rfl, rfl⟩
    · exact ⟨balanced, sacked⟩
  case isFalse => exact ⟨balanced, sacked⟩

theorem Balanced.walk (balanced : Balanced sp (weigh cb + t))
    (ok : cb.nack = true → cb.ack = true ∨ cb.sacked = false) :
    Balanced (walk sp cb).1 (weigh ((walk sp cb).2.getD cb) + t) := by
  obtain ⟨tsn, dlen, daddr, sent, retrans, sacked, ack, nack, sacks⟩ := cb
  cases ack with
  | true =>
      cases sacked with
      | true => exact balanced
      | false =>
          cases retrans with
          | true =>
              have marked : Balanced sp (one .retrans + t) := balanced
              have counted := marked.sack
              rw [add_left_comm] at counted
              exact counted.unmark
          | false =>
              have flying : Balanced sp (flight daddr dlen + t) := balanced
              have counted := flying.sack
              rw [add_left_comm] at counted
              exact counted.creditNow
  | false =>
      cases nack with
      | true =>
          have unsacked := (ok rfl).resolve_left (by simp)
          have same : Balanced sp (weigh ⟨tsn, dlen, daddr, sent, retrans,
            sacked, false, false, sacks⟩ + t) := balanced
          obtain ⟨fast, still⟩ := same.fastRetransmit unsacked
          simp only [Sp.walk, Bool.false_eq_true, if_false, if_true, still,
            Option.getD_some]
          exact fast
      | false => exact balanced

/-! ### The steps -/

structure Books (sp : Sp danum) : Prop where
  balanced : Balanced sp (total weigh sp.rtxq)
  owed : ∀ d, (sp.daddr d).ackAccum = 0

theorem Balanced.requeue {rtxq : List (Tcb danum)}
    (balanced : Balanced sp t) : Balanced { sp with rtxq := rtxq } t :=
  ⟨balanced.assoc, balanced.dest, balanced.retrans, balanced.sacked,
    balanced.clash, balanced.alarms⟩

theorem Balanced.sweepRtxq (ok : Tcb danum → Prop)
    {act : Sp danum → Tcb danum → Sp danum × Option (Tcb danum)}
    (fair : ∀ sp cb t, ok cb → Balanced sp (weigh cb + t) →
      Balanced (act sp cb).1 (weigh ((act sp cb).2.getD cb) + t))
    (all : ∀ cb ∈ sp.rtxq, ok cb)
    (balanced : Balanced sp (total weigh sp.rtxq)) :
    Balanced (sp.sweepRtxq act) (total weigh (sp.sweepRtxq act).rtxq) := by
  have start : Balanced sp (total weigh sp.rtxq + 0) := by
    rwa [add_zero]
  have swept := sweep_balanced fair 0 all start
  rw [add_zero] at swept
  exact swept.requeue

/-- No step but `sctp_cumm_ack` leaves a destination to be credited. -/
def owing (sp : Sp danum) (d : Fin danum) : Nat := (sp.daddr d).ackAccum

theorem Balanced.transmit (balanced : Balanced sp (total weigh sp.rtxq)) :
    Balanced (sp.transmit d n) (total weigh (sp.transmit d n).rtxq) := by
  have sent := balanced.outstanding (d := d) (n := n)
  have total : total weigh (sp.transmit d n).rtxq =
      flight d n + total weigh sp.rtxq := by
    simp only [Sp.transmit, total_append, total_cons, total_nil, add_zero]
    exact add_comm _ _
  rw [total]
  exact ⟨sent.assoc, sent.dest, sent.retrans, sent.sacked, sent.clash,
    sent.alarms⟩

theorem owing_outstanding (sp : Sp danum) (d : Fin danum) (n : Nat) :
    (sp.outstanding d n).owing = sp.owing := by
  funext d'
  simp only [owing, outstanding, setDaddr, Function.update_apply]
  split
  case isTrue same => rw [same]
  case isFalse => rfl

theorem Books.bundleData {ckp : BundleCookie} {queue : List Nat}
    (books : Books sp) : Books (bundleData d sp ckp queue).1.sp := by
  induction queue generalizing sp ckp with
  | nil => exact books
  | cons dlen rest ih =>
      rw [Sp.bundleData]
      split
      · exact books
      · split
        · exact books
        · split
          · exact books
          · apply ih
            refine ⟨books.balanced.transmit, fun d' => ?_⟩
            exact (congrFun (sp.owing_outstanding d dlen) d').trans
              (books.owed d')

theorem Books.sctpBundleDataRetrans {ckp : BundleCookie} (books : Books sp) :
    Books (sp.sctpBundleDataRetrans d ckp).sp := by
  constructor
  · have start : Balanced sp (total weigh sp.rtxq + 0) := by
      rw [add_zero]
      exact books.balanced
    have swept := @sweep_balanced _ (Bundling danum) _ _ weigh
      (fun b t => Balanced b.sp t) (fun _ => True) (retransmit d)
      (fun b cb t _ balanced => balanced.retransmit) ⟨sp, ckp, false⟩ sp.rtxq 0
      (fun _ _ => trivial) start
    rw [add_zero] at swept
    exact swept.requeue
  · intro d'
    refine Eq.trans ?_ (books.owed d')
    refine congrFun (sweep_keeps (fun b : Bundling danum => b.sp.owing) ?_
      _ _) d'
    intro b cb
    unfold Sp.retransmit
    simp only
    split
    · rfl
    · split
      · rfl
      · split
        · rfl
        · split
          · rfl
          · simp only [owing_outstanding]
            unfold unmark check
            split <;> rfl

theorem Balanced.sctpDestCalc
    (balanced : Balanced sp (total weigh sp.rtxq)) :
    Books sp.sctpDestCalc := by
  have covered : ∀ d, (sp.daddr d).ackAccum ≤ (sp.daddr d).inFlight := by
    intro d
    rw [balanced.dest d]
    exact Nat.le_add_left _ _
  unfold Sp.sctpDestCalc
  rw [check_true (decide_eq_true covered)]
  constructor
  · refine { balanced with dest := fun d => ?_ }
    have old := balanced.dest d
    have settled := Daddr.calc_inFlight (sp.daddr d)
    simp only [settled.1, settled.2]
    omega
  · intro d
    exact (Daddr.calc_inFlight (sp.daddr d)).2

theorem Balanced.sctpCummAck (balanced : Balanced sp (total weigh sp.rtxq))
    (ack : Tsn) :
    Balanced (sp.sctpCummAck ack)
      (total weigh (sp.sctpCummAck ack).rtxq) := by
  have start : Balanced { sp with
      tAck := ack
      numAcked := sp.numAcked + (ack - sp.tAck).toNat
      daddr := fun d => (sp.daddr d).reach ack }
      (total weigh sp.rtxq) := by
    have reached := balanced.redest (fun d => Daddr.reach_same (sp.daddr d) ack)
    exact ⟨reached.assoc, reached.dest, reached.retrans, reached.sacked,
      reached.clash, reached.alarms⟩
  have drained := @drain_balanced _ _ _ _ weigh Balanced (acknowledge ack)
    (fun _ balanced acted => acknowledge_fair balanced acted) _ _ start
  exact drained.requeue

def Alike (daddr daddr' : Fin danum → Daddr) : Prop :=
  ∀ d, (daddr' d).inFlight = (daddr d).inFlight ∧
    (daddr' d).ackAccum = (daddr d).ackAccum

theorem Alike.trans {daddr daddr' daddr'' : Fin danum → Daddr}
    (first : Alike daddr daddr') (second : Alike daddr' daddr'') :
    Alike daddr daddr'' := fun d =>
  ⟨(second d).1.trans (first d).1, (second d).2.trans (first d).2⟩

theorem reached_alike (found : List (Tcb danum))
    (daddr : Fin danum → Daddr) :
    Alike daddr (found.foldl (fun daddr cb => Function.update daddr cb.daddr
      ((daddr cb.daddr).reach cb.tsn)) daddr) := by
  induction found generalizing daddr with
  | nil => exact fun d => ⟨rfl, rfl⟩
  | cons cb found ih =>
      have first : Alike daddr (Function.update daddr cb.daddr
          ((daddr cb.daddr).reach cb.tsn)) := by
        intro d
        rw [Function.update_apply]
        split
        case isTrue same => exact same ▸ Daddr.reach_same _ _
        case isFalse => exact ⟨rfl, rfl⟩
      exact first.trans (ih _)

theorem markGaps_same (ack : Tsn) (daddr : Fin danum → Daddr)
    (gaps : List (BitVec 16 × BitVec 16)) (dp : List (Tcb danum)) :
    Alike daddr (markGaps ack daddr gaps dp).1 ∧
      total weigh (markGaps ack daddr gaps dp).2 = total weigh dp := by
  have missing : ∀ l : List (Tcb danum), total weigh
      (l.map fun cb => { cb with nack := true }) = total weigh l :=
    fun l => total_map weigh fun _ _ => rfl
  have found : ∀ l : List (Tcb danum), total weigh
      (l.map fun cb => { cb with ack := true }) = total weigh l :=
    fun l => total_map weigh fun _ _ => rfl
  induction gaps generalizing daddr dp with
  | nil => exact ⟨fun d => ⟨rfl, rfl⟩, rfl⟩
  | cons block gaps ih =>
      rw [markGaps]
      split
      · exact ih daddr dp
      · refine ⟨(reached_alike _ daddr).trans (ih _ _).1, ?_⟩
        simp only
        rw [total_append, total_append, (ih _ _).2, missing, found, add_assoc,
          ← total_append, List.takeWhile_append_dropWhile, ← total_append,
          List.takeWhile_append_dropWhile]

/-! ### The runs -/

def Reneges (sp : Sp danum) (m : Sack) : Prop :=
  sp.state.sending = true ∧
    sackLen m.ngaps.toNat m.ndups.toNat ≤ m.len.toNat ∧
    before m.cTsn sp.tAck = false ∧ after m.cTsn sp.tAck = false ∧
    if m.ngaps = 0 then ∃ cb ∈ sp.rtxq, cb.sacked = true
    else (∃ d, (sp.daddr d).inFlight ≠ 0 ∧ 0 < (sp.daddr d).rto) ∧
      ∃ cb ∈ (sp.marked m.cTsn (m.gaps.take m.ngaps.toNat)).rtxq,
        cb.nack = true ∧ cb.ack = false ∧ cb.sacked = true

def Strands (sp : Sp danum) (taddr : Fin danum)
    (route : Option (Fin danum)) (retry : List Tsn) : Prop :=
  sp.state = .cookieEchoed ∧ ∃ cb ∈ sp.rtxq, cb.retrans = false ∧
    (cb.daddr = taddr ∨ cb.tsn ∈ retry ∧ cb.sacked = false ∧
      ∃ d ∈ route, d ≠ cb.daddr)

def Credits (sp : Sp danum) : Event danum → Prop
  | .sack m => ¬ Reneges sp m
  | .cookieTimeout taddr route retry => ¬ Strands sp taddr route retry
  | _ => True

theorem Books.processGaps (books : Books sp) {m : Sack}
    (ok : if m.ngaps = 0 then ∀ cb ∈ sp.rtxq, cb.sacked = false
      else (∃ d, (sp.daddr d).inFlight ≠ 0 ∧ 0 < (sp.daddr d).rto) →
        ∀ cb ∈ (sp.marked m.cTsn (m.gaps.take m.ngaps.toNat)).rtxq,
          cb.nack = true → cb.ack = true ∨ cb.sacked = false) :
    Balanced (sp.processGaps m) (total weigh (sp.processGaps m).rtxq) := by
  unfold Sp.processGaps
  split
  case isTrue none =>
    rw [if_pos none] at ok
    split
    · exact books.balanced
    · have unchanged : sweep renege sp sp.rtxq = (sp, sp.rtxq) := by
        apply sweep_same
        intro cb member
        rw [renege, if_neg (by simp [ok cb member])]
      unfold Sp.sweepRtxq
      rw [unchanged]
      exact books.balanced
  case isFalse some =>
    rw [if_neg some] at ok
    split
    case isTrue some =>
      have marks := markGaps_same m.cTsn sp.daddr
        (m.gaps.take m.ngaps.toNat) sp.rtxq
      have marked : Balanced
          (sp.marked m.cTsn (m.gaps.take m.ngaps.toNat)) (total weigh
            (sp.marked m.cTsn (m.gaps.take m.ngaps.toNat)).rtxq) := by
        have start := books.balanced
        rw [← marks.2] at start
        exact (start.redest marks.1).requeue
      exact marked.sweepRtxq _
        (fun _ _ _ here balanced => balanced.walk here) (ok some)
    case isFalse => exact books.balanced

theorem Books.aside {sp' : Sp danum} (books : Books sp)
    (same : sp'.inFlight = sp.inFlight ∧ sp'.daddr = sp.daddr ∧
      sp'.nrtxs = sp.nrtxs ∧ sp'.nsack = sp.nsack ∧
      sp'.alarms = sp.alarms ∧ sp'.rtxq = sp.rtxq) : Books sp' := by
  obtain ⟨inFlight, daddr, nrtxs, nsack, alarms, rtxq⟩ := same
  obtain ⟨⟨assoc, dest, retrans, sacked, clash, quiet⟩, owed⟩ := books
  rw [← rtxq] at assoc dest retrans sacked clash
  refine ⟨⟨inFlight.trans assoc, ?_, nrtxs.trans retrans,
    nsack.trans sacked, clash, alarms.trans quiet⟩, ?_⟩
  · rw [daddr]
    exact dest
  · rw [daddr]
    exact owed

theorem Books.sctpRecvSack (books : Books sp) {m : Sack}
    (ok : ¬ Reneges sp m) : Books (sp.sctpRecvSack m) := by
  unfold Sp.sctpRecvSack
  split
  · exact books
  case isFalse sending =>
    split
    · exact books
    case isFalse long =>
      split
      · exact books
      case isFalse new =>
        simp only
        have same : Books { sp with
            pRbuf := max sp.pRbuf m.aRwnd.toNat
            pRwnd := m.aRwnd.toNat } :=
          books.aside ⟨rfl, rfl, rfl, rfl, rfl, rfl⟩
        apply Balanced.sctpDestCalc
        split
        · exact same.balanced.sctpCummAck m.cTsn
        case isFalse old =>
          apply same.processGaps
          simp only [Bool.not_eq_true, Bool.not_eq_false'] at sending new old
          split
          case isTrue none =>
            intro cb member
            rw [← Bool.not_eq_true]
            intro sacked
            refine ok ⟨sending, not_lt.1 long, new, old, ?_⟩
            rw [if_pos none]
            exact ⟨cb, member, sacked⟩
          case isFalse some =>
            intro flying cb member nack
            by_contra neither
            simp only [not_or, Bool.not_eq_true, Bool.not_eq_false]
              at neither
            refine ok ⟨sending, not_lt.1 long, new, old, ?_⟩
            rw [if_neg some]
            exact ⟨flying, cb, member, nack, neither.1, neither.2⟩

theorem Books.sctpShutdownAckCalc (books : Books sp) (ack : Tsn) :
    Books (sp.sctpShutdownAckCalc ack) := by
  unfold Sp.sctpShutdownAckCalc
  split
  · exact books
  · apply Balanced.sctpDestCalc
    split
    · exact books.balanced.sctpCummAck ack
    · exact books.balanced

theorem Books.sctpRecvShutdown (books : Books sp) (ack : Tsn) :
    Books (sp.sctpRecvShutdown ack) := by
  have moved : ∀ state, Books { sp with state := state } :=
    fun _ => books.aside ⟨rfl, rfl, rfl, rfl, rfl, rfl⟩
  unfold Sp.sctpRecvShutdown
  split
  · exact books
  · split
    · exact moved _
    · split
      · exact (moved _).sctpShutdownAckCalc ack
      · exact (moved _).sctpShutdownAckCalc ack
      · exact books.sctpShutdownAckCalc ack
      · exact books.sctpShutdownAckCalc ack
      · exact books.sctpShutdownAckCalc ack
      · exact books

theorem owing_check (sp : Sp danum) (ok : Bool) :
    (sp.check ok).owing = sp.owing := by
  unfold check
  split <;> rfl

theorem owing_creditDest (sp : Sp danum) (d : Fin danum) (n : Nat) :
    (sp.creditDest d n).owing = sp.owing := by
  funext d'
  have checked := congrFun
    (sp.owing_check (decide (n ≤ (sp.daddr d).inFlight))) d'
  simp only [owing, creditDest, setDaddr, Function.update_apply] at checked ⊢
  split
  case isTrue same => rw [same]
  case isFalse => exact checked

theorem Books.sctpRetransTimeout (books : Books sp) (d : Fin danum) :
    Books (sp.sctpRetransTimeout d) := by
  unfold Sp.sctpRetransTimeout
  split
  · exact books
  · refine ⟨books.balanced.sweepRtxq (fun _ => True)
      (fun _ _ _ _ balanced => balanced.timeoutRetrans) fun _ _ => trivial, ?_⟩
    intro d'
    refine Eq.trans ?_ (books.owed d')
    refine congrFun (sweep_keeps Sp.owing ?_ sp sp.rtxq) d'
    intro sp cb
    unfold timeoutRetrans
    split
    · exact (owing_check _ _).trans (owing_creditDest _ _ _)
    · rfl

theorem Books.sctpCookieTimeout {taddr : Fin danum}
    {route : Option (Fin danum)} {retry : List Tsn} (books : Books sp)
    (ok : ¬ Strands sp taddr route retry) :
    Books (sp.sctpCookieTimeout taddr route retry) := by
  unfold Sp.sctpCookieTimeout
  split
  · exact books
  case isFalse echoed =>
    have echoed : sp.state = .cookieEchoed := by simpa using echoed
    have unchanged : sweep (timeoutCookie taddr) sp sp.rtxq =
        (sp, sp.rtxq) := by
      apply sweep_same
      intro cb member
      rw [timeoutCookie, if_neg]
      rintro ⟨here, -, retrans⟩
      exact ok ⟨echoed, cb, member, retrans, .inl here⟩
    unfold Sp.sweepRtxq
    rw [unchanged]
    cases route with
    | none => exact books
    | some d =>
        have weights : ∀ cb ∈ sp.rtxq, weigh
            (if cb.tsn ∈ retry then { cb with daddr := d } else cb) =
              weigh cb := by
          intro cb member
          split
          case isTrue hangs =>
            apply weigh_moved
            intro retrans sacked
            by_contra other
            exact ok ⟨echoed, cb, member, retrans,
              .inr ⟨hangs, sacked, d, rfl, other⟩⟩
          case isFalse => rfl
        refine ⟨?_, books.owed⟩
        simp only
        rw [total_map weigh weights]
        exact books.balanced.requeue

theorem Books.handle (books : Books sp) (event : Event danum)
    (ok : sp.Credits event) : Books (sp.handle event) := by
  cases event with
  | write urgent dlen =>
      cases urgent <;> exact books.aside ⟨rfl, rfl, rfl, rfl, rfl, rfl⟩
  | bundleUrgent d ckp =>
      have sent : Books (Sp.bundleData d sp ckp sp.urgq).1.sp :=
        books.bundleData
      exact sent.aside ⟨rfl, rfl, rfl, rfl, rfl, rfl⟩
  | bundleNormal d ckp =>
      have sent : Books (Sp.bundleData d sp ckp sp.sndq).1.sp :=
        books.bundleData
      exact sent.aside ⟨rfl, rfl, rfl, rfl, rfl, rfl⟩
  | bundleRetrans d ckp => exact books.sctpBundleDataRetrans
  | sack m => exact books.sctpRecvSack ok
  | shutdown ack => exact books.sctpRecvShutdown ack
  | retransTimeout d => exact books.sctpRetransTimeout d
  | cookieTimeout taddr route retry => exact books.sctpCookieTimeout ok
  | state state => exact books.aside ⟨rfl, rfl, rfl, rfl, rfl, rfl⟩
  | rto d rto =>
      have same : Alike sp.daddr
          (Function.update sp.daddr d { sp.daddr d with rto := rto }) := by
        intro d'
        rw [Function.update_apply]
        split
        case isTrue same => exact same ▸ ⟨rfl, rfl⟩
        case isFalse => exact ⟨rfl, rfl⟩
      exact ⟨books.balanced.redest same, fun d' =>
        (same d').2.trans (books.owed d')⟩

theorem Books.initial (tag : Tsn) (state : State)
    (dests : Fin danum → Daddr) (rwnd sndbuf : Nat) (rx : Rx) :
    Books (Sp.initial tag state dests rwnd sndbuf rx) :=
  ⟨⟨rfl, fun _ => rfl, rfl, rfl, rfl, rfl⟩, fun _ => rfl⟩

def flying (cb : Tcb danum) : Bool := !cb.sacked && !cb.retrans

/-- The totals are those of `rtxq`, and no check has ever failed. -/
structure Accounted (sp : Sp danum) : Prop where
  assoc : sp.inFlight = ((sp.rtxq.filter flying).map Tcb.dlen).sum
  dest : ∀ d, (sp.daddr d).inFlight =
    ((sp.rtxq.filter fun cb => flying cb && cb.daddr = d).map Tcb.dlen).sum
  nrtxs : sp.nrtxs = sp.rtxq.countP Tcb.retrans
  nsack : sp.nsack = sp.rtxq.countP Tcb.sacked
  unsaturated : sp.alarms = 0

theorem total_weigh (q : List (Tcb danum))
    (apart : (total weigh q) .clash = 0) :
    (total weigh q) .assoc = ((q.filter flying).map Tcb.dlen).sum ∧
      (∀ d, (total weigh q) (.dest d) =
        ((q.filter fun cb => flying cb && cb.daddr = d).map Tcb.dlen).sum) ∧
      (total weigh q) .retrans = q.countP Tcb.retrans ∧
      (total weigh q) .sacked = q.countP Tcb.sacked := by
  induction q with
  | nil => exact ⟨rfl, fun _ => rfl, rfl, rfl⟩
  | cons cb q ih =>
      rw [total_cons, Pi.add_apply] at apart
      obtain ⟨assoc, dest, retrans, sacked⟩ := ih (by omega)
      have alone : weigh cb .clash = 0 := by omega
      simp only [total_cons, Pi.add_apply, assoc, dest, retrans, sacked]
      cases isSacked : cb.sacked with
      | true =>
          cases isRetrans : cb.retrans with
          | true => simp [weigh, isSacked, isRetrans, one] at alone
          | false =>
              simp [weigh, flying, isSacked, isRetrans, one, Nat.add_comm]
      | false =>
          cases isRetrans : cb.retrans with
          | true =>
              simp [weigh, flying, isSacked, isRetrans, one, Nat.add_comm]
          | false =>
              refine ⟨?_, fun d => ?_, ?_, ?_⟩
              · simp [weigh, flying, isSacked, isRetrans, flight, atAssoc,
                  atDest]
              · by_cases here : cb.daddr = d <;>
                  simp [weigh, flying, isSacked, isRetrans, flight, atAssoc,
                    atDest, here]
              · simp [weigh, isSacked, isRetrans, flight, atAssoc, atDest]
              · simp [weigh, isSacked, isRetrans, flight, atAssoc, atDest]

theorem Books.accounted (books : Books sp) : Accounted sp := by
  obtain ⟨balanced, owed⟩ := books
  obtain ⟨assoc, dest, retrans, sacked⟩ :=
    total_weigh sp.rtxq balanced.clash
  refine ⟨balanced.assoc.trans assoc, fun d => ?_,
    balanced.retrans.trans retrans, balanced.sacked.trans sacked,
    balanced.alarms⟩
  rw [balanced.dest d, owed d, Nat.add_zero, dest d]

theorem flight_size_exact (tag : Tsn) (state : State)
    (dests : Fin danum → Daddr) (rwnd sndbuf : Nat) (rx : Rx)
    (events : List (Event danum))
    (credits : Along Credits
      (Sp.initial tag state dests rwnd sndbuf rx) events) :
    Accounted ((Sp.initial tag state dests rwnd sndbuf rx).run events) :=
  (credits.run (fun event books ok => books.handle event ok)
    (Books.initial tag state dests rwnd sndbuf rx)).accounted

def oneBlock (ack : Tsn) (first last : BitVec 16) : Sack :=
  { cumulative ack with len := 20, ngaps := 1, gaps := [(first, last)] }

theorem flight_size_exact_reported :
    Accounted ((Sp.initial 1 .established (fun _ : Fin 1 => someDaddr) 65536
      65536 (.initial 0 1 4096)).run
      [.write false 100, .write false 100,
       .bundleNormal 0 ⟨1468, 12, 3000, []⟩, .sack (oneBlock 0 2 2),
       .sack (cumulative 2)]) :=
  flight_size_exact _ _ _ _ _ _ _
    ⟨trivial, trivial, trivial, by unfold Credits Reneges; decide,
      by unfold Credits Reneges; decide, trivial⟩

theorem renege_unaccounted :
    ¬ Accounted ((Sp.initial 1 .established (fun _ : Fin 1 => someDaddr) 65536
      65536 (.initial 0 1 4096)).run
      [.write false 100, .write false 100,
       .bundleNormal 0 ⟨1468, 12, 3000, []⟩, .sack (oneBlock 0 2 2),
       .sack (cumulative 0)]) := by
  intro accounted
  exact absurd accounted.assoc (by decide)

end Sp

end OpenSS7.Sctp
