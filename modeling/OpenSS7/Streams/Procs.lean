import OpenSS7.Streams.BackEnable

/-!
What turning procedures off does to the number of blocked bands.
-/

namespace OpenSS7.Streams

namespace Queue

/-- The loop of `qprocsoff` over the bands of a queue; `q_blocked` is an unsigned
char. -/
def procsoffBands : List Qband → Nat → List Qband × Nat
  | [], blocked => ([], blocked)
  | qb :: rest, blocked =>
      let blocked := if qb.qbWantw then (blocked + 255) % 256 else blocked
      let (rest, blocked) := procsoffBands rest blocked
      ({ qb with qbWantw := false } :: rest, blocked)

/-- What `qprocsoff` does to each of the two queues. -/
def procsoff (q : Queue) : Queue :=
  let (bandp, blocked) := procsoffBands q.qBandp q.qBlocked
  { q with
    qProcs := true
    qNoenb := true
    qWantr := false
    qWantw := false
    qBandp := bandp
    qBlocked := blocked }

/-- `qprocsoff` on a queue pair, as far as its own queues go. -/
def qprocsoff (rq wq : Queue) : Queue × Queue :=
  if rq.qProcs then (rq, wq) else (rq.procsoff, wq.procsoff)

def bcanputany (q : Queue) : Bool := decide (q.qBlocked < q.qNband)

structure Tallied (q : Queue) : Prop where
  nband : q.qBandp.length = q.qNband
  blocked : q.qBlocked = q.qBandp.countP Qband.qbFull

structure Consistent (q : Queue) : Prop extends Tallied q where
  any : q.bcanputany = true ↔ ∃ qb ∈ q.qBandp, qb.qbFull = false
  band : ∀ band q' result, 0 < band →
    q.bcanputLocked band = some (q', result) →
      (result = 0 ↔ q.full band = true)

end Queue

inductive Later : QState → QState → Prop where
  | refl (s : QState) : Later s s
  | getq {s s' s'' : QState} {mp : Option Addr} {be : Bool} :
      Later s s' → s'.getqLocked = some (s'', mp, be) → Later s s''
  | rmvq {s s' s'' : QState} {mp : Addr} {be : Bool} :
      Later s s' → s'.rmvqLocked mp = some (s'', be) → Later s s''
  | flushq {s s' s'' : QState} {fuel : Nat} {flag : FlushFlag}
      {flushed : Flushed} :
      Later s s' → s'.flushqLocked fuel flag = some (s'', flushed) →
        Later s s''

def Queue.Settled (q : Queue) : Prop :=
  ∀ s s', s.q = q → Later s s' → s'.q.Consistent

namespace Queue

variable {q q' : Queue}

theorem Tallied.congr (tallied : q.Tallied) (bandp : q'.qBandp = q.qBandp)
    (nband : q'.qNband = q.qNband) (blocked : q'.qBlocked = q.qBlocked) :
    q'.Tallied :=
  ⟨by rw [bandp, nband, tallied.nband], by rw [blocked, bandp, tallied.blocked]⟩

theorem Tallied.consistent (tallied : q.Tallied) : q.Consistent := by
  refine ⟨tallied, ?_, ?_⟩
  · rw [bcanputany, decide_eq_true_iff, tallied.blocked, ← tallied.nband]
    constructor
    · intro less
      by_contra all
      apply Nat.ne_of_lt less
      rw [List.countP_eq_length]
      intro qb member
      by_contra clear
      exact all ⟨qb, member, Bool.eq_false_iff.mpr clear⟩
    · rintro ⟨qb, member, clear⟩
      apply Nat.lt_of_le_of_ne List.countP_le_length
      intro same
      have full := List.countP_eq_length.mp same qb member
      rw [clear] at full
      cases full
  · intro band q' result positive found
    rw [bcanputLocked, if_neg (Nat.ne_of_gt positive), bcanputSlow] at found
    rw [full, if_neg (Nat.ne_of_gt positive), qband?]
    split at found
    case isTrue inside =>
      rw [if_pos ⟨positive, inside.1⟩]
      simp only [findQband, Option.bind_eq_bind,
        Option.bind_eq_some_iff] at found
      obtain ⟨ix, step, qb, here, found⟩ := found
      split at step
      · cases step
        rw [here, Option.any_some]
        split at found
        case isTrue full =>
          cases found
          exact iff_of_true rfl full
        case isFalse clear =>
          cases found
          exact iff_of_false Nat.one_ne_zero clear
      · cases step
    case isFalse outside =>
      cases found
      apply iff_of_false Nat.one_ne_zero
      intro blocked
      by_cases known : 0 < band ∧ band ≤ q.qNband
      · rw [if_pos known] at blocked
        cases here : q.qBandp[q.qNband - band]? with
        | none =>
            rw [here] at blocked
            cases blocked
        | some qb =>
            rw [here, Option.any_some] at blocked
            apply outside
            refine ⟨known.2, ?_⟩
            rw [tallied.blocked]
            exact List.countP_pos_iff.mpr
              ⟨qb, List.mem_of_getElem? here, blocked⟩
      · rw [if_neg known] at blocked
        cases blocked

theorem Tallied.release (tallied : q.Tallied) (size : Nat) :
    (q.release size).1.Tallied := by
  unfold Queue.release
  simp only
  split
  · exact tallied.congr rfl rfl rfl
  · exact tallied.congr rfl rfl rfl

theorem Tallied.releaseBand (tallied : q.Tallied) {ix size : Nat} {be : Bool}
    {mark : Qband → Qband}
    (marks : ∀ qb, mark qb = { qb with
      qbFirst := (mark qb).qbFirst
      qbLast := (mark qb).qbLast })
    (released : q.releaseBand ix size mark = some (q', be)) : q'.Tallied := by
  obtain ⟨qb, found⟩ : ∃ qb, q.qBandp[ix]? = some qb := by
    cases there : q.qBandp[ix]? with
    | none => simp [Queue.releaseBand, there] at released
    | some qb => exact ⟨qb, rfl⟩
  obtain ⟨qb', blocked, be', eq, _, _, full, _, _, _, _, counted⟩ :=
    releaseBand_spec found size mark (marks qb)
  rw [released] at eq
  cases eq
  obtain ⟨inside, rfl⟩ := List.getElem?_eq_some_iff.mp found
  refine ⟨?_, ?_⟩
  · simp only [List.length_set]
    exact tallied.nband
  · have positive : q.qBandp[ix].qbFull = true → 0 < q.qBlocked := by
      intro isFull
      rw [tallied.blocked]
      exact List.countP_pos_iff.mpr ⟨_, List.getElem_mem inside, isFull⟩
    simp only [List.countP_set inside, ← tallied.blocked, counted]
    cases before : q.qBandp[ix].qbFull with
    | false =>
        rw [before, Bool.false_and] at full
        simp [full]
    | true =>
        have := positive before
        cases after : qb'.qbFull with
        | false => simp
        | true =>
            simp
            omega

end Queue

namespace QState

variable {s s' : QState}

theorem tallied_rmvqLocked {mp : Addr} {be : Bool} (tallied : s.q.Tallied)
    (removed : s.rmvqLocked mp = some (s', be)) : s'.q.Tallied := by
  have unlinked : (s.unlink mp).q.Tallied := tallied.congr rfl rfl rfl
  unfold rmvqLocked at removed
  split at removed
  · cases removed
    exact unlinked.release (msgsize ((s.unlink mp).heap.msg mp))
  · simp only [rmvqBand, Option.bind_eq_bind,
      Option.bind_eq_some_iff] at removed
    obtain ⟨ix, _, ⟨q, be'⟩, released, removed⟩ := removed
    cases removed
    exact unlinked.releaseBand (fun qb => by split <;> rfl) released

theorem tallied_getqLocked {mp : Option Addr} {be : Bool}
    (tallied : s.q.Tallied) (got : s.getqLocked = some (s', mp, be)) :
    s'.q.Tallied := by
  unfold getqLocked at got
  cases first : s.q.qFirst with
  | none =>
      simp only [first] at got
      cases got
      exact tallied.congr rfl rfl rfl
  | some mp =>
      have unlinked : (s.unlinkFirst mp).q.Tallied := tallied.congr rfl rfl rfl
      simp only [first, Option.bind_eq_bind] at got
      split at got
      · cases got
        have freed := unlinked.release
          (msgsize ((s.unlinkFirst mp).heap.msg mp))
        exact freed.congr rfl rfl rfl
      · simp only [Option.bind_eq_some_iff] at got
        obtain ⟨ix, _, ⟨q, be'⟩, released, got⟩ := got
        cases got
        have freed := unlinked.releaseBand (fun qb => rfl) released
        exact freed.congr rfl rfl rfl

theorem tallied_flushData {fuel : Nat} {b : Addr} {flushed flushed' : Flushed}
    (tallied : s.q.Tallied)
    (done : flushData fuel s b flushed = some (s', flushed')) :
    s'.q.Tallied := by
  induction fuel generalizing s b flushed with
  | zero => cases done
  | succ fuel ih =>
      simp only [flushData, Option.bind_eq_bind] at done
      cases data : (s.heap.msg b).isdatamsg with
      | false =>
          simp only [data, Bool.false_eq_true, if_false,
            Option.bind_some] at done
          split at done
          · cases done
            exact tallied
          · exact ih tallied done
      | true =>
          simp only [data, if_true, Option.bind_eq_some_iff,
            Option.bind_some] at done
          obtain ⟨⟨s₂, be⟩, removed, done⟩ := done
          have kept := tallied_rmvqLocked tallied removed
          split at done
          · cases done
            exact kept.congr rfl rfl rfl
          · refine ih ?_ done
            exact kept.congr rfl rfl rfl

theorem tallied_flushqLocked {fuel : Nat} {flag : FlushFlag}
    {flushed : Flushed} (tallied : s.q.Tallied)
    (done : s.flushqLocked fuel flag = some (s', flushed)) :
    s'.q.Tallied := by
  unfold flushqLocked at done
  split at done
  · cases done
    exact tallied
  · cases flag with
    | flushall =>
        simp only [flushAll, Option.bind_eq_bind,
          Option.bind_eq_some_iff] at done
        obtain ⟨last, _, done⟩ := done
        cases done
        simp only [flushBands_fst]
        refine ⟨?_, ?_⟩
        · simp only [List.length_map]
          exact tallied.nband
        · symm
          apply List.countP_eq_zero.mpr
          intro qb member
          obtain ⟨old, _, rfl⟩ := List.mem_map.mp member
          exact Bool.false_ne_true
    | flushdata => exact tallied_flushData tallied done

end QState

theorem Later.tallied {s s' : QState} (later : Later s s')
    (tallied : s.q.Tallied) : s'.q.Tallied := by
  induction later with
  | refl => exact tallied
  | getq _ got ih => exact QState.tallied_getqLocked ih got
  | rmvq _ removed ih => exact QState.tallied_rmvqLocked ih removed
  | flushq _ done ih => exact QState.tallied_flushqLocked ih done

namespace Queue

variable {q q' : Queue}

theorem settled_iff : q.Settled ↔ q.Tallied := by
  constructor
  · intro settled
    let s : QState := ⟨fun _ => default, q⟩
    exact (settled s s rfl (.refl s)).toTallied
  · rintro tallied s s' rfl later
    exact (later.tallied tallied).consistent

theorem procsoffBands_spec (bands : List Qband) (blocked : Nat)
    (enough : bands.countP Qband.qbWantw ≤ blocked) (char : blocked < 256) :
    procsoffBands bands blocked =
      (bands.map fun qb => { qb with qbWantw := false },
        blocked - bands.countP Qband.qbWantw) := by
  induction bands generalizing blocked with
  | nil => rfl
  | cons qb rest ih =>
      rw [List.countP_cons] at enough ⊢
      cases waits : qb.qbWantw with
      | false =>
          rw [waits] at enough
          simp only [procsoffBands, waits, Bool.false_eq_true, if_false]
          rw [ih blocked enough char]
          rfl
      | true =>
          simp only [waits, if_true] at enough
          have less : (blocked + 255) % 256 = blocked - 1 := by omega
          simp only [procsoffBands, waits, if_true, less]
          rw [ih (blocked - 1) (by omega) (by omega)]
          refine Prod.ext rfl ?_
          simp only
          omega

theorem procsoff_tallied_iff (tallied : q.Tallied) (char : q.qNband < 256)
    (waits : ∀ qb ∈ q.qBandp, qb.qbWantw = true → qb.qbFull = true) :
    q.procsoff.Tallied ↔ ∀ qb ∈ q.qBandp, qb.qbWantw = false := by
  have enough : q.qBandp.countP Qband.qbWantw ≤ q.qBlocked := by
    rw [tallied.blocked]
    exact List.countP_mono_left waits
  have few : q.qBlocked < 256 := by
    rw [tallied.blocked]
    exact Nat.lt_of_le_of_lt List.countP_le_length (tallied.nband ▸ char)
  have spec := procsoffBands_spec q.qBandp q.qBlocked enough few
  have bandp : q.procsoff.qBandp =
      q.qBandp.map fun qb => { qb with qbWantw := false } := by
    rw [procsoff, spec]
  have blocked : q.procsoff.qBlocked =
      q.qBlocked - q.qBandp.countP Qband.qbWantw := by
    rw [procsoff, spec]
  have full : q.procsoff.qBandp.countP Qband.qbFull = q.qBlocked := by
    rw [bandp, List.countP_map, tallied.blocked]
    rfl
  have none : (∀ qb ∈ q.qBandp, qb.qbWantw = false) ↔
      q.qBandp.countP Qband.qbWantw = 0 := by
    rw [List.countP_eq_zero]
    simp only [Bool.not_eq_true]
  rw [none]
  constructor
  · intro after
    have same := after.blocked
    rw [blocked, full] at same
    omega
  · intro zero
    refine ⟨?_, ?_⟩
    · rw [bandp, List.length_map]
      exact tallied.nband
    · rw [blocked, full, zero, Nat.sub_zero]

/-- Turning procedures off keeps the numbers of blocked bands right exactly when
it is not the first time or no writer waits on a band of the pair. -/
theorem qprocsoff_settled_iff (rq wq : Queue)
    (tallied : rq.Tallied ∧ wq.Tallied)
    (char : rq.qNband < 256 ∧ wq.qNband < 256)
    (waits : ∀ qb ∈ rq.qBandp ++ wq.qBandp,
      qb.qbWantw = true → qb.qbFull = true) :
    ((qprocsoff rq wq).1.Settled ∧ (qprocsoff rq wq).2.Settled) ↔
      rq.qProcs = true ∨
        ∀ qb ∈ rq.qBandp ++ wq.qBandp, qb.qbWantw = false := by
  simp only [settled_iff, qprocsoff]
  cases off : rq.qProcs with
  | true => exact iff_of_true tallied (Or.inl rfl)
  | false =>
      have read := procsoff_tallied_iff tallied.1 char.1 fun qb member =>
        waits qb (List.mem_append_left _ member)
      have write := procsoff_tallied_iff tallied.2 char.2 fun qb member =>
        waits qb (List.mem_append_right _ member)
      simp only [Bool.false_eq_true, if_false, false_or]
      rw [read, write]
      constructor
      · rintro ⟨first, second⟩ qb member
        exact (List.mem_append.mp member).elim (first qb) (second qb)
      · intro all
        exact ⟨fun qb member => all qb (List.mem_append_left _ member),
          fun qb member => all qb (List.mem_append_right _ member)⟩

def banded (full wantw : Bool) : Queue :=
  { (QState.fresh 16 4).q with
    qBandp := [⟨20, none, none, 16, 4, 1, full, wantw⟩]
    qNband := 1
    qBlocked := if full then 1 else 0 }

theorem qprocsoff_settled_full :
    (qprocsoff (banded true false) (banded false false)).1.Settled ∧
      (qprocsoff (banded true false) (banded false false)).2.Settled :=
  (qprocsoff_settled_iff _ _ ⟨⟨rfl, rfl⟩, ⟨rfl, rfl⟩⟩ (by decide)
    (by decide)).mpr (by decide)

theorem qprocsoff_discounts_a_full_band :
    ¬ ∀ rq wq : Queue, rq.Tallied ∧ wq.Tallied →
      rq.qNband < 256 ∧ wq.qNband < 256 →
        (∀ qb ∈ rq.qBandp ++ wq.qBandp,
          qb.qbWantw = true → qb.qbFull = true) →
          (qprocsoff rq wq).1.Settled ∧ (qprocsoff rq wq).2.Settled := by
  intro claim
  have settled := claim (banded false false) (banded true true)
    ⟨⟨rfl, rfl⟩, ⟨rfl, rfl⟩⟩ (by decide) (by decide)
  have met := (qprocsoff_settled_iff _ _ ⟨⟨rfl, rfl⟩, ⟨rfl, rfl⟩⟩ (by decide)
    (by decide)).mp settled
  exact absurd met (by decide)

end Queue

end OpenSS7.Streams
