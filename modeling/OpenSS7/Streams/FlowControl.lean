import OpenSS7.Streams.Refinement

/-!
Flow control: water marks, full flags, refused writers and back-enabling.
-/

namespace OpenSS7.Streams

structure Marks (count hiwat lowat : Nat) (full wantw : Bool) : Prop where
  wantw_full : wantw = true → full = true
  full_pos : full = true → 0 < count
  over_full : hiwat < count → full = true
  order : lowat ≤ hiwat

namespace Marks

variable {count hiwat lowat size : Nat} {full wantw : Bool}

theorem charge (marks : Marks count hiwat lowat full wantw) (size : Nat) :
    Marks (count + size) hiwat lowat
      (full || decide (hiwat < count + size)) wantw := by
  refine ⟨?_, ?_, ?_, marks.order⟩
  · intro waiting
    simp [marks.wantw_full waiting]
  · intro isFull
    rcases Bool.or_eq_true_iff.1 isFull with old | new
    · have := marks.full_pos old
      omega
    · have := of_decide_eq_true new
      omega
  · intro past
    simp [past]

theorem release (marks : Marks count hiwat lowat full wantw) {full' : Bool}
    (size : Nat)
    (hfull : full' = (full && !decide (count - size = 0 ∨
      count - size < lowat))) :
    Marks (count - size) hiwat lowat full'
      (wantw && !(full && !full')) := by
  refine ⟨?_, ?_, ?_, marks.order⟩
  · intro waiting
    obtain ⟨old, kept⟩ := Bool.and_eq_true_iff.1 waiting
    have := marks.wantw_full old
    simpa [this] using kept
  · intro isFull
    rw [hfull] at isFull
    have := (Bool.and_eq_true_iff.1 isFull).2
    simp only [Bool.not_eq_true', decide_eq_false_iff_not, not_or] at this
    omega
  · intro past
    have old := marks.over_full (by omega)
    have order := marks.order
    rw [hfull, old, Bool.true_and, Bool.not_eq_true', decide_eq_false_iff_not]
    omega

theorem refuse (marks : Marks count hiwat lowat full wantw)
    (isFull : full = true) : Marks count hiwat lowat full true :=
  ⟨fun _ => isFull, marks.full_pos, marks.over_full, marks.order⟩

theorem clear (order : lowat ≤ hiwat) : Marks 0 hiwat lowat false false :=
  ⟨by simp, by simp, by simp, order⟩

end Marks

def Qband.Marked (qb : Qband) : Prop :=
  Marks qb.qbCount qb.qbHiwat qb.qbLowat qb.qbFull qb.qbWantw

structure Flow (q : Queue) : Prop where
  nband : q.qBandp.length = q.qNband
  queue : Marks q.qCount q.qHiwat q.qLowat q.qFull q.qWantw
  band : ∀ qb ∈ q.qBandp, qb.Marked
  blocked : q.qBlocked = q.qBandp.countP Qband.qbFull

namespace Queue

variable {q q' : Queue} {ix band : Nat} {qb qb' : Qband}

def qband? (q : Queue) (band : Nat) : Option Qband :=
  if 0 < band ∧ band ≤ q.qNband then q.qBandp[q.qNband - band]? else none

/-- `QFULL` for band zero, `QB_FULL` for the others. -/
def full (q : Queue) (band : Nat) : Bool :=
  if band = 0 then q.qFull else (q.qband? band).any Qband.qbFull

/-- `QWANTW` for band zero, `QB_WANTW` for the others. -/
def wantw (q : Queue) (band : Nat) : Bool :=
  if band = 0 then q.qWantw else (q.qband? band).any Qband.qbWantw

/-- `q_count` for band zero, `qb_count` for the others. -/
def count (q : Queue) (band : Nat) : Nat :=
  if band = 0 then q.qCount else ((q.qband? band).map Qband.qbCount).getD 0

theorem qband?_mem (found : q.qband? band = some qb) : qb ∈ q.qBandp := by
  unfold qband? at found
  split at found
  · exact List.mem_of_getElem? found
  · cases found

theorem qband?_set (nband : q.qBandp.length = q.qNband)
    (found : q.qBandp[ix]? = some qb)
    (bandp : q'.qBandp = q.qBandp.set ix qb')
    (same : q'.qNband = q.qNband) (band : Nat) :
    q'.qband? band =
      if band = q.qNband - ix then some qb' else q.qband? band := by
  have inside := (List.getElem?_eq_some_iff.1 found).1
  unfold qband?
  rw [bandp, same]
  by_cases exists_ : 0 < band ∧ band ≤ q.qNband
  · rw [if_pos exists_, if_pos exists_]
    by_cases here : band = q.qNband - ix
    · rw [if_pos here, show q.qNband - band = ix by omega,
        List.getElem?_set_self inside]
    · rw [if_neg here, List.getElem?_set_ne (by omega)]
  · rw [if_neg exists_, if_neg exists_, if_neg (by omega)]

theorem qband?_withBands (nband : q.qBandp.length = q.qNband) (k : Nat)
    (band : Nat) :
    (q.withBands k).qband? band =
      if q.qNband < band ∧ band ≤ q.qNband + k then some q.newQband
      else q.qband? band := by
  unfold qband? withBands
  simp only
  by_cases exists_ : 0 < band ∧ band ≤ q.qNband + k
  · rw [if_pos exists_]
    by_cases new : q.qNband < band
    · rw [if_pos ⟨new, exists_.2⟩,
        List.getElem?_append_left (by rw [List.length_replicate]; omega),
        List.getElem?_replicate_of_lt (by omega)]
    · rw [if_neg (fun h => new h.1), if_pos (by omega),
        List.getElem?_append_right (by rw [List.length_replicate]; omega),
        List.length_replicate]
      congr 1
      omega
  · rw [if_neg exists_, if_neg (by omega), if_neg (by omega)]

end Queue

structure Effect (q q' : Queue) (asked : List Nat) : Prop where
  flow : Flow q'
  wantw : ∀ band, q'.full band = true → q'.wantw band = q.wantw band
  asked : ∀ band, band ∈ asked ↔
    q.full band = true ∧ q'.full band = false ∧ q.wantw band = true

namespace Flow

variable {q q' : Queue}

theorem wantw_full (flow : Flow q) {band : Nat}
    (waiting : q.wantw band = true) : q.full band = true := by
  unfold Queue.wantw at waiting
  unfold Queue.full
  by_cases zero : band = 0
  · rw [if_pos zero] at waiting ⊢
    exact flow.queue.wantw_full waiting
  · rw [if_neg zero] at waiting ⊢
    cases found : q.qband? band with
    | none => simp [found] at waiting
    | some qb =>
        rw [found] at waiting
        exact (flow.band qb (Queue.qband?_mem found)).wantw_full waiting

theorem full_pos (flow : Flow q) {band : Nat} (full : q.full band = true) :
    0 < q.count band := by
  unfold Queue.full at full
  unfold Queue.count
  by_cases zero : band = 0
  · rw [if_pos zero] at full ⊢
    exact flow.queue.full_pos full
  · rw [if_neg zero] at full ⊢
    cases found : q.qband? band with
    | none => simp [found] at full
    | some qb =>
        rw [found] at full
        exact (flow.band qb (Queue.qband?_mem found)).full_pos full

theorem full_known {band : Nat} (full : q.full band = true) :
    band ≤ q.qNband := by
  unfold Queue.full Queue.qband? at full
  by_cases zero : band = 0
  · omega
  · rw [if_neg zero] at full
    split at full
    · rename_i inside
      exact inside.2
    · cases full

theorem wantw_false (flow : Flow q) {band : Nat}
    (clear : q.full band = false) : q.wantw band = false := by
  cases waiting : q.wantw band with
  | false => rfl
  | true => simp [flow.wantw_full waiting] at clear

theorem congr (flow : Flow q) (bandp : q'.qBandp = q.qBandp)
    (nband : q'.qNband = q.qNband) (blocked : q'.qBlocked = q.qBlocked)
    (marks : Marks q'.qCount q'.qHiwat q'.qLowat q'.qFull q'.qWantw) :
    Flow q' := by
  refine ⟨?_, marks, ?_, ?_⟩
  · rw [bandp, nband, flow.nband]
  · rw [bandp]
    exact flow.band
  · rw [blocked, bandp, flow.blocked]

theorem setBand (flow : Flow q) {ix : Nat} {qb qb' : Qband}
    (found : q.qBandp[ix]? = some qb)
    (bandp : q'.qBandp = q.qBandp.set ix qb')
    (nband : q'.qNband = q.qNband) (marked : qb'.Marked)
    (marks : Marks q'.qCount q'.qHiwat q'.qLowat q'.qFull q'.qWantw)
    (blocked : q'.qBlocked + (if qb.qbFull then 1 else 0) =
      q.qBlocked + if qb'.qbFull then 1 else 0) :
    Flow q' := by
  obtain ⟨inside, rfl⟩ := List.getElem?_eq_some_iff.1 found
  refine ⟨?_, marks, ?_, ?_⟩
  · rw [bandp, nband, List.length_set, flow.nband]
  · rw [bandp]
    intro other member
    rcases List.mem_or_eq_of_mem_set member with old | rfl
    · exact flow.band other old
    · exact marked
  · rw [bandp, List.countP_set inside, ← flow.blocked]
    have counted : (if q.qBandp[ix].qbFull then 1 else 0) ≤ q.qBlocked := by
      rw [flow.blocked]
      split
      · rename_i full
        exact List.countP_pos_iff.2 ⟨_, List.getElem_mem inside, full⟩
      · exact Nat.zero_le _
    omega

end Flow

namespace Queue

variable {q q' : Queue}

theorem full_congr (full : q'.qFull = q.qFull) (bandp : q'.qBandp = q.qBandp)
    (nband : q'.qNband = q.qNband) (band : Nat) :
    q'.full band = q.full band := by
  simp only [Queue.full, qband?, full, bandp, nband]

theorem wantw_congr (wantw : q'.qWantw = q.qWantw)
    (bandp : q'.qBandp = q.qBandp) (nband : q'.qNband = q.qNband)
    (band : Nat) : q'.wantw band = q.wantw band := by
  simp only [Queue.wantw, qband?, wantw, bandp, nband]

end Queue

structure Insertion (q q' : Queue) : Prop where
  flow : Flow q'
  rise : ∀ band, q.full band = true → q'.full band = true
  wantw : ∀ band, q'.wantw band = q.wantw band

namespace Insertion

variable {q q' q'' : Queue}

theorem effect (insertion : Insertion q q') : Effect q q' [] := by
  refine ⟨insertion.flow, fun band _ => insertion.wantw band, ?_⟩
  intro band
  constructor
  · intro member
    cases member
  · rintro ⟨full, clear, _⟩
    simp [insertion.rise band full] at clear

theorem trans (first : Insertion q q') (second : Insertion q' q'') :
    Insertion q q'' := by
  refine ⟨second.flow, ?_, ?_⟩
  · exact fun band full => second.rise band (first.rise band full)
  · intro band
    rw [second.wantw, first.wantw]

theorem congr (insertion : Insertion q q')
    (bandp : q''.qBandp = q'.qBandp) (nband : q''.qNband = q'.qNband)
    (blocked : q''.qBlocked = q'.qBlocked)
    (count : q''.qCount = q'.qCount) (hiwat : q''.qHiwat = q'.qHiwat)
    (lowat : q''.qLowat = q'.qLowat) (full : q''.qFull = q'.qFull)
    (wantw : q''.qWantw = q'.qWantw) : Insertion q q'' := by
  refine ⟨insertion.flow.congr bandp nband blocked ?_, ?_, ?_⟩
  · rw [count, hiwat, lowat, full, wantw]
    exact insertion.flow.queue
  · intro band isFull
    rw [Queue.full_congr full bandp nband]
    exact insertion.rise band isFull
  · intro band
    rw [Queue.wantw_congr wantw bandp nband, insertion.wantw]

end Insertion

structure Removal (q q' : Queue) (asked : List Nat) : Prop
    extends Effect q q' asked where
  fall : ∀ band, q'.full band = true → q.full band = true

namespace Removal

variable {q q' q'' : Queue} {asked asked' : List Nat}

theorem refl (flow : Flow q) : Removal q q [] :=
  ⟨Insertion.effect ⟨flow, fun _ full => full, fun _ => rfl⟩,
    fun _ full => full⟩

theorem trans (first : Removal q q' asked) (second : Removal q' q'' asked') :
    Removal q q'' (asked' ++ asked) := by
  refine ⟨⟨second.flow, ?_, ?_⟩, ?_⟩
  · intro band full
    rw [second.wantw band full, first.wantw band (second.fall band full)]
  · intro band
    rw [List.mem_append, first.asked, second.asked]
    cases middle : q'.full band with
    | true =>
        have full := first.fall band middle
        have waiting := first.wantw band middle
        simp [full, waiting]
    | false =>
        have clear : q''.full band = false := by
          cases last : q''.full band with
          | false => rfl
          | true => simp [second.fall band last] at middle
        simp [clear]
  · intro band full
    exact first.fall band (second.fall band full)

theorem congr (removal : Removal q q' asked)
    (bandp : q''.qBandp = q'.qBandp) (nband : q''.qNband = q'.qNband)
    (blocked : q''.qBlocked = q'.qBlocked)
    (count : q''.qCount = q'.qCount) (hiwat : q''.qHiwat = q'.qHiwat)
    (lowat : q''.qLowat = q'.qLowat) (full : q''.qFull = q'.qFull)
    (wantw : q''.qWantw = q'.qWantw) : Removal q q'' asked := by
  have sameFull := Queue.full_congr full bandp nband
  have sameWantw := Queue.wantw_congr wantw bandp nband
  refine ⟨⟨removal.flow.congr bandp nband blocked ?_, ?_, ?_⟩, ?_⟩
  · rw [count, hiwat, lowat, full, wantw]
    exact removal.flow.queue
  · intro band isFull
    rw [sameFull] at isFull
    rw [sameWantw, removal.wantw band isFull]
  · intro band
    rw [sameFull, removal.asked]
  · intro band isFull
    rw [sameFull] at isFull
    exact removal.fall band isFull

end Removal

namespace Queue

variable {q q' : Queue}

theorem charge_insertion (flow : Flow q) (size : Nat) :
    Insertion q (q.charge size) := by
  refine ⟨flow.congr rfl rfl rfl (flow.queue.charge size), ?_, ?_⟩
  · intro band isFull
    by_cases zero : band = 0
    · simp only [full, zero, if_true] at isFull ⊢
      simp [charge, isFull]
    · simp only [full, zero, if_false] at isFull ⊢
      exact isFull
  · intro band
    rfl

theorem release_removal (flow : Flow q) (size : Nat) :
    Removal q (q.release size).1
      (if (q.release size).2 then [0] else []) := by
  obtain ⟨isFull, waiting, eq, hfull, hwantw⟩ := q.release_spec size
  rw [eq]
  have others : ∀ band, band ≠ 0 →
      full { q with
        qCount := q.qCount - size, qFull := isFull, qWantw := waiting } band =
          q.full band ∧
      wantw { q with
        qCount := q.qCount - size, qFull := isFull, qWantw := waiting } band =
          q.wantw band := by
    intro band nonzero
    simp only [full, wantw, nonzero, if_false]
    exact ⟨rfl, rfl⟩
  refine ⟨⟨flow.congr rfl rfl rfl ?_, ?_, ?_⟩, ?_⟩
  · rw [hwantw]
    exact flow.queue.release size hfull
  · intro band stays
    by_cases zero : band = 0
    · subst zero
      simp only [full, wantw, if_true] at stays ⊢
      simp [hwantw, stays]
    · exact (others band zero).2
  · intro band
    by_cases zero : band = 0
    · subst zero
      simp only [full, wantw, if_true]
      cases q.qWantw <;> cases q.qFull <;> cases isFull <;> simp
    · rw [(others band zero).1]
      have : band ∉ (if (q.qWantw && (q.qFull && !isFull)) = true then [0]
          else []) := by
        split <;> simp [zero]
      simp only [this, false_iff]
      rintro ⟨isFull, clear, _⟩
      simp [isFull] at clear
  · intro band stays
    by_cases zero : band = 0
    · subst zero
      simp only [full, if_true] at stays ⊢
      rw [hfull] at stays
      exact (Bool.and_eq_true_iff.1 stays).1
    · rw [(others band zero).1] at stays
      exact stays

theorem withBands_insertion (flow : Flow q) (k : Nat) :
    Insertion q (q.withBands k) := by
  have view := q.qband?_withBands flow.nband k
  have none : ∀ band, q.qNband < band → q.qband? band = none := by
    intro band outside
    simp only [qband?]
    rw [if_neg (by omega)]
  refine ⟨⟨?_, flow.queue, ?_, ?_⟩, ?_, ?_⟩
  · simp only [withBands, List.length_append, List.length_replicate,
      flow.nband]
    omega
  · intro qb member
    rcases List.mem_append.1 member with new | old
    · rw [List.eq_of_mem_replicate new]
      exact Marks.clear flow.queue.order
    · exact flow.band qb old
  · simp only [withBands, List.countP_append, List.countP_replicate,
      newQband, Bool.false_eq_true, if_false, Nat.zero_add]
    exact flow.blocked
  · intro band isFull
    simp only [full, view] at isFull ⊢
    split
    · rename_i zero
      rw [if_pos zero] at isFull
      exact isFull
    · rename_i nonzero
      rw [if_neg nonzero] at isFull
      split
      · rename_i new
        simp [none band new.1] at isFull
      · exact isFull
  · intro band
    simp only [wantw, view]
    split
    · rfl
    · split
      · rename_i new
        simp [none band new.1, newQband]
      · rfl

theorem flags_setBand (q' : Queue) (nband : q.qBandp.length = q.qNband)
    {ix : Nat} {qb qb' : Qband} (found : q.qBandp[ix]? = some qb)
    (bandp : q'.qBandp = q.qBandp.set ix qb') (same : q'.qNband = q.qNband)
    (hfull : q'.qFull = q.qFull) (hwantw : q'.qWantw = q.qWantw) :
    q.full (q.qNband - ix) = qb.qbFull ∧
      q.wantw (q.qNband - ix) = qb.qbWantw ∧
      q'.full (q.qNband - ix) = qb'.qbFull ∧
      q'.wantw (q.qNband - ix) = qb'.qbWantw ∧
      ∀ band, band ≠ q.qNband - ix →
        q'.full band = q.full band ∧ q'.wantw band = q.wantw band := by
  have inside := (List.getElem?_eq_some_iff.1 found).1
  have view := qband?_set nband found bandp same
  have positive : q.qNband - ix ≠ 0 := by omega
  have old : q.qband? (q.qNband - ix) = some qb := by
    simp only [qband?]
    rw [if_pos (by omega), show q.qNband - (q.qNband - ix) = ix by omega,
      found]
  refine ⟨?_, ?_, ?_, ?_, ?_⟩
  · simp [full, positive, old]
  · simp [wantw, positive, old]
  · simp [full, positive, view]
  · simp [wantw, positive, view]
  · intro band different
    simp [full, wantw, view, different, hfull, hwantw]

theorem chargeBand_insertion (flow : Flow q) {ix : Nat} {mp : Addr}
    {bPrev bNext : Option Addr} {size : Nat}
    (charged : q.chargeBand ix mp bPrev bNext size = some q') :
    Insertion q q' := by
  obtain ⟨qb, found⟩ : ∃ qb, q.qBandp[ix]? = some qb := by
    cases there : q.qBandp[ix]? with
    | none => simp [chargeBand, there] at charged
    | some qb => exact ⟨qb, rfl⟩
  obtain ⟨qb', blocked, eq, _, hcount, hfull, hwantw, hhiwat, hlowat,
    hblocked⟩ := chargeBand_spec found mp bPrev bNext size
  rw [charged] at eq
  cases eq
  have marked : qb'.Marked := by
    simp only [Qband.Marked, hcount, hfull, hwantw, hhiwat, hlowat]
    exact (flow.band qb (List.mem_of_getElem? found)).charge size
  obtain ⟨full, wantw, full', wantw', others⟩ :=
    flags_setBand ({ q with
      qBandp := q.qBandp.set ix qb', qBlocked := blocked }) flow.nband found
      rfl rfl rfl rfl
  refine ⟨flow.setBand found rfl rfl marked flow.queue ?_, ?_, ?_⟩
  · simp only [hblocked, hfull]
    cases qb.qbFull with
    | true => simp
    | false => simp; split <;> simp
  · intro band isFull
    by_cases here : band = q.qNband - ix
    · subst here
      rw [full] at isFull
      rw [full', hfull, isFull, Bool.true_or]
    · rw [(others band here).1]
      exact isFull
  · intro band
    by_cases here : band = q.qNband - ix
    · subst here
      rw [wantw, wantw', hwantw]
    · exact (others band here).2

theorem releaseBand_removal (flow : Flow q) {ix size : Nat} {be : Bool}
    {mark : Qband → Qband}
    (marks : ∀ qb, mark qb = { qb with
      qbFirst := (mark qb).qbFirst
      qbLast := (mark qb).qbLast })
    (released : q.releaseBand ix size mark = some (q', be)) :
    Removal q q' (if be then [q.qNband - ix] else []) := by
  obtain ⟨qb, found⟩ : ∃ qb, q.qBandp[ix]? = some qb := by
    cases there : q.qBandp[ix]? with
    | none => simp [releaseBand, there] at released
    | some qb => exact ⟨qb, rfl⟩
  obtain ⟨qb', blocked, be', eq, _, hcount, hfull, hwantw, hbe, hhiwat,
    hlowat, hblocked⟩ := releaseBand_spec found size mark (marks qb)
  rw [released] at eq
  cases eq
  have old := flow.band qb (List.mem_of_getElem? found)
  have marked : qb'.Marked := by
    simp only [Qband.Marked, hcount, hwantw, hhiwat, hlowat]
    exact old.release size hfull
  have falls : qb'.qbFull = true → qb.qbFull = true := by
    rw [hfull]
    intro both
    exact (Bool.and_eq_true_iff.1 both).1
  have positive : qb.qbFull = true → 0 < q.qBlocked := by
    intro isFull
    rw [flow.blocked]
    exact List.countP_pos_iff.2 ⟨qb, List.mem_of_getElem? found, isFull⟩
  obtain ⟨full, wantw, full', wantw', others⟩ :=
    flags_setBand ({ q with
      qBandp := q.qBandp.set ix qb', qBlocked := blocked }) flow.nband found
      rfl rfl rfl rfl
  refine ⟨⟨flow.setBand found rfl rfl marked flow.queue ?_, ?_, ?_⟩, ?_⟩
  · simp only [hblocked]
    cases before : qb.qbFull with
    | false =>
        have : qb'.qbFull = false := by
          cases after : qb'.qbFull with
          | false => rfl
          | true => simp [falls after] at before
        simp [this]
    | true =>
        have := positive before
        cases qb'.qbFull with
        | true => simp
        | false => simp; omega
  · intro band stays
    by_cases here : band = q.qNband - ix
    · subst here
      rw [full'] at stays
      rw [wantw, wantw', hwantw, stays]
      simp
    · exact (others band here).2
  · intro band
    by_cases here : band = q.qNband - ix
    · subst here
      rw [full, full', wantw, hbe]
      cases qb.qbWantw <;> cases qb.qbFull <;> cases qb'.qbFull <;> simp
    · rw [(others band here).1]
      have : band ∉ (if be then [q.qNband - ix] else []) := by
        split <;> simp [here]
      simp only [this, false_iff]
      rintro ⟨isFull, clear, _⟩
      simp [isFull] at clear
  · intro band stays
    by_cases here : band = q.qNband - ix
    · subst here
      rw [full'] at stays
      rw [full]
      exact falls stays
    · rw [(others band here).1] at stays
      exact stays

end Queue

namespace QState

variable {s s' : QState} {mp : Addr} {fuel mem result : Nat}

theorem link_insertion {q : Queue} (insertion : Insertion q s.q) (mp : Addr)
    (bPrev bNext : Option Addr) : Insertion q (s.link mp bPrev bNext).q :=
  insertion.congr rfl rfl rfl rfl rfl rfl rfl rfl

theorem placeInBand_insertion (flow : Flow s.q) {band ix : Nat} {q q' : Queue}
    (positive : 0 < band) (got : s.q.getQband band mem = (q, some ix))
    {bPrev bNext : Option Addr} {size : Nat}
    (charged : q.chargeBand ix mp bPrev bNext size = some q') :
    Insertion s.q (link { s with q := q' } mp bPrev bNext).q := by
  obtain ⟨k, alloc, _⟩ := s.q.getQband_spec band mem flow.nband positive
  rw [got] at alloc
  have first := Queue.withBands_insertion flow k
  rw [← alloc] at first
  exact link_insertion (s := { s with q := q' })
    (first.trans (Queue.chargeBand_insertion first.flow charged)) mp bPrev
    bNext

theorem refused_insertion (flow : Flow s.q) {band : Nat} {q : Queue}
    {ix : Option Nat} (positive : 0 < band)
    (got : s.q.getQband band mem = (q, ix)) : Insertion s.q q := by
  obtain ⟨k, alloc, _⟩ := s.q.getQband_spec band mem flow.nband positive
  rw [got] at alloc
  rw [show q = s.q.withBands k from alloc]
  exact Queue.withBands_insertion flow k

theorem putqLocked_insertion (flow : Flow s.q)
    (put : s.putqLocked fuel mem mp = some (s', result)) :
    Insertion s.q s'.q := by
  unfold putqLocked at put
  split at put
  · unfold putqNorm at put
    split at put
    · cases put
      exact (Queue.charge_insertion flow _).congr rfl rfl rfl rfl rfl rfl rfl
        rfl
    · rename_i nonzero
      have positive : 0 < (s.heap.msg mp).bBand := by omega
      simp only [putqBand, Option.bind_eq_bind, Option.bind_eq_some_iff] at put
      obtain ⟨place, _, put⟩ := put
      cases got : s.q.getQband (s.heap.msg mp).bBand mem with
      | mk q ix =>
          rw [got] at put
          cases ix with
          | none =>
              cases put
              exact refused_insertion flow positive got
          | some ix =>
              simp only [Option.bind_eq_some_iff] at put
              obtain ⟨place', _, q', charged, put⟩ := put
              cases put
              exact placeInBand_insertion flow positive got charged
  · simp only [putqPri, Option.bind_eq_bind, Option.bind_eq_some_iff] at put
    obtain ⟨place, _, put⟩ := put
    cases put
    exact link_insertion (Queue.charge_insertion flow _) mp _ _

theorem putbqLocked_insertion (flow : Flow s.q)
    (put : s.putbqLocked fuel mem mp = some (s', result)) :
    Insertion s.q s'.q := by
  unfold putbqLocked at put
  split at put
  · unfold putbqNorm at put
    split at put
    · simp only [Option.bind_eq_bind, Option.bind_eq_some_iff] at put
      obtain ⟨place, _, place', _, put⟩ := put
      cases put
      exact (Queue.charge_insertion flow _).congr rfl rfl rfl rfl rfl rfl rfl
        rfl
    · rename_i nonzero
      have positive : 0 < (s.heap.msg mp).bBand := by omega
      simp only [putbqBand, Option.bind_eq_bind, Option.bind_eq_some_iff]
        at put
      obtain ⟨place, _, place', _, put⟩ := put
      cases got : s.q.getQband (s.heap.msg mp).bBand mem with
      | mk q ix =>
          rw [got] at put
          cases ix with
          | none =>
              cases put
              exact refused_insertion flow positive got
          | some ix =>
              simp only [Option.bind_eq_some_iff] at put
              obtain ⟨q', charged, put⟩ := put
              cases put
              exact placeInBand_insertion flow positive got charged
  · cases put
    exact (Queue.charge_insertion flow _).congr rfl rfl rfl rfl rfl rfl rfl
      rfl

def askedFor (s : QState) (mp : Addr) (be : Bool) : List Nat :=
  if be then [(s.heap.msg mp).bBand] else []

theorem findQband_eq {q : Queue} {band ix : Nat} (known : band ≤ q.qNband)
    (found : q.findQband band = some ix) : q.qNband - ix = band := by
  simp only [Queue.findQband] at found
  split at found
  · cases found
    omega
  · cases found

theorem rmvqLocked_removal (flow : Flow s.q) {be : Bool}
    (known : (s.heap.msg mp).bBand ≤ s.q.qNband)
    (removed : s.rmvqLocked mp = some (s', be)) :
    Removal s.q s'.q (s.askedFor mp be) := by
  have unlinked : Flow (s.unlink mp).q :=
    flow.congr rfl rfl rfl flow.queue
  unfold rmvqLocked at removed
  split at removed
  · rename_i zero
    cases removed
    have removal := Queue.release_removal unlinked
      (msgsize ((s.unlink mp).heap.msg mp))
    rw [askedFor, zero]
    exact ⟨⟨removal.flow, removal.wantw, removal.asked⟩, removal.fall⟩
  · rename_i nonzero
    simp only [rmvqBand, Option.bind_eq_bind, Option.bind_eq_some_iff,
      unlink_msg] at removed
    obtain ⟨ix, found, ⟨q, be'⟩, released, removed⟩ := removed
    cases removed
    have removal := Queue.releaseBand_removal unlinked
      (fun qb => by split <;> rfl) released
    have band := findQband_eq (q := (s.unlink mp).q) known found
    rw [band] at removal
    exact ⟨⟨removal.flow, removal.wantw, removal.asked⟩, removal.fall⟩

theorem getqLocked_removal (flow : Flow s.q) {mp' : Option Addr} {be : Bool}
    (known : ∀ mp, s.q.qFirst = some mp →
      (s.heap.msg mp).bBand ≤ s.q.qNband)
    (got : s.getqLocked = some (s', mp', be)) :
    Removal s.q s'.q
      (match mp' with
        | some mp => s.askedFor mp be
        | none => []) := by
  unfold getqLocked at got
  cases first : s.q.qFirst with
  | none =>
      simp only [first] at got
      cases got
      exact (Removal.refl flow).congr rfl rfl rfl rfl rfl rfl rfl rfl
  | some mp =>
      have unlinked : Flow (s.unlinkFirst mp).q :=
        flow.congr rfl rfl rfl flow.queue
      simp only [first, Option.bind_eq_bind, unlinkFirst_msg] at got
      split at got
      · rename_i zero
        cases got
        have removal := Queue.release_removal unlinked
          (msgsize (s.heap.msg mp))
        simp only
        rw [askedFor, zero]
        exact Removal.congr ⟨⟨removal.flow, removal.wantw, removal.asked⟩,
          removal.fall⟩ rfl rfl rfl rfl rfl rfl rfl rfl
      · simp only [Option.bind_eq_some_iff] at got
        obtain ⟨ix, found, ⟨q, be'⟩, released, got⟩ := got
        cases got
        have removal := Queue.releaseBand_removal unlinked (fun qb => rfl)
          released
        have band := findQband_eq (q := (s.unlinkFirst mp).q) (known mp first)
          found
        rw [band] at removal
        exact Removal.congr ⟨⟨removal.flow, removal.wantw, removal.asked⟩,
          removal.fall⟩ rfl rfl rfl rfl rfl rfl rfl rfl

end QState

end OpenSS7.Streams
