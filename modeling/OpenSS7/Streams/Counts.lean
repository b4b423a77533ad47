import OpenSS7.Streams.Links

/-!
The two levels of counters a queue keeps over the messages it holds.
-/

namespace OpenSS7.Streams

open PriorityList

namespace Entry

/-- Counted by `q_count`. -/
def ofQueue (e : Entry) : Bool := decide (e.cls = ⊤ ∨ e.cls = 0)

/-- Counted by the `qb_count` of a band. -/
def ofBand (band : Nat) (e : Entry) : Bool :=
  decide (e.cls = (band : WithTop ℕ))

theorem ofQueue_iff (e : Entry) : e.ofQueue = true ↔ e.msg.bBand = 0 := by
  unfold ofQueue cls
  cases hpri : e.msg.isHiPri with
  | true => simpa using e.zeroed hpri
  | false => simp

theorem ofBand_iff (e : Entry) {band : Nat} (positive : 0 < band) :
    e.ofBand band = true ↔ e.msg.bBand = band := by
  unfold ofBand cls
  cases hpri : e.msg.isHiPri with
  | true =>
      have zero := e.zeroed hpri
      simp only [if_true, zero]
      constructor
      · intro h
        simp at h
      · intro h
        omega
  | false => simp

end Entry

/-- The counters agree with the messages held; `q_bandp` has one structure
for each band from `q_nband` down to one. -/
structure Counted (q : Queue) (l : List Entry) : Prop where
  msgs : q.qMsgs = l.length
  count : q.qCount = load Entry.ofQueue Entry.size l
  nband : q.qBandp.length = q.qNband
  band : ∀ ix qb, q.qBandp[ix]? = some qb →
    qb.qbMsgs = (l.filter (Entry.ofBand (q.qNband - ix))).length ∧
      qb.qbCount = load (Entry.ofBand (q.qNband - ix)) Entry.size l
  known : ∀ e ∈ l, e.msg.bBand ≤ q.qNband

namespace Queue

/-- The queue after `k` more bands have been allocated. -/
def withBands (q : Queue) (k : Nat) : Queue :=
  { q with
    qBandp := List.replicate k q.newQband ++ q.qBandp
    qNband := q.qNband + k }

theorem allocBands_spec (q : Queue) (n mem : Nat) :
    ∃ k, (q.allocBands n mem).1 = q.withBands k ∧
      ((q.allocBands n mem).2 = true → k = n) := by
  induction n generalizing q mem with
  | zero => exact ⟨0, by simp [allocBands, withBands], by simp⟩
  | succ n ih =>
      cases mem with
      | zero =>
          exact ⟨0, by simp [allocBands, withBands], by simp [allocBands]⟩
      | succ mem =>
          obtain ⟨k, eq, full⟩ := ih q.pushQband mem
          refine ⟨k + 1, ?_, ?_⟩
          · have total : q.qNband + (k + 1) = q.qNband + 1 + k := by omega
            rw [allocBands, eq, withBands, withBands, List.replicate_succ',
              List.append_assoc, total]
            rfl
          · intro success
            rw [full success]

theorem getQband_spec (q : Queue) (band mem : Nat)
    (nband : q.qBandp.length = q.qNband) (positive : 0 < band) :
    ∃ k, (q.getQband band mem).1 = q.withBands k ∧
      ∀ ix, (q.getQband band mem).2 = some ix →
        band ≤ q.qNband + k ∧ ix = q.qNband + k - band := by
  by_cases known : band ≤ q.qNband
  · refine ⟨0, by simp [getQband, known, withBands], ?_⟩
    intro ix found
    have inside : q.qNband - band < q.qBandp.length := by omega
    simp only [getQband, known, if_true, findQband, inside,
      Option.some.injEq] at found
    omega
  · obtain ⟨k, eq, full⟩ := q.allocBands_spec (band - q.qNband) mem
    cases result : q.allocBands (band - q.qNband) mem with
    | mk q' success =>
        rw [result] at eq full
        refine ⟨k, ?_, ?_⟩
        · rw [← eq]
          simp only [getQband, known, if_false, result]
          cases success <;> rfl
        · intro ix found
          simp only [getQband, known, if_false, result] at found
          cases success with
          | false => simp at found
          | true =>
              have := full rfl
              simp only [Option.some.injEq] at found
              omega

theorem chargeBand_spec {q : Queue} {ix : Nat} {qb : Qband}
    (found : q.qBandp[ix]? = some qb) (mp : Addr)
    (bPrev bNext : Option Addr) (size : Nat) :
    ∃ qb' blocked, q.chargeBand ix mp bPrev bNext size =
        some { q with
          qBandp := q.qBandp.set ix qb'
          qBlocked := blocked } ∧
      qb'.qbMsgs = qb.qbMsgs + 1 ∧ qb'.qbCount = qb.qbCount + size ∧
      qb'.qbFull = (qb.qbFull || decide (qb.qbHiwat < qb.qbCount + size)) ∧
      qb'.qbWantw = qb.qbWantw ∧ qb'.qbHiwat = qb.qbHiwat ∧
      qb'.qbLowat = qb.qbLowat ∧
      blocked = if qb'.qbFull && !qb.qbFull then q.qBlocked + 1
        else q.qBlocked := by
  simp only [chargeBand, found, Option.bind_eq_bind, Option.bind_some]
  refine ⟨_, _, rfl, ?_⟩
  cases qb.qbFull <;> simp

theorem releaseBand_spec {q : Queue} {ix : Nat} {qb : Qband}
    (found : q.qBandp[ix]? = some qb) (size : Nat) (mark : Qband → Qband)
    (marks : mark qb = { qb with
      qbFirst := (mark qb).qbFirst
      qbLast := (mark qb).qbLast }) :
    ∃ qb' blocked be, q.releaseBand ix size mark =
        some ({ q with
          qBandp := q.qBandp.set ix qb'
          qBlocked := blocked }, be) ∧
      qb'.qbMsgs = qb.qbMsgs - 1 ∧ qb'.qbCount = qb.qbCount - size ∧
      qb'.qbFull = (qb.qbFull && !decide (qb.qbCount - size = 0 ∨
        qb.qbCount - size < qb.qbLowat)) ∧
      qb'.qbWantw = (qb.qbWantw && !(qb.qbFull && !qb'.qbFull)) ∧
      be = (qb.qbWantw && (qb.qbFull && !qb'.qbFull)) ∧
      qb'.qbHiwat = qb.qbHiwat ∧ qb'.qbLowat = qb.qbLowat ∧
      blocked = if qb.qbFull && !qb'.qbFull then q.qBlocked - 1
        else q.qBlocked := by
  simp only [releaseBand, found, Option.bind_eq_bind, Option.bind_some]
  rw [marks]
  by_cases clear : (qb.qbCount - size = 0 ∨ qb.qbCount - size < qb.qbLowat) ∧
      qb.qbFull
  · refine ⟨_, _, _, by rw [if_pos clear], ?_⟩
    simp [clear.1, clear.2]
  · refine ⟨_, _, _, by rw [if_neg clear], ?_⟩
    cases full : qb.qbFull with
    | false => simp
    | true =>
        have low : ¬ (qb.qbCount - size = 0 ∨
            qb.qbCount - size < qb.qbLowat) := fun h => clear ⟨h, full⟩
        simp [low]

end Queue

namespace Counted

variable {q : Queue} {l a b : List Entry} {e : Entry}

theorem empty_load (counted : Counted q l) (band : Nat)
    (unknown : q.qNband < band) : l.filter (Entry.ofBand band) = [] := by
  rw [List.filter_eq_nil_iff]
  intro e member
  rw [e.ofBand_iff (by omega)]
  have := counted.known e member
  omega

theorem withBands (counted : Counted q l) (k : Nat) :
    Counted (q.withBands k) l := by
  refine ⟨counted.msgs, counted.count, ?_, ?_, ?_⟩
  · simp only [Queue.withBands, List.length_append, List.length_replicate,
      counted.nband]
    omega
  · intro ix qb found
    simp only [Queue.withBands] at found ⊢
    rcases Nat.lt_or_ge ix k with inside | outside
    · rw [List.getElem?_append_left (by simpa using inside)] at found
      have fresh := List.eq_of_mem_replicate (List.mem_of_getElem? found)
      rw [load, counted.empty_load (q.qNband + k - ix) (by omega), fresh]
      exact ⟨rfl, rfl⟩
    · rw [List.getElem?_append_right (by simpa using outside)] at found
      have old := counted.band _ qb found
      rw [List.length_replicate] at old
      have same : q.qNband - (ix - k) = q.qNband + k - ix := by omega
      rwa [same] at old
  · intro e member
    exact Nat.le_trans (counted.known e member) (Nat.le_add_right _ _)

theorem charge (counted : Counted q (a ++ b)) (zero : e.msg.bBand = 0)
    {q' : Queue} (msgs : q'.qMsgs = q.qMsgs + 1)
    (count : q'.qCount = q.qCount + e.size) (bandp : q'.qBandp = q.qBandp)
    (nband : q'.qNband = q.qNband) :
    Counted q' (a ++ e :: b) := by
  refine ⟨?_, ?_, ?_, ?_, ?_⟩
  · rw [msgs, counted.msgs]
    simp
    omega
  · rw [count, counted.count, load_insert, if_pos (e.ofQueue_iff.2 zero)]
  · rw [bandp, nband, counted.nband]
  · intro ix qb found
    rw [bandp] at found
    have inside := (List.getElem?_eq_some_iff.1 found).1
    rw [counted.nband] at inside
    have notHere : ¬ e.ofBand (q.qNband - ix) = true := by
      rw [e.ofBand_iff (by omega)]
      omega
    rw [nband, load_insert, length_filter_insert, if_neg notHere,
      if_neg notHere]
    exact counted.band ix qb found
  · intro other member
    rw [nband]
    simp only [List.mem_append, List.mem_cons] at member
    rcases member with member | rfl | member
    · exact counted.known other (by simp [member])
    · omega
    · exact counted.known other (by simp [member])

theorem chargeBand (counted : Counted q (a ++ b)) {ix : Nat} {qb qb' : Qband}
    (found : q.qBandp[ix]? = some qb) (here : e.msg.bBand = q.qNband - ix)
    {q' : Queue} (msgs : q'.qMsgs = q.qMsgs + 1)
    (count : q'.qCount = q.qCount) (bandp : q'.qBandp = q.qBandp.set ix qb')
    (nband : q'.qNband = q.qNband) (bandMsgs : qb'.qbMsgs = qb.qbMsgs + 1)
    (bandCount : qb'.qbCount = qb.qbCount + e.size) :
    Counted q' (a ++ e :: b) := by
  have inside := (List.getElem?_eq_some_iff.1 found).1
  have inside' := inside
  rw [counted.nband] at inside'
  refine ⟨?_, ?_, ?_, ?_, ?_⟩
  · rw [msgs, counted.msgs]
    simp
    omega
  · have notZero : ¬ e.ofQueue = true := by
      rw [e.ofQueue_iff]
      omega
    rw [count, counted.count, load_insert, if_neg notZero, Nat.add_zero]
  · rw [bandp, nband, List.length_set, counted.nband]
  · intro other qb'' found'
    rw [bandp] at found'
    rw [nband, load_insert, length_filter_insert]
    by_cases same : ix = other
    · subst same
      rw [List.getElem?_set_self inside] at found'
      cases found'
      have isHere : e.ofBand (q.qNband - ix) = true := by
        rw [e.ofBand_iff (by omega)]
        exact here
      rw [if_pos isHere, if_pos isHere, bandMsgs, bandCount]
      have old := counted.band ix qb found
      exact ⟨by rw [old.1], by rw [old.2]⟩
    · rw [List.getElem?_set_ne same] at found'
      have otherInside := (List.getElem?_eq_some_iff.1 found').1
      rw [counted.nband] at otherInside
      have notHere : ¬ e.ofBand (q.qNband - other) = true := by
        rw [e.ofBand_iff (by omega)]
        omega
      rw [if_neg notHere, if_neg notHere]
      exact counted.band other qb'' found'
  · intro other member
    rw [nband]
    simp only [List.mem_append, List.mem_cons] at member
    rcases member with member | rfl | member
    · exact counted.known other (by simp [member])
    · omega
    · exact counted.known other (by simp [member])

theorem release (counted : Counted q (a ++ e :: b)) (zero : e.msg.bBand = 0)
    {q' : Queue} (msgs : q'.qMsgs = q.qMsgs - 1)
    (count : q'.qCount = q.qCount - e.size) (bandp : q'.qBandp = q.qBandp)
    (nband : q'.qNband = q.qNband) :
    Counted q' (a ++ b) := by
  refine ⟨?_, ?_, ?_, ?_, ?_⟩
  · rw [msgs, counted.msgs]
    simp
  · rw [count, counted.count, load_insert, if_pos (e.ofQueue_iff.2 zero),
      Nat.add_sub_cancel]
  · rw [bandp, nband, counted.nband]
  · intro ix qb found
    rw [bandp] at found
    have inside := (List.getElem?_eq_some_iff.1 found).1
    rw [counted.nband] at inside
    have notHere : ¬ e.ofBand (q.qNband - ix) = true := by
      rw [e.ofBand_iff (by omega)]
      omega
    have old := counted.band ix qb found
    rw [load_insert, length_filter_insert, if_neg notHere, if_neg notHere]
      at old
    rw [nband]
    exact old
  · intro other member
    rw [nband]
    apply counted.known
    simp only [List.mem_append, List.mem_cons] at member ⊢
    tauto

theorem releaseBand (counted : Counted q (a ++ e :: b)) {ix : Nat}
    {qb qb' : Qband} (found : q.qBandp[ix]? = some qb)
    (here : e.msg.bBand = q.qNband - ix)
    {q' : Queue} (msgs : q'.qMsgs = q.qMsgs - 1)
    (count : q'.qCount = q.qCount) (bandp : q'.qBandp = q.qBandp.set ix qb')
    (nband : q'.qNband = q.qNband) (bandMsgs : qb'.qbMsgs = qb.qbMsgs - 1)
    (bandCount : qb'.qbCount = qb.qbCount - e.size) :
    Counted q' (a ++ b) := by
  have inside := (List.getElem?_eq_some_iff.1 found).1
  have inside' := inside
  rw [counted.nband] at inside'
  refine ⟨?_, ?_, ?_, ?_, ?_⟩
  · rw [msgs, counted.msgs]
    simp
  · have notZero : ¬ e.ofQueue = true := by
      rw [e.ofQueue_iff]
      omega
    rw [count, counted.count, load_insert, if_neg notZero, Nat.add_zero]
  · rw [bandp, nband, List.length_set, counted.nband]
  · intro other qb'' found'
    rw [bandp] at found'
    rw [nband]
    by_cases same : ix = other
    · subst same
      rw [List.getElem?_set_self inside] at found'
      cases found'
      have isHere : e.ofBand (q.qNband - ix) = true := by
        rw [e.ofBand_iff (by omega)]
        exact here
      have old := counted.band ix qb found
      rw [load_insert, length_filter_insert, if_pos isHere, if_pos isHere]
        at old
      rw [bandMsgs, bandCount]
      omega
    · rw [List.getElem?_set_ne same] at found'
      have otherInside := (List.getElem?_eq_some_iff.1 found').1
      rw [counted.nband] at otherInside
      have notHere : ¬ e.ofBand (q.qNband - other) = true := by
        rw [e.ofBand_iff (by omega)]
        omega
      have old := counted.band other qb'' found'
      rw [load_insert, length_filter_insert, if_neg notHere, if_neg notHere]
        at old
      exact old
  · intro other member
    rw [nband]
    apply counted.known
    simp only [List.mem_append, List.mem_cons] at member ⊢
    tauto

end Counted

end OpenSS7.Streams
