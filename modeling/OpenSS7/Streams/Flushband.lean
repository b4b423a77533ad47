import OpenSS7.Streams.Markers
import OpenSS7.Streams.Procs

/-!
`flushband`, which splices a band out of the queue in bulk, and when it takes
exactly that band.
-/

namespace OpenSS7.Streams

open LinkedList PriorityList

namespace QState

/-- `for (; b && b->b_datap->db_type >= QPCTL; b = b->b_next) ;` and then
`for (; b && b->b_band > 0; b = b->b_next) ;`. -/
def firstZero (fuel : Nat) (s : QState) : Option (Option Addr) := do
  let (bPrev, b) ←
    walk s.heap.next (fun b => (s.heap.msg b).isHiPri) fuel none s.q.qFirst
  let (_, b) ←
    walk s.heap.next (fun b => decide (0 < (s.heap.msg b).bBand)) fuel bPrev b
  some b

/-- The FLUSHALL branch of `__flushband` for band zero, from message `b` on.
`&q->q_last->b_next` is written through after `q_last` has been fixed up. -/
def flushZero (s : QState) (b : Addr) : Option (QState × Flushed) := do
  let bPrev := s.heap.prev b
  let qLast := if s.q.qLast = some b then bPrev else s.q.qLast
  let last ← qLast
  some ({ heap := ((s.heap.setNext? bPrev none).setNext last none).setPrev b none
          q := { s.q with
            qFirst := if s.q.qFirst = some b then none else s.q.qFirst
            qLast := qLast
            qCount := 0
            qMsgs := 0
            qFull := false
            qWantw := false } },
    { chain := some b, tail := some last, bands := [0] })

/-- The FLUSHALL branch of `__flushband` for the band at position `ix`, whose
first message is `b`. -/
def flushQband (s : QState) (ix : Nat) (qb : Qband) (b : Addr) :
    Option (QState × Flushed) := do
  let last ← qb.qbLast
  let heap := s.heap.setNext? (s.heap.prev b) (s.heap.next last)
  let heap := heap.setPrev? (heap.next last) (heap.prev b)
  some ({ heap := (heap.setNext last none).setPrev b none
          q := { s.q with
            qFirst := if s.q.qFirst = some b then heap.next last else s.q.qFirst
            qLast := if s.q.qLast = some last then heap.prev b else s.q.qLast
            qMsgs := s.q.qMsgs - qb.qbMsgs
            qBandp := s.q.qBandp.set ix
              { qb with
                qbCount := 0
                qbMsgs := 0
                qbFirst := none
                qbLast := none
                qbFull := false
                qbWantw := false }
            qBlocked := if qb.qbFull then s.q.qBlocked - 1 else s.q.qBlocked } },
    { chain := some b, tail := some last, bands := [s.q.qNband - ix] })

/-- `__flushband`; `backenable` is set when a band is recorded. The loops of
the FLUSHDATA branches are that of `__flushq`. -/
def flushbandLocked (fuel : Nat) (s : QState) (band : Nat) (flag : FlushFlag) :
    Option (QState × Flushed) :=
  if band = 0 then do
    match ← s.firstZero fuel with
    | none => some (s, Flushed.empty)
    | some b =>
        match flag with
        | .flushall => s.flushZero b
        | .flushdata => flushData fuel s b Flushed.empty
  else
    match s.q.findQband band with
    | none => some (s, Flushed.empty)
    | some ix => do
        let qb ← s.q.qBandp[ix]?
        match qb.qbFirst with
        | none => some (s, Flushed.empty)
        | some b =>
            match flag with
            | .flushall => s.flushQband ix qb b
            | .flushdata => flushData fuel s b Flushed.empty

def flushband (fuel : Nat) (s : QState) (band : Nat) (flag : FlushFlag) :
    Option (QState × Outcome) := do
  let (s, flushed) ← s.flushbandLocked fuel band flag
  some (s,
    { result := 0
      msg := flushed.chain
      enable := false
      backenable := if flushed.bands = [] then [] else [band] })

end QState

/-- A queue that holds the messages `l` in order, with all its counters and
the markers of its bands right. -/
structure WellFormed (s : QState) (l : List Entry) : Prop
    extends Holds s l where
  exact : Exact s.q l
  tallied : s.q.Tallied

def Entry.taken (band : Nat) (flag : FlushFlag) (e : Entry) : Bool :=
  e.ofBand band &&
    match flag with
    | .flushall => true
    | .flushdata => e.msg.isdatamsg

def bandFlushed (band : Nat) (flag : FlushFlag) (l : List Entry) :
    List Entry :=
  l.filter fun e => !e.taken band flag

/-- The condition under which `flushband` takes exactly the band: the band
that `__find_qband` comes upon is `min band q_nband`, and a data flush goes
on from its first message to the end of the queue. -/
def FlushesBand (band nband : Nat) (flag : FlushFlag) (l : List Entry) : Prop :=
  if band = 0 then
    flag = .flushall → inBand l 0 = []
  else
    nband = 0 ∨ inBand l (min band nband) = [] ∨
      match flag with
      | .flushall => band ≤ nband
      | .flushdata => ∀ e ∈ l, e.cls ≤ (min band nband : ℕ) →
          e.msg.isdatamsg = true → e.msg.bBand = band

section BandFlushed

variable {l a b : List Entry} {band : Nat} {flag : FlushFlag}

theorem Entry.ofBand_iff_cls (e : Entry) :
    e.ofBand band = true ↔ e.cls = (band : WithTop ℕ) := by
  simp [Entry.ofBand]

theorem Entry.zero_le_cls (e : Entry) : ((0 : ℕ) : WithTop ℕ) ≤ e.cls := by
  have here := e.band_le_cls 0
  simp only [Nat.zero_le, decide_true, Bool.or_true, decide_eq_true_eq] at here
  exact here

theorem bandFlushed_of_none (none : ∀ e ∈ l, ¬ e.ofBand band = true) :
    bandFlushed band flag l = l := by
  rw [bandFlushed, List.filter_eq_self]
  intro e member
  simp [Entry.taken, none e member]

theorem bandFlushed_append : bandFlushed band flag (a ++ b) =
    bandFlushed band flag a ++ bandFlushed band flag b :=
  List.filter_append a b

theorem bandFlushed_all (every : ∀ e ∈ l, e.ofBand band = true) :
    bandFlushed band .flushall l = [] := by
  rw [bandFlushed, List.filter_eq_nil_iff]
  intro e member
  simp [Entry.taken, every e member]

theorem bandFlushed_data
    (every : ∀ e ∈ l, e.msg.isdatamsg = true → e.ofBand band = true) :
    bandFlushed band .flushdata l = l.filter fun e => !e.msg.isdatamsg := by
  apply List.filter_congr
  intro e member
  cases data : e.msg.isdatamsg with
  | false => simp [Entry.taken, data]
  | true => simp [Entry.taken, data, every e member data]

end BandFlushed

namespace QState

variable {s s' : QState} {l a b : List Entry} {fuel band : Nat}
  {flag : FlushFlag}

theorem band_split (holds : Holds s l) (band : Nat) :
    ∃ high low, l = high ++ (l.filter (Entry.ofBand band) ++ low) ∧
      (∀ e ∈ high, (band : WithTop ℕ) < e.cls) ∧
        ∀ e ∈ low, e.cls < (band : WithTop ℕ) :=
  holds.ordered.split (band : WithTop ℕ)

theorem firstZero_spec (holds : Holds s l) (enough : l.length ≤ fuel) :
    s.firstZero fuel = some (inBand l 0).head? := by
  obtain ⟨high, low, eq, above, below⟩ := band_split holds 0
  have empty : low = [] := by
    rw [List.eq_nil_iff_forall_not_mem]
    intro e member
    exact absurd (below e member) (not_lt.2 e.zero_le_cls)
  rw [empty, List.append_nil] at eq
  have walked := holds.walk_first Msg.isHiPri enough
  have walked' := holds.walk_bands (fun m => decide (0 < m.bBand)) enough
  have same : (fun e : Entry => e.msg.isHiPri || decide (0 < e.msg.bBand)) =
      fun e => decide (((0 : ℕ) : WithTop ℕ) < e.cls) := by
    funext e
    rw [Entry.band_lt_cls]
  have drop : (l.dropWhile fun e =>
      e.msg.isHiPri || decide (0 < e.msg.bBand)) =
        l.filter (Entry.ofBand 0) := by
    rw [same]
    conv_lhs => rw [eq]
    rw [List.dropWhile_append_of_pos (by simpa using above)]
    cases zeros : l.filter (Entry.ofBand 0) with
    | nil => rfl
    | cons e rest =>
        have member : e ∈ l.filter (Entry.ofBand 0) := by
          rw [zeros]
          exact List.mem_cons_self
        have here := (e.ofBand_iff_cls).1 (List.mem_filter.1 member).2
        rw [List.dropWhile_cons_of_neg]
        simp [here]
  simp only [firstZero, walked, walked', Option.bind_eq_bind,
    Option.bind_some, drop, inBand]

end QState

theorem Counted.emptied {q q' : Queue} {a r b : List Entry} {ix : Nat}
    {qb qb' : Qband} (counted : Counted q (a ++ (r ++ b)))
    (found : q.qBandp[ix]? = some qb)
    (run : ∀ e ∈ r, e.msg.bBand = q.qNband - ix)
    (rest : ∀ e ∈ a ++ b, e.msg.bBand ≠ q.qNband - ix)
    (msgs : q'.qMsgs = q.qMsgs - qb.qbMsgs) (count : q'.qCount = q.qCount)
    (bandp : q'.qBandp = q.qBandp.set ix qb') (nband : q'.qNband = q.qNband)
    (empty : qb'.qbMsgs = 0 ∧ qb'.qbCount = 0) :
    Counted q' (a ++ b) := by
  have inside := (List.getElem?_eq_some_iff.1 found).1
  have positive : 0 < q.qNband - ix := by
    have := inside
    rw [counted.nband] at this
    omega
  have outside : (a ++ b).filter (Entry.ofBand (q.qNband - ix)) = [] := by
    rw [List.filter_eq_nil_iff]
    intro e member
    rw [e.ofBand_iff positive]
    exact rest e member
  have all : r.filter (Entry.ofBand (q.qNband - ix)) = r := by
    rw [List.filter_eq_self]
    intro e member
    exact (e.ofBand_iff positive).2 (run e member)
  have others : ∀ p : Entry → Bool, (∀ e ∈ r, p e = false) →
      (a ++ (r ++ b)).filter p = (a ++ b).filter p := by
    intro p none
    have empty : r.filter p = [] := by
      rw [List.filter_eq_nil_iff]
      intro e member
      simp [none e member]
    rw [List.filter_append, List.filter_append, empty, List.nil_append,
      List.filter_append]
  refine ⟨?_, ?_, ?_, ?_, ?_⟩
  · have held := (counted.band ix qb found).1
    rw [List.filter_append, List.filter_append, all, List.length_append,
      List.length_append] at held
    rw [List.filter_append, List.append_eq_nil_iff] at outside
    rw [outside.1, outside.2] at held
    rw [msgs, counted.msgs, held]
    simp only [List.length_append, List.length_nil]
    omega
  · rw [count, counted.count, load, load, others]
    intro e member
    rw [Bool.eq_false_iff, ne_eq, e.ofQueue_iff, run e member]
    omega
  · rw [bandp, nband, List.length_set, counted.nband]
  · intro other qb'' found'
    rw [bandp] at found'
    rw [nband]
    by_cases same : ix = other
    · subst same
      rw [List.getElem?_set_self inside] at found'
      cases found'
      rw [load, outside, empty.1, empty.2]
      exact ⟨rfl, rfl⟩
    · rw [List.getElem?_set_ne same] at found'
      have otherInside := (List.getElem?_eq_some_iff.1 found').1
      rw [counted.nband] at otherInside
      have old := counted.band other qb'' found'
      rw [load, others] at old
      · exact old
      · intro e member
        have here := run e member
        rw [Bool.eq_false_iff, ne_eq, e.ofBand_iff (by omega), here]
        have := inside
        rw [counted.nband] at this
        omega
  · intro e member
    rw [nband]
    apply counted.known
    simp only [List.mem_append] at member ⊢
    tauto

namespace Queue

theorem Tallied.emptied {q q' : Queue} {ix : Nat} {qb qb' : Qband}
    (tallied : q.Tallied) (found : q.qBandp[ix]? = some qb)
    (bandp : q'.qBandp = q.qBandp.set ix qb') (nband : q'.qNband = q.qNband)
    (clear : qb'.qbFull = false)
    (blocked : q'.qBlocked =
      if qb.qbFull then q.qBlocked - 1 else q.qBlocked) : q'.Tallied := by
  obtain ⟨inside, rfl⟩ := List.getElem?_eq_some_iff.mp found
  refine ⟨?_, ?_⟩
  · rw [bandp, nband, List.length_set]
    exact tallied.nband
  · rw [blocked, bandp, List.countP_set inside, ← tallied.blocked, clear]
    cases q.qBandp[ix].qbFull <;> simp

end Queue

namespace QState

variable {s s' : QState} {l a r b : List Entry} {e : Entry} {fuel band : Nat}
  {flag : FlushFlag}

theorem flushQband_spec {ix : Nat} {qb : Qband}
    (formed : WellFormed s (a ++ (e :: r ++ b)))
    (found : s.q.qBandp[ix]? = some qb)
    (run : ∀ e' ∈ e :: r, e'.msg.bBand = s.q.qNband - ix)
    (rest : ∀ e' ∈ a ++ b, e'.msg.bBand ≠ s.q.qNband - ix) :
    ∃ s' flushed, s.flushQband ix qb e.id = some (s', flushed) ∧
      WellFormed s' (a ++ b) := by
  have inside := (List.getElem?_eq_some_iff.1 found).1
  rw [formed.counted.nband] at inside
  have positive : 0 < s.q.qNband - ix := by omega
  have none : ∀ m : List Entry,
      (∀ e' ∈ m, e'.msg.bBand ≠ s.q.qNband - ix) →
        inBand m (s.q.qNband - ix) = [] := by
    intro m outside
    rw [inBand, List.map_eq_nil_iff, List.filter_eq_nil_iff]
    intro e' member
    rw [e'.ofBand_iff positive]
    exact outside e' member
  have noneA := none a fun e' member =>
    rest e' (List.mem_append_left b member)
  have noneB := none b fun e' member =>
    rest e' (List.mem_append_right a member)
  have all : inBand (e :: r) (s.q.qNband - ix) = (e :: r).map Entry.id := by
    rw [inBand, List.filter_eq_self.2]
    intro e' member
    exact (e'.ofBand_iff positive).2 (run e' member)
  obtain ⟨init, final, last⟩ : ∃ init final, e :: r = init ++ [final] :=
    ⟨_, _, (List.dropLast_append_getLast (List.cons_ne_nil e r)).symm⟩
  have ends := formed.exact ix qb found
  have hlast : qb.qbLast = some final.id := by
    rw [ends.last, inBand_append, inBand_append, all, noneA, noneB, last]
    simp
  have hprev : s.heap.prev e.id = (a.map Entry.id).getLast? :=
    formed.toThreaded.prev_eq
  have hnext : s.heap.next final.id = (b.map Entry.id).head? := by
    have threaded := formed.toThreaded
    rw [last, List.append_assoc, ← List.append_assoc] at threaded
    exact threaded.next_eq
  have nodup := formed.linked.nodup
  rw [List.map_append, List.map_append] at nodup
  obtain ⟨_, nodup', apart⟩ := List.nodup_append.1 nodup
  obtain ⟨_, _, apart'⟩ := List.nodup_append.1 nodup'
  have lastIn : final.id ∈ (e :: r).map Entry.id := by
    rw [last]
    simp
  have before : (a.map Entry.id).getLast? ≠ some final.id := by
    intro eq
    exact apart _ (List.mem_of_getLast? eq) _
      (List.mem_append_left _ lastIn) rfl
  have after : (b.map Entry.id).head? ≠ some e.id := by
    intro eq
    exact apart' e.id (by simp) _ (List.mem_of_head? eq) rfl
  simp only [flushQband, hlast, hprev, hnext, Option.bind_eq_bind,
    Option.bind_some, Heap.next_setNext?, Heap.prev_setNext?, if_neg before]
  refine ⟨_, _, rfl, ⟨⟨?_, ?_, ?_⟩, ?_, ?_⟩⟩
  · apply formed.toThreaded.removeRun (List.cons_ne_nil e r)
    · intro mp
      simp
    · intro mp outside
      have other : mp ≠ final.id := fun eq => outside (eq ▸ lastIn)
      simp [other]
    · intro mp outside
      have other : mp ≠ e.id := fun eq => outside (by simp [eq])
      simp [other]
    · simp only [Heap.next_setPrev?, Heap.next_setNext?, if_neg before, hnext,
        List.map_cons, List.head?_cons]
    · rw [last]
      simp [hprev]
  · exact List.Pairwise.sublist
      (List.Sublist.append_left (List.sublist_append_right (e :: r) b) a)
      formed.ordered
  · exact formed.counted.emptied found run rest rfl rfl rfl rfl ⟨rfl, rfl⟩
  · have gone : inBand (a ++ b) (s.q.qNband - ix) = [] := by
      rw [inBand_append, noneA, noneB]
      rfl
    have others : ∀ other, other ≠ ix → other < s.q.qBandp.length →
        inBand (a ++ b) (s.q.qNband - other) =
          inBand (a ++ (e :: r ++ b)) (s.q.qNband - other) := by
      intro other different inside'
      rw [formed.counted.nband] at inside'
      have outside : inBand (e :: r) (s.q.qNband - other) = [] := by
        rw [inBand, List.map_eq_nil_iff, List.filter_eq_nil_iff]
        intro e' member
        rw [e'.ofBand_iff (by omega), run e' member]
        omega
      rw [inBand_append, inBand_append, inBand_append, outside]
      rfl
    exact formed.exact.setBand found rfl rfl
      ⟨by rw [gone]; rfl, by rw [gone]; rfl⟩ others
  · exact formed.tallied.emptied found rfl rfl rfl rfl

theorem flushData_formed (formed : WellFormed s (a ++ e :: r))
    (enough : r.length < fuel) :
    ∃ s' flushed, flushData fuel s e.id Flushed.empty = some (s', flushed) ∧
      WellFormed s' (a ++ (e :: r).filter fun e => !e.msg.isdatamsg) := by
  have tail : ∀ last, Flushed.empty.tail = some last →
      last ∉ (a ++ e :: r).map Entry.id := fun _ found => nomatch found
  obtain ⟨s', flushed, eq, holds⟩ :=
    flushData_spec formed.toHolds enough tail
  exact ⟨s', flushed, eq, holds,
    flushData_exact formed.toHolds formed.exact tail eq,
    tallied_flushData formed.tallied eq⟩

theorem flushZero_wrong {mp : Addr} {flushed : Flushed}
    (done : s.flushZero mp = some (s', flushed)) : ¬ WellFormed s' l := by
  intro formed
  simp only [flushZero, Option.bind_eq_bind, Option.bind_eq_some_iff] at done
  obtain ⟨last, here, done⟩ := done
  cases done
  have none : 0 = l.length := formed.counted.msgs
  have marker := formed.linked.last_eq
  simp only [here] at marker
  rw [List.length_eq_zero_iff.1 none.symm] at marker
  cases marker

theorem bandFlushed_iff {outcome : Option (QState × Flushed)}
    (done : ∃ s' flushed, outcome = some (s', flushed) ∧ WellFormed s' a) :
    (∃ s' flushed, outcome = some (s', flushed) ∧ WellFormed s' b) ↔
      a = b := by
  obtain ⟨s', flushed, eq, formed⟩ := done
  constructor
  · rintro ⟨s'', flushed', eq', formed'⟩
    rw [eq] at eq'
    cases eq'
    exact formed.toThreaded.unique formed'.toThreaded
  · rintro rfl
    exact ⟨s', flushed, eq, formed⟩

theorem flushbandLocked_zero (formed : WellFormed s l)
    (enough : l.length ≤ fuel) :
    (∃ s' flushed, s.flushbandLocked fuel 0 flag = some (s', flushed) ∧
      WellFormed s' (bandFlushed 0 flag l)) ↔
        (flag = .flushall → inBand l 0 = []) := by
  have first := firstZero_spec formed.toHolds enough
  obtain ⟨high, low, eq, above, below⟩ := band_split formed.toHolds 0
  have empty : low = [] := by
    rw [List.eq_nil_iff_forall_not_mem]
    intro e member
    exact absurd (below e member) (not_lt.2 e.zero_le_cls)
  rw [empty, List.append_nil] at eq
  cases zeros : l.filter (Entry.ofBand 0) with
  | nil =>
      have none : inBand l 0 = [] := by rw [inBand, zeros]; rfl
      rw [none] at first
      simp only [flushbandLocked, if_true, first, Option.bind_eq_bind,
        Option.bind_some, List.head?_nil]
      refine iff_of_true ⟨s, Flushed.empty, rfl, ?_⟩ fun _ => none
      rw [bandFlushed_of_none (List.filter_eq_nil_iff.1 zeros)]
      exact formed
  | cons e rest =>
      have some : inBand l 0 = e.id :: rest.map Entry.id := by
        rw [inBand, zeros]
        rfl
      rw [some] at first
      rw [zeros] at eq
      simp only [flushbandLocked, if_true, first, Option.bind_eq_bind,
        Option.bind_some, List.head?_cons]
      cases flag with
      | flushall =>
          refine iff_of_false ?_ ?_
          · rintro ⟨s', flushed, done, formed'⟩
            exact flushZero_wrong done formed'
          · intro claim
            have := claim rfl
            rw [some] at this
            cases this
      | flushdata =>
          rw [eq] at formed enough
          have kept : ∀ e' ∈ high, ¬ e'.ofBand 0 = true := by
            intro e' member
            rw [e'.ofBand_iff_cls]
            exact ne_of_gt (above e' member)
          have every : ∀ e' ∈ e :: rest, e'.ofBand 0 = true := by
            intro e' member
            rw [← zeros] at member
            exact (List.mem_filter.1 member).2
          refine iff_of_true ?_ (by simp)
          rw [eq, bandFlushed_append, bandFlushed_of_none kept,
            bandFlushed_data fun e' member _ => every e' member]
          refine flushData_formed formed ?_
          simp only [List.length_append, List.length_cons] at enough
          omega

theorem findQband_min {q : Queue} (nband : q.qBandp.length = q.qNband)
    (allocated : 0 < q.qNband) (positive : 0 < band) :
    ∃ ix qb, q.findQband band = some ix ∧ q.qBandp[ix]? = some qb ∧
      q.qNband - ix = min band q.qNband := by
  have inside : q.qNband - band < q.qBandp.length := by omega
  refine ⟨_, _, ?_, List.getElem?_eq_getElem inside, by omega⟩
  rw [Queue.findQband, if_pos inside]

theorem none_above (counted : Counted s.q l) (above : s.q.qNband < band) :
    ∀ e ∈ l, ¬ e.ofBand band = true := by
  intro e member
  rw [e.ofBand_iff (by omega)]
  have := counted.known e member
  omega

theorem flushbandLocked_band (formed : WellFormed s l)
    (enough : l.length ≤ fuel) (positive : 0 < band) :
    (∃ s' flushed, s.flushbandLocked fuel band flag = some (s', flushed) ∧
      WellFormed s' (bandFlushed band flag l)) ↔
        (s.q.qNband = 0 ∨ inBand l (min band s.q.qNband) = [] ∨
          match flag with
          | .flushall => band ≤ s.q.qNband
          | .flushdata => ∀ e ∈ l, e.cls ≤ (min band s.q.qNband : ℕ) →
              e.msg.isdatamsg = true → e.msg.bBand = band) := by
  have nband := formed.counted.nband
  rw [flushbandLocked, if_neg (by omega)]
  by_cases allocated : s.q.qNband = 0
  · have nothing : s.q.findQband band = none := by
      rw [Queue.findQband, if_neg (by omega)]
    refine iff_of_true ?_ (.inl allocated)
    rw [nothing, bandFlushed_of_none (none_above formed.counted (by omega))]
    exact ⟨s, Flushed.empty, rfl, formed⟩
  obtain ⟨ix, qb, found, there, here⟩ :=
    findQband_min nband (Nat.pos_of_ne_zero allocated) positive
  have first := (formed.exact ix qb there).first
  rw [here] at first
  have low : band ≤ s.q.qNband ∨ s.q.qNband < band := by omega
  obtain ⟨high, below, eq, above, under⟩ :=
    band_split formed.toHolds (min band s.q.qNband)
  have highOut : ∀ e ∈ high, ¬ e.ofBand band = true := by
    rcases low with le | lt
    · intro e member
      rw [Nat.min_eq_left le] at above
      rw [e.ofBand_iff_cls]
      exact ne_of_gt (above e member)
    · intro e member
      refine none_above formed.counted lt e ?_
      rw [eq]
      exact List.mem_append_left _ member
  simp only [found, there, first, Option.bind_eq_bind, Option.bind_some]
  cases inside : l.filter (Entry.ofBand (min band s.q.qNband)) with
  | nil =>
      have none : inBand l (min band s.q.qNband) = [] := by
        rw [inBand, inside]
        rfl
      refine iff_of_true ?_ (.inr (.inl none))
      rw [none, bandFlushed_of_none]
      · exact ⟨s, Flushed.empty, rfl, formed⟩
      · rcases low with le | lt
        · rw [Nat.min_eq_left le] at inside
          exact List.filter_eq_nil_iff.1 inside
        · exact none_above formed.counted lt
  | cons e r =>
      have some : inBand l (min band s.q.qNband) =
          e.id :: r.map Entry.id := by
        rw [inBand, inside]
        rfl
      rw [inside] at eq
      have found' : 0 < min band s.q.qNband := by omega
      have run : ∀ e' ∈ e :: r, e'.msg.bBand = s.q.qNband - ix := by
        intro e' member
        rw [← inside] at member
        rw [here]
        exact (e'.ofBand_iff found').1 (List.mem_filter.1 member).2
      have rest : ∀ e' ∈ high ++ below, e'.msg.bBand ≠ s.q.qNband - ix := by
        intro e' member
        rw [here, ne_eq, ← e'.ofBand_iff found', e'.ofBand_iff_cls]
        rcases List.mem_append.1 member with member | member
        · exact ne_of_gt (above e' member)
        · exact ne_of_lt (under e' member)
      have split : WellFormed s (high ++ (e :: r ++ below)) := eq ▸ formed
      rw [some]
      simp only [List.head?_cons, reduceCtorEq, allocated, false_or]
      cases flag with
      | flushall =>
          rw [bandFlushed_iff (flushQband_spec split there run rest)]
          constructor
          · intro same
            rcases low with le | lt
            · exact le
            · rw [bandFlushed_of_none (none_above formed.counted lt)] at same
              have length := congrArg List.length (same.trans eq)
              simp only [List.length_append, List.length_cons] at length
              omega
          · intro le
            have every : ∀ e' ∈ e :: r, e'.ofBand band = true := by
              intro e' member
              rw [← inside, Nat.min_eq_left le] at member
              exact (List.mem_filter.1 member).2
            have belowOut : ∀ e' ∈ below, ¬ e'.ofBand band = true := by
              intro e' member
              rw [Nat.min_eq_left le] at under
              rw [e'.ofBand_iff_cls]
              exact ne_of_lt (under e' member)
            rw [eq, bandFlushed_append, bandFlushed_append,
              bandFlushed_of_none highOut, bandFlushed_of_none belowOut,
              bandFlushed_all every, List.nil_append]
      | flushdata =>
          have short : (r ++ below).length < fuel := by
            rw [eq] at enough
            simp only [List.length_append, List.length_cons] at enough ⊢
            omega
          rw [bandFlushed_iff (flushData_formed split short)]
          constructor
          · intro same e' member lower data
            by_contra other
            have kept : e' ∈ bandFlushed band .flushdata l := by
              refine List.mem_filter.2 ⟨member, ?_⟩
              have outside : ¬ e'.ofBand band = true := by
                rw [e'.ofBand_iff positive]
                exact other
              simp [Entry.taken, outside]
            rw [← same] at kept
            rcases List.mem_append.1 kept with kept | kept
            · exact absurd (above e' kept) (not_lt.2 lower)
            · have := (List.mem_filter.1 kept).2
              rw [data] at this
              cases this
          · intro data
            have every : ∀ e' ∈ e :: r ++ below,
                e'.msg.isdatamsg = true → e'.ofBand band = true := by
              intro e' member data'
              rw [e'.ofBand_iff positive]
              refine data e' ?_ ?_ data'
              · rw [eq]
                exact List.mem_append_right _ member
              · rcases List.mem_append.1 member with member | member
                · rw [← inside] at member
                  exact le_of_eq ((e'.ofBand_iff_cls).1
                    (List.mem_filter.1 member).2)
                · exact le_of_lt (under e' member)
            rw [eq, bandFlushed_append, bandFlushed_of_none highOut,
              bandFlushed_data every]
            rfl

theorem flushband_locked {l' : List Entry} :
    (∃ s' outcome, s.flushband fuel band flag = some (s', outcome) ∧
      WellFormed s' l') ↔
        ∃ s' flushed, s.flushbandLocked fuel band flag = some (s', flushed) ∧
          WellFormed s' l' := by
  simp only [flushband, Option.bind_eq_bind, Option.bind_eq_some_iff]
  constructor
  · rintro ⟨s', outcome, ⟨⟨s'', flushed⟩, done, eq⟩, formed'⟩
    cases eq
    exact ⟨s'', flushed, done, formed'⟩
  · rintro ⟨s', flushed, done, formed'⟩
    exact ⟨s', _, ⟨(s', flushed), done, rfl⟩, formed'⟩

theorem flushbandLocked_iff (formed : WellFormed s l)
    (enough : l.length ≤ fuel) :
    (∃ s' flushed, s.flushbandLocked fuel band flag = some (s', flushed) ∧
      WellFormed s' (bandFlushed band flag l)) ↔
        FlushesBand band s.q.qNband flag l := by
  unfold FlushesBand
  by_cases zero : band = 0
  · rw [if_pos zero, zero]
    exact flushbandLocked_zero formed enough
  · rw [if_neg zero]
    exact flushbandLocked_band formed enough (Nat.pos_of_ne_zero zero)

/-- `flushband` takes exactly the band off a well-formed queue, and leaves it
well formed, when the condition holds and only then. -/
theorem flushband_takes_band_iff (formed : WellFormed s l)
    (enough : l.length ≤ fuel) :
    (∃ s' outcome, s.flushband fuel band flag = some (s', outcome) ∧
      WellFormed s' (bandFlushed band flag l)) ↔
        FlushesBand band s.q.qNband flag l := by
  rw [flushband_locked]
  exact flushbandLocked_iff formed enough

theorem one_formed : ∃ s e, WellFormed s [e] ∧ e.id = 1 ∧
    e.msg = ⟨0, M_DATA, [(0, 1)]⟩ ∧ s.q.qNband = 0 ∧
    s.flushbandLocked 1 0 .flushall = none := by
  have put := @Run.step (QState.fresh 16 4) _ _ _
    (.putq 1 ⟨0, M_DATA, [(0, 1)]⟩ 1) _ 1 .nil (by decide) (by decide) rfl
  refine ⟨_, _, ⟨put.holds (QState.fresh_empty 16 4), ?_, ⟨rfl, rfl⟩⟩, rfl,
    rfl, rfl, rfl⟩
  intro ix qb found
  cases found

theorem flushband_takes_band_iff_one : ∃ s e, WellFormed s [e] ∧
    ((∃ s' outcome, s.flushband 1 0 .flushdata = some (s', outcome) ∧
      WellFormed s' (bandFlushed 0 .flushdata [e])) ↔
        FlushesBand 0 s.q.qNband .flushdata [e]) := by
  obtain ⟨s, e, formed, _⟩ := one_formed
  exact ⟨s, e, formed, flushband_takes_band_iff formed le_rfl⟩

theorem flushband_dereferences_null :
    ¬ ∀ (s : QState) (l : List Entry) (fuel band : Nat) (flag : FlushFlag),
      WellFormed s l → l.length ≤ fuel → band ≤ 255 →
        ∃ s' outcome, s.flushband fuel band flag = some (s', outcome) ∧
          WellFormed s' (bandFlushed band flag l) := by
  intro claim
  obtain ⟨s, e, formed, _, _, _, crash⟩ := one_formed
  obtain ⟨s', outcome, done, _⟩ :=
    claim s [e] 1 0 .flushall formed le_rfl (by decide)
  rw [flushband, crash] at done
  cases done

end QState

end OpenSS7.Streams
