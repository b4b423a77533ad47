import Mathlib.Data.List.TakeDrop
import OpenSS7.Streams.Flushband

/-!
`insq` and `appq`, which place a message next to another one on the queue,
and when they keep the queue in order.
-/

namespace OpenSS7.Streams

open LinkedList PriorityList

namespace QState

def putqInsq (fuel mem : Nat) (s : QState) (mp : Addr) :
    Option (QState × Nat) :=
  if (s.heap.msg mp).dbType < QPCTL then putqNorm fuel mem s mp
  else putqPri fuel s mp true

/-- The links that `__insq_middle` writes. -/
def insqLink (s : QState) (emp nmp : Addr) : QState :=
  let bPrev := s.heap.prev emp
  { heap :=
      (((s.heap.setPrev nmp bPrev).setNext? bPrev (some nmp)).setNext nmp
        (some emp)).setPrev emp (some nmp)
    q := { s.q with
      qFirst := if s.q.qFirst = some emp then some nmp else s.q.qFirst
      qMsgs := s.q.qMsgs + 1 } }

/-- `1 + (q->q_first == nmp && !QNOENB && QWANTR)` -/
def insqCode (s : QState) (nmp : Addr) : Nat :=
  if s.q.qFirst = some nmp ∧ !s.q.qNoenb ∧ s.q.qWantr then 2 else 1

/-- The count of `q_count` and what `__insq_middle` returns. -/
def insqCharge (s : QState) (emp nmp : Addr) : QState × Nat :=
  let s := s.insqLink emp nmp
  let s := { s with q := s.q.charge (msgsize (s.heap.msg nmp)) }
  (s, s.insqCode nmp)

/-- `__insq_middle`. The markers of the band are those of an append: they are
compared with `emp` and `emp->b_next`. -/
def insqMiddle (mem : Nat) (s : QState) (emp nmp : Addr) :
    Option (QState × Nat) :=
  let m := s.heap.msg nmp
  let bPrev := (s.heap.prev emp).map s.heap.msg
  if m.isHiPri then
    if bPrev.any fun p => !p.isHiPri then
      some (s, 0)
    else
      some (insqCharge { s with heap := s.heap.zeroBand nmp } emp nmp)
  else if (s.heap.msg emp).isHiPri ∨ (s.heap.msg emp).bBand < m.bBand then
    some (s, 0)
  else if bPrev.any fun p => !p.isHiPri && decide (m.bBand < p.bBand) then
    some (s, 0)
  else if m.bBand = 0 then
    some (s.insqCharge emp nmp)
  else
    match s.q.getQband m.bBand mem with
    | (q, none) => some ({ s with q := q }, 0)
    | (q, some ix) => do
        let q ← q.chargeBand ix nmp (some emp) (s.heap.next emp) (msgsize m)
        let s := insqLink { s with q := q } emp nmp
        some (s, s.insqCode nmp)

/-- `__insq` -/
def insqLocked (fuel mem : Nat) (s : QState) (emp : Option Addr)
    (nmp : Addr) : Option (QState × Nat) :=
  match emp with
  | none => s.putqInsq fuel mem nmp
  | some emp => s.insqMiddle mem emp nmp

def insq (fuel mem : Nat) (s : QState) (emp : Option Addr) (nmp : Addr) :
    Option (QState × Outcome) := do
  let (s, result) ← s.insqLocked fuel mem emp nmp
  some (s, putOutcome result)

def appq (fuel mem : Nat) (s : QState) (emp : Option Addr) (nmp : Addr) :
    Option (QState × Outcome) := do
  let (s, result) ← s.insqLocked fuel mem (emp.bind s.heap.next) nmp
  some (s, putOutcome result)

end QState

/-- What placing `e` between `a` and `b` is to do; `mem` bands can be
allocated. -/
def PlacesRight (mem : Nat) (s : QState) (a b : List Entry) (e : Entry)
    (done : Option (QState × Outcome)) : Prop :=
  (Ordered Entry.cls (a ++ e :: b) ∧ e.msg.bBand ≤ s.q.qNband + mem →
    ∃ s' outcome, done = some (s', outcome) ∧ outcome.result = 1 ∧
      WellFormed s' (a ++ e :: b)) ∧
  (¬ (Ordered Entry.cls (a ++ e :: b) ∧ e.msg.bBand ≤ s.q.qNband + mem) →
    ∃ k outcome, done = some ({ s with q := s.q.withBands k }, outcome) ∧
      outcome.result = 0)

/-- The condition under which `insq` does so. -/
def InsertsRight (mem : Nat) (q : Queue) (a b : List Entry) (e : Entry) :
    Prop :=
  q.qNband + mem < e.msg.bBand ∨
    match b with
    | [] => Ordered Entry.cls (a ++ [e])
    | emp :: rest =>
        e.msg.isHiPri = true ∨ emp.msg.isHiPri = true ∨
          (¬ Ordered Entry.cls (a ++ e :: b) ∧
            ∃ p ∈ a.getLast?, p.msg.isHiPri = false) ∨
          (e.msg.bBand = emp.msg.bBand ∧
            (∀ p ∈ a.getLast?, p.msg.bBand = e.msg.bBand) ∧
            (e.msg.bBand = 0 ∨ inBand a e.msg.bBand ≠ [] ∧
              inBand rest e.msg.bBand ≠ []))

/-- The messages in front of `emp`, and `emp` with those behind it. -/
def splitBefore (emp : Option Addr) (l : List Entry) :
    List Entry × List Entry :=
  l.span fun e => decide (some e.id ≠ emp)

/-- The messages up to `emp`, and those behind it. -/
def splitAfter (emp : Option Addr) (l : List Entry) :
    List Entry × List Entry :=
  let (a, b) := splitBefore emp l
  (a ++ b.take 1, b.drop 1)

namespace Queue

variable {q q' : Queue}

theorem allocBands_snd (q : Queue) (n mem : Nat) :
    (q.allocBands n mem).2 = decide (n ≤ mem) := by
  induction n generalizing q mem with
  | zero => simp [allocBands]
  | succ n ih =>
      cases mem with
      | zero => simp [allocBands]
      | succ mem => simp [allocBands, ih]

theorem getQband_isSome (nband : q.qBandp.length = q.qNband) {band : Nat}
    (positive : 0 < band) (mem : Nat) :
    (q.getQband band mem).2.isSome = decide (band ≤ q.qNband + mem) := by
  unfold getQband
  by_cases known : band ≤ q.qNband
  · have inside : q.qNband - band < q.qBandp.length := by omega
    rw [if_pos known, findQband, if_pos inside]
    simp only [Option.isSome_some]
    rw [eq_comm, decide_eq_true_iff]
    omega
  · rw [if_neg known]
    have enough := q.allocBands_snd (band - q.qNband) mem
    cases allocated : q.allocBands (band - q.qNband) mem with
    | mk q' success =>
        rw [allocated] at enough
        cases success with
        | true =>
            have := of_decide_eq_true enough.symm
            simp only [Option.isSome_some]
            rw [eq_comm, decide_eq_true_iff]
            omega
        | false =>
            have := of_decide_eq_false enough.symm
            simp only [Option.isSome_none]
            rw [eq_comm, decide_eq_false_iff_not]
            omega

theorem Tallied.withBands (tallied : q.Tallied) (k : Nat) :
    (q.withBands k).Tallied := by
  refine ⟨?_, ?_⟩
  · simp only [Queue.withBands, List.length_append, List.length_replicate,
      tallied.nband]
    omega
  · have fresh : (List.replicate k q.newQband).countP Qband.qbFull = 0 := by
      rw [List.countP_eq_zero]
      intro qb member
      rw [List.eq_of_mem_replicate member]
      exact Bool.false_ne_true
    simp only [Queue.withBands, List.countP_append, fresh, tallied.blocked,
      Nat.zero_add]

theorem Tallied.chargeBand (tallied : q.Tallied) {ix size : Nat} {mp : Addr}
    {bPrev bNext : Option Addr}
    (charged : q.chargeBand ix mp bPrev bNext size = some q') :
    q'.Tallied := by
  obtain ⟨qb, found⟩ : ∃ qb, q.qBandp[ix]? = some qb := by
    cases there : q.qBandp[ix]? with
    | none => simp [Queue.chargeBand, there] at charged
    | some qb => exact ⟨qb, rfl⟩
  obtain ⟨qb', blocked, eq, _, _, full, _, _, _, counted⟩ :=
    chargeBand_spec found mp bPrev bNext size
  rw [charged] at eq
  cases eq
  obtain ⟨inside, rfl⟩ := List.getElem?_eq_some_iff.mp found
  refine ⟨?_, ?_⟩
  · simp only [List.length_set]
    exact tallied.nband
  · have positive : q.qBandp[ix].qbFull = true → 0 < q.qBlocked := by
      intro isFull
      rw [tallied.blocked]
      exact List.countP_pos_iff.mpr ⟨_, List.getElem_mem inside, isFull⟩
    simp only [List.countP_set inside, ← tallied.blocked, counted]
    cases before : q.qBandp[ix].qbFull with
    | false => cases after : qb'.qbFull <;> simp
    | true =>
        have := positive before
        rw [before, Bool.true_or] at full
        simp [full]
        omega

end Queue

theorem Exact.chargeBand_iff {q q' : Queue} {a b : List Entry} {e : Entry}
    {ix size : Nat} {qb : Qband} {bPrev bNext : Option Addr}
    (exact : Exact q (a ++ b)) (nband : q.qBandp.length = q.qNband)
    (here : e.msg.bBand = q.qNband - ix) (found : q.qBandp[ix]? = some qb)
    (charged : q.chargeBand ix e.id bPrev bNext size = some q') :
    Exact q' (a ++ e :: b) ↔
      (if qb.qbFirst = bNext ∨ qb.qbFirst = none then some e.id
        else qb.qbFirst) = (inBand (a ++ e :: b) e.msg.bBand).head? ∧
      (if qb.qbLast = bPrev ∨ qb.qbLast = none then some e.id
        else qb.qbLast) = (inBand (a ++ e :: b) e.msg.bBand).getLast? := by
  have inside := (List.getElem?_eq_some_iff.1 found).1
  simp only [Queue.chargeBand, found, Option.bind_eq_bind,
    Option.bind_some] at charged
  cases charged
  rw [here]
  constructor
  · intro exact'
    have ends := exact' ix _ (List.getElem?_set_self inside)
    exact ⟨ends.first, ends.last⟩
  · rintro ⟨first, last⟩
    exact exact.setBand found rfl rfl ⟨first, last⟩
      fun other different inside' =>
        Exact.others nband here inside different inside'

theorem markers_iff {qb : Qband} {a b : List Entry} {e emp : Entry}
    {band : Nat} (ends : Ends qb band (a ++ emp :: b))
    (nodup : ((a ++ emp :: b).map Entry.id).Nodup)
    (fresh : e.id ∉ (a ++ emp :: b).map Entry.id)
    (here : e.ofBand band = true) (here' : emp.ofBand band = true) :
    ((if qb.qbFirst = (b.map Entry.id).head? ∨ qb.qbFirst = none
        then some e.id else qb.qbFirst) =
          (inBand (a ++ e :: emp :: b) band).head? ∧
      (if qb.qbLast = some emp.id ∨ qb.qbLast = none then some e.id
        else qb.qbLast) = (inBand (a ++ e :: emp :: b) band).getLast?) ↔
      inBand a band ≠ [] ∧ inBand b band ≠ [] := by
  have first := ends.first
  have last := ends.last
  rw [List.map_append, List.map_cons] at nodup fresh
  obtain ⟨_, nodup', apart⟩ := List.nodup_append.1 nodup
  obtain ⟨off, _⟩ := List.nodup_cons.1 nodup'
  have new : e.id ≠ emp.id := fun eq => fresh (by simp [eq])
  rw [inBand_append, inBand_cons_of_pos here'] at first last
  rw [inBand_append, inBand_cons_of_pos here, inBand_cons_of_pos here']
  have firsts : (if qb.qbFirst = (b.map Entry.id).head? ∨ qb.qbFirst = none
      then some e.id else qb.qbFirst) =
        (inBand a band ++ e.id :: emp.id :: inBand b band).head? ↔
          inBand a band ≠ [] := by
    cases front : inBand a band with
    | nil =>
        rw [front, List.nil_append, List.head?_cons] at first
        rw [if_neg, first]
        · simpa using new.symm
        · rintro (eq | eq)
          · rw [first] at eq
            exact off (List.mem_of_head? eq.symm)
          · rw [first] at eq
            cases eq
    | cons mp rest =>
        rw [front, List.cons_append, List.head?_cons] at first
        rw [if_neg, first]
        · simp
        · rintro (eq | eq)
          · rw [first] at eq
            have member : mp ∈ inBand a band := by simp [front]
            exact apart mp (inBand_subset member) mp
              (List.mem_cons_of_mem _ (List.mem_of_head? eq.symm)) rfl
          · rw [first] at eq
            cases eq
  have lasts : (if qb.qbLast = some emp.id ∨ qb.qbLast = none then some e.id
      else qb.qbLast) =
        (inBand a band ++ e.id :: emp.id :: inBand b band).getLast? ↔
          inBand b band ≠ [] := by
    rw [List.getLast?_append, List.getLast?_cons_cons]
    cases back : inBand b band with
    | nil =>
        rw [back, List.getLast?_append] at last
        simp only [List.getLast?_singleton, Option.some_or] at last ⊢
        rw [if_pos (.inl last)]
        simpa using new
    | cons mp rest =>
        obtain ⟨final, hfinal⟩ : ∃ final, (mp :: rest).getLast? =
          some final := ⟨_, List.getLast?_eq_some_getLast (by simp)⟩
        rw [back, List.getLast?_append, List.getLast?_cons_cons, hfinal,
          Option.some_or] at last
        rw [List.getLast?_cons_cons, hfinal, Option.some_or, if_neg, last]
        · simp
        · rintro (eq | eq)
          · rw [last] at eq
            have member : final ∈ inBand b band := by
              rw [back]
              exact List.mem_of_getLast? hfinal
            exact off (Option.some.inj eq ▸ inBand_subset member)
          · rw [last] at eq
            cases eq
  rw [firsts, lasts]

namespace QState

variable {s s' : QState} {l a b : List Entry} {e emp : Entry}
  {fuel mem result : Nat}

theorem insqLink_threaded (threaded : Threaded s (a ++ emp :: b))
    (fresh : e.id ∉ (a ++ emp :: b).map Entry.id)
    (content : s.heap.msg e.id = e.msg) :
    Threaded (s.insqLink emp.id e.id) (a ++ e :: emp :: b) := by
  have before : (a.map Entry.id).getLast? ≠ some e.id := by
    intro eq
    rw [List.map_append] at fresh
    exact fresh (List.mem_append_left _ (List.mem_of_getLast? eq))
  have new : e.id ≠ emp.id := fun eq => fresh (by simp [eq])
  have nodup := threaded.linked.nodup
  rw [List.map_append, List.map_cons] at nodup
  obtain ⟨_, _, apart⟩ := List.nodup_append.1 nodup
  have after : s.q.qLast ≠ (a.map Entry.id).getLast? := by
    have linked := threaded.linked
    rw [List.map_append] at linked
    rw [ne_eq, linked.last_eq_iff]
    simp
  have hprev := threaded.prev_eq
  refine threaded.insert fresh ?_ ?_ ?_ ?_ ?_ ?_ ?_
  · simpa [insqLink] using content
  · intro mp _
    simp [insqLink]
  · constructor
    · simp [insqLink]
    · simp only [insqLink, hprev, Heap.prev_setPrev, Heap.prev_setNext,
        Heap.prev_setNext?, if_neg new, if_true]
  · intro mp different
    simp [insqLink, hprev, different]
  · intro mp different
    simp [insqLink, hprev, different, eq_comm]
  · simp [insqLink]
  · rw [if_neg after]
    rfl

theorem insqCharge_formed (formed : WellFormed s (a ++ emp :: b))
    (fresh : e.id ∉ (a ++ emp :: b).map Entry.id)
    (content : s.heap.msg e.id = e.msg) (zero : e.msg.bBand = 0)
    (ordered : Ordered Entry.cls (a ++ e :: emp :: b)) :
    WellFormed (s.insqCharge emp.id e.id).1 (a ++ e :: emp :: b) := by
  have threaded := insqLink_threaded formed.toThreaded fresh content
  have content' : (s.insqLink emp.id e.id).heap.msg e.id = e.msg :=
    threaded.content e (by simp)
  refine ⟨⟨threaded.congr_queue rfl rfl, ordered, ?_⟩, ?_, ?_⟩
  · refine formed.counted.charge zero rfl ?_ rfl rfl
    simp only [insqCharge, Queue.charge, content']
    rfl
  · exact (Exact.zero_iff formed.counted.nband zero rfl rfl).2 formed.exact
  · exact formed.tallied.congr rfl rfl rfl

theorem insqBand_formed (formed : WellFormed s (a ++ emp :: b))
    (fresh : e.id ∉ (a ++ emp :: b).map Entry.id)
    (content : s.heap.msg e.id = e.msg) (positive : 0 < e.msg.bBand)
    (same : e.msg.bBand = emp.msg.bBand)
    (ordered : Ordered Entry.cls (a ++ e :: emp :: b)) {ix : Nat} {qb : Qband}
    (found : s.q.qBandp[ix]? = some qb)
    (here : e.msg.bBand = s.q.qNband - ix) {q : Queue}
    (charged : s.q.chargeBand ix e.id (some emp.id) (s.heap.next emp.id)
      (msgsize (s.heap.msg e.id)) = some q) :
    WellFormed (insqLink { s with q := q } emp.id e.id)
        (a ++ e :: emp :: b) ↔
      inBand a e.msg.bBand ≠ [] ∧ inBand b e.msg.bBand ≠ [] := by
  obtain ⟨qb', blocked, eq, msgs, count, _⟩ := Queue.chargeBand_spec found
    e.id (some emp.id) (s.heap.next emp.id) (msgsize (s.heap.msg e.id))
  have nband := formed.counted.nband
  have ends := formed.exact ix qb found
  rw [← here] at ends
  have decides := formed.exact.chargeBand_iff nband here found charged
  rw [formed.toThreaded.next_eq, markers_iff ends formed.linked.nodup fresh
    ((e.ofBand_iff positive).2 rfl)
    ((emp.ofBand_iff positive).2 same.symm)] at decides
  have threaded : Threaded { s with q := q } (a ++ emp :: b) := by
    rw [charged] at eq
    cases eq
    exact formed.toThreaded.congr_queue rfl rfl
  constructor
  · intro formed'
    exact decides.1 (formed'.exact.congr rfl rfl)
  · intro inside
    refine ⟨⟨insqLink_threaded threaded fresh content, ordered, ?_⟩, ?_, ?_⟩
    · rw [charged] at eq
      cases eq
      refine formed.counted.chargeBand found here rfl rfl rfl rfl msgs ?_
      rw [count, content]
      rfl
    · exact (decides.2 inside).congr rfl rfl
    · exact (formed.tallied.chargeBand charged).congr rfl rfl rfl

theorem places_refused {k : Nat} {done : Option (QState × Nat)}
    (refused : done = some ({ s with q := s.q.withBands k }, 0)) :
    PlacesRight mem s a b e (do
        let (s, result) ← done
        some (s, putOutcome result)) ↔
      ¬ (Ordered Entry.cls (a ++ e :: b) ∧
        e.msg.bBand ≤ s.q.qNband + mem) := by
  rw [refused]
  constructor
  · rintro ⟨accept, _⟩ legal
    obtain ⟨s', outcome, eq, one, _⟩ := accept legal
    cases eq
    cases one
  · intro illegal
    exact ⟨fun legal => absurd legal illegal, fun _ => ⟨k, _, rfl, rfl⟩⟩

theorem places_accepted {done : Option (QState × Nat)}
    (accepted : done = some (s', result)) (positive : 0 < result) :
    PlacesRight mem s a b e (do
        let (s, result) ← done
        some (s, putOutcome result)) ↔
      (Ordered Entry.cls (a ++ e :: b) ∧
        e.msg.bBand ≤ s.q.qNband + mem) ∧ WellFormed s' (a ++ e :: b) := by
  have one := putOutcome_accepted positive
  rw [accepted]
  constructor
  · rintro ⟨accept, refuse⟩
    by_cases legal : Ordered Entry.cls (a ++ e :: b) ∧
        e.msg.bBand ≤ s.q.qNband + mem
    · obtain ⟨s', outcome, eq, _, formed⟩ := accept legal
      cases eq
      exact ⟨legal, formed⟩
    · obtain ⟨k, outcome, eq, zero⟩ := refuse legal
      cases eq
      omega
  · rintro ⟨legal, formed⟩
    exact ⟨fun _ => ⟨s', _, rfl, one, formed⟩,
      fun illegal => absurd legal illegal⟩

theorem prev_msg (threaded : Threaded s (a ++ emp :: b)) (p : Msg → Bool) :
    ((s.heap.prev emp.id).map s.heap.msg).any p = true ↔
      ∃ prev ∈ a.getLast?, p prev.msg = true := by
  rw [threaded.prev_eq, List.getLast?_map]
  cases last : a.getLast? with
  | none => simp
  | some prev =>
      have member := List.mem_of_getLast? last
      have content := threaded.content prev (by simp [member])
      simp [content]

theorem place_iff (ordered : Ordered Entry.cls (a ++ emp :: b)) :
    Ordered Entry.cls (a ++ e :: emp :: b) ↔
      (∀ prev ∈ a.getLast?, e.cls ≤ prev.cls) ∧ emp.cls ≤ e.cls := by
  rw [ordered.insert_iff]
  simp

theorem insqMiddle_hiPri (formed : WellFormed s (a ++ emp :: b))
    (fresh : e.id ∉ (a ++ emp :: b).map Entry.id)
    (hpri : (s.heap.msg e.id).isHiPri = true)
    (put : e = Entry.put e.id (s.heap.msg e.id)) :
    PlacesRight mem s a (emp :: b) e (do
      let (s, result) ← s.insqMiddle mem emp.id e.id
      some (s, putOutcome result)) := by
  have content : e.msg = { s.heap.msg e.id with bBand := 0 } := by
    rw [put]
    exact Entry.put_of_hiPri hpri
  have high : e.msg.isHiPri = true := by
    rw [content]
    exact hpri
  have top := Entry.cls_of_hiPri high
  by_cases some : ∃ prev ∈ a.getLast?, (!prev.msg.isHiPri) = true
  · have refused : s.insqMiddle mem emp.id e.id =
        Option.some ({ s with q := s.q.withBands 0 }, 0) := by
      rw [insqMiddle, if_pos hpri, if_pos]
      · rfl
      · exact (prev_msg formed.toThreaded _).2 some
    rw [places_refused refused, place_iff formed.ordered]
    rintro ⟨⟨above, _⟩, _⟩
    obtain ⟨prev, last, ordinary⟩ := some
    have le := above prev last
    rw [top, Entry.cls_of_ordinary (by simpa using ordinary)] at le
    simp at le
  · have accepted : s.insqMiddle mem emp.id e.id = Option.some
        (insqCharge { s with heap := s.heap.zeroBand e.id } emp.id e.id) := by
      rw [insqMiddle, if_pos hpri, if_neg]
      exact fun prev => some ((prev_msg formed.toThreaded _).1 prev)
    have positive := code_pos
      ((insqCharge { s with heap := s.heap.zeroBand e.id } emp.id
        e.id).1.q.qFirst = Option.some e.id ∧ !s.q.qNoenb ∧ s.q.qWantr)
    have ordered : Ordered Entry.cls (a ++ e :: emp :: b) := by
      rw [place_iff formed.ordered, top]
      refine ⟨?_, le_top⟩
      intro prev last
      rw [Entry.cls_of_hiPri]
      by_contra ordinary
      exact some ⟨prev, last, by simpa using ordinary⟩
    rw [places_accepted accepted positive]
    refine ⟨⟨ordered, by rw [content]; exact Nat.zero_le _⟩, ?_⟩
    have renamed : WellFormed { s with heap := s.heap.zeroBand e.id }
        (a ++ emp :: b) :=
      ⟨formed.toHolds.setMsg _ fresh, formed.exact, formed.tallied⟩
    refine insqCharge_formed renamed fresh ?_ (by rw [content]) ordered
    simp [Heap.zeroBand, content]

theorem cls_le_iff {x y : Entry} (ordinary : x.msg.isHiPri = false) :
    x.cls ≤ y.cls ↔ y.msg.isHiPri = true ∨ x.msg.bBand ≤ y.msg.bBand := by
  have here := y.band_le_cls x.msg.bBand
  rw [← Entry.cls_of_ordinary ordinary, Bool.eq_iff_iff] at here
  simpa using here

theorem insqMiddle_above (formed : WellFormed s (a ++ emp :: b))
    (ordinary : e.msg.isHiPri = false) (content : s.heap.msg e.id = e.msg)
    (ordinary' : emp.msg.isHiPri = false)
    (above : emp.msg.bBand < e.msg.bBand) :
    PlacesRight mem s a (emp :: b) e (do
        let (s, result) ← s.insqMiddle mem emp.id e.id
        some (s, putOutcome result)) ↔
      InsertsRight mem s.q a (emp :: b) e := by
  have content' := formed.content emp (by simp)
  have refused : s.insqMiddle mem emp.id e.id =
      some ({ s with q := s.q.withBands 0 }, 0) := by
    rw [insqMiddle, content, content', if_neg (by simp [ordinary]), if_pos]
    · rfl
    · exact .inr above
  rw [places_refused refused, InsertsRight]
  simp only [ordinary, ordinary', Bool.false_eq_true, false_or,
    Nat.ne_of_gt above, false_and, or_false]
  constructor
  · intro illegal
    by_cases permits : e.msg.bBand ≤ s.q.qNband + mem
    · have misplaced : ¬ Ordered Entry.cls (a ++ e :: emp :: b) :=
        fun ordered => illegal ⟨ordered, permits⟩
      refine .inr ⟨misplaced, ?_⟩
      by_contra none
      apply misplaced
      rw [place_iff formed.ordered, cls_le_iff ordinary']
      refine ⟨?_, .inr (Nat.le_of_lt above)⟩
      intro prev last
      rw [cls_le_iff ordinary]
      left
      by_contra low
      exact none ⟨prev, last, by simpa using low⟩
    · exact .inl (Nat.lt_of_not_le permits)
  · rintro (short | ⟨misplaced, _⟩) ⟨ordered, permits⟩
    · omega
    · exact misplaced ordered

theorem insqMiddle_through (formed : WellFormed s (a ++ emp :: b))
    (fresh : e.id ∉ (a ++ emp :: b).map Entry.id)
    (ordinary : e.msg.isHiPri = false) (content : s.heap.msg e.id = e.msg)
    (ordinary' : emp.msg.isHiPri = false)
    (below : e.msg.bBand ≤ emp.msg.bBand)
    (through : ∀ prev ∈ a.getLast?, prev.msg.isHiPri = false →
      prev.msg.bBand ≤ e.msg.bBand) :
    PlacesRight mem s a (emp :: b) e (do
        let (s, result) ← s.insqMiddle mem emp.id e.id
        some (s, putOutcome result)) ↔
      e.msg.bBand = emp.msg.bBand ∧ (e.msg.bBand = 0 ∨
        inBand a e.msg.bBand ≠ [] ∧ inBand b e.msg.bBand ≠ []) := by
  have content' := formed.content emp (by simp)
  have known := formed.counted.known emp (by simp)
  have permits : e.msg.bBand ≤ s.q.qNband + mem := by omega
  have passes : ¬ ((s.heap.prev emp.id).map s.heap.msg).any
      (fun p => !p.isHiPri && decide (e.msg.bBand < p.bBand)) = true := by
    rw [prev_msg formed.toThreaded]
    rintro ⟨prev, last, high⟩
    simp only [Bool.and_eq_true, Bool.not_eq_true', decide_eq_true_eq] at high
    exact absurd (through prev last high.1) (Nat.not_le_of_gt high.2)
  have legal : Ordered Entry.cls (a ++ e :: emp :: b) ↔
      e.msg.bBand = emp.msg.bBand := by
    rw [place_iff formed.ordered, cls_le_iff ordinary']
    constructor
    · rintro ⟨_, high | le⟩
      · rw [ordinary] at high
        cases high
      · exact Nat.le_antisymm below le
    · intro same
      refine ⟨?_, .inr (Nat.le_of_eq same.symm)⟩
      intro prev last
      rw [cls_le_iff ordinary, same, ← cls_le_iff ordinary']
      obtain ⟨_, _, before⟩ := List.pairwise_append.1 formed.ordered
      exact before prev (List.mem_of_getLast? last) emp List.mem_cons_self
  by_cases zero : e.msg.bBand = 0
  · have accepted : s.insqMiddle mem emp.id e.id =
        some (s.insqCharge emp.id e.id) := by
      have near : ¬ (emp.msg.isHiPri = true ∨
          emp.msg.bBand < e.msg.bBand) := by
        rw [ordinary']
        simpa using below
      rw [insqMiddle, content, content', if_neg (by simp [ordinary]),
        if_neg near, if_neg passes, if_pos zero]
    have positive := code_pos ((s.insqCharge emp.id e.id).1.q.qFirst =
      some e.id ∧ !s.q.qNoenb ∧ s.q.qWantr)
    rw [places_accepted accepted positive, legal]
    constructor
    · rintro ⟨⟨same, _⟩, _⟩
      exact ⟨same, .inl zero⟩
    · rintro ⟨same, _⟩
      exact ⟨⟨same, permits⟩, insqCharge_formed formed fresh content zero
        (legal.2 same)⟩
  · have positive : 0 < e.msg.bBand := Nat.pos_of_ne_zero zero
    have inside : s.q.qNband - e.msg.bBand < s.q.qBandp.length := by
      rw [formed.counted.nband]
      omega
    have found := List.getElem?_eq_getElem inside
    have got : s.q.getQband e.msg.bBand mem =
        (s.q, some (s.q.qNband - e.msg.bBand)) := by
      rw [Queue.getQband, if_pos (by omega), Queue.findQband, if_pos inside]
    obtain ⟨q, charged⟩ : ∃ q, s.q.chargeBand (s.q.qNband - e.msg.bBand) e.id
        (some emp.id) (s.heap.next emp.id) (msgsize e.msg) = some q := by
      obtain ⟨qb', blocked, charged, _⟩ := Queue.chargeBand_spec found e.id
        (some emp.id) (s.heap.next emp.id) (msgsize e.msg)
      exact ⟨_, charged⟩
    have accepted : s.insqMiddle mem emp.id e.id =
        some (insqLink { s with q := q } emp.id e.id,
          insqCode (insqLink { s with q := q } emp.id e.id) e.id) := by
      simp only [insqMiddle, content, content', ordinary, ordinary',
        Bool.false_eq_true, if_false, false_or, Nat.not_lt.2 below, passes,
        zero, got, charged, Option.bind_eq_bind, Option.bind_some]
    rw [places_accepted accepted (code_pos _), legal]
    have decides := fun same : e.msg.bBand = emp.msg.bBand =>
      insqBand_formed formed fresh content positive same (legal.2 same) found
        (by omega) (by rw [content]; exact charged)
    constructor
    · rintro ⟨⟨same, _⟩, formed'⟩
      exact ⟨same, .inr ((decides same).1 formed')⟩
    · rintro ⟨same, zero' | markers⟩
      · exact absurd zero' zero
      · exact ⟨⟨same, permits⟩, (decides same).2 markers⟩

theorem inBand_of_hiPri (ordered : Ordered Entry.cls (a ++ b)) {prev : Entry}
    (last : prev ∈ a.getLast?) (high : prev.msg.isHiPri = true) {band : Nat} :
    inBand a band = [] := by
  rw [inBand, List.map_eq_nil_iff, List.filter_eq_nil_iff]
  intro x member
  have le : prev.cls ≤ x.cls :=
    Ordered.last_le (List.pairwise_append.1 ordered).1 last member
  rw [Entry.cls_of_hiPri high, top_le_iff] at le
  rw [x.ofBand_iff_cls, le]
  simp

theorem insqMiddle_right_iff (formed : WellFormed s (a ++ emp :: b))
    (fresh : e.id ∉ (a ++ emp :: b).map Entry.id)
    (put : e = Entry.put e.id (s.heap.msg e.id)) :
    PlacesRight mem s a (emp :: b) e (do
        let (s, result) ← s.insqMiddle mem emp.id e.id
        some (s, putOutcome result)) ↔
      InsertsRight mem s.q a (emp :: b) e := by
  cases hpri : (s.heap.msg e.id).isHiPri with
  | true =>
      have high : e.msg.isHiPri = true := by
        rw [put, Entry.put_of_hiPri hpri]
        exact hpri
      exact iff_of_true (insqMiddle_hiPri formed fresh hpri put)
        (.inr (.inl high))
  | false =>
      have content : s.heap.msg e.id = e.msg := by
        rw [put]
        exact (Entry.put_of_ordinary hpri).symm
      have ordinary : e.msg.isHiPri = false := content ▸ hpri
      have content' := formed.content emp (by simp)
      cases hpri' : emp.msg.isHiPri with
      | true =>
          have refused : s.insqMiddle mem emp.id e.id =
              some ({ s with q := s.q.withBands 0 }, 0) := by
            rw [insqMiddle, content, content', if_neg (by simp [ordinary]),
              if_pos (.inl hpri')]
            rfl
          rw [places_refused refused, place_iff formed.ordered]
          refine iff_of_true ?_ (.inr (.inr (.inl hpri')))
          rintro ⟨⟨_, le⟩, _⟩
          rw [Entry.cls_of_hiPri hpri', Entry.cls_of_ordinary ordinary] at le
          simp at le
      | false =>
          rcases Nat.lt_or_ge emp.msg.bBand e.msg.bBand with above | below
          · exact insqMiddle_above formed ordinary content hpri' above
          have known := formed.counted.known emp (by simp)
          have short : ¬ s.q.qNband + mem < e.msg.bBand := by omega
          obtain ⟨_, _, before⟩ := List.pairwise_append.1 formed.ordered
          have higher : ∀ prev ∈ a.getLast?, prev.msg.isHiPri = false →
              emp.msg.bBand ≤ prev.msg.bBand := by
            intro prev last low
            have le := before prev (List.mem_of_getLast? last) emp
              List.mem_cons_self
            rw [cls_le_iff hpri', low] at le
            simpa using le
          rw [InsertsRight]
          simp only [ordinary, hpri', Bool.false_eq_true, false_or, short]
          by_cases through : ∀ prev ∈ a.getLast?, prev.msg.isHiPri = false →
              prev.msg.bBand ≤ e.msg.bBand
          · rw [insqMiddle_through formed fresh ordinary content hpri' below
              through]
            have legal : (∃ prev ∈ a.getLast?, prev.msg.isHiPri = false) →
                Ordered Entry.cls (a ++ e :: emp :: b) := by
              rintro ⟨prev, last, low⟩
              have lower := higher prev last low
              have higher := through prev last low
              rw [place_iff formed.ordered, cls_le_iff hpri']
              refine ⟨?_, .inr (by omega)⟩
              intro prev' last'
              rw [cls_le_iff ordinary]
              rw [last] at last'
              cases last'
              exact .inr (by omega)
            constructor
            · rintro ⟨same, inside⟩
              refine .inr ⟨same, ?_, inside⟩
              intro prev last
              cases high : prev.msg.isHiPri with
              | false =>
                  have lower := higher prev last high
                  have higher := through prev last high
                  omega
              | true =>
                  rw [prev.zeroed high]
                  rcases inside with zero | ⟨some, _⟩
                  · exact zero.symm
                  · exact absurd (inBand_of_hiPri formed.ordered last high)
                      some
            · rintro (⟨misplaced, some⟩ | ⟨same, _, inside⟩)
              · exact absurd (legal some) misplaced
              · exact ⟨same, inside⟩
          · push Not at through
            obtain ⟨prev, last, low, above⟩ := through
            have refused : s.insqMiddle mem emp.id e.id =
                some ({ s with q := s.q.withBands 0 }, 0) := by
              have near : ¬ (emp.msg.isHiPri = true ∨
                  emp.msg.bBand < e.msg.bBand) := by
                rw [hpri']
                simpa using below
              rw [insqMiddle, content, content', if_neg (by simp [ordinary]),
                if_neg near, if_pos]
              · rfl
              · rw [prev_msg formed.toThreaded]
                exact ⟨prev, last, by simp [low, above]⟩
            rw [places_refused refused]
            constructor
            · intro illegal
              refine .inl ⟨?_, prev, last, low⟩
              exact fun ordered => illegal ⟨ordered, by omega⟩
            · rintro (⟨misplaced, _⟩ | ⟨_, level, _⟩) ⟨ordered, _⟩
              · exact misplaced ordered
              · have := level prev last
                omega

theorem tallied_putqBand (holds : Holds s l) (tallied : s.q.Tallied)
    {mp : Addr} (positive : 0 < (s.heap.msg mp).bBand)
    (done : s.putqBand fuel mem mp = some (s', result)) :
    s'.q.Tallied ∧
      (result = 0 ↔ s.q.qNband + mem < (s.heap.msg mp).bBand) := by
  have nband := holds.counted.nband
  obtain ⟨k, alloc, _⟩ := s.q.getQband_spec (s.heap.msg mp).bBand mem nband
    positive
  have isSome := Queue.getQband_isSome nband positive mem
  simp only [putqBand, Option.bind_eq_bind, Option.bind_eq_some_iff] at done
  obtain ⟨⟨bPrev, bNext⟩, _, done⟩ := done
  cases got : s.q.getQband (s.heap.msg mp).bBand mem with
  | mk q ix =>
      rw [got] at alloc isSome
      simp only at alloc
      simp only [got] at done
      cases ix with
      | none =>
          have short := of_decide_eq_false isSome.symm
          cases done
          rw [alloc]
          exact ⟨tallied.withBands k, iff_of_true rfl (by omega)⟩
      | some ix =>
          have permits := of_decide_eq_true isSome.symm
          simp only [Option.bind_eq_some_iff] at done
          obtain ⟨⟨bPrev', bNext'⟩, _, q', charged, done⟩ := done
          cases done
          rw [alloc] at charged
          have fits := (tallied.withBands k).chargeBand charged
          refine ⟨fits.congr rfl rfl rfl, iff_of_false ?_ (by omega)⟩
          exact Nat.pos_iff_ne_zero.1 (code_pos _)

theorem tallied_putqLocked (holds : Holds s l) (tallied : s.q.Tallied)
    (put : e = Entry.put e.id (s.heap.msg e.id))
    (done : s.putqLocked fuel mem e.id = some (s', result)) :
    s'.q.Tallied ∧ (result = 0 ↔ s.q.qNband + mem < e.msg.bBand) := by
  unfold putqLocked at done
  cases hpri : (s.heap.msg e.id).isHiPri with
  | true =>
      have type : ¬ (s.heap.msg e.id).dbType < QPCTL := by
        simpa [Msg.isHiPri] using hpri
      rw [put, Entry.put_of_hiPri hpri]
      simp only [if_neg type, putqPri, Option.bind_eq_bind,
        Option.bind_eq_some_iff] at done
      obtain ⟨⟨bPrev, bNext⟩, _, done⟩ := done
      cases done
      refine ⟨tallied.congr rfl rfl rfl,
        iff_of_false ?_ (Nat.not_lt_zero _)⟩
      exact Nat.pos_iff_ne_zero.1 (code_pos _)
  | false =>
      have type : (s.heap.msg e.id).dbType < QPCTL := by
        simpa [Msg.isHiPri] using hpri
      rw [put, Entry.put_of_ordinary hpri]
      rw [if_pos type, putqNorm] at done
      by_cases zero : (s.heap.msg e.id).bBand = 0
      · rw [if_pos zero] at done
        cases done
        refine ⟨tallied.congr rfl rfl rfl, iff_of_false ?_ (by omega)⟩
        exact Nat.pos_iff_ne_zero.1 (code_pos _)
      · rw [if_neg zero] at done
        exact tallied_putqBand holds tallied (Nat.pos_of_ne_zero zero) done

theorem putqPri_insq {mp : Addr}
    (done : s.putqPri fuel mp false = some (s', result)) :
    ∃ result', s.putqPri fuel mp true = some (s', result') ∧
      0 < result' ∧ 0 < result := by
  simp only [putqPri, Option.bind_eq_bind, Option.bind_eq_some_iff]
    at done ⊢
  obtain ⟨place, walked, done⟩ := done
  rw [walked]
  cases done
  exact ⟨_, ⟨place, rfl, rfl⟩, code_pos _, code_pos _⟩

theorem putqInsq_eq {mp : Addr}
    (done : s.putqLocked fuel mem mp = some (s', result)) :
    ∃ result', s.putqInsq fuel mem mp = some (s', result') ∧
      (result' = 0 ↔ result = 0) := by
  unfold putqLocked at done
  by_cases type : (s.heap.msg mp).dbType < QPCTL
  · rw [if_pos type] at done
    exact ⟨result, by rw [putqInsq, if_pos type, done], Iff.rfl⟩
  · rw [if_neg type] at done
    obtain ⟨result', done', positive, positive'⟩ := putqPri_insq done
    refine ⟨result', by rw [putqInsq, if_neg type, done'], ?_⟩
    omega

theorem enqueue_eq_append (ordered : Ordered Entry.cls (l ++ [e])) :
    enqueue Entry.cls e l = l ++ [e] := by
  have above : ∀ x ∈ l, decide (e.cls ≤ x.cls) = true := by
    intro x member
    obtain ⟨_, _, before⟩ := List.pairwise_append.1 ordered
    simpa using before x member e List.mem_cons_self
  rw [enqueue, List.takeWhile_eq_self_iff.2 above,
    List.dropWhile_eq_nil_iff.2 above]

theorem putqInsq_right_iff (formed : WellFormed s l)
    (fresh : e.id ∉ l.map Entry.id)
    (put : e = Entry.put e.id (s.heap.msg e.id)) (enough : l.length ≤ fuel) :
    PlacesRight mem s l [] e (do
        let (s, result) ← s.putqInsq fuel mem e.id
        some (s, putOutcome result)) ↔
      InsertsRight mem s.q l [] e := by
  have spec : PutResult s l (enqueue Entry.cls e l)
      (s.putqLocked fuel mem e.id) :=
    putqLocked_spec formed.toHolds fresh put enough
  have exact := @putqLocked_exact s
  cases done : s.putqLocked fuel mem e.id with
  | none =>
      rw [done] at spec
      cases spec
  | some pair =>
      obtain ⟨s', result⟩ := pair
      obtain ⟨tallied, refused⟩ :=
        tallied_putqLocked formed.toHolds formed.tallied put done
      obtain ⟨result', done', same⟩ := putqInsq_eq done
      have exact := putqLocked_exact formed.toHolds formed.exact put enough
        done
      rw [done] at spec
      cases spec with
      | accepted positive holds =>
          rw [PutExact, if_neg (Nat.pos_iff_ne_zero.1 positive)] at exact
          have placed : WellFormed s' (enqueue Entry.cls e l) :=
            ⟨holds, exact, tallied⟩
          have positive' : 0 < result' := by omega
          have permits : e.msg.bBand ≤ s.q.qNband + mem := by omega
          rw [places_accepted done' positive', InsertsRight]
          constructor
          · rintro ⟨⟨ordered, _⟩, _⟩
            exact .inr ordered
          · rintro (short | ordered)
            · omega
            · exact ⟨⟨ordered, permits⟩, enqueue_eq_append ordered ▸ placed⟩
      | refused k =>
          rw [same.2 rfl] at done'
          have short := refused.1 rfl
          rw [places_refused done']
          exact iff_of_true (fun legal => by omega) (.inl short)

theorem splitBefore_spec (emp : Option Addr) (l : List Entry) :
    l = (splitBefore emp l).1 ++ (splitBefore emp l).2 ∧
      ∀ x ∈ (splitBefore emp l).2.head?, emp = some x.id := by
  rw [splitBefore, List.span_eq_takeWhile_dropWhile]
  refine ⟨List.takeWhile_append_dropWhile.symm, ?_⟩
  intro x head
  have stopped := List.head?_dropWhile_not
    (fun e : Entry => decide (some e.id ≠ emp)) l
  rw [head] at stopped
  exact (Decidable.not_not.1 (of_decide_eq_false stopped)).symm

theorem splitBefore_none {emp : Option Addr}
    (on : ∀ mp, emp = some mp → mp ∈ l.map Entry.id)
    (empty : (splitBefore emp l).2 = []) : emp = none := by
  obtain ⟨eq, _⟩ := splitBefore_spec emp l
  rw [empty, List.append_nil] at eq
  cases found : emp with
  | none => rfl
  | some mp =>
      obtain ⟨x, member, same⟩ := List.mem_map.1 (on mp found)
      rw [eq, splitBefore, List.span_eq_takeWhile_dropWhile] at member
      have passed := List.mem_takeWhile_imp member
      rw [same, found] at passed
      simp at passed

theorem insqLocked_right_iff (formed : WellFormed s (a ++ b))
    (fresh : e.id ∉ (a ++ b).map Entry.id)
    (put : e = Entry.put e.id (s.heap.msg e.id))
    (enough : (a ++ b).length ≤ fuel) :
    PlacesRight mem s a b e (do
        let (s, result) ← s.insqLocked fuel mem (b.map Entry.id).head? e.id
        some (s, putOutcome result)) ↔
      InsertsRight mem s.q a b e := by
  cases b with
  | nil =>
      rw [List.append_nil] at formed fresh enough
      exact putqInsq_right_iff formed fresh put enough
  | cons emp rest => exact insqMiddle_right_iff formed fresh put

/-- `insq` places a message in front of `emp` as it is to, and `appq` behind it,
when the condition holds for that place and only then. -/
theorem insq_appq_right_iff {nmp : Addr} {emp : Option Addr}
    (formed : WellFormed s l) (fresh : nmp ∉ l.map Entry.id)
    (on : ∀ mp, emp = some mp → mp ∈ l.map Entry.id)
    (enough : l.length ≤ fuel) :
    (PlacesRight mem s (splitBefore emp l).1 (splitBefore emp l).2
        (Entry.put nmp (s.heap.msg nmp)) (s.insq fuel mem emp nmp) ↔
      InsertsRight mem s.q (splitBefore emp l).1 (splitBefore emp l).2
        (Entry.put nmp (s.heap.msg nmp))) ∧
    (PlacesRight mem s (splitAfter emp l).1 (splitAfter emp l).2
        (Entry.put nmp (s.heap.msg nmp)) (s.appq fuel mem emp nmp) ↔
      InsertsRight mem s.q (splitAfter emp l).1 (splitAfter emp l).2
        (Entry.put nmp (s.heap.msg nmp))) := by
  obtain ⟨eq, first⟩ := splitBefore_spec emp l
  have null := splitBefore_none on
  cases here : splitBefore emp l with
  | mk a b =>
      rw [here] at eq first null
      simp only at eq first null
      rw [splitAfter, here]
      subst eq
      cases b with
      | nil =>
          rw [null rfl]
          have right := @insqLocked_right_iff s a []
            (Entry.put nmp (s.heap.msg nmp)) fuel mem formed fresh rfl enough
          simp only [List.take_nil, List.drop_nil, List.append_nil]
          exact ⟨right, right⟩
      | cons x rest =>
          rw [first x rfl]
          constructor
          · exact insqLocked_right_iff formed fresh rfl enough
          · have next := formed.toThreaded.next_eq
            have moved : a ++ x :: rest = (a ++ [x]) ++ rest := by simp
            rw [moved] at formed fresh enough
            have right := @insqLocked_right_iff s (a ++ [x]) rest
              (Entry.put nmp (s.heap.msg nmp)) fuel mem formed fresh rfl
              enough
            rw [← next] at right
            exact right

theorem one_and_other (m : Msg) : ∃ s e, WellFormed s [e] ∧ e.id = 1 ∧
    e.msg = ⟨0, M_DATA, [(0, 1)]⟩ ∧ s.q.qNband = 0 ∧ s.heap.msg 2 = m := by
  obtain ⟨s, e, formed, id, msg, nband, _⟩ := one_formed
  have fresh : 2 ∉ [e].map Entry.id := by
    rw [List.map_singleton, id]
    decide
  exact ⟨{ s with heap := s.heap.setMsg 2 m }, e,
    ⟨formed.toHolds.setMsg m fresh, formed.exact, formed.tallied⟩, id, msg,
    nband, by simp⟩

theorem insq_appq_right_iff_one : ∃ s e, WellFormed s [e] ∧
    ((PlacesRight 0 s (splitBefore (some 1) [e]).1
        (splitBefore (some 1) [e]).2 (Entry.put 2 (s.heap.msg 2))
        (s.insq 1 0 (some 1) 2) ↔
      InsertsRight 0 s.q (splitBefore (some 1) [e]).1
        (splitBefore (some 1) [e]).2 (Entry.put 2 (s.heap.msg 2))) ∧
    (PlacesRight 0 s (splitAfter (some 1) [e]).1
        (splitAfter (some 1) [e]).2 (Entry.put 2 (s.heap.msg 2))
        (s.appq 1 0 (some 1) 2) ↔
      InsertsRight 0 s.q (splitAfter (some 1) [e]).1
        (splitAfter (some 1) [e]).2 (Entry.put 2 (s.heap.msg 2)))) := by
  obtain ⟨s, e, formed, id, _⟩ := one_and_other ⟨0, M_DATA, [(0, 1)]⟩
  refine ⟨s, e, formed, insq_appq_right_iff formed ?_ ?_ le_rfl⟩
  · rw [List.map_singleton, id]
    decide
  · rintro mp eq
    cases eq
    rw [List.map_singleton, id]
    decide

theorem insq_refuses_a_higher_band :
    ¬ ∀ (s : QState) (l : List Entry) (fuel mem : Nat) (emp : Option Addr)
        (nmp : Addr), WellFormed s l → nmp ∉ l.map Entry.id →
      (∀ mp, emp = some mp → mp ∈ l.map Entry.id) → l.length ≤ fuel →
        PlacesRight mem s (splitBefore emp l).1 (splitBefore emp l).2
          (Entry.put nmp (s.heap.msg nmp)) (s.insq fuel mem emp nmp) := by
  intro claim
  obtain ⟨s, e, formed, id, msg, nband, other⟩ :=
    one_and_other ⟨1, M_DATA, [(0, 1)]⟩
  have fresh : 2 ∉ [e].map Entry.id := by
    rw [List.map_singleton, id]
    decide
  have on : ∀ mp, some 1 = some mp → mp ∈ [e].map Entry.id := by
    rintro mp eq
    cases eq
    rw [List.map_singleton, id]
    decide
  have right := claim s [e] 1 1 (some 1) 2 formed fresh on le_rfl
  have split : splitBefore (some 1) [e] = ([], [e]) := by
    simp [splitBefore, List.span_eq_takeWhile_dropWhile, id]
  have decides := (@insq_appq_right_iff s [e] 1 1 2 (some 1) formed fresh on
    le_rfl).1.1 right
  rw [split, other, InsertsRight] at decides
  simp only [nband, msg, Entry.put] at decides
  revert decides
  simp [Msg.isHiPri, QPCTL, M_DATA]

end QState

end OpenSS7.Streams
