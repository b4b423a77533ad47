import OpenSS7.Streams.Remove

/-!
Runs of queue operations, the priority queue they are meant to be, and the
simulation between the two.
-/

namespace OpenSS7.Streams

open LinkedList PriorityList

/-- A call on the queue. A put names a message and the content its owner has
given it; `mem` is the number of bands that can be allocated during the
call. A writer tests the queue by `bcanput`, which may pass on to the next
queue with a service procedure, or by `bcanputnext` from a queue whose
`q_nfsrv` is this one. -/
inductive Op where
  | putq (mp : Addr) (m : Msg) (mem : Nat)
  | putbq (mp : Addr) (m : Msg) (mem : Nat)
  | getq
  | rmvq (mp : Addr)
  | flushq (flag : FlushFlag)
  | bcanput (nfsrv : Option Queue) (band : Nat)
  | bcanputnext (caller : Queue) (band : Nat)

namespace QState

def checkOutcome (result : Nat) : Outcome :=
  { result := result, msg := none, enable := false, backenable := [] }

/-- `none` when a loop needs more than `fuel` turns or a null pointer is
followed. -/
def exec (fuel : Nat) (s : QState) : Op → Option (QState × Outcome)
  | .putq mp m mem => putq fuel mem { s with heap := s.heap.setMsg mp m } mp
  | .putbq mp m mem => putbq fuel mem { s with heap := s.heap.setMsg mp m } mp
  | .getq => s.getq
  | .rmvq mp => s.rmvq mp
  | .flushq flag => s.flushq fuel flag
  | .bcanput nfsrv band => do
      let (q, _, result) ← s.q.bcanput nfsrv band
      some ({ s with q := q }, checkOutcome result)
  | .bcanputnext caller band => do
      let (q, result) ← caller.bcanputnext (some s.q) band
      let q ← q
      some ({ s with q := q }, checkOutcome result)

structure Empty (s : QState) : Prop where
  first : s.q.qFirst = none
  last : s.q.qLast = none
  count : s.q.qCount = 0
  msgs : s.q.qMsgs = 0
  nband : s.q.qBandp.length = s.q.qNband
  bands : ∀ qb ∈ s.q.qBandp, qb.qbMsgs = 0 ∧ qb.qbCount = 0

theorem Empty.holds {s : QState} (empty : Empty s) : Holds s [] := by
  refine ⟨⟨?_, by simp⟩, List.Pairwise.nil, ?_⟩
  · rw [empty.first, empty.last]
    exact linked_nil
  · refine ⟨empty.msgs, empty.count, empty.nband, ?_, by simp⟩
    intro ix qb found
    exact empty.bands qb (List.mem_of_getElem? found)

end QState

namespace Op

def spec (op : Op) (outcome : Outcome) (l : List Entry) : List Entry :=
  match op with
  | .putq mp m _ =>
      if outcome.result = 0 then l
      else enqueue Entry.cls (Entry.put mp m) l
  | .putbq mp m _ =>
      if outcome.result = 0 then l
      else requeue Entry.cls (Entry.put mp m) l
  | .getq => l.tail
  | .rmvq mp => l.filter fun e => decide (e.id ≠ mp)
  | .flushq flag => QState.flushed flag l
  | .bcanput _ _ => l
  | .bcanputnext _ _ => l

/-- A put takes a message that is not on the queue, `rmvq` one that is, and
another queue that is looked at has a structure for each of its bands. -/
def Legal (op : Op) (l : List Entry) : Prop :=
  match op with
  | .putq mp _ _ => mp ∉ l.map Entry.id
  | .putbq mp _ _ => mp ∉ l.map Entry.id
  | .getq => True
  | .rmvq mp => mp ∈ l.map Entry.id
  | .flushq _ => True
  | .bcanput nfsrv _ => ∀ q ∈ nfsrv, q.qBandp.length = q.qNband
  | .bcanputnext _ _ => True

instance (op : Op) (l : List Entry) : Decidable (op.Legal l) :=
  match op with
  | .putq mp _ _ => inferInstanceAs (Decidable (mp ∉ l.map Entry.id))
  | .putbq mp _ _ => inferInstanceAs (Decidable (mp ∉ l.map Entry.id))
  | .getq => inferInstanceAs (Decidable True)
  | .rmvq mp => inferInstanceAs (Decidable (mp ∈ l.map Entry.id))
  | .flushq _ => inferInstanceAs (Decidable True)
  | .bcanput nfsrv _ =>
      inferInstanceAs (Decidable (∀ q ∈ nfsrv, q.qBandp.length = q.qNband))
  | .bcanputnext _ _ => inferInstanceAs (Decidable True)

end Op

structure Untouched (s s' : QState) : Prop where
  next : s'.heap.next = s.heap.next
  prev : s'.heap.prev = s.heap.prev
  counts : ∃ k, s'.q = s.q.withBands k

namespace Op

def Answers (op : Op) (outcome : Outcome) (s s' : QState)
    (l : List Entry) : Prop :=
  match op with
  | .putq mp m _ =>
      outcome.result = 0 ∧ Untouched s s' ∨
        outcome.result = 1 ∧
          (op.spec outcome l).Perm (Entry.put mp m :: l) ∧
          ∀ c, (op.spec outcome l).filter (fun e => decide (e.cls = c)) =
            l.filter (fun e => decide (e.cls = c)) ++
              if (Entry.put mp m).cls = c then [Entry.put mp m] else []
  | .putbq mp m _ =>
      outcome.result = 0 ∧ Untouched s s' ∨
        outcome.result = 1 ∧
          (op.spec outcome l).Perm (Entry.put mp m :: l) ∧
          ∀ c, (op.spec outcome l).filter (fun e => decide (e.cls = c)) =
            (if (Entry.put mp m).cls = c then [Entry.put mp m] else []) ++
              l.filter (fun e => decide (e.cls = c))
  | .getq => outcome.msg = l.head?.map Entry.id
  | _ => True

end Op

inductive Marked (q : Queue) : Queue → Prop where
  | same : Marked q q
  | queue : Marked q { q with qWantw := true }
  | band {ix : Nat} {qb : Qband} (found : q.qBandp[ix]? = some qb) :
      Marked q
        { q with qBandp := q.qBandp.set ix { qb with qbWantw := true } }

namespace Queue

variable {q : Queue}

theorem bcanputLocked_spec (nband : q.qBandp.length = q.qNband)
    (band : Nat) :
    ∃ q' result, q.bcanputLocked band = some (q', result) ∧ Marked q q' := by
  unfold bcanputLocked bcanputSlow
  by_cases zero : band = 0
  · rw [if_pos zero]
    split
    · exact ⟨_, _, rfl, .queue⟩
    · exact ⟨_, _, rfl, .same⟩
  · rw [if_neg zero]
    by_cases slow : band ≤ q.qNband ∧ 0 < q.qBlocked
    · have inside : q.qNband - band < q.qBandp.length := by omega
      have found := List.getElem?_eq_getElem inside
      simp only [if_pos slow, findQband, if_pos inside, found,
        Option.bind_eq_bind, Option.bind_some]
      split
      · exact ⟨_, _, rfl, .band found⟩
      · exact ⟨_, _, rfl, .same⟩
    · rw [if_neg slow]
      exact ⟨_, _, rfl, .same⟩

theorem bcanputnextLocked_spec (nband : q.qBandp.length = q.qNband)
    (band : Nat) :
    ∃ q' result, bcanputnextLocked (some q) band = some (some q', result) ∧
      Marked q q' := by
  cases procs : q.qProcs with
  | true => exact ⟨_, _, by simp only [bcanputnextLocked, procs]; rfl, .same⟩
  | false =>
      obtain ⟨q', result, eq, marked⟩ := bcanputLocked_spec nband band
      refine ⟨q', result, ?_, marked⟩
      simp only [bcanputnextLocked, procs, eq, Option.bind_eq_bind,
        Option.bind_some]
      rfl

theorem bcanputnext_spec (caller : Queue)
    (nband : q.qBandp.length = q.qNband) (band : Nat) :
    ∃ q' result, caller.bcanputnext (some q) band = some (some q', result) ∧
      Marked q q' := by
  unfold bcanputnext
  cases caller.qProcs with
  | true => exact ⟨_, _, rfl, .same⟩
  | false => exact bcanputnextLocked_spec nband band

theorem bcanput_spec (nband : q.qBandp.length = q.qNband)
    (nfsrv : Option Queue) (band : Nat)
    (formed : ∀ q ∈ nfsrv, q.qBandp.length = q.qNband) :
    ∃ q' nfsrv' result, q.bcanput nfsrv band = some (q', nfsrv', result) ∧
      Marked q q' := by
  unfold bcanput
  cases q.qProcs with
  | true => exact ⟨_, _, _, rfl, .same⟩
  | false =>
      cases own : q.qSrvp || !q.qNext with
      | true =>
          obtain ⟨q', result, eq, marked⟩ := bcanputLocked_spec nband band
          simp only [eq, Option.bind_eq_bind, Option.bind_some]
          exact ⟨_, _, _, rfl, marked⟩
      | false =>
          cases nfsrv with
          | none => exact ⟨_, _, _, rfl, .same⟩
          | some other =>
              obtain ⟨other', result, eq, _⟩ :=
                bcanputnextLocked_spec (formed other rfl) band
              simp only [eq, Option.bind_eq_bind, Option.bind_some]
              exact ⟨_, _, _, rfl, .same⟩

end Queue

theorem Holds.marked {s : QState} {l : List Entry} {q : Queue}
    (holds : Holds s l) (marked : Marked s.q q) :
    Holds { s with q := q } l := by
  have counted := holds.counted
  cases marked with
  | same => exact holds
  | queue =>
      exact ⟨holds.toThreaded.congr_queue rfl rfl, holds.ordered,
        ⟨counted.msgs, counted.count, counted.nband, counted.band,
          counted.known⟩⟩
  | @band ix qb found =>
      refine ⟨holds.toThreaded.congr_queue rfl rfl, holds.ordered,
        ⟨counted.msgs, counted.count, by simpa using counted.nband, ?_,
          counted.known⟩⟩
      intro other qb' found'
      by_cases same : ix = other
      · subst same
        have inside := (List.getElem?_eq_some_iff.1 found).1
        rw [List.getElem?_set_self inside] at found'
        cases found'
        exact counted.band ix qb found
      · rw [List.getElem?_set_ne same] at found'
        exact counted.band other qb' found'

namespace QState

variable {s : QState} {l : List Entry} {fuel : Nat}

theorem untouched_setMsg (mp : Addr) (m : Msg) (k : Nat) :
    Untouched s { heap := s.heap.setMsg mp m, q := s.q.withBands k } := by
  refine ⟨?_, ?_, k, rfl⟩
  · funext other
    simp
  · funext other
    simp

theorem putOutcome_refused : (putOutcome 0).result = 0 := rfl

theorem putOutcome_accepted {result : Nat} (positive : 0 < result) :
    (putOutcome result).result = 1 := by
  simp only [putOutcome]
  split <;> omega

theorem putq_spec (holds : Holds s l) (mp : Addr) (m : Msg) (mem : Nat)
    (fresh : mp ∉ l.map Entry.id) (enough : l.length ≤ fuel) :
    ∃ s' outcome, s.exec fuel (.putq mp m mem) = some (s', outcome) ∧
      Holds s' ((Op.putq mp m mem).spec outcome l) ∧
      (Op.putq mp m mem).Answers outcome s s' l := by
  have filled := holds.setMsg m fresh
  have put : PutResult { s with heap := s.heap.setMsg mp m } l
      (enqueue Entry.cls (Entry.put mp m) l)
      (putqLocked fuel mem { s with heap := s.heap.setMsg mp m } mp) :=
    putqLocked_spec (e := Entry.put mp m) filled fresh
      (by simp [Entry.put]) enough
  simp only [exec, putq]
  generalize putqLocked fuel mem { s with heap := s.heap.setMsg mp m } mp =
    result at put ⊢
  cases put with
  | accepted positive holds' =>
      have one := putOutcome_accepted positive
      refine ⟨_, _, rfl, ?_, Or.inr ⟨one, ?_, ?_⟩⟩
      · simpa [Op.spec, one] using holds'
      · simpa [Op.spec, one] using enqueue_perm
      · intro c
        simpa [Op.spec, one] using filter_enqueue holds.ordered c
  | refused k =>
      refine ⟨_, _, rfl, ?_, Or.inl ⟨rfl, untouched_setMsg mp m k⟩⟩
      simp only [Op.spec, putOutcome_refused, if_true]
      exact ⟨filled.toThreaded.congr_queue rfl rfl, holds.ordered,
        holds.counted.withBands k⟩

theorem putbq_spec (holds : Holds s l) (mp : Addr) (m : Msg) (mem : Nat)
    (fresh : mp ∉ l.map Entry.id) (enough : l.length ≤ fuel) :
    ∃ s' outcome, s.exec fuel (.putbq mp m mem) = some (s', outcome) ∧
      Holds s' ((Op.putbq mp m mem).spec outcome l) ∧
      (Op.putbq mp m mem).Answers outcome s s' l := by
  have filled := holds.setMsg m fresh
  have put : PutResult { s with heap := s.heap.setMsg mp m } l
      (requeue Entry.cls (Entry.put mp m) l)
      (putbqLocked fuel mem { s with heap := s.heap.setMsg mp m } mp) :=
    putbqLocked_spec (e := Entry.put mp m) filled fresh
      (by simp [Entry.put]) enough
  simp only [exec, putbq]
  generalize putbqLocked fuel mem { s with heap := s.heap.setMsg mp m } mp =
    result at put ⊢
  cases put with
  | accepted positive holds' =>
      have one := putOutcome_accepted positive
      refine ⟨_, _, rfl, ?_, Or.inr ⟨one, ?_, ?_⟩⟩
      · simpa [Op.spec, one] using holds'
      · simpa [Op.spec, one] using requeue_perm
      · intro c
        simpa [Op.spec, one] using filter_requeue c
  | refused k =>
      refine ⟨_, _, rfl, ?_, Or.inl ⟨rfl, untouched_setMsg mp m k⟩⟩
      simp only [Op.spec, putOutcome_refused, if_true]
      exact ⟨filled.toThreaded.congr_queue rfl rfl, holds.ordered,
        holds.counted.withBands k⟩

theorem getq_spec (holds : Holds s l) :
    ∃ s' outcome, s.exec fuel .getq = some (s', outcome) ∧
      Holds s' (Op.getq.spec outcome l) ∧
      Op.getq.Answers outcome s s' l := by
  cases l with
  | nil =>
      have first : s.q.qFirst = none := holds.linked.first_eq
      simp only [exec, getq, getqLocked, first, Option.bind_eq_bind,
        Option.bind_some]
      refine ⟨_, _, rfl, ⟨?_, holds.ordered, ?_⟩, rfl⟩
      · exact holds.toThreaded.congr_queue first.symm rfl
      · exact ⟨holds.counted.msgs, holds.counted.count, holds.counted.nband,
          holds.counted.band, holds.counted.known⟩
  | cons e b =>
      obtain ⟨s', be, eq, holds', _⟩ := getqLocked_spec holds
      simp only [exec, getq, eq, Option.bind_eq_bind, Option.bind_some]
      exact ⟨_, _, rfl, holds', rfl⟩

theorem filter_id {a b : List Entry} {e : Entry}
    (threaded : Threaded s (a ++ e :: b)) :
    (a ++ e :: b).filter (fun e' => decide (e'.id ≠ e.id)) = a ++ b := by
  obtain ⟨freshA, freshB⟩ := threaded.fresh_of_split
  rw [List.filter_append, List.filter_cons_of_neg (by simp)]
  congr 1
  · rw [List.filter_eq_self]
    intro other member
    simp only [decide_eq_true_eq]
    intro eq
    exact freshA (eq ▸ List.mem_map_of_mem member)
  · rw [List.filter_eq_self]
    intro other member
    simp only [decide_eq_true_eq]
    intro eq
    exact freshB (eq ▸ List.mem_map_of_mem member)

theorem rmvq_spec (holds : Holds s l) (mp : Addr)
    (member : mp ∈ l.map Entry.id) :
    ∃ s' outcome, s.exec fuel (.rmvq mp) = some (s', outcome) ∧
      Holds s' ((Op.rmvq mp).spec outcome l) := by
  obtain ⟨e, held, rfl⟩ := List.mem_map.1 member
  obtain ⟨a, b, rfl⟩ := List.append_of_mem held
  obtain ⟨s', be, eq, holds', _⟩ := rmvqLocked_spec holds
  simp only [exec, rmvq, eq, Option.bind_eq_bind, Option.bind_some]
  refine ⟨_, _, rfl, ?_⟩
  rw [Op.spec, filter_id holds.toThreaded]
  exact holds'

theorem exec_spec (holds : Holds s l) (op : Op) (legal : op.Legal l)
    (enough : l.length ≤ fuel) :
    ∃ s' outcome, s.exec fuel op = some (s', outcome) ∧
      Holds s' (op.spec outcome l) ∧ op.Answers outcome s s' l := by
  cases op with
  | putq mp m mem => exact putq_spec holds mp m mem legal enough
  | putbq mp m mem => exact putbq_spec holds mp m mem legal enough
  | getq => exact getq_spec holds
  | rmvq mp =>
      obtain ⟨s', outcome, eq, holds'⟩ := rmvq_spec holds mp legal
      exact ⟨s', outcome, eq, holds', trivial⟩
  | flushq flag =>
      obtain ⟨s', chain, eq, holds'⟩ := flushqLocked_spec holds enough flag
      simp only [exec, flushq, eq, Option.bind_eq_bind, Option.bind_some]
      exact ⟨_, _, rfl, holds', trivial⟩
  | bcanput nfsrv band =>
      obtain ⟨q, nfsrv', result, eq, marked⟩ :=
        Queue.bcanput_spec holds.counted.nband nfsrv band legal
      simp only [exec, eq, Option.bind_eq_bind, Option.bind_some]
      exact ⟨_, _, rfl, holds.marked marked, trivial⟩
  | bcanputnext caller band =>
      obtain ⟨q, result, eq, marked⟩ :=
        Queue.bcanputnext_spec caller holds.counted.nband band
      simp only [exec, eq, Option.bind_eq_bind, Option.bind_some]
      exact ⟨_, _, rfl, holds.marked marked, trivial⟩

end QState

structure Call where
  op : Op
  outcome : Outcome
  before : Queue
  after : Queue

def specRun : List Call → List Entry
  | [] => []
  | call :: earlier => call.op.spec call.outcome (specRun earlier)

/-- A run of calls from `start`, each of them legal and given one turn of
its loops for every message on the queue. -/
inductive Run (start : QState) : List Call → QState → Prop where
  | nil : Run start [] start
  | step {trace : List Call} {s s' : QState} {op : Op} {outcome : Outcome}
      (fuel : Nat) (run : Run start trace s)
      (legal : op.Legal (specRun trace))
      (enough : (specRun trace).length ≤ fuel)
      (exec : s.exec fuel op = some (s', outcome)) :
      Run start (⟨op, outcome, s.q, s'.q⟩ :: trace) s'

theorem Run.holds {start s : QState} {trace : List Call}
    (empty : start.Empty) (run : Run start trace s) :
    Holds s (specRun trace) := by
  induction run with
  | nil => exact empty.holds
  | @step trace s s' op outcome fuel run legal enough exec ih =>
      obtain ⟨_, _, eq, holds, _⟩ := QState.exec_spec ih op legal enough
      rw [exec] at eq
      cases eq
      exact holds

/-- The queue refines the priority queue: in every state reached from an
empty queue it holds exactly the messages accepted and not yet removed, in
order and correctly counted, and every further legal call returns. -/
theorem queue_refines_priority_queue {start s : QState} {trace : List Call}
    (empty : start.Empty) (run : Run start trace s) :
    Holds s (specRun trace) ∧
      ∀ op fuel, op.Legal (specRun trace) → (specRun trace).length ≤ fuel →
        ∃ s' outcome, s.exec fuel op = some (s', outcome) ∧
          Run start (⟨op, outcome, s.q, s'.q⟩ :: trace) s' ∧
          op.Answers outcome s s' (specRun trace) := by
  have holds := run.holds empty
  refine ⟨holds, ?_⟩
  intro op fuel legal enough
  obtain ⟨s', outcome, eq, _, answers⟩ := QState.exec_spec holds op legal enough
  exact ⟨s', outcome, eq, run.step fuel legal enough eq, answers⟩

/-- A queue as `qattach` leaves it, with no bands. -/
def QState.fresh (hiwat lowat : Nat) : QState where
  heap := fun _ => default
  q :=
    { qFirst := none
      qLast := none
      qCount := 0
      qMsgs := 0
      qHiwat := hiwat
      qLowat := lowat
      qBandp := []
      qNband := 0
      qBlocked := 0
      qFull := false
      qWantw := false
      qWantr := true
      qNoenb := false
      qProcs := false
      qSrvp := true
      qNext := false }

theorem QState.fresh_empty (hiwat lowat : Nat) :
    (QState.fresh hiwat lowat).Empty :=
  ⟨rfl, rfl, rfl, rfl, rfl, by simp [QState.fresh]⟩

theorem queue_refines_priority_queue_fresh :
    ∃ s outcome, Run (QState.fresh 16 4)
        [⟨.putq 1 ⟨3, M_PROTO, [(0, 8)]⟩ 3, outcome, (QState.fresh 16 4).q,
          s.q⟩] s ∧
      Holds s (specRun
        [⟨.putq 1 ⟨3, M_PROTO, [(0, 8)]⟩ 3, outcome, (QState.fresh 16 4).q,
          s.q⟩]) := by
  have empty := QState.fresh_empty 16 4
  obtain ⟨s, outcome, _, run, _⟩ := (queue_refines_priority_queue empty .nil).2
    (.putq 1 ⟨3, M_PROTO, [(0, 8)]⟩ 3) 0 (by simp [Op.Legal, specRun])
    (by simp [specRun])
  exact ⟨s, outcome, run, (queue_refines_priority_queue empty run).1⟩

end OpenSS7.Streams
