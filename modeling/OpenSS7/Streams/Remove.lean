import OpenSS7.Streams.Insert

/-!
Every removal path of the queue takes exactly its message off the list.
-/

namespace OpenSS7.Streams

open LinkedList PriorityList

namespace Threaded

variable {s : QState} {l : List Entry}

theorem setNext (threaded : Threaded s l) {mp : Addr} (p : Option Addr)
    (off : mp ∉ l.map Entry.id) :
    Threaded { s with heap := s.heap.setNext mp p } l := by
  have linked := threaded.linked
  constructor
  · refine ⟨linked.nodup, linked.first_eq, linked.last_eq, ?_⟩
    refine segment_congr ?_ ?_ linked.segment
    · intro other member
      have different : other ≠ mp := by
        rintro rfl
        exact off member
      simp [different]
    · intro other _
      simp
  · intro e member
    simpa using threaded.content e member

end Threaded

namespace Queue

theorem release_spec (q : Queue) (size : Nat) :
    ∃ full wantw, q.release size =
        ({ q with qCount := q.qCount - size, qFull := full, qWantw := wantw },
          q.qWantw && (q.qFull && !full)) ∧
      full = (q.qFull && !decide (q.qCount - size = 0 ∨
        q.qCount - size < q.qLowat)) ∧
      wantw = (q.qWantw && !(q.qFull && !full)) := by
  unfold release
  by_cases clear : (q.qCount - size = 0 ∨ q.qCount - size < q.qLowat) ∧ q.qFull
  · refine ⟨false, false, ?_, ?_, ?_⟩
    · rw [if_pos clear]
      simp [clear.2]
    · simp [clear.1]
    · simp [clear.2]
  · refine ⟨q.qFull, q.qWantw, ?_, ?_, ?_⟩
    · rw [if_neg clear]
      simp
    · cases full : q.qFull with
      | false => rfl
      | true =>
          have low : ¬ (q.qCount - size = 0 ∨ q.qCount - size < q.qLowat) :=
            fun h => clear ⟨h, full⟩
          simp [low]
    · simp

theorem findQband_spec {q : Queue} {l : List Entry} (counted : Counted q l)
    {e : Entry} (member : e ∈ l) (positive : 0 < e.msg.bBand) :
    ∃ ix qb, q.findQband e.msg.bBand = some ix ∧ q.qBandp[ix]? = some qb ∧
      e.msg.bBand = q.qNband - ix := by
  have known := counted.known e member
  have inside : q.qNband - e.msg.bBand < q.qBandp.length := by
    rw [counted.nband]
    omega
  refine ⟨q.qNband - e.msg.bBand, _, ?_, List.getElem?_eq_getElem inside, ?_⟩
  · simp only [findQband, if_pos inside]
  · omega

end Queue

namespace QState

variable {s : QState} {l a b : List Entry} {e : Entry} {fuel : Nat}

theorem rmvqNorm_spec (holds : Holds s (a ++ e :: b))
    (zero : e.msg.bBand = 0) :
    Holds (s.rmvqNorm e.id).1 (a ++ b) ∧
      ∀ mp, (s.rmvqNorm e.id).1.heap.msg mp = s.heap.msg mp := by
  have content := holds.content e (by simp)
  obtain ⟨full, wantw, eq, _⟩ :=
    (s.unlink e.id).q.release_spec (msgsize (s.heap.msg e.id))
  simp only [rmvqNorm, unlink_msg, eq, implies_true, and_true]
  refine ⟨?_, holds.ordered.remove, ?_⟩
  · exact holds.toThreaded.unlink.congr_queue rfl rfl
  · refine holds.counted.release zero rfl ?_ rfl rfl
    rw [Entry.size, content]
    rfl

theorem rmvqBand_spec (holds : Holds s (a ++ e :: b))
    (positive : 0 < e.msg.bBand) :
    ∃ s' be, s.rmvqBand e.id = some (s', be) ∧ Holds s' (a ++ b) ∧
      ∀ mp, s'.heap.msg mp = s.heap.msg mp := by
  have content := holds.content e (by simp)
  obtain ⟨ix, qb, found, there, here⟩ :=
    Queue.findQband_spec holds.counted (by simp) positive
  have found' : (s.unlink e.id).q.findQband e.msg.bBand = some ix := found
  have there' : (s.unlink e.id).q.qBandp[ix]? = some qb := there
  obtain ⟨qb', blocked, be, released, msgs, count, _⟩ :=
    Queue.releaseBand_spec there' (msgsize e.msg)
      (fun qb =>
        if qb.qbFirst = some e.id ∧ qb.qbLast = some e.id then
          { qb with qbFirst := none, qbLast := none }
        else
          { qb with
            qbFirst :=
              if qb.qbFirst = some e.id then s.heap.next e.id else qb.qbFirst
            qbLast :=
              if qb.qbLast = some e.id then s.heap.prev e.id else qb.qbLast })
      (by split <;> rfl)
  simp only [rmvqBand, unlink_msg, content, found', released,
    Option.bind_eq_bind, Option.bind_some]
  refine ⟨_, _, rfl, ⟨?_, holds.ordered.remove, ?_⟩, ?_⟩
  · exact holds.toThreaded.unlink.congr_queue rfl rfl
  · exact holds.counted.releaseBand there here rfl rfl rfl rfl msgs count
  · intro mp
    simp

theorem rmvqLocked_spec (holds : Holds s (a ++ e :: b)) :
    ∃ s' be, s.rmvqLocked e.id = some (s', be) ∧ Holds s' (a ++ b) ∧
      ∀ mp, s'.heap.msg mp = s.heap.msg mp := by
  have content := holds.content e (by simp)
  rw [rmvqLocked, content]
  by_cases zero : e.msg.bBand = 0
  · rw [if_pos zero]
    exact ⟨_, _, rfl, rmvqNorm_spec holds zero⟩
  · rw [if_neg zero]
    exact rmvqBand_spec holds (by omega)

@[simp] theorem unlinkFirst_msg (mp other : Addr) :
    (s.unlinkFirst mp).heap.msg other = s.heap.msg other := by
  simp only [unlinkFirst]
  cases s.heap.next mp <;> simp

theorem unlinkFirst_spec (holds : Holds s (e :: b)) :
    Threaded (s.unlinkFirst e.id) b := by
  have threaded : Threaded s ([] ++ e :: b) := holds.toThreaded
  have hnext := threaded.next_eq
  have hfirst := holds.linked.first_eq
  refine Threaded.remove (a := []) (e := e) threaded ?_ ?_ ?_ ?_ ?_
  · intro mp
    simp
  · intro mp different
    simp only [unlinkFirst]
    cases s.heap.next e.id <;> simp [different]
  · intro mp different
    simp only [unlinkFirst, ← hnext]
    cases s.heap.next e.id <;> simp [eq_comm]
  · rw [hfirst]
    simpa [unlinkFirst] using hnext
  · simp [unlinkFirst]

theorem getqLocked_spec (holds : Holds s (e :: b)) :
    ∃ s' be, s.getqLocked = some (s', some e.id, be) ∧ Holds s' b ∧
      ∀ mp, s'.heap.msg mp = s.heap.msg mp := by
  have content := holds.content e (by simp)
  have first : s.q.qFirst = some e.id := holds.linked.first_eq
  have threaded := unlinkFirst_spec holds
  have ordered : Ordered Entry.cls b := Ordered.remove (a := []) holds.ordered
  simp only [getqLocked, first, unlinkFirst_msg, content]
  by_cases zero : e.msg.bBand = 0
  · obtain ⟨full, wantw, eq, _⟩ :=
      (s.unlinkFirst e.id).q.release_spec (msgsize e.msg)
    simp only [if_pos zero, eq, Option.bind_eq_bind, Option.bind_some]
    refine ⟨_, _, rfl, ⟨threaded.congr_queue rfl rfl, ordered, ?_⟩, by simp⟩
    exact Counted.release (a := []) holds.counted zero rfl rfl rfl rfl
  · obtain ⟨ix, qb, found, there, here⟩ :=
      Queue.findQband_spec (e := e) holds.counted (by simp) (by omega)
    have found' : (s.unlinkFirst e.id).q.findQband e.msg.bBand = some ix :=
      found
    have there' : (s.unlinkFirst e.id).q.qBandp[ix]? = some qb := there
    obtain ⟨qb', blocked, be, released, msgs, count, _⟩ :=
      Queue.releaseBand_spec there' (msgsize e.msg)
        (fun qb => { qb with
          qbFirst := (s.unlinkFirst e.id).q.qFirst
          qbLast := if qb.qbLast = some e.id then none else qb.qbLast })
        rfl
    simp only [if_neg zero, found', released, Option.bind_eq_bind,
      Option.bind_some]
    refine ⟨_, _, rfl, ⟨threaded.congr_queue rfl rfl, ordered, ?_⟩, by simp⟩
    exact Counted.releaseBand (a := []) holds.counted there here rfl rfl rfl
      rfl msgs count

theorem flushBands_spec (bands : List Qband) (nband : Nat) :
    (flushBands bands nband).1.length = bands.length ∧
      ∀ qb ∈ (flushBands bands nband).1, qb.qbMsgs = 0 ∧ qb.qbCount = 0 := by
  induction bands generalizing nband with
  | nil => simp [flushBands]
  | cons head tail ih =>
      obtain ⟨length, zero⟩ := ih (nband - 1)
      simp only [flushBands, List.length_cons, length, List.mem_cons,
        forall_eq_or_imp, and_self, true_and]
      exact zero

theorem flushAll_spec (holds : Holds s (e :: b)) :
    ∃ s' flushed, s.flushAll e.id = some (s', flushed) ∧ Holds s' [] := by
  obtain ⟨last, hlast⟩ : ∃ last, s.q.qLast = some last := by
    rw [holds.linked.last_eq]
    exact ⟨_, List.getLast?_eq_some_getLast (by simp)⟩
  obtain ⟨length, zero⟩ := flushBands_spec s.q.qBandp s.q.qNband
  simp only [flushAll, hlast, Option.bind_eq_bind, Option.bind_some]
  refine ⟨_, _, rfl, ⟨linked_nil, by simp⟩, List.Pairwise.nil, ?_⟩
  refine ⟨rfl, rfl, ?_, ?_, by simp⟩
  · rw [length]
    exact holds.counted.nband
  · intro ix qb found
    obtain ⟨msgs, count⟩ := zero qb (List.mem_of_getElem? found)
    rw [msgs, count]
    exact ⟨rfl, rfl⟩

theorem chainOn_spec (flushed : Flushed) (mp : Addr) (holds : Holds s l)
    (off : mp ∉ l.map Entry.id)
    (tail : ∀ last, flushed.tail = some last → last ∉ l.map Entry.id) :
    Holds (s.chainOn flushed mp).1 l ∧
      ∀ last, (s.chainOn flushed mp).2.tail = some last →
        last ∉ l.map Entry.id := by
  refine ⟨⟨?_, holds.ordered, holds.counted⟩, ?_⟩
  · cases htail : flushed.tail with
    | none =>
        simp only [chainOn, htail, Heap.setNext?]
        exact holds.toThreaded.setNext none off
    | some last =>
        simp only [chainOn, htail, Heap.setNext?]
        exact (holds.toThreaded.setNext (some mp) (tail last htail)).setNext
          none off
  · intro last eq
    simp only [chainOn, Option.some.injEq] at eq
    exact eq ▸ off

theorem flushData_spec (holds : Holds s (a ++ e :: b))
    (enough : b.length < fuel) {flushed : Flushed}
    (tail : ∀ last, flushed.tail = some last →
      last ∉ (a ++ e :: b).map Entry.id) :
    ∃ s' flushed', flushData fuel s e.id flushed = some (s', flushed') ∧
      Holds s' (a ++ (e :: b).filter fun e => !e.msg.isdatamsg) := by
  induction b generalizing s a e fuel flushed with
  | nil =>
      obtain ⟨fuel, rfl⟩ := Nat.exists_eq_add_of_lt enough
      have content := holds.content e (by simp)
      have hnext := holds.toThreaded.next_eq
      have off := holds.toThreaded.fresh_of_split
      simp only [List.length_nil, Nat.zero_add, flushData, content, hnext]
      cases data : e.msg.isdatamsg with
      | false => exact ⟨_, _, rfl, by simpa [data] using holds⟩
      | true =>
          obtain ⟨s', be, removed, holds', _⟩ := rmvqLocked_spec holds
          simp only [removed, Option.bind_eq_bind, Option.bind_some,
            List.map_nil, List.head?_nil, if_true]
          refine ⟨_, _, rfl, ?_⟩
          have chained := chainOn_spec (if be then
              { flushed with bands := (s'.heap.msg e.id).bBand :: flushed.bands }
            else flushed) e.id holds' (by simpa using off) ?_
          · simpa [data] using chained.1
          · intro last eq
            have := tail last (by cases be <;> exact eq)
            simp only [List.map_append, List.map_cons, List.mem_append,
              List.mem_cons] at this ⊢
            tauto
  | cons next rest ih =>
      obtain ⟨fuel, rfl⟩ := Nat.exists_eq_add_of_lt enough
      have content := holds.content e (by simp)
      have hnext := holds.toThreaded.next_eq
      have off := holds.toThreaded.fresh_of_split
      rw [show (next :: rest).length + fuel + 1 =
        (rest.length + 1 + fuel) + 1 by simp]
      simp only [flushData, content, hnext]
      cases data : e.msg.isdatamsg with
      | false =>
          have passed : a ++ e :: next :: rest =
            (a ++ [e]) ++ next :: rest := by simp
          rw [passed] at holds tail
          obtain ⟨s', flushed', eq, holds'⟩ :=
            ih holds (by omega : rest.length < rest.length + 1 + fuel) tail
          simp only [Option.bind_eq_bind, Option.bind_some, List.map_cons,
            List.head?_cons, eq]
          refine ⟨_, _, rfl, ?_⟩
          rw [List.filter_cons_of_pos (by simp [data])]
          simpa using holds'
      | true =>
          obtain ⟨s', be, removed, holds', _⟩ := rmvqLocked_spec holds
          have chained := chainOn_spec (if be then
              { flushed with bands := (s'.heap.msg e.id).bBand :: flushed.bands }
            else flushed) e.id holds' (by simpa using off) ?_
          · obtain ⟨s'', flushed', eq, holds''⟩ := ih chained.1
              (by omega : rest.length < rest.length + 1 + fuel) chained.2
            simp only [removed, Option.bind_eq_bind, Option.bind_some,
              List.map_cons, List.head?_cons, if_true, eq]
            refine ⟨_, _, rfl, ?_⟩
            rw [List.filter_cons_of_neg (by simp [data])]
            exact holds''
          · intro last eq
            have := tail last (by cases be <;> exact eq)
            simp only [List.map_append, List.map_cons, List.mem_append,
              List.mem_cons] at this ⊢
            tauto

def flushed (flag : FlushFlag) (l : List Entry) : List Entry :=
  match flag with
  | .flushall => []
  | .flushdata => l.filter fun e => !e.msg.isdatamsg

theorem flushqLocked_spec (holds : Holds s l) (enough : l.length ≤ fuel)
    (flag : FlushFlag) :
    ∃ s' chain, s.flushqLocked fuel flag = some (s', chain) ∧
      Holds s' (flushed flag l) := by
  cases l with
  | nil =>
      have first : s.q.qFirst = none := holds.linked.first_eq
      refine ⟨s, Flushed.empty, by simp only [flushqLocked, first], ?_⟩
      cases flag <;> exact holds
  | cons e b =>
      have first : s.q.qFirst = some e.id := holds.linked.first_eq
      cases flag with
      | flushall =>
          simp only [flushqLocked, first]
          exact flushAll_spec holds
      | flushdata =>
          simp only [flushqLocked, first]
          exact flushData_spec (a := []) holds
            (Nat.lt_of_succ_le enough) (fun _ found => nomatch found)

end QState

end OpenSS7.Streams
