import Mathlib.Data.Nat.Cast.WithTop
import OpenSS7.Lib.PriorityList
import OpenSS7.Streams.Queue

/-!
What the link updates of the queue do to the list of messages it holds.
-/

namespace OpenSS7.Streams

open LinkedList

namespace Heap

variable (heap : Heap) (mp other : Addr) (o p : Option Addr) (m : Msg)

@[simp] theorem next_setNext : (heap.setNext mp p).next other =
    if other = mp then p else heap.next other := by
  by_cases h : other = mp <;> simp [next, setNext, h]

@[simp] theorem prev_setNext :
    (heap.setNext mp p).prev other = heap.prev other := by
  by_cases h : other = mp <;> simp [prev, setNext, h]

@[simp] theorem msg_setNext :
    (heap.setNext mp p).msg other = heap.msg other := by
  by_cases h : other = mp <;> simp [msg, setNext, h]

@[simp] theorem prev_setPrev : (heap.setPrev mp p).prev other =
    if other = mp then p else heap.prev other := by
  by_cases h : other = mp <;> simp [prev, setPrev, h]

@[simp] theorem next_setPrev :
    (heap.setPrev mp p).next other = heap.next other := by
  by_cases h : other = mp <;> simp [next, setPrev, h]

@[simp] theorem msg_setPrev :
    (heap.setPrev mp p).msg other = heap.msg other := by
  by_cases h : other = mp <;> simp [msg, setPrev, h]

@[simp] theorem next_setNext? : (heap.setNext? o p).next other =
    if o = some other then p else heap.next other := by
  cases o with
  | none => simp [setNext?]
  | some mp => simp [setNext?, eq_comm]

@[simp] theorem prev_setNext? :
    (heap.setNext? o p).prev other = heap.prev other := by
  cases o <;> simp [setNext?]

@[simp] theorem msg_setNext? :
    (heap.setNext? o p).msg other = heap.msg other := by
  cases o <;> simp [setNext?]

@[simp] theorem prev_setPrev? : (heap.setPrev? o p).prev other =
    if o = some other then p else heap.prev other := by
  cases o with
  | none => simp [setPrev?]
  | some mp => simp [setPrev?, eq_comm]

@[simp] theorem next_setPrev? :
    (heap.setPrev? o p).next other = heap.next other := by
  cases o <;> simp [setPrev?]

@[simp] theorem msg_setPrev? :
    (heap.setPrev? o p).msg other = heap.msg other := by
  cases o <;> simp [setPrev?]

@[simp] theorem next_setMsg :
    (heap.setMsg mp m).next other = heap.next other := by
  by_cases h : other = mp <;> simp [next, setMsg, h]

@[simp] theorem prev_setMsg :
    (heap.setMsg mp m).prev other = heap.prev other := by
  by_cases h : other = mp <;> simp [prev, setMsg, h]

@[simp] theorem msg_setMsg : (heap.setMsg mp m).msg other =
    if other = mp then m else heap.msg other := by
  by_cases h : other = mp <;> simp [msg, setMsg, h]

end Heap

structure Entry where
  id : Addr
  msg : Msg
  zeroed : msg.isHiPri = true → msg.bBand = 0

namespace Entry

def cls (e : Entry) : WithTop ℕ :=
  if e.msg.isHiPri then ⊤ else (e.msg.bBand : WithTop ℕ)

def size (e : Entry) : Nat := msgsize e.msg

end Entry

/-- The queue links exactly the messages of `l`, and each still has the
content with which it was put. -/
structure Threaded (s : QState) (l : List Entry) : Prop where
  linked : Linked s.heap.next s.heap.prev s.q.qFirst s.q.qLast
    (l.map Entry.id)
  content : ∀ e ∈ l, s.heap.msg e.id = e.msg

namespace Threaded

variable {s : QState} {l a b : List Entry} {e : Entry} {fuel : Nat}

theorem walk_eq (threaded : Threaded s (a ++ b)) (p : Msg → Bool)
    (enough : b.length ≤ fuel) :
    walk s.heap.next (fun mp => p (s.heap.msg mp)) fuel
        (a.map Entry.id).getLast? (b.map Entry.id).head? =
      some (((a ++ b.takeWhile fun e => p e.msg).map Entry.id).getLast?,
        ((b.dropWhile fun e => p e.msg).map Entry.id).head?) := by
  have linked := threaded.linked
  rw [List.map_append] at linked
  rw [linked.walk_eq (by simpa using enough), List.takeWhile_map,
    List.dropWhile_map]
  have same : ∀ e ∈ b,
      ((fun mp => p (s.heap.msg mp)) ∘ Entry.id) e = p e.msg := by
    intro e member
    simp [threaded.content e (by simp [member])]
  rw [(PriorityList.while_congr same).1, (PriorityList.while_congr same).2,
    List.map_append]

theorem walk_first (threaded : Threaded s l) (p : Msg → Bool)
    (enough : l.length ≤ fuel) :
    walk s.heap.next (fun mp => p (s.heap.msg mp)) fuel none s.q.qFirst =
      some (((l.takeWhile fun e => p e.msg).map Entry.id).getLast?,
        ((l.dropWhile fun e => p e.msg).map Entry.id).head?) := by
  have walked := walk_eq (a := []) threaded p enough
  rw [threaded.linked.first_eq]
  simpa using walked

theorem insert {s' : QState} (threaded : Threaded s (a ++ b))
    (fresh : e.id ∉ (a ++ b).map Entry.id)
    (content : s'.heap.msg e.id = e.msg)
    (others : ∀ mp, mp ≠ e.id → s'.heap.msg mp = s.heap.msg mp)
    (hnode : s'.heap.next e.id = (b.map Entry.id).head? ∧
      s'.heap.prev e.id = (a.map Entry.id).getLast?)
    (hnext : ∀ mp, mp ≠ e.id → s'.heap.next mp =
      if (a.map Entry.id).getLast? = some mp then some e.id
      else s.heap.next mp)
    (hprev : ∀ mp, mp ≠ e.id → s'.heap.prev mp =
      if (b.map Entry.id).head? = some mp then some e.id
      else s.heap.prev mp)
    (hfirst : s'.q.qFirst =
      if s.q.qFirst = (b.map Entry.id).head? then some e.id else s.q.qFirst)
    (hlast : s'.q.qLast =
      if s.q.qLast = (a.map Entry.id).getLast? then some e.id
      else s.q.qLast) :
    Threaded s' (a ++ e :: b) := by
  constructor
  · have linked := threaded.linked
    rw [List.map_append] at linked fresh
    rw [hfirst, hlast, List.map_append, List.map_cons]
    exact linked.insert fresh hnode hnext hprev
  · intro other member
    have cases : other = e ∨ other ∈ a ++ b := by
      simp only [List.mem_append, List.mem_cons] at member ⊢
      tauto
    rcases cases with rfl | old
    · exact content
    · rw [others, threaded.content other old]
      intro eq
      exact fresh (eq ▸ List.mem_map_of_mem old)

theorem link (threaded : Threaded s (a ++ b))
    (fresh : e.id ∉ (a ++ b).map Entry.id)
    (content : s.heap.msg e.id = e.msg) :
    Threaded
      (s.link e.id (a.map Entry.id).getLast? (b.map Entry.id).head?)
      (a ++ e :: b) := by
  have hlast : (a.map Entry.id).getLast? ≠ some e.id := by
    intro eq
    exact fresh (by simpa using Or.inl (List.mem_of_getLast? eq))
  have hhead : (b.map Entry.id).head? ≠ some e.id := by
    intro eq
    exact fresh (by simpa using Or.inr (List.mem_of_head? eq))
  apply threaded.insert fresh
  · simpa [QState.link] using content
  · intro mp _
    simp [QState.link]
  · constructor
    · simp only [QState.link, Heap.next_setNext?, Heap.next_setPrev,
        Heap.next_setPrev?, Heap.next_setNext, if_neg hlast, if_true]
    · simp [QState.link]
  · intro mp different
    simp [QState.link, different]
  · intro mp different
    simp [QState.link, different]
  · rfl
  · rfl

theorem setMsg (threaded : Threaded s l) {mp : Addr} (m : Msg)
    (fresh : mp ∉ l.map Entry.id) :
    Threaded { s with heap := s.heap.setMsg mp m } l := by
  constructor
  · have hnext : (s.heap.setMsg mp m).next = s.heap.next := by
      funext other
      simp
    have hprev : (s.heap.setMsg mp m).prev = s.heap.prev := by
      funext other
      simp
    simpa [hnext, hprev] using threaded.linked
  · intro e member
    have different : e.id ≠ mp := by
      rintro rfl
      exact fresh (List.mem_map_of_mem member)
    simpa [different] using threaded.content e member

theorem congr_queue (threaded : Threaded s l) {q : Queue}
    (hfirst : q.qFirst = s.q.qFirst) (hlast : q.qLast = s.q.qLast) :
    Threaded { s with q := q } l := by
  refine ⟨?_, threaded.content⟩
  simpa [hfirst, hlast] using threaded.linked

theorem removeRun {s' : QState} {r : List Entry}
    (threaded : Threaded s (a ++ (r ++ b))) (nonempty : r ≠ [])
    (content : ∀ mp, s'.heap.msg mp = s.heap.msg mp)
    (hnext : ∀ mp, mp ∉ r.map Entry.id → s'.heap.next mp =
      if (a.map Entry.id).getLast? = some mp then (b.map Entry.id).head?
      else s.heap.next mp)
    (hprev : ∀ mp, mp ∉ r.map Entry.id → s'.heap.prev mp =
      if (b.map Entry.id).head? = some mp then (a.map Entry.id).getLast?
      else s.heap.prev mp)
    (hfirst : s'.q.qFirst =
      if s.q.qFirst = (r.map Entry.id).head? then (b.map Entry.id).head?
      else s.q.qFirst)
    (hlast : s'.q.qLast =
      if s.q.qLast = (r.map Entry.id).getLast? then
        (a.map Entry.id).getLast?
      else s.q.qLast) :
    Threaded s' (a ++ b) := by
  constructor
  · have linked := threaded.linked
    rw [List.map_append, List.map_append] at linked
    rw [hfirst, hlast, List.map_append]
    exact linked.removeRun (by simpa using nonempty) hnext hprev
  · intro other member
    rw [content]
    apply threaded.content
    simp only [List.mem_append] at member ⊢
    tauto

theorem remove {s' : QState} (threaded : Threaded s (a ++ e :: b))
    (content : ∀ mp, s'.heap.msg mp = s.heap.msg mp)
    (hnext : ∀ mp, mp ≠ e.id → s'.heap.next mp =
      if (a.map Entry.id).getLast? = some mp then (b.map Entry.id).head?
      else s.heap.next mp)
    (hprev : ∀ mp, mp ≠ e.id → s'.heap.prev mp =
      if (b.map Entry.id).head? = some mp then (a.map Entry.id).getLast?
      else s.heap.prev mp)
    (hfirst : s'.q.qFirst =
      if s.q.qFirst = some e.id then (b.map Entry.id).head? else s.q.qFirst)
    (hlast : s'.q.qLast =
      if s.q.qLast = some e.id then (a.map Entry.id).getLast?
      else s.q.qLast) :
    Threaded s' (a ++ b) := by
  apply threaded.removeRun (r := [e]) (List.cons_ne_nil e []) content
  · intro mp outside
    exact hnext mp (List.ne_of_not_mem_cons outside)
  · intro mp outside
    exact hprev mp (List.ne_of_not_mem_cons outside)
  · exact hfirst
  · exact hlast

theorem eq_of_ids {l' : List Entry} (content : ∀ e ∈ l, s.heap.msg e.id = e.msg)
    (content' : ∀ e ∈ l', s.heap.msg e.id = e.msg)
    (ids : l.map Entry.id = l'.map Entry.id) : l = l' := by
  induction l generalizing l' with
  | nil => exact (List.map_eq_nil_iff.1 ids.symm).symm
  | cons e rest ih =>
      cases l' with
      | nil => cases ids
      | cons e' rest' =>
          obtain ⟨same, ids⟩ := List.cons.inj ids
          have here := content e (by simp)
          rw [same, content' e' (by simp)] at here
          rw [ih (fun other member => content other (by simp [member]))
            (fun other member => content' other (by simp [member])) ids]
          cases e
          cases e'
          simp only at same here
          subst same here
          rfl

theorem unique {l' : List Entry} (threaded : Threaded s l)
    (threaded' : Threaded s l') : l = l' :=
  eq_of_ids threaded.content threaded'.content
    (threaded.linked.unique threaded'.linked)

theorem next_eq (threaded : Threaded s (a ++ e :: b)) :
    s.heap.next e.id = (b.map Entry.id).head? := by
  have linked := threaded.linked
  rw [List.map_append, List.map_cons] at linked
  exact linked.next_eq

theorem prev_eq (threaded : Threaded s (a ++ e :: b)) :
    s.heap.prev e.id = (a.map Entry.id).getLast? := by
  have linked := threaded.linked
  rw [List.map_append, List.map_cons] at linked
  exact linked.prev_eq

theorem fresh_of_split (threaded : Threaded s (a ++ e :: b)) :
    e.id ∉ a.map Entry.id ∧ e.id ∉ b.map Entry.id := by
  have nodup := threaded.linked.nodup
  rw [List.map_append, List.map_cons, List.nodup_middle, List.nodup_cons,
    List.mem_append] at nodup
  tauto

theorem unlink (threaded : Threaded s (a ++ e :: b)) :
    Threaded (s.unlink e.id) (a ++ b) := by
  obtain ⟨freshA, freshB⟩ := threaded.fresh_of_split
  have hnext := threaded.next_eq
  have hprev := threaded.prev_eq
  apply threaded.remove
  · intro mp
    simp only [QState.unlink]
    cases s.heap.prev e.id <;> cases s.heap.next e.id <;> simp
  · intro mp different
    simp only [QState.unlink, ← hprev, ← hnext]
    cases s.heap.prev e.id <;> cases s.heap.next e.id <;>
      simp [different, eq_comm]
  · intro mp different
    simp only [QState.unlink, ← hprev, ← hnext]
    cases s.heap.prev e.id <;> cases s.heap.next e.id <;>
      simp [different, eq_comm]
  · simp [QState.unlink, hnext]
  · simp [QState.unlink, hprev]

end Threaded

@[simp] theorem QState.unlink_msg (s : QState) (mp other : Addr) :
    (s.unlink mp).heap.msg other = s.heap.msg other := by
  simp only [QState.unlink]
  cases s.heap.prev mp <;> cases s.heap.next mp <;> simp

end OpenSS7.Streams
