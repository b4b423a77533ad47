import OpenSS7.Lib.LinkedList
import OpenSS7.Drivers.Bufq

/-!
The list of messages a buffer queue holds, and what linking a message in and
unlinking one do to it.
-/

namespace OpenSS7.Drivers

open LinkedList

theorem Message.eq_of_blocks {m m' : Message} (same : m.blocks = m'.blocks) :
    m = m' := by
  cases m with
  | mk mp rest =>
      cases m' with
      | mk mp' rest' =>
          obtain ⟨rfl, rfl⟩ := List.cons_eq_cons.mp same
          rfl

def Mblk.octets (m : Mblk) : Nat := (m.bWptr - m.bRptr).toNat

namespace Bufqs

def content (s : Bufqs) (b : Addr) : Option Addr × Nat :=
  ((s.blk b).bCont, (s.blk b).octets)

/-- The blocks linked by `b_cont` from a pointer on. -/
def IsChain (s : Bufqs) : Option Addr → List Addr → Prop
  | start, [] => start = none
  | start, b :: rest => start = some b ∧ s.IsChain (s.content b).1 rest

def octets (s : Bufqs) (bs : List Addr) : Nat :=
  (bs.map fun b => (s.content b).2).sum

def total (s : Bufqs) (l : List Message) : Nat :=
  (l.map fun m => s.octets m.blocks).sum

structure Listed (s : Bufqs) (i : Nat) (l : List Message) : Prop where
  linked : Linked s.next s.prev (s.queue i).qHead (s.queue i).qTail
    (l.map Message.mp)
  chains : ∀ m ∈ l, s.IsChain (some m.mp) m.blocks
  msgs : (s.queue i).qMsgs = l.length

def Exact (s : Bufqs) (i : Nat) (l : List Message) : Prop :=
  (s.queue i).qCount = s.total l

structure Kept (s : Bufqs) (lists : Nat → List Message) : Prop where
  listed : ∀ i, s.Listed i (lists i)
  apart : ∀ i j, i ≠ j →
    List.Disjoint ((lists i).map Message.mp) ((lists j).map Message.mp)

structure Inserted (s s' : Bufqs) (i : Nat) (before after : Option Addr)
    (mp : Addr) (size : Nat) : Prop where
  next : ∀ other, s'.next other =
    if mp = other then after
    else if before = some other then some mp else s.next other
  prev : ∀ other, s'.prev other =
    if mp = other then before
    else if after = some other then some mp else s.prev other
  content : s'.content = s.content
  head : (s'.queue i).qHead =
    if before = none then some mp else (s.queue i).qHead
  tail : (s'.queue i).qTail =
    if after = none then some mp else (s.queue i).qTail
  msgs : (s'.queue i).qMsgs = (s.queue i).qMsgs + 1
  count : (s'.queue i).qCount = (s.queue i).qCount + size
  others : ∀ j, j ≠ i → s'.queue j = s.queue j

structure Removed (s s' : Bufqs) (i : Nat) (before after : Option Addr)
    (mp : Addr) (size : Nat) : Prop where
  next : ∀ other, s'.next other =
    if mp = other then none
    else if before = some other then after else s.next other
  prev : ∀ other, s'.prev other =
    if mp = other then none
    else if after = some other then before else s.prev other
  content : s'.content = s.content
  head : (s'.queue i).qHead =
    if before = none then after else (s.queue i).qHead
  tail : (s'.queue i).qTail =
    if after = none then before else (s.queue i).qTail
  msgs : (s'.queue i).qMsgs = (s.queue i).qMsgs - 1
  count : (s'.queue i).qCount =
    if (s.queue i).qMsgs - 1 = 0 then 0 else (s.queue i).qCount - size
  others : ∀ j, j ≠ i → s'.queue j = s.queue j

section Fields

variable (s : Bufqs) (b c : Addr) (p : Option Addr) (i : Nat) (f : Bufq → Bufq)

@[simp] theorem next_setNext :
    (s.setNext b p).next c = if b = c then p else s.next c := by
  by_cases here : c = b <;>
    simp [next, setNext, modifyBlk, here, Ne.symm]

@[simp] theorem prev_setNext : (s.setNext b p).prev c = s.prev c := by
  by_cases here : c = b <;> simp [prev, setNext, modifyBlk, here]

@[simp] theorem next_setPrev : (s.setPrev b p).next c = s.next c := by
  by_cases here : c = b <;> simp [next, setPrev, modifyBlk, here]

@[simp] theorem prev_setPrev :
    (s.setPrev b p).prev c = if b = c then p else s.prev c := by
  by_cases here : c = b <;>
    simp [prev, setPrev, modifyBlk, here, Ne.symm]

@[simp] theorem next_setCont : (s.setCont b p).next c = s.next c := by
  by_cases here : c = b <;> simp [next, setCont, modifyBlk, here]

@[simp] theorem prev_setCont : (s.setCont b p).prev c = s.prev c := by
  by_cases here : c = b <;> simp [prev, setCont, modifyBlk, here]

@[simp] theorem content_setNext : (s.setNext b p).content = s.content := by
  funext c
  by_cases here : c = b <;>
    simp [content, setNext, modifyBlk, here, Mblk.octets]

@[simp] theorem content_setPrev : (s.setPrev b p).content = s.content := by
  funext c
  by_cases here : c = b <;>
    simp [content, setPrev, modifyBlk, here, Mblk.octets]

@[simp] theorem content_setCont : (s.setCont b p).content =
    Function.update s.content b (p, (s.content b).2) := by
  funext c
  by_cases here : c = b <;>
    simp [content, setCont, modifyBlk, here, Mblk.octets]

@[simp] theorem content_reset : (s.reset b).content =
    Function.update s.content b ((s.content b).1, 0) := by
  funext c
  by_cases here : c = b <;>
    simp [content, reset, modifyBlk, here, Mblk.octets]

@[simp] theorem queue_reset : (s.reset b).queue = s.queue := rfl

@[simp] theorem queue_setNext : (s.setNext b p).queue = s.queue := rfl

@[simp] theorem queue_setPrev : (s.setPrev b p).queue = s.queue := rfl

@[simp] theorem queue_setCont : (s.setCont b p).queue = s.queue := rfl

@[simp] theorem next_modifyQueue : (s.modifyQueue i f).next = s.next := rfl

@[simp] theorem prev_modifyQueue : (s.modifyQueue i f).prev = s.prev := rfl

@[simp] theorem content_modifyQueue :
    (s.modifyQueue i f).content = s.content := rfl

@[simp] theorem queue_modifyQueue :
    (s.modifyQueue i f).queue = Function.update s.queue i (f (s.queue i)) := rfl

@[simp] theorem next_setHead : (s.setHead i p).next = s.next := rfl

@[simp] theorem prev_setHead : (s.setHead i p).prev = s.prev := rfl

@[simp] theorem content_setHead : (s.setHead i p).content = s.content := rfl

@[simp] theorem queue_setHead : (s.setHead i p).queue =
    Function.update s.queue i { s.queue i with qHead := p } := rfl

@[simp] theorem next_setTail : (s.setTail i p).next = s.next := rfl

@[simp] theorem prev_setTail : (s.setTail i p).prev = s.prev := rfl

@[simp] theorem content_setTail : (s.setTail i p).content = s.content := rfl

@[simp] theorem queue_setTail : (s.setTail i p).queue =
    Function.update s.queue i { s.queue i with qTail := p } := rfl

variable (o : Option Addr)

@[simp] theorem next_setForward : (s.setForward i o p).next c =
    if o = some c then p else s.next c := by
  cases o with
  | none => simp [setForward]
  | some b => simp [setForward, eq_comm]

@[simp] theorem prev_setForward : (s.setForward i o p).prev c = s.prev c := by
  cases o <;> simp [setForward]

@[simp] theorem content_setForward :
    (s.setForward i o p).content = s.content := by
  cases o <;> simp [setForward]

@[simp] theorem queue_setForward : (s.setForward i o p).queue =
    Function.update s.queue i { s.queue i with
      qHead := if o = none then p else (s.queue i).qHead } := by
  cases o <;> simp [setForward]

@[simp] theorem next_setBackward :
    (s.setBackward i o p).next c = s.next c := by
  cases o <;> simp [setBackward]

@[simp] theorem prev_setBackward : (s.setBackward i o p).prev c =
    if o = some c then p else s.prev c := by
  cases o with
  | none => simp [setBackward]
  | some b => simp [setBackward, eq_comm]

@[simp] theorem content_setBackward :
    (s.setBackward i o p).content = s.content := by
  cases o <;> simp [setBackward]

@[simp] theorem queue_setBackward : (s.setBackward i o p).queue =
    Function.update s.queue i { s.queue i with
      qTail := if o = none then p else (s.queue i).qTail } := by
  cases o <;> simp [setBackward]

end Fields

section Chains

variable {s s' : Bufqs} {start : Option Addr} {bs cs : List Addr}

theorem IsChain.congr (chain : s.IsChain start bs)
    (same : ∀ b ∈ bs, s'.content b = s.content b) : s'.IsChain start bs := by
  induction bs generalizing start with
  | nil => exact chain
  | cons b rest ih =>
      refine ⟨chain.1, ?_⟩
      rw [same b List.mem_cons_self]
      exact ih chain.2 fun c member => same c (List.mem_cons_of_mem _ member)

theorem IsChain.unique (chain : s.IsChain start bs)
    (other : s.IsChain start cs) : bs = cs := by
  induction bs generalizing start cs with
  | nil =>
      cases cs with
      | nil => rfl
      | cons c rest => exact nomatch chain.symm.trans other.1
  | cons b rest ih =>
      cases cs with
      | nil => exact nomatch other.symm.trans chain.1
      | cons c rest' =>
          obtain rfl : b = c := Option.some.inj (chain.1.symm.trans other.1)
          rw [ih chain.2 other.2]

theorem IsChain.of_mem {b : Addr} (chain : s.IsChain start bs)
    (member : b ∈ bs) :
    ∃ front rest, bs = front ++ b :: rest ∧ s.IsChain (some b) (b :: rest) := by
  induction bs generalizing start with
  | nil => cases member
  | cons c rest ih =>
      rcases List.mem_cons.mp member with rfl | member
      · exact ⟨[], rest, rfl, rfl, chain.2⟩
      · obtain ⟨front, tail, eq, chain⟩ := ih chain.2 member
        exact ⟨c :: front, tail, by rw [eq, List.cons_append], chain⟩

theorem IsChain.nodup (chain : s.IsChain start bs) : bs.Nodup := by
  induction bs generalizing start with
  | nil => exact List.nodup_nil
  | cons b rest ih =>
      refine List.nodup_cons.mpr ⟨?_, ih chain.2⟩
      intro again
      obtain ⟨front, tail, eq, chain'⟩ := chain.2.of_mem again
      have same := (chain'.2).unique chain.2
      have length := congrArg List.length eq
      rw [← same, List.length_append, List.length_cons] at length
      omega

@[simp] theorem octets_nil : s.octets [] = 0 := rfl

@[simp] theorem octets_cons (b : Addr) :
    s.octets (b :: bs) = (s.content b).2 + s.octets bs := by
  rw [octets, octets, List.map_cons, List.sum_cons]

theorem octets_congr (same : ∀ b ∈ bs, s'.content b = s.content b) :
    s'.octets bs = s.octets bs := by
  rw [octets, octets]
  congr 1
  exact List.map_congr_left fun b member => by rw [same b member]

theorem octets_eq_zero :
    s.octets bs = 0 ↔ ∀ b ∈ bs, (s.content b).2 = 0 := by
  induction bs with
  | nil => simp
  | cons b rest ih => simp [ih]

theorem addCount_eq {fuel : Nat} (chain : s.IsChain start bs)
    (enough : bs.length ≤ fuel) (count : Nat) :
    s.addCount fuel start count = some (count + s.octets bs) := by
  induction bs generalizing start fuel count with
  | nil =>
      rw [chain]
      cases fuel <;> rfl
  | cons b rest ih =>
      cases fuel with
      | zero => exact absurd enough (Nat.not_succ_le_zero _)
      | succ fuel =>
          have step : ∀ count, (if (s.blk b).bRptr < (s.blk b).bWptr then
              count + ((s.blk b).bWptr - (s.blk b).bRptr).toNat else count) =
                count + (s.content b).2 := by
            intro count
            change _ = count + ((s.blk b).bWptr - (s.blk b).bRptr).toNat
            split
            · rfl
            · omega
          have below : s.IsChain (s.blk b).bCont rest := chain.2
          rw [chain.1, addCount, step,
            ih below (Nat.le_of_succ_le_succ enough), octets_cons,
            Nat.add_assoc]

theorem subCount_eq {fuel : Nat} (chain : s.IsChain start bs)
    (enough : bs.length ≤ fuel) (count : Nat) :
    s.subCount fuel start count = some (count - s.octets bs) := by
  induction bs generalizing start fuel count with
  | nil =>
      rw [chain]
      cases fuel <;> rfl
  | cons b rest ih =>
      cases fuel with
      | zero => exact absurd enough (Nat.not_succ_le_zero _)
      | succ fuel =>
          have step : ∀ count, (if (s.blk b).bRptr < (s.blk b).bWptr then
              if ((s.blk b).bWptr - (s.blk b).bRptr).toNat ≤ count then
                count - ((s.blk b).bWptr - (s.blk b).bRptr).toNat else 0
              else count) = count - (s.content b).2 := by
            intro count
            change _ = count - ((s.blk b).bWptr - (s.blk b).bRptr).toNat
            split
            · split
              · rfl
              · omega
            · omega
          have below : s.IsChain (s.blk b).bCont rest := chain.2
          rw [chain.1, subCount, step,
            ih below (Nat.le_of_succ_le_succ enough), octets_cons,
            Nat.sub_sub]

end Chains

section Operations

variable {s : Bufqs} {fuel i : Nat} {mp np : Addr} {bs : List Addr}

theorem bufqAdd_eq (chain : s.IsChain (some mp) bs)
    (enough : bs.length ≤ fuel) :
    s.bufqAdd fuel i mp = some (s.modifyQueue i fun q =>
      { q with qMsgs := q.qMsgs + 1, qCount := q.qCount + s.octets bs }) := by
  rw [bufqAdd, addCount_eq chain enough]
  rfl

theorem bufqSub_eq (chain : s.IsChain (some mp) bs)
    (enough : bs.length ≤ fuel) :
    s.bufqSub fuel i mp = some (s.modifyQueue i fun q =>
      { q with
        qMsgs := q.qMsgs - 1
        qCount := if q.qMsgs - 1 = 0 then 0 else q.qCount - s.octets bs }) := by
  rw [bufqSub, subCount_eq chain enough]
  rfl

theorem octets_of_content {s' : Bufqs} (same : s'.content = s.content) :
    s'.octets bs = s.octets bs :=
  octets_congr fun b _ => by rw [same]

theorem IsChain.of_content {s' : Bufqs} {start : Option Addr}
    (chain : s.IsChain start bs) (same : s'.content = s.content) :
    s'.IsChain start bs :=
  chain.congr fun b _ => by rw [same]

theorem bufqQueue_spec (chain : s.IsChain (some mp) bs)
    (enough : bs.length ≤ fuel) :
    ∃ s', s.bufqQueue fuel i mp = some s' ∧
      Inserted s s' i (s.queue i).qTail none mp (s.octets bs) := by
  unfold bufqQueue
  simp only
  rw [bufqAdd_eq (chain.of_content (by simp)) enough,
    octets_of_content (s := s) (by simp)]
  refine ⟨_, rfl, ?_⟩
  constructor <;> intros <;> simp [*]

theorem bufqQueueHead_spec (chain : s.IsChain (some mp) bs)
    (enough : bs.length ≤ fuel) :
    ∃ s', s.bufqQueueHead fuel i mp = some s' ∧
      Inserted s s' i none (s.queue i).qHead mp (s.octets bs) := by
  unfold bufqQueueHead
  simp only
  rw [bufqAdd_eq (chain.of_content (by simp)) enough,
    octets_of_content (s := s) (by simp)]
  refine ⟨_, rfl, ?_⟩
  constructor <;> intros <;> simp [*]

theorem bufqInsert_spec (chain : s.IsChain (some np) bs)
    (enough : bs.length ≤ fuel) (fresh : np ≠ mp) :
    ∃ s', s.bufqInsert fuel i mp np = some s' ∧
      Inserted s s' i (s.prev mp) (some mp) np (s.octets bs) := by
  unfold bufqInsert
  simp only
  rw [bufqAdd_eq (chain.of_content (by simp)) enough,
    octets_of_content (s := s) (by simp)]
  refine ⟨_, rfl, ?_⟩
  constructor <;> intros <;> simp [*]
  grind

theorem bufqAppend_spec (chain : s.IsChain (some np) bs)
    (enough : bs.length ≤ fuel) (fresh : np ≠ mp) :
    ∃ s', s.bufqAppend fuel i mp np = some s' ∧
      Inserted s s' i (some mp) (s.next mp) np (s.octets bs) := by
  unfold bufqAppend
  simp only
  rw [bufqAdd_eq (chain.of_content (by simp)) enough,
    octets_of_content (s := s) (by simp)]
  refine ⟨_, rfl, ?_⟩
  constructor <;> intros <;> simp [*]
  grind

theorem bufqDequeue_spec (head : (s.queue i).qHead = some mp)
    (chain : s.IsChain (some mp) bs) (enough : bs.length ≤ fuel) :
    ∃ s', s.bufqDequeue fuel i = some (s', some mp) ∧
      Removed s s' i none (s.next mp) mp (s.octets bs) := by
  unfold bufqDequeue
  rw [head]
  simp only
  rw [bufqSub_eq (chain.of_content (by simp)) enough,
    octets_of_content (s := s) (by simp)]
  refine ⟨_, rfl, ?_⟩
  constructor <;> intros <;> simp [*]

theorem bufqDequeueTail_spec (tail : (s.queue i).qTail = some mp)
    (chain : s.IsChain (some mp) bs) (enough : bs.length ≤ fuel) :
    ∃ s', s.bufqDequeueTail fuel i = some (s', some mp) ∧
      Removed s s' i (s.prev mp) none mp (s.octets bs) := by
  unfold bufqDequeueTail
  rw [tail]
  simp only
  rw [bufqSub_eq (chain.of_content (by simp)) enough,
    octets_of_content (s := s) (by simp)]
  refine ⟨_, rfl, ?_⟩
  constructor <;> intros <;> simp [*]

theorem bufqUnlink_spec (chain : s.IsChain (some mp) bs)
    (enough : bs.length ≤ fuel) :
    ∃ s', s.bufqUnlink fuel i mp = some s' ∧
      Removed s s' i (s.prev mp) (s.next mp) mp (s.octets bs) := by
  unfold bufqUnlink
  simp only
  rw [bufqSub_eq (chain.of_content (by simp)) enough,
    octets_of_content (s := s) (by simp)]
  refine ⟨_, rfl, ?_⟩
  constructor <;> intros <;> simp [*]

end Operations

section Lists

variable {s s' : Bufqs} {i size : Nat} {lists : Nat → List Message}
  {l a b : List Message} {m : Message} {before after : Option Addr}

def heads (l : List Message) : List Addr := l.map Message.mp

@[simp] theorem heads_append : heads (a ++ b) = heads a ++ heads b :=
  List.map_append

@[simp] theorem heads_cons : heads (m :: l) = m.mp :: heads l := rfl

theorem total_congr (same : s'.content = s.content) :
    s'.total l = s.total l := by
  rw [total, total]
  congr 1
  exact List.map_congr_left fun m _ => octets_of_content same

@[simp] theorem total_append : s.total (a ++ b) = s.total a + s.total b := by
  rw [total, List.map_append, List.sum_append]
  rfl

@[simp] theorem total_cons :
    s.total (m :: l) = s.octets m.blocks + s.total l := by
  rw [total, List.map_cons, List.sum_cons]
  rfl

theorem Listed.unique (listed : s.Listed i a) (other : s.Listed i b) :
    a = b := by
  have same : heads a = heads b := listed.linked.unique other.linked
  have chains := other.chains
  replace listed := listed.chains
  clear other
  induction a generalizing b with
  | nil => exact (List.map_eq_nil_iff.mp same.symm).symm
  | cons m rest ih =>
      cases b with
      | nil => cases same
      | cons m' rest' =>
          obtain ⟨head, tail⟩ := List.cons_eq_cons.mp same
          have here := listed m List.mem_cons_self
          have here' := chains m' List.mem_cons_self
          rw [head] at here
          have blocks := here.unique here'
          rw [ih tail (fun n member => chains n (List.mem_cons_of_mem _ member))
            fun n member => listed n (List.mem_cons_of_mem _ member)]
          rw [Message.eq_of_blocks blocks]

theorem Listed.frame (listed : s.Listed i l)
    (next : ∀ b ∈ heads l, s'.next b = s.next b)
    (prev : ∀ b ∈ heads l, s'.prev b = s.prev b)
    (content : s'.content = s.content) (queue : s'.queue i = s.queue i) :
    s'.Listed i l := by
  refine ⟨?_, ?_, ?_⟩
  · have linked := listed.linked
    rw [queue]
    exact ⟨linked.nodup, linked.first_eq, linked.last_eq,
      segment_congr next prev linked.segment⟩
  · exact fun m member => (listed.chains m member).of_content content
  · rw [queue, listed.msgs]

theorem mem_of_last {c : Addr} (last : (heads a).getLast? = some c)
    (b : List Message) : c ∈ heads (a ++ b) := by
  rw [heads_append]
  exact List.mem_append_left _ (List.mem_of_getLast? last)

theorem mem_of_first {c : Addr} (first : (heads b).head? = some c)
    (a : List Message) : c ∈ heads (a ++ b) := by
  rw [heads_append]
  exact List.mem_append_right _ (List.mem_of_head? first)

theorem Kept.update (kept : s.Kept lists) (listed : s'.Listed i l)
    (owned : ∀ c ∈ heads l, c ∈ heads (lists i) ∨ ∀ j, c ∉ heads (lists j))
    (frame : ∀ j, j ≠ i → ∀ c ∈ heads (lists j),
      s'.next c = s.next c ∧ s'.prev c = s.prev c)
    (content : s'.content = s.content)
    (others : ∀ j, j ≠ i → s'.queue j = s.queue j) :
    s'.Kept (Function.update lists i l) := by
  have foreign : ∀ j, j ≠ i → List.Disjoint (heads l) (heads (lists j)) := by
    intro j other c mine yours
    rcases owned c mine with before | fresh
    · exact kept.apart j i other yours before
    · exact fresh j yours
  refine ⟨fun j => ?_, fun j k different => ?_⟩
  · by_cases here : j = i
    · subst here
      rw [Function.update_self]
      exact listed
    · rw [Function.update_of_ne here]
      exact (kept.listed j).frame (fun c member => (frame j here c member).1)
        (fun c member => (frame j here c member).2) content (others j here)
  · by_cases left : j = i
    · subst left
      rw [Function.update_self, Function.update_of_ne different.symm]
      exact foreign k different.symm
    · rw [Function.update_of_ne left]
      by_cases right : k = i
      · subst right
        rw [Function.update_self]
        exact fun c yours mine => foreign j left mine yours
      · rw [Function.update_of_ne right]
        exact kept.apart j k different

theorem Kept.foreign (kept : s.Kept lists) {j : Nat} (other : j ≠ i)
    {c : Addr} (member : c ∈ heads (lists j)) : c ∉ heads (lists i) :=
  fun here => kept.apart j i other member here

theorem Kept.inserted (kept : s.Kept lists) (place : lists i = a ++ b)
    (chain : s.IsChain (some m.mp) m.blocks)
    (fresh : ∀ j, m.mp ∉ heads (lists j))
    (inserted : Inserted s s' i (heads a).getLast? (heads b).head? m.mp
      size) :
    s'.Kept (Function.update lists i (a ++ m :: b)) := by
  have listed := kept.listed i
  have linked := listed.linked
  rw [place, List.map_append] at linked
  apply kept.update _ _ _ inserted.content inserted.others
  · refine ⟨?_, ?_, ?_⟩
    · rw [List.map_append, List.map_cons, inserted.head, inserted.tail]
      have empty : (heads a).getLast? = none ↔
          (s.queue i).qHead = (b.map Message.mp).head? := by
        rw [List.getLast?_eq_none_iff]
        exact linked.first_eq_iff.symm
      have ending : (heads b).head? = none ↔
          (s.queue i).qTail = (a.map Message.mp).getLast? := by
        rw [List.head?_eq_none_iff]
        exact linked.last_eq_iff.symm
      simp only [empty, ending]
      apply linked.insert
      · have strange := fresh i
        rw [place, heads_append] at strange
        exact strange
      · rw [inserted.next, inserted.prev, if_pos rfl, if_pos rfl]
        exact ⟨rfl, rfl⟩
      · intro other different
        rw [inserted.next, if_neg different.symm]
        rfl
      · intro other different
        rw [inserted.prev, if_neg different.symm]
        rfl
    · intro n member
      apply IsChain.of_content _ inserted.content
      rcases List.mem_append.mp member with before | after
      · exact listed.chains n (place ▸ List.mem_append_left _ before)
      · rcases List.mem_cons.mp after with rfl | after
        · exact chain
        · exact listed.chains n (place ▸ List.mem_append_right _ after)
    · rw [inserted.msgs, listed.msgs, place]
      simp only [List.length_append, List.length_cons]
      omega
  · intro c member
    rw [heads_append, heads_cons, List.mem_append, List.mem_cons] at member
    rw [place, heads_append, List.mem_append]
    rcases member with before | rfl | after
    · exact .inl (.inl before)
    · exact .inr fresh
    · exact .inl (.inr after)
  · intro j other c member
    have strange : m.mp ≠ c := fun same => fresh j (same ▸ member)
    have outside := kept.foreign other member
    rw [place] at outside
    rw [inserted.next, inserted.prev, if_neg strange, if_neg strange, if_neg,
      if_neg]
    · exact ⟨rfl, rfl⟩
    · exact fun first => outside (mem_of_first first a)
    · exact fun last => outside (mem_of_last last b)

theorem Kept.removed (kept : s.Kept lists) (place : lists i = a ++ m :: b)
    (removed : Removed s s' i (heads a).getLast? (heads b).head? m.mp
      size) :
    s'.Kept (Function.update lists i (a ++ b)) := by
  have listed := kept.listed i
  have linked := listed.linked
  rw [place, List.map_append, List.map_cons] at linked
  have within : ∀ {c : Addr}, c ∈ heads (a ++ b) → c ∈ heads (lists i) := by
    intro c member
    rw [heads_append, List.mem_append] at member
    rw [place, heads_append, heads_cons, List.mem_append, List.mem_cons]
    exact member.imp_right .inr
  apply kept.update _ _ _ removed.content removed.others
  · refine ⟨?_, ?_, ?_⟩
    · rw [List.map_append, removed.head, removed.tail]
      have empty : (heads a).getLast? = none ↔
          (s.queue i).qHead = some m.mp := by
        rw [List.getLast?_eq_none_iff]
        exact linked.first_eq_iff.symm
      have ending : (heads b).head? = none ↔
          (s.queue i).qTail = some m.mp := by
        rw [List.head?_eq_none_iff]
        have split := linked
        rw [List.append_cons] at split
        have last := split.last_eq_iff
        rw [List.getLast?_append_of_ne_nil _ (List.cons_ne_nil _ _)] at last
        exact last.symm
      simp only [empty, ending]
      apply linked.remove
      · intro other different
        rw [removed.next, if_neg different.symm]
        rfl
      · intro other different
        rw [removed.prev, if_neg different.symm]
        rfl
    · intro n member
      apply IsChain.of_content _ removed.content
      apply listed.chains n
      rw [place, List.mem_append, List.mem_cons]
      exact (List.mem_append.mp member).imp_right .inr
    · rw [removed.msgs, listed.msgs, place]
      simp only [List.length_append, List.length_cons]
      omega
  · exact fun c member => .inl (within member)
  · intro j other c member
    have outside := kept.foreign other member
    have strange : m.mp ≠ c := by
      rintro rfl
      apply outside
      rw [place, heads_append, heads_cons]
      exact List.mem_append_right _ List.mem_cons_self
    rw [removed.next, removed.prev, if_neg strange, if_neg strange, if_neg,
      if_neg]
    · exact ⟨rfl, rfl⟩
    · exact fun first => outside (within (mem_of_first first a))
    · exact fun last => outside (within (mem_of_last last b))

theorem Exact.inserted (exact : s.Exact i (a ++ b))
    (inserted : Inserted s s' i before after m.mp (s.octets m.blocks)) :
    s'.Exact i (a ++ m :: b) := by
  rw [Exact, inserted.count, exact, total_congr inserted.content,
    total_append, total_append, total_cons]
  omega

theorem Exact.removed (exact : s.Exact i (a ++ m :: b))
    (listed : s.Listed i (a ++ m :: b))
    (removed : Removed s s' i before after m.mp (s.octets m.blocks)) :
    s'.Exact i (a ++ b) := by
  rw [Exact, removed.count, exact, listed.msgs, total_congr removed.content,
    total_append, total_append, total_cons]
  split
  case isTrue last =>
    rw [List.length_append, List.length_cons] at last
    obtain rfl : a = [] := List.eq_nil_of_length_eq_zero (by omega)
    obtain rfl : b = [] := List.eq_nil_of_length_eq_zero (by omega)
    rfl
  case isFalse => omega

theorem Exact.others {j : Nat} (exact : s.Exact j l)
    (content : s'.content = s.content) (queue : s'.queue j = s.queue j) :
    s'.Exact j l := by
  rw [Exact, queue, exact, total_congr content]

end Lists

end Bufqs

end OpenSS7.Drivers
