import Mathlib.Data.List.Induction
import OpenSS7.Drivers.BufqLinks

/-!
What each operation on buffer queues does to the messages they hold and to
their counts.
-/

namespace OpenSS7.Drivers

open LinkedList

namespace Bufqs

structure Carried (s s' : Bufqs) (lists lists' : Nat → List Message) :
    Prop where
  kept : s'.Kept lists'
  content : s'.content = s.content
  exact : ∀ j, s.Exact j (lists j) → s'.Exact j (lists' j)

def Fresh (lists : Nat → List Message) (b : Addr) : Prop :=
  ∀ j, b ∉ heads (lists j)

def Loose (lists : Nat → List Message) (b : Addr) : Prop :=
  ∀ j, ∀ m ∈ lists j, b ∉ m.blocks

def Fits (fuel : Nat) (l : List Message) : Prop :=
  l.length < fuel ∧ ∀ m ∈ l, m.blocks.length ≤ fuel

variable {s s' s'' : Bufqs} {lists lists' lists'' : Nat → List Message}
  {fuel i j : Nat} {l a b : List Message} {m n : Message}

theorem Carried.refl (kept : s.Kept lists) : Carried s s lists lists :=
  ⟨kept, rfl, fun _ exact => exact⟩

theorem Carried.trans (first : Carried s s' lists lists')
    (second : Carried s' s'' lists' lists'') :
    Carried s s'' lists lists'' :=
  ⟨second.kept, second.content.trans first.content,
    fun j exact => second.exact j (first.exact j exact)⟩

theorem Loose.fresh {c : Addr} (loose : Loose lists c) : Fresh lists c := by
  intro j member
  obtain ⟨m, queued, rfl⟩ := List.mem_map.mp member
  exact loose j m queued List.mem_cons_self

theorem Kept.fresh (kept : s.Kept lists) (place : lists i = a ++ m :: b) :
    Fresh (Function.update lists i (a ++ b)) m.mp := by
  have here : m.mp ∈ heads (lists i) := by
    rw [place, heads_append]
    exact List.mem_append_right _ List.mem_cons_self
  intro j member
  by_cases same : j = i
  · subst same
    rw [Function.update_self, heads_append] at member
    have nodup := (kept.listed j).linked.nodup
    rw [place, List.map_append, List.map_cons] at nodup
    exact (List.nodup_cons.mp (List.nodup_middle.mp nodup)).1 member
  · rw [Function.update_of_ne same] at member
    exact kept.apart j i same member here

theorem Kept.carried_insert (kept : s.Kept lists) (place : lists i = a ++ b)
    (chain : s.IsChain (some m.mp) m.blocks) (fresh : Fresh lists m.mp)
    (inserted : Inserted s s' i (heads a).getLast? (heads b).head? m.mp
      (s.octets m.blocks)) :
    Carried s s' lists (Function.update lists i (a ++ m :: b)) := by
  refine ⟨kept.inserted place chain fresh inserted, inserted.content, ?_⟩
  intro j exact
  by_cases here : j = i
  · subst here
    rw [Function.update_self]
    rw [place] at exact
    exact exact.inserted inserted
  · rw [Function.update_of_ne here]
    exact exact.others inserted.content (inserted.others j here)

theorem Kept.carried_remove (kept : s.Kept lists)
    (place : lists i = a ++ m :: b)
    (removed : Removed s s' i (heads a).getLast? (heads b).head? m.mp
      (s.octets m.blocks)) :
    Carried s s' lists (Function.update lists i (a ++ b)) := by
  refine ⟨kept.removed place removed, removed.content, ?_⟩
  intro j exact
  by_cases here : j = i
  · subst here
    rw [Function.update_self]
    rw [place] at exact
    exact exact.removed (place ▸ kept.listed j) removed
  · rw [Function.update_of_ne here]
    exact exact.others removed.content (removed.others j here)

theorem Kept.next_eq (kept : s.Kept lists) (place : lists i = a ++ m :: b) :
    s.next m.mp = (heads b).head? := by
  have linked := (kept.listed i).linked
  rw [place, List.map_append, List.map_cons] at linked
  exact linked.next_eq

theorem Kept.prev_eq (kept : s.Kept lists) (place : lists i = a ++ m :: b) :
    s.prev m.mp = (heads a).getLast? := by
  have linked := (kept.listed i).linked
  rw [place, List.map_append, List.map_cons] at linked
  exact linked.prev_eq

theorem Kept.chain (kept : s.Kept lists) (place : lists i = a ++ m :: b) :
    s.IsChain (some m.mp) m.blocks :=
  (kept.listed i).chains m
    (place ▸ List.mem_append_right _ List.mem_cons_self)

theorem Fits.block (fits : Fits fuel (a ++ m :: b)) :
    m.blocks.length ≤ fuel :=
  fits.2 m (List.mem_append_right _ List.mem_cons_self)

theorem carried_queue (kept : s.Kept lists)
    (chain : s.IsChain (some m.mp) m.blocks) (fresh : Fresh lists m.mp)
    (enough : m.blocks.length ≤ fuel) :
    ∃ s', s.bufqQueue fuel i m.mp = some s' ∧
      Carried s s' lists (Function.update lists i (lists i ++ [m])) := by
  obtain ⟨s', done, inserted⟩ := bufqQueue_spec (i := i) chain enough
  rw [(kept.listed i).linked.last_eq] at inserted
  exact ⟨s', done, kept.carried_insert (List.append_nil _).symm chain fresh
    inserted⟩

theorem carried_queueHead (kept : s.Kept lists)
    (chain : s.IsChain (some m.mp) m.blocks) (fresh : Fresh lists m.mp)
    (enough : m.blocks.length ≤ fuel) :
    ∃ s', s.bufqQueueHead fuel i m.mp = some s' ∧
      Carried s s' lists (Function.update lists i (m :: lists i)) := by
  obtain ⟨s', done, inserted⟩ := bufqQueueHead_spec (i := i) chain enough
  rw [(kept.listed i).linked.first_eq] at inserted
  exact ⟨s', done, kept.carried_insert (a := []) rfl chain fresh inserted⟩

theorem Fresh.ne (fresh : Fresh lists m.mp) (place : lists i = a ++ n :: b) :
    m.mp ≠ n.mp := by
  intro same
  apply fresh i
  rw [place, same, heads_append]
  exact List.mem_append_right _ List.mem_cons_self

theorem carried_insert (kept : s.Kept lists) (place : lists i = a ++ n :: b)
    (chain : s.IsChain (some m.mp) m.blocks) (fresh : Fresh lists m.mp)
    (enough : m.blocks.length ≤ fuel) :
    ∃ s', s.bufqInsert fuel i n.mp m.mp = some s' ∧
      Carried s s' lists (Function.update lists i (a ++ m :: n :: b)) := by
  obtain ⟨s', done, inserted⟩ :=
    bufqInsert_spec (i := i) chain enough (fresh.ne place)
  rw [kept.prev_eq place] at inserted
  exact ⟨s', done, kept.carried_insert place chain fresh inserted⟩

theorem carried_append (kept : s.Kept lists) (place : lists i = a ++ n :: b)
    (chain : s.IsChain (some m.mp) m.blocks) (fresh : Fresh lists m.mp)
    (enough : m.blocks.length ≤ fuel) :
    ∃ s', s.bufqAppend fuel i n.mp m.mp = some s' ∧
      Carried s s' lists (Function.update lists i (a ++ n :: m :: b)) := by
  obtain ⟨s', done, inserted⟩ :=
    bufqAppend_spec (i := i) chain enough (fresh.ne place)
  have last : some n.mp = (heads (a ++ [n])).getLast? := by
    rw [heads_append, List.getLast?_append]
    rfl
  rw [kept.next_eq place, last] at inserted
  rw [List.append_cons a n (m :: b)]
  rw [List.append_cons] at place
  exact ⟨s', done, kept.carried_insert place chain fresh inserted⟩

theorem carried_dequeue (kept : s.Kept lists) (place : lists i = m :: b)
    (enough : m.blocks.length ≤ fuel) :
    ∃ s', s.bufqDequeue fuel i = some (s', some m.mp) ∧
      Carried s s' lists (Function.update lists i b) := by
  have head : (s.queue i).qHead = some m.mp := by
    rw [(kept.listed i).linked.first_eq, place]
    rfl
  obtain ⟨s', done, removed⟩ :=
    bufqDequeue_spec head (kept.chain (a := []) place) enough
  rw [kept.next_eq (a := []) place] at removed
  exact ⟨s', done, kept.carried_remove (a := []) place removed⟩

theorem carried_dequeueTail (kept : s.Kept lists) (place : lists i = a ++ [m])
    (enough : m.blocks.length ≤ fuel) :
    ∃ s', s.bufqDequeueTail fuel i = some (s', some m.mp) ∧
      Carried s s' lists (Function.update lists i a) := by
  have tail : (s.queue i).qTail = some m.mp := by
    rw [(kept.listed i).linked.last_eq, place, List.map_append,
      List.getLast?_append]
    rfl
  obtain ⟨s', done, removed⟩ :=
    bufqDequeueTail_spec tail (kept.chain place) enough
  rw [kept.prev_eq place] at removed
  have carried := kept.carried_remove place removed
  rw [List.append_nil] at carried
  exact ⟨s', done, carried⟩

theorem carried_unlink (kept : s.Kept lists) (place : lists i = a ++ m :: b)
    (enough : m.blocks.length ≤ fuel) :
    ∃ s', s.bufqUnlink fuel i m.mp = some s' ∧
      Carried s s' lists (Function.update lists i (a ++ b)) := by
  obtain ⟨s', done, removed⟩ :=
    bufqUnlink_spec (i := i) (kept.chain place) enough
  rw [kept.prev_eq place, kept.next_eq place] at removed
  exact ⟨s', done, kept.carried_remove place removed⟩

theorem dequeue_empty (kept : s.Kept lists) (empty : lists i = []) :
    s.bufqDequeue fuel i = some (s, none) := by
  have head : (s.queue i).qHead = none := by
    rw [(kept.listed i).linked.first_eq, empty]
    rfl
  rw [bufqDequeue, head]

theorem dequeueTail_empty (kept : s.Kept lists) (empty : lists i = []) :
    s.bufqDequeueTail fuel i = some (s, none) := by
  have tail : (s.queue i).qTail = none := by
    rw [(kept.listed i).linked.last_eq, empty]
    rfl
  rw [bufqDequeueTail, tail]

def spliced (lists : Nat → List Message) (i j : Nat) (l : List Message) :
    Nat → List Message :=
  Function.update (Function.update lists i l) j []

theorem carried_spliceTail {turns : Nat} (kept : s.Kept lists)
    (place : lists j = l) (different : i ≠ j)
    (fits : ∀ m ∈ l, m.blocks.length ≤ fuel) (enough : l.length < turns) :
    ∃ s', bufqSpliceTail fuel i j turns s = some s' ∧
      Carried s s' lists (spliced lists i j (lists i ++ l)) := by
  induction l generalizing s lists turns with
  | nil =>
      cases turns with
      | zero => exact absurd enough (Nat.not_lt_zero _)
      | succ turns =>
          refine ⟨s, ?_, ?_⟩
          · rw [bufqSpliceTail, dequeue_empty kept place]
            rfl
          · rw [List.append_nil, spliced, Function.update_eq_self, ← place,
              Function.update_eq_self]
            exact .refl kept
  | cons m rest ih =>
      cases turns with
      | zero => exact absurd enough (Nat.not_lt_zero _)
      | succ turns =>
          have short := fits m List.mem_cons_self
          obtain ⟨s₁, taken, carried₁⟩ := carried_dequeue kept place short
          have fresh := kept.fresh (a := []) place
          have chain := (kept.chain (a := []) place).of_content
            carried₁.content
          obtain ⟨s₂, queued, carried₂⟩ :=
            carried_queue (i := i) carried₁.kept chain fresh short
          obtain ⟨s', spliced', carried₃⟩ := ih carried₂.kept
            (by rw [Function.update_of_ne different.symm,
              Function.update_self])
            (fun n member => fits n (List.mem_cons_of_mem _ member))
            (Nat.lt_of_succ_lt_succ enough)
          refine ⟨s', ?_, ?_⟩
          · rw [bufqSpliceTail, taken]
            simp only [Option.bind_eq_bind, Option.bind_some, queued]
            exact spliced'
          · have all := (carried₁.trans carried₂).trans carried₃
            have same : spliced lists i j (lists i ++ m :: rest) =
                spliced (Function.update (Function.update lists j rest) i
                  (Function.update lists j rest i ++ [m])) i j
                  (Function.update (Function.update lists j rest) i
                    (Function.update lists j rest i ++ [m]) i ++ rest) := by
              funext k
              by_cases left : k = j
              · simp [spliced, left]
              · by_cases right : k = i
                · simp [spliced, right, different]
                · simp [spliced, left, right]
            rw [same]
            exact all

theorem carried_spliceHead {turns : Nat} (kept : s.Kept lists)
    (place : lists j = l) (different : i ≠ j)
    (fits : ∀ m ∈ l, m.blocks.length ≤ fuel) (enough : l.length < turns) :
    ∃ s', bufqSpliceHead fuel i j turns s = some s' ∧
      Carried s s' lists (spliced lists i j (l ++ lists i)) := by
  induction l using List.reverseRecOn generalizing s lists turns with
  | nil =>
      cases turns with
      | zero => exact absurd enough (Nat.not_lt_zero _)
      | succ turns =>
          refine ⟨s, ?_, ?_⟩
          · rw [bufqSpliceHead, dequeueTail_empty kept place]
            rfl
          · rw [List.nil_append, spliced, Function.update_eq_self, ← place,
              Function.update_eq_self]
            exact .refl kept
  | append_singleton rest m ih =>
      cases turns with
      | zero => exact absurd enough (Nat.not_lt_zero _)
      | succ turns =>
          have short := fits m (List.mem_append_right _ List.mem_cons_self)
          obtain ⟨s₁, taken, carried₁⟩ := carried_dequeueTail kept place short
          have fresh := kept.fresh place
          rw [List.append_nil] at fresh
          have chain := (kept.chain place).of_content carried₁.content
          obtain ⟨s₂, queued, carried₂⟩ :=
            carried_queueHead (i := i) carried₁.kept chain fresh short
          rw [List.length_append] at enough
          obtain ⟨s', spliced', carried₃⟩ := ih carried₂.kept
            (by rw [Function.update_of_ne different.symm,
              Function.update_self])
            (fun n member => fits n (List.mem_append_left _ member))
            (Nat.lt_of_succ_lt_succ enough)
          refine ⟨s', ?_, ?_⟩
          · rw [bufqSpliceHead, taken]
            simp only [Option.bind_eq_bind, Option.bind_some, queued]
            exact spliced'
          · have all := (carried₁.trans carried₂).trans carried₃
            have same : spliced lists i j (rest ++ [m] ++ lists i) =
                spliced (Function.update (Function.update lists j rest) i
                  (m :: Function.update lists j rest i)) i j
                  (rest ++ Function.update (Function.update lists j rest) i
                    (m :: Function.update lists j rest i) i) := by
              funext k
              by_cases left : k = j
              · simp [spliced, left]
              · by_cases right : k = i
                · simp [spliced, right, different]
                · simp [spliced, left, right]
            rw [same]
            exact all

theorem carried_purge {turns : Nat} (kept : s.Kept lists)
    (place : lists i = l) (fits : ∀ m ∈ l, m.blocks.length ≤ fuel)
    (enough : l.length < turns) :
    ∃ s', bufqPurge fuel i turns s = some (s', heads l) ∧
      Carried s s' lists (Function.update lists i []) := by
  induction l generalizing s lists turns with
  | nil =>
      cases turns with
      | zero => exact absurd enough (Nat.not_lt_zero _)
      | succ turns =>
          have head : (s.queue i).qHead = none := by
            rw [(kept.listed i).linked.first_eq, place]
            rfl
          refine ⟨s, ?_, ?_⟩
          · rw [bufqPurge, head]
            rfl
          · rw [← place, Function.update_eq_self]
            exact .refl kept
  | cons m rest ih =>
      cases turns with
      | zero => exact absurd enough (Nat.not_lt_zero _)
      | succ turns =>
          have head : (s.queue i).qHead = some m.mp := by
            rw [(kept.listed i).linked.first_eq, place]
            rfl
          obtain ⟨s₁, taken, carried₁⟩ :=
            carried_dequeue kept place (fits m List.mem_cons_self)
          obtain ⟨s', purged, carried₂⟩ := ih carried₁.kept
            (Function.update_self _ _ _)
            (fun n member => fits n (List.mem_cons_of_mem _ member))
            (Nat.lt_of_succ_lt_succ enough)
          refine ⟨s', ?_, ?_⟩
          · rw [bufqPurge, head]
            simp only [taken, Option.bind_eq_bind, Option.bind_some, purged]
            rfl
          · rw [Function.update_idem] at carried₂
            exact carried₁.trans carried₂

section Supply

variable {bs : List Addr} {start : Option Addr} {c : Addr}

def single (b : Addr) : Message := ⟨b, []⟩

def excess (s : Bufqs) : List Addr → Nat
  | [] => 0
  | _ :: rest => s.octets rest + s.excess rest

theorem excess_congr (same : ∀ b ∈ bs, s'.content b = s.content b) :
    s'.excess bs = s.excess bs := by
  induction bs with
  | nil => rfl
  | cons b rest ih =>
      have below : ∀ c ∈ rest, s'.content c = s.content c :=
        fun c member => same c (List.mem_cons_of_mem _ member)
      rw [excess, excess, octets_congr below, ih below]

theorem excess_eq_zero :
    s.excess bs = 0 ↔ ∀ b ∈ bs.tail, (s.content b).2 = 0 := by
  induction bs with
  | nil => simp [excess]
  | cons b rest ih =>
      rw [excess, Nat.add_eq_zero_iff, octets_eq_zero, ih, List.tail_cons]
      exact and_iff_left_of_imp fun clear c member =>
        clear c (List.mem_of_mem_tail member)

theorem total_single (clear : ∀ b ∈ bs, (s.content b).2 = 0) :
    s.total (bs.map single) = 0 := by
  induction bs with
  | nil => rfl
  | cons b rest ih =>
      rw [List.map_cons, total_cons,
        ih fun c member => clear c (List.mem_cons_of_mem _ member)]
      simp [single, Message.blocks, clear b List.mem_cons_self]

theorem Kept.of_loose (kept : s.Kept lists)
    (same : ∀ c, s'.blk c ≠ s.blk c → Loose lists c)
    (queue : s'.queue = s.queue) :
    s'.Kept lists ∧ ∀ j, s'.total (lists j) = s.total (lists j) := by
  have fixed : ∀ j, ∀ m ∈ lists j, ∀ c ∈ m.blocks, s'.blk c = s.blk c := by
    intro j m member c inside
    by_contra changed
    exact same c changed j m member inside
  have content : ∀ j, ∀ m ∈ lists j, ∀ c ∈ m.blocks,
      s'.content c = s.content c := by
    intro j m member c inside
    rw [content, content, fixed j m member c inside]
  have first : ∀ j, ∀ c ∈ heads (lists j), s'.blk c = s.blk c := by
    intro j c member
    obtain ⟨m, queued, rfl⟩ := List.mem_map.mp member
    exact fixed j m queued m.mp List.mem_cons_self
  refine ⟨⟨fun j => ⟨?_, ?_, ?_⟩, kept.apart⟩, fun j => ?_⟩
  · have linked := (kept.listed j).linked
    rw [queue]
    refine ⟨linked.nodup, linked.first_eq, linked.last_eq, ?_⟩
    apply segment_congr _ _ linked.segment
    · exact fun c member => by rw [next, next, first j c member]
    · exact fun c member => by rw [prev, prev, first j c member]
  · exact fun m member =>
      ((kept.listed j).chains m member).congr (content j m member)
  · rw [queue, (kept.listed j).msgs]
  · rw [total, total]
    congr 1
    exact List.map_congr_left fun m member => octets_congr (content j m member)

theorem Inserted.setCont {before after : Option Addr} {mp : Addr} {size : Nat}
    (inserted : Inserted s s' i before after mp size) (b : Addr)
    (p : Option Addr) :
    Inserted (s.setCont b p) (s'.setCont b p) i before after mp size := by
  refine ⟨?_, ?_, ?_, inserted.head, inserted.tail, inserted.msgs,
    inserted.count, inserted.others⟩
  · intro other
    simp only [next_setCont, inserted.next]
  · intro other
    simp only [prev_setCont, inserted.prev]
  · rw [content_setCont, content_setCont, inserted.content]

theorem supply_step {b : Addr} {rest : List Addr} (kept : s.Kept lists)
    (below : s.IsChain (s.content b).1 rest) (apart : ∀ c ∈ rest, c ≠ b)
    (loose : Loose lists b) (fits : (b :: rest).length ≤ fuel) :
    ∃ s₁ s₂, (s.reset b).bufqQueue fuel i b = some s₁ ∧
      s₁.unlinkb b = (s₂, (s.content b).1) ∧
      s₂.Kept (Function.update lists i (lists i ++ [single b])) ∧
      (∀ j, j ≠ i → s₂.queue j = s.queue j) ∧
      (s₂.queue i).qCount = (s.queue i).qCount + s.octets rest ∧
      s₂.content = Function.update s.content b (none, 0) := by
  have blank : ∀ c ∈ rest, (s.reset b).content c = s.content c := by
    intro c member
    rw [content_reset, Function.update_of_ne (apart c member)]
  have chain : (s.reset b).IsChain (some b) (b :: rest) := by
    refine ⟨rfl, ?_⟩
    rw [content_reset, Function.update_self]
    exact below.congr blank
  obtain ⟨s₁, queued, inserted⟩ := bufqQueue_spec (i := i) chain fits
  have link : (s₁.blk b).bCont = (s.content b).1 := by
    have same := congrFun inserted.content b
    rw [content_reset, Function.update_self] at same
    exact congrArg Prod.fst same
  have size : (s.reset b).octets (b :: rest) = s.octets rest := by
    rw [octets_cons, content_reset, Function.update_self, Nat.zero_add]
    exact octets_congr blank
  have tail : ((s.reset b).queue i).qTail = (heads (lists i)).getLast? :=
    (kept.listed i).linked.last_eq
  rw [size, tail] at inserted
  -- the link to the continuation might as well have been cut first
  replace inserted := inserted.setCont b none
  have changes : ∀ c, ((s.reset b).setCont b none).blk c ≠ s.blk c →
      Loose lists c := by
    intro c changed
    by_cases here : c = b
    · rw [here]
      exact loose
    · exact absurd (by simp [setCont, reset, modifyBlk, here]) changed
  have loosened := (kept.of_loose changes rfl).1
  have bare : ((s.reset b).setCont b none).content b = (none, 0) := by
    simp
  refine ⟨s₁, s₁.setCont b none, queued, by rw [unlinkb, link], ?_,
    inserted.others, inserted.count, ?_⟩
  · exact loosened.inserted (m := single b) (b := [])
      (List.append_nil _).symm ⟨rfl, by rw [single, bare]; rfl⟩ loose.fresh
      inserted
  · rw [inserted.content]
    simp

theorem supply_spec {turns : Nat} (kept : s.Kept lists)
    (chain : s.IsChain start bs) (loose : ∀ b ∈ bs, Loose lists b)
    (fits : bs.length ≤ fuel) (enough : bs.length ≤ turns) :
    ∃ s', bufqSupply fuel i turns start s = some s' ∧
      s'.Kept (Function.update lists i (lists i ++ bs.map single)) ∧
      (∀ j, j ≠ i → s'.queue j = s.queue j) ∧
      (s'.queue i).qCount = (s.queue i).qCount + s.excess bs ∧
      (∀ c ∉ bs, s'.content c = s.content c) ∧
      ∀ c ∈ bs, s'.content c = (none, 0) := by
  induction bs generalizing s lists start turns with
  | nil =>
      obtain rfl : start = none := chain
      refine ⟨s, by cases turns <;> rfl, ?_, fun _ _ => rfl, rfl,
        fun _ _ => rfl, fun c member => absurd member List.not_mem_nil⟩
      rw [List.map_nil, List.append_nil, Function.update_eq_self]
      exact kept
  | cons b rest ih =>
      cases turns with
      | zero => exact absurd enough (Nat.not_succ_le_zero _)
      | succ turns =>
          obtain ⟨strange, _⟩ := List.nodup_cons.mp chain.nodup
          obtain ⟨rfl, below⟩ := chain
          have apart : ∀ c ∈ rest, c ≠ b := fun c member same =>
            strange (same ▸ member)
          obtain ⟨s₁, s₂, queued, unlinked, kept₂, others₂, count₂, content₂⟩ :=
            supply_step (i := i) kept below apart
              (loose b List.mem_cons_self) fits
          have left : ∀ c ∈ rest, s₂.content c = s.content c := by
            intro c member
            rw [content₂, Function.update_of_ne (apart c member)]
          have loose₂ : ∀ c ∈ rest, Loose
              (Function.update lists i (lists i ++ [single b])) c := by
            intro c member j m queued
            by_cases here : j = i
            · subst here
              rw [Function.update_self] at queued
              rcases List.mem_append.mp queued with before | last
              · exact loose c (List.mem_cons_of_mem _ member) j m before
              · obtain rfl := List.mem_singleton.mp last
                simp [single, Message.blocks, apart c member]
            · rw [Function.update_of_ne here] at queued
              exact loose c (List.mem_cons_of_mem _ member) j m queued
          obtain ⟨s', done, kept', others, count, same, cleared⟩ :=
            ih kept₂ (below.congr left) loose₂
              (Nat.le_of_succ_le fits) (Nat.le_of_succ_le_succ enough)
          refine ⟨s', ?_, ?_, ?_, ?_, ?_, ?_⟩
          · rw [bufqSupply, queued]
            simp only [Option.bind_eq_bind, Option.bind_some, unlinked]
            exact done
          · rw [Function.update_idem, Function.update_self,
              List.append_assoc] at kept'
            exact kept'
          · intro j other
            rw [others j other, others₂ j other]
          · rw [count, count₂, excess, excess_congr left, Nat.add_assoc]
          · intro c outside
            rw [List.mem_cons, not_or] at outside
            rw [same c outside.2, content₂, Function.update_of_ne outside.1]
          · intro c member
            rcases List.mem_cons.mp member with rfl | member
            · rw [same c strange, content₂, Function.update_self]
            · exact cleared c member

end Supply

end Bufqs

end OpenSS7.Drivers
