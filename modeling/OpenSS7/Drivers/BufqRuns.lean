import OpenSS7.Drivers.BufqMoves

/-!
When the counts of buffer queues stay right.
-/

namespace OpenSS7.Drivers

open Bufqs

/-- A message put before the one that starts with `mp`. -/
def insertBefore (mp : Addr) (m : Message) : List Message → List Message
  | [] => []
  | n :: rest =>
      if n.mp = mp then m :: n :: rest else n :: insertBefore mp m rest

/-- A message put after the one that starts with `mp`. -/
def insertAfter (mp : Addr) (m : Message) : List Message → List Message
  | [] => []
  | n :: rest =>
      if n.mp = mp then n :: m :: rest else n :: insertAfter mp m rest

namespace Op

def after (s : Bufqs) (lists : Nat → List Message) : Op → Nat → List Message
  | .queue i m => Function.update lists i (lists i ++ [m])
  | .queueHead i m => Function.update lists i (m :: lists i)
  | .insert i mp m => Function.update lists i (insertBefore mp m (lists i))
  | .append i mp m => Function.update lists i (insertAfter mp m (lists i))
  | .dequeue i => Function.update lists i (lists i).tail
  | .dequeueTail i => Function.update lists i (lists i).dropLast
  | .unlink i mp =>
      Function.update lists i ((lists i).eraseP fun n => decide (n.mp = mp))
  | .spliceHead i j => spliced lists i j (lists j ++ lists i)
  | .spliceTail i j => spliced lists i j (lists i ++ lists j)
  | .freehead i => Function.update lists i (lists i).tail
  | .purge i => Function.update lists i []
  | .supply i m =>
      Function.update lists i (lists i ++ m.blocks.map single)
  | .resupply i m maxsize maxcount =>
      if s.refuses i maxsize maxcount then lists
      else Function.update lists i (lists i ++ m.blocks.map single)
  | .write _ _ => lists
  | .writeData _ _ => lists

def handed (s : Bufqs) (lists : Nat → List Message) : Op → List Addr
  | .dequeue i => (heads (lists i)).head?.toList
  | .dequeueTail i => (heads (lists i)).getLast?.toList
  | .unlink _ mp => [mp]
  | .freehead i => (heads (lists i)).head?.toList
  | .purge i => heads (lists i)
  | .resupply i m maxsize maxcount =>
      if s.refuses i maxsize maxcount then [m.mp] else []
  | _ => []

def Legal (s : Bufqs) (lists : Nat → List Message) : Op → Prop
  | .queue _ m => s.IsChain (some m.mp) m.blocks ∧ Fresh lists m.mp
  | .queueHead _ m => s.IsChain (some m.mp) m.blocks ∧ Fresh lists m.mp
  | .insert i mp m =>
      mp ∈ heads (lists i) ∧ s.IsChain (some m.mp) m.blocks ∧
        Fresh lists m.mp
  | .append i mp m =>
      mp ∈ heads (lists i) ∧ s.IsChain (some m.mp) m.blocks ∧
        Fresh lists m.mp
  | .unlink i mp => mp ∈ heads (lists i)
  | .spliceHead i j => i ≠ j
  | .spliceTail i j => i ≠ j
  | .supply _ m =>
      s.IsChain (some m.mp) m.blocks ∧ ∀ b ∈ m.blocks, Loose lists b
  | .resupply _ m _ _ =>
      s.IsChain (some m.mp) m.blocks ∧ ∀ b ∈ m.blocks, Loose lists b
  | .write b _ => Loose lists b
  | _ => True

def Enough (fuel : Nat) (lists : Nat → List Message) : Op → Prop
  | .queue _ m => m.blocks.length ≤ fuel
  | .queueHead _ m => m.blocks.length ≤ fuel
  | .insert _ _ m => m.blocks.length ≤ fuel
  | .append _ _ m => m.blocks.length ≤ fuel
  | .dequeue i => Fits fuel (lists i)
  | .dequeueTail i => Fits fuel (lists i)
  | .unlink i _ => Fits fuel (lists i)
  | .spliceHead _ j => Fits fuel (lists j)
  | .spliceTail _ j => Fits fuel (lists j)
  | .freehead i => Fits fuel (lists i)
  | .purge i => Fits fuel (lists i)
  | .supply _ m => m.blocks.length ≤ fuel
  | .resupply _ m _ _ => m.blocks.length ≤ fuel
  | _ => True

def Clean (s : Bufqs) : Op → Prop
  | .supply _ m => ∀ b ∈ m.rest, (s.content b).2 = 0
  | .resupply i m maxsize maxcount =>
      s.refuses i maxsize maxcount = false →
        ∀ b ∈ m.rest, (s.content b).2 = 0
  | _ => True

end Op

def Bufqs.Represented (s : Bufqs) : Prop :=
  ∀ i, ∃ l, s.Listed i l ∧ s.Exact i l

structure Call where
  op : Op
  before : Bufqs
  after : Bufqs

def Call.Correct (call : Call) : Prop :=
  call.after.Represented ∧
    match call.op with
    | .spliceHead i j => ∀ l₁ l₂, call.before.Listed i l₁ →
        call.before.Listed j l₂ →
          call.after.Listed i (l₂ ++ l₁) ∧ call.after.Listed j []
    | .spliceTail i j => ∀ l₁ l₂, call.before.Listed i l₁ →
        call.before.Listed j l₂ →
          call.after.Listed i (l₁ ++ l₂) ∧ call.after.Listed j []
    | _ => True

inductive Run (start : Bufqs) :
    List Call → Bufqs → (Nat → List Message) → Prop where
  | nil : Run start [] start fun _ => []
  | step {trace : List Call} {s s' : Bufqs} {lists : Nat → List Message}
      {op : Op} {out : List Addr} (fuel : Nat) (run : Run start trace s lists)
      (legal : op.Legal s lists) (enough : op.Enough fuel lists)
      (exec : s.exec fuel op = some (s', out)) :
      Run start (⟨op, s, s'⟩ :: trace) s' (op.after s lists)

section Places

variable {mp : Addr} {m n : Message} {a b l : List Message}

theorem exists_split (member : mp ∈ heads l) (once : (heads l).Nodup) :
    ∃ a n b, l = a ++ n :: b ∧ n.mp = mp ∧ mp ∉ heads a := by
  obtain ⟨n, queued, rfl⟩ := List.mem_map.mp member
  obtain ⟨a, b, rfl⟩ := List.append_of_mem queued
  refine ⟨a, n, b, rfl, rfl, ?_⟩
  rw [heads_append, heads_cons] at once
  have apart := List.disjoint_of_nodup_append once
  exact fun before => apart before List.mem_cons_self

theorem insertBefore_split (before : n.mp ∉ heads a) :
    insertBefore n.mp m (a ++ n :: b) = a ++ m :: n :: b := by
  induction a with
  | nil => rw [List.nil_append, insertBefore, if_pos rfl, List.nil_append]
  | cons c rest ih =>
      rw [heads_cons, List.mem_cons, not_or] at before
      rw [List.cons_append, insertBefore, if_neg (Ne.symm before.1),
        ih before.2, List.cons_append]

theorem insertAfter_split (before : n.mp ∉ heads a) :
    insertAfter n.mp m (a ++ n :: b) = a ++ n :: m :: b := by
  induction a with
  | nil => rw [List.nil_append, insertAfter, if_pos rfl, List.nil_append]
  | cons c rest ih =>
      rw [heads_cons, List.mem_cons, not_or] at before
      rw [List.cons_append, insertAfter, if_neg (Ne.symm before.1),
        ih before.2, List.cons_append]

theorem eraseP_split (before : n.mp ∉ heads a) :
    (a ++ n :: b).eraseP (fun c => decide (c.mp = n.mp)) = a ++ b := by
  rw [List.eraseP_append_right, List.eraseP_cons_of_pos (by simp)]
  intro c member same
  rw [decide_eq_true_iff] at same
  exact before (same ▸ List.mem_map_of_mem member)

end Places

section Steps

variable {s s' : Bufqs} {lists lists' : Nat → List Message} {fuel i : Nat}
  {op : Op}

structure Executed (s : Bufqs) (lists : Nat → List Message) (op : Op)
    (s' : Bufqs) : Prop where
  kept : s'.Kept (op.after s lists)
  exact : (∀ i, s.Exact i (lists i)) →
    ((∀ i, s'.Exact i (op.after s lists i)) ↔ op.Clean s)

theorem Bufqs.Carried.executed (carried : Carried s s' lists lists')
    (same : op.after s lists = lists') (clean : op.Clean s) :
    Executed s lists op s' := by
  rw [← same] at carried
  exact ⟨carried.kept, fun exact =>
    iff_of_true (fun i => carried.exact i (exact i)) clean⟩

theorem exec_dequeue (kept : s.Kept lists) (fits : Fits fuel (lists i)) :
    ∃ s', s.bufqDequeue fuel i = some (s', (heads (lists i)).head?) ∧
      Carried s s' lists (Function.update lists i (lists i).tail) := by
  cases place : lists i with
  | nil =>
      refine ⟨s, dequeue_empty kept place, ?_⟩
      rw [List.tail_nil, ← place, Function.update_eq_self]
      exact .refl kept
  | cons m rest =>
      rw [place] at fits
      exact carried_dequeue kept place (fits.2 m List.mem_cons_self)

theorem exec_dequeueTail (kept : s.Kept lists) (fits : Fits fuel (lists i)) :
    ∃ s', s.bufqDequeueTail fuel i =
        some (s', (heads (lists i)).getLast?) ∧
      Carried s s' lists (Function.update lists i (lists i).dropLast) := by
  rcases List.eq_nil_or_concat' (lists i) with place | ⟨rest, m, place⟩
  · refine ⟨s, ?_, ?_⟩
    · rw [place]
      exact dequeueTail_empty kept place
    · have same : (lists i).dropLast = lists i := by
        rw [place]
        rfl
      rw [same, Function.update_eq_self]
      exact .refl kept
  · rw [place] at fits
    rw [place, heads_append, List.getLast?_append, List.dropLast_concat]
    exact carried_dequeueTail kept place fits.block

theorem exec_supply {m : Message} (kept : s.Kept lists)
    (chain : s.IsChain (some m.mp) m.blocks)
    (loose : ∀ b ∈ m.blocks, Loose lists b) (enough : m.blocks.length ≤ fuel) :
    ∃ s', bufqSupply fuel i fuel (some m.mp) s = some s' ∧
      s'.Kept (Function.update lists i (lists i ++ m.blocks.map single)) ∧
      ((∀ j, s.Exact j (lists j)) →
        ((∀ j, s'.Exact j
            (Function.update lists i (lists i ++ m.blocks.map single) j)) ↔
          ∀ b ∈ m.rest, (s.content b).2 = 0)) := by
  obtain ⟨s', done, kept', others, count, same, cleared⟩ :=
    supply_spec (i := i) kept chain loose enough enough
  refine ⟨s', done, kept', fun exact => ?_⟩
  have held : ∀ j, s'.total (lists j) = s.total (lists j) := by
    intro j
    rw [total, total]
    congr 1
    apply List.map_congr_left
    intro n queued
    apply octets_congr
    intro b inside
    apply same
    exact fun supplied => loose b supplied j n queued inside
  have blank : s'.total (m.blocks.map single) = 0 :=
    total_single fun b supplied => by rw [cleared b supplied]
  have clean : (∀ b ∈ m.rest, (s.content b).2 = 0) ↔
      s.excess m.blocks = 0 := (@excess_eq_zero s m.blocks).symm
  rw [clean]
  constructor
  · intro all
    have here := all i
    rw [Function.update_self, Exact, count, exact i, total_append, held,
      blank] at here
    omega
  · intro zero j
    by_cases here : j = i
    · subst here
      rw [Function.update_self, Exact, count, exact j, total_append, held,
        blank, zero]
    · rw [Function.update_of_ne here, Exact, others j here, exact j, held]

theorem exec_spec (kept : s.Kept lists) (legal : op.Legal s lists)
    (enough : op.Enough fuel lists) :
    ∃ s', s.exec fuel op = some (s', op.handed s lists) ∧
      Executed s lists op s' := by
  have once : ∀ i, (heads (lists i)).Nodup :=
    fun i => (kept.listed i).linked.nodup
  cases op with
  | queue i m =>
      obtain ⟨s', done, carried⟩ :=
        carried_queue (i := i) kept legal.1 legal.2 enough
      exact ⟨s', by rw [exec, done]; rfl, carried.executed rfl trivial⟩
  | queueHead i m =>
      obtain ⟨s', done, carried⟩ :=
        carried_queueHead (i := i) kept legal.1 legal.2 enough
      exact ⟨s', by rw [exec, done]; rfl, carried.executed rfl trivial⟩
  | insert i mp m =>
      obtain ⟨member, chain, fresh⟩ := legal
      obtain ⟨a, n, b, place, rfl, before⟩ := exists_split member (once i)
      obtain ⟨s', done, carried⟩ := carried_insert kept place chain fresh enough
      refine ⟨s', by rw [exec, done]; rfl, carried.executed ?_ trivial⟩
      rw [Op.after, place, insertBefore_split before]
  | append i mp m =>
      obtain ⟨member, chain, fresh⟩ := legal
      obtain ⟨a, n, b, place, rfl, before⟩ := exists_split member (once i)
      obtain ⟨s', done, carried⟩ := carried_append kept place chain fresh enough
      refine ⟨s', by rw [exec, done]; rfl, carried.executed ?_ trivial⟩
      rw [Op.after, place, insertAfter_split before]
  | dequeue i =>
      obtain ⟨s', done, carried⟩ := exec_dequeue kept enough
      exact ⟨s', by rw [exec, done]; rfl, carried.executed rfl trivial⟩
  | dequeueTail i =>
      obtain ⟨s', done, carried⟩ := exec_dequeueTail kept enough
      exact ⟨s', by rw [exec, done]; rfl, carried.executed rfl trivial⟩
  | unlink i mp =>
      obtain ⟨a, n, b, place, rfl, before⟩ := exists_split legal (once i)
      have fits : Fits fuel (lists i) := enough
      rw [place] at fits
      obtain ⟨s', done, carried⟩ := carried_unlink kept place fits.block
      refine ⟨s', by rw [exec, done]; rfl, carried.executed ?_ trivial⟩
      rw [Op.after, place, eraseP_split before]
  | spliceHead i j =>
      obtain ⟨s', done, carried⟩ :=
        carried_spliceHead kept rfl legal enough.2 enough.1
      exact ⟨s', by rw [exec, done]; rfl, carried.executed rfl trivial⟩
  | spliceTail i j =>
      obtain ⟨s', done, carried⟩ :=
        carried_spliceTail kept rfl legal enough.2 enough.1
      exact ⟨s', by rw [exec, done]; rfl, carried.executed rfl trivial⟩
  | freehead i =>
      obtain ⟨s', done, carried⟩ := exec_dequeue kept enough
      refine ⟨s', ?_, carried.executed rfl trivial⟩
      rw [exec, bufqFreehead]
      cases head : (s.queue i).qHead with
      | none =>
          rw [bufqDequeue, head] at done
          obtain ⟨rfl, same⟩ := Prod.mk.inj (Option.some.inj done)
          rw [Op.handed, ← same]
          rfl
      | some mp =>
          simp only [done]
          rfl
  | purge i =>
      obtain ⟨s', done, carried⟩ := carried_purge kept rfl enough.2 enough.1
      exact ⟨s', done, carried.executed rfl trivial⟩
  | supply i m =>
      obtain ⟨s', done, kept', exact⟩ :=
        exec_supply (i := i) kept legal.1 legal.2 enough
      exact ⟨s', by rw [exec, done]; rfl, kept', exact⟩
  | resupply i m maxsize maxcount =>
      cases refused : s.refuses i maxsize maxcount with
      | true =>
          refine ⟨s, ?_, (Carried.refl kept).executed ?_ ?_⟩
          · simp [exec, bufqResupply, Op.handed, refused]
          · rw [Op.after, if_pos refused]
          · exact fun accepted => nomatch refused.symm.trans accepted
      | false =>
          obtain ⟨s', done, kept', exact⟩ :=
            exec_supply (i := i) kept legal.1 legal.2 enough
          refine ⟨s', ?_, ?_, ?_⟩
          · simp [exec, bufqResupply, Op.handed, refused, done]
          · rw [Op.after, refused]
            exact kept'
          · intro right
            rw [Op.after, refused]
            exact (exact right).trans
              ⟨fun clean _ => clean, fun clean => clean refused⟩
  | write b v =>
      have changes : ∀ c, (s.modifyBlk b fun _ => v).blk c ≠ s.blk c →
          Loose lists c := by
        intro c changed
        by_cases here : c = b
        · rw [here]
          exact legal
        · exact absurd (Function.update_of_ne here _ _) changed
      obtain ⟨kept', same⟩ := kept.of_loose changes rfl
      refine ⟨_, rfl, kept', fun right => iff_of_true (fun i => ?_) trivial⟩
      exact (right i).trans (same i).symm
  | writeData d v =>
      have kept' : ∀ s' : Bufqs, s'.blk = s.blk → s'.queue = s.queue →
          s'.Kept lists := fun s' same queue =>
        (kept.of_loose (fun c changed => absurd (congrFun same c) changed)
          queue).1
      exact ⟨_, rfl, kept' _ rfl rfl, fun right => iff_of_true right trivial⟩

end Steps

section Runs

variable {start s : Bufqs} {trace : List Call} {lists : Nat → List Message}

theorem kept_init (fresh : ∀ i, start.queue i = .init) :
    start.Kept fun _ => [] := by
  refine ⟨fun i => ?_, fun i j _ c member => absurd member List.not_mem_nil⟩
  refine ⟨?_, fun m member => absurd member List.not_mem_nil, ?_⟩
  · rw [fresh i]
    exact LinkedList.linked_nil
  · rw [fresh i]
    rfl

theorem Run.kept (fresh : ∀ i, start.queue i = .init)
    (run : Run start trace s lists) : s.Kept lists := by
  induction run with
  | nil => exact kept_init fresh
  | step fuel run legal enough exec ih =>
      obtain ⟨s', done, executed⟩ := exec_spec ih legal enough
      rw [exec] at done
      cases done
      exact executed.kept

theorem Bufqs.Kept.represented (kept : s.Kept lists) :
    s.Represented ↔ ∀ i, s.Exact i (lists i) := by
  constructor
  · intro right i
    obtain ⟨l, listed, exact⟩ := right i
    rw [(kept.listed i).unique listed]
    exact exact
  · exact fun exact i => ⟨lists i, kept.listed i, exact i⟩

theorem Executed.splices {s' : Bufqs} {op : Op} (kept : s.Kept lists)
    (legal : op.Legal s lists) (executed : Executed s lists op s') :
    Call.Correct ⟨op, s, s'⟩ ↔ s'.Represented := by
  apply and_iff_left
  have listed := executed.kept.listed
  cases op with
  | spliceHead i j =>
      intro l₁ l₂ first second
      rw [first.unique (kept.listed i), second.unique (kept.listed j)]
      have here := listed i
      have there := listed j
      simp only [Op.after, spliced, Function.update_self] at there
      simp only [Op.after, spliced, Function.update_self,
        Function.update_of_ne (show i ≠ j from legal)] at here
      exact ⟨here, there⟩
  | spliceTail i j =>
      intro l₁ l₂ first second
      rw [first.unique (kept.listed i), second.unique (kept.listed j)]
      have here := listed i
      have there := listed j
      simp only [Op.after, spliced, Function.update_self] at there
      simp only [Op.after, spliced, Function.update_self,
        Function.update_of_ne (show i ≠ j from legal)] at here
      exact ⟨here, there⟩
  | _ => trivial

theorem bufqs_represented_iff (fresh : ∀ i, start.queue i = .init)
    (run : Run start trace s lists) :
    start.Represented ∧
      ((∀ call ∈ trace, call.Correct) ↔
        ∀ call ∈ trace, call.op.Clean call.before) ∧
      ∀ op fuel, op.Legal s lists → op.Enough fuel lists →
        ∃ s', s.exec fuel op = some (s', op.handed s lists) := by
  have blank : ∀ i, start.Exact i [] := by
    intro i
    rw [Exact, fresh i]
    rfl
  refine ⟨(kept_init fresh).represented.mpr blank, ?_, ?_⟩
  · suffices both : ((∀ call ∈ trace, call.Correct) ↔
        ∀ call ∈ trace, call.op.Clean call.before) ∧
        ((∀ call ∈ trace, call.op.Clean call.before) →
          ∀ i, s.Exact i (lists i)) from both.1
    induction run with
    | nil => exact ⟨by simp, fun _ => blank⟩
    | @step trace s s' lists op out fuel run legal enough exec ih =>
        have kept := run.kept fresh
        obtain ⟨_, done, executed⟩ := exec_spec kept legal enough
        rw [exec] at done
        cases done
        have correct := executed.splices kept legal
        rw [executed.kept.represented] at correct
        simp only [List.forall_mem_cons]
        constructor
        · rw [ih.1]
          apply and_congr_left
          intro clean
          exact correct.trans (executed.exact (ih.2 clean))
        · rintro ⟨clean, earlier⟩
          exact (executed.exact (ih.2 earlier)).mpr clean
  · intro op fuel legal enough
    obtain ⟨s', done, _⟩ := exec_spec (run.kept fresh) legal enough
    exact ⟨s', done⟩

end Runs

def twoBlocks (full : Addr) : Bufqs where
  blk b :=
    { bNext := none
      bPrev := none
      bCont := if b = 1 then some 2 else none
      bRptr := 100 * b
      bWptr := if b = full then 100 * b + 4 else 100 * b
      bDatap := b }
  data d := { dbType := 1, dbBase := 100 * d }
  queue _ := .init

theorem bufqs_represented_splice : ∃ trace s lists,
    Run (twoBlocks 1) trace s lists ∧ trace.length = 2 ∧
      lists 1 = [single 1, single 2] ∧ ∀ call ∈ trace, call.Correct :=
  have legal : Op.Legal (twoBlocks 1) (fun _ => []) (.supply 0 ⟨1, [2]⟩) :=
    ⟨⟨rfl, rfl, rfl⟩, fun _ _ _ _ member => nomatch member⟩
  have apart : ∀ s lists, Op.Legal s lists (.spliceTail 1 0) :=
    fun _ _ => Nat.one_ne_zero
  have run : Run (twoBlocks 1) _ _ _ :=
    .step 3 (.step 3 .nil legal (show 2 ≤ 3 by decide) rfl)
      (apart _ _) ⟨by decide, by decide⟩ rfl
  ⟨_, _, _, run, rfl, rfl,
    (bufqs_represented_iff (fun _ => rfl) run).2.1.mpr (by
      intro call member
      simp only [List.mem_cons, List.not_mem_nil, or_false] at member
      rcases member with rfl | rfl
      · trivial
      · intro b member
        obtain rfl := List.mem_singleton.mp member
        rfl)⟩

theorem bufq_supply_counts_continuations : ∃ trace s lists,
    Run (twoBlocks 2) trace s lists ∧ ¬ ∀ call ∈ trace, call.Correct := by
  have legal : Op.Legal (twoBlocks 2) (fun _ => []) (.supply 0 ⟨1, [2]⟩) :=
    ⟨⟨rfl, rfl, rfl⟩, fun _ _ _ _ member => nomatch member⟩
  have run : Run (twoBlocks 2) _ _ _ :=
    .step 3 .nil legal (show 2 ≤ 3 by decide) rfl
  refine ⟨_, _, _, run, fun right => ?_⟩
  have represented := (right _ List.mem_cons_self).1
  have exact : 4 = 0 :=
    (run.kept fun _ => rfl).represented.mp represented 0
  exact absurd exact (by decide)

end OpenSS7.Drivers
