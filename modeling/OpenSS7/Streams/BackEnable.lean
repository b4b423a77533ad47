import OpenSS7.Streams.FlowControl

/-!
No lost wake-up: over any run of calls a refused writer waits exactly while
its band is full, and is back-enabled by the removal that unblocks the band.
-/

namespace OpenSS7.Streams

namespace QState

variable {s s' : QState} {l a b : List Entry} {e : Entry} {fuel : Nat}

def clearedBand (qb : Qband) : Qband :=
  { qb with
    qbFirst := none
    qbLast := none
    qbCount := 0
    qbMsgs := 0
    qbFull := false
    qbWantw := if qb.qbFull then false else qb.qbWantw }

theorem flushBands_fst (bands : List Qband) (nband : Nat) :
    (flushBands bands nband).1 = bands.map clearedBand := by
  induction bands generalizing nband with
  | nil => rfl
  | cons head tail ih =>
      rw [flushBands, List.map_cons, ← ih (nband - 1)]
      rfl

theorem mem_flushBands (bands : List Qband) (nband band : Nat) :
    band ∈ (flushBands bands nband).2 ↔
      ∃ ix qb, bands[ix]? = some qb ∧ qb.qbFull = true ∧
        qb.qbWantw = true ∧ band = nband - ix := by
  induction bands generalizing nband with
  | nil => simp [flushBands]
  | cons head tail ih =>
      have later : band ∈ (flushBands tail (nband - 1)).2 ↔
          ∃ ix qb, (head :: tail)[ix + 1]? = some qb ∧ qb.qbFull = true ∧
            qb.qbWantw = true ∧ band = nband - (ix + 1) := by
        rw [ih]
        simp only [List.getElem?_cons_succ, Nat.sub_sub, Nat.add_comm 1]
      have split : band ∈ (flushBands (head :: tail) nband).2 ↔
          (head.qbFull = true ∧ head.qbWantw = true ∧ band = nband) ∨
            band ∈ (flushBands tail (nband - 1)).2 := by
        simp only [flushBands]
        cases head.qbFull <;> cases head.qbWantw <;> simp
      rw [split, later]
      constructor
      · rintro (⟨full, wantw, rfl⟩ | ⟨ix, qb, found⟩)
        · exact ⟨0, head, rfl, full, wantw, rfl⟩
        · exact ⟨ix + 1, qb, found⟩
      · rintro ⟨ix, qb, found, full, wantw, eq⟩
        cases ix with
        | zero =>
            cases found
            exact Or.inl ⟨full, wantw, eq⟩
        | succ ix => exact Or.inr ⟨ix, qb, found, full, wantw, eq⟩

theorem flushAll_removal (flow : Flow s.q) {mp : Addr} {chain : Flushed}
    (done : s.flushAll mp = some (s', chain)) :
    Removal s.q s'.q chain.bands := by
  simp only [flushAll, Option.bind_eq_bind, Option.bind_eq_some_iff] at done
  obtain ⟨last, _, done⟩ := done
  cases done
  have waits : ∀ {full wantw : Bool}, (wantw = true → full = true) →
      (if full then false else wantw) = false := by
    intro full wantw implies
    cases full <;> cases wantw <;> simp_all
  have marked : ∀ qb ∈ s.q.qBandp, (clearedBand qb).Marked := by
    intro qb member
    have old := flow.band qb member
    simp only [Qband.Marked, clearedBand, waits old.wantw_full]
    exact Marks.clear old.order
  have clear : ∀ band, Queue.full
      { s.q with
        qFirst := none
        qLast := none
        qCount := 0
        qMsgs := 0
        qFull := false
        qWantw := if s.q.qFull then false else s.q.qWantw
        qBandp := (flushBands s.q.qBandp s.q.qNband).1
        qBlocked := 0 } band = false := by
    intro band
    simp only [Queue.full, Queue.qband?, flushBands_fst]
    split
    · rfl
    · split
      · rw [List.getElem?_map, Option.any_map]
        cases s.q.qBandp[s.q.qNband - band]? <;> rfl
      · rfl
  refine ⟨⟨⟨?_, ?_, ?_, ?_⟩, ?_, ?_⟩, ?_⟩
  · simp only [flushBands_fst, List.length_map]
    exact flow.nband
  · simp only [waits flow.queue.wantw_full]
    exact Marks.clear flow.queue.order
  · simp only [flushBands_fst, List.mem_map]
    rintro _ ⟨qb, member, rfl⟩
    exact marked qb member
  · simp only [flushBands_fst, List.countP_map]
    symm
    rw [List.countP_eq_zero]
    simp [clearedBand]
  · intro band full
    simp only at full
    rw [clear] at full
    cases full
  · intro band
    simp only [clear, true_and]
    by_cases zero : band = 0
    · have none : band ∉ (flushBands s.q.qBandp s.q.qNband).2 := by
        rw [mem_flushBands]
        rintro ⟨ix, qb, found, _, _, eq⟩
        have := (List.getElem?_eq_some_iff.1 found).1
        have := flow.nband
        omega
      subst zero
      simp only [Queue.full, Queue.wantw, if_true]
      cases s.q.qFull <;> cases s.q.qWantw <;> simp [none]
    · have here : band ∈ (if (s.q.qFull && s.q.qWantw) = true then
            0 :: (flushBands s.q.qBandp s.q.qNband).2
          else (flushBands s.q.qBandp s.q.qNband).2) ↔
          band ∈ (flushBands s.q.qBandp s.q.qNband).2 := by
        split <;> simp [zero]
      rw [here, mem_flushBands]
      simp only [Queue.full, Queue.wantw, if_neg zero]
      constructor
      · rintro ⟨ix, qb, found, full, wantw, eq⟩
        have inside := (List.getElem?_eq_some_iff.1 found).1
        have := flow.nband
        have view : s.q.qband? band = some qb := by
          simp only [Queue.qband?]
          rw [if_pos (by omega), ← found]
          congr 1
          omega
        simp [view, full, wantw]
      · rintro ⟨full, wantw⟩
        cases view : s.q.qband? band with
        | none => simp [view] at full
        | some qb =>
            simp only [view, Option.any_some] at full wantw
            simp only [Queue.qband?] at view
            split at view
            · exact ⟨_, qb, view, full, wantw, by omega⟩
            · cases view
  · intro band full
    simp only at full
    rw [clear] at full
    cases full

theorem flushData_removal (flow : Flow s.q) (holds : Holds s (a ++ e :: b))
    {chain chain' : Flushed}
    (tail : ∀ last, chain.tail = some last →
      last ∉ (a ++ e :: b).map Entry.id)
    (done : flushData fuel s e.id chain = some (s', chain')) :
    ∃ asked, chain'.bands = asked ++ chain.bands ∧
      Removal s.q s'.q asked := by
  induction fuel generalizing s a e b chain with
  | zero => cases done
  | succ fuel ih =>
      have content := holds.content e (by simp)
      have known := holds.counted.known e (by simp)
      have hnext := holds.toThreaded.next_eq
      have off := holds.toThreaded.fresh_of_split
      simp only [flushData, Option.bind_eq_bind, hnext, content] at done
      cases data : e.msg.isdatamsg with
      | false =>
          simp only [data, Bool.false_eq_true, if_false, Option.bind_some]
            at done
          cases b with
          | nil =>
              cases done
              exact ⟨[], rfl, .refl flow⟩
          | cons next rest =>
              have passed : a ++ e :: next :: rest =
                (a ++ [e]) ++ next :: rest := by simp
              rw [passed] at holds tail
              exact ih flow holds tail done
      | true =>
          obtain ⟨s₁, be, removed, holds₁, sameMsg⟩ := rmvqLocked_spec holds
          have first : Removal s.q s₁.q (s.askedFor e.id be) :=
            rmvqLocked_removal flow (by rw [content]; exact known) removed
          simp only [data, if_true, removed, Option.bind_some] at done
          set chain₁ : Flushed := if be then
              { chain with bands := (s₁.heap.msg e.id).bBand :: chain.bands }
            else chain with hchain
          have bands : chain₁.bands = s.askedFor e.id be ++ chain.bands := by
            rw [hchain, askedFor, sameMsg]
            cases be <;> rfl
          have chained := chainOn_spec chain₁ e.id holds₁
            (by simpa using off) (by
              intro last eq
              have := tail last (by rw [← eq, hchain]; cases be <;> rfl)
              simp only [List.map_append, List.map_cons, List.mem_append,
                List.mem_cons] at this ⊢
              tauto)
          cases b with
          | nil =>
              cases done
              exact ⟨_, bands, first⟩
          | cons next rest =>
              obtain ⟨asked, eq, second⟩ :=
                ih (s := (s₁.chainOn chain₁ e.id).1) first.flow chained.1
                  chained.2 done
              refine ⟨asked ++ s.askedFor e.id be, ?_, first.trans second⟩
              rw [eq, show (s₁.chainOn chain₁ e.id).2.bands = chain₁.bands
                from rfl, bands, List.append_assoc]

theorem flushqLocked_removal (flow : Flow s.q) (holds : Holds s l)
    {flag : FlushFlag} {chain : Flushed}
    (done : s.flushqLocked fuel flag = some (s', chain)) :
    Removal s.q s'.q chain.bands := by
  unfold flushqLocked at done
  cases l with
  | nil =>
      have first : s.q.qFirst = none := holds.linked.first_eq
      simp only [first] at done
      cases done
      exact .refl flow
  | cons e b =>
      have first : s.q.qFirst = some e.id := holds.linked.first_eq
      simp only [first] at done
      cases flag with
      | flushall => exact flushAll_removal flow done
      | flushdata =>
          obtain ⟨asked, eq, removal⟩ := flushData_removal (a := []) flow holds
            (by simp [Flushed.empty]) done
          rw [eq, show Flushed.empty.bands = [] from rfl, List.append_nil]
          exact removal

end QState

structure Check (q q' : Queue) (band result : Nat) : Prop where
  flow : Flow q'
  result_eq : result = if q.full band then 0 else 1
  full : ∀ other, q'.full other = q.full other
  wantw : ∀ other, q'.wantw other =
    (q.wantw other || (decide (other = band) && q.full band))

namespace Queue

variable {q : Queue}

theorem bcanputLocked_check (flow : Flow q) (band : Nat) :
    ∃ q' result, q.bcanputLocked band = some (q', result) ∧
      Check q q' band result := by
  have idle : q.full band = false → Check q q band 1 := by
    intro clear
    exact ⟨flow, by simp [clear], fun _ => rfl, by simp [clear]⟩
  by_cases zero : band = 0
  · subst zero
    simp only [bcanputLocked, if_true]
    by_cases isFull : q.qFull = true
    · rw [if_pos isFull]
      refine ⟨_, _, rfl,
        flow.congr rfl rfl rfl (flow.queue.refuse isFull), ?_, ?_, ?_⟩
      · simp [full, isFull]
      · exact fun other => full_congr rfl rfl rfl other
      · intro other
        by_cases here : other = 0
        · simp [wantw, full, here, isFull]
        · simp [wantw, here, qband?]
    · rw [if_neg isFull]
      exact ⟨_, _, rfl, idle (by simpa [full] using isFull)⟩
  · simp only [bcanputLocked, zero, if_false, bcanputSlow]
    by_cases exists_ : band ≤ q.qNband
    · have inside : q.qNband - band < q.qBandp.length := by
        rw [flow.nband]
        omega
      have found := List.getElem?_eq_getElem inside
      have here : q.qNband - (q.qNband - band) = band := by omega
      have view : q.full band = q.qBandp[q.qNband - band].qbFull := by
        simp only [full, zero, if_false, qband?]
        rw [if_pos (by omega), found]
        rfl
      cases isFull : q.full band with
      | false =>
          refine ⟨q, 1, ?_, idle isFull⟩
          rw [view] at isFull
          split
          · simp only [findQband, if_pos inside, found, Option.bind_eq_bind,
              Option.bind_some, isFull]
            rfl
          · rfl
      | true =>
          rw [view] at isFull
          have blocked : 0 < q.qBlocked := by
            rw [flow.blocked]
            exact List.countP_pos_iff.2 ⟨_, List.getElem_mem inside, isFull⟩
          rw [if_pos ⟨exists_, blocked⟩]
          simp only [findQband, if_pos inside, found, Option.bind_eq_bind,
            Option.bind_some, if_pos isFull]
          have marked := (flow.band _ (List.getElem_mem inside)).refuse isFull
          obtain ⟨_, _, fullHere, wantwHere, others⟩ :=
            flags_setBand ({ q with
              qBandp := q.qBandp.set (q.qNband - band)
                { q.qBandp[q.qNband - band] with qbWantw := true } })
              flow.nband found rfl rfl rfl rfl
          rw [here] at fullHere wantwHere others
          refine ⟨_, _, rfl,
            flow.setBand found rfl rfl marked flow.queue rfl, ?_, ?_, ?_⟩
          · simp [view, isFull]
          · intro other
            by_cases same : other = band
            · subst same
              rw [fullHere, view]
            · exact (others other same).1
          · intro other
            by_cases same : other = band
            · subst same
              rw [wantwHere, view, isFull]
              simp
            · simp [same, (others other same).2]
    · refine ⟨q, 1, ?_, idle ?_⟩
      · rw [if_neg (fun h => exists_ h.1)]
      · simp only [full, zero, if_false, qband?]
        rw [if_neg (fun h => exists_ h.2)]
        rfl

end Queue

namespace Op

def tested (op : Op) (q : Queue) : Option Nat :=
  match op with
  | .bcanput _ band =>
      if !q.qProcs && (q.qSrvp || !q.qNext) then some band else none
  | .bcanputnext caller band =>
      if !caller.qProcs && !q.qProcs then some band else none
  | _ => none

end Op

namespace Call

def refuses (call : Call) (band : Nat) : Bool :=
  decide (call.op.tested call.before = some band) &&
    decide (call.outcome.result = 0)

end Call

def refused (band : Nat) : List Call → Bool
  | [] => false
  | call :: earlier =>
      call.refuses band || (call.after.full band && refused band earlier)

def waiting (band : Nat) : List Call → Bool
  | [] => false
  | call :: earlier =>
      call.refuses band ||
        (waiting band earlier && !decide (band ∈ call.outcome.backenable))

inductive Outflow (op : Op) (outcome : Outcome) (q q' : Queue) : Prop where
  | effect (untested : op.tested q = none)
      (effect : Effect q q' outcome.backenable)
  | check {band : Nat} (tested : op.tested q = some band)
      (check : Check q q' band outcome.result)
      (none : outcome.backenable = [])

namespace Outflow

variable {op : Op} {outcome : Outcome} {q q' : Queue}

theorem flow (outflow : Outflow op outcome q q') : Flow q' := by
  cases outflow with
  | effect _ effect => exact effect.flow
  | check _ check _ => exact check.flow

theorem refuses_full (outflow : Outflow op outcome q q') {band : Nat}
    (refuses : (Call.mk op outcome q q').refuses band = true) :
    q'.full band = true ∧ q'.wantw band = true := by
  simp only [Call.refuses, Bool.and_eq_true, decide_eq_true_eq] at refuses
  cases outflow with
  | effect untested _ => simp [untested] at refuses
  | @check band' tested check _ =>
      obtain ⟨tested', zero⟩ := refuses
      rw [tested] at tested'
      cases tested'
      have full : q.full band = true := by
        cases isFull : q.full band with
        | true => rfl
        | false => simp [check.result_eq, isFull] at zero
      rw [check.full, check.wantw, full]
      simp

theorem keeps_wantw (outflow : Outflow op outcome q q') {band : Nat}
    (refuses : (Call.mk op outcome q q').refuses band = false)
    (full : q'.full band = true) : q'.wantw band = q.wantw band := by
  cases outflow with
  | effect _ effect => exact effect.wantw band full
  | @check band' tested check _ =>
      rw [check.wantw]
      by_cases here : band = band'
      · subst here
        rw [check.full] at full
        simp [Call.refuses, tested, check.result_eq, full] at refuses
      · simp [here]

theorem asked (outflow : Outflow op outcome q q') (band : Nat) :
    band ∈ outcome.backenable ↔
      q.full band = true ∧ q'.full band = false ∧ q.wantw band = true := by
  cases outflow with
  | effect _ effect => exact effect.asked band
  | check _ check none =>
      rw [none, check.full]
      cases q.full band <;> simp

end Outflow

theorem QState.exec_outflow {s s' : QState} {l : List Entry} {op : Op}
    {outcome : Outcome} {fuel : Nat} (flow : Flow s.q) (holds : Holds s l)
    (legal : op.Legal l) (exec : s.exec fuel op = some (s', outcome)) :
    Outflow op outcome s.q s'.q := by
  cases op with
  | putq mp m mem =>
      simp only [QState.exec, QState.putq, Option.bind_eq_bind,
        Option.bind_eq_some_iff] at exec
      obtain ⟨⟨s₁, result⟩, put, exec⟩ := exec
      cases exec
      have insertion := putqLocked_insertion
        (s := { s with heap := s.heap.setMsg mp m }) flow put
      exact .effect rfl insertion.effect
  | putbq mp m mem =>
      simp only [QState.exec, QState.putbq, Option.bind_eq_bind,
        Option.bind_eq_some_iff] at exec
      obtain ⟨⟨s₁, result⟩, put, exec⟩ := exec
      cases exec
      have insertion := putbqLocked_insertion
        (s := { s with heap := s.heap.setMsg mp m }) flow put
      exact .effect rfl insertion.effect
  | getq =>
      simp only [QState.exec, QState.getq, Option.bind_eq_bind,
        Option.bind_eq_some_iff] at exec
      obtain ⟨⟨s₁, mp, be⟩, got, exec⟩ := exec
      cases exec
      have known : ∀ mp, s.q.qFirst = some mp →
          (s.heap.msg mp).bBand ≤ s.q.qNband := by
        intro mp first
        rw [holds.linked.first_eq] at first
        obtain ⟨e, member, rfl⟩ := List.mem_map.1 (List.mem_of_head? first)
        rw [holds.content e member]
        exact holds.counted.known e member
      have sameMsg : ∀ mp, s₁.heap.msg mp = s.heap.msg mp := by
        cases l with
        | nil =>
            have first : s.q.qFirst = none := holds.linked.first_eq
            simp only [getqLocked, first] at got
            cases got
            exact fun _ => rfl
        | cons e b =>
            obtain ⟨_, _, eq, _, same⟩ := getqLocked_spec holds
            rw [got] at eq
            cases eq
            exact same
      have removal := getqLocked_removal flow known got
      refine .effect rfl ?_
      cases mp with
      | none => exact removal.toEffect
      | some mp =>
          simp only [sameMsg]
          exact removal.toEffect
  | rmvq mp =>
      simp only [QState.exec, QState.rmvq, Option.bind_eq_bind,
        Option.bind_eq_some_iff] at exec
      obtain ⟨⟨s₁, be⟩, removed, exec⟩ := exec
      cases exec
      obtain ⟨e, held, rfl⟩ := List.mem_map.1 legal
      have known := holds.counted.known e held
      rw [← holds.content e held] at known
      have removal := rmvqLocked_removal flow known removed
      obtain ⟨a, b, rfl⟩ := List.append_of_mem held
      obtain ⟨_, _, eq, _, sameMsg⟩ := rmvqLocked_spec holds
      rw [removed] at eq
      cases eq
      refine .effect rfl ?_
      simp only [sameMsg]
      exact removal.toEffect
  | flushq flag =>
      simp only [QState.exec, QState.flushq, Option.bind_eq_bind,
        Option.bind_eq_some_iff] at exec
      obtain ⟨⟨s₁, chain⟩, done, exec⟩ := exec
      cases exec
      have removal := flushqLocked_removal flow holds done
      refine .effect rfl ⟨removal.flow, removal.wantw, ?_⟩
      intro band
      rw [← removal.asked]
      simp only [List.mem_filter, List.mem_range, decide_eq_true_eq,
        and_iff_right_iff_imp]
      intro member
      have full := ((removal.asked band).1 member).1
      exact Nat.lt_succ_of_le (Flow.full_known full)
  | bcanput nfsrv band =>
      simp only [QState.exec, Option.bind_eq_bind, Option.bind_eq_some_iff]
        at exec
      obtain ⟨⟨q, nfsrv', result⟩, tested, exec⟩ := exec
      cases exec
      simp only [Queue.bcanput] at tested
      cases procs : s.q.qProcs with
      | true =>
          simp only [procs, if_true] at tested
          cases tested
          exact .effect (by simp [Op.tested, procs])
            (Removal.refl flow).toEffect
      | false =>
          cases own : s.q.qSrvp || !s.q.qNext with
          | true =>
              obtain ⟨q', result', eq, check⟩ :=
                Queue.bcanputLocked_check flow band
              simp only [procs, Bool.false_eq_true, own, if_true, if_false,
                eq, Option.bind_eq_bind, Option.bind_some] at tested
              cases tested
              exact .check (by simp [Op.tested, procs, own]) check rfl
          | false =>
              simp only [procs, Bool.false_eq_true, own, if_false,
                Option.bind_eq_bind, Option.bind_eq_some_iff] at tested
              obtain ⟨_, _, tested⟩ := tested
              cases tested
              exact .effect (by simp [Op.tested, procs, own])
                (Removal.refl flow).toEffect
  | bcanputnext caller band =>
      simp only [QState.exec, Option.bind_eq_bind, Option.bind_eq_some_iff]
        at exec
      obtain ⟨⟨q, result⟩, tested, q', hq, exec⟩ := exec
      cases exec
      simp only at hq
      subst hq
      simp only [Queue.bcanputnext] at tested
      cases procs : caller.qProcs with
      | true =>
          simp only [procs, if_true] at tested
          cases tested
          exact .effect (by simp [Op.tested, procs])
            (Removal.refl flow).toEffect
      | false =>
          simp only [procs, Bool.false_eq_true, if_false,
            Queue.bcanputnextLocked] at tested
          cases procs' : s.q.qProcs with
          | true =>
              simp only [procs', if_true] at tested
              cases tested
              exact .effect (by simp [Op.tested, procs'])
                (Removal.refl flow).toEffect
          | false =>
              obtain ⟨q', result', eq, check⟩ :=
                Queue.bcanputLocked_check flow band
              simp only [procs', Bool.false_eq_true, if_false, eq,
                Option.bind_eq_bind, Option.bind_some] at tested
              cases tested
              exact .check (by simp [Op.tested, procs, procs']) check rfl

structure Queue.Calm (q : Queue) : Prop where
  full : q.qFull = false
  wantw : q.qWantw = false
  blocked : q.qBlocked = 0
  order : q.qLowat ≤ q.qHiwat
  bands : ∀ qb ∈ q.qBandp, qb.qbFull = false ∧ qb.qbWantw = false ∧
    qb.qbLowat ≤ qb.qbHiwat

theorem Queue.Calm.flow {s : QState} (empty : s.Empty) (calm : s.q.Calm) :
    Flow s.q := by
  refine ⟨empty.nband, ?_, ?_, ?_⟩
  · rw [calm.full, calm.wantw, empty.count]
    exact Marks.clear calm.order
  · intro qb member
    obtain ⟨full, wantw, order⟩ := calm.bands qb member
    simp only [Qband.Marked, full, wantw, (empty.bands qb member).2]
    exact Marks.clear order
  · rw [calm.blocked]
    symm
    rw [List.countP_eq_zero]
    intro qb member
    simp [(calm.bands qb member).1]

namespace Run

variable {start s : QState} {trace : List Call}

theorem flow (empty : start.Empty) (calm : start.q.Calm)
    (run : Run start trace s) : Flow s.q := by
  induction run with
  | nil => exact calm.flow empty
  | step fuel run legal enough exec ih =>
      exact (QState.exec_outflow ih (run.holds empty) legal exec).flow

theorem wantw (empty : start.Empty) (calm : start.q.Calm)
    (run : Run start trace s) (band : Nat) :
    refused band trace = s.q.wantw band ∧
      waiting band trace = s.q.wantw band := by
  induction run with
  | nil =>
      have flow := calm.flow empty
      have clear : start.q.full band = false := by
        unfold Queue.full
        split
        · exact calm.full
        · cases found : start.q.qband? band with
          | none => rfl
          | some qb => exact (calm.bands qb (Queue.qband?_mem found)).1
      rw [flow.wantw_false clear]
      exact ⟨rfl, rfl⟩
  | @step trace s s' op outcome fuel run legal enough exec ih =>
      have flow := run.flow empty calm
      have outflow := QState.exec_outflow flow (run.holds empty) legal exec
      have asked := outflow.asked band
      simp only [refused, waiting, ih.1, ih.2]
      cases refuses : (Call.mk op outcome s.q s'.q).refuses band with
      | true =>
          rw [(outflow.refuses_full refuses).2]
          exact ⟨rfl, rfl⟩
      | false =>
          cases full : s'.q.full band with
          | true =>
              have none : band ∉ outcome.backenable := by
                rw [asked, full]
                simp
              rw [outflow.keeps_wantw refuses full]
              simp [none]
          | false =>
              have wantw' := outflow.flow.wantw_false full
              have unblocked : s.q.wantw band = true →
                  band ∈ outcome.backenable := by
                intro wantw
                exact asked.2 ⟨flow.wantw_full wantw, full, wantw⟩
              rw [wantw']
              cases wantw : s.q.wantw band with
              | false => simp
              | true => simp [unblocked wantw]

end Run

/-- No lost wake-up. -/
theorem flow_control_sound {start s : QState} {trace : List Call}
    (empty : start.Empty) (calm : start.q.Calm) (run : Run start trace s) :
    Flow s.q ∧
      (∀ band, ∃ q', s.q.bcanputLocked band =
        some (q', if s.q.full band then 0 else 1)) ∧
      (∀ nfsrv band, s.q.qProcs = false →
        (s.q.qSrvp = true ∨ s.q.qNext = false) →
        ∃ q', s.q.bcanput nfsrv band =
          some (q', nfsrv, if s.q.full band then 0 else 1)) ∧
      (∀ op fuel s' outcome, op.Legal (specRun trace) →
        s.exec fuel op = some (s', outcome) →
        ∀ band, band ∈ outcome.backenable ↔
          s.q.full band = true ∧ s'.q.full band = false ∧
            refused band trace = true) ∧
      (∀ band, s.q.count band = 0 → waiting band trace = false) := by
  have flow := run.flow empty calm
  have checked : ∀ band, ∃ q', s.q.bcanputLocked band =
      some (q', if s.q.full band then 0 else 1) := by
    intro band
    obtain ⟨q', result, eq, check⟩ := Queue.bcanputLocked_check flow band
    exact ⟨q', by rw [eq, check.result_eq]⟩
  refine ⟨flow, checked, ?_, ?_, ?_⟩
  · intro nfsrv band procs own
    obtain ⟨q', eq⟩ := checked band
    have answers : (s.q.qSrvp || !s.q.qNext) = true := by
      rcases own with srvp | last
      · simp [srvp]
      · simp [last]
    refine ⟨q', ?_⟩
    simp only [Queue.bcanput, procs, Bool.false_eq_true, if_false, answers,
      if_true, eq, Option.bind_eq_bind, Option.bind_some]
  · intro op fuel s' outcome legal exec band
    have outflow := QState.exec_outflow flow (run.holds empty) legal exec
    rw [outflow.asked, (run.wantw empty calm band).1]
  · intro band drained
    rw [(run.wantw empty calm band).2]
    apply flow.wantw_false
    cases full : s.q.full band with
    | false => rfl
    | true =>
        have := flow.full_pos full
        omega

theorem QState.fresh_calm {hiwat lowat : Nat} (order : lowat ≤ hiwat) :
    (QState.fresh hiwat lowat).q.Calm :=
  ⟨rfl, rfl, rfl, order, by simp [QState.fresh]⟩

theorem flow_control_sound_fresh :
    ∃ s outcome, Run (QState.fresh 16 4)
        [⟨.putq 1 ⟨0, M_DATA, [(0, 20)]⟩ 0, outcome, (QState.fresh 16 4).q,
          s.q⟩] s ∧
      s.q.full 0 = true ∧ Flow s.q := by
  have run := @Run.step (QState.fresh 16 4) [] _ _
    (.putq 1 ⟨0, M_DATA, [(0, 20)]⟩ 0) _ 0 .nil (by simp [Op.Legal, specRun])
    (by simp [specRun]) rfl
  refine ⟨_, _, run, rfl, ?_⟩
  exact (flow_control_sound (QState.fresh_empty 16 4)
    (QState.fresh_calm (by decide)) run).1

end OpenSS7.Streams
