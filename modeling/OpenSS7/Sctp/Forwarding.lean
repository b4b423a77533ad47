import OpenSS7.Sctp.Forward

/-!
How far FORWARD-TSN moves the cumulative point: past what has been given up and
what follows, when no gap is left or the new point itself is held, and short of
it otherwise.
-/

namespace OpenSS7.Sctp

open Serial

namespace PrRx

variable {base : Tsn} {rx rx' : PrRx} {dupb : Tsn → Bool} {cb : Cb}
  {passed rest todo : List Cb} {tsn : Tsn} {low high p : Int}

/-! ### The steps of the delivery loop -/

inductive Delivers (dupb : Tsn → Bool) :
    PrRx → List Cb → List Cb → PrRx → Prop
  | done {rx : PrRx} {passed : List Cb} :
      Delivers dupb rx passed [] { rx with gaps := passed }
  | wait {rx rx' : PrRx} {passed rest : List Cb} {cb : Cb} :
      cb.deliv = false → rx.waits cb = true →
      Delivers dupb rx (passed ++ [cb]) rest rx' →
      Delivers dupb rx passed (cb :: rest) rx'
  | stop {rx : PrRx} {passed rest : List Cb} {cb : Cb} :
      cb.deliv = false → rx.waits cb = false → dupb cb.tsn = false →
      Delivers dupb rx passed (cb :: rest)
        { rx with gaps := passed ++ cb :: rest }
  | up {rx rx' : PrRx} {passed rest : List Cb} {cb : Cb} :
      cb.deliv = false → rx.waits cb = false → dupb cb.tsn = true →
      Delivers dupb { rx with toRx := rx.deliver cb } passed
        ({ cb with deliv := true } :: rest) rx' →
      Delivers dupb rx passed (cb :: rest) rx'
  | remove {rx rx' : PrRx} {passed rest : List Cb} {cb : Cb} :
      cb.deliv = true → after cb.tsn (rx.ackTo cb.tsn).rAck = false →
      Delivers dupb ((rx.ackTo cb.tsn).drop cb rest) [] (Rx.remains cb rest)
        rx' →
      Delivers dupb rx passed (cb :: rest) rx'
  | keep {rx rx' : PrRx} {passed rest : List Cb} {cb : Cb} :
      cb.deliv = true → after cb.tsn (rx.ackTo cb.tsn).rAck = true →
      Delivers dupb (rx.ackTo cb.tsn) (passed ++ [cb]) rest rx' →
      Delivers dupb rx passed (cb :: rest) rx'

theorem deliverFrom_delivers (patch : Option Tsn) :
    Delivers dupb rx passed (Rx.patched patch todo)
      (rx.deliverFrom dupb passed patch todo) := by
  induction todo generalizing rx passed patch with
  | nil => exact .done
  | cons cb rest ih =>
      rw [Rx.patched, deliverFrom]
      generalize { cb with tail := patch.getD cb.tail } = cb
      have onward : ∀ {rx : PrRx} {cb : Cb}, cb.deliv = true →
          Delivers dupb rx passed (cb :: rest)
            (if !after cb.tsn (rx.ackTo cb.tsn).rAck then
              ((rx.ackTo cb.tsn).drop cb rest).deliverFrom dupb []
                (if cb.tsn = cb.tail then none else some cb.tail) rest
            else (rx.ackTo cb.tsn).deliverFrom dupb (passed ++ [cb]) none
              rest) := by
        intro rx cb delivered
        cases behind : after cb.tsn (rx.ackTo cb.tsn).rAck with
        | false =>
            refine .remove delivered behind ?_
            have := @ih ((rx.ackTo cb.tsn).drop cb rest) []
              (if cb.tsn = cb.tail then none else some cb.tail)
            simp only [Bool.not_false, if_true]
            unfold Rx.remains
            split at this
            case isTrue alone =>
              rw [Rx.patched_none] at this
              rwa [if_pos alone, if_pos alone]
            case isFalse more => rwa [if_neg more, if_neg more]
        | true =>
            refine .keep delivered behind ?_
            have := @ih (rx.ackTo cb.tsn) (passed ++ [cb]) none
            rwa [Rx.patched_none] at this
      simp only
      cases delivered : cb.deliv with
      | true =>
          have same : { cb with deliv := true } = cb := by rw [← delivered]
          simp only [Bool.not_true, Bool.false_and, Bool.false_eq_true,
            if_false, if_true, same]
          exact onward delivered
      | false =>
          cases waiting : rx.waits cb with
          | true =>
              simp only [Bool.not_false, Bool.true_and, if_true]
              refine .wait delivered waiting ?_
              have := @ih rx (passed ++ [cb]) none
              rwa [Rx.patched_none] at this
          | false =>
              simp only [Bool.not_false, Bool.true_and, Bool.false_eq_true,
                if_false]
              cases granted : dupb cb.tsn with
              | false => exact .stop delivered waiting granted
              | true => exact .up delivered waiting granted (onward rfl)

theorem sctpDeliverData_delivers (rx : PrRx) (dupb : Tsn → Bool) :
    Delivers dupb rx [] rx.gaps (rx.sctpDeliverData dupb) := by
  have whole := @deliverFrom_delivers rx dupb [] rx.gaps none
  rwa [Rx.patched_none] at whole

/-! ### The cumulative point -/

/-- `r_ack` and `p_fsn` are at their places, in order. -/
structure Pointed (base : Tsn) (rx : PrRx) : Prop where
  ack : rx.rAck = number base rx.count
  pFsn : rx.pFsn = number base rx.fsn
  order : rx.count ≤ rx.fsn

def moved (rx : PrRx) (base : Tsn) (count fsn : Int) : PrRx :=
  { rx with
    rAck := number base count
    count := count
    pFsn := number base fsn
    fsn := fsn }

/-- The block is the next one or is not beyond `p_fsn`. -/
def Passes (rx : PrRx) (p : Int) : Prop := p = rx.count + 1 ∨ p ≤ rx.fsn

theorem advance_eq (rx : PrRx) : rx.advance =
    if before rx.pFsn (rx.rAck + 1) then
      { rx with
        rAck := rx.rAck + 1
        count := rx.count + 1
        pFsn := rx.rAck + 1
        fsn := rx.count + 1 }
    else { rx with rAck := rx.rAck + 1, count := rx.count + 1 } := rfl

theorem advance_moved (pointed : Pointed base rx) :
    ∃ fsn, rx.advance = rx.moved base (rx.count + 1) fsn ∧
      rx.count + 1 ≤ fsn ∧
      (rx.fsn ≤ rx.count + HALF → fsn = max rx.fsn (rx.count + 1)) := by
  obtain ⟨ack, pFsn, order⟩ := pointed
  have next : rx.rAck + 1 = number base (rx.count + 1) := by
    rw [ack, number_succ]
  have push : rx.fsn ≤ rx.count + HALF →
      (before rx.pFsn (rx.rAck + 1) = true ↔ rx.fsn < rx.count + 1) := by
    intro near
    simp only [HALF] at near
    rw [pFsn, next]
    exact before_iff base (by omega) (by omega)
  rw [advance_eq]
  obtain behind | level := Bool.eq_false_or_eq_true
    (before rx.pFsn (rx.rAck + 1))
  · rw [if_pos behind]
    refine ⟨_, by simp only [PrRx.moved, next], le_rfl, fun near => ?_⟩
    have := (push near).1 behind
    omega
  · rw [if_neg (ne_true_of_eq_false level)]
    have above : rx.count + 1 ≤ rx.fsn := by
      by_contra below
      have close : rx.fsn ≤ rx.count + HALF := by
        simp only [HALF]
        omega
      rw [(push close).2 (by omega)] at level
      cases level
    refine ⟨rx.fsn, ?_, above, fun _ => by omega⟩
    simp only [PrRx.moved, next, ← pFsn]

theorem ackTo_cases (pointed : Pointed base rx) (here : tsn = number base p)
    (above : rx.count < p) (below : p ≤ rx.count + HALF) :
    (rx.ackTo tsn = rx ∧ (rx.fsn ≤ rx.count + HALF → ¬rx.Passes p)) ∨
      ∃ fsn, rx.ackTo tsn = rx.moved base p fsn ∧ p ≤ fsn ∧
        (rx.fsn ≤ rx.count + HALF → rx.Passes p ∧ fsn = max rx.fsn p) := by
  have next : tsn = rx.rAck + 1 ↔ p = rx.count + 1 := by
    rw [pointed.ack, ← number_succ, here]
    simp only [HALF] at below
    exact number_inj base (by omega) (by omega)
  have beyond : after tsn rx.rAck = true := by
    rw [here, pointed.ack]
    simp only [HALF] at below
    exact (after_iff base (by omega) (by omega)).2 above
  have skipped : rx.fsn ≤ rx.count + HALF →
      (after tsn rx.pFsn = true ↔ rx.fsn < p) := by
    intro near
    have order := pointed.order
    simp only [HALF] at near below
    rw [here, pointed.pFsn]
    exact after_iff base (by omega) (by omega)
  unfold ackTo
  split
  case isTrue first =>
    obtain ⟨fsn, moved, order, near⟩ := advance_moved pointed
    rw [next] at first
    rw [← first] at moved order near
    exact .inr ⟨fsn, moved, order, fun close => ⟨.inl first, near close⟩⟩
  case isFalse other =>
    rw [next] at other
    cases seen : after tsn rx.pFsn with
    | true =>
        refine .inl ⟨by simp, fun close passes => ?_⟩
        have := (skipped close).1 seen
        obtain first | under := passes <;> omega
    | false =>
        have place : rx.place tsn = p := by
          rw [here]
          exact Rx.place_number pointed.ack above below
        have under : p ≤ rx.fsn := by
          by_contra past
          have close : rx.fsn ≤ rx.count + HALF := by omega
          rw [(skipped close).2 (by omega)] at seen
          cases seen
        refine .inr ⟨rx.fsn, ?_, under, fun _ => ⟨.inr under, by omega⟩⟩
        rw [beyond, Bool.not_false, Bool.and_true, if_pos rfl, skipTo, place]
        simp only [moved, here, ← pointed.pFsn]

@[simp] theorem ackTo_put (rx : PrRx) (tsn : Tsn) :
    (rx.ackTo tsn).put = rx.put := by
  unfold ackTo
  rw [advance_eq]
  split
  · split <;> rfl
  · split <;> rfl

theorem remains_tsn (cb : Cb) (rest : List Cb) :
    (Rx.remains cb rest).map Cb.tsn = rest.map Cb.tsn := by
  have := congrArg (List.map Cb.tsn) (Rx.remains_core cb rest)
  rwa [List.map_map, List.map_map] at this

theorem Delivers.puts (delivers : Delivers dupb rx passed todo rx') :
    ∃ new, rx'.put = rx.put ++ new ∧ ∀ x ∈ new, x.cb.tsn ∈ todo.map Cb.tsn := by
  induction delivers with
  | done => exact ⟨[], by simp, nofun⟩
  | wait _ _ _ ih =>
      obtain ⟨new, put, source⟩ := ih
      exact ⟨new, put, fun x member => List.mem_cons_of_mem _ (source x member)⟩
  | stop => exact ⟨[], by simp, nofun⟩
  | @up rx rx' passed rest cb _ _ _ _ ih =>
      obtain ⟨new, put, source⟩ := ih
      obtain ⟨rcvq, expq, queued⟩ := rx.queue_eq false { cb with deliv := true }
      refine ⟨⟨rx.place cb.tsn, false, { cb with deliv := true }⟩ :: new, ?_, ?_⟩
      · rw [put]
        simp [Rx.deliver, queued]
      · intro x member
        obtain rfl | member := List.mem_cons.1 member
        · exact List.mem_cons_self
        · exact source x member
  | @remove rx rx' passed rest cb _ _ _ ih =>
      obtain ⟨new, put, source⟩ := ih
      refine ⟨new, ?_, fun x member => ?_⟩
      · rw [put]
        exact congrArg (· ++ new) (rx.ackTo_put cb.tsn)
      · have := source x member
        rw [remains_tsn] at this
        exact List.mem_cons_of_mem _ this
  | @keep rx _ _ _ cb _ _ _ ih =>
      obtain ⟨new, put, source⟩ := ih
      refine ⟨new, by rw [put, rx.ackTo_put cb.tsn], fun x member => ?_⟩
      exact List.mem_cons_of_mem _ (source x member)

/-! ### Blocks in order -/

def Ascends (base : Tsn) (high : Int) : Int → List Tsn → Prop
  | _, [] => True
  | low, tsn :: rest =>
      ∃ p, tsn = number base p ∧ low < p ∧ p ≤ high ∧ Ascends base high p rest

theorem Ascends.mono {low' : Int} {l : List Tsn}
    (ascends : Ascends base high low l) (lower : low' ≤ low) :
    Ascends base high low' l := by
  cases l with
  | nil => trivial
  | cons tsn rest =>
      obtain ⟨p, here, above, below, more⟩ := ascends
      exact ⟨p, here, by omega, below, more⟩

theorem Ascends.mem {l : List Tsn} (ascends : Ascends base high low l)
    (member : tsn ∈ l) : ∃ p, tsn = number base p ∧ low < p ∧ p ≤ high := by
  induction l generalizing low with
  | nil => cases member
  | cons x rest ih =>
      obtain ⟨p, here, above, below, more⟩ := ascends
      obtain rfl | member := List.mem_cons.1 member
      · exact ⟨p, here, above, below⟩
      · obtain ⟨q, there, past, under⟩ := ih more member
        exact ⟨q, there, by omega, under⟩

theorem Ascends.place {l : List Tsn} (ascends : Ascends base high low l)
    (near : high ≤ low + HALF) (above : low - HALF < p)
    (below : p ≤ high + HALF) (member : number base p ∈ l) :
    low < p ∧ p ≤ high := by
  obtain ⟨q, here, past, under⟩ := ascends.mem member
  simp only [HALF] at near above below
  have := (number_inj base (by omega) (by omega)).1 here
  omega

theorem Steps.ascends {l : List Cb} {i : Int} {more : List Tsn}
    (steps : Steps base i l) (above : low < i) (below : i + l.length - 1 ≤ high)
    (ascends : Ascends base high (i + l.length - 1) more) :
    Ascends base high low (l.map Cb.tsn ++ more) := by
  induction l generalizing i low with
  | nil => exact ascends.mono (by simp only [List.length_nil]; omega)
  | cons cb rest ih =>
      simp only [List.length_cons] at below ascends
      push_cast at below ascends
      refine ⟨i, steps.1, above, by omega, ih steps.2 (by omega) (by omega) ?_⟩
      exact ascends.mono (by omega)

theorem Runs.ascends {l : List Cb} {k : Nat} (runs : Runs base low high l k) :
    Ascends base high low (l.map Cb.tsn) := by
  induction runs with
  | nil => trivial
  | @run low high i k head body rest above below steps _ _ ih =>
      rw [← List.cons_append, List.map_append]
      refine Steps.ascends steps above ?_ (ih.mono ?_)
      · simp only [List.length_cons]
        push_cast
        omega
      · simp only [List.length_cons]
        push_cast
        omega

/-! ### The loop on blocks in order -/

structure Ready (base : Tsn) (high : Int) (rx : PrRx) (todo : List Cb) :
    Prop extends Pointed base rx where
  ascends : Ascends base high rx.count (todo.map Cb.tsn)
  level : rx.count ≤ high
  near : high ≤ rx.count + HALF

namespace Ready

variable (ready : Ready base high rx (cb :: rest))

include ready

theorem first : ∃ p, cb.tsn = number base p ∧ rx.count < p ∧ p ≤ high ∧
    Ascends base high p (rest.map Cb.tsn) := ready.ascends

theorem later : Ready base high rx rest := by
  obtain ⟨p, -, above, -, more⟩ := ready.first
  exact ⟨ready.toPointed, more.mono (by omega), ready.level, ready.near⟩

theorem up : Ready base high { rx with toRx := rx.deliver cb }
    ({ cb with deliv := true } :: rest) := by
  obtain ⟨rcvq, expq, queued⟩ := rx.queue_eq false { cb with deliv := true }
  refine ⟨⟨?_, ?_, ?_⟩, ?_, ?_, ?_⟩ <;> simp only [Rx.deliver, queued]
  · exact ready.ack
  · exact ready.pFsn
  · exact ready.order
  · exact ready.ascends
  · exact ready.level
  · exact ready.near

theorem acks : ∃ p, cb.tsn = number base p ∧ rx.count < p ∧ p ≤ high ∧
    Ascends base high p (rest.map Cb.tsn) ∧
    (rx.ackTo cb.tsn = rx ∧
        after cb.tsn (rx.ackTo cb.tsn).rAck = true ∧
        (rx.fsn ≤ rx.count + HALF → ¬rx.Passes p) ∨
      ∃ fsn, rx.ackTo cb.tsn = rx.moved base p fsn ∧
        after cb.tsn (rx.ackTo cb.tsn).rAck = false ∧ p ≤ fsn ∧
        (rx.fsn ≤ rx.count + HALF → rx.Passes p ∧ fsn = max rx.fsn p)) := by
  obtain ⟨p, here, above, below, more⟩ := ready.first
  have near := ready.near
  refine ⟨p, here, above, below, more, ?_⟩
  obtain ⟨stays, apart⟩ | ⟨fsn, moves, order, close⟩ :=
    ackTo_cases ready.toPointed here above (by omega)
  · refine .inl ⟨stays, ?_, apart⟩
    rw [stays, here, ready.ack]
    simp only [HALF] at near
    exact (after_iff base (by omega) (by omega)).2 above
  · refine .inr ⟨fsn, moves, ?_, order, close⟩
    rw [moves, here]
    simp [moved, after]

end Ready

theorem Ready.removed {fsn : Int} (cb : Cb) (near : high ≤ rx.count + HALF)
    (above : rx.count < p) (below : p ≤ high) (order : p ≤ fsn)
    (more : Ascends base high p (rest.map Cb.tsn)) :
    Ready base high ((rx.moved base p fsn).drop cb rest)
      (Rx.remains cb rest) := by
  refine ⟨⟨rfl, rfl, order⟩, ?_, below, ?_⟩
  · rw [remains_tsn]
    exact more
  · change high ≤ p + HALF
    omega

theorem Delivers.bounds (delivers : Delivers dupb rx passed todo rx')
    (ready : Ready base high rx todo) :
    rx.count ≤ rx'.count ∧ rx'.count ≤ high ∧ Pointed base rx' := by
  induction delivers with
  | done =>
      exact ⟨le_rfl, ready.level, ready.ack, ready.pFsn, ready.order⟩
  | wait _ _ _ ih => exact ih ready.later
  | stop =>
      exact ⟨le_rfl, ready.level, ready.ack, ready.pFsn, ready.order⟩
  | @up rx _ _ _ cb _ _ _ _ ih =>
      obtain ⟨rcvq, expq, queued⟩ := rx.queue_eq false { cb with deliv := true }
      have bounds := ih ready.up
      simpa only [Rx.deliver, queued] using bounds
  | remove _ behind _ ih =>
      obtain ⟨p, -, above, below, more, ⟨-, beyond, -⟩ | ⟨fsn, moves, -, order, -⟩⟩ :=
        ready.acks
      · rw [beyond] at behind
        cases behind
      · rw [moves] at ih
        obtain ⟨low, high, pointed⟩ :=
          ih (.removed _ ready.near above below order more)
        exact ⟨above.le.trans low, high, pointed⟩
  | keep _ beyond _ ih =>
      obtain ⟨p, -, -, -, -, ⟨stays, -, -⟩ | ⟨fsn, -, behind, -, -⟩⟩ := ready.acks
      · rw [stays] at ih
        exact ih ready.later
      · rw [beyond] at behind
        cases behind

theorem Delivers.still (delivers : Delivers dupb rx passed todo rx')
    (pointed : Pointed base rx) (close : rx.fsn ≤ rx.count + HALF)
    (ascends : Ascends base high low (todo.map Cb.tsn))
    (near : high ≤ rx.count + HALF) (next : rx.count + 1 ≤ low)
    (skipped : rx.fsn ≤ low) :
    rx'.count = rx.count ∧ rx'.gaps.map Cb.tsn = (passed ++ todo).map Cb.tsn := by
  induction delivers generalizing low with
  | done => simp
  | wait _ _ _ ih =>
      obtain ⟨p, -, above, -, more⟩ := ascends
      simpa using ih pointed close (more.mono above.le) near next skipped
  | stop => simp
  | @up rx _ _ _ cb _ _ _ _ ih =>
      obtain ⟨rcvq, expq, queued⟩ := rx.queue_eq false { cb with deliv := true }
      simp only [Rx.deliver, queued] at ih
      simpa using ih ⟨pointed.ack, pointed.pFsn, pointed.order⟩ close ascends
        near next skipped
  | @remove rx _ _ _ cb _ behind _ ih =>
      obtain ⟨p, here, above, below, more⟩ := ascends
      obtain ⟨stays, -⟩ | ⟨fsn, -, -, passes⟩ :=
        ackTo_cases pointed here (by omega) (by omega)
      · rw [stays, here, pointed.ack] at behind
        simp only [HALF] at near
        rw [(after_iff base (by omega) (by omega)).2 (by omega)] at behind
        cases behind
      · obtain ⟨first | under, -⟩ := passes close <;> omega
  | @keep rx _ _ _ cb _ beyond _ ih =>
      obtain ⟨p, here, above, below, more⟩ := ascends
      obtain ⟨stays, -⟩ | ⟨fsn, -, -, passes⟩ :=
        ackTo_cases pointed here (by omega) (by omega)
      · rw [stays] at ih
        simpa using ih pointed close (more.mono above.le) near next skipped
      · obtain ⟨first | under, -⟩ := passes close <;> omega

/-! ### Where the cumulative point comes to -/

/-- A place up to `p_fsn`, or joined to it by what is held. -/
def Joined (base : Tsn) (fsn : Int) (todo : List Cb) (p : Int) : Prop :=
  p ≤ fsn ∨ ∀ i, fsn < i → i ≤ p → number base i ∈ todo.map Cb.tsn

def Deliverable (dupb : Tsn → Bool) (cb : Cb) : Prop :=
  cb.deliv = true ∨ dupb cb.tsn = true

/-- The next block does not look as if it lay beyond `p_fsn + 1`: the two may
be half of the numbers apart. -/
def Clear (base : Tsn) (rx : PrRx) (todo : List Cb) : Prop :=
  ∀ cb ∈ todo.head?, cb.tsn = number base (rx.count + 1) → cb.deliv = false →
    rx.waits cb = false

theorem waits_beyond (pointed : Pointed base rx)
    (close : rx.fsn ≤ rx.count + HALF) (here : cb.tsn = number base p)
    (above : rx.count < p) (below : p ≤ rx.count + HALF)
    (waiting : rx.waits cb = true) :
    rx.fsn + 1 < p ∨ p = rx.count + 1 ∧ rx.fsn = rx.count + HALF := by
  have order := pointed.order
  by_cases opposite : p = rx.count + 1 ∧ rx.fsn = rx.count + HALF
  · exact .inr opposite
  · refine .inl ?_
    unfold waits at waiting
    simp only [Bool.and_eq_true] at waiting
    have beyond := waiting.1
    rw [here, pointed.pFsn, ← number_succ] at beyond
    simp only [HALF] at close below opposite
    exact (after_iff base (by omega) (by omega)).1 beyond

/-- The cumulative point has come to the end of the run from `p_fsn` on. -/
structure Caught (base : Tsn) (high : Int) (rx : PrRx) (todo : List Cb)
    (rx' : PrRx) : Prop where
  reached : rx.fsn ≤ rx'.count
  run : ∀ i, rx.fsn < i → i ≤ rx'.count → number base i ∈ todo.map Cb.tsn
  missing : number base (rx'.count + 1) ∉ todo.map Cb.tsn
  gone : ∀ cb ∈ todo, ∀ p, cb.tsn = number base p → rx.count < p →
    p ≤ rx'.count → cb.deliv = true ∨
      ∃ x ∈ rx'.put.drop rx.put.length, x.cb.tsn = cb.tsn
  kept : ∃ l, todo.map Cb.tsn = l ++ rx'.gaps.map Cb.tsn ∧
    Ascends base rx'.count rx.count l ∧
    Ascends base high rx'.count (rx'.gaps.map Cb.tsn)

theorem Caught.still (delivers : Delivers dupb rx [] todo rx')
    (ready : Ready base high rx todo) (level : rx.fsn = rx.count)
    (apart : Ascends base high (rx.count + 1) (todo.map Cb.tsn)) :
    Caught base high rx todo rx' := by
  have near := ready.near
  obtain ⟨count, gaps⟩ := delivers.still ready.toPointed
    (by simp only [HALF]; omega) apart near le_rfl (by omega)
  rw [List.nil_append] at gaps
  refine ⟨by omega, fun i past under => by omega, fun next => ?_, ?_,
    [], ?_, trivial, ?_⟩
  · rw [count] at next
    have := apart.place (by omega) (by simp only [HALF]; omega)
      (by have := ready.level; simp only [HALF]; omega) next
    omega
  · intro cb member p here above under
    omega
  · rw [gaps, List.nil_append]
  · rw [gaps, count]
    exact ready.ascends

theorem Ready.apart (ready : Ready base high rx (cb :: rest))
    (here : cb.tsn = number base p) (above : rx.count < p) (below : p ≤ high)
    (more : Ascends base high p (rest.map Cb.tsn)) (blocked : ¬rx.Passes p) :
    Ascends base high (p - 1) ((cb :: rest).map Cb.tsn) ∧
      rx.count + 1 ≤ p - 1 ∧ rx.fsn ≤ p - 1 ∧
      (number base rx.fsn ∉ (cb :: rest).map Cb.tsn) := by
  have near := ready.near
  have order := ready.order
  have whole : Ascends base high (p - 1) ((cb :: rest).map Cb.tsn) :=
    ⟨p, here, by omega, below, more⟩
  have other : rx.count + 1 ≠ p := fun same => blocked (.inl same.symm)
  have past : rx.fsn < p := by
    by_contra under
    exact blocked (.inr (by omega))
  refine ⟨whole, by omega, by omega, fun member => ?_⟩
  have := whole.place (by omega) (by omega)
    (by have := ready.level; simp only [HALF] at *; omega) member
  omega

theorem Caught.blocked (delivers : Delivers dupb rx [] (cb :: rest) rx')
    (ready : Ready base high rx (cb :: rest)) (here : cb.tsn = number base p)
    (above : rx.count < p) (below : p ≤ high)
    (more : Ascends base high p (rest.map Cb.tsn)) (blocked : ¬rx.Passes p)
    (held : rx.fsn = rx.count ∨ number base rx.fsn ∈ (cb :: rest).map Cb.tsn) :
    Caught base high rx (cb :: rest) rx' := by
  obtain ⟨whole, next, -, other⟩ := ready.apart here above below more blocked
  exact .still delivers ready (held.resolve_right other) (whole.mono next)

theorem Caught.up
    (caught : Caught base high { rx with toRx := rx.deliver cb }
      ({ cb with deliv := true } :: rest) rx')
    (delivers : Delivers dupb { rx with toRx := rx.deliver cb } passed
      ({ cb with deliv := true } :: rest) rx') :
    Caught base high rx (cb :: rest) rx' := by
  obtain ⟨rcvq, expq, queued⟩ := rx.queue_eq false { cb with deliv := true }
  obtain ⟨new, put, -⟩ := delivers.puts
  simp only [Rx.deliver, queued] at caught put
  refine ⟨caught.reached, caught.run, caught.missing, ?_, caught.kept⟩
  have drop : rx'.put.drop rx.put.length =
      ⟨rx.place cb.tsn, false, { cb with deliv := true }⟩ :: new := by
    rw [put, List.append_assoc, List.drop_left]
    rfl
  intro x member p here above under
  obtain rfl | member := List.mem_cons.1 member
  · exact .inr ⟨_, drop ▸ List.mem_cons_self, rfl⟩
  · obtain delivered | ⟨y, later, same⟩ := caught.gone x
      (List.mem_cons_of_mem _ member) p here above under
    · exact .inl delivered
    · rw [put, List.drop_left] at later
      exact .inr ⟨y, drop ▸ List.mem_cons_of_mem _ later, same⟩

theorem mem_of_core {l l' : List Cb} {x : Cb}
    (same : l.map Cb.core = l'.map Cb.core) (member : x ∈ l) :
    ∃ y ∈ l', y.tsn = x.tsn ∧ y.deliv = x.deliv := by
  have core : x.core ∈ l'.map Cb.core := by
    rw [← same]
    exact List.mem_map_of_mem member
  obtain ⟨y, kept, equal⟩ := List.mem_map.1 core
  have tsn : y.core.tsn = x.core.tsn := by rw [equal]
  have deliv : y.core.deliv = x.core.deliv := by rw [equal]
  exact ⟨y, kept, tsn, deliv⟩

theorem Caught.removed {fsn : Int}
    (caught : Caught base high ((rx.moved base p fsn).drop cb rest)
      (Rx.remains cb rest) rx')
    (ready : Ready base high rx (cb :: rest)) (delivered : cb.deliv = true)
    (here : cb.tsn = number base p) (above : rx.count < p)
    (more : Ascends base high p (rest.map Cb.tsn))
    (passes : rx.Passes p) (moves : fsn = max rx.fsn p)
    (below : p ≤ rx'.count) (bound : rx'.count ≤ high) :
    Caught base high rx (cb :: rest) rx' := by
  obtain ⟨reached, run, missing, gone, l, kept, behind, ahead⟩ := caught
  have near := ready.near
  have order := ready.order
  rw [remains_tsn] at kept missing run
  change fsn ≤ rx'.count at reached
  change ∀ i, fsn < i → _ at run
  change ∀ x ∈ Rx.remains cb rest, ∀ q, x.tsn = number base q → p < q → _
    at gone
  refine ⟨by omega, fun i past under => ?_, fun next => ?_, ?_,
    cb.tsn :: l, ?_, ⟨p, here, above, below, behind⟩, ahead⟩
  · by_cases first : i = p
    · rw [List.map_cons, here, first]
      exact List.mem_cons_self
    · refine List.mem_cons_of_mem _ (run i ?_ under)
      obtain next | under := passes <;> omega
  · obtain same | next := List.mem_cons.1 next
    · rw [here] at same
      simp only [HALF] at near
      have := (number_inj base (by omega) (by omega)).1 same
      omega
    · exact missing next
  · intro x member q there past under
    obtain rfl | member := List.mem_cons.1 member
    · exact .inl delivered
    · obtain ⟨y, kept, same, delivered⟩ := 
        mem_of_core (Rx.remains_core cb rest).symm member
      obtain ⟨q', there', past', under'⟩ :=
        more.mem (List.mem_map_of_mem member)
      have : q = q' := by
        simp only [HALF] at near
        exact (number_inj base (by omega) (by omega)).1 (there.symm.trans there')
      have := gone y kept q (same.trans there) (by omega) under
      rw [same, delivered] at this
      exact this
  · rw [List.map_cons, kept, List.cons_append]

theorem Passes.joined (passes : rx.Passes p) (order : rx.count ≤ rx.fsn)
    (here : cb.tsn = number base p) :
    Joined base rx.fsn (cb :: rest) p := by
  by_cases under : p ≤ rx.fsn
  · exact .inl under
  · refine .inr fun i past below => ?_
    obtain first | under' := passes
    · rw [show i = p by omega, ← here]
      exact List.mem_cons_self
    · exact absurd under' under

theorem Joined.behind {q : Int} (joined : Joined base (max rx.fsn p) rest q)
    (passes : rx.Passes p) (order : rx.count ≤ rx.fsn)
    (here : cb.tsn = number base p) : Joined base rx.fsn (cb :: rest) q := by
  obtain under | run := joined
  · by_cases first : q ≤ rx.fsn
    · exact .inl first
    · refine .inr fun i past below => ?_
      obtain next | under' := passes
      · rw [show i = p by omega, ← here]
        exact List.mem_cons_self
      · omega
  · refine .inr fun i past below => ?_
    by_cases first : i = p
    · rw [first, ← here]
      exact List.mem_cons_self
    · refine List.mem_cons_of_mem _ (run i ?_ below)
      obtain next | under' := passes <;> omega

theorem Joined.ahead {q : Int} (joined : Joined base rx.fsn (cb :: rest) q)
    (ready : Ready base high rx (cb :: rest)) (here : cb.tsn = number base p)
    (above : rx.count < p) (below : p ≤ high) (bound : q ≤ high) :
    Joined base (max rx.fsn p) rest q := by
  have near := ready.near
  have order := ready.order
  obtain under | run := joined
  · exact .inl (by omega)
  · by_cases first : q ≤ max rx.fsn p
    · exact .inl first
    · refine .inr fun i past under => ?_
      obtain same | member := List.mem_cons.1 (run i (by omega) under)
      · rw [here] at same
        simp only [HALF] at near
        have := (number_inj base (by omega) (by omega)).1 same
        omega
      · exact member

theorem Clear.blocked (clear : Clear base rx (cb :: rest))
    (ready : Ready base high rx (cb :: rest))
    (close : rx.fsn ≤ rx.count + HALF) (here : cb.tsn = number base p)
    (above : rx.count < p) (below : p ≤ high) (undelivered : cb.deliv = false)
    (waiting : rx.waits cb = true) : ¬rx.Passes p := by
  have near := ready.near
  have order := ready.order
  have next : p ≠ rx.count + 1 := by
    rintro rfl
    have := clear cb rfl here undelivered
    rw [waiting] at this
    cases this
  have beyond :=
    waits_beyond ready.toPointed close here above (by omega) waiting
  rintro (first | under) <;> omega

theorem Clear.removed {fsn : Int} {l : List Cb} (close : rx.fsn ≤ rx.count + HALF)
    (above : rx.count < p) (moves : fsn = max rx.fsn p) :
    Clear base ((rx.moved base p fsn).drop cb rest) l := by
  intro x _ next _
  cases waiting : ((rx.moved base p fsn).drop cb rest).waits x with
  | false => rfl
  | true =>
      have pointed : Pointed base ((rx.moved base p fsn).drop cb rest) :=
        ⟨rfl, rfl, by change p ≤ fsn; omega⟩
      have near : fsn ≤ p + HALF := by
        simp only [HALF] at *
        omega
      have beyond := waits_beyond pointed near next (by omega)
        (by simp only [HALF]; omega) waiting
      change fsn + 1 < p + 1 ∨ p + 1 = p + 1 ∧ fsn = p + HALF at beyond
      simp only [HALF] at *
      omega

/-- What has to be held and deliverable for the point to come to `p_fsn` and to
leave nothing next to it. -/
structure Needs (base : Tsn) (high : Int) (dupb : Tsn → Bool) (rx : PrRx)
    (todo : List Cb) : Prop where
  held : rx.fsn = rx.count ∨ number base rx.fsn ∈ todo.map Cb.tsn
  able : ∀ cb ∈ todo, ∀ p, cb.tsn = number base p → rx.count < p →
    p ≤ high → Joined base rx.fsn todo p → Deliverable dupb cb

theorem Needs.up_iff (granted : dupb cb.tsn = true) :
    Needs base high dupb { rx with toRx := rx.deliver cb }
        ({ cb with deliv := true } :: rest) ↔
      Needs base high dupb rx (cb :: rest) := by
  obtain ⟨rcvq, expq, queued⟩ := rx.queue_eq false { cb with deliv := true }
  constructor
  · rintro ⟨held, able⟩
    simp only [Rx.deliver, queued] at held able
    refine ⟨held, fun x member p here above below joined => ?_⟩
    obtain rfl | member := List.mem_cons.1 member
    · exact .inr granted
    · exact able x (List.mem_cons_of_mem _ member) p here above below joined
  · rintro ⟨held, able⟩
    refine ⟨?_, fun x member p here above below joined => ?_⟩
    · simp only [Rx.deliver, queued]
      exact held
    · simp only [Rx.deliver, queued] at above joined
      obtain rfl | member := List.mem_cons.1 member
      · exact .inl rfl
      · exact able x (List.mem_cons_of_mem _ member) p here above below joined

section Removed

variable {fsn : Int} (ready : Ready base high rx (cb :: rest))
  (close : rx.fsn ≤ rx.count + HALF) (here : cb.tsn = number base p)
  (above : rx.count < p) (below : p ≤ high)
  (more : Ascends base high p (rest.map Cb.tsn)) (passes : rx.Passes p)
  (moves : fsn = max rx.fsn p)

include ready here above below passes moves

theorem held_removed (close : rx.fsn ≤ rx.count + HALF) :
    (rx.fsn = rx.count ∨ number base rx.fsn ∈ (cb :: rest).map Cb.tsn) ↔
      fsn = p ∨ number base fsn ∈ rest.map Cb.tsn := by
  have near := ready.near
  have order := ready.order
  have first : number base rx.fsn = cb.tsn ↔ rx.fsn = p := by
    rw [here]
    simp only [HALF] at near close
    exact number_inj base (by omega) (by omega)
  rw [List.map_cons, List.mem_cons, first]
  by_cases past : rx.fsn ≤ p
  · have same : fsn = p := by omega
    refine iff_of_true ?_ (.inl same)
    obtain next | under := passes <;> omega
  · have same : fsn = rx.fsn := by omega
    rw [same]
    refine or_congr (by omega) (or_iff_right (by omega))

include close more in
theorem Needs.removed_iff (delivered : cb.deliv = true) :
    Needs base high dupb ((rx.moved base p fsn).drop cb rest)
        (Rx.remains cb rest) ↔
      Needs base high dupb rx (cb :: rest) := by
  have order := ready.order
  have near := ready.near
  have core := Rx.remains_core cb rest
  have held := held_removed ready here above below passes moves close
  have joined : ∀ q, Joined base fsn (Rx.remains cb rest) q ↔
      Joined base (max rx.fsn p) rest q := by
    intro q
    unfold Joined
    rw [remains_tsn, moves]
  constructor
  · rintro ⟨held', able⟩
    change fsn = p ∨ number base fsn ∈ (Rx.remains cb rest).map Cb.tsn at held'
    change ∀ x ∈ Rx.remains cb rest, ∀ q, x.tsn = number base q → p < q →
      q ≤ high → Joined base fsn _ q → _ at able
    rw [remains_tsn] at held'
    refine ⟨held.2 held', fun x member q there past under run => ?_⟩
    obtain rfl | member := List.mem_cons.1 member
    · exact .inl delivered
    · obtain ⟨y, kept, same, deliv⟩ := mem_of_core core.symm member
      obtain ⟨q', there', past', under'⟩ :=
        more.mem (List.mem_map_of_mem member)
      have equal : q = q' := by
        simp only [HALF] at near
        exact (number_inj base (by omega) (by omega)).1 (there.symm.trans there')
      have := able y kept q (same.trans there) (by omega) under
        ((joined q).2 (run.ahead ready here above below under))
      unfold Deliverable at this
      rwa [same, deliv] at this
  · rintro ⟨held', able⟩
    refine ⟨?_, fun x member q there past under run => ?_⟩
    · change fsn = p ∨ number base fsn ∈ (Rx.remains cb rest).map Cb.tsn
      rw [remains_tsn]
      exact held.1 held'
    · change p < q at past
      change Joined base fsn _ q at run
      obtain ⟨y, kept, same, deliv⟩ := mem_of_core core member
      have := able y (List.mem_cons_of_mem _ kept) q (same.trans there)
        (by omega) under (((joined q).1 run).behind passes order here)
      unfold Deliverable at this
      rwa [same, deliv] at this

end Removed

theorem Clear.up : Clear base { rx with toRx := rx.deliver cb }
    ({ cb with deliv := true } :: rest) := by
  rintro x first - fresh
  obtain rfl : { cb with deliv := true } = x := Option.some.inj first
  cases fresh

theorem Delivers.catches (delivers : Delivers dupb rx passed todo rx')
    (alone : passed = []) (ready : Ready base high rx todo)
    (close : rx.fsn ≤ rx.count + HALF) (clear : Clear base rx todo)
    (needs : Needs base high dupb rx todo) : Caught base high rx todo rx' := by
  induction delivers with
  | done =>
      subst alone
      exact .still (@Delivers.done dupb _ _) ready
        (needs.held.resolve_right (by simp)) trivial
  | @wait rx rx' passed rest cb undelivered waiting inner _ =>
      subst alone
      obtain ⟨p, here, above, below, more⟩ := ready.first
      exact .blocked (.wait undelivered waiting inner) ready here above below
        more (clear.blocked ready close here above below undelivered waiting)
        needs.held
  | @stop rx passed rest cb undelivered waiting refused =>
      subst alone
      obtain ⟨p, here, above, below, more⟩ := ready.first
      refine .blocked (.stop undelivered waiting refused) ready here above below
        more (fun passes => ?_) needs.held
      obtain delivered | granted := needs.able cb List.mem_cons_self p here
        above below (passes.joined ready.order here)
      · rw [undelivered] at delivered
        cases delivered
      · rw [refused] at granted
        cases granted
  | @up rx rx' passed rest cb undelivered waiting granted inner ih =>
      refine Caught.up (ih alone ready.up ?_ .up ((Needs.up_iff granted).2 needs))
        inner
      obtain ⟨rcvq, expq, queued⟩ := rx.queue_eq false { cb with deliv := true }
      simpa only [Rx.deliver, queued] using close
  | @remove rx rx' passed rest cb delivered behind inner ih =>
      obtain ⟨p, here, above, below, more, ⟨-, beyond, -⟩ | ⟨fsn, moves, -, -, passed⟩⟩ :=
        ready.acks
      · rw [beyond] at behind
        cases behind
      · obtain ⟨passes, largest⟩ := passed close
        rw [moves] at ih inner
        have after := Ready.removed cb ready.near above below
          (largest ▸ le_max_right _ _) more
        obtain ⟨low, bound, -⟩ := inner.bounds after
        refine Caught.removed (ih rfl after ?_ (.removed close above largest) ?_)
          ready delivered here above more passes largest low bound
        · change fsn ≤ p + HALF
          simp only [HALF] at *
          omega
        · exact (Needs.removed_iff ready close here above below more passes
            largest delivered).2 needs
  | @keep rx rx' passed rest cb delivered beyond inner ih =>
      subst alone
      obtain ⟨p, here, above, below, more, ⟨-, -, blocked⟩ | ⟨fsn, -, behind, -⟩⟩ :=
        ready.acks
      · exact .blocked (.keep delivered beyond inner) ready here above below more
          (blocked close) needs.held
      · rw [beyond] at behind
        cases behind

theorem Needs.blocked (delivers : Delivers dupb rx passed (cb :: rest) rx')
    (ready : Ready base high rx (cb :: rest))
    (close : rx.fsn ≤ rx.count + HALF) (here : cb.tsn = number base p)
    (above : rx.count < p) (below : p ≤ high)
    (more : Ascends base high p (rest.map Cb.tsn)) (blocked : ¬rx.Passes p)
    (reached : rx.fsn ≤ rx'.count) :
    Needs base high dupb rx (cb :: rest) := by
  obtain ⟨whole, next, under, -⟩ := ready.apart here above below more blocked
  have order := ready.order
  have near := ready.near
  obtain ⟨count, -⟩ := delivers.still ready.toPointed close whole near next under
  refine ⟨.inl (by omega), fun x member q there past bound joined => ?_⟩
  obtain level | run := joined
  · omega
  · have member := run (rx.count + 1) (by omega) (by omega)
    simp only [HALF] at near close
    have := whole.place (by simp only [HALF]; omega)
      (by simp only [HALF]; omega) (by simp only [HALF]; omega) member
    omega

theorem Delivers.needs (delivers : Delivers dupb rx passed todo rx')
    (ready : Ready base high rx todo) (close : rx.fsn ≤ rx.count + HALF)
    (clear : Clear base rx todo) (reached : rx.fsn ≤ rx'.count)
    (missing : number base (rx'.count + 1) ∉ todo.map Cb.tsn) :
    Needs base high dupb rx todo := by
  induction delivers with
  | done =>
      have order := ready.order
      exact ⟨.inl (by simp only at reached; omega), nofun⟩
  | @wait rx rx' passed rest cb undelivered waiting inner _ =>
      obtain ⟨p, here, above, below, more⟩ := ready.first
      exact .blocked (.wait undelivered waiting inner) ready close here above
        below more
        (clear.blocked ready close here above below undelivered waiting) reached
  | @stop rx passed rest cb undelivered waiting refused =>
      obtain ⟨p, here, above, below, more⟩ := ready.first
      refine .blocked (.stop undelivered waiting refused) ready close here above
        below more ?_ reached
      rintro (next | under)
      · refine missing ?_
        rw [← next, ← here]
        exact List.mem_cons_self
      · simp only at reached
        omega
  | @up rx rx' passed rest cb undelivered waiting granted inner ih =>
      obtain ⟨rcvq, expq, queued⟩ := rx.queue_eq false { cb with deliv := true }
      refine (Needs.up_iff granted).1 (ih ready.up ?_ .up ?_ missing)
      · simpa only [Rx.deliver, queued] using close
      · simpa only [Rx.deliver, queued] using reached
  | @remove rx rx' passed rest cb delivered behind inner ih =>
      obtain ⟨p, here, above, below, more, ⟨-, beyond, -⟩ | ⟨fsn, moves, -, -, passed⟩⟩ :=
        ready.acks
      · rw [beyond] at behind
        cases behind
      · obtain ⟨passes, largest⟩ := passed close
        rw [moves] at ih inner
        have after := Ready.removed cb ready.near above below
          (largest ▸ le_max_right _ _) more
        obtain ⟨low, bound, -⟩ := inner.bounds after
        change p ≤ rx'.count at low
        refine (Needs.removed_iff ready close here above below more passes
          largest delivered).1 (ih after ?_ (.removed close above largest) ?_ ?_)
        · change fsn ≤ p + HALF
          simp only [HALF] at *
          omega
        · change fsn ≤ rx'.count
          omega
        · rw [remains_tsn]
          exact fun member => missing (List.mem_cons_of_mem _ member)
  | @keep rx rx' passed rest cb delivered beyond inner ih =>
      obtain ⟨p, here, above, below, more, ⟨-, -, blocked⟩ | ⟨fsn, -, behind, -⟩⟩ :=
        ready.acks
      · exact .blocked (.keep delivered beyond inner) ready close here above below
          more (blocked close) reached
      · rw [beyond] at behind
        cases behind

end PrRx

end OpenSS7.Sctp
