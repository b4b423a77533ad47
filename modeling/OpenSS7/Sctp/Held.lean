import OpenSS7.Sctp.Forwarding

/-!
The receive state of an association with partial reliability between chunks,
and that every run keeps it.
-/

namespace OpenSS7.Sctp

open Serial

namespace PrRx

variable {base : Tsn} {rx rx' : PrRx} {dupb : Tsn → Bool} {cb : Cb}
  {passed rest todo : List Cb} {low high p : Int}

theorem Runs.empty_iff {low high : Int} {l : List Cb} {k : Nat}
    (runs : Runs base low high l k) : k = 0 ↔ l = [] := by
  cases runs with
  | nil => simp
  | run => simp

structure Held (base : Tsn) (rx : PrRx) : Prop extends Pointed base rx where
  runs : Runs base rx.count (rx.count + HALF) rx.gaps rx.ngaps
  oooq : rx.oooq.Perm (rx.gaps.map Cb.tsn)

def forwardPlace (rx : PrRx) (m : ForwardTsn) : Int :=
  rx.fsn + ahead m.fTsn rx.pFsn

theorem pushed_eq (rx : PrRx) (istrm : UInt16 → Bool) (m : ForwardTsn) :
    ∃ strm, rx.pushed istrm m = { rx with
      pFsn := m.fTsn
      fsn := rx.forwardPlace m
      strm := strm } := by
  have push : ∀ (words : List (UInt16 × UInt16)) (rx : PrRx),
      ∃ strm, words.foldl (pushSsn istrm) rx = { rx with strm := strm } := by
    intro words
    induction words with
    | nil => exact fun rx => ⟨rx.strm, rfl⟩
    | cons word words ih =>
        intro rx
        obtain ⟨strm, same⟩ := ih (rx.pushSsn istrm word)
        rw [List.foldl_cons, same]
        unfold pushSsn
        simp only
        split
        · exact ⟨strm, rfl⟩
        · exact ⟨strm, rfl⟩
  exact push _ _

theorem forwardPlace_gt (held : Held base rx) {m : ForwardTsn}
    (accepted : rx.accepts m = true) : rx.count < rx.forwardPlace m := by
  unfold accepts at accepted
  simp only [Bool.and_eq_true] at accepted
  have := (after_iff_ahead m.fTsn rx.pFsn).1 accepted.2
  have order := held.order
  unfold forwardPlace
  omega

/-! ### The delivery loop -/

theorem Runs.raised {l : List Cb} {k : Nat}
    (runs : Runs base low high (cb :: l) k) (here : cb.tsn = number base p)
    (above : low < p) (below : p ≤ high) (near : high ≤ low + HALF) :
    Runs base (p - 1) high (cb :: l) k := by
  cases runs with
  | @run _ _ i _ _ body rest above' below' steps last runs =>
      have first : i = p := by
        simp only [HALF] at near
        exact (number_inj base (by omega) (by omega)).1 (steps.1.symm.trans here)
      exact .run (by omega) below' steps last runs

structure Holding (base : Tsn) (rx : PrRx) (passed todo : List Cb) : Prop
    extends Pointed base rx where
  close : rx.fsn < rx.count + HALF
  runs : Runs base rx.count (rx.count + HALF) (passed ++ todo) rx.ngaps
  oooq : rx.oooq.Perm ((passed ++ todo).map Cb.tsn)
  past : ∀ x ∈ passed, ∃ i, x.tsn = number base i ∧ rx.fsn < i ∧
    rx.count + 1 < i ∧ i ≤ rx.count + HALF

theorem Ascends.right {l l' : List Tsn}
    (ascends : Ascends base high low (l ++ l')) : Ascends base high low l' := by
  induction l generalizing low with
  | nil => exact ascends
  | cons tsn l ih =>
      obtain ⟨p, -, above, -, more⟩ := ascends
      exact (ih more).mono above.le

namespace Holding

theorem ready (holding : Holding base rx passed todo) :
    Ready base (rx.count + HALF) rx todo := by
  have whole := Runs.ascends holding.runs
  rw [List.map_append] at whole
  exact ⟨holding.toPointed, whole.right, by simp only [HALF]; omega, le_rfl⟩

variable (holding : Holding base rx passed (cb :: rest))

include holding

theorem pass (here : cb.tsn = number base p) (past : rx.fsn < p)
    (next : rx.count + 1 < p) (below : p ≤ rx.count + HALF) :
    Holding base rx (passed ++ [cb]) rest := by
  refine ⟨holding.toPointed, holding.close, ?_, ?_, fun x member => ?_⟩
  · rw [List.append_assoc]
    exact holding.runs
  · rw [List.append_assoc]
    exact holding.oooq
  · obtain member | member := List.mem_append.1 member
    · exact holding.past x member
    · rw [List.mem_singleton.1 member]
      exact ⟨p, here, past, next, below⟩

theorem up : Holding base { rx with toRx := rx.deliver cb } passed
    ({ cb with deliv := true } :: rest) := by
  obtain ⟨rcvq, expq, queued⟩ := rx.queue_eq false { cb with deliv := true }
  refine ⟨⟨?_, ?_, ?_⟩, ?_, ?_, ?_, ?_⟩ <;> simp only [Rx.deliver, queued]
  · exact holding.ack
  · exact holding.pFsn
  · exact holding.order
  · exact holding.close
  · exact holding.runs.congr (by simp [Cb.shape])
  · simpa using holding.oooq
  · exact holding.past

theorem first (here : cb.tsn = number base p) (above : rx.count < p)
    (below : p ≤ rx.count + HALF) (passes : rx.Passes p) : passed = [] := by
  cases passed with
  | nil => rfl
  | cons x passed =>
      obtain ⟨i, there, beyond, next, under⟩ :=
        holding.past x List.mem_cons_self
      have apart := List.pairwise_cons.1 holding.runs.sorted
      obtain ⟨i', p', there', here', least, order, bound⟩ := apart.1 cb (by simp)
      simp only [HALF] at under bound below
      have same : i = i' := (number_inj base (by omega) (by omega)).1
        (there.symm.trans there')
      have same' : p = p' := (number_inj base (by omega) (by omega)).1
        (here.symm.trans here')
      obtain level | level := passes <;> omega

theorem removed {fsn : Int} (here : cb.tsn = number base p)
    (above : rx.count < p) (below : p ≤ rx.count + HALF)
    (passes : rx.Passes p) (moves : fsn = max rx.fsn p) :
    Holding base ((rx.moved base p fsn).drop cb rest) []
      (Rx.remains cb rest) := by
  obtain rfl := holding.first here above below passes
  have close := holding.close
  refine ⟨⟨rfl, rfl, ?_⟩, ?_, ?_, ?_, nofun⟩
  · change p ≤ fsn
    omega
  · change fsn < p + HALF
    simp only [HALF] at *
    omega
  · change Runs base p (p + HALF) (Rx.remains cb rest)
      (if rest = [] then 0
        else if cb.tsn = cb.tail then rx.ngaps - 1 else rx.ngaps)
    have raised := Runs.raised holding.runs here above below le_rfl
    have pop := raised.pop (by rw [here]; congr 1; omega) (by omega)
    rw [sub_add_cancel] at pop
    unfold Rx.remains
    split at pop
    case isTrue alone =>
      rw [if_pos alone, if_pos alone]
      cases rest with
      | nil => exact .nil
      | cons x rest => exact pop.2.mono le_rfl (by omega)
    case isFalse more =>
      obtain ⟨x, rest', rfl, runs⟩ := pop
      rw [if_neg more, if_neg more, if_neg (by simp)]
      exact runs.mono le_rfl (by omega)
  · change (rx.oooq.erase cb.tsn).Perm ((Rx.remains cb rest).map Cb.tsn)
    rw [remains_tsn]
    have := holding.oooq.erase cb.tsn
    rwa [List.nil_append, List.map_cons, List.erase_cons_head] at this

end Holding

theorem Delivers.holds (delivers : Delivers dupb rx passed todo rx')
    (holding : Holding base rx passed todo) :
    Held base rx' ∧ rx'.fsn < rx'.count + HALF := by
  induction delivers with
  | done =>
      have runs := holding.runs
      have oooq := holding.oooq
      rw [List.append_nil] at runs oooq
      exact ⟨⟨⟨holding.ack, holding.pFsn, holding.order⟩, runs, oooq⟩,
        holding.close⟩
  | wait _ waiting _ ih =>
      obtain ⟨p, here, above, below, -⟩ := holding.ready.first
      have close := holding.close
      have beyond :=
        waits_beyond holding.toPointed close.le here above below waiting
      have order := holding.order
      exact ih (holding.pass here (by omega) (by omega) below)
  | stop =>
      exact ⟨⟨⟨holding.ack, holding.pFsn, holding.order⟩, holding.runs,
        holding.oooq⟩, holding.close⟩
  | up _ _ _ _ ih => exact ih holding.up
  | remove _ behind _ ih =>
      obtain ⟨p, here, above, below, -, ⟨-, beyond, -⟩ | ⟨fsn, moves, -, -, near⟩⟩ :=
        holding.ready.acks
      · rw [beyond] at behind
        cases behind
      · obtain ⟨passes, largest⟩ := near holding.close.le
        rw [moves] at ih
        exact ih (holding.removed here above below passes largest)
  | keep _ beyond _ ih =>
      obtain ⟨p, here, above, below, -, ⟨stays, -, apart⟩ | ⟨fsn, -, behind, -⟩⟩ :=
        holding.ready.acks
      · rw [stays] at ih
        have blocked := apart holding.close.le
        have next : p ≠ _ := fun same => blocked (.inl same)
        refine ih (holding.pass here ?_ (by omega) below)
        by_contra under
        exact blocked (.inr (by omega))
      · rw [beyond] at behind
        cases behind

/-! ### Chunks taken in -/

structure Steady (base : Tsn) (rx : PrRx) : Prop extends Held base rx where
  close : rx.fsn < rx.count + HALF

theorem Steady.sctpDeliverData (steady : Steady base rx) (dupb : Tsn → Bool) :
    Steady base (rx.sctpDeliverData dupb) := by
  have holds := (rx.sctpDeliverData_delivers dupb).holds
    ⟨steady.toPointed, steady.close, steady.runs, steady.oooq, nofun⟩
  exact ⟨holds.1, holds.2⟩

theorem Steady.aside (steady : Steady base rx) {receiving : Bool}
    {heard : List Int} {dups rcvq expq : List Cb} {ndups : Nat} :
    Steady base { rx with
      receiving := receiving
      heard := heard
      dups := dups
      ndups := ndups
      rcvq := rcvq
      expq := expq } :=
  ⟨⟨⟨steady.ack, steady.pFsn, steady.order⟩, steady.runs, steady.oooq⟩,
    steady.close⟩

theorem Steady.fast (steady : Steady base rx) {m : Data}
    (next : m.tsn = rx.rAck + 1) (empty : rx.oooq = []) :
    Steady base { rx with toRx := rx.fast m }.pushFsn := by
  obtain ⟨rcvq, expq, queued⟩ :=
    (rx.hear m).queue_eq true { Rx.control m with deliv := true }
  have gaps : rx.gaps = [] := by
    have oooq := steady.oooq
    rw [empty] at oooq
    exact List.map_eq_nil_iff.1 oooq.nil_eq.symm
  have ngaps : rx.ngaps = 0 := (Runs.empty_iff steady.runs).2 gaps
  obtain ⟨fsn, moved, order, near⟩ := @advance_moved base
    { rx with toRx := (rx.hear m).queue true { Rx.control m with deliv := true } }
    (by
      rw [queued]
      exact ⟨steady.ack, steady.pFsn, steady.order⟩)
  have close := steady.close
  change Steady base (advance { rx with
    toRx := (rx.hear m).queue true { Rx.control m with deliv := true } })
  rw [moved]
  rw [queued] at order near ⊢
  have same := near close.le
  change fsn = max rx.fsn (rx.count + 1) at same
  refine ⟨⟨⟨rfl, rfl, order⟩, ?_, ?_⟩, ?_⟩
  · change Runs base (rx.count + 1) (rx.count + 1 + HALF) rx.gaps rx.ngaps
    rw [gaps, ngaps]
    exact .nil
  · exact steady.oooq
  · change fsn < rx.count + 1 + HALF
    simp only [HALF] at *
    omega

theorem Steady.take (steady : Steady base rx) (m : Data) :
    Steady base (rx.take m).1 := by
  unfold PrRx.take
  simp only
  split
  case isTrue first =>
    have taken : rx.toRx.take m = (rx.fast m, true) := by
      unfold Rx.take
      simp only
      rw [if_pos first]
      rfl
    rw [taken]
    exact steady.fast first.1 first.2
  case isFalse other =>
    have taken := rx.take_taken m
    generalize rx.toRx.take m = out at taken ⊢
    cases taken with
    | fast next empty => exact absurd ⟨next, empty⟩ other
    | repeated known => exact steady.aside
    | accepted beyond placed found =>
        have here : (Rx.control m).tsn = number base (rx.place m.tsn) :=
          (Rx.number_place steady.ack m.tsn).symm
        have fits := placeGap_spec steady.runs le_rfl here rfl
          ((rx.after_iff_place m.tsn).1 beyond) (rx.place_le m.tsn) (by omega)
        rw [found] at fits
        obtain ⟨⟨k, runs, counted⟩, blocks, -⟩ := fits
        have count : placed.ngaps = k := by omega
        refine ⟨⟨⟨steady.ack, steady.pFsn, steady.order⟩, ?_, ?_⟩, steady.close⟩
        · change Runs base rx.count _ placed.gaps placed.ngaps
          rw [count]
          exact runs
        · change (bufqInsert rx.oooq m.tsn placed.before).Perm
            (placed.gaps.map Cb.tsn)
          refine (Rx.bufqInsert_perm _ _ _).trans ?_
          have tsns := blocks.map Cb.tsn
          rw [List.map_map, List.map_cons, List.map_map] at tsns
          exact (steady.oooq.cons m.tsn).trans tsns.symm

theorem Steady.takeAll {newd : Bool} {chunks : List Chunk}
    (steady : Steady base rx) : Steady base (rx.takeAll newd chunks).1 := by
  induction chunks generalizing rx newd with
  | nil => exact steady
  | cons chunk chunks ih =>
      cases chunk with
      | otherType => exact steady
      | badSize => exact steady
      | data m =>
          rw [PrRx.takeAll]
          split
          case isTrue => exact steady.aside
          case isFalse =>
            split
            case isTrue => exact ih steady
            case isFalse =>
              split
              case isTrue => exact steady
              case isFalse => exact ih (steady.take m)

theorem Steady.forward (steady : Steady base rx) {istrm : UInt16 → Bool}
    {m : ForwardTsn} (near : rx.accepts m = true →
      before m.fTsn rx.rAck = false) :
    Steady base (rx.sctpRecvForwardTsn istrm dupb m) := by
  unfold sctpRecvForwardTsn
  split
  case isFalse => exact steady
  case isTrue accepted =>
    obtain ⟨strm, pushed⟩ := rx.pushed_eq istrm m
    have newer := forwardPlace_gt steady.toHeld accepted
    have there : m.fTsn = number base (rx.forwardPlace m) := by
      rw [forwardPlace, steady.pFsn]
      exact (number_ahead base m.fTsn rx.fsn).symm
    have close : rx.forwardPlace m < rx.count + HALF := by
      have behind := near accepted
      have far := ahead_le m.fTsn rx.pFsn
      have level := steady.close
      have ahead : rx.forwardPlace m = rx.fsn + ahead m.fTsn rx.pFsn := rfl
      by_contra beyond
      simp only [HALF] at beyond level
      -- the number is read as one from behind
      have round := number_add_width base (rx.forwardPlace m - 2 ^ 32)
      rw [sub_add_cancel] at round
      rw [there, steady.ack, round,
        (before_iff base (by omega) (by omega)).2 (by omega)] at behind
      cases behind
    simp only
    split
    case isTrue none =>
      rw [pushed] at none ⊢
      have empty := (Runs.empty_iff steady.runs).1 none
      refine ⟨⟨⟨there, there, le_rfl⟩, ?_, steady.oooq⟩, ?_⟩
      · change Runs base (rx.forwardPlace m) _ rx.gaps rx.ngaps
        rw [empty, show rx.ngaps = 0 from none]
        exact .nil
      · change rx.forwardPlace m < rx.forwardPlace m + HALF
        simp only [HALF]
        omega
    case isFalse some =>
      refine Steady.sctpDeliverData ?_ dupb
      rw [pushed]
      exact ⟨⟨⟨steady.ack, there, newer.le⟩, steady.runs, steady.oooq⟩, close⟩

def Event.near (rx : PrRx) : Event → Prop
  | .forward _ _ m => rx.accepts m = true → before m.fTsn rx.rAck = false
  | _ => True

theorem Steady.handle (steady : Steady base rx) (event : Event)
    (near : event.near rx) : Steady base (rx.handle event) := by
  cases event with
  | packet dupb chunks =>
      simp only [PrRx.handle, sctpRecvData]
      split
      case isTrue => exact steady
      case isFalse =>
        have whole : Steady base (rx.takeAll false chunks).1 := steady.takeAll
        split
        case isTrue => exact whole.sctpDeliverData dupb
        case isFalse => exact whole
  | forward istrm dupb m => exact steady.forward near
  | sack => exact steady.aside
  | readNormal => exact steady.aside
  | readExpedited => exact steady.aside

theorem Steady.initial (rAck : Tsn) (nIstr : UInt16) (aRwnd : Nat) :
    Steady rAck (initial rAck nIstr aRwnd) :=
  ⟨⟨⟨(number_zero rAck).symm, (number_zero rAck).symm, le_rfl⟩, .nil, .nil⟩,
    show (0 : Int) < 0 + HALF by decide⟩

end PrRx

end OpenSS7.Sctp
