import OpenSS7.Sctp.GapList

/-!
What the receiver has heard, against its cumulative point, its gap list and
the queues towards the user: what one chunk does, what the delivery loop does,
and what every run keeps.
-/

namespace OpenSS7.Sctp

open Serial

variable {base : Tsn} {rx : Rx} {m : Data} {cb : Cb} {tsn : Tsn} {i : Int}
  {passed rest todo : List Cb}

namespace Rx

/-! ### A chunk taken in -/

def hear (rx : Rx) (m : Data) : Rx :=
  { rx with heard := rx.heard ++ [rx.place m.tsn] }

def accept (rx : Rx) (m : Data) (placed : Placed) : Rx :=
  { rx.hear m with
    gaps := placed.gaps
    ngaps := placed.ngaps
    oooq := bufqInsert rx.oooq m.tsn placed.before
    oooqCount := rx.oooqCount + m.dlen
    nunds := rx.nunds + 1 }

def repeated (rx : Rx) (m : Data) : Rx :=
  { rx.hear m with dups := control m :: rx.dups, ndups := rx.ndups + 1 }

def fast (rx : Rx) (m : Data) : Rx :=
  ((rx.hear m).queue true { control m with deliv := true }).advance

inductive Taken (rx : Rx) (m : Data) : Rx × Bool → Prop
  | fast (next : m.tsn = rx.rAck + 1) (empty : rx.oooq = []) :
      Taken rx m (rx.fast m, true)
  | repeated (known : after m.tsn rx.rAck = true →
        placeGap (control m) rx.ngaps none rx.gaps = none) :
      Taken rx m (rx.repeated m, false)
  | accepted (beyond : after m.tsn rx.rAck = true) (placed : Placed)
        (found : placeGap (control m) rx.ngaps none rx.gaps = some placed) :
      Taken rx m (rx.accept m placed, true)

theorem take_taken (rx : Rx) (m : Data) : Taken rx m (rx.take m) := by
  unfold take
  simp only
  split
  case isTrue next => exact .fast next.1 next.2
  case isFalse =>
    split
    case isTrue old =>
      refine .repeated fun beyond => ?_
      simp [beyond] at old
    case isFalse beyond =>
      split
      case h_1 found => exact .repeated fun _ => found
      case h_2 placed found =>
        refine .accepted ?_ placed found
        simpa using beyond

/-! ### The delivery loop -/

def patched (patch : Option Tsn) : List Cb → List Cb
  | [] => []
  | cb :: rest => { cb with tail := patch.getD cb.tail } :: rest

@[simp] theorem patched_none (l : List Cb) : patched none l = l := by
  cases l <;> rfl

def drop (rx : Rx) (cb : Cb) (rest : List Cb) : Rx :=
  { rx.advance.unlink cb.tsn with
    ngaps :=
      if rest = [] then 0
      else if cb.tsn = cb.tail then rx.ngaps - 1 else rx.ngaps }

def remains (cb : Cb) (rest : List Cb) : List Cb :=
  if cb.tsn = cb.tail then rest else patched (some cb.tail) rest

structure Loop (P : Rx → List Cb → List Cb → Prop) : Prop where
  beyond : ∀ {rx passed cb rest}, P rx passed (cb :: rest) →
    after cb.tsn rx.rAck = true
  wait : ∀ {rx passed cb rest}, P rx passed (cb :: rest) →
    cb.deliv = false → rx.waits cb = true → P rx (passed ++ [cb]) rest
  up : ∀ {rx passed cb rest}, P rx passed (cb :: rest) →
    cb.deliv = false → rx.waits cb = false →
    P (rx.deliver cb) passed ({ cb with deliv := true } :: rest)
  keep : ∀ {rx passed cb rest}, P rx passed (cb :: rest) →
    cb.deliv = true → cb.tsn ≠ rx.rAck + 1 → P rx (passed ++ [cb]) rest
  drop : ∀ {rx passed cb rest}, P rx passed (cb :: rest) →
    cb.deliv = true → cb.tsn = rx.rAck + 1 →
    P (rx.drop cb rest) [] (remains cb rest)

def passOn (rx : Rx) (passed : List Cb) (cb : Cb) (rest : List Cb) : Rx :=
  if cb.tsn = rx.rAck + 1 then
    (rx.drop cb rest).deliverFrom []
      (if cb.tsn = cb.tail then none else some cb.tail) rest
  else rx.deliverFrom (passed ++ [cb]) none rest

theorem passOn_eq (beyond : after cb.tsn rx.rAck = true) :
    (let rx := if cb.tsn = rx.rAck + 1 then rx.advance else rx
    if !after cb.tsn rx.rAck then
      let alone := cb.tsn = cb.tail
      let ngaps :=
        if rest = [] then 0 else if alone then rx.ngaps - 1 else rx.ngaps
      { rx.unlink cb.tsn with ngaps := ngaps }.deliverFrom []
        (if alone then none else some cb.tail) rest
    else rx.deliverFrom (passed ++ [cb]) none rest) =
      rx.passOn passed cb rest := by
  unfold passOn
  by_cases next : cb.tsn = rx.rAck + 1
  · have reached : after cb.tsn rx.advance.rAck = false := by
      simp [after, advance, next]
    simp only [if_pos next, reached, Bool.not_false, if_true]
    rfl
  · simp only [if_neg next, beyond, Bool.not_true, Bool.false_eq_true,
      if_false]

theorem Loop.run {P : Rx → List Cb → List Cb → Prop} (loop : Loop P)
    {patch : Option Tsn} (start : P rx passed (patched patch todo)) :
    ∃ rx' kept, rx.deliverFrom passed patch todo =
      { rx' with gaps := kept } ∧ P rx' kept [] := by
  induction todo generalizing rx passed patch with
  | nil => exact ⟨rx, passed, rfl, start⟩
  | cons cb rest ih =>
      have onward : ∀ {rx : Rx} {cb : Cb}, P rx passed (cb :: rest) →
          cb.deliv = true → ∃ rx' kept,
            rx.passOn passed cb rest = { rx' with gaps := kept } ∧
              P rx' kept [] := by
        intro rx cb here delivered
        unfold passOn
        by_cases next : cb.tsn = rx.rAck + 1
        · rw [if_pos next]
          apply ih
          have after := loop.drop here delivered next
          unfold remains at after
          split at after
          case isTrue alone => rwa [if_pos alone, patched_none]
          case isFalse more => rwa [if_neg more]
        · rw [if_neg next]
          apply ih
          rw [patched_none]
          exact loop.keep here delivered next
      rw [patched] at start
      rw [deliverFrom]
      generalize { cb with tail := patch.getD cb.tail } = cb at start ⊢
      simp only
      cases delivered : cb.deliv with
      | true =>
          have whole := onward start delivered
          rw [← passOn_eq (loop.beyond start)] at whole
          have same : { cb with deliv := true } = cb := by
            rw [← delivered]
          simp only [Bool.not_true, Bool.false_and, Bool.false_eq_true,
            if_false, if_true]
          rw [same]
          exact whole
      | false =>
          cases waiting : rx.waits cb with
          | true =>
              simp only [Bool.not_false, Bool.true_and, if_true]
              apply ih
              rw [patched_none]
              exact loop.wait start delivered waiting
          | false =>
              have next := loop.up start delivered waiting
              have whole := onward next rfl
              rw [← passOn_eq (loop.beyond next)] at whole
              simp only [Bool.not_false, Bool.true_and, Bool.false_eq_true,
                if_false]
              exact whole

/-! ### What is kept -/

structure Tracks (base : Tsn) (rx : Rx) : Prop where
  start : 0 ≤ rx.count
  ack : rx.rAck = number base rx.count
  runs : Runs base rx.count (rx.count + HALF) rx.gaps rx.ngaps
  held : ∀ i, rx.count < i →
    (i ∈ rx.heard ↔ i ∈ rx.gaps.map fun cb => rx.place cb.tsn)
  behind : ∀ i, 0 < i → i ≤ rx.count → i ∈ rx.heard
  nunds : rx.nunds = rx.gaps.countP fun cb => !cb.deliv
  ndups : rx.ndups = rx.dups.length
  oooq : rx.oooq.Perm (rx.gaps.map Cb.tsn)
  once : (rx.put.map Put.place).Nodup
  named : ∀ p ∈ rx.put, p.cb.tsn = number base p.place
  puts : ∀ i, i ∈ rx.put.map Put.place ↔ 0 < i ∧ i ≤ rx.count ∨
    ∃ cb ∈ rx.gaps, cb.deliv = true ∧ rx.place cb.tsn = i

def Settled (rx : Rx) : Prop := ∀ cb ∈ rx.gaps, cb.tsn ≠ rx.rAck + 1

theorem place_le (rx : Rx) (tsn : Tsn) : rx.place tsn ≤ rx.count + HALF := by
  have := ahead_le tsn rx.rAck
  simp only [place, HALF]
  omega

theorem after_iff_place (rx : Rx) (tsn : Tsn) :
    after tsn rx.rAck = true ↔ rx.count < rx.place tsn := by
  rw [after_iff_ahead, place]
  omega

section Place

variable (ack : rx.rAck = number base rx.count)

include ack

theorem number_place (tsn : Tsn) : number base (rx.place tsn) = tsn := by
  rw [place, ack]
  exact number_ahead base tsn rx.count

theorem place_number (above : rx.count < i) (below : i ≤ rx.count + HALF) :
    rx.place (number base i) = i := by
  simp only [HALF] at below
  rw [place, ack, ahead, toInt_number_sub base (by omega) (by omega)]
  omega

theorem place_next : rx.place (rx.rAck + 1) = rx.count + 1 := by
  rw [ack, ← number_succ]
  exact place_number ack (by omega) (by simp only [HALF]; omega)

theorem place_inj {tsn' : Tsn} :
    rx.place tsn = rx.place tsn' ↔ tsn = tsn' := by
  refine ⟨fun same => ?_, fun same => same ▸ rfl⟩
  rw [← number_place ack tsn, same, number_place ack]

theorem place_advance (beyond : rx.count + 1 < rx.place tsn) :
    rx.advance.place tsn = rx.place tsn := by
  have next : rx.advance.rAck = number base rx.advance.count := by
    simp only [advance, ack, number_succ]
  have below := rx.place_le tsn
  calc rx.advance.place tsn
      = rx.advance.place (number base (rx.place tsn)) := by
        rw [number_place ack]
    _ = rx.place tsn := by
        apply place_number next
        · exact beyond
        · simp only [advance]
          omega

end Place

theorem queue_eq (rx : Rx) (early : Bool) (cb : Cb) :
    ∃ rcvq expq, rx.queue early cb = { rx with
      put := rx.put ++ [⟨rx.place cb.tsn, early, cb⟩]
      rcvq := rcvq
      expq := expq } := by
  unfold queue
  simp only
  split
  · exact ⟨_, _, rfl⟩
  · exact ⟨_, _, rfl⟩

theorem bufqInsert_perm (q : List Tsn) (tsn : Tsn) (before : Option Tsn) :
    (bufqInsert q tsn before).Perm (tsn :: q) := by
  cases before with
  | none => exact List.perm_append_singleton tsn q
  | some head =>
      refine List.perm_middle.trans ?_
      rw [List.takeWhile_append_dropWhile]

namespace Tracks

variable (tracks : Tracks base rx)

include tracks

theorem aside {receiving : Bool} {dups rcvq expq : List Cb}
    {ndups oooqCount : Nat} {strm : UInt16 → Strm}
    (counted : ndups = dups.length) :
    Tracks base { rx with
      receiving := receiving
      dups := dups
      ndups := ndups
      oooqCount := oooqCount
      rcvq := rcvq
      expq := expq
      strm := strm } :=
  ⟨tracks.start, tracks.ack, tracks.runs, tracks.held, tracks.behind,
    tracks.nunds, counted, tracks.oooq, tracks.once, tracks.named,
    tracks.puts⟩

theorem beyond (member : cb ∈ rx.gaps) : rx.count < rx.place cb.tsn := by
  obtain ⟨i, above, below, here⟩ := tracks.runs.mem member
  rw [here, place_number tracks.ack above below]
  exact above

theorem empty (none : rx.oooq = []) : rx.gaps = [] ∧ rx.ngaps = 0 := by
  have gaps : rx.gaps = [] := by
    have := tracks.oooq
    rw [none] at this
    exact List.map_eq_nil_iff.1 this.nil_eq.symm
  refine ⟨gaps, ?_⟩
  have runs := tracks.runs
  rw [gaps] at runs
  generalize rx.ngaps = k at runs
  cases runs
  rfl

theorem fast (next : m.tsn = rx.rAck + 1) (none : rx.oooq = []) :
    Tracks base (rx.fast m) := by
  obtain ⟨gaps, ngaps⟩ := tracks.empty none
  have here : rx.place m.tsn = rx.count + 1 := by
    rw [next, place_next tracks.ack]
  obtain ⟨rcvq, expq, queued⟩ :=
    (rx.hear m).queue_eq true { control m with deliv := true }
  have putAt : (rx.hear m).place (control m).tsn = rx.count + 1 := here
  have old := tracks.puts
  simp only [gaps, List.not_mem_nil, false_and, exists_false, or_false] at old
  have start := tracks.start
  unfold Rx.fast
  rw [queued, putAt]
  refine ⟨?_, ?_, ?_, ?_, ?_, ?_, tracks.ndups, ?_, ?_, ?_, ?_⟩ <;>
    simp only [hear, advance, gaps, ngaps, here]
  · omega
  · rw [tracks.ack, number_succ]
  · exact .nil
  · intro i above
    have := tracks.held i (by omega)
    simp only [gaps, List.map_nil, List.not_mem_nil, iff_false] at this ⊢
    simp only [List.mem_append, List.mem_singleton, this, false_or]
    omega
  · intro i positive bound
    have := tracks.behind i positive
    simp only [List.mem_append, List.mem_singleton]
    by_cases last : i = rx.count + 1
    · exact .inr last
    · exact .inl (this (by omega))
  · have := tracks.nunds
    rwa [gaps] at this
  · have := tracks.oooq
    rwa [gaps] at this
  · rw [List.map_append, List.map_singleton, List.nodup_append]
    refine ⟨tracks.once, by simp, ?_⟩
    intro i member j last same
    simp only [List.mem_singleton] at last
    have := (old i).1 member
    omega
  · intro p member
    rcases List.mem_append.1 member with earlier | last
    · exact tracks.named p earlier
    · rw [List.mem_singleton.1 last, number_succ, ← tracks.ack]
      exact next
  · intro i
    simp only [List.map_append, List.map_singleton, List.mem_append,
      List.mem_singleton, old, List.not_mem_nil, false_and, exists_false,
      or_false]
    omega

theorem repeated (known : after m.tsn rx.rAck = true →
      ∃ x ∈ rx.gaps, x.tsn = m.tsn) :
    Tracks base (rx.repeated m) := by
  have whole : Tracks base (rx.hear m) := by
    refine { tracks with held := ?_, behind := ?_ }
    · intro i above
      have := tracks.held i above
      simp only [hear, List.mem_append, List.mem_singleton, this]
      refine ⟨?_, .inl⟩
      rintro (held | rfl)
      · exact held
      · obtain ⟨x, member, same⟩ :=
          known ((rx.after_iff_place m.tsn).2 above)
        exact List.mem_map.2 ⟨x, member, by rw [same]; rfl⟩
    · intro i positive bound
      exact List.mem_append_left _ (tracks.behind i positive bound)
  exact whole.aside (congrArg (· + 1) tracks.ndups)

theorem accept {placed : Placed} (beyond : after m.tsn rx.rAck = true)
    (placing : Extends base rx.count (rx.count + HALF) (control m) rx.gaps
      rx.ngaps rx.ngaps placed) :
    Tracks base (rx.accept m placed) := by
  obtain ⟨⟨k, runs, counted⟩, blocks, -⟩ := placing
  have count : placed.ngaps = k := by omega
  have above := (rx.after_iff_place m.tsn).1 beyond
  have tsns : (placed.gaps.map Cb.tsn).Perm (m.tsn :: rx.gaps.map Cb.tsn) := by
    have := blocks.map Cb.tsn
    rw [List.map_cons, List.map_map, List.map_map] at this
    exact this
  have marked : ∀ p : Cb → Bool, (∀ cb, p cb.core = p cb) →
      placed.gaps.countP p = (control m :: rx.gaps).countP p := by
    intro p same
    have := blocks.countP_eq p
    have whole : p ∘ Cb.core = p := funext same
    rw [← List.map_cons, List.countP_map, List.countP_map, whole] at this
    exact this
  refine ⟨tracks.start, tracks.ack, ?_, ?_, ?_, ?_, tracks.ndups, ?_,
    tracks.once, tracks.named, ?_⟩
  · rw [← count] at runs
    exact runs
  · intro i counted
    have old := tracks.held i counted
    have places : i ∈ _ ↔ i ∈ _ := (tsns.map rx.place).mem_iff
    simp only [List.map_map, List.map_cons, List.mem_cons] at places
    change i ∈ rx.heard ++ [rx.place m.tsn] ↔
      i ∈ placed.gaps.map (rx.place ∘ Cb.tsn)
    rw [places, List.mem_append, List.mem_singleton, old, or_comm]
    rfl
  · intro i positive bound
    exact List.mem_append_left _ (tracks.behind i positive bound)
  · change rx.nunds + 1 = placed.gaps.countP _
    rw [marked _ fun _ => rfl, List.countP_cons, ← tracks.nunds]
    rfl
  · refine List.Perm.trans ?_ tsns.symm
    exact (bufqInsert_perm _ _ _).trans (tracks.oooq.cons _)
  · intro i
    rw [show (rx.accept m placed).put = rx.put from rfl, tracks.puts i]
    have same : (∃ cb ∈ placed.gaps, cb.deliv = true ∧ rx.place cb.tsn = i) ↔
        ∃ cb ∈ rx.gaps, cb.deliv = true ∧ rx.place cb.tsn = i := by
      have := marked (fun cb => cb.deliv && decide (rx.place cb.tsn = i))
        fun _ => rfl
      have none : (control m).deliv = false := rfl
      rw [List.countP_cons, none, Bool.false_and, if_neg (by simp)] at this
      have iff := Iff.of_eq (congrArg (0 < ·) this)
      simpa only [Nat.add_zero, List.countP_pos_iff, Bool.and_eq_true,
        decide_eq_true_iff] using iff
    exact or_congr_right same.symm

theorem nodup : (rx.gaps.map Cb.tsn).Nodup := by
  rw [List.Nodup, List.pairwise_map]
  refine tracks.runs.sorted.imp ?_
  rintro a b ⟨i, j, placeA, placeB, above, order, below⟩ same
  rw [placeA, placeB] at same
  simp only [HALF] at below
  have := (number_inj base (by omega) (by omega)).1 same
  omega

end Tracks

section Loop

variable (tracks : Tracks base { rx with gaps := passed ++ cb :: rest })

include tracks

theorem Tracks.up (undelivered : cb.deliv = false) :
    Tracks base { rx.deliver cb with
      gaps := passed ++ { cb with deliv := true } :: rest } := by
  obtain ⟨rcvq, expq, queued⟩ := rx.queue_eq false { cb with deliv := true }
  have above : rx.count < rx.place cb.tsn :=
    tracks.beyond (List.mem_append_right _ List.mem_cons_self)
  have fresh : rx.place cb.tsn ∉ rx.put.map Put.place := by
    intro member
    rcases (tracks.puts _).1 member with old | ⟨x, held, delivered, same⟩
    · exact absurd old.2 (by simp only; omega)
    · have tsn : x.tsn = cb.tsn := (place_inj tracks.ack).1 same
      have : x = cb := List.inj_on_of_nodup_map tracks.nodup held
        (by simp) tsn
      rw [this, undelivered] at delivered
      cases delivered
  unfold deliver
  rw [queued]
  refine ⟨tracks.start, tracks.ack, tracks.runs.congr ?_, ?_, tracks.behind,
    ?_, tracks.ndups, ?_, ?_, ?_, ?_⟩
  · simp [Cb.shape]
  · intro i counted
    have := tracks.held i counted
    rw [List.map_append, List.map_cons] at this ⊢
    exact this
  · have := tracks.nunds
    simp only [List.countP_append, List.countP_cons, undelivered, Bool.not_false,
      Bool.not_true, if_true, Bool.false_eq_true, if_false] at this ⊢
    omega
  · have := tracks.oooq
    rw [List.map_append, List.map_cons] at this ⊢
    exact this
  · simp only [List.map_append, List.map_singleton]
    exact List.nodup_append.2 ⟨tracks.once, by simp, by
      intro i member j last same
      simp only [List.mem_singleton] at last
      exact fresh (last ▸ same ▸ member)⟩
  · intro p member
    rcases List.mem_append.1 member with earlier | last
    · exact tracks.named p earlier
    · rw [List.mem_singleton.1 last]
      exact (number_place tracks.ack cb.tsn).symm
  · intro i
    have := tracks.puts i
    simp only [List.map_append, List.map_singleton, List.mem_append,
      List.mem_cons, List.not_mem_nil, or_false] at this ⊢
    rw [this]
    constructor
    · rintro ((old | ⟨x, held | rfl | held, delivered, same⟩) | rfl)
      · exact .inl old
      · exact .inr ⟨x, .inl held, delivered, same⟩
      · rw [undelivered] at delivered
        cases delivered
      · exact .inr ⟨x, .inr (.inr held), delivered, same⟩
      · exact .inr ⟨_, .inr (.inl rfl), rfl, rfl⟩
    · rintro (old | ⟨x, held | rfl | held, delivered, same⟩)
      · exact .inl (.inl old)
      · exact .inl (.inr ⟨x, .inl held, delivered, same⟩)
      · exact .inr same.symm
      · exact .inl (.inr ⟨x, .inr (.inr held), delivered, same⟩)

theorem Tracks.first (next : cb.tsn = rx.rAck + 1) : passed = [] := by
  cases passed with
  | nil => rfl
  | cons x passed =>
      have apart := List.pairwise_cons.1 tracks.runs.sorted
      obtain ⟨i, j, -, here, above, order, below⟩ := apart.1 cb (by simp)
      have ack : rx.rAck = number base rx.count := tracks.ack
      rw [next, ack, ← number_succ] at here
      simp only [HALF] at below above
      have := (number_inj base (by omega) (by omega)).1 here
      omega

end Loop

theorem remains_core (cb : Cb) (rest : List Cb) :
    (remains cb rest).map Cb.core = rest.map Cb.core := by
  unfold remains
  split
  · rfl
  · cases rest <;> rfl

theorem drop_place (rx : Rx) (cb : Cb) (rest gaps : List Cb) (tsn : Tsn) :
    { rx.drop cb rest with gaps := gaps }.place tsn =
      rx.advance.place tsn := by
  unfold place
  rfl

section Drop

variable (tracks : Tracks base { rx with gaps := cb :: rest })
  (next : cb.tsn = rx.rAck + 1)

include tracks next

theorem Tracks.later {x : Cb} (member : x ∈ rest) :
    rx.count + 1 < rx.place x.tsn := by
  have above : rx.count < rx.place x.tsn :=
    tracks.beyond (List.mem_cons_of_mem _ member)
  have ack : rx.rAck = number base rx.count := tracks.ack
  have other : rx.place x.tsn ≠ rx.count + 1 := by
    rw [← place_next ack, ← next, Ne, place_inj ack]
    intro same
    have nodup := tracks.nodup
    simp only [List.map_cons, List.nodup_cons] at nodup
    exact nodup.1 (List.mem_map.2 ⟨x, member, same⟩)
  omega

theorem Tracks.drop_runs :
    Runs base (rx.count + 1) (rx.count + 1 + HALF) (remains cb rest)
      (rx.drop cb rest).ngaps := by
  have ack : rx.rAck = number base rx.count := tracks.ack
  rw [ack, ← number_succ] at next
  have pop := tracks.runs.pop next (by simp only; omega)
  simp only [drop]
  unfold remains
  split at pop
  case isTrue alone =>
    rw [if_pos alone, if_pos alone]
    cases rest with
    | nil => exact .nil
    | cons x rest => exact pop.2.mono le_rfl (by simp only; omega)
  case isFalse more =>
    obtain ⟨x, rest', rfl, runs⟩ := pop
    rw [if_neg more, if_neg more, if_neg (by simp)]
    exact runs.mono le_rfl (by simp only; omega)

theorem Tracks.drop (delivered : cb.deliv = true) :
    Tracks base { rx.drop cb rest with gaps := remains cb rest } := by
  have ack : rx.rAck = number base rx.count := tracks.ack
  have start : 0 ≤ rx.count := tracks.start
  have here : rx.place cb.tsn = rx.count + 1 := by
    rw [next, place_next ack]
  have blocks := remains_core cb rest
  have tsns : (remains cb rest).map Cb.tsn = rest.map Cb.tsn := by
    have := congrArg (List.map Cb.tsn) blocks
    rwa [List.map_map, List.map_map] at this
  have places : (remains cb rest).map (fun x => rx.advance.place x.tsn) =
      rest.map fun x => rx.place x.tsn := by
    have := congrArg (List.map rx.advance.place) tsns
    rw [List.map_map, List.map_map] at this
    refine this.trans (List.map_congr_left fun x member => ?_)
    exact place_advance ack (tracks.later next member)
  have heldNext : rx.count + 1 ∈ rx.heard := by
    refine (tracks.held _ (by simp only; omega)).2 ?_
    exact List.mem_map.2 ⟨cb, by simp, here⟩
  refine ⟨?_, ?_, tracks.drop_runs next, ?_, ?_, ?_, tracks.ndups, ?_,
    tracks.once, tracks.named, ?_⟩
  · change 0 ≤ rx.count + 1
    omega
  · change rx.rAck + 1 = number base (rx.count + 1)
    rw [ack, number_succ]
  · intro i above
    change rx.count + 1 < i at above
    have old := tracks.held i (by simp only; omega)
    simp only [drop_place]
    refine Iff.trans old ?_
    rw [places, List.map_cons, List.mem_cons]
    have other : i ≠ rx.place cb.tsn := by omega
    exact or_iff_right other
  · intro i positive bound
    change i ≤ rx.count + 1 at bound
    by_cases last : i = rx.count + 1
    · exact last ▸ heldNext
    · exact tracks.behind i positive (by simp only; omega)
  · have count := congrArg (List.countP fun x : Cb => !x.deliv) blocks
    rw [List.countP_map, List.countP_map] at count
    have old := tracks.nunds
    rw [List.countP_cons, delivered, if_neg (by simp)] at old
    exact old.trans count.symm
  · have old := tracks.oooq
    simp only [List.map_cons] at old
    change (rx.oooq.erase cb.tsn).Perm ((remains cb rest).map Cb.tsn)
    rw [tsns]
    have := old.erase cb.tsn
    rwa [List.erase_cons_head] at this
  · intro i
    have old := tracks.puts i
    have same : (∃ x ∈ remains cb rest, x.deliv = true ∧
        rx.advance.place x.tsn = i) ↔
        ∃ x ∈ rest, x.deliv = true ∧ rx.place x.tsn = i := by
      have cores : (∃ x ∈ (remains cb rest).map Cb.core, x.deliv = true ∧
          rx.advance.place x.tsn = i) ↔
          ∃ x ∈ rest.map Cb.core, x.deliv = true ∧
            rx.advance.place x.tsn = i := by
        rw [blocks]
      simp only [List.mem_map, exists_exists_and_eq_and] at cores
      refine cores.trans (exists_congr fun x => and_congr_right fun member => ?_)
      rw [show x.core.tsn = x.tsn from rfl,
        place_advance ack (tracks.later next member)]
      rfl
    have whole : i ∈ rx.put.map Put.place ↔ 0 < i ∧ i ≤ rx.count ∨
        i = rx.count + 1 ∨ ∃ x ∈ rest, x.deliv = true ∧ rx.place x.tsn = i := by
      refine old.trans (or_congr_right ?_)
      simp only [List.exists_mem_cons_iff, delivered, true_and]
      refine or_congr_left ?_
      rw [← here]
      exact eq_comm
    simp only [drop_place]
    refine whole.trans ?_
    rw [same, ← or_assoc]
    refine or_congr_left ?_
    change _ ↔ 0 < i ∧ i ≤ rx.count + 1
    omega

end Drop

structure Delivering (base : Tsn) (rx : Rx) (passed todo : List Cb) :
    Prop where
  tracks : Tracks base { rx with gaps := passed ++ todo }
  past : ∀ cb ∈ passed, cb.tsn ≠ rx.rAck + 1

theorem Delivering.pass (here : Delivering base rx passed (cb :: rest))
    (other : cb.tsn ≠ rx.rAck + 1) :
    Delivering base rx (passed ++ [cb]) rest := by
  refine ⟨?_, ?_⟩
  · rw [List.append_assoc]
    exact here.tracks
  · intro x member
    rcases List.mem_append.1 member with old | last
    · exact here.past x old
    · rw [List.mem_singleton.1 last]
      exact other

theorem delivering (base : Tsn) : Loop (Delivering base) where
  beyond here := by
    apply (after_iff_place _ _).2
    exact here.tracks.beyond (List.mem_append_right _ List.mem_cons_self)
  wait here undelivered waiting := by
    refine here.pass fun next => ?_
    -- a block waits only after a gap
    simp [waits, after, next] at waiting
  up here undelivered waiting := by
    refine ⟨here.tracks.up undelivered, ?_⟩
    obtain ⟨rcvq, expq, queued⟩ := queue_eq _ false _
    unfold deliver
    rw [queued]
    exact here.past
  keep here delivered other := here.pass other
  drop here delivered next := by
    have tracks := here.tracks
    rw [here.tracks.first next] at tracks
    exact ⟨tracks.drop next delivered, by simp⟩

theorem Tracks.sctpDeliverData (tracks : Tracks base rx) :
    Tracks base rx.sctpDeliverData ∧ Settled rx.sctpDeliverData := by
  have start : Delivering base rx [] (patched none rx.gaps) := by
    rw [patched_none]
    exact ⟨tracks, by simp⟩
  obtain ⟨rx', kept, whole, final⟩ := (delivering base).run start
  unfold Rx.sctpDeliverData
  rw [whole]
  have tracks := final.tracks
  rw [List.append_nil] at tracks
  exact ⟨tracks, final.past⟩

theorem Tracks.take (tracks : Tracks base rx) (m : Data) :
    Tracks base (rx.take m).1 ∧
      ((rx.take m).2 = false → Settled rx → Settled (rx.take m).1) := by
  have here : (control m).tsn = number base (rx.place m.tsn) :=
    (number_place tracks.ack m.tsn).symm
  have fits : after m.tsn rx.rAck = true →
      Fits base rx.count (rx.count + HALF) (control m) rx.gaps rx.ngaps
        rx.ngaps (placeGap (control m) rx.ngaps none rx.gaps) := fun beyond =>
    placeGap_spec tracks.runs le_rfl here rfl
      ((rx.after_iff_place m.tsn).1 beyond) (rx.place_le m.tsn)
      (by omega)
  have taken := rx.take_taken m
  generalize rx.take m = out at taken ⊢
  cases taken with
  | fast next empty => exact ⟨tracks.fast next empty, nofun⟩
  | repeated known =>
      refine ⟨tracks.repeated fun beyond => ?_, fun _ settled => settled⟩
      have := fits beyond
      rwa [known beyond] at this
  | accepted beyond placed found =>
      have := fits beyond
      rw [found] at this
      exact ⟨tracks.accept beyond this, nofun⟩

@[simp] theorem take_receiving (rx : Rx) (m : Data) :
    (rx.take m).1.receiving = rx.receiving := by
  have taken := rx.take_taken m
  generalize rx.take m = out at taken ⊢
  cases taken with
  | fast =>
      obtain ⟨rcvq, expq, queued⟩ :=
        (rx.hear m).queue_eq true { control m with deliv := true }
      rw [Rx.fast, queued]
      rfl
  | repeated => rfl
  | accepted => rfl

theorem Tracks.takeAll {newd : Bool} {chunks : List Chunk}
    (tracks : Tracks base rx)
    (settled : newd = false → rx.receiving = true → Settled rx) :
    Tracks base (rx.takeAll newd chunks).1 ∧
      ((rx.takeAll newd chunks).2 = false →
        (rx.takeAll newd chunks).1.receiving = true →
        Settled (rx.takeAll newd chunks).1) := by
  induction chunks generalizing rx newd with
  | nil => exact ⟨tracks, settled⟩
  | cons chunk chunks ih =>
      cases chunk with
      | otherType => exact ⟨tracks, settled⟩
      | badSize => exact ⟨tracks, settled⟩
      | data m =>
          rw [Rx.takeAll]
          split
          case isTrue => exact ⟨tracks.aside tracks.ndups, nofun⟩
          case isFalse =>
            split
            case isTrue => exact ih tracks settled
            case isFalse =>
              split
              case isTrue => exact ⟨tracks, settled⟩
              case isFalse =>
                obtain ⟨next, kept⟩ := tracks.take m
                apply ih next
                intro none receiving
                rw [Bool.or_eq_false_iff] at none
                rw [take_receiving] at receiving
                exact kept none.2 (settled none.1 receiving)

structure Good (base : Tsn) (rx : Rx) : Prop where
  tracks : Tracks base rx
  settled : rx.receiving = true → Settled rx

theorem Good.initial (rAck : Tsn) (nIstr : UInt16) (aRwnd : Nat) :
    Good rAck (Rx.initial rAck nIstr aRwnd) := by
  refine ⟨⟨le_rfl, ?_, .nil, ?_, ?_, rfl, rfl, .refl _, .nil, nofun, ?_⟩,
    nofun⟩
  · exact (number_zero rAck).symm
  · intro i above
    rfl
  · intro i positive bound
    exact absurd positive (not_lt.2 bound)
  · intro i
    simp only [Rx.initial, List.map_nil, List.not_mem_nil, false_and,
      exists_false, or_false, false_iff]
    omega

theorem Good.handle (good : Good base rx) (event : Event) :
    Good base (rx.handle event) := by
  cases event with
  | packet chunks =>
      simp only [Rx.handle, sctpRecvData]
      split
      case isTrue => exact good
      case isFalse =>
        have whole : _ ∧ ((rx.takeAll false chunks).2 = false → _) :=
          good.tracks.takeAll fun _ => good.settled
        obtain ⟨tracks, settled⟩ := whole
        split
        case isTrue =>
          obtain ⟨tracks, settled⟩ := tracks.sctpDeliverData
          exact ⟨tracks, fun _ => settled⟩
        case isFalse none => exact ⟨tracks, settled (by simpa using none)⟩
  | sack => exact ⟨good.tracks.aside rfl, good.settled⟩
  | readNormal => exact ⟨good.tracks.aside good.tracks.ndups, good.settled⟩
  | readExpedited =>
      exact ⟨good.tracks.aside good.tracks.ndups, good.settled⟩

theorem Good.run (good : Good base rx) (events : List Event) :
    Good base (rx.run events) := by
  induction events generalizing rx with
  | nil => exact good
  | cons event events ih => exact ih (good.handle event)

structure Exact (base : Tsn) (rx : Rx) : Prop where
  /-- `r_ack` is the last TSN up to which all have been received. -/
  ack : rx.rAck = number base rx.count ∧ 0 ≤ rx.count
  received : ∀ i, 0 < i → i ≤ rx.count → i ∈ rx.heard
  missing : rx.count + 1 ∉ rx.heard
  held : ∀ i, i ∈ rx.gaps.map (fun cb => rx.place cb.tsn) ↔
    i ∈ rx.heard ∧ rx.count < i
  increasing : (rx.gaps.map fun cb => rx.place cb.tsn).Pairwise (· < ·)
  runs : Runs base rx.count (rx.count + HALF) rx.gaps rx.ngaps
  /-- No TSN goes up twice, and all up to `r_ack` have gone up. -/
  once : (rx.put.map Put.place).Nodup
  named : ∀ p ∈ rx.put, p.cb.tsn = number base p.place ∧ p.place ∈ rx.heard
  up : ∀ i, 0 < i → i ≤ rx.count → i ∈ rx.put.map Put.place
  nunds : rx.nunds = rx.gaps.countP fun cb => !cb.deliv

theorem Good.exact (good : Good base rx) (receiving : rx.receiving = true) :
    Exact base rx := by
  obtain ⟨tracks, settled⟩ := good
  have held : ∀ i, i ∈ rx.gaps.map (fun cb => rx.place cb.tsn) ↔
      i ∈ rx.heard ∧ rx.count < i := by
    intro i
    constructor
    · intro member
      obtain ⟨cb, gap, rfl⟩ := List.mem_map.1 member
      have above := tracks.beyond gap
      exact ⟨(tracks.held _ above).2 member, above⟩
    · rintro ⟨heard, above⟩
      exact (tracks.held i above).1 heard
  refine ⟨⟨tracks.ack, tracks.start⟩, tracks.behind, ?_, held, ?_,
    tracks.runs, tracks.once, ?_, ?_, tracks.nunds⟩
  · intro heard
    obtain ⟨cb, gap, here⟩ :=
      List.mem_map.1 ((tracks.held _ (by omega)).1 heard)
    apply settled receiving cb gap
    rw [← place_inj tracks.ack, here, place_next tracks.ack]
  · rw [List.pairwise_map]
    refine tracks.runs.sorted.imp ?_
    rintro a b ⟨i, j, placeA, placeB, above, order, below⟩
    rw [placeA, placeB, place_number tracks.ack above (by omega),
      place_number tracks.ack (by omega) below]
    exact order
  · intro p member
    refine ⟨tracks.named p member, ?_⟩
    rcases (tracks.puts _).1 (List.mem_map_of_mem member) with old | held'
    · exact tracks.behind _ old.1 old.2
    · obtain ⟨cb, gap, -, here⟩ := held'
      exact ((held _).1 (List.mem_map.2 ⟨cb, gap, here⟩)).1
  · intro i positive bound
    exact (tracks.puts i).2 (.inl ⟨positive, bound⟩)

theorem receive_tracking_exact (rAck : Tsn) (nIstr : UInt16) (aRwnd : Nat)
    (events : List Event)
    (receiving : ((Rx.initial rAck nIstr aRwnd).run events).receiving = true) :
    Exact rAck ((Rx.initial rAck nIstr aRwnd).run events) :=
  ((Good.initial rAck nIstr aRwnd).run events).exact receiving

theorem receive_tracking_exact_wrapped :
    Exact 0xfffffffe ((Rx.initial 0xfffffffe 2 4096).run
      [.packet [.data ⟨1, 0, 1, true, true, false, 4⟩],
       .packet [.data ⟨0xffffffff, 1, 0, true, true, false, 4⟩,
         .data ⟨1, 0, 1, true, true, false, 4⟩],
       .sack, .packet [.data ⟨0, 0, 0, true, true, false, 4⟩]]) :=
  receive_tracking_exact _ _ _ _ (by decide)

end Rx

end OpenSS7.Sctp
