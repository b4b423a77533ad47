import OpenSS7.Sctp.Reception

/-!
The shape of the gap list: maximal runs of consecutive TSNs, in order, the head
of each pointing at its last block, and how a chunk is placed on it.
-/

namespace OpenSS7.Sctp

open Serial

variable {base : Tsn} {low high i j : Int} {k n : Nat} {cb head : Cb}
  {body rest l : List Cb} {tail : Tsn}

abbrev HALF : Int := 2 ^ 31

def Steps (base : Tsn) (i : Int) : List Cb → Prop
  | [] => True
  | cb :: rest => cb.tsn = number base i ∧ Steps base (i + 1) rest

inductive Runs (base : Tsn) : Int → Int → List Cb → Nat → Prop
  | nil {low high : Int} : Runs base low high [] 0
  | run {low high i : Int} {k : Nat} {head : Cb} {body rest : List Cb} :
      low < i → i + body.length ≤ high → Steps base i (head :: body) →
      head.tail = number base (i + body.length) →
      Runs base (i + body.length + 1) high rest k →
      Runs base low high (head :: (body ++ rest)) (k + 1)

def Cb.core (cb : Cb) : Cb := { cb with tail := 0 }

def Cb.shape (cb : Cb) : Tsn × Tsn := (cb.tsn, cb.tail)

def Apart (base : Tsn) (low high : Int) (a b : Cb) : Prop :=
  ∃ i j, a.tsn = number base i ∧ b.tsn = number base j ∧
    low < i ∧ i < j ∧ j ≤ high

namespace Steps

theorem mem (steps : Steps base i l) (member : cb ∈ l) :
    ∃ m : Nat, m < l.length ∧ cb.tsn = number base (i + m) := by
  induction l generalizing i with
  | nil => cases member
  | cons x rest ih =>
      obtain ⟨here, steps⟩ := steps
      rcases List.mem_cons.1 member with rfl | member
      · exact ⟨0, by simp, by simpa using here⟩
      · obtain ⟨m, bound, found⟩ := ih steps member
        refine ⟨m + 1, by simpa using bound, ?_⟩
        rw [found]
        congr 1
        push_cast
        omega

theorem get (steps : Steps base i l) {m : Nat} (bound : m < l.length) :
    ∃ cb ∈ l, cb.tsn = number base (i + m) := by
  induction l generalizing i m with
  | nil => cases bound
  | cons x rest ih =>
      cases m with
      | zero => exact ⟨x, by simp, by simpa using steps.1⟩
      | succ m =>
          obtain ⟨cb, member, found⟩ := ih steps.2 (Nat.lt_of_succ_lt_succ bound)
          refine ⟨cb, List.mem_cons_of_mem _ member, ?_⟩
          rw [found]
          congr 1
          push_cast
          omega

theorem snoc (steps : Steps base i l)
    (next : cb.tsn = number base (i + l.length)) :
    Steps base i (l ++ [cb]) := by
  induction l generalizing i with
  | nil => exact ⟨by simpa using next, trivial⟩
  | cons x rest ih =>
      refine ⟨steps.1, ih steps.2 ?_⟩
      rw [next]
      congr 1
      simp only [List.length_cons]
      push_cast
      omega

theorem append {l' : List Cb} (steps : Steps base i l)
    (steps' : Steps base (i + l.length) l') : Steps base i (l ++ l') := by
  induction l generalizing i with
  | nil => simpa using steps'
  | cons x rest ih =>
      refine ⟨steps.1, ih steps.2 ?_⟩
      convert steps' using 1
      simp only [List.length_cons]
      push_cast
      omega

theorem congr {l' : List Cb} (steps : Steps base i l)
    (same : l'.map Cb.shape = l.map Cb.shape) : Steps base i l' := by
  induction l generalizing i l' with
  | nil =>
      rw [List.map_eq_nil_iff.1 same]
      trivial
  | cons cb rest ih =>
      obtain ⟨cb', rest', rfl, sameHead, same⟩ := List.map_eq_cons_iff.1 same
      have tsn : cb'.tsn = cb.tsn := congrArg Prod.fst sameHead
      exact ⟨tsn.trans steps.1, ih steps.2 same⟩

theorem sorted (steps : Steps base i l) :
    l.Pairwise (Apart base (i - 1) (i + l.length - 1)) := by
  induction l generalizing i with
  | nil => exact .nil
  | cons cb rest ih =>
      simp only [List.length_cons]
      push_cast
      refine List.pairwise_cons.2 ⟨?_, (ih steps.2).imp ?_⟩
      · intro b member
        obtain ⟨m, bound, place⟩ := mem steps.2 member
        exact ⟨i, i + 1 + m, steps.1, place, by omega, by omega, by omega⟩
      · rintro a b ⟨p, q, placeA, placeB, least, order, most⟩
        exact ⟨p, q, placeA, placeB, by omega, order, by omega⟩

end Steps

/-- A list that ends in the block `tail`, which is not met before. -/
inductive Ends (tail : Tsn) : List Cb → Prop
  | last {cb : Cb} : cb.tsn = tail → Ends tail [cb]
  | step {cb : Cb} {rest : List Cb} :
      cb.tsn ≠ tail → Ends tail rest → Ends tail (cb :: rest)

theorem Steps.ends (steps : Steps base i l) (some : l ≠ [])
    (short : (l.length : Int) ≤ 2 ^ 32) :
    Ends (number base (i + l.length - 1)) l := by
  induction l generalizing i with
  | nil => exact absurd rfl some
  | cons cb rest ih =>
      cases rest with
      | nil => exact .last (by simpa using steps.1)
      | cons next rest =>
          simp only [List.length_cons] at short ⊢
          push_cast at short ⊢
          refine .step ?_ ?_
          · rw [steps.1]
            intro same
            have := (number_inj base (by omega) (by omega)).1 same
            omega
          · have later := ih steps.2 (by simp)
              (by simp only [List.length_cons]; push_cast; omega)
            convert later using 2
            simp only [List.length_cons]
            push_cast
            omega

namespace Ends

theorem afterTail (ends : Ends tail l) : afterTail tail (l ++ rest) = rest := by
  induction ends with
  | last here => simp [Sctp.afterTail, here]
  | step other _ ih => simpa [Sctp.afterTail, other] using ih

theorem linkAfter (ends : Ends tail l) :
    linkAfter tail cb (l ++ rest) = l ++ cb :: rest := by
  induction ends with
  | last here => simp [Sctp.linkAfter, here]
  | step other _ ih => simpa [Sctp.linkAfter, other] using ih

theorem placeGap_skip (ends : Ends tail l) :
    placeGap cb n (some tail) (l ++ rest) =
      (placeGap cb n none rest).map
        fun placed => { placed with gaps := l ++ placed.gaps } := by
  induction ends with
  | last here =>
      simp only [List.cons_append, List.nil_append, placeGap, here, if_true]
      rfl
  | step other _ ih =>
      simp only [List.cons_append, placeGap, if_neg other, ih, Option.map_map]
      rfl

end Ends

section Run

variable (steps : Steps base i (head :: body))
  (last : head.tail = number base (i + body.length))
  (short : (body.length : Int) < 2 ^ 32)

include steps last short

theorem run_ends : Ends head.tail (head :: body) := by
  convert steps.ends (by simp) ?_ using 1
  · rw [last]
    congr 1
    simp only [List.length_cons]
    push_cast
    omega
  · simp only [List.length_cons]
    push_cast
    omega

theorem placeGap_behind :
    placeGap cb n (if head.tsn = head.tail then none else some head.tail)
        (body ++ rest) =
      (placeGap cb n none rest).map
        fun placed => { placed with gaps := body ++ placed.gaps } := by
  have ends := run_ends steps last short
  cases body with
  | nil =>
      have alone : head.tsn = head.tail := by
        rw [last, steps.1]
        simp
      rw [if_pos alone, List.nil_append]
      cases placeGap cb n none rest <;> rfl
  | cons next body =>
      cases ends with
      | step other ends => rw [if_neg other, ends.placeGap_skip]

end Run

namespace Runs

theorem mono {low' high' : Int} (runs : Runs base low high l k)
    (lower : low' ≤ low) (higher : high ≤ high') :
    Runs base low' high' l k := by
  induction runs generalizing low' with
  | nil => exact .nil
  | run above below steps last _ ih =>
      exact .run (by omega) (by omega) steps last (ih le_rfl higher)

theorem mem (runs : Runs base low high l k) (member : cb ∈ l) :
    ∃ i, low < i ∧ i ≤ high ∧ cb.tsn = number base i := by
  induction runs with
  | nil => cases member
  | @run low high i k head body rest above below steps tail _ ih =>
      rcases List.mem_append.1 (List.cons_append ▸ member) with here | later
      · obtain ⟨m, bound, found⟩ := steps.mem here
        simp only [List.length_cons] at bound
        exact ⟨i + m, by omega, by omega, found⟩
      · obtain ⟨p, above', below', found⟩ := ih later
        exact ⟨p, by omega, below', found⟩

theorem single (runs : Runs base (i + 1) high l k) (above : low < i)
    (below : i ≤ high) (here : cb.tsn = number base i)
    (alone : cb.tail = cb.tsn) : Runs base low high (cb :: l) (k + 1) := by
  have whole : Runs base low high (cb :: ([] ++ l)) (k + 1) := by
    refine .run above ?_ ⟨here, trivial⟩ ?_ ?_
    · simpa using below
    · simpa [alone] using here
    · simpa using runs
  exact whole

theorem sorted (runs : Runs base low high l k) :
    l.Pairwise (Apart base low high) := by
  induction runs with
  | nil => exact .nil
  | @run low high i k head body rest above below steps tail runs ih =>
      rw [← List.cons_append]
      refine List.pairwise_append.2 ⟨?_, ?_, ?_⟩
      · refine steps.sorted.imp ?_
        rintro a b ⟨p, q, placeA, placeB, least, order, most⟩
        simp only [List.length_cons] at most
        exact ⟨p, q, placeA, placeB, by omega, order, by omega⟩
      · refine ih.imp ?_
        rintro a b ⟨p, q, placeA, placeB, least, order, most⟩
        exact ⟨p, q, placeA, placeB, by omega, order, most⟩
      · intro a memberA b memberB
        obtain ⟨m, bound, placeA⟩ := steps.mem memberA
        obtain ⟨q, least, most, placeB⟩ := runs.mem memberB
        simp only [List.length_cons] at bound
        exact ⟨i + m, q, placeA, placeB, by omega, by omega, most⟩

theorem congr {l' : List Cb} (runs : Runs base low high l k)
    (same : l'.map Cb.shape = l.map Cb.shape) :
    Runs base low high l' k := by
  induction runs generalizing l' with
  | nil =>
      rw [List.map_eq_nil_iff.1 same]
      exact .nil
  | @run low high i k head body rest above below steps last _ ih =>
      obtain ⟨head', l', rfl, sameHead, same⟩ := List.map_eq_cons_iff.1 same
      rw [List.map_append] at same
      obtain ⟨body', rest', rfl, sameBody, sameRest⟩ :=
        List.map_eq_append_iff.1 same
      have length : body'.length = body.length := by
        simpa using congrArg List.length sameBody
      have tails : head'.tail = head.tail := congrArg Prod.snd sameHead
      refine .run above (by omega) (steps.congr ?_) ?_ ?_
      · rw [List.map_cons, List.map_cons, sameHead, sameBody]
      · rw [tails, length, last]
      · rw [length]
        exact ih sameRest

theorem pop (runs : Runs base low high (cb :: rest) k)
    (first : cb.tsn = number base (low + 1)) (near : high - low ≤ HALF) :
    if cb.tsn = cb.tail then 0 < k ∧ Runs base (low + 1) high rest (k - 1)
    else ∃ next rest', rest = next :: rest' ∧
      Runs base (low + 1) high ({ next with tail := cb.tail } :: rest') k := by
  cases runs with
  | @run _ _ i k _ body rest above below steps last runs =>
      have here : i = low + 1 := by
        apply (number_inj base ?_ ?_).1 (steps.1.symm.trans first) <;>
          simp only [HALF] at near <;> omega
      subst here
      cases body with
      | nil =>
          have alone : cb.tsn = cb.tail := by simp [last, first]
          rw [if_pos alone]
          refine ⟨by omega, runs.mono ?_ le_rfl⟩
          simp only [List.length_nil]
          push_cast
          omega
      | cons next body =>
          simp only [List.length_cons] at last below runs
          push_cast at last below runs
          have other : cb.tsn ≠ cb.tail := by
            rw [first, last]
            intro same
            have := (number_inj base (by omega)
              (by simp only [HALF] at near; omega)).1 same
            omega
          rw [if_neg other]
          have length : low + 1 + 1 + (body.length : Int) =
              low + 1 + (body.length + 1) := by
            omega
          refine ⟨next, body ++ rest, rfl, .run (by omega) ?_ steps.2 ?_ ?_⟩
          · omega
          · rw [length]
            exact last
          · rwa [length]

end Runs

structure Extends (base : Tsn) (low high : Int) (cb : Cb) (l : List Cb)
    (k n : Nat) (placed : Placed) : Prop where
  runs : ∃ k', Runs base low high placed.gaps k' ∧ placed.ngaps + k = n + k'
  blocks : (placed.gaps.map Cb.core).Perm (cb.core :: l.map Cb.core)
  queued : ∀ tsn ∈ placed.before, tsn ∈ l.map Cb.tsn

section Place

variable (steps : Steps base i (head :: body))
  (last : head.tail = number base (i + body.length))
  (here : cb.tsn = number base j)
  (near : j - i < HALF) (near' : i + body.length - j < HALF)

include steps here near near'

theorem before_run : before cb.tsn head.tsn = true ↔ j < i := by
  rw [here, steps.1]
  apply before_iff base <;> simp only [HALF] at * <;> omega

include last

theorem inside_run :
    between cb.tsn head.tsn head.tail = true ↔
      i ≤ j ∧ j ≤ i + body.length := by
  rw [here, steps.1, last]
  apply between_iff base <;> simp only [HALF] at * <;> omega

omit steps in
theorem behind_run : cb.tsn = head.tail + 1 ↔ j = i + body.length + 1 := by
  rw [here, last, ← number_succ]
  apply number_inj base <;> simp only [HALF] at * <;> omega

end Place

theorem joins_run (steps : Steps base i (head :: body))
    (here : cb.tsn = number base j) (near : i - j < HALF) (near' : j < i) :
    joins cb (head :: l) = if i = j + 1 then some head.tail else none := by
  have adjacent : head.tsn = cb.tsn + 1 ↔ i = j + 1 := by
    rw [steps.1, here, ← number_succ]
    apply number_inj base <;> simp only [HALF] at * <;> omega
  simp only [joins, adjacent]

@[simp] theorem Cb.core_tail (cb : Cb) (tail : Tsn) :
    Cb.core { cb with tail := tail } = cb.core := rfl

theorem Steps.grown (steps : Steps base i (head :: body))
    (here : cb.tsn = number base (i + body.length + 1)) :
    Steps base i (head :: (body ++ [cb])) := by
  refine Steps.snoc steps ?_
  rw [here]
  congr 1
  simp only [List.length_cons]
  push_cast
  omega

theorem core_perm (head cb : Cb) (body rest : List Cb) (tail : Tsn) :
    (({ head with tail := tail } :: (body ++ cb :: rest)).map Cb.core).Perm
      (cb.core :: (head :: (body ++ rest)).map Cb.core) := by
  simp only [List.map_cons, List.map_append, Cb.core_tail]
  exact @List.perm_middle _ _ (head.core :: body.map Cb.core) _

namespace Extends

variable (steps : Steps base i (head :: body))
  (last : head.tail = number base (i + body.length))
  (here : cb.tsn = number base j)

include steps last here

theorem frontJoined (runs : Runs base (i + body.length + 1) high rest k)
    (above : low < j) (next : i = j + 1) (below : i + body.length ≤ high) :
    Extends base low high cb (head :: (body ++ rest)) (k + 1) n
      ⟨{ cb with tail := head.tail } :: head :: (body ++ rest), n,
        some head.tsn⟩ := by
  refine ⟨⟨k + 1, ?_, rfl⟩, by simp, by simp⟩
  have length : j + ((head :: body).length : Int) = i + body.length := by
    simp only [List.length_cons]
    push_cast
    omega
  rw [← List.cons_append]
  refine .run above (by omega) ⟨here, ?_⟩ ?_ ?_
  · rwa [← next]
  · rw [length]
    exact last
  · rwa [length]

theorem front (runs : Runs base (i + body.length + 1) high rest k)
    (alone : cb.tail = cb.tsn) (above : low < j) (apart : j + 1 < i)
    (below : i + body.length ≤ high) :
    Extends base low high cb (head :: (body ++ rest)) (k + 1) n
      ⟨cb :: head :: (body ++ rest), n + 1, some head.tsn⟩ := by
  refine ⟨⟨k + 2, ?_, by simp only; omega⟩, by simp, by simp⟩
  refine .single ?_ above (by omega) here alone
  exact .run apart below steps last runs

omit last in
theorem behind (runs : Runs base (j + 1) high rest k)
    (next : j = i + body.length + 1) (above : low < i) (below : j ≤ high) :
    Extends base low high cb (head :: (body ++ rest)) (k + 1) n
      ⟨{ head with tail := cb.tsn } :: (body ++ cb :: rest), n, none⟩ := by
  have length : i + ((body ++ [cb]).length : Int) = j := by
    simp only [List.length_append, List.length_singleton]
    push_cast
    omega
  refine ⟨⟨k + 1, ?_, rfl⟩, ?_, by simp⟩
  · have joined : body ++ cb :: rest = (body ++ [cb]) ++ rest := by simp
    rw [joined]
    refine .run above (by omega) ?_ ?_ ?_
    · exact Steps.grown steps (next ▸ here)
    · rw [length]
      exact here
    · rwa [length]
  · exact core_perm ..

omit last in
theorem behindJoined {i' : Int} {head' : Cb} {body' : List Cb}
    (steps' : Steps base i' (head' :: body'))
    (last' : head'.tail = number base (i' + body'.length))
    (runs : Runs base (i' + body'.length + 1) high rest k)
    (next : j = i + body.length + 1) (next' : i' = j + 1) (above : low < i)
    (below : i' + body'.length ≤ high) (some : n ≠ 0) :
    Extends base low high cb (head :: (body ++ head' :: (body' ++ rest)))
      (k + 2) n
      ⟨{ head with tail := head'.tail } ::
        (body ++ cb :: head' :: (body' ++ rest)), n - 1, none⟩ := by
  have length : i + ((body ++ cb :: head' :: body').length : Int) =
      i' + body'.length := by
    simp only [List.length_append, List.length_cons]
    push_cast
    omega
  refine ⟨⟨k + 1, ?_, by simp only; omega⟩, core_perm .., by simp⟩
  have joined : body ++ cb :: head' :: (body' ++ rest) =
      (body ++ cb :: head' :: body') ++ rest := by
    simp
  rw [joined]
  refine .run above (by omega) ?_ ?_ ?_
  · have first := Steps.grown steps (next ▸ here)
    have whole : Steps base i (head :: (body ++ cb :: head' :: body')) := by
      rw [show head :: (body ++ cb :: head' :: body') =
        (head :: (body ++ [cb])) ++ head' :: body' by simp]
      refine first.append ?_
      convert steps' using 1
      simp only [List.length_cons, List.length_append, List.length_nil]
      push_cast
      omega
    exact whole
  · rw [length]
    exact last'
  · rwa [length]

end Extends

theorem Extends.atEnd (steps : Steps base i (head :: body))
    (runs : Runs base (i + body.length + 1) high rest k)
    (here : cb.tsn = number base j) (next : j = i + body.length + 1)
    (above : low < i) (below : j ≤ high) (near : high - low ≤ HALF)
    (counted : k + 1 ≤ n) :
    Extends base low high cb (head :: (body ++ rest)) (k + 1) n
      (match joins cb rest with
      | some tail =>
          ⟨{ head with tail := tail } :: (body ++ cb :: rest), n - 1, none⟩
      | none =>
          ⟨{ head with tail := cb.tsn } :: (body ++ cb :: rest), n, none⟩) := by
  cases runs with
  | nil => exact behind steps here .nil next above below
  | @run _ _ i' k head' body' rest above' below' steps' last' runs =>
      simp only [HALF] at near
      have joined : joins cb (head' :: (body' ++ rest)) = _ :=
        joins_run steps' here (by simp only [HALF]; omega) (by omega)
      simp only [joined]
      split
      case h_1 found =>
        split at found
        · cases found
          exact behindJoined steps here steps' last' runs next ‹_› above below'
            (by omega)
        · cases found
      case h_2 found =>
        split at found
        · cases found
        · refine behind steps here ?_ next above below
          exact .run (by omega) below' steps' last' runs

theorem Extends.later {placed : Placed}
    (extends_ : Extends base (i + body.length + 1) high cb rest k n placed)
    (steps : Steps base i (head :: body))
    (last : head.tail = number base (i + body.length))
    (above : low < i) (below : i + body.length ≤ high) :
    Extends base low high cb (head :: (body ++ rest)) (k + 1) n
      { placed with gaps := head :: (body ++ placed.gaps) } := by
  obtain ⟨⟨k', runs, counted⟩, blocks, queued⟩ := extends_
  refine ⟨⟨k' + 1, .run above below steps last runs, ?_⟩, ?_, ?_⟩
  · simp only
    omega
  · simp only [List.map_cons, List.map_append]
    refine ((blocks.append_left (body.map Cb.core)).cons head.core).trans ?_
    exact @List.perm_middle _ _ (head.core :: body.map Cb.core) _
  · intro tsn found
    have := queued tsn found
    simp only [List.map_cons, List.map_append, List.mem_cons,
      List.mem_append]
    exact .inr (.inr this)

theorem placeGap_head : placeGap cb n none (head :: rest) =
    if between cb.tsn head.tsn head.tail then none
    else if before cb.tsn head.tsn then
      match joins cb (head :: rest) with
      | some tail =>
          some ⟨{ cb with tail := tail } :: head :: rest, n, some head.tsn⟩
      | none => some ⟨cb :: head :: rest, n + 1, some head.tsn⟩
    else if cb.tsn = head.tail + 1 then
      match joins cb (afterTail head.tail (head :: rest)) with
      | some tail =>
          some ⟨(linkAfter head.tail cb (head :: rest)).modifyHead
            fun head => { head with tail := tail }, n - 1, none⟩
      | none =>
          some ⟨(linkAfter head.tail cb (head :: rest)).modifyHead
            fun head => { head with tail := cb.tsn }, n, none⟩
    else
      (placeGap cb n (if head.tsn = head.tail then none else some head.tail)
        rest).map (.keep head) := rfl

def Fits (base : Tsn) (low high : Int) (cb : Cb) (l : List Cb) (k n : Nat) :
    Option Placed → Prop
  | none => ∃ x ∈ l, x.tsn = cb.tsn
  | some placed => Extends base low high cb l k n placed

section Fits

variable (steps : Steps base i (head :: body))
  (last : head.tail = number base (i + body.length))
  (runs : Runs base (i + body.length + 1) high rest k)
  (here : cb.tsn = number base j)

include steps here

theorem fits_inside (first : i ≤ j) (final : j ≤ i + body.length) :
    Fits base low high cb (head :: (body ++ rest)) (k + 1) n none := by
  obtain ⟨x, member, found⟩ := steps.get (show (j - i).toNat <
    (head :: body).length by simp only [List.length_cons]; omega)
  refine ⟨x, List.mem_append_left rest member, ?_⟩
  rw [found, here]
  congr 1
  omega

include last runs

theorem fits_before (alone : cb.tail = cb.tsn) (above : low < j)
    (below : i + body.length ≤ high) (near : i - j < HALF) (first : j < i) :
    Fits base low high cb (head :: (body ++ rest)) (k + 1) n
      (match joins cb (head :: (body ++ rest)) with
      | some tail => some ⟨{ cb with tail := tail } :: head :: (body ++ rest),
          n, some head.tsn⟩
      | none => some ⟨cb :: head :: (body ++ rest), n + 1,
          some head.tsn⟩) := by
  rw [joins_run steps here near first]
  by_cases next : i = j + 1
  · rw [if_pos next]
    exact Extends.frontJoined steps last here runs above next below
  · rw [if_neg next]
    exact Extends.front steps last here runs alone above (by omega) below

theorem fits_behind (next : j = i + body.length + 1)
    (above : low < i) (below : j ≤ high) (near : high - low ≤ HALF)
    (counted : k + 1 ≤ n) :
    Fits base low high cb (head :: (body ++ rest)) (k + 1) n
      (match joins cb (afterTail head.tail (head :: (body ++ rest))) with
      | some tail =>
          some ⟨(linkAfter head.tail cb (head :: (body ++ rest))).modifyHead
            fun head => { head with tail := tail }, n - 1, none⟩
      | none =>
          some ⟨(linkAfter head.tail cb (head :: (body ++ rest))).modifyHead
            fun head => { head with tail := cb.tsn }, n, none⟩) := by
  have ends := run_ends steps last (by simp only [HALF] at near; omega)
  rw [← List.cons_append, ends.afterTail, ends.linkAfter]
  have whole := Extends.atEnd steps runs here next above below near counted
  cases joined : joins cb rest with
  | some tail =>
      rw [joined] at whole
      exact whole
  | none =>
      rw [joined] at whole
      exact whole

end Fits

theorem placeGap_spec (runs : Runs base low high l k) (counted : k ≤ n)
    (here : cb.tsn = number base j) (alone : cb.tail = cb.tsn)
    (above : low < j) (below : j ≤ high) (near : high - low ≤ HALF) :
    Fits base low high cb l k n (placeGap cb n none l) := by
  induction runs with
  | nil =>
      refine ⟨⟨1, ?_, by simp⟩, by simp, by simp⟩
      exact .single .nil above below here alone
  | @run low high i k head body rest above' below' steps last runs ih =>
      have near' : j - i < HALF ∧ i + body.length - j < HALF := by omega
      have short : (body.length : Int) < 2 ^ 32 := by
        simp only [HALF] at near
        omega
      have inside := inside_run steps last here near'.1 near'.2
      have before := before_run steps here near'.1 near'.2
      have behind := behind_run last here near'.1 near'.2
      rw [placeGap_head]
      by_cases among : i ≤ j ∧ j ≤ i + body.length
      · rw [if_pos (inside.2 among)]
        exact fits_inside steps here among.1 among.2
      rw [if_neg (mt inside.1 among)]
      by_cases early : j < i
      · rw [if_pos (before.2 early)]
        exact fits_before steps last runs here alone above below' (by omega)
          early
      rw [if_neg (mt before.1 early)]
      by_cases next : j = i + body.length + 1
      · rw [if_pos (behind.2 next)]
        exact fits_behind steps last runs here next above' below near counted
      rw [if_neg (mt behind.1 next), placeGap_behind steps last short]
      have found := ih (by omega) (by omega) below (by omega)
      cases placed : placeGap cb n none rest with
      | none =>
          rw [placed] at found
          obtain ⟨x, member, same⟩ := found
          exact ⟨x, by simp [member], same⟩
      | some p =>
          rw [placed] at found
          exact found.later steps last above' below'

end OpenSS7.Sctp
