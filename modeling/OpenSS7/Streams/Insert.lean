import OpenSS7.Streams.Counts

/-!
The queue refines a list of messages ordered by class.
-/

namespace OpenSS7.Streams

open LinkedList PriorityList

/-- The queue holds the messages `l`, in the order of their classes, and
counts them. -/
structure Holds (s : QState) (l : List Entry) : Prop extends Threaded s l where
  ordered : Ordered Entry.cls l
  counted : Counted s.q l

namespace Entry

def put (mp : Addr) (m : Msg) : Entry where
  id := mp
  msg := if m.isHiPri then { m with bBand := 0 } else m
  zeroed := by
    cases hpri : m.isHiPri with
    | true => simp
    | false => simp [hpri]

theorem put_of_hiPri {mp : Addr} {m : Msg} (hpri : m.isHiPri = true) :
    (put mp m).msg = { m with bBand := 0 } := by
  simp [put, hpri]

theorem put_of_ordinary {mp : Addr} {m : Msg} (hpri : m.isHiPri = false) :
    (put mp m).msg = m := by
  simp [put, hpri]

theorem cls_of_hiPri {e : Entry} (hpri : e.msg.isHiPri = true) :
    e.cls = ⊤ := by
  simp [cls, hpri]

theorem cls_of_ordinary {e : Entry} (hpri : e.msg.isHiPri = false) :
    e.cls = (e.msg.bBand : WithTop ℕ) := by
  simp [cls, hpri]

theorem top_le_cls (e : Entry) : decide (⊤ ≤ e.cls) = e.msg.isHiPri := by
  cases hpri : e.msg.isHiPri with
  | true => simp [cls_of_hiPri hpri]
  | false => simp [cls_of_ordinary hpri]

theorem band_le_cls (e : Entry) (band : Nat) :
    decide ((band : WithTop ℕ) ≤ e.cls) =
      (e.msg.isHiPri || decide (band ≤ e.msg.bBand)) := by
  cases hpri : e.msg.isHiPri with
  | true => simp [cls_of_hiPri hpri]
  | false =>
      simp only [cls_of_ordinary hpri, Nat.cast_withTop, WithTop.coe_le_coe,
        Bool.false_or]

theorem band_lt_cls (e : Entry) (band : Nat) :
    decide ((band : WithTop ℕ) < e.cls) =
      (e.msg.isHiPri || decide (band < e.msg.bBand)) := by
  cases hpri : e.msg.isHiPri with
  | true => simp [cls_of_hiPri hpri, WithTop.natCast_lt_top]
  | false =>
      simp only [cls_of_ordinary hpri, Nat.cast_withTop, WithTop.coe_lt_coe,
        Bool.false_or]

end Entry

namespace Holds

variable {s : QState} {l : List Entry} {mp : Addr} {fuel mem : Nat}

theorem stopped (holds : Holds s l) :
    ∀ e ∈ l.dropWhile (fun e => e.msg.isHiPri), e.msg.isHiPri = false := by
  apply holds.ordered.dropWhile_false
  intro low high le hpri
  rw [Entry.cls_of_hiPri hpri] at le
  rw [← Entry.top_le_cls, decide_eq_true_eq]
  exact le

theorem walk_bands (holds : Holds s l) (p : Msg → Bool)
    (enough : l.length ≤ fuel) :
    walk s.heap.next (fun b => p (s.heap.msg b)) fuel
        ((l.takeWhile fun e => e.msg.isHiPri).map Entry.id).getLast?
        ((l.dropWhile fun e => e.msg.isHiPri).map Entry.id).head? =
      some
        (((l.takeWhile fun e => e.msg.isHiPri || p e.msg).map
            Entry.id).getLast?,
          ((l.dropWhile fun e => e.msg.isHiPri || p e.msg).map
            Entry.id).head?) := by
  have threaded := holds.toThreaded
  rw [← List.takeWhile_append_dropWhile
    (p := fun e => e.msg.isHiPri) (l := l)] at threaded
  have short : (l.dropWhile fun e => e.msg.isHiPri).length ≤ fuel :=
    le_trans (List.length_dropWhile_le _ _) enough
  have both := takeWhile_or (q := fun e => p e.msg) holds.stopped
  rw [threaded.walk_eq p short, both.1, both.2]

theorem setMsg (holds : Holds s l) (m : Msg) (fresh : mp ∉ l.map Entry.id) :
    Holds { s with heap := s.heap.setMsg mp m } l :=
  ⟨holds.toThreaded.setMsg m fresh, holds.ordered, holds.counted⟩

end Holds

inductive PutResult (s : QState) (l l' : List Entry) :
    Option (QState × Nat) → Prop where
  | accepted {s' : QState} {result : Nat} (positive : 0 < result)
      (holds : Holds s' l') : PutResult s l l' (some (s', result))
  | refused (k : Nat) :
      PutResult s l l' (some ({ s with q := s.q.withBands k }, 0))

namespace QState

variable {s : QState} {l : List Entry} {e : Entry} {fuel mem : Nat}

theorem code_pos (c : Prop) [Decidable c] : 0 < if c then 2 else 1 := by
  split <;> omega

theorem split_at (holds : Holds s l) (p : Entry → Bool) :
    Threaded s (l.takeWhile p ++ l.dropWhile p) ∧
      Counted s.q (l.takeWhile p ++ l.dropWhile p) := by
  rw [List.takeWhile_append_dropWhile]
  exact ⟨holds.toThreaded, holds.counted⟩

theorem putqPri_spec (holds : Holds s l) (fresh : e.id ∉ l.map Entry.id)
    (hpri : e.msg.isHiPri = true)
    (content : e.msg = { s.heap.msg e.id with bBand := 0 })
    (enough : l.length ≤ fuel) (insq : Bool) :
    PutResult s l (enqueue Entry.cls e l) (s.putqPri fuel e.id insq) := by
  have here : (fun e' : Entry => decide (e.cls ≤ e'.cls)) =
      fun e' => e'.msg.isHiPri := by
    funext e'
    rw [Entry.cls_of_hiPri hpri, Entry.top_le_cls]
  have walked := holds.walk_first Msg.isHiPri enough
  simp only [putqPri, walked, Option.bind_eq_bind, Option.bind_some]
  refine .accepted (code_pos _) ⟨?_, holds.ordered.enqueue, ?_⟩
  · rw [enqueue, here]
    have renamed := holds.setMsg { s.heap.msg e.id with bBand := 0 } fresh
    have split := (split_at renamed fun e => e.msg.isHiPri).1
    refine Threaded.link (split.congr_queue rfl rfl) ?_ ?_
    · rwa [List.takeWhile_append_dropWhile]
    · simp [Heap.zeroBand, content]
  · rw [enqueue, here]
    have split := (split_at holds fun e => e.msg.isHiPri).2
    refine split.charge (by rw [content]) rfl ?_ rfl rfl
    simp [link, Queue.charge, Heap.zeroBand, Entry.size, content]

theorem putqNorm_spec (holds : Holds s l) (fresh : e.id ∉ l.map Entry.id)
    (hpri : e.msg.isHiPri = false) (content : e.msg = s.heap.msg e.id)
    (zero : (s.heap.msg e.id).bBand = 0) :
    PutResult s l (enqueue Entry.cls e l) (s.putqNorm fuel mem e.id) := by
  have here : enqueue Entry.cls e l = l ++ [e] := by
    have every : (fun e' : Entry => decide (e.cls ≤ e'.cls)) =
        fun _ => true := by
      funext e'
      rw [Entry.cls_of_ordinary hpri, content, zero, Entry.band_le_cls]
      simp
    rw [enqueue, every, List.takeWhile_eq_self_iff.2 (by simp),
      List.dropWhile_eq_nil_iff.2 (by simp)]
  have hlast : s.q.qLast ≠ some e.id := by
    rw [holds.linked.last_eq]
    exact fun eq => fresh (List.mem_of_getLast? eq)
  simp only [putqNorm, zero, if_true]
  rw [here]
  refine .accepted (code_pos _) ⟨?_, ?_, ?_⟩
  · have threaded := holds.toThreaded
    rw [← List.append_nil l] at threaded fresh
    have marker := holds.linked.last_eq
    refine Threaded.insert threaded fresh ?_ ?_ ?_ ?_ ?_ ?_ ?_
    · simp [content]
    · intro other _
      simp
    · constructor
      · simp [hlast]
      · simp [marker]
    · intro other different
      simp [← marker, different]
    · intro other different
      simp [different]
    · simp [Queue.charge]
    · simp [Queue.charge, marker]
  · rw [← here]
    exact holds.ordered.enqueue
  · have counted := holds.counted
    rw [← List.append_nil l] at counted
    refine counted.charge (by rw [content, zero]) rfl ?_ rfl rfl
    simp [Queue.charge, Entry.size, content]

theorem placeInBand_spec (holds : Holds s l) (fresh : e.id ∉ l.map Entry.id)
    (content : e.msg = s.heap.msg e.id) (positive : 0 < e.msg.bBand)
    {k ix : Nat} (known : e.msg.bBand ≤ s.q.qNband + k)
    (found : ix = s.q.qNband + k - e.msg.bBand) (p : Entry → Bool) :
    ∃ q, (s.q.withBands k).chargeBand ix e.id
          ((l.takeWhile p).map Entry.id).getLast?
          ((l.dropWhile p).map Entry.id).head? (msgsize (s.heap.msg e.id)) =
        some q ∧
      Threaded
        (link { s with q := q } e.id ((l.takeWhile p).map Entry.id).getLast?
          ((l.dropWhile p).map Entry.id).head?)
        (l.takeWhile p ++ e :: l.dropWhile p) ∧
      Counted
        (link { s with q := q } e.id ((l.takeWhile p).map Entry.id).getLast?
          ((l.dropWhile p).map Entry.id).head?).q
        (l.takeWhile p ++ e :: l.dropWhile p) := by
  obtain ⟨threaded, _⟩ := split_at holds p
  have counted := holds.counted.withBands k
  have inside : ix < (s.q.withBands k).qBandp.length := by
    rw [counted.nband]
    simp only [Queue.withBands]
    omega
  have there := List.getElem?_eq_getElem inside
  rw [← List.takeWhile_append_dropWhile (p := p) (l := l)] at fresh counted
  obtain ⟨qb', blocked, charged, msgs, count, _⟩ := Queue.chargeBand_spec there e.id
    ((l.takeWhile p).map Entry.id).getLast?
    ((l.dropWhile p).map Entry.id).head? (msgsize (s.heap.msg e.id))
  refine ⟨_, charged, ?_, ?_⟩
  · exact Threaded.link (threaded.congr_queue rfl rfl) fresh content.symm
  · refine counted.chargeBand there ?_ rfl rfl rfl rfl msgs ?_
    · simp only [Queue.withBands]
      omega
    · rw [count, Entry.size, content]

theorem putqBand_spec (holds : Holds s l) (fresh : e.id ∉ l.map Entry.id)
    (hpri : e.msg.isHiPri = false) (content : e.msg = s.heap.msg e.id)
    (positive : 0 < e.msg.bBand) (enough : l.length ≤ fuel) :
    PutResult s l (enqueue Entry.cls e l) (s.putqBand fuel mem e.id) := by
  have here : (fun e' : Entry => decide (e.cls ≤ e'.cls)) =
      fun e' => e'.msg.isHiPri || decide (e.msg.bBand ≤ e'.msg.bBand) := by
    funext e'
    rw [Entry.cls_of_ordinary hpri, Entry.band_le_cls]
  have walked := holds.walk_first Msg.isHiPri enough
  have walked' := holds.walk_bands
    (fun m => decide (e.msg.bBand ≤ m.bBand)) enough
  obtain ⟨k, alloc, point⟩ := s.q.getQband_spec e.msg.bBand mem
    holds.counted.nband positive
  simp only [putqBand, walked, ← content, Option.bind_eq_bind,
    Option.bind_some]
  cases band : s.q.getQband e.msg.bBand mem with
  | mk q ix =>
      rw [band] at alloc point
      simp only at alloc
      subst alloc
      cases ix with
      | none => exact .refused k
      | some ix =>
          obtain ⟨known, found⟩ := point ix rfl
          obtain ⟨q, charged, threaded, counted⟩ := placeInBand_spec holds
            fresh content positive known found
            fun e' => e'.msg.isHiPri || decide (e.msg.bBand ≤ e'.msg.bBand)
          rw [← content] at charged
          simp only [walked', charged, Option.bind_some]
          refine .accepted (code_pos _) ⟨?_, holds.ordered.enqueue, ?_⟩
          · rw [enqueue, here]
            exact threaded
          · rw [enqueue, here]
            exact counted

theorem putqLocked_spec (holds : Holds s l) (fresh : e.id ∉ l.map Entry.id)
    (put : e = Entry.put e.id (s.heap.msg e.id)) (enough : l.length ≤ fuel) :
    PutResult s l (enqueue Entry.cls e l) (s.putqLocked fuel mem e.id) := by
  cases hpri : (s.heap.msg e.id).isHiPri with
  | true =>
      have content : e.msg = { s.heap.msg e.id with bBand := 0 } := by
        rw [put]
        exact Entry.put_of_hiPri hpri
      have type : ¬ (s.heap.msg e.id).dbType < QPCTL := by
        simpa [Msg.isHiPri] using hpri
      rw [putqLocked, if_neg type]
      refine putqPri_spec holds fresh ?_ content enough false
      rw [content]
      exact hpri
  | false =>
      have content : e.msg = s.heap.msg e.id := by
        rw [put]
        exact Entry.put_of_ordinary hpri
      have type : (s.heap.msg e.id).dbType < QPCTL := by
        simpa [Msg.isHiPri] using hpri
      rw [← content] at hpri
      rw [putqLocked, if_pos type]
      by_cases zero : (s.heap.msg e.id).bBand = 0
      · exact putqNorm_spec holds fresh hpri content zero
      · rw [putqNorm, if_neg zero]
        refine putqBand_spec holds fresh hpri content ?_ enough
        rw [content]
        omega

theorem putbqPri_spec (holds : Holds s l) (fresh : e.id ∉ l.map Entry.id)
    (hpri : e.msg.isHiPri = true)
    (content : e.msg = { s.heap.msg e.id with bBand := 0 }) :
    PutResult s l (requeue Entry.cls e l) (some (s.putbqPri e.id)) := by
  have here : requeue Entry.cls e l = e :: l := by
    have none : (fun e' : Entry => decide (e.cls < e'.cls)) =
        fun _ => false := by
      funext e'
      rw [Entry.cls_of_hiPri hpri]
      simp
    rw [requeue, none]
    cases l <;> simp
  have hfirst : s.q.qFirst ≠ some e.id := by
    rw [holds.linked.first_eq]
    exact fun eq => fresh (List.mem_of_head? eq)
  have renamed := holds.setMsg { s.heap.msg e.id with bBand := 0 } fresh
  refine .accepted (by simp) ⟨?_, holds.ordered.requeue, ?_⟩
  · rw [here]
    have marker := holds.linked.first_eq
    refine Threaded.insert (a := []) renamed.toThreaded fresh
      ?_ ?_ ?_ ?_ ?_ ?_ ?_
    · simp [Heap.zeroBand, content]
    · intro other different
      simp [Heap.zeroBand, different]
    · constructor
      · simp [Heap.zeroBand, marker]
      · simp
    · intro other different
      simp [Heap.zeroBand, different]
    · intro other different
      simp [Heap.zeroBand, different, ← marker]
    · simp [Queue.charge, marker]
    · simp [Queue.charge]
  · rw [here]
    refine Counted.charge (a := []) holds.counted (by rw [content]) rfl ?_ rfl
      rfl
    simp [Queue.charge, Heap.zeroBand, Entry.size, content]

theorem putbqNorm_spec (holds : Holds s l) (fresh : e.id ∉ l.map Entry.id)
    (hpri : e.msg.isHiPri = false) (content : e.msg = s.heap.msg e.id)
    (zero : (s.heap.msg e.id).bBand = 0) (enough : l.length ≤ fuel) :
    PutResult s l (requeue Entry.cls e l) (s.putbqNorm fuel mem e.id) := by
  have here : (fun e' : Entry => decide (e.cls < e'.cls)) =
      fun e' => e'.msg.isHiPri || decide (0 < e'.msg.bBand) := by
    funext e'
    rw [Entry.cls_of_ordinary hpri, content, zero, Entry.band_lt_cls]
  have walked := holds.walk_first Msg.isHiPri enough
  have walked' := holds.walk_bands (fun m => decide (0 < m.bBand)) enough
  obtain ⟨threaded, counted⟩ := split_at holds
    fun e' => e'.msg.isHiPri || decide (0 < e'.msg.bBand)
  simp only [putbqNorm, zero, if_true, walked, walked', Option.bind_eq_bind,
    Option.bind_some]
  refine .accepted (code_pos _) ⟨?_, holds.ordered.requeue, ?_⟩
  · rw [requeue, here]
    refine Threaded.congr_queue (threaded.link ?_ content.symm) rfl rfl
    rwa [List.takeWhile_append_dropWhile]
  · rw [requeue, here]
    refine counted.charge (by rw [content, zero]) rfl ?_ rfl rfl
    simp [link, Queue.charge, Entry.size, content]

theorem putbqBand_spec (holds : Holds s l) (fresh : e.id ∉ l.map Entry.id)
    (hpri : e.msg.isHiPri = false) (content : e.msg = s.heap.msg e.id)
    (positive : 0 < e.msg.bBand) (enough : l.length ≤ fuel) :
    PutResult s l (requeue Entry.cls e l) (s.putbqBand fuel mem e.id) := by
  have here : (fun e' : Entry => decide (e.cls < e'.cls)) =
      fun e' => e'.msg.isHiPri || decide (e.msg.bBand < e'.msg.bBand) := by
    funext e'
    rw [Entry.cls_of_ordinary hpri, Entry.band_lt_cls]
  have walked := holds.walk_first Msg.isHiPri enough
  have walked' := holds.walk_bands
    (fun m => decide (e.msg.bBand < m.bBand)) enough
  obtain ⟨k, alloc, point⟩ := s.q.getQband_spec e.msg.bBand mem
    holds.counted.nband positive
  simp only [putbqBand, walked, ← content, walked', Option.bind_eq_bind,
    Option.bind_some]
  cases band : s.q.getQband e.msg.bBand mem with
  | mk q ix =>
      rw [band] at alloc point
      simp only at alloc
      subst alloc
      cases ix with
      | none => exact .refused k
      | some ix =>
          obtain ⟨known, found⟩ := point ix rfl
          obtain ⟨q, charged, threaded, counted⟩ := placeInBand_spec holds
            fresh content positive known found
            fun e' => e'.msg.isHiPri || decide (e.msg.bBand < e'.msg.bBand)
          rw [← content] at charged
          simp only [charged, Option.bind_some]
          refine .accepted (code_pos _) ⟨?_, holds.ordered.requeue, ?_⟩
          · rw [requeue, here]
            exact threaded
          · rw [requeue, here]
            exact counted

theorem putbqLocked_spec (holds : Holds s l) (fresh : e.id ∉ l.map Entry.id)
    (put : e = Entry.put e.id (s.heap.msg e.id)) (enough : l.length ≤ fuel) :
    PutResult s l (requeue Entry.cls e l) (s.putbqLocked fuel mem e.id) := by
  cases hpri : (s.heap.msg e.id).isHiPri with
  | true =>
      have content : e.msg = { s.heap.msg e.id with bBand := 0 } := by
        rw [put]
        exact Entry.put_of_hiPri hpri
      have type : ¬ (s.heap.msg e.id).dbType < QPCTL := by
        simpa [Msg.isHiPri] using hpri
      rw [putbqLocked, if_neg type]
      refine putbqPri_spec holds fresh ?_ content
      rw [content]
      exact hpri
  | false =>
      have content : e.msg = s.heap.msg e.id := by
        rw [put]
        exact Entry.put_of_ordinary hpri
      have type : (s.heap.msg e.id).dbType < QPCTL := by
        simpa [Msg.isHiPri] using hpri
      rw [← content] at hpri
      rw [putbqLocked, if_pos type]
      by_cases zero : (s.heap.msg e.id).bBand = 0
      · exact putbqNorm_spec holds fresh hpri content zero enough
      · rw [putbqNorm, if_neg zero]
        refine putbqBand_spec holds fresh hpri content ?_ enough
        rw [content]
        omega

end QState

end OpenSS7.Streams
