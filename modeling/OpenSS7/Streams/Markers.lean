import OpenSS7.Streams.FlowControl

/-!
The markers `qb_first` and `qb_last` of the bands, and the one removal that
can leave them wrong.
-/

namespace OpenSS7.Streams

open LinkedList PriorityList

def inBand (l : List Entry) (band : Nat) : List Addr :=
  (l.filter (Entry.ofBand band)).map Entry.id

structure Ends (qb : Qband) (band : Nat) (l : List Entry) : Prop where
  first : qb.qbFirst = (inBand l band).head?
  last : qb.qbLast = (inBand l band).getLast?

def Exact (q : Queue) (l : List Entry) : Prop :=
  ∀ ix qb, q.qBandp[ix]? = some qb → Ends qb (q.qNband - ix) l

section InBand

variable {l a b : List Entry} {e : Entry} {band : Nat}

@[simp] theorem inBand_nil : inBand [] band = [] := rfl

@[simp] theorem inBand_append :
    inBand (a ++ b) band = inBand a band ++ inBand b band := by
  simp [inBand]

theorem inBand_cons_of_pos (here : e.ofBand band = true) :
    inBand (e :: b) band = e.id :: inBand b band := by
  simp [inBand, here]

theorem inBand_cons_of_neg (other : ¬ e.ofBand band = true) :
    inBand (e :: b) band = inBand b band := by
  simp [inBand, other]

theorem mem_inBand {mp : Addr} (member : mp ∈ inBand l band) :
    ∃ e ∈ l, e.ofBand band = true ∧ e.id = mp := by
  simpa [inBand, and_assoc] using member

theorem inBand_subset {mp : Addr} (member : mp ∈ inBand l band) :
    mp ∈ l.map Entry.id := by
  obtain ⟨e, held, _, rfl⟩ := mem_inBand member
  exact List.mem_map_of_mem held

theorem getLast?_inBand (ordered : Ordered Entry.cls (a ++ e :: b))
    (here : e.ofBand band = true) (some : inBand a band ≠ []) :
    (inBand a band).getLast? = (a.map Entry.id).getLast? := by
  rcases List.eq_nil_or_concat a with rfl | ⟨init, last, rfl⟩
  · exact absurd rfl some
  · rw [List.concat_eq_append] at *
    obtain ⟨front, _, above⟩ := List.pairwise_append.1 ordered
    obtain ⟨_, _, before⟩ := List.pairwise_append.1 front
    have cls : e.cls = (band : WithTop ℕ) := by
      simpa [Entry.ofBand] using here
    have final : last.ofBand band = true := by
      obtain ⟨mp, member⟩ := List.exists_mem_of_ne_nil _ some
      obtain ⟨e', held, here', _⟩ := mem_inBand member
      have cls' : e'.cls = (band : WithTop ℕ) := by
        simpa [Entry.ofBand] using here'
      have low : e.cls ≤ last.cls := above last (by simp) e (by simp)
      have high : last.cls ≤ e'.cls := by
        rcases List.mem_append.1 held with held | held
        · exact before e' held last (by simp)
        · rw [List.mem_singleton.1 held]
      rw [cls] at low
      rw [cls'] at high
      simpa [Entry.ofBand] using le_antisymm high low
    rw [inBand_append, inBand_cons_of_pos final]
    simp

theorem head?_inBand (ordered : Ordered Entry.cls (a ++ e :: b))
    (here : e.ofBand band = true) (some : inBand b band ≠ []) :
    (inBand b band).head? = (b.map Entry.id).head? := by
  cases b with
  | nil => exact absurd rfl some
  | cons next rest =>
      obtain ⟨_, back, _⟩ := List.pairwise_append.1 ordered
      obtain ⟨below, back⟩ := List.pairwise_cons.1 back
      obtain ⟨after, _⟩ := List.pairwise_cons.1 back
      have cls : e.cls = (band : WithTop ℕ) := by
        simpa [Entry.ofBand] using here
      have initial : next.ofBand band = true := by
        obtain ⟨mp, member⟩ := List.exists_mem_of_ne_nil _ some
        obtain ⟨e', held, here', _⟩ := mem_inBand member
        have cls' : e'.cls = (band : WithTop ℕ) := by
          simpa [Entry.ofBand] using here'
        have high : next.cls ≤ e.cls := below next (by simp)
        have low : e'.cls ≤ next.cls := by
          rcases List.mem_cons.1 held with rfl | held
          · exact le_refl _
          · exact after e' held
        rw [cls] at high
        rw [cls'] at low
        simpa [Entry.ofBand] using le_antisymm high low
      rw [inBand_cons_of_pos initial]
      rfl

end InBand

namespace Ends

variable {qb : Qband} {a b : List Entry} {e : Entry} {band : Nat}

theorem insert (ends : Ends qb band (a ++ b))
    (nodup : ((a ++ b).map Entry.id).Nodup)
    (ordered : Ordered Entry.cls (a ++ e :: b))
    (here : e.ofBand band = true) :
    (if qb.qbLast = (a.map Entry.id).getLast? ∨ qb.qbLast = none
        then some e.id else qb.qbLast) =
        (inBand (a ++ e :: b) band).getLast? ∧
      (if qb.qbFirst = (b.map Entry.id).head? ∨ qb.qbFirst = none
        then some e.id else qb.qbFirst) =
        (inBand (a ++ e :: b) band).head? := by
  rw [List.map_append] at nodup
  have disjoint := List.disjoint_of_nodup_append nodup
  have before := getLast?_inBand ordered here
  have after := head?_inBand ordered here
  rw [ends.first, ends.last, inBand_append, inBand_append,
    inBand_cons_of_pos here]
  constructor
  · cases tail : inBand b band with
    | nil =>
        rw [if_pos]
        · simp
        · by_cases none : inBand a band = []
          · simp [none]
          · left
            rw [List.append_nil, before none]
    | cons mp rest =>
        obtain ⟨last, hlast⟩ : ∃ last, (mp :: rest).getLast? = some last :=
          ⟨_, List.getLast?_eq_some_getLast (by simp)⟩
        rw [List.getLast?_append, List.getLast?_append,
          List.getLast?_cons_cons, hlast, Option.some_or, if_neg]
        · rintro (eq | eq)
          · refine disjoint (List.mem_of_getLast? eq.symm)
              (@inBand_subset _ band _ ?_)
            rw [tail]
            exact List.mem_of_getLast? hlast
          · cases eq
  · cases head : inBand a band with
    | nil =>
        rw [if_pos]
        · simp
        · by_cases none : inBand b band = []
          · simp [none]
          · left
            rw [List.nil_append, after none]
    | cons mp rest =>
        rw [List.cons_append, List.head?_cons, if_neg]
        · rfl
        · rintro (eq | eq)
          · refine disjoint (@inBand_subset _ band _ ?_)
              (List.mem_of_head? eq.symm)
            rw [head]
            exact List.mem_cons_self
          · cases eq

theorem remove (ends : Ends qb band (a ++ e :: b))
    (nodup : ((a ++ e :: b).map Entry.id).Nodup)
    (ordered : Ordered Entry.cls (a ++ e :: b))
    (here : e.ofBand band = true) {qb' : Qband}
    (marked : qb' =
      if qb.qbFirst = some e.id ∧ qb.qbLast = some e.id then
        { qb with qbFirst := none, qbLast := none }
      else
        { qb with
          qbFirst := if qb.qbFirst = some e.id then (b.map Entry.id).head?
            else qb.qbFirst
          qbLast := if qb.qbLast = some e.id then (a.map Entry.id).getLast?
            else qb.qbLast }) :
    Ends qb' band (a ++ b) := by
  rw [List.map_append, List.map_cons, List.nodup_middle, List.nodup_cons,
    List.mem_append] at nodup
  have before := getLast?_inBand ordered here
  have after := head?_inBand ordered here
  have first := ends.first
  have last := ends.last
  rw [inBand_append, inBand_cons_of_pos here] at first last
  have headIs : qb.qbFirst = some e.id ↔ inBand a band = [] := by
    rw [first]
    cases head : inBand a band with
    | nil => simp
    | cons mp rest =>
        simp only [List.cons_append, List.head?_cons, Option.some.injEq,
          reduceCtorEq, iff_false]
        rintro rfl
        exact nodup.1 (.inl (@inBand_subset _ band _ (by simp [head])))
  have lastIs : qb.qbLast = some e.id ↔ inBand b band = [] := by
    rw [last]
    cases tail : inBand b band with
    | nil => simp
    | cons mp rest =>
        rw [List.getLast?_append, List.getLast?_cons_cons]
        simp only [reduceCtorEq, iff_false]
        intro eq
        obtain ⟨final, hfinal⟩ : ∃ final, (mp :: rest).getLast? = some final :=
          ⟨_, List.getLast?_eq_some_getLast (by simp)⟩
        rw [hfinal, Option.some_or, Option.some.injEq] at eq
        refine nodup.1 (.inr (@inBand_subset _ band _ ?_))
        rw [tail, ← eq]
        exact List.mem_of_getLast? hfinal
  simp only [headIs, lastIs] at marked
  subst marked
  rw [List.getLast?_append] at last
  cases head : inBand a band with
  | nil =>
      cases tail : inBand b band with
      | nil => constructor <;> simp [head, tail]
      | cons mp rest =>
          have start := after (by simp [tail])
          rw [tail] at start
          constructor
          · simp [head, tail, ← start]
          · simp [head, tail, last, List.getLast?_cons_cons]
  | cons mp rest =>
      cases tail : inBand b band with
      | nil =>
          have finish := before (by simp [head])
          rw [head] at finish
          constructor
          · simp [head, tail, first]
          · simp [head, tail, ← finish]
      | cons mp' rest' =>
          constructor
          · simp [head, tail, first]
          · rw [inBand_append, List.getLast?_append]
            simp [head, tail, last, List.getLast?_cons_cons]

end Ends

namespace Exact

variable {q q' : Queue} {l l' a b : List Entry} {e : Entry} {ix : Nat}
  {qb qb' : Qband}

theorem congr (exact : Exact q l) (bandp : q'.qBandp = q.qBandp)
    (nband : q'.qNband = q.qNband) : Exact q' l := by
  intro ix qb found
  rw [bandp] at found
  rw [nband]
  exact exact ix qb found

theorem setBand (exact : Exact q l) (found : q.qBandp[ix]? = some qb)
    (bandp : q'.qBandp = q.qBandp.set ix qb') (nband : q'.qNband = q.qNband)
    (ends : Ends qb' (q.qNband - ix) l')
    (others : ∀ other, other ≠ ix → other < q.qBandp.length →
      inBand l' (q.qNband - other) = inBand l (q.qNband - other)) :
    Exact q' l' := by
  have inside := (List.getElem?_eq_some_iff.1 found).1
  intro other qb'' found'
  rw [bandp] at found'
  rw [nband]
  by_cases same : ix = other
  · subst same
    rw [List.getElem?_set_self inside] at found'
    cases found'
    exact ends
  · rw [List.getElem?_set_ne same] at found'
    have old := exact other qb'' found'
    have kept := others other (Ne.symm same)
      (List.getElem?_eq_some_iff.1 found').1
    exact ⟨by rw [kept, old.first], by rw [kept, old.last]⟩

theorem withBands (exact : Exact q l) (counted : Counted q l) (k : Nat) :
    Exact (q.withBands k) l := by
  intro ix qb found
  simp only [Queue.withBands] at found ⊢
  rcases Nat.lt_or_ge ix k with inside | outside
  · rw [List.getElem?_append_left (by simpa using inside)] at found
    have fresh := List.eq_of_mem_replicate (List.mem_of_getElem? found)
    have empty : inBand l (q.qNband + k - ix) = [] := by
      rw [inBand, counted.empty_load (q.qNband + k - ix) (by omega),
        List.map_nil]
    rw [fresh]
    constructor <;> rw [empty] <;> rfl
  · rw [List.getElem?_append_right (by simpa using outside)] at found
    have old := exact _ qb found
    rw [List.length_replicate] at old
    have same : q.qNband - (ix - k) = q.qNband + k - ix := by omega
    rwa [same] at old

theorem zero_iff (nband : q.qBandp.length = q.qNband)
    (zero : e.msg.bBand = 0) (bandp : q'.qBandp = q.qBandp)
    (same : q'.qNband = q.qNband) :
    Exact q' (a ++ e :: b) ↔ Exact q (a ++ b) := by
  have outside : ∀ ix qb, q.qBandp[ix]? = some qb →
      inBand (a ++ e :: b) (q.qNband - ix) =
        inBand (a ++ b) (q.qNband - ix) := by
    intro ix qb found
    have inside := (List.getElem?_eq_some_iff.1 found).1
    rw [nband] at inside
    rw [inBand_append, inBand_append, inBand_cons_of_neg]
    rw [e.ofBand_iff (by omega)]
    omega
  constructor
  · intro exact ix qb found
    have kept := outside ix qb found
    have old := exact ix qb (by rw [bandp]; exact found)
    rw [same] at old
    exact ⟨by rw [old.first, kept], by rw [old.last, kept]⟩
  · intro exact ix qb found
    rw [bandp] at found
    have kept := outside ix qb found
    have old := exact ix qb found
    rw [same]
    exact ⟨by rw [old.first, kept], by rw [old.last, kept]⟩

theorem others (nband : q.qBandp.length = q.qNband)
    (here : e.msg.bBand = q.qNband - ix) (inside : ix < q.qBandp.length)
    {other : Nat} (different : other ≠ ix)
    (inside' : other < q.qBandp.length) :
    inBand (a ++ e :: b) (q.qNband - other) =
      inBand (a ++ b) (q.qNband - other) := by
  rw [nband] at inside inside'
  rw [inBand_append, inBand_append, inBand_cons_of_neg]
  rw [e.ofBand_iff (by omega)]
  omega

theorem chargeBand (exact : Exact q (a ++ b))
    (nband : q.qBandp.length = q.qNband)
    (nodup : ((a ++ b).map Entry.id).Nodup)
    (ordered : Ordered Entry.cls (a ++ e :: b))
    (here : e.msg.bBand = q.qNband - ix) (positive : 0 < e.msg.bBand)
    {size : Nat}
    (charged : q.chargeBand ix e.id (a.map Entry.id).getLast?
      (b.map Entry.id).head? size = some q') :
    Exact q' (a ++ e :: b) := by
  simp only [Queue.chargeBand, Option.bind_eq_bind,
    Option.bind_eq_some_iff] at charged
  obtain ⟨qb, found, charged⟩ := charged
  cases charged
  have inside := (List.getElem?_eq_some_iff.1 found).1
  have ends := (exact ix qb found).insert nodup ordered
    ((e.ofBand_iff (by omega)).2 here)
  exact exact.setBand found rfl rfl ⟨ends.2, ends.1⟩
    fun other different inside' => others nband here inside different inside'

theorem releaseBand (exact : Exact q (a ++ e :: b))
    (nband : q.qBandp.length = q.qNband)
    (here : e.msg.bBand = q.qNband - ix)
    (found : q.qBandp[ix]? = some qb) {size : Nat} {be : Bool}
    {mark : Qband → Qband}
    (ends : Ends (mark qb) (q.qNband - ix) (a ++ b))
    (released : q.releaseBand ix size mark = some (q', be)) :
    Exact q' (a ++ b) := by
  have inside := (List.getElem?_eq_some_iff.1 found).1
  have kept : ∀ other, other ≠ ix → other < q.qBandp.length →
      inBand (a ++ b) (q.qNband - other) =
        inBand (a ++ e :: b) (q.qNband - other) :=
    fun other different inside' =>
      (others nband here inside different inside').symm
  simp only [Queue.releaseBand, found, Option.bind_eq_bind,
    Option.bind_some] at released
  split at released
  · cases released
    exact exact.setBand found rfl rfl ⟨ends.first, ends.last⟩ kept
  · cases released
    exact exact.setBand found rfl rfl ⟨ends.first, ends.last⟩ kept

theorem releaseBand_iff (exact : Exact q (a ++ e :: b))
    (nband : q.qBandp.length = q.qNband)
    (here : e.msg.bBand = q.qNband - ix)
    (found : q.qBandp[ix]? = some qb) {size : Nat} {be : Bool}
    {mark : Qband → Qband}
    (released : q.releaseBand ix size mark = some (q', be)) :
    Exact q' (a ++ b) ↔ Ends (mark qb) (q.qNband - ix) (a ++ b) := by
  constructor
  · intro exact'
    have inside := (List.getElem?_eq_some_iff.1 found).1
    simp only [Queue.releaseBand, found, Option.bind_eq_bind,
      Option.bind_some] at released
    split at released
    · cases released
      have ends := exact' ix _ (List.getElem?_set_self inside)
      exact ⟨ends.first, ends.last⟩
    · cases released
      have ends := exact' ix _ (List.getElem?_set_self inside)
      exact ⟨ends.first, ends.last⟩
  · intro ends
    exact exact.releaseBand nband here found ends released

theorem marked (exact : Exact q l) (marked : Marked q q') : Exact q' l := by
  cases marked with
  | same => exact exact
  | queue => exact exact.congr rfl rfl
  | @band ix qb found =>
      have ends := exact ix qb found
      exact exact.setBand found rfl rfl ⟨ends.first, ends.last⟩
        fun _ _ _ => rfl

end Exact

namespace QState

variable {s s' : QState} {l a b : List Entry} {e : Entry} {qb : Qband}
  {fuel mem result band : Nat} {be : Bool}

theorem placeInBand_exact (holds : Holds s l) (exact : Exact s.q l)
    (positive : 0 < e.msg.bBand) (p : Entry → Bool)
    (ordered : Ordered Entry.cls (l.takeWhile p ++ e :: l.dropWhile p))
    {q q' : Queue} {ix size : Nat}
    (got : s.q.getQband e.msg.bBand mem = (q, some ix))
    (charged : q.chargeBand ix e.id ((l.takeWhile p).map Entry.id).getLast?
      ((l.dropWhile p).map Entry.id).head? size = some q') :
    Exact q' (l.takeWhile p ++ e :: l.dropWhile p) := by
  obtain ⟨k, alloc, point⟩ := s.q.getQband_spec e.msg.bBand mem
    holds.counted.nband positive
  rw [got] at alloc point
  simp only at alloc
  subst alloc
  obtain ⟨known, here⟩ := point ix rfl
  have counted := holds.counted.withBands k
  have bands := exact.withBands holds.counted k
  have nodup := holds.linked.nodup
  rw [← List.takeWhile_append_dropWhile (p := p) (l := l)] at bands nodup
  refine bands.chargeBand counted.nband nodup ordered ?_ positive charged
  simp only [Queue.withBands]
  omega

def PutExact (l l' : List Entry) (s' : QState) (result : Nat) : Prop :=
  if result = 0 then Exact s'.q l else Exact s'.q l'

theorem PutExact.accepted {l' : List Entry} {c : Prop} [Decidable c]
    (exact : Exact s'.q l') : PutExact l l' s' (if c then 2 else 1) := by
  rw [PutExact, if_neg (Nat.pos_iff_ne_zero.1 (code_pos c))]
  exact exact

theorem PutExact.refused {l' : List Entry} (exact : Exact s.q l)
    (holds : Holds s l) {q : Queue} {ix : Option Nat} {band : Nat}
    (positive : 0 < band) (got : s.q.getQband band mem = (q, ix)) :
    PutExact l l' { s with q := q } 0 := by
  obtain ⟨k, alloc, _⟩ := s.q.getQband_spec band mem holds.counted.nband
    positive
  rw [got] at alloc
  rw [PutExact, if_pos rfl, show q = s.q.withBands k from alloc]
  exact exact.withBands holds.counted k

theorem putqBand_exact (holds : Holds s l) (exact : Exact s.q l)
    (hpri : e.msg.isHiPri = false) (content : e.msg = s.heap.msg e.id)
    (positive : 0 < e.msg.bBand) (enough : l.length ≤ fuel)
    (done : s.putqBand fuel mem e.id = some (s', result)) :
    PutExact l (enqueue Entry.cls e l) s' result := by
  have here : (fun e' : Entry => decide (e.cls ≤ e'.cls)) =
      fun e' => e'.msg.isHiPri || decide (e.msg.bBand ≤ e'.msg.bBand) := by
    funext e'
    rw [Entry.cls_of_ordinary hpri, Entry.band_le_cls]
  have ordered := holds.ordered.enqueue (x := e)
  rw [enqueue, here] at ordered ⊢
  simp only [putqBand, holds.walk_first Msg.isHiPri enough, ← content,
    Option.bind_eq_bind, Option.bind_some] at done
  cases got : s.q.getQband e.msg.bBand mem with
  | mk q ix =>
      rw [got] at done
      cases ix with
      | none =>
          cases done
          exact .refused exact holds positive got
      | some ix =>
          simp only [holds.walk_bands
              (fun m => decide (e.msg.bBand ≤ m.bBand)) enough,
            Option.bind_some, Option.bind_eq_some_iff] at done
          obtain ⟨q', charged, done⟩ := done
          cases done
          have placed := placeInBand_exact holds exact positive _ ordered got
            charged
          exact .accepted (placed.congr rfl rfl)

theorem putbqBand_exact (holds : Holds s l) (exact : Exact s.q l)
    (hpri : e.msg.isHiPri = false) (content : e.msg = s.heap.msg e.id)
    (positive : 0 < e.msg.bBand) (enough : l.length ≤ fuel)
    (done : s.putbqBand fuel mem e.id = some (s', result)) :
    PutExact l (requeue Entry.cls e l) s' result := by
  have here : (fun e' : Entry => decide (e.cls < e'.cls)) =
      fun e' => e'.msg.isHiPri || decide (e.msg.bBand < e'.msg.bBand) := by
    funext e'
    rw [Entry.cls_of_ordinary hpri, Entry.band_lt_cls]
  have ordered := holds.ordered.requeue (x := e)
  rw [requeue, here] at ordered ⊢
  simp only [putbqBand, holds.walk_first Msg.isHiPri enough, ← content,
    holds.walk_bands (fun m => decide (e.msg.bBand < m.bBand)) enough,
    Option.bind_eq_bind, Option.bind_some] at done
  cases got : s.q.getQband e.msg.bBand mem with
  | mk q ix =>
      rw [got] at done
      cases ix with
      | none =>
          cases done
          exact .refused exact holds positive got
      | some ix =>
          simp only [Option.bind_eq_some_iff] at done
          obtain ⟨q', charged, done⟩ := done
          cases done
          have placed := placeInBand_exact holds exact positive _ ordered got
            charged
          exact .accepted (placed.congr rfl rfl)

theorem outside_exact (holds : Holds s l) (exact : Exact s.q l)
    (zero : e.msg.bBand = 0) (p : Entry → Bool)
    (bandp : s'.q.qBandp = s.q.qBandp) (nband : s'.q.qNband = s.q.qNband) :
    Exact s'.q (l.takeWhile p ++ e :: l.dropWhile p) := by
  rw [Exact.zero_iff holds.counted.nband zero bandp nband,
    List.takeWhile_append_dropWhile]
  exact exact

theorem putqLocked_exact (holds : Holds s l) (exact : Exact s.q l)
    (put : e = Entry.put e.id (s.heap.msg e.id)) (enough : l.length ≤ fuel)
    (done : s.putqLocked fuel mem e.id = some (s', result)) :
    PutExact l (enqueue Entry.cls e l) s' result := by
  unfold putqLocked at done
  cases hpri : (s.heap.msg e.id).isHiPri with
  | true =>
      have content := @Entry.put_of_hiPri e.id _ hpri
      rw [← put] at content
      have type : ¬ (s.heap.msg e.id).dbType < QPCTL := by
        simpa [Msg.isHiPri] using hpri
      simp only [if_neg type, putqPri, Option.bind_eq_bind,
        Option.bind_eq_some_iff] at done
      obtain ⟨place, _, done⟩ := done
      cases done
      exact .accepted
        (outside_exact holds exact (by rw [content]) _ rfl rfl)
  | false =>
      have content := @Entry.put_of_ordinary e.id _ hpri
      rw [← put] at content
      have type : (s.heap.msg e.id).dbType < QPCTL := by
        simpa [Msg.isHiPri] using hpri
      rw [if_pos type, putqNorm] at done
      by_cases zero : (s.heap.msg e.id).bBand = 0
      · rw [if_pos zero] at done
        cases done
        exact .accepted
          (outside_exact holds exact (by rw [content, zero]) _ rfl rfl)
      · rw [if_neg zero] at done
        rw [← content] at hpri zero
        exact putqBand_exact holds exact hpri content (by omega) enough done

theorem putbqLocked_exact (holds : Holds s l) (exact : Exact s.q l)
    (put : e = Entry.put e.id (s.heap.msg e.id)) (enough : l.length ≤ fuel)
    (done : s.putbqLocked fuel mem e.id = some (s', result)) :
    PutExact l (requeue Entry.cls e l) s' result := by
  unfold putbqLocked at done
  cases hpri : (s.heap.msg e.id).isHiPri with
  | true =>
      have content := @Entry.put_of_hiPri e.id _ hpri
      rw [← put] at content
      have type : ¬ (s.heap.msg e.id).dbType < QPCTL := by
        simpa [Msg.isHiPri] using hpri
      rw [if_neg type] at done
      cases done
      exact .accepted (c := True)
        (outside_exact holds exact (by rw [content]) _ rfl rfl)
  | false =>
      have content := @Entry.put_of_ordinary e.id _ hpri
      rw [← put] at content
      have type : (s.heap.msg e.id).dbType < QPCTL := by
        simpa [Msg.isHiPri] using hpri
      rw [if_pos type, putbqNorm] at done
      by_cases zero : (s.heap.msg e.id).bBand = 0
      · simp only [if_pos zero, Option.bind_eq_bind,
          Option.bind_eq_some_iff] at done
        obtain ⟨place, _, place', _, done⟩ := done
        cases done
        exact .accepted
          (outside_exact holds exact (by rw [content, zero]) _ rfl rfl)
      · rw [if_neg zero] at done
        rw [← content] at hpri zero
        exact putbqBand_exact holds exact hpri content (by omega) enough done

theorem rmvqNorm_bands (s : QState) (mp : Addr) :
    (s.rmvqNorm mp).1.q.qBandp = s.q.qBandp ∧
      (s.rmvqNorm mp).1.q.qNband = s.q.qNband := by
  obtain ⟨_, _, eq, _⟩ :=
    (s.unlink mp).q.release_spec (msgsize ((s.unlink mp).heap.msg mp))
  rw [rmvqNorm, eq]
  exact ⟨rfl, rfl⟩

theorem rmvqLocked_exact (holds : Holds s (a ++ e :: b))
    (exact : Exact s.q (a ++ e :: b))
    (done : s.rmvqLocked e.id = some (s', be)) : Exact s'.q (a ++ b) := by
  have content := holds.content e (by simp)
  have nband := holds.counted.nband
  rw [rmvqLocked, content] at done
  by_cases zero : e.msg.bBand = 0
  · obtain ⟨bandp, same⟩ := rmvqNorm_bands s e.id
    rw [if_pos zero, Option.some.injEq] at done
    rw [done] at bandp same
    refine (Exact.zero_iff ?_ zero bandp.symm same.symm).1 exact
    rw [bandp, same, nband]
  · obtain ⟨ix, qb, found, there, here⟩ :=
      Queue.findQband_spec (e := e) holds.counted (by simp) (by omega)
    have found' : (s.unlink e.id).q.findQband e.msg.bBand = some ix := found
    have there' : (s.unlink e.id).q.qBandp[ix]? = some qb := there
    have unlinked : Exact (s.unlink e.id).q (a ++ e :: b) :=
      exact.congr rfl rfl
    rw [if_neg zero] at done
    simp only [rmvqBand, Option.bind_eq_bind, unlink_msg, content, found',
      Option.bind_some, Option.bind_eq_some_iff] at done
    obtain ⟨⟨q, be'⟩, released, done⟩ := done
    cases done
    refine unlinked.releaseBand nband here there' ?_ released
    refine (exact ix qb there).remove holds.linked.nodup holds.ordered
      ((e.ofBand_iff (by omega)).2 here) ?_
    rw [← holds.toThreaded.next_eq, ← holds.toThreaded.prev_eq]

/-- The condition under which `__getq` leaves the markers right: the message
it takes is outside the bands, alone on the queue, or not the last of its
band. -/
def Keeps : List Entry → Prop
  | [] => True
  | e :: b =>
      e.msg.bBand = 0 ∨ b = [] ∨ ∃ e' ∈ b, e'.msg.bBand = e.msg.bBand

theorem keeps_iff (ordered : Ordered Entry.cls (e :: b))
    (positive : 0 < e.msg.bBand) :
    Keeps (e :: b) ↔
      (b.map Entry.id).head? = (inBand b e.msg.bBand).head? := by
  have after := head?_inBand (a := []) ordered
    ((e.ofBand_iff positive).2 rfl)
  constructor
  · rintro (zero | rfl | ⟨e', held, same⟩)
    · omega
    · rfl
    · refine (after ?_).symm
      intro empty
      have member : e'.id ∈ inBand b e.msg.bBand :=
        List.mem_map_of_mem
          (List.mem_filter.2 ⟨held, (e'.ofBand_iff positive).2 same⟩)
      rw [empty] at member
      cases member
  · intro eq
    cases b with
    | nil => exact .inr (.inl rfl)
    | cons next rest =>
        rw [List.map_cons, List.head?_cons] at eq
        obtain ⟨e', held, here, _⟩ := mem_inBand (List.mem_of_head? eq.symm)
        exact .inr (.inr ⟨e', held, (e'.ofBand_iff positive).1 here⟩)

theorem getq_last (ends : Ends qb band (e :: b))
    (nodup : ((e :: b).map Entry.id).Nodup)
    (here : e.ofBand band = true) :
    (if qb.qbLast = some e.id then none else qb.qbLast) =
      (inBand b band).getLast? := by
  rw [List.map_cons, List.nodup_cons] at nodup
  rw [ends.last, inBand_cons_of_pos here]
  cases tail : inBand b band with
  | nil => simp
  | cons mp rest =>
      rw [List.getLast?_cons_cons, if_neg]
      intro eq
      refine nodup.1 (@inBand_subset _ band _ ?_)
      rw [tail]
      exact List.mem_of_getLast? eq

theorem getqLocked_exact (holds : Holds s l) (exact : Exact s.q l)
    {mp : Option Addr} (done : s.getqLocked = some (s', mp, be)) :
    Exact s'.q l.tail ↔ Keeps l := by
  unfold getqLocked at done
  cases l with
  | nil =>
      have first : s.q.qFirst = none := holds.linked.first_eq
      simp only [first] at done
      cases done
      simp only [Keeps, iff_true]
      exact exact.congr rfl rfl
  | cons e b =>
      have content := holds.content e (by simp)
      have first : s.q.qFirst = some e.id := holds.linked.first_eq
      have next : s.heap.next e.id = (b.map Entry.id).head? :=
        Threaded.next_eq (a := []) holds.toThreaded
      have nband := holds.counted.nband
      simp only [first, unlinkFirst_msg, content] at done
      by_cases zero : e.msg.bBand = 0
      · obtain ⟨_, _, eq, _⟩ := (s.unlinkFirst e.id).q.release_spec
          (msgsize e.msg)
        simp only [if_pos zero, eq, Option.bind_eq_bind,
          Option.bind_some] at done
        cases done
        simp only [List.tail_cons, Keeps, zero, true_or, iff_true]
        exact (Exact.zero_iff (a := []) nband zero rfl rfl).1 exact
      · have positive : 0 < e.msg.bBand := by omega
        obtain ⟨ix, qb, found, there, here⟩ :=
          Queue.findQband_spec (e := e) holds.counted (by simp) positive
        have found' : (s.unlinkFirst e.id).q.findQband e.msg.bBand =
          some ix := found
        have there' : (s.unlinkFirst e.id).q.qBandp[ix]? = some qb := there
        have unlinked : Exact (s.unlinkFirst e.id).q ([] ++ e :: b) :=
          exact.congr rfl rfl
        simp only [if_neg zero, found', Option.bind_eq_bind,
          Option.bind_some, Option.bind_eq_some_iff] at done
        obtain ⟨⟨q, be'⟩, released, done⟩ := done
        cases done
        have decides := unlinked.releaseBand_iff nband here there' released
        have last := getq_last (exact ix qb there) holds.linked.nodup
          ((e.ofBand_iff (by omega)).2 here)
        have same : (s.unlinkFirst e.id).q.qNband - ix = e.msg.bBand :=
          here.symm
        rw [← here] at last
        rw [same] at decides
        rw [keeps_iff holds.ordered positive, ← next]
        constructor
        · intro exact'
          exact (decides.1 (exact'.congr rfl rfl)).first
        · intro eq
          exact (decides.2 ⟨eq, last⟩).congr rfl rfl

theorem flushBands_markers (bands : List Qband) (nband : Nat) :
    ∀ qb ∈ (flushBands bands nband).1,
      qb.qbFirst = none ∧ qb.qbLast = none := by
  induction bands generalizing nband with
  | nil => simp [flushBands]
  | cons head tail ih =>
      simp only [flushBands, List.mem_cons, forall_eq_or_imp, and_self,
        true_and]
      exact ih (nband - 1)

theorem flushAll_exact {mp : Addr} {chain : Flushed}
    (done : s.flushAll mp = some (s', chain)) : Exact s'.q [] := by
  simp only [flushAll, Option.bind_eq_bind, Option.bind_eq_some_iff] at done
  obtain ⟨last, _, done⟩ := done
  cases done
  intro ix qb found
  obtain ⟨first, last⟩ :=
    flushBands_markers _ _ qb (List.mem_of_getElem? found)
  exact ⟨first, last⟩

theorem flushData_exact (holds : Holds s (a ++ e :: b))
    (exact : Exact s.q (a ++ e :: b)) {chain chain' : Flushed}
    (tail : ∀ last, chain.tail = some last →
      last ∉ (a ++ e :: b).map Entry.id)
    (done : flushData fuel s e.id chain = some (s', chain')) :
    Exact s'.q (a ++ (e :: b).filter fun e => !e.msg.isdatamsg) := by
  induction fuel generalizing s a e b chain with
  | zero => cases done
  | succ fuel ih =>
      have content := holds.content e (by simp)
      have hnext := holds.toThreaded.next_eq
      have off := holds.toThreaded.fresh_of_split
      simp only [flushData, Option.bind_eq_bind, hnext, content] at done
      cases data : e.msg.isdatamsg with
      | false =>
          simp only [data, Bool.false_eq_true, if_false, Option.bind_some]
            at done
          rw [List.filter_cons_of_pos (by simp [data])]
          cases b with
          | nil =>
              cases done
              exact exact
          | cons next rest =>
              have passed : a ++ e :: next :: rest =
                (a ++ [e]) ++ next :: rest := by simp
              rw [passed] at holds exact tail
              simpa using ih holds exact tail done
      | true =>
          obtain ⟨s₁, be, removed, holds₁, _⟩ := rmvqLocked_spec holds
          have exact₁ := rmvqLocked_exact holds exact removed
          simp only [data, if_true, removed, Option.bind_some] at done
          have chained := chainOn_spec (if be then
              { chain with bands := (s₁.heap.msg e.id).bBand :: chain.bands }
            else chain) e.id holds₁ (by simpa using off) (by
              intro last eq
              have := tail last (by cases be <;> exact eq)
              simp only [List.map_append, List.map_cons, List.mem_append,
                List.mem_cons] at this ⊢
              tauto)
          rw [List.filter_cons_of_neg (by simp [data])]
          cases b with
          | nil =>
              cases done
              exact exact₁
          | cons next rest =>
              exact ih (s := (s₁.chainOn _ e.id).1) chained.1 exact₁
                chained.2 done

theorem flushqLocked_exact (holds : Holds s l) (exact : Exact s.q l)
    {flag : FlushFlag} {chain : Flushed}
    (done : s.flushqLocked fuel flag = some (s', chain)) :
    Exact s'.q (flushed flag l) := by
  unfold flushqLocked at done
  cases l with
  | nil =>
      have first : s.q.qFirst = none := holds.linked.first_eq
      simp only [first] at done
      cases done
      cases flag <;> exact exact
  | cons e b =>
      have first : s.q.qFirst = some e.id := holds.linked.first_eq
      simp only [first] at done
      cases flag with
      | flushall => exact flushAll_exact done
      | flushdata =>
          exact flushData_exact (a := []) holds exact
            (by simp [Flushed.empty]) done

theorem exec_exact {op : Op} {outcome : Outcome} (holds : Holds s l)
    (exact : Exact s.q l) (legal : op.Legal l) (enough : l.length ≤ fuel)
    (done : s.exec fuel op = some (s', outcome)) :
    Exact s'.q (op.spec outcome l) ↔ (op = .getq → Keeps l) := by
  cases op with
  | putq mp m mem =>
      simp only [exec, putq, Option.bind_eq_bind, Option.bind_eq_some_iff]
        at done
      obtain ⟨⟨s₁, result⟩, put, done⟩ := done
      cases done
      have placed := putqLocked_exact (e := Entry.put mp m)
        (holds.setMsg m legal) exact (by simp [Entry.put]) enough put
      simp only [reduceCtorEq, false_implies, iff_true]
      by_cases zero : result = 0
      · rw [PutExact, if_pos zero] at placed
        rw [zero, Op.spec, if_pos putOutcome_refused]
        exact placed
      · rw [PutExact, if_neg zero] at placed
        have one := putOutcome_accepted (Nat.pos_iff_ne_zero.2 zero)
        rw [Op.spec, if_neg (by omega)]
        exact placed
  | putbq mp m mem =>
      simp only [exec, putbq, Option.bind_eq_bind, Option.bind_eq_some_iff]
        at done
      obtain ⟨⟨s₁, result⟩, put, done⟩ := done
      cases done
      have placed := putbqLocked_exact (e := Entry.put mp m)
        (holds.setMsg m legal) exact (by simp [Entry.put]) enough put
      simp only [reduceCtorEq, false_implies, iff_true]
      by_cases zero : result = 0
      · rw [PutExact, if_pos zero] at placed
        rw [zero, Op.spec, if_pos putOutcome_refused]
        exact placed
      · rw [PutExact, if_neg zero] at placed
        have one := putOutcome_accepted (Nat.pos_iff_ne_zero.2 zero)
        rw [Op.spec, if_neg (by omega)]
        exact placed
  | getq =>
      simp only [exec, getq, Option.bind_eq_bind, Option.bind_eq_some_iff]
        at done
      obtain ⟨⟨s₁, mp, be⟩, got, done⟩ := done
      cases done
      simp only [forall_const]
      exact getqLocked_exact holds exact got
  | rmvq mp =>
      simp only [exec, rmvq, Option.bind_eq_bind, Option.bind_eq_some_iff]
        at done
      obtain ⟨⟨s₁, be⟩, removed, done⟩ := done
      cases done
      obtain ⟨e, held, rfl⟩ := List.mem_map.1 legal
      obtain ⟨a, b, rfl⟩ := List.append_of_mem held
      simp only [reduceCtorEq, false_implies, iff_true]
      rw [Op.spec, filter_id holds.toThreaded]
      exact rmvqLocked_exact holds exact removed
  | flushq flag =>
      simp only [exec, flushq, Option.bind_eq_bind, Option.bind_eq_some_iff]
        at done
      obtain ⟨⟨s₁, chain⟩, flush, done⟩ := done
      cases done
      simp only [reduceCtorEq, false_implies, iff_true]
      exact flushqLocked_exact holds exact flush
  | bcanput nfsrv band =>
      obtain ⟨q, nfsrv', result, eq, marked⟩ :=
        Queue.bcanput_spec holds.counted.nband nfsrv band legal
      simp only [exec, eq, Option.bind_eq_bind, Option.bind_some] at done
      cases done
      simp only [reduceCtorEq, false_implies, iff_true]
      exact exact.marked marked
  | bcanputnext caller band =>
      obtain ⟨q, result, eq, marked⟩ :=
        Queue.bcanputnext_spec caller holds.counted.nband band
      simp only [exec, eq, Option.bind_eq_bind, Option.bind_some] at done
      cases done
      simp only [reduceCtorEq, false_implies, iff_true]
      exact exact.marked marked

end QState

def AlwaysExact : List Call → Prop
  | [] => True
  | call :: earlier =>
      Exact call.after (specRun (call :: earlier)) ∧ AlwaysExact earlier

/-- No `getq` of the run takes the last message of a band from in front of
other messages. -/
def KeptBands : List Call → Prop
  | [] => True
  | call :: earlier =>
      (call.op = .getq → QState.Keeps (specRun earlier)) ∧ KeptBands earlier

theorem AlwaysExact.last {start s : QState} {trace : List Call}
    (fresh : Exact start.q []) (run : Run start trace s)
    (always : AlwaysExact trace) : Exact s.q (specRun trace) := by
  cases run with
  | nil => exact fresh
  | step => exact always.1

/-- From an empty queue whose bands are unmarked, the markers are exact
throughout a run exactly when `getq` never takes the last message of a band
while messages remain behind it. -/
theorem markers_exact_iff {start s : QState} {trace : List Call}
    (empty : start.Empty) (fresh : Exact start.q [])
    (run : Run start trace s) : AlwaysExact trace ↔ KeptBands trace := by
  induction run with
  | nil => exact Iff.rfl
  | @step trace s s' op outcome fuel run legal enough exec ih =>
      simp only [AlwaysExact, KeptBands, ih]
      rw [and_congr_left_iff]
      intro kept
      have exact := AlwaysExact.last fresh run (ih.2 kept)
      exact QState.exec_exact (run.holds empty) exact legal enough exec

theorem markers_exact_iff_fresh :
    ∃ trace s, Run (QState.fresh 16 4) trace s ∧ trace.length = 3 ∧
      (AlwaysExact trace ↔ KeptBands trace) := by
  have put := @Run.step (QState.fresh 16 4) _ _ _
    (.putq 1 ⟨1, M_DATA, [(0, 1)]⟩ 1) _ 2 .nil (by decide) (by decide) rfl
  have both := @Run.step _ _ _ _ (.putq 2 ⟨1, M_DATA, [(0, 1)]⟩ 1) _ 2 put
    (by decide +kernel) (by decide +kernel) rfl
  have got := @Run.step _ _ _ _ .getq _ 2 both trivial (by decide +kernel) rfl
  exact ⟨_, _, got, rfl, markers_exact_iff (QState.fresh_empty 16 4)
    (by intro ix qb found; cases found) got⟩

theorem markers_stale :
    ∃ trace s, Run (QState.fresh 16 4) trace s ∧
      s.q.qBandp.map Qband.qbFirst = [some 2] ∧
      inBand (specRun trace) 1 = [] := by
  have put := @Run.step (QState.fresh 16 4) _ _ _
    (.putq 1 ⟨1, M_DATA, [(0, 1)]⟩ 1) _ 2 .nil (by decide) (by decide) rfl
  have both := @Run.step _ _ _ _ (.putq 2 ⟨0, M_DATA, [(0, 1)]⟩ 1) _ 2 put
    (by decide +kernel) (by decide +kernel) rfl
  have got := @Run.step _ _ _ _ .getq _ 2 both trivial (by decide +kernel) rfl
  exact ⟨_, _, got, rfl, by decide⟩

end OpenSS7.Streams
