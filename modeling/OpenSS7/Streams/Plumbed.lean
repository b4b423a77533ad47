import OpenSS7.Streams.Caches

/-!
When the cached pointers of a stream are right.
-/

namespace OpenSS7.Streams

/-- The read queues along `q_next`, for the pairs below the head, top first. -/
def readChain (head : Nat) (pairs : List Nat) : List QueuePtr :=
  (pairs.map rd).reverse ++ [rd head]

/-- The write queues along `q_next`. -/
def writeChain (head : Nat) (pairs : List Nat) : List QueuePtr :=
  wr head :: pairs.map wr

namespace Plumbing

/-- `q_next` leads down the write queues of the pairs and up the read ones. -/
def Piped (s : Plumbing) (pairs : List Nat) : Prop :=
  ∀ a x b, pairs = a ++ x :: b →
    s.qNext (wr x) = b.head?.map wr ∧ s.qNext (rd x) = a.getLast?.map rd

structure Kept (s : Plumbing) (pairs : List Nat) : Prop where
  once : (s.sdRq :: pairs).Nodup
  piped : s.Piped (s.sdRq :: pairs)
  read : s.Caches (readChain s.sdRq pairs)
  write : s.Caches (writeChain s.sdRq pairs)
  readSrv : s.qsrvp (rd s.sdRq) = true
  writeSrv : s.qsrvp (wr s.sdRq) = true
  headOn : s.qprocs (rd s.sdRq) = false
  on : ∀ p ∈ pairs, s.qprocs (rd p) = false

section Chains

variable {s s' : Plumbing} {pairs : List Nat} {x y : Nat}
  {l : List QueuePtr}

@[simp] theorem rd_inj : rd x = rd y ↔ x = y := by simp [rd]

@[simp] theorem wr_inj : wr x = wr y ↔ x = y := by simp [wr]

@[simp] theorem rd_ne_wr : rd x ≠ wr y := by simp [rd, wr]

@[simp] theorem wr_ne_rd : wr x ≠ rd y := by simp [rd, wr]

@[simp] theorem otherq_rd : (rd x).otherq = wr x := rfl

@[simp] theorem otherq_wr : (wr x).otherq = rd x := rfl

theorem backq_rd : s.backq (rd x) = (s.qNext (wr x)).map QueuePtr.otherq := rfl

theorem backq_wr : s.backq (wr x) = (s.qNext (rd x)).map QueuePtr.otherq := rfl

theorem readChain_eq (head : Nat) (pairs : List Nat) :
    readChain head pairs = ((head :: pairs).map rd).reverse := by
  rw [List.map_cons, List.reverse_cons, readChain]

theorem readChain_cons (head x : Nat) (pairs : List Nat) :
    readChain head (x :: pairs) =
      (pairs.map rd).reverse ++ rd x :: [rd head] := by
  rw [readChain, List.map_cons, List.reverse_cons, List.append_assoc]
  rfl

theorem Piped.write (piped : s.Piped pairs) : s.Links (pairs.map wr) := by
  intro a q b split
  obtain ⟨c, d, rfl, rfl, tail⟩ := List.map_eq_append_iff.mp split
  obtain ⟨x, e, rfl, rfl, rfl⟩ := List.map_eq_cons_iff.mp tail
  obtain ⟨down, up⟩ := piped c x e rfl
  refine ⟨by rw [down, List.head?_map], ?_⟩
  rw [backq_wr, up, Option.map_map, List.getLast?_map]
  rfl

theorem Piped.read (piped : s.Piped pairs) :
    s.Links (pairs.map rd).reverse := by
  intro a q b split
  rw [List.reverse_eq_iff, List.reverse_append, List.reverse_cons,
    List.append_assoc, List.singleton_append] at split
  obtain ⟨c, d, rfl, front, tail⟩ := List.map_eq_append_iff.mp split
  obtain ⟨x, e, rfl, rfl, back⟩ := List.map_eq_cons_iff.mp tail
  obtain ⟨down, up⟩ := piped c x e rfl
  have first : b.head? = (c.map rd).getLast? := by
    rw [front, List.getLast?_reverse]
  have last : a.getLast? = (e.map rd).head? := by
    rw [back, List.head?_reverse]
  refine ⟨by rw [up, first, List.getLast?_map], ?_⟩
  rw [backq_rd, down, last, Option.map_map, List.head?_map]
  rfl

theorem Links.congr (links : s.Links l) (next : s'.qNext = s.qNext) :
    s'.Links l := by
  intro a q b split
  obtain ⟨forth, back⟩ := links a q b split
  refine ⟨by rw [next, forth], ?_⟩
  rw [backq, next]
  exact back

theorem Piped.congr (piped : s.Piped pairs) (next : s'.qNext = s.qNext) :
    s'.Piped pairs := by
  intro a x b split
  rw [next]
  exact piped a x b split

theorem Caches.congr (caches : s.Caches l)
    (nfsrv : ∀ q ∈ l, s'.qNfsrv q = s.qNfsrv q)
    (nbsrv : ∀ q ∈ l, s'.qNbsrv q = s.qNbsrv q)
    (srv : ∀ q ∈ l, s'.qsrvp q = s.qsrvp q) : s'.Caches l := by
  rintro a q b rfl
  obtain ⟨back, forth⟩ := caches a q b rfl
  have member : q ∈ a ++ q :: b := by simp
  rw [nbsrv q member, nfsrv q member, back, forth]
  refine ⟨?_, ?_⟩
  · exact (lastSrv_congr fun z here =>
      srv z (List.mem_append_left _ here)).symm
  · exact (forward_congr srv).symm

theorem side_readChain {q : QueuePtr} (member : q ∈ readChain x pairs) :
    q.side = .read := by
  rw [readChain_eq, List.mem_reverse] at member
  obtain ⟨y, _, rfl⟩ := List.mem_map.mp member
  rfl

theorem side_writeChain {q : QueuePtr} (member : q ∈ writeChain x pairs) :
    q.side = .write := by
  obtain ⟨y, _, rfl⟩ : ∃ y ∈ x :: pairs, wr y = q := List.mem_map.mp member
  rfl

theorem nodup_writeChain (once : (x :: pairs).Nodup) :
    (writeChain x pairs).Nodup :=
  once.map fun _ _ => wr_inj.mp

theorem nodup_readChain (once : (x :: pairs).Nodup) :
    (readChain x pairs).Nodup := by
  rw [readChain_eq, List.nodup_reverse]
  exact once.map fun _ _ => rd_inj.mp

end Chains

section Attach

variable {s s' : Plumbing} {pairs : List Nat} {x fuel : Nat}
  {rsrv wsrv : Bool}

structure Joined (s s' : Plumbing) (pairs : List Nat) (x : Nat)
    (rsrv wsrv : Bool) : Prop where
  head : s'.sdRq = s.sdRq
  next : ∀ q, s'.qNext q =
    if q = wr s.sdRq then some (wr x)
    else if pairs.head?.map rd = some q then some (rd x)
    else if q = wr x then s.qNext (wr s.sdRq)
    else if q = rd x then some (rd s.sdRq) else s.qNext q
  nfsrv : ∀ q, s'.qNfsrv q =
    if q = wr x then s.qNfsrv (wr s.sdRq)
    else if q = rd x then some (rd s.sdRq) else s.qNfsrv q
  nbsrv : ∀ q, s'.qNbsrv q =
    if q = rd x then s.qNbsrv (rd s.sdRq)
    else if q = wr x then some (wr s.sdRq) else s.qNbsrv q
  srv : ∀ q, s'.qsrvp q =
    if q = wr x then wsrv else if q = rd x then rsrv else s.qsrvp q
  procs : ∀ q, s'.qprocs q =
    if q = wr x then false else if q = rd x then false else s.qprocs q

theorem procs_setProcs {y : Nat} {b : Bool} (other : y ≠ x) :
    (s.setProcs x b).qprocs (rd y) = s.qprocs (rd y) := by
  simp [setProcs, Function.update_apply, other]

theorem procs_qinsert : (s.qinsert x).qprocs = s.qprocs := by
  unfold qinsert
  simp only
  rw [apply_ite qprocs]
  exact ite_self _

theorem Kept.down (kept : s.Kept pairs) :
    s.qNext (wr s.sdRq) = pairs.head?.map wr :=
  (kept.piped [] s.sdRq pairs rfl).1

theorem Kept.joined (kept : s.Kept pairs) (fresh : x ∉ s.sdRq :: pairs) :
    Joined s (((((s.qalloc x rsrv wsrv).qinsert x).setProcs x false).join
      (rd x)).join (wr x)) pairs x rsrv wsrv := by
  rw [List.mem_cons, not_or] at fresh
  obtain ⟨other, outside⟩ := fresh
  have other' : s.sdRq ≠ x := Ne.symm other
  have down := kept.down
  cases pairs with
  | nil =>
      rw [List.head?_nil, Option.map_none] at down
      refine ⟨?_, fun q => ?_, fun q => ?_, fun q => ?_, fun q => ?_,
        fun q => ?_⟩
      all_goals simp [qalloc, qinsert, setProcs, join, setNext, setNfsrv,
        setNbsrv, backq, Function.update_apply, down]
      by_cases here : q = wr x <;> by_cases there : q = rd x <;>
        simp [here, there]
  | cons t rest =>
      have top : x ≠ t := fun same => outside (same ▸ List.mem_cons_self)
      rw [List.head?_cons, Option.map_some] at down
      refine ⟨?_, fun q => ?_, fun q => ?_, fun q => ?_, fun q => ?_,
        fun q => ?_⟩
      all_goals simp [qalloc, qinsert, setProcs, join, setNext, setNfsrv,
        setNbsrv, backq, Function.update_apply, top, down, eq_comm]
      by_cases here : q = wr x <;> by_cases there : q = rd x <;>
        simp [here, there]

theorem Joined.piped (joined : Joined s s' pairs x rsrv wsrv)
    (kept : s.Kept pairs) (fresh : x ∉ s.sdRq :: pairs) :
    s'.Piped (s'.sdRq :: x :: pairs) := by
  have once := kept.once
  rw [List.nodup_cons] at once
  rw [List.mem_cons, not_or] at fresh
  have old : s.Piped ([s.sdRq] ++ pairs) := kept.piped
  obtain ⟨before, after⟩ := forall_split_append.mp old
  have topOther : ∀ y, pairs.head?.map rd ≠ some (wr y) := by
    intro y
    cases pairs <;> simp
  rw [joined.head]
  refine forall_split_insert (a := [s.sdRq]).mpr ⟨?_, ?_, ?_⟩
  · intro a y b split
    obtain ⟨rfl, rfl, rfl⟩ : a = [] ∧ y = s.sdRq ∧ b = [] := by
      cases a with
      | nil => simpa using split.symm
      | cons z rest => simp at split
    have topHead : pairs.head?.map rd ≠ some (rd s.sdRq) := by
      intro same
      obtain ⟨t, top, eq⟩ := Option.map_eq_some_iff.mp same
      exact once.1 (rd_inj.mp eq ▸ List.mem_of_head? top)
    refine ⟨by rw [joined.next, if_pos rfl]; rfl, ?_⟩
    rw [joined.next, if_neg rd_ne_wr, if_neg topHead, if_neg rd_ne_wr,
      if_neg (fun same => fresh.1 (rd_inj.mp same).symm)]
    exact (before [] s.sdRq [] rfl).2
  · have topHere : pairs.head?.map rd ≠ some (rd x) := by
      intro same
      obtain ⟨t, top, eq⟩ := Option.map_eq_some_iff.mp same
      exact fresh.2 (rd_inj.mp eq ▸ List.mem_of_head? top)
    refine ⟨?_, ?_⟩
    · rw [joined.next, if_neg (fun same => fresh.1 (wr_inj.mp same)),
        if_neg (topOther x), if_pos rfl, kept.down]
    · rw [joined.next, if_neg rd_ne_wr, if_neg topHere, if_neg rd_ne_wr,
        if_pos rfl]
      rfl
  · intro a y b split
    have member : y ∈ pairs := by rw [split]; simp
    have notHead : y ≠ s.sdRq := fun same => once.1 (same ▸ member)
    have notHere : y ≠ x := fun same => fresh.2 (same ▸ member)
    obtain ⟨down, up⟩ := after a y b split
    refine ⟨?_, ?_⟩
    · rw [joined.next, if_neg (fun same => notHead (wr_inj.mp same)),
        if_neg (topOther y), if_neg (fun same => notHere (wr_inj.mp same)),
        if_neg wr_ne_rd, down]
    · rw [joined.next, if_neg rd_ne_wr]
      cases a with
      | nil =>
          rw [split]
          exact if_pos rfl
      | cons t rest =>
          have notTop : pairs.head?.map rd ≠ some (rd y) := by
            rw [split]
            intro same
            have eq : t = y := rd_inj.mp (Option.some.inj same)
            have nodup := once.2
            rw [split, eq] at nodup
            exact (List.nodup_cons.mp nodup).1 (by simp)
          rw [if_neg notTop, if_neg rd_ne_wr,
            if_neg (fun same => notHere (rd_inj.mp same)), up]
          simp

theorem Joined.others (joined : Joined s s' pairs x rsrv wsrv)
    {q : QueuePtr} (other : q.pair ≠ x) :
    s'.qNfsrv q = s.qNfsrv q ∧ s'.qNbsrv q = s.qNbsrv q ∧
      s'.qsrvp q = s.qsrvp q ∧ s'.qprocs q = s.qprocs q := by
  have notWr : q ≠ wr x := fun same => other (same ▸ rfl)
  have notRd : q ≠ rd x := fun same => other (same ▸ rfl)
  rw [joined.nfsrv, joined.nbsrv, joined.srv, joined.procs]
  simp [notWr, notRd]

theorem Joined.caches (joined : Joined s s' pairs x rsrv wsrv)
    {l : List QueuePtr} (caches : s.Caches l)
    (others : ∀ q ∈ l, q.pair ≠ x) : s'.Caches l :=
  caches.congr (fun q member => (joined.others (others q member)).1)
    (fun q member => (joined.others (others q member)).2.1)
    fun q member => (joined.others (others q member)).2.2.1

theorem pair_readChain {head : Nat} {q : QueuePtr}
    (member : q ∈ readChain head pairs) : q.pair ∈ head :: pairs := by
  rw [readChain_eq, List.mem_reverse] at member
  obtain ⟨y, inside, rfl⟩ := List.mem_map.mp member
  exact inside

theorem pair_writeChain {head : Nat} {q : QueuePtr}
    (member : q ∈ writeChain head pairs) : q.pair ∈ head :: pairs := by
  obtain ⟨y, inside, rfl⟩ : ∃ y ∈ head :: pairs, wr y = q :=
    List.mem_map.mp member
  exact inside

theorem length_readChain (head : Nat) :
    (readChain head pairs).length = pairs.length + 1 := by
  simp [readChain]

theorem length_writeChain (head : Nat) :
    (writeChain head pairs).length = pairs.length + 1 := by
  simp [writeChain]

theorem Frame.caches {l k : List QueuePtr} (frame : Frame s s' k)
    (caches : s.Caches l) (apart : ∀ q ∈ l, q ∉ k) : s'.Caches l :=
  caches.congr (fun q member => frame.nfsrv q (apart q member))
    (fun q member => frame.nbsrv q (apart q member))
    fun q _ => congrFun frame.srv q

theorem Kept.cacheOn (kept : s.Kept pairs) (fresh : x ∉ s.sdRq :: pairs)
    (joined : Joined s s' pairs x rsrv wsrv)
    (enough : pairs.length + 2 ≤ fuel) :
    ∃ s₁ s₂, s'.cacheOn fuel (rd x) = some s₁ ∧
      s₁.cacheOn fuel (wr x) = some s₂ ∧ s₂.sdRq = s.sdRq ∧
      s₂.qNext = s'.qNext ∧ s₂.qsrvp = s'.qsrvp ∧ s₂.qprocs = s'.qprocs ∧
      s₂.Caches (readChain s.sdRq (x :: pairs)) ∧
      s₂.Caches (writeChain s.sdRq (x :: pairs)) := by
  have once : (s.sdRq :: x :: pairs).Nodup := by
    have nodup := kept.once
    rw [List.mem_cons, not_or] at fresh
    simp only [List.nodup_cons, List.mem_cons, not_or] at nodup ⊢
    exact ⟨⟨Ne.symm fresh.1, nodup.1⟩, fresh.2, nodup.2⟩
  have piped := joined.piped kept fresh
  rw [joined.head] at piped
  have head : s.sdRq ≠ x := fun same => fresh (same ▸ List.mem_cons_self)
  have readOthers : ∀ q ∈ readChain s.sdRq pairs, q.pair ≠ x :=
    fun q member same => fresh (same ▸ pair_readChain member)
  have writeOthers : ∀ q ∈ writeChain s.sdRq pairs, q.pair ≠ x :=
    fun q member same => fresh (same ▸ pair_writeChain member)
  have apart : ∀ q ∈ writeChain s.sdRq (x :: pairs),
      q ∉ readChain s.sdRq (x :: pairs) := fun q member other =>
    nomatch (side_readChain other).symm.trans (side_writeChain member)
  -- the read queue goes in below the head
  have readLinks : s'.Links (readChain s.sdRq (x :: pairs)) := by
    rw [readChain_eq]
    exact piped.read
  have readNbsrv : s'.qNbsrv (rd x) =
      lastSrv s'.qsrvp (pairs.map rd).reverse := by
    rw [joined.nbsrv, if_pos rfl, (kept.read _ (rd s.sdRq) [] rfl).1]
    exact (lastSrv_congr fun q member => (joined.others
      (readOthers q (List.mem_append_left _ member))).2.2.1).symm
  have readNfsrv : s'.qNfsrv (rd x) = nearest s'.qsrvp [rd s.sdRq] := by
    rw [joined.nfsrv, if_neg rd_ne_wr, if_pos rfl, nearest_cons,
      if_pos (.inr rfl)]
  have readOnce := nodup_readChain once
  have readShort : (readChain s.sdRq (x :: pairs)).length ≤ fuel := by
    rw [length_readChain]
    exact enough
  rw [readChain_cons] at readLinks readOnce readShort
  obtain ⟨s₁, done₁, caches₁, frame₁⟩ := cacheOn_spec readLinks
    (joined.caches kept.read readOthers) readNbsrv readNfsrv readOnce
    (.inl ⟨_, rfl⟩) readShort
  rw [← readChain_cons] at caches₁ frame₁
  -- the write queue right behind the head
  have writeLinks : s₁.Links ([wr s.sdRq] ++ wr x :: pairs.map wr) :=
    Links.congr piped.write frame₁.next
  have notRead : ∀ y ∈ s.sdRq :: x :: pairs,
      wr y ∉ readChain s.sdRq (x :: pairs) := fun y member =>
    apart (wr y) (List.mem_map_of_mem member)
  have writeCaches : s₁.Caches ([wr s.sdRq] ++ pairs.map wr) := by
    apply frame₁.caches (joined.caches kept.write writeOthers)
    exact fun q member other =>
      nomatch (side_readChain other).symm.trans (side_writeChain member)
  have headSrv : s₁.qsrvp (wr s.sdRq) = true := by
    rw [frame₁.srv, (joined.others head).2.2.1]
    exact kept.writeSrv
  have writeNbsrv : s₁.qNbsrv (wr x) = lastSrv s₁.qsrvp [wr s.sdRq] := by
    rw [frame₁.nbsrv _ (notRead x (by simp)), joined.nbsrv, if_neg wr_ne_rd,
      if_pos rfl, lastSrv_cons, headSrv]
    rfl
  have writeNfsrv : s₁.qNfsrv (wr x) =
      nearest s₁.qsrvp (pairs.map wr) := by
    rw [frame₁.nfsrv _ (notRead x (by simp)), joined.nfsrv, if_pos rfl,
      (kept.write [] (wr s.sdRq) _ rfl).2, forward]
    simp only [List.nil_append, List.any_cons, List.any_nil, Bool.or_false,
      kept.writeSrv, if_true]
    apply (nearest_congr fun q member => ?_).symm
    rw [frame₁.srv]
    exact (joined.others
      (writeOthers q (List.mem_cons_of_mem _ member))).2.2.1
  have writeShort : (writeChain s.sdRq (x :: pairs)).length ≤ fuel := by
    rw [length_writeChain]
    exact enough
  obtain ⟨s₂, done₂, caches₂, frame₂⟩ := cacheOn_spec writeLinks writeCaches
    writeNbsrv writeNfsrv (nodup_writeChain once) (.inr ⟨_, rfl, headSrv⟩)
    writeShort
  refine ⟨s₁, s₂, done₁, done₂, ?_, ?_, ?_, ?_, ?_, caches₂⟩
  · rw [frame₂.head, frame₁.head, joined.head]
  · rw [frame₂.next, frame₁.next]
  · rw [frame₂.srv, frame₁.srv]
  · rw [frame₂.procs, frame₁.procs]
  · exact frame₂.caches caches₁ fun q member other => apart q other member

theorem Kept.attach (kept : s.Kept pairs) (fresh : x ∉ s.sdRq :: pairs)
    (enough : pairs.length + 2 ≤ fuel) :
    ∃ s', s.qattach fuel x rsrv wsrv = some s' ∧ s'.Kept (x :: pairs) ∧
      s'.sdRq = s.sdRq ∧ s'.qsrvp (rd x) = rsrv ∧
      ∀ y, y ≠ x → s'.qsrvp (rd y) = s.qsrvp (rd y) := by
  have joined : Joined s _ pairs x rsrv wsrv := kept.joined fresh
  obtain ⟨s₁, s₂, done₁, done₂, head, next, srv, procs, read, write⟩ :=
    kept.cacheOn fresh joined enough
  have other : s.sdRq ≠ x := fun same => fresh (same ▸ List.mem_cons_self)
  have started : ((s.qalloc x rsrv wsrv).qinsert x).qprocs (rd x) = true := by
    rw [procs_qinsert]
    simp [qalloc, setProcs, Function.update_apply]
  refine ⟨s₂, ?_, ⟨?_, ?_, ?_, ?_, ?_, ?_, ?_, ?_⟩, head, ?_, ?_⟩
  · rw [qattach, qprocson, if_pos started]
    simp only [done₁, Option.bind_eq_bind, Option.bind_some]
    exact done₂
  · rw [head]
    have nodup := kept.once
    rw [List.mem_cons, not_or] at fresh
    simp only [List.nodup_cons, List.mem_cons, not_or] at nodup ⊢
    exact ⟨⟨Ne.symm fresh.1, nodup.1⟩, fresh.2, nodup.2⟩
  · have piped := joined.piped kept fresh
    rw [joined.head] at piped
    rw [head]
    exact piped.congr next
  · rw [head]
    exact read
  · rw [head]
    exact write
  · rw [head, srv, (joined.others other).2.2.1]
    exact kept.readSrv
  · rw [head, srv, (joined.others other).2.2.1]
    exact kept.writeSrv
  · rw [head, procs, (joined.others other).2.2.2]
    exact kept.headOn
  · intro p member
    rw [procs]
    rcases List.mem_cons.mp member with rfl | member
    · rw [joined.procs, if_neg rd_ne_wr, if_pos rfl]
    · have strange : p ≠ x := fun same =>
        fresh (same ▸ List.mem_cons_of_mem _ member)
      rw [(joined.others (q := rd p) strange).2.2.2]
      exact kept.on p member
  · rw [srv, joined.srv, if_neg rd_ne_wr, if_pos rfl]
  · intro y strange
    rw [srv]
    exact (joined.others strange).2.2.1

end Attach

section Detach

variable {s s' : Plumbing} {pairs rest : List Nat} {t x fuel : Nat}

theorem Kept.cacheOff (kept : s.Kept (x :: pairs)) (below : pairs ≠ [])
    (enough : pairs.length + 2 ≤ fuel) :
    ∃ s₁ s₂, (s.setProcs x true).cacheOff fuel (rd x) = some s₁ ∧
      s₁.cacheOff fuel (wr x) = some s₂ ∧ s₂.sdRq = s.sdRq ∧
      s₂.qNext = s.qNext ∧ s₂.qsrvp = s.qsrvp ∧
      s₂.qprocs = (s.setProcs x true).qprocs ∧
      s₂.Caches (readChain s.sdRq pairs) ∧
      s₂.Caches (writeChain s.sdRq pairs) := by
  have apart : ∀ l : List Nat, ∀ q ∈ writeChain s.sdRq l,
      q ∉ readChain s.sdRq pairs := fun l q member other =>
    nomatch (side_readChain other).symm.trans (side_writeChain member)
  have readLinks : (s.setProcs x true).Links
      (readChain s.sdRq (x :: pairs)) := by
    rw [readChain_eq]
    exact Links.congr kept.piped.read rfl
  have readCaches : (s.setProcs x true).Caches
      (readChain s.sdRq (x :: pairs)) := kept.read
  have readOnce := nodup_readChain kept.once
  have readShort : (readChain s.sdRq (x :: pairs)).length ≤ fuel := by
    rw [length_readChain]
    exact enough
  rw [readChain_cons] at readLinks readCaches readOnce readShort
  obtain ⟨s₁, done₁, caches₁, frame₁⟩ := cacheOff_spec readLinks readCaches
    readOnce (.inl ⟨_, rfl⟩) (List.cons_ne_nil _ _) readShort
  have writeLinks : s₁.Links ([wr s.sdRq] ++ wr x :: pairs.map wr) :=
    Links.congr kept.piped.write frame₁.next
  have writeCaches : s₁.Caches ([wr s.sdRq] ++ wr x :: pairs.map wr) :=
    frame₁.caches (s := s.setProcs x true) kept.write (apart (x :: pairs))
  have headSrv : s₁.qsrvp (wr s.sdRq) = true := by
    rw [frame₁.srv]
    exact kept.writeSrv
  have writeShort : (writeChain s.sdRq (x :: pairs)).length ≤ fuel := by
    rw [length_writeChain]
    exact enough
  obtain ⟨s₂, done₂, caches₂, frame₂⟩ := cacheOff_spec writeLinks writeCaches
    (nodup_writeChain kept.once) (.inr ⟨_, rfl, headSrv⟩)
    (fun none => below (List.map_eq_nil_iff.mp none)) writeShort
  refine ⟨s₁, s₂, done₁, done₂, ?_, ?_, ?_, ?_, ?_, caches₂⟩
  · rw [frame₂.head, frame₁.head]
    rfl
  · rw [frame₂.next, frame₁.next]
    rfl
  · rw [frame₂.srv, frame₁.srv]
    rfl
  · rw [frame₂.procs, frame₁.procs]
  · exact frame₂.caches caches₁ fun q member other => apart pairs q other member

structure Bypassed (s s' : Plumbing) (t x : Nat) : Prop where
  head : s'.sdRq = s.sdRq
  next : ∀ q, q.pair ≠ x → s'.qNext q =
    if q = wr s.sdRq then some (wr t)
    else if q = rd t then some (rd s.sdRq) else s.qNext q
  nfsrv : ∀ q, q.pair ≠ x → s'.qNfsrv q = s.qNfsrv q
  nbsrv : ∀ q, q.pair ≠ x → s'.qNbsrv q = s.qNbsrv q
  srv : s'.qsrvp = s.qsrvp
  procs : s'.qprocs = s.qprocs

theorem bypassed (head : s.sdRq ≠ x) (top : t ≠ x)
    (fromHead : s.qNext (wr s.sdRq) = some (wr x))
    (down : s.qNext (wr x) = some (wr t))
    (fromTop : s.qNext (rd t) = some (rd x))
    (up : s.qNext (rd x) = some (rd s.sdRq)) :
    Bypassed s (((s.bypass (rd x)).bypass (wr x)).qdelete x) t x := by
  have first : s.bypass (rd x) = s.setNext (rd t) (some (rd s.sdRq)) := by
    simp [bypass, backq, down, fromTop, up]
  have second : (s.bypass (rd x)).bypass (wr x) =
      (s.bypass (rd x)).setNext (wr s.sdRq) (some (wr t)) := by
    rw [first]
    simp [bypass, backq, setNext, Function.update_apply, down, fromHead, up,
      Ne.symm top]
  rw [second, first, qdelete]
  simp only [setNext, head, if_false]
  refine ⟨rfl, fun q other => ?_, fun q other => ?_, fun q other => ?_, rfl,
    rfl⟩
  all_goals
    have notWr : q ≠ wr x := fun same => other (same ▸ rfl)
    have notRd : q ≠ rd x := fun same => other (same ▸ rfl)
    simp [clear, setNext, setNfsrv, setNbsrv, Function.update_apply, notWr,
      notRd]

theorem Bypassed.piped (bypassed : Bypassed s s' t x)
    (once : (s.sdRq :: x :: t :: rest).Nodup)
    (piped : s.Piped (s.sdRq :: x :: t :: rest)) :
    s'.Piped (s'.sdRq :: t :: rest) := by
  rw [bypassed.head]
  simp only [List.nodup_cons, List.mem_cons, not_or] at once
  obtain ⟨⟨headX, headT, headRest⟩, ⟨topX, restX⟩, restT, _⟩ := once
  obtain ⟨_, _, after⟩ :=
    forall_split_insert (a := [s.sdRq]) (b := t :: rest).mp piped
  refine forall_split_append (a := [s.sdRq]).mpr ⟨?_, ?_⟩
  · intro a y b split
    obtain ⟨rfl, rfl, rfl⟩ : a = [] ∧ y = s.sdRq ∧ b = [] := by
      cases a with
      | nil => simpa using split.symm
      | cons z rest => simp at split
    refine ⟨by rw [bypassed.next _ headX, if_pos rfl]; rfl, ?_⟩
    rw [bypassed.next _ headX, if_neg rd_ne_wr,
      if_neg (fun same => headT (rd_inj.mp same))]
    exact (piped [] s.sdRq _ rfl).2
  · intro a y b split
    have member : y ∈ t :: rest := by rw [split]; simp
    have notHead : y ≠ s.sdRq := by
      rintro rfl
      rcases List.mem_cons.mp member with same | member
      · exact headT same
      · exact headRest member
    have notHere : y ≠ x := by
      rintro rfl
      rcases List.mem_cons.mp member with same | member
      · exact topX same
      · exact restX member
    obtain ⟨down, up⟩ := after a y b split
    refine ⟨?_, ?_⟩
    · rw [bypassed.next _ notHere,
        if_neg (fun same => notHead (wr_inj.mp same)), if_neg wr_ne_rd, down]
    · rw [bypassed.next _ notHere, if_neg rd_ne_wr]
      cases a with
      | nil =>
          obtain ⟨rfl, _⟩ := List.cons_eq_cons.mp split
          exact if_pos rfl
      | cons z before =>
          obtain ⟨rfl, tail⟩ := List.cons_eq_cons.mp split
          have strange : y ≠ t := by
            rintro rfl
            exact restT (by rw [tail]; simp)
          rw [if_neg (fun same => strange (rd_inj.mp same)), up]
          simp

theorem Kept.pop (kept : s.Kept (x :: t :: rest))
    (enough : rest.length + 3 ≤ fuel) :
    ∃ s', s.strPop fuel = some s' ∧ s'.Kept (t :: rest) ∧
      s'.sdRq = s.sdRq ∧ s'.qsrvp = s.qsrvp := by
  obtain ⟨s₁, s₂, done₁, done₂, head, next, srv, procs, read, write⟩ :=
    kept.cacheOff (List.cons_ne_nil _ _) enough
  have once := kept.once
  simp only [List.nodup_cons, List.mem_cons, not_or] at once
  obtain ⟨⟨headX, headT, headRest⟩, ⟨topX, restX⟩, restT, nodup⟩ := once
  obtain ⟨down, up⟩ := kept.piped [s.sdRq] x (t :: rest) rfl
  have fromHead := (kept.piped [] s.sdRq _ rfl).1
  have fromTop := (kept.piped [s.sdRq, x] t rest rfl).2
  rw [← next] at down up fromHead fromTop
  have bypassed : Bypassed s₂
      (((s₂.bypass (rd x)).bypass (wr x)).qdelete x) t x := by
    apply Plumbing.bypassed
    · rw [head]
      exact headX
    · exact Ne.symm topX
    · rw [head]
      exact fromHead
    · exact down
    · exact fromTop
    · rw [head]
      exact up
  have others : ∀ p ∈ s.sdRq :: t :: rest, p ≠ x := by
    intro p member same
    rw [same] at member
    rcases List.mem_cons.mp member with same | member
    · exact headX same.symm
    · rcases List.mem_cons.mp member with same | member
      · exact topX same
      · exact restX member
  have off : s.qprocsoff fuel x = some ((s₂.bypass (rd x)).bypass (wr x)) := by
    have running : s.qprocs (rd x) = false := kept.on x List.mem_cons_self
    have notHead : (s.setProcs x true).sdRq ≠ x := headX
    rw [qprocsoff, if_neg (by simp [running])]
    simp only
    rw [if_neg notHead]
    simp only [done₁, done₂, Option.bind_eq_bind, Option.bind_some]
  refine ⟨_, ?_, ⟨?_, ?_, ?_, ?_, ?_, ?_, ?_, ?_⟩,
    bypassed.head.trans head, bypassed.srv.trans srv⟩
  · rw [strPop, ← next, fromHead]
    change s.qdetach fuel x = _
    rw [qdetach, off]
    rfl
  · rw [bypassed.head, head]
    simp only [List.nodup_cons, List.mem_cons, not_or]
    exact ⟨⟨headT, headRest⟩, restT, nodup⟩
  · apply bypassed.piped
    · rw [head]
      exact kept.once
    · rw [head]
      exact kept.piped.congr next
  · rw [bypassed.head, head]
    refine read.congr ?_ ?_ ?_
    · exact fun q member => bypassed.nfsrv q (others _ (pair_readChain member))
    · exact fun q member => bypassed.nbsrv q (others _ (pair_readChain member))
    · exact fun q _ => congrFun bypassed.srv q
  · rw [bypassed.head, head]
    refine write.congr ?_ ?_ ?_
    · exact fun q member => bypassed.nfsrv q (others _ (pair_writeChain member))
    · exact fun q member => bypassed.nbsrv q (others _ (pair_writeChain member))
    · exact fun q _ => congrFun bypassed.srv q
  · rw [bypassed.head, bypassed.srv, head, srv]
    exact kept.readSrv
  · rw [bypassed.head, bypassed.srv, head, srv]
    exact kept.writeSrv
  · rw [bypassed.head, bypassed.procs, head, procs, procs_setProcs headX]
    exact kept.headOn
  · intro p member
    rw [bypassed.procs, procs,
      procs_setProcs (others p (List.mem_cons_of_mem _ member))]
    exact kept.on p (List.mem_cons_of_mem _ member)

end Detach

/-- Along the chain of `q_next`, each queue points at the nearest queues with
service procedures ahead of it and behind it, and the room that is looked for
ahead is that of the queue a walk along `q_next` comes to. -/
def Right (s : Plumbing) (l : List QueuePtr) : Prop :=
  ∀ a q b, l = a ++ q :: b → s.qNext q = b.head? ∧
    s.qNfsrv q = nearest s.qsrvp b ∧ s.qNbsrv q = lastSrv s.qsrvp a ∧
    ∀ bcanput, s.bcanputnext bcanput q =
      match nearest s.qsrvp b with
      | none => false
      | some n => if s.qprocs n then false else bcanput n

structure Fresh (s : Plumbing) : Prop where
  next : ∀ side, s.qNext ⟨s.sdRq, side⟩ = none
  nfsrv : ∀ side, s.qNfsrv ⟨s.sdRq, side⟩ = none
  nbsrv : ∀ side, s.qNbsrv ⟨s.sdRq, side⟩ = none
  srv : ∀ side, s.qsrvp ⟨s.sdRq, side⟩ = true
  on : s.qprocs (rd s.sdRq) = false

inductive Opened (driver : Nat) : Plumbing → List Nat → Prop where
  | opened {s s' : Plumbing} {rsrv wsrv : Bool} (fuel : Nat)
      (fresh : s.Fresh) (other : driver ≠ s.sdRq) (enough : 2 ≤ fuel)
      (exec : s.strOpen fuel driver rsrv wsrv = some s') :
      Opened driver s' []
  | push {s s' : Plumbing} {modules : List Nat} {x : Nat} {rsrv wsrv : Bool}
      (fuel : Nat) (run : Opened driver s modules)
      (fresh : x ∉ s.sdRq :: (modules ++ [driver]))
      (enough : modules.length + 3 ≤ fuel)
      (exec : s.qattach fuel x rsrv wsrv = some s') :
      Opened driver s' (x :: modules)
  | pop {s s' : Plumbing} {modules : List Nat} {x : Nat} (fuel : Nat)
      (run : Opened driver s (x :: modules))
      (enough : modules.length + 3 ≤ fuel)
      (exec : s.strPop fuel = some s') :
      Opened driver s' modules

section Runs

variable {s s' : Plumbing} {modules pairs : List Nat} {driver fuel : Nat}

theorem Fresh.kept (fresh : s.Fresh) : s.Kept [] := by
  refine ⟨by simp, ?_, ?_, ?_, fresh.srv .read, fresh.srv .write, fresh.on,
    fun p member => absurd member List.not_mem_nil⟩
  · intro a x b split
    obtain ⟨rfl, rfl, rfl⟩ : a = [] ∧ x = s.sdRq ∧ b = [] := by
      cases a with
      | nil => simpa using split.symm
      | cons z rest => simp at split
    exact ⟨fresh.next .write, fresh.next .read⟩
  · intro a x b split
    obtain ⟨rfl, rfl, rfl⟩ : a = [] ∧ x = rd s.sdRq ∧ b = [] := by
      cases a with
      | nil => simpa [readChain] using split.symm
      | cons z rest => simp [readChain] at split
    refine ⟨fresh.nbsrv .read, ?_⟩
    rw [show s.qNfsrv (rd s.sdRq) = none from fresh.nfsrv .read, forward]
    simp [nearest]
  · intro a x b split
    obtain ⟨rfl, rfl, rfl⟩ : a = [] ∧ x = wr s.sdRq ∧ b = [] := by
      cases a with
      | nil => simpa [writeChain] using split.symm
      | cons z rest => simp [writeChain] at split
    refine ⟨fresh.nbsrv .write, ?_⟩
    rw [show s.qNfsrv (wr s.sdRq) = none from fresh.nfsrv .write, forward]
    simp [nearest]

theorem Kept.attachDriver {rsrv wsrv : Bool} (kept : s.Kept [])
    (other : driver ≠ s.sdRq) (enough : 2 ≤ fuel) :
    ∃ s', s.strOpen fuel driver rsrv wsrv = some s' ∧ s'.Kept [driver] := by
  have fresh : driver ∉ [s.sdRq] := by simpa using other
  obtain ⟨s', done, kept', _⟩ :
      ∃ s', s.qattach fuel driver rsrv wsrv = some s' ∧ s'.Kept [driver] ∧ _ :=
    kept.attach fresh enough
  refine ⟨s', ?_, kept'⟩
  rw [strOpen, done]
  simp only [Option.bind_eq_bind, Option.bind_some]
  rw [qprocson, if_neg (by simp [kept'.headOn])]

theorem Opened.kept (run : Opened driver s modules) :
    s.Kept (modules ++ [driver]) := by
  induction run with
  | opened fuel fresh other enough exec =>
      obtain ⟨s', done, kept⟩ := fresh.kept.attachDriver other enough
      rw [exec] at done
      cases done
      exact kept
  | push fuel run fresh enough exec ih =>
      obtain ⟨s', done, kept, _⟩ := ih.attach fresh
        (Nat.le_trans (Nat.le_of_eq (by simp)) enough)
      rw [exec] at done
      cases done
      exact kept
  | @pop s s' modules x fuel run enough exec ih =>
      obtain ⟨t, rest, below⟩ : ∃ t rest, modules ++ [driver] = t :: rest := by
        cases modules with
        | nil => exact ⟨driver, [], rfl⟩
        | cons t rest => exact ⟨t, rest ++ [driver], rfl⟩
      rw [List.cons_append, below] at ih
      have length := congrArg List.length below
      rw [List.length_append, List.length_cons] at length
      have short : rest.length + 3 ≤ fuel := by
        simp at length
        omega
      obtain ⟨s', done, kept, _⟩ := ih.pop short
      rw [exec] at done
      cases done
      rw [below]
      exact kept

theorem right_iff_forward {l : List QueuePtr} (links : s.Links l)
    (caches : s.Caches l) :
    s.Right l ↔ ∀ a q b, l = a ++ q :: b →
      forward s.qsrvp a q b = nearest s.qsrvp b := by
  constructor
  · intro right a q b split
    rw [← (caches a q b split).2]
    exact (right a q b split).2.1
  · intro same a q b split
    have nfsrv := (caches a q b split).2.trans (same a q b split)
    refine ⟨(links a q b split).1, nfsrv, (caches a q b split).1, ?_⟩
    intro bcanput
    exact congrArg (fun n : Option QueuePtr => match n with
      | none => false
      | some n => if s.qprocs n then false else bcanput n) nfsrv

theorem Kept.right_write (kept : s.Kept pairs) :
    s.Right (writeChain s.sdRq pairs) := by
  apply (right_iff_forward kept.piped.write kept.write).mpr
  intro a q b split
  have has : (a ++ [q]).any s.qsrvp = true := by
    cases a with
    | nil =>
        obtain ⟨rfl, _⟩ := List.cons_eq_cons.mp split
        simp [kept.writeSrv]
    | cons z rest =>
        obtain ⟨rfl, _⟩ := List.cons_eq_cons.mp split
        simp [kept.writeSrv]
  rw [forward, if_pos has]

theorem nearest_of_clear {l : List QueuePtr} {h : QueuePtr}
    (clear : l.any s.qsrvp = false) : nearest s.qsrvp (l ++ [h]) = some h := by
  rw [nearest_append_of_clear clear (List.cons_ne_nil _ _), nearest_cons,
    if_pos (.inr rfl)]

theorem Kept.right_read (kept : s.Kept (modules ++ [driver])) :
    s.Right (readChain s.sdRq (modules ++ [driver])) ↔
      s.qsrvp (rd driver) = true ∨
        ∀ x ∈ modules, s.qsrvp (rd x) = false := by
  have links : s.Links (readChain s.sdRq (modules ++ [driver])) := by
    rw [readChain_eq]
    exact kept.piped.read
  rw [right_iff_forward links kept.read]
  have chain : readChain s.sdRq (modules ++ [driver]) =
      rd driver :: ((modules.map rd).reverse ++ [rd s.sdRq]) := by
    simp [readChain]
  constructor
  · intro all
    cases works : s.qsrvp (rd driver) with
    | true => exact .inl rfl
    | false =>
        right
        -- with a module at work the driver would point past it, at the head
        have same := all [] (rd driver) _ chain
        rw [forward, List.nil_append, List.any_cons, works] at same
        simp only [List.any_nil, Bool.or_false, Bool.false_eq_true, if_false,
          List.getLast?_append, List.getLast?_singleton, Option.some_or]
          at same
        intro x member
        by_contra has
        rw [Bool.not_eq_false] at has
        have found : (modules.map rd).reverse.any s.qsrvp = true :=
          List.any_eq_true.mpr
            ⟨rd x, List.mem_reverse.mpr (List.mem_map_of_mem member), has⟩
        rw [nearest_append_of_any found] at same
        have inside := List.mem_of_find?_eq_some same.symm
        rw [List.mem_reverse] at inside
        obtain ⟨y, here, eq⟩ := List.mem_map.mp inside
        rw [rd_inj] at eq
        exact (List.nodup_cons.mp kept.once).1
          (eq ▸ List.mem_append_left _ here)
  · intro condition a q b split
    rw [forward]
    split
    · rfl
    case isFalse clear =>
      rw [chain] at split
      rcases condition with has | idle
      · refine absurd ?_ clear
        cases a with
        | nil =>
            obtain ⟨rfl, _⟩ := List.cons_eq_cons.mp split
            simp [has]
        | cons z rest =>
            obtain ⟨rfl, _⟩ := List.cons_eq_cons.mp split
            simp [has]
      · have ahead : ∀ c d, (modules.map rd).reverse ++ [rd s.sdRq] = c ++ d →
            d.getLast? = nearest s.qsrvp d := by
          intro c d eq
          rcases List.append_eq_append_iff.mp eq with
            ⟨e, rfl, last⟩ | ⟨e, front, rfl⟩
          · cases e with
            | nil =>
                rw [List.nil_append] at last
                rw [← last, nearest_cons, if_pos (.inr rfl)]
                rfl
            | cons z rest =>
                obtain ⟨_, none⟩ := List.cons_eq_cons.mp last
                obtain ⟨_, rfl⟩ := List.append_eq_nil_iff.mp none.symm
                rfl
          · have clear : e.any s.qsrvp = false := by
              rw [List.any_eq_false]
              intro z member
              have inside : z ∈ (modules.map rd).reverse := by
                rw [front]
                exact List.mem_append_right _ member
              obtain ⟨x, here, rfl⟩ :=
                List.mem_map.mp (List.mem_reverse.mp inside)
              rw [idle x here]
              exact Bool.false_ne_true
            rw [nearest_of_clear clear, List.getLast?_append]
            rfl
        cases a with
        | nil =>
            obtain ⟨_, rfl⟩ := List.cons_eq_cons.mp split
            exact ahead [] _ rfl
        | cons z rest =>
            obtain ⟨_, eq⟩ := List.cons_eq_cons.mp split
            exact ahead (rest ++ [q]) b (by rw [eq]; simp)

theorem plumbing_right_iff (run : Opened driver s modules) :
    (s.Right (writeChain s.sdRq (modules ++ [driver])) ∧
        s.Right (readChain s.sdRq (modules ++ [driver])) ↔
      s.qsrvp (rd driver) = true ∨
        ∀ x ∈ modules, s.qsrvp (rd x) = false) ∧
      (∀ x rsrv wsrv fuel, x ∉ s.sdRq :: (modules ++ [driver]) →
        modules.length + 3 ≤ fuel →
          ∃ s', s.qattach fuel x rsrv wsrv = some s') ∧
      ∀ fuel, modules ≠ [] → modules.length + 2 ≤ fuel →
        ∃ s', s.strPop fuel = some s' := by
  have kept := run.kept
  refine ⟨?_, ?_, ?_⟩
  · rw [kept.right_read]
    exact and_iff_right kept.right_write
  · intro x rsrv wsrv fuel fresh enough
    have short : (modules ++ [driver]).length + 2 ≤ fuel := by
      rw [List.length_append]
      exact enough
    obtain ⟨s', done, _⟩ := kept.attach fresh short
    exact ⟨s', done⟩
  · intro fuel some enough
    cases modules with
    | nil => exact absurd rfl some
    | cons x rest =>
        obtain ⟨t, below, eq⟩ : ∃ t below, rest ++ [driver] = t :: below := by
          cases rest with
          | nil => exact ⟨driver, [], rfl⟩
          | cons t rest => exact ⟨t, rest ++ [driver], rfl⟩
        rw [List.cons_append, eq] at kept
        have length := congrArg List.length eq
        simp only [List.length_append, List.length_cons] at length enough
        have short : below.length + 3 ≤ fuel := by
          simp at length
          omega
        obtain ⟨s', done, _⟩ := kept.pop short
        exact ⟨s', done⟩

end Runs

def headAlone : Plumbing where
  sdRq := 0
  qNext _ := none
  qNfsrv _ := none
  qNbsrv _ := none
  qsrvp q := decide (q.pair = 0)
  qprocs _ := false

theorem headAlone_fresh : headAlone.Fresh :=
  ⟨fun _ => rfl, fun _ => rfl, fun _ => rfl, fun _ => rfl, rfl⟩

theorem plumbing_right_two : ∃ s, Opened 1 s [3, 2] ∧
    s.Right (writeChain s.sdRq [3, 2, 1]) ∧
      s.Right (readChain s.sdRq [3, 2, 1]) := by
  have driver := Opened.opened 5 headAlone_fresh (by decide) (by decide)
    (show headAlone.strOpen 5 1 true false = some _ from rfl)
  have first := driver.push 5 (by decide) (by decide)
    (show Plumbing.qattach _ 5 2 false true = some _ from rfl)
  have second := first.push 5 (by decide) (by decide)
    (show Plumbing.qattach _ 5 3 true false = some _ from rfl)
  exact ⟨_, second, (plumbing_right_iff second).1.mpr (.inl rfl)⟩

theorem push_leaves_cache_stale : ∃ s, Opened 1 s [2] ∧
    s.qNext (rd 1) = some (rd 2) ∧ s.qsrvp (rd 2) = true ∧
      s.qNfsrv (rd 1) = some (rd 0) ∧
        ¬ s.Right (readChain s.sdRq [2, 1]) := by
  have driver := Opened.opened 5 headAlone_fresh (by decide) (by decide)
    (show headAlone.strOpen 5 1 false true = some _ from rfl)
  have first := driver.push 5 (by decide) (by decide)
    (show Plumbing.qattach _ 5 2 true true = some _ from rfl)
  refine ⟨_, first, rfl, rfl, rfl, fun right => ?_⟩
  exact absurd (right [] (rd 1) [rd 2, rd 0] rfl).2.1 (by decide)

end Plumbing

end OpenSS7.Streams
