import OpenSS7.Mblk.Accounts

/-!
What one step of an operation does to the accounts of a heap.
-/

namespace OpenSS7.Mblk

namespace Heap

variable {h : Heap} {i j : Nat} {f : Mdbblock → Mdbblock}

theorem modify_self : (h.modify i f).blk i = f (h.blk i) :=
  Function.update_self ..

theorem modify_of_ne (apart : j ≠ i) : (h.modify i f).blk j = h.blk j :=
  Function.update_of_ne apart ..

theorem modify_field {α : Type} (field : Mdbblock → α)
    (same : field (f (h.blk i)) = field (h.blk i)) (j : Nat) :
    field ((h.modify i f).blk j) = field (h.blk j) := by
  by_cases here : j = i
  · subst here
    rw [modify_self, same]
  · rw [modify_of_ne here]

end Heap

section Congr

variable {h h' : Heap} {p : Point}

theorem references_congr (same : ∀ i, (h'.blk i).bDatap = (h.blk i).bDatap)
    (d : Nat) : h'.references p d = h.references p d := by
  unfold Heap.references
  rw [pointers_congr fun b _ => same b]

theorem Kept.congr (kept : Kept h p) (made : h'.made = h.made)
    (pool : h'.pool = h.pool) (log : h'.log = h.log)
    (datap : ∀ i, (h'.blk i).bDatap = (h.blk i).bDatap)
    (ref : ∀ i, (h'.blk i).dbRef = (h.blk i).dbRef)
    (owed : ∀ i, Heap.releases (h'.blk i) = Heap.releases (h.blk i))
    (pooled : ∀ i ∈ h.pool, h'.blk i = h.blk i) : Kept h' p := by
  have out (i : Nat) : h'.Out i ↔ h.Out i := by
    unfold Heap.Out
    rw [made, pool]
  have references := references_congr (p := p) datap
  constructor
  · exact kept.once
  · rw [pool]
    exact kept.pooled
  · rw [pool, made]
    exact kept.made
  · intro i idle
    rw [references]
    exact kept.idle i (mt (out i).mpr idle)
  · intro i member
    rw [pool] at member
    rw [pooled i member]
    exact kept.clean i member
  · intro b member
    rw [datap]
    exact kept.attached b member
  · intro d taken
    rw [ref, references]
    exact kept.counted d ((out d).mp taken)
  · intro i taken
    rw [datap]
    exact kept.vacant i ((out i).mp taken)
  · intro i taken
    rw [references]
    exact kept.used i ((out i).mp taken)
  · intro d r
    unfold Heap.Booked Heap.Holds
    simp only [log, references, owed]
    exact kept.booked d r
  · rw [log]
    exact kept.loose
  · intro i
    simp only [log, out]
    exact kept.issued i

theorem Kept.write (kept : Kept h p) {i : Nat} {f : Mdbblock → Mdbblock}
    (taken : h.Out i) (datap : (f (h.blk i)).bDatap = (h.blk i).bDatap)
    (ref : (f (h.blk i)).dbRef = (h.blk i).dbRef)
    (owed : Heap.releases (f (h.blk i)) = Heap.releases (h.blk i)) :
    Kept (h.modify i f) p := by
  apply @Kept.congr _ (h.modify i f) _ kept rfl rfl rfl
  · exact Heap.modify_field _ datap
  · exact Heap.modify_field _ ref
  · exact Heap.modify_field _ owed
  · intro j member
    exact Heap.modify_of_ne fun same => taken.2 (same ▸ member)

end Congr

theorem Heap.Booked.carry {h h' : Heap} {p p' : Point} {d : Nat}
    {r : Resource} (balanced : h.Booked p d r)
    (extra : p'.extra d r = p.extra d r)
    (took : h'.log.count (.took (some d) r) = h.log.count (.took (some d) r))
    (gave : h'.log.count (.gave (some d) r) = h.log.count (.gave (some d) r))
    (holds : h'.Holds p' d r ↔ h.Holds p d r) : h'.Booked p' d r := by
  unfold Heap.Booked at balanced ⊢
  rw [took, gave, extra, balanced]
  simp only [holds]

/-- What `mdbblock_alloc` does when it finds a block. -/
structure Drawn (h : Heap) (mp : Nat) (h' : Heap) : Prop where
  idle : ¬ h.Out mp
  others : ∀ i, i ≠ mp → h'.blk i = h.blk i
  datap : (h'.blk mp).bDatap = some mp
  ref : (h'.blk mp).dbRef = 1
  frtnp : (h'.blk mp).dbFrtnp = none
  cont : (h'.blk mp).bCont = none
  out : ∀ i, h'.Out i ↔ i = mp ∨ h.Out i
  pool : h'.pool = h.pool.erase mp
  grown : h.made ≤ h'.made
  log : h'.log = .out mp :: h.log

section Draw

variable {h : Heap} {cfg : Config} {p : Point}

theorem Drawn.of_pool (kept : Kept h p) {mp : Nat} {h' : Heap}
    (member : mp ∈ h.pool) (blk : h'.blk = h.blk)
    (pool : h'.pool = h.pool.erase mp) (made : h'.made = h.made)
    (log : h'.log = .out mp :: h.log) : Drawn h mp h' := by
  obtain ⟨datap, ref, frtnp, cont⟩ := kept.clean mp member
  rw [← blk] at datap ref frtnp cont
  refine ⟨fun taken => taken.2 member, fun i _ => by rw [blk], datap, ref,
    frtnp, cont, fun i => ?_, pool, Nat.le_of_eq made.symm, log⟩
  unfold Heap.Out
  rw [made, pool, kept.pooled.mem_erase_iff]
  by_cases here : i = mp
  · subst here
    simp [kept.made i member]
  · simp [here]

theorem mdbblockAlloc_cases (kept : Kept h p) :
    (∃ grants, h.mdbblockAlloc cfg = (none, { h with grants := grants })) ∨
      ∃ mp h', h.mdbblockAlloc cfg = (some mp, h') ∧ Drawn h mp h' := by
  unfold Heap.mdbblockAlloc
  split
  case h_1 md rest list =>
    refine .inr ⟨_, _, rfl, ?_⟩
    apply Drawn.of_pool kept
    · simp [Heap.pool, list]
    · rfl
    · simp [Heap.pool, list]
    · rfl
    · rfl
  case h_2 list =>
    unfold Heap.mdbblockAllocSlow
    split
    · exact .inl ⟨h.grants, rfl⟩
    · exact .inl ⟨_, rfl⟩
    case h_3 databuf rest _ =>
      have stranger : h.made ∉ h.pool :=
        fun member => Nat.lt_irrefl _ (kept.made _ member)
      refine .inr ⟨_, _, rfl, fun taken => Nat.lt_irrefl _ taken.1,
        fun i apart => Function.update_of_ne apart .., ?_, ?_, ?_, ?_, ?_, ?_,
        Nat.le_succ _, rfl⟩
      · simp [Heap.mdbblockCtor]
      · simp [Heap.mdbblockCtor]
      · simp [Heap.mdbblockCtor]
      · simp [Heap.mdbblockCtor]
      · intro i
        change i < h.made + 1 ∧ i ∉ h.pool ↔ i = h.made ∨ i < h.made ∧ i ∉ h.pool
        rw [Nat.lt_succ_iff_lt_or_eq, or_comm]
        by_cases here : i = h.made
        · subst here
          simp [stranger]
        · simp [here]
      · rw [List.erase_of_not_mem stranger]
        rfl
    case h_4 md rest _ =>
      split
      next member =>
        refine .inr ⟨_, _, rfl, ?_⟩
        apply Drawn.of_pool kept
        · simp [Heap.pool, member]
        · rfl
        · simp [Heap.pool, list]
        · rfl
        · rfl
      · exact .inl ⟨_, rfl⟩

section Drawn

variable {mp : Nat} {h' : Heap}

theorem Drawn.strange (drawn : Drawn h mp h') (kept : Kept h p) :
    mp ∉ p.live ∧ h.references p mp = 0 ∧ mp ∉ p.due :=
  kept.idle mp drawn.idle

theorem Drawn.apart (drawn : Drawn h mp h') {i : Nat} (taken : h.Out i) :
    i ≠ mp :=
  fun same => drawn.idle (same ▸ taken)

theorem Drawn.pointers (drawn : Drawn h mp h') (kept : Kept h p) (d : Nat) :
    h'.pointers p.live d = h.pointers p.live d := by
  apply pointers_congr
  intro b member
  rw [drawn.others b (drawn.apart (kept.out_of_live member))]

theorem Drawn.count_took (drawn : Drawn h mp h') (d : Option Nat)
    (r : Resource) :
    h'.log.count (.took d r) = h.log.count (.took d r) := by
  rw [drawn.log]
  simp

theorem Drawn.count_gave (drawn : Drawn h mp h') (d : Option Nat)
    (r : Resource) :
    h'.log.count (.gave d r) = h.log.count (.gave d r) := by
  rw [drawn.log]
  simp

theorem Drawn.issued (drawn : Drawn h mp h') (kept : Kept h p) (i : Nat) :
    h'.log.count (.out i) =
      h'.log.count (.back i) + if h'.Out i then 1 else 0 := by
  rw [drawn.log]
  simp only [drawn.out, List.count_cons, kept.issued i, beq_iff_eq]
  by_cases here : i = mp
  · subst here
    simp [drawn.idle]
  · simp [here, Ne.symm here]

end Drawn

theorem Kept.draw {live : List Nat} {extra : Nat → Resource → Nat}
    {mp : Nat} {h' : Heap}
    (kept : Kept h (.rest live extra)) (drawn : Drawn h mp h') :
    Kept h' ⟨mp :: live, [], some mp, [], extra⟩ := by
  have strange := drawn.strange kept
  have references (d : Nat) :
      h'.references ⟨mp :: live, [], some mp, [], extra⟩ d =
        h.references (.rest live extra) d + if mp = d then 1 else 0 := by
    unfold Heap.references
    rw [pointers_cons, drawn.datap]
    have same := drawn.pointers kept d
    simp only [Point.rest] at same ⊢
    rw [same]
    simp
  constructor
  · exact List.nodup_cons.mpr ⟨strange.1, kept.once⟩
  · rw [drawn.pool]
    exact kept.pooled.erase mp
  · intro i member
    rw [drawn.pool] at member
    exact Nat.lt_of_lt_of_le (kept.made i (List.mem_of_mem_erase member))
      drawn.grown
  · intro i idle
    rw [drawn.out, not_or] at idle
    obtain ⟨foreign, none, _⟩ := kept.idle i idle.2
    refine ⟨?_, ?_, List.not_mem_nil⟩
    · exact List.not_mem_cons_of_ne_of_not_mem idle.1 foreign
    · rw [references, none, if_neg (Ne.symm idle.1)]
  · intro i member
    rw [drawn.pool, kept.pooled.mem_erase_iff] at member
    rw [drawn.others i member.1]
    exact kept.clean i member.2
  · intro b member
    rcases List.mem_cons.mp member with here | before
    · rw [here, drawn.datap]
      exact Option.some_ne_none mp
    · rw [drawn.others b (drawn.apart (kept.out_of_live before))]
      exact kept.attached b before
  · intro d taken
    rw [references]
    rcases (drawn.out d).mp taken with here | before
    · rw [here, drawn.ref, strange.2.1, if_pos rfl]
      exact ⟨rfl, by omega⟩
    · have apart := drawn.apart before
      rw [drawn.others d apart, if_neg (Ne.symm apart)]
      exact kept.counted d before
  · intro i taken foreign
    rw [List.mem_cons, not_or] at foreign
    have before := ((drawn.out i).mp taken).resolve_left foreign.1
    rw [drawn.others i foreign.1]
    exact kept.vacant i before foreign.2
  · intro i taken
    rw [references]
    rcases (drawn.out i).mp taken with here | before
    · exact .inl (here ▸ List.mem_cons_self)
    · rcases kept.used i before with member | pointed | due
      · exact .inl (List.mem_cons_of_mem _ member)
      · exact .inr (.inl fun none => pointed (Nat.eq_zero_of_add_eq_zero none).1)
      · exact absurd due List.not_mem_nil
  · intro d r
    refine (kept.booked d r).carry rfl (drawn.count_took _ r)
      (drawn.count_gave _ r) ?_
    unfold Heap.Holds
    rw [references]
    by_cases here : d = mp
    · subst here
      simp [strange.2.1]
    · simp [Ne.symm here, drawn.others d here, Point.rest]
  · intro r
    rw [drawn.count_took, drawn.count_gave]
    exact kept.loose r
  · exact drawn.issued kept

end Draw

section Free

variable {h : Heap} {p : Point} {i : Nat}

def Point.decided (p : Point) (i : Nat) : Point :=
  { p with due := p.due.filter fun j => decide (j ≠ i) }

theorem mem_decided {j : Nat} :
    j ∈ (p.decided i).due ↔ j ∈ p.due ∧ j ≠ i := by
  simp [Point.decided]

theorem Kept.settle (kept : Kept h p)
    (used : i ∈ p.live ∨ h.references p i ≠ 0) : Kept h (p.decided i) := by
  refine ⟨kept.once, kept.pooled, kept.made, ?_, kept.clean, kept.attached,
    kept.counted, kept.vacant, ?_, kept.booked, kept.loose, kept.issued⟩
  · intro j idle
    obtain ⟨foreign, none, undue⟩ := kept.idle j idle
    exact ⟨foreign, none, fun member => undue (mem_decided.mp member).1⟩
  · intro j taken
    rcases kept.used j taken with member | pointed | due
    · exact .inl member
    · exact .inr (.inl pointed)
    · by_cases here : j = i
      · subst here
        exact used.imp_right .inl
      · exact .inr (.inr (mem_decided.mpr ⟨due, here⟩))

theorem blk_mdbblockFree_of_ne {j : Nat} (apart : j ≠ i) :
    (h.mdbblockFree i).blk j = h.blk j := by
  simp [Heap.mdbblockFree, Heap.modify_of_ne apart]

theorem blk_mdbblockFree :
    ((h.mdbblockFree i).blk i).bDatap = some i ∧
      ((h.mdbblockFree i).blk i).dbRef = 1 ∧
      ((h.mdbblockFree i).blk i).dbFrtnp = none ∧
      ((h.mdbblockFree i).blk i).bCont = none := by
  simp [Heap.mdbblockFree, Heap.modify_self]

theorem mem_pool_mdbblockFree {j : Nat} :
    j ∈ (h.mdbblockFree i).pool ↔ j = i ∨ j ∈ h.pool :=
  List.mem_cons

theorem out_mdbblockFree {j : Nat} :
    (h.mdbblockFree i).Out j ↔ j ≠ i ∧ h.Out j := by
  unfold Heap.Out
  rw [mem_pool_mdbblockFree, not_or]
  exact ⟨fun ⟨below, apart, idle⟩ => ⟨apart, below, idle⟩,
    fun ⟨apart, below, idle⟩ => ⟨below, apart, idle⟩⟩

theorem count_took_mdbblockFree (d : Option Nat) (r : Resource) :
    (h.mdbblockFree i).log.count (.took d r) = h.log.count (.took d r) := by
  simp [Heap.mdbblockFree, Heap.modify]

theorem count_gave_mdbblockFree (d : Option Nat) (r : Resource) :
    (h.mdbblockFree i).log.count (.gave d r) = h.log.count (.gave d r) := by
  simp [Heap.mdbblockFree, Heap.modify]

theorem issued_mdbblockFree
    (issued : ∀ j, h.log.count (.out j) =
      h.log.count (.back j) + if h.Out j then 1 else 0)
    (taken : h.Out i) (j : Nat) :
    (h.mdbblockFree i).log.count (.out j) =
      (h.mdbblockFree i).log.count (.back j) +
        if (h.mdbblockFree i).Out j then 1 else 0 := by
  have outs : (h.mdbblockFree i).log.count (.out j) = h.log.count (.out j) := by
    simp [Heap.mdbblockFree, Heap.modify]
  rw [outs, issued j]
  by_cases here : j = i
  · subst here
    have backs : (h.mdbblockFree j).log.count (.back j) =
        h.log.count (.back j) + 1 := by
      simp [Heap.mdbblockFree, Heap.modify]
    simp [out_mdbblockFree, taken, backs]
  · have backs : (h.mdbblockFree i).log.count (.back j) =
        h.log.count (.back j) := by
      simp [Heap.mdbblockFree, Heap.modify, Ne.symm here]
    simp [out_mdbblockFree, here, backs]

theorem Kept.giveBack (kept : Kept h p) (taken : h.Out i)
    (foreign : i ∉ p.live) (unused : h.references p i = 0) :
    Kept (h.mdbblockFree i) (p.decided i) := by
  have others {b : Nat} (member : b ∈ p.live) :
      (h.mdbblockFree i).blk b = h.blk b :=
    blk_mdbblockFree_of_ne fun same => foreign (same ▸ member)
  have references (d : Nat) :
      (h.mdbblockFree i).references (p.decided i) d = h.references p d := by
    unfold Heap.references
    congr 1
    exact pointers_congr (fun b member => by rw [others member]) d
  constructor
  · exact kept.once
  · exact List.nodup_cons.mpr ⟨taken.2, kept.pooled⟩
  · intro j member
    rcases mem_pool_mdbblockFree.mp member with here | before
    · exact here ▸ taken.1
    · exact kept.made j before
  · intro j idle
    rw [references]
    by_cases here : j = i
    · subst here
      exact ⟨foreign, unused, fun member => (mem_decided.mp member).2 rfl⟩
    · obtain ⟨strange, none, undue⟩ :=
        kept.idle j fun out => idle (out_mdbblockFree.mpr ⟨here, out⟩)
      exact ⟨strange, none, fun member => undue (mem_decided.mp member).1⟩
  · intro j member
    by_cases here : j = i
    · subst here
      exact blk_mdbblockFree
    · rw [blk_mdbblockFree_of_ne here]
      exact kept.clean j ((mem_pool_mdbblockFree.mp member).resolve_left here)
  · intro b member
    rw [others member]
    exact kept.attached b member
  · intro d out
    obtain ⟨apart, before⟩ := out_mdbblockFree.mp out
    rw [references, blk_mdbblockFree_of_ne apart]
    exact kept.counted d before
  · intro j out strange
    obtain ⟨apart, before⟩ := out_mdbblockFree.mp out
    rw [blk_mdbblockFree_of_ne apart]
    exact kept.vacant j before strange
  · intro j out
    obtain ⟨apart, before⟩ := out_mdbblockFree.mp out
    rw [references]
    rcases kept.used j before with member | pointed | due
    · exact .inl member
    · exact .inr (.inl pointed)
    · exact .inr (.inr (mem_decided.mpr ⟨due, apart⟩))
  · intro d r
    refine (kept.booked d r).carry rfl (count_took_mdbblockFree _ r)
      (count_gave_mdbblockFree _ r) ?_
    unfold Heap.Holds
    rw [references]
    by_cases here : d = i
    · subst here
      simp [unused]
    · rw [blk_mdbblockFree_of_ne here]
      rfl
  · intro r
    rw [count_took_mdbblockFree, count_gave_mdbblockFree]
    exact kept.loose r
  · exact issued_mdbblockFree kept.issued taken

theorem Drawn.undo {h' : Heap} {live : List Nat} {mp : Nat}
    {extra : Nat → Resource → Nat}
    (kept : Kept h (.rest live extra)) (drawn : Drawn h mp h') :
    Kept (h'.mdbblockFree mp) (.rest live extra) := by
  have later := kept.draw drawn
  have taken : h'.Out mp := (drawn.out mp).mpr (.inl rfl)
  have strange := drawn.strange kept
  have others {i : Nat} (apart : i ≠ mp) :
      (h'.mdbblockFree mp).blk i = h.blk i := by
    rw [blk_mdbblockFree_of_ne apart, drawn.others i apart]
  have out (i : Nat) : (h'.mdbblockFree mp).Out i ↔ h.Out i := by
    rw [out_mdbblockFree, drawn.out]
    by_cases here : i = mp
    · subst here
      simp [drawn.idle]
    · simp [here]
  have references (d : Nat) :
      (h'.mdbblockFree mp).references (.rest live extra) d =
        h.references (.rest live extra) d := by
    unfold Heap.references
    congr 1
    exact pointers_congr (fun b member => by
      rw [others (drawn.apart (kept.out_of_live member))]) d
  constructor
  · exact kept.once
  · exact List.nodup_cons.mpr ⟨taken.2, later.pooled⟩
  · intro j member
    rcases mem_pool_mdbblockFree.mp member with here | before
    · exact here ▸ taken.1
    · exact later.made j before
  · intro j idle
    rw [references]
    exact kept.idle j (mt (out j).mpr idle)
  · intro j member
    by_cases here : j = mp
    · subst here
      exact blk_mdbblockFree
    · rw [blk_mdbblockFree_of_ne here]
      exact later.clean j ((mem_pool_mdbblockFree.mp member).resolve_left here)
  · intro b member
    rw [others (drawn.apart (kept.out_of_live member))]
    exact kept.attached b member
  · intro d taken
    rw [out] at taken
    rw [references, others (drawn.apart taken)]
    exact kept.counted d taken
  · intro j taken
    rw [out] at taken
    rw [others (drawn.apart taken)]
    exact kept.vacant j taken
  · intro j taken
    rw [references]
    exact kept.used j ((out j).mp taken)
  · intro d r
    refine (kept.booked d r).carry rfl ?_ ?_ ?_
    · rw [count_took_mdbblockFree, drawn.count_took]
    · rw [count_gave_mdbblockFree, drawn.count_gave]
    · unfold Heap.Holds
      rw [references]
      by_cases here : d = mp
      · subst here
        simp [strange.2.1]
      · rw [others here]
  · intro r
    rw [count_took_mdbblockFree, count_gave_mdbblockFree, drawn.count_took,
      drawn.count_gave]
    exact kept.loose r
  · exact issued_mdbblockFree later.issued taken

end Free

end OpenSS7.Mblk
