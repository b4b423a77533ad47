import OpenSS7.Mblk.Moves

/-!
What freeing a message block does to the accounts of a heap.
-/

namespace OpenSS7.Mblk

open Heap

variable {h : Heap} {live pending due : List Nat} {raw : Option Nat}
  {extra : Nat → Resource → Nat}

theorem Kept.unhook {mp db : Nat}
    (kept : Kept h ⟨live, pending, raw, due, extra⟩)
    (member : mp ∈ live) (points : (h.blk mp).bDatap = some db) :
    Kept (h.modify mp fun md => { md with bDatap := none })
      ⟨live.erase mp, db :: pending, raw, mp :: due, extra⟩ := by
  have taken := kept.out_of_live member
  have left (i : Nat) : i ∈ live.erase mp ↔ i ≠ mp ∧ i ∈ live :=
    kept.once.mem_erase_iff
  have references (d : Nat) :
      (h.modify mp fun md => { md with bDatap := none }).references
        ⟨live.erase mp, db :: pending, raw, mp :: due, extra⟩ d =
      h.references ⟨live, pending, raw, due, extra⟩ d := by
    have others : (h.modify mp fun md => { md with bDatap := none }).pointers
        (live.erase mp) d = h.pointers (live.erase mp) d :=
      pointers_congr (fun b remains => by
        rw [modify_of_ne ((left b).mp remains).1]) d
    unfold references
    simp only
    rw [others, pointers_erase member, points, List.count_cons]
    simp only [Option.some.injEq, beq_iff_eq]
    omega
  constructor
  · exact kept.once.erase mp
  · exact kept.pooled
  · exact kept.made
  · intro i idle
    rw [references]
    obtain ⟨foreign, none, undue⟩ := kept.idle i idle
    refine ⟨fun remains => foreign ((left i).mp remains).2, none, ?_⟩
    exact List.not_mem_cons_of_ne_of_not_mem
      (fun same => idle (same ▸ taken)) undue
  · intro i waits
    have apart : i ≠ mp := fun same => taken.2 (same ▸ waits)
    rw [modify_of_ne apart]
    exact kept.clean i waits
  · intro b remains
    rw [modify_of_ne ((left b).mp remains).1]
    exact kept.attached b ((left b).mp remains).2
  · intro d out
    rw [references, modify_field Mdbblock.dbRef rfl]
    exact kept.counted d out
  · intro i out foreign
    by_cases here : i = mp
    · subst here
      rw [modify_self]
    · rw [modify_of_ne here]
      exact kept.vacant i out fun was => foreign ((left i).mpr ⟨here, was⟩)
  · intro i out
    rw [references]
    by_cases here : i = mp
    · exact .inr (.inr (here ▸ List.mem_cons_self))
    · rcases kept.used i out with was | pointed | decide
      · exact .inl ((left i).mpr ⟨here, was⟩)
      · exact .inr (.inl pointed)
      · exact .inr (.inr (List.mem_cons_of_mem _ decide))
  · intro d r
    refine (kept.booked d r).carry rfl rfl rfl ?_
    unfold Holds
    rw [references, modify_field releases rfl]
  · exact kept.loose
  · exact kept.issued

/-- The state after the last step of `freedb`, the decision apart. -/
def Heap.dropped (h : Heap) (db : Nat) : Heap :=
  let h' := h.modify db fun md => { md with dbRef := (md.dbRef + 255) % 256 }
  if (h'.blk db).dbRef = 0 then h'.release db else h'

section Drop

variable {db : Nat}

theorem blk_release (i : Nat) : (h.release db).blk i = h.blk i := by
  unfold release
  split <;> rfl

theorem out_release (i : Nat) : (h.release db).Out i ↔ h.Out i := by
  unfold release
  split <;> rfl

theorem pool_release : (h.release db).pool = h.pool := by
  unfold release
  split <;> rfl

theorem made_release : (h.release db).made = h.made := by
  unfold release
  split <;> rfl

theorem count_took_release (d : Option Nat) (r : Resource) :
    (h.release db).log.count (.took d r) = h.log.count (.took d r) := by
  unfold release note
  split
  · simp
  · rfl

theorem count_gave_release (d : Option Nat) (r : Resource) :
    (h.release db).log.count (.gave d r) = h.log.count (.gave d r) +
      if some db = d ∧ releases (h.blk db) = some r then 1 else 0 := by
  unfold release note
  split
  case h_1 resource owed =>
    rw [owed]
    simp [List.count_cons]
  case h_2 none =>
    simp [none]

theorem issued_release (i : Nat) :
    (h.release db).log.count (.out i) = h.log.count (.out i) ∧
      (h.release db).log.count (.back i) = h.log.count (.back i) := by
  unfold release note
  split
  · simp
  · exact ⟨rfl, rfl⟩

theorem references_push (d : Nat) :
    h.references ⟨live, db :: pending, raw, due, extra⟩ d =
      h.references ⟨live, pending, raw, due, extra⟩ d +
        if db = d then 1 else 0 := by
  simp [references, List.count_cons, Nat.add_assoc]

theorem lowered (kept : Kept h ⟨live, db :: pending, raw, due, extra⟩) :
    ((h.blk db).dbRef + 255) % 256 =
      h.references ⟨live, pending, raw, due, extra⟩ db := by
  have pushed := @references_push h live pending due raw extra db db
  rw [if_pos rfl] at pushed
  have counted := kept.counted db
    (kept.out_of_references (by rw [pushed]; exact Nat.succ_ne_zero _))
  omega

theorem dropped_cases (kept : Kept h ⟨live, db :: pending, raw, due, extra⟩) :
    h.dropped db = if h.references ⟨live, pending, raw, due, extra⟩ db = 0 then
      (h.modify db fun md =>
        { md with dbRef := (md.dbRef + 255) % 256 }).release db
    else h.modify db fun md =>
      { md with dbRef := (md.dbRef + 255) % 256 } := by
  unfold dropped
  simp only [modify_self, lowered kept]

theorem blk_dropped (kept : Kept h ⟨live, db :: pending, raw, due, extra⟩)
    (i : Nat) :
    (h.dropped db).blk i = if i = db then
      { h.blk db with dbRef := h.references ⟨live, pending, raw, due, extra⟩ db }
    else h.blk i := by
  have blk : (h.dropped db).blk i = (h.modify db fun md =>
      { md with dbRef := (md.dbRef + 255) % 256 }).blk i := by
    rw [dropped_cases kept]
    split
    · rw [blk_release]
    · rfl
  rw [blk]
  split
  case isTrue here => rw [here, modify_self, lowered kept]
  case isFalse apart => rw [modify_of_ne apart]

theorem fixed_dropped : (h.dropped db).made = h.made ∧
    (h.dropped db).pool = h.pool ∧ ∀ i, (h.dropped db).Out i ↔ h.Out i := by
  unfold dropped
  simp only
  split
  · exact ⟨made_release, pool_release, fun i => out_release i⟩
  · exact ⟨rfl, rfl, fun i => Iff.rfl⟩

theorem count_took_dropped (d : Option Nat) (r : Resource) :
    (h.dropped db).log.count (.took d r) = h.log.count (.took d r) := by
  unfold dropped
  simp only
  split
  · rw [count_took_release]
    rfl
  · rfl

theorem count_gave_dropped (kept : Kept h ⟨live, db :: pending, raw, due, extra⟩)
    (d : Option Nat) (r : Resource) :
    (h.dropped db).log.count (.gave d r) = h.log.count (.gave d r) +
      if some db = d ∧ h.references ⟨live, pending, raw, due, extra⟩ db = 0 ∧
        releases (h.blk db) = some r then 1 else 0 := by
  rw [dropped_cases kept]
  split
  case isTrue last =>
    rw [count_gave_release, modify_field releases rfl]
    simp only [last, true_and]
    rfl
  case isFalse more =>
    simp only [more, false_and, and_false, if_false, Nat.add_zero]
    rfl

theorem issued_dropped (i : Nat) :
    (h.dropped db).log.count (.out i) = h.log.count (.out i) ∧
      (h.dropped db).log.count (.back i) = h.log.count (.back i) := by
  unfold dropped
  simp only
  split
  · exact issued_release i
  · exact ⟨rfl, rfl⟩

def Heap.excess (h : Heap) (p : Point) (db : Nat) : Nat → Resource → Nat :=
  fun d r => p.extra d r + if d = db ∧ p.raw = some db ∧
    h.references p db = 0 ∧ releases (h.blk db) = some r then 1 else 0

theorem excess_apply (p : Point) (d : Nat) (r : Resource) :
    h.excess p db d r = p.extra d r + if d = db ∧ p.raw = some db ∧
      h.references p db = 0 ∧ releases (h.blk db) = some r then 1 else 0 :=
  rfl

theorem Kept.drop (kept : Kept h ⟨live, db :: pending, raw, due, extra⟩) :
    Kept (h.dropped db) ⟨live, pending, raw, db :: due,
      h.excess ⟨live, pending, raw, due, extra⟩ db⟩ := by
  have blk := blk_dropped kept
  obtain ⟨made, pool, out⟩ := @fixed_dropped h db
  have pushed (d : Nat) := @references_push h live pending due raw
    extra db d
  have taken : h.Out db := by
    apply kept.out_of_references
    rw [pushed, if_pos rfl]
    exact Nat.succ_ne_zero _
  have others {i : Nat} (apart : i ≠ db) : (h.dropped db).blk i = h.blk i := by
    rw [blk, if_neg apart]
  have datap (i : Nat) : ((h.dropped db).blk i).bDatap = (h.blk i).bDatap := by
    rw [blk]
    split
    case isTrue here => rw [here]
    case isFalse => rfl
  have references (d : Nat) :
      (h.dropped db).references ⟨live, pending, raw, db :: due,
          h.excess ⟨live, pending, raw, due, extra⟩ db⟩ d =
        h.references ⟨live, pending, raw, due, extra⟩ d :=
    references_congr datap d
  constructor
  · exact kept.once
  · rw [pool]
    exact kept.pooled
  · rw [pool, made]
    exact kept.made
  · intro i idle
    rw [out] at idle
    obtain ⟨foreign, none, undue⟩ := kept.idle i idle
    rw [pushed] at none
    refine ⟨foreign, ?_, ?_⟩
    · rw [references]
      exact (Nat.eq_zero_of_add_eq_zero none).1
    · exact List.not_mem_cons_of_ne_of_not_mem
        (fun same => idle (same ▸ taken)) undue
  · intro i waits
    rw [pool] at waits
    have apart : i ≠ db := fun same => taken.2 (same ▸ waits)
    rw [others apart]
    exact kept.clean i waits
  · intro b member
    rw [datap]
    exact kept.attached b member
  · intro d before
    rw [out] at before
    have counted := kept.counted d before
    rw [pushed] at counted
    rw [references, blk]
    split
    case isTrue here =>
      subst here
      exact ⟨rfl, by omega⟩
    case isFalse apart =>
      rw [if_neg (Ne.symm apart)] at counted
      exact counted
  · intro i before foreign
    rw [datap]
    exact kept.vacant i ((out i).mp before) foreign
  · intro i before
    rw [references]
    by_cases here : i = db
    · exact .inr (.inr (here ▸ List.mem_cons_self))
    · have used := kept.used i ((out i).mp before)
      rw [pushed, if_neg (Ne.symm here)] at used
      exact used.imp_right fun rest => rest.imp_right (List.mem_cons_of_mem _)
  · intro d r
    have booked := kept.booked d r
    unfold Booked Holds at booked
    unfold Booked Holds
    simp only [references, excess_apply, count_took_dropped,
      count_gave_dropped kept]
    simp only [pushed] at booked
    by_cases here : d = db
    · subst here
      simp only [blk, if_true] at booked ⊢
      by_cases last : h.references ⟨live, pending, raw, due, extra⟩ d = 0
      · by_cases bare : raw = some d
        · simp [last, bare] at booked ⊢
          omega
        · simp [last, bare] at booked ⊢
          omega
      · simp [last, releases] at booked ⊢
        omega
    · simp [Ne.symm here, here, others here] at booked ⊢
      omega
  · intro r
    rw [count_took_dropped, count_gave_dropped kept, kept.loose r]
    simp
  · intro i
    rw [(issued_dropped i).1, (issued_dropped i).2, kept.issued i]
    simp only [out]

theorem freedb_eq : h.freedb db =
    if ((h.dropped db).blk db).dbRef = 0 ∧
        ((h.dropped db).blk db).bDatap = none then
      (h.dropped db).mdbblockFree db
    else h.dropped db := by
  unfold freedb dbDecAndTest dropped
  simp only
  by_cases last : ((h.modify db fun md =>
      { md with dbRef := (md.dbRef + 255) % 256 }).blk db).dbRef = 0
  · simp [last, blk_release]
  · simp [last]

theorem Kept.freedb (kept : Kept h ⟨live, db :: pending, raw, due, extra⟩) :
    Kept (h.freedb db) (Point.decided ⟨live, pending, raw, due,
      h.excess ⟨live, pending, raw, due, extra⟩ db⟩ db) := by
  have dropped := kept.drop
  have taken : (h.dropped db).Out db := dropped.out_of_due List.mem_cons_self
  have counted := (dropped.counted db taken).1
  have same (extra' : Nat → Resource → Nat) :
      Point.decided ⟨live, pending, raw, db :: due, extra'⟩ db =
        Point.decided ⟨live, pending, raw, due, extra'⟩ db := by
    simp [Point.decided]
  rw [← same, freedb_eq]
  split
  case isTrue unused =>
    apply dropped.giveBack taken
    · exact fun member => dropped.attached db member unused.2
    · rw [← counted]
      exact unused.1
  case isFalse used =>
    apply dropped.settle
    by_contra unused
    rw [not_or, not_not] at unused
    exact used ⟨counted.trans unused.2, dropped.vacant db taken unused.1⟩

end Drop

/-- The point at which `freeb` has taken the message block off. -/
def Point.unhooked (mp : Nat) (live : List Nat) (raw : Option Nat)
    (extra : Nat → Resource → Nat) : Point :=
  ⟨live.erase mp, [], raw, [mp], extra⟩

theorem Kept.freeb_excess {mp db : Nat}
    (kept : Kept h ⟨live, [], raw, [], extra⟩) (member : mp ∈ live)
    (points : (h.blk mp).bDatap = some db) :
    Kept (h.freeb mp) ⟨live.erase mp, [], raw, [],
      h.excess (.unhooked mp live raw extra) db⟩ := by
  have unhooked := kept.unhook member points
  have freed := unhooked.freedb
  have same : (h.modify mp fun md => { md with bDatap := none }).excess
      ⟨live.erase mp, [], raw, [mp], extra⟩ db =
      h.excess (.unhooked mp live raw extra) db := by
    have pointers : (h.modify mp fun md => { md with bDatap := none }).pointers
        (live.erase mp) db = h.pointers (live.erase mp) db :=
      pointers_congr (fun b remains => by
        rw [modify_of_ne (kept.once.mem_erase_iff.mp remains).1]) db
    have owed : releases ((h.modify mp fun md =>
        { md with bDatap := none }).blk db) = releases (h.blk db) :=
      modify_field releases rfl db
    funext d r
    unfold excess references Point.unhooked
    simp only [pointers, owed]
  rw [same] at freed
  unfold Heap.freeb
  rw [points]
  simp only
  by_cases own : db = mp
  · subst own
    rw [if_neg fun both => both.1 rfl]
    simp only [Point.decided, ne_eq, not_true_eq_false, decide_false,
      List.filter_cons, Bool.false_eq_true, if_false,
      List.filter_nil] at freed
    exact freed
  · have decided : Point.decided ⟨live.erase mp, [], raw, [mp],
        h.excess (.unhooked mp live raw extra) db⟩ db =
        ⟨live.erase mp, [], raw, [mp],
          h.excess (.unhooked mp live raw extra) db⟩ := by
      simp [Point.decided, Ne.symm own]
    have last : Point.decided ⟨live.erase mp, [], raw, [mp],
        h.excess (.unhooked mp live raw extra) db⟩ mp =
        ⟨live.erase mp, [], raw, [],
          h.excess (.unhooked mp live raw extra) db⟩ := by
      simp [Point.decided]
    rw [decided] at freed
    have taken := freed.out_of_due List.mem_cons_self
    have counted := (freed.counted mp taken).1
    rw [← last]
    split
    case isTrue unused =>
      apply freed.giveBack taken
      · exact fun remains => (kept.once.mem_erase_iff.mp remains).1 rfl
      · rw [← counted]
        exact unused.2
    case isFalse used =>
      apply freed.settle
      right
      intro unused
      exact used ⟨own, counted.trans unused⟩

theorem Kept.freeb {mp : Nat} (kept : Kept h (.rest live extra))
    (member : mp ∈ live) :
    Kept (h.freeb mp) (.rest (live.erase mp) extra) := by
  obtain ⟨db, points⟩ :=
    Option.ne_none_iff_exists'.mp (kept.attached mp member)
  have freed := kept.freeb_excess member points
  have same : h.excess (.unhooked mp live none extra) db = extra := by
    funext d r
    simp [excess, Point.unhooked]
  rw [same] at freed
  exact freed

def Mdbblock.msgb (md : Mdbblock) :
    Option Nat × Addr × Addr × Option Nat :=
  (md.bCont, md.bRptr, md.bWptr, md.bDatap)

section Frame

variable {b db mp : Nat}

theorem msgb_dropped : ((h.dropped db).blk b).msgb = (h.blk b).msgb := by
  have low := modify_field (h := h) (i := db)
    (f := fun md => { md with dbRef := (md.dbRef + 255) % 256 })
    Mdbblock.msgb rfl b
  unfold dropped
  simp only
  split
  · rw [blk_release, low]
  · exact low

theorem msgb_freedb (attached : (h.blk b).bDatap ≠ none) :
    ((h.freedb db).blk b).msgb = (h.blk b).msgb := by
  have dropped := @msgb_dropped h b db
  rw [freedb_eq]
  split
  case isTrue unused =>
    have apart : b ≠ db := by
      intro same
      subst same
      have datap := congrArg (fun m => m.2.2.2) dropped
      exact attached (datap.symm.trans unused.2)
    rw [blk_mdbblockFree_of_ne apart]
    exact dropped
  case isFalse => exact dropped

theorem msgb_freeb (apart : b ≠ mp) (attached : (h.blk b).bDatap ≠ none) :
    ((h.freeb mp).blk b).msgb = (h.blk b).msgb := by
  unfold Heap.freeb
  split
  · rfl
  case h_2 db points =>
    have same : ((h.modify mp fun md => { md with bDatap := none }).blk b) =
        h.blk b := modify_of_ne apart
    have freed := @msgb_freedb
      (h.modify mp fun md => { md with bDatap := none }) b db
      (by rw [same]; exact attached)
    rw [same] at freed
    simp only
    split
    · rw [blk_mdbblockFree_of_ne apart]
      exact freed
    · exact freed

theorem made_freedb : (h.freedb db).made = h.made := by
  rw [freedb_eq]
  split <;> exact fixed_dropped.1

theorem made_freeb : (h.freeb mp).made = h.made := by
  unfold Heap.freeb
  split
  · rfl
  · simp only
    split <;> exact made_freedb

end Frame

theorem Kept.forget {i : Nat}
    (kept : Kept h ⟨live, pending, some i, due, extra⟩)
    (unused : h.references ⟨live, pending, some i, due, extra⟩ i = 0) :
    Kept h ⟨live, pending, none, due, extra⟩ := by
  refine ⟨kept.once, kept.pooled, kept.made, kept.idle, kept.clean,
    kept.attached, kept.counted, kept.vacant, kept.used, ?_, kept.loose,
    kept.issued⟩
  intro d r
  refine (kept.booked d r).carry rfl rfl rfl ?_
  unfold Holds
  by_cases here : d = i
  · subst here
    exact ⟨fun holds => absurd unused holds.1,
      fun holds => absurd unused holds.1⟩
  · simp only [ne_eq, reduceCtorEq, not_false_eq_true, Option.some.injEq,
      Ne.symm here, true_and]
    exact Iff.rfl

theorem Kept.freeb_raw {mp : Nat}
    (kept : Kept h ⟨mp :: live, [], some mp, [], extra⟩)
    (self : (h.blk mp).bDatap = some mp) (single : (h.blk mp).dbRef = 1) :
    Kept (h.freeb mp) (.rest live fun d r => extra d r +
      if d = mp ∧ releases (h.blk mp) = some r then 1 else 0) := by
  have freed := kept.freeb_excess List.mem_cons_self self
  have counted := (kept.counted mp (kept.out_of_live List.mem_cons_self)).1
  have alone : h.pointers live mp = 0 := by
    rw [single] at counted
    simp only [references, pointers_cons, self, if_true, List.count_nil]
      at counted
    omega
  rw [List.erase_cons_head] at freed
  have same : h.excess (.unhooked mp (mp :: live) (some mp) extra) mp =
      fun d r => extra d r +
        if d = mp ∧ releases (h.blk mp) = some r then 1 else 0 := by
    funext d r
    simp [excess, Point.unhooked, references, alone]
  rw [same] at freed
  have unused : (h.freeb mp).pointers live mp = 0 := by
    rw [← alone]
    apply pointers_congr
    intro b member
    have apart : b ≠ mp := fun here =>
      (List.nodup_cons.mp kept.once).1 (here ▸ member)
    have message := msgb_freeb apart
      (kept.attached b (List.mem_cons_of_mem _ member))
    exact congrArg (fun m => m.2.2.2) message
  exact freed.forget (by simp [references, unused])

end OpenSS7.Mblk
