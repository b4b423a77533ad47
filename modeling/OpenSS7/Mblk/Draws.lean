import OpenSS7.Mblk.Frees

/-!
What a block just drawn is used for: a message with a buffer, a duplicate, or
the new data block of a message.
-/

namespace OpenSS7.Mblk

open Heap

variable {h : Heap} {live : List Nat} {mp : Nat}
  {extra : Nat → Resource → Nat}

def Heap.takes (h : Heap) (mp : Nat) : Option Resource → Heap
  | some r => h.note (.took (some mp) r)
  | none => h

section Takes

variable {owed : Option Resource}

theorem takes_fixed : (h.takes mp owed).blk = h.blk ∧
    (h.takes mp owed).made = h.made ∧ (h.takes mp owed).pool = h.pool ∧
    ∀ i, (h.takes mp owed).Out i ↔ h.Out i := by
  cases owed <;> exact ⟨rfl, rfl, rfl, fun i => Iff.rfl⟩

theorem count_took_takes (d : Option Nat) (r : Resource) :
    (h.takes mp owed).log.count (.took d r) = h.log.count (.took d r) +
      if some mp = d ∧ owed = some r then 1 else 0 := by
  cases owed <;> simp [Heap.takes, note, List.count_cons]

theorem count_gave_takes (d : Option Nat) (r : Resource) :
    (h.takes mp owed).log.count (.gave d r) = h.log.count (.gave d r) := by
  cases owed <;> simp [Heap.takes, note]

theorem issued_takes (i : Nat) :
    (h.takes mp owed).log.count (.out i) = h.log.count (.out i) ∧
      (h.takes mp owed).log.count (.back i) = h.log.count (.back i) := by
  cases owed <;> simp [Heap.takes, note]

theorem references_takes (p : Point) (d : Nat) :
    (h.takes mp owed).references p d = h.references p d := by
  cases owed <;> rfl

end Takes

theorem Kept.enter {f : Mdbblock → Mdbblock}
    (kept : Kept h ⟨mp :: live, [], some mp, [], extra⟩)
    (self : (h.blk mp).bDatap = some mp)
    (datap : (f (h.blk mp)).bDatap = (h.blk mp).bDatap)
    (ref : (f (h.blk mp)).dbRef = (h.blk mp).dbRef) :
    Kept ((h.modify mp f).takes mp (releases (f (h.blk mp))))
      (.rest (mp :: live) extra) := by
  obtain ⟨blk, made, pool, out⟩ := @takes_fixed (h.modify mp f) mp
    (releases (f (h.blk mp)))
  have taken := kept.out_of_live List.mem_cons_self
  have points (i : Nat) := modify_field Mdbblock.bDatap datap i
  have references (d : Nat) :
      ((h.modify mp f).takes mp (releases (f (h.blk mp)))).references
        (.rest (mp :: live) extra) d =
        h.references ⟨mp :: live, [], some mp, [], extra⟩ d := by
    rw [references_takes]
    exact references_congr (p := .rest (mp :: live) extra) points d
  have own : h.references ⟨mp :: live, [], some mp, [], extra⟩ mp ≠ 0 :=
    fun unused => pointers_pos List.mem_cons_self self
      (Nat.eq_zero_of_add_eq_zero unused).1
  constructor
  · exact kept.once
  · rw [pool]
    exact kept.pooled
  · rw [pool, made]
    exact kept.made
  · intro i idle
    rw [references]
    exact kept.idle i (mt (out i).mpr idle)
  · intro i waits
    rw [pool] at waits
    have apart : i ≠ mp := fun same => taken.2 (same ▸ waits)
    rw [blk, modify_of_ne apart]
    exact kept.clean i waits
  · intro b member
    rw [blk, points]
    exact kept.attached b member
  · intro d before
    rw [references, blk, modify_field Mdbblock.dbRef ref]
    exact kept.counted d ((out d).mp before)
  · intro i before
    rw [blk, points]
    exact kept.vacant i ((out i).mp before)
  · intro i before
    rw [references]
    exact kept.used i ((out i).mp before)
  · intro d r
    have booked := kept.booked d r
    have log : (h.modify mp f).log = h.log := rfl
    unfold Booked Holds at booked ⊢
    simp only [references, blk, count_took_takes, count_gave_takes, log]
    by_cases here : d = mp
    · subst here
      simp [modify_self, own, Point.rest] at booked ⊢
      omega
    · simp [modify_of_ne here, Ne.symm here, Point.rest] at booked ⊢
      omega
  · intro r
    rw [count_took_takes, count_gave_takes]
    change h.log.count _ + _ = h.log.count _
    rw [kept.loose r]
    simp
  · intro i
    rw [(issued_takes i).1, (issued_takes i).2]
    simp only [out]
    exact kept.issued i

section Repoint

variable {h' : Heap} {db : Nat}

theorem references_share (kept : Kept h ⟨mp :: live, [], some mp, [], extra⟩)
    (self : (h.blk mp).bDatap = some mp)
    (points : (h'.blk mp).bDatap = some db)
    (others : ∀ i, i ≠ mp → (h'.blk i).bDatap = (h.blk i).bDatap) (d : Nat) :
    h'.references (.rest (mp :: live) extra) d + (if mp = d then 1 else 0) =
      h.references ⟨mp :: live, [], some mp, [], extra⟩ d +
        if db = d then 1 else 0 := by
  have same : h'.pointers live d = h.pointers live d :=
    pointers_congr (fun b member => others b fun here =>
      (List.nodup_cons.mp kept.once).1 (here ▸ member)) d
  simp only [references, Point.rest, pointers_cons, self, points, same,
    Option.some.injEq, List.count_nil]
  omega

theorem Kept.share (kept : Kept h ⟨mp :: live, [], some mp, [], extra⟩)
    (self : (h.blk mp).bDatap = some mp) (single : (h.blk mp).dbRef = 1)
    (taken : h.Out db) (apart : db ≠ mp)
    (pointed : h.references ⟨mp :: live, [], some mp, [], extra⟩ db ≠ 0)
    (room : (h.blk db).dbRef ≠ 255) (made : h'.made = h.made)
    (pool : h'.pool = h.pool) (log : h'.log = h.log)
    (points : (h'.blk mp).bDatap = some db) (none : (h'.blk mp).dbRef = 0)
    (more : h'.blk db = { h.blk db with dbRef := (h.blk db).dbRef + 1 })
    (others : ∀ i, i ≠ mp → i ≠ db → h'.blk i = h.blk i) :
    Kept h' (.rest (mp :: live) extra) := by
  have out (i : Nat) : h'.Out i ↔ h.Out i := by
    unfold Out
    rw [made, pool]
  have drawn := kept.out_of_live List.mem_cons_self
  have datap (i : Nat) (strange : i ≠ mp) :
      (h'.blk i).bDatap = (h.blk i).bDatap := by
    by_cases here : i = db
    · rw [here, more]
    · rw [others i strange here]
  have references (d : Nat) := references_share kept self points datap d
  have alone := (kept.counted mp drawn).1
  rw [single] at alone
  have unused : h'.references (.rest (mp :: live) extra) mp = 0 := by
    have moved := references mp
    rw [if_pos rfl, if_neg apart, ← alone] at moved
    omega
  have more' : h'.references (.rest (mp :: live) extra) db =
      h.references ⟨mp :: live, [], some mp, [], extra⟩ db + 1 := by
    have moved := references db
    rw [if_neg (Ne.symm apart), if_pos rfl] at moved
    exact moved
  have rest {d : Nat} (strange : d ≠ mp) (foreign : d ≠ db) :
      h'.references (.rest (mp :: live) extra) d =
        h.references ⟨mp :: live, [], some mp, [], extra⟩ d := by
    have moved := references d
    rw [if_neg (Ne.symm strange), if_neg (Ne.symm foreign)] at moved
    exact moved
  constructor
  · exact kept.once
  · rw [pool]
    exact kept.pooled
  · rw [pool, made]
    exact kept.made
  · intro i idle
    rw [out] at idle
    have strange : i ≠ mp := fun same => idle (same ▸ drawn)
    have foreign : i ≠ db := fun same => idle (same ▸ taken)
    rw [rest strange foreign]
    exact kept.idle i idle
  · intro i waits
    rw [pool] at waits
    have strange : i ≠ mp := fun same => drawn.2 (same ▸ waits)
    have foreign : i ≠ db := fun same => taken.2 (same ▸ waits)
    rw [others i strange foreign]
    exact kept.clean i waits
  · intro b member
    by_cases here : b = mp
    · rw [here, points]
      exact Option.some_ne_none db
    · rw [datap b here]
      exact kept.attached b member
  · intro d before
    rw [out] at before
    have counted := kept.counted d before
    by_cases here : d = mp
    · rw [here, none, unused]
      exact ⟨rfl, Nat.zero_le 255⟩
    · by_cases there : d = db
      · subst there
        rw [more, more']
        refine ⟨by rw [counted.1], ?_⟩
        change (h.blk d).dbRef ≠ 255 at room
        omega
      · rw [others d here there, rest here there]
        exact counted
  · intro i before foreign
    rw [out] at before
    rw [datap i fun same => foreign (same ▸ List.mem_cons_self)]
    exact kept.vacant i before foreign
  · intro i before
    rw [out] at before
    by_cases here : i = mp
    · exact .inl (here ▸ List.mem_cons_self)
    · by_cases there : i = db
      · right
        left
        rw [there, more']
        exact Nat.succ_ne_zero _
      · rw [rest here there]
        exact kept.used i before
  · intro d r
    refine (kept.booked d r).carry rfl (by rw [log]) (by rw [log]) ?_
    unfold Holds
    by_cases here : d = mp
    · subst here
      simp [unused]
    · by_cases there : d = db
      · subst there
        rw [more', more]
        simp [pointed, Ne.symm here, Point.rest, releases]
      · rw [rest here there, others d here there]
        simp [Ne.symm here, Point.rest]
  · intro r
    rw [log]
    exact kept.loose r
  · intro i
    rw [log]
    simp only [out]
    exact kept.issued i

theorem Kept.swap {bp : Nat} {r : Resource}
    (kept : Kept h ⟨mp :: live, [], some mp, [], extra⟩)
    (self : (h.blk mp).bDatap = some mp) (member : bp ∈ live)
    (pointed : (h.blk bp).bDatap = some db) (made : h'.made = h.made)
    (pool : h'.pool = h.pool) (log : h'.log = .took (some mp) r :: h.log)
    (vacant : (h'.blk mp).bDatap = none) (points : (h'.blk bp).bDatap = some mp)
    (datap : ∀ i, i ≠ mp → i ≠ bp → (h'.blk i).bDatap = (h.blk i).bDatap)
    (ref : ∀ i, (h'.blk i).dbRef = (h.blk i).dbRef)
    (owed : releases (h'.blk mp) = some r)
    (others : ∀ i, i ≠ mp → releases (h'.blk i) = releases (h.blk i))
    (waits : ∀ i ∈ h.pool, h'.blk i = h.blk i) :
    Kept h' ⟨live, [db], none, [], extra⟩ := by
  have out (i : Nat) : h'.Out i ↔ h.Out i := by
    unfold Out
    rw [made, pool]
  obtain ⟨strange, once⟩ := List.nodup_cons.mp kept.once
  have drawn := kept.out_of_live List.mem_cons_self
  have references (d : Nat) : h'.references ⟨live, [db], none, [], extra⟩ d =
      h.references ⟨mp :: live, [], some mp, [], extra⟩ d := by
    have same : h'.pointers (live.erase bp) d = h.pointers (live.erase bp) d :=
      pointers_congr (fun b remains => by
        obtain ⟨apart, was⟩ := once.mem_erase_iff.mp remains
        exact datap b (fun here => strange (here ▸ was)) apart) d
    simp only [Heap.references, pointers_cons, pointers_erase member, self,
      pointed, points, same, Option.some.injEq, List.count_cons, List.count_nil,
      beq_iff_eq]
    omega
  constructor
  · exact once
  · rw [pool]
    exact kept.pooled
  · rw [pool, made]
    exact kept.made
  · intro i idle
    rw [out] at idle
    rw [references]
    obtain ⟨foreign, none, undue⟩ := kept.idle i idle
    exact ⟨fun was => foreign (List.mem_cons_of_mem _ was), none, undue⟩
  · intro i idle
    rw [pool] at idle
    rw [waits i idle]
    exact kept.clean i idle
  · intro b was
    by_cases here : b = bp
    · rw [here, points]
      exact Option.some_ne_none mp
    · rw [datap b (fun same => strange (same ▸ was)) here]
      exact kept.attached b (List.mem_cons_of_mem _ was)
  · intro d before
    rw [ref, references]
    exact kept.counted d ((out d).mp before)
  · intro i before foreign
    by_cases here : i = mp
    · rw [here, vacant]
    · rw [datap i here fun same => foreign (same ▸ member)]
      exact kept.vacant i ((out i).mp before)
        (List.not_mem_cons_of_ne_of_not_mem here foreign)
  · intro i before
    rw [references]
    by_cases here : i = mp
    · right
      left
      rw [here]
      exact fun unused => pointers_pos List.mem_cons_self self
        (Nat.eq_zero_of_add_eq_zero unused).1
    · rcases kept.used i ((out i).mp before) with was | rest
      · exact .inl (List.mem_of_ne_of_mem here was)
      · exact .inr rest
  · intro d r'
    have booked := kept.booked d r'
    have own : h.references ⟨mp :: live, [], some mp, [], extra⟩ mp ≠ 0 :=
      fun unused => pointers_pos List.mem_cons_self self
        (Nat.eq_zero_of_add_eq_zero unused).1
    unfold Booked Holds at booked ⊢
    rw [log]
    simp only [references]
    by_cases here : d = mp
    · subst here
      simp [owed, own, List.count_cons] at booked ⊢
      omega
    · simp [others d here, Ne.symm here, List.count_cons] at booked ⊢
      omega
  · intro r'
    rw [log]
    simp only [List.count_cons, beq_iff_eq, Event.took.injEq, reduceCtorEq,
      false_and, if_false, Nat.add_zero]
    exact kept.loose r'
  · intro i
    rw [log]
    simp only [List.count_cons, beq_iff_eq, reduceCtorEq, if_false,
      Nat.add_zero, out]
    exact kept.issued i

end Repoint

end OpenSS7.Mblk
