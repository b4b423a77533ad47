import OpenSS7.Mblk.Copy
import OpenSS7.Mblk.Lifetime

/-!
Whether a message that cannot be copied or duplicated to its end is left as it
was.
-/

namespace OpenSS7.Mblk

open Heap

def Heap.AllDuplicated (cfg : Config) :
    Nat → Heap → Option Nat → Option Nat → Prop
  | 0, _, _, _ => True
  | _, _, none, _ => True
  | fuel + 1, h, some b, last =>
      match h.dupb cfg b with
      | (none, _) => False
      | (some mp, h) =>
          let h := h.append last mp
          AllDuplicated cfg fuel h (h.blk b).bCont (some mp)

def Mdbblock.shared (md : Mdbblock) : Addr × Addr × Option Nat :=
  (md.bRptr, md.bWptr, md.bDatap)

structure Heap.Restored (h h' : Heap) (live : List Nat) : Prop where
  out : ∀ i, h'.Out i ↔ h.Out i
  msgb : ∀ b ∈ live, (h'.blk b).msgb = (h.blk b).msgb
  ref : ∀ d, h.Out d → (h'.blk d).dbRef = (h.blk d).dbRef

/-- `msg` is a message of other blocks that equals `mp` block by block and has
no data block of a block in use before; these stay as they are. -/
structure Image.CopyOf (s s' : Image) (live : List Nat) (mp : Nat)
    (msg : Option Nat) (new : List Nat) : Prop where
  linked : s'.heap.IsChain msg new
  once : new.Nodup
  equal : new.map s'.face = (s.heap.blocks mp).map s.face
  apart : ∀ c ∈ new, c ∉ live ∧
    ∀ b ∈ live, (s'.heap.blk c).bDatap ≠ (s'.heap.blk b).bDatap
  face : ∀ b ∈ live, s'.face b = s.face b
  msgb : ∀ b ∈ live, (s'.heap.blk b).msgb = (s.heap.blk b).msgb
  ref : ∀ d, s.heap.Out d → (s'.heap.blk d).dbRef = (s.heap.blk d).dbRef

/-- `msg` is a message of other blocks that shares the data blocks of `mp`, to
which there is one more reference for each block of `mp` that has it. -/
structure Heap.DuplicateOf (h h' : Heap) (live : List Nat) (mp : Nat)
    (msg : Option Nat) (new : List Nat) : Prop where
  linked : h'.IsChain msg new
  once : new.Nodup
  apart : ∀ c ∈ new, c ∉ live
  shared : new.map (fun c => (h'.blk c).shared) =
    (h.blocks mp).map fun b => (h.blk b).shared
  msgb : ∀ b ∈ live, (h'.blk b).msgb = (h.blk b).msgb
  ref : ∀ d, h.Out d →
    (h'.blk d).dbRef = (h.blk d).dbRef + h.pointers (h.blocks mp) d

def Image.CopyAtomic (s : Image) (cfg : Config) (memory : Nat → Memory)
    (live : List Nat) (mp : Nat) : Prop :=
  let out := s.copymsg cfg memory mp
  (Image.AllCopied cfg memory s.heap.made 0 s (some mp) none →
      ∃ new, s.CopyOf out.2 live mp out.1 new) ∧
    (¬ Image.AllCopied cfg memory s.heap.made 0 s (some mp) none →
      out.1 = none ∧ s.heap.Restored out.2.heap live)

def Heap.DuplicateAtomic (h : Heap) (cfg : Config) (live : List Nat)
    (mp : Nat) : Prop :=
  let out := h.dupmsg cfg mp
  (AllDuplicated cfg h.made h (some mp) none →
      ∃ new, h.DuplicateOf out.2 live mp out.1 new) ∧
    (¬ AllDuplicated cfg h.made h (some mp) none →
      out.1 = none ∧ h.Restored out.2 live)

section Duplicates

variable {h h' : Heap} {cfg : Config} {live : List Nat}
  {extra : Nat → Resource → Nat} {bp mp : Nat}

theorem dupb_shared (kept : Kept h (.rest live extra)) (member : bp ∈ live)
    (result : h.dupb cfg bp = (some mp, h')) :
    (h'.blk mp).shared = (h.blk bp).shared := by
  rcases @dupb_cases _ cfg _ _ _ kept member with
    ⟨grants, _, refused⟩ | ⟨md, h'', db, _, drawn, points, found⟩
  · rw [refused] at result
    cases result
  · rw [found] at result
    split at result
    · cases result
    · cases result
      have source := drawn.apart (kept.out_of_datap member points)
      have apart := drawn.apart (kept.out_of_live member)
      rw [blk_duplicated source, if_pos rfl]
      simp only [Mdbblock.shared, drawn.others bp apart]

theorem shared_append {last : Option Nat} {i : Nat} :
    ((h.append last mp).blk i).shared = (h.blk i).shared := by
  cases last with
  | none => rfl
  | some tail =>
      exact modify_field (f := fun md => { md with bCont := some mp })
        Mdbblock.shared rfl i

theorem msgb_freemsg {bs : List Nat} {start : Option Nat} {fuel i : Nat}
    (linked : h.IsChain start bs) (once : bs.Nodup)
    (attached : ∀ b ∈ bs, (h.blk b).bDatap ≠ none) (apart : i ∉ bs)
    (held : (h.blk i).bDatap ≠ none) :
    ((h.freemsg fuel start).blk i).msgb = (h.blk i).msgb := by
  induction bs generalizing h start fuel with
  | nil =>
      rw [linked]
      cases fuel <;> rfl
  | cons b rest ih =>
      cases fuel with
      | zero => rfl
      | succ fuel =>
          obtain ⟨foreign, once'⟩ := List.nodup_cons.mp once
          have same {c : Nat} (strange : c ≠ b)
              (has : (h.blk c).bDatap ≠ none) :
              ((h.freeb b).blk c).msgb = (h.blk c).msgb :=
            msgb_freeb strange has
          have strange {c : Nat} (later : c ∈ rest) : c ≠ b :=
            fun here => foreign (here ▸ later)
          have attached' {c : Nat} (later : c ∈ rest) :=
            attached c (List.mem_cons_of_mem _ later)
          have here : i ≠ b := fun same => apart (same ▸ List.mem_cons_self)
          have datap {c : Nat} (strange : c ≠ b)
              (has : (h.blk c).bDatap ≠ none) :
              ((h.freeb b).blk c).bDatap ≠ none := by
            have message := congrArg (fun m => m.2.2.2) (same strange has)
            exact fun gone => has (message.symm.trans gone)
          rw [linked.1, Heap.freemsg]
          refine (@ih (h.freeb b) _ fuel ?_ once' ?_ ?_ ?_).trans
            (same here held)
          · exact linked.2.congr fun c later =>
              congrArg Prod.fst (same (strange later) (attached' later))
          · exact fun c later => datap (strange later) (attached' later)
          · exact fun later => apart (List.mem_cons_of_mem _ later)
          · exact datap here held

structure Hung (h h' : Heap) (live : List Nat) (msg start : Option Nat)
    (dups rest : List Nat) : Prop where
  kept : ∃ extra, Kept h' (.rest (dups ++ live) extra)
  copied : h'.IsChain msg dups
  linked : h'.IsChain start rest
  msgb : ∀ i ∈ live, (h'.blk i).msgb = (h.blk i).msgb

theorem dupb_hung {b : Nat} {dups rest : List Nat} {start msg : Option Nat}
    (kept : Kept h (.rest (dups ++ live) extra))
    (linked : h.IsChain start (b :: rest)) (held : ∀ c ∈ b :: rest, c ∈ live)
    (copied : h.IsChain msg dups) (result : h.dupb cfg b = (some mp, h')) :
    Hung h (h'.append dups.getLast? mp) live (msg.or (some mp))
      ((h'.append dups.getLast? mp).blk b).bCont (dups ++ [mp]) rest := by
  have source : b ∈ live := held b List.mem_cons_self
  have member : b ∈ dups ++ live := List.mem_append_right _ source
  have distinct : (dups ++ live).Nodup := kept.once
  have apart {c : Nat} (original : c ∈ live) : c ∉ dups := fun copy =>
    (List.nodup_append.mp distinct).2.2 c copy c original rfl
  have frame := (@dupb_frame _ cfg _ _ _ kept member).2
  have fresh := dupb_fresh kept member result
  obtain ⟨extra', _, duplicated⟩ := @Kept.dupb _ cfg _ _ _ kept member
  rw [result] at frame duplicated
  have whole : Kept h' (.rest (mp :: (dups ++ live)) extra') := duplicated
  have strange : mp ∉ dups ++ live := (List.nodup_cons.mp whole.once).1
  have reordered : Kept h' (.rest ((dups ++ [mp]) ++ live) extra') := by
    apply whole.perm
    rw [List.append_assoc]
    exact List.perm_middle.symm
  have last {c : Nat} (tail : c ∈ dups.getLast?) : c ∈ dups :=
    List.mem_of_getLast? tail
  have msgb {i : Nat} (original : i ∈ live) :
      ((h'.append dups.getLast? mp).blk i).msgb = (h.blk i).msgb := by
    rw [append_frame fun tail => apart original (last tail)]
    exact frame i (List.mem_append_right _ original)
  have cont {c : Nat} (original : c ∈ live) :
      ((h'.append dups.getLast? mp).blk c).bCont = (h.blk c).bCont :=
    congrArg Prod.fst (msgb original)
  refine ⟨⟨extra', ?_⟩, ?_, ?_, fun i => msgb⟩
  · exact reordered.append fun c tail => List.mem_append_left _
      (List.mem_append_left _ (last tail))
  · apply IsChain.append_last _ _ fresh
    · exact copied.congr fun c copy => congrArg Prod.fst
        (frame c (List.mem_append_left _ copy))
    · rw [List.nodup_append]
      refine ⟨(List.nodup_append.mp distinct).1, by simp, ?_⟩
      intro c copy d new
      rw [List.mem_singleton.mp new]
      exact fun same => strange (List.mem_append_left _ (same ▸ copy))
  · rw [cont source]
    exact linked.2.congr fun c later =>
      cont (held c (List.mem_cons_of_mem _ later))

/-- What `dupmsg` leaves when every block can be duplicated. -/
structure Duplicates (h h' : Heap) (live : List Nat) (msg : Option Nat)
    (dups bs new : List Nat) : Prop where
  once : ((dups ++ new) ++ live).Nodup
  linked : h'.IsChain msg (dups ++ new)
  equal : new.map (fun c => (h'.blk c).shared) =
    bs.map fun b => (h.blk b).shared
  shared : ∀ i ∈ dups ++ live, (h'.blk i).shared = (h.blk i).shared
  msgb : ∀ i ∈ live, (h'.blk i).msgb = (h.blk i).msgb

theorem dupmsgFrom_spec {bs dups : List Nat} {start msg : Option Nat}
    {fuel freeFuel : Nat} (kept : Kept h (.rest (dups ++ live) extra))
    (linked : h.IsChain start bs) (held : ∀ b ∈ bs, b ∈ live)
    (copied : h.IsChain msg dups) (enough : bs.length ≤ fuel) :
    let out := Heap.dupmsgFrom cfg freeFuel fuel h start msg dups.getLast?
    (AllDuplicated cfg fuel h start dups.getLast? →
        ∃ new, Duplicates h out.2 live out.1 dups bs new) ∧
      (¬ AllDuplicated cfg fuel h start dups.getLast? →
        out.1 = none ∧
          ∀ i ∈ live, (out.2.blk i).msgb = (h.blk i).msgb) := by
  induction bs generalizing h extra dups start msg fuel with
  | nil =>
      rw [linked]
      have out : Heap.dupmsgFrom cfg freeFuel fuel h none msg dups.getLast? =
          (msg, h) := by
        cases fuel <;> rfl
      have all : AllDuplicated cfg fuel h none dups.getLast? := by
        cases fuel <;> trivial
      rw [out]
      refine ⟨fun _ => ⟨[], ?_⟩, fun some => absurd all some⟩
      constructor
      · rw [List.append_nil]
        exact kept.once
      · rw [List.append_nil]
        exact copied
      · rfl
      · exact fun _ _ => rfl
      · exact fun _ _ => rfl
  | cons b rest ih =>
      cases fuel with
      | zero => exact absurd enough (Nat.not_succ_le_zero _)
      | succ fuel =>
          have source : b ∈ live := held b List.mem_cons_self
          have member : b ∈ dups ++ live := List.mem_append_right _ source
          have frame := (@dupb_frame _ cfg _ _ _ kept member).2
          obtain ⟨extra', _, duplicated⟩ := @Kept.dupb _ cfg _ _ _ kept member
          have begins := linked
          rw [linked.1]
          unfold Heap.dupmsgFrom AllDuplicated
          rcases result : h.dupb cfg b with ⟨_ | mp, h'⟩
          · rw [result] at frame duplicated
            refine ⟨fun all => all.elim, fun _ => ⟨rfl, fun i original => ?_⟩⟩
            have before : Kept h' (.rest (dups ++ live) extra') := duplicated
            obtain ⟨once, _, apart⟩ := List.nodup_append.mp before.once
            have linked' : h'.IsChain msg dups :=
              copied.congr fun c copy => congrArg Prod.fst
                (frame c (List.mem_append_left _ copy))
            exact (msgb_freemsg linked' once
              (fun c copy => before.attached c (List.mem_append_left _ copy))
              (fun copy => apart i copy i original rfl)
              (before.attached i (List.mem_append_right _ original))).trans
              (frame i (List.mem_append_right _ original))
          · have shares := dupb_shared kept member result
            have hung := dupb_hung kept begins held copied result
            obtain ⟨extra'', kept'⟩ := hung.kept
            rw [result] at frame
            have shared {i : Nat} (known : i ∈ dups ++ live) :
                ((h'.append dups.getLast? mp).blk i).shared =
                  (h.blk i).shared :=
              shared_append.trans (congrArg Prod.snd (frame i known))
            have next := @ih (h'.append dups.getLast? mp) extra'' (dups ++ [mp])
              _ (msg.or (some mp)) fuel kept' hung.linked
              (fun c later => held c (List.mem_cons_of_mem _ later)) hung.copied
              (Nat.le_of_succ_le_succ enough)
            rw [List.getLast?_concat] at next
            refine ⟨fun all => ?_, fun some => ?_⟩
            · obtain ⟨new, duplicates⟩ := next.1 all
              have wide {i : Nat} (known : i ∈ dups ++ live) :
                  i ∈ (dups ++ [mp]) ++ live := by
                rcases List.mem_append.mp known with copy | original
                · exact List.mem_append_left _ (List.mem_append_left _ copy)
                · exact List.mem_append_right _ original
              have here : mp ∈ (dups ++ [mp]) ++ live :=
                List.mem_append_left _ (List.mem_append_right _ (by simp))
              refine ⟨mp :: new, ?_, ?_, ?_, ?_, ?_⟩
              · have grown := duplicates.once
                rw [List.append_assoc dups [mp] new] at grown
                exact grown
              · have grown := duplicates.linked
                rw [List.append_assoc dups [mp] new] at grown
                exact grown
              · rw [List.map_cons, List.map_cons, duplicates.equal,
                  duplicates.shared mp here, shared_append, shares]
                congr 1
                apply List.map_congr_left
                intro i later
                exact shared (List.mem_append_right _
                  (held i (List.mem_cons_of_mem _ later)))
              · intro i known
                rw [duplicates.shared i (wide known), shared known]
              · intro i original
                rw [duplicates.msgb i original, hung.msgb i original]
            · obtain ⟨refused, same⟩ := next.2 some
              exact ⟨refused, fun i original =>
                (same i original).trans (hung.msgb i original)⟩

end Duplicates

section Atomic

variable {h h' : Heap} {cfg : Config} {live : List Nat}
  {extra extra' : Nat → Resource → Nat} {mp : Nat}

theorem Kept.out_iff (kept : Kept h (.rest live extra)) (i : Nat) :
    h.Out i ↔ i ∈ live ∨ h.pointers live i ≠ 0 := by
  have references : h.references (.rest live extra) i = h.pointers live i := by
    simp [references, Point.rest]
  constructor
  · intro taken
    rcases kept.used i taken with member | pointed | due
    · exact Or.inl member
    · rw [references] at pointed
      exact Or.inr pointed
    · exact absurd due List.not_mem_nil
  · rintro (member | pointed)
    · exact kept.out_of_live member
    · apply kept.out_of_references
      rw [references]
      exact pointed

theorem Kept.ref_eq (kept : Kept h (.rest live extra)) {d : Nat}
    (taken : h.Out d) : (h.blk d).dbRef = h.pointers live d := by
  have counted := (kept.counted d taken).1
  simpa [references, Point.rest] using counted

theorem Kept.restored (kept : Kept h (.rest live extra))
    (kept' : Kept h' (.rest live extra'))
    (msgb : ∀ b ∈ live, (h'.blk b).msgb = (h.blk b).msgb) :
    h.Restored h' live := by
  have pointers (d : Nat) : h'.pointers live d = h.pointers live d :=
    pointers_congr (fun b member =>
      congrArg (fun m => m.2.2.2) (msgb b member)) d
  have out (i : Nat) : h'.Out i ↔ h.Out i := by
    rw [kept.out_iff, kept'.out_iff, pointers]
  refine ⟨out, msgb, fun d taken => ?_⟩
  rw [kept'.ref_eq ((out d).mpr taken), kept.ref_eq taken, pointers]

theorem pointers_append (new : List Nat) (d : Nat) :
    h.pointers (new ++ live) d = h.pointers new d + h.pointers live d :=
  List.countP_append

theorem pointers_shared {new bs : List Nat} {d : Nat}
    (shared : new.map (fun c => (h'.blk c).shared) =
      bs.map fun b => (h.blk b).shared) :
    h'.pointers new d = h.pointers bs d := by
  have datap : new.map (fun c => (h'.blk c).bDatap) =
      bs.map fun b => (h.blk b).bDatap := by
    have same := congrArg (List.map fun m => m.2.2) shared
    rw [List.map_map, List.map_map] at same
    exact same
  have counted := congrArg (List.countP fun p => decide (p = some d)) datap
  rw [List.countP_map, List.countP_map] at counted
  exact counted

theorem dupmsg_atomic (kept : Kept h (.rest live extra))
    (message : IsMessage h live mp) : h.DuplicateAtomic cfg live mp := by
  obtain ⟨linked, once, held⟩ := message
  have enough := length_le_made kept once held
  obtain ⟨success, failure⟩ := @dupmsgFrom_spec h cfg live extra _ [] _ none _
    h.made kept linked held rfl enough
  obtain ⟨extra', dups, _, kept', linked'⟩ :=
    @Kept.dupmsgFrom _ cfg live _ _ [] _ none h.made h.made kept linked held
      rfl enough (by simpa using enough)
  refine ⟨fun all => ?_, fun some => ?_⟩
  · obtain ⟨new, duplicates⟩ := success all
    obtain ⟨once', _, apart⟩ := List.nodup_append.mp duplicates.once
    obtain rfl : dups = new := linked'.unique duplicates.linked
    refine ⟨dups, duplicates.linked, once', ?_, duplicates.equal,
      duplicates.msgb, ?_⟩
    · exact fun c copy original => apart c copy c original rfl
    · intro d taken
      have before := pointers_congr (fun b member =>
        congrArg (fun m => m.2.2.2) (duplicates.msgb b member)) d
      have added : (h.dupmsg cfg mp).2.pointers dups d =
          h.pointers (h.blocks mp) d :=
        pointers_shared duplicates.equal
      have now := kept'.ref_eq ((kept'.out_iff d).mpr ?_)
      · refine now.trans ?_
        rw [pointers_append, kept.ref_eq taken, Nat.add_comm]
        exact congrArg₂ _ before added
      · rcases (kept.out_iff d).mp taken with member | pointed
        · exact Or.inl (List.mem_append_right _ member)
        · right
          rw [pointers_append]
          exact fun none => pointed (before.symm.trans
            (Nat.add_eq_zero_iff.mp none).2)
  · obtain ⟨refused, msgb⟩ := failure some
    have none : dups = [] := by
      change (h.dupmsg cfg mp).2.IsChain (h.dupmsg cfg mp).1 dups at linked'
      have first : (h.dupmsg cfg mp).1 = Option.none := refused
      rw [first] at linked'
      cases dups with
      | nil => rfl
      | cons b rest => cases linked'.1
    subst none
    exact ⟨refused, kept.restored kept' msgb⟩

theorem copymsg_atomic_iff {s : Image} {memory : Nat → Memory}
    (kept : Kept s.heap (.rest live extra))
    (message : IsMessage s.heap live mp)
    (outside : ∀ k, (memory k).Outside s.heap) :
    s.CopyAtomic cfg memory live mp ↔
      Image.AllCopied cfg memory s.heap.made 0 s (some mp) none := by
  obtain ⟨bs, blocks, _⟩ := message.spec
  obtain ⟨linked, once, held⟩ := message
  have enough := length_le_made kept once held
  have first : mp ∈ s.heap.blocks mp := blocks ▸ List.mem_cons_self
  obtain ⟨success, failure⟩ := @copymsgFrom_spec s cfg live extra memory _ _ []
    mp _ none s.heap.made s.heap.made 0 kept linked held rfl enough outside
    linked once held enough
  change Image.AllCopied cfg memory s.heap.made 0 s (some mp) none →
    ∃ new, Copies s (s.copymsg cfg memory mp).2 live extra
      (s.copymsg cfg memory mp).1 [] (s.heap.blocks mp) new at success
  constructor
  · rintro ⟨-, restores⟩
    by_contra some
    obtain ⟨_, part, foreign, gone⟩ := failure some
    obtain ⟨_, restored⟩ := restores some
    have member := held mp first
    have taken := (restored.out mp).mpr (kept.out_of_live member)
    have vacant := gone.vacant mp taken fun stays => by
      rcases List.mem_append.mp stays with copy | original
      · exact foreign mp copy member
      · exact of_decide_eq_true (List.mem_filter.mp original).2 first
    have datap := congrArg (fun m => m.2.2.2) (restored.msgb mp member)
    exact kept.attached mp member (datap.symm.trans vacant)
  · intro all
    refine ⟨fun _ => ?_, fun some => absurd all some⟩
    obtain ⟨new, copies⟩ := success all
    obtain ⟨once', _, apart⟩ := List.nodup_append.mp copies.kept.once
    have source {b : Nat} (member : b ∈ live) :=
      congrArg (fun m => m.2.2.2) (copies.msgb b member)
    refine ⟨new, copies.linked, once', copies.equal, ?_, copies.face,
      copies.msgb, ?_⟩
    · intro c copy
      refine ⟨fun original => apart c copy c original rfl, fun b member => ?_⟩
      obtain ⟨idle, own⟩ := copies.own c copy
      rw [own]
      intro same
      exact idle (kept.out_of_datap member ((source member).symm.trans same.symm))
    · intro d taken
      have before : _ = s.heap.pointers live d :=
        pointers_congr (fun b member => source member) d
      have added : (s.copymsg cfg memory mp).2.heap.pointers new d = 0 := by
        apply List.countP_eq_zero.mpr
        intro c copy points
        obtain ⟨idle, own⟩ := copies.own c copy
        rw [own] at points
        exact idle (Option.some.inj (of_decide_eq_true points) ▸ taken)
      have still : _ ∨ _ := (kept.out_iff d).mp taken
      have now := copies.kept.ref_eq ((copies.kept.out_iff d).mpr ?_)
      · refine now.trans ?_
        rw [List.nil_append, pointers_append, kept.ref_eq taken, before]
        exact (congrArg (· + s.heap.pointers live d) added).trans
          (Nat.zero_add _)
      · rw [List.nil_append]
        rcases still with member | pointed
        · exact Or.inl (List.mem_append_right _ member)
        · right
          rw [pointers_append, before]
          exact fun none => pointed (Nat.add_eq_zero_iff.mp none).2

/-- `dupmsg` is always atomic, and `copymsg` when every block is copied: when
one is not, it frees the message it copies and keeps the copy. -/
theorem copies_atomic_iff {s : Image} {memory : Nat → Memory}
    (kept : Kept s.heap (.rest live extra))
    (message : IsMessage s.heap live mp)
    (outside : ∀ k, (memory k).Outside s.heap) :
    (s.CopyAtomic cfg memory live mp ∧
        s.heap.DuplicateAtomic cfg live mp) ↔
      Image.AllCopied cfg memory s.heap.made 0 s (some mp) none := by
  constructor
  · rintro ⟨copies, -⟩
    exact (copymsg_atomic_iff kept message outside).mp copies
  · intro all
    exact ⟨(copymsg_atomic_iff kept message outside).mpr all,
      dupmsg_atomic kept message⟩

def Stage.run (cfg : Config) (s : Stage) (calls : List Call) : Stage :=
  calls.foldl (fun s call => s.exec cfg call) s

theorem kept_run {s : Stage} {calls : List Call}
    (kept : Kept s.heap (.rest s.live fun _ _ => 0))
    (legal : Legal cfg s calls) (clean : AllClean cfg s calls) :
    Kept (s.run cfg calls).heap (.rest (s.run cfg calls).live fun _ _ => 0) := by
  induction calls generalizing s with
  | nil => exact kept
  | cons call rest ih =>
      obtain ⟨extra, kept', exact⟩ := @exec_exact cfg _ _ kept legal.1
      rw [exact.mpr clean.1] at kept'
      exact ih kept' legal.2 clean.2

/-- A message of three octets in two blocks; `grants` is what the memory cache
is going to answer. -/
def twoBlocks (grants : List Grant) : Stage :=
  Stage.start.run ⟨128, 64⟩
    [⟨.allocb 10 false, [.constructed 1000], ⟨none, none⟩⟩,
      ⟨.setData 0 1000 1002, [], ⟨none, none⟩⟩,
      ⟨.allocb 10 false, [.constructed 2000], ⟨none, none⟩⟩,
      ⟨.setData 1 2000 2001, [], ⟨none, none⟩⟩,
      ⟨.setCont 0 (some 1), grants, ⟨none, none⟩⟩]

theorem twoBlocks_kept (grants : List Grant) :
    Kept (twoBlocks grants).heap
      (.rest (twoBlocks grants).live fun _ _ => 0) := by
  have kept : Kept (twoBlocks []).heap
      (.rest (twoBlocks []).live fun _ _ => 0) :=
    kept_run start_kept (by decide +kernel) (by decide +kernel)
  exact kept.regrant grants

def Stage.image (s : Stage) : Image :=
  ⟨s.heap, fun _ _ => 0, fun _ => ⟨0, 0, 0⟩⟩

theorem copies_atomic_two :
    (twoBlocks [.constructed 3000, .constructed 4000]).image.CopyAtomic
        ⟨128, 64⟩ (fun _ => ⟨none, none⟩) [1, 0] 0 ∧
      (twoBlocks [.constructed 3000, .constructed 4000]).heap.DuplicateAtomic
        ⟨128, 64⟩ [1, 0] 0 :=
  (copies_atomic_iff (s := (twoBlocks _).image) (twoBlocks_kept _)
    (by decide +kernel) fun _ => by decide +kernel).mpr (by decide +kernel)

theorem copymsg_frees_the_original :
    ¬ ∀ (s : Image) (cfg : Config) (memory : Nat → Memory) (live : List Nat)
        (mp : Nat), Kept s.heap (.rest live fun _ _ => 0) →
      IsMessage s.heap live mp → (∀ k, (memory k).Outside s.heap) →
        s.CopyAtomic cfg memory live mp ∧
          s.heap.DuplicateAtomic cfg live mp := by
  intro claim
  have kept := twoBlocks_kept [.constructed 3000]
  have message : IsMessage (twoBlocks [.constructed 3000]).heap
      (twoBlocks [.constructed 3000]).live 0 := by decide +kernel
  have outside : (⟨none, none⟩ : Memory).Outside
      (twoBlocks [.constructed 3000]).heap := by decide +kernel
  have atomic := (claim (twoBlocks [.constructed 3000]).image ⟨128, 64⟩
    (fun _ => ⟨none, none⟩) _ 0 kept message fun _ => outside).1
  have copied := (copymsg_atomic_iff kept message fun _ => outside).mp atomic
  exact absurd copied (by decide +kernel)

end Atomic

end OpenSS7.Mblk
