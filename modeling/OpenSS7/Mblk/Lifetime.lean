import OpenSS7.Mblk.Pullup

/-!
When the life of every block in a sequential run is accounted for: reference
counts, buffers and the blocks themselves.
-/

namespace OpenSS7.Mblk

open Heap

inductive Op where
  | allocb (size : Nat) (skbuff : Bool)
  | esballoc (base : Addr) (size : Nat) (freeinfo : FreeRtn)
  | dupb (bp : Nat)
  | dupmsg (mp : Nat)
  | freeb (mp : Nat)
  | freemsg (mp : Nat)
  | pullupmsg (mp : Nat) (len : Int)
  | setCont (bp : Nat) (cont : Option Nat)
  | setData (bp : Nat) (rptr wptr : Addr)
  | setType (bp : Nat) (type : Nat)
  | freeblocks
deriving DecidableEq

structure Call where
  op : Op
  grants : List Grant
  memory : Memory
deriving DecidableEq

namespace Op

def exec (op : Op) (cfg : Config) (memory : Memory) (h : Heap) :
    Option Nat × Heap :=
  match op with
  | .allocb size skbuff => h.allocb cfg memory size skbuff
  | .esballoc base size freeinfo => h.esballoc cfg base size freeinfo
  | .dupb bp => h.dupb cfg bp
  | .dupmsg mp => h.dupmsg cfg mp
  | .freeb mp => (none, h.freeb mp)
  | .freemsg mp => (none, h.freemsg h.made (some mp))
  | .pullupmsg mp len => (none, (h.pullupmsg cfg memory.kmemAlloc mp len).2)
  | .setCont bp cont => (none, h.modify bp fun md => { md with bCont := cont })
  | .setData bp rptr wptr =>
      (none, h.modify bp fun md => { md with bRptr := rptr, bWptr := wptr })
  | .setType bp type =>
      match (h.blk bp).bDatap with
      | none => (none, h)
      | some db => (none, h.modify db fun md => { md with dbType := type })
  | .freeblocks => (none, h.freeblocks)

/-- The message blocks in use after an operation: an allocation or duplication
adds the blocks it answers, and a block is gone when it has been freed, or has
been taken into another by `pullupmsg`. -/
def live (op : Op) (h : Heap) (out : Option Nat × Heap) (before : List Nat) :
    List Nat :=
  match op with
  | .allocb _ _ => out.1.toList ++ before
  | .esballoc _ _ _ => out.1.toList ++ before
  | .dupb _ => out.1.toList ++ before
  | .dupmsg _ => out.2.chain out.2.made out.1 ++ before
  | .freeb mp => before.filter fun b => decide (b ≠ mp)
  | .freemsg mp => before.filter fun b => decide (b ∉ h.blocks mp)
  | .pullupmsg mp _ =>
      before.filter fun b => decide (b ∈ h.blocks mp → b ∈ out.2.blocks mp)
  | _ => before

end Op

def IsMessage (h : Heap) (live : List Nat) (mp : Nat) : Prop :=
  h.IsChain (some mp) (h.blocks mp) ∧ (h.blocks mp).Nodup ∧
    ∀ b ∈ h.blocks mp, b ∈ live

instance (h : Heap) (live : List Nat) (mp : Nat) :
    Decidable (IsMessage h live mp) :=
  inferInstanceAs (Decidable (_ ∧ _ ∧ _))

def Op.Legal (op : Op) (memory : Memory) (h : Heap) (live : List Nat) : Prop :=
  match op with
  | .allocb _ _ => memory.Outside h
  | .esballoc base _ _ => h.Outside base
  | .dupb bp => bp ∈ live
  | .dupmsg mp => IsMessage h live mp
  | .freeb mp => mp ∈ live
  | .freemsg mp => IsMessage h live mp
  | .pullupmsg mp _ => IsMessage h live mp ∧ memory.Outside h
  | .setCont bp _ => bp ∈ live
  | .setData bp _ _ => bp ∈ live
  | .setType bp _ => bp ∈ live
  | .freeblocks => True

instance (op : Op) (memory : Memory) (h : Heap) (live : List Nat) :
    Decidable (op.Legal memory h live) := by
  cases op <;> unfold Op.Legal <;> infer_instance

def Op.Clean (op : Op) (cfg : Config) (h : Heap) : Prop :=
  match op with
  | .dupb bp => ¬ h.Overruns bp
  | .dupmsg mp => ¬ OverrunsFrom cfg h.made h (some mp) none
  | _ => True

instance (op : Op) (cfg : Config) (h : Heap) : Decidable (op.Clean cfg h) := by
  cases op <;> unfold Op.Clean <;> infer_instance

structure Stage where
  heap : Heap
  live : List Nat

namespace Stage

def start : Stage :=
  ⟨⟨0, fun _ => mdbblockCtor 0 0 0, [], [], [], []⟩, []⟩

variable (cfg : Config) (s : Stage) (call : Call)

def granted : Heap := { s.heap with grants := call.grants }

def outcome : Option Nat × Heap :=
  call.op.exec cfg call.memory (s.granted call)

def exec : Stage :=
  ⟨(s.outcome cfg call).2,
    call.op.live (s.granted call) (s.outcome cfg call) s.live⟩

def Legal : Prop := call.op.Legal call.memory (s.granted call) s.live

def Clean : Prop := call.op.Clean cfg (s.granted call)

structure Sound : Prop where
  once : s.live.Nodup
  attached : ∀ b ∈ s.live, (s.heap.blk b).bDatap ≠ none
  counted : ∀ d, s.heap.Out d →
    (s.heap.blk d).dbRef = s.heap.pointers s.live d ∧
      s.heap.pointers s.live d ≤ 255
  released : ∀ d r, s.heap.log.count (.took (some d) r) =
    s.heap.log.count (.gave (some d) r) +
      if s.heap.pointers s.live d ≠ 0 ∧ releases (s.heap.blk d) = some r
      then 1 else 0
  loose : ∀ r, s.heap.log.count (.took none r) =
    s.heap.log.count (.gave none r)
  returned : ∀ i, s.heap.log.count (.out i) = s.heap.log.count (.back i) +
    if i ∈ s.live ∨ s.heap.pointers s.live i ≠ 0 then 1 else 0

def Steady : Prop :=
  ∀ bp, call.op = .dupb bp → (s.granted call).Full bp →
    (s.outcome cfg call).1 = none ∧ (s.exec cfg call).live = s.live ∧
      ∀ i, i ∈ s.live ∨ s.heap.pointers s.live i ≠ 0 →
        (s.exec cfg call).heap.blk i = s.heap.blk i

end Stage

section Runs

variable (cfg : Config)

def Legal : Stage → List Call → Prop
  | _, [] => True
  | s, call :: rest => s.Legal call ∧ Legal (s.exec cfg call) rest

def AllClean : Stage → List Call → Prop
  | _, [] => True
  | s, call :: rest => s.Clean cfg call ∧ AllClean (s.exec cfg call) rest

instance decidableLegal : (s : Stage) → (calls : List Call) →
    Decidable (Legal cfg s calls)
  | _, [] => isTrue trivial
  | s, call :: rest =>
      have := decidableLegal (s.exec cfg call) rest
      inferInstanceAs (Decidable (call.op.Legal _ _ _ ∧ _))

instance decidableAllClean : (s : Stage) → (calls : List Call) →
    Decidable (AllClean cfg s calls)
  | _, [] => isTrue trivial
  | s, call :: rest =>
      have := decidableAllClean (s.exec cfg call) rest
      inferInstanceAs (Decidable (call.op.Clean _ _ ∧ _))

def AllSound : Stage → List Call → Prop
  | s, [] => s.Sound
  | s, call :: rest =>
      s.Sound ∧ s.Steady cfg call ∧ AllSound (s.exec cfg call) rest

end Runs

section Step

variable {cfg : Config} {h : Heap} {live : List Nat}
  {extra : Nat → Resource → Nat}

theorem IsMessage.spec {mp : Nat} (message : IsMessage h live mp) :
    ∃ bs, h.blocks mp = mp :: bs ∧ Message h live mp bs := by
  obtain ⟨linked, once, held⟩ := message
  cases blocks : h.blocks mp with
  | nil =>
      rw [blocks] at linked
      cases linked
  | cons b bs =>
      rw [blocks] at linked once held
      obtain rfl : mp = b := Option.some.inj linked.1
      exact ⟨bs, rfl, linked, once, held⟩

theorem Message.short {mp : Nat} {bs : List Nat}
    (kept : Kept h (.rest live extra)) (message : Message h live mp bs) :
    (mp :: bs).length ≤ h.made :=
  length_le_made kept message.once message.held

theorem Pulled.blocks_eq {h' : Heap} {mp : Nat} {bs taken left : List Nat}
    (message : Message h live mp bs)
    (pulled : Pulled h' live extra mp bs taken left) :
    h'.blocks mp = mp :: left := by
  have once := message.once
  rw [pulled.whole] at once
  obtain ⟨first, apart⟩ := List.nodup_cons.mp once
  obtain ⟨_, once', disjoint⟩ := List.nodup_append.mp apart
  have remain : (mp :: left).Nodup := List.nodup_cons.mpr
    ⟨fun later => first (List.mem_append_right _ later), once'⟩
  apply pulled.linked.chain_eq (length_le_made pulled.kept remain _)
  intro b member
  refine List.mem_filter.mpr ⟨?_, decide_eq_true ?_⟩
  · apply message.held
    rw [pulled.whole]
    rcases List.mem_cons.mp member with here | later
    · exact here ▸ List.mem_cons_self
    · exact List.mem_cons_of_mem _ (List.mem_append_right _ later)
  · intro gone
    rcases List.mem_cons.mp member with here | later
    · exact first (here ▸ List.mem_append_left _ gone)
    · exact disjoint b gone b later rfl

theorem Pulled.left_eq {h' : Heap} {mp : Nat} {bs taken left : List Nat}
    (message : Message h live mp bs)
    (pulled : Pulled h' live extra mp bs taken left) :
    (live.filter fun b => decide (b ∈ mp :: bs → b ∈ h'.blocks mp)) =
      live.filter fun c => decide (c ∉ taken) := by
  have once := message.once
  rw [pulled.whole] at once
  obtain ⟨first, apart⟩ := List.nodup_cons.mp once
  obtain ⟨_, _, disjoint⟩ := List.nodup_append.mp apart
  apply List.filter_congr
  intro b member
  rw [pulled.blocks_eq message, pulled.whole]
  apply decide_eq_decide.mpr
  constructor
  · intro stays gone
    rcases List.mem_cons.mp (stays (List.mem_cons_of_mem _
      (List.mem_append_left _ gone))) with here | later
    · exact first (here ▸ List.mem_append_left _ gone)
    · exact disjoint b gone b later rfl
  · intro kept whole
    rcases List.mem_cons.mp whole with here | later
    · exact here ▸ List.mem_cons_self
    · exact List.mem_cons_of_mem _
        ((List.mem_append.mp later).resolve_left kept)

theorem Op.exec_kept {op : Op} {memory : Memory}
    (kept : Kept h (.rest live extra)) (legal : op.Legal memory h live) :
    ∃ extra', Exceeds extra (¬ op.Clean cfg h) extra' ∧
      Kept (op.exec cfg memory h).2
        (.rest (op.live h (op.exec cfg memory h) live) extra') := by
  have distinct : live.Nodup := kept.once
  cases op with
  | allocb size skbuff =>
      exact ⟨extra, exceeds_of_not fun unclean => unclean trivial,
        kept.allocb legal⟩
  | esballoc base size freeinfo =>
      exact ⟨extra, exceeds_of_not fun unclean => unclean trivial,
        kept.esballoc legal⟩
  | dupb bp =>
      obtain ⟨extra', exceeds, kept'⟩ := @Kept.dupb _ cfg _ _ _ kept legal
      exact ⟨extra', by simpa [Op.Clean] using exceeds, kept'⟩
  | dupmsg mp =>
      obtain ⟨bs, blocks, message⟩ := IsMessage.spec legal
      have short := message.short kept
      obtain ⟨extra', dups, exceeds, kept', linked⟩ :=
        @Kept.dupmsgFrom _ cfg live _ _ [] _ none h.made h.made kept
          message.linked message.held rfl short (by simpa using short)
      refine ⟨extra', by simpa [Op.Clean] using exceeds, ?_⟩
      have once := (List.nodup_append.mp kept'.once).1
      have copies := linked.chain_eq (length_le_made kept' once fun b copy =>
        List.mem_append_left _ copy)
      change Kept (h.dupmsg cfg mp).2 (.rest ((h.dupmsg cfg mp).2.chain
        (h.dupmsg cfg mp).2.made (h.dupmsg cfg mp).1 ++ live) extra')
      unfold Heap.dupmsg
      simp only [List.getLast?_nil] at copies kept'
      rw [copies]
      exact kept'
  | freeb mp =>
      refine ⟨extra, exceeds_of_not fun unclean => unclean trivial, ?_⟩
      have freed := kept.freeb legal
      rw [distinct.erase_eq_filter] at freed
      have same : (live.filter fun b => b != mp) =
          live.filter fun b => decide (b ≠ mp) :=
        List.filter_congr fun b _ => by simp [bne, BEq.beq]
      rw [same] at freed
      exact freed
  | freemsg mp =>
      refine ⟨extra, exceeds_of_not fun unclean => unclean trivial, ?_⟩
      obtain ⟨bs, blocks, message⟩ := IsMessage.spec legal
      have freed := kept.freemsg message.linked message.once message.held
        (message.short kept)
      unfold Op.live
      simp only [blocks]
      exact freed
  | pullupmsg mp len =>
      refine ⟨extra, exceeds_of_not fun unclean => unclean trivial, ?_⟩
      obtain ⟨bs, blocks, message⟩ := IsMessage.spec legal.1
      obtain ⟨taken, left, pulled⟩ :=
        @Kept.pullupmsg _ cfg _ _ _ _ _ len kept message legal.2.1
      unfold Op.live Op.exec
      simp only [blocks]
      rw [pulled.left_eq message]
      exact pulled.kept
  | setCont bp cont =>
      exact ⟨extra, exceeds_of_not fun unclean => unclean trivial,
        kept.write (f := fun md => { md with bCont := cont })
          (kept.out_of_live legal) rfl rfl rfl⟩
  | setData bp rptr wptr =>
      exact ⟨extra, exceeds_of_not fun unclean => unclean trivial,
        kept.write (f := fun md => { md with bRptr := rptr, bWptr := wptr })
          (kept.out_of_live legal) rfl rfl rfl⟩
  | setType bp type =>
      refine ⟨extra, exceeds_of_not fun unclean => unclean trivial, ?_⟩
      unfold Op.exec
      simp only
      split
      · exact kept
      case h_2 db points =>
        exact kept.write (f := fun md => { md with dbType := type })
          (kept.out_of_datap legal points) rfl rfl rfl
  | freeblocks =>
      exact ⟨extra, exceeds_of_not fun unclean => unclean trivial,
        kept.congr rfl rfl rfl (fun _ => rfl) (fun _ => rfl) (fun _ => rfl)
          fun _ _ => rfl⟩

theorem sound_iff (kept : Kept h (.rest live extra)) :
    (Stage.mk h live).Sound ↔ extra = fun _ _ => 0 := by
  have references (d : Nat) :
      h.references (.rest live extra) d = h.pointers live d := by
    simp [references, Point.rest]
  have holds (d : Nat) (r : Resource) : h.Holds (.rest live extra) d r ↔
      h.pointers live d ≠ 0 ∧ releases (h.blk d) = some r := by
    unfold Holds
    rw [references]
    simp [Point.rest]
  constructor
  · intro sound
    funext d r
    have booked := kept.booked d r
    unfold Booked at booked
    simp only [holds] at booked
    have released := sound.released d r
    simp only at released
    change _ + extra d r = _ at booked
    omega
  · intro even
    refine ⟨kept.once, kept.attached, ?_, ?_, kept.loose, ?_⟩
    · intro d taken
      have counted := kept.counted d taken
      rw [references] at counted
      exact counted
    · intro d r
      have booked := kept.booked d r
      unfold Booked at booked
      simp only [holds] at booked
      change _ + extra d r = _ at booked
      rw [even] at booked
      exact booked
    · intro i
      rw [kept.issued i]
      have used : h.Out i ↔ i ∈ live ∨ h.pointers live i ≠ 0 := by
        constructor
        · intro taken
          rcases kept.used i taken with member | pointed | due
          · exact .inl member
          · rw [references] at pointed
            exact .inr pointed
          · exact absurd due List.not_mem_nil
        · rintro (member | pointed)
          · exact kept.out_of_live member
          · apply kept.out_of_references
            rw [references]
            exact pointed
      simp only [used]

theorem blk_freeb_self {mp i : Nat} (self : (h.blk mp).bDatap = some mp)
    (apart : i ≠ mp) : (h.freeb mp).blk i = h.blk i := by
  have dropped (h : Heap) : (h.dropped mp).blk i = h.blk i := by
    unfold Heap.dropped
    simp only
    split
    · rw [blk_release, modify_of_ne apart]
    · rw [modify_of_ne apart]
  have freed (h : Heap) : (h.freedb mp).blk i = h.blk i := by
    rw [freedb_eq]
    split
    · rw [blk_mdbblockFree_of_ne apart, dropped]
    · exact dropped h
  unfold Heap.freeb
  rw [self]
  simp only [ne_eq, not_true_eq_false, false_and, if_false]
  rw [freed, modify_of_ne apart]

theorem dupb_refused {bp : Nat} (kept : Kept h (.rest live extra))
    (member : bp ∈ live) (full : h.Full bp) :
    (h.dupb cfg bp).1 = none ∧
      ∀ i, h.Out i → (h.dupb cfg bp).2.blk i = h.blk i := by
  rcases @dupb_cases _ cfg _ _ _ kept member with
    ⟨grants, _, result⟩ | ⟨mp, h', db, _, drawn, points, result⟩
  · rw [result]
    exact ⟨rfl, fun _ _ => rfl⟩
  · rw [result, if_pos ((full_iff points).mp full)]
    refine ⟨rfl, fun i taken => ?_⟩
    have apart := drawn.apart taken
    rw [blk_freeb_self drawn.datap apart, drawn.others i apart]

end Step

section Runs

variable {cfg : Config} {s : Stage} {call : Call}
  {extra : Nat → Resource → Nat}

theorem exec_exact (kept : Kept s.heap (.rest s.live fun _ _ => 0))
    (legal : s.Legal call) :
    ∃ extra, Kept (s.exec cfg call).heap (.rest (s.exec cfg call).live extra) ∧
      ((extra = fun _ _ => 0) ↔ s.Clean cfg call) := by
  obtain ⟨extra, exceeds, kept'⟩ :=
    @Op.exec_kept cfg _ _ _ _ _ (kept.regrant call.grants) legal
  refine ⟨extra, kept', ?_, ?_⟩
  · intro even
    by_contra unclean
    obtain ⟨d, r, more⟩ := exceeds.1 unclean
    rw [even] at more
    exact Nat.lt_irrefl 0 more
  · intro clean
    exact exceeds.2 (not_not_intro clean)

theorem steady (kept : Kept s.heap (.rest s.live extra))
    (legal : s.Legal call) : s.Steady cfg call := by
  intro bp operation full
  have granted := kept.regrant call.grants
  unfold Stage.Legal at legal
  rw [operation] at legal
  obtain ⟨refused, others⟩ := @dupb_refused cfg _ _ _ _ granted legal full
  have outcome : s.outcome cfg call = (s.granted call).dupb cfg bp := by
    unfold Stage.outcome
    rw [operation]
    rfl
  have none : (s.outcome cfg call).1 = none := by
    rw [outcome]
    exact refused
  refine ⟨none, ?_, ?_⟩
  · unfold Stage.exec
    simp only [operation, Op.live, none, Option.toList_none, List.nil_append]
  · intro i used
    have taken : s.heap.Out i := by
      rcases used with member | pointed
      · exact kept.out_of_live member
      · exact kept.out_of_references fun unused => pointed
          (Nat.eq_zero_of_add_eq_zero unused).1
    change (s.outcome cfg call).2.blk i = s.heap.blk i
    rw [outcome]
    exact others i taken

theorem allSound_iff {calls : List Call}
    (kept : Kept s.heap (.rest s.live fun _ _ => 0))
    (legal : Legal cfg s calls) :
    AllSound cfg s calls ↔ AllClean cfg s calls := by
  induction calls generalizing s with
  | nil => exact iff_of_true ((sound_iff kept).mpr rfl) trivial
  | cons call rest ih =>
      obtain ⟨extra, kept', exact⟩ := @exec_exact cfg _ _ kept legal.1
      have sound : s.Sound := (sound_iff kept).mpr rfl
      have steady := @steady cfg _ _ _ kept legal.1
      have next : AllSound cfg (s.exec cfg call) rest →
          extra = fun _ _ => 0 := by
        intro all
        apply (sound_iff kept').mp
        cases rest with
        | nil => exact all
        | cons => exact all.1
      constructor
      · rintro ⟨_, _, all⟩
        have even := next all
        rw [even] at kept'
        exact ⟨exact.mp even, (ih kept' legal.2).mp all⟩
      · rintro ⟨clean, all⟩
        rw [exact.mpr clean] at kept'
        exact ⟨sound, steady, (ih kept' legal.2).mpr all⟩

theorem start_kept :
    Kept Stage.start.heap (.rest Stage.start.live fun _ _ => 0) := by
  have idle (i : Nat) : ¬ Stage.start.heap.Out i := fun taken =>
    Nat.not_lt_zero i taken.1
  constructor
  · exact List.nodup_nil
  · exact List.nodup_nil
  · exact fun i member => absurd member List.not_mem_nil
  · exact fun i _ => ⟨List.not_mem_nil, rfl, List.not_mem_nil⟩
  · exact fun i member => absurd member List.not_mem_nil
  · exact fun b member => absurd member List.not_mem_nil
  · exact fun d taken => absurd taken (idle d)
  · exact fun i taken => absurd taken (idle i)
  · exact fun i taken => absurd taken (idle i)
  · intro d r
    simp [Booked, Holds, references, pointers, Point.rest, Stage.start]
  · exact fun r => rfl
  · intro i
    rw [if_neg (idle i)]
    rfl

/-- In a run from no blocks, everything is counted, released and given back
once, unless a duplicate is refused for which a used block was drawn. -/
theorem lifetime_exact (cfg : Config) (calls : List Call)
    (legal : Legal cfg .start calls) :
    AllSound cfg .start calls ↔ AllClean cfg .start calls :=
  allSound_iff start_kept legal

theorem lifetime_exact_pullup :
    AllSound ⟨128, 64⟩ .start
      [⟨.allocb 10 false, [.constructed 1000], ⟨none, none⟩⟩,
        ⟨.setData 0 1000 1010, [], ⟨none, none⟩⟩,
        ⟨.esballoc 5000 64 ⟨some (.caller 1), 2⟩, [.constructed 2000],
          ⟨none, none⟩⟩,
        ⟨.setData 1 5000 5040, [], ⟨none, none⟩⟩,
        ⟨.setCont 0 (some 1), [], ⟨none, none⟩⟩,
        ⟨.dupmsg 0, [.constructed 3000, .constructed 4000], ⟨none, none⟩⟩,
        ⟨.freemsg 0, [], ⟨none, none⟩⟩,
        ⟨.pullupmsg 2 (-1), [.constructed 7000], ⟨some 9000, none⟩⟩,
        ⟨.freeb 2, [], ⟨none, none⟩⟩] :=
  (lifetime_exact _ _ (by decide +kernel)).mpr (by decide +kernel)

theorem stale_buffer_released :
    let calls : List Call :=
      [⟨.allocb 10 false, [.constructed 1000], ⟨none, none⟩⟩,
        ⟨.esballoc 5000 64 ⟨some (.caller 1), 2⟩, [.constructed 2000],
          ⟨none, none⟩⟩] ++
      List.replicate 254 ⟨.dupb 0, [.constructed 3000], ⟨none, none⟩⟩ ++
      [⟨.freeb 1, [], ⟨none, none⟩⟩, ⟨.dupb 0, [], ⟨none, none⟩⟩]
    Legal ⟨128, 64⟩ .start calls ∧ ¬ AllSound ⟨128, 64⟩ .start calls := by
  intro calls
  have legal : Legal ⟨128, 64⟩ .start calls := by decide +kernel
  refine ⟨legal, ?_⟩
  rw [allSound_iff start_kept legal]
  decide +kernel

end Runs

end OpenSS7.Mblk
