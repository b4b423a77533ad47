import OpenSS7.Mblk.Chains

/-!
What each operation does to the accounts of a heap. Only a duplicate that is
refused can spoil them.
-/

namespace OpenSS7.Mblk

open Heap

variable {h : Heap} {cfg : Config} {live : List Nat}
  {extra : Nat → Resource → Nat}

theorem Kept.regrant {p : Point} (kept : Kept h p) (grants : List Grant) :
    Kept { h with grants := grants } p :=
  kept.congr rfl rfl rfl (fun _ => rfl) (fun _ => rfl) (fun _ => rfl)
    fun _ _ => rfl

/-- The block `mdbblock_alloc` is about to hand out again. -/
def Heap.recycled (h : Heap) : Option Nat :=
  match h.freemblk with
  | md :: _ => some md
  | [] =>
      match h.grants with
      | .cached md :: _ => if md ∈ h.cache then some md else none
      | _ => none

def Heap.Stale (h : Heap) : Prop :=
  ∃ md ∈ h.recycled, (h.blk md).dbBase ≠ (h.blk md).databuf

instance (h : Heap) : Decidable h.Stale :=
  inferInstanceAs (Decidable (∃ md ∈ h.recycled, _))

theorem recycled_freemblk {md : Nat} {rest : List Nat}
    (list : h.freemblk = md :: rest) : h.recycled = some md := by
  unfold recycled
  rw [list]

theorem recycled_cached {md : Nat} {rest : List Grant}
    (list : h.freemblk = []) (grants : h.grants = .cached md :: rest)
    (member : md ∈ h.cache) : h.recycled = some md := by
  unfold recycled
  rw [list, grants]
  exact if_pos member

theorem recycled_constructed {databuf : Addr} {rest : List Grant}
    (list : h.freemblk = []) (grants : h.grants = .constructed databuf :: rest) :
    h.recycled = none := by
  unfold recycled
  rw [list, grants]

theorem drawn_stale {mp : Nat} {h' : Heap}
    (drawn : h.mdbblockAlloc cfg = (some mp, h')) :
    (h'.blk mp).dbBase ≠ (h'.blk mp).databuf ↔ h.Stale := by
  unfold mdbblockAlloc at drawn
  unfold Stale
  split at drawn
  case h_1 md rest list =>
    rw [recycled_freemblk list]
    cases drawn
    simp
  case h_2 list =>
    unfold mdbblockAllocSlow at drawn
    split at drawn
    · cases drawn
    · cases drawn
    case h_3 databuf rest grants =>
      rw [recycled_constructed list grants]
      cases drawn
      simp [mdbblockCtor]
    case h_4 md rest grants =>
      split at drawn
      next member =>
        rw [recycled_cached list grants member]
        cases drawn
        simp
      · cases drawn

theorem releases_drawn {mp : Nat} {h' : Heap} (spec : Drawn h mp h')
    (drawn : h.mdbblockAlloc cfg = (some mp, h')) :
    releases (h'.blk mp) = if h.Stale then
      some (.kmem (h'.blk mp).dbBase (h'.blk mp).dbSize) else none := by
  unfold releases
  rw [spec.frtnp]
  simp only [drawn_stale drawn]

/-- `db_inc` fails for the data block of this message block. -/
def Heap.Full (h : Heap) (bp : Nat) : Prop :=
  ∃ db ∈ (h.blk bp).bDatap, (h.blk db).dbRef = 255

instance (h : Heap) (bp : Nat) : Decidable (h.Full bp) :=
  inferInstanceAs (Decidable (∃ db ∈ (h.blk bp).bDatap, _))

section Dupb

variable {bp mp db : Nat}

/-- A block just drawn as a duplicate of `bp`, whose data block is `db`. -/
def Heap.duplicated (h : Heap) (mp bp db : Nat) : Heap :=
  let h := h.modify db fun md => { md with dbRef := md.dbRef + 1 }
  let h := h.modify mp fun md =>
    { md with
      bRptr := (h.blk bp).bRptr
      bWptr := (h.blk bp).bWptr
      bDatap := (h.blk bp).bDatap }
  h.modify mp fun md => { md with dbRef := 0 }

theorem dupb_cases (kept : Kept h (.rest live extra)) (member : bp ∈ live) :
    (∃ grants, h.mdbblockAlloc cfg = (none, { h with grants := grants }) ∧
        h.dupb cfg bp = (none, { h with grants := grants })) ∨
      ∃ mp h' db, h.mdbblockAlloc cfg = (some mp, h') ∧ Drawn h mp h' ∧
        (h.blk bp).bDatap = some db ∧
        h.dupb cfg bp = if (h.blk db).dbRef = 255 then (none, h'.freeb mp)
          else (some mp, h'.duplicated mp bp db) := by
  rcases @mdbblockAlloc_cases _ cfg _ kept with
    ⟨grants, none⟩ | ⟨mp, h', some, drawn⟩
  · left
    refine ⟨grants, none, ?_⟩
    unfold Heap.dupb
    rw [none]
  · right
    obtain ⟨db, points⟩ :=
      Option.ne_none_iff_exists'.mp (kept.attached bp member)
    have apart := drawn.apart (kept.out_of_live member)
    have source := drawn.apart (kept.out_of_datap member points)
    refine ⟨mp, h', db, some, drawn, points, ?_⟩
    unfold Heap.dupb dbInc
    simp only [some, drawn.others bp apart, points, drawn.others db source]
    by_cases full : (h.blk db).dbRef = 255
    · simp [full]
    · simp [full, duplicated]

theorem blk_duplicated (apart : db ≠ mp) (i : Nat) :
    (h.duplicated mp bp db).blk i =
      if i = mp then
        { h.blk mp with
          bRptr := (h.blk bp).bRptr
          bWptr := (h.blk bp).bWptr
          bDatap := (h.blk bp).bDatap
          dbRef := 0 }
      else if i = db then { h.blk db with dbRef := (h.blk db).dbRef + 1 }
      else h.blk i := by
  have source : ∀ field : Mdbblock → Addr × Addr × Option Nat,
      (∀ md n, field { md with dbRef := n } = field md) →
      field ((h.modify db fun md => { md with dbRef := md.dbRef + 1 }).blk bp) =
        field (h.blk bp) := fun field same => modify_field field (same _ _) bp
  have message := source (fun md => (md.bRptr, md.bWptr, md.bDatap))
    fun _ _ => rfl
  simp only [Prod.mk.injEq] at message
  obtain ⟨rptr, wptr, datap⟩ := message
  unfold duplicated
  simp only
  split
  case isTrue here =>
    subst here
    rw [modify_self, modify_self, modify_of_ne (Ne.symm apart), rptr, wptr,
      datap]
  case isFalse strange =>
    rw [modify_of_ne strange, modify_of_ne strange]
    split
    case isTrue here =>
      subst here
      rw [modify_self]
    case isFalse foreign => rw [modify_of_ne foreign]

def Exceeds (extra : Nat → Resource → Nat) (spoilt : Prop)
    (extra' : Nat → Resource → Nat) : Prop :=
  (spoilt → ∃ d r, extra d r < extra' d r) ∧ (¬ spoilt → extra' = extra)

theorem exceeds_of_not {spoilt : Prop} (unspoilt : ¬ spoilt) :
    Exceeds extra spoilt extra :=
  ⟨fun spoils => absurd spoils unspoilt, fun _ => rfl⟩

def Heap.Overruns (h : Heap) (bp : Nat) : Prop := h.Full bp ∧ h.Stale

instance (h : Heap) (bp : Nat) : Decidable (h.Overruns bp) :=
  inferInstanceAs (Decidable (_ ∧ _))

theorem not_stale_of_none {grants : List Grant}
    (none : h.mdbblockAlloc cfg = (none, { h with grants := grants })) :
    ¬ h.Stale := by
  rintro ⟨md, recycled, _⟩
  unfold Heap.recycled at recycled
  unfold mdbblockAlloc mdbblockAllocSlow at none
  split at recycled
  case h_1 rest list => simp [list] at none
  case h_2 list =>
    rw [list] at none
    simp only at none
    split at recycled
    case h_1 md' rest grant =>
      rw [grant] at none
      simp only at none
      split at recycled
      next member => simp [member] at none
      · cases recycled
    · cases recycled

theorem full_iff (points : (h.blk bp).bDatap = some db) :
    h.Full bp ↔ (h.blk db).dbRef = 255 := by
  simp [Full, points]

theorem Kept.duplicate {h' : Heap} (kept : Kept h (.rest live extra))
    (member : bp ∈ live) (drawn : Drawn h mp h')
    (points : (h.blk bp).bDatap = some db) (room : (h.blk db).dbRef ≠ 255) :
    Kept (h'.duplicated mp bp db) (.rest (mp :: live) extra) := by
  have source := drawn.apart (kept.out_of_datap member points)
  have held := kept.draw drawn
  have taken : h'.Out db :=
    (drawn.out db).mpr (.inr (kept.out_of_datap member points))
  have pointed : h'.references ⟨mp :: live, [], some mp, [], extra⟩ db ≠ 0 :=
    fun unused => pointers_pos (List.mem_cons_of_mem mp member)
      (by rw [drawn.others bp (drawn.apart (kept.out_of_live member)), points])
      (Nat.eq_zero_of_add_eq_zero unused).1
  have blk := @blk_duplicated h' bp _ _ source
  apply held.share drawn.datap drawn.ref taken source pointed
  · rw [drawn.others db source]
    exact room
  · rfl
  · rfl
  · rfl
  · rw [blk, if_pos rfl, drawn.others bp
      (drawn.apart (kept.out_of_live member)), points]
  · rw [blk, if_pos rfl]
  · rw [blk, if_neg source, if_pos rfl]
  · intro i strange foreign
    rw [blk, if_neg strange, if_neg foreign]

theorem exceeds_freeb {h' : Heap} (drawn : Drawn h mp h')
    (found : h.mdbblockAlloc cfg = (some mp, h')) :
    Exceeds extra h.Stale fun d r => extra d r +
      if d = mp ∧ releases (h'.blk mp) = some r then 1 else 0 := by
  constructor
  · intro stale
    refine ⟨mp, .kmem (h'.blk mp).dbBase (h'.blk mp).dbSize, ?_⟩
    rw [releases_drawn drawn found, if_pos stale]
    simp
  · intro fresh
    funext d r
    rw [releases_drawn drawn found, if_neg fresh]
    simp

theorem Kept.dupb (kept : Kept h (.rest live extra)) (member : bp ∈ live) :
    ∃ extra', Exceeds extra (h.Overruns bp) extra' ∧
      Kept (h.dupb cfg bp).2
        (.rest ((h.dupb cfg bp).1.toList ++ live) extra') := by
  rcases @dupb_cases _ cfg _ _ _ kept member with
    ⟨grants, refused, result⟩ | ⟨mp, h', db, found, drawn, points, result⟩
  · rw [result]
    exact ⟨extra, exceeds_of_not fun both => not_stale_of_none refused both.2,
      kept.regrant grants⟩
  · rw [result]
    split
    case isTrue full =>
      refine ⟨_, ?_, (kept.draw drawn).freeb_raw drawn.datap drawn.ref⟩
      unfold Overruns
      rw [full_iff points, eq_true full, true_and]
      exact exceeds_freeb drawn found
    case isFalse room =>
      refine ⟨extra, exceeds_of_not fun both => room ?_, ?_⟩
      · exact (full_iff points).mp both.1
      · exact kept.duplicate member drawn points room

theorem dupb_overruns (kept : Kept h (.rest live extra)) (member : bp ∈ live)
    (overruns : h.Overruns bp) : (h.dupb cfg bp).1 = none := by
  rcases @dupb_cases _ cfg _ _ _ kept member with
    ⟨grants, refused, result⟩ | ⟨mp, h', db, _, _, points, result⟩
  · rw [result]
  · rw [result, if_pos ((full_iff points).mp overruns.1)]

theorem dupb_frame (kept : Kept h (.rest live extra)) (member : bp ∈ live) :
    h.made ≤ (h.dupb cfg bp).2.made ∧
      ∀ b ∈ live, ((h.dupb cfg bp).2.blk b).msgb = (h.blk b).msgb := by
  rcases @dupb_cases _ cfg _ _ _ kept member with
    ⟨grants, _, result⟩ | ⟨mp, h', db, _, drawn, points, result⟩
  · rw [result]
    exact ⟨Nat.le_refl _, fun _ _ => rfl⟩
  · rw [result]
    split
    case isTrue full =>
      refine ⟨by rw [made_freeb]; exact drawn.grown, fun b held => ?_⟩
      have strange := drawn.apart (kept.out_of_live held)
      have same := drawn.others b strange
      rw [← same]
      exact msgb_freeb strange (by rw [same]; exact kept.attached b held)
    case isFalse room =>
      have source := drawn.apart (kept.out_of_datap member points)
      have blk := @blk_duplicated h' bp _ _ source
      refine ⟨drawn.grown, fun b held => ?_⟩
      have strange := drawn.apart (kept.out_of_live held)
      rw [blk, if_neg strange, ← drawn.others b strange]
      split
      case isTrue here => rw [here]; rfl
      case isFalse => rfl

theorem dupb_fresh {h'' : Heap} (kept : Kept h (.rest live extra))
    (member : bp ∈ live) (result : h.dupb cfg bp = (some mp, h'')) :
    (h''.blk mp).bCont = none := by
  rcases @dupb_cases _ cfg _ _ _ kept member with
    ⟨grants, _, refused⟩ | ⟨md, h', db, _, drawn, points, found⟩
  · rw [refused] at result
    cases result
  · rw [found] at result
    split at result
    · cases result
    · cases result
      have source := drawn.apart (kept.out_of_datap member points)
      rw [blk_duplicated source, if_pos rfl]
      exact drawn.cont

end Dupb

theorem Kept.perm {live' pending due : List Nat} {raw : Option Nat}
    (kept : Kept h ⟨live, pending, raw, due, extra⟩) (same : live.Perm live') :
    Kept h ⟨live', pending, raw, due, extra⟩ := by
  have references (d : Nat) : h.references ⟨live', pending, raw, due, extra⟩ d =
      h.references ⟨live, pending, raw, due, extra⟩ d := by
    unfold references pointers
    simp only
    rw [same.countP_eq]
  constructor
  · exact same.nodup_iff.mp kept.once
  · exact kept.pooled
  · exact kept.made
  · intro i idle
    rw [references, ← same.mem_iff]
    exact kept.idle i idle
  · exact kept.clean
  · intro b member
    exact kept.attached b (same.mem_iff.mpr member)
  · intro d taken
    rw [references]
    exact kept.counted d taken
  · intro i taken foreign
    exact kept.vacant i taken fun member => foreign (same.mem_iff.mp member)
  · intro i taken
    rw [references, ← same.mem_iff]
    exact kept.used i taken
  · intro d r
    refine (kept.booked d r).carry rfl rfl rfl ?_
    unfold Holds
    rw [references]
  · exact kept.loose
  · exact kept.issued

section Dupmsg

def Heap.OverrunsFrom (cfg : Config) :
    Nat → Heap → Option Nat → Option Nat → Prop
  | 0, _, _, _ => False
  | _, _, none, _ => False
  | fuel + 1, h, some b, last =>
      h.Overruns b ∨
        match h.dupb cfg b with
        | (none, _) => False
        | (some mp, h') =>
            OverrunsFrom cfg fuel (h'.append last mp)
              ((h'.append last mp).blk b).bCont (some mp)

instance Heap.decidableOverrunsFrom (cfg : Config) :
    (fuel : Nat) → (h : Heap) → (b last : Option Nat) →
      Decidable (OverrunsFrom cfg fuel h b last)
  | 0, _, _, _ => isFalse id
  | _ + 1, _, none, _ => isFalse id
  | fuel + 1, h, some b, last => by
      unfold OverrunsFrom
      have := decidableOverrunsFrom cfg fuel
      split <;> infer_instance

theorem append_frame {last : Option Nat} {mp b : Nat}
    (apart : b ∉ last) : (h.append last mp).blk b = h.blk b := by
  cases last with
  | none => rfl
  | some tail =>
      have foreign : b ≠ tail := fun same => apart (same ▸ rfl)
      simp [Heap.append, modify_of_ne foreign]

theorem Kept.append {last : Option Nat} {mp : Nat}
    (kept : Kept h (.rest live extra)) (held : ∀ b ∈ last, b ∈ live) :
    Kept (h.append last mp) (.rest live extra) := by
  cases last with
  | none => exact kept
  | some tail =>
      exact kept.write (f := fun md => { md with bCont := some mp })
        (kept.out_of_live (held tail rfl)) rfl rfl rfl

theorem Kept.dupmsgFrom {bs dups : List Nat} {start msg : Option Nat}
    {fuel freeFuel : Nat} (kept : Kept h (.rest (dups ++ live) extra))
    (linked : h.IsChain start bs) (held : ∀ b ∈ bs, b ∈ live)
    (copied : h.IsChain msg dups) (enough : bs.length ≤ fuel)
    (freed : dups.length + bs.length ≤ freeFuel) :
    ∃ extra' dups', Exceeds extra
        (OverrunsFrom cfg fuel h start dups.getLast?) extra' ∧
      let out := Heap.dupmsgFrom cfg freeFuel fuel h start msg dups.getLast?
      Kept out.2 (.rest (dups' ++ live) extra') ∧
        out.2.IsChain out.1 dups' := by
  induction bs generalizing h extra dups start msg fuel with
  | nil =>
      rw [linked]
      refine ⟨extra, dups, ?_, ?_⟩
      · cases fuel <;> exact exceeds_of_not id
      · cases fuel <;> exact ⟨kept, copied⟩
  | cons b rest ih =>
      cases fuel with
      | zero => exact absurd enough (Nat.not_succ_le_zero _)
      | succ fuel =>
          have member : b ∈ dups ++ live :=
            List.mem_append_right _ (held b List.mem_cons_self)
          have distinct : (dups ++ live).Nodup := kept.once
          have apart {c : Nat} (source : c ∈ live) : c ∉ dups :=
            fun copy => (List.nodup_append.mp distinct).2.2 c copy c source rfl
          have frame := (@dupb_frame _ cfg _ _ _ kept member).2
          obtain ⟨extra', exceeds, duplicated⟩ :=
            @Kept.dupb _ cfg _ _ _ kept member
          rw [linked.1]
          unfold Heap.dupmsgFrom OverrunsFrom
          rcases result : h.dupb cfg b with ⟨_ | mp, h'⟩
          · rw [result] at frame duplicated
            refine ⟨extra', [], by simpa using exceeds, ?_, rfl⟩
            have before : Kept h' (.rest (dups ++ live) extra') := duplicated
            have linked' : h'.IsChain msg dups :=
              copied.congr fun c copy => congrArg Prod.fst
                (frame c (List.mem_append_left _ copy))
            have gone := before.freemsg linked'
              (List.nodup_append.mp distinct).1
              (fun c copy => List.mem_append_left _ copy)
              (Nat.le_of_add_right_le freed)
            have left : ((dups ++ live).filter fun c => decide (c ∉ dups)) =
                live := by
              rw [List.filter_append, List.filter_eq_nil_iff.mpr fun c copy => by
                simp [copy], List.nil_append, List.filter_eq_self]
              intro c source
              simp [apart source]
            rw [left] at gone
            exact gone
          · have fresh := dupb_fresh kept member result
            have settled : ¬ h.Overruns b := by
              intro overruns
              have none := @dupb_overruns _ cfg _ _ _ kept member overruns
              rw [result] at none
              cases none
            rw [result] at frame duplicated
            rw [exceeds.2 settled] at duplicated
            have whole : Kept h' (.rest (mp :: (dups ++ live)) extra) :=
              duplicated
            have strange : mp ∉ dups ++ live :=
              (List.nodup_cons.mp whole.once).1
            have reordered : Kept h' (.rest ((dups ++ [mp]) ++ live) extra) := by
              apply whole.perm
              rw [List.append_assoc]
              exact List.perm_middle.symm
            have last {c : Nat} (tail : c ∈ dups.getLast?) : c ∈ dups :=
              List.mem_of_getLast? tail
            have hung : Kept (h'.append dups.getLast? mp)
                (.rest ((dups ++ [mp]) ++ live) extra) :=
              reordered.append fun c tail => List.mem_append_left _
                (List.mem_append_left _ (last tail))
            have chained : (h'.append dups.getLast? mp).IsChain
                (msg.or (some mp)) (dups ++ [mp]) := by
              apply IsChain.append_last _ _ fresh
              · exact copied.congr fun c copy => congrArg Prod.fst
                  (frame c (List.mem_append_left _ copy))
              · rw [List.nodup_append]
                refine ⟨(List.nodup_append.mp distinct).1, by simp, ?_⟩
                intro c copy d new
                rw [List.mem_singleton.mp new]
                exact fun same => strange
                  (List.mem_append_left _ (same ▸ copy))
            have cont {c : Nat} (source : c ∈ live) :
                ((h'.append dups.getLast? mp).blk c).bCont =
                  (h.blk c).bCont := by
              rw [append_frame fun tail => apart source (last tail)]
              exact congrArg Prod.fst
                (frame c (List.mem_append_right _ source))
            have linked' : (h'.append dups.getLast? mp).IsChain
                ((h'.append dups.getLast? mp).blk b).bCont rest := by
              rw [cont (held b List.mem_cons_self)]
              exact linked.2.congr fun c later =>
                cont (held c (List.mem_cons_of_mem _ later))
            have rest' := ih hung linked'
              (fun c later => held c (List.mem_cons_of_mem _ later)) chained
              (Nat.le_of_succ_le_succ enough)
              (by simp only [List.length_append, List.length_cons] at freed ⊢
                  simp only [List.length_nil]
                  omega)
            rw [List.getLast?_concat] at rest'
            obtain ⟨extra'', dups', exceeds', done⟩ := rest'
            refine ⟨extra'', dups', ?_, done⟩
            simpa only [settled, false_or] using exceeds'

end Dupmsg

end OpenSS7.Mblk
