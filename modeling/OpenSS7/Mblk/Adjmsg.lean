import OpenSS7.Mblk.Contents

/-!
When `adjmsg` trims a message as it should.
-/

namespace OpenSS7.Mblk

namespace Heap

def trimHeadFits (h : Heap) (type : Nat) : Nat → Option Nat → Int → Bool
  | 0, _, _ => false
  | _, none, _ => false
  | fuel + 1, some b, size =>
      if h.typeOf b ≠ type then false
      else if h.blen b ≤ 0 then h.trimHeadFits type fuel (h.blk b).bCont size
      else if size - h.blen b ≤ 0 then true
      else h.trimHeadFits type fuel (h.blk b).bCont (size - h.blen b)

def trimHead : Nat → Heap → Option Nat → Int → Bool × Heap
  | 0, h, _, _ => (false, h)
  | _, h, none, _ => (false, h)
  | fuel + 1, h, some b, size =>
      let blen := h.blen b
      let size' := size - blen
      if blen ≤ 0 then trimHead fuel h (h.blk b).bCont size
      else if size' < 0 then
        (true, h.modify b fun md => { md with bRptr := md.bRptr + (blen + size') })
      else
        trimHead fuel (h.modify b fun md => { md with bRptr := md.bRptr + blen })
          (h.blk b).bCont size'

def tailSize (h : Heap) : Nat → Option Nat → Nat → Int → Option Nat →
    Int × Option Nat
  | 0, _, _, size, bp => (size, bp)
  | _, none, _, size, bp => (size, bp)
  | fuel + 1, some b, type, size, bp =>
      let changed := h.typeOf b ≠ type
      let type' := if changed then h.typeOf b else type
      let bp' := if changed then some b else bp
      let size' := if changed then 0 else size
      let blen := h.blen b
      h.tailSize fuel (h.blk b).bCont type'
        (if blen ≤ 0 then size' else size' + blen) bp'

def trimTail (length : Int) : Nat → Heap → Option Nat → Int → Heap
  | 0, h, _, _ => h
  | _, h, none, _ => h
  | fuel + 1, h, some b, size =>
      let blen := h.blen b
      let size' := size - blen
      if blen ≤ 0 then trimTail length fuel h (h.blk b).bCont size
      else if size < -length then
        trimTail length fuel (h.modify b fun md => { md with bWptr := md.bRptr })
          (h.blk b).bCont size'
      else if size' < -length then
        trimTail length fuel
          (h.modify b fun md => { md with bWptr := md.bWptr + (length + size') })
          (h.blk b).bCont size'
      else trimTail length fuel h (h.blk b).bCont size'

def adjmsg (h : Heap) (mp : Nat) (length : Int) : Bool × Heap :=
  if length = 0 then (true, h)
  else if 0 < length then
    if h.trimHeadFits (h.typeOf mp) h.made (some mp) length then
      trimHead h.made h (some mp) length
    else (false, h)
  else
    let (size, bp) := h.tailSize h.made (some mp) (h.typeOf mp) 0 none
    if -length ≤ size then (false, trimTail length h.made h bp size)
    else (false, h)

def headRun (h : Heap) (type : Nat) (bs : List Nat) : List Nat :=
  bs.takeWhile fun b => decide (h.typeOf b = type)

def tailRun (h : Heap) : List Nat → List Nat
  | [] => []
  | b :: rest =>
      if ∀ c ∈ rest, h.typeOf c = h.typeOf b then b :: rest else h.tailRun rest

def Available (h : Heap) (mp : Nat) (length : Int) : Prop :=
  (0 < length → length ≤ h.room (h.headRun (h.typeOf mp) (h.blocks mp))) ∧
    (length < 0 → -length ≤ h.room (h.tailRun (h.blocks mp)))

instance (h : Heap) (mp : Nat) (length : Int) :
    Decidable (h.Available mp length) :=
  inferInstanceAs (Decidable (_ ∧ _))

def trimmed (data : List UInt8) (length : Int) : List UInt8 :=
  if 0 ≤ length then data.drop length.toNat
  else data.take (data.length - (-length).toNat)

/-- `adjmsg` trims exactly or not at all. -/
structure Trims (h : Heap) (store : Store) (mp : Nat) (length : Int) :
    Prop where
  result : (h.adjmsg mp length).1 = true ↔ h.Available mp length
  exact : (h.adjmsg mp length).1 = true →
    (h.adjmsg mp length).2.data store ((h.adjmsg mp length).2.blocks mp) =
      trimmed (h.data store (h.blocks mp)) length
  untouched : (h.adjmsg mp length).1 = false →
    (h.adjmsg mp length).2.data store ((h.adjmsg mp length).2.blocks mp) =
      h.data store (h.blocks mp)

def Trimmable (h : Heap) (mp : Nat) (length : Int) : Prop :=
  length < 0 ∨ (0 < length ∧ length = h.room (h.blocks mp)) →
    ¬ h.Available mp length

instance (h : Heap) (mp : Nat) (length : Int) :
    Decidable (h.Trimmable mp length) :=
  inferInstanceAs (Decidable (_ → _))

end Heap

open Heap

section Fits

variable {h : Heap} {start : Option Nat} {bs : List Nat} {fuel : Nat}

theorem trimHeadFits_iff {type : Nat} (linked : h.IsChain start bs)
    (enough : bs.length ≤ fuel) {size : Int} (wanted : 0 < size) :
    h.trimHeadFits type fuel start size = true ↔
      size ≤ h.room (h.headRun type bs) := by
  induction bs generalizing start fuel size with
  | nil =>
      rw [linked]
      have left : h.trimHeadFits type fuel none size = false := by
        cases fuel <;> rfl
      rw [left]
      refine iff_of_false nofun ?_
      simp only [headRun, room, List.takeWhile_nil, List.map_nil, List.sum_nil]
      omega
  | cons b rest ih =>
      cases fuel with
      | zero => exact absurd enough (Nat.not_succ_le_zero _)
      | succ fuel =>
          have enough := Nat.le_of_succ_le_succ enough
          rw [linked.1, trimHeadFits]
          by_cases same : h.typeOf b = type
          · have run : h.headRun type (b :: rest) =
                b :: h.headRun type rest := by
              simp [headRun, same]
            rw [run, room_cons, if_neg (not_not_intro same)]
            by_cases empty : h.blen b ≤ 0
            · rw [if_pos empty, ih linked.2 enough wanted]
              omega
            · rw [if_neg empty]
              by_cases last : size - h.blen b ≤ 0
              · rw [if_pos last]
                exact iff_of_true rfl (by omega)
              · rw [if_neg last, ih linked.2 enough (by omega)]
                omega
          · have run : h.headRun type (b :: rest) = [] := by
              simp [headRun, same]
            rw [run, if_pos same]
            simp only [room, List.map_nil, List.sum_nil]
            exact iff_of_false nofun (by omega)

theorem tailSize_eq {type : Nat} (linked : h.IsChain start bs)
    (enough : bs.length ≤ fuel) {size : Int} {bp : Option Nat} :
    h.tailSize fuel start type size bp =
      if ∀ c ∈ bs, h.typeOf c = type then (size + h.room bs, bp)
      else ((h.room (h.tailRun bs) : Int), (h.tailRun bs).head?) := by
  induction bs generalizing start fuel type size bp with
  | nil =>
      rw [linked]
      have left : h.tailSize fuel none type size bp = (size, bp) := by
        cases fuel <;> rfl
      simp [left, room]
  | cons b rest ih =>
      cases fuel with
      | zero => exact absurd enough (Nat.not_succ_le_zero _)
      | succ fuel =>
          have enough := Nat.le_of_succ_le_succ enough
          have octets (size : Int) :
              (if h.blen b ≤ 0 then size else size + h.blen b) =
                size + (h.blen b).toNat := by
            split <;> omega
          rw [linked.1, tailSize]
          simp only [octets]
          by_cases same : h.typeOf b = type
          · simp only [same, ne_eq, not_true_eq_false, if_false]
            rw [ih linked.2 enough]
            by_cases uniform : ∀ c ∈ rest, h.typeOf c = type
            · have all : ∀ c ∈ b :: rest, h.typeOf c = type :=
                List.forall_mem_cons.mpr ⟨same, uniform⟩
              rw [if_pos uniform, if_pos all, room_cons]
              congr 1
              push_cast
              omega
            · have mixed : ¬ ∀ c ∈ b :: rest, h.typeOf c = type :=
                fun all => uniform (List.forall_mem_cons.mp all).2
              have run : h.tailRun (b :: rest) = h.tailRun rest := by
                rw [tailRun, if_neg (same ▸ uniform)]
              rw [if_neg uniform, if_neg mixed, run]
          · have mixed : ¬ ∀ c ∈ b :: rest, h.typeOf c = type :=
              fun all => same (List.forall_mem_cons.mp all).1
            simp only [same, ne_eq, not_false_eq_true, if_true]
            rw [ih linked.2 enough, if_neg mixed, tailRun]
            by_cases uniform : ∀ c ∈ rest, h.typeOf c = h.typeOf b
            · rw [if_pos uniform, if_pos uniform, room_cons]
              congr 1
              push_cast
              omega
            · rw [if_neg uniform, if_neg uniform]

theorem tailRun_uniform {type : Nat} (uniform : ∀ c ∈ bs, h.typeOf c = type) :
    h.tailRun bs = bs := by
  cases bs with
  | nil => rfl
  | cons b rest =>
      obtain ⟨here, others⟩ := List.forall_mem_cons.mp uniform
      rw [tailRun, if_pos]
      exact fun c member => (others c member).trans here.symm

end Fits

section Trim

variable {h : Heap} {store : Store} {start : Option Nat} {bs : List Nat}
  {fuel : Nat}

structure Trimmed (h h' : Heap) (bs : List Nat) : Prop where
  made : h'.made = h.made
  cont : ∀ b, (h'.blk b).bCont = (h.blk b).bCont
  others : ∀ b, b ∉ bs → h'.blk b = h.blk b

theorem Trimmed.refl : Trimmed h h bs :=
  ⟨rfl, fun _ => rfl, fun _ _ => rfl⟩

theorem Trimmed.advance {b : Nat} {rest : List Nat} (count : Int) :
    Trimmed h (h.modify b fun md => { md with bRptr := md.bRptr + count })
      (b :: rest) := by
  refine ⟨rfl, ?_, ?_⟩
  · exact fun c => modify_field Mdbblock.bCont rfl c
  · exact fun c foreign =>
      modify_of_ne fun same => foreign (same ▸ List.mem_cons_self)

theorem Trimmed.trans {h' h'' : Heap} {b : Nat} {rest : List Nat}
    (first : Trimmed h h' (b :: rest)) (second : Trimmed h' h'' rest) :
    Trimmed h h'' (b :: rest) := by
  refine ⟨second.made.trans first.made, ?_, ?_⟩
  · exact fun c => (second.cont c).trans (first.cont c)
  · intro c foreign
    have later : c ∉ rest :=
      fun member => foreign (List.mem_cons_of_mem _ member)
    rw [second.others c later, first.others c foreign]

theorem trimHead_spec (linked : h.IsChain start bs) (once : bs.Nodup)
    (enough : bs.length ≤ fuel) {size : Int} (wanted : 0 ≤ size)
    (there : size ≤ h.room bs) :
    Trimmed h (trimHead fuel h start size).2 bs ∧
      (trimHead fuel h start size).2.data store bs =
        (h.data store bs).drop size.toNat ∧
      ((trimHead fuel h start size).1 = true ↔ size < h.room bs) := by
  induction bs generalizing h start fuel size with
  | nil =>
      have left : trimHead fuel h none size = (false, h) := by
        cases fuel <;> rfl
      rw [linked, left]
      refine ⟨Trimmed.refl, by simp [data], iff_of_false nofun ?_⟩
      simp only [room, List.map_nil, List.sum_nil]
      omega
  | cons b rest ih =>
      cases fuel with
      | zero => exact absurd enough (Nat.not_succ_le_zero _)
      | succ fuel =>
          have enough := Nat.le_of_succ_le_succ enough
          obtain ⟨foreign, once⟩ := List.nodup_cons.mp once
          rw [room_cons] at there ⊢
          rw [linked.1, trimHead]
          by_cases empty : h.blen b ≤ 0
          · rw [if_pos empty]
            rw [Int.toNat_of_nonpos empty, Nat.zero_add] at there ⊢
            obtain ⟨trimmed, left, done⟩ := ih linked.2 once enough wanted there
            have same := trimmed.others b foreign
            refine ⟨Trimmed.refl.trans trimmed, ?_, done⟩
            have none : (trimHead fuel h (h.blk b).bCont size).2.octets store b =
                [] := by
              rw [octets_of_blk same, octets_of_empty empty]
            rw [data_cons, data_cons, none, octets_of_empty empty, left]
            rfl
          · rw [if_neg empty]
            have length := @length_octets h store b
            by_cases last : size - h.blen b < 0
            · rw [if_pos last]
              have cut : h.blen b + (size - h.blen b) = size := by omega
              rw [cut]
              refine ⟨Trimmed.advance size, ?_, iff_of_true rfl (by omega)⟩
              have behind : (h.modify b fun md =>
                  { md with bRptr := md.bRptr + size }).data store rest =
                    h.data store rest :=
                data_congr fun c member =>
                  (Trimmed.advance size : Trimmed h _ [b]).others c fun here =>
                    foreign (List.mem_singleton.mp here ▸ member)
              rw [data_cons, data_cons, octets_advance wanted, behind,
                List.drop_append_of_le_length]
              omega
            · rw [if_neg last]
              have moved := @Trimmed.advance h b rest (h.blen b)
              have apart : ∀ c ∈ rest, (h.modify b fun md =>
                  { md with bRptr := md.bRptr + h.blen b }).blk c = h.blk c :=
                fun c member => modify_of_ne fun here => foreign (here ▸ member)
              obtain ⟨trimmed, left, done⟩ := @ih _ _ _
                (linked.2.congr fun c _ => moved.cont c) once enough
                (size - h.blen b) (by omega) (by rw [room_congr apart]; omega)
              rw [room_congr apart] at done
              rw [data_congr apart] at left
              refine ⟨moved.trans trimmed, ?_, done.trans (by omega)⟩
              have same := trimmed.others b foreign
              have none : (trimHead fuel (h.modify b fun md =>
                  { md with bRptr := md.bRptr + h.blen b }) (h.blk b).bCont
                    (size - h.blen b)).2.octets store b = [] := by
                rw [octets_of_blk same, octets_advance (by omega),
                  List.drop_eq_nil_iff]
                omega
              have beyond : (h.octets store b).drop size.toNat = [] := by
                rw [List.drop_eq_nil_iff]
                omega
              rw [data_cons, data_cons, none, left, List.drop_append, beyond]
              congr 2
              omega

end Trim

section Adjmsg

variable {h : Heap} {store : Store} {mp : Nat} {length : Int}

theorem room_headRun_le (type : Nat) (bs : List Nat) :
    h.room (h.headRun type bs) ≤ h.room bs := by
  have whole := @room_append h (h.headRun type bs)
    (bs.dropWhile fun b => decide (h.typeOf b = type))
  rw [headRun, List.takeWhile_append_dropWhile] at whole
  rw [whole]
  exact Nat.le_add_right ..

theorem trims_untouched (adjmsg : h.adjmsg mp length = (false, h))
    (unavailable : ¬ h.Available mp length) : h.Trims store mp length := by
  constructor
  · rw [adjmsg]
    exact iff_of_false nofun unavailable
  · rw [adjmsg]
    exact nofun
  · rw [adjmsg]
    exact fun _ => rfl

theorem trims_head (linked : h.IsChain (some mp) (h.blocks mp))
    (once : (h.blocks mp).Nodup) (wanted : 0 < length) :
    h.Trims store mp length ↔ h.Trimmable mp length := by
  have fits := @trimHeadFits_iff h (some mp) (h.blocks mp) h.made (h.typeOf mp)
    linked length_blocks_le length wanted
  have available : h.Available mp length ↔
      length ≤ h.room (h.headRun (h.typeOf mp) (h.blocks mp)) :=
    ⟨fun both => both.1 wanted,
      fun fits => ⟨fun _ => fits, fun negative => by omega⟩⟩
  have first : ¬ length = 0 := by omega
  by_cases enough : length ≤ h.room (h.headRun (h.typeOf mp) (h.blocks mp))
  · have all := room_headRun_le (h := h) (h.typeOf mp) (h.blocks mp)
    obtain ⟨trimmed, left, done⟩ := @trimHead_spec h store (some mp)
      (h.blocks mp) h.made linked once length_blocks_le length
      (Int.le_of_lt wanted) (by omega)
    have adjmsg : h.adjmsg mp length =
        trimHead h.made h (some mp) length := by
      rw [Heap.adjmsg, if_neg first, if_pos wanted, if_pos (fits.mpr enough)]
    have blocks := blocks_congr linked trimmed.made fun b _ => trimmed.cont b
    by_cases short : length < h.room (h.blocks mp)
    · refine iff_of_true ⟨?_, ?_, ?_⟩ ?_
      · rw [adjmsg]
        exact iff_of_true (done.mpr short) (available.mpr enough)
      · rw [adjmsg, blocks, left, Heap.trimmed,
          if_pos (Int.le_of_lt wanted)]
        exact fun _ => rfl
      · rw [adjmsg, done.mpr short]
        exact nofun
      · rintro (negative | ⟨-, total⟩)
        · omega
        · omega
    · refine iff_of_false ?_ ?_
      · intro trims
        have result := trims.result.mpr (available.mpr enough)
        rw [adjmsg, done] at result
        exact short result
      · intro trimmable
        exact trimmable (Or.inr ⟨wanted, by omega⟩) (available.mpr enough)
  · have adjmsg : h.adjmsg mp length = (false, h) := by
      rw [Heap.adjmsg, if_neg first, if_pos wanted,
        if_neg fun fit => enough (fits.mp fit)]
    have unavailable : ¬ h.Available mp length := fun there =>
      enough (available.mp there)
    exact iff_of_true (trims_untouched adjmsg unavailable)
      fun _ => unavailable

theorem trims_tail (linked : h.IsChain (some mp) (h.blocks mp))
    (wanted : length < 0) :
    h.Trims store mp length ↔ h.Trimmable mp length := by
  have available : h.Available mp length ↔
      -length ≤ h.room (h.tailRun (h.blocks mp)) :=
    ⟨fun both => both.2 wanted,
      fun fits => ⟨fun positive => by omega, fun _ => fits⟩⟩
  have size : (h.tailSize h.made (some mp) (h.typeOf mp) 0 none).1 =
      h.room (h.tailRun (h.blocks mp)) := by
    rw [tailSize_eq linked length_blocks_le]
    split
    case isTrue uniform =>
      rw [tailRun_uniform uniform, Int.zero_add]
    case isFalse => rfl
  have first : ¬ length = 0 := by omega
  have second : ¬ 0 < length := by omega
  by_cases enough : -length ≤ h.room (h.tailRun (h.blocks mp))
  · refine iff_of_false ?_ ?_
    · intro trims
      have result := trims.result.mpr (available.mpr enough)
      rw [Heap.adjmsg, if_neg first, if_neg second] at result
      simp only [size, enough, if_true] at result
      cases result
    · exact fun trimmable =>
        trimmable (Or.inl wanted) (available.mpr enough)
  · have adjmsg : h.adjmsg mp length = (false, h) := by
      rw [Heap.adjmsg, if_neg first, if_neg second]
      simp only [size, enough, if_false]
    have unavailable : ¬ h.Available mp length := fun there =>
      enough (available.mp there)
    exact iff_of_true (trims_untouched adjmsg unavailable)
      fun _ => unavailable

/-- A message is trimmed exactly or not at all if and only if the octets are
not there to trim whenever it is trimmed from the tail, or has no more octets
than are to be trimmed from the head. -/
theorem adjmsg_trims_iff (linked : h.IsChain (some mp) (h.blocks mp))
    (once : (h.blocks mp).Nodup) :
    h.Trims store mp length ↔ h.Trimmable mp length := by
  rcases Int.lt_trichotomy length 0 with negative | zero | positive
  · exact trims_tail linked negative
  · subst zero
    refine iff_of_true ⟨?_, ?_, ?_⟩ ?_
    · refine iff_of_true rfl ⟨?_, ?_⟩
      · exact fun positive => absurd positive (Int.lt_irrefl 0)
      · exact fun negative => absurd negative (Int.lt_irrefl 0)
    · exact fun _ => rfl
    · exact fun result => nomatch result
    · rintro (negative | ⟨positive, -⟩)
      · exact absurd negative (Int.lt_irrefl 0)
      · exact absurd positive (Int.lt_irrefl 0)
  · exact trims_head linked once positive

def messageOf (sizes : List (Nat × Nat)) : Heap where
  made := sizes.length
  blk := fun i =>
    let (type, size) := sizes.getD i (0, 0)
    { Heap.mdbblockCtor i (1000 * i) 128 with
      bCont := if i + 1 < sizes.length then some (i + 1) else none
      bWptr := 1000 * i + size
      dbType := type }
  freemblk := []
  cache := []
  grants := []
  log := []

theorem adjmsg_trims_three :
    (messageOf [(0, 2), (0, 0), (0, 5)]).Trims (fun _ _ => 0) 0 3 :=
  (adjmsg_trims_iff (by decide) (by decide)).mpr (by decide)

theorem adjmsg_fails_to_trim :
    ¬ ∀ (h : Heap) (store : Store) (mp : Nat) (length : Int),
      h.IsChain (some mp) (h.blocks mp) → (h.blocks mp).Nodup →
        h.Trims store mp length := by
  intro claim
  have trims := claim (messageOf [(0, 2)]) (fun _ _ => 0) 0 2 (by decide)
    (by decide)
  exact absurd (trims.result.mpr (by decide)) (by decide)

end Adjmsg

end OpenSS7.Mblk
