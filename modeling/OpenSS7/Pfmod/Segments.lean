import OpenSS7.Pfmod.Load

/-!
Where the octets of a load are taken from, when the offset has been reduced
block by block.
-/

namespace OpenSS7.Pfmod

def slot (offs : BitVec 32) (start : Nat) : Nat :=
  start + (offs - BitVec.ofNat 32 start).toNat

/-- Where the octets are found, from the block at `start` on, when `i` of them
have been found before. -/
def spots (offs : BitVec 32) (size : Nat) :
    List Block → Nat → Nat → List Nat
  | [], _, _ => []
  | b :: rest, start, i =>
      let p := slot offs start + i
      let count := min (size - i) (start + b.length - p)
      List.range' p count ++
        spots offs size rest (start + b.length) (i + count)

def octetsAt (data : List UInt8) (places : List Nat) : List UInt8 :=
  places.map fun p => data.getD p 0

section Octets

variable {w : Nat}

theorem loadFrom_eq (b : Block) (need p i : Nat) (result : BitVec w) :
    loadFrom b need p i result =
      (i + min need (b.length - p),
        ((b.drop p).take need).foldl shiftIn result) := by
  induction need generalizing p i result with
  | zero => simp [loadFrom]
  | succ need ih =>
      rw [loadFrom]
      cases octet : b[p]? with
      | none =>
          have beyond := List.getElem?_eq_none_iff.mp octet
          simp [List.drop_eq_nil_iff.mpr beyond, Nat.sub_eq_zero_of_le beyond]
      | some octet =>
          obtain ⟨inside, here⟩ := List.getElem?_eq_some_iff.mp octet
          rw [List.drop_eq_getElem_cons inside, here, List.take_succ_cons,
            List.foldl_cons]
          simp only [ih]
          congr 1
          omega

theorem octetsAt_range' {data : List UInt8} {p count : Nat}
    (inside : p + count ≤ data.length) :
    octetsAt data (List.range' p count) = (data.drop p).take count := by
  apply List.ext_getElem
  · simp [octetsAt]
    omega
  · intro k _ less
    have short : p + k < data.length := by
      simp only [List.length_take, List.length_drop] at less
      omega
    simp [octetsAt, List.getElem?_eq_getElem short]

theorem octetsAt_block (before b after : List UInt8) {p need : Nat}
    (later : before.length ≤ p) :
    octetsAt (before ++ (b ++ after))
        (List.range' p (min need (before.length + b.length - p))) =
      (b.drop (p - before.length)).take need := by
  by_cases inside : p ≤ before.length + b.length
  · rw [octetsAt_range', List.drop_append, List.drop_eq_nil_iff.mpr later,
      List.nil_append, List.drop_append, List.take_append_of_le_length,
      List.take_eq_take_iff, List.length_drop]
    · omega
    · rw [List.length_drop]
      omega
    · simp only [List.length_append]
      omega
  · have none : before.length + b.length - p = 0 := by omega
    have beyond : b.length ≤ p - before.length := by omega
    simp [none, List.drop_eq_nil_iff.mpr beyond, octetsAt]

theorem slot_ge (offs : BitVec 32) (start : Nat) : start ≤ slot offs start :=
  Nat.le_add_right ..

theorem spots_full (offs : BitVec 32) {size : Nat} (blocks : List Block)
    (start : Nat) {i : Nat} (full : size ≤ i) :
    spots offs size blocks start i = [] := by
  induction blocks generalizing start i with
  | nil => rfl
  | cons b rest ih =>
      have none : size - i = 0 := by omega
      simp only [spots, none, Nat.zero_min, List.range'_zero, List.nil_append]
      exact ih _ (by omega)

theorem load_eq (offs : BitVec 32) {size : Nat} (before : List UInt8)
    (blocks : List Block) {i : Nat} (result : BitVec w) (some : i < size) :
    load size blocks (offs - BitVec.ofNat 32 before.length) i result =
      (i + (spots offs size blocks before.length i).length,
        (octetsAt (before ++ blocks.flatten)
          (spots offs size blocks before.length i)).foldl shiftIn result) := by
  induction blocks generalizing before i result with
  | nil => rfl
  | cons b rest ih =>
      have later := Nat.le_add_right_of_le (k := i) (slot_ge offs before.length)
      have found : octetsAt (before ++ (b ++ rest.flatten))
          (List.range' (slot offs before.length + i) (min (size - i)
            (before.length + b.length - (slot offs before.length + i)))) =
          (b.drop (slot offs before.length + i - before.length)).take
            (size - i) :=
        octetsAt_block before b rest.flatten later
      have place : slot offs before.length + i - before.length =
          (offs - BitVec.ofNat 32 before.length).toNat + i := by
        rw [slot]
        omega
      have length : b.length - (slot offs before.length + i - before.length) =
          before.length + b.length - (slot offs before.length + i) := by
        omega
      rw [load, spots]
      split
      case isTrue empty =>
        subst empty
        have none : before.length - (slot offs before.length + i) = 0 := by
          omega
        simp only [List.length_nil, Nat.add_zero, none, Nat.min_zero,
          List.range'_zero, List.nil_append, List.flatten_cons]
        exact ih before result some
      case isFalse =>
        rw [loadFrom_eq, ← place, length, ← found]
        simp only [List.flatten_cons, octetsAt, List.map_append,
          List.foldl_append, List.length_append, List.length_range']
        split
        case isTrue full =>
          rw [spots_full _ _ _ (Nat.le_of_eq full.symm)]
          rfl
        case isFalse left =>
          have reduced : offs - BitVec.ofNat 32 before.length -
              BitVec.ofNat 32 b.length =
                offs - BitVec.ofNat 32 (before ++ b).length := by
            rw [List.length_append, BitVec.ofNat_add]
            bv_omega
          rw [reduced, ih (before ++ b) _ (by omega), List.length_append,
            List.append_assoc, Nat.add_assoc]
          rfl

end Octets

section Places

variable {offs : BitVec 32} {size start i : Nat} {blocks : List Block}

theorem slot_before (later : start ≤ offs.toNat) :
    slot offs start = offs.toNat := by
  have fits := offs.isLt
  have small : (BitVec.ofNat 32 start).toNat = start := by
    rw [BitVec.toNat_ofNat, Nat.mod_eq_of_lt (by omega)]
  have less : BitVec.ofNat 32 start ≤ offs := by
    rw [BitVec.le_def, small]
    exact later
  rw [slot, BitVec.toNat_sub_of_le less, small]
  omega

theorem offs_le_slot (offs : BitVec 32) (start : Nat) :
    offs.toNat ≤ slot offs start := by
  rcases Nat.le_total start offs.toNat with later | earlier
  · exact Nat.le_of_eq (slot_before later).symm
  · exact Nat.le_trans earlier (slot_ge offs start)

theorem spots_skip {b : Block} (ends : start + b.length ≤ slot offs start + i) :
    spots offs size (b :: blocks) start i =
      spots offs size blocks (start + b.length) i := by
  have none : start + b.length - (slot offs start + i) = 0 := by omega
  simp [spots, none]

theorem spots_first {b : Block} (later : start ≤ offs.toNat) :
    spots offs size (b :: blocks) start 0 =
      List.range' offs.toNat (min size (start + b.length - offs.toNat)) ++
        spots offs size blocks (start + b.length)
          (min size (start + b.length - offs.toNat)) := by
  simp [spots, slot_before later]

theorem length_spots (some : i ≤ size) :
    i + (spots offs size blocks start i).length ≤ size := by
  induction blocks generalizing start i with
  | nil => exact some
  | cons b rest ih =>
      rw [spots, List.length_append, List.length_range']
      have next := @ih (start + b.length)
        (i + min (size - i) (start + b.length - (slot offs start + i)))
        (by omega)
      omega

theorem spots_short (some : spots offs size blocks start i ≠ []) :
    offs.toNat + i + (spots offs size blocks start i).length ≤
      start + blocks.flatten.length := by
  induction blocks generalizing start i with
  | nil => exact absurd rfl some
  | cons b rest ih =>
      have ahead := offs_le_slot offs start
      rw [spots] at some ⊢
      rw [List.length_append, List.length_range', List.flatten_cons,
        List.length_append]
      cases more : spots offs size rest (start + b.length)
          (i + min (size - i) (start + b.length - (slot offs start + i))) with
      | nil =>
          rw [more, List.append_nil] at some
          have count : min (size - i)
              (start + b.length - (slot offs start + i)) ≠ 0 := by
            intro none
            rw [none] at some
            exact some rfl
          simp only [List.length_nil]
          omega
      | cons =>
          have next := ih (more ▸ List.cons_ne_nil _ _)
          rw [more] at next
          omega

theorem spots_head (wanted : 0 < size) (later : start ≤ offs.toNat)
    (inside : offs.toNat < start + blocks.flatten.length) :
    ∃ tail, spots offs size blocks start 0 = offs.toNat :: tail := by
  induction blocks generalizing start with
  | nil =>
      simp only [List.flatten_nil, List.length_nil] at inside
      omega
  | cons b rest ih =>
      rw [List.flatten_cons, List.length_append] at inside
      by_cases here : offs.toNat < start + b.length
      · have count : min size (start + b.length - offs.toNat) =
            min size (start + b.length - offs.toNat) - 1 + 1 := by
          omega
        rw [spots_first later, count, List.range'_succ]
        exact ⟨_, rfl⟩
      · rw [spots_skip (by rw [slot_before later]; omega)]
        exact ih (by omega) (by omega)

def Straight (blocks : List Block) (offs : BitVec 32) (size : Nat) : Prop :=
  ∃ before b after, blocks = before ++ b :: after ∧
    before.flatten.length ≤ offs.toNat ∧
      offs.toNat + size ≤ before.flatten.length + b.length

theorem spots_straight {before after : List Block} {b : Block}
    (later : start + before.flatten.length ≤ offs.toNat)
    (whole : offs.toNat + size ≤
      start + before.flatten.length + b.length) :
    spots offs size (before ++ b :: after) start 0 =
      List.range' offs.toNat size := by
  induction before generalizing start with
  | nil =>
      simp only [List.flatten_nil, List.length_nil, Nat.add_zero] at later whole
      have count : min size (start + b.length - offs.toNat) = size := by omega
      rw [List.nil_append, spots_first later, count,
        spots_full _ _ _ (Nat.le_refl _), List.append_nil]
  | cons c before ih =>
      simp only [List.flatten_cons, List.length_append] at later whole
      rw [List.cons_append,
        spots_skip (by rw [slot_before (by omega)]; omega)]
      exact ih (by omega) (by omega)

theorem spots_past (past : offs.toNat < start)
    (short : start + blocks.flatten.length ≤ 2 ^ 32) :
    spots offs size blocks start i = [] := by
  induction blocks generalizing start i with
  | nil => rfl
  | cons b rest ih =>
      rw [List.flatten_cons, List.length_append] at short
      have far : start + b.length ≤ slot offs start + i := by
        rw [slot, BitVec.toNat_sub, BitVec.toNat_ofNat]
        omega
      rw [spots_skip far]
      exact ih (by omega) (by omega)

theorem straight_of_spots (wanted : 0 < size) (later : start ≤ offs.toNat)
    (short : start + blocks.flatten.length ≤ 2 ^ 32)
    (all : (spots offs size blocks start 0).length = size) :
    ∃ before b after, blocks = before ++ b :: after ∧
      start + before.flatten.length ≤ offs.toNat ∧
        offs.toNat + size ≤ start + before.flatten.length + b.length := by
  induction blocks generalizing start with
  | nil =>
      simp only [spots, List.length_nil] at all
      omega
  | cons b rest ih =>
      rw [List.flatten_cons, List.length_append] at short
      by_cases here : offs.toNat < start + b.length
      · refine ⟨[], b, rest, rfl, later, ?_⟩
        rw [spots_first later, spots_past here (by omega), List.append_nil,
          List.length_range'] at all
        simp only [List.length_nil, List.flatten_nil]
        omega
      · rw [spots_skip (by rw [slot_before later]; omega)] at all
        obtain ⟨before, c, after, rfl, ahead, whole⟩ :=
          ih (by omega) (by omega) all
        refine ⟨b :: before, c, after, rfl, ?_, ?_⟩
        · rw [List.flatten_cons, List.length_append]
          omega
        · rw [List.flatten_cons, List.length_append]
          omega

end Places

section Values

variable {w : Nat}

theorem toNat_shiftIn {result : BitVec w} {octet : UInt8}
    (fits : (result.toNat + 1) * 256 ≤ 2 ^ w) :
    (shiftIn result octet).toNat = 256 * result.toNat + octet.toNat := by
  have small : octet.toNat < 2 ^ 8 := octet.toNat_lt
  have shifted : result.toNat <<< 8 = 256 * result.toNat := by
    rw [Nat.shiftLeft_eq]
    omega
  rw [shiftIn, BitVec.toNat_or, BitVec.toNat_shiftLeft, BitVec.toNat_ofNat,
    Nat.mod_eq_of_lt (a := octet.toNat) (by omega),
    Nat.mod_eq_of_lt (by omega), ← Nat.shiftLeft_add_eq_or_of_lt small, shifted]

theorem toNat_foldl_shiftIn {octets : List UInt8} {result : BitVec w}
    (fits : (result.toNat + 1) * 256 ^ octets.length ≤ 2 ^ w) :
    (octets.foldl shiftIn result).toNat =
      octets.foldl (fun value octet => 256 * value + octet.toNat)
        result.toNat := by
  induction octets generalizing result with
  | nil => rfl
  | cons octet rest ih =>
      rw [List.length_cons, Nat.pow_succ, Nat.mul_comm (256 ^ _),
        ← Nat.mul_assoc] at fits
      have small : octet.toNat < 2 ^ 8 := octet.toNat_lt
      have power : 1 ≤ 256 ^ rest.length := Nat.le_trans Nat.one_le_two_pow
        (Nat.pow_le_pow_left (by decide : 2 ≤ 256) _)
      have first : (result.toNat + 1) * 256 ≤ 2 ^ w :=
        Nat.le_trans (Nat.le_mul_of_pos_right _ power) fits
      rw [List.foldl_cons, List.foldl_cons, ← toNat_shiftIn first, ih]
      refine Nat.le_trans (Nat.mul_le_mul_right _ ?_) fits
      rw [toNat_shiftIn first]
      omega

theorem toNat_loaded {octets : List UInt8} (fits : 8 * octets.length ≤ w) :
    (octets.foldl shiftIn (0 : BitVec w)).toNat = bigEndian octets := by
  have zero : (0 : BitVec w).toNat = 0 := BitVec.toNat_ofNat 0 w ▸ Nat.zero_mod _
  have power : 256 ^ octets.length = 2 ^ (8 * octets.length) := by
    rw [Nat.pow_mul]
  rw [toNat_foldl_shiftIn, zero]
  · rfl
  · rw [zero, Nat.zero_add, Nat.one_mul, power]
    exact Nat.pow_le_pow_right (by decide) fits

theorem toNat_last (octet : UInt8) :
    (([octet].foldl shiftIn (0 : BitVec 16)) <<< 8).toNat =
      octet.toNat <<< 8 := by
  have small : octet.toNat < 2 ^ 8 := octet.toNat_lt
  rw [BitVec.toNat_shiftLeft, toNat_loaded (by simp), Nat.shiftLeft_eq,
    Nat.shiftLeft_eq]
  simp only [bigEndian, List.foldl_cons, List.foldl_nil]
  omega

theorem foldl_inj {octets octets' : List UInt8} {value value' : Nat}
    (length : octets.length = octets'.length)
    (same : octets.foldl (fun value octet => 256 * value + octet.toNat) value =
      octets'.foldl (fun value octet => 256 * value + octet.toNat) value') :
    value = value' ∧ octets = octets' := by
  induction octets generalizing octets' value value' with
  | nil =>
      cases octets' with
      | nil => exact ⟨same, rfl⟩
      | cons => cases length
  | cons octet rest ih =>
      cases octets' with
      | nil => cases length
      | cons octet' rest' =>
          obtain ⟨values, rests⟩ := ih (Nat.succ.inj length) same
          dsimp only at values
          have small : octet.toNat < 2 ^ 8 := octet.toNat_lt
          have small' : octet'.toNat < 2 ^ 8 := octet'.toNat_lt
          have octets : octet.toNat = octet'.toNat := by omega
          rw [UInt8.toNat_inj.mp octets, rests]
          exact ⟨by omega, rfl⟩

theorem bigEndian_inj {octets octets' : List UInt8}
    (length : octets.length = octets'.length) :
    bigEndian octets = bigEndian octets' ↔ octets = octets' :=
  ⟨fun same => (foldl_inj length same).2, fun same => by rw [same]⟩

end Values

section Loads

variable {mp : List Block} {size : Nat}

def found (mp : List Block) (offs : BitVec 32) (size : Nat) : List UInt8 :=
  octetsAt mp.flatten (spots offs size mp 0 0)

def byteOffs (offs : BitVec 16) : BitVec 32 := offs.setWidth 32 <<< 1

theorem toNat_byteOffs (offs : BitVec 16) :
    (byteOffs offs).toNat = 2 * offs.toNat := by
  have small := offs.isLt
  rw [byteOffs, BitVec.toNat_shiftLeft, BitVec.toNat_setWidth, Nat.shiftLeft_eq]
  omega

theorem load_found {w : Nat} (offs : BitVec 32) (wanted : 0 < size) :
    load size mp offs 0 (0 : BitVec w) =
      ((found mp offs size).length, (found mp offs size).foldl shiftIn 0) := by
  have all := load_eq offs [] mp (0 : BitVec w) wanted
  have start : offs - BitVec.ofNat 32 ([] : List UInt8).length = offs :=
    BitVec.sub_zero offs
  rw [start] at all
  simpa [found, octetsAt] using all

theorem length_found (offs : BitVec 32) :
    (found mp offs size).length ≤ size := by
  have short := @length_spots offs size 0 0 mp (Nat.zero_le _)
  rw [found, octetsAt, List.length_map]
  omega

theorem found_short {offs : BitVec 32} (some : found mp offs size ≠ []) :
    offs.toNat + (found mp offs size).length ≤ mp.flatten.length := by
  have short := @spots_short offs size 0 0 mp fun none => some (by
    rw [found, none]
    rfl)
  rw [found, octetsAt, List.length_map]
  omega

theorem found_head {offs : BitVec 32} (wanted : 0 < size) {octet : UInt8}
    {rest : List UInt8} (here : mp.flatten.drop offs.toNat = octet :: rest) :
    ∃ tail, found mp offs size = octet :: tail := by
  have inside : offs.toNat < mp.flatten.length := by
    by_contra beyond
    rw [List.drop_eq_nil_iff.mpr (Nat.le_of_not_lt beyond)] at here
    cases here
  obtain ⟨tail, spots⟩ := @spots_head offs size 0 mp wanted (Nat.zero_le _)
    (by omega)
  rw [List.drop_eq_getElem_cons inside] at here
  obtain ⟨here, -⟩ := List.cons_eq_cons.mp here
  refine ⟨octetsAt mp.flatten tail, ?_⟩
  rw [found, spots, octetsAt, List.map_cons, List.getD_eq_getElem?_getD,
    List.getElem?_eq_getElem inside, here]
  rfl

/-- The condition for `bpf_x`: if the octets are there, those are found. -/
def XFound (mp : List Block) (offs : BitVec 32) (size : Nat) : Prop :=
  offs.toNat + size ≤ mp.flatten.length →
    found mp offs size = (mp.flatten.drop offs.toNat).take size

/-- The condition for `pf_pack`: if two octets are there, the second is the one
that is found, or zero when none is. -/
def PackFound (mp : List Block) (offs : BitVec 16) : Prop :=
  2 * offs.toNat + 2 ≤ mp.flatten.length →
    mp.flatten.getD (2 * offs.toNat + 1) 0 =
      (found mp (byteOffs offs) 2).getD 1 0

theorem bpfX_iff (offs : BitVec 32) (wanted : 0 < size) (word : size ≤ 4) :
    (bpfX mp offs size).map BitVec.toNat = xSpec mp.flatten offs size ↔
      XFound mp offs size := by
  rw [bpfX, load_found offs wanted, xSpec, XFound]
  have length := @length_found mp size offs
  simp only
  by_cases inside : offs.toNat + size ≤ mp.flatten.length
  · have whole : ((mp.flatten.drop offs.toNat).take size).length = size := by
      rw [List.length_take, List.length_drop]
      omega
    rw [if_pos inside]
    by_cases all : (found mp offs size).length = size
    · rw [if_pos all, Option.map_some, Option.some.injEq,
        toNat_loaded (by omega), bigEndian_inj (all.trans whole.symm)]
      exact ⟨fun same _ => same, fun same => same inside⟩
    · rw [if_neg all]
      refine iff_of_false nofun fun same => all ?_
      rw [same inside, whole]
  · rw [if_neg inside]
    refine iff_of_true ?_ fun less => absurd less inside
    by_cases some : found mp offs size = []
    · rw [some, if_neg (by simpa using Nat.ne_of_lt wanted)]
      rfl
    · have short := found_short some
      rw [if_neg (by omega)]
      rfl

theorem pfPack_iff (offs : BitVec 16) :
    (pfPack mp offs).map BitVec.toNat = packSpec mp.flatten offs ↔
      PackFound mp offs := by
  have place := toNat_byteOffs offs
  have length := @length_found mp 2 (byteOffs offs)
  have load := @load_found mp 2 16 (byteOffs offs) (by decide)
  have short := @found_short mp 2 (byteOffs offs)
  have head := @found_head mp 2 (byteOffs offs) (by decide)
  rw [place] at short head
  have doubled : offs.setWidth 32 <<< 1 = byteOffs offs := rfl
  rw [pfPack, doubled, load, packSpec, PackFound]
  generalize found mp (byteOffs offs) 2 = octets at length short head
  cases data : mp.flatten.drop (2 * offs.toNat) with
  | nil =>
      have beyond := List.drop_eq_nil_iff.mp data
      have none : octets = [] := by
        by_contra some
        have more := List.length_pos_iff.mpr some
        have less := short some
        omega
      subst none
      exact iff_of_true rfl fun inside => by omega
  | cons high rest =>
      have total := congrArg List.length data
      rw [List.length_drop] at total
      obtain ⟨tail, rfl⟩ := head data
      have less := short (List.cons_ne_nil _ _)
      cases rest with
      | nil =>
          simp only [List.length_cons, List.length_nil] at total less
          have last : tail = [] := List.length_eq_zero_iff.mp (by omega)
          subst last
          refine iff_of_true ?_ fun inside => by omega
          exact congrArg some (toNat_last high)
      | cons low rest =>
          simp only [List.length_cons] at total less length
          have inside : 2 * offs.toNat + 1 < mp.flatten.length := by omega
          have second : mp.flatten.getD (2 * offs.toNat + 1) 0 = low := by
            have next := congrArg (·[1]?) data
            rw [List.getElem?_drop] at next
            rw [List.getD_eq_getElem?_getD, next]
            rfl
          have there : 2 * offs.toNat + 2 ≤ mp.flatten.length := by omega
          rw [second]
          simp only [there, forall_const]
          cases tail with
          | nil =>
              have shifted : high.toNat <<< 8 = bigEndian [high, 0] := by
                rw [Nat.shiftLeft_eq]
                simp only [bigEndian, List.foldl_cons, List.foldl_nil]
                simp
                omega
              have single := toNat_last high
              rw [shifted] at single
              refine (Option.some.injEq _ _).to_iff.trans ?_
              rw [single, bigEndian_inj (by rfl)]
              simp [eq_comm]
          | cons other tail =>
              have last : tail = [] := by
                apply List.length_eq_zero_iff.mp
                simp only [List.length_cons] at length
                omega
              subst last
              refine (Option.some.injEq _ _).to_iff.trans ?_
              rw [toNat_loaded (by simp), bigEndian_inj (by rfl)]
              simp [eq_comm]

theorem found_straight {offs : BitVec 32}
    (straight : Straight mp offs size) :
    found mp offs size = (mp.flatten.drop offs.toNat).take size := by
  obtain ⟨before, b, after, rfl, later, whole⟩ := straight
  have from_here : 0 + before.flatten.length ≤ offs.toNat := by omega
  have to_there : offs.toNat + size ≤
      0 + before.flatten.length + b.length := by omega
  rw [found, spots_straight from_here to_there, octetsAt_range']
  simp only [List.flatten_append, List.flatten_cons, List.length_append]
  omega

theorem xFound_short (short : mp.flatten.length ≤ 2 ^ 32) (offs : BitVec 32)
    (wanted : 0 < size) :
    XFound mp offs size ↔
      (offs.toNat + size ≤ mp.flatten.length → Straight mp offs size) := by
  constructor
  · intro all inside
    have whole := congrArg List.length (all inside)
    rw [found, octetsAt, List.length_map, List.length_take, List.length_drop,
      Nat.min_eq_left (by omega)] at whole
    have straight := straight_of_spots wanted (Nat.zero_le _) (by omega) whole
    simp only [Nat.zero_add] at straight
    exact straight
  · exact fun straight inside => found_straight (straight inside)

theorem packFound_short (short : mp.flatten.length ≤ 2 ^ 32)
    (offs : BitVec 16) :
    PackFound mp offs ↔
      (2 * offs.toNat + 2 ≤ mp.flatten.length →
        Straight mp (byteOffs offs) 2 ∨
          mp.flatten.getD (2 * offs.toNat + 1) 0 = 0) := by
  have place := toNat_byteOffs offs
  refine forall_congr' fun inside => ?_
  have here : 2 * offs.toNat < mp.flatten.length := by omega
  have next : 2 * offs.toNat + 1 < mp.flatten.length := by omega
  by_cases straight : Straight mp (byteOffs offs) 2
  · refine iff_of_true ?_ (Or.inl straight)
    rw [found_straight straight, place, List.drop_eq_getElem_cons here,
      List.drop_eq_getElem_cons next, List.getD_eq_getElem?_getD,
      List.getElem?_eq_getElem next]
    rfl
  · have one : (found mp (byteOffs offs) 2).length ≠ 2 := by
      intro all
      rw [found, octetsAt, List.length_map] at all
      apply straight
      have whole := straight_of_spots (by decide) (Nat.zero_le _) (by omega) all
      simp only [Nat.zero_add] at whole
      exact whole
    have few := @length_found mp 2 (byteOffs offs)
    have beyond : (found mp (byteOffs offs) 2)[1]? = none :=
      List.getElem?_eq_none_iff.mpr (by omega)
    rw [List.getD_eq_getElem?_getD (l := found _ _ _), beyond]
    simp [straight]

/-- A load gives what it should if and only if the octets it finds are those
there. In a message of up to `2 ^ 32` octets that is when they lie in one
block, or when the second one of a short word is zero. -/
theorem loads_segmented_iff (mp : List Block) :
    (∀ offs, (pfPack mp offs).map BitVec.toNat = packSpec mp.flatten offs ↔
        PackFound mp offs) ∧
      (∀ offs size, size = 1 ∨ size = 2 ∨ size = 4 →
        ((bpfX mp offs size).map BitVec.toNat = xSpec mp.flatten offs size ↔
          XFound mp offs size)) ∧
      (mp.flatten.length ≤ 2 ^ 32 →
        (∀ offs, PackFound mp offs ↔
          (2 * offs.toNat + 2 ≤ mp.flatten.length →
            Straight mp (byteOffs offs) 2 ∨
              mp.flatten.getD (2 * offs.toNat + 1) 0 = 0)) ∧
        ∀ offs size, size = 1 ∨ size = 2 ∨ size = 4 →
          (XFound mp offs size ↔
            (offs.toNat + size ≤ mp.flatten.length →
              Straight mp offs size))) := by
  refine ⟨pfPack_iff, ?_, fun short => ⟨packFound_short short, ?_⟩⟩
  · intro offs size sizes
    exact bpfX_iff offs (by omega) (by omega)
  · intro offs size sizes
    exact xFound_short short offs (by omega)

theorem loads_segmented_straight :
    bpfX [[], [1, 2, 3], [4, 5]] 3 2 = some 0x0405 ∧
      Straight [[], [1, 2, 3], [4, 5]] 3 2 := by
  refine ⟨by decide, ?_⟩
  have both := loads_segmented_iff [[], [1, 2, 3], [4, 5]]
  apply ((both.2.2 (by decide)).2 3 2 (by decide)).mp
  · exact (both.2.1 3 2 (by decide)).mp (by decide)
  · decide

theorem loads_depend_on_blocks :
    ¬ ∀ mp : List Block,
      (∀ offs, (pfPack mp offs).map BitVec.toNat = packSpec mp.flatten offs) ∧
        ∀ offs size, size = 1 ∨ size = 2 ∨ size = 4 →
          (bpfX mp offs size).map BitVec.toNat =
            xSpec mp.flatten offs size := by
  intro claim
  have split := (claim [[1], [2]]).1 0
  revert split
  decide

end Loads

end OpenSS7.Pfmod
