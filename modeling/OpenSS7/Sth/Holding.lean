import Mathlib.Data.Int.Order.Basic
import OpenSS7.Lib.Runs

/-!
The data blocks that `write` makes, holds on the write queue and extends.
-/

namespace OpenSS7.Sth.Holding

structure Sd where
  minpsz : Int
  maxpsz : Int
  strmsgsz : Int
  wroff : Nat
  wrpad : Nat
  sndzero : Bool
  strdelim : Bool
  strcsum : Bool
  checksum : List UInt8 → UInt32

structure Blk where
  data : List UInt8
  off : Nat
  lim : Nat
  delim : Bool
  csum : Option UInt32
deriving DecidableEq

structure Str where
  held : List Blk
  passed : List Blk

structure Call where
  buf : List UInt8
  /-- The copy in `strhold` fails, or the access check behind it. -/
  fault : Bool
  access : Bool
  /-- The band is not blocked when `strhold` is done. -/
  canput : Bool
  turns : List Nat

inductive Event where
  | write (call : Call)
  /-- `strwsrv`, or a message of another kind that pushes the held one out. -/
  | release

variable (sd : Sd)

def Sd.strsizecheck (size : Int) : Int :=
  if size < sd.minpsz then -34
  else if sd.maxpsz < size ∧ sd.minpsz ≠ 0 then -34
  else
    let size := if sd.maxpsz < size then sd.maxpsz else size
    if sd.strmsgsz < size then -34 else size

def allocData (data : List UInt8) (extra : Nat) : Blk :=
  ⟨data, sd.wroff, sd.wroff + data.length + sd.wrpad + extra, false,
    if sd.strcsum ∧ data ≠ [] then some (sd.checksum data) else none⟩

def Str.release (s : Str) : Str :=
  match s.held with
  | [] => s
  | b :: rest =>
      ⟨rest, if b.data = [] then s.passed else s.passed ++ [b]⟩

/-- `strwput` for M_DATA. -/
def Str.strwput (s : Str) (mp : Blk) : Str :=
  match s.held with
  | [] =>
      if mp.delim = false ∧ mp.data ≠ [] ∧
          mp.data.length ≤ mp.lim - (mp.off + mp.data.length) then
        { s with held := [mp] }
      else { s with passed := s.passed ++ [mp] }
  | _ :: _ =>
      let s := s.release.release
      { s with passed := s.passed ++ [mp] }

/-- The block that `strhold` adds a write to. -/
def Str.room (s : Str) (nbytes : Nat) : Option Blk :=
  match s.held with
  | b :: _ =>
      if b.delim = false ∧ b.off + b.data.length + nbytes ≤ b.lim then some b
      else none
  | [] => none

/-- `strhold` once it has such a block. -/
def Str.extend (s : Str) (call : Call) (b : Blk) : Str :=
  let rest := s.held.tail
  if call.fault then { s with held := rest }
  else
    let b := { b with
      data := b.data ++ call.buf
      delim := b.delim || sd.strdelim }
    if (b.delim || decide (b.lim ≤ b.off + b.data.length)) && call.canput then
      ⟨rest, s.passed ++ [b]⟩
    else { s with held := b :: rest }

/-- The loop of `strwrite_fast`. -/
def Str.writeLoop (buf : List UInt8) (max : Nat) :
    List Nat → Nat → Str → Str
  | [], _, s => s
  | extra :: turns, written, s =>
      let data := (buf.drop written).take max
      let written := written + data.length
      let b := allocData sd data extra
      let s := s.strwput { b with
        delim := decide (buf.length ≤ written) && sd.strdelim }
      if written < buf.length then s.writeLoop buf max turns written else s

def Str.strwrite (s : Str) (call : Call) : Str :=
  let max := sd.strsizecheck call.buf.length
  if max < 0 ∨ max = 0 ∧ sd.sndzero = false then s
  else
    match s.room call.buf.length with
    | some b =>
        let s := s.extend sd call b
        -- zero octets held read as nothing done
        if call.fault = false ∧ call.access = true ∧ call.buf = [] then
          s.writeLoop sd call.buf max.toNat call.turns 0
        else s
    | none => s.writeLoop sd call.buf max.toNat call.turns 0

def Str.step (s : Str) : Event → Str
  | .write call => s.strwrite sd call
  | .release => s.release

structure Blk.Sound (b : Blk) : Prop where
  max : b.data.length ≤ sd.maxpsz
  min : sd.minpsz ≤ b.data.length
  inside : b.off + b.data.length ≤ b.lim
  csum : ∀ c ∈ b.csum, c = sd.checksum b.data

def Str.Sound (s : Str) : Prop := ∀ b ∈ s.held ++ s.passed, b.Sound sd

def Fits (s : Str) : Event → Prop
  | .release => True
  | .write call =>
      let max := sd.strsizecheck call.buf.length
      ¬ (max < 0 ∨ max = 0 ∧ sd.sndzero = false) → call.fault = false →
        ∀ b ∈ s.room call.buf.length,
          (b.data ++ call.buf).length ≤ sd.maxpsz ∧
            ∀ c ∈ b.csum, c = sd.checksum (b.data ++ call.buf)

variable {sd} {s : Str}

theorem Str.Sound.release (sound : s.Sound sd) : s.release.Sound sd := by
  unfold Str.release
  split
  · exact sound
  case h_2 b rest held =>
    rw [Str.Sound, held] at sound
    intro b' member
    apply sound
    simp only [List.mem_append] at member ⊢
    split at member
    · exact member.imp_left (List.mem_cons_of_mem b)
    · rcases member with member | member
      · exact .inl (List.mem_cons_of_mem b member)
      · rcases List.mem_append.mp member with member | member
        · exact .inr member
        · rw [List.mem_singleton.mp member]
          exact .inl List.mem_cons_self

theorem Str.Sound.pass {mp : Blk} (sound : s.Sound sd) (new : mp.Sound sd) :
    Str.Sound sd { s with passed := s.passed ++ [mp] } := by
  intro b member
  simp only [← List.append_assoc] at member
  rcases List.mem_append.mp member with member | member
  · exact sound b member
  · rw [List.mem_singleton.mp member]
    exact new

theorem Str.Sound.strwput {mp : Blk} (sound : s.Sound sd)
    (new : mp.Sound sd) : (s.strwput mp).Sound sd := by
  unfold Str.strwput
  split
  case h_1 held =>
    split
    · intro b member
      rcases List.mem_append.mp member with member | member
      · rw [List.mem_singleton.mp member]
        exact new
      · exact sound b (List.mem_append_right _ member)
    · exact sound.pass new
  case h_2 => exact sound.release.release.pass new

theorem strsizecheck_bounds {size : Nat} (taken : 0 ≤ sd.strsizecheck size) :
    sd.minpsz ≤ size ∧ sd.strsizecheck size ≤ sd.maxpsz ∧
      (sd.minpsz = 0 ∨ sd.strsizecheck size = size) := by
  unfold Sd.strsizecheck at taken ⊢
  split at taken
  · omega
  split at taken
  · omega
  simp only at taken ⊢
  grind

theorem writeLoop_sound {buf : List UInt8} {max : Nat} {turns : List Nat}
    {written : Nat} (upper : max ≤ sd.maxpsz)
    (lower : sd.minpsz ≤ 0 ∨ sd.minpsz ≤ max ∧ buf.length = max ∧ written = 0)
    (sound : s.Sound sd) : (s.writeLoop sd buf max turns written).Sound sd := by
  induction turns generalizing written s with
  | nil => exact sound
  | cons extra turns ih =>
      unfold Str.writeLoop
      simp only
      have length : ((buf.drop written).take max).length =
          min max (buf.length - written) := by
        rw [List.length_take, List.length_drop]
      have new : Blk.Sound sd { allocData sd ((buf.drop written).take max) extra
          with delim := decide (buf.length ≤ written +
            ((buf.drop written).take max).length) && sd.strdelim } := by
        refine ⟨?_, ?_, ?_, ?_⟩
        · simp only [allocData]
          omega
        · simp only [allocData]
          omega
        · simp only [allocData]
          omega
        · simp only [allocData]
          intro c some
          split at some
          · exact (Option.some.inj some).symm
          · cases some
      have next := sound.strwput new
      split
      case isTrue more =>
        refine ih ?_ next
        rcases lower with low | ⟨low, whole, rfl⟩
        · exact .inl low
        · omega
      case isFalse => exact next

theorem strwrite_loop_sound {call : Call} (sound : s.Sound sd)
    (taken : 0 ≤ sd.strsizecheck call.buf.length) :
    (s.writeLoop sd call.buf (sd.strsizecheck call.buf.length).toNat
      call.turns 0).Sound sd := by
  obtain ⟨low, high, whole⟩ := strsizecheck_bounds taken
  exact writeLoop_sound (by omega) (by omega) sound

theorem extend_sound_iff {call : Call} {b : Blk} (sound : s.Sound sd)
    (room : s.room call.buf.length = some b) :
    (s.extend sd call b).Sound sd ↔ (call.fault = false →
      (b.data ++ call.buf).length ≤ sd.maxpsz ∧
        ∀ c ∈ b.csum, c = sd.checksum (b.data ++ call.buf)) := by
  obtain ⟨rest, held, fits⟩ : ∃ rest, s.held = b :: rest ∧
      b.off + b.data.length + call.buf.length ≤ b.lim := by
    unfold Str.room at room
    split at room
    case h_1 b' rest held =>
      split at room
      case isTrue fits =>
        cases room
        exact ⟨rest, held, fits.2⟩
      case isFalse => cases room
    case h_2 => cases room
  rw [Str.Sound, held] at sound
  have old : b.Sound sd := sound b List.mem_cons_self
  have others : ∀ b' ∈ rest ++ s.passed, b'.Sound sd := fun b' member =>
    sound b' (List.mem_cons_of_mem b member)
  unfold Str.extend
  rw [held, List.tail_cons]
  cases call.fault with
  | true => exact iff_of_true others nofun
  | false =>
      simp only [Bool.false_eq_true, if_false, forall_const]
      have all (new : Blk) (grown : new.data = b.data ++ call.buf)
          (same : new.off = b.off ∧ new.lim = b.lim ∧ new.csum = b.csum)
          (bs : List Blk) (perm : bs.Perm (new :: (rest ++ s.passed))) :
          (∀ b' ∈ bs, b'.Sound sd) ↔
            (b.data ++ call.buf).length ≤ sd.maxpsz ∧
              ∀ c ∈ b.csum, c = sd.checksum (b.data ++ call.buf) := by
        constructor
        · intro sound
          have new := sound new (perm.mem_iff.mpr List.mem_cons_self)
          exact ⟨grown ▸ new.max, grown ▸ same.2.2 ▸ new.csum⟩
        · rintro ⟨max, csum⟩ b' member
          rcases List.mem_cons.mp (perm.mem_iff.mp member) with rfl | member
          · have min := old.min
            refine ⟨grown ▸ max, ?_, ?_, grown ▸ same.2.2 ▸ csum⟩
            · rw [grown, List.length_append]
              omega
            · rw [grown, same.1, same.2.1, List.length_append]
              omega
          · exact others b' member
      have all := all { b with
        data := b.data ++ call.buf, delim := b.delim || sd.strdelim }
        rfl ⟨rfl, rfl, rfl⟩
      split
      · refine all _ ?_
        rw [← List.append_assoc]
        exact List.perm_append_singleton _ _
      · exact all _ (List.Perm.refl _)

theorem strwrite_sound_iff (call : Call) (sound : s.Sound sd) :
    (s.strwrite sd call).Sound sd ↔ Fits sd s (.write call) := by
  unfold Str.strwrite Fits
  simp only
  split
  case isTrue refused => exact iff_of_true sound fun taken => absurd refused taken
  case isFalse taken =>
    have positive : 0 ≤ sd.strsizecheck call.buf.length := by omega
    rw [forall_prop_of_true taken]
    cases room : s.room call.buf.length with
    | none =>
        exact iff_of_true (strwrite_loop_sound sound positive) fun _ => nofun
    | some b =>
        have extended := extend_sound_iff sound room
        simp only [Option.mem_def, Option.some.injEq, forall_eq']
        split
        case isTrue nothing =>
          refine iff_of_true (strwrite_loop_sound (extended.mpr fun _ => ?_)
            positive) fun _ => ?_
          all_goals
            have old : b.Sound sd := sound b (by
              unfold Str.room at room
              grind)
            rw [nothing.2.2, List.append_nil]
            exact ⟨old.max, old.csum⟩
        case isFalse => exact extended

/-- Every block keeps its declared attributes in every state of a run exactly
where no write is added to a held block beyond its limit or its checksum. -/
theorem write_attributes_iff (sd : Sd) (events : List Event) :
    (∀ n, ((events.take n).foldl (Str.step sd) ⟨[], []⟩).Sound sd) ↔
      Runs.Along (Str.step sd) (Fits sd) ⟨[], []⟩ events := by
  refine Runs.along_iff (fun _ _ (_ : True) => True.intro)
    (fun s event _ sound => ?_) events True.intro nofun
  cases event with
  | write call => exact strwrite_sound_iff call sound
  | release => exact iff_of_true sound.release True.intro

theorem write_attributes_lost :
    ¬ ∀ (sd : Sd) (events : List Event) (n : Nat),
      ((events.take n).foldl (Str.step sd) ⟨[], []⟩).Sound sd := by
  intro claim
  have sound := claim ⟨0, 4, 4096, 0, 3, true, false, false, fun _ => 0⟩
    [.write ⟨[1, 2, 3], false, true, true, [0]⟩,
      .write ⟨[4, 5, 6], false, true, true, []⟩] 2
    ⟨[1, 2, 3, 4, 5, 6], 0, 6, false, none⟩ (by decide)
  have max := sound.max
  revert max
  decide

end OpenSS7.Sth.Holding
