import Mathlib.Algebra.Ring.Int.Defs
import Mathlib.Data.Int.Order.Basic

/-!
I_FDINSERT: the token of another stream in a message of the user.
-/

namespace OpenSS7.Sth.Fdinsert

structure StrBuf where
  len : Int32
  buf : Nat → UInt8

structure StrFdInsert where
  ctlbuf : StrBuf
  databuf : StrBuf
  flags : Nat
  offset : Int32

structure Limits where
  minpsz : Int
  maxpsz : Int
  strmsgsz : Int
  strctlsz : Int

structure Surroundings where
  access : Int
  token : Except Int (Vector UInt8 4)
  flow : Int
  ctl : Int
  data : Int
  recheck : Int

structure Blk where
  control : Bool
  octets : List UInt8
deriving DecidableEq

inductive Outcome where
  | error (err : Int)
  | null
  | outside
  | sent (token : Vector UInt8 4) (mp : List Blk)

def rsHipri : Nat := 1

def einval : Int := -22

def erange : Int := -34

/-- `(size_t) x` -/
def sizeT (x : Int) : Nat := (x % 2 ^ 64).toNat

def StrBuf.copyin (b : StrBuf) (n : Nat) : List UInt8 := (List.range n).map b.buf

def strsizecheck (sd : Limits) (data : Bool) (size : Int) : Int :=
  if data then
    if size < sd.minpsz then erange
    else if sd.maxpsz < size ∧ sd.minpsz ≠ 0 then erange
    else
      let size := if sd.maxpsz < size then sd.maxpsz else size
      if sd.strmsgsz < size then erange else size
  else if sd.strctlsz < size then erange else size

def strpsizecheck (sd : Limits) (clen dlen : Int) : Int :=
  if 0 ≤ clen ∧ strsizecheck sd false clen < -1 then strsizecheck sd false clen
  else if 0 ≤ dlen then
    let err := strsizecheck sd true dlen
    if err < -1 then err
    else if sizeT err < sizeT dlen then if 0 ≤ clen then erange else err
    else dlen
  else dlen

def allocPart (control : Bool) (err len : Int) (b : StrBuf) :
    Except Int (List Blk) :=
  if 0 ≤ len then
    if err ≠ 0 then .error err else .ok [⟨control, b.copyin len.toNat⟩]
  else .ok []

def allocProto (s : Surroundings) (fdi : StrFdInsert) (dlen : Int) :
    Except Int (List Blk) := do
  let mp ← allocPart true s.ctl fdi.ctlbuf.len.toInt fdi.ctlbuf
  let dp ← allocPart false s.data dlen fdi.databuf
  return mp ++ dp

def patch (octets : List UInt8) (offset : Nat) (token : Vector UInt8 4) :
    List UInt8 :=
  octets.take offset ++ token.toList ++ octets.drop (offset + 4)

/-- The checks at the beginning of `__str_i_fdinsert`. -/
def StrFdInsert.Rejected (fdi : StrFdInsert) : Prop :=
  fdi.offset.toInt < 0 ∨
    -- `sizeof` makes the comparison one of `size_t`
    sizeT fdi.ctlbuf.len.toInt < sizeT fdi.offset.toInt + 4 ∨
    fdi.offset.toInt % 4 ≠ 0 ∨ fdi.flags ≠ 0 ∧ fdi.flags ≠ rsHipri

instance (fdi : StrFdInsert) : Decidable fdi.Rejected :=
  inferInstanceAs (Decidable (_ ∨ _ ∨ _ ∨ _))

def StrFdInsert.dlen (fdi : StrFdInsert) : Int :=
  if fdi.databuf.len.toInt ≤ 0 then -1 else fdi.databuf.len.toInt

def strputpmsgCommon (sd : Limits) (s : Surroundings) (fdi : StrFdInsert) :
    Except Int (List Blk) :=
  let err := strpsizecheck sd fdi.ctlbuf.len.toInt fdi.dlen
  if err < -1 then .error err
  else if fdi.flags ≠ rsHipri ∧ s.flow ≠ 0 then .error s.flow
  else
    match allocProto s fdi fdi.dlen with
    | .error err => .error err
    | .ok mp => if s.recheck ≠ 0 then .error s.recheck else .ok mp

def strIFdinsert (sd : Limits) (s : Surroundings) (fdi : StrFdInsert) :
    Outcome :=
  if fdi.Rejected then .error einval
  else if s.access ≠ 0 then .error s.access
  else
    match s.token with
    | .error err => .error err
    | .ok token =>
        match strputpmsgCommon sd s fdi with
        | .error err => .error err
        -- `mp->b_band` is set before the token is
        | .ok [] => .null
        | .ok (b :: rest) =>
            let offset := fdi.offset.toInt.toNat
            if offset + 4 ≤ b.octets.length then
              .sent token (⟨b.control, patch b.octets offset token⟩ :: rest)
            else .outside

def Outcome.Inside (fdi : StrFdInsert) : Outcome → Prop
  | .error _ => True
  | .null => False
  | .outside => False
  | .sent token mp => ∃ clen : Nat, fdi.ctlbuf.len.toInt = clen ∧
      0 ≤ fdi.offset.toInt ∧ fdi.offset.toInt + 4 ≤ clen ∧
      mp = ⟨true, patch (fdi.ctlbuf.copyin clen) fdi.offset.toInt.toNat token⟩ ::
        if 0 < fdi.databuf.len.toInt then
          [⟨false, fdi.databuf.copyin fdi.databuf.len.toInt.toNat⟩] else []

variable {sd : Limits} {fdi : StrFdInsert}

theorem room_or_negative (accepted : ¬ fdi.Rejected) :
    0 ≤ fdi.offset.toInt ∧ (fdi.ctlbuf.len.toInt < 0 ∨
      fdi.offset.toInt + 4 ≤ fdi.ctlbuf.len.toInt) := by
  unfold StrFdInsert.Rejected sizeT at accepted
  have low := fdi.ctlbuf.len.le_toInt
  have high := fdi.ctlbuf.len.toInt_lt
  have offset := fdi.offset.toInt_lt
  omega

theorem copyin_length (b : StrBuf) (n : Nat) : (b.copyin n).length = n := by
  rw [StrBuf.copyin, List.length_map, List.length_range]

def StrBuf.part (control : Bool) (len : Int) (b : StrBuf) : List Blk :=
  if 0 ≤ len then [⟨control, b.copyin len.toNat⟩] else []

theorem allocPart_ok {control : Bool} {err len : Int} {b : StrBuf}
    {mp : List Blk} (made : allocPart control err len b = .ok mp) :
    mp = b.part control len := by
  unfold allocPart at made
  unfold StrBuf.part
  split at made
  case isTrue positive =>
    rw [if_pos positive]
    split at made
    · cases made
    · exact (Except.ok.inj made).symm
  case isFalse negative =>
    rw [if_neg negative]
    exact (Except.ok.inj made).symm

theorem strputpmsgCommon_ok {s : Surroundings} {mp : List Blk}
    (made : strputpmsgCommon sd s fdi = .ok mp) :
    mp = fdi.ctlbuf.part true fdi.ctlbuf.len.toInt ++
      fdi.databuf.part false fdi.dlen := by
  unfold strputpmsgCommon at made
  simp only at made
  split at made
  · cases made
  split at made
  · cases made
  split at made
  · cases made
  rename_i allocated
  split at made
  · cases made
  cases made
  unfold allocProto at allocated
  cases ctl : allocPart true s.ctl fdi.ctlbuf.len.toInt fdi.ctlbuf with
  | error err =>
      rw [ctl] at allocated
      cases allocated
  | ok first =>
      cases data : allocPart false s.data fdi.dlen fdi.databuf with
      | error err =>
          rw [ctl, data] at allocated
          cases allocated
      | ok second =>
          rw [ctl, data] at allocated
          cases allocated
          rw [allocPart_ok ctl, allocPart_ok data]

theorem sent_inside (s : Surroundings) (control : 0 ≤ fdi.ctlbuf.len.toInt) :
    (strIFdinsert sd s fdi).Inside fdi := by
  unfold strIFdinsert
  split
  · exact True.intro
  rename_i accepted
  obtain ⟨positive, room⟩ := room_or_negative accepted
  have room := room.resolve_left (not_lt.mpr control)
  split
  · exact True.intro
  split
  · exact True.intro
  obtain ⟨clen, len⟩ := Int.eq_ofNat_of_zero_le control
  cases made : strputpmsgCommon sd s fdi with
  | error err => exact True.intro
  | ok mp =>
      have parts := strputpmsgCommon_ok made
      rw [StrBuf.part, if_pos control, len, Int.toNat_natCast,
        List.singleton_append] at parts
      rw [parts]
      simp only [copyin_length]
      rw [if_pos (by omega)]
      refine ⟨clen, len, positive, len ▸ room, congrArg _ ?_⟩
      unfold StrBuf.part StrFdInsert.dlen
      by_cases data : 0 < fdi.databuf.len.toInt
      · rw [if_pos data, if_neg (not_le.mpr data), if_pos (le_of_lt data)]
      · rw [if_neg data, if_pos (not_lt.mp data), if_neg (by decide)]

def StrFdInsert.DataRefused (sd : Limits) (fdi : StrFdInsert) : Prop :=
  0 < fdi.databuf.len.toInt ∧
    strsizecheck sd true fdi.databuf.len.toInt < -1

def calm : Surroundings := ⟨0, .ok (Vector.replicate 4 0), 0, 0, 0, 0⟩

theorem strpsizecheck_negative {clen dlen : Int} (negative : clen < 0)
    (small : strpsizecheck sd clen dlen < -1) :
    dlen < -1 ∨ 0 ≤ dlen ∧ strsizecheck sd true dlen < -1 := by
  unfold strpsizecheck at small
  rw [if_neg (fun refused => absurd refused.1 (not_le.mpr negative))] at small
  split at small
  case isTrue positive =>
    simp only at small
    split at small
    case isTrue refused => exact .inr ⟨positive, refused⟩
    case isFalse fits =>
      rw [if_neg (not_le.mpr negative)] at small
      split at small
      · exact absurd small fits
      · exact .inl small
  case isFalse => exact .inl small

theorem not_inside_calm (accepted : ¬ fdi.Rejected)
    (negative : fdi.ctlbuf.len.toInt < 0) (taken : ¬ fdi.DataRefused sd) :
    ¬ (strIFdinsert sd calm fdi).Inside fdi := by
  have size : ¬ strpsizecheck sd fdi.ctlbuf.len.toInt fdi.dlen < -1 := by
    intro small
    rcases strpsizecheck_negative negative small with low | ⟨positive, refused⟩
    · unfold StrFdInsert.dlen at low
      split at low <;> omega
    · unfold StrFdInsert.dlen at positive refused
      split at positive
      · omega
      · rename_i data
        rw [if_neg data] at refused
        exact taken ⟨not_le.mp data, refused⟩
  have allocated : allocProto calm fdi fdi.dlen =
      .ok (fdi.databuf.part false fdi.dlen) := by
    unfold allocProto allocPart StrBuf.part
    rw [if_neg (not_le.mpr negative)]
    split <;> rfl
  have made : strputpmsgCommon sd calm fdi =
      .ok (fdi.databuf.part false fdi.dlen) := by
    unfold strputpmsgCommon
    rw [allocated, if_neg size, if_neg (fun waits => waits.2 rfl)]
    rfl
  unfold strIFdinsert
  rw [if_neg accepted, if_neg (fun access => access rfl), made]
  simp only [calm]
  unfold StrBuf.part
  by_cases data : 0 ≤ fdi.dlen
  · rw [if_pos data]
    simp only
    split
    · rintro ⟨clen, len, -⟩
      omega
    · exact id
  · rw [if_neg data]
    exact id

/-- The token lies in the control part exactly where the length of the control
part is not negative, or the call is refused before it is written. -/
theorem fdinsert_inside_iff (sd : Limits) (fdi : StrFdInsert) :
    (∀ s, (strIFdinsert sd s fdi).Inside fdi) ↔
      0 ≤ fdi.ctlbuf.len.toInt ∨ fdi.Rejected ∨ fdi.DataRefused sd := by
  constructor
  · intro inside
    by_contra other
    simp only [not_or, not_le] at other
    exact not_inside_calm other.2.1 other.1 other.2.2 (inside calm)
  · rintro (control | rejected | ⟨data, refused⟩) s
    · exact sent_inside s control
    · rw [strIFdinsert, if_pos rejected]
      exact True.intro
    · by_cases control : 0 ≤ fdi.ctlbuf.len.toInt
      · exact sent_inside s control
      have dlen : fdi.dlen = fdi.databuf.len.toInt := if_neg (not_le.mpr data)
      have size : strpsizecheck sd fdi.ctlbuf.len.toInt fdi.dlen < -1 := by
        rw [dlen]
        unfold strpsizecheck
        rw [if_neg (fun small => control small.1), if_pos (le_of_lt data)]
        simp only [if_pos refused]
        exact refused
      unfold strIFdinsert strputpmsgCommon
      simp only [if_pos size]
      split
      · exact True.intro
      split
      · exact True.intro
      split <;> exact True.intro

theorem fdinsert_not_inside :
    ¬ ∀ (sd : Limits) (fdi : StrFdInsert) (s : Surroundings),
      (strIFdinsert sd s fdi).Inside fdi := by
  intro claim
  have inside := claim ⟨0, 4096, 4096, 1024⟩
    ⟨⟨-1, fun _ => 0⟩, ⟨2, fun _ => 0⟩, 0, 0⟩ calm
  exact not_inside_calm (by decide) (by decide)
    (by unfold StrFdInsert.DataRefused; decide) inside

end OpenSS7.Sth.Fdinsert
