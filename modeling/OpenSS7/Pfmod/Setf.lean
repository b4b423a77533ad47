import OpenSS7.Pfmod.FilterSafety

/-!
`PFIOCSETF`: how `pfmod_iocdata` installs a packet filter, and when a filter it
refuses leaves the one before it in force.
-/

namespace OpenSS7.Pfmod

abbrev enmaxfilters : Nat := 255

abbrev EINVAL : Nat := 22

abbrev EPROTO : Nat := 71

structure Packetfilt where
  pfPriority : BitVec 8
  pfFilterLen : BitVec 8
  pfFilter : Fin enmaxfilters → Word

/-- `struct Pf_ext_packetfilt`, and the part of `struct pf` that is the filter
in force. -/
structure PfExtPacketfilt where
  pfPriority : BitVec 8
  pfFilterLen : BitVec 32
  pfFilter : Fin pfMaxfilters → Word

namespace PfExtPacketfilt

/-- What `pfmod_validate_filter` and `pfmod_filter` are given: the length goes
through a sixteen bit argument. -/
def words (pf : PfExtPacketfilt) : List Word :=
  List.ofFn fun i : Fin (pf.pfFilterLen.toNat % 2 ^ 16) =>
    if inside : i.val < pfMaxfilters then pf.pfFilter ⟨i, inside⟩ else 0

end PfExtPacketfilt

section Octets

variable (dp : List UInt8)

def octetAt (i : Nat) : Nat := (dp.getD i 0).toNat

def shortAt (i : Nat) : Nat := octetAt dp i + 2 ^ 8 * octetAt dp (i + 1)

def longAt (i : Nat) : Nat := shortAt dp i + 2 ^ 16 * shortAt dp (i + 2)

def sizeofPacketfilt : Nat := 2 + 2 * enmaxfilters

def sizeofPfExtPacketfilt : Nat := 8 + 2 * pfMaxfilters + 2

def packetfiltOf : Packetfilt where
  pfPriority := BitVec.ofNat 8 (octetAt dp 0)
  pfFilterLen := BitVec.ofNat 8 (octetAt dp 1)
  pfFilter := fun i => BitVec.ofNat 16 (shortAt dp (2 + 2 * i))

def pfExtPacketfiltOf : PfExtPacketfilt where
  pfPriority := BitVec.ofNat 8 (octetAt dp 0)
  pfFilterLen := BitVec.ofNat 32 (longAt dp 4)
  pfFilter := fun i => BitVec.ofNat 16 (shortAt dp (8 + 2 * i))

end Octets

/-- The old format leaves the words from `ENMAXFILTERS` on as they are. -/
def Packetfilt.copy (f : Packetfilt) (pf : PfExtPacketfilt) :
    PfExtPacketfilt where
  pfPriority := f.pfPriority
  pfFilterLen := f.pfFilterLen.setWidth 32
  pfFilter := fun i =>
    if inside : i.val < enmaxfilters then f.pfFilter ⟨i, inside⟩
    else pf.pfFilter i

/-- What `mi_copy_state` returns, with the data block of a first copyin. -/
inductive CopyState
  | failed
  | copyin (dp : List UInt8)
  | other

/-- The error `mi_copy_done` is called with, if it is called, and the filter
then in force. -/
abbrev Completion := Option Nat × PfExtPacketfilt

/-- The payload of `PFIOCSETF`. -/
def setf (pf : PfExtPacketfilt) (dp : List UInt8) : Completion :=
  if dp.length = sizeofPfExtPacketfilt then
    let f := pfExtPacketfiltOf dp
    if f.pfFilterLen.toNat > pfMaxfilters then (some EINVAL, pf)
    else
      let pf := f
      if pfmodValidateFilter pf.words then (some 0, pf) else (some EINVAL, pf)
  else if dp.length = sizeofPacketfilt then
    let f := packetfiltOf dp
    -- the octet is an `int` before one is taken from it
    if (f.pfFilterLen.toNat : Int) - 1 ≥ enmaxfilters then (some EINVAL, pf)
    else
      let pf := f.copy pf
      if pfmodValidateFilter pf.words then (some 0, pf) else (some EINVAL, pf)
  else (some EINVAL, pf)

/-- `pfmod_iocdata` for `PFIOCSETF`. -/
def pfmodIocdata (pf : PfExtPacketfilt) : CopyState → Completion
  | .failed => (none, pf)
  | .other => (some EPROTO, pf)
  | .copyin dp => setf pf dp

def Completion.Right (pf : PfExtPacketfilt) : Completion → Prop
  | (none, _) => True
  | (some 0, pf') => pfmodValidateFilter pf'.words = true
  | (some _, pf') => pf' = pf ∧
      ∀ mp, pfmodFilter pf'.words mp = pfmodFilter pf.words mp

def Harmless (pf new : PfExtPacketfilt) : Prop :=
  pfmodValidateFilter new.words = true ∨ new = pf

theorem right_of_refused {pf : PfExtPacketfilt} {err : Nat} (some : err ≠ 0) :
    Completion.Right pf (.some err, pf) := by
  match err, some with
  | err + 1, _ => exact ⟨rfl, fun _ => rfl⟩

theorem right_copied_iff (pf new : PfExtPacketfilt) :
    Completion.Right pf (if pfmodValidateFilter new.words then (some 0, new)
      else (some EINVAL, new)) ↔ Harmless pf new := by
  unfold Harmless
  by_cases accepted : pfmodValidateFilter new.words = true
  · rw [if_pos accepted]
    exact ⟨fun _ => .inl accepted, fun _ => accepted⟩
  · rw [if_neg accepted]
    constructor
    · rintro ⟨same, -⟩
      exact .inr same
    · rintro (accepts | same)
      · exact absurd accepts accepted
      · exact ⟨same, fun _ => by rw [same]⟩

/-- `PFIOCSETF` leaves the filter in force on an error, and installs accepted
filters only, just where the filter it copies is accepted or installed
already. -/
theorem setf_right_iff (pf : PfExtPacketfilt) (state : CopyState) :
    (pfmodIocdata pf state).Right pf ↔
      ∀ dp, state = .copyin dp →
        (dp.length = sizeofPfExtPacketfilt →
          (pfExtPacketfiltOf dp).pfFilterLen.toNat ≤ pfMaxfilters →
            Harmless pf (pfExtPacketfiltOf dp)) ∧
        (dp.length = sizeofPacketfilt →
          Harmless pf ((packetfiltOf dp).copy pf)) := by
  cases state with
  | failed => exact ⟨nofun, fun _ => trivial⟩
  | other => exact ⟨nofun, fun _ => right_of_refused (by decide)⟩
  | copyin dp =>
      have apart : sizeofPacketfilt ≠ sizeofPfExtPacketfilt := by decide
      simp only [CopyState.copyin.injEq, forall_eq']
      show (setf pf dp).Right pf ↔ _
      unfold setf
      by_cases extended : dp.length = sizeofPfExtPacketfilt
      · have notOld : dp.length ≠ sizeofPacketfilt := fun old =>
          apart (old.symm.trans extended)
        rw [if_pos extended]
        by_cases long : (pfExtPacketfiltOf dp).pfFilterLen.toNat > pfMaxfilters
        · simp only [if_pos long]
          exact ⟨fun _ => ⟨fun _ short =>
            absurd long (Nat.not_lt_of_le short), fun old =>
            absurd old notOld⟩, fun _ => right_of_refused (by decide)⟩
        · simp only [if_neg long]
          rw [right_copied_iff]
          exact ⟨fun harmless => ⟨fun _ _ => harmless, fun old =>
            absurd old notOld⟩, fun harmless =>
            harmless.1 extended (Nat.le_of_not_lt long)⟩
      · rw [if_neg extended]
        by_cases old : dp.length = sizeofPacketfilt
        · have short : ¬ ((packetfiltOf dp).pfFilterLen.toNat : Int) - 1 ≥
              enmaxfilters := by
            have bound := (packetfiltOf dp).pfFilterLen.isLt
            unfold enmaxfilters
            omega
          rw [if_pos old]
          simp only [if_neg short]
          rw [right_copied_iff]
          exact ⟨fun harmless => ⟨fun is => absurd is extended, fun _ =>
            harmless⟩, fun harmless => harmless.2 old⟩
        · rw [if_neg old]
          exact ⟨fun _ => ⟨fun is => absurd is extended, fun is =>
            absurd is old⟩, fun _ => right_of_refused (by decide)⟩

section Refused

def acceptsAll : PfExtPacketfilt where
  pfPriority := 0
  pfFilterLen := 2
  pfFilter := fun i => if i.val = 0 then 3 else 0

def spareFilter : List UInt8 := 0 :: 2 :: 15 :: List.replicate 509 0

theorem setf_spareFilter :
    (setf acceptsAll spareFilter).1 = some EINVAL ∧
      (setf acceptsAll spareFilter).2.words = [15, 0] := by
  decide +kernel

theorem refused_filter_stays :
    ∃ after, pfmodIocdata acceptsAll (.copyin spareFilter) =
        (some EINVAL, after) ∧
      pfmodFilter acceptsAll.words [[1]] = .error (.ret 1) ∧
      pfmodFilter after.words [[1]] = .error (.ret 0) ∧
      ¬ (pfmodIocdata acceptsAll (.copyin spareFilter)).Right acceptsAll := by
  obtain ⟨failed, words⟩ := setf_spareFilter
  have before : acceptsAll.words = [3, 0] := by decide +kernel
  show ∃ after, setf acceptsAll spareFilter = _ ∧ _ ∧ _ ∧
    ¬ (setf acceptsAll spareFilter).Right acceptsAll
  generalize setf acceptsAll spareFilter = completion at failed words ⊢
  obtain ⟨err, after⟩ := completion
  cases failed
  refine ⟨after, rfl, ?_, ?_, fun right => ?_⟩
  · rw [before]
    rfl
  · rw [show after.words = [15, 0] from words]
    rfl
  · have kept : after = acceptsAll := right.1
    rw [kept] at words
    exact absurd (before.symm.trans words) (by decide)

end Refused

end OpenSS7.Pfmod
