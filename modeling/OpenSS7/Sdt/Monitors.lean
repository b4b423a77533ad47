import Mathlib.Data.UInt
import Mathlib.Tactic.SplitIfs
import OpenSS7.Lib.LeakyBucket

/-!
The error rate monitors of the receiver: AERM while a link is proved, SUERM and
EIM while it is in service, and what they make of a signal unit when an
indication cannot be sent.
-/

namespace OpenSS7.Sdt

open LeakyBucket

inductive Indication where
  | abortProving
  | correctSu
  | linkFailure
deriving DecidableEq

/-- `SDT_STATE_IDLE`, and `SDT_STATE_IN_SERVICE` which is also
`SDT_STATE_MONITORING`. -/
inductive MonitorState where
  | idle
  | inService
deriving DecidableEq

theorem MonitorState.idle_of_not {state : MonitorState}
    (not : state ≠ .inService) : state = .idle := by
  cases state with
  | idle => rfl
  | inService => exact absurd rfl not

structure Config where
  tin : UInt32
  tie : UInt32
  t : UInt32
  d : UInt32
  te : UInt32
  de : UInt32
  ue : UInt32
  /-- `SS7_POPT_HSL` -/
  hsl : Bool
deriving DecidableEq

@[ext] structure Statem where
  aermState : MonitorState
  abortedProving : Bool
  ca : UInt32
  ti : UInt32
  suermState : MonitorState
  cs : UInt32
  ns : UInt32
  eimState : MonitorState
  ce : UInt32
  suReceived : Bool
  intervalError : Bool
deriving DecidableEq

structure Result where
  statem : Statem
  sent : List Indication
  failed : Bool
deriving DecidableEq

namespace Statem

variable (c : Config) (fails : Indication → Bool) (s : Statem)

def aermSuInError : Result :=
  if s.aermState = .inService then
    let s := { s with ca := s.ca + 1 }
    if s.ca = s.ti then
      let s := { s with abortedProving := true }
      if fails .abortProving then ⟨{ s with ca := s.ca - 1 }, [], true⟩
      else ⟨{ s with aermState := .idle }, [.abortProving], false⟩
    else ⟨s, [], false⟩
  else ⟨s, [], false⟩

def aermCorrectSu : Result :=
  if s.aermState = .idle then
    if s.abortedProving then
      if fails .correctSu then ⟨s, [], true⟩
      else ⟨{ s with abortedProving := false }, [.correctSu], false⟩
    else ⟨s, [], false⟩
  else ⟨s, [], false⟩

def suermStart : Statem :=
  { s with cs := 0, ns := 0, suermState := .inService }

def suermStop : Statem := { s with suermState := .idle }

/-- Every D-th signal unit takes one from `Cs`. -/
def suermCount : Statem :=
  let s := { s with ns := s.ns + 1 }
  if c.d ≤ s.ns then
    { s with ns := 0, cs := if s.cs ≠ 0 then s.cs - 1 else s.cs }
  else s

def suermSuInError : Result :=
  if s.suermState = .inService then
    let s := { s with cs := s.cs + 1 }
    if c.t ≤ s.cs then
      if fails .linkFailure then
        -- `Ca` is taken back, `Cs` is not
        ⟨{ s with ca := s.ca - 1 }, [], true⟩
      else ⟨{ s with suermState := .idle }, [.linkFailure], false⟩
    else ⟨s.suermCount c, [], false⟩
  else ⟨s, [], false⟩

def suermCorrectSu : Statem :=
  if s.suermState = .inService then s.suermCount c else s

def eimSuInError : Statem :=
  if s.eimState = .inService then { s with intervalError := true } else s

def eimCorrectSu : Statem :=
  if s.eimState = .inService then { s with suReceived := true } else s

def eimStart : Statem :=
  { s with
    ce := 0, intervalError := false, suReceived := false
    eimState := .inService }

def eimStop : Statem := { s with eimState := .idle }

def daedrCorrectSu : Result :=
  ((s.eimCorrectSu).suermCorrectSu c).aermCorrectSu fails

def daedrSuInError : Result :=
  let r := (s.eimSuInError).suermSuInError c fails
  if r.failed then r
  else
    let r' := r.statem.aermSuInError fails
    { r' with sent := r.sent ++ r'.sent }

def t8Timeout : Result :=
  if s.eimState = .inService then
    if s.suReceived ∧ !s.intervalError then
      let ce := s.ce - c.de
      -- below zero as a signed number
      let ce := if 2 ^ 31 ≤ ce.toNat then 0 else ce
      ⟨{ s with suReceived := false, ce := ce }, [], false⟩
    else
      let s := { s with suReceived := false, ce := s.ce + c.ue }
      if c.te < s.ce then
        if fails .linkFailure then ⟨{ s with ce := s.ce - c.ue }, [], true⟩
        else
          ⟨{ s with eimState := .idle, intervalError := false },
            [.linkFailure], false⟩
      else ⟨{ s with intervalError := false }, [], false⟩
  else ⟨s, [], false⟩

def aermStartReq : Statem :=
  if s.aermState ≠ .inService then
    { s with ca := 0, abortedProving := false, aermState := .inService }
  else s

def aermStopReq : Statem :=
  if s.aermState ≠ .idle then { s with aermState := .idle, ti := c.tin }
  else s

def aermSetTiToTinReq : Statem :=
  if s.aermState = .idle then { s with ti := c.tin } else s

def aermSetTiToTieReq : Statem :=
  if s.aermState = .idle then { s with ti := c.tie } else s

def suermStartReq : Statem :=
  if s.suermState = .idle then
    if c.hsl then s.eimStart else s.suermStart
  else s

def suermStopReq : Statem :=
  if s.suermState ≠ .idle then s.eimStop.suermStop else s

/-- `sdl_disconnect_ind` while both directions are in service. -/
def disconnectInd : Result :=
  if s.suermState = .inService then
    if fails .linkFailure then ⟨s, [], true⟩
    else ⟨{ s with suermState := .idle }, [.linkFailure], false⟩
  else if s.aermState = .inService then
    if fails .abortProving then ⟨s, [], true⟩
    else ⟨{ s with aermState := .idle }, [.abortProving], false⟩
  else ⟨s, [], true⟩

end Statem

namespace Statem

def daedr (c : Config) (error : Bool) (fails : Indication → Bool)
    (s : Statem) : Result :=
  if error then s.daedrSuInError c fails else s.daedrCorrectSu c fails

def bucket (s : Statem) : Bucket := ⟨s.cs.toNat, s.ns.toNat⟩

def poured (c : Config) (error : Bool) (s : Statem) : Bucket × Bool :=
  s.bucket.pour c.t.toNat c.d.toNat error

end Statem

structure Lawful (c : Config) (error : Bool) (s : Statem) (r : Result) :
    Prop where
  restored : r.failed = true → r.statem = s
  bucket : r.failed = false → s.suermState = .inService →
    r.statem.bucket = (s.poured c error).1 ∧
      (r.statem.suermState = .idle ↔ (s.poured c error).2 = true) ∧
      r.sent.count .linkFailure = if (s.poured c error).2 then 1 else 0
  stopped : r.failed = false → s.suermState = .idle →
    r.statem.bucket = s.bucket ∧ r.statem.suermState = .idle ∧
      .linkFailure ∉ r.sent
  counted : r.failed = false →
    r.statem.ca =
      if error ∧ s.aermState = .inService then s.ca + 1 else s.ca

namespace Statem

def LinkFails (c : Config) (s : Statem) : Prop :=
  s.suermState = .inService ∧ c.t ≤ s.cs + 1

def ProvingFails (s : Statem) : Prop :=
  s.aermState = .inService ∧ s.ca + 1 = s.ti

instance (c : Config) (s : Statem) : Decidable (s.LinkFails c) :=
  inferInstanceAs (Decidable (_ ∧ _))

instance (s : Statem) : Decidable s.ProvingFails :=
  inferInstanceAs (Decidable (_ ∧ _))

def SuermStill (c : Config) (error : Bool) (s : Statem) : Prop :=
  s.suermState = .idle ∨ (s.ns = 0 ∧ c.d ≤ 1 ∧ (error ∨ s.cs = 0))

def AsBefore (c : Config) (error : Bool) (fails : Indication → Bool)
    (s : Statem) : Prop :=
  if error then
    if s.LinkFails c then
      fails .linkFailure = false ∧
        (s.ProvingFails → fails .abortProving = false)
    else
      s.ProvingFails → fails .abortProving →
        s.abortedProving ∧ (s.eimState = .idle ∨ s.intervalError) ∧
          s.SuermStill c error
  else
    s.aermState = .idle → s.abortedProving → fails .correctSu →
      (s.eimState = .idle ∨ s.suReceived) ∧ s.SuermStill c error

def Sound (s : Statem) : Prop :=
  s.suermState = .inService →
    s.cs.toNat + 1 < 2 ^ 32 ∧ s.ns.toNat + 1 < 2 ^ 32

section Units

variable {c : Config} {s : Statem} {fails : Indication → Bool}

theorem suermCount_of_last (last : c.d ≤ s.ns + 1) :
    s.suermCount c =
      { s with ns := 0, cs := if s.cs ≠ 0 then s.cs - 1 else s.cs } := by
  unfold suermCount
  exact if_pos last

theorem suermCount_of_more (more : ¬c.d ≤ s.ns + 1) :
    s.suermCount c = { s with ns := s.ns + 1 } := by
  unfold suermCount
  exact if_neg more

theorem toNat_succ {n : UInt32} (room : n.toNat + 1 < 2 ^ 32) :
    (n + 1).toNat = n.toNat + 1 := by
  rw [UInt32.toNat_add, UInt32.toNat_one, Nat.mod_eq_of_lt room]

theorem toNat_lowered (n : UInt32) :
    (if n ≠ 0 then n - 1 else n).toNat = n.toNat - 1 := by
  by_cases none : n = 0
  · rw [if_neg (fun some => some none), none]
    rfl
  · have positive : (1 : UInt32) ≤ n := by
      rw [UInt32.le_iff_toNat_le, UInt32.toNat_one, Nat.one_le_iff_ne_zero]
      exact fun zero => none (UInt32.toNat_inj.mp zero)
    rw [if_pos none, UInt32.toNat_sub_of_le _ _ positive]
    rfl

theorem bucket_suermCount (room : s.ns.toNat + 1 < 2 ^ 32) :
    (s.suermCount c).bucket = s.bucket.count c.d.toNat := by
  have next := toNat_succ room
  by_cases last : c.d ≤ s.ns + 1
  · have reached : c.d.toNat ≤ s.bucket.turn + 1 := by
      rw [UInt32.le_iff_toNat_le, next] at last
      exact last
    rw [suermCount_of_last last]
    unfold Bucket.count
    rw [if_pos reached]
    exact congr (congrArg Bucket.mk (toNat_lowered s.cs)) rfl
  · have below : ¬c.d.toNat ≤ s.bucket.turn + 1 := by
      rw [UInt32.le_iff_toNat_le, next] at last
      exact last
    rw [suermCount_of_more last]
    unfold Bucket.count
    rw [if_neg below]
    exact congrArg (Bucket.mk s.cs.toNat) next

theorem suermCount_eq_self (room : s.ns.toNat + 1 < 2 ^ 32) (level : UInt32) :
    { s with cs := level }.suermCount c = s ↔
      s.ns = 0 ∧ c.d ≤ 1 ∧ (if level ≠ 0 then level - 1 else level) = s.cs := by
  by_cases last : c.d ≤ s.ns + 1
  · rw [suermCount_of_last (s := { s with cs := level }) last,
      Statem.ext_iff]
    simp only [true_and, and_true]
    constructor
    · rintro ⟨lowered, first⟩
      rw [← first, UInt32.zero_add] at last
      exact ⟨first.symm, last, lowered⟩
    · rintro ⟨first, -, lowered⟩
      exact ⟨lowered, first.symm⟩
  · rw [suermCount_of_more (s := { s with cs := level }) last,
      Statem.ext_iff]
    simp only [true_and, and_true]
    constructor
    · rintro ⟨-, still⟩
      rw [← UInt32.toNat_inj, toNat_succ room] at still
      omega
    · rintro ⟨first, once, -⟩
      rw [first, UInt32.zero_add] at last
      exact absurd once last

def counted (c : Config) (error : Bool) (s : Statem) : Statem :=
  let s := if error then s.eimSuInError else s.eimCorrectSu
  if s.suermState = .inService then
    ({ s with cs := if error then s.cs + 1 else s.cs }).suermCount c
  else s

theorem eim_marks (error : Bool) (s : Statem) :
    ∃ received interval,
      (if error then s.eimSuInError else s.eimCorrectSu) =
        { s with suReceived := received, intervalError := interval } ∧
      (received = s.suReceived ∧ interval = s.intervalError ↔
        s.eimState = .idle ∨
          (if error then s.intervalError else s.suReceived) = true) := by
  unfold eimSuInError eimCorrectSu
  by_cases monitoring : s.eimState = .inService
  · have running : s.eimState ≠ .idle := by
      rw [monitoring]
      decide
    simp only [if_pos monitoring]
    cases error with
    | false =>
        refine ⟨true, s.intervalError, rfl, ?_, ?_⟩
        · exact fun kept => .inr kept.1.symm
        · exact fun marked => ⟨(marked.resolve_left running).symm, rfl⟩
    | true =>
        refine ⟨s.suReceived, true, rfl, ?_, ?_⟩
        · exact fun kept => .inr kept.2.symm
        · exact fun marked => ⟨rfl, (marked.resolve_left running).symm⟩
  · have idle := MonitorState.idle_of_not monitoring
    simp only [if_neg monitoring, ite_self]
    exact ⟨s.suReceived, s.intervalError, rfl, fun _ => .inl idle,
      fun _ => ⟨rfl, rfl⟩⟩

theorem suermCount_marks (received interval : Bool) :
    ({ s with suReceived := received, intervalError := interval }).suermCount
        c =
      { s.suermCount c with
        suReceived := received, intervalError := interval } := by
  unfold suermCount
  dsimp only
  split <;> rfl

theorem suermCount_frame (c : Config) (s : Statem) :
    ∃ level turn, s.suermCount c = { s with cs := level, ns := turn } := by
  by_cases last : c.d ≤ s.ns + 1
  · exact ⟨_, _, suermCount_of_last last⟩
  · exact ⟨_, _, suermCount_of_more last⟩

theorem counted_frame (c : Config) (error : Bool) (s : Statem) :
    ∃ received interval level turn,
      s.counted c error =
        { s with
          suReceived := received, intervalError := interval
          cs := level, ns := turn } := by
  obtain ⟨received, interval, marks, -⟩ := eim_marks error s
  refine ⟨received, interval, ?_⟩
  unfold counted
  rw [marks]
  dsimp only
  split
  · obtain ⟨level, turn, frame⟩ := suermCount_frame c
      { s with
        suReceived := received, intervalError := interval
        cs := if error then s.cs + 1 else s.cs }
    exact ⟨level, turn, frame⟩
  · exact ⟨s.cs, s.ns, rfl⟩

theorem relevelled {n : UInt32} {error : Bool} (room : n.toNat + 1 < 2 ^ 32) :
    (if (if error then n + 1 else n) ≠ 0 then (if error then n + 1 else n) - 1
      else (if error then n + 1 else n)) = n ↔ error = true ∨ n = 0 := by
  rw [← UInt32.toNat_inj, toNat_lowered]
  cases error with
  | false =>
      rw [if_neg Bool.false_ne_true, ← UInt32.toNat_inj, UInt32.toNat_zero]
      simp only [Bool.false_eq_true, false_or]
      omega
  | true =>
      rw [if_pos rfl, toNat_succ room]
      simp

theorem counted_eq_self (sound : s.Sound) (error : Bool) :
    s.counted c error = s ↔
      (s.eimState = .idle ∨
        (if error then s.intervalError else s.suReceived) = true) ∧
        s.SuermStill c error := by
  obtain ⟨received, interval, marks, kept⟩ := eim_marks error s
  unfold counted SuermStill
  rw [marks, ← kept]
  dsimp only
  by_cases running : s.suermState = .inService
  · rw [if_pos running]
    have serving : s.suermState ≠ .idle := by
      rw [running]
      decide
    have still := suermCount_eq_self (c := c) (sound running).2
      (if error then s.cs + 1 else s.cs)
    rw [relevelled (sound running).1] at still
    have marked := suermCount_marks (c := c)
      (s := { s with cs := if error then s.cs + 1 else s.cs })
      received interval
    obtain ⟨level, turn, frame⟩ := suermCount_frame c
      { s with cs := if error then s.cs + 1 else s.cs }
    dsimp only at marked frame
    rw [marked]
    constructor
    · intro same
      have received := congrArg suReceived same
      have interval := congrArg intervalError same
      refine ⟨⟨received, interval⟩, .inr (still.mp ?_)⟩
      rw [frame] at same ⊢
      rw [show level = s.cs from congrArg cs same,
        show turn = s.ns from congrArg ns same]
    · rintro ⟨⟨rfl, rfl⟩, quiet⟩
      rw [still.mpr (quiet.resolve_left serving)]
  · rw [if_neg running]
    constructor
    · intro same
      exact ⟨⟨congrArg suReceived same, congrArg intervalError same⟩,
        .inl (MonitorState.idle_of_not running)⟩
    · rintro ⟨⟨rfl, rfl⟩, -⟩
      rfl

theorem bucket_counted (sound : s.Sound) (error : Bool)
    (running : s.suermState = .inService)
    (short : error = true → ¬s.LinkFails c) :
    (s.counted c error).bucket = (s.poured c error).1 ∧
      (s.poured c error).2 = false := by
  obtain ⟨received, interval, marks, -⟩ := eim_marks error s
  obtain ⟨level, turn⟩ := sound running
  unfold counted poured Bucket.pour
  rw [marks]
  dsimp only
  rw [if_pos running, bucket_suermCount (s := {
    s with
    suReceived := received, intervalError := interval
    cs := if error then s.cs + 1 else s.cs }) turn]
  cases error with
  | false => exact ⟨rfl, rfl⟩
  | true =>
      have room : ¬c.t.toNat ≤ s.bucket.level + 1 := by
        intro full
        refine short rfl ⟨running, ?_⟩
        rw [UInt32.le_iff_toNat_le, toNat_succ level]
        exact full
      rw [if_pos rfl, if_neg room]
      refine ⟨?_, rfl⟩
      unfold bucket
      dsimp only
      rw [if_pos rfl, toNat_succ level]

theorem bucket_stopped (error : Bool) (stopped : s.suermState = .idle) :
    (s.counted c error).bucket = s.bucket := by
  obtain ⟨received, interval, marks, -⟩ := eim_marks error s
  unfold counted
  rw [marks]
  dsimp only
  rw [stopped, if_neg (by decide)]
  rfl

theorem daedr_correct (c : Config) (fails : Indication → Bool) (s : Statem) :
    s.daedr c false fails = (s.counted c false).aermCorrectSu fails := rfl

theorem daedr_inError (short : ¬s.LinkFails c) :
    s.daedr c true fails = (s.counted c true).aermSuInError fails := by
  obtain ⟨received, interval, marks, -⟩ := eim_marks true s
  rw [if_pos rfl] at marks
  have counts : s.eimSuInError.suermSuInError c fails =
      ⟨s.counted c true, [], false⟩ := by
    unfold counted suermSuInError
    rw [if_pos rfl, marks]
    dsimp only
    by_cases running : s.suermState = .inService
    · rw [if_pos running, if_pos running,
        if_neg fun full => short ⟨running, full⟩]
      rfl
    · rw [if_neg running, if_neg running]
  unfold daedr daedrSuInError
  rw [if_pos rfl, counts]
  rfl

theorem daedr_refused (full : s.LinkFails c)
    (refused : fails .linkFailure = true) :
    (s.daedr c true fails).failed = true ∧
      (s.daedr c true fails).statem.cs = s.cs + 1 := by
  obtain ⟨received, interval, marks, -⟩ := eim_marks true s
  rw [if_pos rfl] at marks
  unfold daedr daedrSuInError suermSuInError
  rw [if_pos rfl, marks]
  dsimp only
  rw [if_pos full.1, if_pos full.2, if_pos refused]
  exact ⟨rfl, rfl⟩

def overflown (s : Statem) : Statem :=
  { s.eimSuInError with cs := s.cs + 1, suermState := .idle }

theorem daedr_overflown (full : s.LinkFails c)
    (accepted : fails .linkFailure = false) :
    s.daedr c true fails =
      { s.overflown.aermSuInError fails with
        sent := .linkFailure :: (s.overflown.aermSuInError fails).sent } := by
  obtain ⟨received, interval, marks, -⟩ := eim_marks true s
  rw [if_pos rfl] at marks
  unfold daedr daedrSuInError suermSuInError overflown
  rw [if_pos rfl, marks]
  dsimp only
  rw [if_pos full.1, if_pos full.2, accepted]
  rfl

theorem aermSuInError_of_idle (idle : s.aermState = .idle) :
    s.aermSuInError fails = ⟨s, [], false⟩ := by
  unfold aermSuInError
  rw [idle]
  rfl

theorem aermSuInError_of_more (monitoring : s.aermState = .inService)
    (more : ¬s.ca + 1 = s.ti) :
    s.aermSuInError fails = ⟨{ s with ca := s.ca + 1 }, [], false⟩ := by
  unfold aermSuInError
  rw [if_pos monitoring]
  exact if_neg more

theorem aermSuInError_of_refused (proving : s.ProvingFails)
    (refused : fails .abortProving = true) :
    s.aermSuInError fails =
      ⟨{ s with abortedProving := true, ca := s.ca + 1 - 1 }, [], true⟩ := by
  unfold aermSuInError
  rw [if_pos proving.1]
  dsimp only
  rw [if_pos proving.2, if_pos refused]

theorem aermSuInError_of_aborted (proving : s.ProvingFails)
    (accepted : fails .abortProving = false) :
    s.aermSuInError fails =
      ⟨{ s with
          abortedProving := true, ca := s.ca + 1, aermState := .idle },
        [.abortProving], false⟩ := by
  unfold aermSuInError
  rw [if_pos proving.1]
  dsimp only
  rw [if_pos proving.2, accepted]
  rfl

theorem aermSuInError_answered
    (accepted : s.ProvingFails → ¬fails .abortProving = true) :
    (s.aermSuInError fails).failed = false := by
  by_cases monitoring : s.aermState = .inService
  · by_cases reached : s.ca + 1 = s.ti
    · have accepted := accepted ⟨monitoring, reached⟩
      rw [Bool.not_eq_true] at accepted
      rw [aermSuInError_of_aborted ⟨monitoring, reached⟩ accepted]
    · rw [aermSuInError_of_more monitoring reached]
  · rw [aermSuInError_of_idle (MonitorState.idle_of_not monitoring)]

theorem aermSuInError_counted (answered : (s.aermSuInError fails).failed =
      false) :
    (s.aermSuInError fails).statem.bucket = s.bucket ∧
      (s.aermSuInError fails).statem.suermState = s.suermState ∧
      .linkFailure ∉ (s.aermSuInError fails).sent ∧
      (s.aermSuInError fails).statem.ca =
        if s.aermState = .inService then s.ca + 1 else s.ca := by
  by_cases monitoring : s.aermState = .inService
  · by_cases reached : s.ca + 1 = s.ti
    · cases refused : fails .abortProving with
      | true =>
          rw [aermSuInError_of_refused ⟨monitoring, reached⟩ refused] at answered
          cases answered
      | false =>
          rw [aermSuInError_of_aborted ⟨monitoring, reached⟩ refused,
            if_pos monitoring]
          exact ⟨rfl, rfl, by simp, rfl⟩
    · rw [aermSuInError_of_more monitoring reached, if_pos monitoring]
      exact ⟨rfl, rfl, by simp, rfl⟩
  · rw [aermSuInError_of_idle (MonitorState.idle_of_not monitoring),
      if_neg monitoring]
    exact ⟨rfl, rfl, by simp, rfl⟩

theorem lawful_of_counted {error : Bool} {r : Result} (sound : s.Sound)
    (short : error = true → ¬s.LinkFails c) (answered : r.failed = false)
    (bucket : r.statem.bucket = (s.counted c error).bucket)
    (state : r.statem.suermState = s.suermState)
    (quiet : .linkFailure ∉ r.sent)
    (ca : r.statem.ca =
      if error ∧ s.aermState = .inService then s.ca + 1 else s.ca) :
    Lawful c error s r where
  restored := by
    intro failed
    rw [answered] at failed
    cases failed
  bucket := by
    intro _ running
    obtain ⟨poured, room⟩ := bucket_counted sound error running short
    rw [bucket, state, poured, room, running,
      List.count_eq_zero.mpr quiet]
    exact ⟨rfl, by decide, rfl⟩
  stopped := by
    intro _ idle
    rw [bucket, state]
    exact ⟨bucket_stopped error idle, idle, quiet⟩
  counted := fun _ => ca

theorem lawful_correct (sound : s.Sound) :
    Lawful c false s (s.daedr c false fails) ↔ s.AsBefore c false fails := by
  obtain ⟨received, interval, level, turn, frame⟩ := counted_frame c false s
  have still := counted_eq_self (c := c) sound false
  have aerm : (s.counted c false).aermState = s.aermState := by rw [frame]
  have aborted : (s.counted c false).abortedProving = s.abortedProving := by
    rw [frame]
  have state : (s.counted c false).suermState = s.suermState := by rw [frame]
  have ca : (s.counted c false).ca = s.ca := by rw [frame]
  have short : false = true → ¬s.LinkFails c := nofun
  rw [daedr_correct]
  unfold aermCorrectSu AsBefore
  rw [aerm, aborted, if_neg Bool.false_ne_true]
  rw [if_neg Bool.false_ne_true] at still
  by_cases idle : s.aermState = .idle
  · rw [if_pos idle]
    cases due : s.abortedProving with
    | false =>
        rw [if_neg Bool.false_ne_true]
        refine iff_of_true ?_ nofun
        refine lawful_of_counted sound short rfl rfl state (by simp) ?_
        rw [if_neg fun no => nomatch no.1]
        exact ca
    | true =>
        rw [if_pos rfl]
        cases refused : fails .correctSu with
        | false =>
            rw [if_neg Bool.false_ne_true]
            refine iff_of_true ?_ nofun
            refine lawful_of_counted sound short rfl rfl state (by simp) ?_
            rw [if_neg fun no => nomatch no.1]
            exact ca
        | true =>
            rw [if_pos rfl]
            constructor
            · intro lawful _ _ _
              exact still.mp (lawful.restored rfl)
            · intro quiet
              exact ⟨fun _ => still.mpr (quiet idle rfl rfl), nofun, nofun,
                nofun⟩
  · rw [if_neg idle]
    refine iff_of_true ?_ (fun no => absurd no idle)
    refine lawful_of_counted sound short rfl rfl state (by simp) ?_
    rw [if_neg fun no => nomatch no.1]
    exact ca

theorem counted_provingFails (c : Config) (error : Bool) (s : Statem) :
    (s.counted c error).ProvingFails ↔ s.ProvingFails := by
  obtain ⟨received, interval, level, turn, frame⟩ := counted_frame c error s
  rw [frame]
  exact Iff.rfl

theorem lawful_short (sound : s.Sound) (short : ¬s.LinkFails c) :
    Lawful c true s (s.daedr c true fails) ↔ s.AsBefore c true fails := by
  obtain ⟨received, interval, level, turn, frame⟩ := counted_frame c true s
  have still := counted_eq_self (c := c) sound true
  have proves := counted_provingFails c true s
  rw [daedr_inError short]
  unfold AsBefore
  rw [if_pos rfl, if_neg short]
  rw [if_pos rfl] at still
  by_cases refused : s.ProvingFails ∧ fails .abortProving = true
  · obtain ⟨proving, refused⟩ := refused
    rw [aermSuInError_of_refused (proves.mpr proving) refused]
    have same : (⟨{ s.counted c true with
          abortedProving := true, ca := (s.counted c true).ca + 1 - 1 }, [],
          true⟩ : Result).statem = s ↔
        s.abortedProving = true ∧ s.counted c true = s := by
      rw [UInt32.add_sub_cancel]
      constructor
      · intro same
        have aborted := congrArg abortedProving same
        have held : (s.counted c true).abortedProving = true := by
          rw [frame]
          exact aborted.symm
        have kept : { s.counted c true with abortedProving := true } =
            s.counted c true := by
          rw [Statem.ext_iff]
          simp only [held, and_self]
        exact ⟨aborted.symm, kept.symm.trans same⟩
      · rintro ⟨aborted, same⟩
        rw [same, ← aborted]
    constructor
    · intro lawful _ _
      obtain ⟨aborted, same⟩ := same.mp (lawful.restored rfl)
      exact ⟨aborted, still.mp same⟩
    · intro quiet
      obtain ⟨aborted, same'⟩ := quiet proving refused
      exact ⟨fun _ => same.mpr ⟨aborted, still.mpr same'⟩, nofun, nofun,
        nofun⟩
  · have answered : ((s.counted c true).aermSuInError fails).failed =
        false :=
      aermSuInError_answered fun proving yes =>
        refused ⟨proves.mp proving, yes⟩
    obtain ⟨bucket, state, quiet, ca⟩ := aermSuInError_counted answered
    refine iff_of_true ?_ fun proving yes => absurd ⟨proving, yes⟩ refused
    refine lawful_of_counted sound (fun _ => short) answered bucket ?_ quiet ?_
    · rw [state, frame]
    · rw [ca, frame]
      simp only [true_and]

theorem overflown_frame (s : Statem) :
    s.overflown.bucket = ⟨(s.cs + 1).toNat, s.ns.toNat⟩ ∧
      s.overflown.suermState = .idle ∧
      s.overflown.aermState = s.aermState ∧ s.overflown.ca = s.ca ∧
      (s.overflown.ProvingFails ↔ s.ProvingFails) := by
  obtain ⟨received, interval, marks, -⟩ := eim_marks true s
  rw [if_pos rfl] at marks
  unfold overflown
  rw [marks]
  exact ⟨rfl, rfl, rfl, rfl, Iff.rfl⟩

theorem lawful_full (sound : s.Sound) (full : s.LinkFails c) :
    Lawful c true s (s.daedr c true fails) ↔ s.AsBefore c true fails := by
  unfold AsBefore
  rw [if_pos rfl, if_pos full]
  cases refused : fails .linkFailure with
  | true =>
      obtain ⟨failed, level⟩ := daedr_refused full refused
      refine iff_of_false ?_ nofun
      intro lawful
      have same := lawful.restored failed
      rw [same, ← UInt32.toNat_inj, toNat_succ (sound full.1).1] at level
      omega
  | false =>
      obtain ⟨held, state, aerm, ca, proves⟩ := overflown_frame s
      rw [daedr_overflown full refused]
      by_cases aborts : s.ProvingFails ∧ fails .abortProving = true
      · obtain ⟨proving, aborts⟩ := aborts
        rw [aermSuInError_of_refused (proves.mpr proving) aborts]
        refine iff_of_false ?_ ?_
        · intro lawful
          have idle := congrArg suermState (lawful.restored rfl)
          dsimp only at idle
          rw [state, full.1] at idle
          cases idle
        · intro quiet
          rw [quiet.2 proving] at aborts
          cases aborts
      · have answered : (s.overflown.aermSuInError fails).failed = false :=
          aermSuInError_answered fun proving yes =>
            aborts ⟨proves.mp proving, yes⟩
        obtain ⟨held', state', quiet, ca'⟩ := aermSuInError_counted answered
        have poured : s.poured c true =
            (⟨(s.cs + 1).toNat, s.ns.toNat⟩, true) := by
          have reached := UInt32.le_iff_toNat_le.mp full.2
          unfold poured Bucket.pour bucket
          rw [toNat_succ (sound full.1).1] at reached ⊢
          rw [if_pos rfl, if_pos reached]
        refine iff_of_true ?_ ?_
        · refine ⟨?_, ?_, ?_, ?_⟩
          · rw [answered]
            exact nofun
          · intro _ _
            rw [held', held, state', state, poured]
            refine ⟨rfl, iff_of_true rfl rfl, ?_⟩
            rw [List.count_cons_self, List.count_eq_zero.mpr quiet]
            rfl
          · intro _ idle
            rw [full.1] at idle
            cases idle
          · intro _
            rw [ca', aerm, ca]
            simp only [true_and]
        · refine ⟨rfl, fun proving => ?_⟩
          rw [← Bool.not_eq_true]
          exact fun yes => aborts ⟨proving, yes⟩

theorem lawful_iff (sound : s.Sound) (error : Bool) :
    Lawful c error s (s.daedr c error fails) ↔ s.AsBefore c error fails := by
  cases error with
  | false => exact lawful_correct sound
  | true =>
      by_cases full : s.LinkFails c
      · exact lawful_full sound full
      · exact lawful_short sound full

end Units

def opened : Statem :=
  { aermState := .idle, abortedProving := false, ca := 0, ti := 0,
    suermState := .idle, cs := 0, ns := 0, eimState := .idle, ce := 0,
    suReceived := false, intervalError := false }

theorem sound_opened : opened.Sound := by
  intro running
  cases running

end Statem

/-- What can happen to the monitors; `fails` says of an indication whether it
finds no buffer. -/
inductive Event where
  | su (error : Bool) (fails : Indication → Bool)
  | aermStart
  | aermStop
  | aermSetTiToTin
  | aermSetTiToTie
  | suermStart
  | suermStop
  | t8Timeout (fails : Indication → Bool)
  | disconnect (fails : Indication → Bool)
  | configure (config : Config)

structure Monitors where
  config : Config
  statem : Statem
deriving DecidableEq

namespace Monitors

def step (m : Monitors) : Event → Monitors
  | .su error fails =>
      { m with statem := (m.statem.daedr m.config error fails).statem }
  | .aermStart => { m with statem := m.statem.aermStartReq }
  | .aermStop => { m with statem := m.statem.aermStopReq m.config }
  | .aermSetTiToTin => { m with statem := m.statem.aermSetTiToTinReq m.config }
  | .aermSetTiToTie => { m with statem := m.statem.aermSetTiToTieReq m.config }
  | .suermStart => { m with statem := m.statem.suermStartReq m.config }
  | .suermStop => { m with statem := m.statem.suermStopReq }
  | .t8Timeout fails =>
      { m with statem := (m.statem.t8Timeout m.config fails).statem }
  | .disconnect fails =>
      { m with statem := (m.statem.disconnectInd fails).statem }
  | .configure config => { m with config := config }

def run (m : Monitors) (events : List Event) : Monitors := events.foldl step m

def Exact (m : Monitors) : List Event → Prop
  | [] => True
  | .su error fails :: rest =>
      Lawful m.config error m.statem
          (m.statem.daedr m.config error fails) ∧
        Exact (m.step (.su error fails)) rest
  | e :: rest => Exact (m.step e) rest

def Restored (m : Monitors) : List Event → Prop
  | [] => True
  | .su error fails :: rest =>
      m.statem.AsBefore m.config error fails ∧
        Restored (m.step (.su error fails)) rest
  | e :: rest => Restored (m.step e) rest

end Monitors

namespace Statem

variable {c : Config} {s : Statem} {fails : Indication → Bool}

theorem sound_of_same {s' : Statem} (sound : s.Sound)
    (state : s'.suermState = .inService → s.suermState = .inService)
    (cs : s'.cs = s.cs) (ns : s'.ns = s.ns) : s'.Sound := by
  intro running
  rw [cs, ns]
  exact sound (state running)

theorem sound_daedr {error : Bool} (sound : s.Sound)
    (lawful : Lawful c error s (s.daedr c error fails)) :
    (s.daedr c error fails).statem.Sound := by
  cases failed : (s.daedr c error fails).failed with
  | true =>
      rw [lawful.restored failed]
      exact sound
  | false =>
      intro running
      by_cases serving : s.suermState = .inService
      · obtain ⟨bucket, full, -⟩ := lawful.bucket failed serving
        have short : (s.poured c error).2 = false := by
          rw [← Bool.not_eq_true, ← full, running]
          decide
        have level := Bucket.level_pour short
        have small : (0 : Nat) < 2 ^ 32 - 1 := by decide
        have turn := Bucket.turn_pour short small
          (Nat.le_sub_one_of_lt c.d.toNat_lt)
        have threshold := c.t.toNat_lt
        have before := (sound serving).1
        rw [show (s.bucket.pour c.t.toNat c.d.toNat error).1 =
          (s.poured c error).1 from rfl, ← bucket] at level turn
        unfold Statem.bucket at level turn
        dsimp only at level turn
        omega
      · obtain ⟨-, idle, -⟩ := lawful.stopped failed
          (MonitorState.idle_of_not serving)
        rw [running] at idle
        cases idle

end Statem

namespace Monitors

theorem sound_step {m : Monitors} {e : Event} (sound : m.statem.Sound)
    (lawful : ∀ error fails, e = .su error fails →
      Lawful m.config error m.statem (m.statem.daedr m.config error fails)) :
    (m.step e).statem.Sound := by
  cases e with
  | su error fails => exact Statem.sound_daedr sound (lawful error fails rfl)
  | aermStart =>
      unfold step Statem.aermStartReq
      dsimp only
      split
      · exact sound
      · exact sound
  | aermStop =>
      unfold step Statem.aermStopReq
      dsimp only
      split
      · exact sound
      · exact sound
  | aermSetTiToTin =>
      unfold step Statem.aermSetTiToTinReq
      dsimp only
      split
      · exact sound
      · exact sound
  | aermSetTiToTie =>
      unfold step Statem.aermSetTiToTieReq
      dsimp only
      split
      · exact sound
      · exact sound
  | suermStart =>
      unfold step Statem.suermStartReq
      dsimp only
      split
      · split
        · exact sound
        · intro _
          exact ⟨Nat.one_lt_two_pow (by decide), Nat.one_lt_two_pow (by decide)⟩
      · exact sound
  | suermStop =>
      unfold step Statem.suermStopReq
      dsimp only
      split
      · exact nofun
      · exact sound
  | t8Timeout fails =>
      refine Statem.sound_of_same sound ?_ ?_ ?_
      all_goals
        unfold step Statem.t8Timeout
        dsimp only
        split_ifs
      all_goals first | rfl | exact id
  | disconnect fails =>
      unfold step Statem.disconnectInd
      dsimp only
      split_ifs
      · exact sound
      · exact nofun
      · exact sound
      · exact sound
      · exact sound
  | configure config => exact sound

theorem exact_iff {m : Monitors} (sound : m.statem.Sound)
    (events : List Event) : m.Exact events ↔ m.Restored events := by
  induction events generalizing m with
  | nil => exact Iff.rfl
  | cons e rest ih =>
      cases e with
      | su error fails =>
          have lawful : Lawful m.config error m.statem
              (m.statem.daedr m.config error fails) ↔
              m.statem.AsBefore m.config error fails :=
            Statem.lawful_iff sound error
          constructor
          · rintro ⟨here, later⟩
            exact ⟨lawful.mp here,
              (ih (Statem.sound_daedr sound here)).mp later⟩
          · rintro ⟨here, later⟩
            have here := lawful.mpr here
            exact ⟨here, (ih (Statem.sound_daedr sound here)).mpr later⟩
      | _ =>
          refine ih (sound_step sound ?_)
          intro _ _ no
          cases no

/-- From the opening of the module on, the monitors are exact in the runs in
which what fails finds the fields as it leaves them. -/
theorem monitors_exact (config : Config) (events : List Event) :
    Exact ⟨config, Statem.opened⟩ events ↔
      Restored ⟨config, Statem.opened⟩ events :=
  exact_iff Statem.sound_opened events

/-- `sdt_default` -/
def defaults : Config :=
  { tin := 4, tie := 1, t := 64, d := 256, te := 577169, de := 9308,
    ue := 144292, hsl := false }

def outage : List Event :=
  .suermStart :: List.replicate 63 (.su true fun _ => false)

theorem refused_failure_miscounts :
    ((run ⟨defaults, Statem.opened⟩ outage).statem.cs = 63 ∧
      (run ⟨defaults, Statem.opened⟩ outage).statem.ca = 0) ∧
      ((run ⟨defaults, Statem.opened⟩
            (outage ++ [.su true fun _ => true])).statem.cs = 64 ∧
        (run ⟨defaults, Statem.opened⟩
            (outage ++ [.su true fun _ => true])).statem.ca = 2 ^ 32 - 1) ∧
      ¬Exact (run ⟨defaults, Statem.opened⟩ outage)
        [.su true fun _ => true] := by
  refine ⟨by decide +kernel, by decide +kernel, ?_⟩
  rintro ⟨here, -⟩
  have same := here.restored (by decide +kernel)
  exact absurd (congrArg Statem.cs same) (by decide +kernel)

end Monitors

end OpenSS7.Sdt
