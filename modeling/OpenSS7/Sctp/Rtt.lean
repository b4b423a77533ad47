import Mathlib.Data.Finset.Max
import Mathlib.Data.UInt
import Mathlib.Data.List.Infix
import Mathlib.Tactic.SplitIfs

/-!
The round trip times of a destination: what a sample does to the smoothed time,
to its variance and to the retransmission timeout.
-/

namespace OpenSS7.Sctp

/-- The fields of a destination, and of its association, that a round trip
sample reads or writes. `idle` is what the idle timer was last set to. -/
structure Timing where
  rtoMin : UInt64
  rtoMax : UInt64
  rto : UInt64
  rttvar : UInt64
  srtt : UInt64
  hbItvl : UInt64
  when : UInt64
  dups : Nat
  retransmits : Nat
  spRetransmits : Nat
  heartbeat : Bool
  idle : UInt64
deriving DecidableEq

namespace Timing

def resetIdle (sd : Timing) (jiffies : UInt64) : Timing :=
  { sd with
    heartbeat := false
    idle := sd.rto + sd.hbItvl + (jiffies &&& (1 : UInt64)) * (sd.rto >>> 1) }

def rttCalc (sd : Timing) (jiffies time : UInt64) : Timing :=
  if time ≤ jiffies then
    let rtt := jiffies - time
    let sd :=
      if sd.srtt ≠ 0 then
        let (rttvar, srtt) :=
          if sd.srtt < rtt then
            (rtt - sd.srtt, sd.srtt + ((rtt - sd.srtt) >>> 3))
          else
            -- the falling sample is added, too
            (sd.srtt - rtt, sd.srtt + ((sd.srtt - rtt) >>> 3))
        let rttvar :=
          if sd.rttvar < rttvar then
            sd.rttvar + ((rttvar - sd.rttvar) >>> 2)
          else sd.rttvar + ((sd.rttvar - rttvar) >>> 2)
        { sd with
          rttvar := rttvar, srtt := srtt, rto := srtt + (rttvar <<< 2) }
      else
        { sd with
          rttvar := rtt >>> 1, srtt := rtt, rto := rtt + (rtt <<< 1) }
    let sd := { sd with rttvar := if sd.rttvar ≠ 0 then sd.rttvar else 1 }
    let sd :=
      { sd with rto := if sd.rto < sd.rtoMin then sd.rtoMin else sd.rto }
    let sd :=
      { sd with rto := if sd.rtoMax < sd.rto then sd.rtoMax else sd.rto }
    resetIdle { sd with dups := 0, retransmits := 0, spRetransmits := 0 }
      jiffies
  else sd

end Timing

/-- What asks for a sample: the acknowledgement of a control chunk or of a
heartbeat, or `sctp_dest_calc`, whose sample is of the latest chunk that was
acknowledged on its first transmission. -/
inductive Measure where
  | ack (jiffies time : UInt64)
  | acked (time : UInt64)
  | dest (jiffies : UInt64)
deriving DecidableEq

namespace Timing

def measure (sd : Timing) : Measure → Timing
  | .ack jiffies time => sd.rttCalc jiffies time
  | .acked time =>
      { sd with when := if time < sd.when then sd.when else time }
  | .dest jiffies =>
      if sd.when ≠ 0 then { sd.rttCalc jiffies sd.when with when := 0 }
      else sd

def sample (sd : Timing) : Measure → Option UInt64
  | .ack jiffies time => if time ≤ jiffies then some (jiffies - time) else none
  | .acked _ => none
  | .dest jiffies =>
      if sd.when ≠ 0 ∧ sd.when ≤ jiffies then some (jiffies - sd.when)
      else none

def run (sd : Timing) (measures : List Measure) : Timing :=
  measures.foldl measure sd

def samples (sd : Timing) : List Measure → List UInt64
  | [] => []
  | m :: rest => (sd.sample m).toList ++ (sd.measure m).samples rest

def drawn (shift old new : UInt64) : UInt64 :=
  if old < new then old + ((new - old) >>> shift)
  else old + ((old - new) >>> shift)

def gap (a b : UInt64) : UInt64 := if a < b then b - a else a - b

theorem rttCalc_of_measured (sd : Timing) {jiffies time : UInt64}
    (past : time ≤ jiffies) (measured : sd.srtt ≠ 0) :
    (sd.rttCalc jiffies time).srtt = drawn 3 sd.srtt (jiffies - time) ∧
      (sd.rttCalc jiffies time).rttvar =
        let rttvar := drawn 2 sd.rttvar (gap sd.srtt (jiffies - time))
        if rttvar ≠ 0 then rttvar else 1 := by
  unfold rttCalc resetIdle drawn gap
  rw [if_pos past]
  dsimp only
  rw [if_pos measured]
  by_cases rising : sd.srtt < jiffies - time
  · simp only [if_pos rising, and_self]
  · simp only [if_neg rising, and_self]

theorem rttCalc_of_first (sd : Timing) {jiffies time : UInt64}
    (past : time ≤ jiffies) (first : sd.srtt = 0) :
    (sd.rttCalc jiffies time).srtt = jiffies - time ∧
      (sd.rttCalc jiffies time).rttvar =
        if (jiffies - time) >>> 1 ≠ 0 then (jiffies - time) >>> 1 else 1 := by
  unfold rttCalc resetIdle
  rw [if_pos past]
  simp only [first, ne_eq, not_true_eq_false, if_false, and_self]

theorem rttCalc_of_early (sd : Timing) {jiffies time : UInt64}
    (early : ¬time ≤ jiffies) : sd.rttCalc jiffies time = sd := by
  unfold rttCalc
  rw [if_neg early]

theorem rttCalc_bounds (sd : Timing) (jiffies time : UInt64) :
    (sd.rttCalc jiffies time).rtoMin = sd.rtoMin ∧
      (sd.rttCalc jiffies time).rtoMax = sd.rtoMax := by
  unfold rttCalc resetIdle
  split
  · dsimp only
    split
    · exact ⟨rfl, rfl⟩
    · exact ⟨rfl, rfl⟩
  · exact ⟨rfl, rfl⟩

theorem rttCalc_rto (sd : Timing) {jiffies time : UInt64}
    (past : time ≤ jiffies) (ordered : sd.rtoMin ≤ sd.rtoMax) :
    sd.rtoMin ≤ (sd.rttCalc jiffies time).rto ∧
      (sd.rttCalc jiffies time).rto ≤ sd.rtoMax := by
  unfold rttCalc resetIdle
  rw [if_pos past]
  dsimp only
  have clamped (rto : UInt64) :
      let raised := if rto < sd.rtoMin then sd.rtoMin else rto
      let rto := if sd.rtoMax < raised then sd.rtoMax else raised
      sd.rtoMin ≤ rto ∧ rto ≤ sd.rtoMax := by
    dsimp only
    simp only [UInt64.le_iff_toNat_le] at ordered ⊢
    split_ifs with low high high
    all_goals
      simp only [UInt64.lt_iff_toNat_lt] at *
      omega
  by_cases measured : sd.srtt ≠ 0
  · simp only [if_pos measured]
    exact clamped _
  · simp only [if_neg measured]
    exact clamped _

end Timing

def Between (value a b : UInt64) : Prop :=
  (a ≤ value ∧ value ≤ b) ∨ (b ≤ value ∧ value ≤ a)

/-- A new value that `drawn` moves towards: it is above the old one, or so near
below it that nothing is added, or what is added takes the sum round. -/
def Approached (shift : Nat) (old new : UInt64) : Prop :=
  old < new ∨ old.toNat - new.toNat < 2 ^ shift ∨
    2 ^ 64 ≤
      old.toNat - new.toNat + (old.toNat - new.toNat) / 2 ^ shift

instance (value a b : UInt64) : Decidable (Between value a b) :=
  inferInstanceAs (Decidable (_ ∨ _))

instance (shift : Nat) (old new : UInt64) :
    Decidable (Approached shift old new) :=
  inferInstanceAs (Decidable (_ ∨ _))

theorem between_iff {value a b : UInt64} :
    Between value a b ↔
      (a.toNat ≤ value.toNat ∧ value.toNat ≤ b.toNat) ∨
        (b.toNat ≤ value.toNat ∧ value.toNat ≤ a.toNat) :=
  Iff.rfl

theorem Between.within {value a b low high : UInt64}
    (between : Between value a b) (lowA : low ≤ a) (lowB : low ≤ b)
    (highA : a ≤ high) (highB : b ≤ high) : low ≤ value ∧ value ≤ high := by
  rcases between with ⟨above, below⟩ | ⟨above, below⟩
  · exact ⟨UInt64.le_trans lowA above, UInt64.le_trans below highB⟩
  · exact ⟨UInt64.le_trans lowB above, UInt64.le_trans below highA⟩

namespace Timing

theorem toNat_gap (a b : UInt64) :
    (gap a b).toNat = (a.toNat - b.toNat) + (b.toNat - a.toNat) := by
  unfold gap
  split
  next below =>
    have below := UInt64.lt_iff_toNat_lt.mp below
    rw [UInt64.toNat_sub_of_le _ _
      (UInt64.le_iff_toNat_le.mpr (Nat.le_of_lt below))]
    omega
  next above =>
    have above := UInt64.not_lt.mp above
    rw [UInt64.toNat_sub_of_le _ _ above]
    have above := UInt64.le_iff_toNat_le.mp above
    omega

theorem toNat_drawn (shift : UInt64) (old new : UInt64) :
    (drawn shift old new).toNat =
      (old.toNat + (gap old new).toNat / 2 ^ (shift.toNat % 64)) %
        2 ^ 64 := by
  unfold drawn gap
  split
  · rw [UInt64.toNat_add, UInt64.toNat_shiftRight, Nat.shiftRight_eq_div_pow]
  · rw [UInt64.toNat_add, UInt64.toNat_shiftRight, Nat.shiftRight_eq_div_pow]

theorem drawn_between (shift old new : UInt64) :
    Between (drawn shift old new) old new ↔
      Approached (shift.toNat % 64) old new := by
  rw [between_iff, toNat_drawn, toNat_gap, Approached,
    UInt64.lt_iff_toNat_lt]
  have bounded := old.toNat_lt
  have newBounded := new.toNat_lt
  have positive : 0 < 2 ^ (shift.toNat % 64) := Nat.two_pow_pos _
  generalize 2 ^ (shift.toNat % 64) = weight at *
  generalize old.toNat = old at *
  generalize new.toNat = new at *
  rcases Nat.lt_or_ge old new with rising | falling
  · have part := Nat.div_le_self (new - old) weight
    rw [Nat.sub_eq_zero_of_le (Nat.le_of_lt rising), Nat.zero_add]
    generalize (new - old) / weight = added at *
    rw [Nat.mod_eq_of_lt (by omega)]
    exact ⟨fun _ => .inl rising, fun _ => .inl (by omega)⟩
  · have part := Nat.div_le_self (old - new) weight
    have nothing := Nat.div_eq_zero_iff (a := old - new) (b := weight)
    rw [Nat.sub_eq_zero_of_le falling, Nat.add_zero]
    generalize (old - new) / weight = added at *
    rcases Nat.lt_or_ge (old + added) (2 ^ 64) with fits | wraps
    · rw [Nat.mod_eq_of_lt fits]
      omega
    · rw [Nat.mod_eq_sub_mod wraps, Nat.mod_eq_of_lt (by omega)]
      omega

end Timing

structure Averaged (sd sd' : Timing) (rtt : UInt64) : Prop where
  srtt : Between sd'.srtt sd.srtt rtt
  rttvar : sd'.rttvar = 1 ∨
    Between sd'.rttvar sd.rttvar (Timing.gap sd.srtt rtt)

def Settles (rttvar deviation : UInt64) : Prop :=
  Approached 2 rttvar deviation ∨
    (2 ^ 64 ≤ rttvar.toNat + (rttvar.toNat - deviation.toNat) / 4 ∧
      rttvar.toNat + (rttvar.toNat - deviation.toNat) / 4 ≤ 2 ^ 64 + 1)

def Level (sd : Timing) (rtt : UInt64) : Prop :=
  if sd.srtt = 0 then rtt.toNat / 2 ≤ 1 ∨ sd.rttvar.toNat ≤ rtt.toNat / 2
  else Approached 3 sd.srtt rtt ∧ Settles sd.rttvar (Timing.gap sd.srtt rtt)

instance (rttvar deviation : UInt64) :
    Decidable (Settles rttvar deviation) :=
  inferInstanceAs (Decidable (_ ∨ _))

instance (sd : Timing) (rtt : UInt64) : Decidable (Level sd rtt) :=
  if first : sd.srtt = 0 then
    decidable_of_iff _ (iff_of_eq (if_pos first)).symm
  else decidable_of_iff _ (iff_of_eq (if_neg first)).symm

namespace Timing

theorem drawn_rttvar (rttvar deviation : UInt64) :
    ((if drawn 2 rttvar deviation ≠ 0 then drawn 2 rttvar deviation else 1) = 1
      ∨ Between
        (if drawn 2 rttvar deviation ≠ 0 then drawn 2 rttvar deviation else 1)
        rttvar deviation) ↔ Settles rttvar deviation := by
  have approached := drawn_between 2 rttvar deviation
  rw [show (2 : UInt64).toNat % 64 = 2 from rfl] at approached
  have value := toNat_drawn 2 rttvar deviation
  rw [toNat_gap, show (2 : UInt64).toNat % 64 = 2 from rfl] at value
  have few : drawn 2 rttvar deviation = 0 ∨ drawn 2 rttvar deviation = 1 ↔
      (drawn 2 rttvar deviation).toNat ≤ 1 := by
    rw [← UInt64.toNat_inj, ← UInt64.toNat_inj, UInt64.toNat_zero,
      UInt64.toNat_one]
    omega
  have settles : (drawn 2 rttvar deviation).toNat ≤ 1 →
      Settles rttvar deviation := by
    intro low
    rw [value] at low
    unfold Settles Approached
    rw [UInt64.lt_iff_toNat_lt]
    have := rttvar.toNat_lt
    have := deviation.toNat_lt
    omega
  have wraps : 2 ^ 64 ≤
        rttvar.toNat + (rttvar.toNat - deviation.toNat) / 4 →
      rttvar.toNat + (rttvar.toNat - deviation.toNat) / 4 ≤ 2 ^ 64 + 1 →
      (drawn 2 rttvar deviation).toNat ≤ 1 := by
    intro above below
    rw [value]
    have := rttvar.toNat_lt
    have := deviation.toNat_lt
    omega
  constructor
  · intro drew
    by_cases zero : drawn 2 rttvar deviation = 0
    · exact settles (few.mp (.inl zero))
    · rw [if_pos zero] at drew
      rcases drew with one | between
      · exact settles (few.mp (.inr one))
      · exact .inl (approached.mp between)
  · intro settled
    by_cases zero : drawn 2 rttvar deviation = 0
    · rw [if_neg (not_not.mpr zero)]
      exact .inl rfl
    · rw [if_pos zero]
      rcases settled with near | ⟨above, below⟩
      · exact .inr (approached.mpr near)
      · exact .inl ((few.mpr (wraps above below)).resolve_left zero)

theorem first_rttvar (rttvar rtt : UInt64) :
    ((if rtt >>> 1 ≠ 0 then rtt >>> 1 else 1) = 1 ∨
      Between (if rtt >>> 1 ≠ 0 then rtt >>> 1 else 1) rttvar (gap 0 rtt)) ↔
      rtt.toNat / 2 ≤ 1 ∨ rttvar.toNat ≤ rtt.toNat / 2 := by
  have half : (rtt >>> 1).toNat = rtt.toNat / 2 := by
    rw [UInt64.toNat_shiftRight, Nat.shiftRight_eq_div_pow,
      show (1 : UInt64).toNat % 64 = 1 from rfl, Nat.pow_one]
  have whole : (gap 0 rtt).toNat = rtt.toNat := by
    rw [toNat_gap, UInt64.toNat_zero, Nat.zero_sub, Nat.sub_zero,
      Nat.zero_add]
  by_cases zero : rtt >>> 1 = 0
  · rw [if_neg (not_not.mpr zero)]
    rw [← UInt64.toNat_inj, half, UInt64.toNat_zero] at zero
    exact ⟨fun _ => .inl (by omega), fun _ => .inl rfl⟩
  · rw [if_pos zero, between_iff, half, whole, ← UInt64.toNat_inj, half,
      UInt64.toNat_one]
    rw [← UInt64.toNat_inj, half, UInt64.toNat_zero] at zero
    omega

theorem averaged_iff_level (sd : Timing) {jiffies time : UInt64}
    (past : time ≤ jiffies) :
    Averaged sd (sd.rttCalc jiffies time) (jiffies - time) ↔
      Level sd (jiffies - time) := by
  by_cases measured : sd.srtt = 0
  · obtain ⟨srtt, rttvar⟩ := sd.rttCalc_of_first past measured
    unfold Level
    rw [if_pos measured, ← first_rttvar sd.rttvar (jiffies - time)]
    constructor
    · rintro ⟨-, drawn⟩
      rw [rttvar, measured] at drawn
      exact drawn
    · intro drawn
      refine ⟨?_, ?_⟩
      · rw [srtt, measured]
        exact .inl ⟨UInt64.zero_le, UInt64.le_refl _⟩
      · rw [rttvar, measured]
        exact drawn
  · obtain ⟨srtt, rttvar⟩ := sd.rttCalc_of_measured past measured
    unfold Level
    rw [if_neg measured, ← drawn_rttvar]
    have approached := drawn_between 3 sd.srtt (jiffies - time)
    rw [show (3 : UInt64).toNat % 64 = 3 from rfl] at approached
    rw [← approached]
    constructor
    · rintro ⟨between, drawn⟩
      rw [srtt] at between
      rw [rttvar] at drawn
      exact ⟨between, drawn⟩
    · rintro ⟨between, drawn⟩
      rw [← srtt] at between
      refine ⟨between, ?_⟩
      rw [rttvar]
      exact drawn

def EveryStep (holds : Timing → Timing → UInt64 → Prop) (sd : Timing) :
    List Measure → Prop
  | [] => True
  | m :: rest =>
      (∀ rtt ∈ sd.sample m, holds sd (sd.measure m) rtt) ∧
        EveryStep holds (sd.measure m) rest

theorem measure_of_sample {sd : Timing} {m : Measure} {rtt : UInt64}
    (taken : rtt ∈ sd.sample m) :
    ∃ jiffies time, time ≤ jiffies ∧ rtt = jiffies - time ∧
      (sd.measure m).srtt = (sd.rttCalc jiffies time).srtt ∧
      (sd.measure m).rttvar = (sd.rttCalc jiffies time).rttvar ∧
      (sd.measure m).rto = (sd.rttCalc jiffies time).rto := by
  cases m with
  | ack jiffies time =>
      simp only [sample] at taken
      split at taken
      next past =>
        cases taken
        exact ⟨jiffies, time, past, rfl, rfl, rfl, rfl⟩
      next => cases taken
  | acked time => cases taken
  | dest jiffies =>
      simp only [sample] at taken
      split at taken
      next due =>
        cases taken
        refine ⟨jiffies, sd.when, due.2, rfl, ?_⟩
        simp only [measure, if_pos due.1, and_self]
      next => cases taken

theorem measure_without_sample {sd : Timing} {m : Measure}
    (none : sd.sample m = none) : (sd.measure m).srtt = sd.srtt := by
  cases m with
  | ack jiffies time =>
      simp only [sample] at none
      split at none
      next => cases none
      next early => rw [measure, rttCalc_of_early sd early]
  | acked time => rfl
  | dest jiffies =>
      simp only [sample] at none
      split at none
      next => cases none
      next undue =>
        unfold measure
        dsimp only
        split
        next marked =>
          rw [rttCalc_of_early sd fun past => undue ⟨marked, past⟩]
        next => rfl

theorem measure_bounds (sd : Timing) (m : Measure) :
    (sd.measure m).rtoMin = sd.rtoMin ∧ (sd.measure m).rtoMax = sd.rtoMax := by
  cases m with
  | ack jiffies time => exact sd.rttCalc_bounds jiffies time
  | acked time => exact ⟨rfl, rfl⟩
  | dest jiffies =>
      unfold measure
      dsimp only
      split
      · exact sd.rttCalc_bounds jiffies sd.when
      · exact ⟨rfl, rfl⟩

theorem measured_iff_level {sd : Timing} {m : Measure} {rtt : UInt64}
    (taken : rtt ∈ sd.sample m) :
    Averaged sd (sd.measure m) rtt ↔ Level sd rtt := by
  obtain ⟨jiffies, time, past, rfl, srtt, rttvar, -⟩ :=
    measure_of_sample taken
  rw [← averaged_iff_level sd past]
  constructor
  · rintro ⟨between, drawn⟩
    exact ⟨srtt ▸ between, rttvar ▸ drawn⟩
  · rintro ⟨between, drawn⟩
    exact ⟨srtt ▸ between, rttvar ▸ drawn⟩

theorem everyStep_iff {first second : Timing → Timing → UInt64 → Prop}
    (agree : ∀ {sd : Timing} {m : Measure} {rtt : UInt64},
      rtt ∈ sd.sample m →
        (first sd (sd.measure m) rtt ↔ second sd (sd.measure m) rtt))
    (sd : Timing) (measures : List Measure) :
    sd.EveryStep first measures ↔ sd.EveryStep second measures := by
  induction measures generalizing sd with
  | nil => exact Iff.rfl
  | cons m rest ih =>
      refine and_congr ?_ (ih (sd.measure m))
      exact forall_congr' fun rtt => forall_congr' fun taken => agree taken

theorem EveryStep.take {holds : Timing → Timing → UInt64 → Prop}
    {sd : Timing} {taken rest : List Measure}
    (every : sd.EveryStep holds (taken ++ rest)) :
    sd.EveryStep holds taken := by
  induction taken generalizing sd with
  | nil => exact True.intro
  | cons m taken ih => exact ⟨every.1, ih every.2⟩

theorem EveryStep.spanned {sd : Timing} {measures : List Measure}
    (every : sd.EveryStep Averaged measures) :
    ∃ low ∈ sd.srtt :: sd.samples measures,
      ∃ high ∈ sd.srtt :: sd.samples measures,
        low ≤ (sd.run measures).srtt ∧ (sd.run measures).srtt ≤ high := by
  suffices bounded : ∀ low high : UInt64,
      (∀ rtt ∈ sd.srtt :: sd.samples measures, low ≤ rtt ∧ rtt ≤ high) →
      low ≤ (sd.run measures).srtt ∧ (sd.run measures).srtt ≤ high by
    have some : (sd.srtt :: sd.samples measures).toFinset.Nonempty :=
      ⟨sd.srtt, List.mem_toFinset.mpr List.mem_cons_self⟩
    obtain ⟨low, lowHeld, lowest⟩ :=
      Finset.exists_min_image _ UInt64.toNat some
    obtain ⟨high, highHeld, highest⟩ :=
      Finset.exists_max_image _ UInt64.toNat some
    exact ⟨low, List.mem_toFinset.mp lowHeld, high,
      List.mem_toFinset.mp highHeld, bounded low high fun rtt held =>
        ⟨lowest rtt (List.mem_toFinset.mpr held),
          highest rtt (List.mem_toFinset.mpr held)⟩⟩
  intro low high within
  induction measures generalizing sd with
  | nil => exact within sd.srtt List.mem_cons_self
  | cons m rest ih =>
      refine ih every.2 ?_
      have here := within sd.srtt List.mem_cons_self
      intro rtt held
      rcases List.mem_cons.mp held with rfl | later
      · cases taken : sd.sample m with
        | none =>
            rw [measure_without_sample taken]
            exact here
        | some rtt =>
            have sampled := within rtt (List.mem_cons_of_mem _
              (List.mem_append_left _ (by simp [taken])))
            exact (every.1 rtt (by simp [taken])).srtt.within here.1
              sampled.1 here.2 sampled.2
      · exact within rtt (List.mem_cons_of_mem _
          (List.mem_append_right _ later))

theorem rto_bounded (sd : Timing) (measures : List Measure)
    (ordered : sd.rtoMin ≤ sd.rtoMax) :
    sd.EveryStep
      (fun _ sd' _ => sd.rtoMin ≤ sd'.rto ∧ sd'.rto ≤ sd.rtoMax)
      measures := by
  induction measures generalizing sd with
  | nil => exact True.intro
  | cons m rest ih =>
      obtain ⟨low, high⟩ := sd.measure_bounds m
      refine ⟨?_, ?_⟩
      · intro rtt taken
        obtain ⟨jiffies, time, past, -, -, -, rto⟩ := measure_of_sample taken
        rw [rto]
        exact sd.rttCalc_rto past ordered
      · rw [← low, ← high]
        exact ih (sd.measure m) (by rw [low, high]; exact ordered)

/-- The estimates are averages of what is measured in the runs in which every
sample is level, and the timeout keeps to its bounds in all of them. -/
theorem averages_iff_level (sd : Timing) (measures : List Measure) :
    (sd.EveryStep Averaged measures ∧
      (∀ taken, taken <+: measures →
        ∃ low ∈ sd.srtt :: sd.samples taken,
          ∃ high ∈ sd.srtt :: sd.samples taken,
            low ≤ (sd.run taken).srtt ∧ (sd.run taken).srtt ≤ high) ∧
      (sd.rtoMin ≤ sd.rtoMax →
        sd.EveryStep
          (fun _ sd' _ => sd.rtoMin ≤ sd'.rto ∧ sd'.rto ≤ sd.rtoMax)
          measures)) ↔
      sd.EveryStep (fun sd _ rtt => Level sd rtt) measures := by
  have level : sd.EveryStep Averaged measures ↔
      sd.EveryStep (fun sd _ rtt => Level sd rtt) measures :=
    everyStep_iff (fun taken => measured_iff_level taken) sd measures
  constructor
  · rintro ⟨averaged, -, -⟩
    exact level.mp averaged
  · intro even
    have averaged := level.mpr even
    refine ⟨averaged, ?_, sd.rto_bounded measures⟩
    rintro taken ⟨rest, rfl⟩
    exact averaged.take.spanned

end Timing

def measuredTiming : Timing :=
  { rtoMin := 100, rtoMax := 6000, rto := 300, rttvar := 50, srtt := 100,
    hbItvl := 3000, when := 0, dups := 0, retransmits := 0,
    spRetransmits := 0, heartbeat := false, idle := 0 }

theorem short_trip_raises_srtt :
    measuredTiming.srtt ≠ 0 ∧
      (measuredTiming.run [.ack 1020 1000]).srtt = 110 ∧
      ¬measuredTiming.EveryStep Averaged [.ack 1020 1000] ∧
      ¬∃ high ∈ measuredTiming.srtt :: measuredTiming.samples
          [.ack 1020 1000],
        (measuredTiming.run [.ack 1020 1000]).srtt ≤ high := by
  have raised : (measuredTiming.run [.ack 1020 1000]).srtt = 110 := by decide
  refine ⟨by decide, raised, ?_, ?_⟩
  · intro averaged
    have between := (averaged.1 20 (by decide)).srtt
    exact absurd between (by decide)
  · rw [raised]
    decide

end OpenSS7.Sctp
