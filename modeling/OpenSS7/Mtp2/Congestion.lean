import Mathlib.Data.List.Induction
import Mathlib.Tactic.SplitIfs
import OpenSS7.Mtp2.Transmission

/-!
Transmit congestion: how far the status that `sl_check_congestion` arrives at
depends on the way the occupancy took.
-/

namespace OpenSS7.Mtp2

section Thresholds

namespace Config

def tbAbate (c : Config) : Nat → Nat
  | 1 => c.tbAbate1
  | 2 => c.tbAbate2
  | _ => c.tbAbate3

def tbOnset (c : Config) : Nat → Nat
  | 1 => c.tbOnset1
  | 2 => c.tbOnset2
  | _ => c.tbOnset3

def tbDiscd (c : Config) : Nat → Nat
  | 1 => c.tbDiscd1
  | 2 => c.tbDiscd2
  | _ => c.tbDiscd3

structure Thresholds (c : Config) : Prop where
  abate : ∀ i, c.tbAbate i ≤ c.tbOnset i
  onset : ∀ i, c.tbOnset i ≤ c.tbDiscd i
  discd : ∀ i, i = 1 ∨ i = 2 → c.tbDiscd i ≤ c.tbOnset (i + 1)

end Config

def levels (multi : Bool) : Nat := if multi then 3 else 1

theorem levels_le (multi : Bool) : levels multi ≤ 3 := by
  cases multi <;> decide

end Thresholds

section Claims

variable {Load : Type}

/-- What the last of a row of checks is to find: `status` is the congestion
and discard status a row of checks ends in. -/
structure Follows (c : Config) (multi : Bool) (occupancy : Load → Nat)
    (status : List Load → Nat × Nat) (before : List Load) (last : Load) :
    Prop where
  below : (status (before ++ [last])).2 ≤ (status (before ++ [last])).1
  onset : ∀ i, 1 ≤ i → i ≤ levels multi → c.tbOnset i ≤ occupancy last →
    i ≤ (status (before ++ [last])).1
  discd : ∀ i, 1 ≤ i → i ≤ levels multi → c.tbDiscd i ≤ occupancy last →
    i ≤ (status (before ++ [last])).2
  again : ∀ same, occupancy same = occupancy last →
    status (before ++ [last] ++ [same]) = status (before ++ [last])
  direct : (before ++ [last]).Pairwise
      (fun earlier later => occupancy earlier ≤ occupancy later) →
    status (before ++ [last]) = status [last]

def Historyless (c : Config) (multi : Bool) (occupancy : Load → Nat)
    (status : List Load → Nat × Nat) (loads : List Load) : Prop :=
  ∀ before last, before ++ [last] <+: loads →
    Follows c multi occupancy status before last

def Creeps (c : Config) (multi : Bool) (status : Nat × Nat) (occupancy : Nat) :
    Prop :=
  status.2 < status.1 ∧ c.tbDiscd status.1 ≤ occupancy ∧
    (status.1 < levels multi → occupancy < c.tbDiscd (status.1 + 1))

end Claims

section Ladder

variable {c : Config} {multi : Bool} {cong disc occupancy : Nat}

structure Even (multi : Bool) (status : Nat × Nat) : Prop where
  below : status.2 ≤ status.1
  near : status.1 ≤ status.2 + 1
  within : status.1 ≤ levels multi

theorem even_start : Even multi (0, 0) :=
  ⟨Nat.le_refl 0, Nat.zero_le 1, Nat.zero_le _⟩

theorem Even.cases {status : Nat × Nat} (even : Even multi status) :
    (status = (0, 0) ∨ status = (1, 0) ∨ status = (1, 1)) ∨
      (multi = true ∧ (status = (2, 1) ∨ status = (2, 2) ∨ status = (3, 2) ∨
        status = (3, 3))) := by
  obtain ⟨cong, disc⟩ := status
  obtain ⟨below, near, within⟩ := even
  simp only at below near within
  simp only [Prod.mk.injEq]
  cases multi with
  | false =>
      have within : cong ≤ 1 := within
      omega
  | true =>
      have within : cong ≤ 3 := within
      simp only [true_and]
      omega

structure Stable (c : Config) (multi : Bool) (occupancy : Nat)
    (status : Nat × Nat) : Prop where
  even : Even multi status
  held : 1 ≤ status.1 → c.tbAbate status.1 ≤ occupancy
  onset : status.1 < levels multi → occupancy < c.tbOnset (status.1 + 1)
  discd : status.2 < status.1 → occupancy < c.tbDiscd status.1

structure Direct (c : Config) (multi : Bool) (occupancy : Nat)
    (status : Nat × Nat) : Prop extends Stable c multi occupancy status where
  onsets : 1 ≤ status.1 → c.tbOnset status.1 ≤ occupancy
  discards : 1 ≤ status.1 → status.2 = status.1 →
    c.tbDiscd status.1 ≤ occupancy

structure Rising (c : Config) : Prop where
  abate1 : c.tbAbate1 ≤ c.tbOnset1
  abate2 : c.tbAbate2 ≤ c.tbOnset2
  abate3 : c.tbAbate3 ≤ c.tbOnset3
  onset1 : c.tbOnset1 ≤ c.tbDiscd1
  onset2 : c.tbOnset2 ≤ c.tbDiscd2
  onset3 : c.tbOnset3 ≤ c.tbDiscd3
  discd1 : c.tbDiscd1 ≤ c.tbOnset2
  discd2 : c.tbDiscd2 ≤ c.tbOnset3

theorem Config.Thresholds.rising (ordered : c.Thresholds) : Rising c where
  abate1 := ordered.abate 1
  abate2 := ordered.abate 2
  abate3 := ordered.abate 3
  onset1 := ordered.onset 1
  onset2 := ordered.onset 2
  onset3 := ordered.onset 3
  discd1 := ordered.discd 1 (.inl rfl)
  discd2 := ordered.discd 2 (.inr rfl)

structure Bears (c : Config) (occupancy : Nat) (status : Nat × Nat) :
    Prop where
  onsets : 1 ≤ status.1 → c.tbOnset status.1 ≤ occupancy
  discards : 1 ≤ status.1 → status.2 = status.1 →
    c.tbDiscd status.1 ≤ occupancy

structure Settles (c : Config) (multi : Bool) (occupancy : Nat)
    (status status' : Nat × Nat) : Prop where
  stable : Stable c multi occupancy status'
  bears : Bears c occupancy status → Bears c occupancy status'

section Arms

variable {status : Nat × Nat}

theorem settles_none (low : occupancy < c.tbOnset1) :
    Settles c multi occupancy status (0, 0) where
  stable := ⟨even_start, nofun, fun _ => low, nofun⟩
  bears _ := ⟨nofun, nofun⟩

theorem settles_first (fits : disc ≤ 1) (held : c.tbAbate1 ≤ occupancy)
    (next : multi = true → occupancy < c.tbOnset2)
    (discd : disc = 0 → occupancy < c.tbDiscd1)
    (bears : Bears c occupancy status →
      c.tbOnset1 ≤ occupancy ∧ (disc = 1 → c.tbDiscd1 ≤ occupancy)) :
    Settles c multi occupancy status (1, disc) where
  stable := by
    have used : 1 ≤ levels multi := by cases multi <;> decide
    refine ⟨⟨fits, Nat.succ_le_succ (Nat.zero_le disc), used⟩,
      fun _ => held, fun more => ?_, fun less => discd (Nat.lt_one_iff.1 less)⟩
    cases multi with
    | false => exact absurd more (Nat.lt_irrefl 1)
    | true => exact next rfl
  bears borne := ⟨fun _ => (bears borne).1, fun _ => (bears borne).2⟩

theorem settles_second (some : 1 ≤ disc) (fits : disc ≤ 2)
    (held : c.tbAbate2 ≤ occupancy) (next : occupancy < c.tbOnset3)
    (discd : disc = 1 → occupancy < c.tbDiscd2)
    (bears : Bears c occupancy status →
      c.tbOnset2 ≤ occupancy ∧ (disc = 2 → c.tbDiscd2 ≤ occupancy)) :
    Settles c true occupancy status (2, disc) where
  stable :=
    ⟨⟨fits, Nat.succ_le_succ some, (by decide : 2 ≤ levels true)⟩,
      fun _ => held, fun _ => next,
      fun less => discd (Nat.le_antisymm (Nat.le_of_lt_succ less) some)⟩
  bears borne := ⟨fun _ => (bears borne).1, fun _ => (bears borne).2⟩

theorem settles_third (some : 2 ≤ disc) (fits : disc ≤ 3)
    (held : c.tbAbate3 ≤ occupancy)
    (discd : disc = 2 → occupancy < c.tbDiscd3)
    (bears : Bears c occupancy status →
      c.tbOnset3 ≤ occupancy ∧ (disc = 3 → c.tbDiscd3 ≤ occupancy)) :
    Settles c true occupancy status (3, disc) where
  stable :=
    ⟨⟨fits, Nat.succ_le_succ some, (by decide : 3 ≤ levels true)⟩,
      fun _ => held, fun more => absurd more (Nat.lt_irrefl 3),
      fun less => discd (Nat.le_antisymm (Nat.le_of_lt_succ less) some)⟩
  bears borne := ⟨fun _ => (bears borne).1, fun _ => (bears borne).2⟩

end Arms

section Levels

variable (rising : Rising c)

include rising

theorem settles_above (status : Nat × Nat) (two : c.tbOnset2 ≤ occupancy)
    (steady : occupancy < c.tbDiscd2 → disc = 1) :
    Settles c true occupancy status
      (if c.tbDiscd2 ≤ occupancy then
        if c.tbOnset3 ≤ occupancy then
          if c.tbDiscd3 ≤ occupancy then (3, 3) else (3, 2)
        else (2, 2)
      else (2, disc)) := by
  obtain ⟨_, _, _, _, _, _, _, _⟩ := rising
  split_ifs
  · exact settles_third (by decide) (by decide) (by omega) (by omega)
      (by omega)
  · exact settles_third (by decide) (by decide) (by omega) (by omega)
      (by omega)
  · exact settles_second (by decide) (by decide) (by omega) (by omega)
      (by omega) (by omega)
  · exact settles_second (by omega) (by omega) (by omega) (by omega)
      (by omega) (by omega)

theorem settles_from_none :
    Settles c multi occupancy (0, 0) (congestion c multi occupancy 0 0) := by
  have above := @settles_above c 1 occupancy rising (0, 0)
  obtain ⟨_, _, _, _, _, _, _, _⟩ := rising
  cases multi with
  | false =>
      simp only [congestion, Bool.not_false, if_true]
      split_ifs
      · exact settles_first (by decide) (by omega) nofun (by omega) (by omega)
      · exact settles_first (by decide) (by omega) nofun (by omega) (by omega)
      · exact settles_none (by omega)
  | true =>
      simp only [congestion, Bool.not_true, Bool.false_eq_true, if_false]
      by_cases two : c.tbOnset2 ≤ occupancy
      · rw [if_pos (by omega), if_pos (by omega), if_pos two]
        exact above two fun _ => rfl
      · rw [if_neg two]
        split_ifs
        · exact settles_first (by decide) (by omega) (by omega) (by omega)
            (by omega)
        · exact settles_first (by decide) (by omega) (by omega) (by omega)
            (by omega)
        · exact settles_none (by omega)

theorem settles_from_first (fits : disc ≤ 1)
    (steady : disc = 0 → c.tbDiscd1 ≤ occupancy →
      multi = true ∧ c.tbDiscd2 ≤ occupancy) :
    Settles c multi occupancy (1, disc)
      (congestion c multi occupancy 1 disc) := by
  have above := @settles_above c disc occupancy rising (1, disc)
  obtain ⟨_, _, _, _, _, _, _, _⟩ := rising
  have borne : Bears c occupancy (1, disc) →
      c.tbOnset1 ≤ occupancy ∧ (disc = 1 → c.tbDiscd1 ≤ occupancy) :=
    fun bears => ⟨bears.onsets (Nat.le_refl 1),
      bears.discards (Nat.le_refl 1)⟩
  cases multi with
  | false =>
      simp only [congestion, Bool.not_false, if_true]
      split_ifs
      · exact settles_none (by omega)
      · refine settles_first fits (by omega) nofun (fun none => ?_) borne
        exact Nat.lt_of_not_le fun high => nomatch (steady none high).1
  | true =>
      simp only [congestion, Bool.not_true, Bool.false_eq_true, if_false]
      by_cases low : occupancy < c.tbAbate1
      · rw [if_pos low]
        exact settles_none (by omega)
      rw [if_neg low]
      by_cases two : c.tbOnset2 ≤ occupancy
      · rw [if_pos two]
        exact above two (by omega)
      · rw [if_neg two]
        exact settles_first fits (by omega) (by omega) (by omega) borne

theorem settles_from_second (some : 1 ≤ disc) (fits : disc ≤ 2)
    (steady : disc = 1 → c.tbDiscd2 ≤ occupancy → c.tbDiscd3 ≤ occupancy) :
    Settles c true occupancy (2, disc)
      (congestion c true occupancy 2 disc) := by
  obtain ⟨_, _, _, _, _, _, _, _⟩ := rising
  have borne : Bears c occupancy (2, disc) →
      c.tbOnset2 ≤ occupancy ∧ (disc = 2 → c.tbDiscd2 ≤ occupancy) :=
    fun bears => ⟨bears.onsets (by decide : 1 ≤ 2),
      bears.discards (by decide : 1 ≤ 2)⟩
  simp only [congestion, Bool.not_true, Bool.false_eq_true, if_false]
  split_ifs
  · exact settles_none (by omega)
  · refine settles_first (by decide) (by omega) (by omega) (by omega)
      fun bears => ?_
    have onset := (borne bears).1
    omega
  · exact settles_third (by decide) (by decide) (by omega) (by omega)
      (by omega)
  · exact settles_third (by omega) (by omega) (by omega) (by omega)
      (by omega)
  · exact settles_second some fits (by omega) (by omega) (by omega) borne

theorem settles_from_third (some : 2 ≤ disc) (fits : disc ≤ 3)
    (steady : disc = 2 → occupancy < c.tbDiscd3) :
    Settles c true occupancy (3, disc)
      (congestion c true occupancy 3 disc) := by
  obtain ⟨_, _, _, _, _, _, _, _⟩ := rising
  have borne : Bears c occupancy (3, disc) →
      c.tbOnset3 ≤ occupancy ∧ (disc = 3 → c.tbDiscd3 ≤ occupancy) :=
    fun bears => ⟨bears.onsets (by decide : 1 ≤ 3),
      bears.discards (by decide : 1 ≤ 3)⟩
  simp only [congestion, Bool.not_true, Bool.false_eq_true, if_false]
  split_ifs
  · exact settles_none (by omega)
  · refine settles_first (by decide) (by omega) (by omega) (by omega)
      fun bears => ?_
    have onset := (borne bears).1
    omega
  · refine settles_second (by decide) (by decide) (by omega) (by omega)
      (by omega) fun bears => ?_
    have onset := (borne bears).1
    omega
  · exact settles_third some fits (by omega) steady borne

end Levels

theorem settles_congestion (ordered : c.Thresholds)
    (even : Even multi (cong, disc))
    (steady : ¬ Creeps c multi (cong, disc) occupancy) :
    Settles c multi occupancy (cong, disc)
      (congestion c multi occupancy cong disc) := by
  have rising := ordered.rising
  obtain ⟨below, near, within⟩ := even
  simp only at below near within
  have creeps (behind : disc < cong) (reached : c.tbDiscd cong ≤ occupancy) :
      cong < levels multi ∧ c.tbDiscd (cong + 1) ≤ occupancy := by
    by_contra other
    refine steady ⟨behind, reached, fun more => ?_⟩
    exact Nat.lt_of_not_le fun high => other ⟨more, high⟩
  match cong with
  | 0 =>
      obtain rfl : disc = 0 := Nat.le_zero.1 below
      exact settles_from_none rising
  | 1 =>
      refine settles_from_first rising below fun none reached => ?_
      obtain ⟨more, high⟩ := creeps (by omega) reached
      refine ⟨?_, high⟩
      cases multi with
      | false => exact absurd more (Nat.lt_irrefl 1)
      | true => rfl
  | 2 =>
      cases multi with
      | false => exact absurd within (by decide)
      | true =>
          exact settles_from_second rising (by omega) below fun one reached =>
            (creeps (by omega) reached).2
  | 3 =>
      cases multi with
      | false => exact absurd within (by decide)
      | true =>
          refine settles_from_third rising (by omega) below fun two => ?_
          refine Nat.lt_of_not_le fun reached => ?_
          exact absurd (creeps (by omega) reached).1 (Nat.lt_irrefl 3)
  | cong + 4 =>
      have few := levels_le multi
      omega

theorem stable_congestion (ordered : c.Thresholds)
    (even : Even multi (cong, disc))
    (steady : ¬ Creeps c multi (cong, disc) occupancy) :
    Stable c multi occupancy (congestion c multi occupancy cong disc) :=
  (settles_congestion ordered even steady).stable

theorem direct_congestion (ordered : c.Thresholds)
    (even : Even multi (cong, disc))
    (steady : ¬ Creeps c multi (cong, disc) occupancy)
    (onsets : 1 ≤ cong → c.tbOnset cong ≤ occupancy)
    (discards : 1 ≤ cong → disc = cong → c.tbDiscd cong ≤ occupancy) :
    Direct c multi occupancy (congestion c multi occupancy cong disc) := by
  have settles := settles_congestion ordered even steady
  have bears := settles.bears ⟨onsets, discards⟩
  exact { settles.stable with
    onsets := bears.onsets
    discards := bears.discards }

theorem congestion_of_stable (ordered : c.Thresholds)
    (stable : Stable c multi occupancy (cong, disc)) :
    congestion c multi occupancy cong disc = (cong, disc) := by
  obtain ⟨_, _, _, _, _, _, _, _⟩ := ordered.rising
  obtain ⟨even, held, onset, discd⟩ := stable
  rcases even.cases with (same | same | same) |
    ⟨several, same | same | same | same⟩
  all_goals
    cases same
    cases multi
  all_goals
    simp only [levels, Config.tbDiscd, Config.tbAbate, Config.tbOnset,
      congestion] at *
    split_ifs
  all_goals
    simp at *
  all_goals omega

theorem Direct.unique {status status' : Nat × Nat} (ordered : c.Thresholds)
    (direct : Direct c multi occupancy status)
    (direct' : Direct c multi occupancy status') : status = status' := by
  obtain ⟨_, _, _, _, _, _, _, _⟩ := ordered.rising
  obtain ⟨⟨even, _, onset, discd⟩, onsets, discards⟩ := direct
  obtain ⟨⟨even', _, onset', discd'⟩, onsets', discards'⟩ := direct'
  rcases even.cases with (same | same | same) |
    ⟨several, same | same | same | same⟩
  all_goals
    rcases even'.cases with (same' | same' | same') |
      ⟨several', same' | same' | same' | same'⟩
  all_goals
    cases same
    cases same'
    cases multi
  all_goals
    simp [levels, Config.tbDiscd, Config.tbOnset] at *
  all_goals omega

theorem Rising.onset_mono (rising : Rising c) {i j : Nat} (low : 1 ≤ i)
    (step : i ≤ j) (high : j ≤ 3) : c.tbOnset i ≤ c.tbOnset j := by
  obtain ⟨_, _, _, _, _, _, _, _⟩ := rising
  have cases : i = j ∨ (i = 1 ∧ j = 2) ∨ (i = 1 ∧ j = 3) ∨ (i = 2 ∧ j = 3) := by
    omega
  rcases cases with same | ⟨first, second⟩ | ⟨first, second⟩ | ⟨first, second⟩
  · exact Nat.le_of_eq (congrArg c.tbOnset same)
  all_goals
    subst first
    subst second
    simp only [Config.tbOnset]
    omega

theorem onset_of_stable (ordered : c.Thresholds) {status : Nat × Nat}
    (stable : Stable c multi occupancy status) (i : Nat) (_ : 1 ≤ i)
    (used : i ≤ levels multi) (reached : c.tbOnset i ≤ occupancy) :
    i ≤ status.1 := by
  apply Nat.le_of_not_lt
  intro above
  have next := stable.onset (Nat.lt_of_lt_of_le above used)
  have rise := ordered.rising.onset_mono (Nat.le_add_left 1 status.1) above
    (Nat.le_trans used (levels_le multi))
  omega

theorem discd_of_stable (ordered : c.Thresholds) {status : Nat × Nat}
    (stable : Stable c multi occupancy status) (i : Nat) (low : 1 ≤ i)
    (used : i ≤ levels multi) (reached : c.tbDiscd i ≤ occupancy) :
    i ≤ status.2 := by
  have within := onset_of_stable ordered stable i low used
    (Nat.le_trans (ordered.onset i) reached)
  apply Nat.le_of_not_lt
  intro above
  have near := stable.even.near
  have top : status.1 = i := by omega
  have still := stable.discd (by omega)
  rw [top] at still
  omega

theorem creeps_misses (ordered : c.Thresholds) (even : Even multi (cong, disc))
    (creeps : Creeps c multi (cong, disc) occupancy) :
    1 ≤ cong ∧ cong ≤ levels multi ∧ c.tbDiscd cong ≤ occupancy ∧
      (congestion c multi occupancy cong disc).2 < cong := by
  obtain ⟨behind, reached, next⟩ := creeps
  refine ⟨by omega, even.within, reached, ?_⟩
  obtain ⟨_, _, _, _, _, _, _, _⟩ := ordered.rising
  rcases even.cases with (same | same | same) |
    ⟨several, same | same | same | same⟩
  all_goals
    cases same
    cases multi
  all_goals
    simp only [levels, Config.tbDiscd, congestion] at *
    split_ifs
  all_goals
    simp at *
  all_goals omega

end Ladder

section Rows

variable {c : Config} {multi : Bool} {Load : Type} {occupancy : Load → Nat}

def ladder (c : Config) (multi : Bool) (occupancy : Load → Nat)
    (loads : List Load) : Nat × Nat :=
  loads.foldl
    (fun status load => congestion c multi (occupancy load) status.1 status.2)
    (0, 0)

theorem ladder_snoc (before : List Load) (last : Load) :
    ladder c multi occupancy (before ++ [last]) =
      congestion c multi (occupancy last) (ladder c multi occupancy before).1
        (ladder c multi occupancy before).2 := by
  unfold ladder
  rw [List.foldl_append]
  rfl

theorem even_ladder (ordered : c.Thresholds) {loads : List Load}
    (steady : ∀ before last, before ++ [last] <+: loads →
      Even multi (ladder c multi occupancy before) →
      ¬ Creeps c multi (ladder c multi occupancy before) (occupancy last)) :
    ∀ before, before <+: loads →
      Even multi (ladder c multi occupancy before) := by
  intro before
  induction before using List.reverseRecOn with
  | nil => exact fun _ => even_start
  | append_singleton before last ih =>
      intro initial
      have even := ih ((List.prefix_append before [last]).trans initial)
      rw [ladder_snoc]
      exact (stable_congestion ordered even
        (steady before last initial even)).even

theorem direct_ladder (ordered : c.Thresholds) {loads : List Load}
    (even : ∀ before, before <+: loads →
      Even multi (ladder c multi occupancy before))
    (steady : ∀ before last, before ++ [last] <+: loads →
      ¬ Creeps c multi (ladder c multi occupancy before) (occupancy last)) :
    ∀ before last, before ++ [last] <+: loads →
      (before ++ [last]).Pairwise
        (fun earlier later => occupancy earlier ≤ occupancy later) →
      Direct c multi (occupancy last)
        (ladder c multi occupancy (before ++ [last])) := by
  intro before
  induction before using List.reverseRecOn with
  | nil =>
      intro last initial _
      rw [ladder_snoc]
      exact direct_congestion ordered even_start
        (steady [] last initial) nofun nofun
  | append_singleton before middle ih =>
      intro last initial rising
      have shorter := (List.prefix_append (before ++ [middle]) [last]).trans
        initial
      obtain ⟨risen, -, last_above⟩ := List.pairwise_append.mp rising
      have direct := ih middle shorter risen
      have above : occupancy middle ≤ occupancy last :=
        last_above middle (by simp) last (by simp)
      rw [ladder_snoc (before ++ [middle])]
      exact direct_congestion ordered (even _ shorter) (steady _ last initial)
        (fun some => Nat.le_trans (direct.onsets some) above)
        fun some same => Nat.le_trans (direct.discards some same) above

theorem historyless_iff (ordered : c.Thresholds) (loads : List Load) :
    Historyless c multi occupancy (ladder c multi occupancy) loads ↔
      ∀ before last, before ++ [last] <+: loads →
        ¬ Creeps c multi (ladder c multi occupancy before) (occupancy last) := by
  constructor
  · intro follows
    have steady : ∀ before last, before ++ [last] <+: loads →
        Even multi (ladder c multi occupancy before) →
        ¬ Creeps c multi (ladder c multi occupancy before)
          (occupancy last) := by
      intro before last initial even creeps
      obtain ⟨some, used, reached, misses⟩ := creeps_misses ordered even creeps
      have kept := (follows before last initial).discd _ some used reached
      rw [ladder_snoc] at kept
      exact absurd kept (Nat.not_le_of_lt misses)
    intro before last initial
    exact steady before last initial (even_ladder ordered steady before
      ((List.prefix_append before [last]).trans initial))
  · intro steady before last initial
    have even := even_ladder ordered fun before last initial _ =>
      steady before last initial
    have stable : Stable c multi (occupancy last)
        (ladder c multi occupancy (before ++ [last])) := by
      rw [ladder_snoc]
      exact stable_congestion ordered
        (even before ((List.prefix_append before [last]).trans initial))
        (steady before last initial)
    refine ⟨stable.even.below, onset_of_stable ordered stable,
      discd_of_stable ordered stable, ?_, ?_⟩
    · intro same occupied
      rw [ladder_snoc, occupied]
      exact congestion_of_stable ordered stable
    · intro rising
      have direct := direct_ladder ordered even steady before last initial
        rising
      refine direct.unique ordered ?_
      have single : ladder c multi occupancy [last] =
          congestion c multi (occupancy last) 0 0 := rfl
      rw [single]
      exact direct_congestion ordered even_start (fun creeps =>
        absurd creeps.1 (Nat.lt_irrefl 0)) nofun nofun

end Rows

section Checks

open Program

structure Load where
  env : Env
  tb : List Msu
  rtb : List Msu

def Load.occupancy (l : Load) : Nat :=
  l.env.iqCount + qCount l.tb + qCount l.rtb

namespace Sl

def status (s : Sl) : Nat × Nat := (s.congStatus, s.discStatus)

def load (s : Sl) (l : Load) : Sl :=
  { s with env := l.env, tb := l.tb, rtb := l.rtb }

/-- `sl_check_congestion` at each of the loads. -/
def checks (s : Sl) (loads : List Load) : Sl :=
  loads.foldl (fun s l => slCheckCongestion.after (s.load l)) s

end Sl

/-- The status is as given, and the settings of the ladder as in `s`. -/
structure Settled (status : Nat × Nat) (s s' : Sl) : Prop where
  status : s'.status = status
  config : s'.config = s.config
  option : s'.option = s.option

theorem ind_settled (status : Nat × Nat) (s : Sl) (i : Ind) :
    Keeps (Settled status s) (ind i) :=
  keeps_bind keeps_get fun _ =>
    keeps_bind (keeps_modify fun _ h => ⟨h.status, h.config, h.option⟩)
      fun _ => keeps_ite
        (keeps_modify fun _ h => ⟨h.status, h.config, h.option⟩)
        (keeps_throw _)

theorem slCheckCongestion_settled (s : Sl) :
    Settled (congestion s.config s.option.mplev
        (s.env.iqCount + qCount s.tb + qCount s.rtb) s.congStatus s.discStatus)
      s (slCheckCongestion.after s) := by
  have checked : Triple (fun s' => s' = s) slCheckCongestion
      (fun _ => Settled (congestion s.config s.option.mplev
        (s.env.iqCount + qCount s.tb + qCount s.rtb) s.congStatus s.discStatus)
        s)
      (Settled (congestion s.config s.option.mplev
        (s.env.iqCount + qCount s.tb + qCount s.rtb) s.congStatus s.discStatus)
        s) := by
    refine triple_get_bind fun s' same => ?_
    subst same
    refine triple_bind (triple_modify fun _ same => ?_) fun _ =>
      keeps_ite (keeps_ite (ind_settled _ _ _) (ind_settled _ _ _))
        (keeps_pure _)
    subst same
    exact ⟨rfl, rfl, rfl⟩
  exact triple_after checked rfl

theorem status_checks (loads : List Load) (s : Sl) (free : s.status = (0, 0)) :
    (s.checks loads).status =
        ladder s.config s.option.mplev Load.occupancy loads ∧
      (s.checks loads).config = s.config ∧
      (s.checks loads).option = s.option := by
  induction loads using List.reverseRecOn with
  | nil => exact ⟨free, rfl, rfl⟩
  | append_singleton before last ih =>
      obtain ⟨status, config, option⟩ := ih
      have settled := slCheckCongestion_settled ((s.checks before).load last)
      have row : s.checks (before ++ [last]) =
          slCheckCongestion.after ((s.checks before).load last) := by
        unfold Sl.checks
        rw [List.foldl_append]
        rfl
      rw [row]
      refine ⟨?_, settled.config.trans config, settled.option.trans option⟩
      rw [settled.status, ladder_snoc, ← status]
      show congestion (s.checks before).config (s.checks before).option.mplev
        last.occupancy _ _ = _
      rw [config, option]
      rfl

end Checks

end OpenSS7.Mtp2
