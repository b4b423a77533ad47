import Mathlib.Data.List.Pairwise
import Mathlib.Data.List.Perm.Basic
import Mathlib.Data.List.MinMax
import Mathlib.Data.List.Nodup
import Mathlib.Order.Basic

/-!
Lists of entries that each cover an interval of the integers: what is unique
when the intervals keep apart, and a sweep from one interval to the next.
-/

namespace Intervals

variable {ι : Type} {lo hi : ι → Int} {entries : List ι}

def Covers (lo hi : ι → Int) (entry : ι) (point : Int) : Prop :=
  lo entry ≤ point ∧ point ≤ hi entry

instance (entry : ι) (point : Int) : Decidable (Covers lo hi entry point) :=
  inferInstanceAs (Decidable (_ ∧ _))

def Apart (lo hi : ι → Int) (left right : ι) : Prop :=
  hi left < lo right ∨ hi right < lo left

theorem Apart.symm {left right : ι} (apart : Apart lo hi left right) :
    Apart lo hi right left :=
  Or.symm apart

instance : Std.Symm (Apart lo hi) :=
  ⟨fun _ _ => Apart.symm⟩

theorem apart_iff {left right : ι} (nonemptyLeft : lo left ≤ hi left)
    (nonemptyRight : lo right ≤ hi right) :
    Apart lo hi left right ↔
      ∀ point, ¬(Covers lo hi left point ∧ Covers lo hi right point) := by
  constructor
  · rintro apart point ⟨coversLeft, coversRight⟩
    obtain ⟨_, _⟩ := coversLeft
    obtain ⟨_, _⟩ := coversRight
    obtain before | after := apart <;> omega
  · intro disjoint
    by_contra together
    simp only [Apart, not_or] at together
    refine disjoint (max (lo left) (lo right)) ⟨⟨?_, ?_⟩, ⟨?_, ?_⟩⟩ <;> omega

structure Separate (lo hi : ι → Int) (entries : List ι) : Prop where
  nonempty : ∀ entry ∈ entries, lo entry ≤ hi entry
  apart : entries.Pairwise (Apart lo hi)

def Follows (lo hi : ι → Int) (entries : List ι) (point : Int)
    (entry : ι) : Prop :=
  entry ∈ entries ∧ (Covers lo hi entry point ∨
    (∀ other ∈ entries, ¬Covers lo hi other point) ∧ point < lo entry ∧
      ∀ other ∈ entries, point < lo other → lo entry ≤ lo other)

namespace Separate

theorem perm {others : List ι} (separate : Separate lo hi entries)
    (perm : entries.Perm others) : Separate lo hi others where
  nonempty := fun entry mem => separate.nonempty entry (perm.mem_iff.mpr mem)
  apart := (perm.pairwise_iff Apart.symm).mp separate.apart

theorem apart_of_ne (separate : Separate lo hi entries) {left right : ι}
    (memLeft : left ∈ entries) (memRight : right ∈ entries)
    (different : left ≠ right) : Apart lo hi left right :=
  separate.apart.forall memLeft memRight different

theorem covers_unique (separate : Separate lo hi entries) {left right : ι}
    {point : Int} (memLeft : left ∈ entries) (memRight : right ∈ entries)
    (coversLeft : Covers lo hi left point)
    (coversRight : Covers lo hi right point) : left = right := by
  by_contra different
  obtain before | after := separate.apart_of_ne memLeft memRight different
  · have := coversLeft.2
    have := coversRight.1
    omega
  · have := coversLeft.1
    have := coversRight.2
    omega

theorem nodup (separate : Separate lo hi entries) : entries.Nodup := by
  refine separate.apart.imp_of_mem ?_
  rintro left right memLeft - apart rfl
  have := separate.nonempty left memLeft
  obtain before | after := apart <;> omega

theorem lo_unique (separate : Separate lo hi entries) {left right : ι}
    (memLeft : left ∈ entries) (memRight : right ∈ entries)
    (same : lo left = lo right) : left = right := by
  have nonemptyLeft : Covers lo hi left (lo left) :=
    ⟨Int.le_refl _, separate.nonempty left memLeft⟩
  refine separate.covers_unique memLeft memRight nonemptyLeft ⟨same.ge, ?_⟩
  rw [same]
  exact separate.nonempty right memRight

theorem follows_unique (separate : Separate lo hi entries) {left right : ι}
    {point : Int} (followsLeft : Follows lo hi entries point left)
    (followsRight : Follows lo hi entries point right) : left = right := by
  obtain ⟨memLeft, covers | ⟨none, afterLeft, leastLeft⟩⟩ := followsLeft
  · obtain ⟨memRight, covers' | ⟨none, -, -⟩⟩ := followsRight
    · exact separate.covers_unique memLeft memRight covers covers'
    · exact absurd covers (none left memLeft)
  · obtain ⟨memRight, covers | ⟨-, afterRight, leastRight⟩⟩ := followsRight
    · exact absurd covers (none right memRight)
    · exact separate.lo_unique memLeft memRight
        (le_antisymm (leastLeft right memRight afterRight)
          (leastRight left memLeft afterLeft))

theorem hi_lt (separate : Separate lo hi entries) {left right : ι}
    (memLeft : left ∈ entries) (memRight : right ∈ entries)
    (different : left ≠ right) (order : lo left ≤ lo right) :
    hi left < lo right := by
  obtain before | after := separate.apart_of_ne memLeft memRight different
  · exact before
  · have := separate.nonempty right memRight
    omega

theorem lo_le_of_follows (separate : Separate lo hi entries) {entry : ι}
    {point : Int} (follows : Follows lo hi entries point entry) {other : ι}
    (mem : other ∈ entries) (reaches : point ≤ hi other) :
    lo entry ≤ lo other := by
  obtain ⟨memEntry, covers | ⟨none, after, least⟩⟩ := follows
  · by_contra beyond
    have different : other ≠ entry := by
      rintro rfl
      exact beyond (Int.le_refl _)
    have := separate.hi_lt mem memEntry different (by omega)
    have := covers.1
    omega
  · refine least other mem ?_
    have := none other mem
    by_contra before
    exact this ⟨by omega, reaches⟩

theorem follows_reaches (separate : Separate lo hi entries) {entry : ι}
    {point : Int} (follows : Follows lo hi entries point entry) :
    point ≤ hi entry := by
  obtain ⟨mem, covers | ⟨-, after, -⟩⟩ := follows
  · exact covers.2
  · have := separate.nonempty entry mem
    omega

end Separate

def sweep (hi : ι → Int) (next : Int → Option ι) : Nat → Int → List ι
  | 0, _ => []
  | steps + 1, point =>
      match next point with
      | none => []
      | some entry => entry :: sweep hi next steps (hi entry + 1)

theorem Separate.ahead_perm (separate : Separate lo hi entries) {entry : ι}
    {point : Int} (follows : Follows lo hi entries point entry) :
    (entries.filter fun other => decide (point ≤ hi other)).Perm
      (entry :: entries.filter fun other =>
        decide (hi entry + 1 ≤ hi other)) := by
  have nodup := separate.nodup
  have reaches := separate.follows_reaches follows
  refine (List.perm_ext_iff_of_nodup (nodup.filter _) ?_).mpr ?_
  · refine List.nodup_cons.mpr ⟨?_, nodup.filter _⟩
    simp only [List.mem_filter, decide_eq_true_eq, not_and]
    omega
  · intro other
    simp only [List.mem_cons, List.mem_filter, decide_eq_true_eq]
    constructor
    · rintro ⟨mem, ahead⟩
      by_cases same : other = entry
      · exact Or.inl same
      · have order := separate.lo_le_of_follows follows mem ahead
        have := separate.hi_lt follows.1 mem (Ne.symm same) order
        have := separate.nonempty other mem
        exact Or.inr ⟨mem, by omega⟩
    · rintro (rfl | ⟨mem, beyond⟩)
      · exact ⟨follows.1, reaches⟩
      · exact ⟨mem, by omega⟩

theorem follows_exists {point : Int} {other : ι} (mem : other ∈ entries)
    (reaches : point ≤ hi other) :
    ∃ entry, Follows lo hi entries point entry := by
  by_cases covered : ∃ entry ∈ entries, Covers lo hi entry point
  · obtain ⟨entry, memEntry, covers⟩ := covered
    exact ⟨entry, memEntry, Or.inl covers⟩
  · push Not at covered
    let after := entries.filter fun entry => decide (point < lo entry)
    have memAfter : other ∈ after := by
      have := covered other mem
      simp only [after, List.mem_filter, decide_eq_true_eq]
      refine ⟨mem, ?_⟩
      by_contra before
      exact this ⟨by omega, reaches⟩
    obtain ⟨entry, min⟩ := Option.ne_none_iff_exists'.mp
      (mt List.argmin_eq_none.mp (List.ne_nil_of_mem memAfter) :
        after.argmin lo ≠ none)
    have memEntry := List.argmin_mem min
    simp only [after, List.mem_filter, decide_eq_true_eq] at memEntry
    refine ⟨entry, memEntry.1, Or.inr ⟨covered, memEntry.2, ?_⟩⟩
    intro later memLater beyond
    refine List.le_of_mem_argmin ?_ min
    simp only [after, List.mem_filter, decide_eq_true_eq]
    exact ⟨memLater, beyond⟩

theorem Separate.sweep_perm (separate : Separate lo hi entries)
    {next : Int → Option ι} (steps : Nat) (point : Int)
    (start : ∀ entry, next point = some entry ↔
      Follows lo hi entries point entry)
    (after : ∀ last ∈ entries, ∀ entry,
      next (hi last + 1) = some entry ↔
        Follows lo hi entries (hi last + 1) entry)
    (enough : (entries.filter fun other =>
      decide (point ≤ hi other)).length ≤ steps) :
    (sweep hi next steps point).Perm
      (entries.filter fun other => decide (point ≤ hi other)) := by
  induction steps generalizing point with
  | zero =>
      rw [List.length_eq_zero_iff.mp (Nat.le_zero.mp enough)]
      exact List.Perm.refl _
  | succ steps ih =>
      unfold sweep
      cases found : next point with
      | none =>
          have none_ahead : entries.filter
              (fun other => decide (point ≤ hi other)) = [] := by
            refine List.filter_eq_nil_iff.mpr ?_
            intro other mem ahead
            obtain ⟨entry, follows⟩ :=
              follows_exists mem (of_decide_eq_true ahead)
            rw [(start entry).mpr follows] at found
            cases found
          rw [none_ahead]
      | some entry =>
          have follows := (start entry).mp found
          have ahead := separate.ahead_perm follows
          refine List.Perm.trans (List.Perm.cons entry ?_) ahead.symm
          refine ih (hi entry + 1) (after entry follows.1) ?_
          have := ahead.length_eq
          simp only [List.length_cons] at this
          omega

end Intervals
