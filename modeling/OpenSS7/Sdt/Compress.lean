import OpenSS7.Sdt.Frame
import OpenSS7.Sdt.Monitors

/-!
Receive compression: a run of equal FISUs or LSSUs is held back as a copy and a
count until another signal unit arrives.
-/

namespace OpenSS7.Sdt

abbrev Su := List UInt8

/-- `QR_ABSORBED`, `QR_DONE`, `-ENOBUFS` and `-EFAULT` -/
inductive Answer where
  | absorbed
  | done
  | noBufs
  | fault
deriving DecidableEq

structure RcInd where
  count : Nat
  su : Su
deriving DecidableEq

structure Shortage where
  cmp : Bool
  ind : Bool
  monitors : Indication → Bool

def Shortage.none : Shortage := ⟨false, false, fun _ => false⟩

def rcSignalUnitInd (noBuffer : Bool) (dp : Su) (count : Nat) :
    Answer × List RcInd :=
  if count = 1 then (.done, [⟨1, dp⟩])
  else if 1 < count then
    if noBuffer then (.noBufs, []) else (.done, [⟨count, dp⟩])
  else (.fault, [])

structure Daedr where
  cmp : Option Su
  repeats : UInt32
  monitors : Monitors
  rxSusCompressed : Nat
  rxBufferOverflows : Nat
deriving DecidableEq

namespace Daedr

variable (xsn : Bool) (no : Shortage) (s : Daedr) (mp : Su)

def correctSu : Daedr :=
  { s with monitors := s.monitors.step (.su false no.monitors) }

def isCopy (cmp mp : Su) : Bool :=
  mp.length < headerLength xsn + 3 ∧ headerLength xsn ≤ mp.length ∧
    mp.length = cmp.length ∧ mp = cmp

/-- The part of `sdt_daedr_received_bits` for a unit that is no copy. -/
def pass : Daedr × List RcInd × Answer :=
  let s :=
    if mp.length < headerLength xsn + 3 ∧ (s.cmp.isSome ∨ !no.cmp) then
      { s with cmp := some mp, repeats := 0 }
    else s
  let s := s.correctSu no
  let (err, inds) := rcSignalUnitInd no.ind mp 1
  if err = .absorbed then (s, inds, .absorbed)
  else
    ({ s with rxBufferOverflows := s.rxBufferOverflows + 1 }, inds, err)

def receivedBits : Daedr × List RcInd × Answer :=
  match s.cmp with
  | none => s.pass xsn no mp
  | some cmp =>
      if isCopy xsn cmp mp then
        let s :=
          { s with
            repeats := s.repeats + 1
            rxSusCompressed := s.rxSusCompressed + 1 }
        (s.correctSu no, [], .absorbed)
      else if 0 < s.repeats then
        let (err, inds) := rcSignalUnitInd no.ind cmp s.repeats.toNat
        let s := { s with cmp := none, repeats := 0 }
        if err ≠ .absorbed then
          -- the unit in `mp` goes nowhere
          ({ s with rxBufferOverflows := s.rxBufferOverflows + 1 }, inds, err)
        else
          let (s, rest) := s.pass xsn no mp
          (s, inds ++ rest.1, rest.2)
      else s.pass xsn no mp

end Daedr

def expand (inds : List RcInd) : List Su :=
  inds.flatMap fun ind => List.replicate ind.count ind.su

theorem expand_append (first second : List RcInd) :
    expand (first ++ second) = expand first ++ expand second :=
  List.flatMap_append

namespace Daedr

def received (xsn : Bool) (no : Shortage) (s : Daedr) :
    List Su → Daedr × List RcInd
  | [] => (s, [])
  | mp :: rest =>
      let taken := s.receivedBits xsn no mp
      let later := received xsn no taken.1 rest
      (later.1, taken.2.1 ++ later.2)

def held (s : Daedr) : List Su :=
  match s.cmp with
  | none => []
  | some cmp => List.replicate s.repeats.toNat cmp

def Follows (xsn : Bool) (cmp : Option Su) (repeats : Nat) (mp : Su) : Prop :=
  match cmp with
  | none => True
  | some cmp => if isCopy xsn cmp mp then repeats + 1 < 2 ^ 32 else repeats = 0

def saved (xsn : Bool) (cmp : Option Su) (mp : Su) : Option Su :=
  if mp.length < headerLength xsn + 3 then some mp else cmp

def Unbroken (xsn : Bool) : Option Su → Nat → List Su → Prop
  | _, _, [] => True
  | cmp, repeats, mp :: rest =>
      Follows xsn cmp repeats mp ∧
        if cmp.any (isCopy xsn · mp) then Unbroken xsn cmp (repeats + 1) rest
        else Unbroken xsn (saved xsn cmp mp) 0 rest

theorem unbroken_of_none (xsn : Bool) (n : Nat) (units : List Su) :
    Unbroken xsn none n units ↔ Unbroken xsn none 0 units := by
  cases units with
  | nil => exact Iff.rfl
  | cons mp rest => exact Iff.rfl

section Steps

variable {xsn : Bool} {s : Daedr} {mp cmp : Su}

theorem rcSignalUnitInd_one (dp : Su) :
    rcSignalUnitInd false dp 1 = (.done, [⟨1, dp⟩]) := rfl

theorem rcSignalUnitInd_some {dp : Su} {count : Nat} (some : 0 < count) :
    rcSignalUnitInd false dp count = (.done, [⟨count, dp⟩]) := by
  unfold rcSignalUnitInd
  split
  next one => rw [one]
  next => rw [if_pos (by omega), if_neg Bool.false_ne_true]

theorem pass_eq (xsn : Bool) (s : Daedr) (mp : Su) :
    (s.pass xsn .none mp).2.1 = [⟨1, mp⟩] ∧
      (s.pass xsn .none mp).1.cmp = saved xsn s.cmp mp ∧
      (s.pass xsn .none mp).1.repeats =
        if mp.length < headerLength xsn + 3 then 0 else s.repeats := by
  unfold pass saved
  simp only [Shortage.none, rcSignalUnitInd_one]
  by_cases short : mp.length < headerLength xsn + 3
  · simp only [short, Bool.not_false, or_true, and_self, if_true]
    exact ⟨rfl, rfl, rfl⟩
  · simp only [short, false_and, if_false]
    exact ⟨rfl, rfl, rfl⟩

theorem held_of_none (none : s.cmp = none) : s.held = [] := by
  unfold held
  rw [none]

theorem held_of_some (saved : s.cmp = some cmp) :
    s.held = List.replicate s.repeats.toNat cmp := by
  unfold held
  rw [saved]

theorem held_of_zero (zero : s.repeats = 0) : s.held = [] := by
  unfold held
  rw [zero]
  cases s.cmp with
  | none => rfl
  | some cmp => rfl

theorem held_pass (none : s.repeats = 0 ∨ s.cmp = none) :
    (s.pass xsn .none mp).1.held = [] := by
  obtain ⟨-, cmp, repeats⟩ := pass_eq xsn s mp
  unfold saved at cmp
  by_cases short : mp.length < headerLength xsn + 3
  · rw [if_pos short] at repeats
    exact held_of_zero repeats
  · rw [if_neg short] at cmp repeats
    rcases none with zero | none
    · exact held_of_zero (repeats.trans zero)
    · exact held_of_none (cmp.trans none)

theorem receivedBits_of_copy (saved : s.cmp = some cmp)
    (copy : isCopy xsn cmp mp = true) :
    (s.receivedBits xsn .none mp).2.1 = [] ∧
      (s.receivedBits xsn .none mp).1.cmp = some cmp ∧
      (s.receivedBits xsn .none mp).1.repeats = s.repeats + 1 := by
  unfold receivedBits
  rw [saved]
  dsimp only
  rw [if_pos copy]
  exact ⟨rfl, rfl, rfl⟩

theorem receivedBits_of_end (saved : s.cmp = some cmp)
    (copy : ¬isCopy xsn cmp mp = true) (some : 0 < s.repeats) :
    (s.receivedBits xsn .none mp).2.1 = [⟨s.repeats.toNat, cmp⟩] ∧
      (s.receivedBits xsn .none mp).1.cmp = none := by
  have counted : rcSignalUnitInd Shortage.none.ind cmp s.repeats.toNat =
      (.done, [⟨s.repeats.toNat, cmp⟩]) :=
    rcSignalUnitInd_some (UInt32.lt_iff_toNat_lt.mp some)
  unfold receivedBits
  rw [saved]
  dsimp only
  rw [if_neg copy, if_pos some, counted]
  exact ⟨rfl, rfl⟩

theorem receivedBits_of_pass (none : s.repeats = 0 ∨ s.cmp = none)
    (copy : ∀ cmp, s.cmp = some cmp → ¬isCopy xsn cmp mp = true) :
    s.receivedBits xsn .none mp = s.pass xsn .none mp := by
  unfold receivedBits
  cases saved : s.cmp with
  | none => rfl
  | some cmp =>
      have zero : s.repeats = 0 :=
        none.resolve_right (by rw [saved]; exact nofun)
      dsimp only
      rw [if_neg (copy cmp saved), if_neg (by rw [zero]; decide)]

end Steps

section Runs

variable {xsn : Bool} {s : Daedr} {mp : Su}

theorem receivedBits_cases (xsn : Bool) (s : Daedr) (mp : Su) :
    (∃ cmp, s.cmp = some cmp ∧ isCopy xsn cmp mp = true) ∨
      ((s.repeats = 0 ∨ s.cmp = none) ∧
        ∀ cmp, s.cmp = some cmp → ¬isCopy xsn cmp mp = true) ∨
      ∃ cmp, s.cmp = some cmp ∧ ¬isCopy xsn cmp mp = true ∧ 0 < s.repeats := by
  cases saved : s.cmp with
  | none => exact .inr (.inl ⟨.inr rfl, nofun⟩)
  | some cmp =>
      by_cases copy : isCopy xsn cmp mp = true
      · exact .inl ⟨cmp, rfl, copy⟩
      · rcases Nat.eq_zero_or_pos s.repeats.toNat with zero | some
        · refine .inr (.inl ⟨.inl (UInt32.toNat_inj.mp zero), ?_⟩)
          rintro _ ⟨⟩
          exact copy
        · exact .inr (.inr ⟨cmp, rfl, copy, UInt32.lt_iff_toNat_lt.mpr some⟩)

theorem follows_of_copy {cmp : Su} (saved : s.cmp = some cmp)
    (copy : isCopy xsn cmp mp = true) :
    Follows xsn s.cmp s.repeats.toNat mp ↔ s.repeats.toNat + 1 < 2 ^ 32 := by
  rw [saved]
  unfold Follows
  dsimp only
  rw [if_pos copy]

theorem follows_of_pass (none : s.repeats = 0 ∨ s.cmp = none)
    (copy : ∀ cmp, s.cmp = some cmp → ¬isCopy xsn cmp mp = true) :
    Follows xsn s.cmp s.repeats.toNat mp := by
  unfold Follows
  cases saved : s.cmp with
  | none => exact True.intro
  | some cmp =>
      dsimp only
      rw [if_neg (copy cmp saved)]
      exact congrArg UInt32.toNat
        (none.resolve_right (by rw [saved]; exact nofun))

theorem not_follows_of_end {cmp : Su} (saved : s.cmp = some cmp)
    (copy : ¬isCopy xsn cmp mp = true) (some : 0 < s.repeats) :
    ¬Follows xsn s.cmp s.repeats.toNat mp := by
  rw [saved]
  unfold Follows
  dsimp only
  rw [if_neg copy]
  exact Nat.ne_of_gt (UInt32.lt_iff_toNat_lt.mp some)

theorem eq_of_isCopy {cmp : Su} (copy : isCopy xsn cmp mp = true) :
    mp = cmp := by
  unfold isCopy at copy
  exact (of_decide_eq_true copy).2.2.2

theorem receivedBits_of_follows
    (follows : Follows xsn s.cmp s.repeats.toNat mp) :
    expand (s.receivedBits xsn .none mp).2.1 ++
        (s.receivedBits xsn .none mp).1.held = s.held ++ [mp] := by
  rcases receivedBits_cases xsn s mp with
    ⟨cmp, saved, copy⟩ | ⟨none, copy⟩ | ⟨cmp, saved, copy, some⟩
  · obtain ⟨inds, saved', repeats⟩ := receivedBits_of_copy saved copy
    have room := (follows_of_copy saved copy).mp follows
    rw [inds, held_of_some saved', repeats, Statem.toNat_succ room,
      held_of_some saved, eq_of_isCopy copy, List.replicate_succ']
    rfl
  · obtain ⟨inds, -, -⟩ := pass_eq xsn s mp
    have nothing : s.held = [] := by
      rcases none with zero | none
      · exact held_of_zero zero
      · exact held_of_none none
    rw [receivedBits_of_pass none copy, inds, held_pass none, nothing]
    rfl
  · exact absurd follows (not_follows_of_end saved copy some)

theorem unbroken_receivedBits
    (follows : Follows xsn s.cmp s.repeats.toNat mp) (rest : List Su) :
    Unbroken xsn (s.receivedBits xsn .none mp).1.cmp
        (s.receivedBits xsn .none mp).1.repeats.toNat rest ↔
      if s.cmp.any (isCopy xsn · mp) then
        Unbroken xsn s.cmp (s.repeats.toNat + 1) rest
      else Unbroken xsn (saved xsn s.cmp mp) 0 rest := by
  rcases receivedBits_cases xsn s mp with
    ⟨cmp, saved, copy⟩ | ⟨none, copy⟩ | ⟨cmp, saved, copy, some⟩
  · obtain ⟨-, saved', repeats⟩ := receivedBits_of_copy saved copy
    have room := (follows_of_copy saved copy).mp follows
    rw [saved', repeats, Statem.toNat_succ room, saved, Option.any_some,
      if_pos copy]
  · obtain ⟨-, cmp, repeats⟩ := pass_eq xsn s mp
    have different : ¬s.cmp.any (isCopy xsn · mp) = true := by
      rw [Option.any_eq_true]
      rintro ⟨cmp, saved, same⟩
      exact copy cmp saved same
    rw [receivedBits_of_pass none copy, cmp, repeats, if_neg different]
    unfold Daedr.saved
    by_cases short : mp.length < headerLength xsn + 3
    · rw [if_pos short, if_pos short]
      exact Iff.rfl
    · rw [if_neg short, if_neg short]
      rcases none with zero | none
      · rw [zero]
        exact Iff.rfl
      · rw [none]
        exact unbroken_of_none xsn _ rest
  · exact absurd follows (not_follows_of_end saved copy some)

theorem receivedBits_of_loss
    (loss : ¬Follows xsn s.cmp s.repeats.toNat mp) :
    (expand (s.receivedBits xsn .none mp).2.1).length +
      (s.receivedBits xsn .none mp).1.held.length < s.held.length + 1 := by
  rcases receivedBits_cases xsn s mp with
    ⟨cmp, saved, copy⟩ | ⟨none, copy⟩ | ⟨cmp, saved, copy, some⟩
  · -- the count starts again
    obtain ⟨inds, saved', repeats⟩ := receivedBits_of_copy saved copy
    have full := mt (follows_of_copy saved copy).mpr loss
    have wrapped : (s.repeats + 1).toNat = 0 := by
      have bound := s.repeats.toNat_lt
      rw [UInt32.toNat_add, UInt32.toNat_one]
      omega
    rw [inds, held_of_some saved', repeats, wrapped, held_of_some saved,
      List.length_replicate, List.length_replicate]
    exact Nat.zero_lt_succ _
  · exact absurd (follows_of_pass none copy) loss
  · obtain ⟨inds, saved'⟩ := receivedBits_of_end saved copy some
    rw [inds, held_of_none saved', held_of_some saved]
    simp [expand]

theorem length_received (xsn : Bool) (s : Daedr) (units : List Su) :
    (expand (s.received xsn .none units).2).length +
        (s.received xsn .none units).1.held.length ≤
      s.held.length + units.length := by
  induction units generalizing s with
  | nil => simp [received, expand]
  | cons mp rest ih =>
      have later := ih (s.receivedBits xsn .none mp).1
      have here : (expand (s.receivedBits xsn .none mp).2.1).length +
          (s.receivedBits xsn .none mp).1.held.length ≤ s.held.length + 1 := by
        by_cases follows : Follows xsn s.cmp s.repeats.toNat mp
        · have same := congrArg List.length (receivedBits_of_follows follows)
          rw [List.length_append, List.length_append] at same
          exact Nat.le_of_eq same
        · exact Nat.le_of_lt (receivedBits_of_loss follows)
      unfold received
      dsimp only
      rw [expand_append, List.length_append, List.length_cons]
      omega

/-- Nothing is lost or changed by the compression exactly where no run is ended
by another unit. -/
theorem lossless_iff (xsn : Bool) (s : Daedr) (units : List Su) :
    expand (s.received xsn .none units).2 ++
          (s.received xsn .none units).1.held =
        s.held ++ units ↔
      Unbroken xsn s.cmp s.repeats.toNat units := by
  induction units generalizing s with
  | nil =>
      refine iff_of_true ?_ True.intro
      rw [received, List.append_nil]
      rfl
  | cons mp rest ih =>
      have later := ih (s.receivedBits xsn .none mp).1
      have bound := length_received xsn (s.receivedBits xsn .none mp).1 rest
      unfold received Unbroken
      dsimp only
      rw [expand_append, List.append_assoc]
      by_cases follows : Follows xsn s.cmp s.repeats.toNat mp
      · have here := receivedBits_of_follows follows
        rw [← unbroken_receivedBits follows, ← later]
        rw [show s.held ++ mp :: rest = (s.held ++ [mp]) ++ rest by
          rw [List.append_assoc]
          rfl, ← here, List.append_assoc, List.append_cancel_left_eq]
        exact (and_iff_right follows).symm
      · have short := receivedBits_of_loss follows
        refine iff_of_false ?_ fun both => follows both.1
        intro same
        have lengths := congrArg List.length same
        simp only [List.length_append, List.length_cons] at lengths
        omega

end Runs

def opened : Daedr :=
  { cmp := none, repeats := 0
    monitors := ⟨Monitors.defaults, Statem.opened⟩
    rxSusCompressed := 0, rxBufferOverflows := 0 }

def acknowledging : List Su :=
  [[0x81, 0x81, 0], [0x81, 0x81, 0], [0x82, 0x81, 0]]

theorem acknowledgement_is_lost :
    expand (opened.received false .none acknowledging).2 =
        [[0x81, 0x81, 0], [0x81, 0x81, 0]] ∧
      (opened.received false .none acknowledging).1.held = [] ∧
      expand (opened.received false .none acknowledging).2 ++
          (opened.received false .none acknowledging).1.held ≠
        opened.held ++ acknowledging := by
  decide

end Daedr

end OpenSS7.Sdt
