import OpenSS7.Lib.Intervals
import OpenSS7.Lib.Runs
import OpenSS7.Sad.Autopush

namespace OpenSS7.Sad

open Intervals

def begins (api : Apinfo) : Int := api.apiSap.sapMinor

def ends (api : Apinfo) : Int := api.apiSap.sapLastminor

theorem Apinfo.covers_iff (api : Apinfo) (minor : Nat) :
    api.covers minor = true ↔ Covers begins ends api minor :=
  decide_eq_true_iff

/-- What the checks of `autopush_add` leave of a range. -/
structure Sound (sap : Strapush) : Prop where
  first_nonneg : 0 ≤ sap.sapMinor
  first_lt : sap.sapMinor < 2 ^ 16
  first_le_last : sap.sapMinor ≤ sap.sapLastminor

theorem ranged_first_le {sap entry : Strapush} (h : ranged sap = .ok entry) :
    (0 ≤ entry.sapMinor → entry.sapMinor ≤ entry.sapLastminor) ∧
      entry.sapModule = sap.sapModule := by
  unfold ranged at h
  cases cmd : sap.sapCmd with
  | one | clone =>
      simp only [cmd, Except.ok.injEq] at h
      subst h
      exact ⟨fun _ => Int.le_refl _, rfl⟩
  | range =>
      simp only [cmd] at h
      split at h
      · cases h
      · cases h
        exact ⟨fun _ => by omega, rfl⟩
  | all =>
      simp only [cmd, Except.ok.injEq] at h
      subst h
      exact ⟨fun _ => by simp [getminor, makedevice], rfl⟩
  | clear | other =>
      simp only [cmd, reduceCtorEq] at h

theorem first_of_not_badMinor {sap : Strapush} (h : ¬badMinor sap) :
    0 ≤ sap.sapMinor ∧ sap.sapMinor < 2 ^ 16 := by
  simp only [badMinor, getminor, makedevice, not_not] at h
  omega

theorem checked_sound {sap entry : Strapush} (h : checked sap = .ok entry) :
    Sound entry := by
  unfold checked at h
  cases range : ranged sap with
  | error errno => simp [range, bind, Except.bind] at h
  | ok given =>
      have order := (ranged_first_le range).1
      simp only [range, bind, Except.bind, pure, Except.pure, throw,
        throwThe, MonadExceptOf.throw] at h
      split at h
      · cases h
      · split at h
        · cases h
        · rename_i minor
          have bounds := first_of_not_badMinor minor
          split at h
          · cases h
          · split at h
            · cases h
              exact ⟨bounds.1, bounds.2, order bounds.1⟩
            · cases h

theorem Sound.minorT_first {sap : Strapush} (sound : Sound sap) :
    (minorT sap.sapMinor : Int) = sap.sapMinor := by
  have := sound.first_nonneg
  have := sound.first_lt
  unfold minorT
  omega

theorem autopushFind_mem {apush : List Apinfo} {minor : Nat} {api : Apinfo}
    (found : autopushFind apush minor = some api) :
    api ∈ apush ∧ Covers begins ends api minor := by
  induction apush with
  | nil => cases found
  | cons head more ih =>
      simp only [autopushFind] at found
      split at found
      · rename_i covers
        cases found
        exact ⟨List.mem_cons_self, (api.covers_iff minor).mp covers⟩
      · obtain ⟨mem, covers⟩ := ih found
        exact ⟨List.mem_cons_of_mem head mem, covers⟩

theorem autopushFind_none {apush : List Apinfo} {minor : Nat} :
    autopushFind apush minor = none ↔
      ∀ api ∈ apush, ¬Covers begins ends api minor := by
  induction apush with
  | nil => simp [autopushFind]
  | cons head more ih =>
      simp only [autopushFind, List.forall_mem_cons]
      split
      · rename_i covers
        simp [(head.covers_iff minor).mp covers]
      · rename_i outside
        rw [Apinfo.covers_iff] at outside
        simp only [outside, not_false_eq_true, true_and, ih]

/-- What `__autopush_next` has seen before the rest of its walk. -/
def Seen (minor next : Nat) : Option Apinfo → Prop
  | none => next = minor
  | some ani => begins ani = next ∧ minor < next

def lower (minor : Nat) (ani : Option Apinfo) (api : Apinfo) :
    Option Apinfo :=
  if (minor : Int) < begins api ∧
      ani.all fun earlier => begins api < begins earlier
  then some api else ani

theorem nextFrom_eq {minor : Nat} {apush : List Apinfo} {next : Nat}
    {ani : Option Apinfo} (sound : ∀ api ∈ apush, Sound api.apiSap)
    (seen : Seen minor next ani) :
    nextFrom minor apush next ani =
      (autopushFind apush minor).or (apush.foldl (lower minor) ani) := by
  induction apush generalizing next ani with
  | nil => rfl
  | cons head more ih =>
      have first := (sound head List.mem_cons_self).minorT_first
      have sound_more : ∀ api ∈ more, Sound api.apiSap :=
        fun api mem => sound api (List.mem_cons_of_mem head mem)
      simp only [nextFrom, autopushFind, List.foldl_cons]
      split
      · rfl
      · cases ani with
        | none =>
            have unset : next = minor := seen
            simp only [unset, if_true, lower, Option.all_none, and_true]
            split
            · rename_i above
              rw [if_pos (show (minor : Int) < begins head from above)]
              refine ih sound_more ⟨first.symm, ?_⟩
              omega
            · rename_i below
              rw [if_neg (show ¬(minor : Int) < begins head from below)]
              exact ih sound_more rfl
        | some earlier =>
            obtain ⟨start, above⟩ : begins earlier = next ∧ minor < next :=
              seen
            rw [if_neg (Nat.ne_of_gt above)]
            simp only [lower, Option.all_some, decide_eq_true_eq, start]
            split
            · rename_i between
              rw [if_pos (show (minor : Int) < begins head ∧
                begins head < next from between)]
              refine ih sound_more ⟨first.symm, ?_⟩
              have := between.1
              omega
            · rename_i outside
              rw [if_neg (show ¬((minor : Int) < begins head ∧
                begins head < next) from outside)]
              exact ih sound_more ⟨start, above⟩

theorem lower_none {minor : Nat} {apush : List Apinfo}
    {ani : Option Apinfo} (lowest : apush.foldl (lower minor) ani = none) :
    ani = none ∧ ∀ api ∈ apush, ¬(minor : Int) < begins api := by
  induction apush generalizing ani with
  | nil => exact ⟨lowest, by simp⟩
  | cons head more ih =>
      obtain ⟨kept, rest⟩ := ih lowest
      unfold lower at kept
      split at kept
      · cases kept
      · rename_i out
        subst kept
        refine ⟨rfl, List.forall_mem_cons.mpr ⟨?_, rest⟩⟩
        intro above
        exact out ⟨above, rfl⟩

theorem lower_some {minor : Nat} {apush : List Apinfo}
    {ani : Option Apinfo} {api : Apinfo}
    (lowest : apush.foldl (lower minor) ani = some api) :
    (ani = some api ∨ api ∈ apush ∧ (minor : Int) < begins api) ∧
      (∀ earlier, ani = some earlier → begins api ≤ begins earlier) ∧
      ∀ other ∈ apush, (minor : Int) < begins other →
        begins api ≤ begins other := by
  induction apush generalizing ani with
  | nil =>
      refine ⟨Or.inl lowest, ?_, by simp⟩
      intro earlier same
      rw [show ani = some api from lowest] at same
      cases same
      exact Int.le_refl _
  | cons head more ih =>
      obtain ⟨source, least, rest⟩ := ih lowest
      by_cases taken : (minor : Int) < begins head ∧
          ani.all fun earlier => begins head < begins earlier
      · rw [lower, if_pos taken] at source least
        have below := least head rfl
        refine ⟨Or.inr ?_, ?_, List.forall_mem_cons.mpr
          ⟨fun _ => below, rest⟩⟩
        · obtain same | ⟨mem, above⟩ := source
          · cases same
            exact ⟨List.mem_cons_self, taken.1⟩
          · exact ⟨List.mem_cons_of_mem head mem, above⟩
        · rintro earlier rfl
          have := of_decide_eq_true taken.2
          omega
      · rw [lower, if_neg taken] at source least
        refine ⟨?_, least, List.forall_mem_cons.mpr ⟨?_, rest⟩⟩
        · exact source.imp_right fun ⟨mem, above⟩ =>
            ⟨List.mem_cons_of_mem head mem, above⟩
        · intro above
          cases ani with
          | none => exact absurd ⟨above, rfl⟩ taken
          | some earlier =>
              have := least earlier rfl
              have : ¬begins head < begins earlier := fun order =>
                taken ⟨above, decide_eq_true order⟩
              omega

theorem autopushNext_iff {apush : List Apinfo}
    (sound : ∀ api ∈ apush, Sound api.apiSap)
    (separate : Separate begins ends apush) (minor : Nat) (api : Apinfo) :
    autopushNext apush minor = some api ↔
      Follows begins ends apush minor api := by
  have walk : autopushNext apush minor =
      (autopushFind apush minor).or (apush.foldl (lower minor) none) :=
    nextFrom_eq sound rfl
  cases result : autopushNext apush minor with
  | none =>
      rw [walk, Option.or_eq_none_iff] at result
      have uncovered := autopushFind_none.mp result.1
      have unreached := (lower_none result.2).2
      constructor
      · intro h
        cases h
      · rintro ⟨mem, covers | ⟨-, above, -⟩⟩
        · exact absurd covers (uncovered api mem)
        · exact absurd above (unreached api mem)
  | some found =>
      have follows : Follows begins ends apush minor found := by
        rw [walk] at result
        cases covered : autopushFind apush minor with
        | some covering =>
            rw [covered] at result
            cases result
            obtain ⟨mem, covers⟩ := autopushFind_mem covered
            exact ⟨mem, Or.inl covers⟩
        | none =>
            rw [covered, Option.none_or] at result
            obtain ⟨source, -, least⟩ := lower_some result
            obtain ⟨mem, above⟩ := source.resolve_left nofun
            exact ⟨mem, Or.inr
              ⟨autopushFind_none.mp covered, above, least⟩⟩
      constructor
      · intro same
        cases same
        exact follows
      · intro other
        rw [separate.follows_unique follows other]

theorem autopushFind_iff {apush : List Apinfo}
    (separate : Separate begins ends apush) (minor : Nat) (api : Apinfo) :
    autopushFind apush minor = some api ↔
      api ∈ apush ∧ Covers begins ends api minor := by
  constructor
  · exact autopushFind_mem
  · rintro ⟨mem, covers⟩
    cases result : autopushFind apush minor with
    | none => exact absurd covers (autopushFind_none.mp result api mem)
    | some found =>
        obtain ⟨memFound, coversFound⟩ := autopushFind_mem result
        rw [separate.covers_unique memFound mem coversFound covers]

theorem apushLst_iff {apush : List Apinfo}
    (sound : ∀ api ∈ apush, Sound api.apiSap)
    (separate : Separate begins ends apush) {point : Int}
    (start : point = 0 ∨ ∃ last ∈ apush, point = ends last + 1)
    (api : Apinfo) :
    (apushLst apush point).toOption = some api ↔
      Follows begins ends apush point api := by
  have nonneg : 0 ≤ point := by
    obtain rfl | ⟨last, mem, rfl⟩ := start
    · exact Int.le_refl _
    · have := (sound last mem).first_nonneg
      have := (sound last mem).first_le_last
      simp only [ends]
      omega
  unfold apushLst
  split
  · rename_i refused
    have beyond : 2 ^ 16 ≤ point := by
      simp only [getminor, makedevice] at refused
      omega
    refine ⟨nofun, ?_⟩
    rintro ⟨mem, covers | ⟨-, above, -⟩⟩
    · obtain rfl | ⟨last, memLast, rfl⟩ := start
      · omega
      · -- the entry that ended there begins no later than this one ends
        exfalso
        have below := (sound api mem).first_lt
        have below_last := (sound last memLast).first_lt
        by_cases same : api = last
        · subst same
          have := covers.2
          omega
        · have := covers.2
          simp only [ends] at beyond this
          obtain apart | apart :=
            separate.apart_of_ne mem memLast same <;>
          · simp only [begins, ends] at apart
            omega
    · have := (sound api mem).first_lt
      simp only [begins] at above
      omega
  · rename_i fits
    have point_eq : (minorT point : Int) = point := by
      simp only [getminor, makedevice] at fits
      unfold minorT
      omega
    have next := autopushNext_iff sound separate (minorT point) api
    rw [point_eq] at next
    rw [← next]
    cases autopushNext apush (minorT point) with
    | none => exact ⟨nofun, nofun⟩
    | some found =>
        change some found = some api ↔ _
        rfl

def stepping (apush : List Apinfo) (steps : Nat) : List Apinfo :=
  sweep ends (fun minor => (apushLst apush minor).toOption) steps 0

structure Unambiguous (apush : List Apinfo) : Prop where
  nonempty : ∀ api ∈ apush, begins api ≤ ends api
  disjoint : apush.Pairwise fun left right =>
    ∀ minor, ¬(Covers begins ends left minor ∧ Covers begins ends right minor)
  find : ∀ (minor : Nat) api, autopushFind apush minor = some api ↔
    api ∈ apush ∧ Covers begins ends api minor
  find_none : ∀ minor : Nat, autopushFind apush minor = none ↔
    ∀ api ∈ apush, ¬Covers begins ends api minor
  find_order : ∀ others, apush.Perm others → ∀ minor,
    autopushFind others minor = autopushFind apush minor
  next : ∀ (minor : Nat) api, autopushNext apush minor = some api ↔
    Follows begins ends apush minor api
  visits : ∀ steps, apush.length ≤ steps →
    (stepping apush steps).Perm apush

theorem apart_iff_disjoint {apush : List Apinfo}
    (sound : ∀ api ∈ apush, Sound api.apiSap) :
    apush.Pairwise (Apart begins ends) ↔
      apush.Pairwise fun left right => ∀ minor,
        ¬(Covers begins ends left minor ∧ Covers begins ends right minor) :=
  List.Pairwise.iff_of_mem fun memLeft memRight =>
    apart_iff (sound _ memLeft).first_le_last (sound _ memRight).first_le_last

theorem stepping_perm {apush : List Apinfo}
    (sound : ∀ api ∈ apush, Sound api.apiSap)
    (separate : Separate begins ends apush) {steps : Nat}
    (enough : apush.length ≤ steps) :
    (stepping apush steps).Perm apush := by
  have all_ahead : apush.filter (fun api => decide (0 ≤ ends api)) =
      apush := by
    refine List.filter_eq_self.mpr ?_
    intro api mem
    have := (sound api mem).first_nonneg
    have := (sound api mem).first_le_last
    exact decide_eq_true (by simp only [ends]; omega)
  have swept : (stepping apush steps).Perm
      (apush.filter fun api => decide (0 ≤ ends api)) :=
    separate.sweep_perm steps 0
      (apushLst_iff sound separate (Or.inl rfl))
      (fun last mem => apushLst_iff sound separate (Or.inr ⟨last, mem, rfl⟩))
      (by rw [all_ahead]; exact enough)
  rw [all_ahead] at swept
  exact swept

theorem unambiguous_iff {apush : List Apinfo}
    (sound : ∀ api ∈ apush, Sound api.apiSap) :
    Unambiguous apush ↔ apush.Pairwise (Apart begins ends) := by
  constructor
  · intro unambiguous
    exact (apart_iff_disjoint sound).mpr unambiguous.disjoint
  · intro apart
    have separate : Separate begins ends apush :=
      ⟨fun api mem => (sound api mem).first_le_last, apart⟩
    refine ⟨separate.nonempty, (apart_iff_disjoint sound).mp apart,
      autopushFind_iff separate, fun _ => autopushFind_none, ?_,
      autopushNext_iff sound separate,
      fun _ => stepping_perm sound separate⟩
    intro others perm minor
    refine Option.ext fun api => ?_
    rw [autopushFind_iff separate, autopushFind_iff (separate.perm perm),
      perm.mem_iff]

def Thins (before after : List Apinfo) : Prop :=
  (after.map Apinfo.apiSap).Sublist (before.map Apinfo.apiSap)

theorem Thins.sound {before after : List Apinfo} (thins : Thins before after)
    (sound : ∀ api ∈ before, Sound api.apiSap) :
    ∀ api ∈ after, Sound api.apiSap := by
  intro api mem
  obtain ⟨kept, memKept, same⟩ :=
    List.mem_map.mp (thins.subset (List.mem_map_of_mem mem))
  rw [← same]
  exact sound kept memKept

theorem Thins.apart {before after : List Apinfo} (thins : Thins before after)
    (apart : before.Pairwise (Apart begins ends)) :
    after.Pairwise (Apart begins ends) := by
  have saps : (before.map Apinfo.apiSap).Pairwise
      (Apart Strapush.sapMinor Strapush.sapLastminor) :=
    List.pairwise_map.mpr apart
  have kept : (after.map Apinfo.apiSap).Pairwise
      (Apart Strapush.sapMinor Strapush.sapLastminor) := saps.sublist thins
  exact (List.pairwise_map (f := Apinfo.apiSap)).mp kept

theorem atEntry_thins (found : Apinfo) {work : Apinfo → Option Apinfo}
    (same : ∀ api left, work api = some left → left.apiSap = api.apiSap)
    (apush : List Apinfo) : Thins apush (atEntry found work apush) := by
  induction apush with
  | nil => exact List.Sublist.refl _
  | cons head more ih =>
      unfold atEntry
      split
      · cases worked : work head with
        | none => exact List.sublist_cons_self _ _
        | some left =>
            simp only [Thins, Option.toList, List.cons_append, List.nil_append,
              List.map_cons, same head left worked]
            exact List.Sublist.refl _
      · exact List.Sublist.cons_cons _ ih

theorem apPut_same (api left : Apinfo) (h : apPut api = some left) :
    left.apiSap = api.apiSap := by
  unfold apPut at h
  split at h <;> cases h
  rfl

theorem delFrom_thins {sap : Strapush} {apush left : List Apinfo}
    (h : delFrom sap apush = .ok left) : Thins apush left := by
  unfold delFrom at h
  split at h
  · cases h
  · split at h
    · cases h
    · cases h
      exact atEntry_thins _ apPut_same apush

theorem addTo_ok {memory : Bool} {sap : Strapush} {apush left : List Apinfo}
    (h : addTo memory sap apush = .ok left) :
    memory = true ∧ autopushFind apush (minorT sap.sapMinor) = none ∧
      left = apush ++ [⟨sap, 1⟩] := by
  unfold addTo apAlloc at h
  split at h
  · cases h
  · rename_i unfound
    cases memory with
    | false => cases h
    | true =>
        cases h
        exact ⟨rfl, unfound, rfl⟩

section Runs

variable {δ : Type} [DecidableEq δ]

def Registry.device (registry : Registry δ) (sap : Strapush) : Option δ :=
  if unnamed sap then registry.sdevGet sap.sapMajor
  else registry.cdevFind sap.sapModule

def Request.Fits (lists : Lists δ) : Request δ → Prop
  | .add registry memory sap =>
      ∀ entry cdev, checked sap = .ok entry →
        registry.device entry = some cdev → memory = true →
        autopushFind (lists cdev) (minorT entry.sapMinor) = none →
        ∀ api ∈ lists cdev,
          ¬(entry.sapMinor < begins api ∧ begins api ≤ entry.sapLastminor)
  | _ => True

theorem autopushAdd_cases (registry : Registry δ) (memory : Bool)
    (sap : Strapush) (lists : Lists δ) :
    (autopushAdd registry memory sap lists).2 = lists ∨
      ∃ entry cdev, checked sap = .ok entry ∧
        registry.device entry = some cdev ∧ memory = true ∧
        autopushFind (lists cdev) (minorT entry.sapMinor) = none := by
  unfold autopushAdd
  cases check : checked sap with
  | error errno => exact Or.inl rfl
  | ok entry =>
      dsimp only
      split
      · rename_i unnamed
        cases device : registry.sdevGet entry.sapMajor with
        | none => exact Or.inl rfl
        | some cdev =>
            cases added : addTo memory entry (lists cdev) with
            | error errno => exact Or.inl (by simp only [added, Lists.settle])
            | ok apush =>
                obtain ⟨memory, unfound, -⟩ := addTo_ok added
                refine Or.inr ⟨entry, cdev, rfl, ?_, memory, unfound⟩
                rw [Registry.device, if_pos unnamed, device]
      · rename_i named
        cases device : registry.cdevFind entry.sapModule with
        | none => exact Or.inl rfl
        | some cdev =>
            cases added : addTo memory
                { entry with sapMajor := registry.dMajor cdev }
                (lists cdev) with
            | error errno => exact Or.inl (by simp only [added, Lists.settle])
            | ok apush =>
                obtain ⟨memory, unfound, -⟩ := addTo_ok added
                refine Or.inr ⟨entry, cdev, rfl, ?_, memory, unfound⟩
                rw [Registry.device, if_neg named, device]

theorem addTo_unfound {sap : Strapush} {apush : List Apinfo}
    (unfound : autopushFind apush (minorT sap.sapMinor) = none) :
    addTo true sap apush = .ok (apush ++ [⟨sap, 1⟩]) := by
  simp [addTo, unfound, apAlloc]

theorem autopushAdd_adds {registry : Registry δ} {sap entry : Strapush}
    {lists : Lists δ} {cdev : δ} (check : checked sap = .ok entry)
    (device : registry.device entry = some cdev)
    (unfound : autopushFind (lists cdev) (minorT entry.sapMinor) = none) :
    ∃ api : Apinfo, begins api = entry.sapMinor ∧
      ends api = entry.sapLastminor ∧
      (autopushAdd registry true sap lists).2 =
        Function.update lists cdev (lists cdev ++ [api]) := by
  unfold autopushAdd
  rw [check]
  dsimp only
  unfold Registry.device at device
  split at device
  · rename_i unnamed
    refine ⟨⟨entry, 1⟩, rfl, rfl, ?_⟩
    rw [if_pos unnamed, device]
    simp only [addTo_unfound unfound, Lists.settle]
  · rename_i named
    refine ⟨⟨{ entry with sapMajor := registry.dMajor cdev }, 1⟩,
      rfl, rfl, ?_⟩
    rw [if_neg named, device]
    have added : addTo true { entry with sapMajor := registry.dMajor cdev }
        (lists cdev) = .ok (lists cdev ++
          [⟨{ entry with sapMajor := registry.dMajor cdev }, 1⟩]) :=
      addTo_unfound unfound
    simp only [added, Lists.settle]

theorem update_thins {lists : Lists δ} {cdev : δ} {apush : List Apinfo}
    (thins : Thins (lists cdev) apush) (other : δ) :
    Thins (lists other) (Function.update lists cdev apush other) := by
  by_cases same : other = cdev
  · subst same
    rw [Function.update_self]
    exact thins
  · rw [Function.update_of_ne same]
    exact List.Sublist.refl _

theorem autopushDel_thins (registry : Registry δ) (sap : Strapush)
    (lists : Lists δ) (cdev : δ) :
    Thins (lists cdev) ((autopushDel registry sap lists).2 cdev) := by
  unfold autopushDel
  split
  · exact List.Sublist.refl _
  · split
    · exact List.Sublist.refl _
    · split
      · exact List.Sublist.refl _
      · rename_i device _
        cases deleted : delFrom sap (lists device) with
        | error errno =>
            simp only [Lists.settle]
            exact List.Sublist.refl _
        | ok apush => exact update_thins (delFrom_thins deleted) cdev

theorem held_thins (lists : Lists δ) (device : δ) (found : Option Apinfo)
    {hold : Apinfo → Option Apinfo}
    (same : ∀ api left, hold api = some left → left.apiSap = api.apiSap)
    (cdev : δ) :
    Thins (lists cdev) (lists.held device found hold cdev) := by
  cases found with
  | none => exact List.Sublist.refl _
  | some api => exact update_thins (atEntry_thins api same _) cdev

theorem step_cases (lists : Lists δ) (request : Request δ) :
    (request.Fits lists ∧
      ∀ cdev, Thins (lists cdev) (lists.step request cdev)) ∨
    ∃ cdev api, Sound api.apiSap ∧
      lists.step request =
        Function.update lists cdev (lists cdev ++ [api]) ∧
      autopushFind (lists cdev) (minorT (begins api)) = none ∧
      (request.Fits lists ↔ ∀ other ∈ lists cdev,
        ¬(begins api < begins other ∧ begins other ≤ ends api)) := by
  cases request with
  | add registry memory sap =>
      by_cases adds : ∃ entry cdev, checked sap = .ok entry ∧
          registry.device entry = some cdev ∧ memory = true ∧
          autopushFind (lists cdev) (minorT entry.sapMinor) = none
      · obtain ⟨entry, cdev, check, device, rfl, unfound⟩ := adds
        obtain ⟨api, first, last, after⟩ :=
          autopushAdd_adds check device unfound
        have sound := checked_sound check
        refine Or.inr ⟨cdev, api, ⟨?_, ?_, ?_⟩, after, ?_, ?_⟩
        · exact sound.first_nonneg.trans_eq first.symm
        · exact first.trans_lt sound.first_lt
        · exact (first.trans_le sound.first_le_last).trans_eq last.symm
        · rw [first]
          exact unfound
        · rw [first, last]
          constructor
          · intro fits
            exact fits entry cdev check device rfl unfound
          · intro clear entry' cdev' check' device' _ _
            rw [check] at check'
            cases check'
            rw [device] at device'
            cases device'
            exact clear
      · left
        constructor
        · intro entry cdev check device memory unfound
          exact absurd ⟨entry, cdev, check, device, memory, unfound⟩ adds
        · intro cdev
          have same := (autopushAdd_cases registry memory sap lists)
            |>.resolve_right adds
          simp only [Lists.step, same]
          exact List.Sublist.refl _
  | del registry sap =>
      exact Or.inl ⟨True.intro, autopushDel_thins registry sap lists⟩
  | find device minor =>
      refine Or.inl ⟨True.intro, held_thins lists device _ ?_⟩
      rintro api left ⟨⟩
      rfl
  | next device minor =>
      refine Or.inl ⟨True.intro, held_thins lists device _ ?_⟩
      rintro api left ⟨⟩
      rfl

def Lists.Sound (lists : Lists δ) : Prop :=
  ∀ cdev, ∀ api ∈ lists cdev, Sad.Sound api.apiSap

def Lists.Apart (lists : Lists δ) : Prop :=
  ∀ cdev, (lists cdev).Pairwise (Intervals.Apart begins ends)

theorem Lists.Sound.step {lists : Lists δ} (sound : lists.Sound)
    (request : Request δ) : (lists.step request).Sound := by
  intro cdev
  obtain ⟨-, thins⟩ | ⟨device, api, new, after, -, -⟩ :=
    step_cases lists request
  · exact (thins cdev).sound (sound cdev)
  · rw [after]
    by_cases same : cdev = device
    · subst same
      rw [Function.update_self]
      intro other mem
      obtain old | new_mem := List.mem_append.mp mem
      · exact sound cdev other old
      · cases List.mem_singleton.mp new_mem
        exact new
    · rw [Function.update_of_ne same]
      exact sound cdev

theorem apart_append {apush : List Apinfo} {api : Apinfo}
    (sound : ∀ other ∈ apush, Sound other.apiSap) (new : Sound api.apiSap)
    (apart : apush.Pairwise (Intervals.Apart begins ends))
    (unfound : autopushFind apush (minorT (begins api)) = none) :
    (apush ++ [api]).Pairwise (Intervals.Apart begins ends) ↔
      ∀ other ∈ apush,
        ¬(begins api < begins other ∧ begins other ≤ ends api) := by
  have uncovered := autopushFind_none.mp unfound
  have first : (minorT (begins api) : Int) = begins api := new.minorT_first
  rw [first] at uncovered
  rw [List.pairwise_append]
  simp only [apart, List.pairwise_singleton, List.mem_singleton, forall_eq,
    true_and]
  refine forall₂_congr fun other mem => ?_
  have other_order : begins other ≤ ends other :=
    (sound other mem).first_le_last
  have order : begins api ≤ ends api := new.first_le_last
  have outside := uncovered other mem
  simp only [Covers, Intervals.Apart] at outside ⊢
  omega

theorem Lists.apart_step_iff {lists : Lists δ} (request : Request δ)
    (sound : lists.Sound) (apart : lists.Apart) :
    (lists.step request).Apart ↔ request.Fits lists := by
  obtain ⟨fits, thins⟩ | ⟨device, api, new, after, unfound, fits⟩ :=
    step_cases lists request
  · exact iff_of_true (fun cdev => (thins cdev).apart (apart cdev)) fits
  · have added :=
      apart_append (sound device) new (apart device) unfound
    rw [fits, ← added]
    constructor
    · intro after_apart
      have := after_apart device
      rwa [after, Function.update_self] at this
    · intro device_apart cdev
      rw [after]
      by_cases same : cdev = device
      · subst same
        rwa [Function.update_self]
      · rw [Function.update_of_ne same]
        exact apart cdev

def Lists.empty : Lists δ := fun _ => []

/-- The lists stay unambiguous through a run of requests exactly when each
entry is added in a range in which none of its device begins. -/
theorem autopush_unambiguous_iff (requests : List (Request δ)) :
    (∀ n cdev, Unambiguous
      ((requests.take n).foldl Lists.step Lists.empty cdev)) ↔
      Runs.Along Lists.step (fun lists request => request.Fits lists)
        Lists.empty requests := by
  have start : (Lists.empty : Lists δ).Sound := fun _ _ => nofun
  have sound : ∀ n, ((requests.take n).foldl Lists.step
      (Lists.empty : Lists δ)).Sound := fun n =>
    List.foldlRecOn _ _ start fun _ sound request _ => sound.step request
  have apart := @Runs.along_iff _ _ Lists.step
    (fun lists request => request.Fits lists) _ _
    (fun _ request sound => Lists.Sound.step sound request)
    (fun _ request sound apart => Lists.apart_step_iff request sound apart)
    _ requests start (fun _ => List.Pairwise.nil)
  rw [← apart]
  refine forall_congr' fun n => forall_congr' fun cdev => ?_
  exact unambiguous_iff (sound n cdev)

end Runs

def pushOn (cmd : SapCmd) (first last : Int) : Strapush where
  sapCmd := cmd
  sapMajor := 1
  sapMinor := first
  sapLastminor := last
  sapNpush := 1
  sapList := [[116]]
  sapModule := []

def oneDevice : Registry Unit where
  sdevGet := fun _ => some ()
  cdevFind := fun _ => none
  dMajor := fun _ => 1

def overlapping : List (Request Unit) :=
  [.add oneDevice true (pushOn .one 5 5),
    .add oneDevice true (pushOn .range 1 10)]

theorem overlapping_ambiguous :
    ¬∀ n cdev, Unambiguous
      ((overlapping.take n).foldl Lists.step Lists.empty cdev) := by
  intro unambiguous
  have both : (overlapping.take 2).foldl Lists.step Lists.empty () =
      [⟨pushOn .one 5 5, 1⟩, ⟨pushOn .range 1 10, 1⟩] := by
    decide
  have disjoint := (unambiguous 2 ()).disjoint
  rw [both, List.pairwise_pair] at disjoint
  exact disjoint 5 ⟨by decide, by decide⟩

end OpenSS7.Sad
