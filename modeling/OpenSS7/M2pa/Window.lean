import OpenSS7.M2pa.Service

/-!
The transmit window: the numbers of the messages on `rtb`, the counter of
messages to be acknowledged, and what an acknowledgement releases, as long as
no step leaves the numbers behind `rtb`.
-/

namespace OpenSS7.M2pa

open Program SlidingWindow

theorem Version.space_pos (version : Version) : 0 < version.space := by
  unfold Version.space
  split <;> decide

theorem Version.space_dvd (version : Version) : version.space ∣ 2 ^ 24 := by
  unfold Version.space
  split
  · exact ⟨2 ^ 8, rfl⟩
  · exact dvd_refl _

theorem Version.space_le (version : Version) : version.space ≤ 2 ^ 24 :=
  Nat.le_of_dvd (by decide) version.space_dvd

theorem Version.mod_space (version : Version) (n : Nat) :
    n % 2 ^ 24 ≡ n [MOD version.space] :=
  Nat.mod_mod_of_dvd n version.space_dvd

def Release.Covered (version : Version) (r : Release) : Prop :=
  1 ≤ version.forward r.bsnr r.fsn ∧
    version.forward r.bsnr r.fsn ≤ version.forward r.bsnr r.bsn

namespace View

/-- The window between `bsnr` and `fsnt`. -/
structure Window (v : View) : Prop where
  numbered : ∀ i m, v.rtb[i]? = some m →
    m.fsn ≡ v.bsnr + 1 + i [MOD v.version.space]
  last : v.bsnr + v.rtb.length ≡ v.fsnt [MOD v.version.space]
  narrow : v.rtb.length < v.version.space
  counted : v.tack = v.rtb.length
  covered : ∀ r ∈ v.freed, r.Covered v.version

theorem Window.forward {v : View} (window : v.Window) :
    v.version.forward v.bsnr v.fsnt = v.rtb.length :=
  ahead_eq window.narrow window.last

theorem Window.extend {v : View} (window : v.Window) (m : Msg)
    (room : v.rtb.length + 1 < v.version.space) : (v.extend m).Window where
  numbered := by
    intro i sent found
    simp only [View.extend, List.getElem?_append] at found
    split at found
    case isTrue => exact window.numbered i sent found
    case isFalse beyond =>
      obtain ⟨rfl, rfl⟩ : i = v.rtb.length ∧
          ⟨(v.fsnt + 1) % 2 ^ 24, m⟩ = sent := by
        rw [List.getElem?_eq_some_iff] at found
        obtain ⟨inside, eq⟩ := found
        simp only [List.length_singleton] at inside
        have first : i - v.rtb.length = 0 := by omega
        simp only [first, List.getElem_singleton] at eq
        exact ⟨by omega, eq⟩
      calc (v.fsnt + 1) % 2 ^ 24
          ≡ v.fsnt + 1 [MOD v.version.space] := v.version.mod_space _
        _ ≡ v.bsnr + v.rtb.length + 1 [MOD v.version.space] :=
            window.last.symm.add_right 1
        _ = v.bsnr + 1 + v.rtb.length := by omega
  last := by
    show v.bsnr + (v.rtb ++ [_]).length ≡ (v.fsnt + 1) % 2 ^ 24 [MOD _]
    rw [List.length_append, List.length_singleton, ← Nat.add_assoc]
    exact (window.last.add_right 1).trans (v.version.mod_space _).symm
  narrow := by
    simpa [View.extend] using room
  counted := by
    have small := v.version.space_le
    simp only [View.extend, window.counted, List.length_append,
      List.length_singleton]
    omega
  covered := window.covered

theorem decrement_iterate {n k : Nat} (below : k ≤ n) (small : n < 2 ^ 32) :
    decrement^[k] n = n - k := by
  induction k with
  | zero => rfl
  | succ k ih =>
      rw [Function.iterate_succ_apply', ih (by omega)]
      unfold decrement
      omega

theorem Window.acknowledge {v : View} (window : v.Window) {bsn count : Nat}
    (counts : v.Counts bsn count) :
    ({ v.release bsn count with bsnr := bsn } : View).Window := by
  have held : count ≤ v.rtb.length := window.forward ▸ counts.sent
  have leads : v.bsnr + count ≡ bsn [MOD v.version.space] := by
    rw [counts.forward]
    exact add_ahead v.version.space_pos
  have narrow := window.narrow
  refine ⟨fun i m found => ?_, ?_, ?_, ?_, fun r freed => ?_⟩
  · rw [View.release, List.getElem?_drop] at found
    calc m.fsn
        ≡ v.bsnr + 1 + (count + i) [MOD v.version.space] :=
          window.numbered _ m found
      _ = v.bsnr + count + (1 + i) := by omega
      _ ≡ bsn + (1 + i) [MOD v.version.space] := leads.add_right _
      _ = bsn + 1 + i := by omega
  · calc bsn + (v.rtb.drop count).length
        ≡ v.bsnr + count + (v.rtb.drop count).length [MOD v.version.space] :=
          leads.symm.add_right _
      _ = v.bsnr + v.rtb.length := by rw [List.length_drop]; omega
      _ ≡ v.fsnt [MOD v.version.space] := window.last
  · show (v.rtb.drop count).length < v.version.space
    rw [List.length_drop]
    omega
  · have small := v.version.space_le
    show decrement^[min count v.rtb.length] v.tack = (v.rtb.drop count).length
    rw [Nat.min_eq_left held, window.counted,
      decrement_iterate held (by omega), List.length_drop]
  · rcases List.mem_append.1 freed with before | now
    · exact window.covered r before
    · obtain ⟨m, taken, rfl⟩ := List.mem_map.1 now
      obtain ⟨i, inside, rfl⟩ := List.getElem_of_mem taken
      rw [List.length_take] at inside
      have number : v.version.forward v.bsnr (v.rtb.take count)[i].fsn =
          1 + i := by
        refine ahead_eq (by omega) ?_
        rw [List.getElem_take, ← Nat.add_assoc]
        exact (window.numbered i _ (List.getElem?_eq_getElem (by omega))).symm
      show 1 ≤ v.version.forward v.bsnr _ ∧
        v.version.forward v.bsnr _ ≤ v.version.forward v.bsnr bsn
      rw [number, ← counts.forward]
      omega

def Exact (v : View) : Prop := v.missteps = [] → v.Window

theorem Exact.quiet {v w : View} (kept : v.Exact)
    (same : (w.version, w.bsnr, w.fsnt, w.tack, w.rtb, w.freed, w.missteps) =
      (v.version, v.bsnr, v.fsnt, v.tack, v.rtb, v.freed, v.missteps)) :
    w.Exact := by
  obtain ⟨version, bsnr, fsnt, tack, rtb, freed, missteps⟩ :
      w.version = v.version ∧ w.bsnr = v.bsnr ∧ w.fsnt = v.fsnt ∧
      w.tack = v.tack ∧ w.rtb = v.rtb ∧ w.freed = v.freed ∧
      w.missteps = v.missteps := by
    simpa using same
  intro none
  obtain ⟨numbered, last, narrow, counted, covered⟩ :=
    kept (missteps ▸ none)
  refine ⟨?_, ?_, ?_, ?_, ?_⟩
  · rw [rtb, bsnr, version]
    exact numbered
  · rw [rtb, bsnr, fsnt, version]
    exact last
  · rw [rtb, version]
    exact narrow
  · rw [rtb, tack]
    exact counted
  · rw [freed, version]
    exact covered

theorem Window.empty {v : View} (freed : ∀ r ∈ v.freed, r.Covered v.version) :
    ({ v with rtb := [], tack := 0, fsnt := v.bsnr } : View).Window where
  numbered := by simp
  last := Nat.ModEq.refl _
  narrow := v.version.space_pos
  counted := rfl
  covered := freed

theorem Exact.extend {v : View} (kept : v.Exact) (m : Msg) :
    (v.extend m).Exact := by
  intro none
  obtain ⟨before, now⟩ := List.append_eq_nil_iff.1 none
  by_cases room : v.rtb.length + 1 < v.version.space
  · exact (kept before).extend m room
  · rw [if_neg room] at now
    cases now

theorem Exact.renumber {v : View} (kept : v.Exact) {fsnt : Nat}
    (same : fsnt = if v.rtb = [] then v.bsnr else v.fsnt) :
    ({ v with fsnt := fsnt } : View).Exact := by
  intro none
  obtain ⟨numbered, last, narrow, counted, covered⟩ := kept none
  refine ⟨numbered, ?_, narrow, counted, covered⟩
  rw [same]
  split
  case isTrue empty =>
    rw [empty]
    exact Nat.ModEq.refl _
  case isFalse => exact last

theorem Exact.reset (v : View) : v.reset.Exact := by
  intro none
  have empty : v.rtb = [] := by
    by_contra held
    simp [View.reset, held] at none
  refine ⟨?_, ?_, ?_, ?_, nofun⟩
  · simp [View.reset, empty]
  · show 0xffffff + v.rtb.length ≡ 0xffffff [MOD v.version.space]
    rw [empty]
    exact Nat.ModEq.refl _
  · show v.rtb.length < v.version.space
    rw [empty]
    exact v.version.space_pos
  · simp [View.reset, empty]

theorem exact_throughout : Throughout Exact where
  send _ _ _ kept := kept.quiet rfl
  extend _ m kept := kept.extend m
  congest _ _ kept := kept.quiet rfl
  turn _ _ _ _ _ kept := kept.quiet rfl
  slip _ _ _ _ _ kept := kept.quiet rfl
  misstep _ _ _ none := absurd none (by simp [misstep])
  loose _ _ _ _ _ _ noted _ none := absurd none noted
  empty v none kept := by
    intro clean
    obtain ⟨numbered, last, narrow, counted, covered⟩ := kept clean
    refine ⟨by simp, ?_, v.version.space_pos, rfl, covered⟩
    rw [none] at last
    exact last
  recover _ kept none := .empty (kept none).covered
  renumber _ _ same kept := kept.renumber same
  acknowledge v bsn count counts kept := by
    refine ⟨fun none => (kept none).acknowledge counts,
      fun missing none => absurd counts.sent ?_⟩
    rw [(kept none).forward]
    omega
  accept _ _ _ _ kept := kept.quiet rfl
  deliver _ _ _ _ kept := kept.quiet rfl
  enter _ kept := kept.quiet rfl
  clearRb _ kept := kept.quiet rfl
  reset v _ := .reset v

theorem Window.numbers {v : View} (window : v.Window) :
    v.rtb.map (fun m => m.fsn % v.version.space) =
      (List.range (v.version.forward v.bsnr v.fsnt)).map fun i =>
        (v.bsnr + 1 + i) % v.version.space := by
  rw [window.forward]
  apply List.ext_getElem
  · simp
  · intro i inside _
    rw [List.length_map] at inside
    simp only [List.getElem_map, List.getElem_range]
    exact window.numbered i _ (List.getElem?_eq_getElem inside)

end View

/-- The transmit window is exact: as long as no step has left the numbers
behind `rtb`, it holds the messages numbered from the one after `bsnr` to
`fsnt`, `tack` counts them, and each message released since the link was
started was covered by the number that released it. -/
theorem transmit_buffer_exact (version : Version) (pvar : Nat)
    (nopr mplev : Bool) (config : Config) (notify : Notice → Bool)
    (events : List (Env × Event)) (s : Sl)
    (run : (Sl.allocated version pvar nopr mplev config notify).run events = s)
    (none : s.missteps = []) :
    s.rtb.map (fun m => m.fsn % s.version.space) =
      (List.range (s.version.forward s.bsnr s.fsnt)).map
        (fun i => (s.bsnr + 1 + i) % s.version.space) ∧
    s.tack = s.rtb.length ∧
    ∀ r ∈ s.freed, 1 ≤ s.version.forward r.bsnr r.fsn ∧
      s.version.forward r.bsnr r.fsn ≤ s.version.forward r.bsnr r.bsn := by
  have initial : (Sl.allocated version pvar nopr mplev config
      notify).view.Exact := nofun
  have window := Sl.run_keeps View.exact_throughout initial events
  rw [run] at window
  exact ⟨(window none).numbers, (window none).counted, (window none).covered⟩

def submission : List (Env × Event) :=
  intoService ++ [(.calm, .pdu [[1, 2, 3, 4, 5, 6]])]

theorem transmit_buffer_exact_submission :
    ((Sl.allocated .rfc4165 0 true false slDefault fun _ => false).run
      submission).missteps = [] ∧
    ((Sl.allocated .rfc4165 0 true false slDefault fun _ => false).run
      submission).tack =
    ((Sl.allocated .rfc4165 0 true false slDefault fun _ => false).run
      submission).rtb.length :=
  ⟨by decide, (transmit_buffer_exact .rfc4165 0 true false slDefault
    (fun _ => false) submission _ rfl (by decide)).2.1⟩

theorem clear_rtb_leaves_fsnt :
    ¬ ∀ (version : Version) (pvar : Nat) (nopr mplev : Bool)
      (config : Config) (notify : Notice → Bool)
      (events : List (Env × Event)) (s : Sl),
      (Sl.allocated version pvar nopr mplev config notify).run events = s →
        s.state = .inService →
        s.rtb.map (fun m => m.fsn % s.version.space) =
          (List.range (s.version.forward s.bsnr s.fsnt)).map
            (fun i => (s.bsnr + 1 + i) % s.version.space) := by
  intro claim
  have cleared := claim .rfc4165 0 true false slDefault (fun _ => false)
    (submission ++ [(.calm, .localProcessorOutage), (.calm, .clearRtb)])
    _ rfl (by decide)
  exact absurd cleared (by decide)

end OpenSS7.M2pa
