import OpenSS7.Mtp3.Voids

/-!
What an error of a state change leaves behind: the changes that are made before
an indication is refused, and when there are none.
-/

namespace OpenSS7.Mtp3

open Program

section Kept

def Traffic.kept (t : Traffic) : Traffic :=
  { t with
    buffer := fun _ => none
    buffers := fun _ => []
    fresh := 0
    room := []
    logged := false }

def Sp.kept (s : Sp) : Sp :=
  { s with t1r := false, t18 := false, t22a := false, t26a := false }

def Rs.kept (r : Rs) : Rs :=
  { r with rrs := [], t8 := false, t11 := false, t18a := false }

def Rt.kept (r : Rt) : Rt := { r with t10 := false }

def Lk.kept (l : Lk) : Lk := { l with t28a := false }

def Net.kept (n : Net) : Net :=
  { n with
    sp := Sp.kept ∘ n.sp
    rs := Rs.kept ∘ n.rs
    rt := Rt.kept ∘ n.rt
    lk := Lk.kept ∘ n.lk
    routing := n.routing.kept
    linking := n.linking.kept
    room := []
    sent := [] }

def Unchanged (n n' : Net) : Prop := n'.kept = n.kept

end Kept

section Fits

def Moves (state : State) (flags : Flags) (change : Change) : Prop :=
  mtpStaFlags change flags ≠ flags ∧
    mtpFlgState (mtpStaFlags change flags) ≠ state

instance (state : State) (flags : Flags) (change : Change) :
    Decidable (Moves state flags change) :=
  inferInstanceAs (Decidable (_ ∧ _))

variable (n : Net) (i : Nat) (change : Change)

def Net.refuses : Prop := n.room.headD true = false

def Net.rsTells : Prop :=
  let oldstate := (n.rs i).state
  let newstate := mtpFlgState (mtpStaFlags change (n.rs i).flags)
  Moves oldstate (n.rs i).flags change ∧
    (newstate < .restricted ∧ .restricted ≤ oldstate ∨
      (newstate = .restricted ∧ (n.na (n.sp (n.rs i).sp).na).tfr = true) ∧
        .restricted < oldstate ∨
      .restart < newstate ∧ oldstate ≤ .restart)

theorem Net.rsTells_iff :
    n.rsTells i change ↔ Moves (n.rs i).state (n.rs i).flags change ∧
      (mtpFlgState (mtpStaFlags change (n.rs i).flags) < .restricted ∧
          .restricted ≤ (n.rs i).state ∨
        (mtpFlgState (mtpStaFlags change (n.rs i).flags) = .restricted ∧
            (n.na (n.sp (n.rs i).sp).na).tfr = true) ∧
          .restricted < (n.rs i).state ∨
        .restart < mtpFlgState (mtpStaFlags change (n.rs i).flags) ∧
          (n.rs i).state ≤ .restart) :=
  .rfl

def Net.rsPending : Prop :=
  (n.rs i).state = .restricted ∧ (n.rs i).flags.tfrPending = true

def Net.rlReroutes : Prop :=
  let curr := (n.rs (n.rl i).rs).curr
  let oldstate := (n.rl i).state
  let newstate := mtpFlgState (mtpStaFlags change (n.rl i).flags)
  (.restricted < newstate ∧ oldstate < .restart ∧ curr = some i) ∨
    (.restricted < oldstate ∧ newstate < .restart ∧
      ∀ ra ∈ curr, (n.rl i).cost < (n.rl ra).cost)

def Net.rlTells : Prop :=
  Moves (n.rl i).state (n.rl i).flags change ∧
    (n.rlReroutes i change ∨ (n.rs (n.rl i).rs).curr = some i) ∧
    n.rsTells (n.rl i).rs change

def Net.rlFits : Prop :=
  ¬ n.rlReroutes i change ∧ ¬ n.rsPending (n.rl i).rs

def Net.rlNext : State :=
  let rl := n.rl (n.rt i).rl
  mtpCntState (rl.rts.move (n.rt i).state
    (mtpFlgState (mtpStaFlags change (n.rt i).flags))) rl.state

def Net.rtTells : Prop :=
  Moves (n.rt i).state (n.rt i).flags change ∧
    n.rlNext i change ≠ (n.rl (n.rt i).rl).state ∧
    n.rlTells (n.rt i).rl (n.rlNext i change)

def Net.rtMoves : TrafficM Unit := do
  let rl := (n.rt i).rl
  let oldstate := (n.rt i).state
  let newstate := mtpFlgState (mtpStaFlags change (n.rt i).flags)
  let current : Bool := (n.rs (n.rl rl).rs).curr = some rl
  when (oldstate < .restart ∧ .restricted < newstate)
    (offload current (n.routesOf rl) i (n.rl rl).rts newstate)
  when (newstate < .restart ∧ .restricted < oldstate)
    (onload current (n.routesOf rl) i (n.rl rl).rts oldstate)

def Still (m : TrafficM Unit) (t : Traffic) : Prop := (m.after t).kept = t.kept

def Net.rtFits : Prop :=
  Still (n.rtMoves i change) n.routing ∧
    n.rlFits (n.rt i).rl (n.rlNext i change)

def Net.lsFirst : Option Nat :=
  let newstate := mtpFlgState (mtpStaFlags change (n.ls i).flags)
  (n.ls i).rls.list.find? fun rl =>
    blocking newstate ≠ .enter (n.rl rl).state ∧
      mtpStaFlags (blocking newstate) (n.rl rl).flags ≠ (n.rl rl).flags

def Net.lsFits : Prop :=
  let newstate := mtpFlgState (mtpStaFlags change (n.ls i).flags)
  ∀ rl ∈ n.lsFirst i change, n.refuses ∧
    n.rlTells rl (blocking newstate) ∧ n.rlFits rl (blocking newstate)

def Net.lkFirst : Option Nat :=
  let newstate := mtpFlgState (mtpStaFlags change (n.lk i).flags)
  (n.lk i).rts.list.find? fun rt =>
    blocking newstate ≠ .enter (n.rt rt).state ∧
      mtpStaFlags (blocking newstate) (n.rt rt).flags ≠ (n.rt rt).flags

def Net.lsNext : State :=
  let ls := n.ls (n.lk i).ls
  mtpCntState (ls.lks.move (n.lk i).state
    (mtpFlgState (mtpStaFlags change (n.lk i).flags))) ls.state

def Net.lkFits : Prop :=
  let newstate := mtpFlgState (mtpStaFlags change (n.lk i).flags)
  match n.lkFirst i change with
  | some rt => n.refuses ∧
      n.rtTells rt (blocking newstate) ∧ n.rtFits rt (blocking newstate)
  | none => n.lsFits (n.lk i).ls (n.lsNext i change)

def Net.lkNext : State :=
  let lk := n.lk (n.sl i).lk
  mtpCntState (lk.sls.move (n.sl i).state
    (mtpFlgState (mtpStaFlags change (n.sl i).flags))) lk.state

def Net.slMoves : TrafficM Unit := do
  let lk := (n.sl i).lk
  let oldstate := (n.sl i).state
  let newstate := mtpFlgState (mtpStaFlags change (n.sl i).flags)
  when (newstate < .restricted ∧ .congested < oldstate)
    (changeback (n.adjacentOf lk) (n.linksOf lk) i (n.lk lk).sls)
  when (oldstate < .restricted ∧ .congested < newstate)
    (changeover (n.adjacentOf lk) (n.linksOf lk) i (n.lk lk).sls oldstate)

def Net.slFits : Prop :=
  Still (n.slMoves i change) n.linking ∧
    n.lkFits (n.sl i).lk (n.lkNext i change)

end Fits

section RouteSets

variable {n : Net} {rs : Nat} {change : Change}

def Net.cleared (n : Net) (rs : Nat) : Net :=
  if (n.rs rs).state = .restricted then
    n.withRs rs fun r => { r with flags := { r.flags with tfrPending := false } }
  else n

def Quiet (n : Net) (kept : Net) (s : Net) : Prop :=
  s.kept = kept ∧ s.room = n.room

theorem kept_withRs_congr {f g : Rs → Rs}
    (same : ∀ r, (f r).kept = (g r).kept) (i : Nat) :
    (n.withRs i f).kept = (n.withRs i g).kept := by
  unfold Net.kept Net.withRs
  simp only
  rw [Function.comp_update, Function.comp_update, same]

theorem kept_withRs {f : Rs → Rs} (same : ∀ r, (f r).kept = r.kept)
    (i : Nat) : (n.withRs i f).kept = n.kept := by
  rw [kept_withRs_congr (g := id) same]
  unfold Net.withRs
  rw [id, Function.update_eq_self]

theorem withRs_ends {kept : Net} {f : Rs → Rs} {E : Err → Net → Prop}
    (same : ∀ r, (f r).kept = r.kept) :
    Ends (Quiet n kept) (modify (Net.withRs rs f) : NetM PUnit)
      (fun _ => Quiet n kept) E :=
  ends_modify fun _ quiet => ⟨(kept_withRs same rs).trans quiet.1, quiet.2⟩

def Told (n : Net) (c : Prop) (kept : Net) (s : Net) : Prop :=
  c ∧ ¬ n.refuses ∨ ¬ c ∧ Quiet n kept s

theorem send_ends {notice : Notice} {kept : Net} :
    Ends (Quiet n kept) (send notice) (fun _ _ => ¬ n.refuses)
      fun _ s => n.refuses ∧ s.kept = kept := by
  unfold send
  refine ends_get_bind fun s quiet => ends_ite (fun room => ?_) fun full => ?_
  · refine ends_set fun _ _ refuses => ?_
    rw [Net.refuses, ← quiet.2, room] at refuses
    cases refuses
  · refine ends_bind (R := fun _ s' => s'.kept = kept) (ends_set fun _ _ => quiet.1)
      fun _ => ends_throw fun s' same => ⟨?_, same⟩
    rw [Net.refuses, ← quiet.2]
    simpa using full

theorem mtpAdjacent_ends {P : Net → Prop} (adj : Nat) :
    Ends P (mtpAdjacent adj) (fun _ => P) fun e _ => e ≠ .failed := by
  refine ends_get_bind fun s holds => ends_when (fun _ => ?_)
    fun _ _ same => same ▸ holds
  split
  · exact ends_throw fun _ _ => by decide
  · split
    · exact ends_throw fun _ _ => by decide
    · exact ends_pure fun _ same => same ▸ holds

theorem rsSetState_ends :
    Ends (fun s => n = s) (rsSetState rs change)
      (fun _ _ => ¬ (n.rsTells rs change ∧ n.refuses))
      fun e s => e = .failed → n.rsTells rs change ∧ n.refuses ∧
        s.kept = (n.cleared rs).kept := by
  refine ends_get_bind fun n' same => ?_
  subst same
  refine ends_when (fun flags => ?_) fun none _ _ tells => none tells.1.1.1
  refine ends_bind (R := fun _ _ => ¬ (n.rsTells rs change ∧ n.refuses)) ?_
    fun _ => ends_modify fun _ quiet => quiet
  refine ends_when (fun state => ?_) fun none _ _ tells => none tells.1.1.2
  have moves : Moves (n.rs rs).state (n.rs rs).flags change := ⟨flags, state⟩
  refine ends_bind (R := fun _ s => n = s) (ends_when (fun _ => ends_when
    (fun _ => ends_bind (ends_conseq (mtpAdjacent_ends rs)
      (fun _ same => same) (fun _ _ same => same)
      fun _ _ other failed => absurd failed other)
      fun _ => ends_conseq (mtpAdjacent_ends rs) (fun _ same => same)
        (fun _ _ same => same) fun _ _ other failed => absurd failed other)
      fun _ _ same => same) fun _ _ same => same) fun _ => ?_
  refine ends_bind (R := fun _ => Quiet n (n.cleared rs).kept)
    (ends_when (fun restricted => ends_modify ?_) fun other s same => ?_)
    fun _ => ?_
  · rintro s rfl
    unfold Net.cleared
    rw [if_pos restricted]
    refine ⟨kept_withRs_congr ?_ rs, rfl⟩
    exact fun _ => rfl
  · rw [Net.cleared, if_neg other, same]
    exact ⟨rfl, rfl⟩
  -- one indication at most is sent
  have tells_iff := n.rsTells_iff rs change
  generalize mtpFlgState (mtpStaFlags change (n.rs rs).flags) = newstate
    at state tells_iff ⊢
  have failed (tells : n.rsTells rs change) : ∀ (e : Err) (s : Net),
      (n.refuses ∧ s.kept = (n.cleared rs).kept) → e = .failed →
        n.rsTells rs change ∧ n.refuses ∧ s.kept = (n.cleared rs).kept :=
    fun _ _ after _ => ⟨tells, after⟩
  refine ends_bind (R := fun _ => Told n (newstate < .restricted ∧
      .restricted ≤ (n.rs rs).state) (n.cleared rs).kept)
    (ends_when (fun allowed => ?_) fun none _ quiet => .inr ⟨none, quiet⟩)
    fun _ => ?_
  · refine ends_bind (withRs_ends fun _ => by rfl) fun _ => ?_
    exact ends_conseq send_ends (fun _ quiet => quiet)
      (fun _ _ taken => .inl ⟨allowed, taken⟩) (failed (tells_iff.2 ⟨moves, .inl allowed⟩))
  refine ends_bind (R := fun _ => Told n (newstate < .restricted ∧
      .restricted ≤ (n.rs rs).state ∨
      (newstate = .restricted ∧ (n.na (n.sp (n.rs rs).sp).na).tfr = true) ∧
        .restricted < (n.rs rs).state) (n.cleared rs).kept)
    (ends_of_each fun s before => ?_) fun _ => ?_
  · rcases before with ⟨allowed, taken⟩ | ⟨none, quiet⟩
    · refine ends_when (fun restricted => ?_) fun _ _ _ =>
        .inl ⟨.inl allowed, taken⟩
      rw [restricted.1] at allowed
      exact absurd allowed.1 (by decide)
    · refine ends_when (fun restricted => ?_) fun other s' same =>
        .inr ⟨fun tells => tells.elim none fun tells => other tells.1,
          same ▸ quiet⟩
      refine ends_bind (R := fun _ => Quiet n (n.cleared rs).kept)
        (ends_when (fun _ => ?_) fun _ _ same => same ▸ quiet) fun _ => ?_
      · exact ends_conseq (withRs_ends fun _ => by rfl)
          (fun _ same => same ▸ quiet) (fun _ _ quiet => quiet)
          fun _ _ error => error
      · refine ends_when (fun worse => ?_) fun better _ quiet => .inr ⟨fun tells =>
          tells.elim none fun tells => better tells.2, quiet⟩
        exact ends_conseq send_ends (fun _ quiet => quiet)
          (fun _ _ taken => .inl ⟨.inr ⟨restricted, worse⟩, taken⟩)
          (failed (tells_iff.2 ⟨moves, .inr (.inl ⟨restricted, worse⟩)⟩))
  refine ends_bind (R := fun _ _ => ¬ (n.rsTells rs change ∧ n.refuses)) ?_
    fun _ => ends_modify fun _ settled => settled
  refine ends_of_each fun s before => ?_
  rcases before with ⟨told, taken⟩ | ⟨none, quiet⟩
  · refine ends_when (fun prohibited => ?_) fun _ _ _ tells => taken tells.2
    rcases told with allowed | restricted
    · exact absurd (lt_trans (α := Fin 9) prohibited.1 allowed.1) (by decide)
    · rw [restricted.1.1] at prohibited
      exact absurd prohibited.1 (by decide)
  · refine ends_when (fun prohibited => ?_) fun other _ _ tells => ?_
    · refine ends_bind (R := fun _ => Quiet n (n.cleared rs).kept)
        (ends_conseq (withRs_ends fun _ => by rfl)
          (fun _ same => same ▸ quiet) (fun _ _ quiet => quiet)
          fun _ _ error => error) fun _ => ?_
      exact ends_conseq send_ends (fun _ quiet => quiet)
        (fun _ _ taken tells => taken tells.2)
        (failed (tells_iff.2 ⟨moves, .inr (.inr prohibited)⟩))
    · rcases (tells_iff.1 tells.1).2 with allowed | restricted | prohibited
      · exact none (.inl allowed)
      · exact none (.inr restricted)
      · exact other prohibited

theorem cleared_kept_iff :
    (n.cleared rs).kept = n.kept ↔ ¬ n.rsPending rs := by
  unfold Net.cleared Net.rsPending
  split
  case isTrue restricted =>
    constructor
    · rintro same ⟨-, pending⟩
      have flags : ((n.withRs rs fun r =>
          { r with flags := { r.flags with tfrPending := false } }).kept.rs
            rs).flags = (n.kept.rs rs).flags := by rw [same]
      have cleared := congrArg Flags.tfrPending flags
      unfold Net.withRs Net.kept at cleared
      simp only [Function.comp_apply, Function.update_self] at cleared
      exact absurd (cleared.trans pending) (by simp [Rs.kept])
    · intro other
      have clear : (n.rs rs).flags.tfrPending = false := by
        simpa using fun pending => other ⟨restricted, pending⟩
      unfold Net.withRs
      rw [← clear, Function.update_eq_self]
  case isFalse other => exact ⟨fun _ pending => other pending.1, fun _ => rfl⟩

theorem cleared_curr : ((n.cleared rs).rs rs).curr = (n.rs rs).curr := by
  unfold Net.cleared
  split
  · simp only [Net.withRs, Function.update_self]
  · rfl

end RouteSets

section RouteLists

variable {n : Net} {rs rl : Nat} {change : Change}

abbrev Rs.movedRls (oldstate newstate : State) (r : Rs) : Rs :=
  { r with rls := r.rls.move oldstate newstate }

@[simp] theorem Counters.move_back (c : Counters) (oldstate newstate : State) :
    (c.move oldstate newstate).move newstate oldstate = c := by
  unfold Counters.move
  simp only
  congr 1
  funext s
  rw [Tally.moved_apply, Tally.moved_apply]
  abel

theorem cleared_movedRls (oldstate newstate : State) :
    (n.withRs rs (Rs.movedRls oldstate newstate)).cleared rs =
      (n.cleared rs).withRs rs (Rs.movedRls oldstate newstate) := by
  unfold Net.cleared Net.withRs
  simp only [Function.update_self, Function.update_idem]
  split
  · simp only [Function.update_self, Function.update_idem]
  · rfl

theorem kept_movedRls (oldstate newstate : State) :
    (n.withRs rs (Rs.movedRls oldstate newstate)).kept =
      n.kept.withRs rs (Rs.movedRls oldstate newstate) := by
  unfold Net.kept Net.withRs
  simp only
  rw [Function.comp_update]
  rfl

theorem movedRls_back (oldstate newstate : State) :
    (n.withRs rs (Rs.movedRls oldstate newstate)).withRs rs
      (Rs.movedRls newstate oldstate) = n := by
  unfold Net.withRs Rs.movedRls
  simp only [Function.update_self, Function.update_idem, Counters.move_back,
    Function.update_eq_self]

theorem rsTells_movedRls (oldstate newstate : State) :
    (n.withRs rs (Rs.movedRls oldstate newstate)).rsTells rs change ↔
      n.rsTells rs change := by
  unfold Net.rsTells Net.withRs
  simp only [Function.update_self]

theorem tell_ends (oldstate newstate : State) :
    Ends (fun s => n = s)
      (do
        moveRls rs oldstate newstate
        pushing (rsSetState rs change) (moveRls rs newstate oldstate))
      (fun _ _ => ¬ (n.rsTells rs change ∧ n.refuses))
      fun e s => e = .failed → n.rsTells rs change ∧ n.refuses ∧
        s.kept = (n.cleared rs).kept := by
  refine ends_bind (R := fun _ s =>
    n.withRs rs (Rs.movedRls oldstate newstate) = s)
    (ends_modify fun _ same => same ▸ rfl) fun _ => ?_
  refine ends_restoring (ends_conseq rsSetState_ends (fun _ same => same)
    (fun _ _ quiet tells => quiet ⟨(rsTells_movedRls ..).2 tells.1, tells.2⟩)
    fun e s after failed => ?_)
  obtain ⟨tells, refuses, kept⟩ := after failed
  refine ⟨(rsTells_movedRls ..).1 tells, refuses, ?_⟩
  rw [kept_movedRls, kept, ← kept_movedRls, cleared_movedRls, movedRls_back]

theorem otherList_ne : n.otherList rs rl ≠ some rl := by
  intro found
  have fits := List.find?_some found
  simp at fits

theorem onRoutes_ends {m : TrafficM Unit} (void : Void m) :
    Ends (fun s => n = s) (onRoutes m)
      (fun _ s => ∃ t, m.exec n.routing = (.ok (), t) ∧
        { n with routing := t } = s)
      fun e _ => e ≠ .failed := by
  refine ends_focus fun s same => ?_
  subst same
  cases ran : m.exec n.routing with
  | mk result t =>
      cases result with
      | ok _ => exact ⟨t, rfl, rfl⟩
      | error e => exact void.error ran

def Net.rerouted (n : Net) (rs : Nat) (curr : Option Nat) (t : Traffic) :
    Net :=
  { n with routing := t }.withRs rs fun r => { r with curr := curr }

theorem rlReroute_ends {curr : Option Nat} {force : Bool} :
    Ends (fun s => n = s) (rlReroute rs curr force)
      (fun _ s => ∃ t, n.rerouted rs curr t = s) fun e _ => e ≠ .failed := by
  refine ends_get_bind fun n' same => ?_
  subst same
  refine ends_bind (onRoutes_ends rlRerouteMaps_void) fun _ =>
    ends_modify fun s same => ?_
  obtain ⟨t, -, rfl⟩ := same
  exact ⟨t, rfl⟩

theorem rsTells_rerouted {curr : Option Nat} {t : Traffic} :
    (n.rerouted rs curr t).rsTells rs change ↔ n.rsTells rs change := by
  unfold Net.rsTells Net.rerouted Net.withRs
  simp only [Function.update_self]

/-- What an error of `rl_set_state` leaves: another current route list, or a
route set with the flag of the responsive procedure cleared. -/
def Net.RlLeft (n : Net) (rl : Nat) (change : Change) (s : Net) : Prop :=
  (n.rlReroutes rl change →
      (s.rs (n.rl rl).rs).curr ≠ (n.rs (n.rl rl).rs).curr) ∧
    (¬ n.rlReroutes rl change → s.kept = (n.cleared (n.rl rl).rs).kept)

theorem rlSelect_ends (moves : Moves (n.rl rl).state (n.rl rl).flags change) :
    Ends (fun s => n = s)
      (rlSelect n rl change
        (mtpFlgState (mtpStaFlags change (n.rl rl).flags)))
      (fun _ _ => ¬ (n.rlTells rl change ∧ n.refuses))
      fun e s => e = .failed → n.rlTells rl change ∧ n.refuses ∧
        n.RlLeft rl change s := by
  have rerouted (reroutes : n.rlReroutes rl change) (curr : Option Nat)
      (other : curr ≠ (n.rs (n.rl rl).rs).curr) (force : Bool) :
      Ends (fun s => n = s)
        (do
          rlReroute (n.rl rl).rs curr force
          moveRls (n.rl rl).rs (n.rl rl).state
            (mtpFlgState (mtpStaFlags change (n.rl rl).flags))
          pushing (rsSetState (n.rl rl).rs change) (moveRls (n.rl rl).rs
            (mtpFlgState (mtpStaFlags change (n.rl rl).flags)) (n.rl rl).state))
        (fun _ _ => ¬ (n.rlTells rl change ∧ n.refuses))
        fun e s => e = .failed → n.rlTells rl change ∧ n.refuses ∧
          n.RlLeft rl change s := by
    refine ends_bind (ends_conseq rlReroute_ends (fun _ same => same)
      (fun _ _ post => post) fun _ _ other failed => absurd failed other)
      fun _ => ends_of_each fun s left => ?_
    obtain ⟨t, rfl⟩ := left
    refine ends_conseq (tell_ends _ _) (fun _ same => same)
      (fun _ _ quiet tells => quiet ⟨rsTells_rerouted.2 tells.1.2.2, tells.2⟩)
      fun e s after failed => ?_
    obtain ⟨tells, refuses, kept⟩ := after failed
    refine ⟨⟨moves, .inl reroutes, rsTells_rerouted.1 tells⟩, refuses,
      fun _ => ?_, fun other => absurd reroutes other⟩
    have same : (s.rs (n.rl rl).rs).curr = curr := by
      change (s.kept.rs (n.rl rl).rs).curr = curr
      rw [kept]
      change (((n.rerouted _ curr t).cleared _).rs _).curr = curr
      rw [cleared_curr]
      simp only [Net.rerouted, Net.withRs, Function.update_self]
    rwa [same]
  unfold rlSelect
  refine ends_ite (fun fails => ?_) fun stands => ends_ite (fun recovers => ?_)
    fun waits => ?_
  · exact rerouted (.inl fails) _ (fails.2.2 ▸ otherList_ne) true
  · refine rerouted (.inr recovers) _ (fun same => ?_) false
    exact absurd (recovers.2.2 rl same.symm) (lt_irrefl _)
  · have unmoved : ¬ n.rlReroutes rl change := fun reroutes =>
      reroutes.elim stands waits
    refine ends_ite (fun current => ?_) fun apart => ?_
    · refine ends_conseq (tell_ends _ _) (fun _ same => same)
        (fun _ _ quiet tells => quiet ⟨tells.1.2.2, tells.2⟩)
        fun e s after failed => ?_
      obtain ⟨tells, refuses, kept⟩ := after failed
      exact ⟨⟨moves, .inr current, tells⟩, refuses,
        fun reroutes => absurd reroutes unmoved, fun _ => kept⟩
    · exact ends_modify fun _ _ tells => tells.1.2.1.elim unmoved apart

theorem rlSetState_ends :
    Ends (fun s => n = s) (rlSetState rl change)
      (fun _ _ => ¬ (n.rlTells rl change ∧ n.refuses))
      fun e s => e = .failed → n.rlTells rl change ∧ n.refuses ∧
        n.RlLeft rl change s := by
  refine ends_get_bind fun n' same => ?_
  subst same
  refine ends_when (fun flags => ?_) fun none _ _ tells => none tells.1.1.1
  refine ends_bind (R := fun _ _ => ¬ (n.rlTells rl change ∧ n.refuses)) ?_
    fun _ => ends_modify fun _ quiet => quiet
  refine ends_when (fun state => ?_) fun none _ _ tells => none tells.1.1.2
  refine ends_bind (rlSelect_ends ⟨flags, state⟩) fun _ => ?_
  exact ends_bind (R := fun _ _ => ¬ (n.rlTells rl change ∧ n.refuses))
    (ends_modify fun _ quiet => quiet) fun _ => ends_modify fun _ quiet => quiet

end RouteLists

section Routes

variable {n : Net} {rt rl rs : Nat} {change : Change}

theorem when_onRoutes_ends {c : Prop} [Decidable c] {m : TrafficM Unit}
    (void : Void m) :
    Ends (fun s => n = s) (when c (onRoutes m))
      (fun _ s => ∃ t, (when c m).exec n.routing = (.ok (), t) ∧
        { n with routing := t } = s)
      fun e _ => e ≠ .failed := by
  by_cases holds : c
  · unfold when
    rw [if_pos holds, if_pos holds]
    exact onRoutes_ends void
  · unfold when
    rw [if_neg holds, if_neg holds]
    exact ends_pure fun s same => ⟨n.routing, rfl, same⟩

theorem withRl_read {α : Type} (read : Rl → α) {f : Rl → Rl}
    (same : ∀ r, read (f r) = read r) (i j : Nat) :
    read ((n.withRl i f).rl j) = read (n.rl j) := by
  unfold Net.withRl
  by_cases here : j = i
  · subst here
    simp only [Function.update_self, same]
  · simp only [Function.update_of_ne here]

abbrev Rl.movedRts (oldstate newstate : State) (r : Rl) : Rl :=
  { r with rts := r.rts.move oldstate newstate }

theorem rlReroutes_movedRts (oldstate newstate : State) :
    (n.withRl rl (Rl.movedRts oldstate newstate)).rlReroutes rl change ↔
      n.rlReroutes rl change := by
  have read {α : Type} (g : Rl → α)
      (same : ∀ r, g (Rl.movedRts oldstate newstate r) = g r) :=
    withRl_read (n := n) g same rl
  unfold Net.rlReroutes
  simp only [read Rl.rs fun _ => rfl, read Rl.state fun _ => rfl,
    read Rl.flags fun _ => rfl, read Rl.cost fun _ => rfl]
  rfl

theorem rlTells_movedRts (oldstate newstate : State) :
    (n.withRl rl (Rl.movedRts oldstate newstate)).rlTells rl change ↔
      n.rlTells rl change := by
  have read {α : Type} (g : Rl → α)
      (same : ∀ r, g (Rl.movedRts oldstate newstate r) = g r) :=
    withRl_read (n := n) g same rl
  unfold Net.rlTells
  rw [rlReroutes_movedRts]
  simp only [read Rl.rs fun _ => rfl, read Rl.state fun _ => rfl,
    read Rl.flags fun _ => rfl]
  rfl

theorem kept_routing_iff {t : Traffic} :
    (({ n with routing := t } : Net).cleared rs).kept = n.kept ↔
      t.kept = n.routing.kept ∧ ¬ n.rsPending rs := by
  have parts : (({ n with routing := t } : Net).cleared rs).kept =
      { (n.cleared rs).kept with routing := t.kept } := by
    unfold Net.cleared
    split <;> rfl
  have routing : (n.cleared rs).kept.routing = n.routing.kept := by
    unfold Net.cleared
    split <;> rfl
  rw [parts, ← cleared_kept_iff]
  constructor
  · intro same
    have moved : t.kept = n.routing.kept := congrArg Net.routing same
    refine ⟨moved, ?_⟩
    rw [← same, moved, ← routing]
  · rintro ⟨moved, same⟩
    rw [moved, ← routing]
    exact same

theorem kept_withRt {f : Rt → Rt} (same : ∀ r, (f r).kept = r.kept)
    (i : Nat) : (n.withRt i f).kept = n.kept := by
  unfold Net.kept Net.withRt
  simp only
  rw [Function.comp_update, same, ← Function.comp_apply (f := Rt.kept),
    Function.update_eq_self]

theorem movedRts_back (oldstate newstate : State) :
    (n.withRl rl (Rl.movedRts oldstate newstate)).withRl rl
      (Rl.movedRts newstate oldstate) = n := by
  unfold Net.withRl Rl.movedRts
  simp only [Function.update_self, Function.update_idem, Counters.move_back,
    Function.update_eq_self]

theorem cleared_movedRts (oldstate newstate : State) :
    (n.withRl rl (Rl.movedRts oldstate newstate)).cleared rs =
      (n.cleared rs).withRl rl (Rl.movedRts oldstate newstate) := by
  unfold Net.cleared
  split
  case isTrue restricted =>
    rw [if_pos (show (n.rs rs).state = .restricted from restricted)]
    rfl
  case isFalse other =>
    rw [if_neg (show (n.rs rs).state ≠ .restricted from other)]

theorem rlLeft_iff {s : Net} {t : Traffic} {f : Rt → Rt}
    {oldstate newstate : State} (same : ∀ r, (f r).kept = r.kept)
    (left : ((({ n with routing := t } : Net).withRt rt f).withRl rl
      (Rl.movedRts oldstate newstate)).RlLeft rl change s) :
    (s.withRl rl (Rl.movedRts newstate oldstate)).kept = n.kept ↔
      t.kept = n.routing.kept ∧ n.rlFits rl change := by
  obtain ⟨rerouted, stayed⟩ := left
  rw [rlReroutes_movedRts] at rerouted stayed
  have read {α : Type} (g : Rl → α)
      (same : ∀ r, g (Rl.movedRts oldstate newstate r) = g r) :=
    withRl_read (n := (({ n with routing := t } : Net).withRt rt f)) g same rl rl
  rw [read Rl.rs fun _ => rfl] at rerouted stayed
  by_cases reroutes : n.rlReroutes rl change
  · refine iff_of_false (fun kept => ?_) fun fits => fits.2.1 reroutes
    have curr := congrArg (fun k : Net => (k.rs (n.rl rl).rs).curr) kept
    exact rerouted reroutes curr
  · have cleared : (({ n with routing := t } : Net).withRt rt f).cleared
        (n.rl rl).rs =
        (({ n with routing := t } : Net).cleared (n.rl rl).rs).withRt rt f := by
      unfold Net.cleared
      split
      case isTrue restricted =>
        rw [if_pos (show (n.rs (n.rl rl).rs).state = .restricted
          from restricted)]
        rfl
      case isFalse other =>
        rw [if_neg (show (n.rs (n.rl rl).rs).state ≠ .restricted from other)]
    have kept : (s.withRl rl (Rl.movedRts newstate oldstate)).kept =
        (({ n with routing := t } : Net).cleared (n.rl rl).rs).kept := by
      change s.kept.withRl rl (Rl.movedRts newstate oldstate) = _
      rw [stayed reroutes, cleared_movedRts]
      change (((({ n with routing := t } : Net).withRt rt f).cleared
        (n.rl rl).rs).withRl rl (Rl.movedRts oldstate newstate)
          |>.withRl rl (Rl.movedRts newstate oldstate)).kept = _
      rw [movedRts_back, cleared, kept_withRt same]
    rw [kept, kept_routing_iff]
    exact and_congr_right fun _ => ⟨fun fits => ⟨reroutes, fits⟩, And.right⟩

theorem rtSetState_ends :
    Ends (fun s => n = s) (rtSetState rt change)
      (fun _ _ => ¬ (n.rtTells rt change ∧ n.refuses))
      fun e s => e = .failed → n.rtTells rt change ∧ n.refuses ∧
        (s.kept = n.kept ↔ n.rtFits rt change) := by
  refine ends_get_bind fun n' same => ?_
  subst same
  refine ends_when (fun flags => ?_) fun none _ _ tells => none tells.1.1.1
  refine ends_bind (R := fun _ _ => ¬ (n.rtTells rt change ∧ n.refuses)) ?_
    fun _ => ends_modify fun _ quiet => quiet
  refine ends_when (fun state => ?_) fun none _ _ tells => none tells.1.1.2
  generalize timer : (fun r : Rt => { r with
    t10 := (mtpStaFlags change (n.rt rt).flags).prohibited ||
      (mtpStaFlags change (n.rt rt).flags).restricted }) = f
  have same : ∀ r, (f r).kept = r.kept := fun r => timer ▸ rfl
  refine ends_bind (R := fun _ s => n.withRt rt f = s)
    (ends_modify fun _ same => same ▸ rfl) fun _ => ?_
  refine ends_bind (ends_conseq (when_onRoutes_ends offload_void)
    (fun _ same => same) (fun _ _ moved => moved)
    fun _ _ other failed => absurd failed other) fun _ =>
      ends_of_each fun s moved => ?_
  obtain ⟨t, first, rfl⟩ := moved
  refine ends_bind (ends_conseq (when_onRoutes_ends onload_void)
    (fun _ same => same) (fun _ _ moved => moved)
    fun _ _ other failed => absurd failed other) fun _ =>
      ends_of_each fun s moved => ?_
  obtain ⟨t', second, rfl⟩ := moved
  have still : Still (n.rtMoves rt change) n.routing ↔
      t'.kept = n.routing.kept := by
    unfold Still Program.after Net.rtMoves
    change (when _ _).exec n.routing = _ at first
    change (when _ _).exec t = _ at second
    rw [exec_bind, first]
    simp only
    rw [second]
  generalize newly : mtpFlgState (mtpStaFlags change (n.rt rt).flags) =
    newstate at state
  have next : n.rlNext rt change = mtpCntState ((n.rl (n.rt rt).rl).rts.move
      (n.rt rt).state newstate) (n.rl (n.rt rt).rl).state := newly ▸ rfl
  refine ends_bind (R := fun _ s =>
    (({ n with routing := t' } : Net).withRt rt f).withRl (n.rt rt).rl
      (Rl.movedRts (n.rt rt).state newstate) = s)
    (ends_modify fun _ same => same ▸ rfl) fun _ => ?_
  refine ends_bind (R := fun _ _ => ¬ (n.rtTells rt change ∧ n.refuses))
    (ends_when (fun tells => ?_) fun quiet _ _ tells =>
      quiet (next ▸ tells.1.2.1)) fun _ =>
    ends_bind (R := fun _ _ => ¬ (n.rtTells rt change ∧ n.refuses))
      (ends_modify fun _ quiet => quiet) fun _ => ends_modify fun _ quiet => quiet
  rw [← next]
  refine ends_restoring (ends_conseq rlSetState_ends (fun _ same => same)
    (fun _ _ quiet tells => quiet ⟨(rlTells_movedRts ..).2 tells.1.2.2, tells.2⟩)
    fun e s after failed => ?_)
  obtain ⟨told, refuses, left⟩ := after failed
  refine ⟨⟨⟨flags, newly ▸ state⟩, next ▸ tells, (rlTells_movedRts ..).1 told⟩,
    refuses, ?_⟩
  unfold Net.rtFits
  rw [still]
  exact rlLeft_iff same left

end Routes

section Loops

variable {n : Net} {list : List Nat} {body : Nat → NetM Unit}
  (first told : Nat → Prop) [DecidablePred first]
  (Left Marked : Nat → Net → Prop)

theorem keeps_forNet {I : Net → Prop} (keeps : ∀ i, Keeps I (body i)) :
    ∀ list, Keeps I (forNet body list)
  | [] => keeps_pure _
  | i :: rest => keeps_bind (keeps i) fun _ => keeps_forNet keeps rest

theorem forNet_ends
    (idle : ∀ i, ¬ first i → Ends (fun s => n = s) (body i)
      (fun _ s => n = s) fun e _ => e ≠ .failed)
    (starts : ∀ i, first i → Ends (fun s => n = s) (body i)
      (fun _ s => ¬ told i ∧ Marked i s)
      fun e s => e = .failed → told i ∧ Left i s)
    (keeps : ∀ i j, Keeps (Marked i) (body j)) :
    Ends (fun s => n = s) (forNet body list)
      (fun _ s => match list.find? (fun i => first i) with
        | none => n = s
        | some i => ¬ told i ∧ Marked i s)
      fun e s => e = .failed → ∃ i ∈ list.find? (fun i => first i),
        told i ∧ Left i s ∨ ¬ told i ∧ Marked i s := by
  induction list with
  | nil => exact ends_pure fun _ same => same
  | cons i rest ih =>
      by_cases here : first i
      · rw [List.find?_cons_of_pos (by simpa using here)]
        refine ends_bind (ends_conseq (starts i here) (fun _ same => same)
          (fun _ _ post => post) fun _ _ after failed =>
            ⟨i, rfl, .inl (after failed)⟩) fun _ => ?_
        refine ends_of_each fun s marked => ?_
        have rest := ends_of_keeps (keeps_forNet (keeps i) rest)
        exact ends_conseq rest (fun _ same => same ▸ marked.2)
          (fun _ _ kept => ⟨marked.1, kept⟩) fun _ _ kept _ =>
            ⟨i, rfl, .inr ⟨marked.1, kept⟩⟩
      · rw [List.find?_cons_of_neg (by simpa using here)]
        exact ends_bind (ends_conseq (idle i here) (fun _ same => same)
          (fun _ _ same => same) fun _ _ other failed => absurd failed other)
          fun _ => ih

end Loops

section Closed

variable {I : Net → Prop} {change : Change}

structure ClosedRs (I : Net → Prop) : Prop where
  withRs : ∀ s i f, I s → I (s.withRs i f)
  routing : ∀ s t, I s → I { s with routing := t }
  sent : ∀ s room sent, I s → I { s with room := room, sent := sent }

structure ClosedLs (I : Net → Prop) : Prop extends ClosedRs I where
  withRl : ∀ s i f, I s → I (s.withRl i f)
  withLs : ∀ s i f, I s → I (s.withLs i f)
  withSp : ∀ s i f, I s → I (s.withSp i f)
  withNa : ∀ s i f, I s → I (s.withNa i f)

structure ClosedLk (I : Net → Prop) : Prop extends ClosedLs I where
  withRt : ∀ s i f, I s → I (s.withRt i f)
  withLk : ∀ s i f, I s → I (s.withLk i f)

theorem send_keeps (closed : ClosedRs I) (notice : Notice) :
    Keeps I (send notice) := by
  refine triple_get_bind fun s holds => ?_
  refine triple_ite (fun _ => ?_) fun _ => ?_
  · exact fun _ _ => closed.sent _ _ _ holds
  · exact fun _ _ => closed.sent _ _ _ holds

theorem mtpAdjacent_keeps (adj : Nat) : Keeps I (mtpAdjacent adj) := by
  refine triple_get_any fun s => keeps_when ?_
  split
  · exact keeps_throw _
  · split
    · exact keeps_throw _
    · exact keeps_pure _

theorem rsSetState_keeps (closed : ClosedRs I) (rs : Nat) :
    Keeps I (rsSetState rs change) := by
  have writes (f : Rs → Rs) :
      Keeps I (modify (Net.withRs rs f) : NetM PUnit) :=
    keeps_modify fun s => closed.withRs s rs f
  refine triple_get_any fun n => keeps_when (keeps_bind (keeps_when ?_)
    fun _ => writes _)
  refine keeps_bind (keeps_when (keeps_when (keeps_bind
    (mtpAdjacent_keeps rs) fun _ => mtpAdjacent_keeps rs))) fun _ => ?_
  refine keeps_bind (keeps_when (writes _)) fun _ => ?_
  refine keeps_bind (keeps_when (keeps_bind (writes _) fun _ =>
    send_keeps closed _)) fun _ => ?_
  refine keeps_bind (keeps_when (keeps_bind (keeps_when (writes _)) fun _ =>
    keeps_when (send_keeps closed _))) fun _ => ?_
  exact keeps_bind (keeps_when (keeps_bind (writes _) fun _ =>
    send_keeps closed _)) fun _ => writes _

theorem onRoutes_keeps (closed : ClosedRs I) (m : TrafficM Unit) :
    Keeps I (onRoutes m) := by
  refine triple_focus fun s holds => ?_
  cases m.exec s.routing with
  | mk result t => cases result <;> exact closed.routing s t holds

theorem pushing_keeps {m undo : NetM Unit} (body : Keeps I m)
    (undone : Keeps I undo) : Keeps I (pushing m undo) :=
  keeps_tryCatch body fun _ => keeps_bind undone fun _ => keeps_throw _

theorem rlSelect_keeps (closed : ClosedRs I) (n : Net) (rl : Nat)
    (change : Change) (state : State) :
    Keeps I (rlSelect n rl change state) := by
  have moved (a b : State) : Keeps I (moveRls (n.rl rl).rs a b) :=
    keeps_modify fun s => closed.withRs s _ _
  have told : Keeps I (do
      moveRls (n.rl rl).rs (n.rl rl).state state
      pushing (rsSetState (n.rl rl).rs change)
        (moveRls (n.rl rl).rs state (n.rl rl).state)) :=
    keeps_bind (moved _ _) fun _ =>
      pushing_keeps (rsSetState_keeps closed _) (moved _ _)
  have rerouted (curr : Option Nat) (force : Bool) :
      Keeps I (rlReroute (n.rl rl).rs curr force) :=
    triple_get_any fun _ => keeps_bind (onRoutes_keeps closed _) fun _ =>
      keeps_modify fun s => closed.withRs s _ _
  exact keeps_ite (keeps_bind (rerouted _ _) fun _ => told)
    (keeps_ite (keeps_bind (rerouted _ _) fun _ => told)
      (keeps_ite told (moved _ _)))

theorem rlSetState_keeps (closed : ClosedLs I) (rl : Nat) :
    Keeps I (rlSetState rl change) :=
  triple_get_any fun n => keeps_when (keeps_bind (keeps_when
    (keeps_bind (rlSelect_keeps closed.toClosedRs n rl _ _) fun _ =>
      keeps_bind (keeps_modify fun s => closed.withLs s _ _) fun _ =>
        keeps_modify fun s => closed.withRl s _ _)) fun _ =>
          keeps_modify fun s => closed.withRl s _ _)

theorem spSetState_keeps (closed : ClosedLs I) (sp : Nat) :
    Keeps I (spSetState sp change) := by
  have writes (f : Sp → Sp) :
      Keeps I (modify (Net.withSp sp f) : NetM PUnit) :=
    keeps_modify fun s => closed.withSp s sp f
  refine triple_get_any fun n => keeps_when (keeps_bind (keeps_when ?_)
    fun _ => writes _)
  refine keeps_bind (keeps_when (keeps_bind (writes _) fun _ =>
    keeps_ite (writes _) (writes _))) fun _ => ?_
  exact keeps_bind (keeps_when (writes _)) fun _ => keeps_bind
    (keeps_modify fun s => closed.withNa s _ _) fun _ => writes _

theorem lsSetState_keeps (closed : ClosedLs I) (ls : Nat) :
    Keeps I (lsSetState ls change) := by
  refine triple_get_any fun n => keeps_when (keeps_bind (keeps_when ?_)
    fun _ => keeps_modify fun s => closed.withLs s _ _)
  refine keeps_bind (keeps_forNet (fun rl => triple_get_any fun _ =>
    keeps_when (rlSetState_keeps closed rl)) _) fun _ => ?_
  refine keeps_bind (keeps_modify fun s => closed.withSp s _ _) fun _ =>
    triple_get_any fun _ => ?_
  exact keeps_bind (keeps_when (pushing_keeps (spSetState_keeps closed _)
    (keeps_modify fun s => closed.withSp s _ _))) fun _ =>
      keeps_modify fun s => closed.withLs s _ _

theorem rtSetState_keeps_own (closed : ClosedLs I) {rt : Nat}
    (withRt : ∀ s f, I s → I (s.withRt rt f))
    (withLk : ∀ s i f, I s → I (s.withLk i f)) :
    Keeps I (rtSetState rt change) := by
  refine triple_get_any fun n => keeps_when (keeps_bind (keeps_when ?_)
    fun _ => keeps_modify fun s => withRt s _)
  refine keeps_bind (keeps_modify fun s => withRt s _) fun _ => ?_
  refine keeps_bind (keeps_when (onRoutes_keeps closed.toClosedRs _))
    fun _ => keeps_bind (keeps_when (onRoutes_keeps closed.toClosedRs _))
      fun _ => ?_
  refine keeps_bind (keeps_modify fun s => closed.withRl s _ _) fun _ => ?_
  exact keeps_bind (keeps_when (pushing_keeps
    (rlSetState_keeps closed _)
    (keeps_modify fun s => closed.withRl s _ _))) fun _ =>
      keeps_bind (keeps_modify fun s => withLk s _ _) fun _ =>
        keeps_modify fun s => withRt s _

theorem rtSetState_keeps (closed : ClosedLk I) (rt : Nat) :
    Keeps I (rtSetState rt change) :=
  rtSetState_keeps_own closed.toClosedLs (fun s => closed.withRt s rt)
    closed.withLk

theorem lkSetState_keeps (closed : ClosedLk I) (lk : Nat) :
    Keeps I (lkSetState lk change) := by
  refine triple_get_any fun n => keeps_when (keeps_bind (keeps_when ?_)
    fun _ => keeps_modify fun s => closed.withLk s _ _)
  refine keeps_bind (keeps_when (keeps_modify fun s => closed.withLk s _ _))
    fun _ => ?_
  refine keeps_bind (keeps_forNet (fun rt => triple_get_any fun _ =>
    keeps_when (rtSetState_keeps closed rt)) _) fun _ => ?_
  refine keeps_bind (keeps_modify fun s => closed.withLs s _ _) fun _ =>
    triple_get_any fun _ => ?_
  exact keeps_bind (keeps_when (pushing_keeps
    (lsSetState_keeps closed.toClosedLs _)
    (keeps_modify fun s => closed.withLs s _ _))) fun _ =>
      keeps_modify fun s => closed.withLk s _ _

end Closed

section LinkSets

variable {n : Net} {newstate : State} {flags : Flags} {change : Change}

theorem mtpStaFlags_blocking :
    mtpStaFlags (blocking newstate) flags =
      { flags with blocked := decide (newstate = .inactive) } := by
  unfold blocking
  by_cases inactive : newstate = .inactive
  · rw [if_pos inactive, decide_eq_true inactive]
    rfl
  · rw [if_neg inactive, decide_eq_false inactive]
    rfl

theorem blocked_of_changed
    (changed : mtpStaFlags (blocking newstate) flags ≠ flags) :
    flags.blocked ≠ decide (newstate = .inactive) := by
  intro same
  rw [mtpStaFlags_blocking, ← same] at changed
  exact changed rfl

theorem rlSetState_records (rl : Nat) :
    Ends (fun s => n = s) (rlSetState rl change)
      (fun _ s => ∃ state, s.rl = Function.update n.rl rl
        { n.rl rl with
          state := state
          flags := mtpStaFlags change (n.rl rl).flags })
      fun _ s => s.rl = n.rl := by
  refine ends_get_bind fun n' same => ?_
  subst same
  refine ends_when (fun _ => ?_) fun unchanged s same => ⟨(n.rl rl).state, ?_⟩
  · refine ends_bind (R := fun _ s => ∃ state, s.rl = Function.update n.rl rl
      { n.rl rl with state := state }) (ends_when (fun _ => ?_) fun _ s same =>
        ⟨(n.rl rl).state, ?_⟩) fun _ => ends_modify fun s written => ?_
    · have selected := rlSelect_keeps (I := fun s => s.rl = n.rl)
        ⟨fun _ _ _ same => same, fun _ _ same => same, fun _ _ _ same => same⟩
        n rl change (mtpFlgState (mtpStaFlags change (n.rl rl).flags))
      refine ends_bind (ends_conseq (ends_of_keeps selected)
        (fun _ same => same ▸ rfl) (fun _ _ same => same) fun _ _ same => same)
        fun _ => ?_
      refine ends_bind (R := fun _ s => s.rl = n.rl)
        (ends_modify fun _ same => same) fun _ => ends_modify fun s same =>
          ⟨mtpFlgState (mtpStaFlags change (n.rl rl).flags), ?_⟩
      simp only [Net.withRl, same]
    · rw [← same, Function.update_eq_self]
    · obtain ⟨state, same⟩ := written
      refine ⟨state, ?_⟩
      simp only [Net.withRl, same, Function.update_self, Function.update_idem]
  · have flags : mtpStaFlags change (n.rl rl).flags = (n.rl rl).flags := by
      simpa using unchanged
    rw [← same, flags, Function.update_eq_self]

def pushRl (change : Change) (rl : Nat) : NetM Unit := do
  let n ← get
  when (change ≠ .enter (n.rl rl).state) (rlSetState rl change)

theorem pushRl_keeps_blocked (rl i : Nat) :
    Keeps (fun s => (s.rl i).flags.blocked = decide (newstate = .inactive))
      (pushRl (blocking newstate) rl) := by
  refine triple_get_bind fun n holds => ?_
  refine triple_when (fun _ => ?_) fun _ _ same => same ▸ holds
  have pushed : Ends (fun s => n = s) (rlSetState rl (blocking newstate))
      (fun _ s => (s.rl i).flags.blocked = decide (newstate = .inactive))
      fun _ s => (s.rl i).flags.blocked = decide (newstate = .inactive) := by
    refine ends_conseq (rlSetState_records rl) (fun _ same => same)
      (fun _ s written => ?_) fun _ s same => ?_
    · obtain ⟨state, written⟩ := written
      rw [written]
      by_cases here : i = rl
      · rw [here, Function.update_self, mtpStaFlags_blocking]
      · rw [Function.update_of_ne here]
        exact holds
    · rw [same]
      exact holds
  exact pushed

def RlFirst (n : Net) (change : Change) (rl : Nat) : Prop :=
  change ≠ .enter (n.rl rl).state ∧
    mtpStaFlags change (n.rl rl).flags ≠ (n.rl rl).flags

theorem pushRl_idle {rl : Nat} (idle : ¬ RlFirst n change rl) :
    Ends (fun s => n = s) (pushRl change rl) (fun _ s => n = s)
      fun e _ => e ≠ .failed := by
  refine ends_get_bind fun n' same => ?_
  subst same
  refine ends_when (fun pushed => ?_) fun _ _ same => same
  refine ends_get_bind fun n' same => ?_
  subst same
  exact ends_when (fun changed => absurd ⟨pushed, changed⟩ idle)
    fun _ _ same => same

theorem rlLeft_fits {s : Net} {rl : Nat} (left : n.RlLeft rl change s) :
    s.kept = n.kept ↔ n.rlFits rl change := by
  by_cases reroutes : n.rlReroutes rl change
  · refine iff_of_false (fun kept => ?_) fun fits => fits.1 reroutes
    have curr := congrArg (fun k : Net => (k.rs (n.rl rl).rs).curr) kept
    exact left.1 reroutes curr
  · rw [left.2 reroutes, cleared_kept_iff]
    exact ⟨fun fits => ⟨reroutes, fits⟩, And.right⟩

theorem pushRl_starts {rl : Nat} (first : RlFirst n (blocking newstate) rl) :
    Ends (fun s => n = s) (pushRl (blocking newstate) rl)
      (fun _ s => ¬ (n.rlTells rl (blocking newstate) ∧ n.refuses) ∧
        (s.rl rl).flags.blocked = decide (newstate = .inactive))
      fun e s => e = .failed →
        (n.rlTells rl (blocking newstate) ∧ n.refuses) ∧
          (s.kept = n.kept ↔ n.rlFits rl (blocking newstate)) := by
  refine ends_get_bind fun n' same => ?_
  subst same
  refine ends_when (fun _ => ?_) fun none => absurd first.1 none
  refine ends_conseq (ends_and rlSetState_ends (rlSetState_records rl))
    (fun _ same => same) (fun _ s post => ⟨post.1, ?_⟩)
    fun e s error failed => ?_
  · obtain ⟨state, written⟩ := post.2
    rw [written, Function.update_self, mtpStaFlags_blocking]
  · obtain ⟨tells, refuses, left⟩ := error.1 failed
    exact ⟨⟨tells, refuses⟩, rlLeft_fits left⟩

instance (n : Net) (change : Change) : DecidablePred (RlFirst n change) :=
  fun _ => inferInstanceAs (Decidable (_ ∧ _))

theorem spSetState_spares (sp : Nat) : Spares .failed (spSetState sp change) := by
  unfold spSetState
  refine spares_bind spares_get fun n => spares_when fun _ => ?_
  refine spares_bind (spares_when fun _ => ?_) fun _ => spares_modify _
  refine spares_bind (spares_when fun _ => spares_bind (spares_modify _)
    fun _ => spares_ite (fun _ => spares_modify _) fun _ => spares_modify _)
    fun _ => ?_
  grind

theorem lsSetState_ends {ls : Nat} :
    Ends (fun s => n = s) (lsSetState ls change) (fun _ _ => True)
      fun e s => e = .failed → (s.kept = n.kept ↔ n.lsFits ls change) := by
  refine ends_get_bind fun n' same => ?_
  subst same
  refine ends_when (fun _ => ?_) fun _ _ _ => trivial
  refine ends_bind (R := fun _ _ => True) ?_ fun _ =>
    ends_modify fun _ _ => trivial
  refine ends_when (fun _ => ?_) fun _ _ _ => trivial
  generalize newly : mtpFlgState (mtpStaFlags change (n.ls ls).flags) =
    newstate
  refine ends_bind (R := fun _ _ => True) ?_ fun _ => ?_
  · refine ends_conseq (forNet_ends (RlFirst n (blocking newstate))
      (fun rl => n.rlTells rl (blocking newstate) ∧ n.refuses)
      (fun rl s => s.kept = n.kept ↔ n.rlFits rl (blocking newstate))
      (fun rl s => (s.rl rl).flags.blocked = decide (newstate = .inactive))
      (fun _ idle => pushRl_idle idle) (fun _ first => pushRl_starts first)
      fun i j => pushRl_keeps_blocked j i) (fun _ same => same)
      (fun _ _ _ => trivial) fun e s after failed => ?_
    obtain ⟨rl, found, after⟩ := after failed
    have lsFirst : n.lsFirst ls change = some rl := by
      unfold Net.lsFirst
      rw [newly]
      exact found
    have fits_iff : n.lsFits ls change ↔ n.refuses ∧
        n.rlTells rl (blocking newstate) ∧ n.rlFits rl (blocking newstate) := by
      unfold Net.lsFits
      rw [lsFirst, newly]
      simp
    rw [fits_iff]
    rcases after with ⟨⟨tells, refuses⟩, left⟩ | ⟨quiet, marked⟩
    · rw [left]
      exact ⟨fun fits => ⟨refuses, tells, fits⟩, fun fits => fits.2.2⟩
    · refine iff_of_false (fun kept => ?_) fun fits => quiet ⟨fits.2.1, fits.1⟩
      have first : RlFirst n (blocking newstate) rl := by
        have fits := List.find?_some found
        exact of_decide_eq_true fits
      refine blocked_of_changed first.2 ?_
      rw [← marked]
      exact (congrArg (fun k : Net => (k.rl rl).flags.blocked) kept).symm
  · refine ends_bind (R := fun _ _ => True) (ends_modify fun _ _ => trivial)
      fun _ => ends_get_any fun _ => ?_
    refine ends_bind (R := fun _ _ => True) (ends_when (fun _ =>
      ends_restoring (ends_conseq (spSetState_spares _) (fun _ _ => trivial)
        (fun _ _ _ => trivial) fun _ _ other failed => absurd failed other))
      fun _ _ _ => trivial) fun _ => ends_modify fun _ _ => trivial

def Net.rtFlags (n : Net) : Nat → Flags := Rt.flags ∘ n.rt

theorem rtFlags_withRt (rt : Nat) (f : Rt → Rt) :
    (n.withRt rt f).rtFlags =
      Function.update n.rtFlags rt (f (n.rt rt)).flags :=
  Function.comp_update Rt.flags n.rt rt _

theorem closedLs_rtFlags (F : Nat → Flags) :
    ClosedLs fun s => s.rtFlags = F where
  withRs _ _ _ same := same
  routing _ _ same := same
  sent _ _ _ same := same
  withRl _ _ _ same := same
  withLs _ _ _ same := same
  withSp _ _ _ same := same
  withNa _ _ _ same := same

theorem rtSetState_records (rt : Nat) :
    Ends (fun s => n = s) (rtSetState rt change)
      (fun _ s => s.rtFlags = Function.update n.rtFlags rt
        (mtpStaFlags change (n.rt rt).flags))
      fun _ s => s.rtFlags = n.rtFlags := by
  have same_flags (s : Net) (f : Rt → Rt) (alike : ∀ r, (f r).flags = r.flags)
      (same : s.rtFlags = n.rtFlags) : (s.withRt rt f).rtFlags = n.rtFlags := by
    rw [rtFlags_withRt, alike, ← same]
    exact Function.update_eq_self rt s.rtFlags
  have closed := closedLs_rtFlags n.rtFlags
  refine ends_get_bind fun n' same => ?_
  subst same
  refine ends_when (fun _ => ?_) fun unchanged s same => ?_
  · refine ends_bind (R := fun _ s => s.rtFlags = n.rtFlags)
      (ends_when (fun _ => ?_) fun _ s same => same ▸ rfl) fun _ =>
        ends_modify fun s same => ?_
    · refine ends_bind (R := fun _ s => s.rtFlags = n.rtFlags)
        (ends_modify fun s same => same_flags s _ (fun _ => by rfl) (same ▸ rfl))
        fun _ => ends_of_keeps ?_
      refine keeps_bind (keeps_when (onRoutes_keeps closed.toClosedRs _))
        fun _ => keeps_bind (keeps_when (onRoutes_keeps closed.toClosedRs _))
          fun _ => ?_
      refine keeps_bind (keeps_modify fun s => closed.withRl s _ _) fun _ => ?_
      exact keeps_bind (keeps_when (pushing_keeps (rlSetState_keeps closed _)
        (keeps_modify fun s => closed.withRl s _ _))) fun _ =>
          keeps_bind (keeps_modify fun _ same => same) fun _ =>
            keeps_modify fun s => same_flags s _ fun _ => by rfl
    · rw [rtFlags_withRt, same]
  · have flags : mtpStaFlags change (n.rt rt).flags = n.rtFlags rt :=
      not_not.1 unchanged
    rw [← same, flags, Function.update_eq_self]

def pushRt (change : Change) (rt : Nat) : NetM Unit := do
  let n ← get
  when (change ≠ .enter (n.rt rt).state) (rtSetState rt change)

theorem pushRt_keeps_blocked (rt i : Nat) :
    Keeps (fun s => (s.rtFlags i).blocked = decide (newstate = .inactive))
      (pushRt (blocking newstate) rt) := by
  refine triple_get_bind fun n holds => ?_
  refine triple_when (fun _ => ?_) fun _ _ same => same ▸ holds
  have pushed : Ends (fun s => n = s) (rtSetState rt (blocking newstate))
      (fun _ s => (s.rtFlags i).blocked = decide (newstate = .inactive))
      fun _ s => (s.rtFlags i).blocked = decide (newstate = .inactive) := by
    refine ends_conseq (rtSetState_records rt) (fun _ same => same)
      (fun _ s written => ?_) fun _ s same => ?_
    · rw [written]
      by_cases here : i = rt
      · rw [here, Function.update_self, mtpStaFlags_blocking]
      · rw [Function.update_of_ne here]
        exact holds
    · rw [same]
      exact holds
  exact pushed

def RtFirst (n : Net) (change : Change) (rt : Nat) : Prop :=
  change ≠ .enter (n.rt rt).state ∧
    mtpStaFlags change (n.rt rt).flags ≠ (n.rt rt).flags

instance (n : Net) (change : Change) : DecidablePred (RtFirst n change) :=
  fun _ => inferInstanceAs (Decidable (_ ∧ _))

theorem pushRt_idle {rt : Nat} (idle : ¬ RtFirst n change rt) :
    Ends (fun s => n = s) (pushRt change rt) (fun _ s => n = s)
      fun e _ => e ≠ .failed := by
  refine ends_get_bind fun n' same => ?_
  subst same
  refine ends_when (fun pushed => ?_) fun _ _ same => same
  refine ends_get_bind fun n' same => ?_
  subst same
  exact ends_when (fun changed => absurd ⟨pushed, changed⟩ idle)
    fun _ _ same => same

theorem pushRt_starts {rt : Nat} (first : RtFirst n (blocking newstate) rt) :
    Ends (fun s => n = s) (pushRt (blocking newstate) rt)
      (fun _ s => ¬ (n.rtTells rt (blocking newstate) ∧ n.refuses) ∧
        (s.rtFlags rt).blocked = decide (newstate = .inactive))
      fun e s => e = .failed →
        (n.rtTells rt (blocking newstate) ∧ n.refuses) ∧
          (s.kept = n.kept ↔ n.rtFits rt (blocking newstate)) := by
  refine ends_get_bind fun n' same => ?_
  subst same
  refine ends_when (fun _ => ?_) fun none => absurd first.1 none
  refine ends_conseq (ends_and rtSetState_ends (rtSetState_records rt))
    (fun _ same => same) (fun _ s post => ⟨post.1, ?_⟩)
    fun e s error failed => ?_
  · rw [post.2, Function.update_self, mtpStaFlags_blocking]
  · obtain ⟨tells, refuses, left⟩ := error.1 failed
    exact ⟨⟨tells, refuses⟩, left⟩

theorem kept_withLk {f : Lk → Lk} (same : ∀ l, (f l).kept = l.kept)
    (i : Nat) : (n.withLk i f).kept = n.kept := by
  unfold Net.kept Net.withLk
  simp only
  rw [Function.comp_update, same, ← Function.comp_apply (f := Lk.kept),
    Function.update_eq_self]

abbrev Ls.movedLks (oldstate newstate : State) (l : Ls) : Ls :=
  { l with lks := l.lks.move oldstate newstate }

theorem movedLks_back (ls : Nat) (oldstate newstate : State) :
    (n.withLs ls (Ls.movedLks oldstate newstate)).withLs ls
      (Ls.movedLks newstate oldstate) = n := by
  unfold Net.withLs Ls.movedLks
  simp only [Function.update_self, Function.update_idem, Counters.move_back,
    Function.update_eq_self]

theorem kept_back_iff {s : Net} (ls : Nat) (oldstate newstate : State) :
    (s.withLs ls (Ls.movedLks newstate oldstate)).kept = n.kept ↔
      s.kept = (n.withLs ls (Ls.movedLks oldstate newstate)).kept := by
  change s.kept.withLs ls (Ls.movedLks newstate oldstate) = n.kept ↔
    s.kept = n.kept.withLs ls (Ls.movedLks oldstate newstate)
  constructor
  · intro same
    rw [← same, movedLks_back]
  · intro same
    rw [same, movedLks_back]

theorem lsFits_movedLks (ls : Nat) (oldstate newstate : State) :
    (n.withLs ls (Ls.movedLks oldstate newstate)).lsFits ls change ↔
      n.lsFits ls change := by
  unfold Net.lsFits Net.lsFirst
  simp only [Net.withLs, Function.update_self]
  rfl

theorem lkSetState_ends {lk : Nat} :
    Ends (fun s => n = s) (lkSetState lk change) (fun _ _ => True)
      fun e s => e = .failed → (s.kept = n.kept ↔ n.lkFits lk change) := by
  refine ends_get_bind fun n' same => ?_
  subst same
  refine ends_when (fun _ => ?_) fun _ _ _ => trivial
  refine ends_bind (R := fun _ _ => True) ?_ fun _ =>
    ends_modify fun _ _ => trivial
  refine ends_when (fun _ => ?_) fun _ _ _ => trivial
  have fits_some (rt : Nat) (first : n.lkFirst lk change = some rt) :
      n.lkFits lk change ↔ n.refuses ∧
        n.rtTells rt (blocking (mtpFlgState (mtpStaFlags change (n.lk lk).flags))) ∧
        n.rtFits rt (blocking (mtpFlgState (mtpStaFlags change (n.lk lk).flags))) := by
    unfold Net.lkFits
    rw [first]
  have fits_none (first : n.lkFirst lk change = none) :
      n.lkFits lk change ↔ n.lsFits (n.lk lk).ls (n.lsNext lk change) := by
    unfold Net.lkFits
    rw [first]
  unfold Net.lkFirst at fits_some fits_none
  unfold Net.lsNext at fits_none
  generalize mtpFlgState (mtpStaFlags change (n.lk lk).flags) =
    newstate at fits_some fits_none ⊢
  refine ends_bind (R := fun _ s => ∃ f : Lk → Lk,
    (∀ l, (f l).kept = l.kept ∧ (f l).ls = l.ls) ∧ n.withLk lk f = s)
    (ends_when (fun _ => ends_modify fun s same => ?_) fun _ s same => ?_)
    fun _ => ends_of_each fun s timed => ?_
  · subst same
    exact ⟨fun l => { l with t28a := true }, fun _ => ⟨rfl, rfl⟩, rfl⟩
  · refine ⟨id, fun _ => ⟨rfl, rfl⟩, ?_⟩
    rw [← same]
    unfold Net.withLk
    rw [id, Function.update_eq_self]
  obtain ⟨f, timer, rfl⟩ := timed
  have kept := kept_withLk (n := n) (fun l => (timer l).1) lk
  have above : ((n.withLk lk f).lk lk).ls = (n.lk lk).ls := by
    simp only [Net.withLk, Function.update_self, (timer _).2]
  have dirty {rt : Nat} {s : Net} (found : (n.lk lk).rts.list.find?
      (fun rt => RtFirst n (blocking newstate) rt) = some rt)
      (marked : (s.rtFlags rt).blocked = decide (newstate = .inactive)) :
      s.kept ≠ n.kept := by
    intro same
    have first : RtFirst n (blocking newstate) rt := by
      have fits := List.find?_some found
      exact of_decide_eq_true fits
    refine blocked_of_changed first.2 ?_
    rw [← marked]
    exact (congrArg (fun k : Net => (k.rt rt).flags.blocked) same).symm
  refine ends_bind (ends_conseq (forNet_ends (RtFirst n (blocking newstate))
    (fun rt => n.rtTells rt (blocking newstate) ∧ n.refuses)
    (fun rt s => s.kept = n.kept ↔ n.rtFits rt (blocking newstate))
    (fun rt s => (s.rtFlags rt).blocked = decide (newstate = .inactive))
    (fun _ idle => pushRt_idle (n := n.withLk lk f) idle) (fun _ first => ?_)
    fun i j => pushRt_keeps_blocked j i) (fun _ same => same)
    (fun _ _ post => post) fun e s after failed => ?_) fun _ => ?_
  · have starts := pushRt_starts (n := n.withLk lk f) first
    rw [kept] at starts
    exact starts
  · obtain ⟨rt, found, after⟩ := after failed
    rw [fits_some rt found]
    rcases after with ⟨⟨tells, refuses⟩, left⟩ | ⟨quiet, marked⟩
    · rw [left]
      exact ⟨fun fits => ⟨refuses, tells, fits⟩, fun fits => fits.2.2⟩
    · exact iff_of_false (dirty found marked) fun fits =>
        quiet ⟨fits.2.1, fits.1⟩
  · refine ends_of_each fun s looped => ?_
    refine ends_bind (R := fun _ s' => s.withLs (n.lk lk).ls
      (Ls.movedLks (n.lk lk).state newstate) = s')
      (ends_modify fun _ same => same ▸ rfl) fun _ => ?_
    refine ends_get_bind fun n' same => ?_
    subst same
    refine ends_bind (R := fun _ _ => True) (ends_when (fun _ => ?_)
      fun _ _ _ => trivial) fun _ => ends_modify fun _ _ => trivial
    split at looped
    case h_1 missing =>
      subst looped
      have level : (((n.withLk lk f).withLs (n.lk lk).ls
          (Ls.movedLks (n.lk lk).state newstate)).lk lk).ls = (n.lk lk).ls :=
        above
      have next : ((n.withLk lk f).withLs (n.lk lk).ls
          (Ls.movedLks (n.lk lk).state newstate)).ls (n.lk lk).ls =
          Ls.movedLks (n.lk lk).state newstate (n.ls (n.lk lk).ls) :=
        Function.update_self ..
      rw [level, next]
      refine ends_restoring (ends_conseq lsSetState_ends (fun _ same => same)
        (fun _ _ _ => trivial) fun e s after failed => ?_)
      rw [← kept, kept_back_iff, after failed, lsFits_movedLks,
        fits_none missing]
      rfl
    case h_2 rt found =>
      have closed : ClosedLs fun s : Net =>
          (s.rtFlags rt).blocked = decide (newstate = .inactive) :=
        ⟨⟨fun _ _ _ same => same, fun _ _ same => same, fun _ _ _ same => same⟩,
          fun _ _ _ same => same, fun _ _ _ same => same,
          fun _ _ _ same => same, fun _ _ _ same => same⟩
      refine ends_conseq (ends_of_keeps (pushing_keeps
        (lsSetState_keeps closed _)
        (keeps_modify fun s => closed.withLs s _ _)))
        (fun _ same => same ▸ looped.2) (fun _ _ _ => trivial)
        fun e s marked failed => ?_
      rw [fits_some rt found]
      exact iff_of_false (dirty found marked) fun fits =>
        looped.1 ⟨fits.2.1, fits.1⟩

end LinkSets

section Links

variable {n : Net} {change : Change}

theorem when_onLinks_ends {c : Prop} [Decidable c] {m : TrafficM Unit}
    (void : Void m) :
    Ends (fun s => n = s) (when c (onLinks m))
      (fun _ s => ∃ t, (when c m).exec n.linking = (.ok (), t) ∧
        { n with linking := t } = s)
      fun e _ => e ≠ .failed := by
  refine ends_when (fun holds => ?_) fun other s same =>
    ⟨n.linking, by rw [when, if_neg other]; rfl, same⟩
  rw [when, if_pos holds]
  refine ends_focus fun s same => ?_
  subst same
  cases ran : m.exec n.linking with
  | mk result t =>
      cases result with
      | ok _ => exact ⟨t, rfl, rfl⟩
      | error e => exact void.error ran

abbrev Lk.movedSls (oldstate newstate : State) (l : Lk) : Lk :=
  { l with sls := l.sls.move oldstate newstate }

theorem movedSls_back (lk : Nat) (oldstate newstate : State) :
    (n.withLk lk (Lk.movedSls oldstate newstate)).withLk lk
      (Lk.movedSls newstate oldstate) = n := by
  unfold Net.withLk Lk.movedSls
  simp only [Function.update_self, Function.update_idem, Counters.move_back,
    Function.update_eq_self]

theorem kept_movedSls (lk : Nat) (oldstate newstate : State) :
    (n.withLk lk (Lk.movedSls oldstate newstate)).kept =
      n.kept.withLk lk (Lk.movedSls oldstate newstate) := by
  unfold Net.kept Net.withLk
  simp only
  rw [Function.comp_update]
  rfl

theorem kept_back_iff_sls {s : Net} (lk : Nat) (oldstate newstate : State) :
    (s.withLk lk (Lk.movedSls newstate oldstate)).kept = n.kept ↔
      s.kept = (n.withLk lk (Lk.movedSls oldstate newstate)).kept := by
  rw [kept_movedSls, kept_movedSls]
  constructor
  · intro same
    rw [← same, movedSls_back]
  · intro same
    rw [same, movedSls_back]

theorem lkFits_movedSls (lk : Nat) (oldstate newstate : State) :
    (n.withLk lk (Lk.movedSls oldstate newstate)).lkFits lk change ↔
      n.lkFits lk change := by
  unfold Net.lkFits Net.lkFirst Net.lsNext
  simp only [Net.withLk, Function.update_self]
  rfl

theorem kept_linking_iff {t : Traffic} {s : Net} (linking : s.linking = t) :
    s.kept = n.kept ↔ t.kept = n.linking.kept ∧
      s.kept = ({ n with linking := t } : Net).kept := by
  have parts : ({ n with linking := t } : Net).kept =
      { n.kept with linking := t.kept } := rfl
  constructor
  · intro same
    have moved : t.kept = n.linking.kept := by
      rw [← linking]
      exact congrArg Net.linking same
    refine ⟨moved, ?_⟩
    rw [parts, moved, same]
    rfl
  · rintro ⟨moved, same⟩
    rw [same, parts, moved]
    rfl

theorem slSetState_ends {sl : Nat} :
    Ends (fun s => n = s) (slSetState sl change) (fun _ _ => True)
      fun e s => e = .failed → (s.kept = n.kept ↔ n.slFits sl change) := by
  refine ends_get_bind fun n' same => ?_
  subst same
  refine ends_when (fun _ => ?_) fun _ _ _ => trivial
  refine ends_bind (R := fun _ _ => True) ?_ fun _ =>
    ends_modify fun _ _ => trivial
  refine ends_when (fun _ => ?_) fun _ _ _ => trivial
  refine ends_bind (ends_conseq (when_onLinks_ends changeback_void)
    (fun _ same => same) (fun _ _ moved => moved)
    fun _ _ other failed => absurd failed other) fun _ =>
      ends_of_each fun s moved => ?_
  obtain ⟨t, first, rfl⟩ := moved
  refine ends_bind (ends_conseq (when_onLinks_ends changeover_void)
    (fun _ same => same) (fun _ _ moved => moved)
    fun _ _ other failed => absurd failed other) fun _ =>
      ends_of_each fun s moved => ?_
  obtain ⟨t', second, rfl⟩ := moved
  have still : Still (n.slMoves sl change) n.linking ↔
      t'.kept = n.linking.kept := by
    unfold Still Program.after Net.slMoves
    change (when _ _).exec t = _ at second
    rw [exec_bind, first]
    simp only
    rw [second]
  have fits_iff : n.slFits sl change ↔ t'.kept = n.linking.kept ∧
      n.lkFits (n.sl sl).lk (n.lkNext sl change) := by
    unfold Net.slFits
    rw [still]
  rw [fits_iff]
  unfold Net.lkNext
  generalize mtpFlgState (mtpStaFlags change (n.sl sl).flags) = newstate
  refine ends_bind (R := fun _ s => ({ n with linking := t' } : Net).withLk
      (n.sl sl).lk (Lk.movedSls (n.sl sl).state newstate) = s)
    (ends_modify fun _ same => same ▸ rfl) fun _ => ?_
  refine ends_bind (R := fun _ _ => True) (ends_when (fun _ => ?_)
    fun _ _ _ => trivial) fun _ => ends_modify fun _ _ => trivial
  have closed : ClosedLk fun s => s.linking = t' :=
    ⟨⟨⟨fun _ _ _ same => same, fun _ _ same => same, fun _ _ _ same => same⟩,
      fun _ _ _ same => same, fun _ _ _ same => same,
      fun _ _ _ same => same, fun _ _ _ same => same⟩,
      fun _ _ _ same => same, fun _ _ _ same => same⟩
  refine ends_restoring (ends_conseq (ends_and lkSetState_ends
    (ends_conseq (ends_of_keeps (lkSetState_keeps closed _))
      (fun s (same : _ = s) => same ▸ rfl) (fun _ _ post => post)
      fun _ _ post => post)) (fun _ same => same)
    (fun _ _ _ => trivial) fun e s after failed => ?_)
  have linking : (s.withLk (n.sl sl).lk
      (Lk.movedSls newstate (n.sl sl).state)).linking = t' := after.2
  rw [kept_linking_iff linking, kept_back_iff_sls, after.1 failed,
    lkFits_movedSls]
  rfl

end Links

def Call.Fits (n : Net) : Call → Prop
  | sl i state => n.slFits i state
  | lk i state => n.lkFits i state
  | ls i state => n.lsFits i state
  | rt i state => n.rtFits i state
  | rl i state => n.rlFits i state
  | rs i _ => ¬ n.rsPending i

/-- A call that returns an error has changed nothing exactly where nothing is
changed before the users are told, and it is told at the first of the siblings
that change. -/
theorem refused_unchanged_iff (call : Call) (n n' : Net)
    (refused : call.perform.exec n = (.error .failed, n')) :
    Unchanged n n' ↔ call.Fits n := by
  have ended {m : NetM Unit} {Q : Unit → Net → Prop} {E : Err → Net → Prop}
      (ends : Ends (fun s => n = s) m Q E)
      (ran : m.exec n = (.error .failed, n')) : E .failed n' := by
    have after := ends n rfl
    rw [ran] at after
    exact after
  cases call with
  | sl i state => exact ended slSetState_ends refused rfl
  | lk i state => exact ended lkSetState_ends refused rfl
  | ls i state => exact ended lsSetState_ends refused rfl
  | rt i state => exact (ended rtSetState_ends refused rfl).2.2
  | rl i state => exact rlLeft_fits (ended rlSetState_ends refused rfl).2.2
  | rs i state =>
      unfold Unchanged
      rw [(ended rsSetState_ends refused rfl).2.2]
      exact cleared_kept_iff

def Net.detoured : Net :=
  { chain with
    rt := fun _ => { chain.rt 0 with
      state := .restricted, flags := { Flags.none with restricted := true } }
    rl := fun _ => { chain.rl 0 with
      state := .restricted
      flags := { Flags.none with restricted := true }
      rts := { chain.rl 0 |>.rts with states := fun s =>
        if s = State.restricted.number then 1 else 0 } }
    rs := fun _ => { chain.rs 0 with
      state := .restricted
      flags := { Flags.none with restricted := true }
      curr := some 0 }
    room := [false] }

theorem refused_detour_unchanged :
    Unchanged Net.detoured
      ((Call.rt 0 (.enter .allowed)).perform.after Net.detoured) := by
  refine (refused_unchanged_iff (.rt 0 (.enter .allowed)) Net.detoured _ rfl).2
    ⟨rfl, ?_, ?_⟩
  · rintro (⟨worse, -⟩ | ⟨-, -, cheaper⟩)
    · exact absurd worse (by decide)
    · exact absurd (cheaper 0 rfl) (by decide)
  · rintro ⟨-, pending⟩
    cases pending

def Net.serving : Net :=
  { chain with
    rs := fun _ => { chain.rs 0 with curr := some 0 }
    room := [false] }

theorem refused_call_forgets_list :
    let call := Call.ls 0 (.enter .inactive)
    let n := Net.serving
    let n' := call.perform.after n
    call.perform.exec n = (.error .failed, n') ∧ ¬ Unchanged n n' ∧
      (n'.rs 0).curr = none ∧ (call.perform.exec n').1 = .ok () ∧
      (call.perform.after n').sent = [] ∧
      ((call.perform.after n').rs 0).state = .allowed ∧
      (call.perform.after { n with room := [] }).sent = [.pause 0] := by
  refine ⟨rfl, fun same => ?_, rfl, rfl, rfl, rfl, rfl⟩
  have curr := congrArg (fun k : Net => (k.rs 0).curr) same
  cases curr

end OpenSS7.Mtp3
