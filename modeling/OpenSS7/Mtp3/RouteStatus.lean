import OpenSS7.Mtp3.Books

/-!
The status of a route: the transfer messages received for it, the blocking of
its link set and the route set test timer.
-/

namespace OpenSS7.Mtp3

open Program

/-- `state & MTPF_...`: the number of the state under the mask of a flag. -/
def State.masks (s flag : State) : Prop :=
  s.number.val &&& (1 <<< flag.number.val) ≠ 0

instance (s flag : State) : Decidable (s.masks flag) :=
  inferInstanceAs (Decidable (_ ≠ _))

section Handlers

variable (rt : Nat)

/-- `mtp_recv_tfp`, for the route that was looked up. -/
def mtpRecvTfp : NetM Unit := do
  let n ← get
  when ((n.rt rt).flags.prohibited = false) (rtSetState rt State.prohibited)

def mtpRecvTcp : NetM Unit := do
  let n ← get
  when (¬ (n.rt rt).state.masks .prohibited) (rtSetState rt State.prohibited)

/-- `mtp_recv_tfr` and `mtp_recv_tcr` -/
def mtpRecvTfr : NetM Unit := do
  let n ← get
  when (¬ (n.rt rt).state.masks .restricted) (rtSetState rt State.restricted)

def mtpRecvTcr : NetM Unit := mtpRecvTfr rt

/-- `mtp_recv_tfa` and `mtp_recv_tca` -/
def mtpRecvTfa : NetM Unit := do
  let n ← get
  when (¬ (n.rt rt).state.masks .allowed) (rtSetState rt State.allowed)

def mtpRecvTca : NetM Unit := mtpRecvTfa rt

/-- `rt_t10_timeout`; a route is never of the type of a cluster. -/
def rtT10Timeout : NetM Unit := do
  let n ← get
  match (n.rt rt).state with
  | .prohibited => do
      send (.rst rt)
      modify (Net.withRt rt fun r => { r with t10 := true })
  | .restricted => do
      send (.rsr rt)
      modify (Net.withRt rt fun r => { r with t10 := true })
  | _ => pure ()

end Handlers

inductive RouteEvent where
  | tfp
  | tcp
  | tfr
  | tcr
  | tfa
  | tca
  | blocked
  | unblocked
  | t10
deriving DecidableEq

namespace RouteEvent

def perform (rt : Nat) : RouteEvent → NetM Unit
  | tfp => mtpRecvTfp rt
  | tcp => mtpRecvTcp rt
  | tfr => mtpRecvTfr rt
  | tcr => mtpRecvTcr rt
  | tfa => mtpRecvTfa rt
  | tca => mtpRecvTca rt
  | blocked => rtSetState rt State.blocked
  | unblocked => rtSetState rt .unblocked
  | t10 => do
      modify (Net.withRt rt fun r => { r with t10 := false })
      rtT10Timeout rt

def prescribes : RouteEvent → Option State
  | tfp | tcp => some .prohibited
  | tfr | tcr => some .restricted
  | tfa | tca => some .allowed
  | _ => none

def Possible (r : Rt) (e : RouteEvent) : Prop := e = t10 → r.t10 = true

end RouteEvent

def State.Status (s : State) : Prop :=
  s = .prohibited ∨ s = .restricted ∨ s = .allowed

structure Flags.Shows (f : Flags) (s : State) : Prop where
  prohibited : f.prohibited = decide (s = .prohibited)
  restricted : f.restricted = decide (s = .restricted)
  allowed : f.allowed = decide (s = .allowed)

namespace Rt

def changed (r : Rt) (state : Change) : Rt :=
  let newflags := mtpStaFlags state r.flags
  if newflags = r.flags then r
  else if mtpFlgState newflags = r.state then { r with flags := newflags }
  else
    { r with
      t10 := newflags.prohibited || newflags.restricted
      state := mtpFlgState newflags
      flags := newflags }

def heeding (r : Rt) (s : State) : Rt :=
  if r.state.masks s then r else r.changed s

def after (r : Rt) : RouteEvent → Rt
  | .tfp => if r.flags.prohibited then r else r.changed State.prohibited
  | .tcp => r.heeding .prohibited
  | .tfr | .tcr => r.heeding .restricted
  | .tfa | .tca => r.heeding .allowed
  | .blocked => r.changed State.blocked
  | .unblocked => r.changed .unblocked
  | .t10 =>
      { r with t10 := decide (r.state = .prohibited ∨ r.state = .restricted) }

structure Sound (r : Rt) : Prop where
  state : r.state = mtpFlgState r.flags
  timer : r.t10 = (r.flags.prohibited || r.flags.restricted)
  prohibited : r.flags.prohibited = true → r.flags.Shows .prohibited
  restricted : r.flags.restricted = true → r.flags.Shows .restricted
  allowed : r.flags.allowed = true → r.flags.Shows .allowed

def Reveals (r : Rt) (s : State) : Prop :=
  mtpFlgState (mtpStaFlags s r.flags) ≠ r.state ∨ r.t10 = decide (s ≠ .allowed)

def Heeds (r : Rt) (s : State) : Prop :=
  if r.state.masks s then r.flags.Shows s else r.Reveals s

def Safe (r : Rt) : RouteEvent → Prop
  | .tfp => r.flags.prohibited = true ∨ r.Reveals .prohibited
  | .tcp => r.Heeds .prohibited
  | .tfr | .tcr => r.Heeds .restricted
  | .tfa | .tca => r.Heeds .allowed
  | .blocked | .unblocked => True
  | .t10 => r.state = .prohibited ∨ r.state = .restricted

end Rt

section Frame

theorem rlSetState_spares (rl : Nat) (state : Change) (routes : Nat → Rt) :
    Sustains (fun n => n.rt = routes) (rlSetState rl state) := by
  have told (rs : Nat) (oldstate newstate : State) :
      Sustains (fun n => n.rt = routes)
        (do
          moveRls rs oldstate newstate
          pushing (rsSetState rs state) (moveRls rs newstate oldstate)) :=
    sustains_bind (sustains_modify fun _ same => same) fun _ =>
      triple_pushing (rsSetState_sustains rs state
        (fun _ _ _ _ same => same) fun _ _ _ same => same)
  have rerouted (rs : Nat) (rlOnto : Option Nat) (force : Bool) :
      Sustains (fun n => n.rt = routes) (rlReroute rs rlOnto force) :=
    sustains_get_bind fun _ =>
      sustains_bind (sustains_focus fun _ _ same => same) fun _ =>
        sustains_modify fun _ same => same
  refine sustains_get_bind fun n => sustains_when ?_
  refine sustains_bind (sustains_when ?_) fun _ =>
    sustains_modify fun _ same => same
  refine sustains_bind ?_ fun _ =>
    sustains_bind (sustains_modify fun _ same => same) fun _ =>
      sustains_modify fun _ same => same
  refine sustains_ite (sustains_bind (rerouted _ _ _) fun _ => told _ _ _) ?_
  refine sustains_ite (sustains_bind (rerouted _ _ _) fun _ => told _ _ _) ?_
  exact sustains_ite (told _ _ _) (sustains_modify fun _ same => same)

theorem withRt_rt {rt : Nat} {f : Rt → Rt} {routes : Nat → Rt} {r : Rt}
    {n : Net} (held : n.rt = Function.update routes rt r) :
    (n.withRt rt f).rt = Function.update routes rt (f r) := by
  show Function.update n.rt rt (f (n.rt rt)) = _
  rw [held, Function.update_self, Function.update_idem]

theorem rtSetState_route (rt : Nat) (state : Change) (n : Net) :
    Triple (fun s => s.rt = n.rt) (rtSetState rt state)
      (fun _ s => s.rt = Function.update n.rt rt ((n.rt rt).changed state))
      fun _ => True := by
  refine triple_get_bind fun n' same => ?_
  rw [← same]
  unfold Rt.changed
  refine triple_when (fun differ => ?_) fun equal s here => ?_
  · rw [if_neg differ]
    refine triple_bind (R := fun _ (s : Net) => s.rt =
      Function.update n'.rt rt (
        if mtpFlgState (mtpStaFlags state (n'.rt rt).flags) = (n'.rt rt).state
        then n'.rt rt
        else
          { n'.rt rt with
            t10 := (mtpStaFlags state (n'.rt rt).flags).prohibited ||
              (mtpStaFlags state (n'.rt rt).flags).restricted
            state := mtpFlgState (mtpStaFlags state (n'.rt rt).flags) }))
      ?_ fun _ => triple_modify fun s held => ?_
    · refine triple_when (fun moves => ?_) fun equal s here => ?_
      · rw [if_neg moves]
        refine triple_bind (R := fun _ (s : Net) => s.rt =
          Function.update n'.rt rt { n'.rt rt with
            t10 := (mtpStaFlags state (n'.rt rt).flags).prohibited ||
              (mtpStaFlags state (n'.rt rt).flags).restricted })
          (triple_modify fun s here => here ▸ rfl) fun _ => ?_
        refine triple_bind (sustains_when
          (sustains_focus fun _ _ held => held)) fun _ => ?_
        refine triple_bind (sustains_when
          (sustains_focus fun _ _ held => held)) fun _ => ?_
        refine triple_bind (sustains_modify fun _ held => held) fun _ => ?_
        refine triple_bind (sustains_when (triple_pushing
          (rlSetState_spares _ _ _))) fun _ => ?_
        refine triple_bind (sustains_modify fun _ held => held) fun _ => ?_
        exact triple_modify fun s held => withRt_rt held
      · rw [if_pos (not_not.mp equal), ← here, Function.update_eq_self]
    · rw [withRt_rt held]
      split <;> rfl
  · rw [if_pos (not_not.mp equal), ← here, Function.update_eq_self]

theorem rtSetState_changed (rt : Nat) (state : Change) (n : Net) :
    Triple (fun s => n = s) (rtSetState rt state)
      (fun _ s => s.rt rt = (n.rt rt).changed state) fun _ => True :=
  triple_conseq (rtSetState_route rt state n) (fun _ same => same ▸ rfl)
    (fun _ s held => by rw [held, Function.update_self])
    fun _ post => post

theorem heeding_changed (rt : Nat) (s : State) (n : Net) :
    Triple (fun n' => n = n')
      (when (¬ (n.rt rt).state.masks s) (rtSetState rt s))
      (fun _ n' => n'.rt rt = (n.rt rt).heeding s) fun _ => True := by
  unfold Rt.heeding
  refine triple_when (fun passes => ?_) fun masked n' same => ?_
  · rw [if_neg passes]
    exact rtSetState_changed rt s n
  · rw [if_pos (not_not.mp masked), same]

theorem rtT10Timeout_restarts (rt : Nat) (n : Net) :
    Triple
      (fun s => s.rt = Function.update n.rt rt { n.rt rt with t10 := false })
      (rtT10Timeout rt)
      (fun _ s => s.rt rt = (n.rt rt).after .t10) fun _ => True := by
  refine triple_get_bind fun n' held => ?_
  have state : (n'.rt rt).state = (n.rt rt).state := by
    rw [held, Function.update_self]
  have restarts (notice : Notice)
      (tested : (n.rt rt).state = .prohibited ∨
        (n.rt rt).state = .restricted) :
      Triple (fun s => n' = s)
        (do
          send notice
          modify (Net.withRt rt fun r => { r with t10 := true }))
        (fun _ s => s.rt rt = (n.rt rt).after .t10) fun _ => True := by
    refine triple_bind (R := fun _ (s : Net) => s.rt =
        Function.update n.rt rt { n.rt rt with t10 := false })
      (triple_conseq (sustains_send notice fun _ _ _ same => same)
        (fun _ same => same ▸ held) (fun _ _ post => post) fun _ post => post)
      fun _ => triple_modify fun s here => ?_
    rw [withRt_rt here, Function.update_self]
    unfold Rt.after
    rw [decide_eq_true tested]
  have stopped (other : ¬ ((n.rt rt).state = .prohibited ∨
        (n.rt rt).state = .restricted)) :
      Triple (fun s => n' = s) (pure () : NetM Unit)
        (fun _ s => s.rt rt = (n.rt rt).after .t10) fun _ => True := by
    refine triple_pure fun s same => ?_
    rw [← same, held, Function.update_self]
    unfold Rt.after
    rw [decide_eq_false other]
  rw [state]
  cases h : (n.rt rt).state with
  | prohibited => exact restarts _ (.inl h)
  | restricted => exact restarts _ (.inr h)
  | _ => exact stopped (by rw [h]; decide)

theorem perform_after (rt : Nat) (e : RouteEvent) (n : Net) :
    Triple (fun s => n = s) (e.perform rt)
      (fun _ s => s.rt rt = (n.rt rt).after e) fun _ => True := by
  have guarded (s : State) : Triple (fun n' => n = n')
      (do
        let n ← get
        when (¬ (n.rt rt).state.masks s) (rtSetState rt s) : NetM Unit)
      (fun _ n' => n'.rt rt = (n.rt rt).heeding s) fun _ => True :=
    triple_get_bind fun n' same => same ▸ heeding_changed rt s n
  cases e with
  | tfp =>
      refine triple_get_bind fun n' same => ?_
      subst same
      unfold Rt.after
      refine triple_when (fun clear => ?_) fun set n' same => ?_
      · rw [if_neg (by simp [clear])]
        exact rtSetState_changed rt State.prohibited n
      · rw [if_pos (by simpa using set), same]
  | tcp => exact guarded .prohibited
  | tfr => exact guarded .restricted
  | tcr => exact guarded .restricted
  | tfa => exact guarded .allowed
  | tca => exact guarded .allowed
  | blocked => exact rtSetState_changed rt State.blocked n
  | unblocked => exact rtSetState_changed rt .unblocked n
  | t10 =>
      exact triple_bind (triple_modify fun s same => same ▸ rfl) fun _ =>
        rtT10Timeout_restarts rt n

end Frame

namespace Rt

variable {r : Rt}

theorem changed_flags (r : Rt) (state : Change) :
    (r.changed state).flags = mtpStaFlags state r.flags := by
  unfold changed
  dsimp only
  split
  · exact Eq.symm ‹_›
  · split <;> rfl

theorem changed_state (consistent : r.state = mtpFlgState r.flags)
    (state : Change) :
    (r.changed state).state = mtpFlgState (mtpStaFlags state r.flags) := by
  unfold changed
  dsimp only
  split
  · rename_i same
    rw [same, consistent]
  · split
    · exact Eq.symm ‹_›
    · rfl

theorem changed_t10 (consistent : r.state = mtpFlgState r.flags)
    (state : Change) :
    (r.changed state).t10 =
      if mtpFlgState (mtpStaFlags state r.flags) = r.state then r.t10
      else (mtpStaFlags state r.flags).prohibited ||
        (mtpStaFlags state r.flags).restricted := by
  unfold changed
  dsimp only
  split
  · rename_i same
    rw [if_pos (by rw [same, consistent])]
  · split <;> rfl

theorem shows_enter (f : Flags) {s : State} (status : s.Status) :
    (mtpStaFlags s f).Shows s := by
  rcases status with h | h | h <;> subst h <;> exact ⟨rfl, rfl, rfl⟩

theorem sound_iff_of_shows {s : State} (status : s.Status)
    (shown : r.flags.Shows s) (consistent : r.state = mtpFlgState r.flags) :
    r.Sound ↔ r.t10 = decide (s ≠ .allowed) := by
  have tested : (r.flags.prohibited || r.flags.restricted) =
      decide (s ≠ .allowed) := by
    rw [shown.prohibited, shown.restricted]
    rcases status with h | h | h <;> subst h <;> rfl
  constructor
  · intro sound
    exact sound.timer.trans tested
  · intro timer
    refine ⟨consistent, timer.trans tested.symm, ?_, ?_, ?_⟩
    · intro set
      rw [shown.prohibited] at set
      exact of_decide_eq_true set ▸ shown
    · intro set
      rw [shown.restricted] at set
      exact of_decide_eq_true set ▸ shown
    · intro set
      rw [shown.allowed] at set
      exact of_decide_eq_true set ▸ shown

theorem changed_sound_iff (sound : r.Sound) {s : State} (status : s.Status) :
    (r.changed s).Sound ↔ r.Reveals s := by
  have shown : (r.changed s).flags.Shows s := by
    rw [changed_flags]
    exact shows_enter r.flags status
  have consistent : (r.changed s).state = mtpFlgState (r.changed s).flags := by
    rw [changed_state sound.state, changed_flags]
  rw [sound_iff_of_shows status shown consistent, changed_t10 sound.state]
  rw [changed_flags] at shown
  have tested : ((mtpStaFlags s r.flags).prohibited ||
      (mtpStaFlags s r.flags).restricted) = decide (s ≠ .allowed) := by
    rw [shown.prohibited, shown.restricted]
    rcases status with h | h | h <;> subst h <;> rfl
  unfold Reveals
  split
  · rename_i hidden
    exact ⟨.inr, fun h => h.resolve_left (not_not.mpr hidden)⟩
  · rename_i visible
    exact ⟨fun _ => .inl visible, fun _ => tested⟩

theorem blocking_status {state : Change}
    (blocking : state = .enter .blocked ∨ state = .unblocked) (f : Flags) :
    (mtpStaFlags state f).prohibited = f.prohibited ∧
      (mtpStaFlags state f).restricted = f.restricted ∧
      (mtpStaFlags state f).allowed = f.allowed := by
  rcases blocking with h | h <;> subst h <;> exact ⟨rfl, rfl, rfl⟩

theorem changed_shows_iff {state : Change}
    (blocking : state = .enter .blocked ∨ state = .unblocked) (s : State) :
    (r.changed state).flags.Shows s ↔ r.flags.Shows s := by
  obtain ⟨prohibited, restricted, allowed⟩ := blocking_status blocking r.flags
  rw [changed_flags]
  constructor
  · intro h
    exact ⟨prohibited ▸ h.prohibited, restricted ▸ h.restricted,
      allowed ▸ h.allowed⟩
  · intro h
    exact ⟨prohibited.trans h.prohibited, restricted.trans h.restricted,
      allowed.trans h.allowed⟩

theorem changed_blocking (sound : r.Sound) {state : Change}
    (blocking : state = .enter .blocked ∨ state = .unblocked) :
    (r.changed state).Sound := by
  obtain ⟨prohibited, restricted, allowed⟩ := blocking_status blocking r.flags
  refine ⟨?_, ?_, fun set => ?_, fun set => ?_, fun set => ?_⟩
  · rw [changed_state sound.state, changed_flags]
  · rw [changed_t10 sound.state, changed_flags, prohibited, restricted,
      ← sound.timer, ite_self]
  · rw [changed_flags, prohibited] at set
    exact (changed_shows_iff blocking _).mpr (sound.prohibited set)
  · rw [changed_flags, restricted] at set
    exact (changed_shows_iff blocking _).mpr (sound.restricted set)
  · rw [changed_flags, allowed] at set
    exact (changed_shows_iff blocking _).mpr (sound.allowed set)

theorem heeding_follows_iff (sound : r.Sound) {s : State} (status : s.Status) :
    (r.heeding s).Sound ∧ (r.heeding s).flags.Shows s ↔ r.Heeds s := by
  unfold heeding Heeds
  split
  · exact ⟨And.right, fun shown => ⟨sound, shown⟩⟩
  · rw [changed_sound_iff sound status, changed_flags]
    exact ⟨And.left, fun reveals => ⟨reveals, shows_enter _ status⟩⟩

theorem after_follows_iff (sound : r.Sound) (e : RouteEvent)
    (possible : e.Possible r) :
    (r.after e).Sound ∧ (∀ s ∈ e.prescribes, (r.after e).flags.Shows s) ↔
      r.Safe e := by
  have message {s : State} (status : s.Status)
      (prescribed : e.prescribes = some s) (heeded : r.after e = r.heeding s) :
      (r.after e).Sound ∧ (∀ s ∈ e.prescribes, (r.after e).flags.Shows s) ↔
        r.Heeds s := by
    rw [heeded, prescribed, ← heeding_follows_iff sound status]
    simp
  cases e with
  | tfp =>
      show (if r.flags.prohibited then r else r.changed State.prohibited).Sound ∧
        (∀ s ∈ some State.prohibited, (if r.flags.prohibited then r
          else r.changed State.prohibited).flags.Shows s) ↔
        r.flags.prohibited = true ∨ r.Reveals .prohibited
      split
      · rename_i set
        refine ⟨fun _ => .inl set, fun _ => ⟨sound, ?_⟩⟩
        rintro s ⟨⟩
        exact sound.prohibited set
      · rename_i clear
        rw [changed_sound_iff sound (.inl rfl), changed_flags]
        refine ⟨fun h => .inr h.1, fun h => ⟨h.resolve_left clear, ?_⟩⟩
        rintro s ⟨⟩
        exact shows_enter _ (.inl rfl)
  | tcp => exact message (.inl rfl) rfl rfl
  | tfr => exact message (.inr (.inl rfl)) rfl rfl
  | tcr => exact message (.inr (.inl rfl)) rfl rfl
  | tfa => exact message (.inr (.inr rfl)) rfl rfl
  | tca => exact message (.inr (.inr rfl)) rfl rfl
  | blocked =>
      exact iff_of_true
        ⟨changed_blocking sound (.inl rfl), fun _ none => nomatch none⟩ trivial
  | unblocked =>
      exact iff_of_true
        ⟨changed_blocking sound (.inr rfl), fun _ none => nomatch none⟩ trivial
  | t10 =>
      have running := possible rfl
      constructor
      · rintro ⟨after, -⟩
        have timer : decide (r.state = .prohibited ∨ r.state = .restricted) =
            true := after.timer.trans (sound.timer.symm.trans running)
        have tested := of_decide_eq_true timer
        exact tested
      · intro safe
        have tested : r.state = .prohibited ∨ r.state = .restricted := safe
        refine ⟨{ sound with timer := ?_ }, fun _ none => nomatch none⟩
        show decide (r.state = .prohibited ∨ r.state = .restricted) = _
        rw [decide_eq_true tested, ← running]
        exact sound.timer

theorem after_shows (e : RouteEvent) (other : e.prescribes = none)
    (s : State) : (r.after e).flags.Shows s ↔ r.flags.Shows s := by
  cases e with
  | blocked => exact changed_shows_iff (.inl rfl) s
  | unblocked => exact changed_shows_iff (.inr rfl) s
  | t10 => exact Iff.rfl
  | _ => exact nomatch other

end Rt

def Net.Receives (rt : Nat) : Net → List RouteEvent → Net → Prop
  | n, [], n' => n' = n
  | n, e :: rest, n' =>
      e.Possible (n.rt rt) ∧ (n.rt rt).Safe e ∧
        ∃ next, (e.perform rt).exec n = (.ok (), next) ∧
          next.Receives rt rest n'

def lastStatus (before : Option State) (events : List RouteEvent) :
    Option State :=
  events.foldl (fun last e => e.prescribes.or last) before

theorem receives_follows {rt : Nat} {n n' : Net} {events : List RouteEvent}
    {before : Option State} (sound : (n.rt rt).Sound)
    (status : ∀ s ∈ before, (n.rt rt).flags.Shows s)
    (run : n.Receives rt events n') :
    (n'.rt rt).Sound ∧
      ∀ s ∈ lastStatus before events, (n'.rt rt).flags.Shows s := by
  induction events generalizing n before with
  | nil =>
      rw [show n' = n from run]
      exact ⟨sound, status⟩
  | cons e rest ih =>
      obtain ⟨possible, safe, next, done, later⟩ := run
      have step := perform_after rt e n n rfl
      rw [done] at step
      have moved : next.rt rt = (n.rt rt).after e := step
      obtain ⟨sound', shown⟩ :=
        (Rt.after_follows_iff sound e possible).mpr safe
      rw [← moved] at sound' shown
      refine ih sound' ?_ later
      intro s held
      change s ∈ e.prescribes.or before at held
      cases prescribed : e.prescribes with
      | some s' =>
          rw [prescribed] at held shown
          exact shown s held
      | none =>
          rw [prescribed] at held
          rw [moved]
          exact (Rt.after_shows e prescribed s).mpr (status s held)

/-- After any safe run exactly the flag that the last message prescribes is
set, and T10 runs exactly while a status is tested. -/
theorem receives_status (rt : Nat) (n n' : Net) (events : List RouteEvent)
    (sound : (n.rt rt).Sound) (run : n.Receives rt events n') :
    (n'.rt rt).t10 =
        ((n'.rt rt).flags.prohibited || (n'.rt rt).flags.restricted) ∧
      ∀ s, lastStatus none events = some s → (n'.rt rt).flags.Shows s :=
  have follows : (n'.rt rt).Sound ∧
      ∀ s ∈ lastStatus none events, (n'.rt rt).flags.Shows s :=
    receives_follows sound (fun _ held => nomatch held) run
  ⟨follows.1.timer, follows.2⟩

theorem chain_route_sound : (Net.chain.rt 0).Sound :=
  ⟨rfl, rfl, nofun, nofun, nofun⟩

theorem receives_status_prohibited :
    let events := [.tfp, .blocked, .unblocked, .t10]
    let n' := (RouteEvent.perform 0 .t10).after <|
      (RouteEvent.perform 0 .unblocked).after <|
      (RouteEvent.perform 0 .blocked).after <|
      (RouteEvent.perform 0 .tfp).after Net.chain
    Net.chain.Receives 0 events n' ∧
      (n'.rt 0).t10 =
        ((n'.rt 0).flags.prohibited || (n'.rt 0).flags.restricted) ∧
      ∀ s, lastStatus none events = some s → (n'.rt 0).flags.Shows s := by
  have run : Net.chain.Receives 0 [.tfp, .blocked, .unblocked, .t10]
      ((RouteEvent.perform 0 .t10).after <|
        (RouteEvent.perform 0 .unblocked).after <|
        (RouteEvent.perform 0 .blocked).after <|
        (RouteEvent.perform 0 .tfp).after Net.chain) := by
    refine ⟨nofun, .inr (.inl (by decide)), _, rfl, ?_⟩
    refine ⟨nofun, trivial, _, rfl, ?_⟩
    refine ⟨nofun, trivial, _, rfl, ?_⟩
    exact ⟨fun _ => rfl, .inl rfl, _, rfl, rfl⟩
  exact ⟨run, receives_status 0 Net.chain _ _ chain_route_sound run⟩

theorem status_tfa_discarded :
    (Net.chain.rt 0).Sound ∧ ∃ n n',
      (RouteEvent.perform 0 .tfp).exec Net.chain = (.ok (), n) ∧
      (RouteEvent.perform 0 .tfa).exec n = (.ok (), n') ∧
      lastStatus none [.tfp, .tfa] = some .allowed ∧
      ¬ (n'.rt 0).flags.Shows .allowed ∧
      (n'.rt 0).flags.prohibited = true ∧ (n'.rt 0).t10 = true :=
  ⟨chain_route_sound, _, _, rfl, rfl, rfl,
    fun shown => absurd shown.allowed (by decide), rfl, rfl⟩

end OpenSS7.Mtp3
