import OpenSS7.Lib.Runs
import OpenSS7.Mtp3.Messages
import OpenSS7.Mtp3.SendRoute

/-!
The congestion of route sets under multiple congestion levels: transfer
controlled messages, the timers T15 and T16 with the test messages that they
send, and the congestion that sending meets with.
-/

namespace OpenSS7.Mtp3

section Handlers

/-- What the handlers read and meet with: `sp->ni`, `SS7_POPT_MCSTA`, what
`mtp_cong_status_ind_all_local` returns to the handler, and what the sending of
its message meets with. -/
structure Surroundings where
  routing : Routing
  net : Net
  ni : Nat → Nat
  mcsta : Bool
  users : Int
  ready : Ready

abbrev Statuses := Nat → Congestion

def unsigned (status : Int) : Nat := (status % 2 ^ 32).toNat

def Statuses.with (c : Statuses) (rs : Nat) (f : Congestion → Congestion) :
    Statuses :=
  Function.update c rs (f (c rs))

variable (s : Surroundings)

/-- `mtp_recv_tfc`, for the route set that is found. -/
def mtpRecvTfc (rs stat : Nat) (c : Statuses) : Statuses :=
  let mplev := s.routing.protocol.mplev
  let newstatus : Int := if mplev || s.mcsta then stat else -1
  if (s.net.rs rs).state < .restart then
    if mplev = true ∧ stat ≤ unsigned (c rs).status then c
    else
      let c := if mplev = true then
          c.with rs fun r => { r with t15 := .stopped, t16 := .stopped }
        else c
      if s.users ≠ 0 then c
      else if mplev = true then
        c.with rs fun r => { r with status := newstatus, t15 := .running }
      else c.with rs fun r => { r with status := newstatus }
  else c

/-- `mtp_send_rct`, called for a route set. -/
def sendRct (rs mp : Nat) (c : Statuses) : Posted :=
  let sp := (s.net.rs rs).sp
  let label := ⟨s.ni sp, s.routing.dest rs, s.routing.pc sp, 0⟩
  mtpSendRoute s.routing s.net s.ready sp mp (s.routing.dest rs) 0
    (s.routing.protocol.encode label (mtpSendRct mp)).octets c

def rsT15Timeout (rs : Nat) (c : Statuses) : Int × Statuses :=
  if (c rs).status ≠ 0 then
    let sent := sendRct s rs (unsigned (c rs).status)
      (c.with rs fun r => { r with t16 := .running })
    (min sent.code 0, sent.congestion)
  else (0, c)

/-- The part of `rs_t16_timeout` after the test message. -/
def lowerStatus (rs : Nat) (newstatus : Int) (c : Statuses) : Int × Statuses :=
  if s.users < 0 then (s.users, c)
  else (0, c.with rs fun r => { r with status := newstatus })

def rsT16Timeout (rs : Nat) (c : Statuses) : Int × Statuses :=
  if (c rs).status ≠ 0 then
    let newstatus := (c rs).status - 1
    if newstatus ≠ 0 then
      let sent := sendRct s rs (unsigned newstatus)
        (c.with rs fun r => { r with t16 := .running })
      if sent.code < 0 then (sent.code, sent.congestion)
      else lowerStatus s rs newstatus sent.congestion
    else lowerStatus s rs newstatus c
  else (0, c)

/-- `mi_timer_requeue` -/
def Clock.requeue : Clock → Clock
  | .running => .running
  | _ => .requeued

def expireT15 (rs : Nat) (c : Statuses) : Statuses :=
  if (c rs).t15 = .stopped then c
  else
    let done := rsT15Timeout s rs (c.with rs fun r => { r with t15 := .stopped })
    if done.1 ≠ 0 then done.2.with rs fun r => { r with t15 := r.t15.requeue }
    else done.2

def expireT16 (rs : Nat) (c : Statuses) : Statuses :=
  if (c rs).t16 = .stopped then c
  else
    let done := rsT16Timeout s rs (c.with rs fun r => { r with t16 := .stopped })
    if done.1 ≠ 0 then done.2.with rs fun r => { r with t16 := r.t16.requeue }
    else done.2

end Handlers

section Events

inductive CongestionEvent where
  | tfc (s : Surroundings) (rs : Nat) (octets : Octets)
  | t15 (s : Surroundings) (rs : Nat)
  | t16 (s : Surroundings) (rs : Nat)
  | sends (s : Surroundings) (sp priority dpc sls : Nat) (octets : Octets)

def Surroundings.controlled (s : Surroundings) (octets : Octets) :
    Option Nat :=
  (mtpDecTfc s.routing.protocol .zero octets).map MtpMsg.arg

def congestionStep (c : Statuses) : CongestionEvent → Statuses
  | .tfc s rs octets =>
      match s.controlled octets with
      | none => c
      | some stat => mtpRecvTfc s rs stat c
  | .t15 s rs => expireT15 s rs c
  | .t16 s rs => expireT16 s rs c
  | .sends s sp priority dpc sls octets =>
      (mtpSendRoute s.routing s.net s.ready sp priority dpc sls octets
        c).congestion

structure Surroundings.Leveled (s : Surroundings) : Prop where
  mplev : s.routing.protocol.mplev = true
  bounded : ∀ sl, s.routing.congStatus sl ≤ 3

def CongestionEvent.surroundings : CongestionEvent → Surroundings
  | .tfc s _ _ | .t15 s _ | .t16 s _ | .sends s _ _ _ _ _ => s

def Surroundings.pick (s : Surroundings) (sp dpc sls : Nat) :
    Option (Nat × Nat) :=
  match s.routing.routeSet sp dpc with
  | none => none
  | some rs =>
      if .restricted < (s.net.rs rs).state then none
      else
        match s.routing.hop s.net rs sls with
        | .link _ sl => some (rs, sl)
        | _ => none

def Surroundings.Meets (s : Surroundings) (sp priority dpc sls : Nat) : Prop :=
  ∃ rs sl, s.pick sp dpc sls = some (rs, sl) ∧
    s.routing.urgency priority < s.routing.congStatus sl

def Surroundings.Blocked (s : Surroundings) (sp priority dpc sls : Nat) :
    Prop :=
  ∃ rs sl, s.pick sp dpc sls = some (rs, sl) ∧
    s.routing.discStatus sl ≤ s.routing.urgency priority ∧
    s.ready.canput = false

def Surroundings.MeetsTest (s : Surroundings) (rs : Nat) (level : Int) : Prop :=
  s.Meets (s.net.rs rs).sp (unsigned level) (s.routing.dest rs) 0

def Surroundings.BlocksTest (s : Surroundings) (rs : Nat) (level : Int) :
    Prop :=
  s.Blocked (s.net.rs rs).sp (unsigned level) (s.routing.dest rs) 0

def Heard (c : Statuses) : CongestionEvent → Prop
  | .tfc s rs octets => (s.net.rs rs).state < .restart →
      (∃ stat ∈ s.controlled octets, (c rs).status < stat) → s.users = 0
  | .t15 s rs => (c rs).t15 ≠ .stopped → (c rs).status ≠ 0 →
      s.MeetsTest rs (c rs).status → s.ready.told = 0
  | .t16 s rs => (c rs).t16 ≠ .stopped → (c rs).status ≠ 0 →
      s.users = 0 ∧ ((c rs).status ≠ 1 →
        ¬ s.BlocksTest rs ((c rs).status - 1) ∧
        (s.MeetsTest rs ((c rs).status - 1) → s.ready.told = 0))
  | .sends s sp priority dpc sls _ =>
      s.Meets sp priority dpc sls → s.ready.told = 0

end Events

section Sending

variable (s : Surroundings) {sp priority dpc sls : Nat} {octets : Octets}
  {c : Statuses}

theorem mtpSendRoute_unpicked (none : s.pick sp dpc sls = none) :
    let posted := mtpSendRoute s.routing s.net s.ready sp priority dpc sls
      octets c
    posted.code = 0 ∧ posted.congestion = c := by
  revert none
  unfold Surroundings.pick mtpSendRoute
  cases s.routing.routeSet sp dpc with
  | none => exact fun _ => ⟨rfl, rfl⟩
  | some rs =>
      dsimp only
      split
      · exact fun _ => ⟨rfl, rfl⟩
      · cases s.routing.hop s.net rs sls with
        | missing => exact fun _ => ⟨rfl, rfl⟩
        | buffer fate => exact fun _ => ⟨rfl, rfl⟩
        | link rl sl => exact nofun

theorem mtpSendRoute_picked {rs sl : Nat}
    (picked : s.pick sp dpc sls = some (rs, sl)) (priority : Nat)
    (octets : Octets) (c : Statuses) :
    ∃ rl, mtpSendRoute s.routing s.net s.ready sp priority dpc sls octets c =
      postLink s.routing s.net s.ready rs rl sl priority sls octets c := by
  revert picked
  unfold Surroundings.pick mtpSendRoute
  cases s.routing.routeSet sp dpc with
  | none => exact nofun
  | some rs =>
      dsimp only
      split
      · exact nofun
      · cases s.routing.hop s.net rs sls with
        | missing => exact nofun
        | buffer fate => exact nofun
        | link rl sl =>
            rintro ⟨⟩
            exact ⟨rl, rfl⟩

theorem mtpSendRoute_congestion
    (heard : s.Meets sp priority dpc sls → s.ready.told = 0) :
    let posted := mtpSendRoute s.routing s.net s.ready sp priority dpc sls
      octets c
    ¬ s.Meets sp priority dpc sls ∧ posted.congestion = c ∨
      s.Meets sp priority dpc sls ∧ ∃ rs sl, 0 < s.routing.congStatus sl ∧
        posted.congestion =
          c.with rs fun _ => ⟨s.routing.congStatus sl, .running, .stopped⟩ := by
  cases picked : s.pick sp dpc sls with
  | none =>
      refine .inl ⟨?_, (mtpSendRoute_unpicked s picked).2⟩
      rintro ⟨rs, sl, found, -⟩
      rw [picked] at found
      exact nomatch found
  | some found =>
      obtain ⟨rs, sl⟩ := found
      obtain ⟨rl, posted⟩ := mtpSendRoute_picked s picked priority
        octets c
      rw [posted]
      by_cases congested :
          s.routing.urgency priority < s.routing.congStatus sl
      · have meets : s.Meets sp priority dpc sls := ⟨rs, sl, picked, congested⟩
        refine .inr ⟨meets, rs, sl, by omega, ?_⟩
        simp only [postLink, heard meets, ne_eq, not_true, and_false, if_false,
          if_pos congested]
        split_ifs <;> rfl
      · refine .inl ⟨?_, ?_⟩
        · rintro ⟨_, _, found, above⟩
          rw [picked] at found
          cases found
          exact congested above
        · simp only [postLink, congested, false_and, if_false]
          split_ifs <;> rfl

theorem mtpSendRoute_code
    (heard : s.Meets sp priority dpc sls → s.ready.told = 0)
    (unblocked : ¬ s.Blocked sp priority dpc sls) :
    (mtpSendRoute s.routing s.net s.ready sp priority dpc sls octets
      c).code = 0 := by
  cases picked : s.pick sp dpc sls with
  | none => exact (mtpSendRoute_unpicked s picked).1
  | some found =>
      obtain ⟨rs, sl⟩ := found
      obtain ⟨rl, posted⟩ := mtpSendRoute_picked s picked priority
        octets c
      have told : ¬ (s.routing.urgency priority < s.routing.congStatus sl ∧
          s.ready.told ≠ 0) := fun ⟨congested, untold⟩ =>
        untold (heard ⟨rs, sl, picked, congested⟩)
      rw [posted]
      simp only [postLink, if_neg told]
      split
      · rfl
      · next kept =>
          have taken : s.ready.canput ≠ false := fun busy =>
            unblocked ⟨rs, sl, picked, not_lt.mp kept, busy⟩
          rw [if_neg taken]
          split_ifs <;> rfl

theorem sendRct_congestion {rs : Nat} {level : Int}
    (heard : s.MeetsTest rs level → s.ready.told = 0) :
    let posted := sendRct s rs (unsigned level) c
    ¬ s.MeetsTest rs level ∧ posted.congestion = c ∨
      s.MeetsTest rs level ∧ ∃ i sl, 0 < s.routing.congStatus sl ∧
        posted.congestion =
          c.with i fun _ => ⟨s.routing.congStatus sl, .running, .stopped⟩ :=
  mtpSendRoute_congestion s heard

theorem sendRct_code {rs : Nat} {level : Int}
    (heard : s.MeetsTest rs level → s.ready.told = 0)
    (unblocked : ¬ s.BlocksTest rs level) :
    (sendRct s rs (unsigned level) c).code = 0 :=
  mtpSendRoute_code s heard unblocked

end Sending

section Keeping

structure Congestion.Kept (r : Congestion) : Prop where
  bounded : 0 ≤ r.status ∧ r.status ≤ 3
  timed : r.status ≠ 0 ↔ r.t15 = .running ∨ r.t16 = .running
  single : ¬ (r.t15 = .running ∧ r.t16 = .running)

structure Congestion.Sound (r : Congestion) : Prop extends r.Kept where
  taken : r.t16 ≠ .requeued

def Statuses.Sound (c : Statuses) : Prop := ∀ rs, (c rs).Sound

variable {c : Statuses} {s : Surroundings}

@[simp] theorem Statuses.with_self (c : Statuses) (rs : Nat)
    (f : Congestion → Congestion) : c.with rs f rs = f (c rs) :=
  Function.update_self rs _ c

theorem Statuses.with_other (c : Statuses) {rs i : Nat}
    (f : Congestion → Congestion) (other : i ≠ rs) : c.with rs f i = c i :=
  Function.update_of_ne other _ c

theorem Statuses.with_with (c : Statuses) (rs : Nat)
    (f g : Congestion → Congestion) :
    (c.with rs f).with rs g = c.with rs fun r => g (f r) := by
  funext i
  by_cases same : i = rs
  · subst same
    simp
  · simp only [with_other _ _ same]

theorem Statuses.Sound.with (sound : c.Sound) {rs : Nat}
    {f : Congestion → Congestion} (new : (f (c rs)).Sound) :
    (c.with rs f).Sound := by
  intro i
  by_cases same : i = rs
  · subst same
    rwa [with_self]
  · rw [with_other _ _ same]
    exact sound i

theorem Clock.requeue_running (clock : Clock) :
    clock.requeue = .running ↔ clock = .running := by
  cases clock <;> decide

theorem Congestion.Sound.requeue {r : Congestion} (sound : r.Sound) :
    Congestion.Sound { r with t15 := r.t15.requeue } where
  bounded := sound.bounded
  timed := by
    rw [Clock.requeue_running]
    exact sound.timed
  single := by
    rw [Clock.requeue_running]
    exact sound.single
  taken := sound.taken

theorem entered_sound {status : Int} (positive : 0 < status)
    (bounded : status ≤ 3) : Congestion.Sound ⟨status, .running, .stopped⟩ where
  bounded := ⟨positive.le, bounded⟩
  timed := iff_of_true positive.ne' (.inl rfl)
  single := nofun
  taken := nofun

theorem sends_sound (leveled : s.Leveled) {sp priority dpc sls : Nat}
    {octets : Octets} (sound : c.Sound)
    (heard : s.Meets sp priority dpc sls → s.ready.told = 0) :
    Statuses.Sound (mtpSendRoute s.routing s.net s.ready sp priority dpc sls
      octets c).congestion := by
  obtain ⟨-, same⟩ | ⟨-, rs, sl, positive, entered⟩ :=
    @mtpSendRoute_congestion s sp priority dpc sls octets c heard
  · rw [same]
    exact sound
  · rw [entered]
    refine sound.with (entered_sound ?_ ?_)
    · exact_mod_cast positive
    · exact_mod_cast leveled.bounded sl

theorem sendRct_sound (leveled : s.Leveled) {rs : Nat} {level : Int}
    (sound : c.Sound) (heard : s.MeetsTest rs level → s.ready.told = 0) :
    Statuses.Sound (sendRct s rs (unsigned level) c).congestion :=
  sends_sound leveled sound heard

theorem unsigned_eq {status : Int} (bounded : 0 ≤ status ∧ status ≤ 3) :
    (unsigned status : Int) = status := by
  unfold unsigned
  omega

theorem controlled_le {octets : Octets} {stat : Nat}
    (controlled : s.controlled octets = some stat) : stat ≤ 3 := by
  obtain ⟨m, decoded, rfl⟩ := Option.map_eq_some_iff.mp controlled
  unfold mtpDecTfc at decoded
  split at decoded
  · cases decoded
    exact Nat.and_le_right
  · exact nomatch decoded
  · next _ _ b1 _ _ =>
      cases decoded
      have octet := b1.toNat_lt
      change b1.toNat >>> 6 ≤ 3
      rw [Nat.shiftRight_eq_div_pow]
      omega
  · exact nomatch decoded

theorem mtpRecvTfc_sound (leveled : s.Leveled) (sound : c.Sound) {rs stat : Nat}
    (inRange : stat ≤ 3)
    (heard : (s.net.rs rs).state < .restart → (c rs).status < stat →
      s.users = 0) :
    Statuses.Sound (mtpRecvTfc s rs stat c) ∧
      (c rs).status ≤ (mtpRecvTfc s rs stat c rs).status := by
  have exact' := unsigned_eq (sound rs).bounded
  unfold mtpRecvTfc
  simp only [leveled.mplev, Bool.true_or, if_true, true_and]
  split
  · next accessible =>
      split
      · exact ⟨sound, le_rfl⟩
      · next above =>
          have higher : (c rs).status < stat := by omega
          rw [if_neg (not_not.mpr (heard accessible higher)),
            Statuses.with_with]
          refine ⟨sound.with (entered_sound ?_ ?_), ?_⟩
          · exact (sound rs).bounded.1.trans_lt higher
          · exact_mod_cast inRange
          · rw [Statuses.with_self]
            exact higher.le
  · exact ⟨sound, le_rfl⟩

theorem expireT15_sound (leveled : s.Leveled) (sound : c.Sound) {rs : Nat}
    (heard : (c rs).t15 ≠ .stopped → (c rs).status ≠ 0 →
      s.MeetsTest rs (c rs).status → s.ready.told = 0) :
    Statuses.Sound (expireT15 s rs c) := by
  unfold expireT15 rsT15Timeout
  split
  · exact sound
  · next expired =>
      simp only [Statuses.with_self]
      split
      · next congested =>
          rw [Statuses.with_with]
          have started : Statuses.Sound (c.with rs fun r =>
              { r with t15 := .stopped, t16 := .running }) :=
            sound.with ⟨⟨(sound rs).bounded, iff_of_true congested (.inr rfl),
              nofun⟩, nofun⟩
          have sent := sendRct_sound leveled started (heard expired congested)
          split
          · exact sent.with (sent rs).requeue
          · exact sent
      · next calm =>
          rw [if_neg (not_not.mpr rfl)]
          have quiet := (not_congr (sound rs).timed).mp calm
          rw [not_or] at quiet
          show (c.with rs fun r => { r with t15 := .stopped }).Sound
          refine sound.with
            ⟨⟨(sound rs).bounded, iff_of_false calm ?_, ?_⟩, (sound rs).taken⟩
          · exact not_or.mpr ⟨nofun, quiet.2⟩
          · exact fun both => quiet.2 both.2

theorem Congestion.Sound.testing {r : Congestion} (sound : r.Sound)
    (expired : r.t16 ≠ .stopped) :
    r.t16 = .running ∧ r.t15 ≠ .running ∧ r.status ≠ 0 := by
  have running : r.t16 = .running := by
    cases clock : r.t16 with
    | stopped => exact absurd clock expired
    | running => rfl
    | requeued => exact absurd clock sound.taken
  exact ⟨running, fun t15 => sound.single ⟨t15, running⟩,
    sound.timed.mpr (.inr running)⟩

theorem expireT16_sound (leveled : s.Leveled) (sound : c.Sound) {rs : Nat}
    (heard : Heard c (.t16 s rs)) :
    Statuses.Sound (expireT16 s rs c) ∧
      ((c rs).t16 ≠ .stopped →
        ((c rs).status ≠ 1 → ¬ s.MeetsTest rs ((c rs).status - 1)) →
        (expireT16 s rs c rs).status = (c rs).status - 1 ∧
        (expireT16 s rs c rs).t15 = (c rs).t15) := by
  unfold expireT16 rsT16Timeout lowerStatus
  split
  · next stopped => exact ⟨sound, fun expired => absurd stopped expired⟩
  · next expired =>
      obtain ⟨running, other, congested⟩ := (sound rs).testing expired
      obtain ⟨users, tests⟩ := heard expired congested
      have unnegative : ¬ s.users < 0 := by omega
      have bounded := (sound rs).bounded
      simp only [Statuses.with_self, if_pos congested, unnegative, if_false]
      by_cases last : (c rs).status = 1
      · rw [last]
        simp only [sub_self, ne_eq, not_true, if_false, Statuses.with_with,
          Statuses.with_self, implies_true, and_true]
        refine sound.with ⟨⟨by simp, iff_of_false (by simp) ?_, nofun⟩, nofun⟩
        exact not_or.mpr ⟨other, nofun⟩
      · have further : (c rs).status - 1 ≠ 0 := by omega
        obtain ⟨unblocked, indicated⟩ := tests last
        rw [if_pos further, Statuses.with_with]
        have restarted : (c.with rs fun r => { r with t16 := .running }) = c := by
          funext i
          by_cases same : i = rs
          · subst same
            rw [Statuses.with_self, ← running]
          · exact Statuses.with_other _ _ same
        rw [restarted, sendRct_code s indicated unblocked]
        simp only [lt_irrefl, ne_eq, not_true, if_false, Statuses.with_self]
        have sent := sendRct_sound leveled sound indicated
        obtain ⟨-, same⟩ | ⟨met, i, sl, positive, entered⟩ :=
          sendRct_congestion s (c := c) indicated
        · rw [same]
          refine ⟨sound.with ⟨⟨by simp only; omega, ?_, ?_⟩, (sound rs).taken⟩,
            fun _ _ => ⟨trivial, rfl⟩⟩
          · exact iff_of_true further (.inr running)
          · exact fun both => other both.1
        · refine ⟨sent.with ⟨⟨by simp only; omega, ?_, (sent rs).single⟩,
            (sent rs).taken⟩, fun _ unmet => absurd met (unmet last)⟩
          refine iff_of_true further ((sent rs).timed.mp ?_)
          rw [entered]
          by_cases same : rs = i
          · subst same
            rw [Statuses.with_self]
            exact Int.natCast_ne_zero.mpr positive.ne'
          · rwa [Statuses.with_other _ _ same]

end Keeping

section Running

def uncongested : Statuses := fun _ => ⟨0, .stopped, .stopped⟩

theorem uncongested_sound : uncongested.Sound := by
  intro rs
  change Congestion.Sound ⟨0, .stopped, .stopped⟩
  exact ⟨⟨by decide, by decide, by decide⟩, by decide⟩

theorem tfc_sound {c : Statuses} {s : Surroundings} {rs : Nat}
    {octets : Octets} (leveled : s.Leveled) (sound : c.Sound)
    (heard : Heard c (.tfc s rs octets)) :
    (congestionStep c (.tfc s rs octets)).Sound ∧
      (c rs).status ≤ (congestionStep c (.tfc s rs octets) rs).status := by
  dsimp only [congestionStep]
  cases controlled : s.controlled octets with
  | none => exact ⟨sound, le_rfl⟩
  | some stat =>
      exact mtpRecvTfc_sound leveled sound (controlled_le controlled)
        fun accessible higher => heard accessible ⟨stat, controlled, higher⟩

theorem congestionStep_sound {c : Statuses} {event : CongestionEvent}
    (leveled : event.surroundings.Leveled) (sound : c.Sound)
    (heard : Heard c event) : (congestionStep c event).Sound := by
  cases event with
  | tfc s rs octets => exact (tfc_sound leveled sound heard).1
  | t15 s rs => exact expireT15_sound leveled sound heard
  | t16 s rs => exact (expireT16_sound leveled sound heard).1
  | sends s sp priority dpc sls octets => exact sends_sound leveled sound heard

def CongestionEvent.Moves (c c' : Statuses) : CongestionEvent → Prop
  | .tfc _ rs _ => (c rs).status ≤ (c' rs).status
  | .t16 s rs => (c rs).t16 = .running →
      ((c rs).status ≠ 1 → ¬ s.MeetsTest rs ((c rs).status - 1)) →
      (c' rs).status = (c rs).status - 1
  | _ => True

theorem congestionStep_moves {c : Statuses} {event : CongestionEvent}
    (leveled : event.surroundings.Leveled) (sound : c.Sound)
    (heard : Heard c event) : event.Moves c (congestionStep c event) := by
  cases event with
  | tfc s rs octets => exact (tfc_sound leveled sound heard).2
  | t15 s rs => trivial
  | t16 s rs =>
      intro running unmet
      have expired : (c rs).t16 ≠ .stopped := by
        rw [running]
        decide
      exact ((expireT16_sound leveled sound heard).2 expired unmet).1
  | sends s sp priority dpc sls octets => trivial

def lapsing (rs : Nat) (c : Statuses) (s : Surroundings) : CongestionEvent :=
  if (c rs).t15 = .running then .t15 s rs else .t16 s rs

def lapse (rs : Nat) (c : Statuses) (s : Surroundings) : Statuses :=
  congestionStep c (lapsing rs c s)

def Congestion.tested (r : Congestion) : Int :=
  if r.t15 = .running then r.status else r.status - 1

structure Abated (rs : Nat) (c : Statuses) (s : Surroundings) : Prop where
  leveled : s.Leveled
  heard : Heard c (lapsing rs c s)
  unmet : (c rs).tested ≠ 0 → ¬ s.MeetsTest rs (c rs).tested

theorem expireT15_tests {c : Statuses} {s : Surroundings} {rs : Nat}
    (running : (c rs).t15 = .running) (congested : (c rs).status ≠ 0)
    (unmet : ¬ s.MeetsTest rs (c rs).status) :
    (expireT15 s rs c rs).status = (c rs).status ∧
      (expireT15 s rs c rs).t15 ≠ .running := by
  have unheard : s.MeetsTest rs (c rs).status → s.ready.told = 0 :=
    fun met => absurd met unmet
  unfold expireT15 rsT15Timeout
  rw [running, if_neg (by decide)]
  simp only [Statuses.with_self, if_pos congested, Statuses.with_with]
  obtain ⟨-, same⟩ | ⟨met, -⟩ := sendRct_congestion s
    (c := c.with rs fun r => { r with t15 := .stopped, t16 := .running })
    unheard
  · rw [same]
    split
    · simp [Clock.requeue]
    · simp
  · exact absurd met unmet

def Congestion.left (r : Congestion) : Nat :=
  r.status.toNat + if r.t15 = .running then 1 else 0

theorem lapse_sound {rs : Nat} {c : Statuses} {s : Surroundings}
    (sound : c.Sound) (abated : Abated rs c s) : (lapse rs c s).Sound := by
  refine congestionStep_sound ?_ sound abated.heard
  unfold lapsing
  split <;> exact abated.leveled

theorem lapse_left {rs : Nat} {c : Statuses} {s : Surroundings}
    (sound : c.Sound) (abated : Abated rs c s) :
    (lapse rs c s rs).left ≤ (c rs).left - 1 := by
  obtain ⟨leveled, heard, unmet⟩ := abated
  have bounded := (sound rs).bounded
  unfold lapse
  unfold lapsing at heard ⊢
  unfold Congestion.tested at unmet
  split at heard
  · next running =>
      have congested := (sound rs).timed.mpr (.inl running)
      rw [if_pos running] at unmet ⊢
      obtain ⟨same, stopped⟩ :=
        expireT15_tests running congested (unmet congested)
      change (expireT15 s rs c rs).left ≤ _
      rw [Congestion.left, Congestion.left, same, if_neg stopped,
        if_pos running]
      omega
  · next quiet =>
      rw [if_neg quiet] at unmet ⊢
      change (expireT16 s rs c rs).left ≤ _
      by_cases stopped : (c rs).t16 = .stopped
      · have calm : (c rs).status = 0 := by
          by_contra congested
          obtain running | running := (sound rs).timed.mp congested
          · exact quiet running
          · rw [stopped] at running
            exact nomatch running
        rw [expireT16, if_pos stopped, Congestion.left, calm, if_neg quiet]
        exact Nat.zero_le _
      · obtain ⟨lower, same⟩ :=
          (expireT16_sound leveled sound heard).2 stopped fun further =>
            unmet (sub_ne_zero.mpr further)
        rw [Congestion.left, Congestion.left, lower, same, if_neg quiet]
        omega

theorem lapses_left {rs : Nat} {c : Statuses} {expiries : List Surroundings}
    (sound : c.Sound)
    (abated : Runs.Along (lapse rs) (Abated rs) c expiries) :
    ((expiries.foldl (lapse rs) c) rs).left ≤ (c rs).left - expiries.length := by
  induction expiries generalizing c with
  | nil => exact le_rfl
  | cons s expiries ih =>
      obtain ⟨first, rest⟩ := abated
      have one := lapse_left sound first
      have more := ih (lapse_sound sound first) rest
      rw [List.foldl_cons, List.length_cons]
      omega

/-- In every run whose steps are heard the congestion of the route sets is
kept, their statuses move as they should, and congestion that has abated is
cleared after as many expiries as its level and one more. -/
theorem route_congestion_kept (events : List CongestionEvent)
    (leveled : ∀ event ∈ events, event.surroundings.Leveled)
    (heard : Runs.Along congestionStep Heard uncongested events) (n rs : Nat) :
    let at' := fun n => (events.take n).foldl congestionStep uncongested
    (at' n rs).Kept ∧
      (∀ event, events[n]? = some event → event.Moves (at' n) (at' (n + 1))) ∧
      ∀ expiries, Runs.Along (lapse rs) (Abated rs) (at' n) expiries →
        (at' n rs).status < expiries.length →
        ((expiries.foldl (lapse rs) (at' n)) rs).status = 0 := by
  intro at'
  have both := heard.and leveled
  have sound : (at' n).Sound := (both.take n).foldl
    (fun event sound met => congestionStep_sound met.1 sound met.2)
    uncongested_sound
  refine ⟨(sound rs).toKept, fun event there => ?_, ?_⟩
  · obtain ⟨level, hears⟩ := both.get there
    have next : at' (n + 1) = congestionStep (at' n) event := by
      simp only [at']
      rw [List.take_add_one, there, List.foldl_append]
      rfl
    rw [next]
    exact congestionStep_moves level sound hears
  · intro expiries abated enough
    have left := lapses_left sound abated
    have bounded := (sound rs).bounded
    have after : Statuses.Sound (expiries.foldl (lapse rs) (at' n)) :=
      abated.foldl (fun s sound first => lapse_sound sound first) sound
    have positive := (after rs).bounded.1
    unfold Congestion.left at left
    split at left <;> split at left <;> omega

theorem heard_of_taken {c : Statuses} {event : CongestionEvent}
    (users : event.surroundings.users = 0)
    (told : event.surroundings.ready.told = 0)
    (canput : event.surroundings.ready.canput = true) : Heard c event := by
  cases event with
  | tfc s rs octets => exact fun _ _ => users
  | t15 s rs => exact fun _ _ _ => told
  | t16 s rs =>
      refine fun _ _ => ⟨users, fun _ => ⟨?_, fun _ => told⟩⟩
      rintro ⟨i, sl, -, -, busy⟩
      exact absurd (canput.symm.trans busy) (by decide)
  | sends s sp priority dpc sls octets => exact fun _ => told

def answering (users : Int) (canput : Bool) : Surroundings where
  routing :=
    { Routing.transit .ansi with protocol := ⟨.ansi, .y92, true⟩ }
  net := Net.transit
  ni := fun _ => 2
  mcsta := false
  users := users
  ready := ⟨0, canput⟩

theorem answering_leveled (users : Int) (canput : Bool) :
    (answering users canput).Leveled :=
  ⟨rfl, fun _ => Nat.zero_le 3⟩

def controlling (stat : UInt8) : Octets := [1, 0, 0, stat]

theorem controlled_clears :
    let s := answering 0 true
    let c := congestionStep uncongested (.tfc s 0 (controlling 2))
    (c 0).status = 2 ∧ (([s, s, s].foldl (lapse 0) c) 0).status = 0 := by
  have run := route_congestion_kept [.tfc (answering 0 true) 0 (controlling 2)]
    (List.forall_mem_singleton.mpr (answering_leveled 0 true))
    ⟨heard_of_taken rfl rfl rfl, True.intro⟩ 1 0
  have abated : ∀ c, Abated 0 c (answering 0 true) := by
    intro c
    refine ⟨answering_leveled 0 true, ?_, ?_⟩
    · unfold lapsing
      split <;> exact heard_of_taken rfl rfl rfl
    · rintro - ⟨rs, sl, -, above⟩
      exact absurd above (Nat.not_lt_zero _)
  exact ⟨rfl, run.2.2 [answering 0 true, answering 0 true, answering 0 true]
    ⟨abated _, abated _, abated _, True.intro⟩ (by decide)⟩

theorem controlled_stuck :
    let s := answering 0 true
    let untaken := answering (-EBUSY) true
    let busy := answering 0 false
    let controlled := congestionStep uncongested (.tfc s 0 (controlling 1))
    let stuck := congestionStep controlled (.tfc untaken 0 (controlling 2))
    let tested := congestionStep
      (congestionStep uncongested (.tfc s 0 (controlling 2))) (.t15 s 0)
    (controlled 0 = ⟨1, .running, .stopped⟩ ∧
      stuck 0 = ⟨1, .stopped, .stopped⟩ ∧ ¬ (stuck 0).Kept) ∧
      (tested 0 = ⟨2, .stopped, .running⟩ ∧
        congestionStep tested (.t16 busy 0) 0 = ⟨2, .stopped, .running⟩ ∧
        ¬ (CongestionEvent.t16 busy 0).Moves tested
          (congestionStep tested (.t16 busy 0))) := by
  refine ⟨⟨rfl, rfl, fun kept => ?_⟩, rfl, rfl, fun moves => ?_⟩
  · exact absurd (kept.timed.mp (by decide)) (by decide)
  · have lower := moves rfl fun _ ⟨_, _, _, above⟩ =>
      absurd above (Nat.not_lt_zero _)
    exact absurd lower (by decide)

end Running

end OpenSS7.Mtp3
