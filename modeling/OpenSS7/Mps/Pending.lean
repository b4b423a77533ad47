import OpenSS7.Mps.Timers

/-!
Timers as their users see them: a start is pending until it is cancelled or
reported. What the operations on timer messages keep of that.
-/

namespace OpenSS7.Mps

abbrev Starts := Nat → Option Int

def timeLeft (now : Int) : Option Int → Nat
  | none => 0
  | some expiry => (expiry - now).toNat

structure Watched where
  timers : Timers
  starts : Starts

namespace Watched

variable (w : Watched)

/-- What an operation that returns on the timers `t` means for the starts. A
switch to another message takes the start along. -/
def watch (t : Timers) : TimerOp → Starts
  | .ticks mp ticks _ =>
      Function.update w.starts mp (some (t.clock + ticks))
  | .cond mp ticks room =>
      if ((t.block mp).miTimerCond t.clock ticks room).1 = true then
        Function.update w.starts mp (some (t.clock + ticks))
      else w.starts
  | .cancel mp => Function.update w.starts mp none
  | .qSwitch mp q newMp room =>
      Function.update (Function.update w.starts mp none)
        (t.miTimerQSwitch mp q newMp room).1 (w.starts mp)
  | .valid mp room =>
      if (t.block mp).lies = .held ∧
          ((t.block mp).miTimerValid t.clock room).1 = true then
        Function.update w.starts mp none
      else w.starts
  | .move _ _ _ | .expiry _ | .getq _ => w.starts

def step (event : Int × TimerOp) : Watched :=
  let t := { w.timers with clock := event.1 }
  ⟨t.perform event.2, w.watch t event.2⟩

end Watched

namespace Tblk

def Agrees (clock time expiry : Int) : Prop :=
  time = expiry ∨ time ≤ clock ∧ expiry ≤ clock

def Placed (q : Option Nat) (lies : Lies) : Prop :=
  (lies = .held → q ≠ none) ∧ ∀ q', lies = .queued q' → q = some q'

inductive Shows (clock : Int) : Tblk → Option Int → Prop
  | idle (time : Int) (q : Option Nat) :
      Shows clock ⟨.idle, none, time, q, .apart⟩ none
  | cancelled (time : Int) {q : Option Nat} {lies : Lies}
      (placed : Placed q lies) :
      Shows clock ⟨.cancelled, none, time, q, lies⟩ none
  | active {time due expiry : Int} (q : Option Nat) (early : expiry ≤ due)
      (agrees : Agrees clock time expiry) :
      Shows clock ⟨.active, some due, time, q, .apart⟩ (some expiry)
  | expired {time expiry : Int} {q : Option Nat} {lies : Lies}
      (past : expiry ≤ clock) (overdue : time ≤ clock) (placed : Placed q lies) :
      Shows clock ⟨.expired, none, time, q, lies⟩ (some expiry)
  | rescheduled (time : Int) {q : Option Nat} {lies : Lies}
      (placed : Placed q lies) :
      Shows clock ⟨.rescheduled, none, time, q, lies⟩ (some time)

theorem placed_apart (q : Option Nat) : Placed q .apart :=
  ⟨nofun, nofun⟩

theorem Placed.apart {lies : Lies} (placed : Placed none lies) :
    lies = .apart := by
  cases lies with
  | apart => rfl
  | queued q => exact nomatch placed.2 q rfl
  | held => exact absurd rfl (placed.1 rfl)

theorem Placed.putq {q : Option Nat} {lies : Lies} (placed : Placed q lies) :
    Placed q (lies.requeued q) := by
  cases q with
  | none => exact placed
  | some q => exact ⟨nofun, fun q' same => congrArg some (Lies.queued.inj same)⟩

variable {clock now ticks : Int} {room : Bool} {b : Tblk} {start : Option Int}

theorem Shows.later (shows : b.Shows clock start) (later : clock ≤ now) :
    b.Shows now start := by
  cases shows with
  | idle time q => exact .idle time q
  | cancelled time placed => exact .cancelled time placed
  | active q early agrees =>
      refine .active q early (agrees.imp_right fun both => ?_)
      exact ⟨Int.le_trans both.1 later, Int.le_trans both.2 later⟩
  | expired past overdue placed =>
      exact .expired (Int.le_trans past later) (Int.le_trans overdue later) placed
  | rescheduled time placed => exact .rescheduled time placed

theorem start_shows {state : TbState} {time : Int} {q : Option Nat}
    (armed : room = true → Agrees now time (now + ticks))
    (failed : room = false → 0 < ticks) :
    (Tblk.start now ticks room ⟨state, none, time, q, .apart⟩).Shows now
      (some (now + ticks)) := by
  unfold Tblk.start
  cases room with
  | true =>
      refine .active q ?_ (armed rfl)
      split <;> omega
  | false =>
      have positive : ¬ ticks ≤ 0 := Int.not_le.mpr (failed rfl)
      rw [if_neg positive]
      exact .rescheduled (now + ticks) (placed_apart q).putq

theorem miTimerTicks_shows (shows : b.Shows now start)
    (failed : b.state = .idle ∨ b.state = .active → room = false → 0 < ticks) :
    (b.miTimerTicks now ticks room).Shows now (some (now + ticks)) := by
  cases shows with
  | idle time q => exact start_shows (fun _ => .inl rfl) (failed (.inl rfl))
  | cancelled time placed => exact .rescheduled (now + ticks) placed
  | active q early agrees =>
      exact start_shows (fun _ => .inl rfl) (failed (.inr rfl))
  | expired past overdue placed => exact .rescheduled (now + ticks) placed
  | rescheduled time placed => exact .rescheduled (now + ticks) placed

theorem miTimerCond_shows (shows : b.Shows now start)
    (armed : b.state = .idle → room = true → Agrees now b.time (now + ticks))
    (failed : b.state = .idle → room = false → 0 < ticks) :
    (b.miTimerCond now ticks room).2.Shows now
      (if (b.miTimerCond now ticks room).1 = true then some (now + ticks)
        else start) := by
  cases shows with
  | idle time q => exact start_shows (armed rfl) (failed rfl)
  | cancelled time placed => exact .rescheduled (now + ticks) placed
  | active q early agrees => exact .active q early agrees
  | expired past overdue placed => exact .expired past overdue placed
  | rescheduled time placed => exact .rescheduled time placed

theorem restart_shows {time expiry : Int} (old : Int) (q : Option Nat)
    (agrees : Agrees now time expiry) (failed : room = false → now < time) :
    (Tblk.miTimerTicks now (time - now) room
      ⟨.idle, none, old, q, .apart⟩).Shows now (some expiry) := by
  have sum : now + (time - now) = time := by omega
  change (Tblk.start now (time - now) room
    ⟨.idle, none, now + (time - now), q, .apart⟩).Shows now (some expiry)
  unfold Tblk.start
  rw [sum]
  cases room with
  | true =>
      refine .active q ?_ agrees
      unfold Agrees at agrees
      split <;> omega
  | false =>
      have ahead : now < time := failed rfl
      have positive : ¬ time - now ≤ 0 := by omega
      rw [if_neg positive]
      change (Tblk.miTimerPutq
        ⟨.rescheduled, none, now + (time - now), q, .apart⟩).Shows now _
      rw [sum]
      obtain rfl | ⟨overdue, -⟩ := agrees
      · exact .rescheduled time (placed_apart q).putq
      · exact absurd overdue (Int.not_le.mpr ahead)

theorem miTimerCancel_shows (shows : b.Shows now start) :
    b.miTimerCancel.2.Shows now none := by
  cases shows with
  | idle time q => exact .idle time q
  | cancelled time placed => exact .cancelled time placed
  | active q early agrees => exact .idle _ q
  | expired past overdue placed => exact .cancelled _ placed
  | rescheduled time placed => exact .cancelled time placed

theorem resume_shows {time : Int} {q : Option Nat} {lies : Lies}
    {expire : Tblk → Bool × Tblk} {start : Option Int} (free : lies = .apart)
    (due : time ≤ now →
      (expire ⟨.rescheduled, none, time, q, lies⟩).2.Shows now start)
    (early : now < time → start = some time) :
    (Tblk.resume now room ⟨.rescheduled, none, time, q, lies⟩ expire).2.Shows
      now start := by
  subst free
  unfold Tblk.resume
  dsimp only
  split
  · next ahead =>
      rw [early ahead]
      cases room with
      | true => exact .active q (by omega) (.inl rfl)
      | false => exact .rescheduled time (placed_apart q).putq
  · next past => exact due (Int.not_lt.mp past)

theorem dispose_shows (shows : b.Shows now start)
    (waits : b.state ≠ .idle ∧ b.state ≠ .active) (q : Option Nat) :
    Tblk.Shows now
      (Tblk.dispose now room { b with q := q, lies := .apart }) start := by
  cases shows with
  | idle time q => exact absurd rfl waits.1
  | cancelled time placed => exact .idle time q
  | active q early agrees => exact absurd rfl waits.2
  | expired past overdue placed => exact .expired past overdue (placed_apart q).putq
  | rescheduled time placed =>
      refine resume_shows rfl (fun past => ?_) fun _ => rfl
      exact .expired past past (placed_apart q).putq

theorem Shows.placed (shows : b.Shows now start) : Placed b.q b.lies := by
  cases shows with
  | idle time q => exact placed_apart q
  | active q early agrees => exact placed_apart q
  | cancelled time placed => exact placed
  | expired past overdue placed => exact placed
  | rescheduled time placed => exact placed

theorem Shows.unqueued (shows : b.Shows now start)
    (free : b.state = .idle ∨ b.state = .active) (q : Nat) :
    b.lies ≠ .queued q := by
  cases shows with
  | idle time q' => exact nofun
  | active q' early agrees => exact nofun
  | cancelled time placed => exact free.elim nofun nofun
  | expired past overdue placed => exact free.elim nofun nofun
  | rescheduled time placed => exact free.elim nofun nofun

theorem Shows.target (shows : b.Shows now start)
    (unqueued : ∀ q, b.lies ≠ .queued q) (q : Nat) :
    Tblk.Shows now { b with q := some q } start := by
  have placed : Placed (some q) b.lies :=
    ⟨nofun, fun q' queued => absurd queued (unqueued q')⟩
  cases shows with
  | idle time q' => exact .idle time (some q)
  | active q' early agrees => exact .active (some q) early agrees
  | cancelled time _ => exact .cancelled time placed
  | expired past overdue _ => exact .expired past overdue placed
  | rescheduled time _ => exact .rescheduled time placed

theorem miTimerMove_shows (shows : b.Shows now start) (q : Nat) :
    (b.miTimerMove now room q).Shows now start := by
  have placed := shows.placed
  unfold Tblk.miTimerMove
  dsimp only
  split
  · next same =>
      rw [← same]
      exact shows
  · split
    · next active => exact shows.target (shows.unqueued (.inr active)) q
    · next idle => exact shows.target (shows.unqueued (.inl idle)) q
    · next stays goes =>
        split
        · next none =>
            have free : b.lies = .apart := (none ▸ placed).apart
            have same : ({ b with q := some q } : Tblk) =
                { b with q := some q, lies := .apart } := by rw [← free]
            rw [same]
            exact dispose_shows shows ⟨goes, stays⟩ (some q)
        · next oldq target =>
            split
            · exact dispose_shows shows ⟨goes, stays⟩ (some q)
            · next elsewhere =>
                refine shows.target (fun q' queued => elsewhere ?_) q
                rw [queued, Option.some.inj (target.symm.trans
                  (placed.2 q' queued))]

theorem miTimerExpiry_shows (shows : b.Shows now start) :
    (b.miTimerExpiry now).Shows now start := by
  cases shows with
  | idle time q => exact .idle time q
  | cancelled time placed => exact .cancelled time placed
  | expired past overdue placed => exact .expired past overdue placed
  | rescheduled time placed => exact .rescheduled time placed
  | active q early agrees =>
      unfold Tblk.miTimerExpiry
      dsimp only
      split
      · next due =>
          refine .expired (Int.le_trans early due) ?_ (placed_apart q).putq
          obtain same | ⟨overdue, -⟩ := agrees
          · exact same ▸ Int.le_trans early due
          · exact overdue
      · exact .active q early agrees

theorem getq_shows (shows : b.Shows now start) : b.getq.Shows now start := by
  have placed := shows.placed
  unfold getq
  split
  · next q queued =>
      have held : Placed b.q .held := by
        refine ⟨fun _ none => ?_, nofun⟩
        exact nomatch none.symm.trans (placed.2 q queued)
      cases shows with
      | idle time q => exact nomatch queued
      | active q early agrees => exact nomatch queued
      | cancelled time _ => exact .cancelled time held
      | expired past overdue _ => exact .expired past overdue held
      | rescheduled time _ => exact .rescheduled time held
  · exact shows

theorem miTimerValid_iff (shows : b.Shows now start) (held : b.lies = .held) :
    (b.miTimerValid now room).1 = true ↔
      ∃ expiry, start = some expiry ∧ expiry ≤ now := by
  cases shows with
  | idle time q => exact nomatch held
  | active q early agrees => exact nomatch held
  | cancelled time placed => exact iff_of_false nofun nofun
  | expired past overdue placed => exact iff_of_true rfl ⟨_, rfl, past⟩
  | rescheduled time placed =>
      change (Tblk.resume now room _ _).1 = true ↔ _
      unfold Tblk.resume
      dsimp only
      split
      · next ahead =>
          refine iff_of_false nofun ?_
          rintro ⟨_, ⟨⟩, past⟩
          omega
      · next past => exact iff_of_true rfl ⟨time, rfl, Int.not_lt.mp past⟩

theorem miTimerValid_shows (shows : b.Shows now start) (held : b.lies = .held) :
    (b.miTimerValid now room).2.Shows now
      (if (b.miTimerValid now room).1 = true then none else start) := by
  cases shows with
  | idle time q => exact nomatch held
  | active q early agrees => exact nomatch held
  | cancelled time placed => exact .idle time _
  | expired past overdue placed => exact .idle _ _
  | @rescheduled time q _ placed =>
      change (Tblk.resume now room _ _).2.Shows now
        (if (Tblk.resume now room _ _).1 = true then none else some time)
      unfold Tblk.resume
      dsimp only
      split
      · next ahead =>
          cases room with
          | true => exact .active q (by omega) (.inl rfl)
          | false => exact .rescheduled time (placed_apart q).putq
      · exact .idle time q

theorem miTimerCancel_pending {expiry : Int}
    (shows : b.Shows now (some expiry)) :
    Agrees now b.time expiry ∧
      (b.miTimerCancel.1 = true →
        b.miTimerCancel.2 = ⟨.idle, none, b.time, b.q, .apart⟩) ∧
      b.miTimerCancel.2.time = b.time := by
  cases shows with
  | active q early agrees => exact ⟨agrees, fun _ => rfl, rfl⟩
  | expired past overdue placed => exact ⟨.inr ⟨overdue, past⟩, nofun, rfl⟩
  | rescheduled time placed => exact ⟨.inl rfl, nofun, rfl⟩

theorem remainTicks_eq (shows : b.Shows now start) :
    b.remainTicks now = timeLeft now start := by
  cases shows with
  | idle time q => rfl
  | cancelled time placed => rfl
  | rescheduled time placed => rfl
  | @expired time expiry q lies past overdue placed =>
      change 0 = (expiry - now).toNat
      omega
  | @active time due expiry q early agrees =>
      change (time - now).toNat = (expiry - now).toNat
      obtain rfl | ⟨overdue, past⟩ := agrees
      · rfl
      · omega

def isPending (b : Tblk) : Bool :=
  b.state = .active || b.state = .expired || b.state = .rescheduled

theorem isPending_eq (shows : b.Shows now start) :
    b.isPending = start.isSome := by
  cases shows <;> rfl

end Tblk

namespace Watched

def Faithful (w : Watched) : Prop :=
  ∀ mp, (w.timers.block mp).Shows w.timers.clock (w.starts mp)

theorem set_faithful {t : Timers} {starts : Starts}
    (faithful : Faithful ⟨t, starts⟩) (mp : Nat) {b : Tblk}
    {start : Option Int} (shows : b.Shows t.clock start) :
    Faithful ⟨t.set mp b, Function.update starts mp start⟩ := by
  intro other
  by_cases same : other = mp
  · subst same
    simpa [Timers.set] using shows
  · simpa [Timers.set, same] using faithful other

theorem set_still {t : Timers} {starts : Starts}
    (faithful : Faithful ⟨t, starts⟩) (mp : Nat) {b : Tblk}
    (shows : b.Shows t.clock (starts mp)) :
    Faithful ⟨t.set mp b, starts⟩ := by
  have set := set_faithful faithful mp shows
  rwa [Function.update_eq_self] at set

def Possible (w : Watched) (event : Int × TimerOp) : Prop :=
  w.timers.clock ≤ event.1 ∧
    match event.2 with
    | .qSwitch _ _ newMp _ => (w.timers.block newMp).state = .idle
    | _ => True

def Met (w : Watched) (event : Int × TimerOp) : Prop :=
  match event.2 with
  | .ticks mp ticks room =>
      (w.timers.block mp).state = .idle ∨ (w.timers.block mp).state = .active →
        room = false → 0 < ticks
  | .cond mp ticks room =>
      (w.timers.block mp).state = .idle →
        (room = true → Tblk.Agrees event.1 (w.timers.block mp).time
          (event.1 + ticks)) ∧ (room = false → 0 < ticks)
  | .qSwitch mp _ _ room =>
      (w.timers.block mp).isPending = true ∧
        (room = false → event.1 < (w.timers.block mp).time)
  | _ => True

theorem idle_block {clock : Int} {b : Tblk} {start : Option Int}
    (shows : b.Shows clock start) (idle : b.state = .idle) :
    b = ⟨.idle, none, b.time, b.q, .apart⟩ ∧ start = none := by
  cases shows with
  | idle time q => exact ⟨rfl, rfl⟩
  | cancelled time placed => exact nomatch idle
  | active q early agrees => exact nomatch idle
  | expired past overdue placed => exact nomatch idle
  | rescheduled time placed => exact nomatch idle

theorem move_idle (now : Int) (room : Bool) (time : Int) (old : Option Nat)
    (q : Nat) :
    Tblk.miTimerMove now room ⟨.idle, none, time, old, .apart⟩ q =
      ⟨.idle, none, time, some q, .apart⟩ := by
  unfold Tblk.miTimerMove
  split <;> rfl

theorem switch_faithful {t : Timers} {starts : Starts}
    (faithful : Faithful ⟨t, starts⟩) {mp newMp q : Nat} {room : Bool}
    (spare : (t.block newMp).state = .idle)
    (pending : (t.block mp).isPending = true)
    (failed : room = false → t.clock < (t.block mp).time) :
    Faithful ⟨(t.miTimerQSwitch mp q newMp room).2,
      Function.update (Function.update starts mp none)
        (t.miTimerQSwitch mp q newMp room).1 (starts mp)⟩ := by
  have shows : (t.block mp).Shows t.clock (starts mp) := faithful mp
  rw [Tblk.isPending_eq shows, Option.isSome_iff_exists] at pending
  obtain ⟨expiry, started⟩ := pending
  rw [started] at shows ⊢
  obtain ⟨agrees, idle, kept⟩ := Tblk.miTimerCancel_pending shows
  have restarts := fun old =>
    @Tblk.restart_shows _ room _ _ old (some q) agrees failed
  unfold Timers.miTimerQSwitch
  dsimp only
  rw [kept]
  split
  · next undone =>
      rw [idle undone, Function.update_idem, move_idle]
      exact set_faithful faithful mp (restarts _)
  · rw [(idle_block (faithful newMp) spare).1, move_idle]
    have cancelled := set_faithful faithful mp (Tblk.miTimerCancel_shows shows)
    exact set_faithful cancelled newMp (restarts _)

theorem step_faithful {w : Watched} (event : Int × TimerOp)
    (faithful : w.Faithful) (met : w.Possible event ∧ w.Met event) :
    (w.step event).Faithful := by
  obtain ⟨now, op⟩ := event
  obtain ⟨⟨later, possible⟩, met⟩ := met
  have shows : ∀ mp, (w.timers.block mp).Shows now (w.starts mp) :=
    fun mp => (faithful mp).later later
  have risen : Faithful ⟨{ w.timers with clock := now }, w.starts⟩ := shows
  cases op with
  | ticks mp ticks room =>
      exact set_faithful risen mp (Tblk.miTimerTicks_shows (shows mp) met)
  | cond mp ticks room =>
      have started := @Tblk.miTimerCond_shows now ticks _ _ _
        (shows mp) (fun idle => (met idle).1) fun idle => (met idle).2
      change Faithful ⟨_, if _ = true then _ else _⟩
      split
      · next effective =>
          rw [if_pos effective] at started
          exact set_faithful risen mp started
      · next ineffective =>
          rw [if_neg ineffective] at started
          exact set_still risen mp started
  | cancel mp =>
      exact set_faithful risen mp (Tblk.miTimerCancel_shows (shows mp))
  | move mp q room =>
      exact set_still risen mp (Tblk.miTimerMove_shows (shows mp) q)
  | qSwitch mp q newMp room =>
      exact switch_faithful risen possible met.1 met.2
  | expiry mp => exact set_still risen mp (Tblk.miTimerExpiry_shows (shows mp))
  | getq mp => exact set_still risen mp (Tblk.getq_shows (shows mp))
  | valid mp room =>
      change Faithful ⟨if _ then _ else _, if _ then _ else _⟩
      by_cases held : (w.timers.block mp).lies = .held
      · have reported := @Tblk.miTimerValid_shows now room _ _
          (shows mp) held
        rw [if_pos held]
        split
        · next both =>
            rw [if_pos both.2] at reported
            exact set_faithful risen mp reported
        · next neither =>
            rw [if_neg fun valid => neither ⟨held, valid⟩] at reported
            exact set_still risen mp reported
      · rw [if_neg held, if_neg fun both => held both.1]
        exact risen

def Told (drvHztomsec : Nat → Nat) (w : Watched) : Prop :=
  ∀ mp now, w.timers.clock ≤ now →
    let b := w.timers.block mp
    let left := timeLeft now (w.starts mp)
    b.isPending = (w.starts mp).isSome ∧
      miTimerRemain drvHztomsec now b =
        (if left ≠ 0 then drvHztomsec left else 0) ∧
      (b.lies = .held → ∀ room, (b.miTimerValid now room).1 = true ↔
        ∃ expiry, w.starts mp = some expiry ∧ expiry ≤ now)

theorem Faithful.told {w : Watched} (faithful : w.Faithful)
    (drvHztomsec : Nat → Nat) : w.Told drvHztomsec := by
  intro mp now later
  have shows := (faithful mp).later later
  refine ⟨Tblk.isPending_eq shows, ?_, fun held room => ?_⟩
  · rw [miTimerRemain, Tblk.remainTicks_eq shows]
  · exact Tblk.miTimerValid_iff shows held

def allocated (clock : Int) (q : Nat → Option Nat) : Watched :=
  ⟨⟨clock, fun mp => Tblk.miTimerAlloc (q mp)⟩, fun _ => none⟩

theorem allocated_faithful (clock : Int) (q : Nat → Option Nat) :
    (allocated clock q).Faithful :=
  fun mp => .idle 0 (q mp)

/-- A start is reported, is pending and has its time left as the operations
on its timer say, as long as each of them meets its condition. -/
theorem timers_told (drvHztomsec : Nat → Nat) (clock : Int)
    (q : Nat → Option Nat) (events : List (Int × TimerOp))
    (along : Runs.Along step (fun w event => w.Possible event ∧ w.Met event)
      (allocated clock q) events) (n : Nat) :
    ((events.take n).foldl step (allocated clock q)).Told drvHztomsec := by
  have faithful := (along.take n).foldl step_faithful
    (allocated_faithful clock q)
  exact faithful.told drvHztomsec

def switched : List (Int × TimerOp) :=
  [(0, .ticks 0 5 true), (1, .move 0 7 true), (2, .qSwitch 0 8 1 true),
    (5, .expiry 0), (6, .getq 0)]

theorem switched_told :
    let w := switched.foldl step (allocated 0 fun _ => none)
    let b := w.timers.block 0
    b.lies = .held ∧ ∀ room, (b.miTimerValid 6 room).1 = true := by
  have told := timers_told id 0 (fun _ => none) switched
    ⟨⟨⟨by decide, True.intro⟩, fun _ => nofun⟩,
      ⟨⟨by decide, True.intro⟩, True.intro⟩,
      ⟨⟨by decide, rfl⟩, rfl, nofun⟩,
      ⟨⟨by decide, True.intro⟩, True.intro⟩,
      ⟨⟨by decide, True.intro⟩, True.intro⟩, True.intro⟩ 5 0 6 (by decide)
  exact ⟨rfl, fun room => (told.2.2 rfl room).mpr ⟨5, rfl, by decide⟩⟩

def revived : List (Int × TimerOp) :=
  [(0, .ticks 0 5 true), (1, .cancel 0), (2, .qSwitch 0 7 1 true),
    (5, .expiry 0), (6, .getq 0)]

def conditional : List (Int × TimerOp) := [(0, .cond 0 10 true)]

theorem revived_told :
    let start := allocated 0 fun _ => none
    let w := revived.foldl step start
    let v := conditional.foldl step start
    (Runs.Along step Possible start revived ∧ ¬ w.Told id ∧
      w.starts 0 = none ∧ ((w.timers.block 0).miTimerValid 6 true).1 = true) ∧
    Runs.Along step Possible start conditional ∧ ¬ v.Told id ∧
      v.starts 0 = some 10 ∧ miTimerRemain id 1 (v.timers.block 0) = 0 := by
  refine ⟨⟨?_, fun told => ?_, rfl, rfl⟩, ?_, fun told => ?_, rfl, rfl⟩
  · exact ⟨⟨by decide, True.intro⟩, ⟨by decide, True.intro⟩,
      ⟨by decide, rfl⟩, ⟨by decide, True.intro⟩, ⟨by decide, True.intro⟩,
      True.intro⟩
  · obtain ⟨expiry, started, -⟩ :=
      ((told 0 6 (by decide)).2.2 rfl true).mp rfl
    exact nomatch started
  · exact ⟨⟨by decide, True.intro⟩, True.intro⟩
  · exact absurd (told 0 1 (by decide)).2.1 (by decide)

end Watched

end OpenSS7.Mps
