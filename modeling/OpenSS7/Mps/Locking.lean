import OpenSS7.Mps.Lock

/-!
Mutual exclusion, wake-ups and references of the private-structure lock.
-/

namespace OpenSS7.Mps

open Tally

def Attached (s : Comms) (q : Queue) : Prop :=
  ∃ mw, (s.pair q.pair).qPtr = some mw ∧ (s.comm mw).miQ = some q.pair

/-- The private structure of the queue is the waiter of `mi`, and the wait
bit of the queue is set. -/
def Registered (s : Comms) (q : Queue) (mi : Addr) : Prop :=
  ∃ mw, (s.pair q.pair).qPtr = some mw ∧ (s.comm mw).miQ = some q.pair ∧
    (s.comm mi).miWaiter = some mw ∧
    (s.comm mw).waits q.waitBit = true

structure LockCall where
  op : LockOp
  outcome : LockOutcome

namespace LockCall

def attempts (call : LockCall) (q : Queue) (mi : Addr) : Prop :=
  call.op = .acquire mi q

instance (call : LockCall) (q : Queue) (mi : Addr) :
    Decidable (call.attempts q mi) :=
  inferInstanceAs (Decidable (call.op = .acquire mi q))

end LockCall

def holders : List LockCall → Addr → List Queue
  | [], _ => []
  | call :: earlier, mi =>
      match call.op with
      | .acquire mi' q =>
          if mi' = mi ∧ call.outcome.locked then q :: holders earlier mi
          else holders earlier mi
      | .release mi' q =>
          if mi' = mi then (holders earlier mi).erase q
          else holders earlier mi
      | _ => holders earlier mi

def Refused : List LockCall → Queue → Addr → Prop
  | [], _, _ => False
  | call :: earlier, q, mi =>
      if call.attempts q mi then call.outcome.locked = false
      else Refused earlier q mi

def EnabledSince : List LockCall → Queue → Addr → Prop
  | [], _, _ => False
  | call :: earlier, q, mi =>
      q ∈ call.outcome.woken ∨
        ¬ call.attempts q mi ∧ EnabledSince earlier q mi

section Books

variable (all : List Addr) (opens : Addr → Nat) (s : Comms)

def standing (mi : Addr) : ℤ :=
  opens mi + (if (s.comm mi).miHead = some .head then 1 else 0) +
    if (s.comm mi).miQ.isSome then 1 else 0

def registrations (mi : Addr) : ℤ :=
  standing opens s mi +
    tally (fun other => (s.comm other).miWaiter) all (some mi) +
    if (s.comm mi).miBcid = 0 then 0 else 1

structure Books (hand : Option Addr) : Prop where
  refs : ∀ mi, ((s.comm mi).miRefs : ℤ) =
    registrations all opens s mi + if hand = some mi then 1 else 0
  waiter : ∀ mi mw, (s.comm mi).miWaiter = some mw →
    mi ∈ all ∧ (s.comm mw).miQ.isSome
  bufcall : ∀ mi, (s.comm mi).miBcid ≠ 0 → (s.comm mi).miQ.isSome
  hand : ∀ mi, hand = some mi → (s.comm mi).miQ.isSome

end Books

def LockOp.Legal (op : LockOp) (all : List Addr) (s : Comms)
    (trace : List LockCall) : Prop :=
  match op with
  | .acquire mi q => mi ∈ all ∧ Attached s q
  | .release mi q => q ∈ holders trace mi
  | .bufcall q _ => Attached s q
  | .qenable _ => True

structure Idle (all : List Addr) (opens : Addr → Nat) (s : Comms) : Prop where
  nodup : all.Nodup
  users : ∀ mi, (s.comm mi).miUsers = 0
  waiter : ∀ mi, (s.comm mi).miWaiter = none
  bcid : ∀ mi, (s.comm mi).miBcid = 0
  refs : ∀ mi, ((s.comm mi).miRefs : ℤ) = standing opens s mi

inductive LockRun (all : List Addr) (start : Comms) :
    List LockCall → Comms → Prop where
  | nil : LockRun all start [] start
  | step {trace : List LockCall} {s s' : Comms} {op : LockOp}
      {outcome : LockOutcome} (run : LockRun all start trace s)
      (legal : op.Legal all s trace)
      (exec : s.execLock op = some (s', outcome)) :
      LockRun all start (⟨op, outcome⟩ :: trace) s'

structure Fair (all : List Addr) (opens : Addr → Nat) (s : Comms)
    (trace : List LockCall) : Prop where
  exclusive : ∀ mi, (holders trace mi).length ≤ 1
  users : ∀ mi, (s.comm mi).miUsers = (holders trace mi).length
  held : ∀ q mi, Refused trace q mi → holders trace mi ≠ [] →
    Registered s q mi ∨ EnabledSince trace q mi
  free : ∀ q mi, Refused trace q mi → holders trace mi = [] →
    EnabledSince trace q mi
  refs : ∀ mi, ((s.comm mi).miRefs : ℤ) = registrations all opens s mi

namespace Comm

theorem mem_woken {c : Comm} {q : Queue} :
    q ∈ c.woken ↔ c.miQ = some q.pair ∧ c.waits q.waitBit = true := by
  obtain ⟨pair, qreadr⟩ := q
  unfold woken
  cases hq : c.miQ with
  | none => simp
  | some p =>
      have flip : some p = some pair ↔ pair = p := by
        rw [Option.some.injEq, eq_comm]
      cases qreadr with
      | true =>
          cases rq : c.miWaitRq <;> cases wq : c.miWaitWq <;>
            simp [waits, Queue.waitBit, flip, rq]
      | false =>
          cases rq : c.miWaitRq <;> cases wq : c.miWaitWq <;>
            simp [waits, Queue.waitBit, flip, wq]

@[simp] theorem setBit_waits_self (c : Comm) (bit : WaitBit) :
    (c.setBit bit).waits bit = true := by
  cases bit <;> rfl

theorem setBit_waits (c : Comm) {bit other : WaitBit}
    (set : c.waits other = true) : (c.setBit bit).waits other = true := by
  cases bit <;> cases other <;> first | rfl | exact set

@[simp] theorem setBit_miQ (c : Comm) (bit : WaitBit) :
    (c.setBit bit).miQ = c.miQ := by
  cases bit <;> rfl

@[simp] theorem setBit_miHead (c : Comm) (bit : WaitBit) :
    (c.setBit bit).miHead = c.miHead := by
  cases bit <;> rfl

@[simp] theorem setBit_miRefs (c : Comm) (bit : WaitBit) :
    (c.setBit bit).miRefs = c.miRefs := by
  cases bit <;> rfl

@[simp] theorem setBit_miWaiter (c : Comm) (bit : WaitBit) :
    (c.setBit bit).miWaiter = c.miWaiter := by
  cases bit <;> rfl

@[simp] theorem setBit_miBcid (c : Comm) (bit : WaitBit) :
    (c.setBit bit).miBcid = c.miBcid := by
  cases bit <;> rfl

@[simp] theorem setBit_miUsers (c : Comm) (bit : WaitBit) :
    (c.setBit bit).miUsers = c.miUsers := by
  cases bit <;> rfl

end Comm

structure Frame (s s' : Comms) : Prop where
  pair : s'.pair = s.pair
  queue : ∀ mi, (s'.comm mi).miQ = (s.comm mi).miQ
  head : ∀ mi, (s'.comm mi).miHead = (s.comm mi).miHead

namespace Frame

variable {s s' s'' : Comms} {q : Queue}

theorem refl : Frame s s := ⟨rfl, fun _ => rfl, fun _ => rfl⟩

theorem trans (first : Frame s s') (second : Frame s' s'') : Frame s s'' :=
  ⟨second.pair.trans first.pair,
    fun mi => (second.queue mi).trans (first.queue mi),
    fun mi => (second.head mi).trans (first.head mi)⟩

theorem modify {mi : Addr} {f : Comm → Comm}
    (kept : ∀ c, (f c).miQ = c.miQ ∧ (f c).miHead = c.miHead) :
    Frame s (s.modify mi f) := by
  refine ⟨rfl, ?_, ?_⟩
  · exact fun other => modify_field _ _ _ _ Comm.miQ fun c => (kept c).1
  · exact fun other => modify_field _ _ _ _ Comm.miHead fun c => (kept c).2

theorem standing (frame : Frame s s') (opens : Addr → Nat) (mi : Addr) :
    standing opens s' mi = standing opens s mi := by
  rw [Mps.standing, Mps.standing, frame.head, frame.queue]

theorem attached (frame : Frame s s') (attached : Attached s q) :
    Attached s' q := by
  obtain ⟨mw, ptr, own⟩ := attached
  exact ⟨mw, by rw [frame.pair, ptr], by rw [frame.queue, own]⟩

end Frame

section Waiters

variable {all : List Addr} {s s' : Comms} {mi : Addr} {f : Comm → Comm}

theorem waiters_congr
    (same : ∀ mi, (s'.comm mi).miWaiter = (s.comm mi).miWaiter)
    (w : Option Addr) :
    tally (G := ℤ) (fun other => (s'.comm other).miWaiter) all w =
      tally (fun other => (s.comm other).miWaiter) all w :=
  tally_congr (fun other _ => same other) w

theorem waiters_set (once : all.Nodup) (member : mi ∈ all)
    {v : Option Addr}
    (others : ∀ other, other ≠ mi →
      (s'.comm other).miWaiter = (s.comm other).miWaiter)
    (here : (s'.comm mi).miWaiter = v) (w : Option Addr) :
    tally (G := ℤ) (fun other => (s'.comm other).miWaiter) all w =
      tally (fun other => (s.comm other).miWaiter) all w -
        (if (s.comm mi).miWaiter = w then 1 else 0) +
        if v = w then 1 else 0 := by
  rw [← @tally_update _ _ _ _ _ _ (fun other => (s.comm other).miWaiter) _ _
    once member]
  congr 1
  funext other
  by_cases same : other = mi
  · subst same
    rw [Function.update_self, here]
  · rw [Function.update_of_ne same, others other same]

end Waiters

section Steps

variable {all : List Addr} {opens : Addr → Nat} {s s' : Comms}
  {hand : Option Addr} {mi mw : Addr} {q : Queue} {f : Comm → Comm}

theorem standing_pos (attached : (s.comm mi).miQ.isSome) :
    1 ≤ standing opens s mi := by
  have opened : (0 : ℤ) ≤ opens mi := Int.natCast_nonneg _
  rw [standing, if_pos attached]
  split <;> omega

theorem tally_nonneg (w : Option Addr) :
    (0 : ℤ) ≤ tally (fun other => (s.comm other).miWaiter) all w :=
  Int.natCast_nonneg _

theorem Books.congr (books : Books all opens s hand) (frame : Frame s s')
    (refs : ∀ mi, (s'.comm mi).miRefs = (s.comm mi).miRefs)
    (waiter : ∀ mi, (s'.comm mi).miWaiter = (s.comm mi).miWaiter)
    (bcid : ∀ mi, (s'.comm mi).miBcid = (s.comm mi).miBcid) :
    Books all opens s' hand := by
  refine ⟨?_, ?_, ?_, ?_⟩
  · intro mi
    rw [refs, books.refs mi, registrations, registrations, frame.standing,
      waiters_congr waiter, bcid]
  · intro mi mw waits
    rw [waiter] at waits
    rw [frame.queue]
    exact books.waiter mi mw waits
  · intro mi pending
    rw [bcid] at pending
    rw [frame.queue]
    exact books.bufcall mi pending
  · intro mi held
    rw [frame.queue]
    exact books.hand mi held

structure Woke (s s' : Comms) (hand : Option Addr) (woken : List Queue) :
    Prop where
  frame : Frame s s'
  users : ∀ mi, (s'.comm mi).miUsers = (s.comm mi).miUsers
  waiter : ∀ mi, (s'.comm mi).miWaiter = (s.comm mi).miWaiter
  registered : ∀ q mi, Registered s q mi →
    Registered s' q mi ∨ q ∈ woken
  wakes : ∀ q mw, hand = some mw → (s.comm mw).miQ = some q.pair →
    (s.comm mw).waits q.waitBit = true → q ∈ woken

theorem put_spec (books : Books all opens s (some mw)) :
    ∃ s', s.miPut mw = some s' ∧ Books all opens s' none ∧ Frame s s' ∧
      (∀ mi, (s'.comm mi).miUsers = (s.comm mi).miUsers) ∧
      (∀ mi, (s'.comm mi).miWaiter = (s.comm mi).miWaiter) ∧
      ∀ mi bit, (s'.comm mi).waits bit = (s.comm mi).waits bit := by
  have attached := books.hand mw rfl
  have refs := books.refs mw
  have stays := @standing_pos opens _ _ attached
  have slots := @tally_nonneg all s (some mw)
  have enough : ¬ (s.comm mw).miRefs ≤ 1 := by
    rw [registrations, if_pos rfl] at refs
    split at refs <;> omega
  set s' := s.modify mw fun c => { c with miRefs := c.miRefs - 1 } with hs'
  have frame : Frame s s' := .modify fun _ => ⟨rfl, rfl⟩
  have users : ∀ mi, (s'.comm mi).miUsers = (s.comm mi).miUsers :=
    fun _ => modify_field _ _ _ _ Comm.miUsers fun _ => rfl
  have waiter : ∀ mi, (s'.comm mi).miWaiter = (s.comm mi).miWaiter :=
    fun _ => modify_field _ _ _ _ Comm.miWaiter fun _ => rfl
  have bcid : ∀ mi, (s'.comm mi).miBcid = (s.comm mi).miBcid :=
    fun _ => modify_field _ _ _ _ Comm.miBcid fun _ => rfl
  have bits : ∀ mi bit, (s'.comm mi).waits bit = (s.comm mi).waits bit :=
    fun _ bit => modify_field _ _ _ _ (fun c => c.waits bit) fun _ => by
      cases bit <;> rfl
  refine ⟨s', by rw [Comms.miPut, if_neg enough], ⟨?_, ?_, ?_, ?_⟩, frame,
    users, waiter, bits⟩
  · intro mi
    have before := books.refs mi
    have same : registrations all opens s' mi =
        registrations all opens s mi := by
      rw [registrations, registrations, frame.standing, waiters_congr waiter,
        bcid]
    rw [same]
    by_cases here : mi = mw
    · subst here
      rw [if_pos rfl] at before
      rw [hs', modify_comm, if_pos rfl, if_neg (by simp)]
      simp only
      omega
    · rw [if_neg (by simpa [eq_comm] using here)] at before
      rw [hs', modify_comm, if_neg here, if_neg (by simp)]
      exact before
  · intro mi mw' waits
    rw [waiter] at waits
    rw [frame.queue]
    exact books.waiter mi mw' waits
  · intro mi pending
    rw [bcid] at pending
    rw [frame.queue]
    exact books.bufcall mi pending
  · exact fun _ none => nomatch none

theorem wakeold_spec (books : Books all opens s hand) :
    ∃ s' woken, s.wakeold? hand = some (s', woken) ∧
      Books all opens s' none ∧ Woke s s' hand woken := by
  cases hand with
  | none =>
      exact ⟨s, [], rfl, books, .refl, fun _ => rfl, fun _ => rfl,
        fun _ _ registered => .inl registered, fun _ _ none => nomatch none⟩
  | some mw =>
      set cleared := s.modify mw fun c => { c with
        miWaitSleep := false
        miWaitRq := false
        miWaitWq := false } with hcleared
      have frame : Frame s cleared := .modify fun _ => ⟨rfl, rfl⟩
      have users : ∀ mi, (cleared.comm mi).miUsers = (s.comm mi).miUsers :=
        fun _ => modify_field _ _ _ _ Comm.miUsers fun _ => rfl
      have waiter : ∀ mi,
          (cleared.comm mi).miWaiter = (s.comm mi).miWaiter :=
        fun _ => modify_field _ _ _ _ Comm.miWaiter fun _ => rfl
      have books' : Books all opens cleared (some mw) :=
        books.congr frame
          (fun _ => modify_field _ _ _ _ Comm.miRefs fun _ => rfl) waiter
          (fun _ => modify_field _ _ _ _ Comm.miBcid fun _ => rfl)
      obtain ⟨s', put, books'', frame', users', waiter', bits⟩ :=
        put_spec books'
      refine ⟨s', (s.comm mw).woken, ?_, books'', ?_⟩
      · simp only [Comms.wakeold?, Comms.miWakeold, ← hcleared, put,
          Option.bind_eq_bind, Option.bind_some]
      · refine ⟨frame.trans frame', ?_, ?_, ?_, ?_⟩
        · exact fun mi => (users' mi).trans (users mi)
        · exact fun mi => (waiter' mi).trans (waiter mi)
        · rintro q mi ⟨w, ptr, own, slot, bit⟩
          by_cases waking : w = mw
          · subst waking
            exact .inr (Comm.mem_woken.2 ⟨own, bit⟩)
          · refine .inl ⟨w, ?_, ?_, ?_, ?_⟩
            · rw [frame'.pair, frame.pair, ptr]
            · rw [frame'.queue, frame.queue, own]
            · rw [waiter', waiter, slot]
            · rw [bits, hcleared, modify_comm, if_neg waking, bit]
        · intro q w eq own bit
          cases eq
          exact Comm.mem_woken.2 ⟨own, bit⟩

theorem grab_spec (books : Books all opens s none)
    (attached : (s.comm mw).miQ.isSome) :
    Books all opens (s.miGrab mw) (some mw) := by
  have frame : Frame s (s.miGrab mw) := .modify fun _ => ⟨rfl, rfl⟩
  have waiter : ∀ mi,
      ((s.miGrab mw).comm mi).miWaiter = (s.comm mi).miWaiter :=
    fun _ => modify_field _ _ _ _ Comm.miWaiter fun _ => rfl
  have bcid : ∀ mi, ((s.miGrab mw).comm mi).miBcid = (s.comm mi).miBcid :=
    fun _ => modify_field _ _ _ _ Comm.miBcid fun _ => rfl
  refine ⟨?_, ?_, ?_, ?_⟩
  · intro mi
    have before := books.refs mi
    rw [if_neg (by simp)] at before
    rw [registrations, frame.standing, waiters_congr waiter, bcid,
      ← registrations]
    by_cases here : mi = mw
    · subst here
      rw [Comms.miGrab, modify_comm, if_pos rfl, if_pos rfl]
      simp only
      omega
    · rw [Comms.miGrab, modify_comm, if_neg here,
        if_neg (by simpa [eq_comm] using here)]
      exact before
  · intro mi mw' waits
    rw [waiter] at waits
    rw [frame.queue]
    exact books.waiter mi mw' waits
  · intro mi pending
    rw [bcid] at pending
    rw [frame.queue]
    exact books.bufcall mi pending
  · intro mi eq
    cases eq
    rw [frame.queue]
    exact attached

theorem slot_spec (books : Books all opens s hand) (once : all.Nodup)
    (member : mi ∈ all) (s' : Comms) (frame : Frame s s')
    (others : ∀ other, other ≠ mi →
      (s'.comm other).miWaiter = (s.comm other).miWaiter)
    (here : (s'.comm mi).miWaiter = hand)
    (refs : ∀ mi, (s'.comm mi).miRefs = (s.comm mi).miRefs)
    (bcid : ∀ mi, (s'.comm mi).miBcid = (s.comm mi).miBcid) :
    Books all opens s' (s.comm mi).miWaiter := by
  refine ⟨?_, ?_, ?_, ?_⟩
  · intro w
    have before := books.refs w
    rw [registrations] at before
    rw [refs, registrations, frame.standing, bcid,
      waiters_set once member others here]
    omega
  · intro other mw waits
    rw [frame.queue]
    by_cases same : other = mi
    · subst same
      rw [here] at waits
      exact ⟨member, books.hand mw waits⟩
    · rw [others other same] at waits
      exact books.waiter other mw waits
  · intro other pending
    rw [bcid] at pending
    rw [frame.queue]
    exact books.bufcall other pending
  · intro mw waits
    rw [frame.queue]
    exact (books.waiter mi mw waits).2

structure Waited (s s' : Comms) (mo : Option Addr) (q : Queue) (mi : Addr) :
    Prop where
  frame : Frame s s'
  users : ∀ mi, (s'.comm mi).miUsers = (s.comm mi).miUsers
  slots : ∀ other, other ≠ mi →
    (s'.comm other).miWaiter = (s.comm other).miWaiter
  own : Registered s' q mi
  kept : ∀ q' mi', Registered s q' mi' → Registered s' q' mi' ∨
    ∃ w, mo = some w ∧ (s'.comm w).miQ = some q'.pair ∧
      (s'.comm w).waits q'.waitBit = true

theorem waitpriv_spec (books : Books all opens s none) (once : all.Nodup)
    (member : mi ∈ all) (attached : Attached s q) :
    Books all opens (s.miWaitpriv mi (some q)).1
        (s.miWaitpriv mi (some q)).2 ∧
      Waited s (s.miWaitpriv mi (some q)).1 (s.miWaitpriv mi (some q)).2 q
        mi := by
  obtain ⟨mw, ptr, own⟩ := attached
  simp only [Comms.miWaitpriv, ptr]
  by_cases same : (s.comm mi).miWaiter = some mw
  · rw [if_pos same]
    set s' := s.modify mw fun c => c.setBit q.waitBit with hs'
    have frame : Frame s s' :=
      .modify fun _ => ⟨Comm.setBit_miQ _ _, Comm.setBit_miHead _ _⟩
    have waiter : ∀ mi, (s'.comm mi).miWaiter = (s.comm mi).miWaiter :=
      fun _ => modify_field _ _ _ _ Comm.miWaiter
        fun _ => Comm.setBit_miWaiter _ _
    have bits : ∀ mi bit, (s.comm mi).waits bit = true →
        (s'.comm mi).waits bit = true := by
      intro mi bit set
      rw [hs', modify_comm]
      split
      · exact Comm.setBit_waits _ set
      · exact set
    refine ⟨books.congr frame ?_ waiter ?_, frame, ?_, fun _ _ => waiter _,
      ?_, ?_⟩
    · exact fun _ => modify_field _ _ _ _ Comm.miRefs
        fun _ => Comm.setBit_miRefs _ _
    · exact fun _ => modify_field _ _ _ _ Comm.miBcid
        fun _ => Comm.setBit_miBcid _ _
    · exact fun _ => modify_field _ _ _ _ Comm.miUsers
        fun _ => Comm.setBit_miUsers _ _
    · refine ⟨mw, by rw [frame.pair, ptr], by rw [frame.queue, own],
        by rw [waiter, same], ?_⟩
      rw [hs', modify_comm, if_pos rfl, Comm.setBit_waits_self]
    · rintro q' mi' ⟨w, ptr', own', slot, bit⟩
      exact .inl ⟨w, by rw [frame.pair, ptr'], by rw [frame.queue, own'],
        by rw [waiter, slot], bits w _ bit⟩
  · rw [if_neg same]
    have isSome : (s.comm mw).miQ.isSome := by rw [own]; rfl
    have grabbed := grab_spec books isSome
    set s₁ := (s.miGrab mw).modify mw fun c => c.setBit q.waitBit with hs₁
    have grabFrame : Frame s (s.miGrab mw) := .modify fun _ => ⟨rfl, rfl⟩
    have frame₁ : Frame s s₁ := grabFrame.trans
      (.modify fun _ => ⟨Comm.setBit_miQ _ _, Comm.setBit_miHead _ _⟩)
    have users₁ : ∀ mi, (s₁.comm mi).miUsers = (s.comm mi).miUsers :=
      fun _ => (modify_field _ _ _ _ Comm.miUsers
        fun _ => Comm.setBit_miUsers _ _).trans
          (modify_field _ _ _ _ Comm.miUsers fun _ => rfl)
    have waiter₁ : ∀ mi, (s₁.comm mi).miWaiter = (s.comm mi).miWaiter :=
      fun _ => (modify_field _ _ _ _ Comm.miWaiter
        fun _ => Comm.setBit_miWaiter _ _).trans
          (modify_field _ _ _ _ Comm.miWaiter fun _ => rfl)
    have bits₁ : ∀ mi bit, (s.comm mi).waits bit = true →
        (s₁.comm mi).waits bit = true := by
      intro mi bit set
      have grab : ((s.miGrab mw).comm mi).waits bit = true := by
        rw [← set]
        exact modify_field _ _ _ _ (fun c => c.waits bit)
          fun _ => by cases bit <;> rfl
      rw [hs₁, modify_comm]
      split
      · exact Comm.setBit_waits _ grab
      · exact grab
    have books₁ : Books all opens s₁ (some mw) := by
      refine grabbed.congr (.modify fun _ =>
        ⟨Comm.setBit_miQ _ _, Comm.setBit_miHead _ _⟩) ?_ ?_ ?_
      · exact fun _ => modify_field _ _ _ _ Comm.miRefs
          fun _ => Comm.setBit_miRefs _ _
      · exact fun _ => modify_field _ _ _ _ Comm.miWaiter
          fun _ => Comm.setBit_miWaiter _ _
      · exact fun _ => modify_field _ _ _ _ Comm.miBcid
          fun _ => Comm.setBit_miBcid _ _
    set s₂ := s₁.modify mi fun c => { c with miWaiter := some mw } with hs₂
    have frame₂ : Frame s₁ s₂ := .modify fun _ => ⟨rfl, rfl⟩
    have slots₂ : ∀ other, other ≠ mi →
        (s₂.comm other).miWaiter = (s₁.comm other).miWaiter := by
      intro other different
      rw [hs₂, modify_comm, if_neg different]
    have here₂ : (s₂.comm mi).miWaiter = some mw := by
      rw [hs₂, modify_comm, if_pos rfl]
    have bits₂ : ∀ mi bit, (s₂.comm mi).waits bit = (s₁.comm mi).waits bit :=
      fun _ bit => modify_field _ _ _ _ (fun c => c.waits bit)
        fun _ => by cases bit <;> rfl
    refine ⟨slot_spec books₁ once member s₂ frame₂ slots₂ here₂ ?_ ?_,
      frame₁.trans frame₂, ?_, ?_, ?_, ?_⟩
    · exact fun _ => modify_field _ _ _ _ Comm.miRefs fun _ => rfl
    · exact fun _ => modify_field _ _ _ _ Comm.miBcid fun _ => rfl
    · intro mi
      have kept : (s₂.comm mi).miUsers = (s₁.comm mi).miUsers :=
        modify_field _ _ _ _ Comm.miUsers fun _ => rfl
      exact kept.trans (users₁ mi)
    · exact fun other different =>
        (slots₂ other different).trans (waiter₁ other)
    · refine ⟨mw, ?_, ?_, here₂, ?_⟩
      · rw [frame₂.pair, frame₁.pair, ptr]
      · rw [frame₂.queue, frame₁.queue, own]
      · rw [bits₂, hs₁, modify_comm, if_pos rfl, Comm.setBit_waits_self]
    · rintro q' mi' ⟨w, ptr', own', slot, bit⟩
      have own'' : (s₂.comm w).miQ = some q'.pair := by
        rw [frame₂.queue, frame₁.queue, own']
      have bit' : (s₂.comm w).waits q'.waitBit = true := by
        rw [bits₂]
        exact bits₁ w _ bit
      by_cases here : mi' = mi
      · subst here
        exact .inr ⟨w, by rw [waiter₁, slot], own'', bit'⟩
      · refine .inl ⟨w, ?_, own'', ?_, bit'⟩
        · rw [frame₂.pair, frame₁.pair, ptr']
        · rw [slots₂ mi' here, waiter₁, slot]

end Steps

/-- The invariant of a run: the books are kept, `mi_users` counts the holder,
and a queue that waits is registered where it waits. -/
structure Kept (all : List Addr) (opens : Addr → Nat) (s : Comms)
    (trace : List LockCall) : Prop where
  books : Books all opens s none
  users : ∀ mi, (s.comm mi).miUsers = (holders trace mi).length
  exclusive : ∀ mi, (holders trace mi).length ≤ 1
  known : ∀ mi, holders trace mi ≠ [] → mi ∈ all
  waits : ∀ q mi, Refused trace q mi → ¬ EnabledSince trace q mi →
    holders trace mi ≠ [] ∧ Registered s q mi

theorem Kept.fair {all : List Addr} {opens : Addr → Nat} {s : Comms}
    {trace : List LockCall} (kept : Kept all opens s trace) :
    Fair all opens s trace := by
  refine ⟨kept.exclusive, kept.users, ?_, ?_, ?_⟩
  · intro q mi refused _
    by_cases enabled : EnabledSince trace q mi
    · exact .inr enabled
    · exact .inl (kept.waits q mi refused enabled).2
  · intro q mi refused free
    by_contra disabled
    exact (kept.waits q mi refused disabled).1 free
  · intro mi
    have refs := kept.books.refs mi
    rw [if_neg (by simp)] at refs
    omega

section Run

variable {all : List Addr} {opens : Addr → Nat} {s s' s₁ : Comms}
  {hand : Option Addr} {mi : Addr} {q : Queue} {woken : List Queue}
  {trace : List LockCall} {f : Comm → Comm}

theorem Registered.modify
    (kept : ∀ c, (f c).miQ = c.miQ ∧ (f c).miWaiter = c.miWaiter ∧
      ∀ bit, c.waits bit = true → (f c).waits bit = true)
    {mw : Addr} (registered : Registered s q mi) :
    Registered (s.modify mw f) q mi := by
  obtain ⟨w, ptr, own, slot, bit⟩ := registered
  refine ⟨w, ptr, ?_, ?_, ?_⟩
  · rw [← own]
    exact modify_field _ _ _ _ Comm.miQ fun c => (kept c).1
  · rw [← slot]
    exact modify_field _ _ _ _ Comm.miWaiter fun c => (kept c).2.1
  · rw [modify_comm]
    split
    · exact (kept _).2.2 _ bit
    · exact bit

theorem Registered.users {mw : Addr} (users : Comm → Nat)
    (registered : Registered s q mi) :
    Registered (s.modify mw fun c => { c with miUsers := users c }) q mi := by
  apply registered.modify
  exact fun _ => ⟨rfl, rfl, fun bit set => by cases bit <;> exact set⟩

theorem Kept.wake {op : LockOp} {outcome : LockOutcome}
    (kept : Kept all opens s trace)
    (other : ∀ q mi, op ≠ .acquire mi q)
    (books : Books all opens s' none) (woke : Woke s₁ s' hand outcome.woken)
    (users : ∀ mi, (s₁.comm mi).miUsers =
      (holders (⟨op, outcome⟩ :: trace) mi).length)
    (fewer : ∀ mi, (holders (⟨op, outcome⟩ :: trace) mi).Sublist
      (holders trace mi))
    (waits : ∀ q mi, holders trace mi ≠ [] → Registered s q mi →
      (holders (⟨op, outcome⟩ :: trace) mi ≠ [] ∧ Registered s₁ q mi) ∨
        ∃ w, hand = some w ∧ (s₁.comm w).miQ = some q.pair ∧
          (s₁.comm w).waits q.waitBit = true) :
    Kept all opens s' (⟨op, outcome⟩ :: trace) := by
  refine ⟨books, ?_, ?_, ?_, ?_⟩
  · intro mi
    rw [woke.users, users]
  · exact fun mi =>
      Nat.le_trans (fewer mi).length_le (kept.exclusive mi)
  · intro mi some
    refine kept.known mi ?_
    intro none
    have := fewer mi
    rw [none] at this
    exact some (List.sublist_nil.1 this)
  · intro q mi refused disabled
    have attempt : ¬ (⟨op, outcome⟩ : LockCall).attempts q mi := other q mi
    simp only [Refused, if_neg attempt] at refused
    simp only [EnabledSince, attempt, not_false_eq_true, true_and,
      not_or] at disabled
    obtain ⟨held, registered⟩ := kept.waits q mi refused disabled.2
    rcases waits q mi held registered with ⟨held', registered'⟩ | waking
    · refine ⟨held', ?_⟩
      exact (woke.registered q mi registered').resolve_right disabled.1
    · obtain ⟨w, inHand, own, bit⟩ := waking
      exact absurd (woke.wakes q w inHand own bit) disabled.1

theorem locked_kept (kept : Kept all opens s trace) (member : mi ∈ all)
    (free : (s.comm mi).miUsers = 0) :
    Kept all opens
      (s.modify mi fun c => { c with miUsers := c.miUsers + 1 })
      (⟨.acquire mi q, ⟨true, []⟩⟩ :: trace) := by
  have none : holders trace mi = [] := by
    rw [← List.length_eq_zero_iff, ← kept.users, free]
  refine ⟨?_, ?_, ?_, ?_, ?_⟩
  · refine kept.books.congr (.modify fun _ => ⟨rfl, rfl⟩) ?_ ?_ ?_
    · exact fun _ => modify_field _ _ _ _ Comm.miRefs fun _ => rfl
    · exact fun _ => modify_field _ _ _ _ Comm.miWaiter fun _ => rfl
    · exact fun _ => modify_field _ _ _ _ Comm.miBcid fun _ => rfl
  · intro other
    rw [modify_comm]
    by_cases same : other = mi
    · subst same
      simp [holders, none, free]
    · simp [holders, same, Ne.symm same, kept.users]
  · intro other
    by_cases same : other = mi
    · subst same
      simp [holders, none]
    · simpa [holders, Ne.symm same] using kept.exclusive other
  · intro other held
    by_cases same : other = mi
    · exact same ▸ member
    · exact kept.known other (by simpa [holders, Ne.symm same] using held)
  · intro q' other refused disabled
    by_cases attempt : (⟨.acquire mi q, ⟨true, []⟩⟩ : LockCall).attempts q'
        other
    · simp [Refused, attempt] at refused
    · simp only [Refused, if_neg attempt] at refused
      simp only [EnabledSince, List.not_mem_nil, attempt, not_false_eq_true,
        true_and, false_or] at disabled
      obtain ⟨held, registered⟩ := kept.waits q' other refused disabled
      refine ⟨?_, registered.users _⟩
      simp only [holders]
      split
      · simp
      · exact held

theorem refused_kept (kept : Kept all opens s trace) (once : all.Nodup)
    (member : mi ∈ all) (attached : Attached s q)
    (busy : (s.comm mi).miUsers ≠ 0) :
    ∃ s' woken, s.miAcquire mi (some q) = some (s', false, woken) ∧
      Kept all opens s' (⟨.acquire mi q, ⟨false, woken⟩⟩ :: trace) := by
  set s₁ := s.modify mi fun c => { c with miUsers := c.miUsers + 1 } with hs₁
  have books₁ : Books all opens s₁ none := by
    refine kept.books.congr (.modify fun _ => ⟨rfl, rfl⟩) ?_ ?_ ?_
    · exact fun _ => modify_field _ _ _ _ Comm.miRefs fun _ => rfl
    · exact fun _ => modify_field _ _ _ _ Comm.miWaiter fun _ => rfl
    · exact fun _ => modify_field _ _ _ _ Comm.miBcid fun _ => rfl
  have frame₁ : Frame s s₁ := .modify fun _ => ⟨rfl, rfl⟩
  obtain ⟨books₂, waited⟩ :=
    waitpriv_spec books₁ once member (frame₁.attached attached)
  set s₂ := (s₁.miWaitpriv mi (some q)).1 with hs₂
  set mo := (s₁.miWaitpriv mi (some q)).2 with hmo
  set s₃ := s₂.modify mi fun c => { c with miUsers := c.miUsers - 1 }
    with hs₃
  have books₃ : Books all opens s₃ mo := by
    refine books₂.congr (.modify fun _ => ⟨rfl, rfl⟩) ?_ ?_ ?_
    · exact fun _ => modify_field _ _ _ _ Comm.miRefs fun _ => rfl
    · exact fun _ => modify_field _ _ _ _ Comm.miWaiter fun _ => rfl
    · exact fun _ => modify_field _ _ _ _ Comm.miBcid fun _ => rfl
  have users₃ : ∀ other, (s₃.comm other).miUsers =
      (s.comm other).miUsers := by
    intro other
    by_cases same : other = mi
    · subst same
      rw [hs₃, modify_comm, if_pos rfl]
      simp only [waited.users]
      rw [hs₁, modify_comm, if_pos rfl]
      exact Nat.add_sub_cancel _ _
    · rw [hs₃, modify_comm, if_neg same, waited.users, hs₁, modify_comm,
        if_neg same]
  have onward : ∀ {q' other}, Registered s₂ q' other →
      Registered s₃ q' other := fun registered => registered.users _
  obtain ⟨s', woken, eq, books', woke⟩ := wakeold_spec books₃
  refine ⟨s', woken, ?_, books', ?_, ?_, ?_, ?_⟩
  · simp only [Comms.miAcquire, if_neg busy, ← hs₁, ← hs₂, ← hmo, ← hs₃,
      eq, Option.bind_eq_bind, Option.bind_some]
  · intro other
    rw [woke.users, users₃, kept.users]
    simp [holders]
  · intro other
    simpa [holders] using kept.exclusive other
  · intro other held
    exact kept.known other (by simpa [holders] using held)
  · intro q' other refused disabled
    simp only [EnabledSince, not_or] at disabled
    obtain ⟨asleep, earlier⟩ := disabled
    have held : holders (⟨.acquire mi q, ⟨false, woken⟩⟩ :: trace) other =
        holders trace other := by
      simp [holders]
    rw [held]
    by_cases attempt : (⟨.acquire mi q, ⟨false, woken⟩⟩ : LockCall).attempts
        q' other
    · cases attempt
      refine ⟨?_, ?_⟩
      · rw [ne_eq, ← List.length_eq_zero_iff, ← kept.users]
        exact busy
      · exact (woke.registered q mi (onward waited.own)).resolve_right
          asleep
    · simp only [Refused, if_neg attempt] at refused
      simp only [attempt, not_false_eq_true, true_and] at earlier
      obtain ⟨taken, registered⟩ := kept.waits q' other refused earlier
      refine ⟨taken, ?_⟩
      have start : Registered s₁ q' other := registered.users _
      rcases waited.kept q' other start with still | ⟨w, out, own, bit⟩
      · exact (woke.registered q' other (onward still)).resolve_right asleep
      · have own' : (s₃.comm w).miQ = some q'.pair := by
          rw [← own]
          exact modify_field _ _ _ _ Comm.miQ fun _ => rfl
        have bit' : (s₃.comm w).waits q'.waitBit = true := by
          rw [← bit]
          exact modify_field _ _ _ _ (fun c => c.waits q'.waitBit)
            fun _ => by cases q'.waitBit <;> rfl
        exact absurd (woke.wakes q' w out own' bit') asleep

theorem acquire_kept (kept : Kept all opens s trace) (once : all.Nodup)
    (member : mi ∈ all) (attached : Attached s q) :
    ∃ s' outcome, s.execLock (.acquire mi q) = some (s', outcome) ∧
      Kept all opens s' (⟨.acquire mi q, outcome⟩ :: trace) := by
  by_cases free : (s.comm mi).miUsers = 0
  · refine ⟨_, ⟨true, []⟩, ?_, locked_kept kept member free⟩
    simp only [Comms.execLock, Comms.miAcquire, if_pos free,
      Option.bind_eq_bind, Option.bind_some]
  · obtain ⟨s', woken, eq, kept'⟩ :=
      refused_kept kept once member attached free
    refine ⟨s', ⟨false, woken⟩, ?_, kept'⟩
    simp only [Comms.execLock, eq, Option.bind_eq_bind, Option.bind_some]

theorem release_kept (kept : Kept all opens s trace) (once : all.Nodup)
    (holder : q ∈ holders trace mi) :
    ∃ s' outcome, s.execLock (.release mi q) = some (s', outcome) ∧
      Kept all opens s' (⟨.release mi q, outcome⟩ :: trace) := by
  have held : holders trace mi ≠ [] := List.ne_nil_of_mem holder
  have one : holders trace mi = [q] := by
    have short := kept.exclusive mi
    match hold : holders trace mi, short with
    | [], _ => rw [hold] at holder; cases holder
    | [q'], _ =>
        rw [hold] at holder
        rw [List.mem_singleton.1 holder]
  set s₁ := s.modify mi fun c => { c with miUsers := 0, miWaiter := none }
    with hs₁
  have frame : Frame s s₁ := .modify fun _ => ⟨rfl, rfl⟩
  have slots : ∀ other, other ≠ mi →
      (s₁.comm other).miWaiter = (s.comm other).miWaiter := by
    intro other different
    rw [hs₁, modify_comm, if_neg different]
  have bits : ∀ mi bit, (s₁.comm mi).waits bit = (s.comm mi).waits bit :=
    fun _ bit => modify_field _ _ _ _ (fun c => c.waits bit)
      fun _ => by cases bit <;> rfl
  have books : Books all opens s₁ (s.comm mi).miWaiter := by
    refine slot_spec kept.books once (kept.known mi held) s₁ frame slots ?_ ?_
      ?_
    · rw [hs₁, modify_comm, if_pos rfl]
    · exact fun _ => modify_field _ _ _ _ Comm.miRefs fun _ => rfl
    · exact fun _ => modify_field _ _ _ _ Comm.miBcid fun _ => rfl
  obtain ⟨s', woken, eq, books', woke⟩ := wakeold_spec books
  refine ⟨s', ⟨false, woken⟩, ?_, ?_⟩
  · simp only [Comms.execLock, Comms.miRelease, ← hs₁, eq,
      Option.bind_eq_bind, Option.bind_some]
  · refine kept.wake (by simp) books' woke ?_ ?_ ?_
    · intro other
      by_cases same : other = mi
      · subst same
        rw [hs₁, modify_comm, if_pos rfl]
        simp [holders, one]
      · rw [hs₁, modify_comm, if_neg same, kept.users]
        simp [holders, Ne.symm same]
    · intro other
      simp only [holders]
      split
      · exact List.erase_sublist
      · exact .refl _
    · intro q' other held' registered
      have kept' := registered
      obtain ⟨w, ptr, own, slot, bit⟩ := registered
      by_cases same : other = mi
      · subst same
        exact .inr ⟨w, slot, by rw [frame.queue, own], by rw [bits, bit]⟩
      · refine .inl ⟨?_, w, ?_, ?_, ?_, ?_⟩
        · simpa [holders, Ne.symm same] using held'
        · rw [frame.pair, ptr]
        · rw [frame.queue, own]
        · rw [slots other same, slot]
        · rw [bits, bit]

theorem bcid_spec (books : Books all opens s hand) {bcid : Nat}
    {hand' : Option Addr} (inHand : ∀ w, hand' = some w → w = mi)
    (attached : (s.comm mi).miQ.isSome)
    (others : ∀ w, hand = some w → w = mi)
    (balance : ((if bcid = 0 then 0 else 1) : ℤ) +
        (if hand' = some mi then 1 else 0) =
      (if (s.comm mi).miBcid = 0 then 0 else 1) +
        if hand = some mi then 1 else 0) :
    Books all opens (s.modify mi fun c => { c with miBcid := bcid })
      hand' := by
  set s' := s.modify mi fun c => { c with miBcid := bcid } with hs'
  have frame : Frame s s' := .modify fun _ => ⟨rfl, rfl⟩
  have waiter : ∀ mi, (s'.comm mi).miWaiter = (s.comm mi).miWaiter :=
    fun _ => modify_field _ _ _ _ Comm.miWaiter fun _ => rfl
  have refs : ∀ mi, (s'.comm mi).miRefs = (s.comm mi).miRefs :=
    fun _ => modify_field _ _ _ _ Comm.miRefs fun _ => rfl
  refine ⟨?_, ?_, ?_, ?_⟩
  · intro w
    have before := books.refs w
    rw [registrations] at before
    rw [refs, registrations, frame.standing, waiters_congr waiter]
    by_cases here : w = mi
    · subst here
      have bcidHere : (s'.comm w).miBcid = bcid := by
        rw [hs', modify_comm, if_pos rfl]
      rw [bcidHere]
      omega
    · have bcidAway : (s'.comm w).miBcid = (s.comm w).miBcid := by
        rw [hs', modify_comm, if_neg here]
      rw [bcidAway, if_neg (c := hand' = some w) fun eq => here (inHand w eq)]
      rw [if_neg (c := hand = some w) fun eq => here (others w eq)] at before
      exact before
  · intro other mw waits
    rw [waiter] at waits
    rw [frame.queue]
    exact books.waiter other mw waits
  · intro other pending
    rw [frame.queue]
    by_cases here : other = mi
    · exact here ▸ attached
    · rw [hs', modify_comm, if_neg here] at pending
      exact books.bufcall other pending
  · intro w eq
    rw [frame.queue, inHand w eq]
    exact attached

theorem bufcall_kept (kept : Kept all opens s trace)
    (attached : Attached s q) (bid : Nat) :
    ∃ s' outcome, s.execLock (.bufcall q bid) = some (s', outcome) ∧
      Kept all opens s' (⟨.bufcall q bid, outcome⟩ :: trace) := by
  obtain ⟨mw, ptr, own⟩ := attached
  have isSome : (s.comm mw).miQ.isSome := by rw [own]; rfl
  have grabbed := grab_spec kept.books isSome
  set s₁ := (s.miGrab mw).modify mw fun c => c.setBit q.waitBit with hs₁
  have frame : Frame (s.miGrab mw) s₁ :=
    .modify fun _ => ⟨Comm.setBit_miQ _ _, Comm.setBit_miHead _ _⟩
  have books₁ : Books all opens s₁ (some mw) := by
    refine grabbed.congr frame ?_ ?_ ?_
    · exact fun _ => modify_field _ _ _ _ Comm.miRefs
        fun _ => Comm.setBit_miRefs _ _
    · exact fun _ => modify_field _ _ _ _ Comm.miWaiter
        fun _ => Comm.setBit_miWaiter _ _
    · exact fun _ => modify_field _ _ _ _ Comm.miBcid
        fun _ => Comm.setBit_miBcid _ _
  have users₁ : ∀ mi, (s₁.comm mi).miUsers = (s.comm mi).miUsers := by
    intro mi
    have grab : ((s.miGrab mw).comm mi).miUsers = (s.comm mi).miUsers :=
      modify_field _ _ _ _ Comm.miUsers fun _ => rfl
    rw [← grab]
    exact modify_field _ _ _ _ Comm.miUsers fun _ => Comm.setBit_miUsers _ _
  have onward : ∀ q' mi, Registered s q' mi → Registered s₁ q' mi := by
    intro q' mi registered
    have grab : Registered (s.miGrab mw) q' mi := by
      apply registered.modify
      exact fun _ => ⟨rfl, rfl, fun bit set => by cases bit <;> exact set⟩
    apply grab.modify
    exact fun _ => ⟨Comm.setBit_miQ _ _, Comm.setBit_miWaiter _ _,
      fun _ => Comm.setBit_waits _⟩
  have isSome₁ : (s₁.comm mw).miQ.isSome := books₁.hand mw rfl
  by_cases failed : bid = 0
  · obtain ⟨s', woken, eq, books', woke⟩ := wakeold_spec books₁
    refine ⟨s', ⟨false, woken⟩, ?_, ?_⟩
    · simp only [Comms.wakeold?] at eq
      simp only [Comms.execLock, Comms.miBufcall, ptr, ← hs₁, if_pos failed,
        eq, Option.bind_eq_bind, Option.bind_some]
    · refine kept.wake (by simp) books' woke ?_ ?_ ?_
      · exact fun mi => (users₁ mi).trans (kept.users mi)
      · exact fun mi => List.Sublist.refl _
      · exact fun q' mi held registered =>
          .inl ⟨held, onward q' mi registered⟩
  · set s₂ := s₁.modify mw fun c => { c with miBcid := bid } with hs₂
    have users₂ : ∀ mi, (s₂.comm mi).miUsers = (s.comm mi).miUsers := by
      intro mi
      rw [← users₁]
      exact modify_field _ _ _ _ Comm.miUsers fun _ => rfl
    have onward₂ : ∀ q' mi, Registered s q' mi → Registered s₂ q' mi := by
      intro q' mi registered
      apply (onward q' mi registered).modify
      exact fun _ => ⟨rfl, rfl, fun bit set => by cases bit <;> exact set⟩
    by_cases fresh : (s₁.comm mw).miBcid = 0
    · have books₂ : Books all opens s₂ none := by
        refine bcid_spec books₁ (by simp) isSome₁ (by simp [eq_comm]) ?_
        simp [failed, fresh]
      refine ⟨s₂, ⟨false, []⟩, ?_, ?_⟩
      · simp only [Comms.execLock, Comms.miBufcall, ptr, ← hs₁,
          if_neg failed, Comms.miRebufcall, if_pos fresh, ← hs₂,
          Option.bind_eq_bind, Option.bind_some]
      · refine @Kept.wake _ _ _ _ _ none _ _ _ kept (by simp) books₂
          ⟨.refl, fun _ => rfl, fun _ => rfl, fun _ _ => .inl,
            fun _ _ none => nomatch none⟩ ?_ ?_ ?_
        · exact fun mi => (users₂ mi).trans (kept.users mi)
        · exact fun mi => List.Sublist.refl _
        · exact fun q' mi held registered =>
            .inl ⟨held, onward₂ q' mi registered⟩
    · have books₂ : Books all opens s₂ (some mw) := by
        refine bcid_spec books₁ (by simp [eq_comm]) isSome₁
          (by simp [eq_comm]) ?_
        simp [failed, fresh]
      obtain ⟨s', put, books', frame', users', waiter', bits'⟩ :=
        put_spec books₂
      refine ⟨s', ⟨false, []⟩, ?_, ?_⟩
      · simp only [Comms.execLock, Comms.miBufcall, ptr, ← hs₁,
          if_neg failed, Comms.miRebufcall, if_neg fresh, ← hs₂, put,
          Option.bind_eq_bind, Option.bind_some]
      · refine @Kept.wake _ _ _ _ _ none _ _ _ kept (by simp) books'
          ⟨.refl, fun _ => rfl, fun _ => rfl, fun _ _ => .inl,
            fun _ _ none => nomatch none⟩ ?_ ?_ ?_
        · exact fun mi =>
            ((users' mi).trans (users₂ mi)).trans (kept.users mi)
        · exact fun mi => List.Sublist.refl _
        · intro q' mi held registered
          obtain ⟨w, ptr', own', slot, bit⟩ := onward₂ q' mi registered
          exact .inl ⟨held, w, by rw [frame'.pair, ptr'],
            by rw [frame'.queue, own'], by rw [waiter', slot],
            by rw [bits', bit]⟩

theorem qenable_kept (kept : Kept all opens s trace) (mi : Addr) :
    ∃ s' outcome, s.execLock (.qenable mi) = some (s', outcome) ∧
      Kept all opens s' (⟨.qenable mi, outcome⟩ :: trace) := by
  set s₁ := s.modify mi fun c => { c with miBcid := 0 } with hs₁
  have users₁ : ∀ mi, (s₁.comm mi).miUsers = (s.comm mi).miUsers :=
    fun _ => modify_field _ _ _ _ Comm.miUsers fun _ => rfl
  have onward : ∀ q mi, Registered s q mi → Registered s₁ q mi := by
    intro q mi registered
    apply registered.modify
    exact fun _ => ⟨rfl, rfl, fun bit set => by cases bit <;> exact set⟩
  by_cases idle : (s.comm mi).miBcid = 0
  · have books₁ : Books all opens s₁ none := by
      refine kept.books.congr (.modify fun _ => ⟨rfl, rfl⟩) ?_ ?_ ?_
      · exact fun _ => modify_field _ _ _ _ Comm.miRefs fun _ => rfl
      · exact fun _ => modify_field _ _ _ _ Comm.miWaiter fun _ => rfl
      · intro other
        rw [hs₁, modify_comm]
        split
        · rename_i same
          rw [same, idle]
        · rfl
    refine ⟨s₁, ⟨false, []⟩, ?_, ?_⟩
    · simp only [Comms.execLock, Comms.miQenable, ← hs₁, if_pos idle,
        Option.bind_eq_bind, Option.bind_some]
    · refine @Kept.wake _ _ _ _ _ none _ _ _ kept (by simp) books₁
        ⟨.refl, fun _ => rfl, fun _ => rfl, fun _ _ => .inl,
          fun _ _ none => nomatch none⟩ ?_ ?_ ?_
      · exact fun mi => (users₁ mi).trans (kept.users mi)
      · exact fun mi => List.Sublist.refl _
      · exact fun q mi held registered =>
          .inl ⟨held, onward q mi registered⟩
  · have books₁ : Books all opens s₁ (some mi) := by
      refine bcid_spec kept.books (by simp [eq_comm])
        (kept.books.bufcall mi idle) (by simp) ?_
      simp [idle]
    obtain ⟨s', woken, eq, books', woke⟩ := wakeold_spec books₁
    refine ⟨s', ⟨false, woken⟩, ?_, ?_⟩
    · simp only [Comms.wakeold?] at eq
      simp only [Comms.execLock, Comms.miQenable, ← hs₁, if_neg idle, eq,
        Option.bind_eq_bind, Option.bind_some]
    · refine kept.wake (by simp) books' woke ?_ ?_ ?_
      · exact fun mi => (users₁ mi).trans (kept.users mi)
      · exact fun mi => List.Sublist.refl _
      · exact fun q mi held registered =>
          .inl ⟨held, onward q mi registered⟩

theorem execLock_kept (kept : Kept all opens s trace) (once : all.Nodup)
    {op : LockOp} (legal : op.Legal all s trace) :
    ∃ s' outcome, s.execLock op = some (s', outcome) ∧
      Kept all opens s' (⟨op, outcome⟩ :: trace) := by
  cases op with
  | acquire mi q => exact acquire_kept kept once legal.1 legal.2
  | release mi q => exact release_kept kept once legal
  | bufcall q bid => exact bufcall_kept kept legal bid
  | qenable mi => exact qenable_kept kept mi

theorem Idle.kept (idle : Idle all opens s) : Kept all opens s [] := by
  refine ⟨⟨?_, ?_, ?_, by simp⟩, ?_, by simp [holders], by simp [holders],
    fun _ _ refused => absurd refused (by simp [Refused])⟩
  · intro mi
    have slots : tally (G := ℤ) (fun other => (s.comm other).miWaiter) all
        (some mi) = 0 := by
      simp [tally, idle.waiter]
    rw [registrations, slots, idle.refs, if_pos (idle.bcid mi)]
    simp
  · intro mi mw waits
    rw [idle.waiter] at waits
    cases waits
  · exact fun mi pending => absurd (idle.bcid mi) pending
  · intro mi
    rw [idle.users]
    rfl

theorem LockRun.kept {start : Comms} (idle : Idle all opens start)
    (run : LockRun all start trace s) : Kept all opens s trace := by
  induction run with
  | nil => exact idle.kept
  | @step trace s s' op outcome run legal exec ih =>
      obtain ⟨_, _, eq, kept⟩ := execLock_kept ih idle.nodup legal
      rw [exec] at eq
      cases eq
      exact kept

end Run

/-- In every state of every run there is at most one holder of a structure,
no wake-up is lost and every reference is accounted for; and every further
legal step can be taken. -/
theorem lock_fair {all : List Addr} {opens : Addr → Nat} {start s : Comms}
    {trace : List LockCall} (idle : Idle all opens start)
    (run : LockRun all start trace s) :
    Fair all opens s trace ∧ ∀ op : LockOp, op.Legal all s trace →
      ∃ s' outcome, s.execLock op = some (s', outcome) := by
  have kept := run.kept idle
  refine ⟨kept.fair, ?_⟩
  intro op legal
  obtain ⟨s', outcome, eq, _⟩ := execLock_kept kept idle.nodup legal
  exact ⟨s', outcome, eq⟩

def Comms.attached : Comms where
  miHead := none
  comm := fun mi =>
    { miPrev := .next mi
      miHead := none
      miNext := none
      miMid := 0
      miSid := 0
      miBcid := 0
      miUsers := 0
      miWaitSleep := false
      miWaitRq := false
      miWaitWq := false
      miQ := some mi
      miRefs := 2
      miWaiter := none
      miDev := 0 }
  pair := fun q => ⟨some q, 0⟩

theorem lock_fair_handover :
    ∃ trace s, LockRun [1, 2] Comms.attached trace s ∧
      trace.length = 3 ∧ Fair [1, 2] (fun _ => 1) s trace ∧
      EnabledSince trace ⟨2, true⟩ 1 := by
  have held := @LockRun.step [1, 2] Comms.attached _ _ _
    (.acquire 1 ⟨1, true⟩) _ .nil ⟨by decide, 1, rfl, rfl⟩ rfl
  have refused := @LockRun.step _ _ _ _ _ (.acquire 1 ⟨2, true⟩) _ held
    ⟨by decide, 2, rfl, rfl⟩ rfl
  have released := @LockRun.step _ _ _ _ _ (.release 1 ⟨1, true⟩) _ refused
    (show _ ∈ _ by decide) rfl
  refine ⟨_, _, released, rfl, (lock_fair ?_ released).1, .inl (by decide)⟩
  exact ⟨by decide, fun _ => rfl, fun _ => rfl, fun _ => rfl, fun _ => rfl⟩

end OpenSS7.Mps
