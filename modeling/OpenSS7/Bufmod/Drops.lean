import OpenSS7.Bufmod.Service
import OpenSS7.Lib.Runs

/-!
What the buffering module drops, and how it counts that.
-/

namespace OpenSS7.Bufmod

open PriorityList

structure Opts where
  noHeader : Bool
  snap : Nat
  hiwat : Nat

structure Mod where
  rsrv : Rsrv
  running : Bool
  mread : Option Int
  pdrops : Nat
  received : Nat

inductive Event where
  | rput (blocks : List Nat)
  | mread (count : Int)
  | timer (valid : Bool) (blocks : List Nat)
  | rsrv
  | turn (blocked : Blocked)

/-- The lengths of the blocks after the loop of `bufmod_adjsize`. -/
def truncate (snap : Nat) : Nat → List Nat → List Nat
  | _, [] => []
  | mlen, dlen :: bs =>
      if snap = 0 ∨ mlen + dlen ≤ snap then
        dlen :: truncate snap (mlen + dlen) bs
      else (snap - mlen) :: truncate snap snap bs

def Opts.mlen (o : Opts) (blocks : List Nat) : Nat :=
  (truncate o.snap 0 blocks).sum

/-- With the header, and padding to the next `ulong`. -/
def Opts.tlen (o : Opts) (blocks : List Nat) : Nat :=
  24 + (o.mlen blocks + 7) / 8 * 8

def Mod.qCount (s : Mod) : Nat := (s.rsrv.q.map Msg.msgsizelast).sum

/-- The test of `bufmod_adjsize`: `?:` binds its condition weaker than `+`. -/
def Mod.busy (o : Opts) (s : Mod) (blocks : List Nat) : Bool :=
  !s.rsrv.sb.noDrops &&
    if s.qCount + o.noHeader.toNat ≠ 0 then decide (o.mlen blocks ≠ 0)
    else decide (o.hiwat ≤ o.tlen blocks)

def Mod.adjusted (o : Opts) (s : Mod) (blocks : List Nat) : Msg :=
  let bs := truncate o.snap 0 blocks
  ⟨.mData, 0,
    if o.noHeader then bs else 24 :: bs ++ [o.tlen blocks - 24 - bs.sum],
    1 + s.pdrops, [if o.noHeader then none else some s.pdrops], false⟩

def Mod.rput (o : Opts) (s : Mod) (blocks : List Nat) : Mod :=
  let s := { s with received := s.received + 1 }
  if s.busy o blocks then { s with pdrops := s.pdrops + 1 }
  else
    { s with
      rsrv := { s.rsrv with q := putq (s.adjusted o blocks) s.rsrv.q }
      pdrops := 0 }

def Mod.step (o : Opts) (s : Mod) : Event → Mod
  | .rput blocks => s.rput o blocks
  | .mread count => { s with mread := some count }
  | .timer valid blocks =>
      { s with rsrv := { s.rsrv with
        q := putq ⟨.mPcsig, 0, blocks, 0, [], valid⟩ s.rsrv.q } }
  | .rsrv =>
      if s.running then s
      else
        { s with
          rsrv := { s.rsrv with
            chunk := s.mread.getD s.rsrv.sb.chunk
            partialOk := true
            mr := s.mread.isSome }
          running := true
          mread := none }
  | .turn blocked =>
      match s.running, s.rsrv.q with
      | true, mp :: q =>
          let t := Rsrv.turn blocked { s.rsrv with q := q } mp
          { s with rsrv := t.1, running := t.2 }
      | _, _ => { s with running := false }

def Mod.start (sb : Sb) : Mod :=
  ⟨⟨{ sb with frcvd := false, sdrops := 0 }, 0, false, false, [], [], false⟩,
    false, none, 0, 0⟩

def Msg.reported (mp : Msg) : Nat := (mp.records.map fun d => d.getD 0).sum

def Msg.packets (mp : Msg) : Nat := mp.records.length

def Rsrv.total (f : Msg → Nat) (r : Rsrv) : Nat :=
  (r.out.reduceOption.map f).sum + (r.q.map f).sum

def Mod.Accounts (s : Mod) : Prop :=
  s.received = s.rsrv.total Msg.packets + s.rsrv.total Msg.reported +
    s.pdrops + s.rsrv.sb.sdrops

def Right (o : Opts) (s : Mod) (event : Event) : Prop :=
  (match event with
    | .rput blocks => s.busy o blocks = true →
        s.rsrv.sb.noDrops = false ∧ o.hiwat ≤ s.qCount +
          if o.noHeader then o.mlen blocks else o.tlen blocks
    | .turn blocked => (s.step o event).rsrv.total Msg.packets <
          s.rsrv.total Msg.packets →
        s.rsrv.sb.noDrops = false ∧ blocked 0 = true
    | _ => True) ∧
    (o.noHeader = false → (s.step o event).Accounts)

def Meets (o : Opts) (s : Mod) : Event → Prop
  | .rput blocks => s.rsrv.sb.noDrops = true ∨
      s.qCount + o.noHeader.toNat = 0 ∨ o.mlen blocks = 0 ∨
      o.hiwat ≤ s.qCount +
        if o.noHeader then o.mlen blocks else o.tlen blocks
  | _ => True

section Turns

variable {o : Opts} {r : Rsrv} {mp : Msg} {q : List Msg} {blocked : Blocked}

theorem sum_putbq (f : Msg → Nat) (mp : Msg) (q : List Msg) :
    ((putbq mp q).map f).sum = f mp + (q.map f).sum :=
  (requeue_perm.map f).sum_eq

/-- Only packets are counted; with headers `b_csum` counts them and the drops,
and the first packet has a header to report more. -/
structure Msg.Counted (o : Opts) (mp : Msg) : Prop where
  other : mp.dbType ≠ .mData → mp.records = []
  csum : o.noHeader = false → mp.dbType = .mData →
    mp.csum = mp.packets + mp.reported
  header : o.noHeader = false → mp.dbType = .mData →
    ∃ drops rest, mp.records = some drops :: rest

def Additive (f : Msg → Nat) : Prop := ∀ mp dp, f (mp.link dp) = f mp + f dp

theorem additive_packets : Additive Msg.packets := fun mp dp => by
  simp [Msg.packets, Msg.link]

theorem additive_reported : Additive Msg.reported := fun mp dp => by
  simp [Msg.reported, Msg.link]

theorem Msg.Counted.link {dp : Msg} (first : mp.Counted o) (next : dp.Counted o)
    (type : mp.dbType = .mData) (data : dp.dbType = .mData) :
    (mp.link dp).Counted o := by
  refine ⟨fun other => absurd type other, fun headers _ => ?_,
    fun headers _ => ?_⟩
  · rw [additive_packets, additive_reported]
    have one := first.csum headers type
    have two := next.csum headers data
    change mp.csum + dp.csum = _
    omega
  · obtain ⟨drops, rest, eq⟩ := first.header headers type
    exact ⟨drops, rest ++ dp.records, by rw [Msg.link, eq, List.cons_append]⟩

theorem Msg.Counted.addDrops (counted : mp.Counted o)
    (data : mp.dbType = .mData) (n : Nat) :
    (mp.addDrops n).Counted o ∧ (mp.addDrops n).packets = mp.packets ∧
      (o.noHeader = false →
        (mp.addDrops n).csum = mp.packets + mp.reported + n ∧
        (mp.addDrops n).reported = mp.reported + n) := by
  have packets : (mp.addDrops n).packets = mp.packets := by
    unfold Msg.packets Msg.addDrops
    simp only
    split <;> simp_all
  have more (headers : o.noHeader = false) :
      (mp.addDrops n).csum = mp.packets + mp.reported + n ∧
        (mp.addDrops n).reported = mp.reported + n := by
    obtain ⟨drops, rest, eq⟩ := counted.header headers data
    refine ⟨congrArg (· + n) (counted.csum headers data), ?_⟩
    unfold Msg.reported Msg.addDrops
    simp only [eq, List.map_cons, Option.getD_some, List.sum_cons]
    omega
  refine ⟨⟨fun other => absurd data other, fun headers _ => ?_,
    fun headers _ => ?_⟩, packets, more⟩
  · obtain ⟨csum, reported⟩ := more headers
    omega
  · obtain ⟨drops, rest, eq⟩ := counted.header headers data
    exact ⟨drops + n, rest, by simp only [Msg.addDrops, eq]⟩

structure Balanced (o : Opts) (blocked : Blocked) (mp : Msg) (r t : Rsrv) :
    Prop where
  counted : ∀ m ∈ t.q, m.Counted o
  noDrops : t.sb.noDrops = r.sb.noDrops
  sums : o.noHeader = false → t.total Msg.packets + t.total Msg.reported +
    t.sb.sdrops = mp.packets + mp.reported + r.total Msg.packets +
      r.total Msg.reported + r.sb.sdrops
  dropped : t.total Msg.packets < mp.packets + r.total Msg.packets →
    r.sb.noDrops = false ∧ blocked 0 = true

theorem Balanced.putbq {t : Rsrv} (counted : mp.Counted o)
    (all : ∀ m ∈ r.q, m.Counted o) (q : t.q = Bufmod.putbq mp r.q)
    (sb : t.sb = r.sb) (out : t.out = r.out) : Balanced o blocked mp r t := by
  have total (f : Msg → Nat) : t.total f = f mp + r.total f := by
    unfold Rsrv.total
    rw [q, out, sum_putbq]
    omega
  refine ⟨fun m member => ?_, by rw [sb], fun _ => ?_, fun less => ?_⟩
  · rw [q] at member
    rcases List.mem_cons.mp (requeue_perm.mem_iff.mp member) with rfl | member
    · exact counted
    · exact all m member
  · rw [total, total, sb]
    omega
  · rw [total] at less
    omega

end Turns

section Runs

variable {o : Opts} {s : Mod}

structure Mod.Sound (o : Opts) (s : Mod) : Prop where
  counted : ∀ m ∈ s.rsrv.q, m.Counted o
  accounts : o.noHeader = false → s.Accounts

theorem Mod.Sound.queue (sound : s.Sound o) {mp : Msg}
    (counted : mp.Counted o) :
    ∀ m ∈ putq mp s.rsrv.q, m.Counted o := by
  intro m member
  rcases List.mem_cons.mp (enqueue_perm.mem_iff.mp member) with rfl | member
  · exact counted
  · exact sound.counted m member

end Runs

end OpenSS7.Bufmod
