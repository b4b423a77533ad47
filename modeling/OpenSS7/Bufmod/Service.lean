import Mathlib.Algebra.BigOperators.Group.List.Basic
import Mathlib.Data.List.Forall2
import Mathlib.Data.List.ReduceOption
import Mathlib.Data.Nat.Cast.WithTop
import OpenSS7.Lib.PriorityList

/-!
The service procedures of the buffering module.
-/

namespace OpenSS7.Bufmod

open PriorityList

/-- The types that the module tells apart; the others are below `QPCTL` or
not. -/
inductive DbType where
  | mData
  | mIoctl
  | mIocdata
  | mPcsig
  | normal
  | high
deriving DecidableEq

def DbType.control : DbType → Bool
  | .mIocdata | .mPcsig | .high => true
  | _ => false

structure Msg where
  dbType : DbType
  band : Nat
  blocks : List Nat
  csum : Nat
  /-- The `sbh_drops` of each record, where it has a header. -/
  records : List (Option Nat)
  /-- What `mi_timer_valid` says of a timer. -/
  valid : Bool
deriving DecidableEq

namespace Msg

def cls (mp : Msg) : WithTop ℕ := if mp.dbType.control then ⊤ else (mp.band : ℕ)

/-- `bufmod_msgsizelast`. -/
def msgsizelast (mp : Msg) : Nat := mp.blocks.sum

/-- `dp` is linked behind the last block. -/
def link (mp dp : Msg) : Msg :=
  { mp with
    blocks := mp.blocks ++ dp.blocks
    csum := mp.csum + dp.csum
    records := mp.records ++ dp.records }

def addDrops (n : Nat) (mp : Msg) : Msg :=
  { mp with
    csum := mp.csum + n
    records := match mp.records with
      | some drops :: rest => some (drops + n) :: rest
      | records => records }

end Msg

abbrev Queue := { q : List Msg // Ordered Msg.cls q }

/-- The flow control ahead, band by band. -/
abbrev Blocked := Nat → Bool

def putbq (mp : Msg) (q : List Msg) : List Msg := requeue Msg.cls mp q

def putq (mp : Msg) (q : List Msg) : List Msg := enqueue Msg.cls mp q

def Msg.passes (blocked : Blocked) (mp : Msg) : Bool :=
  mp.dbType.control || !blocked mp.band

/-- `bufmod_wsrv`: what it passes on and leaves, unless it goes on after so many
messages. An M_IOCTL that the module serves may come back from `mi_copyin`. -/
def wsrv (blocked : Blocked) (returns : Msg → Bool) :
    Nat → List Msg → Option (List Msg × List Msg)
  | 0, _ => none
  | _ + 1, [] => some ([], [])
  | fuel + 1, mp :: q =>
      match mp.dbType with
      | .mIoctl => wsrv blocked returns fuel
          (if returns mp then putq { mp with dbType := .mIocdata } q else q)
      | .mIocdata => wsrv blocked returns fuel q
      | _ =>
          if mp.passes blocked then
            (wsrv blocked returns fuel q).map fun r => (mp :: r.1, r.2)
          -- The `break` leaves the switch only.
          else wsrv blocked returns fuel (putbq mp q)

structure Sb where
  chunk : Int
  deferChunk : Bool
  noDrops : Bool
  ticks : Nat
  frcvd : Bool
  sdrops : Nat
deriving DecidableEq

def gather (chunk : Int) (mp : Msg) (mlen : Nat) :
    List Msg → Msg × List Msg × Bool
  | [] => (mp, [], true)
  | dp :: q =>
      if dp.dbType = .mData ∧ mlen + dp.msgsizelast ≤ chunk then
        gather chunk (mp.link dp) (mlen + dp.msgsizelast) q
      else (mp, putbq dp q, false)

/-- The locals of `bufmod_rsrv` with the queue, what was passed on, and whether
the timer was started. -/
structure Rsrv where
  sb : Sb
  chunk : Int
  partialOk : Bool
  mr : Bool
  q : List Msg
  out : List (Option Msg)
  timer : Bool
deriving DecidableEq

namespace Rsrv

def chunkUp (r : Rsrv) (mp : Msg) : Msg × Rsrv × Bool :=
  if r.chunk = 0 then (mp, r, false)
  else if r.sb.deferChunk && !r.sb.frcvd then
    (mp, { r with sb := { r.sb with frcvd := true }, partialOk := false },
      false)
  else if mp.msgsizelast < r.chunk then
    let (mp, q, dry) := gather r.chunk mp mp.msgsizelast r.q
    if dry && !r.partialOk then
      (mp, { r with q := q, timer := r.timer || decide (0 < r.sb.ticks) }, true)
    else
      (mp, { r with
        sb := { r.sb with frcvd := false }, partialOk := false, q := q }, false)
  else
    (mp, { r with sb := { r.sb with frcvd := false }, partialOk := false },
      false)

def send (blocked : Blocked) (r : Rsrv) (mp : Msg) : Rsrv × Bool :=
  let mp := mp.addDrops r.sb.sdrops
  let r := { r with sb := { r.sb with sdrops := 0 } }
  if blocked 0 = false then
    ({ r with
      out := r.out ++ some mp :: if r.mr then [none] else []
      mr := false }, true)
  else if r.sb.noDrops = false then
    ({ r with sb := { r.sb with sdrops := mp.csum } }, true)
  else ({ r with q := putbq mp r.q }, false)

/-- One turn of the loop, with the message that `getq` gives. -/
def turn (blocked : Blocked) (r : Rsrv) (mp : Msg) : Rsrv × Bool :=
  match mp.dbType with
  | .mData =>
      match r.chunkUp mp with
      | (mp, r, true) => ({ r with q := putbq mp r.q }, false)
      | (mp, r, false) => r.send blocked mp
  | .mPcsig =>
      ({ r with sb := { r.sb with frcvd := r.sb.frcvd && !mp.valid } }, true)
  | _ =>
      if mp.passes blocked then ({ r with out := r.out ++ [some mp] }, true)
      else ({ r with q := putbq mp r.q }, false)

def loop (blocked : Blocked) : Nat → Rsrv → Option Rsrv
  | 0, _ => none
  | fuel + 1, r =>
      match r.q with
      | [] => some r
      | mp :: q =>
          match turn blocked { r with q := q } mp with
          | (r, true) => loop blocked fuel r
          | (r, false) => some r

end Rsrv

/-- `bufmod_rsrv`; an M_READ brings a chunk size of its own. -/
def rsrv (blocked : Blocked) (sb : Sb) (mread : Option Int) (q : List Msg)
    (fuel : Nat) : Option Rsrv :=
  Rsrv.loop blocked fuel
    ⟨sb, mread.getD sb.chunk, true, mread.isSome, q, [], false⟩

structure Made (members : List Msg) (mp : Msg) : Prop where
  first : ∃ m rest, members = m :: rest ∧ mp.dbType = m.dbType ∧
    mp.band = m.band ∧ (rest ≠ [] → ∀ m ∈ members, m.dbType = .mData)
  blocks : mp.blocks = members.flatMap Msg.blocks

inductive Fate where
  | passed
  | dropped
  | served
deriving DecidableEq

def Orderly (may : Fate → Msg → Prop) (q out left : List Msg) : Prop :=
  ∃ (done : List (Fate × List Msg)) (rest : List (List Msg)),
    q = done.flatMap Prod.snd ++ rest.flatten ∧
    List.Forall₂ Made
      ((done.filter fun g => decide (g.1 = .passed)).map Prod.snd) out ∧
    List.Forall₂ Made rest left ∧ ∀ g ∈ done, ∀ m ∈ g.2, may g.1 m

theorem Made.single (mp : Msg) : Made [mp] mp :=
  ⟨⟨mp, [], rfl, rfl, rfl, fun none => absurd rfl none⟩, by simp⟩

theorem Made.addDrops {members : List Msg} {mp : Msg} (made : Made members mp)
    (n : Nat) : Made members (mp.addDrops n) :=
  ⟨made.first, made.blocks⟩

theorem Made.link {members : List Msg} {mp dp : Msg} (made : Made members mp)
    (data : ∀ m ∈ members, m.dbType = .mData) (also : dp.dbType = .mData) :
    Made (members ++ [dp]) (mp.link dp) := by
  obtain ⟨m, rest, rfl, type, band, -⟩ := made.first
  refine ⟨⟨m, rest ++ [dp], rfl, type, band, fun _ m member => ?_⟩, ?_⟩
  · rcases List.mem_append.mp member with member | member
    · exact data m member
    · rw [List.mem_singleton.mp member]
      exact also
  · rw [Msg.link, made.blocks, List.flatMap_append]
    simp

section Orderly

variable {may : Fate → Msg → Prop} {members q out left : List Msg} {mp : Msg}

theorem made_self (q : List Msg) :
    List.Forall₂ Made (q.map fun m => [m]) q := by
  induction q with
  | nil => exact .nil
  | cons m q ih => exact .cons (Made.single m) ih

theorem Orderly.stop (made : Made members mp) :
    Orderly may (members ++ q) [] (mp :: q) :=
  ⟨[], members :: q.map fun m => [m], by simp [List.flatten_eq_flatMap,
    List.flatMap_map], .nil, .cons made (made_self q), nofun⟩

theorem Orderly.nil : Orderly may [] [] [] :=
  ⟨[], [], rfl, .nil, .nil, nofun⟩

theorem Orderly.pass (made : Made members mp)
    (allowed : ∀ m ∈ members, may .passed m) (rest : Orderly may q out left) :
    Orderly may (members ++ q) (mp :: out) left := by
  obtain ⟨done, rest, rfl, passed, stays, all⟩ := rest
  refine ⟨(.passed, members) :: done, rest, by simp, ?_, stays, ?_⟩
  · exact .cons made passed
  · exact List.forall_mem_cons.mpr ⟨allowed, all⟩

theorem Orderly.skip {fate : Fate} (other : fate ≠ .passed)
    (allowed : ∀ m ∈ members, may fate m) (rest : Orderly may q out left) :
    Orderly may (members ++ q) out left := by
  obtain ⟨done, rest, rfl, passed, stays, all⟩ := rest
  refine ⟨(fate, members) :: done, rest, by simp, ?_, stays, ?_⟩
  · simpa [other] using passed
  · exact List.forall_mem_cons.mpr ⟨allowed, all⟩

end Orderly

section Rsrv

variable {blocked : Blocked} {q : List Msg} {mp : Msg}

theorem putbq_first {members : List Msg} (made : Made members mp)
    (ordered : Ordered Msg.cls (members ++ q)) : putbq mp q = mp :: q := by
  obtain ⟨m, rest, rfl, type, band, -⟩ := made.first
  have cls : mp.cls = m.cls := by
    unfold Msg.cls
    rw [type, band]
  refine requeue_first fun e member => ?_
  rw [cls]
  exact (List.pairwise_cons.mp ordered).1 e (List.mem_append_right _ member)

theorem gather_made {chunk : Int} {mlen : Nat} {members : List Msg}
    (ordered : Ordered Msg.cls q) (made : Made members mp)
    (data : ∀ m ∈ members, m.dbType = .mData) :
    ∃ more, q = more ++ (gather chunk mp mlen q).2.1 ∧
      Made (members ++ more) (gather chunk mp mlen q).1 ∧
      ∀ m ∈ members ++ more, m.dbType = .mData := by
  induction q generalizing mp mlen members with
  | nil =>
      unfold gather
      exact ⟨[], rfl, by simpa using made, by simpa using data⟩
  | cons dp q ih =>
      unfold gather
      split
      case isTrue fits =>
        have linked := made.link data fits.1
        obtain ⟨more, eq, made, data⟩ := @ih _ (mlen + dp.msgsizelast) _
          (List.pairwise_cons.mp ordered).2 linked (by
            intro m member
            rcases List.mem_append.mp member with member | member
            · exact data m member
            · rw [List.mem_singleton.mp member]
              exact fits.1)
        rw [List.append_assoc] at made data
        exact ⟨dp :: more, congrArg (dp :: ·) eq, made, data⟩
      case isFalse =>
        refine ⟨[], ?_, by simpa using made, by simpa using data⟩
        exact (putbq_first (Made.single dp) ordered).symm

def Rsrv.May (noDrops : Bool) : Fate → Msg → Prop
  | .passed, _ => True
  | .dropped, mp => noDrops = false ∧ mp.dbType = .mData
  | .served, mp => mp.dbType = .mPcsig

def Turned (q : List Msg) (r : Rsrv) (t : Rsrv × Bool) : Prop :=
  t.1.sb.noDrops = r.sb.noDrops ∧
    if t.2 then ∃ members sent, members ≠ [] ∧ q = members ++ t.1.q ∧
      t.1.out.reduceOption = r.out.reduceOption ++ sent ∧
      ∀ out left, Orderly (Rsrv.May r.sb.noDrops) t.1.q out left →
        Orderly (Rsrv.May r.sb.noDrops) q (sent ++ out) left
    else t.1.out = r.out ∧ Orderly (Rsrv.May r.sb.noDrops) q [] t.1.q

variable {r : Rsrv}

theorem Made.ne_nil {members : List Msg} (made : Made members mp) :
    members ≠ [] := by
  obtain ⟨m, rest, rfl, -⟩ := made.first
  nofun

theorem send_turned {members : List Msg} (made : Made members mp)
    (data : ∀ m ∈ members, m.dbType = .mData)
    (ordered : Ordered Msg.cls (members ++ r.q)) :
    Turned (members ++ r.q) r (r.send blocked mp) := by
  have made := made.addDrops r.sb.sdrops
  unfold Rsrv.send
  simp only
  split
  case isTrue =>
    refine ⟨rfl, members, [_], made.ne_nil, rfl, ?_, fun out left rest =>
      rest.pass made fun _ _ => True.intro⟩
    cases r.mr <;> simp [List.reduceOption_append, List.reduceOption_cons_of_some,
      List.reduceOption_cons_of_none]
  case isFalse =>
    split
    case isTrue drops =>
      refine ⟨rfl, members, [], made.ne_nil, rfl, by simp, fun out left rest =>
        ?_⟩
      exact @Orderly.skip _ members _ _ _ .dropped nofun
        (fun m member => ⟨drops, data m member⟩) rest
    case isFalse =>
      refine ⟨rfl, rfl, ?_⟩
      rw [putbq_first made ordered]
      exact Orderly.stop made

theorem chunkUp_made (data : mp.dbType = .mData)
    (ordered : Ordered Msg.cls (mp :: r.q)) :
    ∃ members, mp :: r.q = members ++ (r.chunkUp mp).2.1.q ∧
      Made members (r.chunkUp mp).1 ∧
      (∀ m ∈ members, m.dbType = .mData) ∧
      (r.chunkUp mp).2.1.sb.noDrops = r.sb.noDrops ∧
      (r.chunkUp mp).2.1.out = r.out := by
  have alone : ∀ m ∈ [mp], m.dbType = .mData := by simpa using data
  unfold Rsrv.chunkUp
  split
  · exact ⟨[mp], rfl, Made.single mp, alone, rfl, rfl⟩
  split
  · exact ⟨[mp], rfl, Made.single mp, alone, rfl, rfl⟩
  split
  · obtain ⟨more, eq, made, all⟩ := @gather_made r.q mp r.chunk
      mp.msgsizelast [mp] (List.pairwise_cons.mp ordered).2 (Made.single mp)
      alone
    simp only
    split
    · exact ⟨mp :: more, congrArg (mp :: ·) eq, made, all, rfl, rfl⟩
    · exact ⟨mp :: more, congrArg (mp :: ·) eq, made, all, rfl, rfl⟩
  · exact ⟨[mp], rfl, Made.single mp, alone, rfl, rfl⟩

theorem turn_turned (ordered : Ordered Msg.cls (mp :: r.q)) :
    Turned (mp :: r.q) r (r.turn blocked mp) := by
  have other : Turned (mp :: r.q) r
      (if mp.passes blocked then ({ r with out := r.out ++ [some mp] }, true)
        else ({ r with q := putbq mp r.q }, false)) := by
    split
    · refine ⟨rfl, [mp], [mp], nofun, rfl, ?_, fun out left rest =>
        rest.pass (Made.single mp) fun _ _ => True.intro⟩
      simp [List.reduceOption_append]
    · refine ⟨rfl, rfl, ?_⟩
      rw [putbq_first (Made.single mp) ordered]
      exact Orderly.stop (Made.single mp)
  unfold Rsrv.turn
  split
  case h_1 data =>
    obtain ⟨members, eq, made, all, drops, out⟩ := chunkUp_made data ordered
    generalize r.chunkUp mp = chunked at eq made drops out
    obtain ⟨mp', r', waits⟩ := chunked
    simp only at eq made drops out
    rw [eq] at ordered ⊢
    cases waits with
    | true =>
        refine ⟨drops, out, ?_⟩
        simp only
        rw [putbq_first made ordered]
        exact Orderly.stop made
    | false =>
        have sent := @send_turned blocked mp' r' members made all ordered
        unfold Turned at sent ⊢
        rw [← drops, ← out]
        exact sent
  case h_2 signal =>
    refine ⟨rfl, [mp], [], nofun, rfl, by simp, fun out left rest => ?_⟩
    exact @Orderly.skip _ [mp] _ _ _ .served nofun
      (fun m member => List.mem_singleton.mp member ▸ signal) rest
  case h_3 => exact other

theorem loop_orderly {fuel : Nat} (enough : r.q.length < fuel)
    (ordered : Ordered Msg.cls r.q) :
    ∃ r' out, r.loop blocked fuel = some r' ∧
      r'.out.reduceOption = r.out.reduceOption ++ out ∧
      Orderly (Rsrv.May r.sb.noDrops) r.q out r'.q := by
  induction fuel generalizing r with
  | zero => exact absurd enough (Nat.not_lt_zero _)
  | succ fuel ih =>
      unfold Rsrv.loop
      obtain ⟨sb, chunk, partialOk, mr, q, sent, timer⟩ := r
      cases q with
      | nil => exact ⟨_, [], rfl, by simp, Orderly.nil⟩
      | cons mp q =>
          have turned := @turn_turned blocked mp
            ⟨sb, chunk, partialOk, mr, q, sent, timer⟩ ordered
          simp only
          generalize Rsrv.turn blocked _ mp = t at turned
          obtain ⟨r', goes⟩ := t
          obtain ⟨drops, turned⟩ := turned
          cases goes with
          | false =>
              obtain ⟨out, orderly⟩ := turned
              refine ⟨r', [], rfl, ?_, orderly⟩
              rw [List.append_nil]
              exact congrArg List.reduceOption out
          | true =>
              obtain ⟨members, more, nonempty, eq, out, rest⟩ := turned
              have shorter : r'.q.length < fuel := by
                have length := congrArg List.length eq
                have := List.length_pos_of_ne_nil nonempty
                simp only [List.length_cons, List.length_append] at length
                simp only [List.length_cons] at enough
                omega
              have suffix : Ordered Msg.cls r'.q := by
                change Ordered Msg.cls (mp :: q) at ordered
                rw [eq] at ordered
                exact (List.pairwise_append.mp ordered).2.1
              obtain ⟨last, final, ends, outs, orderly⟩ := ih shorter suffix
              refine ⟨last, more ++ final, ends, ?_, rest _ _ ?_⟩
              · rw [outs, out, List.append_assoc]
              · rw [← drops]
                exact orderly

end Rsrv

section Wsrv

variable {blocked : Blocked} {returns : Msg → Bool}

/-- What `bufmod_wsrv` does not leave on the queue. -/
def Msg.moves (blocked : Blocked) (mp : Msg) : Bool :=
  decide (mp.dbType = .mIoctl) || mp.passes blocked

def Msg.served (mp : Msg) : Bool :=
  decide (mp.dbType = .mIoctl ∨ mp.dbType = .mIocdata)

def Wsrv.May : Fate → Msg → Prop
  | .passed, _ => True
  | .dropped, _ => False
  | .served, mp => mp.served = true

def Msg.turns (mp : Msg) : Nat := if mp.dbType = .mIoctl then 2 else 1

theorem wsrv_stuck {q : List Msg} (stuck : ∃ m ∈ q, m.moves blocked = false)
    (fuel : Nat) : wsrv blocked returns fuel q = none := by
  induction fuel generalizing q with
  | zero => rfl
  | succ fuel ih =>
      obtain ⟨m, member, still⟩ := stuck
      cases q with
      | nil => cases member
      | cons mp q =>
          have later (moves : mp.moves blocked = true) : m ∈ q := by
            rcases List.mem_cons.mp member with rfl | member
            · rw [moves] at still
              cases still
            · exact member
          unfold wsrv
          split
          case h_1 ioctl =>
            have member := later (by simp [Msg.moves, ioctl])
            apply ih
            split
            · exact ⟨m, enqueue_perm.mem_iff.mpr
                (List.mem_cons_of_mem _ member), still⟩
            · exact ⟨m, member, still⟩
          case h_2 iocdata =>
            exact ih ⟨m, later (by simp [Msg.moves, Msg.passes, iocdata,
              DbType.control]), still⟩
          case h_3 =>
            split
            case isTrue passes =>
              rw [ih ⟨m, later (by simp [Msg.moves, passes]), still⟩]
              rfl
            case isFalse =>
              exact ih ⟨m, requeue_perm.mem_iff.mpr member, still⟩

theorem wsrv_all {q : List Msg} {fuel : Nat}
    (all : ∀ m ∈ q, m.moves blocked = true)
    (enough : (q.map Msg.turns).sum < fuel) :
    wsrv blocked returns fuel q =
      some (q.filter fun m => !m.served, []) := by
  induction fuel generalizing q with
  | zero => exact absurd enough (Nat.not_lt_zero _)
  | succ fuel ih =>
      cases q with
      | nil => rfl
      | cons mp q =>
          obtain ⟨moves, rest⟩ := List.forall_mem_cons.mp all
          rw [List.map_cons, List.sum_cons] at enough
          unfold wsrv
          split
          case h_1 ioctl =>
            rw [List.filter_cons_of_neg (by simp [Msg.served, ioctl])]
            have two : mp.turns = 2 := if_pos ioctl
            split
            · rw [ih]
              · unfold putq enqueue
                rw [List.filter_append, List.filter_cons_of_neg
                  (by simp [Msg.served]), ← List.filter_append,
                  List.takeWhile_append_dropWhile]
              · intro m member
                rcases List.mem_cons.mp (enqueue_perm.mem_iff.mp member) with
                  rfl | member
                · rfl
                · exact rest m member
              · unfold putq
                rw [(enqueue_perm.map Msg.turns).sum_eq, List.map_cons,
                  List.sum_cons]
                have one : Msg.turns { mp with dbType := .mIocdata } = 1 := rfl
                omega
            · exact ih rest (by omega)
          case h_2 iocdata =>
            rw [List.filter_cons_of_neg (by simp [Msg.served, iocdata])]
            have one : mp.turns = 1 := if_neg (by rw [iocdata]; nofun)
            exact ih rest (by omega)
          case h_3 ioctl iocdata =>
            change mp.dbType ≠ .mIoctl at ioctl
            change mp.dbType ≠ .mIocdata at iocdata
            have passes : mp.passes blocked = true := by
              simpa [Msg.moves, ioctl] using moves
            have one : mp.turns = 1 := if_neg ioctl
            rw [if_pos passes, ih rest (by omega),
              List.filter_cons_of_pos (by simp [Msg.served, ioctl, iocdata])]
            rfl

theorem orderly_all (q : List Msg) :
    Orderly Wsrv.May q (q.filter fun m => !m.served) [] := by
  induction q with
  | nil => exact Orderly.nil
  | cons mp q ih =>
      cases served : mp.served with
      | true =>
          rw [List.filter_cons_of_neg (by simp [served])]
          exact @Orderly.skip _ [mp] _ _ _ .served nofun
            (fun m member => List.mem_singleton.mp member ▸ served) ih
      | false =>
          rw [List.filter_cons_of_pos (by simp [served])]
          exact ih.pass (Made.single mp) fun _ _ => True.intro

end Wsrv

/-- Both service procedures end and keep order exactly where no message on the
write queue is held up by flow control. -/
theorem service_orderly_iff (blockedW blockedR : Blocked)
    (returns : Msg → Bool) (sb : Sb) (mread : Option Int) (qw qr : Queue) :
    ((∃ fuel out left, wsrv blockedW returns fuel qw.1 = some (out, left) ∧
        Orderly Wsrv.May qw.1 out left) ∧
      ∃ fuel r, rsrv blockedR sb mread qr.1 fuel = some r ∧
        Orderly (Rsrv.May sb.noDrops) qr.1 r.out.reduceOption r.q) ↔
      ∀ m ∈ qw.1, m.moves blockedW = true := by
  constructor
  · rintro ⟨⟨fuel, out, left, ends, -⟩, -⟩
    intro m member
    by_contra still
    rw [wsrv_stuck ⟨m, member, Bool.eq_false_iff.mpr still⟩] at ends
    cases ends
  · intro all
    refine ⟨⟨_, _, _, wsrv_all all (Nat.lt_succ_self _), orderly_all qw.1⟩,
      qr.1.length + 1, ?_⟩
    obtain ⟨r, out, ends, outs, orderly⟩ := @loop_orderly blockedR
      ⟨sb, mread.getD sb.chunk, true, mread.isSome, qr.1, [], false⟩ _
      (Nat.lt_succ_self _) qr.2
    refine ⟨r, ends, ?_⟩
    rw [outs]
    exact orderly

theorem wsrv_not_ending :
    ¬ ∀ (blocked : Blocked) (returns : Msg → Bool) (qw : Queue),
      ∃ fuel out left, wsrv blocked returns fuel qw.1 = some (out, left) ∧
        Orderly Wsrv.May qw.1 out left := by
  intro claim
  obtain ⟨fuel, out, left, ends, -⟩ := claim (fun _ => true) (fun _ => false)
    ⟨[⟨.mData, 0, [1], 0, [], false⟩], List.pairwise_singleton _ _⟩
  rw [wsrv_stuck ⟨_, List.mem_singleton_self _, rfl⟩] at ends
  cases ends

end OpenSS7.Bufmod
