import Mathlib.Data.List.Forall2
import OpenSS7.Mps.CopyBlocks

/-!
A transparent ioctl and an I_STR ioctl side by side: what a driver that uses
the copy helpers sees of them, and what the user gets.
-/

namespace OpenSS7.Mps

namespace Copying

def Pends (arg : Nat) (t s : DataBlk) : Prop :=
  t.octets = s.octets ∧
    t.pointer = if s.pointer ≠ 0 then s.pointer else arg

inductive Privs (held : Prop) (arg : Nat) (user : List DataBlk) :
    PrivBlk → PrivBlk → Prop
  | implicit (tid sid : Nat) (cnt : BitVec 16) {tr sr : Option Int}
      (holds : held) (given : user ≠ []) (rvals : tr = none ∨ tr = sr) :
      Privs held arg user ⟨tid, ⟨arg, arg, .copyIn, cnt, tr⟩, []⟩
        ⟨sid, ⟨0, 0, .copyIn, cnt, sr⟩, user⟩
  | explicit (tid sid uaddr : Nat) (cnt : BitVec 16) {tr sr : Option Int}
      (rvals : tr = none ∨ tr = sr) :
      Privs held arg user ⟨tid, ⟨arg, uaddr, .copyIn, cnt, tr⟩, []⟩
        ⟨sid, ⟨0, uaddr, .copyIn, cnt, sr⟩, []⟩
  | out (tid sid tu su : Nat) (cnt : BitVec 16) {tr sr : Option Int}
      {tp sp : List DataBlk} (rvals : tr = none ∨ tr = sr)
      (pending : List.Forall₂ (Pends arg) tp sp) :
      Privs held arg user ⟨tid, ⟨arg, tu, .copyOut, cnt, tr⟩, tp⟩
        ⟨sid, ⟨0, su, .copyOut, cnt, sr⟩, sp⟩

theorem Privs.rvals {held : Prop} {arg : Nat} {user : List DataBlk}
    {tp sp : PrivBlk} (privs : Privs held arg user tp sp) :
    tp.mi.rval = none ∨ tp.mi.rval = sp.mi.rval := by
  cases privs with
  | implicit tid sid cnt holds given rvals => exact rvals
  | explicit tid sid uaddr cnt rvals => exact rvals
  | out tid sid tu su cnt rvals pending => exact rvals

theorem Privs.dir {held : Prop} {arg : Nat} {user : List DataBlk}
    {tp sp : PrivBlk} (privs : Privs held arg user tp sp) :
    tp.mi.dir = sp.mi.dir := by
  cases privs <;> rfl

theorem Privs.cnt {held : Prop} {arg : Nat} {user : List DataBlk}
    {tp sp : PrivBlk} (privs : Privs held arg user tp sp) :
    tp.mi.cnt = sp.mi.cnt := by
  cases privs <;> rfl

inductive Paired (held : Prop) (arg : Nat) (user : List DataBlk) :
    IocMsg → IocMsg → Prop
  | ioctl (id size : Nat) (octets : Data) (rval : Int) (holds : held) :
      Paired held arg user
        ⟨.ioctl, transparent, size, rval, none, [⟨id, octets, arg⟩]⟩
        ⟨.ioctl, msgdsize user, size, rval, none, user⟩
  | iocdata (tsize ssize : Nat) (trval srval : Int) {tp sp : PrivBlk}
      {td sd : List DataBlk} (privs : Privs held arg user tp sp)
      (data : td.map DataBlk.octets = sd.map DataBlk.octets) :
      Paired held arg user ⟨.iocdata, 0, tsize, trval, some tp, td⟩
        ⟨.iocdata, 0, ssize, srval, some sp, sd⟩

structure Both (held : Prop) (arg : Nat) (user : List DataBlk)
    (t s : Copying) : Prop where
  paired : Paired held arg user t.mp s.mp
  tkept : t.sent = .kept
  skept : s.sent = .kept

theorem Both.priv {held : Prop} {arg : Nat} {user : List DataBlk}
    {t s : Copying} (both : Both held arg user t s) {tp : PrivBlk}
    (there : t.mp.priv = some tp) : ∃ sp, s.mp.priv = some sp := by
  obtain ⟨⟨tm, _, _, _, _⟩, ⟨sm, _, _, _, _⟩⟩ := t, s
  obtain ⟨paired, tkept, skept⟩ := both
  cases paired with
  | ioctl id size octets rval holds => exact nomatch there
  | iocdata tsize ssize trval srval privs data => exact ⟨_, rfl⟩

section Prepare

variable {heap : Heap} {held : Prop} {arg : Nat} {user : List DataBlk} {t s : Copying}
  (room : ∀ id, heap.allocb id = true) (short : msgdsize user ≠ transparent)

include room

theorem linkCopyout_mp (c : Copying) (bp : PrivBlk) (uaddr : Nat)
    (octets : Data) :
    let pointer := if uaddr ≠ 0 then uaddr else bp.mi.caddr
    let db := ⟨c.fresh, octets, pointer⟩
    (c.linkCopyout heap bp uaddr octets true).2.mp =
      { c.mp with cont := [], priv := some { bp with cont := bp.cont ++ [db] } } ∧
    (c.linkCopyout heap bp uaddr octets true).2.sent = c.sent := by
  unfold linkCopyout
  simp only [room]
  exact ⟨rfl, rfl⟩

omit room in
theorem setRval_both (both : Both held arg user t s) (rval : Int) :
    Both held arg user (t.miCopySetRval rval) (s.miCopySetRval rval) := by
  obtain ⟨⟨tm, _, _, _, _⟩, ⟨sm, _, _, _, _⟩⟩ := t, s
  obtain ⟨paired, tkept, skept⟩ := both
  cases paired with
  | ioctl id size octets old holds =>
      exact ⟨.ioctl id size octets rval holds, tkept, skept⟩
  | iocdata tsize ssize trval srval privs data =>
      refine ⟨.iocdata tsize ssize trval srval ?_ data, tkept, skept⟩
      cases privs with
      | implicit tid sid cnt holds given rvals =>
          exact .implicit tid sid cnt holds given (.inr rfl)
      | explicit tid sid uaddr cnt rvals =>
          exact .explicit tid sid uaddr cnt (.inr rfl)
      | out tid sid tu su cnt rvals pending =>
          exact .out tid sid tu su cnt (.inr rfl) pending

theorem link_both (tc sc : Copying) {tp sp : PrivBlk} (uaddr : Nat)
    (octets : Data) (tkept : tc.sent = .kept) (skept : sc.sent = .kept)
    (types : tc.mp.type = .iocdata ∧ tc.mp.count = 0 ∧ sc.mp.type = .iocdata ∧
      sc.mp.count = 0)
    (dir : tp.mi.dir = .copyOut) (privs : Privs held arg user tp sp)  :
    Both held arg user (tc.linkCopyout heap tp uaddr octets true).2
      (sc.linkCopyout heap sp uaddr octets true).2 := by
  obtain ⟨tmp, tsent⟩ := linkCopyout_mp room tc tp uaddr octets
  obtain ⟨smp, ssent⟩ := linkCopyout_mp room sc sp uaddr octets
  obtain ⟨ttype, tcount, stype, scount⟩ := types
  refine ⟨?_, tsent.trans tkept, ssent.trans skept⟩
  rw [tmp, smp]
  dsimp only
  rw [ttype, tcount, stype, scount]
  refine .iocdata _ _ _ _ ?_ rfl
  cases privs with
  | implicit tid sid cnt holds given rvals => exact nomatch dir
  | explicit tid sid uaddr cnt rvals => exact nomatch dir
  | out tid sid tu su cnt rvals pending =>
      refine .out tid sid tu su cnt rvals ?_
      refine List.rel_append pending (.cons ⟨rfl, ?_⟩ .nil)
      by_cases given : uaddr = 0
      · simp [given]
      · simp [given]

include short

theorem copyoutAlloc_both (both : Both held arg user t s) (uaddr : Nat)
    (octets : Data) :
    Both held arg user (t.miCopyoutAlloc heap uaddr octets true).2
      (s.miCopyoutAlloc heap uaddr octets true).2 := by
  obtain ⟨⟨tm, tsent, _, _, _⟩, ⟨sm, ssent, _, _, _⟩⟩ := t, s
  obtain ⟨paired, tkept, skept⟩ := both
  cases paired with
  | ioctl id size block old holds =>
      have other : (msgdsize user = transparent) = False := eq_false short
      simp only [miCopyoutAlloc, if_pos, other, room]
      refine link_both room _ _ uaddr octets tkept skept ⟨rfl, rfl, rfl, rfl⟩
        rfl ?_
      exact .out id _ 0 0 0 (.inl rfl) .nil
  | iocdata tsize ssize trval srval privs data =>
      cases privs with
      | implicit tid sid cnt holds given rvals =>
          exact link_both room _ _ uaddr octets tkept skept
            ⟨rfl, rfl, rfl, rfl⟩ rfl (.out tid sid arg 0 cnt rvals .nil)
      | explicit tid sid address cnt rvals =>
          exact link_both room _ _ uaddr octets tkept skept
            ⟨rfl, rfl, rfl, rfl⟩ rfl (.out tid sid address address cnt rvals .nil)
      | out tid sid tu su cnt rvals pending =>
          exact link_both room _ _ uaddr octets tkept skept
            ⟨rfl, rfl, rfl, rfl⟩ rfl (.out tid sid tu su cnt rvals pending)

theorem prepare_both (both : Both held arg user t s) (preps : List Prep) :
    Both held arg user (t.prepare heap preps) (s.prepare heap preps) := by
  unfold prepare
  induction preps generalizing t s with
  | nil => exact both
  | cons prep preps ih =>
      rw [List.foldl_cons, List.foldl_cons, if_pos both.tkept,
        if_pos both.skept]
      apply ih
      cases prep with
      | setRval rval => exact setRval_both both rval
      | copyoutAlloc uaddr octets =>
          exact copyoutAlloc_both room short both uaddr octets

end Prepare

end Copying

def Prep.allocs : Prep → Bool
  | .setRval _ => false
  | .copyoutAlloc _ _ => true

def lastRval (preps : List Prep) (rval : Option Int) : Option Int :=
  preps.foldl
    (fun rval prep =>
      match prep with
      | .setRval set => some set
      | .copyoutAlloc _ _ => rval)
    rval

structure Turn.Closes (turn : Turn) (rval : Option Int) (value : Int) :
    Prop where
  ends : turn.final = .done 0 ∨
    turn.final = .copyout ∧ ∀ prep ∈ turn.preps, prep.allocs = false
  rval : lastRval turn.preps rval = some value

def Holds (memory : UserMemory) (arg : Nat) (user : List DataBlk) : Prop :=
  ∀ db rest, user = db :: rest →
    db.octets = memory.read arg db.octets.length

def firstLength : List DataBlk → Nat
  | [] => 0
  | db :: _ => db.octets.length

theorem firstLength_le (blks : List DataBlk) :
    firstLength blks ≤ msgdsize blks := by
  cases blks with
  | nil => exact Nat.zero_le 0
  | cons db rest => simp [firstLength, msgdsize]

theorem pastEnd_eq {memory : UserMemory} {arg : Nat} {octets : Data}
    (heap : Heap) {offset len : Nat}
    (held : octets = memory.read arg octets.length)
    (inside : offset + len ≤ octets.length) :
    pastEnd heap octets offset len = memory.read (arg + offset) len := by
  unfold pastEnd UserMemory.read
  refine List.map_congr_left fun i below => ?_
  have there : offset + i < octets.length :=
    Nat.lt_of_lt_of_le (Nat.add_lt_add_left (List.mem_range.mp below) offset)
      inside
  have same := congrArg (·[offset + i]?) held
  simp only [UserMemory.read, List.getElem?_map, List.getElem?_range there,
    Option.map_some] at same
  rw [List.getD_eq_getElem?_getD, same, Option.getD_some, Nat.add_assoc]

def doneValue (err rval : Int) : Int :=
  if err ≠ 0 then -(err.natAbs : Int) else rval

theorem write_nil (memory : UserMemory) (addr : Nat) :
    memory.write addr [] = memory := by
  funext a
  simp [UserMemory.write]

namespace UserIoctl

structure Ended (t s : UserIoctl) : Prop where
  result : ∃ value, t.result = some value ∧ s.result = some value
  memory : t.memory = s.memory
  seen : t.seen = s.seen ∨ ∃ last, t.seen = s.seen ++ [last] ∧ last.data = none

structure Going (arg : Nat) (user : List DataBlk) (t s : UserIoctl) : Prop where
  both : Copying.Both (Holds s.memory arg user) arg user t.copying s.copying
  memory : t.memory = s.memory
  seen : t.seen = s.seen
  open_t : t.result = none
  open_s : s.result = none

structure Closing (driver : Driver) (t s : UserIoctl) : Prop where
  open_t : t.result = none
  state : t.copying.mp.type = .iocdata ∧ t.copying.mp.count = 0 ∧
    t.copying.mp.cont ≠ [] ∧ t.copying.sent = .kept
  closes : ∃ bp value, t.copying.mp.priv = some bp ∧ bp.mi.dir = .copyOut ∧
    bp.cont = [] ∧ s.result = some value ∧
      (driver (t.seen ++
        [⟨Copying.miCopyCase .copyOut bp.mi.cnt, none⟩])).Closes bp.mi.rval value
  memory : t.memory = s.memory
  seen : t.seen = s.seen

def Together (driver : Driver) (arg : Nat) (user : List DataBlk)
    (t s : UserIoctl) : Prop :=
  Going arg user t s ∨ Ended t s ∨ Closing driver t s

section Finals

variable {heap : Heap} {arg : Nat} {user : List DataBlk} {t s : Copying}
  {memory : UserMemory} {seen : List Copying.Seen}

theorem pass_answer (form : IoctlForm) (c : Copying) (err rval : Int) :
    let u := pass form ⟨c.answer err rval, memory, seen, none⟩
    u.result = some (doneValue err rval) ∧ u.memory = memory ∧
      u.seen = seen := by
  unfold doneValue
  by_cases fails : err = 0
  · subst fails
    cases form with
    | trans => exact ⟨rfl, rfl, rfl⟩
    | str dp => exact ⟨rfl, write_nil memory dp, rfl⟩
  · have size : err.natAbs ≠ 0 := Int.natAbs_ne_zero.mpr fails
    simp [pass, Copying.answer, strdoioctl, fails]

theorem miCopyDone_ioctl {c : Copying} (ioctl : c.mp.type = .ioctl)
    (err : Int) : c.miCopyDone heap err = c.answer err c.mp.rval := by
  simp only [Copying.miCopyDone, ioctl]

theorem miCopyDone_iocdata {c : Copying} {bp : PrivBlk}
    (iocdata : c.mp.type = .iocdata) (success : c.mp.count = 0)
    (priv : c.mp.priv = some bp) (err : Int) :
    c.miCopyDone heap err =
      c.dropPriv.answer err (bp.mi.rval.getD heap.rval) := by
  have same : c.dropPriv.mp.count = 0 := by
    simp only [Copying.dropPriv, priv, Copying.free, success]
  simp only [Copying.miCopyDone, iocdata, priv, same, if_true]

theorem answers_ended (dp : Nat) (tc sc : Copying) (err : Int)
    {trval srval : Int} (rvals : err = 0 → trval = srval) :
    Ended (pass .trans ⟨tc.answer err trval, memory, seen, none⟩)
      (pass (.str dp) ⟨sc.answer err srval, memory, seen, none⟩) := by
  obtain ⟨tresult, tmemory, tseen⟩ :=
    @pass_answer memory seen .trans tc err trval
  obtain ⟨sresult, smemory, sseen⟩ :=
    @pass_answer memory seen (.str dp) sc err srval
  have values : doneValue err trval = doneValue err srval := by
    unfold doneValue
    by_cases fails : err = 0
    · rw [rvals fails]
    · rw [if_pos fails, if_pos fails]
  exact ⟨⟨_, tresult, sresult.trans (congrArg some values.symm)⟩,
    tmemory.trans smemory.symm, .inl (tseen.trans sseen.symm)⟩

theorem done_ended {held : Prop} (dp : Nat)
    (both : Copying.Both held arg user t s) (err : Int)
    (set : err = 0 → ∀ bp, t.mp.priv = some bp → bp.mi.rval ≠ none) :
    Ended (pass .trans ⟨t.miCopyDone heap err, memory, seen, none⟩)
      (pass (.str dp) ⟨s.miCopyDone heap err, memory, seen, none⟩) := by
  obtain ⟨⟨tm, _, _, _, _⟩, ⟨sm, _, _, _, _⟩⟩ := t, s
  obtain ⟨paired, tkept, skept⟩ := both
  cases paired with
  | ioctl id size octets rval holds =>
      rw [miCopyDone_ioctl rfl, miCopyDone_ioctl rfl]
      exact answers_ended dp _ _ err fun _ => rfl
  | @iocdata tsize ssize trval srval tp sp td sd privs data =>
      rw [miCopyDone_iocdata rfl rfl rfl, miCopyDone_iocdata rfl rfl rfl]
      refine answers_ended dp _ _ err fun success => ?_
      have given := set success tp rfl
      have rvals : tp.mi.rval = none ∨ tp.mi.rval = sp.mi.rval := privs.rvals
      rw [rvals.resolve_left given]

theorem pass_copyinReq (form : IoctlForm) {c : Copying} (uaddr len : Nat)
    (bp : PrivBlk) (empty : c.mp.cont = []) :
    let u := pass form ⟨c.copyinReq uaddr len bp, memory, seen, none⟩
    let data := ⟨c.fresh, memory.read uaddr len, 0⟩
    u.copying.mp =
        ⟨.iocdata, 0, len, 0, some bp, if len = 0 then [] else [data]⟩ ∧
      u.copying.sent = .kept ∧ u.memory = memory ∧ u.seen = seen ∧
      u.result = none := by
  by_cases zero : len = 0
  · subst zero
    simp [pass, strdoioctl, Copying.copyinReq, respond, empty]
  · simp [pass, strdoioctl, Copying.copyinReq, respond, Copying.dropCont,
      Copying.free, zero]

theorem copyinReqs_go (dp uaddr len : Nat) {tbp sbp : PrivBlk}
    (tempty : t.mp.cont = []) (sempty : s.mp.cont = [])
    (privs : Copying.Privs (Holds memory arg user) arg user tbp sbp) :
    Going arg user
      (pass .trans ⟨t.copyinReq uaddr len tbp, memory, seen, none⟩)
      (pass (.str dp) ⟨s.copyinReq uaddr len sbp, memory, seen, none⟩) := by
  obtain ⟨tmp, tsent, tmemory, tseen, tnone⟩ :=
    @pass_copyinReq memory seen .trans t uaddr len tbp tempty
  obtain ⟨smp, ssent, smemory, sseen, snone⟩ :=
    @pass_copyinReq memory seen (.str dp) s uaddr len sbp sempty
  refine ⟨⟨?_, tsent, ssent⟩, tmemory.trans smemory.symm,
    tseen.trans sseen.symm, tnone, snone⟩
  rw [tmp, smp, smemory]
  refine .iocdata _ _ _ _ privs ?_
  split <;> rfl

section Copyin

variable (room : ∀ id, heap.allocb id = true)
  (short : msgdsize user ≠ transparent)
  (both : Copying.Both (Holds memory arg user) arg user t s)

include room short both

theorem copyin_goes (dp uaddr len : Nat)
    (fits : s.mp.type = .ioctl → 0 < len ∧ len ≤ firstLength s.mp.cont) :
    Going arg user
      (pass .trans ⟨t.miCopyin heap uaddr len, memory, seen, none⟩)
      (pass (.str dp) ⟨s.miCopyin heap uaddr len, memory, seen, none⟩) := by
  obtain ⟨⟨tm, _, _, _, _⟩, ⟨sm, _, _, _, _⟩⟩ := t, s
  obtain ⟨paired, tkept, skept⟩ := both
  cases paired with
  | ioctl id size octets rval holds =>
      obtain ⟨some_len, (inside : len ≤ firstLength user)⟩ := fits rfl
      cases user with
      | nil => exact absurd inside (Nat.not_le.mpr some_len)
      | cons db rest =>
          have enough : ¬ msgdsize (db :: rest) < len := by
            have := firstLength_le (db :: rest)
            omega
          have data := pastEnd_eq heap (holds db rest rfl)
            ((Nat.zero_add len).symm ▸ inside)
          simp only [Copying.miCopyin, if_pos, if_neg short, if_neg enough,
            room, Bool.true_eq_false, if_false]
          obtain ⟨tmp, tsent, tmemory, tseen, tnone⟩ :=
            @pass_copyinReq memory seen .trans
              ⟨⟨.ioctl, transparent, size, rval, none, []⟩, _, _, _, _⟩ arg len
              ⟨id, ⟨arg, arg, .copyIn, 1, none⟩, []⟩ rfl
          rw [if_neg (Nat.pos_iff_ne_zero.mp some_len)] at tmp
          refine ⟨⟨?_, tsent, rfl⟩, tmemory, tseen, tnone, rfl⟩
          rw [tmp]
          refine .iocdata _ _ _ _ ?_ (congrArg (fun o => [o]) data.symm)
          exact .implicit id _ 1 holds (List.cons_ne_nil db rest) (.inl rfl)
  | @iocdata tsize ssize trval srval tp sp td sd privs data =>
      refine copyinReqs_go dp uaddr len rfl rfl ?_
      cases privs with
      | implicit tid sid cnt holds given rvals =>
          exact .explicit tid sid uaddr (cnt + 1) rvals
      | explicit tid sid _ cnt rvals =>
          exact .explicit tid sid uaddr (cnt + 1) rvals
      | out tid sid _ _ cnt rvals pending =>
          exact .explicit tid sid uaddr (cnt + 1) rvals

end Copyin

section CopyinN

variable {driver : Driver} (room : ∀ id, heap.allocb id = true) (address : arg ≠ 0)
  (both : Copying.Both (Holds memory arg user) arg user t s)

include room address both

theorem copyinN_goes (dp offset len : Nat)
    (fits : ∀ bp, s.mp.priv = some bp → bp.mi.dir = .copyIn →
      bp.mi.uaddr = 0 → bp.cont ≠ [] →
        0 < len ∧ offset + len ≤ firstLength bp.cont) :
    Together driver arg user
      (pass .trans ⟨t.miCopyinN heap offset len, memory, seen, none⟩)
      (pass (.str dp) ⟨s.miCopyinN heap offset len, memory, seen, none⟩) := by
  have fails := @done_ended heap arg user t s memory seen _ dp both eproto nofun
  obtain ⟨⟨tm, _, _, _, _⟩, ⟨sm, _, _, _, _⟩⟩ := t, s
  obtain ⟨paired, tkept, skept⟩ := both
  cases paired with
  | ioctl id size octets rval holds => exact .inr (.inl fails)
  | @iocdata tsize ssize trval srval tp sp td sd privs data =>
      cases privs with
      | out tid sid tu su cnt rvals pending => exact .inr (.inl fails)
      | explicit tid sid uaddr cnt rvals =>
          by_cases null : uaddr = 0
          · subst null
            exact .inr (.inl fails)
          · left
            simp only [Copying.miCopyinN, ne_eq, not_true_eq_false, if_false,
              null, not_false_eq_true, if_true]
            exact copyinReqs_go dp _ len rfl rfl
              (.explicit tid sid uaddr (cnt + 1) rvals)
      | implicit tid sid cnt holds given rvals =>
          obtain ⟨some_len, inside⟩ := fits _ rfl rfl rfl given
          cases user with
          | nil => exact absurd rfl given
          | cons db rest =>
              have enough : ¬ msgdsize (db :: rest) < offset + len := by
                have := firstLength_le (db :: rest)
                change offset + len ≤ firstLength (db :: rest) at inside
                omega
              have read := pastEnd_eq heap (holds db rest rfl) inside
              left
              simp only [Copying.miCopyinN, ne_eq, not_true_eq_false, if_false,
                address, not_false_eq_true, if_true, if_neg enough, room,
                Bool.true_eq_false]
              obtain ⟨tmp, tsent, tmemory, tseen, tnone⟩ :=
                @pass_copyinReq memory seen .trans
                  (Copying.dropCont ⟨⟨.iocdata, 0, tsize, trval, _, td⟩,
                    _, _, _, _⟩) (arg + offset) len
                  ⟨tid, ⟨arg, arg, .copyIn, cnt + 1, _⟩, []⟩ rfl
              rw [if_neg (Nat.pos_iff_ne_zero.mp some_len)] at tmp
              refine ⟨⟨?_, tsent, rfl⟩, tmemory, tseen, tnone, rfl⟩
              rw [tmp]
              refine .iocdata _ _ _ _ ?_ (congrArg (fun o => [o]) read.symm)
              exact .implicit tid sid (cnt + 1) holds given rvals

end CopyinN

section Copyout

variable {driver : Driver} (address : arg ≠ 0)
  (both : Copying.Both (Holds memory arg user) arg user t s)

include address both

theorem copyout_goes
    (set : ∀ sbp tbp, s.mp.priv = some sbp → t.mp.priv = some tbp →
      sbp.cont = [] ∨ sbp.mi.dir = .copyIn → tbp.mi.rval ≠ none)
    (closes : ∀ sbp tbp db rest, s.mp.priv = some sbp →
      t.mp.priv = some tbp → sbp.mi.dir = .copyOut → sbp.cont = db :: rest →
        db.pointer = 0 → rest = [] ∧
          (driver (seen ++
            [⟨Copying.miCopyCase .copyOut (sbp.mi.cnt + 1), none⟩])).Closes
              tbp.mi.rval s.mp.rval) :
    Together driver arg user
      (pass .trans ⟨t.miCopyout heap, memory, seen, none⟩)
      (pass (.str arg) ⟨s.miCopyout heap, memory, seen, none⟩) := by
  have fails := @done_ended heap arg user t s memory seen _ arg both
  obtain ⟨⟨tm, _, _, _, _⟩, ⟨sm, _, _, _, _⟩⟩ := t, s
  obtain ⟨paired, tkept, skept⟩ := both
  cases paired with
  | ioctl id size octets rval holds => exact .inr (.inl (fails eproto nofun))
  | @iocdata tsize ssize trval srval tp sp td sd privs data =>
      have nothing := fun none => fails 0 fun _ bp same =>
        set sp bp rfl same none
      cases privs with
      | implicit tid sid cnt holds given rvals =>
          have ended := nothing (.inr rfl)
          cases user with
          | nil => exact absurd rfl given
          | cons db rest => exact .inr (.inl ended)
      | explicit tid sid uaddr cnt rvals => exact .inr (.inl (nothing (.inr rfl)))
      | out tid sid tu su cnt rvals pending =>
          cases pending with
          | nil => exact .inr (.inl (nothing (.inl rfl)))
          | @cons tdb sdb tps sps pends pending =>
              obtain ⟨tid', toctets, tpointer⟩ := tdb
              obtain ⟨sid', soctets, spointer⟩ := sdb
              obtain ⟨(rfl : toctets = soctets), (pointer : tpointer = _)⟩ :=
                pends
              by_cases implicit : spointer = 0
              · rw [if_neg (not_not.mpr implicit)] at pointer
                subst implicit pointer
                obtain ⟨rfl, last⟩ := closes _ _ _ _ rfl rfl rfl rfl rfl
                cases pending
                simp only [Copying.miCopyout, ne_eq, address,
                  not_false_eq_true, if_true, not_true_eq_false, if_false,
                  reduceCtorEq]
                refine .inr (.inr ⟨rfl, ⟨rfl, rfl, List.cons_ne_nil _ _, rfl⟩,
                  ⟨_, _, rfl, rfl, rfl, rfl, last⟩, rfl, rfl⟩)
              · rw [if_pos implicit] at pointer
                subst pointer
                simp only [Copying.miCopyout, ne_eq, implicit,
                  not_false_eq_true, if_true, reduceCtorEq, if_false]
                refine .inl ⟨⟨?_, rfl, rfl⟩, rfl, rfl, rfl, rfl⟩
                refine .iocdata _ _ _ _ ?_ rfl
                exact .out tid sid tu su (cnt + 1) rvals pending

end Copyout

section Close

variable {driver : Driver} (room : ∀ id, heap.allocb id = true)

structure Out (c : Copying) (rval : Option Int) (cont : List DataBlk) :
    Prop where
  type : c.mp.type = .iocdata
  count : c.mp.count = 0
  sent : c.sent = .kept
  priv : ∃ bp, c.mp.priv = some bp ∧ bp.mi.dir = .copyOut ∧
    bp.mi.rval = rval ∧ bp.cont = cont

include room

theorem prep_out {c : Copying} {rval : Option Int} {cont : List DataBlk}
    (out : Out c rval cont) (prep : Prep) :
    ∃ more, Out (c.prep heap prep) (lastRval [prep] rval) (cont ++ more) ∧
      (prep.allocs = false → more = []) := by
  obtain ⟨⟨⟨_, _, size, flag, _, data⟩, _, fresh, freed, acks⟩, rfl, rfl,
    rfl, ⟨id, mi, pending⟩, rfl, dir, rfl, rfl⟩ := c, out
  cases prep with
  | setRval set =>
      refine ⟨[], ⟨rfl, rfl, rfl, _, rfl, dir, rfl, ?_⟩, fun _ => rfl⟩
      exact (List.append_nil pending).symm
  | copyoutAlloc uaddr octets =>
      obtain ⟨caddr, _, _, cnt, rval⟩ := mi
      dsimp only at dir
      subst dir
      obtain ⟨mp, sent⟩ := Copying.linkCopyout_mp room
        ⟨⟨.iocdata, 0, size, flag, _, data⟩, .kept, fresh, freed, acks⟩
        ⟨id, ⟨caddr, _, .copyOut, cnt, rval⟩, pending⟩ uaddr octets
      refine ⟨_, ⟨congrArg IocMsg.type mp, congrArg IocMsg.count mp, sent,
        _, congrArg IocMsg.priv mp, rfl, rfl, rfl⟩, nofun⟩

theorem prepare_out {c : Copying} {rval : Option Int} {cont : List DataBlk}
    (out : Out c rval cont) (preps : List Prep) :
    ∃ rest, Out (c.prepare heap preps) (lastRval preps rval) (cont ++ rest) ∧
      ((∀ prep ∈ preps, prep.allocs = false) → rest = []) := by
  unfold Copying.prepare
  induction preps generalizing c rval cont with
  | nil => exact ⟨[], (List.append_nil cont).symm ▸ out, fun _ => rfl⟩
  | cons prep preps ih =>
      rw [List.foldl_cons, if_pos out.sent]
      obtain ⟨more, next, none⟩ := prep_out room out prep
      obtain ⟨rest, out, last⟩ := ih next
      refine ⟨more ++ rest, List.append_assoc _ _ _ ▸ out, fun all => ?_⟩
      obtain ⟨first, others⟩ := List.forall_mem_cons.mp all
      rw [none first, last others]
      rfl

omit room in
theorem miCopyout_none {c : Copying} {bp : PrivBlk}
    (iocdata : c.mp.type = .iocdata) (priv : c.mp.priv = some bp)
    (none : bp.cont = []) : c.miCopyout heap = c.miCopyDone heap 0 := by
  simp only [Copying.miCopyout, iocdata, priv, none]

theorem closes_ends {c : Copying} {rval : Option Int} (out : Out c rval [])
    {turn : Turn} {value : Int} (closes : turn.Closes rval value) :
    let u := pass .trans ⟨c.turn heap turn, memory, seen, none⟩
    u.result = some value ∧ u.memory = memory ∧ u.seen = seen := by
  obtain ⟨rest, prepared, none⟩ := prepare_out room out turn.preps
  obtain ⟨type, count, sent, bp, priv, dir, left, cont⟩ := prepared
  have final : (c.prepare heap turn.preps).final heap turn.final =
      (c.prepare heap turn.preps).miCopyDone heap 0 := by
    obtain done | ⟨copyout, all⟩ := closes.ends
    · rw [done]
      rfl
    · rw [copyout]
      exact miCopyout_none type priv (cont.trans (none all))
  unfold Copying.turn
  rw [if_pos sent, final, miCopyDone_iocdata type count priv, left,
    closes.rval]
  exact pass_answer .trans _ 0 value

theorem closing_ends {t s : UserIoctl} (closing : Closing driver t s) :
    Ended (t.advance heap driver .trans) s := by
  obtain ⟨⟨⟨⟨_, _, size, flag, _, cont⟩, _, fresh, freed, acks⟩, memory, seen,
    _⟩, s⟩ := t, s
  obtain ⟨rfl, ⟨rfl, rfl, given, rfl⟩,
    ⟨⟨id, ⟨caddr, uaddr, dir, cnt, rv⟩, pending⟩, value, rfl, dir', none,
      result, closes⟩, rfl, rfl⟩ := closing
  dsimp only at dir' none
  subst dir' none
  cases cont with
  | nil => exact absurd rfl given
  | cons db rest =>
      obtain ⟨tresult, tmemory, tseen⟩ :=
        @closes_ends heap s.memory
          (s.seen ++ [⟨Copying.miCopyCase .copyOut cnt, .none⟩]) room
          ⟨⟨.iocdata, 0, size, flag,
            some ⟨id, ⟨caddr, uaddr, .copyOut, cnt, rv⟩, []⟩, db :: rest⟩,
            .kept, fresh, freed, acks⟩ rv ⟨rfl, rfl, rfl, _, rfl, rfl, rfl, rfl⟩ _ value closes
      exact ⟨⟨value, tresult, result⟩, tmemory, .inr ⟨_, tseen, rfl⟩⟩

end Close

end Finals

def observed (heap : Heap) (u : UserIoctl) : List Copying.Seen :=
  match u.copying.mp.type with
  | .ioctl => u.seen
  | _ => u.seen ++ (u.copying.miCopyState heap).1.toList

structure Proper (driver : Driver) (seen : List Copying.Seen) (t s : Copying)
    (final : Final) : Prop where
  copyin : ∀ uaddr len, final = .copyin uaddr len → s.mp.type = .ioctl →
    0 < len ∧ len ≤ firstLength s.mp.cont
  copyinN : ∀ offset len bp, final = .copyinN offset len →
    s.mp.priv = some bp → bp.mi.dir = .copyIn → bp.mi.uaddr = 0 →
      bp.cont ≠ [] → 0 < len ∧ offset + len ≤ firstLength bp.cont
  set : ∀ sbp tbp, s.mp.priv = some sbp → t.mp.priv = some tbp →
    final = .done 0 ∨
      final = .copyout ∧ (sbp.cont = [] ∨ sbp.mi.dir = .copyIn) →
        tbp.mi.rval ≠ none
  closes : ∀ sbp tbp db rest, final = .copyout → s.mp.priv = some sbp →
    t.mp.priv = some tbp → sbp.mi.dir = .copyOut → sbp.cont = db :: rest →
      db.pointer = 0 → rest = [] ∧
        (driver (seen ++
          [⟨Copying.miCopyCase .copyOut (sbp.mi.cnt + 1), none⟩])).Closes
            tbp.mi.rval s.mp.rval

def Met (heap : Heap) (driver : Driver) (t s : UserIoctl) : Prop :=
  s.result = none →
    let seen := s.observed heap
    let turn := driver seen
    Proper driver seen (t.copying.prepare heap turn.preps)
      (s.copying.prepare heap turn.preps) turn.final

section Steps

variable {heap : Heap} {driver : Driver} {arg : Nat} {user : List DataBlk}
  {t s : Copying} {memory : UserMemory} {seen : List Copying.Seen}
  (room : ∀ id, heap.allocb id = true) (short : msgdsize user ≠ transparent)
  (address : arg ≠ 0)

include room short address

theorem turn_together
    (both : Copying.Both (Holds memory arg user) arg user t s)
    (proper : Proper driver seen (t.prepare heap (driver seen).preps)
      (s.prepare heap (driver seen).preps) (driver seen).final) :
    Together driver arg user
      (pass .trans ⟨t.turn heap (driver seen), memory, seen, none⟩)
      (pass (.str arg) ⟨s.turn heap (driver seen), memory, seen, none⟩) := by
  have prepared := Copying.prepare_both room short both (driver seen).preps
  unfold Copying.turn
  rw [if_pos prepared.tkept, if_pos prepared.skept]
  cases final : (driver seen).final with
  | copyin uaddr len =>
      rw [final] at proper
      exact .inl (copyin_goes room short prepared arg uaddr len
        (proper.copyin uaddr len rfl))
  | copyinN offset len =>
      rw [final] at proper
      exact copyinN_goes room address prepared arg offset len
        fun bp => proper.copyinN offset len bp rfl
  | copyout =>
      rw [final] at proper
      exact copyout_goes address prepared
        (fun sbp tbp given there none => proper.set sbp tbp given there
          (.inr ⟨rfl, none⟩))
        fun sbp tbp db rest => proper.closes sbp tbp db rest rfl
  | done err =>
      rw [final] at proper
      refine .inr (.inl (done_ended arg prepared err fun success bp there => ?_))
      subst success
      obtain ⟨sbp, given⟩ := prepared.priv there
      exact proper.set sbp bp given there (.inl rfl)

theorem going_together {t s : UserIoctl} (going : Going arg user t s)
    (met : Met heap driver t s) :
    Together driver arg user (t.advance heap driver .trans)
      (s.advance heap driver (.str arg)) := by
  obtain ⟨⟨tm, _, tfresh, tfreed, tacks⟩, memory, seen, _⟩ := t
  obtain ⟨⟨sm, _, sfresh, sfreed, sacks⟩, _, _, _⟩ := s
  obtain ⟨⟨paired, rfl, rfl⟩, rfl, rfl, rfl, rfl⟩ := going
  have proper := met rfl
  have both := fun mt ms paired => @Copying.Both.mk (Holds memory arg user)
    arg user ⟨mt, .kept, tfresh, tfreed, tacks⟩
    ⟨ms, .kept, sfresh, sfreed, sacks⟩ paired rfl rfl
  cases paired with
  | ioctl id size octets rval holds =>
      exact turn_together room short address
        (both _ _ (.ioctl id size octets rval holds)) proper
  | @iocdata tsize ssize trval srval tp sp td sd privs data =>
      have paired := both _ _ (.iocdata tsize ssize trval srval privs data)
      cases sd with
      | nil =>
          cases td with
          | nil => exact .inr (.inl (done_ended arg paired eproto nofun))
          | cons db rest => exact nomatch data
      | cons sdb srest =>
          cases td with
          | nil => exact nomatch data
          | cons tdb trest =>
              have same : (tdb :: trest).flatMap DataBlk.octets =
                  (sdb :: srest).flatMap DataBlk.octets := by
                rw [List.flatMap_def, List.flatMap_def, data]
              let shown (bp : PrivBlk) (blks : List DataBlk) : Copying.Seen :=
                ⟨Copying.miCopyCase bp.mi.dir bp.mi.cnt,
                  if bp.mi.dir = .copyIn then
                    some (blks.flatMap DataBlk.octets)
                  else none⟩
              have shows : shown tp (tdb :: trest) = shown sp (sdb :: srest) := by
                dsimp only [shown]
                rw [privs.dir, privs.cnt, same]
              change Together driver arg user
                (pass .trans ⟨Copying.turn heap _
                  (driver (seen ++ [shown tp (tdb :: trest)])), memory,
                  seen ++ [shown tp (tdb :: trest)], none⟩) _
              rw [shows]
              exact turn_together room short address paired proper

theorem advance_together {t s : UserIoctl}
    (together : Together driver arg user t s) (met : Met heap driver t s) :
    Together driver arg user (t.advance heap driver .trans)
      (s.advance heap driver (.str arg)) := by
  obtain going | ended | closing := together
  · exact going_together room short address going met
  · obtain ⟨value, told, ended_s⟩ := ended.result
    have still : t.advance heap driver .trans = t := by simp [advance, told]
    have still_s : s.advance heap driver (.str arg) = s := by
      simp [advance, ended_s]
    rw [still, still_s]
    exact .inr (.inl ended)
  · obtain ⟨bp, value, -, -, -, ended_s, -⟩ := closing.closes
    have still_s : s.advance heap driver (.str arg) = s := by
      simp [advance, ended_s]
    rw [still_s]
    exact .inr (.inl (closing_ends room closing))

end Steps

inductive Alike (heap : Heap) (driver : Driver) (t s : UserIoctl) : Prop
  | going (open_t : t.result = none) (open_s : s.result = none)
      (memory : t.memory = s.memory) (seen : t.seen = s.seen)
  | ended (ended : Ended t s)
  | copied (open_t : t.result = none) (memory : t.memory = s.memory)
      (seen : t.seen = s.seen) (ends : Ended (t.advance heap driver .trans) s)

section Runs

variable {heap : Heap} (room : ∀ id, heap.allocb id = true)

include room

theorem Together.alike {driver : Driver} {arg : Nat} {user : List DataBlk}
    {t s : UserIoctl} (together : Together driver arg user t s) :
    Alike heap driver t s := by
  obtain going | ended | closing := together
  · exact .going going.open_t going.open_s going.memory going.seen
  · exact .ended ended
  · exact .copied closing.open_t closing.memory closing.seen
      (closing_ends room closing)

omit room in
theorem octets_userBlks (user : List Data) :
    (userBlks user).map DataBlk.octets = user := by
  unfold userBlks
  rw [List.map_map]
  exact List.zipIdx_map_fst 1 user

omit room in
theorem msgdsize_userBlks (user : List Data) :
    msgdsize (userBlks user) = user.flatten.length := by
  have lengths : msgdsize (userBlks user) =
      (((userBlks user).map DataBlk.octets).map List.length).sum := by
    rw [List.map_map]
    rfl
  rw [lengths, octets_userBlks, List.length_flatten]

omit room in
theorem take_read (memory : UserMemory) (addr m n : Nat) :
    (memory.read addr (m + n)).take m = memory.read addr m := by
  unfold UserMemory.read
  rw [← List.map_take, List.take_range, Nat.min_eq_left (Nat.le_add_right m n)]

omit room in
theorem issued_going {memory : UserMemory} {arg : Nat} {user : List Data}
    (given : user.flatten = memory.read arg user.flatten.length) :
    Going arg (userBlks user) (issueTrans memory arg)
      (issueStr memory user) := by
  refine ⟨⟨.ioctl 1 0 [] 0 ?_, rfl, rfl⟩, rfl, rfl, rfl, rfl⟩
  intro db rest first
  have octets := octets_userBlks user
  rw [first, List.map_cons] at octets
  rw [← octets, List.flatten_cons, List.length_append] at given
  have taken := congrArg (List.take db.octets.length) given
  rwa [List.take_left, take_read] at taken

/-- A transparent and an I_STR ioctl are the same to a driver and to the user,
as long as the driver's calls are proper, but for the state after the implicit
copyout that acknowledges the I_STR ioctl. -/
theorem forms_alike (driver : Driver) (memory : UserMemory) {arg : Nat}
    {user : List Data} (address : arg ≠ 0)
    (given : user.flatten = memory.read arg user.flatten.length)
    (short : user.flatten.length < transparent) (n : Nat)
    (met : ∀ m < n, Met heap driver
      ((issueTrans memory arg).turns heap driver .trans m)
      ((issueStr memory user).turns heap driver (.str arg) m)) :
    let t := (issueTrans memory arg).turns heap driver .trans n
    let s := (issueStr memory user).turns heap driver (.str arg) n
    Alike heap driver t s ∧ t.Released ∧ s.Released := by
  have small : msgdsize (userBlks user) ≠ transparent := by
    rw [msgdsize_userBlks]
    exact Nat.ne_of_lt short
  have together : ∀ m ≤ n, Together driver arg (userBlks user)
      ((issueTrans memory arg).turns heap driver .trans m)
      ((issueStr memory user).turns heap driver (.str arg) m) := by
    intro m
    induction m with
    | zero => exact fun _ => .inl (issued_going given)
    | succ m ih =>
        intro below
        have next := advance_together room small address
          (ih (Nat.le_of_succ_le below)) (met m below)
        unfold turns at next ⊢
        rwa [Function.iterate_succ_apply', Function.iterate_succ_apply']
  exact ⟨(together n (Nat.le_refl n)).alike room,
    run_released heap driver .trans (issueTrans_settled memory arg) n,
    run_released heap driver (.str arg) (issueStr_settled memory user) n⟩

end Runs

def exchanging : Driver := fun seen =>
  match seen.length with
  | 0 => ⟨[], .copyin 0 2⟩
  | 1 => ⟨[.setRval 0, .copyoutAlloc 0 [7]], .copyout⟩
  | _ => ⟨[], .copyout⟩

def cleanHeap : Heap := ⟨0, fun _ => 0, fun _ => true⟩

def userData : UserMemory := fun a =>
  if a = 100 then 1 else if a = 101 then 2 else 0

def exchangeTrans : UserIoctl :=
  (issueTrans userData 100).turns cleanHeap exchanging .trans 3

def exchangeStr : UserIoctl :=
  (issueStr userData [[1, 2]]).turns cleanHeap exchanging (.str 100) 3

theorem exchange_alike :
    Alike cleanHeap exchanging exchangeTrans exchangeStr ∧
      exchangeTrans.Released ∧ exchangeStr.Released := by
  refine forms_alike (fun _ => rfl) exchanging userData (by decide) (by decide)
    (by decide) 3 fun m below => ?_
  match m, below with
  | 0, _ =>
      refine fun _ => ⟨?_, ?_, ?_, ?_⟩
      · rintro _ _ ⟨⟩ -
        decide
      · exact nofun
      · exact nofun
      · exact nofun
  | 1, _ =>
      refine fun _ => ⟨nofun, nofun, ?_, ?_⟩
      · rintro sbp tbp - ⟨⟩ -
        decide
      · rintro sbp tbp db rest - ⟨⟩ ⟨⟩ - ⟨⟩ -
        exact ⟨rfl, .inr ⟨rfl, nofun⟩, rfl⟩
  | 2, _ => exact nofun

theorem exchange_differs :
    exchangeTrans.result = some 0 ∧ exchangeStr.result = some 0 ∧
      exchangeTrans.memory 100 = 7 ∧ exchangeStr.memory 100 = 7 ∧
      exchangeTrans.seen =
        exchangeStr.seen ++ [⟨Copying.miCopyCase .copyOut 2, none⟩] ∧
      exchangeTrans.seen ≠ exchangeStr.seen := by
  decide

end UserIoctl

end OpenSS7.Mps
