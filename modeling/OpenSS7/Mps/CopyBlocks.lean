import OpenSS7.Mps.Copying

/-!
The blocks of an ioctl that the copy helpers work on, and its answers: whatever
a driver does, each block is freed once, and the ioctl is answered once.
-/

namespace OpenSS7.Mps

namespace Copying

def privIds : Option PrivBlk → List Nat
  | none => []
  | some bp => bp.ids

def live (c : Copying) : List Nat :=
  (match c.sent with
    | .freed => []
    | _ => 0 :: blkIds c.mp.cont) ++ privIds c.mp.priv

def Balanced (c : Copying) : Prop :=
  (c.freed ++ c.live).Perm (List.range c.fresh)

inductive Passed : Copying → Prop
  | copied {c : Copying} {bp : PrivBlk} (gone : c.sent = .putq)
      (type : c.mp.type = .iocdata) (success : c.mp.count = 0)
      (priv : c.mp.priv = some bp) (acks : c.acks = 0) : Passed c
  | asked {c : Copying} {bp : PrivBlk} (gone : c.sent = .qreply)
      (type : c.mp.type = .copyin ∨ c.mp.type = .copyout)
      (priv : c.mp.priv = some bp) (acks : c.acks = 0) : Passed c
  | answered {c : Copying} (gone : c.sent = .qreply)
      (type : c.mp.type = .iocack ∨ c.mp.type = .iocnak)
      (priv : c.mp.priv = none) (acks : c.acks = 1) : Passed c

structure Accounted (c : Copying) : Prop where
  balanced : c.Balanced
  passed : c.Passed

structure Owned (c : Copying) : Prop where
  here : c.sent = .kept
  balanced : c.Balanced
  acks : c.acks = 0
  stage : c.mp.type = .ioctl ∧ c.mp.priv = none ∨
    c.mp.type = .iocdata ∧ c.mp.count = 0 ∧ ∃ bp, c.mp.priv = some bp

theorem Balanced.move {c c' : Copying} (balanced : c.Balanced)
    (same : ∀ id, (c'.freed ++ c'.live).count id +
      (List.range c.fresh).count id =
        (c.freed ++ c.live).count id + (List.range c'.fresh).count id) :
    c'.Balanced := by
  refine List.perm_iff_count.mpr fun id => ?_
  have held := balanced.count_eq id
  have moved := same id
  omega

theorem answer_accounted {c : Copying} (here : c.sent = .kept)
    (balanced : c.Balanced) (acks : c.acks = 0) (priv : c.mp.priv = none)
    (err rval : Int) : (c.answer err rval).Accounted := by
  refine ⟨balanced.move fun id => ?_, .answered rfl ?_ priv ?_⟩
  · simp only [answer, live, here]
  · by_cases fails : err = 0
    · exact .inl (if_neg (not_not.mpr fails))
    · exact .inr (if_pos fails)
  · exact congrArg (· + 1) acks

section Helpers

variable {heap : Heap} {c : Copying} (owned : c.Owned)

include owned

theorem miCopyDone_accounted (err : Int) :
    (c.miCopyDone heap err).Accounted := by
  obtain ⟨⟨type, count, size, rval, priv, cont⟩, _, fresh, freed, acks⟩ := c
  obtain ⟨rfl, balanced, rfl, ⟨rfl, rfl⟩ | ⟨rfl, rfl, bp, rfl⟩⟩ := owned
  · exact answer_accounted rfl balanced rfl rfl err rval
  · refine answer_accounted rfl (balanced.move fun id => ?_) rfl rfl err _
    simp [live, privIds, dropPriv, free, List.count_cons]
    omega

theorem miCopyDone_sent (err : Int) :
    (c.miCopyDone heap err).sent = .qreply := by
  obtain ⟨⟨type, count, size, rval, priv, cont⟩, _, fresh, freed, acks⟩ := c
  obtain ⟨rfl, balanced, rfl, ⟨rfl, rfl⟩ | ⟨rfl, rfl, bp, rfl⟩⟩ := owned
  · rfl
  · rfl

theorem miCopyin_accounted (uaddr len : Nat) :
    (c.miCopyin heap uaddr len).Accounted := by
  have fails := fun err => @miCopyDone_accounted heap _ owned err
  obtain ⟨⟨type, count, size, rval, priv, cont⟩, _, fresh, freed, acks⟩ := c
  obtain ⟨rfl, balanced, rfl, ⟨rfl, rfl⟩ | ⟨rfl, rfl, bp, rfl⟩⟩ := owned
  · cases cont with
    | nil => exact fails eproto
    | cons db rest =>
        dsimp only [miCopyin]
        split
        · refine ⟨balanced.move fun id => ?_, .asked rfl (.inl rfl) rfl rfl⟩
          simp [live, copyinReq, privIds, blkIds, PrivBlk.ids, List.count_cons]
        · split
          · exact fails copyEinval
          · split
            · exact fails enosr
            · split
              · refine miCopyDone_accounted
                  ⟨rfl, balanced.move fun id => ?_, rfl, .inl ⟨rfl, rfl⟩⟩ enosr
                simp [live, free, List.range_succ, List.count_cons]
                omega
              · refine ⟨balanced.move fun id => ?_,
                  .copied rfl rfl rfl rfl rfl⟩
                simp [live, privIds, blkIds, PrivBlk.ids, List.count_cons,
                  List.range_succ]
                omega
  · dsimp only [miCopyin]
    refine ⟨balanced.move fun id => ?_, .asked rfl (.inl rfl) rfl rfl⟩
    simp [live, copyinReq, privIds, blkIds, PrivBlk.ids, List.count_cons,
      dropCont, free]
    omega

theorem miCopyinN_accounted (offset len : Nat) :
    (c.miCopyinN heap offset len).Accounted := by
  have fails := fun err => @miCopyDone_accounted heap _ owned err
  obtain ⟨⟨type, count, size, rval, priv, cont⟩, _, fresh, freed, acks⟩ := c
  obtain ⟨rfl, balanced, rfl, ⟨rfl, rfl⟩ | ⟨rfl, rfl, bp, rfl⟩⟩ := owned
  · exact fails eproto
  · dsimp only [miCopyinN]
    split
    · exact fails eproto
    · split
      · refine ⟨balanced.move fun id => ?_, .asked rfl (.inl rfl) rfl rfl⟩
        simp [live, copyinReq, privIds, blkIds, PrivBlk.ids, List.count_cons,
          dropCont, free]
        omega
      · split
        · exact fails eproto
        · split
          · exact fails copyEinval
          · split
            · exact fails enosr
            · refine ⟨balanced.move fun id => ?_,
                .copied rfl rfl rfl rfl rfl⟩
              simp [live, privIds, blkIds, PrivBlk.ids, List.count_cons,
                List.range_succ, dropCont, free]
              omega

theorem miCopyout_accounted : (c.miCopyout heap).Accounted := by
  have fails := fun err => @miCopyDone_accounted heap _ owned err
  obtain ⟨⟨type, count, size, rval, priv, cont⟩, _, fresh, freed, acks⟩ := c
  obtain ⟨rfl, balanced, rfl, ⟨rfl, rfl⟩ | ⟨rfl, rfl, bp, rfl⟩⟩ := owned
  · exact fails eproto
  · obtain ⟨bid, mi, pending⟩ := bp
    cases pending with
    | nil => exact fails 0
    | cons db rest =>
        dsimp only [miCopyout]
        generalize (if db.pointer ≠ 0 then db.pointer else mi.caddr) = uaddr
        split
        · exact fails 0
        · split
          · refine ⟨balanced.move fun id => ?_, .asked rfl (.inr rfl) rfl rfl⟩
            simp [live, privIds, blkIds, PrivBlk.ids, List.count_cons,
              dropCont, free]
            omega
          · refine ⟨balanced.move fun id => ?_,
              .answered rfl (.inl rfl) rfl rfl⟩
            simp [live, privIds, blkIds, PrivBlk.ids, List.count_cons,
              dropCont, free]
            omega

omit owned in
theorem linkCopyout_owned {bp : PrivBlk} (here : c.sent = .kept)
    (type : c.mp.type = .iocdata) (success : c.mp.count = 0)
    (acks : c.acks = 0)
    (balanced : (c.freed ++ (0 :: blkIds c.mp.cont) ++ bp.ids).Perm
      (List.range c.fresh)) (uaddr : Nat) (octets : Data) :
    let c' := (c.linkCopyout heap bp uaddr octets true).2
    c'.Owned ∨ c'.Accounted ∧ c'.sent = .qreply := by
  obtain ⟨⟨_, _, size, rval, priv, cont⟩, _, fresh, freed, _⟩ := c
  subst here type success acks
  unfold linkCopyout
  dsimp only
  split
  · have restored : Owned ⟨⟨.iocdata, 0, size, rval, some bp, []⟩, .kept,
        fresh, freed ++ blkIds cont, 0⟩ := by
      refine ⟨rfl, List.perm_iff_count.mpr fun id => ?_, rfl,
        .inr ⟨rfl, rfl, bp, rfl⟩⟩
      have held := balanced.count_eq id
      simp [live, privIds, blkIds, List.count_cons] at held ⊢
      omega
    exact .inr ⟨miCopyDone_accounted restored enosr,
      miCopyDone_sent restored enosr⟩
  · left
    refine ⟨rfl, List.perm_iff_count.mpr fun id => ?_, rfl,
      .inr ⟨rfl, rfl, _, rfl⟩⟩
    have held := balanced.count_eq id
    simp [live, privIds, blkIds, PrivBlk.ids, List.count_cons, dropCont, free,
      List.range_succ] at held ⊢
    omega

theorem miCopyoutAlloc_owned (uaddr : Nat) (octets : Data) :
    let c' := (c.miCopyoutAlloc heap uaddr octets true).2
    c'.Owned ∨ c'.Accounted ∧ c'.sent = .qreply := by
  have fails := fun err => And.intro
    (@miCopyDone_accounted heap _ owned err)
    (@miCopyDone_sent heap _ owned err)
  obtain ⟨⟨type, count, size, rval, priv, cont⟩, _, fresh, freed, acks⟩ := c
  obtain ⟨rfl, balanced, rfl, ⟨rfl, rfl⟩ | ⟨rfl, rfl, bp, rfl⟩⟩ := owned
  · dsimp only [miCopyoutAlloc]
    split
    · split
      · exact .inr (fails enosr)
      · next db rest =>
          refine linkCopyout_owned rfl rfl rfl rfl
            (List.perm_iff_count.mpr fun id => ?_) uaddr octets
          have held := balanced.count_eq id
          simp [live, privIds, blkIds, PrivBlk.ids, List.count_cons] at held ⊢
          omega
    · split
      · exact .inr (fails enosr)
      · refine linkCopyout_owned rfl rfl rfl rfl
          (List.perm_iff_count.mpr fun id => ?_) uaddr octets
        have held := balanced.count_eq id
        simp [live, privIds, blkIds, PrivBlk.ids, List.count_cons,
          List.range_succ] at held ⊢
        omega
  · dsimp only [miCopyoutAlloc]
    split
    · refine linkCopyout_owned rfl rfl rfl rfl
        (List.perm_iff_count.mpr fun id => ?_) uaddr octets
      have held := balanced.count_eq id
      simp [live, privIds, blkIds, PrivBlk.ids, List.count_cons, free]
        at held ⊢
      omega
    · refine linkCopyout_owned rfl rfl rfl rfl
        (List.perm_iff_count.mpr fun id => ?_) uaddr octets
      have held := balanced.count_eq id
      simp [live, privIds, PrivBlk.ids, List.count_cons] at held ⊢
      omega

theorem miCopySetRval_owned (rval : Int) : (c.miCopySetRval rval).Owned := by
  obtain ⟨⟨type, count, size, _, priv, cont⟩, _, fresh, freed, acks⟩ := c
  obtain ⟨rfl, balanced, rfl, ⟨rfl, rfl⟩ | ⟨rfl, rfl, bp, rfl⟩⟩ := owned
  · exact ⟨rfl, balanced, rfl, .inl ⟨rfl, rfl⟩⟩
  · exact ⟨rfl, balanced, rfl, .inr ⟨rfl, rfl, _, rfl⟩⟩

theorem prepare_owned (preps : List Prep) :
    let c' := c.prepare heap preps
    c'.Owned ∨ c'.Accounted ∧ c'.sent = .qreply := by
  have stays : ∀ {c : Copying} (preps : List Prep), c.sent = .qreply →
      c.prepare heap preps = c := by
    intro c preps gone
    unfold prepare
    induction preps with
    | nil => rfl
    | cons prep preps ih =>
        rw [List.foldl_cons, if_neg (by rw [gone]; nofun), ih]
  induction preps generalizing c with
  | nil => exact .inl owned
  | cons prep preps ih =>
      unfold prepare
      rw [List.foldl_cons, if_pos owned.here]
      cases prep with
      | setRval rval => exact ih (miCopySetRval_owned owned rval)
      | copyoutAlloc uaddr octets =>
          obtain next | ⟨accounted, gone⟩ :=
            @miCopyoutAlloc_owned heap _ owned uaddr octets
          · exact ih next
          · have same := stays preps gone
            unfold prepare at same
            exact .inr (same.symm ▸ ⟨accounted, gone⟩)

theorem turn_accounted (turn : Turn) : (c.turn heap turn).Accounted := by
  unfold Copying.turn
  dsimp only
  obtain next | ⟨accounted, gone⟩ :=
    @prepare_owned heap _ owned turn.preps
  · rw [if_pos next.here]
    cases turn.final with
    | copyin uaddr len => exact miCopyin_accounted next uaddr len
    | copyinN offset len => exact miCopyinN_accounted next offset len
    | copyout => exact miCopyout_accounted next
    | done err => exact miCopyDone_accounted next err
  · rw [if_neg (by rw [gone]; nofun)]
    exact accounted

end Helpers

end Copying

namespace UserIoctl

structure Released (u : UserIoctl) : Prop where
  answers : u.copying.acks = if u.result.isSome = true then 1 else 0
  blocks : (u.copying.freed ++
    if u.result.isSome = true then [] else u.copying.live).Perm
      (List.range u.copying.fresh)

inductive Settled (u : UserIoctl) : Prop
  | going (waits : u.result = none) (owned : u.copying.Owned)
  | closed {value : Int} (told : u.result = some value)
      (acks : u.copying.acks = 1)
      (freed : u.copying.freed.Perm (List.range u.copying.fresh))

theorem Settled.released {u : UserIoctl} (settled : u.Settled) :
    u.Released := by
  cases settled with
  | going waits owned =>
      refine ⟨?_, ?_⟩
      · rw [waits]
        exact owned.acks
      · rw [waits]
        exact owned.balanced
  | closed told acks freed =>
      refine ⟨?_, ?_⟩
      · rw [told]
        exact acks
      · rw [told]
        simpa using freed

theorem pass_settled {u : UserIoctl} (form : IoctlForm)
    (waits : u.result = none) (accounted : u.copying.Accounted) :
    (u.pass form).Settled := by
  obtain ⟨⟨⟨type, count, size, rval, priv, cont⟩, sent, fresh, freed, acks⟩,
    memory, seen, _⟩ := u
  subst waits
  obtain ⟨balanced, passed⟩ := accounted
  cases passed with
  | copied gone type success priv acks =>
      dsimp only at gone type success priv acks
      subst gone type success priv acks
      exact .going rfl ⟨rfl, balanced, rfl, .inr ⟨rfl, rfl, _, rfl⟩⟩
  | asked gone type priv acks =>
      dsimp only at gone priv acks
      subst gone priv acks
      obtain type | type := type
      · dsimp only at type
        subst type
        dsimp only [pass, strdoioctl]
        split
        · exact .going rfl ⟨rfl, balanced, rfl, .inr ⟨rfl, rfl, _, rfl⟩⟩
        · refine .going rfl ⟨rfl, balanced.move fun id => ?_, rfl,
            .inr ⟨rfl, rfl, _, rfl⟩⟩
          simp [Copying.live, respond, Copying.dropCont, Copying.free, blkIds,
            List.count_cons, List.range_succ]
          omega
      · dsimp only at type
        subst type
        exact .going rfl ⟨rfl, balanced, rfl, .inr ⟨rfl, rfl, _, rfl⟩⟩
  | answered gone type priv acks =>
      dsimp only at gone priv acks
      subst gone priv acks
      have all : (freed ++ (0 :: blkIds cont)).Perm (List.range fresh) := by
        simpa [Copying.Balanced, Copying.live, Copying.privIds] using balanced
      obtain type | type := type
      · dsimp only at type
        subst type
        exact .closed rfl rfl all
      · dsimp only at type
        subst type
        exact .closed rfl rfl all

theorem miCopyState_cases (heap : Heap) (c : Copying) :
    c.miCopyState heap = (none, c.miCopyDone heap eproto) ∨
      ∃ state, c.miCopyState heap = (some state, c) := by
  unfold Copying.miCopyState
  split
  · exact .inr ⟨_, rfl⟩
  · exact .inl rfl

theorem advance_settled {heap : Heap} {driver : Driver} {u : UserIoctl}
    (form : IoctlForm) (settled : u.Settled) :
    (u.advance heap driver form).Settled := by
  cases settled with
  | closed told acks freed =>
      have still : u.advance heap driver form = u := by simp [advance, told]
      exact still.symm ▸ .closed told acks freed
  | going waits owned =>
      have turned := fun turn =>
        @Copying.turn_accounted heap _ owned turn
      obtain ⟨ioctl, priv⟩ | ⟨iocdata, success, bp, priv⟩ := owned.stage
      · simp only [advance, waits, ioctl]
        exact pass_settled form rfl (turned _)
      · have started := miCopyState_cases heap u.copying
        simp only [advance, waits, iocdata]
        obtain fails | ⟨state, same⟩ := started
        · rw [fails]
          exact pass_settled form rfl
            (Copying.miCopyDone_accounted owned eproto)
        · rw [same]
          exact pass_settled form rfl (turned _)

theorem run_released (heap : Heap) (driver : Driver) (form : IoctlForm)
    {u : UserIoctl} (settled : u.Settled) (n : Nat) :
    (u.turns heap driver form n).Released := by
  refine Settled.released ?_
  unfold turns
  induction n generalizing u with
  | zero => exact settled
  | succ n ih => exact ih (advance_settled form settled)

theorem issueTrans_settled (memory : UserMemory) (arg : Nat) :
    (issueTrans memory arg).Settled :=
  .going rfl ⟨rfl, .refl [0, 1], rfl, .inl ⟨rfl, rfl⟩⟩

theorem blkIds_userBlks (user : List Data) :
    blkIds (userBlks user) = List.range' 1 user.length := by
  simp [blkIds, userBlks, List.map_map, Function.comp_def]

theorem issueStr_settled (memory : UserMemory) (user : List Data) :
    (issueStr memory user).Settled := by
  refine .going rfl ⟨rfl, .of_eq ?_, rfl, .inl ⟨rfl, rfl⟩⟩
  change 0 :: blkIds (userBlks user) ++ [] =
    List.range ((userBlks user).length + 1)
  rw [List.append_nil, blkIds_userBlks, List.range_eq_range', userBlks,
    List.length_map, List.length_zipIdx]
  rfl

end UserIoctl

end OpenSS7.Mps
