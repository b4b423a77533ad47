import OpenSS7.Sth.Ioctl

/-!
When an ioctl is completed only by its own response.
-/

namespace OpenSS7.Sth

def Phase.active : Phase → Option Ioctl
  | .idle => none
  | .queued _ => none
  | .sending io _ => some io
  | .waiting io => some io
  | .asleep io => some io
  | .acting io _ => some io
  | .null io => some io
  | .ending io _ => some io

def Phase.held : Phase → Option Resp
  | .sending _ (.iocdata mp _) => some mp
  | .acting _ mp => some mp
  | _ => none

namespace Ioctls

structure Sound (s : Ioctls) : Prop where
  single : ∀ i j, (s.proc i).active ≠ none → (s.proc j).active ≠ none → i = j
  own : ∀ i io mp, (s.proc i).active = some io → (s.proc i).held = some mp →
    mp.iocId = io.iocId
  given : ∀ i io, (s.proc i).active = some io → io.iocId ∈ s.assigned
  ids : s.assigned.Nodup
  once : s.arrived.Nodup ∧ ∃ hands : List Nat,
    (∀ mid, mid ∈ hands ↔ ∃ i mp, (s.proc i).held = some mp ∧ mp.mid = mid) ∧
      (s.iocblk.toList.map Resp.mid ++ hands ++ s.log.map Prod.fst).Perm
        s.arrived
  slot : (∀ i, (s.proc i).active = none) → s.iocblk = none

def Answered (s : Ioctls) : Prop := ∀ i io, s.proc i ≠ .null io

def Legal (s : Ioctls) : IoctlEvent → Prop
  | .respond mp _ => mp.mid ∉ s.arrived
  | _ => True

def Steady (s : Ioctls) : IoctlEvent → Prop
  | .wake i (some _) =>
      ∀ io, s.proc i = .asleep io → io.kind ≠ .link
  | _ => True

def AllLegal (s : Ioctls) : List IoctlEvent → Prop
  | [] => True
  | e :: rest => s.Legal e ∧ ∀ s' ∈ s.step e, s'.AllLegal rest

def AllSteady (s : Ioctls) : List IoctlEvent → Prop
  | [] => True
  | e :: rest => s.Steady e ∧ ∀ s' ∈ s.step e, s'.AllSteady rest

instance (s : Ioctls) : (e : IoctlEvent) → Decidable (s.Legal e)
  | .respond mp _ => inferInstanceAs (Decidable (mp.mid ∉ s.arrived))
  | .start .. => instDecidableTrue
  | .acquire _ => instDecidableTrue
  | .refuse _ => instDecidableTrue
  | .strput _ => instDecidableTrue
  | .take _ => instDecidableTrue
  | .sleep _ => instDecidableTrue
  | .wake .. => instDecidableTrue
  | .act .. => instDecidableTrue
  | .strwakeioctl _ => instDecidableTrue

instance AllLegal.decidable :
    (s : Ioctls) → (events : List IoctlEvent) → Decidable (s.AllLegal events)
  | _, [] => instDecidableTrue
  | s, e :: rest =>
      let next : Decidable (∀ s' ∈ s.step e, s'.AllLegal rest) :=
        match s.step e with
        | none => isTrue fun _ member => nomatch member
        | some s' =>
            match AllLegal.decidable s' rest with
            | isTrue legal => isTrue fun _ member => by cases member; exact legal
            | isFalse not => isFalse fun all => not (all s' rfl)
      inferInstanceAs (Decidable (_ ∧ _))

def Given : BitVec 32 → List (BitVec 32) → Prop
  | _, [] => True
  | next, id :: rest => id + 1 = next ∧ Given id rest

def places (s : Ioctls) (held : Option Resp) : List Nat :=
  s.iocblk.toList.map Resp.mid ++ held.toList.map Resp.mid ++
    s.log.map Prod.fst

structure Inv (s : Ioctls) (actor : Option (Nat × Ioctl)) : Prop where
  bit : s.iocwait = actor.isSome
  alone : ∀ j, (s.proc j).active =
    actor.bind fun a => if a.1 = j then some a.2 else none
  current : ∀ a ∈ actor, a.2.iocId = s.iocid ∧ s.iocid ∈ s.assigned
  slot : actor = none → s.iocblk = none
  answer : ∀ mp ∈ s.iocblk, mp.iocId = s.iocid
  own : ∀ j, ∀ mp ∈ (s.proc j).held, mp.iocId = s.iocid
  ids : Given (if actor.isSome then s.iocid + 1 else s.iocid) s.assigned
  once : s.arrived.Nodup
  places : (s.places (actor.bind fun a => (s.proc a.1).held)).Perm s.arrived

section Ids

theorem given_get {next : BitVec 32} {ids : List (BitVec 32)}
    (given : Given next ids) {k : Nat} (less : k < ids.length) :
    ids[k] + BitVec.ofNat 32 (k + 1) = next := by
  induction ids generalizing next k with
  | nil => exact absurd less (Nat.not_lt_zero _)
  | cons id rest ih =>
      obtain ⟨last, before⟩ := given
      cases k with
      | zero => exact last
      | succ k =>
          have earlier := ih before (Nat.lt_of_succ_lt_succ less)
          rw [List.getElem_cons_succ, ← last, ← earlier, BitVec.add_assoc]
          congr 1
          rw [BitVec.ofNat_add]
          rfl

theorem given_nodup {next : BitVec 32} {ids : List (BitVec 32)}
    (given : Given next ids) (few : ids.length < 2 ^ 32) : ids.Nodup := by
  rw [List.nodup_iff_injective_get]
  intro k k' same
  have first := given_get given k.isLt
  have second := given_get given k'.isLt
  simp only [List.get_eq_getElem] at same
  rw [same, ← second] at first
  have equal := congrArg BitVec.toNat ((BitVec.add_right_inj _).mp first)
  rw [BitVec.toNat_ofNat, BitVec.toNat_ofNat, Nat.mod_eq_of_lt (by omega),
    Nat.mod_eq_of_lt (by omega)] at equal
  exact Fin.ext (by omega)

end Ids

section Moves

variable {s s' : Ioctls} {i : Nat} {io : Ioctl} {phase : Phase}
  {actor : Option (Nat × Ioctl)}

theorem setProc_same : (s.setProc i phase).proc i = phase :=
  Function.update_self ..

theorem setProc_other {j : Nat} (ne : j ≠ i) :
    (s.setProc i phase).proc j = s.proc j :=
  Function.update_of_ne ne ..

theorem Inv.is_actor (inv : s.Inv actor) (active : (s.proc i).active = some io) :
    actor = some (i, io) := by
  rw [inv.alone] at active
  cases actor with
  | none => cases active
  | some a =>
      simp only [Option.bind_some, Option.ite_none_right_eq_some,
        Option.some.injEq] at active
      obtain ⟨rfl, rfl⟩ := active
      rfl

theorem held_of_idle (idle : phase.active = none) : phase.held = none := by
  cases phase <;> first | rfl | cases idle

theorem Inv.elsewhere (inv : s.Inv actor) (before : (s.proc i).active = none)
    (after : phase.active = none) : (s.setProc i phase).Inv actor := by
  have same (j : Nat) : ((s.setProc i phase).proc j).active =
      (s.proc j).active := by
    by_cases here : j = i
    · subst here
      rw [setProc_same, before, after]
    · rw [setProc_other here]
  have held (j : Nat) : ((s.setProc i phase).proc j).held =
      (s.proc j).held := by
    by_cases here : j = i
    · subst here
      rw [setProc_same, held_of_idle before, held_of_idle after]
    · rw [setProc_other here]
  refine ⟨inv.bit, ?_, inv.current, inv.slot, inv.answer, ?_, inv.ids,
    inv.once, ?_⟩
  · intro j
    rw [same]
    exact inv.alone j
  · intro j
    rw [held]
    exact inv.own j
  · simp only [held]
    exact inv.places

theorem Inv.move (inv : s.Inv (some (i, io)))
    (proc : s'.proc = (s.setProc i phase).proc) (active : phase.active = some io)
    (iocid : s'.iocid = s.iocid) (iocwait : s'.iocwait = s.iocwait)
    (assigned : s'.assigned = s.assigned) (arrived : s'.arrived = s.arrived)
    (answer : ∀ mp ∈ s'.iocblk, mp.iocId = s.iocid)
    (own : ∀ mp ∈ phase.held, mp.iocId = s.iocid)
    (perm : (s'.places phase.held).Perm (s.places (s.proc i).held)) :
    s'.Inv (some (i, io)) := by
  have here : s'.proc i = phase := by rw [proc, setProc_same]
  have there (j : Nat) (ne : j ≠ i) : s'.proc j = s.proc j := by
    rw [proc, setProc_other ne]
  refine ⟨?_, ?_, ?_, ?_, ?_, ?_, ?_, ?_, ?_⟩
  · rw [iocwait]
    exact inv.bit
  · intro j
    by_cases same : j = i
    · subst same
      rw [here, active]
      simp
    · rw [there j same]
      exact inv.alone j
  · rw [iocid, assigned]
    exact inv.current
  · exact fun none => nomatch none
  · rw [iocid]
    exact answer
  · intro j
    rw [iocid]
    by_cases same : j = i
    · subst same
      rw [here]
      exact own
    · rw [there j same]
      exact inv.own j
  · rw [iocid, assigned]
    exact inv.ids
  · rw [arrived]
    exact inv.once
  · rw [arrived]
    simp only [Option.bind_some, here]
    exact perm.trans inv.places

end Moves

section Steps

variable {s s' : Ioctls} {i : Nat} {actor : Option (Nat × Ioctl)}

theorem Inv.strwaitioctl (inv : s.Inv actor)
    (result : s.strwaitioctl i = some s') : ∃ io, s'.Inv (some (i, io)) := by
  unfold Ioctls.strwaitioctl at result
  split at result
  case h_2 => cases result
  case h_1 kind queued =>
    split at result
    · cases result
    case isFalse free =>
      cases result
      have bit := inv.bit
      rw [Bool.not_eq_true] at free
      rw [free] at bit
      have free : actor = none :=
        Option.isNone_iff_eq_none.mp (by simpa using bit.symm)
      subst free
      have idle (j : Nat) : (s.proc j).held = none :=
        held_of_idle (by rw [inv.alone]; rfl)
      refine ⟨⟨kind, s.iocid⟩, rfl, ?_, ?_, ?_, ?_, ?_, ?_, inv.once, ?_⟩
      · intro j
        by_cases same : j = i
        · subst same
          rw [setProc_same]
          simp [Phase.active]
        · rw [setProc_other same, inv.alone]
          simp [Ne.symm same]
      · intro a member
        cases member
        exact ⟨rfl, List.mem_cons_self⟩
      · exact fun none => nomatch none
      · exact inv.answer
      · intro j
        by_cases same : j = i
        · subst same
          rw [setProc_same]
          exact fun mp member => nomatch member
        · rw [setProc_other same]
          exact inv.own j
      · exact ⟨rfl, inv.ids⟩
      · simp only [Option.bind_some, setProc_same]
        exact inv.places

theorem Inv.strwakeioctl (inv : s.Inv actor)
    (result : s.strwakeioctl i = some s') : s'.Inv none := by
  unfold Ioctls.strwakeioctl at result
  split at result
  case h_2 => cases result
  case h_1 io err ending =>
    have active : (s.proc i).active = some io := by rw [ending]; rfl
    have held : (s.proc i).held = none := by rw [ending]; rfl
    have is := inv.is_actor active
    subst is
    cases result
    have places := inv.places
    have ids := inv.ids
    have idle (j : Nat) :
        (((s.setProc i .idle).proc) j).active = none := by
      by_cases same : j = i
      · subst same
        rw [setProc_same]
        rfl
      · rw [setProc_other same, inv.alone]
        simp [Ne.symm same]
    simp only [Option.bind_some, held] at places
    refine ⟨rfl, idle, ?_, fun _ => rfl, ?_, ?_, ?_, ?_, ?_⟩
    · exact fun a member => nomatch member
    · exact fun mp member => nomatch member
    · intro j mp member
      have gone : (((s.setProc i .idle).proc) j).held = none :=
        held_of_idle (idle j)
      exact nomatch gone ▸ member
    · exact ids
    · exact inv.once
    · cases slot : s.iocblk with
      | none => simpa [Ioctls.places, setProc, slot] using places
      | some mp => simpa [Ioctls.places, setProc, slot] using places

theorem Inv.strput (inv : s.Inv actor) (result : s.strput i = some s') :
    s'.Inv actor := by
  unfold Ioctls.strput at result
  split at result
  case h_1 io sending =>
    have active : (s.proc i).active = some io := by rw [sending]; rfl
    have held : (s.proc i).held = none := by rw [sending]; rfl
    have is := inv.is_actor active
    subst is
    cases result
    exact inv.move rfl rfl rfl rfl rfl rfl inv.answer
      (fun mp member => nomatch member) (by rw [held]; rfl)
  case h_2 io mp sending =>
    have active : (s.proc i).active = some io := by rw [sending]; rfl
    have held : (s.proc i).held = some mp := by rw [sending]; rfl
    have is := inv.is_actor active
    subst is
    cases result
    exact inv.move rfl rfl rfl rfl rfl rfl inv.answer
      (fun mp member => nomatch member) (by
        rw [held]
        simp [Ioctls.places, setProc, note, Phase.held])
  case h_3 io mp err sending =>
    have active : (s.proc i).active = some io := by rw [sending]; rfl
    have held : (s.proc i).held = some mp := by rw [sending]; rfl
    have is := inv.is_actor active
    subst is
    cases result
    exact inv.move rfl rfl rfl rfl rfl rfl inv.answer
      (fun mp member => nomatch member) (by
        rw [held]
        simp [Ioctls.places, setProc, note, Phase.held])
  case h_4 => cases result

theorem Inv.take (inv : s.Inv actor) (result : s.take i = some s') :
    s'.Inv actor := by
  unfold Ioctls.take at result
  split at result
  case h_2 => cases result
  case h_1 io mp waiting slot =>
    have active : (s.proc i).active = some io := by rw [waiting]; rfl
    have held : (s.proc i).held = none := by rw [waiting]; rfl
    have is := inv.is_actor active
    subst is
    cases result
    refine inv.move rfl rfl rfl rfl rfl rfl ?_ ?_ ?_
    · exact fun mp member => nomatch member
    · intro mp' member
      cases member
      exact inv.answer mp slot
    · rw [held]
      simp [Ioctls.places, setProc, Phase.held, slot]

theorem Inv.sleep (inv : s.Inv actor) (result : s.sleep i = some s') :
    s'.Inv actor := by
  unfold Ioctls.sleep at result
  split at result
  case h_2 => cases result
  case h_1 io waiting slot =>
    have active : (s.proc i).active = some io := by rw [waiting]; rfl
    have held : (s.proc i).held = none := by rw [waiting]; rfl
    have is := inv.is_actor active
    subst is
    cases result
    exact inv.move rfl rfl rfl rfl rfl rfl inv.answer
      (fun mp member => nomatch member) (by rw [held]; rfl)

theorem wake_eq {err : Option Int} (result : s.wake i err = some s') :
    ∃ io phase, s.proc i = .asleep io ∧ phase.active = some io ∧
      phase.held = none ∧ s' = s.setProc i phase := by
  unfold Ioctls.wake at result
  split at result
  case h_1 io asleep =>
    exact ⟨io, .waiting io, asleep, rfl, rfl, (Option.some.inj result).symm⟩
  case h_2 io err asleep =>
    split at result
    · exact ⟨io, .ending io err, asleep, rfl, rfl,
        (Option.some.inj result).symm⟩
    · exact ⟨io, .ending io err, asleep, rfl, rfl,
        (Option.some.inj result).symm⟩
    · exact ⟨io, .null io, asleep, rfl, rfl, (Option.some.inj result).symm⟩
    · cases result
  case h_3 => cases result

theorem Inv.wake {err : Option Int} (inv : s.Inv actor)
    (result : s.wake i err = some s') : s'.Inv actor := by
  obtain ⟨io, phase, asleep, active, empty, rfl⟩ := wake_eq result
  have before : (s.proc i).active = some io := by rw [asleep]; rfl
  have held : (s.proc i).held = none := by rw [asleep]; rfl
  have is := inv.is_actor before
  subst is
  refine inv.move rfl active rfl rfl rfl rfl inv.answer ?_ ?_
  · rw [empty]
    exact fun mp member => nomatch member
  · rw [held, empty]
    rfl

theorem act_eq {copyErr : Int} (result : s.act i copyErr = some s') :
    ∃ io mp, s.proc i = .acting io mp ∧
      ((∃ err, s' = (s.note mp.mid .freed).setProc i (.ending io err)) ∨
        ∃ err, s' = s.setProc i (.sending io (.iocdata mp err))) := by
  unfold Ioctls.act at result
  split at result
  case h_2 => cases result
  case h_1 io mp acting =>
    refine ⟨io, mp, acting, ?_⟩
    split at result
    · exact Or.inl ⟨_, (Option.some.inj result).symm⟩
    · exact Or.inl ⟨_, (Option.some.inj result).symm⟩
    · exact Or.inr ⟨_, (Option.some.inj result).symm⟩

theorem Inv.act {copyErr : Int} (inv : s.Inv actor)
    (result : s.act i copyErr = some s') : s'.Inv actor := by
  obtain ⟨io, mp, acting, kinds⟩ := act_eq result
  have active : (s.proc i).active = some io := by rw [acting]; rfl
  have held : (s.proc i).held = some mp := by rw [acting]; rfl
  have is := inv.is_actor active
  subst is
  rcases kinds with ⟨err, rfl⟩ | ⟨err, rfl⟩
  · refine inv.move rfl rfl rfl rfl rfl rfl inv.answer ?_ ?_
    · exact fun mp member => nomatch member
    · rw [held]
      simp [Ioctls.places, setProc, note, Phase.held]
  · refine inv.move rfl rfl rfl rfl rfl rfl inv.answer ?_ ?_
    · intro mp' member
      cases member
      exact inv.own i mp held
    · rw [held]
      rfl

theorem Inv.respond {mp : Resp} {via : Via} (inv : s.Inv actor)
    (own : mp.mid ∉ s.arrived) : (s.respond mp via).Inv actor := by
  have once : (mp.mid :: s.arrived).Nodup :=
    List.nodup_cons.mpr ⟨own, inv.once⟩
  unfold Ioctls.respond
  dsimp only
  split
  case isTrue taken =>
    simp only [expects, Bool.and_eq_true, decide_eq_true_eq] at taken
    obtain ⟨⟨empty, wait⟩, same⟩ := taken
    refine ⟨inv.bit, inv.alone, inv.current, ?_, ?_, inv.own, inv.ids, once, ?_⟩
    · intro none
      have bit := inv.bit
      rw [none, wait] at bit
      cases bit
    · intro mp' member
      cases member
      exact same
    · have places := inv.places
      unfold Ioctls.places at places ⊢
      rw [empty] at places
      exact places.cons mp.mid
  case isFalse =>
    refine ⟨inv.bit, inv.alone, inv.current, inv.slot, inv.answer, inv.own,
      inv.ids, once, ?_⟩
    have places := inv.places
    unfold Ioctls.places at places ⊢
    exact List.perm_middle.trans (places.cons mp.mid)

theorem Inv.step {e : IoctlEvent} (inv : s.Inv actor) (legal : s.Legal e)
    (result : s.step e = some s') : ∃ actor, s'.Inv actor := by
  cases e with
  | start i kind =>
      simp only [Ioctls.step, Option.ite_none_right_eq_some] at result
      obtain ⟨idle, result⟩ := result
      cases result
      exact ⟨actor, inv.elsewhere (by rw [idle]; rfl) rfl⟩
  | acquire i =>
      obtain ⟨io, inv⟩ := inv.strwaitioctl result
      exact ⟨some (i, io), inv⟩
  | refuse i =>
      simp only [Ioctls.step] at result
      split at result
      case h_2 => cases result
      case h_1 kind queued =>
        split at result
        · cases result
        · cases result
          exact ⟨actor, inv.elsewhere (by rw [queued]; rfl) rfl⟩
  | strput i => exact ⟨actor, inv.strput result⟩
  | take i => exact ⟨actor, inv.take result⟩
  | sleep i => exact ⟨actor, inv.sleep result⟩
  | wake i err => exact ⟨actor, inv.wake result⟩
  | act i copyErr => exact ⟨actor, inv.act result⟩
  | strwakeioctl i => exact ⟨none, inv.strwakeioctl result⟩
  | respond mp via =>
      cases result
      exact ⟨actor, inv.respond legal⟩

theorem step_proc {e : IoctlEvent} (result : s.step e = some s') :
    (s'.proc = s.proc ∧ s.Steady e) ∨
      ∃ j phase, s'.proc = (s.setProc j phase).proc ∧
        (∀ io, s.proc j ≠ .null io) ∧
        (s.Steady e ↔ ∀ io, phase ≠ .null io) := by
  cases e with
  | start i kind =>
      simp only [Ioctls.step, Option.ite_none_right_eq_some] at result
      obtain ⟨idle, result⟩ := result
      cases result
      exact Or.inr ⟨i, _, rfl, by simp [idle], by simp [Steady]⟩
  | acquire i =>
      simp only [Ioctls.step, Ioctls.strwaitioctl] at result
      split at result
      case h_2 => cases result
      case h_1 kind queued =>
        split at result
        · cases result
        · cases result
          exact Or.inr ⟨i, _, rfl, by simp [queued], by simp [Steady]⟩
  | refuse i =>
      simp only [Ioctls.step] at result
      split at result
      case h_2 => cases result
      case h_1 kind queued =>
        split at result
        · cases result
        · cases result
          exact Or.inr ⟨i, _, rfl, by simp [queued], by simp [Steady]⟩
  | strput i =>
      simp only [Ioctls.step, Ioctls.strput] at result
      split at result
      case h_4 => cases result
      all_goals
        next sending =>
          cases result
          exact Or.inr ⟨i, _, rfl, by simp [sending], by simp [Steady]⟩
  | take i =>
      simp only [Ioctls.step, Ioctls.take] at result
      split at result
      case h_2 => cases result
      case h_1 io mp waiting slot =>
        cases result
        exact Or.inr ⟨i, _, rfl, by simp [waiting], by simp [Steady]⟩
  | sleep i =>
      simp only [Ioctls.step, Ioctls.sleep] at result
      split at result
      case h_2 => cases result
      case h_1 io waiting slot =>
        cases result
        exact Or.inr ⟨i, _, rfl, by simp [waiting], by simp [Steady]⟩
  | wake i err =>
      simp only [Ioctls.step, Ioctls.wake] at result
      split at result
      case h_3 => cases result
      case h_1 io asleep =>
        cases result
        exact Or.inr ⟨i, _, rfl, by simp [asleep], by simp [Steady]⟩
      case h_2 io err asleep =>
        split at result
        case h_4 => cases result
        all_goals
          next kind =>
            cases result
            exact Or.inr ⟨i, _, rfl, by simp [asleep],
              by simp [Steady, asleep, kind]⟩
  | act i copyErr =>
      obtain ⟨io, mp, acting, ⟨err, rfl⟩ | ⟨err, rfl⟩⟩ := act_eq result
      · exact Or.inr ⟨i, _, rfl, by simp [acting], by simp [Steady]⟩
      · exact Or.inr ⟨i, _, rfl, by simp [acting], by simp [Steady]⟩
  | strwakeioctl i =>
      simp only [Ioctls.step, Ioctls.strwakeioctl] at result
      split at result
      case h_2 => cases result
      case h_1 io err ending =>
        cases result
        exact Or.inr ⟨i, _, rfl, by simp [ending], by simp [Steady]⟩
  | respond mp via =>
      cases result
      refine Or.inl ⟨?_, trivial⟩
      simp only [Ioctls.respond]
      split
      · rfl
      · rfl

theorem not_answered_step {e : IoctlEvent} (result : s.step e = some s')
    (null : ¬ s.Answered) : ¬ s'.Answered := by
  obtain ⟨i, io, null⟩ : ∃ i io, s.proc i = .null io := by
    simpa [Answered] using null
  rcases step_proc result with ⟨same, -⟩ | ⟨j, phase, moved, other, -⟩
  · exact fun answered => answered i io (by rw [same, null])
  · have ne : i ≠ j := fun same => other io (same ▸ null)
    exact fun answered => answered i io (by rw [moved, setProc_other ne, null])

theorem answered_step {e : IoctlEvent} (result : s.step e = some s')
    (before : s.Answered) : s'.Answered ↔ s.Steady e := by
  rcases step_proc result with ⟨same, steady⟩ | ⟨j, phase, moved, -, iff⟩
  · refine iff_of_true ?_ steady
    intro i io
    rw [same]
    exact before i io
  · rw [iff]
    constructor
    · intro answered io
      have here := answered j io
      rwa [moved, setProc_same] at here
    · intro fine i io
      rw [moved]
      by_cases same : i = j
      · subst same
        rw [setProc_same]
        exact fine io
      · rw [setProc_other same]
        exact before i io

end Steps

section Runs

variable {s s' : Ioctls} {actor : Option (Nat × Ioctl)}
  {events : List IoctlEvent}

theorem Inv.run (inv : s.Inv actor) (legal : s.AllLegal events)
    (result : s.run events = some s') : ∃ actor, s'.Inv actor := by
  induction events generalizing s actor with
  | nil =>
      cases result
      exact ⟨actor, inv⟩
  | cons e rest ih =>
      obtain ⟨t, first, result⟩ := Option.bind_eq_some_iff.mp result
      obtain ⟨actor, inv⟩ := inv.step legal.1 first
      exact ih inv (legal.2 t first) result

theorem not_answered_run (result : s.run events = some s')
    (null : ¬ s.Answered) : ¬ s'.Answered := by
  induction events generalizing s with
  | nil =>
      cases result
      exact null
  | cons e rest ih =>
      obtain ⟨t, first, result⟩ := Option.bind_eq_some_iff.mp result
      exact ih result (not_answered_step first null)

theorem answered_run (result : s.run events = some s') (before : s.Answered) :
    s'.Answered ↔ s.AllSteady events := by
  induction events generalizing s with
  | nil =>
      cases result
      exact iff_of_true before trivial
  | cons e rest ih =>
      obtain ⟨t, first, result⟩ := Option.bind_eq_some_iff.mp result
      have step := answered_step first before
      by_cases steady : s.Steady e
      · rw [ih result (step.mpr steady)]
        constructor
        · intro all
          refine ⟨steady, ?_⟩
          intro u reached
          cases first.symm.trans reached
          exact all
        · exact fun all => all.2 t first
      · refine iff_of_false ?_ fun all => steady all.1
        exact not_answered_run result fun answered =>
          steady (step.mp answered)

theorem inv_fresh (iocid : BitVec 32) : (fresh iocid).Inv none :=
  ⟨rfl, fun _ => rfl, (fun _ member => nomatch member), fun _ => rfl,
    (fun _ member => nomatch member), (fun _ _ member => nomatch member),
    trivial, List.nodup_nil, List.Perm.nil⟩

theorem Inv.sound (inv : s.Inv actor) (few : s.assigned.length < 2 ^ 32) :
    s.Sound := by
  refine ⟨?_, ?_, ?_, given_nodup inv.ids few, ⟨inv.once, ?_⟩, ?_⟩
  · intro i j first second
    obtain ⟨io, first⟩ := Option.ne_none_iff_exists'.mp first
    obtain ⟨io', second⟩ := Option.ne_none_iff_exists'.mp second
    cases (inv.is_actor first).symm.trans (inv.is_actor second)
    rfl
  · intro i io mp active held
    rw [inv.own i mp held, (inv.current _ (inv.is_actor active)).1]
  · intro i io active
    obtain ⟨same, given⟩ := inv.current _ (inv.is_actor active)
    rw [same]
    exact given
  · refine ⟨(actor.bind fun a => (s.proc a.1).held).toList.map Resp.mid, ?_,
      inv.places⟩
    intro mid
    simp only [List.mem_map, Option.mem_toList, Option.mem_def,
      Option.bind_eq_some_iff]
    constructor
    · rintro ⟨mp, ⟨a, -, held⟩, same⟩
      exact ⟨a.1, mp, held, same⟩
    · rintro ⟨i, mp, held, same⟩
      cases active : (s.proc i).active with
      | none =>
          rw [held_of_idle active] at held
          cases held
      | some io =>
          exact ⟨mp, ⟨(i, io), inv.is_actor active, held⟩, same⟩
  · intro idle
    refine inv.slot ?_
    cases actor with
    | none => rfl
    | some a =>
        have active := inv.alone a.1
        rw [idle] at active
        simp at active

/-- For fewer than `2 ^ 32` ioctls an ioctl is completed only by its own
response, and every wait ends with a response or an error if and only if no
I_LINK or I_UNLINK that waits for its response meets an error of the stream. -/
theorem ioctl_own_response {iocid : BitVec 32} {events : List IoctlEvent}
    {s : Ioctls} (legal : (fresh iocid).AllLegal events)
    (reached : (fresh iocid).run events = some s)
    (few : s.assigned.length < 2 ^ 32) :
    s.Sound ∧ (s.Answered ↔ (fresh iocid).AllSteady events) := by
  obtain ⟨actor, inv⟩ := (inv_fresh iocid).run legal reached
  refine ⟨inv.sound few, answered_run reached ?_⟩
  exact fun _ _ null => nomatch null

def strThenLink : List IoctlEvent :=
  let ack (mid : Nat) (iocId : BitVec 32) : Resp := ⟨mid, .iocack, iocId, 0, 0, 0⟩
  [.start 1 .str, .start 2 .link, .acquire 1, .strput 1,
    .respond (ack 0 7) (.rput false), .take 1, .act 1 0, .strwakeioctl 1,
    .acquire 2, .strput 2, .respond (ack 1 7) (.rput false), .sleep 2,
    .respond (ack 2 8) (.rput false), .wake 2 none, .take 2, .act 2 0,
    .strwakeioctl 2]

theorem ioctl_own_response_two :
    ∃ s, (fresh 7).run strThenLink = some s ∧ s.assigned = [8, 7] ∧
      s.log = [(2, .freed), (1, .freed), (0, .freed)] ∧ s.Sound := by
  have done : ((fresh 7).run strThenLink).isSome := by decide
  have reached := (Option.some_get done).symm
  have assigned : (((fresh 7).run strThenLink).get done).assigned = [8, 7] :=
    rfl
  refine ⟨_, reached, assigned, rfl, ?_⟩
  exact (ioctl_own_response (by decide) reached (by
    rw [assigned]
    decide)).1

theorem link_awakened_to_null :
    ¬ ∀ (iocid : BitVec 32) (events : List IoctlEvent) (s : Ioctls),
      (fresh iocid).AllLegal events → (fresh iocid).run events = some s →
        s.assigned.length < 2 ^ 32 → s.Sound ∧ s.Answered := by
  intro claim
  have done : ((fresh 7).run [.start 1 .link, .acquire 1, .strput 1, .sleep 1,
    .wake 1 (some (-enxio))]).isSome := by decide
  have holds := claim 7 _ _ (by decide) (Option.some_get done).symm
    (show 1 < 2 ^ 32 by decide)
  exact holds.2 1 ⟨.link, 7⟩ rfl

end Runs

end Ioctls

end OpenSS7.Sth
