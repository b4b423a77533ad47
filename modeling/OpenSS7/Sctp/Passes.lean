import Mathlib.Data.List.Nodup
import OpenSS7.Sctp.Asconf

/-!
When the two passes over an ASCONF chunk agree: what is written for each
parameter and how much.
-/

namespace OpenSS7.Sctp.Asconf

variable {env : Env} {sp after : Sp} {p : Parm} {parms : List Parm}
  {answers : List (Parm × Answer)} {daddr b : Addr} {l : List Daddr}

/-! ### What is found -/

def Found (l : List Daddr) (daddr : Addr) : Prop := ∃ sd ∈ l, isFound daddr sd

instance (l : List Daddr) (daddr : Addr) : Decidable (Found l daddr) :=
  inferInstanceAs (Decidable (∃ sd ∈ l, isFound daddr sd))

theorem isSome_iff_found : (sp.sctpFindDaddr daddr).isSome ↔ Found sp.daddr daddr := by
  unfold Sp.sctpFindDaddr Found
  rw [List.find?_isSome]

theorem isNone_iff_not_found :
    (sp.sctpFindDaddr daddr).isNone ↔ ¬Found sp.daddr daddr := by
  rw [← isSome_iff_found, Bool.not_eq_true, Option.isSome_eq_false_iff]

theorem found_cons {sd : Daddr} :
    Found (sd :: l) daddr ↔ isFound daddr sd ∨ Found l daddr := by
  unfold Found
  simp

theorem found_of_unusable {sd : Daddr} (member : sd ∈ l)
    (unusable : sd.unusable = true) : Found l daddr :=
  ⟨sd, member, by simp [isFound, unusable]⟩

def Usable (l : List Daddr) : Prop := ∀ sd ∈ l, sd.unusable = false

instance (l : List Daddr) : Decidable (Usable l) :=
  inferInstanceAs (Decidable (∀ sd ∈ l, sd.unusable = false))

theorem usable_of_not_found (other : ¬Found l daddr) : Usable l := by
  intro sd member
  by_contra unusable
  exact other (found_of_unusable member (by simpa using unusable))

theorem found_iff_mem (usable : Usable l) :
    Found l daddr ↔ daddr ∈ l.map Daddr.daddr := by
  constructor
  · rintro ⟨sd, member, found⟩
    rw [isFound, usable sd member, Bool.false_or, decide_eq_true_iff] at found
    exact List.mem_map.2 ⟨sd, member, found⟩
  · intro member
    obtain ⟨sd, member, same⟩ := List.mem_map.1 member
    exact ⟨sd, member, by simp [isFound, same]⟩

/-! ### One parameter -/

inductive Processed (env : Env) (sp : Sp) (p : Parm) : List Daddr → Answer → Prop
  | bad : Processed env sp p sp.daddr .badParm
  | kept : p.type = ADD_IP ∨ p.type = SET_IP → Found sp.daddr p.addr →
      Processed env sp p sp.daddr .success
  | added : p.type = ADD_IP → ¬Found sp.daddr p.addr →
      Processed env sp p (⟨p.addr, false, false⟩ :: sp.daddr) .success
  | refused : p.type = ADD_IP → ¬Found sp.daddr p.addr →
      Processed env sp p sp.daddr .error
  | absent : p.type = DEL_IP → ¬Found sp.daddr p.addr →
      Processed env sp p sp.daddr .success
  | deleted : p.type = DEL_IP → Found sp.daddr p.addr → p.addr ≠ env.saddr →
      sp.danum ≠ 1 → Processed env sp p (delDaddr p.addr sp.daddr) .success
  | denied : p.type = DEL_IP → Found sp.daddr p.addr →
      p.addr = env.saddr ∨ sp.danum = 1 → Processed env sp p sp.daddr .error

theorem add_daddr (sp : Sp) (env : Env) (daddr : Addr) :
    (sp.sctpAddDaddr env daddr).1.daddr =
      if (sp.sctpAddDaddr env daddr).2 then ⟨daddr, false, false⟩ :: sp.daddr
      else sp.daddr := by
  unfold Sp.sctpAddDaddr
  simp only
  split
  · rfl
  · split
    · rfl
    · split
      · rfl
      · split <;> rfl

theorem process_processed (env : Env) (sp : Sp) (p : Parm) :
    Processed env sp p (sp.process env p).1.daddr (sp.process env p).2 := by
  have unfit : Processed env sp p (sp.badParm p).1.daddr (sp.badParm p).2 := by
    unfold Sp.badParm
    simp only
    split <;> exact .bad
  unfold Sp.process
  split
  case isTrue add =>
    split
    case isTrue => exact unfit
    case isFalse =>
      split
      case isTrue found => exact .kept (.inl add) (isSome_iff_found.1 found)
      case isFalse none =>
        have other := fun found => none (isSome_iff_found.2 found)
        have daddr := add_daddr sp env p.addr
        simp only
        split
        case isTrue added =>
          rw [if_pos added] at daddr
          simp only [daddr]
          exact .added add other
        case isFalse refused =>
          rw [if_neg refused] at daddr
          simp only [daddr]
          exact .refused add other
  case isFalse =>
    split
    case isTrue del =>
      split
      case isTrue => exact unfit
      case isFalse =>
        split
        case isTrue none => exact .absent del (isNone_iff_not_found.1 none)
        case isFalse some =>
          have found : Found sp.daddr p.addr := by
            by_contra other
            exact some (isNone_iff_not_found.2 other)
          split
          case isTrue served => exact .deleted del found served.1 served.2
          case isFalse denied =>
            refine .denied del found ?_
            by_contra none
            push Not at none
            exact denied none
    case isFalse =>
      split
      case isTrue set =>
        split
        case isTrue => exact unfit
        case isFalse =>
          split
          case isTrue => exact unfit
          case isFalse some =>
            refine .kept (.inr set) ?_
            by_contra other
            exact some (isNone_iff_not_found.2 other)
      case isFalse => exact unfit

def Sp.able (sp : Sp) (p : Parm) : Bool :=
  p.wellFormed && if p.type = SET_IP then sp.setIp else sp.addIp

theorem types_ne : ADD_IP ≠ DEL_IP ∧ ADD_IP ≠ SET_IP ∧ DEL_IP ≠ SET_IP := by
  decide

def demand (answer : Parm × Answer) : Option (BitVec 32 × Bool) :=
  if answer.1.Known then some (answer.1.id, answer.2 = .success) else none

def told (after : Sp) (env : Env) (p : Parm) : Option (BitVec 32 × Bool) :=
  (after.respond env p).map Report.tells

def Settled (env : Env) (after : Sp) (p : Parm) : Answer → Prop
  | .success =>
      if p.type = DEL_IP then ¬Found after.daddr p.addr
      else Found after.daddr p.addr
  | .error =>
      if p.type = DEL_IP then Found after.daddr p.addr ∧
        (p.addr = env.saddr ∨ after.danum = 1)
      else ¬Found after.daddr p.addr
  | .badParm => False

section Able

variable (able : after.able p = true)

include able

end Able

def Frees (l : List Daddr) (daddr : Addr) : Prop :=
  Usable l ∧ (l.map Daddr.daddr).Nodup ∧ ∀ sd ∈ l, sd.daddr = daddr →
    sd.busy = false

instance (l : List Daddr) (daddr : Addr) : Decidable (Frees l daddr) :=
  inferInstanceAs (Decidable (_ ∧ _ ∧ _))

theorem delDaddr_of_frees (frees : Frees l daddr) :
    delDaddr daddr l = l.filter fun sd => sd.daddr ≠ daddr := by
  obtain ⟨usable, nodup, idle⟩ := frees
  induction l with
  | nil => rfl
  | cons sd rest ih =>
      have fine : sd.unusable = false := usable sd List.mem_cons_self
      rw [List.map_cons, List.nodup_cons] at nodup
      rw [delDaddr, isFound, fine, Bool.false_or]
      by_cases here : sd.daddr = daddr
      · rw [if_pos (decide_eq_true here), idle sd List.mem_cons_self here,
          if_neg (by simp), List.filter_cons_of_neg (by simpa using here)]
        refine (List.filter_eq_self.2 fun x member => ?_).symm
        rw [decide_eq_true_iff]
        rintro same
        exact nodup.1 (here ▸ same ▸ List.mem_map_of_mem member)
      · rw [if_neg (by simpa using here),
          List.filter_cons_of_pos (by simpa using here)]
        exact congrArg _ (ih (fun x member => usable x (List.mem_cons_of_mem _ member))
          nodup.2 fun x member => idle x (List.mem_cons_of_mem _ member))

theorem found_delDaddr (frees : Frees l daddr) :
    Found (delDaddr daddr l) b ↔ b ≠ daddr ∧ Found l b := by
  have whole := frees
  obtain ⟨usable, nodup, idle⟩ := whole
  rw [delDaddr_of_frees frees, found_iff_mem usable, found_iff_mem fun sd member =>
    usable sd (List.mem_filter.1 member).1]
  simp only [List.mem_map, List.mem_filter, decide_eq_true_eq]
  constructor
  · rintro ⟨sd, ⟨member, other⟩, rfl⟩
    exact ⟨other, sd, member, rfl⟩
  · rintro ⟨other, sd, member, rfl⟩
    exact ⟨sd, ⟨member, other⟩, rfl⟩

structure Proper (env : Env) (sp : Sp) (named : List Addr) (last : Bool)
    (p : Parm) : Prop where
  good : (sp.process env p).2 ≠ .badParm
  adds : p.type = ADD_IP → (sp.process env p).2 = .success →
    ¬Found sp.daddr p.addr → p.addr ∉ named ∧ last = false
  deletes : p.type = DEL_IP → (sp.process env p).2 = .success →
    Found sp.daddr p.addr → p.addr ∉ named ∧ Frees sp.daddr p.addr

instance (env : Env) (sp : Sp) (named : List Addr) (last : Bool) (p : Parm) :
    Decidable (Proper env sp named last p) :=
  have adds : Decidable (p.type = ADD_IP → (sp.process env p).2 = .success →
      ¬Found sp.daddr p.addr → p.addr ∉ named ∧ last = false) := inferInstance
  have deletes : Decidable (p.type = DEL_IP →
      (sp.process env p).2 = .success → Found sp.daddr p.addr →
        p.addr ∉ named ∧ Frees sp.daddr p.addr) := inferInstance
  have both := @instDecidableAnd _ _ adds deletes
  @decidable_of_iff _ _
    ⟨fun parts => ⟨parts.1, parts.2.1, parts.2.2⟩,
      fun proper => ⟨proper.good, proper.adds, proper.deletes⟩⟩
    (@instDecidableAnd ((sp.process env p).2 ≠ .badParm) _ inferInstance both)

def deniesLast (env : Env) (sp : Sp) (p : Parm) : Bool :=
  p.type = DEL_IP && (sp.process env p).2 = .error && p.addr ≠ env.saddr

def Clean (env : Env) : Sp → List Addr → Bool → List Parm → Prop
  | _, _, _, [] => True
  | sp, named, last, p :: parms =>
      if p.Known then
        Proper env sp named last p ∧
          Clean env (sp.process env p).1 (p.addr :: named)
            (last || deniesLast env sp p) parms
      else Clean env (sp.process env p).1 named last parms

instance decideClean (env : Env) : ∀ (sp : Sp) (named : List Addr) (last : Bool)
    (parms : List Parm), Decidable (Clean env sp named last parms)
  | _, _, _, [] => .isTrue trivial
  | sp, named, last, p :: parms =>
      have := decideClean env (sp.process env p).1 (p.addr :: named)
        (last || deniesLast env sp p) parms
      have := decideClean env (sp.process env p).1 named last parms
      inferInstanceAs (Decidable (if p.Known then _ else _))

theorem firstPass_cons {after : Sp} {answers : List (Parm × Answer)}
    (passed : sp.firstPass env (p :: parms) = (after, .ok answers)) :
    ∃ rest, answers = (p, (sp.process env p).2) :: rest ∧
      (sp.process env p).1.firstPass env parms = (after, .ok rest) := by
  rw [Sp.firstPass] at passed
  split at passed
  · cases passed
  · simp only at passed
    split at passed
    · cases passed
    · obtain ⟨same, mapped⟩ := Prod.mk.inj passed
      generalize (sp.process env p).1.firstPass env parms = out at same mapped
      obtain ⟨sp', result⟩ := out
      cases result with
      | error stop => cases mapped
      | ok rest =>
          refine ⟨rest, (Except.ok.inj mapped).symm, ?_⟩
          rw [← show sp' = after from same]

theorem process_unknown (unknown : ¬p.Known) :
    (sp.process env p).1.daddr = sp.daddr ∧
      (sp.process env p).2 = .badParm := by
  unfold Parm.Known at unknown
  push Not at unknown
  obtain ⟨notAdd, notDel, notSet⟩ := unknown
  unfold Sp.process
  rw [if_neg notAdd, if_neg notDel, if_neg notSet]
  unfold Sp.badParm
  simp only
  split <;> exact ⟨rfl, trivial⟩

theorem Proper.found {named : List Addr} {last : Bool}
    (proper : Proper env sp named last p) (member : b ∈ named) :
    Found (sp.process env p).1.daddr b ↔ Found sp.daddr b := by
  have processed := process_processed env sp p
  have adds := proper.adds
  have deletes := proper.deletes
  generalize (sp.process env p).1.daddr = l at processed ⊢
  generalize (sp.process env p).2 = answer at processed adds deletes
  cases processed with
  | added add other =>
      have fresh := (adds add rfl other).1
      rw [found_cons]
      refine or_iff_right fun found => ?_
      simp only [isFound, Bool.false_or, decide_eq_true_eq] at found
      exact fresh (found ▸ member)
  | deleted del found _ _ =>
      obtain ⟨fresh, frees⟩ := deletes del rfl found
      rw [found_delDaddr frees]
      exact and_iff_right fun same => fresh (same ▸ member)
  | _ => exact Iff.rfl

theorem deniesLast_iff : deniesLast env sp p = true ↔
    p.type = DEL_IP ∧ (sp.process env p).2 = .error ∧ p.addr ≠ env.saddr := by
  unfold deniesLast
  simp [and_assoc]

theorem Proper.last {named : List Addr} {last : Bool}
    (proper : Proper env sp named last p) (one : last = true → sp.danum = 1)
    (denied : (last || deniesLast env sp p) = true) :
    (sp.process env p).1.danum = 1 := by
  rw [Bool.or_eq_true, deniesLast_iff] at denied
  have processed := process_processed env sp p
  have adds := proper.adds
  unfold Sp.danum at one ⊢
  generalize (sp.process env p).1.daddr = l at processed ⊢
  generalize (sp.process env p).2 = answer at processed adds denied
  obtain already | ⟨del, error, other⟩ := denied
  · cases processed with
    | added add unfound =>
        have := (adds add rfl unfound).2
        rw [already] at this
        cases this
    | deleted _ _ _ many => exact absurd (one already) many
    | _ => exact one already
  · cases processed with
    | denied _ _ only => exact only.resolve_left other
    | refused add _ => exact absurd (add.symm.trans del) types_ne.1
    | _ => cases error

theorem Proper.settled {named : List Addr} {last : Bool}
    (proper : Proper env sp named last p)
    (found : Found after.daddr p.addr ↔
      Found (sp.process env p).1.daddr p.addr)
    (only : deniesLast env sp p = true → after.danum = 1) :
    Settled env after p (sp.process env p).2 := by
  obtain ⟨addDel, addSet, delSet⟩ := types_ne
  have processed := process_processed env sp p
  have good := proper.good
  have deletes := proper.deletes
  rw [deniesLast_iff] at only
  generalize (sp.process env p).1.daddr = l at processed found
  generalize (sp.process env p).2 = answer at processed good deletes only ⊢
  cases processed with
  | bad => exact absurd rfl good
  | kept type here =>
      have other : p.type ≠ DEL_IP := by
        obtain add | set := type
        · exact add ▸ addDel
        · exact set ▸ delSet.symm
      simpa only [Settled, if_neg other, found] using here
  | added add _ =>
      have other : p.type ≠ DEL_IP := add ▸ addDel
      simp [Settled, other, found, found_cons, isFound]
  | refused add unfound =>
      have other : p.type ≠ DEL_IP := add ▸ addDel
      simpa only [Settled, if_neg other, found] using unfound
  | absent del unfound =>
      simpa only [Settled, if_pos del, found] using unfound
  | deleted del here _ _ =>
      have frees := (deletes del rfl here).2
      simp [Settled, del, found, found_delDaddr frees]
  | denied del here _ =>
      simp only [Settled, if_pos del]
      refine ⟨found.2 here, ?_⟩
      by_cases source : p.addr = env.saddr
      · exact .inl source
      · exact .inr (only ⟨del, rfl, source⟩)

theorem Clean.settled {named : List Addr} {last : Bool}
    (clean : Clean env sp named last parms)
    (passed : sp.firstPass env parms = (after, .ok answers))
    (one : last = true → sp.danum = 1) :
    (∀ b ∈ named, Found after.daddr b ↔ Found sp.daddr b) ∧
      (last = true → after.danum = 1) ∧
      ∀ answer ∈ answers, answer.1.Known →
        Settled env after answer.1 answer.2 := by
  induction parms generalizing sp named last answers with
  | nil =>
      obtain ⟨rfl, same⟩ := Prod.mk.inj passed
      obtain rfl := Except.ok.inj same
      exact ⟨fun _ _ => Iff.rfl, one, nofun⟩
  | cons p parms ih =>
      obtain ⟨rest, rfl, onward⟩ := firstPass_cons passed
      rw [Clean] at clean
      split at clean
      case isTrue known =>
        obtain ⟨proper, clean⟩ := clean
        obtain ⟨found, only, settled⟩ := ih clean onward (proper.last one)
        refine ⟨fun b member => ?_, fun already => ?_, ?_⟩
        · rw [found b (List.mem_cons_of_mem _ member), proper.found member]
        · exact only (by rw [already]; rfl)
        · intro answer member known
          obtain rfl | member := List.mem_cons.1 member
          · exact proper.settled (found _ List.mem_cons_self) fun denied =>
              only (by rw [denied, Bool.or_true])
          · exact settled answer member known
      case isFalse unknown =>
        have same := (@process_unknown env sp p unknown).1
        obtain ⟨found, only, settled⟩ := ih clean onward (by
          unfold Sp.danum
          rw [same]
          exact one)
        rw [same] at found
        refine ⟨found, only, fun answer member known => ?_⟩
        obtain rfl | member := List.mem_cons.1 member
        · exact absurd known unknown
        · exact settled answer member known

/-! ### What settled answers tell of the first pass -/

structure Tidy (l : List Daddr) : Prop where
  nodup : (l.map Daddr.daddr).Nodup
  kept : ∀ sd ∈ l, sd.unusable = true → sd.busy = true

theorem delDaddr_sublist (daddr : Addr) (l : List Daddr) :
    ((delDaddr daddr l).map Daddr.daddr).Sublist (l.map Daddr.daddr) := by
  induction l with
  | nil => exact .slnil
  | cons sd rest ih =>
      rw [delDaddr]
      split
      · split
        · exact .refl _
        · exact List.sublist_cons_self _ _
      · exact ih.cons_cons _

theorem Tidy.delDaddr (tidy : Tidy l) (daddr : Addr) :
    Tidy (delDaddr daddr l) := by
  refine ⟨tidy.nodup.sublist (delDaddr_sublist daddr l), ?_⟩
  have kept := tidy.kept
  clear tidy
  induction l with
  | nil => exact nofun
  | cons sd rest ih =>
      rw [Asconf.delDaddr]
      have later := fun x member => kept x (List.mem_cons_of_mem sd member)
      split
      · split
        case isTrue busy =>
          intro x member unusable
          obtain rfl | member := List.mem_cons.1 member
          · exact busy
          · exact later x member unusable
        case isFalse => exact later
      · intro x member unusable
        obtain rfl | member := List.mem_cons.1 member
        · exact kept x List.mem_cons_self unusable
        · exact ih later x member unusable

theorem Tidy.process (tidy : Tidy sp.daddr) (env : Env) (p : Parm) :
    Tidy (sp.process env p).1.daddr := by
  have processed := process_processed env sp p
  generalize (sp.process env p).1.daddr = l at processed ⊢
  generalize (sp.process env p).2 = answer at processed
  cases processed with
  | added _ unfound =>
      refine ⟨?_, fun sd member unusable => ?_⟩
      · rw [List.map_cons, List.nodup_cons]
        refine ⟨fun member => unfound ?_, tidy.nodup⟩
        exact (found_iff_mem (usable_of_not_found unfound)).2 member
      · obtain rfl | member := List.mem_cons.1 member
        · cases unusable
        · exact tidy.kept sd member unusable
  | deleted => exact tidy.delDaddr p.addr
  | _ => exact tidy

def Stuck (l : List Daddr) : Prop :=
  ∃ sd ∈ l, sd.unusable = true ∧ sd.busy = true

theorem Stuck.delDaddr (stuck : Stuck l) (daddr : Addr) :
    Stuck (delDaddr daddr l) := by
  obtain ⟨sd, member, unusable, busy⟩ := stuck
  induction l with
  | nil => cases member
  | cons x rest ih =>
      rw [Asconf.delDaddr]
      obtain rfl | member := List.mem_cons.1 member
      · split
        · exact ⟨_, List.mem_cons_self, rfl, busy⟩
        · exact ⟨sd, List.mem_cons_self, unusable, busy⟩
      · split
        · split
          · exact ⟨sd, List.mem_cons_of_mem _ member, unusable, busy⟩
          · exact ⟨sd, member, unusable, busy⟩
        · obtain ⟨y, later, rest⟩ := ih member
          exact ⟨y, List.mem_cons_of_mem _ later, rest⟩

theorem Stuck.process (stuck : Stuck sp.daddr) (env : Env) (p : Parm) :
    Stuck (sp.process env p).1.daddr := by
  have processed := process_processed env sp p
  generalize (sp.process env p).1.daddr = l at processed ⊢
  generalize (sp.process env p).2 = answer at processed
  cases processed with
  | added =>
      obtain ⟨sd, member, rest⟩ := stuck
      exact ⟨sd, List.mem_cons_of_mem _ member, rest⟩
  | deleted => exact stuck.delDaddr p.addr
  | _ => exact stuck

theorem Stuck.firstPass (stuck : Stuck sp.daddr)
    (passed : sp.firstPass env parms = (after, .ok answers)) :
    Stuck after.daddr := by
  induction parms generalizing sp answers with
  | nil =>
      obtain ⟨rfl, -⟩ := Prod.mk.inj passed
      exact stuck
  | cons p parms ih =>
      obtain ⟨rest, -, onward⟩ := firstPass_cons passed
      exact ih (stuck.process env p) onward

theorem Stuck.found (stuck : Stuck l) (daddr : Addr) : Found l daddr := by
  obtain ⟨sd, member, unusable, -⟩ := stuck
  exact found_of_unusable member unusable

section Settled

variable {named : List Addr} {last : Bool} (tidy : Tidy sp.daddr)
  (settled : Settled env after p (sp.process env p).2)
  (found : ∀ b ∈ named, Found after.daddr b ↔ Found sp.daddr b)

include tidy settled found

omit tidy found in
theorem Proper.left (proper : Proper env sp named last p) :
    Found after.daddr p.addr ↔ Found (sp.process env p).1.daddr p.addr := by
  obtain ⟨addDel, -, delSet⟩ := types_ne
  have processed := process_processed env sp p
  have good := proper.good
  have deletes := proper.deletes
  generalize (sp.process env p).1.daddr = l at processed ⊢
  generalize (sp.process env p).2 = answer at processed good deletes settled
  cases processed with
  | bad => exact absurd rfl good
  | kept type here =>
      have other : p.type ≠ DEL_IP := by
        obtain add | set := type
        · exact add ▸ addDel
        · exact set ▸ delSet.symm
      rw [Settled, if_neg other] at settled
      exact iff_of_true settled here
  | added add _ =>
      rw [Settled, if_neg (add ▸ addDel)] at settled
      exact iff_of_true settled (by simp [found_cons, isFound])
  | refused add unfound =>
      rw [Settled, if_neg (add ▸ addDel)] at settled
      exact iff_of_false settled unfound
  | absent del unfound =>
      rw [Settled, if_pos del] at settled
      exact iff_of_false settled unfound
  | deleted del here _ _ =>
      rw [Settled, if_pos del] at settled
      refine iff_of_false settled ?_
      rw [found_delDaddr (deletes del rfl here).2]
      exact fun other => other.1 rfl
  | denied del here _ =>
      rw [Settled, if_pos del] at settled
      exact iff_of_true settled.1 here

end Settled

structure Faithful (answers : List (Parm × Answer)) (rlen : Nat)
    (reports : List Report) : Prop where
  fits : (reports.map Report.size).sum ≤ rlen
  tells : reports.map Report.tells = answers.filterMap demand

def request (type : BitVec 16) (id : BitVec 32) (addr : Addr) : Parm :=
  ⟨type, 16, id, IPV4_ADDR, 8, addr⟩

end OpenSS7.Sctp.Asconf
