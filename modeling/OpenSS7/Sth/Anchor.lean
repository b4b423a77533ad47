import Mathlib.Data.List.Induction
import Mathlib.Data.List.Nodup
import OpenSS7.Lib.Runs

/-!
Modules on a stream: `str_i_push`, `str_i_pop` and `str_i_anchor`.
-/

namespace OpenSS7.Sth

namespace Anchor

def FMNAMESZ : Int := 8

inductive Errno where
  | EINVAL
  | EPERM
  /-- From `strncpy_from_user`. -/
  | copyin (err : Int)
  /-- From `strwaitopen` and `straccess_wlock`. -/
  | access (err : Int)
  /-- From `qattach`. -/
  | open (err : Int)
deriving DecidableEq

structure Module where
  name : String
  serial : Nat
deriving DecidableEq

structure Stdata where
  modules : List Module
  sdPushcnt : Nat
  sdNanchor : Nat
  sdNstrpush : Nat
deriving DecidableEq

structure Push where
  /-- The result of `strncpy_from_user`. -/
  copied : Int
  name : String
  /-- `fmod_find` finds a module. -/
  found : Bool
  strwaitopen : Option Int
  qattach : Option Int
deriving DecidableEq

structure Pop where
  strwaitopen : Option Int
  crUid : Nat
deriving DecidableEq

def strIPush (sd : Stdata) (serial : Nat) (push : Push) :
    Option Errno × Stdata :=
  if push.copied < 0 then
    (some (.copyin push.copied), sd)
  else if push.copied < 1 ∨ FMNAMESZ < push.copied then
    (some .EINVAL, sd)
  else if push.found = true then
    match push.strwaitopen with
    | some err => (some (.access err), sd)
    | none =>
        if sd.sdPushcnt < sd.sdNstrpush then
          match push.qattach with
          | some err => (some (.open err), sd)
          | none =>
              (none, { sd with
                modules := ⟨push.name, serial⟩ :: sd.modules
                sdPushcnt := sd.sdPushcnt + 1 })
        else
          (some .EINVAL, sd)
  else
    (some .EINVAL, sd)

def strIPop (sd : Stdata) (pop : Pop) : Option Errno × Stdata :=
  match pop.strwaitopen with
  | some err => (some (.access err), sd)
  | none =>
      if 0 < sd.sdPushcnt then
        if sd.sdNanchor ≤ sd.sdPushcnt ∨ pop.crUid = 0 then
          (none, { sd with
            modules := sd.modules.tail
            sdPushcnt := sd.sdPushcnt - 1 })
        else
          (some .EPERM, sd)
      else
        (some .EINVAL, sd)

def strIAnchor (sd : Stdata) (straccess : Option Int) :
    Option Errno × Stdata :=
  match straccess with
  | some err => (some (.access err), sd)
  | none => (none, { sd with sdNanchor := sd.sdPushcnt })

inductive Request where
  | push (push : Push)
  | pop (pop : Pop)
  | anchor (straccess : Option Int)
deriving DecidableEq

structure Watched where
  sd : Stdata
  anchored : List Module
  opened : Nat
  pushes : Nat
  pops : Nat
deriving DecidableEq

def Watched.step (w : Watched) : Request → Watched
  | .push push =>
      match strIPush w.sd w.opened push with
      | (none, sd) =>
          { w with sd := sd, opened := w.opened + 1, pushes := w.pushes + 1 }
      | (some _, sd) => { w with sd := sd }
  | .pop pop =>
      match strIPop w.sd pop with
      | (none, sd) => { w with sd := sd, pops := w.pops + 1 }
      | (some _, sd) => { w with sd := sd }
  | .anchor straccess =>
      match strIAnchor w.sd straccess with
      | (none, sd) => { w with sd := sd, anchored := w.sd.modules }
      | (some _, sd) => { w with sd := sd }

def start (autopushed : List String) (nstrpush : Nat) : Watched where
  sd :=
    { modules := autopushed.mapIdx fun i name => ⟨name, i⟩
      sdPushcnt := 0
      sdNanchor := 0
      sdNstrpush := nstrpush }
  anchored := autopushed.mapIdx fun i name => ⟨name, i⟩
  opened := autopushed.length
  pushes := 0
  pops := 0

def Guarded (w : Watched) : Request → Prop
  | .pop pop => pop.crUid ≠ 0 →
      (∀ m ∈ w.sd.modules, m ∈ w.anchored → m ∈ (strIPop w.sd pop).2.modules) ∧
      (pop.strwaitopen = none → 0 < w.sd.sdPushcnt →
        (∃ m ∈ w.sd.modules.head?, m ∈ w.anchored) →
          strIPop w.sd pop = (some .EPERM, w.sd))
  | _ => True

def Above (w : Watched) : Request → Prop
  | .pop pop => pop.crUid ≠ 0 → pop.strwaitopen = none →
      0 < w.sd.sdPushcnt → w.sd.modules ≠ w.anchored
  | _ => True

/-- `sd_pushcnt` tells what was pushed and not popped. -/
def Counted (w : Watched) : Prop :=
  w.sd.sdPushcnt + w.pops = w.pushes ∧ w.sd.sdPushcnt ≤ w.sd.sdNstrpush

structure Layers (w : Watched) (base top kept gone : List Module) : Prop where
  modules : w.sd.modules = top ++ (kept ++ base)
  anchored : w.anchored = gone ++ (kept ++ base)
  pushcnt : w.sd.sdPushcnt = (top ++ kept).length
  nanchor : w.sd.sdNanchor = (gone ++ kept).length
  nodup : w.sd.modules.Nodup
  fresh : ∀ m ∈ top, m ∉ w.anchored
  old : ∀ m ∈ w.sd.modules ++ w.anchored, m.serial < w.opened

def Layered (base : List Module) (w : Watched) : Prop :=
  ∃ top kept gone, Layers w base top kept gone

section Step

variable {w : Watched} {base : List Module}

theorem strIPush_cases (sd : Stdata) (serial : Nat) (push : Push) :
    (∃ err, strIPush sd serial push = (some err, sd)) ∨
      sd.sdPushcnt < sd.sdNstrpush ∧
        strIPush sd serial push = (none, { sd with
          modules := ⟨push.name, serial⟩ :: sd.modules
          sdPushcnt := sd.sdPushcnt + 1 }) := by
  unfold strIPush
  split
  · exact .inl ⟨_, rfl⟩
  split
  · exact .inl ⟨_, rfl⟩
  split
  case isFalse => exact .inl ⟨_, rfl⟩
  cases push.strwaitopen with
  | some err => exact .inl ⟨_, rfl⟩
  | none =>
      by_cases room : sd.sdPushcnt < sd.sdNstrpush
      · cases push.qattach with
        | some err => exact .inl ⟨_, if_pos room⟩
        | none => exact .inr ⟨room, if_pos room⟩
      · exact .inl ⟨_, if_neg room⟩

theorem strIPop_cases (sd : Stdata) (pop : Pop) :
    (∃ err, strIPop sd pop = (some err, sd)) ∨
      0 < sd.sdPushcnt ∧
        strIPop sd pop = (none, { sd with
          modules := sd.modules.tail
          sdPushcnt := sd.sdPushcnt - 1 }) := by
  unfold strIPop
  cases pop.strwaitopen with
  | some err => exact .inl ⟨_, rfl⟩
  | none =>
      by_cases some : 0 < sd.sdPushcnt
      · by_cases allowed : sd.sdNanchor ≤ sd.sdPushcnt ∨ pop.crUid = 0
        · exact .inr ⟨some, (if_pos some).trans (if_pos allowed)⟩
        · exact .inl ⟨_, (if_pos some).trans (if_neg allowed)⟩
      · exact .inl ⟨_, if_neg some⟩

inductive Watched.Steps (w : Watched) : Watched → Prop where
  | refused : Steps w w
  | pushed (name : String) (room : w.sd.sdPushcnt < w.sd.sdNstrpush) :
      Steps w
        { w with
          sd :=
            { w.sd with
              modules := ⟨name, w.opened⟩ :: w.sd.modules
              sdPushcnt := w.sd.sdPushcnt + 1 }
          opened := w.opened + 1
          pushes := w.pushes + 1 }
  | popped (some : 0 < w.sd.sdPushcnt) :
      Steps w
        { w with
          sd :=
            { w.sd with
              modules := w.sd.modules.tail
              sdPushcnt := w.sd.sdPushcnt - 1 }
          pops := w.pops + 1 }
  | anchored :
      Steps w
        { w with
          sd := { w.sd with sdNanchor := w.sd.sdPushcnt }
          anchored := w.sd.modules }

theorem Watched.steps (w : Watched) (request : Request) :
    w.Steps (w.step request) := by
  cases request with
  | push push =>
      obtain ⟨err, eq⟩ | ⟨room, eq⟩ := strIPush_cases w.sd w.opened push
      · rw [Watched.step, eq]
        exact .refused
      · rw [Watched.step, eq]
        exact .pushed push.name room
  | pop pop =>
      obtain ⟨err, eq⟩ | ⟨some, eq⟩ := strIPop_cases w.sd pop
      · rw [Watched.step, eq]
        exact .refused
      · rw [Watched.step, eq]
        exact .popped some
  | anchor straccess =>
      cases straccess with
      | some err => exact .refused
      | none => exact .anchored

theorem Counted.step (counted : Counted w) (request : Request) :
    Counted (w.step request) := by
  obtain ⟨balance, limit⟩ := counted
  have steps := w.steps request
  generalize w.step request = w' at steps
  cases steps with
  | refused => exact ⟨balance, limit⟩
  | pushed name room =>
      refine ⟨?_, room⟩
      show w.sd.sdPushcnt + 1 + w.pops = w.pushes + 1
      omega
  | popped some =>
      refine ⟨?_, Nat.le_trans (Nat.sub_le _ _) limit⟩
      show w.sd.sdPushcnt - 1 + (w.pops + 1) = w.pushes
      omega
  | anchored => exact ⟨balance, limit⟩

variable {top kept gone : List Module}

theorem Layers.pushed (layers : Layers w base top kept gone)
    (name : String) :
    Layers
      { w with
        sd :=
          { w.sd with
            modules := ⟨name, w.opened⟩ :: w.sd.modules
            sdPushcnt := w.sd.sdPushcnt + 1 }
        opened := w.opened + 1
        pushes := w.pushes + 1 } base (⟨name, w.opened⟩ :: top) kept gone := by
  have new : ∀ m ∈ w.sd.modules ++ w.anchored, m ≠ ⟨name, w.opened⟩ := by
    rintro m member rfl
    exact Nat.lt_irrefl _ (layers.old _ member)
  refine ⟨?_, layers.anchored, ?_, layers.nanchor, ?_, ?_, ?_⟩
  · exact congrArg (⟨name, w.opened⟩ :: ·) layers.modules
  · exact congrArg (· + 1) layers.pushcnt
  · refine List.nodup_cons.mpr ⟨fun member => ?_, layers.nodup⟩
    exact new _ (List.mem_append_left _ member) rfl
  · intro m member
    rcases List.mem_cons.mp member with rfl | member
    · exact fun anchored => new _ (List.mem_append_right _ anchored) rfl
    · exact layers.fresh m member
  · intro m member
    rcases List.mem_cons.mp member with rfl | member
    · exact Nat.lt_succ_self _
    · exact Nat.lt_succ_of_lt (layers.old m member)

theorem Layers.popped (layers : Layers w base top kept gone)
    (some : 0 < w.sd.sdPushcnt) :
    Layered base
      { w with
        sd :=
          { w.sd with
            modules := w.sd.modules.tail
            sdPushcnt := w.sd.sdPushcnt - 1 }
        pops := w.pops + 1 } := by
  have nodup := layers.nodup.sublist (List.tail_sublist _)
  have old : ∀ m ∈ w.sd.modules.tail ++ w.anchored, m.serial < w.opened := by
    intro m member
    rcases List.mem_append.mp member with member | member
    · exact layers.old m (List.mem_append_left _ (List.mem_of_mem_tail member))
    · exact layers.old m (List.mem_append_right _ member)
  cases top with
  | cons m top =>
      refine ⟨top, kept, gone, ?_, layers.anchored, ?_, layers.nanchor,
        nodup, fun m member => layers.fresh m (List.mem_cons_of_mem _ member),
        old⟩
      · exact congrArg List.tail layers.modules
      · exact congrArg (· - 1) layers.pushcnt
  | nil =>
      cases kept with
      | nil =>
          rw [layers.pushcnt] at some
          exact absurd some (Nat.lt_irrefl 0)
      | cons m kept =>
          refine ⟨[], kept, gone ++ [m], ?_, ?_, ?_, ?_, nodup, nofun, old⟩
          · exact congrArg List.tail layers.modules
          · rw [layers.anchored]
            simp
          · exact congrArg (· - 1) layers.pushcnt
          · rw [layers.nanchor]
            simp

theorem Layers.anchoring (layers : Layers w base top kept gone) :
    Layers
      { w with
        sd := { w.sd with sdNanchor := w.sd.sdPushcnt }
        anchored := w.sd.modules } base [] (top ++ kept) [] := by
  refine ⟨?_, ?_, layers.pushcnt, layers.pushcnt, layers.nodup, nofun, ?_⟩
  · rw [List.nil_append, List.append_assoc]
    exact layers.modules
  · rw [List.nil_append, List.append_assoc]
    exact layers.modules
  · intro m member
    rw [List.mem_append, or_self] at member
    exact layers.old m (List.mem_append_left _ member)

theorem Layered.step (layered : Layered base w) (request : Request) :
    Layered base (w.step request) := by
  obtain ⟨top, kept, gone, layers⟩ := layered
  have steps := w.steps request
  generalize w.step request = w' at steps
  cases steps with
  | refused => exact ⟨top, kept, gone, layers⟩
  | pushed name room => exact ⟨_, _, _, layers.pushed name⟩
  | popped some => exact layers.popped some
  | anchored => exact ⟨_, _, _, layers.anchoring⟩

theorem start_layered (autopushed : List String) (nstrpush : Nat) :
    Layered (autopushed.mapIdx fun i name => ⟨name, i⟩)
      (start autopushed nstrpush) := by
  refine ⟨[], [], [], rfl, rfl, rfl, rfl, ?_, nofun, ?_⟩
  · show (autopushed.mapIdx fun i name => (⟨name, i⟩ : Module)).Nodup
    rw [List.nodup_iff_getElem?_ne_getElem?]
    intro i j lt inside same
    rw [List.length_mapIdx] at inside
    rw [List.getElem?_mapIdx, List.getElem?_mapIdx,
      List.getElem?_eq_getElem (by omega), List.getElem?_eq_getElem inside]
      at same
    simp only [Option.map_some, Option.some.injEq, Module.mk.injEq] at same
    omega
  · intro m member
    rw [List.mem_append, start, or_self] at member
    obtain ⟨i, inside, rfl⟩ := List.mem_mapIdx.mp member
    exact inside

end Step

theorem strIPop_granted {sd : Stdata} {pop : Pop}
    (access : pop.strwaitopen = none) (some : 0 < sd.sdPushcnt)
    (privilege : pop.crUid ≠ 0) :
    strIPop sd pop =
      if sd.sdNanchor ≤ sd.sdPushcnt then
        (none, { sd with
          modules := sd.modules.tail
          sdPushcnt := sd.sdPushcnt - 1 })
      else (Option.some .EPERM, sd) := by
  simp only [strIPop, access, if_pos some, privilege, or_false]

theorem Layers.guarded_iff {w : Watched} {base top kept gone : List Module}
    (layers : Layers w base top kept gone) (request : Request) :
    Guarded w request ↔ Above w request := by
  cases request with
  | push | anchor => exact Iff.rfl
  | pop pop =>
      refine forall_congr' fun privilege => ?_
      cases access : pop.strwaitopen with
      | some err =>
          refine iff_of_true ⟨?_, nofun⟩ nofun
          simp only [strIPop, access]
          exact fun m member _ => member
      | none =>
          by_cases some : 0 < w.sd.sdPushcnt
          · rw [strIPop_granted access some privilege]
            cases top with
            | cons m top =>
                have clear := layers.fresh m List.mem_cons_self
                have first := layers.modules
                refine iff_of_true ⟨fun m' member anchored => ?_, ?_⟩ ?_
                · split
                  case isFalse => exact member
                  rw [first] at member ⊢
                  rcases List.mem_cons.mp member with rfl | member
                  · exact absurd anchored clear
                  · exact member
                · rintro - - ⟨m', head, anchored⟩
                  rw [first] at head
                  cases head
                  exact absurd anchored clear
                · intro _ _ same
                  rw [← same, first] at clear
                  exact clear List.mem_cons_self
            | nil =>
                cases kept with
                | nil =>
                    rw [layers.pushcnt] at some
                    exact absurd some (Nat.lt_irrefl 0)
                | cons m kept =>
                    have pushcnt := layers.pushcnt
                    have nanchor := layers.nanchor
                    have modules := layers.modules
                    have anchored := layers.anchored
                    cases gone with
                    | nil =>
                        refine iff_of_false (fun guarded => ?_) fun above =>
                          above rfl some (modules.trans anchored.symm)
                        have refused := guarded.2 rfl some ⟨m, by
                          rw [modules]; rfl, by
                          rw [anchored]; exact List.mem_cons_self⟩
                        rw [if_pos (Nat.le_of_eq (nanchor.trans pushcnt.symm))]
                          at refused
                        cases refused
                    | cons g gone =>
                        have below : ¬ w.sd.sdNanchor ≤ w.sd.sdPushcnt := by
                          rw [nanchor, pushcnt, List.nil_append,
                            List.length_append, List.length_cons]
                          omega
                        rw [if_neg below]
                        refine iff_of_true ⟨fun _ member _ => member,
                          fun _ _ _ => rfl⟩ fun _ _ same => ?_
                        have lengths := congrArg List.length same
                        rw [modules, anchored] at lengths
                        simp only [List.nil_append, List.length_append,
                          List.length_cons] at lengths
                        omega
          · refine iff_of_true ⟨?_, fun _ granted => absurd granted some⟩
              fun _ granted => absurd granted some
            simp only [strIPop, access, if_neg some]
            exact fun m member _ => member

/-- A stream counts what is pushed on it, and the modules below its anchor are
safe as long as no unprivileged I_POP comes upon just those. -/
theorem anchored_modules_stay (autopushed : List String) (nstrpush : Nat)
    (requests : List Request) :
    (∀ n, Counted ((requests.take n).foldl Watched.step
      (start autopushed nstrpush))) ∧
    (Runs.Along Watched.step Guarded (start autopushed nstrpush) requests ↔
      Runs.Along Watched.step Above (start autopushed nstrpush) requests) := by
  constructor
  · intro n
    induction requests.take n using List.reverseRecOn with
    | nil => exact ⟨rfl, Nat.zero_le _⟩
    | append_singleton requests request ih =>
        rw [List.foldl_append]
        exact ih.step request
  · refine Runs.along_congr (fun w request layered => layered.step request)
      (fun w request layered => ?_) (start_layered autopushed nstrpush) requests
    obtain ⟨top, kept, gone, layers⟩ := layered
    exact layers.guarded_iff request

theorem anchored_module_popped :
    ¬ ∀ (autopushed : List String) (nstrpush : Nat) (requests : List Request),
      Runs.Along Watched.step Guarded (start autopushed nstrpush) requests := by
  intro all
  have along := all [] 64 [.push ⟨7, "pckt", true, none, none⟩, .anchor none,
    .pop ⟨none, 500⟩]
  obtain ⟨-, -, guarded, -⟩ := along
  have refused := (guarded (by decide)).2 rfl (by decide) (by decide)
  exact absurd refused (by decide)

end Anchor

end OpenSS7.Sth
