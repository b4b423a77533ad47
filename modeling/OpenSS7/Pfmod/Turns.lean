import Mathlib.Tactic.IntervalCases
import OpenSS7.Pfmod.Validation

/-!
Half turns of `pfmod_filter`: when a command or an operator goes right, told
from the state before it, and what a run of clean half turns keeps.
-/

namespace OpenSS7.Pfmod

variable {f : List Word} {mp : List Block} {α β : Type}

section Halting

def Halting.Sound (P : α → Prop) : Halting α → Prop
  | .ok a => P a
  | .error (.ret _) => True
  | .error (.fault _) => False

namespace Halting

variable {P Q : α → Prop}

theorem Sound.mono {m : Halting α} (weaker : ∀ a, m = .ok a → P a → Q a)
    (sound : m.Sound P) : m.Sound Q := by
  cases m with
  | ok a => exact weaker a rfl sound
  | error stop =>
      cases stop with
      | ret verdict => trivial
      | fault why => exact sound

@[simp] theorem sound_ok (a : α) : Sound P (.ok a) ↔ P a := Iff.rfl

@[simp] theorem sound_reject : Sound P (reject : Halting α) ↔ True := Iff.rfl

@[simp] theorem sound_fault (why : Fault) :
    Sound P (fault why : Halting α) ↔ False := Iff.rfl

@[simp] theorem sound_bind {R : β → Prop} (m : Halting α) (g : α → Halting β) :
    Sound R (m >>= g) ↔ Sound (fun a => Sound R (g a)) m := by
  cases m with
  | ok a => rfl
  | error stop => cases stop <;> rfl

end Halting

open Halting

@[simp] theorem sound_fetch {P : Word → Prop} (i : Nat) :
    Sound P (fetch f i) ↔ ∃ o, f[i]? = some o ∧ P o := by
  unfold fetch
  cases f[i]? <;> simp

theorem Locals.sound_read {P : Word → Prop} (st : Locals) (i : Nat) :
    Sound P (st.read i) ↔ i < pfMaxfilters ∧ ∃ v, st.s i = some v ∧ P v := by
  unfold Locals.read
  by_cases low : i < pfMaxfilters
  · cases held : st.s i <;> simp [low]
  · simp [low]

theorem Locals.sound_write {P : Locals → Prop} (st : Locals) (i : Nat)
    (v : Word) :
    Sound P (st.write i v) ↔ i < pfMaxfilters ∧
      P { st with s := fun k => if k = i then some v else st.s k } := by
  unfold Locals.write
  by_cases low : i < pfMaxfilters <;> simp [low]

end Halting

open Halting

section Conditions

def Locals.Written (st : Locals) (i : Nat) : Prop := (st.s i).isSome = true

def Locals.BottomWritten (st : Locals) : Prop := st.si = 1 → st.Written 1

def Packs (mp : List Block) (cmd : Nat) : Prop :=
  cmd > enfDup →
    pfPack mp (BitVec.ofNat 16 cmd - BitVec.ofNat 16 enfPushword) ≠ none

def Claims (f : List Word) (mp : List Block) (o : Word) (st : Locals) : Prop :=
  pfCmd o ≠ enfNopush ∧ pfCmd o ≠ enfLoadOffset ∧
    popsStack (pfCmd o) = false ∧
    (takesLiteral (pfCmd o) = true → st.pi + 1 < f.length) ∧
    st.si + 1 ≤ f.length ∧ Packs mp (pfCmd o)

/-- When a command goes right: `loose` says that the run has met a word the
validator counts differently. -/
structure CommandClean (f : List Word) (mp : List Block) (loose : Bool)
    (o : Word) (st : Locals) : Prop where
  dup : pfCmd o = enfDup → st.si + 1 ≤ f.length → st.BottomWritten
  branch : pfCmd o = enfBrtr ∨ pfCmd o = enfBrfl → st.pi + 1 < f.length →
    st.si + 1 ≤ f.length → st.Written (st.si + 1)
  popoffset : loose = true → pfCmd o = enfPopoffset → st.BottomWritten
  claim : loose = true → Claims f mp o st → st.si + 1 < pfMaxfilters

structure OperatorClean (loose : Bool) (o : Word) (st : Locals) : Prop where
  depth : loose = true → pfOp o ≠ enfNop →
    1 ≤ st.si ∧ (st.si ≤ 2 → st.Written 1)
  divisor : pfOp o = enfDiv ∨ pfOp o = enfRem → 2 ≤ st.si →
    st.s st.si ≠ some 0

def Clean (f : List Word) (mp : List Block) (loose : Bool) (st : Locals) :
    Prop :=
  match st.o with
  | some o => OperatorClean loose o st
  | none =>
      match f[st.pi]? with
      | some o => CommandClean f mp loose o st
      | none => st.BottomWritten

def loosensAt (f : List Word) (st : Locals) : Bool :=
  match st.o with
  | some _ => false
  | none =>
      match f[st.pi]? with
      | some o => loosens o
      | none => false

inductive Reached (f : List Word) (mp : List Block) : Bool → Locals → Prop
  | start : Reached f mp false .start
  | step {loose : Bool} {st st' : Locals} (reached : Reached f mp loose st)
      (stepped : step f mp st = .ok st') :
      Reached f mp (loose || loosensAt f st) st'

def Safe (f : List Word) (mp : List Block) : Prop :=
  ∃ verdict, pfmodFilter f mp = .error (.ret verdict)

def Tracked (f : List Word) (st : Locals) : Prop :=
  match st.o with
  | none => validateFrom f.length (f.drop st.pi) st.pi st.si = true
  | some o => ∃ settled, validateOperator o st.si = some settled ∧
      validateFrom f.length (f.drop (st.pi + 1)) (st.pi + 1) settled = true

structure Standing (f : List Word) (loose : Bool) (st : Locals) : Prop where
  room : st.o.isSome = true → st.pi + 1 < 2 ^ 16
  top : st.si < pfMaxfilters
  base : st.Written 0
  held : ∀ i, 2 ≤ i → i ≤ st.si → st.Written i
  reach : ∀ i, st.Written i → i < pfMaxfilters
  tracked : loose = false → 1 ≤ st.si ∧ Tracked f st

end Conditions

section Commands

theorem sound_stepOver {P : Locals → Prop} {cmd : Nat} {st : Locals}
    (short : f.length ≤ pfMaxfilters) (here : st.pi < f.length) :
    (stepOver f cmd st).Sound P ↔
      ((takesLiteral cmd = true → st.pi + 1 < f.length) →
        P { st with pi := movedPi cmd st.pi }) := by
  have small : (st.pi + 1) % 2 ^ 16 = st.pi + 1 := by
    unfold pfMaxfilters at short
    omega
  unfold stepOver movedPi
  by_cases takes : takesLiteral cmd = true
  · simp only [takes, if_true, small, forall_const]
    by_cases next : st.pi + 1 < f.length
    · rw [if_neg (Nat.not_le_of_lt next)]
      simp [next]
    · rw [if_pos (Nat.le_of_not_lt next)]
      simp [next]
  · simp [takes]

theorem sound_moveTop {P : Locals → Prop} {cmd : Nat} {st : Locals}
    (top : st.si < pfMaxfilters) :
    (moveTop f cmd st).Sound P ↔
      ((popsStack cmd = true → st.si ≠ 0) →
        (popsStack cmd = false → cmd ≠ enfLoadOffset →
          st.si + 1 ≤ f.length) →
        P { st with si := movedTop cmd st.si }) := by
  have small : (st.si + 1) % 2 ^ 16 = st.si + 1 := by
    unfold pfMaxfilters at top
    omega
  unfold moveTop movedTop
  cases pops : popsStack cmd with
  | true =>
      by_cases zero : st.si = 0 <;> simp [zero]
  | false =>
      by_cases load : cmd = enfLoadOffset
      · simp [load]
      · simp only [Bool.false_eq_true, if_false, load, ne_eq,
          not_false_eq_true, if_true, small, forall_const, false_implies]
        by_cases room : st.si + 1 ≤ f.length
        · rw [if_neg (Nat.not_lt_of_le room)]
          simp [room]
        · rw [if_pos (Nat.lt_of_not_le room)]
          simp [room]

def Locals.moved (cmd : Nat) (st : Locals) : Locals :=
  { st with pi := movedPi cmd st.pi, si := movedTop cmd st.si }

structure Proceeds (f : List Word) (cmd : Nat) (st : Locals) : Prop where
  literal : takesLiteral cmd = true → st.pi + 1 < f.length
  popped : popsStack cmd = true → st.si ≠ 0
  raised : popsStack cmd = false → cmd ≠ enfLoadOffset → st.si + 1 ≤ f.length

theorem sound_command {P : Locals → Prop} {o : Word} {st : Locals}
    (short : f.length ≤ pfMaxfilters) (near : st.pi < f.length)
    (top : st.si < pfMaxfilters) (nopush : pfCmd o ≠ enfNopush) :
    (command f mp o st).Sound P ↔ (Proceeds f (pfCmd o) st →
      (perform f mp (pfCmd o) (st.moved (pfCmd o))).Sound P) := by
  unfold command
  rw [if_neg nopush, sound_bind, sound_stepOver short near]
  constructor
  · intro sound proceeds
    have sound := sound proceeds.literal
    rw [sound_bind] at sound
    exact (sound_moveTop (by exact top)).mp sound proceeds.popped
      proceeds.raised
  · intro sound literal
    rw [sound_bind]
    refine (sound_moveTop (by exact top)).mpr fun popped raised => ?_
    exact sound ⟨literal, popped, raised⟩

theorem perform_of_pushes {cmd : Nat} (pushes : Pushes cmd) (st : Locals) :
    perform f mp cmd st = pushed f mp cmd st >>= st.write st.si := by
  obtain ⟨load, brtr, brfl, pop, popoffset⟩ := pushes
  unfold perform
  split
  · exact absurd rfl load
  · exact absurd rfl brtr
  · exact absurd rfl brfl
  · exact absurd rfl pop
  · exact absurd rfl popoffset
  · rfl

theorem sound_pushed {P : Word → Prop} {cmd : Nat} {st : Locals}
    (literal : cmd = enfPushlit → st.pi < f.length)
    (below : cmd = enfDup → (st.belowTop).Sound fun _ => True)
    (all : Packs mp cmd → ∀ v, P v) : (pushed f mp cmd st).Sound P := by
  unfold pushed
  by_cases wide : cmd > enfDup
  · rw [if_pos wide]
    split
    · trivial
    · rename_i v packed
      exact all (fun _ => by rw [packed]; nofun) v
  · have every : ∀ v, P v := all fun is => absurd is wide
    rw [if_neg wide]
    split
    · rw [sound_fetch]
      have inside : st.pi < f.length := literal rfl
      exact ⟨f[st.pi], List.getElem?_eq_getElem inside, every _⟩
    · exact every _
    · exact every _
    · exact every _
    · exact every _
    · exact every _
    · exact every _
    · exact every _
    · exact (below rfl).mono fun v _ _ => every v
    · trivial

theorem sound_belowTop {P : Word → Prop} (st : Locals) :
    (st.belowTop).Sound P ↔ st.si ≠ 0 ∧ st.si - 1 < pfMaxfilters ∧
      ∃ v, st.s (st.si - 1) = some v ∧ P v := by
  unfold Locals.belowTop
  by_cases zero : st.si = 0
  · simp [zero]
  · rw [if_neg zero, st.sound_read]
    simp [zero]

structure Performed (cmd : Nat) (st st' : Locals) : Prop where
  si : st'.si = st.si
  low : Pushes cmd → st.si < pfMaxfilters
  slots : ∀ i, i ≠ st.si → st'.s i = st.s i
  top : Pushes cmd → st'.Written st.si
  kept : ¬ Pushes cmd → st'.s st.si = st.s st.si
  pi : cmd ≠ enfBrtr → cmd ≠ enfBrfl → st'.pi = st.pi
  ahead : st.pi ≤ st'.pi + 1
  room : st'.pi + 1 < 2 ^ 16

theorem Performed.written {cmd : Nat} {st : Locals}
    (room : st.pi + 1 < 2 ^ 16) (pushes : Pushes cmd)
    (low : st.si < pfMaxfilters) (v : Word) :
    Performed cmd st
      { st with s := fun k => if k = st.si then some v else st.s k } where
  si := rfl
  low := fun _ => low
  slots := fun i other => if_neg other
  top := fun _ => by simp [Locals.Written]
  kept := fun none => absurd pushes none
  pi := fun _ _ => rfl
  ahead := Nat.le_succ _
  room := room

theorem Performed.unwritten {cmd : Nat} {st : Locals} {z : Word} {pi : Nat}
    (room : pi + 1 < 2 ^ 16) (none : ¬ Pushes cmd)
    (same : cmd ≠ enfBrtr → cmd ≠ enfBrfl → pi = st.pi)
    (ahead : st.pi ≤ pi + 1) :
    Performed cmd st { st with z := z, pi := pi } where
  si := rfl
  low := fun pushes => absurd pushes none
  slots := fun _ _ => rfl
  top := fun pushes => absurd pushes none
  kept := fun _ => rfl
  pi := same
  ahead := ahead
  room := room

theorem branch_performed {cmd : Nat} {st : Locals} {operand : Word}
    (branches : cmd = enfBrtr ∨ cmd = enfBrfl)
    (next : f[st.pi]? = some operand) (near : st.pi < pfMaxfilters)
    (bound : operand.toNat < 22 * 2 ^ 10) (positive : 1 ≤ st.pi) :
    (branch f st).Sound (Performed cmd st) := by
  unfold branch
  unfold pfMaxfilters at near
  have landed : (st.pi + operand.toNat + (2 ^ 16 - 1)) % 2 ^ 16 =
      st.pi + operand.toNat - 1 := by
    omega
  simp only [sound_bind, sound_fetch]
  refine ⟨operand, next, ?_⟩
  rw [sound_ok, landed]
  have none : ¬ Pushes cmd :=
    not_pushes (branches.elim (fun same => .inr (.inl same))
      fun same => .inr (.inr (.inl same)))
  refine .unwritten (by omega) none (fun brtr brfl => ?_) (by omega)
  rcases branches with same | same
  · exact absurd same brtr
  · exact absurd same brfl

theorem sound_perform {cmd : Nat} {st : Locals}
    (near : st.pi < f.length) (short : f.length ≤ pfMaxfilters)
    (pushing : Pushes cmd → Packs mp cmd → st.si < pfMaxfilters)
    (below : cmd = enfDup → (st.belowTop).Sound fun _ => True)
    (top : cmd = enfBrtr ∨ cmd = enfBrfl →
      1 ≤ st.pi ∧ (st.read st.si).Sound (fun _ => True) ∧
      ∃ operand, f[st.pi]? = some operand ∧ operand.toNat < 22 * 2 ^ 10)
    (above : cmd = enfPopoffset → (st.read (st.si + 1)).Sound fun _ => True) :
    (perform f mp cmd st).Sound (Performed cmd st) := by
  have room : st.pi + 1 < 2 ^ 16 := by
    unfold pfMaxfilters at short
    omega
  have low : st.pi < pfMaxfilters := Nat.lt_of_lt_of_le near short
  by_cases pushes : Pushes cmd
  · rw [perform_of_pushes pushes, sound_bind]
    refine sound_pushed (fun _ => near) below fun packs v => ?_
    have low := pushing pushes packs
    rw [st.sound_write]
    exact ⟨low, .written room pushes low v⟩
  · have still : ∀ z, Performed cmd st { st with z := z } := fun z =>
      .unwritten room pushes (fun _ _ => rfl) (Nat.le_succ _)
    have branching : cmd = enfBrtr ∨ cmd = enfBrfl →
        (st.read st.si).Sound fun _ =>
          (branch f st).Sound (Performed cmd st) := by
      intro branches
      obtain ⟨positive, readable, operand, next, bound⟩ := top branches
      exact readable.mono fun _ _ _ =>
        branch_performed branches next low bound positive
    unfold perform
    split
    · simp only [sound_bind, sound_fetch]
      exact ⟨f[st.pi], List.getElem?_eq_getElem near, still _⟩
    · rw [sound_bind]
      refine (branching (.inl rfl)).mono fun v _ taken => ?_
      split
      · exact taken
      · exact still st.z
    · rw [sound_bind]
      refine (branching (.inr rfl)).mono fun v _ taken => ?_
      split
      · exact taken
      · exact still st.z
    · exact still st.z
    · rw [sound_bind]
      exact (above rfl).mono fun z _ _ => still z
    · rename_i load brtr brfl pop popoffset
      exact absurd ⟨load, brtr, brfl, pop, popoffset⟩ pushes

theorem drop_cons {i : Nat} {o : Word} (here : f[i]? = some o) :
    f.drop i = o :: f.drop (i + 1) := by
  obtain ⟨low, same⟩ := List.getElem?_eq_some_iff.mp here
  rw [← same]
  exact List.drop_eq_getElem_cons low

section Moved

variable {loose : Bool} {st : Locals} {o : Word}

theorem moved_low (standing : Standing f loose st)
    (clean : CommandClean f mp loose o st)
    (validated : loose = false → ∃ raised,
      validateCommand f.length o st.pi st.si = some raised)
    (nopush : pfCmd o ≠ enfNopush) (proceeds : Proceeds f (pfCmd o) st)
    (pushes : Pushes (pfCmd o)) (packs : Packs mp (pfCmd o)) :
    movedTop (pfCmd o) st.si < pfMaxfilters := by
  cases pops : popsStack (pfCmd o) with
  | true =>
      have top := standing.top
      rw [movedTop, if_pos pops]
      omega
  | false =>
      rw [movedTop_of_claims pops pushes.1]
      cases loose with
      | true =>
          exact clean.claim rfl ⟨nopush, pushes.1, pops, proceeds.literal,
            proceeds.raised pops pushes.1, packs⟩
      | false =>
          obtain ⟨raised, commanded⟩ := validated rfl
          exact claim_of_validateCommand commanded nopush pushes

theorem readable_top (standing : Standing f loose st)
    (bottom : st.BottomWritten) :
    (st.read st.si).Sound fun _ => True := by
  rw [st.sound_read]
  have written : st.Written st.si := by
    match h : st.si with
    | 0 => exact standing.base
    | 1 => exact bottom h
    | i + 2 => exact standing.held (i + 2) (by omega) (by omega)
  obtain ⟨v, held⟩ := Option.isSome_iff_exists.mp written
  exact ⟨standing.top, v, held, trivial⟩

end Moved

theorem perform_of_clean {loose : Bool} {st : Locals} {o : Word}
    (accepted : pfmodValidateFilter f = true)
    (standing : Standing f loose st) (here : f[st.pi]? = some o)
    (clean : CommandClean f mp loose o st)
    (validated : loose = false → ∃ raised,
      validateCommand f.length o st.pi st.si = some raised)
    (nopush : pfCmd o ≠ enfNopush) (proceeds : Proceeds f (pfCmd o) st) :
    (perform f mp (pfCmd o) (st.moved (pfCmd o))).Sound
      (Performed (pfCmd o) (st.moved (pfCmd o))) := by
  have short := length_of_accepted accepted
  have near : st.pi < f.length := (List.getElem?_eq_some_iff.mp here).1
  apply sound_perform
  · show movedPi (pfCmd o) st.pi < f.length
    unfold movedPi
    split
    · exact proceeds.literal ‹_›
    · exact near
  · exact short
  · exact moved_low standing clean validated nopush proceeds
  · intro dup
    have pops : popsStack (pfCmd o) = false := by
      rw [dup]
      decide
    have load : pfCmd o ≠ enfLoadOffset := by
      rw [dup]
      decide
    have readable := readable_top standing
      (clean.dup dup (proceeds.raised pops load))
    rw [st.sound_read] at readable
    rw [sound_belowTop]
    show movedTop (pfCmd o) st.si ≠ 0 ∧
      movedTop (pfCmd o) st.si - 1 < pfMaxfilters ∧
      ∃ v, st.s (movedTop (pfCmd o) st.si - 1) = some v ∧ True
    rw [movedTop_of_claims pops load, Nat.add_sub_cancel]
    exact ⟨Nat.succ_ne_zero _, readable⟩
  · intro branches
    obtain ⟨pops, load, takes⟩ := moved_claims_of_branch branches
    have next := proceeds.literal takes
    have written := clean.branch branches next (proceeds.raised pops load)
    obtain ⟨v, held⟩ := Option.isSome_iff_exists.mp written
    have pi : (st.moved (pfCmd o)).pi = st.pi + 1 := if_pos takes
    have si : (st.moved (pfCmd o)).si = st.si + 1 :=
      movedTop_of_claims pops load
    refine ⟨?_, ?_, f[st.pi + 1], ?_, ?_⟩
    · rw [pi]
      exact Nat.le_add_left 1 st.pi
    · rw [si, Locals.sound_read]
      exact ⟨standing.reach _ written, v, held, trivial⟩
    · rw [pi]
      exact List.getElem?_eq_getElem next
    · exact operand_lt accepted here branches (List.getElem?_eq_getElem next)
  · intro popoffset
    have pops : popsStack (pfCmd o) = true := by
      rw [popoffset]
      decide
    have some := proceeds.popped pops
    have si : (st.moved (pfCmd o)).si + 1 = st.si := by
      show movedTop (pfCmd o) st.si + 1 = st.si
      rw [movedTop, if_pos pops]
      omega
    rw [si]
    refine readable_top standing ?_
    cases loose with
    | true => exact clean.popoffset rfl popoffset
    | false =>
        have steady : loosens o = false := by
          unfold loosens
          rw [popoffset]
          decide
        obtain ⟨raised, commanded⟩ := validated rfl
        have deep := (counted_of_validateCommand steady commanded).deep
          popoffset
        intro bottom
        omega

theorem standing_of_performed {loose : Bool} {st st' : Locals} {o : Word}
    (standing : Standing f loose st) (clean : CommandClean f mp loose o st)
    (proceeds : Proceeds f (pfCmd o) st)
    (performed : Performed (pfCmd o) (st.moved (pfCmd o)) st')
    (tracked : (loose || loosens o) = false →
      1 ≤ st'.si ∧ Tracked f { st' with o := some o }) :
    Standing f (loose || loosens o) { st' with o := some o } := by
  have si : st'.si = movedTop (pfCmd o) st.si := performed.si
  have kept : ∀ i, st.Written i → st'.Written i := by
    intro i written
    by_cases top : i = movedTop (pfCmd o) st.si
    · by_cases pushes : Pushes (pfCmd o)
      · rw [top]
        exact performed.top pushes
      · have same : st'.s i = st.s i := by
          rw [top]
          exact performed.kept pushes
        unfold Locals.Written
        rw [same]
        exact written
    · have same : st'.s i = st.s i := performed.slots i top
      unfold Locals.Written
      rw [same]
      exact written
  -- the top is below, at, or one above where it was
  have top : movedTop (pfCmd o) st.si ≤ st.si ∨
      (movedTop (pfCmd o) st.si = st.si + 1 ∧
        st'.Written (st.si + 1) ∧ st.si + 1 < pfMaxfilters) := by
    cases pops : popsStack (pfCmd o) with
    | true =>
        rw [movedTop, if_pos pops]
        exact .inl (Nat.sub_le _ _)
    | false =>
        by_cases load : pfCmd o = enfLoadOffset
        · rw [movedTop, if_neg (by rw [pops]; decide), if_neg (by simpa)]
          exact .inl (Nat.le_refl _)
        · have above : movedTop (pfCmd o) st.si = st.si + 1 :=
            movedTop_of_claims pops load
          refine .inr ⟨above, ?_⟩
          by_cases branches : pfCmd o = enfBrtr ∨ pfCmd o = enfBrfl
          · obtain ⟨-, -, takes⟩ := moved_claims_of_branch branches
            have written := clean.branch branches (proceeds.literal takes)
              (proceeds.raised pops load)
            exact ⟨kept _ written, standing.reach _ written⟩
          · have pushes := pushes_of_claims pops load branches
            rw [← above]
            exact ⟨performed.top pushes, performed.low pushes⟩
  have low := standing.top
  refine ⟨fun _ => performed.room, ?_, kept 0 standing.base, ?_, ?_, tracked⟩
  · show st'.si < pfMaxfilters
    rw [si]
    rcases top with below | ⟨above, -, small⟩
    · exact Nat.lt_of_le_of_lt below low
    · rw [above]
      exact small
  · intro i high within
    replace within : i ≤ st'.si := within
    rw [si] at within
    rcases top with below | ⟨above, written, -⟩
    · exact kept i (standing.held i high (Nat.le_trans within below))
    · rw [above] at within
      rcases Nat.lt_or_eq_of_le within with lower | same
      · exact kept i (standing.held i high (Nat.le_of_lt_succ lower))
      · rw [same]
        exact written
  · intro i written
    by_cases same : i = movedTop (pfCmd o) st.si
    · rw [same]
      rcases top with below | ⟨above, -, small⟩
      · exact Nat.lt_of_le_of_lt below low
      · rw [above]
        exact small
    · have unchanged : st'.s i = st.s i := performed.slots i same
      refine standing.reach i ?_
      unfold Locals.Written
      rw [← unchanged]
      exact written

theorem validated_of_tracked {loose : Bool} {st : Locals} {o : Word}
    (standing : Standing f loose st) (fetching : st.o = none)
    (here : f[st.pi]? = some o) (tight : loose = false) :
    ∃ raised settled, validateCommand f.length o st.pi st.si = some raised ∧
      validateOperator o raised = some settled ∧
      if literalFollows o then
        validateFrom f.length (f.drop (st.pi + 2)) (st.pi + 2) settled = true
      else validateFrom f.length (f.drop (st.pi + 1)) (st.pi + 1) settled =
        true := by
  have tracked := (standing.tracked tight).2
  simp only [Tracked, fetching] at tracked
  rw [drop_cons here] at tracked
  have onward := validateFrom_cons tracked
  rwa [List.drop_drop] at onward

theorem command_standing {loose : Bool} {st : Locals} {o : Word}
    (accepted : pfmodValidateFilter f = true)
    (standing : Standing f loose st) (fetching : st.o = none)
    (here : f[st.pi]? = some o) (clean : CommandClean f mp loose o st) :
    (command f mp o st).Sound fun st' =>
      Standing f (loose || loosens o) { st' with o := some o } := by
  have short := length_of_accepted accepted
  have near : st.pi < f.length := (List.getElem?_eq_some_iff.mp here).1
  have tracked := validated_of_tracked standing fetching here
  by_cases nopush : pfCmd o = enfNopush
  · rw [command, if_pos nopush, sound_ok]
    refine ⟨fun _ => ?_, standing.top, standing.base, standing.held,
      standing.reach, fun tight => ?_⟩
    · show st.pi + 1 < 2 ^ 16
      unfold pfMaxfilters at short
      omega
    · obtain ⟨tight, steady⟩ := Bool.or_eq_false_iff.mp tight
      obtain ⟨raised, settled, commanded, operated, onward⟩ := tracked tight
      have plain : literalFollows o ≠ true := by
        unfold literalFollows
        rw [nopush]
        decide
      rw [if_neg plain] at onward
      have counted := counted_of_validateCommand steady commanded
      rw [counted.still nopush] at operated
      exact ⟨(standing.tracked tight).1, settled, operated, onward⟩
  · rw [sound_command short near standing.top nopush]
    intro proceeds
    refine (perform_of_clean accepted standing here clean ?_ nopush
      proceeds).mono fun st' _ performed => ?_
    · intro tight
      obtain ⟨raised, settled, commanded, -⟩ := tracked tight
      exact ⟨raised, commanded⟩
    · refine standing_of_performed standing clean proceeds performed ?_
      intro tight
      obtain ⟨tight, steady⟩ := Bool.or_eq_false_iff.mp tight
      obtain ⟨raised, settled, commanded, operated, onward⟩ := tracked tight
      have counted := counted_of_validateCommand steady commanded
      have depth : st'.si = raised :=
        performed.si.trans (counted.moved nopush).symm
      refine ⟨?_, settled, ?_, ?_⟩
      · rw [depth]
        exact counted.positive (standing.tracked tight).1
      · show validateOperator o st'.si = some settled
        rw [depth]
        exact operated
      · have literal : literalFollows o = takesLiteral (pfCmd o) := by
          rw [Bool.eq_iff_iff, takesLiteral_of_steady steady]
          simp only [loosens, Bool.or_eq_false_iff, beq_eq_false_iff_ne]
            at steady
          simp only [literalFollows, Bool.or_eq_true, beq_iff_eq]
          constructor
          · rintro (same | same)
            · exact same
            · exact absurd same steady.1.1.1
          · exact .inl
        have branches : pfCmd o ≠ enfBrtr ∧ pfCmd o ≠ enfBrfl := by
          simp only [loosens, Bool.or_eq_false_iff, beq_eq_false_iff_ne]
            at steady
          exact ⟨steady.1.1.2, steady.1.2⟩
        have pi : st'.pi = movedPi (pfCmd o) st.pi :=
          performed.pi branches.1 branches.2
        show validateFrom f.length (f.drop (st'.pi + 1)) (st'.pi + 1) settled =
          true
        rw [pi, movedPi]
        rw [literal] at onward
        by_cases takes : takesLiteral (pfCmd o) = true
        · rw [if_pos takes] at onward ⊢
          exact onward
        · rw [if_neg takes] at onward ⊢
          exact onward

theorem low_of_sound_push {cmd : Nat} {st : Locals} (nopush : cmd ≠ enfNopush)
    (pushes : Pushes cmd) (packs : Packs mp cmd)
    (sound : (perform f mp cmd st).Sound fun _ => True) :
    st.si < pfMaxfilters := by
  rw [perform_of_pushes pushes, sound_bind] at sound
  have writes : ∀ v, (st.write st.si v).Sound (fun _ => True) →
      st.si < pfMaxfilters := fun v sound => ((st.sound_write _ _).mp sound).1
  unfold pushed at sound
  by_cases wide : cmd > enfDup
  · rw [if_pos wide] at sound
    split at sound
    · rename_i missing
      exact absurd missing (packs wide)
    · exact writes _ sound
  · rw [if_neg wide] at sound
    obtain ⟨load, brtr, brfl, pop, popoffset⟩ := pushes
    split at sound
    · obtain ⟨v, -, sound⟩ := (sound_fetch _).mp sound
      exact writes v sound
    · exact writes _ sound
    · exact writes _ sound
    · exact writes _ sound
    · exact writes _ sound
    · exact writes _ sound
    · exact writes _ sound
    · exact writes _ sound
    · obtain ⟨-, -, v, -, sound⟩ := (sound_belowTop st).mp sound
      exact writes v sound
    · exfalso
      have low : cmd ≤ 14 := Nat.le_of_not_lt wide
      interval_cases cmd <;> simp_all

theorem clean_of_command {loose : Bool} {st : Locals} {o : Word}
    (accepted : pfmodValidateFilter f = true)
    (standing : Standing f loose st) (here : f[st.pi]? = some o)
    (sound : (command f mp o st).Sound fun _ => True) :
    CommandClean f mp loose o st := by
  have short := length_of_accepted accepted
  have near : st.pi < f.length := (List.getElem?_eq_some_iff.mp here).1
  have performs : pfCmd o ≠ enfNopush → Proceeds f (pfCmd o) st →
      (perform f mp (pfCmd o) (st.moved (pfCmd o))).Sound fun _ => True := by
    intro nopush
    rwa [sound_command short near standing.top nopush] at sound
  have branch : pfCmd o = enfBrtr ∨ pfCmd o = enfBrfl →
      st.pi + 1 < f.length → st.si + 1 ≤ f.length →
      st.Written (st.si + 1) := by
    intro branches next room
    obtain ⟨pops, load, -⟩ := moved_claims_of_branch branches
    have proceeds : Proceeds f (pfCmd o) st := by
      refine ⟨fun _ => next, fun popped => ?_, fun _ _ => room⟩
      rw [pops] at popped
      cases popped
    have reads : ((st.moved (pfCmd o)).read
        (st.moved (pfCmd o)).si).Sound fun _ => True := by
      rcases branches with same | same
      · have reads := performs (by rw [same]; decide) proceeds
        rw [same] at reads ⊢
        exact ((sound_bind _ _).mp reads).mono fun _ _ _ => trivial
      · have reads := performs (by rw [same]; decide) proceeds
        rw [same] at reads ⊢
        exact ((sound_bind _ _).mp reads).mono fun _ _ _ => trivial
    obtain ⟨-, v, held, -⟩ := (Locals.sound_read _ _).mp reads
    have held : st.s (movedTop (pfCmd o) st.si) = some v := held
    rw [movedTop_of_claims pops load] at held
    exact Option.isSome_iff_exists.mpr ⟨v, held⟩
  refine ⟨?_, branch, ?_, ?_⟩
  · intro dup room bottom
    have proceeds : Proceeds f (pfCmd o) st := by
      rw [dup]
      exact ⟨nofun, nofun, fun _ _ => room⟩
    have reads := performs (by rw [dup]; decide) proceeds
    rw [dup] at reads
    have reads : ((st.moved enfDup).belowTop).Sound fun _ => True :=
      ((sound_bind _ _).mp reads).mono fun _ _ _ => trivial
    obtain ⟨-, -, v, held, -⟩ := (sound_belowTop _).mp reads
    have held : st.s st.si = some v := held
    rw [bottom] at held
    exact Option.isSome_iff_exists.mpr ⟨v, held⟩
  · intro _ popoffset bottom
    have proceeds : Proceeds f (pfCmd o) st := by
      rw [popoffset]
      exact ⟨nofun, fun _ => by omega, nofun⟩
    have reads := performs (by rw [popoffset]; decide) proceeds
    rw [popoffset] at reads
    have reads : ((st.moved enfPopoffset).read
        ((st.moved enfPopoffset).si + 1)).Sound fun _ => True :=
      ((sound_bind _ _).mp reads).mono fun _ _ _ => trivial
    obtain ⟨-, v, held, -⟩ := (Locals.sound_read _ _).mp reads
    have held : st.s (st.si - 1 + 1) = some v := held
    rw [bottom] at held
    exact Option.isSome_iff_exists.mpr ⟨v, held⟩
  · rintro - ⟨nopush, load, pops, literal, room, packs⟩
    by_cases branches : pfCmd o = enfBrtr ∨ pfCmd o = enfBrfl
    · obtain ⟨-, -, takes⟩ := moved_claims_of_branch branches
      exact standing.reach _ (branch branches (literal takes) room)
    · have proceeds : Proceeds f (pfCmd o) st := by
        refine ⟨literal, fun popped => ?_, fun _ _ => room⟩
        rw [pops] at popped
        cases popped
      have si : (st.moved (pfCmd o)).si = st.si + 1 :=
        movedTop_of_claims pops load
      rw [← si]
      exact low_of_sound_push nopush (pushes_of_claims pops load branches)
        packs (performs nopush proceeds)

end Commands

section Operators

variable {loose : Bool} {st : Locals} {o : Word}

theorem sound_settle {P : Prop} (op : Nat) (v1 v2 : Word) (holds : P) :
    (settle op v1 v2).Sound fun _ => P := by
  unfold settle
  split
  · split
    · trivial
    · exact holds
  · split
    · trivial
    · exact holds
  · split
    · trivial
    · exact holds
  · split
    · trivial
    · exact holds
  · exact holds

theorem sound_result (op : Nat) (v1 v2 : Word) :
    (result op v1 v2).Sound (fun _ => True) ↔
      (op = enfDiv ∨ op = enfRem → v2 ≠ 0) := by
  by_cases divides : op = enfDiv ∨ op = enfRem
  · have same : (result op v1 v2).Sound (fun _ => True) ↔ v2 ≠ 0 := by
      rcases divides with same | same
      · rw [same, result]
        by_cases zero : v2 = 0
        · rw [if_pos zero]
          exact ⟨False.elim, fun some => some zero⟩
        · rw [if_neg zero]
          exact ⟨fun _ => zero, fun _ => trivial⟩
      · rw [same, result]
        by_cases zero : v2 = 0
        · rw [if_pos zero]
          exact ⟨False.elim, fun some => some zero⟩
        · rw [if_neg zero]
          exact ⟨fun _ => zero, fun _ => trivial⟩
    rw [same]
    exact ⟨fun some _ => some, fun some => some divides⟩
  · refine ⟨fun _ is => absurd is divides, fun _ => ?_⟩
    unfold result
    split <;> first | trivial | exact absurd (by simp) divides

theorem operands_of_clean (standing : Standing f loose st)
    (clean : OperatorClean loose o st) (pending : st.o = some o)
    (operates : pfOp o ≠ enfNop) :
    1 ≤ st.si ∧ st.Written (st.si - 1) ∧ st.Written st.si := by
  have depth : 1 ≤ st.si ∧ (st.si ≤ 2 → st.Written 1) := by
    cases loose with
    | true => exact clean.depth rfl operates
    | false =>
        obtain ⟨-, tracked⟩ := standing.tracked rfl
        simp only [Tracked, pending] at tracked
        obtain ⟨settled, operated, -⟩ := tracked
        have deep := (operated_of_validateOperator operated operates).2.1
        exact ⟨by omega, fun shallow => by omega⟩
  obtain ⟨positive, bottom⟩ := depth
  have written : ∀ i, i ≤ st.si → st.si - 1 ≤ i → st.Written i := by
    intro i within near
    match i with
    | 0 => exact standing.base
    | 1 => exact bottom (by omega)
    | i + 2 => exact standing.held (i + 2) (by omega) within
  exact ⟨positive, written _ (Nat.sub_le _ _) (Nat.le_refl _),
    written _ (Nat.le_refl _) (Nat.sub_le _ _)⟩

structure Operated (op : Nat) (st st' : Locals) : Prop where
  pi : st'.pi = st.pi
  kept : ∀ i, st.Written i → st'.Written i
  only : ∀ i, st'.Written i → st.Written i ∨ i ≤ st.si
  still : op = enfNop → st'.si = st.si
  moved : op ≠ enfNop → st'.si = operatedTop op st.si

theorem operatedTop_le (op si : Nat) : operatedTop op si ≤ si := by
  unfold operatedTop
  split
  · exact Nat.le_refl si
  · split
    · exact Nat.sub_le si 2
    · exact Nat.sub_le si 1

theorem operatedTop_pos {op si : Nat} (deep : 4 ≤ si) :
    1 ≤ operatedTop op si := by
  unfold operatedTop
  split
  · omega
  · split <;> omega

def Locals.onward (st : Locals) : Locals :=
  { st with pi := (st.pi + 1) % 2 ^ 16, o := none }

theorem standing_of_operated {st' : Locals} (standing : Standing f loose st)
    (pending : st.o = some o) (operated : Operated (pfOp o) st st') :
    Standing f loose st'.onward := by
  have lower : st'.si ≤ st.si := by
    by_cases nop : pfOp o = enfNop
    · exact Nat.le_of_eq (operated.still nop)
    · rw [operated.moved nop]
      exact operatedTop_le _ _
  have room := standing.room (by rw [pending]; rfl)
  have top := standing.top
  refine ⟨nofun, Nat.lt_of_le_of_lt lower top, operated.kept 0 standing.base,
    ?_, ?_, ?_⟩
  · intro i high within
    exact operated.kept i (standing.held i high (Nat.le_trans within lower))
  · intro i written
    rcases operated.only i written with was | below
    · exact standing.reach i was
    · exact Nat.lt_of_le_of_lt below top
  · intro tight
    obtain ⟨positive, tracked⟩ := standing.tracked tight
    simp only [Tracked, pending] at tracked
    obtain ⟨settled, validated, onward⟩ := tracked
    have next : (st'.pi + 1) % 2 ^ 16 = st.pi + 1 := by
      rw [operated.pi, Nat.mod_eq_of_lt room]
    have depth : 1 ≤ st'.si ∧ st'.si = settled := by
      by_cases nop : pfOp o = enfNop
      · rw [validateOperator, if_pos nop] at validated
        cases validated
        rw [operated.still nop]
        exact ⟨positive, rfl⟩
      · obtain ⟨-, deep, same⟩ := operated_of_validateOperator validated nop
        rw [operated.moved nop, same]
        exact ⟨operatedTop_pos deep, rfl⟩
    refine ⟨depth.1, ?_⟩
    show validateFrom f.length (f.drop ((st'.pi + 1) % 2 ^ 16))
      ((st'.pi + 1) % 2 ^ 16) st'.si = true
    rw [next, depth.2]
    exact onward

theorem written_update {s : Nat → Option Word} {i k : Nat} {v : Word}
    (written : (s i).isSome = true) :
    (if i = k then some v else s i).isSome = true := by
  split
  · rfl
  · exact written

theorem of_written_update {s : Nat → Option Word} {i k top : Nat} {v : Word}
    (within : k ≤ top)
    (written : (if i = k then some v else s i).isSome = true) :
    (s i).isSome = true ∨ i ≤ top := by
  split at written
  · rename_i same
    rw [same]
    exact .inr within
  · exact .inl written

theorem operate_operated (standing : Standing f loose st)
    (pending : st.o = some o) (clean : OperatorClean loose o st) :
    (operate (pfOp o) st).Sound (Operated (pfOp o) st) := by
  have top := standing.top
  unfold operate
  by_cases nop : pfOp o = enfNop
  · rw [if_pos nop, sound_ok]
    exact ⟨rfl, fun _ => id, fun _ => .inl, fun _ => rfl,
      fun operates => absurd nop operates⟩
  · rw [if_neg nop, sound_bind, sound_belowTop]
    obtain ⟨positive, written, held⟩ :=
      operands_of_clean standing clean pending nop
    obtain ⟨v1, read1⟩ := Option.isSome_iff_exists.mp written
    obtain ⟨v2, read2⟩ := Option.isSome_iff_exists.mp held
    refine ⟨by omega, by omega, v1, read1, ?_⟩
    rw [sound_bind, st.sound_read]
    refine ⟨top, v2, read2, ?_⟩
    split
    · trivial
    · rename_i enough
      split
      · rename_i swap
        rw [sound_bind, st.sound_write]
        refine ⟨top, ?_⟩
        rw [Locals.sound_write]
        refine ⟨Nat.lt_of_le_of_lt (Nat.sub_le _ 1) top, ?_⟩
        constructor
        · rfl
        · exact fun i was => written_update (written_update was)
        · intro i now
          rcases of_written_update (Nat.sub_le st.si 1) now with was | below
          · exact of_written_update (Nat.le_refl st.si) was
          · exact .inr below
        · exact fun is => absurd is nop
        · intro _
          rw [operatedTop, if_pos swap]
      · rename_i swap
        split
        · rename_i consumed
          rw [sound_bind]
          refine sound_settle _ v1 v2 ?_
          refine ⟨rfl, fun _ => id, fun _ => .inl, fun is => absurd is nop, ?_⟩
          intro _
          rw [operatedTop, if_neg swap, if_pos consumed]
        · rename_i consumed
          rw [sound_bind]
          have divisor : (result (pfOp o) v1 v2).Sound fun _ => True := by
            rw [sound_result]
            intro divides zero
            refine clean.divisor divides (by omega) ?_
            rw [read2, zero]
          refine divisor.mono fun v _ _ => ?_
          rw [Locals.sound_write]
          refine ⟨Nat.lt_of_le_of_lt (Nat.sub_le _ 1) top, ?_⟩
          constructor
          · rfl
          · exact fun i was => written_update was
          · exact fun i now => of_written_update (Nat.sub_le st.si 1) now
          · exact fun is => absurd is nop
          · intro _
            rw [operatedTop, if_neg swap, if_neg consumed]

theorem clean_of_operate (standing : Standing f loose st)
    (sound : (operate (pfOp o) st).Sound fun _ => True) :
    OperatorClean loose o st := by
  have reads : pfOp o ≠ enfNop → st.si ≠ 0 ∧ ∃ v1, st.s (st.si - 1) = some v1 ∧
      ∃ v2, st.s st.si = some v2 ∧ (2 ≤ st.si →
        pfOp o = enfDiv ∨ pfOp o = enfRem → v2 ≠ 0) := by
    intro operates
    rw [operate, if_neg operates, sound_bind, sound_belowTop] at sound
    obtain ⟨positive, -, v1, read1, sound⟩ := sound
    rw [sound_bind, st.sound_read] at sound
    obtain ⟨-, v2, read2, sound⟩ := sound
    refine ⟨positive, v1, read1, v2, read2, fun enough divides => ?_⟩
    have notSwap : pfOp o ≠ enfSwap := by
      rcases divides with same | same <;> rw [same] <;> decide
    have notConsumes : consumes (pfOp o) ≠ true := by
      rcases divides with same | same <;> rw [same] <;> decide
    rw [if_neg (Nat.not_lt_of_le enough), if_neg notSwap, if_neg notConsumes,
      sound_bind] at sound
    exact (sound_result _ v1 v2).mp (sound.mono fun _ _ _ => trivial) divides
  constructor
  · intro _ operates
    obtain ⟨positive, v1, read1, v2, read2, -⟩ := reads operates
    refine ⟨by omega, fun shallow => ?_⟩
    have either : st.si = 1 ∨ st.si - 1 = 1 := by omega
    rcases either with same | same
    · rw [same] at read2
      exact Option.isSome_iff_exists.mpr ⟨v2, read2⟩
    · rw [same] at read1
      exact Option.isSome_iff_exists.mpr ⟨v1, read1⟩
  · intro divides enough zero
    have operates : pfOp o ≠ enfNop := by
      rcases divides with same | same <;> rw [same] <;> decide
    obtain ⟨-, -, -, v2, read2, some⟩ := reads operates
    rw [read2] at zero
    exact some enough divides (Option.some.inj zero)

end Operators

end OpenSS7.Pfmod
