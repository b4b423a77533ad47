import Mathlib.Algebra.Group.Basic
import Mathlib.Data.Int.Cast.Defs
import Mathlib.Logic.Function.Basic
import Mathlib.Tactic.Abel

/-!
Counters that a parent keeps of the classes of its children. A counter need not
start at the number of children in its class: what it is off by is its drift,
and a child that moves from one class to another leaves every drift alone when
the counters are moved with it.
-/

namespace Tally

variable {ι σ G : Type*} [DecidableEq σ] [AddCommGroupWithOne G]

def tally (classOf : ι → σ) (children : List ι) (s : σ) : G :=
  (children.countP fun i => classOf i = s : ℕ)

def moved (counter : σ → G) (old new : σ) : σ → G :=
  let lowered := Function.update counter old (counter old - 1)
  Function.update lowered new (lowered new + 1)

def drift (counter : σ → G) (classOf : ι → σ) (children : List ι) (s : σ) :
    G :=
  counter s - tally classOf children s

section Tally

variable {classOf : ι → σ}

@[simp] theorem tally_nil (s : σ) : tally (G := G) classOf [] s = 0 := by
  simp [tally]

theorem tally_cons (i : ι) (rest : List ι) (s : σ) :
    tally (G := G) classOf (i :: rest) s =
      tally classOf rest s + if classOf i = s then 1 else 0 := by
  unfold tally
  rw [List.countP_cons]
  split
  · simp_all
  · simp_all

theorem tally_congr {classOf' : ι → σ} {children : List ι}
    (same : ∀ i ∈ children, classOf' i = classOf i) (s : σ) :
    tally (G := G) classOf' children s = tally classOf children s := by
  unfold tally
  rw [List.countP_congr fun i held => by rw [same i held]]

theorem moved_apply (counter : σ → G) (old new s : σ) :
    moved counter old new s = counter s - (if old = s then 1 else 0) +
      if new = s then 1 else 0 := by
  unfold moved
  by_cases atNew : new = s
  · subst atNew
    by_cases atOld : old = new
    · subst atOld
      simp
    · simp [Function.update_of_ne (Ne.symm atOld), atOld]
  · by_cases atOld : old = s
    · subst atOld
      simp [Function.update_of_ne (Ne.symm atNew), atNew]
    · simp [Function.update_of_ne (Ne.symm atNew),
        Function.update_of_ne (Ne.symm atOld), atNew, atOld]

end Tally

section Update

variable [DecidableEq ι] {classOf : ι → σ} {counter : σ → G}
  {children : List ι}

theorem tally_update {i : ι} (once : children.Nodup) (member : i ∈ children)
    (new s : σ) :
    tally (G := G) (Function.update classOf i new) children s =
      tally classOf children s - (if classOf i = s then 1 else 0) +
        if new = s then 1 else 0 := by
  induction children with
  | nil => exact absurd member List.not_mem_nil
  | cons head rest ih =>
      rw [tally_cons, tally_cons]
      have apart := List.nodup_cons.mp once
      rcases List.mem_cons.mp member with here | later
      · subst here
        rw [Function.update_self, tally_congr fun j held =>
          Function.update_of_ne (ne_of_mem_of_not_mem held apart.1) _ _]
        abel
      · rw [ih apart.2 later, Function.update_of_ne
          (ne_of_mem_of_not_mem later apart.1).symm]
        abel

theorem drift_moved {i : ι} (once : children.Nodup) (member : i ∈ children)
    (new : σ) :
    drift (moved counter (classOf i) new) (Function.update classOf i new)
      children = drift counter classOf children := by
  funext s
  unfold drift
  rw [tally_update once member, moved_apply]
  abel

theorem drift_stranger {i : ι} (stranger : i ∉ children) (new : σ) :
    drift counter (Function.update classOf i new) children =
      drift counter classOf children := by
  funext s
  unfold drift
  rw [tally_congr fun j held =>
    Function.update_of_ne (ne_of_mem_of_not_mem held stranger) _ _]

end Update

section Drift

variable {classOf : ι → σ} {counter : σ → G} {children : List ι}

theorem exact_iff_drift :
    (∀ s, counter s = tally classOf children s) ↔
      drift counter classOf children = 0 := by
  constructor
  · intro exact
    funext s
    rw [drift, exact s, sub_self]
    rfl
  · intro none s
    exact sub_eq_zero.mp (congrFun none s)

end Drift

end Tally
