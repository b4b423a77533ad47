import OpenSS7.Mtp3.Hierarchy

/-!
The counters of the hierarchy: what each state change function does to the
counters of the parents and to the states they count. A child that changes its
state moves one counter down and another up, so that no function changes by how
much the counters of a parent are off.
-/

namespace OpenSS7.Mtp3

open Program

inductive Level where
  | rt
  | rl
  | sl
  | lk
  | ls
deriving DecidableEq

def Level.up : Level → Option Level
  | rt => some rl
  | rl => none
  | sl => some lk
  | lk => some ls
  | ls => none

structure Books where
  counters : Level → Nat → Counters
  state : Level → Nat → State
  parent : Level → Nat → Nat
  lkRts : Nat → List Nat
  lsRls : Nat → List Nat

def Net.books (n : Net) : Books where
  counters
    | .rt, p => (n.rl p).rts
    | .rl, p => (n.rs p).rls
    | .sl, p => (n.lk p).sls
    | .lk, p => (n.ls p).lks
    | .ls, p => (n.sp p).lss
  state
    | .rt, i => (n.rt i).state
    | .rl, i => (n.rl i).state
    | .sl, i => (n.sl i).state
    | .lk, i => (n.lk i).state
    | .ls, i => (n.ls i).state
  parent
    | .rt, i => (n.rt i).rl
    | .rl, i => (n.rl i).rs
    | .sl, i => (n.sl i).lk
    | .lk, i => (n.lk i).ls
    | .ls, i => (n.ls i).sp
  lkRts i := (n.lk i).rts.list
  lsRls i := (n.ls i).rls.list

namespace Books

def Entered (b : Books) (level : Level) (i : Nat) : Prop :=
  i ∈ (b.counters level (b.parent level i)).list

structure Proper (b : Books) : Prop where
  once : ∀ level p, (b.counters level p).list.Nodup
  parent : ∀ level p, ∀ i ∈ (b.counters level p).list, b.parent level i = p
  up : ∀ level level', level.up = some level' → ∀ i, b.Entered level i →
    b.Entered level' (b.parent level i)
  routes : ∀ lk, ∀ rt ∈ b.lkRts lk, b.Entered .rt rt
  routeLists : ∀ ls, ∀ rl ∈ b.lsRls ls, b.Entered .rl rl

def drift (b : Books) (level : Level) (p : Nat) : Fin 9 → BitVec 64 :=
  Tally.drift (b.counters level p).states (fun i => (b.state level i).number)
    (b.counters level p).list

def setCounters (b : Books) (level : Level) (p : Nat) (c : Counters) :
    Books :=
  { b with
    counters := Function.update b.counters level
      (Function.update (b.counters level) p c) }

def enter (b : Books) (level : Level) (i : Nat) (newstate : State) : Books :=
  { b with
    state := Function.update b.state level
      (Function.update (b.state level) i newstate) }

def setParent (b : Books) (level : Level) (i p : Nat) : Books :=
  { b with
    parent := Function.update b.parent level
      (Function.update (b.parent level) i p) }

def setLkRts (b : Books) (lk : Nat) (rts : List Nat) : Books :=
  { b with lkRts := Function.update b.lkRts lk rts }

def setLsRls (b : Books) (ls : Nat) (rls : List Nat) : Books :=
  { b with lsRls := Function.update b.lsRls ls rls }

def count (b : Books) (level : Level) (p : Nat) (oldstate newstate : State) :
    Books :=
  b.setCounters level p ((b.counters level p).move oldstate newstate)

section Same

variable (b : Books) (level : Level) (i : Nat)

@[simp] theorem setCounters_same :
    b.setCounters level i (b.counters level i) = b := by
  simp [setCounters]

@[simp] theorem enter_same : b.enter level i (b.state level i) = b := by
  simp [enter]

@[simp] theorem setParent_same :
    b.setParent level i (b.parent level i) = b := by
  simp [setParent]

@[simp] theorem setLkRts_same : b.setLkRts i (b.lkRts i) = b := by
  simp [setLkRts]

@[simp] theorem setLsRls_same : b.setLsRls i (b.lsRls i) = b := by
  simp [setLsRls]

end Same

structure Balanced (touched : List Level) (b b' : Books) : Prop where
  parent : b'.parent = b.parent
  list : ∀ level p, (b'.counters level p).list = (b.counters level p).list
  lkRts : b'.lkRts = b.lkRts
  lsRls : b'.lsRls = b.lsRls
  counters : ∀ level, level ∉ touched → b'.counters level = b.counters level
  state : ∀ level, level ∉ touched → b'.state level = b.state level
  drift : ∀ level p, b'.drift level p = b.drift level p

variable {touched touched' : List Level} {b b' b'' : Books}

theorem Balanced.refl (touched : List Level) (b : Books) :
    Balanced touched b b :=
  ⟨rfl, fun _ _ => rfl, rfl, rfl, fun _ _ => rfl, fun _ _ => rfl,
    fun _ _ => rfl⟩

theorem Balanced.trans (first : Balanced touched b b')
    (second : Balanced touched b' b'') : Balanced touched b b'' where
  parent := second.parent.trans first.parent
  list level p := (second.list level p).trans (first.list level p)
  lkRts := second.lkRts.trans first.lkRts
  lsRls := second.lsRls.trans first.lsRls
  counters level apart :=
    (second.counters level apart).trans (first.counters level apart)
  state level apart := (second.state level apart).trans (first.state level apart)
  drift level p := (second.drift level p).trans (first.drift level p)

theorem Balanced.mono (balanced : Balanced touched b b')
    (subset : touched ⊆ touched') : Balanced touched' b b' where
  parent := balanced.parent
  list := balanced.list
  lkRts := balanced.lkRts
  lsRls := balanced.lsRls
  counters level apart := balanced.counters level fun held =>
    apart (subset held)
  state level apart := balanced.state level fun held => apart (subset held)
  drift := balanced.drift

theorem Balanced.entered (balanced : Balanced touched b b') (level : Level)
    (i : Nat) : b'.Entered level i ↔ b.Entered level i := by
  unfold Entered
  rw [balanced.parent, balanced.list]

theorem Balanced.proper (balanced : Balanced touched b b')
    (proper : b.Proper) : b'.Proper where
  once level p := by
    rw [balanced.list]
    exact proper.once level p
  parent level p i member := by
    rw [balanced.list] at member
    rw [balanced.parent]
    exact proper.parent level p i member
  up level level' above i entered := by
    rw [balanced.parent]
    exact (balanced.entered level' _).mpr
      (proper.up level level' above i ((balanced.entered level i).mp entered))
  routes lk rt member := by
    rw [balanced.lkRts] at member
    exact (balanced.entered .rt rt).mpr (proper.routes lk rt member)
  routeLists ls rl member := by
    rw [balanced.lsRls] at member
    exact (balanced.entered .rl rl).mpr (proper.routeLists ls rl member)

theorem count_counters_self (level : Level) (p : Nat)
    (oldstate newstate : State) :
    (b.count level p oldstate newstate).counters level =
      Function.update (b.counters level) p
        ((b.counters level p).move oldstate newstate) :=
  Function.update_self ..

theorem count_counters_of_ne {level level' : Level} (apart : level' ≠ level)
    (p : Nat) (oldstate newstate : State) :
    (b.count level p oldstate newstate).counters level' =
      b.counters level' :=
  Function.update_of_ne apart ..

theorem enter_state_self (level : Level) (i : Nat) (newstate : State) :
    (b.enter level i newstate).state level =
      Function.update (b.state level) i newstate :=
  Function.update_self ..

theorem enter_state_of_ne {level level' : Level} (apart : level' ≠ level)
    (i : Nat) (newstate : State) :
    (b.enter level i newstate).state level' = b.state level' :=
  Function.update_of_ne apart ..

theorem count_list (level level' : Level) (p p' : Nat)
    (oldstate newstate : State) :
    ((b.count level p oldstate newstate).counters level' p').list =
      (b.counters level' p').list := by
  by_cases here : level' = level
  · subst here
    rw [count_counters_self]
    by_cases there : p' = p
    · subst there
      rw [Function.update_self]
      rfl
    · rw [Function.update_of_ne there]
  · rw [count_counters_of_ne here]

theorem count_entered (level level' : Level) (p i : Nat)
    (oldstate newstate : State) :
    (b.count level p oldstate newstate).Entered level' i ↔
      b.Entered level' i := by
  unfold Entered
  rw [count_list]
  rfl

theorem count_proper {level : Level} {p : Nat} {oldstate newstate : State}
    (proper : b.Proper) : (b.count level p oldstate newstate).Proper where
  once level' p' := by
    rw [count_list]
    exact proper.once level' p'
  parent level' p' i member := by
    rw [count_list] at member
    exact proper.parent level' p' i member
  up level' level'' above i entered :=
    (count_entered level level'' p _ oldstate newstate).mpr
      (proper.up level' level'' above i
        ((count_entered level level' p i oldstate newstate).mp entered))
  routes lk rt member :=
    (count_entered level .rt p rt oldstate newstate).mpr
      (proper.routes lk rt member)
  routeLists ls rl member :=
    (count_entered level .rl p rl oldstate newstate).mpr
      (proper.routeLists ls rl member)

theorem Balanced.push {level : Level} {i : Nat} {newstate : State}
    (proper : b.Proper) (entered : b.Entered level i) (apart : level ∉ touched)
    (balanced : Balanced touched
      (b.count level (b.parent level i) (b.state level i) newstate) b') :
    Balanced (level :: touched) b (b'.enter level i newstate) where
  parent := balanced.parent
  list level' p := (balanced.list level' p).trans (count_list ..)
  lkRts := balanced.lkRts
  lsRls := balanced.lsRls
  counters level' away := by
    have ⟨here, there⟩ := not_or.mp (mt List.mem_cons.mpr away)
    exact (balanced.counters level' there).trans (count_counters_of_ne here ..)
  state level' away := by
    have ⟨here, there⟩ := not_or.mp (mt List.mem_cons.mpr away)
    exact (enter_state_of_ne here ..).trans (balanced.state level' there)
  drift level' p := by
    by_cases here : level' = level
    · subst here
      have states : (b'.enter level' i newstate).state level' =
          Function.update (b.state level') i newstate := by
        rw [enter_state_self, balanced.state level' apart]
        rfl
      have counters : (b'.enter level' i newstate).counters level' =
          Function.update (b.counters level') (b.parent level' i)
            ((b.counters level' (b.parent level' i)).move (b.state level' i)
              newstate) :=
        (balanced.counters level' apart).trans (count_counters_self ..)
      have numbers : (fun j =>
            (Function.update (b.state level') i newstate j).number) =
          Function.update (fun j => (b.state level' j).number) i
            newstate.number :=
        Function.comp_update State.number (b.state level') i newstate
      unfold Books.drift
      rw [states, counters, numbers]
      by_cases there : p = b.parent level' i
      · subst there
        rw [Function.update_self]
        exact Tally.drift_moved (proper.once level' _) entered _
      · rw [Function.update_of_ne there]
        exact Tally.drift_stranger
          (fun member => there (proper.parent level' p i member).symm) _
    · have after : (b'.enter level i newstate).drift level' p =
          b'.drift level' p := by
        unfold Books.drift
        rw [enter_state_of_ne here]
        rfl
      rw [after, balanced.drift level' p]
      unfold Books.drift
      rw [count_counters_of_ne here]
      rfl

end Books

namespace Net

variable (n : Net) (i : Nat)

theorem books_withRs (f : Rs → Rs) :
    (n.withRs i f).books = n.books.setCounters .rl i (f (n.rs i)).rls := by
  unfold books withRs Books.setCounters
  congr 1
  funext level
  cases level with
  | rl => exact Function.comp_update Rs.rls n.rs i _
  | _ => rfl

theorem books_withSp (f : Sp → Sp) :
    (n.withSp i f).books = n.books.setCounters .ls i (f (n.sp i)).lss := by
  unfold books withSp Books.setCounters
  congr 1
  funext level
  cases level with
  | ls => exact Function.comp_update Sp.lss n.sp i _
  | _ => rfl

theorem books_withRt (f : Rt → Rt) :
    (n.withRt i f).books =
      (n.books.enter .rt i (f (n.rt i)).state).setParent .rt i
        (f (n.rt i)).rl := by
  unfold books withRt Books.enter Books.setParent
  congr 1
  · funext level
    cases level with
    | rt => exact Function.comp_update Rt.state n.rt i _
    | _ => rfl
  · funext level
    cases level with
    | rt => exact Function.comp_update Rt.rl n.rt i _
    | _ => rfl

theorem books_withSl (f : Sl → Sl) :
    (n.withSl i f).books =
      (n.books.enter .sl i (f (n.sl i)).state).setParent .sl i
        (f (n.sl i)).lk := by
  unfold books withSl Books.enter Books.setParent
  congr 1
  · funext level
    cases level with
    | sl => exact Function.comp_update Sl.state n.sl i _
    | _ => rfl
  · funext level
    cases level with
    | sl => exact Function.comp_update Sl.lk n.sl i _
    | _ => rfl

theorem books_withRl (f : Rl → Rl) :
    (n.withRl i f).books =
      ((n.books.setCounters .rt i (f (n.rl i)).rts).enter .rl i
        (f (n.rl i)).state).setParent .rl i (f (n.rl i)).rs := by
  unfold books withRl Books.setCounters Books.enter Books.setParent
  congr 1
  · funext level
    cases level with
    | rt => exact Function.comp_update Rl.rts n.rl i _
    | _ => rfl
  · funext level
    cases level with
    | rl => exact Function.comp_update Rl.state n.rl i _
    | _ => rfl
  · funext level
    cases level with
    | rl => exact Function.comp_update Rl.rs n.rl i _
    | _ => rfl

theorem books_withLk (f : Lk → Lk) :
    (n.withLk i f).books =
      (((n.books.setCounters .sl i (f (n.lk i)).sls).enter .lk i
        (f (n.lk i)).state).setParent .lk i (f (n.lk i)).ls).setLkRts i
          (f (n.lk i)).rts.list := by
  unfold books withLk Books.setCounters Books.enter Books.setParent
    Books.setLkRts
  congr 1
  · funext level
    cases level with
    | sl => exact Function.comp_update Lk.sls n.lk i _
    | _ => rfl
  · funext level
    cases level with
    | lk => exact Function.comp_update Lk.state n.lk i _
    | _ => rfl
  · funext level
    cases level with
    | lk => exact Function.comp_update Lk.ls n.lk i _
    | _ => rfl
  · exact Function.comp_update (fun l : Lk => l.rts.list) n.lk i _

theorem books_withLs (f : Ls → Ls) :
    (n.withLs i f).books =
      (((n.books.setCounters .lk i (f (n.ls i)).lks).enter .ls i
        (f (n.ls i)).state).setParent .ls i (f (n.ls i)).sp).setLsRls i
          (f (n.ls i)).rls.list := by
  unfold books withLs Books.setCounters Books.enter Books.setParent
    Books.setLsRls
  congr 1
  · funext level
    cases level with
    | lk => exact Function.comp_update Ls.lks n.ls i _
    | _ => rfl
  · funext level
    cases level with
    | ls => exact Function.comp_update Ls.state n.ls i _
    | _ => rfl
  · funext level
    cases level with
    | ls => exact Function.comp_update Ls.sp n.ls i _
    | _ => rfl
  · exact Function.comp_update (fun l : Ls => l.rls.list) n.ls i _

end Net

section Leaves

def Leaves (m : NetM Unit) : Prop :=
  ∀ b, Sustains (fun n => n.books = b) m

theorem leaves_modify {f : Net → Net} (same : ∀ n, (f n).books = n.books) :
    Leaves (modify f) :=
  fun _ => sustains_modify fun n books => (same n).trans books

theorem leaves_withRs {f : Rs → Rs} (rls : ∀ r, (f r).rls = r.rls)
    (i : Nat) : Leaves (modify (Net.withRs i f)) :=
  leaves_modify fun n => by
    rw [Net.books_withRs, rls]
    exact n.books.setCounters_same .rl i

theorem leaves_withSp {f : Sp → Sp} (lss : ∀ s, (f s).lss = s.lss)
    (i : Nat) : Leaves (modify (Net.withSp i f)) :=
  leaves_modify fun n => by
    rw [Net.books_withSp, lss]
    exact n.books.setCounters_same .ls i

theorem leaves_withRt {f : Rt → Rt} (state : ∀ r, (f r).state = r.state)
    (rl : ∀ r, (f r).rl = r.rl) (i : Nat) :
    Leaves (modify (Net.withRt i f)) :=
  leaves_modify fun n => by
    rw [Net.books_withRt, state, rl]
    exact (congrArg (Books.setParent · .rt i _) (n.books.enter_same .rt i)).trans
      (n.books.setParent_same .rt i)

theorem leaves_onRoutes (m : TrafficM Unit) : Leaves (onRoutes m) :=
  fun _ => sustains_focus fun _ _ books => books

theorem leaves_onLinks (m : TrafficM Unit) : Leaves (onLinks m) :=
  fun _ => sustains_focus fun _ _ books => books

theorem sustains_send {I : Net → Prop} (notice : Notice)
    (sends : ∀ n room sent, I n → I { n with room := room, sent := sent }) :
    Sustains I (send notice) :=
  triple_get_bind fun n held => triple_ite
    (fun _ => triple_modify fun _ _ => sends n _ _ held)
    fun _ => triple_fails _ fun _ => trivial

theorem mtpAdjacent_sustains {I : Net → Prop} (adj : Nat) :
    Sustains I (mtpAdjacent adj) := by
  refine sustains_get_bind fun n => sustains_when ?_
  cases (n.rs adj).curr with
  | none => exact sustains_throw _
  | some rl =>
      dsimp only
      cases (n.rl rl).curr with
      | none => exact sustains_throw _
      | some _ => exact sustains_pure _

theorem rsSetState_sustains {I : Net → Prop} (rs : Nat) (state : Change)
    (quiet : ∀ f : Rs → Rs, (∀ r, (f r).rls = r.rls) →
      (∀ r, (f r).curr = r.curr) → ∀ n, I n → I (n.withRs rs f))
    (sends : ∀ n room sent, I n → I { n with room := room, sent := sent }) :
    Sustains I (rsSetState rs state) := by
  have own (f : Rs → Rs) (rls : ∀ r, (f r).rls = r.rls)
      (curr : ∀ r, (f r).curr = r.curr) :
      Sustains I (modify (Net.withRs rs f) : NetM Unit) :=
    sustains_modify (quiet f rls curr)
  refine sustains_get_bind fun n => sustains_when ?_
  refine sustains_bind (sustains_when ?_) fun _ =>
    own _ (fun _ => by rfl) fun _ => by rfl
  refine sustains_bind (sustains_when (sustains_when
    (sustains_bind (mtpAdjacent_sustains rs) fun _ =>
      mtpAdjacent_sustains rs))) fun _ => ?_
  refine sustains_bind (sustains_when
    (own _ (fun _ => by rfl) fun _ => by rfl)) fun _ => ?_
  refine sustains_bind (sustains_when
    (sustains_bind (own _ (fun _ => by rfl) fun _ => by rfl) fun _ =>
      sustains_send _ sends)) fun _ => ?_
  refine sustains_bind (sustains_when
    (sustains_bind (sustains_when (own _ (fun _ => by rfl) fun _ => by rfl))
      fun _ => sustains_when (sustains_send _ sends))) fun _ => ?_
  refine sustains_bind (sustains_when
    (sustains_bind (own _ (fun _ => by rfl) fun _ => by rfl) fun _ =>
      sustains_send _ sends)) fun _ => ?_
  exact own _ (fun _ => by rfl) fun _ => by rfl

theorem rsSetState_leaves (rs : Nat) (state : Change) :
    Leaves (rsSetState rs state) := by
  intro b
  refine rsSetState_sustains rs state (fun f rls _ n books => ?_)
    fun _ _ _ books => books
  rw [Net.books_withRs, rls]
  exact (n.books.setCounters_same .rl rs).trans books

theorem rlReroute_leaves (rs : Nat) (rlOnto : Option Nat) (force : Bool) :
    Leaves (rlReroute rs rlOnto force) := by
  intro b
  refine sustains_get_bind fun n => ?_
  exact sustains_bind (leaves_onRoutes _ b) fun _ =>
    leaves_withRs (fun _ => by rfl) rs b

theorem spSetState_leaves (sp : Nat) (state : Change) :
    Leaves (spSetState sp state) := by
  intro b
  refine sustains_get_bind fun n => sustains_when ?_
  refine sustains_bind (sustains_when ?_) fun _ =>
    leaves_withSp (fun _ => by rfl) sp b
  refine sustains_bind (sustains_when
    (sustains_bind (leaves_withSp (fun _ => by rfl) sp b) fun _ =>
      sustains_ite (leaves_withSp (fun _ => by rfl) sp b)
        (leaves_withSp (fun _ => by rfl) sp b))) fun _ => ?_
  refine sustains_bind (sustains_when
    (leaves_withSp (fun _ => by rfl) sp b)) fun _ => ?_
  refine sustains_bind (leaves_modify (fun _ => by rfl) b) fun _ => ?_
  exact leaves_withSp (fun _ => by rfl) sp b

theorem leaves_withLk {f : Lk → Lk} (sls : ∀ l, (f l).sls = l.sls)
    (state : ∀ l, (f l).state = l.state) (ls : ∀ l, (f l).ls = l.ls)
    (rts : ∀ l, (f l).rts.list = l.rts.list) (i : Nat) :
    Leaves (modify (Net.withLk i f)) :=
  leaves_modify fun n => by
    rw [Net.books_withLk, sls, state, ls, rts]
    have counted : n.books.setCounters .sl i (n.lk i).sls = n.books :=
      n.books.setCounters_same .sl i
    have entered : n.books.enter .lk i (n.lk i).state = n.books :=
      n.books.enter_same .lk i
    have above : n.books.setParent .lk i (n.lk i).ls = n.books :=
      n.books.setParent_same .lk i
    rw [counted, entered, above]
    exact n.books.setLkRts_same i

theorem leaves_withLs {f : Ls → Ls} (lks : ∀ l, (f l).lks = l.lks)
    (state : ∀ l, (f l).state = l.state) (sp : ∀ l, (f l).sp = l.sp)
    (rls : ∀ l, (f l).rls.list = l.rls.list) (i : Nat) :
    Leaves (modify (Net.withLs i f)) :=
  leaves_modify fun n => by
    rw [Net.books_withLs, lks, state, sp, rls]
    have counted : n.books.setCounters .lk i (n.ls i).lks = n.books :=
      n.books.setCounters_same .lk i
    have entered : n.books.enter .ls i (n.ls i).state = n.books :=
      n.books.enter_same .ls i
    have above : n.books.setParent .ls i (n.ls i).sp = n.books :=
      n.books.setParent_same .ls i
    rw [counted, entered, above]
    exact n.books.setLsRls_same i

theorem leaves_withRl {f : Rl → Rl} (rts : ∀ r, (f r).rts = r.rts)
    (state : ∀ r, (f r).state = r.state) (rs : ∀ r, (f r).rs = r.rs)
    (i : Nat) : Leaves (modify (Net.withRl i f)) :=
  leaves_modify fun n => by
    rw [Net.books_withRl, rts, state, rs]
    have counted : n.books.setCounters .rt i (n.rl i).rts = n.books :=
      n.books.setCounters_same .rt i
    have entered : n.books.enter .rl i (n.rl i).state = n.books :=
      n.books.enter_same .rl i
    rw [counted, entered]
    exact n.books.setParent_same .rl i

theorem leaves_withSl {f : Sl → Sl} (state : ∀ r, (f r).state = r.state)
    (lk : ∀ r, (f r).lk = r.lk) (i : Nat) :
    Leaves (modify (Net.withSl i f)) :=
  leaves_modify fun n => by
    rw [Net.books_withSl, state, lk]
    exact (congrArg (Books.setParent · .sl i _) (n.books.enter_same .sl i)).trans
      (n.books.setParent_same .sl i)

theorem Leaves.on {m : NetM Unit} (leaves : Leaves m) (Q : Books → Prop) :
    Sustains (fun n => Q n.books) m := by
  intro n held
  have after := leaves n.books n rfl
  cases run : m.exec n with
  | mk result n' =>
      rw [run] at after
      cases result with
      | ok _ =>
          show Q n'.books
          rw [show n'.books = n.books from after]
          exact held
      | error e => trivial

end Leaves

section Effects

variable {b : Books}

theorem moveRls_counts (rs : Nat) (oldstate newstate : State) :
    Triple (fun n => n.books = b) (moveRls rs oldstate newstate)
      (fun _ n => n.books = b.count .rl rs oldstate newstate)
      fun _ => True :=
  triple_modify fun n books => by
    rw [Net.books_withRs, ← books]
    rfl

theorem moveLss_counts (sp : Nat) (oldstate newstate : State) :
    Triple (fun n => n.books = b) (moveLss sp oldstate newstate)
      (fun _ n => n.books = b.count .ls sp oldstate newstate)
      fun _ => True :=
  triple_modify fun n books => by
    rw [Net.books_withSp, ← books]
    rfl

theorem moveRts_counts (rl : Nat) (oldstate newstate : State) :
    Triple (fun n => n.books = b) (moveRts rl oldstate newstate)
      (fun _ n => n.books = b.count .rt rl oldstate newstate)
      fun _ => True :=
  triple_modify fun n books => by
    rw [Net.books_withRl, ← books]
    have entered : ∀ c, (n.books.setCounters .rt rl c).enter .rl rl
        (n.rl rl).state = n.books.setCounters .rt rl c :=
      fun c => (n.books.setCounters .rt rl c).enter_same .rl rl
    rw [entered]
    exact Books.setParent_same _ .rl rl

theorem moveLks_counts (ls : Nat) (oldstate newstate : State) :
    Triple (fun n => n.books = b) (moveLks ls oldstate newstate)
      (fun _ n => n.books = b.count .lk ls oldstate newstate)
      fun _ => True :=
  triple_modify fun n books => by
    rw [Net.books_withLs, ← books]
    have entered : ∀ c, (n.books.setCounters .lk ls c).enter .ls ls
        (n.ls ls).state = n.books.setCounters .lk ls c :=
      fun c => (n.books.setCounters .lk ls c).enter_same .ls ls
    have above : ∀ c, (n.books.setCounters .lk ls c).setParent .ls ls
        (n.ls ls).sp = n.books.setCounters .lk ls c :=
      fun c => (n.books.setCounters .lk ls c).setParent_same .ls ls
    rw [entered, above]
    exact Books.setLsRls_same _ ls

theorem moveSls_counts (lk : Nat) (oldstate newstate : State) :
    Triple (fun n => n.books = b) (moveSls lk oldstate newstate)
      (fun _ n => n.books = b.count .sl lk oldstate newstate)
      fun _ => True :=
  triple_modify fun n books => by
    rw [Net.books_withLk, ← books]
    have entered : ∀ c, (n.books.setCounters .sl lk c).enter .lk lk
        (n.lk lk).state = n.books.setCounters .sl lk c :=
      fun c => (n.books.setCounters .sl lk c).enter_same .lk lk
    have above : ∀ c, (n.books.setCounters .sl lk c).setParent .lk lk
        (n.lk lk).ls = n.books.setCounters .sl lk c :=
      fun c => (n.books.setCounters .sl lk c).setParent_same .lk lk
    rw [entered, above]
    exact Books.setLkRts_same _ lk

theorem withRt_enters (rt : Nat) (newstate : State) :
    Triple (fun n => n.books = b)
      (modify (Net.withRt rt fun r =>
        { r with state := newstate }) : NetM Unit)
      (fun _ n => n.books = b.enter .rt rt newstate) fun _ => True :=
  triple_modify fun n books => by
    rw [Net.books_withRt, ← books]
    exact Books.setParent_same _ .rt rt

theorem withSl_enters (sl : Nat) (newstate : State) :
    Triple (fun n => n.books = b)
      (modify (Net.withSl sl fun s =>
        { s with state := newstate }) : NetM Unit)
      (fun _ n => n.books = b.enter .sl sl newstate) fun _ => True :=
  triple_modify fun n books => by
    rw [Net.books_withSl, ← books]
    exact Books.setParent_same _ .sl sl

theorem withRl_enters (rl : Nat) (newstate : State) :
    Triple (fun n => n.books = b)
      (modify (Net.withRl rl fun r =>
        { r with state := newstate }) : NetM Unit)
      (fun _ n => n.books = b.enter .rl rl newstate) fun _ => True :=
  triple_modify fun n books => by
    rw [Net.books_withRl, ← books]
    have counted : n.books.setCounters .rt rl (n.rl rl).rts = n.books :=
      n.books.setCounters_same .rt rl
    rw [counted]
    exact Books.setParent_same _ .rl rl

theorem withLk_enters (lk : Nat) (newstate : State) :
    Triple (fun n => n.books = b)
      (modify (Net.withLk lk fun l =>
        { l with state := newstate }) : NetM Unit)
      (fun _ n => n.books = b.enter .lk lk newstate) fun _ => True :=
  triple_modify fun n books => by
    rw [Net.books_withLk, ← books]
    have counted : n.books.setCounters .sl lk (n.lk lk).sls = n.books :=
      n.books.setCounters_same .sl lk
    have above : ∀ s, (n.books.enter .lk lk s).setParent .lk lk (n.lk lk).ls =
        n.books.enter .lk lk s :=
      fun s => (n.books.enter .lk lk s).setParent_same .lk lk
    rw [counted, above]
    exact Books.setLkRts_same _ lk

theorem withLs_enters (ls : Nat) (newstate : State) :
    Triple (fun n => n.books = b)
      (modify (Net.withLs ls fun l =>
        { l with state := newstate }) : NetM Unit)
      (fun _ n => n.books = b.enter .ls ls newstate) fun _ => True :=
  triple_modify fun n books => by
    rw [Net.books_withLs, ← books]
    have counted : n.books.setCounters .lk ls (n.ls ls).lks = n.books :=
      n.books.setCounters_same .lk ls
    have above : ∀ s, (n.books.enter .ls ls s).setParent .ls ls (n.ls ls).sp =
        n.books.enter .ls ls s :=
      fun s => (n.books.enter .ls ls s).setParent_same .ls ls
    rw [counted, above]
    exact Books.setLsRls_same _ ls

theorem triple_pushing {P : Net → Prop} {Q : Unit → Net → Prop}
    {m undo : NetM Unit} (triple : Triple P m Q fun _ => True) :
    Triple P (pushing m undo) Q fun _ => True :=
  triple_tryCatch triple fun e => triple_fails e fun _ => trivial

theorem triple_forNet {I : Net → Prop} {body : Nat → NetM Unit}
    {list : List Nat}
    (each : ∀ i ∈ list, Sustains I (body i)) :
    Sustains I (forNet body list) := by
  induction list with
  | nil => exact sustains_pure _
  | cons i rest ih =>
      refine sustains_bind (each i List.mem_cons_self) fun _ => ?_
      exact ih fun j later => each j (List.mem_cons_of_mem i later)

end Effects

end OpenSS7.Mtp3
