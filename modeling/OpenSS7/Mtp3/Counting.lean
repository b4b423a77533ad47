import OpenSS7.Mtp3.Books

/-!
No state change function changes by how much the counters of a parent are off,
so they count exactly only what they counted exactly when they were allocated.
-/

namespace OpenSS7.Mtp3

open Program

section Balance

variable {b : Books}

theorem sustains_balanced {touched : List Level} {m : NetM Unit}
    (leaves : Leaves m) :
    Sustains (fun n => Books.Balanced touched b n.books) m :=
  leaves.on _

theorem triple_enters {touched : List Level} {level : Level} {i : Nat}
    {newstate : State} {m : NetM Unit} (proper : b.Proper)
    (entered : b.Entered level i) (apart : level ∉ touched)
    (enters : ∀ b', Triple (fun n => n.books = b') m
      (fun _ n => n.books = b'.enter level i newstate) fun _ => True) :
    Triple (fun n => Books.Balanced touched
        (b.count level (b.parent level i) (b.state level i) newstate) n.books)
      m (fun _ n => Books.Balanced (level :: touched) b n.books)
      fun _ => True := by
  intro n balanced
  have after := enters n.books n rfl
  cases run : m.exec n with
  | mk result n' =>
      rw [run] at after
      cases result with
      | ok _ =>
          show Books.Balanced (level :: touched) b n'.books
          rw [show n'.books = n.books.enter level i newstate from after]
          exact Books.Balanced.push proper entered apart balanced
      | error e => trivial

theorem triple_stage {touched touched' all : List Level} {m : NetM Unit}
    (first : touched ⊆ all) (second : touched' ⊆ all)
    (proper : b.Proper)
    (each : ∀ b', Books.Balanced touched b b' → b'.Proper →
      Triple (fun n => n.books = b') m
        (fun _ n => Books.Balanced touched' b' n.books) fun _ => True) :
    Triple (fun n => Books.Balanced touched b n.books) m
      (fun _ n => Books.Balanced all b n.books) fun _ => True := by
  intro n balanced
  exact triple_conseq (each n.books balanced (balanced.proper proper))
    (fun _ same => same)
    (fun _ _ post => (balanced.mono first).trans (post.mono second))
    (fun _ post => post) n rfl

theorem rlSelect_counts {n : Net} (rl : Nat) (state : Change)
    (newstate : State) :
    Triple (fun n' => n'.books = n.books) (rlSelect n rl state newstate)
      (fun _ n' => n'.books =
        n.books.count .rl (n.rl rl).rs (n.rl rl).state newstate)
      fun _ => True := by
  have told : Triple (fun n' => n'.books = n.books)
      (do
        moveRls (n.rl rl).rs (n.rl rl).state newstate
        pushing (rsSetState (n.rl rl).rs state)
          (moveRls (n.rl rl).rs newstate (n.rl rl).state))
      (fun _ n' => n'.books =
        n.books.count .rl (n.rl rl).rs (n.rl rl).state newstate)
      fun _ => True :=
    triple_bind (moveRls_counts _ _ _) fun _ =>
      triple_pushing (rsSetState_leaves _ _ _)
  refine triple_ite (fun _ => ?_) fun _ => triple_ite (fun _ => ?_) fun _ =>
    triple_ite (fun _ => told) fun _ => moveRls_counts _ _ _
  · exact triple_bind (rlReroute_leaves _ _ _ _) fun _ => told
  · exact triple_bind (rlReroute_leaves _ _ _ _) fun _ => told

theorem rlSetState_balanced (rl : Nat) (state : Change) (proper : b.Proper)
    (entered : b.Entered .rl rl) :
    Triple (fun n => n.books = b) (rlSetState rl state)
      (fun _ n => Books.Balanced [.rl] b n.books) fun _ => True := by
  refine triple_get_bind fun n books => ?_
  subst books
  refine triple_when (fun _ => ?_) fun _ _ same => same ▸ .refl _ _
  refine triple_bind (triple_when (fun _ => ?_) fun _ _ same =>
    same ▸ .refl _ _) fun _ => sustains_balanced (leaves_withRl
      (fun _ => by rfl) (fun _ => by rfl) (fun _ => by rfl) rl)
  refine triple_bind (triple_conseq (rlSelect_counts rl state _)
    (fun _ same => same ▸ rfl) (fun _ _ post => post) fun _ post => post)
    fun _ => ?_
  refine triple_bind (leaves_withLs (fun _ => by rfl) (fun _ => by rfl)
    (fun _ => by rfl) (fun _ => by rfl) _ _) fun _ => ?_
  exact triple_conseq (triple_enters proper entered List.not_mem_nil
      fun _ => withRl_enters rl _)
    (fun _ same => same ▸ .refl _ _) (fun _ _ post => post) fun _ post => post

theorem rtSetState_balanced (rt : Nat) (state : Change) (proper : b.Proper)
    (entered : b.Entered .rt rt) :
    Triple (fun n => n.books = b) (rtSetState rt state)
      (fun _ n => Books.Balanced [.rt, .rl] b n.books) fun _ => True := by
  refine triple_get_bind fun n books => ?_
  subst books
  have above : n.books.Entered .rl (n.rt rt).rl :=
    proper.up .rt .rl rfl rt entered
  refine triple_when (fun _ => ?_) fun _ _ same => same ▸ .refl _ _
  refine triple_bind (triple_when (fun _ => ?_) fun _ _ same =>
    same ▸ .refl _ _) fun _ => sustains_balanced (leaves_withRt
      (fun _ => by rfl) (fun _ => by rfl) rt)
  refine triple_bind (triple_conseq (leaves_withRt (fun _ => by rfl)
    (fun _ => by rfl) rt n.books) (fun _ same => same ▸ rfl)
    (fun _ _ post => post) fun _ post => post) fun _ => ?_
  refine triple_bind (sustains_when (leaves_onRoutes _ _)) fun _ => ?_
  refine triple_bind (sustains_when (leaves_onRoutes _ _)) fun _ => ?_
  refine triple_bind (moveRts_counts _ _ _) fun _ => ?_
  refine triple_bind (triple_when (fun _ => triple_pushing
    (rlSetState_balanced (n.rt rt).rl _ (Books.count_proper proper)
      ((Books.count_entered ..).mpr above))) fun _ _ same =>
        same ▸ .refl _ _) fun _ => ?_
  refine triple_bind (sustains_balanced (leaves_withLk (fun _ => by rfl)
    (fun _ => by rfl) (fun _ => by rfl) (fun _ => by rfl) _)) fun _ => ?_
  exact triple_enters proper entered (by decide) fun _ => withRt_enters rt _

theorem lsSetState_balanced (ls : Nat) (state : Change) (proper : b.Proper)
    (entered : b.Entered .ls ls) :
    Triple (fun n => n.books = b) (lsSetState ls state)
      (fun _ n => Books.Balanced [.ls, .rl] b n.books) fun _ => True := by
  refine triple_get_bind fun n books => ?_
  subst books
  refine triple_when (fun _ => ?_) fun _ _ same => same ▸ .refl _ _
  refine triple_bind (triple_when (fun _ => ?_) fun _ _ same =>
    same ▸ .refl _ _) fun _ => sustains_balanced (leaves_withLs
      (fun _ => by rfl) (fun _ => by rfl) (fun _ => by rfl)
      (fun _ => by rfl) ls)
  refine triple_bind (R := fun _ (n' : Net) =>
    Books.Balanced [.rl] n.books n'.books) ?_ fun _ => ?_
  · refine triple_conseq (triple_forNet fun rl member => ?_)
      (fun _ same => same ▸ .refl _ _) (fun _ _ post => post)
      fun _ post => post
    refine sustains_get_bind fun _ => sustains_when ?_
    exact triple_stage (List.Subset.refl _) (List.Subset.refl _) proper
      fun b' balanced proper' => rlSetState_balanced rl _ proper'
        ((balanced.entered .rl rl).mpr (proper.routeLists ls rl member))
  · refine triple_stage (by decide) (show [Level.ls] ⊆ _ by decide) proper
      fun b' balanced proper' => ?_
    have inList := (balanced.entered .ls ls).mpr entered
    have parent : b'.parent .ls ls = (n.ls ls).sp :=
      congrFun (congrFun balanced.parent .ls) ls
    have oldstate : b'.state .ls ls = (n.ls ls).state :=
      congrFun (balanced.state .ls (by decide)) ls
    rw [← parent, ← oldstate]
    refine triple_bind (moveLss_counts _ _ _) fun _ => ?_
    refine triple_get_any fun _ => ?_
    refine triple_bind (sustains_when (triple_pushing
      (spSetState_leaves _ _ _))) fun _ => ?_
    exact triple_conseq (triple_enters proper' inList List.not_mem_nil
        fun _ => withLs_enters ls _)
      (fun _ same => same ▸ .refl _ _) (fun _ _ post => post)
      fun _ post => post

theorem lkSetState_balanced (lk : Nat) (state : Change) (proper : b.Proper)
    (entered : b.Entered .lk lk) :
    Triple (fun n => n.books = b) (lkSetState lk state)
      (fun _ n => Books.Balanced [.lk, .ls, .rl, .rt] b n.books)
      fun _ => True := by
  refine triple_get_bind fun n books => ?_
  subst books
  have above : n.books.Entered .ls (n.lk lk).ls :=
    proper.up .lk .ls rfl lk entered
  refine triple_when (fun _ => ?_) fun _ _ same => same ▸ .refl _ _
  refine triple_bind (triple_when (fun _ => ?_) fun _ _ same =>
    same ▸ .refl _ _) fun _ => sustains_balanced (leaves_withLk
      (fun _ => by rfl) (fun _ => by rfl) (fun _ => by rfl)
      (fun _ => by rfl) lk)
  refine triple_bind (triple_conseq (sustains_when (leaves_withLk
      (fun _ => by rfl) (fun _ => by rfl) (fun _ => by rfl)
      (fun _ => by rfl) lk n.books)) (fun _ same => same ▸ rfl)
    (fun _ _ post => post) fun _ post => post) fun _ => ?_
  refine triple_bind (R := fun _ (n' : Net) =>
    Books.Balanced [.rt, .rl] n.books n'.books) ?_ fun _ => ?_
  · refine triple_conseq (triple_forNet fun rt member => ?_)
      (fun _ same => same ▸ .refl _ _) (fun _ _ post => post)
      fun _ post => post
    refine sustains_get_bind fun _ => sustains_when ?_
    exact triple_stage (List.Subset.refl _) (List.Subset.refl _) proper
      fun b' balanced proper' => rtSetState_balanced rt _ proper'
        ((balanced.entered .rt rt).mpr (proper.routes lk rt member))
  · refine triple_stage (by decide)
      (show [Level.lk, .ls, .rl] ⊆ _ by decide) proper
      fun b' balanced proper' => ?_
    have inList := (balanced.entered .lk lk).mpr entered
    have parent : b'.parent .lk lk = (n.lk lk).ls :=
      congrFun (congrFun balanced.parent .lk) lk
    have oldstate : b'.state .lk lk = (n.lk lk).state :=
      congrFun (balanced.state .lk (by decide)) lk
    rw [← parent, ← oldstate]
    refine triple_bind (moveLks_counts _ _ _) fun _ => ?_
    refine triple_get_bind fun n' counted => ?_
    have upward : n'.books.Entered .ls (n'.lk lk).ls := by
      have same : (n'.lk lk).ls = (n.lk lk).ls := by
        rw [← parent]
        exact congrFun (congrFun (congrArg Books.parent counted) .lk) lk
      rw [same, counted]
      exact (Books.count_entered ..).mpr ((balanced.entered .ls _).mpr above)
    refine triple_bind (R := fun _ (n'' : Net) =>
      Books.Balanced [.ls, .rl] n'.books n''.books) ?_ fun _ => ?_
    · refine triple_conseq (triple_when (fun _ => triple_pushing
          (lsSetState_balanced _ _ ?_ upward)) fun _ _ same =>
            same ▸ .refl _ _)
        (fun _ same => same ▸ rfl) (fun _ _ post => post) fun _ post => post
      rw [counted]
      exact Books.count_proper proper'
    · rw [counted]
      exact triple_enters proper' inList (by decide)
        fun _ => withLk_enters lk _

theorem slSetState_balanced (sl : Nat) (state : Change) (proper : b.Proper)
    (entered : b.Entered .sl sl) :
    Triple (fun n => n.books = b) (slSetState sl state)
      (fun _ n => Books.Balanced [.sl, .lk, .ls, .rl, .rt] b n.books)
      fun _ => True := by
  refine triple_get_bind fun n books => ?_
  subst books
  have above : n.books.Entered .lk (n.sl sl).lk :=
    proper.up .sl .lk rfl sl entered
  refine triple_when (fun _ => ?_) fun _ _ same => same ▸ .refl _ _
  refine triple_bind (triple_when (fun _ => ?_) fun _ _ same =>
    same ▸ .refl _ _) fun _ => sustains_balanced (leaves_withSl
      (fun _ => by rfl) (fun _ => by rfl) sl)
  refine triple_bind (triple_conseq (sustains_when (leaves_onLinks _ n.books))
    (fun _ same => same ▸ rfl) (fun _ _ post => post) fun _ post => post)
    fun _ => ?_
  refine triple_bind (sustains_when (leaves_onLinks _ _)) fun _ => ?_
  refine triple_bind (moveSls_counts _ _ _) fun _ => ?_
  refine triple_bind (triple_when (fun _ => triple_pushing
    (lkSetState_balanced (n.sl sl).lk _ (Books.count_proper proper)
      ((Books.count_entered ..).mpr above))) fun _ _ same =>
        same ▸ .refl _ _) fun _ => ?_
  exact triple_enters proper entered (by decide) fun _ => withSl_enters sl _

end Balance

inductive Call where
  | sl (i : Nat) (state : Change)
  | lk (i : Nat) (state : Change)
  | ls (i : Nat) (state : Change)
  | rt (i : Nat) (state : Change)
  | rl (i : Nat) (state : Change)
  | rs (i : Nat) (state : Change)

namespace Call

def perform : Call → NetM Unit
  | sl i state => slSetState i state
  | lk i state => lkSetState i state
  | ls i state => lsSetState i state
  | rt i state => rtSetState i state
  | rl i state => rlSetState i state
  | rs i state => rsSetState i state

def Entered (b : Books) : Call → Prop
  | sl i _ => b.Entered .sl i
  | lk i _ => b.Entered .lk i
  | ls i _ => b.Entered .ls i
  | rt i _ => b.Entered .rt i
  | rl i _ => b.Entered .rl i
  | rs _ _ => True

end Call

def Net.Succeeds : Net → List Call → Net → Prop
  | n, [], n' => n' = n
  | n, call :: rest, n' =>
      call.Entered n.books ∧
        ∃ next, call.perform.exec n = (.ok (), next) ∧ next.Succeeds rest n'

namespace Books

structure Exact (b : Books) (level : Level) (p : Nat) : Prop where
  states : ∀ s : State, ((b.counters level p).states s.number).toNat =
    (b.counters level p).list.countP fun i => b.state level i = s
  named : ∀ s : State,
    (b.counters level p).named s = (b.counters level p).states s.number
  best : (b.counters level p).list ≠ [] → ∀ oldstate,
    (∃ i ∈ (b.counters level p).list,
      b.state level i = mtpCntState (b.counters level p) oldstate) ∧
    ∀ i ∈ (b.counters level p).list,
      mtpCntState (b.counters level p) oldstate ≤ b.state level i

structure Allocated (b : Books) : Prop extends b.Proper where
  zero : ∀ level p s, (b.counters level p).states s = 0
  small : ∀ level p, (b.counters level p).list.length < 2 ^ 64

end Books

variable {n n' : Net}

theorem perform_balanced (call : Call) (proper : n.books.Proper)
    (entered : call.Entered n.books)
    (done : call.perform.exec n = (.ok (), n')) :
    Books.Balanced [.sl, .lk, .ls, .rl, .rt] n.books n'.books := by
  have of_triple {touched : List Level} {m : NetM Unit}
      (triple : Triple (fun s => s.books = n.books) m
        (fun _ s => Books.Balanced touched n.books s.books) fun _ => True)
      (subset : touched ⊆ [.sl, .lk, .ls, .rl, .rt])
      (done : m.exec n = (.ok (), n')) :
      Books.Balanced [.sl, .lk, .ls, .rl, .rt] n.books n'.books := by
    have after := triple n rfl
    rw [done] at after
    exact Books.Balanced.mono after subset
  cases call with
  | sl i state =>
      exact of_triple (slSetState_balanced i state proper entered)
        (by decide) done
  | lk i state =>
      exact of_triple (lkSetState_balanced i state proper entered)
        (by decide) done
  | ls i state =>
      exact of_triple (lsSetState_balanced i state proper entered)
        (by decide) done
  | rt i state =>
      exact of_triple (rtSetState_balanced i state proper entered)
        (by decide) done
  | rl i state =>
      exact of_triple (rlSetState_balanced i state proper entered)
        (by decide) done
  | rs i state =>
      have after := rsSetState_leaves i state n.books n rfl
      rw [show (rsSetState i state).exec n = (.ok (), n') from done] at after
      rw [show n'.books = n.books from after]
      exact .refl _ _

theorem succeeds_balanced {calls : List Call} (proper : n.books.Proper)
    (run : n.Succeeds calls n') :
    Books.Balanced [.sl, .lk, .ls, .rl, .rt] n.books n'.books := by
  induction calls generalizing n with
  | nil =>
      rw [show n' = n from run]
      exact .refl _ _
  | cons call rest ih =>
      obtain ⟨entered, next, done, later⟩ := run
      have balanced := perform_balanced call proper entered done
      exact balanced.trans (ih (balanced.proper proper) later)

namespace Books

variable {b : Books} {level : Level} {p : Nat}

theorem tally_number (state : Nat → State) (list : List Nat) (s : State) :
    Tally.tally (G := BitVec 64) (fun i => (state i).number) list s.number =
      BitVec.ofNat 64 (list.countP fun i => state i = s) := by
  have same : (fun i => decide ((state i).number = s.number)) =
      fun i => decide (state i = s) := by
    funext i
    exact decide_eq_decide.mpr
      ⟨fun h => State.number_injective h, congrArg State.number⟩
  unfold Tally.tally
  rw [same]
  rfl

theorem drift_of_exact (exact : b.Exact level p) : b.drift level p = 0 := by
  refine Tally.exact_iff_drift.mp fun number => ?_
  obtain ⟨s, rfl⟩ := State.number_surjective number
  rw [tally_number, ← exact.states s, BitVec.ofNat_toNat, BitVec.setWidth_eq]

theorem childless_of_exact {b' : Books} (allocated : b.Allocated)
    (same : b'.drift level p = b.drift level p) (exact : b'.Exact level p) :
    (b.counters level p).list = [] := by
  by_contra some
  obtain ⟨i, member⟩ := List.exists_mem_of_ne_nil _ some
  have none : b.drift level p = 0 := same.symm.trans (drift_of_exact exact)
  have counted := Tally.exact_iff_drift.mpr none (b.state level i).number
  rw [allocated.zero, tally_number] at counted
  have inClass : 0 < (b.counters level p).list.countP fun j =>
      b.state level j = b.state level i :=
    List.countP_pos_iff.mpr ⟨i, member, decide_eq_true rfl⟩
  have bounded := List.countP_le_length
    (p := fun j => decide (b.state level j = b.state level i))
    (l := (b.counters level p).list)
  have small := allocated.small level p
  have zero := congrArg BitVec.toNat counted
  rw [BitVec.toNat_ofNat, Nat.mod_eq_of_lt (bounded.trans_lt small)] at zero
  exact absurd zero (Nat.ne_of_lt inClass)

theorem exact_of_childless (childless : (b.counters level p).list = [])
    (none : b.drift level p = 0) : b.Exact level p := by
  have zero : ∀ s, (b.counters level p).states s = 0 := by
    intro s
    have counted := Tally.exact_iff_drift.mpr none s
    rw [childless] at counted
    exact counted.trans (Tally.tally_nil s)
  refine ⟨fun s => ?_, fun s => ?_, fun some => absurd childless some⟩
  · rw [zero, childless]
    rfl
  · rw [zero]
    cases s <;> exact zero _

end Books

/-- After any calls the counters of a parent are exact if and only if it has no
child. -/
theorem exact_iff_childless (n n' : Net) (calls : List Call)
    (allocated : n.books.Allocated) (run : n.Succeeds calls n')
    (level : Level) (p : Nat) :
    n'.books.Exact level p ↔ (n.books.counters level p).list = [] := by
  have balanced := succeeds_balanced allocated.toProper run
  constructor
  · exact Books.childless_of_exact allocated (balanced.drift level p)
  · intro childless
    refine Books.exact_of_childless ((balanced.list level p).trans childless) ?_
    rw [balanced.drift level p]
    refine Tally.exact_iff_drift.mp fun s => ?_
    rw [allocated.zero, childless, Tally.tally_nil]

theorem chain_list (level : Level) (p : Nat) :
    (Net.chain.books.counters level p).list = if p = 0 then [0] else [] := by
  cases level <;> rfl

theorem chain_parent (level : Level) (i : Nat) :
    Net.chain.books.parent level i = 0 := by
  cases level <;> rfl

theorem chain_entered (level : Level) (i : Nat) :
    Net.chain.books.Entered level i ↔ i = 0 := by
  unfold Books.Entered
  rw [chain_parent, chain_list, if_pos rfl, List.mem_singleton]

theorem chain_allocated : Net.chain.books.Allocated where
  once level p := by
    rw [chain_list]
    split
    · exact List.nodup_singleton 0
    · exact List.nodup_nil
  parent level p i member := by
    rw [chain_list] at member
    rw [chain_parent]
    by_contra other
    rw [if_neg (Ne.symm other)] at member
    exact absurd member List.not_mem_nil
  up level level' _ i _ := by
    rw [chain_parent]
    exact (chain_entered level' 0).mpr rfl
  routes lk rt member := by
    refine (chain_entered .rt rt).mpr ?_
    change rt ∈ (if lk = 0 then [0] else []) at member
    split at member
    · exact List.mem_singleton.mp member
    · exact absurd member List.not_mem_nil
  routeLists ls rl member := by
    refine (chain_entered .rl rl).mpr ?_
    change rl ∈ (if ls = 0 then [0] else []) at member
    split at member
    · exact List.mem_singleton.mp member
    · exact absurd member List.not_mem_nil
  zero level p s := by
    cases level <;> rfl
  small level p := by
    rw [chain_list]
    split <;> decide

def Net.chainBlocked : Net := (rtSetState 0 (.enter .blocked)).after Net.chain

theorem chainBlocked_succeeds :
    Net.chain.Succeeds [.rt 0 (.enter .blocked)] Net.chainBlocked :=
  ⟨(chain_entered .rt 0).mpr rfl, Net.chainBlocked, rfl, rfl⟩

theorem exact_blocked_route :
    Net.chain.books.Allocated ∧
      Net.chain.Succeeds [.rt 0 (.enter .blocked)] Net.chainBlocked ∧
      (Net.chainBlocked.books.counters .rt 0).allowed = BitVec.allOnes 64 ∧
      ¬ Net.chainBlocked.books.Exact .rt 0 := by
  refine ⟨chain_allocated, chainBlocked_succeeds, by decide, fun exact => ?_⟩
  have counted := exact.states .allowed
  exact absurd counted (by decide)

theorem exact_iff_childless_chain :
    (Net.chain.books.counters .rt 1).list = [] ∧
      Net.chainBlocked.books.Exact .rt 1 :=
  ⟨rfl, (exact_iff_childless Net.chain Net.chainBlocked _ chain_allocated
    chainBlocked_succeeds .rt 1).mpr rfl⟩

end OpenSS7.Mtp3
