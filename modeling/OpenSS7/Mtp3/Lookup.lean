import OpenSS7.Lib.Searches
import OpenSS7.Mtp3.Disposition
import OpenSS7.Mtp3.Refused
import OpenSS7.Mtp3.RouteStatus

/-!
How the route that a route management message is about is looked up:
`mtp_lookup_rt`, `mtp_lookup_rt_test` and `mtp_lookup_adj`, with security
screening and without.
-/

namespace OpenSS7.Mtp3

open Program Searches

/-- `RT_TYPE_MEMBER` and `RT_TYPE_CLUSTER` -/
inductive RouteType where
  | member
  | cluster
deriving DecidableEq

section Lookups

/-- `if (!rt) goto error; return (rt);` -/
def foundOr (error : Nat) : Option Nat → Except Nat Nat
  | none => .error error
  | some rt => .ok rt

@[simp] theorem foundOr_ok_iff {error rt : Nat} {result : Option Nat} :
    foundOr error result = .ok rt ↔ result = some rt := by
  cases result with
  | none => exact iff_of_false nofun nofun
  | some rt' => exact ⟨fun | rfl => rfl, fun | rfl => rfl⟩

/-- What the lookups read besides the entities: `SPF_SECURITY` and
`SPF_CLUSTER` of a signalling point, `RSF_SECURITY` and `RSF_CLUSTER` of a route
set. -/
structure Screening where
  routing : Routing
  spSecurity : Nat → Bool
  spCluster : Nat → Bool
  rsSecurity : Nat → Bool
  clusterRoute : Nat → Bool

variable (g : Screening) (n : Net) (lk : Nat) (m : MtpMsg) (type : RouteType)

/-- `rt->rl.rl->rs.rs` -/
def Net.rsOf (rt : Nat) : Nat := (n.rl (n.rt rt).rl).rs

/-- `rt->lk.lk->sp.adj` -/
def Net.adjOf (rt : Nat) : Nat := (n.lk (n.rt rt).lk).adj

/-- `rs->dest == dest && rs->rs_type == type` -/
def Screening.concerns (dest rs : Nat) : Bool :=
  g.routing.dest rs = dest && g.routing.cluster rs = decide (type = .cluster)

def Screening.leads (rt : Nat) : Bool := g.concerns type m.dest (n.rsOf rt)

def mtpLookupRsLocal (dest : Nat) : Option Nat :=
  ((n.lk lk).rts.list.map n.rsOf).find? (g.concerns type dest)

def Screening.originator : Option Nat :=
  let rel := (n.lk lk).adj
  if g.routing.dest rel = m.opc then some rel
  else
    ((g.routing.routeSets (n.lk lk).loc).find?
      (g.concerns .member m.opc)).filter fun adj => (n.rs adj).flags.adjacent

def Screening.affects (adj : Nat) : Option Nat :=
  let loc := (n.lk lk).loc
  let rel := (n.lk lk).adj
  let cluster pc := pc &&& g.routing.clusterMask
  match type with
  | .cluster =>
      if g.spCluster loc = false then some 6
      else if g.clusterRoute adj = false then some 7
      else if g.clusterRoute rel = false then some 8
      else if m.dest = cluster (g.routing.pc loc) then some 9
      else if m.dest = cluster (g.routing.dest adj) then some 10
      else if m.dest = cluster (g.routing.dest rel) then some 11
      else none
  | .member =>
      if m.dest = g.routing.pc loc then some 12
      else if m.dest = g.routing.dest adj then some 13
      else none

def screenRt : Except Nat Nat :=
  let rel := (n.lk lk).adj
  if (n.rs rel).flags.adjacent = false then .error 1
  else if g.routing.pc (n.lk lk).loc ≠ m.dpc then .error 2
  else
    match g.originator n lk m with
    | none => .error 3
    | some adj =>
        if (n.rs adj).flags.xferFunc = false then .error 4
        else if (n.rs rel).flags.xferFunc = false then .error 5
        else
          match g.affects n lk m type adj with
          | some rule => .error rule
          | none =>
              if ∀ rt ∈ (n.lk lk).rts.list, n.rsOf rt ≠ adj then .error 14
              else .ok adj

/-- `(loc->flags & SPF_SECURITY) || (rel->flags & RSF_SECURITY)` -/
def Screening.secured : Bool :=
  g.spSecurity (n.lk lk).loc || g.rsSecurity (n.lk lk).adj

def screenedRt (adj : Nat) : Except Nat Nat :=
  match firstOrLast (g.concerns type m.dest)
      ((n.lk lk).rts.list.map n.rsOf) none with
  | none => .error 15
  | some dst =>
      foundOr 16 <| overwriting (fun rl =>
        (n.rl rl).rts.list.find? fun rt => n.adjOf rt = adj)
        (n.rs dst).rls.list none

def Screening.direct (lk : Nat) : Bool :=
  g.routing.dest (n.lk lk).adj = m.opc && g.routing.pc (n.lk lk).loc = m.dpc

def unscreenedRt : Except Nat Nat :=
  foundOr 16 <| amending (fun ls =>
    ((n.ls ls).lks.list.find? (g.direct n m)).map fun lk =>
      (n.lk lk).rts.list.find? (g.leads n m type))
    (n.sp (n.lk lk).loc).lss.list none

def mtpLookupRt : Except Nat Nat :=
  if g.secured n lk = true then
    match screenRt g n lk m type with
    | .error rule => .error rule
    | .ok adj => screenedRt g n lk m type adj
  else unscreenedRt g n lk m type

/-- The first five tests of `mtp_lookup_rt_test`. -/
def screenTest : Option Nat :=
  let loc := (n.lk lk).loc
  if (n.sp loc).flags.xferFunc = false then some 1
  else if type = .cluster ∧ g.spCluster loc = false then some 2
  else
    match mtpLookupRsLocal g n lk .member m.opc with
    | none => some 3
    | some rs =>
        if (n.rs rs).flags.adjacent = false then some 4
        else if m.dest = g.routing.pc loc then some 5
        else none

def Screening.tests (lk : Nat) : Bool :=
  g.routing.dest (n.lk lk).adj = m.opc &&
    g.clusterRoute (n.lk lk).adj = decide (type = .cluster)

/-- The search of `mtp_lookup_rt_test`. -/
def testedRt : Except Nat Nat :=
  foundOr 7 <| (n.sp (n.lk lk).loc).lss.list.findSome? fun ls =>
    (n.ls ls).lks.list.findSome? fun lk =>
      if g.tests n m type lk then
        (n.lk lk).rts.list.find? (g.leads n m type)
      else none

def mtpLookupRtTest : Except Nat Nat :=
  if g.spSecurity (n.lk lk).loc = true then
    match screenTest g n lk m type with
    | some error => .error error
    | none =>
        if mtpLookupRsLocal g n lk type m.dest = none then .error 6
        else testedRt g n lk m type
  else testedRt g n lk m type

/-- The tests of `mtp_lookup_adj`. -/
def screenAdj : Option Nat :=
  let adj := (n.lk lk).adj
  if (n.rs adj).flags.adjacent = false then some 1
  else if g.routing.dest adj ≠ m.opc then some 2
  else if g.routing.pc (n.lk lk).loc ≠ m.dpc then some 3
  else none

/-- The search of `mtp_lookup_adj`. -/
def adjacentRt : Except Nat Nat :=
  foundOr 4 <| overwriting (fun rl =>
    (n.rl rl).rts.list.find? fun rt => (n.rt rt).lk = lk)
    (n.rs (n.lk lk).adj).rls.list none

def mtpLookupAdj : Except Nat Nat :=
  if g.secured n lk = true then
    match screenAdj g n lk m with
    | some error => .error error
    | none => adjacentRt n lk
  else adjacentRt n lk

end Lookups

section Configuration

def Net.Attached (n : Net) (loc lk : Nat) : Prop :=
  ∃ ls ∈ (n.sp loc).lss.list, lk ∈ (n.ls ls).lks.list

structure Screening.Configured (g : Screening) (n : Net) (loc : Nat) :
    Prop where
  distinct : ∀ rs ∈ g.routing.routeSets loc,
    ∀ rs' ∈ g.routing.routeSets loc,
      g.routing.dest rs = g.routing.dest rs' → rs = rs'
  local' : ∀ lk, n.Attached loc lk → (n.lk lk).loc = loc
  adjacent : ∀ lk, n.Attached loc lk → (n.lk lk).adj ∈ g.routing.routeSets loc
  alone : ∀ lk lk', n.Attached loc lk → n.Attached loc lk' →
    (n.lk lk).adj = (n.lk lk').adj → lk = lk'
  upward : ∀ lk, n.Attached loc lk → ∀ rt ∈ (n.lk lk).rts.list,
    (n.rt rt).lk = lk ∧ rt ∈ (n.rl (n.rt rt).rl).rts.list ∧
      (n.rt rt).rl ∈ (n.rs (n.rsOf rt)).rls.list ∧
      n.rsOf rt ∈ g.routing.routeSets loc
  downward : ∀ rs ∈ g.routing.routeSets loc, ∀ rl ∈ (n.rs rs).rls.list,
    ∀ rt ∈ (n.rl rl).rts.list, n.rsOf rt = rs ∧
      n.Attached loc (n.rt rt).lk ∧ rt ∈ (n.lk (n.rt rt).lk).rts.list

end Configuration

section Wanted

variable (g : Screening) (n : Net) (lk : Nat) (m : MtpMsg) (type : RouteType)

def Screening.Via (loc rt : Nat) : Prop :=
  ∃ lk, n.Attached loc lk ∧ rt ∈ (n.lk lk).rts.list ∧
    g.routing.dest (n.lk lk).adj = m.opc ∧ g.leads n m type rt = true

def Net.Reaches (rt : Nat) : Prop :=
  ∃ other ∈ (n.lk lk).rts.list, n.rsOf other = n.rsOf rt

def Screening.Wanted (screened : Bool) (rt : Nat) : Prop :=
  g.Via n m type (n.lk lk).loc rt ∧ (screened = true → n.Reaches lk rt)

def Exact (wanted : Nat → Prop) (result : Except Nat Nat) : Prop :=
  ((∃ rt, result = .ok rt) ↔ ∃ rt, wanted rt) ∧
    ∀ rt, result = .ok rt → wanted rt

def Screening.Has (rl : Nat) : Prop :=
  ∃ rt ∈ (n.rl rl).rts.list, g.routing.dest (n.adjOf rt) = m.opc

structure Screening.Ordered : Prop where
  found : ∀ dst ∈ mtpLookupRsLocal g n lk type m.dest,
    (∃ rl ∈ (n.rs dst).rls.list, g.Has n m rl) →
      ∃ rl ∈ (n.rs dst).rls.list.getLast?, g.Has n m rl
  missed : mtpLookupRsLocal g n lk type m.dest = none →
    ∀ dst ∈ ((n.lk lk).rts.list.map n.rsOf).getLast?,
      ∀ rl ∈ (n.rs dst).rls.list.getLast?, ¬ g.Has n m rl

def Screening.Matched : Prop :=
  ∀ rt, g.Wanted n lk m type (g.spSecurity (n.lk lk).loc) rt →
    g.clusterRoute (n.adjOf rt) = decide (type = .cluster)

def Net.Direct : Prop :=
  (∃ rl ∈ (n.rs (n.lk lk).adj).rls.list, ∃ rt ∈ (n.rl rl).rts.list,
    (n.rt rt).lk = lk) →
  ∃ rl ∈ (n.rs (n.lk lk).adj).rls.list.getLast?,
    ∃ rt ∈ (n.rl rl).rts.list, (n.rt rt).lk = lk

def Screening.Passes : Prop :=
  g.secured n lk = true → ∃ adj, screenRt g n lk m type = .ok adj

def Screening.PassesTest : Prop :=
  g.spSecurity (n.lk lk).loc = true → screenTest g n lk m type = none

def Screening.PassesAdj : Prop :=
  g.secured n lk = true → screenAdj g n lk m = none

end Wanted

section Searching

variable {g : Screening} {n : Net} {loc lk : Nat} {m : MtpMsg}
  {type : RouteType}

theorem exact_iff_of_sound {wanted : Nat → Prop} {result : Except Nat Nat}
    (sound : ∀ rt, result = .ok rt → wanted rt) :
    Exact wanted result ↔ ((∃ rt, wanted rt) → ∃ rt, result = .ok rt) := by
  constructor
  · exact fun exact' => exact'.1.mpr
  · exact fun complete =>
      ⟨⟨fun ⟨rt, found⟩ => ⟨rt, sound rt found⟩, complete⟩, sound⟩

theorem concerns_iff {dest rs : Nat} :
    g.concerns type dest rs = true ↔ g.routing.dest rs = dest ∧
      g.routing.cluster rs = decide (type = .cluster) := by
  simp [Screening.concerns]

theorem mtpLookupRsLocal_some {dest rs : Nat}
    (found : mtpLookupRsLocal g n lk type dest = some rs) :
    g.concerns type dest rs = true ∧
      ∃ rt ∈ (n.lk lk).rts.list, n.rsOf rt = rs := by
  refine ⟨List.find?_some found, ?_⟩
  exact List.mem_map.mp (List.mem_of_find?_eq_some found)

theorem mtpLookupRsLocal_none_iff {dest : Nat} :
    mtpLookupRsLocal g n lk type dest = none ↔
      ∀ rt ∈ (n.lk lk).rts.list, g.concerns type dest (n.rsOf rt) ≠ true := by
  rw [mtpLookupRsLocal, List.find?_eq_none, List.forall_mem_map]

theorem screenRt_ok (configured : g.Configured n loc)
    (attached : n.Attached loc lk) {adj : Nat}
    (passes : screenRt g n lk m type = .ok adj) :
    adj ∈ g.routing.routeSets loc ∧ g.routing.dest adj = m.opc := by
  have originates : g.originator n lk m = some adj := by
    unfold screenRt at passes
    dsimp only at passes
    split at passes
    · cases passes
    split at passes
    · cases passes
    split at passes
    · cases passes
    next found =>
      split at passes
      · cases passes
      split at passes
      · cases passes
      split at passes
      · cases passes
      split at passes
      · cases passes
      · cases passes
        exact found
  unfold Screening.originator at originates
  dsimp only at originates
  split at originates
  · next same =>
      cases originates
      exact ⟨configured.adjacent lk attached, same⟩
  · rw [configured.local' lk attached] at originates
    have found := (Option.filter_eq_some_iff.mp originates).1
    exact ⟨List.mem_of_find?_eq_some found,
      (concerns_iff.mp (List.find?_some found)).1⟩

theorem adj_eq_iff (configured : g.Configured n loc)
    (attached : n.Attached loc lk) {adj : Nat}
    (listed : adj ∈ g.routing.routeSets loc)
    (originates : g.routing.dest adj = m.opc) :
    (n.lk lk).adj = adj ↔ g.routing.dest (n.lk lk).adj = m.opc := by
  constructor
  · rintro rfl
    exact originates
  · intro same
    exact configured.distinct _ (configured.adjacent lk attached) _ listed
      (same.trans originates.symm)

theorem originator_unique (configured : g.Configured n loc) {lk' : Nat}
    (attached : n.Attached loc lk) (attached' : n.Attached loc lk')
    (originates : g.routing.dest (n.lk lk).adj = m.opc)
    (originates' : g.routing.dest (n.lk lk').adj = m.opc) : lk = lk' :=
  configured.alone lk lk' attached attached'
    (configured.distinct _ (configured.adjacent lk attached) _
      (configured.adjacent lk' attached')
      (originates.trans originates'.symm))

theorem via_iff (configured : g.Configured n loc) {dst : Nat}
    (listed : dst ∈ g.routing.routeSets loc)
    (concerned : g.concerns type m.dest dst = true) (rt : Nat) :
    g.Via n m type loc rt ↔ ∃ rl ∈ (n.rs dst).rls.list,
      rt ∈ (n.rl rl).rts.list ∧ g.routing.dest (n.adjOf rt) = m.opc := by
  constructor
  · rintro ⟨lk, attached, held, originates, leads⟩
    obtain ⟨same, inList, ofSet, known⟩ := configured.upward lk attached rt held
    have set : n.rsOf rt = dst := configured.distinct _ known _ listed
      ((concerns_iff.mp leads).1.trans (concerns_iff.mp concerned).1.symm)
    rw [set] at ofSet
    refine ⟨(n.rt rt).rl, ofSet, inList, ?_⟩
    rwa [Net.adjOf, same]
  · rintro ⟨rl, ofSet, inList, originates⟩
    obtain ⟨set, attached, held⟩ := configured.downward dst listed rl ofSet rt
      inList
    refine ⟨(n.rt rt).lk, attached, held, originates, ?_⟩
    rwa [Screening.leads, set]

theorem overwriting_some {dst adj : Nat}
    (originates : g.routing.dest adj = m.opc) {rt : Nat}
    (found : overwriting (fun rl =>
      (n.rl rl).rts.list.find? fun rt => n.adjOf rt = adj)
      (n.rs dst).rls.list none = some rt) :
    ∃ rl ∈ (n.rs dst).rls.list, rt ∈ (n.rl rl).rts.list ∧
      g.routing.dest (n.adjOf rt) = m.opc := by
  rw [overwriting_eq] at found
  obtain ⟨rl, last, found⟩ := Option.bind_eq_some_iff.mp found
  have ofSet := List.mem_of_getLast? last
  have inList := List.mem_of_find?_eq_some found
  refine ⟨rl, ofSet, inList, ?_⟩
  have same : n.adjOf rt = adj := by simpa using List.find?_some found
  rwa [same]

theorem overwriting_isSome_iff (configured : g.Configured n loc) {dst adj : Nat}
    (listed : dst ∈ g.routing.routeSets loc)
    (known : adj ∈ g.routing.routeSets loc)
    (originates : g.routing.dest adj = m.opc) :
    (∃ rt, overwriting (fun rl =>
        (n.rl rl).rts.list.find? fun rt => n.adjOf rt = adj)
        (n.rs dst).rls.list none = some rt) ↔
      ∃ rl ∈ (n.rs dst).rls.list.getLast?, g.Has n m rl := by
  rw [overwriting_eq]
  constructor
  · rintro ⟨rt, found⟩
    obtain ⟨rl, last, found⟩ := Option.bind_eq_some_iff.mp found
    have same : n.adjOf rt = adj := by simpa using List.find?_some found
    exact ⟨rl, last, rt, List.mem_of_find?_eq_some found, same ▸ originates⟩
  · rintro ⟨rl, last, rt, inList, there⟩
    have attached := (configured.downward dst listed rl
      (List.mem_of_getLast? last) rt inList).2.1
    have same : n.adjOf rt = adj :=
      (adj_eq_iff configured attached known originates).mpr there
    have found : ((n.rl rl).rts.list.find? fun rt => n.adjOf rt = adj).isSome :=
      List.find?_isSome.mpr ⟨rt, inList, by simpa using same⟩
    obtain ⟨first, found⟩ := Option.isSome_iff_exists.mp found
    exact ⟨first, Option.bind_eq_some_iff.mpr ⟨rl, last, found⟩⟩

theorem screenedRt_found (configured : g.Configured n loc)
    (attached : n.Attached loc lk) {adj dst : Nat}
    (known : adj ∈ g.routing.routeSets loc)
    (originates : g.routing.dest adj = m.opc)
    (there : mtpLookupRsLocal g n lk type m.dest = some dst) :
    Exact (fun rt => g.Via n m type loc rt ∧ n.Reaches lk rt)
        (screenedRt g n lk m type adj) ↔
      ((∃ rl ∈ (n.rs dst).rls.list, g.Has n m rl) →
        ∃ rl ∈ (n.rs dst).rls.list.getLast?, g.Has n m rl) := by
  obtain ⟨concerned, other, held, ofOther⟩ := mtpLookupRsLocal_some there
  have listed : dst ∈ g.routing.routeSets loc :=
    ofOther ▸ (configured.upward lk attached other held).2.2.2
  have result : ∀ rt, screenedRt g n lk m type adj = .ok rt ↔
      overwriting (fun rl =>
        (n.rl rl).rts.list.find? fun rt => n.adjOf rt = adj)
        (n.rs dst).rls.list none = some rt := by
    intro rt
    unfold mtpLookupRsLocal at there
    unfold screenedRt
    rw [firstOrLast_eq, there, foundOr_ok_iff]
  have reaches : ∀ rt, g.Via n m type loc rt → n.Reaches lk rt := by
    rintro rt via
    obtain ⟨rl, ofSet, inList, -⟩ := (via_iff configured listed concerned rt).mp
      via
    exact ⟨other, held, ofOther.trans
      (configured.downward dst listed rl ofSet rt inList).1.symm⟩
  rw [exact_iff_of_sound]
  · simp only [result]
    rw [overwriting_isSome_iff configured listed known originates]
    refine imp_congr_left ⟨?_, ?_⟩
    · rintro ⟨rt, via, -⟩
      obtain ⟨rl, ofSet, inList, across⟩ :=
        (via_iff configured listed concerned rt).mp via
      exact ⟨rl, ofSet, rt, inList, across⟩
    · rintro ⟨rl, ofSet, rt, inList, across⟩
      have via := (via_iff configured listed concerned rt).mpr
        ⟨rl, ofSet, inList, across⟩
      exact ⟨rt, via, reaches rt via⟩
  · intro rt found
    have via := (via_iff configured listed concerned rt).mpr
      (overwriting_some originates ((result rt).mp found))
    exact ⟨via, reaches rt via⟩

theorem screenedRt_missed (configured : g.Configured n loc)
    (attached : n.Attached loc lk) {adj : Nat}
    (known : adj ∈ g.routing.routeSets loc)
    (originates : g.routing.dest adj = m.opc)
    (absent : mtpLookupRsLocal g n lk type m.dest = none) :
    Exact (fun rt => g.Via n m type loc rt ∧ n.Reaches lk rt)
        (screenedRt g n lk m type adj) ↔
      ∀ dst ∈ ((n.lk lk).rts.list.map n.rsOf).getLast?,
        ∀ rl ∈ (n.rs dst).rls.list.getLast?, ¬ g.Has n m rl := by
  have unwanted : ¬ ∃ rt, g.Via n m type loc rt ∧ n.Reaches lk rt := by
    rintro ⟨rt, ⟨-, -, -, -, leads⟩, other, held, same⟩
    rw [Screening.leads, ← same] at leads
    exact mtpLookupRsLocal_none_iff.mp absent other held leads
  have exact_iff : Exact (fun rt => g.Via n m type loc rt ∧ n.Reaches lk rt)
      (screenedRt g n lk m type adj) ↔
        ¬ ∃ rt, screenedRt g n lk m type adj = .ok rt := by
    constructor
    · exact fun exact' found => unwanted (exact'.1.mp found)
    · exact fun none => ⟨iff_of_false none unwanted,
        fun rt found => absurd ⟨rt, found⟩ none⟩
  rw [exact_iff]
  unfold mtpLookupRsLocal at absent
  unfold screenedRt
  rw [firstOrLast_eq, absent]
  dsimp only
  cases last : ((n.lk lk).rts.list.map n.rsOf).getLast? with
  | none => simp
  | some dst =>
      obtain ⟨other, held, rfl⟩ := List.mem_map.mp (List.mem_of_getLast? last)
      have listed := (configured.upward lk attached other held).2.2.2
      simp only [foundOr_ok_iff]
      rw [overwriting_isSome_iff configured listed known originates]
      simp

theorem unscreenedRt_exact (configured : g.Configured n loc)
    (attached : n.Attached loc lk) (addressed : m.dpc = g.routing.pc loc) :
    Exact (g.Via n m type loc) (unscreenedRt g n lk m type) := by
  have searched : ∀ ls ∈ (n.sp loc).lss.list, ∀ lk',
      (n.ls ls).lks.list.find? (g.direct n m) = some lk' →
      n.Attached loc lk' ∧ g.routing.dest (n.lk lk').adj = m.opc := by
    intro ls listed lk' found
    have direct := List.find?_some found
    simp only [Screening.direct, Bool.and_eq_true, decide_eq_true_eq] at direct
    exact ⟨⟨ls, listed, List.mem_of_find?_eq_some found⟩, direct.1⟩
  unfold unscreenedRt
  rw [configured.local' lk attached, exact_iff_of_sound]
  · rintro ⟨rt, lk', attached', held, originates, leads⟩
    obtain ⟨rt', found⟩ := Option.isSome_iff_exists.mp
      (List.find?_isSome.mpr ⟨rt, held, leads⟩)
    refine ⟨rt', foundOr_ok_iff.mpr (amending_agree ?_ ?_)⟩
    · intro ls listed result made
      obtain ⟨lk'', there, rfl⟩ := Option.map_eq_some_iff.mp made
      obtain ⟨attached'', originates''⟩ := searched ls listed lk'' there
      rw [originator_unique configured attached'' attached' originates''
        originates, found]
    · obtain ⟨ls, listed, inLs⟩ := attached'
      refine .inr ⟨ls, listed, ?_⟩
      rw [Option.isSome_map, List.find?_isSome]
      refine ⟨lk', inLs, ?_⟩
      have here := configured.local' lk' ⟨ls, listed, inLs⟩
      simp [Screening.direct, originates, here, addressed]
  · intro rt found
    obtain none | ⟨ls, listed, made⟩ :=
      amending_mem (foundOr_ok_iff.mp found)
    · exact nomatch none
    · obtain ⟨lk', there, found⟩ := Option.map_eq_some_iff.mp made
      obtain ⟨attached', originates⟩ := searched ls listed lk' there
      exact ⟨lk', attached', List.mem_of_find?_eq_some found, originates,
        List.find?_some found⟩

theorem testedRt_ok_iff (attached : (n.lk lk).loc = loc) :
    (∃ rt, testedRt g n lk m type = .ok rt) ↔ ∃ lk', n.Attached loc lk' ∧
      g.tests n m type lk' = true ∧
      ∃ rt ∈ (n.lk lk').rts.list, g.leads n m type rt = true := by
  unfold testedRt
  simp only [foundOr_ok_iff, attached]
  rw [← Option.isSome_iff_exists, List.findSome?_isSome_iff]
  constructor
  · rintro ⟨ls, listed, found⟩
    rw [List.findSome?_isSome_iff] at found
    obtain ⟨lk', inLs, found⟩ := found
    split at found
    · next tests =>
        exact ⟨lk', ⟨ls, listed, inLs⟩, tests, List.find?_isSome.mp found⟩
    · exact nomatch found
  · rintro ⟨lk', ⟨ls, listed, inLs⟩, tests, leads⟩
    refine ⟨ls, listed, List.findSome?_isSome_iff.mpr ⟨lk', inLs, ?_⟩⟩
    rw [if_pos tests]
    exact List.find?_isSome.mpr leads

theorem testedRt_ok {rt : Nat} (attached : (n.lk lk).loc = loc)
    (found : testedRt g n lk m type = .ok rt) : ∃ lk', n.Attached loc lk' ∧
      g.tests n m type lk' = true ∧ rt ∈ (n.lk lk').rts.list ∧
      g.leads n m type rt = true := by
  unfold testedRt at found
  rw [foundOr_ok_iff, attached] at found
  obtain ⟨ls, listed, found⟩ := List.exists_of_findSome?_eq_some found
  obtain ⟨lk', inLs, found⟩ := List.exists_of_findSome?_eq_some found
  split at found
  · next tests =>
      exact ⟨lk', ⟨ls, listed, inLs⟩, tests, List.mem_of_find?_eq_some found,
        List.find?_some found⟩
  · exact nomatch found

end Searching

section Exactness

variable {g : Screening} {n : Net} {lk : Nat} {m : MtpMsg} {type : RouteType}

theorem mtpLookupRt_exact_iff (configured : g.Configured n (n.lk lk).loc)
    (attached : n.Attached (n.lk lk).loc lk)
    (addressed : m.dpc = g.routing.pc (n.lk lk).loc)
    (passes : g.Passes n lk m type) :
    Exact (g.Wanted n lk m type (g.secured n lk))
        (mtpLookupRt g n lk m type) ↔
      (g.secured n lk = true → g.Ordered n lk m type) := by
  unfold mtpLookupRt Screening.Wanted
  cases secured : g.secured n lk with
  | false =>
      simp only [Bool.false_eq_true, if_false, false_imp_iff, and_true, iff_true]
      exact unscreenedRt_exact configured attached addressed
  | true =>
      obtain ⟨adj, screened⟩ := passes secured
      obtain ⟨known, originates⟩ := screenRt_ok configured attached screened
      simp only [if_true, true_imp_iff, screened]
      cases there : mtpLookupRsLocal g n lk type m.dest with
      | some dst =>
          rw [screenedRt_found configured attached known originates there]
          constructor
          · intro ordered
            refine ⟨fun dst' found => ?_, fun none => ?_⟩
            · rw [there] at found
              cases found
              exact ordered
            · rw [there] at none
              exact nomatch none
          · exact fun ordered => ordered.found dst there
      | none =>
          rw [screenedRt_missed configured attached known originates there]
          constructor
          · intro ordered
            refine ⟨fun dst' found => ?_, fun _ => ordered⟩
            rw [there] at found
            exact nomatch found
          · exact fun ordered => ordered.missed there

theorem rsOf_eq (configured : g.Configured n (n.lk lk).loc) {lk' rt rt' : Nat}
    (attached : n.Attached (n.lk lk).loc lk)
    (attached' : n.Attached (n.lk lk).loc lk') (held : rt ∈ (n.lk lk).rts.list)
    (held' : rt' ∈ (n.lk lk').rts.list) (leads : g.leads n m type rt = true)
    (leads' : g.leads n m type rt' = true) : n.rsOf rt = n.rsOf rt' :=
  configured.distinct _ (configured.upward lk attached rt held).2.2.2 _
    (configured.upward lk' attached' rt' held').2.2.2
    ((concerns_iff.mp leads).1.trans (concerns_iff.mp leads').1.symm)

theorem reaches_iff (configured : g.Configured n (n.lk lk).loc)
    (attached : n.Attached (n.lk lk).loc lk) {rt : Nat}
    (via : g.Via n m type (n.lk lk).loc rt) :
    n.Reaches lk rt ↔ mtpLookupRsLocal g n lk type m.dest ≠ none := by
  obtain ⟨lk', attached', held, -, leads⟩ := via
  rw [ne_eq, mtpLookupRsLocal_none_iff]
  push Not
  constructor
  · rintro ⟨other, there, same⟩
    refine ⟨other, there, ?_⟩
    rwa [same]
  · rintro ⟨other, there, leads'⟩
    exact ⟨other, there, rsOf_eq configured attached attached' there held leads'
      leads⟩

theorem mtpLookupRtTest_eq (passes : g.PassesTest n lk m type) :
    mtpLookupRtTest g n lk m type =
      if g.spSecurity (n.lk lk).loc = true ∧
          mtpLookupRsLocal g n lk type m.dest = none then .error 6
      else testedRt g n lk m type := by
  unfold mtpLookupRtTest
  split
  · next secured =>
      rw [passes secured]
      simp only [secured, true_and]
  · next unsecured => rw [if_neg fun both => unsecured both.1]

theorem mtpLookupRtTest_exact_iff (configured : g.Configured n (n.lk lk).loc)
    (attached : n.Attached (n.lk lk).loc lk)
    (passes : g.PassesTest n lk m type) :
    Exact (g.Wanted n lk m type (g.spSecurity (n.lk lk).loc))
        (mtpLookupRtTest g n lk m type) ↔ g.Matched n lk m type := by
  rw [mtpLookupRtTest_eq passes]
  split
  · next missed =>
      have unwanted : ∀ rt, ¬ g.Wanted n lk m type
          (g.spSecurity (n.lk lk).loc) rt := fun rt wanted =>
        (reaches_iff configured attached wanted.1).mp (wanted.2 missed.1)
          missed.2
      refine iff_of_true ⟨iff_of_false nofun ?_, nofun⟩ ?_
      · exact fun ⟨rt, wanted⟩ => unwanted rt wanted
      · exact fun rt wanted => absurd wanted (unwanted rt)
  · next kept =>
      have sound : ∀ rt, testedRt g n lk m type = .ok rt →
          g.Wanted n lk m type (g.spSecurity (n.lk lk).loc) rt ∧
            g.clusterRoute (n.adjOf rt) = decide (type = .cluster) := by
        intro rt found
        obtain ⟨lk', attached', tests, held, leads⟩ := testedRt_ok rfl found
        simp only [Screening.tests, Bool.and_eq_true, decide_eq_true_eq]
          at tests
        have via : g.Via n m type (n.lk lk).loc rt :=
          ⟨lk', attached', held, tests.1, leads⟩
        refine ⟨⟨via, fun secured => ?_⟩, ?_⟩
        · exact (reaches_iff configured attached via).mpr
            fun none => kept ⟨secured, none⟩
        · rw [Net.adjOf, (configured.upward lk' attached' rt held).1]
          exact tests.2
      rw [exact_iff_of_sound fun rt found => (sound rt found).1]
      constructor
      · intro complete rt wanted
        obtain ⟨rt', found⟩ := complete ⟨rt, wanted⟩
        obtain ⟨wanted', matched⟩ := sound rt' found
        obtain ⟨lk₁, attached₁, held₁, originates₁, -⟩ := wanted.1
        obtain ⟨lk₂, attached₂, held₂, originates₂, -⟩ := wanted'.1
        have same := originator_unique configured attached₁ attached₂
          originates₁ originates₂
        rw [Net.adjOf, (configured.upward lk₂ attached₂ rt' held₂).1]
          at matched
        rw [Net.adjOf, (configured.upward lk₁ attached₁ rt held₁).1, same,
          matched]
      · rintro matched ⟨rt, wanted⟩
        have flag := matched rt wanted
        obtain ⟨lk', attached', held, originates, leads⟩ := wanted.1
        rw [Net.adjOf, (configured.upward lk' attached' rt held).1] at flag
        refine (testedRt_ok_iff rfl).mpr ⟨lk', attached', ?_, rt, held, leads⟩
        simp [Screening.tests, originates, flag]

theorem mtpLookupAdj_exact_iff (configured : g.Configured n (n.lk lk).loc)
    (attached : n.Attached (n.lk lk).loc lk) (passes : g.PassesAdj n lk m) :
    Exact (fun rt => rt ∈ (n.lk lk).rts.list ∧ n.rsOf rt = (n.lk lk).adj)
        (mtpLookupAdj g n lk m) ↔ n.Direct lk := by
  have result : mtpLookupAdj g n lk m = adjacentRt n lk := by
    unfold mtpLookupAdj
    split
    · next secured => rw [passes secured]
    · rfl
  have listed := configured.adjacent lk attached
  have wanted_iff : ∀ rt, rt ∈ (n.lk lk).rts.list ∧
      n.rsOf rt = (n.lk lk).adj ↔ ∃ rl ∈ (n.rs (n.lk lk).adj).rls.list,
        rt ∈ (n.rl rl).rts.list ∧ (n.rt rt).lk = lk := by
    intro rt
    constructor
    · rintro ⟨held, set⟩
      obtain ⟨same, inList, ofSet, -⟩ := configured.upward lk attached rt held
      rw [set] at ofSet
      exact ⟨(n.rt rt).rl, ofSet, inList, same⟩
    · rintro ⟨rl, ofSet, inList, same⟩
      obtain ⟨set, -, held⟩ := configured.downward _ listed rl ofSet rt inList
      rw [same] at held
      exact ⟨held, set⟩
  have found_iff : ∀ rt, adjacentRt n lk = .ok rt ↔
      ∃ rl ∈ (n.rs (n.lk lk).adj).rls.list.getLast?,
        (n.rl rl).rts.list.find? (fun rt => (n.rt rt).lk = lk) = some rt := by
    intro rt
    rw [adjacentRt, foundOr_ok_iff, overwriting_eq, Option.bind_eq_some_iff]
    rfl
  rw [result, exact_iff_of_sound]
  · simp only [wanted_iff, found_iff]
    refine imp_congr ⟨?_, ?_⟩ ⟨?_, ?_⟩
    · rintro ⟨rt, rl, ofSet, held⟩
      exact ⟨rl, ofSet, rt, held⟩
    · rintro ⟨rl, ofSet, rt, held⟩
      exact ⟨rt, rl, ofSet, held⟩
    · rintro ⟨rt, rl, last, found⟩
      refine ⟨rl, last, rt, List.mem_of_find?_eq_some found, ?_⟩
      simpa using List.find?_some found
    · rintro ⟨rl, last, rt, inList, same⟩
      have found : ((n.rl rl).rts.list.find? fun rt =>
          (n.rt rt).lk = lk).isSome :=
        List.find?_isSome.mpr ⟨rt, inList, by simpa using same⟩
      obtain ⟨rt', found⟩ := Option.isSome_iff_exists.mp found
      exact ⟨rt', rl, last, found⟩
  · intro rt found
    obtain ⟨rl, last, found⟩ := (found_iff rt).mp found
    refine (wanted_iff rt).mpr ⟨rl, List.mem_of_getLast? last,
      List.mem_of_find?_eq_some found, ?_⟩
    simpa using List.find?_some found

end Exactness

section Statuses

variable (g : Screening) (lk : Nat) (m : MtpMsg)

def RouteEvent.type : RouteEvent → RouteType
  | .tcp | .tcr | .tca => .cluster
  | _ => .member

/-- A transfer message is received: `mtp_recv_tfp` to `mtp_recv_tca`. -/
def recvTransfer (e : RouteEvent) : NetM Unit := do
  let n ← get
  match mtpLookupRt g n lk m e.type with
  | .error _ => pure ()
  | .ok rt => e.perform rt

variable {g lk m} {n : Net}

theorem perform_keeps {e : RouteEvent} (message : e.prescribes ≠ none)
    {rt i : Nat} (other : i ≠ rt) (r : Rt) :
    Keeps (fun s => s.rt i = r) (e.perform rt) := by
  have own (change : Change) :
      Keeps (fun s => s.rt i = r) (rtSetState rt change) :=
    rtSetState_keeps_own
      ⟨⟨fun _ _ _ same => same, fun _ _ same => same, fun _ _ _ same => same⟩,
        fun _ _ _ same => same, fun _ _ _ same => same,
        fun _ _ _ same => same, fun _ _ _ same => same⟩
      (fun _ _ same => (Function.update_of_ne other _ _).trans same)
      fun _ _ _ same => same
  cases e with
  | tfp | tcp | tfr | tcr | tfa | tca =>
      exact triple_get_any fun _ => keeps_when (own _)
  | blocked | unblocked | t10 => exact absurd rfl message

theorem recvTransfer_changes (e : RouteEvent) (message : e.prescribes ≠ none)
    {wanted : Nat → Prop}
    (sound : ∀ rt, mtpLookupRt g n lk m e.type = .ok rt → wanted rt) (i : Nat)
    (unwanted : ¬ wanted i) :
    ((recvTransfer g lk m e).after n).rt i = n.rt i := by
  have keeps : Triple (fun s => n = s) (recvTransfer g lk m e)
      (fun _ s => s.rt i = n.rt i) fun s => s.rt i = n.rt i := by
    refine triple_get_bind fun n' same => ?_
    subst same
    split
    · exact triple_pure fun _ same => same ▸ rfl
    · next rt found =>
        have other : i ≠ rt := fun same => unwanted (same ▸ sound rt found)
        exact triple_conseq (perform_keeps message other (n.rt i))
          (fun _ same => same ▸ rfl) (fun _ _ same => same) fun _ same => same
  exact triple_after keeps rfl

end Statuses

/-- The lookups of a message that has come over a link set are exact just where
the searches do not go on past what they look for; and then a transfer message
changes the status of no other route than those that it is about. -/
theorem lookups_exact_iff (g : Screening) (n : Net) (lk : Nat)
    (configured : g.Configured n (n.lk lk).loc)
    (attached : n.Attached (n.lk lk).loc lk) :
    (∀ m type, m.dpc = g.routing.pc (n.lk lk).loc → g.Passes n lk m type →
      (Exact (g.Wanted n lk m type (g.secured n lk))
          (mtpLookupRt g n lk m type) ↔
        (g.secured n lk = true → g.Ordered n lk m type))) ∧
    (∀ m type, g.PassesTest n lk m type →
      (Exact (g.Wanted n lk m type (g.spSecurity (n.lk lk).loc))
          (mtpLookupRtTest g n lk m type) ↔ g.Matched n lk m type)) ∧
    (∀ m, g.PassesAdj n lk m →
      (Exact (fun rt => rt ∈ (n.lk lk).rts.list ∧ n.rsOf rt = (n.lk lk).adj)
          (mtpLookupAdj g n lk m) ↔ n.Direct lk)) ∧
    ∀ m e, e.prescribes ≠ none → m.dpc = g.routing.pc (n.lk lk).loc →
      g.Passes n lk m e.type →
      (g.secured n lk = true → g.Ordered n lk m e.type) →
      ∀ i, ((recvTransfer g lk m e).after n).rt i ≠ n.rt i →
        g.Via n m e.type (n.lk lk).loc i := by
  refine ⟨fun m type => mtpLookupRt_exact_iff configured attached,
    fun m type => mtpLookupRtTest_exact_iff configured attached,
    fun m => mtpLookupAdj_exact_iff configured attached, ?_⟩
  intro m e message addressed passes ordered i changed
  have exact' := (mtpLookupRt_exact_iff configured attached addressed
    passes).mpr ordered
  by_contra unwanted
  exact changed (recvTransfer_changes e message exact'.2 i
    fun wanted => unwanted wanted.1)

section Star

def Net.star : Net :=
  { Net.transit with
    sp := fun _ => { Net.transit.sp 0 with lss := .zero [0, 1] 0 }
    ls := fun p => { Net.transit.ls p with lks := .zero [p] 0 }
    lk := fun p =>
      { Net.transit.lk p with
        adj := 2 * p
        rts := .zero (if p = 0 then [0, 1] else [2, 3, 4]) 0 }
    rs := fun p =>
      { Net.transit.rs p with
        flags := { Flags.none with xferFunc := true, adjacent := true }
        rls := .zero
          (if p = 0 then [0, 4] else if p = 1 then [1, 2] else [3]) 0 }
    rl := fun p =>
      { Net.transit.rl p with
        rs := [0, 1, 1, 2, 0].getD p 0
        ls := if p ≤ 1 then 0 else 1
        rts := .zero [p] 0 }
    rt := fun p =>
      { Net.transit.rt p with rl := p, lk := if p ≤ 1 then 0 else 1 }
    routing := Net.chain.routing }

def Screening.star (secure : Bool) : Screening where
  routing := { Routing.transit .itut with routeSets := fun _ => [0, 1, 2] }
  spSecurity := fun _ => secure
  spCluster := fun _ => false
  rsSecurity := fun _ => false
  clusterRoute := fun _ => false

def prohibiting (opc dest : Nat) : MtpMsg :=
  { MtpMsg.zero with opc := opc, dpc := 5, dest := dest }

theorem star_attached_iff (lk : Nat) :
    Net.star.Attached 0 lk ↔ lk = 0 ∨ lk = 1 := by
  simp [Net.Attached, Net.star, Counters.zero]

theorem star_configured (secure : Bool) :
    (Screening.star secure).Configured Net.star 0 where
  distinct := fun _ _ _ _ same => Nat.succ.inj same
  local' := fun _ _ => rfl
  adjacent := by
    intro lk attached
    obtain rfl | rfl := (star_attached_iff lk).mp attached
    · exact List.mem_cons_self
    · exact show 2 ∈ [0, 1, 2] by decide
  alone := fun lk lk' _ _ same => by
    change 2 * lk = 2 * lk' at same
    omega
  upward := by
    intro lk attached rt held
    obtain rfl | rfl := (star_attached_iff lk).mp attached
    · have known : ∀ rt ∈ [0, 1], (Net.star.rt rt).lk = 0 ∧
          rt ∈ (Net.star.rl (Net.star.rt rt).rl).rts.list ∧
          (Net.star.rt rt).rl ∈ (Net.star.rs (Net.star.rsOf rt)).rls.list ∧
          Net.star.rsOf rt ∈ [0, 1, 2] := by decide
      exact known rt held
    · have known : ∀ rt ∈ [2, 3, 4], (Net.star.rt rt).lk = 1 ∧
          rt ∈ (Net.star.rl (Net.star.rt rt).rl).rts.list ∧
          (Net.star.rt rt).rl ∈ (Net.star.rs (Net.star.rsOf rt)).rls.list ∧
          Net.star.rsOf rt ∈ [0, 1, 2] := by decide
      exact known rt held
  downward := by
    have known : ∀ rs ∈ [0, 1, 2], ∀ rl ∈ (Net.star.rs rs).rls.list,
        ∀ rt ∈ (Net.star.rl rl).rts.list, Net.star.rsOf rt = rs ∧
          ((Net.star.rt rt).lk = 0 ∨ (Net.star.rt rt).lk = 1) ∧
          rt ∈ (Net.star.lk (Net.star.rt rt).lk).rts.list := by decide
    intro rs listed rl ofSet rt inList
    obtain ⟨set, attached, held⟩ := known rs listed rl ofSet rt inList
    exact ⟨set, (star_attached_iff _).mpr attached, held⟩

theorem star_exact :
    Exact ((Screening.star false).Wanted Net.star 0 (prohibiting 1 2) .member
        false)
      (mtpLookupRt (Screening.star false) Net.star 0 (prohibiting 1 2)
        .member) :=
  ((lookups_exact_iff (Screening.star false) Net.star 0 (star_configured false)
    ((star_attached_iff 0).mpr (.inl rfl))).1 (prohibiting 1 2) .member rfl
      nofun).mpr nofun

theorem star_misled :
    let g := Screening.star true
    let n := Net.star
    let misled := (recvTransfer g 1 (prohibiting 3 9) .tfp).after n
    (g.Passes n 0 (prohibiting 1 2) .member ∧
      g.Wanted n 0 (prohibiting 1 2) .member true 1 ∧
      mtpLookupRt g n 0 (prohibiting 1 2) .member = .error 16) ∧
    (g.PassesAdj n 0 (prohibiting 1 0) ∧ 0 ∈ (n.lk 0).rts.list ∧
      n.rsOf 0 = (n.lk 0).adj ∧
      mtpLookupAdj g n 0 (prohibiting 1 0) = .error 4) ∧
    (n.rsOf 4 = 0 ∧ g.routing.dest 0 = 1 ∧
      (n.rt 4).flags.prohibited = false ∧
      (misled.rt 4).flags.prohibited = true) := by
  refine ⟨⟨fun _ => ⟨0, rfl⟩, ⟨⟨0, ?_, by decide, rfl, rfl⟩, fun _ => ?_⟩, rfl⟩,
    ⟨fun _ => rfl, by decide, rfl, rfl⟩, rfl, rfl, rfl, ?_⟩
  · exact (star_attached_iff 0).mpr (.inl rfl)
  · exact ⟨1, by decide, rfl⟩
  · decide

end Star

end OpenSS7.Mtp3
