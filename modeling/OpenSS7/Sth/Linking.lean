import OpenSS7.Sth.Link

/-!
When linking and unlinking is balanced.
-/

namespace OpenSS7.Sth

structure System.Layout (sys : System) : Prop where
  once : ∀ owner, (sys.list owner).Nodup
  apart : ∀ owner owner' sd, sd ∈ sys.list owner → sd ∈ sys.list owner' →
    owner = owner'
  plex : ∀ sd, (∃ owner, sd ∈ sys.list owner) ↔ (sys.sd sd).stplex = true
  block : ∀ sd, (sys.sd sd).linkblk.isSome = (sys.sd sd).stplex
  whole : ∀ sd, (sys.sd sd).stplex = false → (sys.sd sd).strclose = false →
    (sys.sd sd).muxinit = none ∧ (sys.sd sd).rqQshead = true ∧
      (sys.sd sd).wqQshead = true

def System.Restored (sys : System) : Prop :=
  ∀ sd, (sys.sd sd).stplex = false → (sys.sd sd).strclose = false →
    (sys.sd sd).rqPtr = .head sd ∧ (sys.sd sd).wqPtr = .head sd

def System.SameRefs (sys sys' : System) : Prop :=
  ∀ sd, (sys'.sd sd).refs = (sys.sd sd).refs

def LinkCall.sent (sys : System) (call : LinkCall) : Option Nat :=
  match call.acquire sys with
  | .error _ => none
  | .ok sd =>
      if sd ≠ call.mux ∧ call.check sys sd = none then some sd else none

def System.Counted (sys : System) : LinkOp → Prop
  | .xlink call => ∀ sd, call.acquire sys = .ok sd → sd ≠ call.mux
  | .xunlink call =>
      ∀ sd next rest, call.find sys = .ok (sd :: next :: rest) →
        call.answers.headD .refused ≠ .accepted
  | _ => True

/-- The condition for `q_ptr`: the driver accepts every link, and no stream is
unlinked. -/
def System.Quiet (sys : System) : LinkOp → Prop
  | .xlink call => (call.sent sys).isSome = true → call.answer.isSome = true
  | .xunlink call =>
      ∀ sd rest, call.find sys = .ok (sd :: rest) →
        call.answers.headD .refused ≠ .accepted
  | .close _ => True
  | .lastclose sd _ =>
      (sys.sd sd).strclose = true → sys.list (.links sd) = []

section Changes

variable {sys sys' : System} {sd : Nat} {owner : Owner}
  {f : StreamHead → StreamHead}

@[simp] theorem modify_list : (sys.modify sd f).list = sys.list := rfl

@[simp] theorem setList_sd (sds : List Nat) :
    (sys.setList owner sds).sd = sys.sd := rfl

theorem modify_same : (sys.modify sd f).sd sd = f (sys.sd sd) :=
  Function.update_self ..

theorem modify_other {other : Nat} (ne : other ≠ sd) :
    (sys.modify sd f).sd other = sys.sd other :=
  Function.update_of_ne ne ..

theorem setList_same (sds : List Nat) :
    (sys.setList owner sds).list owner = sds :=
  Function.update_self ..

theorem setList_other {other : Owner} (ne : other ≠ owner) (sds : List Nat) :
    (sys.setList owner sds).list other = sys.list other :=
  Function.update_of_ne ne ..

structure Plain (f : StreamHead → StreamHead) : Prop where
  stplex : ∀ h, (f h).stplex = h.stplex
  linkblk : ∀ h, (f h).linkblk = h.linkblk
  muxinit : ∀ h, (f h).muxinit = h.muxinit
  rqQshead : ∀ h, (f h).rqQshead = h.rqQshead
  wqQshead : ∀ h, (f h).wqQshead = h.wqQshead
  strclose : ∀ h, (f h).strclose = false → h.strclose = false

theorem System.Layout.modify (layout : sys.Layout) (plain : Plain f) :
    (sys.modify sd f).Layout := by
  have same (other : Nat) :
      ((sys.modify sd f).sd other).stplex = (sys.sd other).stplex ∧
      ((sys.modify sd f).sd other).linkblk = (sys.sd other).linkblk := by
    by_cases here : other = sd
    · subst here
      rw [modify_same]
      exact ⟨plain.stplex _, plain.linkblk _⟩
    · rw [modify_other here]
      exact ⟨rfl, rfl⟩
  refine ⟨layout.once, layout.apart, ?_, ?_, ?_⟩
  · intro other
    rw [(same other).1]
    exact layout.plex other
  · intro other
    rw [(same other).1, (same other).2]
    exact layout.block other
  · intro other free opened
    rw [(same other).1] at free
    by_cases here : other = sd
    · subst here
      rw [modify_same] at opened ⊢
      rw [plain.muxinit, plain.rqQshead, plain.wqQshead]
      exact layout.whole other free (plain.strclose _ opened)
    · rw [modify_other here] at opened ⊢
      exact layout.whole other free opened

theorem System.Layout.attach (layout : sys.Layout)
    (free : (sys.sd sd).stplex = false)
    (plex : (f (sys.sd sd)).stplex = true)
    (block : (f (sys.sd sd)).linkblk.isSome = true) :
    ((sys.setList owner (sd :: sys.list owner)).modify sd f).Layout := by
  have absent (other : Owner) : sd ∉ sys.list other := by
    intro member
    have on := (layout.plex sd).mp ⟨other, member⟩
    rw [free] at on
    cases on
  have lists (other : Owner) (x : Nat) :
      x ∈ (sys.setList owner (sd :: sys.list owner)).list other ↔
        (other = owner ∧ x = sd) ∨ x ∈ sys.list other := by
    by_cases here : other = owner
    · subst here
      rw [setList_same, List.mem_cons]
      simp
    · rw [setList_other here]
      simp [here]
  refine ⟨?_, ?_, ?_, ?_, ?_⟩
  · intro other
    rw [modify_list]
    by_cases here : other = owner
    · subst here
      rw [setList_same]
      exact List.nodup_cons.mpr ⟨absent other, layout.once other⟩
    · rw [setList_other here]
      exact layout.once other
  · intro first second x member member'
    rw [modify_list, lists] at member member'
    rcases member with ⟨rfl, rfl⟩ | member
    · rcases member' with ⟨rfl, -⟩ | member'
      · rfl
      · exact absurd member' (absent second)
    · rcases member' with ⟨-, rfl⟩ | member'
      · exact absurd member (absent first)
      · exact layout.apart first second x member member'
  · intro x
    simp only [modify_list, lists]
    by_cases here : x = sd
    · subst here
      rw [modify_same, setList_sd, plex]
      simp
    · rw [modify_other here, setList_sd, ← layout.plex x]
      simp [here]
  · intro x
    by_cases here : x = sd
    · subst here
      rw [modify_same, setList_sd, plex, block]
    · rw [modify_other here]
      exact layout.block x
  · intro x free' opened
    by_cases here : x = sd
    · subst here
      rw [modify_same, setList_sd, plex] at free'
      cases free'
    · rw [modify_other here] at free' opened ⊢
      exact layout.whole x free' opened

theorem System.Layout.detach (layout : sys.Layout)
    (on : sd ∈ sys.list owner) :
    ((sys.setList owner ((sys.list owner).erase sd)).modify sd
      System.unlinked).Layout := by
  have lists (other : Owner) (x : Nat) :
      x ∈ (sys.setList owner ((sys.list owner).erase sd)).list other ↔
        x ≠ sd ∧ x ∈ sys.list other := by
    by_cases here : other = owner
    · subst here
      rw [setList_same, (layout.once other).mem_erase_iff]
    · rw [setList_other here]
      refine ⟨fun member => ⟨?_, member⟩, And.right⟩
      rintro rfl
      exact here (layout.apart other owner x member on)
  refine ⟨?_, ?_, ?_, ?_, ?_⟩
  · intro other
    rw [modify_list]
    by_cases here : other = owner
    · subst here
      rw [setList_same]
      exact (layout.once other).erase sd
    · rw [setList_other here]
      exact layout.once other
  · intro first second x member member'
    rw [modify_list, lists] at member member'
    exact layout.apart first second x member.2 member'.2
  · intro x
    simp only [modify_list, lists]
    by_cases here : x = sd
    · subst here
      rw [modify_same]
      simp [System.unlinked]
    · rw [modify_other here, setList_sd, ← layout.plex x]
      simp [here]
  · intro x
    by_cases here : x = sd
    · subst here
      rw [modify_same]
      rfl
    · rw [modify_other here]
      exact layout.block x
  · intro x free opened
    by_cases here : x = sd
    · subst here
      rw [modify_same]
      exact ⟨rfl, rfl, rfl⟩
    · rw [modify_other here] at free opened ⊢
      exact layout.whole x free opened

theorem System.Restored.modify (restored : sys.Restored) (plain : Plain f)
    (ptrs : ∀ h, (f h).rqPtr = h.rqPtr ∧ (f h).wqPtr = h.wqPtr) :
    (sys.modify sd f).Restored := by
  intro other free opened
  by_cases here : other = sd
  · subst here
    rw [modify_same] at free opened ⊢
    rw [(ptrs _).1, (ptrs _).2]
    rw [plain.stplex] at free
    exact restored other free (plain.strclose _ opened)
  · rw [modify_other here] at free opened ⊢
    exact restored other free opened

theorem plain_refs (change : Int) :
    Plain fun h => { h with refs := h.refs + change } :=
  ⟨fun _ => rfl, fun _ => rfl, fun _ => rfl, fun _ => rfl, fun _ => rfl,
    fun _ => id⟩

theorem plain_opens : Plain fun h => { h with opens := h.opens - 1 } :=
  ⟨fun _ => rfl, fun _ => rfl, fun _ => rfl, fun _ => rfl, fun _ => rfl,
    fun _ => id⟩

theorem plain_detached :
    Plain fun h =>
      { h with
        strclose := h.strclose || (decide (h.opens = 0) && !h.stplex) } :=
  ⟨fun _ => rfl, fun _ => rfl, fun _ => rfl, fun _ => rfl, fun _ => rfl,
    fun _ opened => (Bool.or_eq_false_iff.mp opened).1⟩

theorem plain_null : Plain StreamHead.clearPtrs :=
  ⟨fun _ => rfl, fun _ => rfl, fun _ => rfl, fun _ => rfl, fun _ => rfl,
    fun _ => id⟩

end Changes

section Refs

variable {sys sys' : System} {sd : Nat}

theorem System.SameRefs.refl (sys : System) : sys.SameRefs sys := fun _ => rfl

theorem System.SameRefs.trans {sys'' : System} (first : sys.SameRefs sys')
    (second : sys'.SameRefs sys'') : sys.SameRefs sys'' :=
  fun sd => (second sd).trans (first sd)

theorem System.SameRefs.modify {f : StreamHead → StreamHead}
    (same : sys.SameRefs sys') (kept : ∀ h, (f h).refs = h.refs) :
    sys.SameRefs (sys'.modify sd f) := by
  intro other
  by_cases here : other = sd
  · subst here
    rw [modify_same, kept]
    exact same other
  · rw [modify_other here]
    exact same other

theorem System.SameRefs.setList {owner : Owner} {sds : List Nat}
    (same : sys.SameRefs sys') : sys.SameRefs (sys'.setList owner sds) :=
  same

theorem System.SameRefs.put (same : (sys.sdGet sd).SameRefs sys') :
    sys.SameRefs (sys'.sdPut sd) := by
  intro other
  have before := same other
  unfold System.sdGet at before
  unfold System.sdPut
  by_cases here : other = sd
  · subst here
    rw [modify_same] at before ⊢
    simp only [before]
    omega
  · rw [modify_other here] at before ⊢
    exact before

theorem System.SameRefs.strdetached (same : sys.SameRefs sys') :
    sys.SameRefs (sys'.strdetached sd) :=
  System.SameRefs.modify same fun _ => rfl

theorem unlink_refs (owner : Owner) (accepted : Bool) :
    sys.SameRefs (sys.unlink owner accepted sd) := by
  unfold System.unlink
  apply System.SameRefs.strdetached
  apply System.SameRefs.modify
  · cases accepted with
    | false => exact (System.SameRefs.refl sys).setList
    | true => exact (System.SameRefs.refl sys).setList.modify fun _ => rfl
  · exact fun _ => rfl

theorem xlink_refs (call : LinkCall) :
    sys.SameRefs (call.xlink sys sd).2 := by
  have nulled : sys.SameRefs (sys.modify sd StreamHead.clearPtrs) :=
    (System.SameRefs.refl sys).modify fun _ => rfl
  unfold LinkCall.xlink
  cases call.answer with
  | none => exact nulled.strdetached
  | some ptrs =>
      apply System.SameRefs.strdetached
      apply System.SameRefs.modify
      · exact nulled.setList
      · exact fun _ => rfl

theorem strunlink_refs (mux : Nat) (answers : List Bool) (sds : List Nat) :
    sys.SameRefs (strunlink mux answers sds sys) := by
  induction sds generalizing answers sys with
  | nil => exact .refl sys
  | cons sd rest ih => exact (unlink_refs _ _).put.trans (ih _)

theorem unlinkLoop_refs (owner : Owner) (answers : List Answer)
    (rest : List Nat)
    (single : rest = [] ∨ answers.headD .refused ≠ .accepted) :
    sys.SameRefs
      ((sys.sdGet sd).unlinkLoop owner answers (sd :: rest)).2 := by
  unfold System.unlinkLoop
  cases answer : answers.headD .refused with
  | waitErr => exact (System.SameRefs.refl _).put
  | refused => exact (System.SameRefs.refl _).strdetached.put
  | accepted =>
      have last := single.resolve_right (absurd answer)
      subst last
      exact (unlink_refs _ _).put

end Refs

section Layouts

variable {sys : System} {sd : Nat} {owner : Owner}

theorem System.Layout.sdGet (layout : sys.Layout) : (sys.sdGet sd).Layout :=
  layout.modify (plain_refs 1)

theorem System.Layout.sdPut (layout : sys.Layout) : (sys.sdPut sd).Layout :=
  layout.modify (plain_refs (-1))

theorem System.Layout.strdetached (layout : sys.Layout) :
    (sys.strdetached sd).Layout :=
  layout.modify plain_detached

theorem System.Layout.unlink (layout : sys.Layout)
    (on : sd ∈ sys.list owner) (accepted : Bool) :
    (sys.unlink owner accepted sd).Layout := by
  unfold System.unlink
  apply System.Layout.strdetached
  cases accepted with
  | false => exact layout.detach on
  | true => exact (layout.modify plain_null).detach on

theorem unlink_list (accepted : Bool) :
    (sys.unlink owner accepted sd).list owner = (sys.list owner).erase sd := by
  cases accepted <;> exact setList_same _

theorem still_linked (sys : System) {rest : List Nat} (accepted : Bool)
    (nodup : (sd :: rest).Nodup) (on : ∀ x ∈ sd :: rest, x ∈ sys.list owner) :
    ∀ x ∈ rest, x ∈ (sys.unlink owner accepted sd).list owner := by
  intro x member
  rw [unlink_list, List.mem_erase_of_ne]
  · exact on x (List.mem_cons_of_mem _ member)
  · rintro rfl
    exact (List.nodup_cons.mp nodup).1 member

theorem System.Layout.unlinkLoop {sds : List Nat} (layout : sys.Layout)
    (nodup : sds.Nodup) (on : ∀ x ∈ sds, x ∈ sys.list owner)
    (answers : List Answer) :
    (sys.unlinkLoop owner answers sds).2.Layout := by
  induction sds generalizing sys answers with
  | nil => exact layout
  | cons sd rest ih =>
      unfold System.unlinkLoop
      cases answers.headD .refused with
      | waitErr => exact layout.sdPut
      | refused => exact layout.strdetached.sdPut
      | accepted =>
          apply ih
          · exact (layout.unlink (on sd List.mem_cons_self) true).sdPut
          · exact (List.nodup_cons.mp nodup).2
          · exact still_linked sys true nodup on

theorem System.Layout.strunlink {mux : Nat} {sds : List Nat}
    (layout : sys.Layout) (nodup : sds.Nodup)
    (on : ∀ x ∈ sds, x ∈ sys.list (.links mux)) (answers : List Bool) :
    (strunlink mux answers sds sys).Layout := by
  induction sds generalizing sys answers with
  | nil => exact layout
  | cons sd rest ih =>
      apply ih
      · exact (layout.sdGet.unlink (on sd List.mem_cons_self) _).sdPut
      · exact (List.nodup_cons.mp nodup).2
      · exact still_linked (sys.sdGet sd) _ nodup on

theorem find_on {call : UnlinkCall} {sds : List Nat} (layout : sys.Layout)
    (found : call.find sys = .ok sds) :
    sds.Nodup ∧ ∀ x ∈ sds,
      x ∈ sys.list (sys.owner call.mux call.persistent) := by
  unfold UnlinkCall.find at found
  split at found
  · cases found
  split at found
  · cases found
  split at found
  · cases found
    exact ⟨layout.once _, fun _ member => member⟩
  · simp only at found
    split at found
    · cases found
    case h_2 sd some =>
      cases found
      refine ⟨List.nodup_singleton sd, fun x member => ?_⟩
      rw [List.mem_singleton.mp member]
      exact List.mem_of_find?_eq_some some

theorem System.Layout.xlink {call : LinkCall} (layout : sys.Layout)
    (checked : call.check sys sd = none) : (call.xlink sys sd).2.Layout := by
  have free : (sys.sd sd).stplex = false := by
    unfold LinkCall.check System.closed at checked
    by_cases busy : (call.sdErr ||
        ((sys.sd sd).stplex || (sys.sd sd).strclose)) = true
    · rw [if_pos busy] at checked
      cases checked
    · simp only [Bool.or_eq_true, not_or, Bool.not_eq_true] at busy
      exact busy.2.1
  unfold LinkCall.xlink
  cases call.answer with
  | none => exact (layout.modify plain_null).strdetached
  | some ptrs =>
      apply System.Layout.strdetached
      apply (layout.modify plain_null).attach
      · rw [modify_same]
        exact free
      · rfl
      · rfl

theorem System.Layout.step (layout : sys.Layout) (op : LinkOp) :
    (sys.step op).Layout := by
  cases op with
  | xlink call =>
      simp only [System.step, strIXlink]
      split
      · exact layout
      · split
        · exact layout.sdGet
        · split
          · exact layout.sdGet.sdPut
          case h_2 checked => exact (layout.sdGet.xlink checked).sdPut
  | xunlink call =>
      simp only [System.step, strIXunlink]
      split
      · exact layout
      · exact layout
      case h_3 sd rest found =>
        obtain ⟨nodup, on⟩ := find_on layout found
        exact layout.sdGet.unlinkLoop nodup on call.answers
  | close sd => exact (layout.modify plain_opens).strdetached
  | lastclose sd answers =>
      simp only [System.step, System.strlastclose]
      split
      · exact layout.strunlink (layout.once _) (fun _ member => member) answers
      · exact layout

end Layouts

section Steps

variable {sys : System} {sd : Nat}

theorem sameRefs_step {op : LinkOp} (counted : sys.Counted op) :
    sys.SameRefs (sys.step op) := by
  cases op with
  | xlink call =>
      simp only [System.step, strIXlink]
      split
      · exact .refl sys
      case h_2 sd acquired =>
        rw [if_neg (counted sd acquired)]
        split
        · exact (System.SameRefs.refl _).put
        · exact (xlink_refs call).put
  | xunlink call =>
      simp only [System.step, strIXunlink]
      split
      · exact .refl sys
      · exact .refl sys
      case h_3 sd rest found =>
        apply unlinkLoop_refs
        cases rest with
        | nil => exact .inl rfl
        | cons next rest => exact .inr (counted sd next rest found)
  | close sd =>
      apply System.SameRefs.strdetached
      exact (System.SameRefs.refl sys).modify fun _ => rfl
  | lastclose sd answers =>
      simp only [System.step, System.strlastclose]
      split
      · exact strunlink_refs sd answers _
      · exact .refl sys

theorem System.Restored.sdGet (restored : sys.Restored) :
    (sys.sdGet sd).Restored :=
  restored.modify (plain_refs 1) fun _ => ⟨rfl, rfl⟩

theorem System.Restored.sdPut (restored : sys.Restored) :
    (sys.sdPut sd).Restored :=
  restored.modify (plain_refs (-1)) fun _ => ⟨rfl, rfl⟩

theorem System.Restored.strdetached (restored : sys.Restored) :
    (sys.strdetached sd).Restored :=
  restored.modify plain_detached fun _ => ⟨rfl, rfl⟩

theorem System.Restored.xlink {call : LinkCall} (restored : sys.Restored)
    (accepted : call.answer.isSome = true) :
    (call.xlink sys sd).2.Restored := by
  unfold LinkCall.xlink
  cases answer : call.answer with
  | none =>
      rw [answer] at accepted
      cases accepted
  | some ptrs =>
      apply System.Restored.strdetached
      intro other free opened
      by_cases here : other = sd
      · subst here
        rw [modify_same] at free
        cases free
      · rw [modify_other here, setList_sd, modify_other here] at free opened ⊢
        exact restored other free opened

theorem check_sdGet (call : LinkCall) :
    call.check (sys.sdGet sd) sd = call.check sys sd := by
  unfold LinkCall.check System.closed System.sdGet
  rw [modify_same]

theorem restored_step {op : LinkOp} (restored : sys.Restored)
    (quiet : sys.Quiet op) : (sys.step op).Restored := by
  cases op with
  | xlink call =>
      simp only [System.step, strIXlink]
      split
      · exact restored
      case h_2 sd acquired =>
        split
        · exact restored.sdGet
        case isFalse other =>
          split
          · exact restored.sdGet.sdPut
          case h_2 checked =>
            rw [check_sdGet] at checked
            have sent : call.sent sys = some sd := by
              unfold LinkCall.sent
              rw [acquired]
              exact if_pos ⟨other, checked⟩
            have accepted := quiet (by rw [sent]; rfl)
            exact (restored.sdGet.xlink accepted).sdPut
  | xunlink call =>
      simp only [System.step, strIXunlink]
      split
      · exact restored
      · exact restored
      case h_3 sd rest found =>
        have kept := quiet sd rest found
        unfold System.unlinkLoop
        cases answer : call.answers.headD .refused with
        | waitErr => exact restored.sdGet.sdPut
        | refused => exact restored.sdGet.strdetached.sdPut
        | accepted => exact absurd answer kept
  | close sd =>
      apply System.Restored.strdetached
      exact restored.modify plain_opens fun _ => ⟨rfl, rfl⟩
  | lastclose sd answers =>
      simp only [System.step, System.strlastclose]
      split
      case isTrue closed =>
        rw [quiet closed]
        exact restored
      · exact restored

end Steps

def System.Balanced (sys : System) : List LinkOp → Prop
  | [] => sys.Layout
  | op :: rest =>
      sys.Layout ∧ sys.SameRefs (sys.step op) ∧ (sys.step op).Balanced rest

def System.AllRestored (sys : System) : List LinkOp → Prop
  | [] => sys.Restored
  | op :: rest => sys.Restored ∧ (sys.step op).AllRestored rest

def System.AllCounted (sys : System) : List LinkOp → Prop
  | [] => True
  | op :: rest => sys.Counted op ∧ (sys.step op).AllCounted rest

def System.AllQuiet (sys : System) : List LinkOp → Prop
  | [] => True
  | op :: rest => sys.Quiet op ∧ (sys.step op).AllQuiet rest

structure System.Fresh (sys : System) : Prop where
  none : ∀ owner, sys.list owner = []
  head : ∀ sd, (sys.sd sd).stplex = false ∧ (sys.sd sd).linkblk = .none ∧
    (sys.sd sd).muxinit = .none ∧ (sys.sd sd).rqQshead = true ∧
      (sys.sd sd).wqQshead = true
  ptrs : ∀ sd, (sys.sd sd).rqPtr = .head sd ∧ (sys.sd sd).wqPtr = .head sd

section Runs

variable {sys : System}

theorem System.Fresh.layout (fresh : sys.Fresh) : sys.Layout := by
  refine ⟨?_, ?_, ?_, ?_, ?_⟩
  · intro owner
    rw [fresh.none]
    exact List.nodup_nil
  · intro owner owner' sd member
    rw [fresh.none] at member
    cases member
  · intro sd
    rw [(fresh.head sd).1]
    simp [fresh.none]
  · intro sd
    rw [(fresh.head sd).1, (fresh.head sd).2.1]
    rfl
  · exact fun sd _ _ => (fresh.head sd).2.2

theorem balanced_run {ops : List LinkOp} (layout : sys.Layout)
    (counted : sys.AllCounted ops) : sys.Balanced ops := by
  induction ops generalizing sys with
  | nil => exact layout
  | cons op rest ih =>
      exact ⟨layout, sameRefs_step counted.1,
        ih (layout.step op) counted.2⟩

theorem restored_run {ops : List LinkOp} (restored : sys.Restored)
    (quiet : sys.AllQuiet ops) : sys.AllRestored ops := by
  induction ops generalizing sys with
  | nil => exact restored
  | cons op rest ih =>
      exact ⟨restored, ih (restored_step restored quiet.1) quiet.2⟩

end Runs

/-- Linking and unlinking is balanced in every run in which no stream is to be
linked under itself and MUXID_ALL unlinks no more than one; and the queues of
all streams that are not linked refer to their stream heads as long as no
stream is unlinked or refused. -/
theorem links_balanced (sys : System) (ops : List LinkOp) (fresh : sys.Fresh)
    (counted : sys.AllCounted ops) :
    sys.Balanced ops ∧ (sys.AllQuiet ops → sys.AllRestored ops) :=
  ⟨balanced_run fresh.layout counted,
    restored_run fun sd _ _ => fresh.ptrs sd⟩

def System.opened : System :=
  { sd := fun sd =>
      { refs := 2
        fifo := false
        cdevsw := if sd = 0 then 0 else 1
        opens := 1
        strclose := false
        stplex := false
        rqQshead := true
        wqQshead := true
        muxinit := none
        rqPtr := .head sd
        wqPtr := .head sd
        linkblk := none }
    list := fun _ => []
    muxes := fun cdevsw => decide (cdevsw = 0) }

def linkUnder (sd index : Nat) : LinkOp :=
  .xlink ⟨0, false, true, false, some sd, false, true, index, some (sd, sd)⟩

def unlinkAll : LinkOp :=
  .xunlink ⟨0, false, false, none, [.accepted, .accepted]⟩

theorem opened_fresh : System.opened.Fresh :=
  ⟨fun _ => rfl, fun _ => ⟨rfl, rfl, rfl, rfl, rfl⟩, fun _ => ⟨rfl, rfl⟩⟩

theorem links_balanced_one :
    System.opened.Balanced [linkUnder 1 5, unlinkAll] := by
  refine (links_balanced System.opened [linkUnder 1 5, unlinkAll] opened_fresh
    ⟨?_, ?_, trivial⟩).1
  · intro sd acquired
    cases acquired
    decide
  · intro sd next rest found
    cases found

theorem unlink_all_unbalanced :
    ¬ System.opened.Balanced [linkUnder 1 5, linkUnder 2 6, unlinkAll] ∧
      ¬ System.opened.AllRestored
        [linkUnder 1 5, linkUnder 2 6, unlinkAll] := by
  constructor
  · rintro ⟨-, -, -, -, -, same, -⟩
    have refs := same 1
    revert refs
    decide
  · rintro ⟨-, -, -, restored⟩
    have ptrs := restored 1 (by decide) (by decide)
    revert ptrs
    decide

end OpenSS7.Sth
