import Mathlib.Data.List.Induction
import Mathlib.Data.List.Nodup
import OpenSS7.Streams.Plumbing

/-!
What the loops of `qprocson` and `qprocsoff` do to the cached pointers of a
chain of queues.
-/

namespace OpenSS7.Streams

section Splits

variable {α : Type*} {a b : List α} {q : α}

theorem forall_split_insert
    {p : List α → α → List α → Prop} :
    (∀ a' x b', a ++ q :: b = a' ++ x :: b' → p a' x b') ↔
      (∀ a₁ x a₂, a = a₁ ++ x :: a₂ → p a₁ x (a₂ ++ q :: b)) ∧ p a q b ∧
        ∀ b₁ x b₂, b = b₁ ++ x :: b₂ → p (a ++ q :: b₁) x b₂ := by
  constructor
  · intro all
    refine ⟨?_, all a q b rfl, ?_⟩
    · rintro a₁ x a₂ rfl
      exact all a₁ x (a₂ ++ q :: b) (by simp)
    · rintro b₁ x b₂ rfl
      exact all (a ++ q :: b₁) x b₂ (by simp)
  · rintro ⟨before, here, after⟩ a' x b' split
    rcases List.append_eq_append_iff.mp split with
      ⟨c, rfl, same⟩ | ⟨c, rfl, same⟩
    · cases c with
      | nil =>
          obtain ⟨rfl, rfl⟩ := List.cons_eq_cons.mp same
          rw [List.append_nil]
          exact here
      | cons head tail =>
          obtain ⟨rfl, rfl⟩ := List.cons_eq_cons.mp same
          exact after tail x b' rfl
    · cases c with
      | nil =>
          obtain ⟨rfl, rfl⟩ := List.cons_eq_cons.mp same
          rw [List.append_nil] at here
          exact here
      | cons head tail =>
          obtain ⟨rfl, rfl⟩ := List.cons_eq_cons.mp same
          exact before a' x tail rfl

theorem forall_split_append
    {p : List α → α → List α → Prop} :
    (∀ a' x b', a ++ b = a' ++ x :: b' → p a' x b') ↔
      (∀ a₁ x a₂, a = a₁ ++ x :: a₂ → p a₁ x (a₂ ++ b)) ∧
        ∀ b₁ x b₂, b = b₁ ++ x :: b₂ → p (a ++ b₁) x b₂ := by
  constructor
  · intro all
    refine ⟨?_, ?_⟩
    · rintro a₁ x a₂ rfl
      exact all a₁ x (a₂ ++ b) (by simp)
    · rintro b₁ x b₂ rfl
      exact all (a ++ b₁) x b₂ (by simp)
  · rintro ⟨before, after⟩ a' x b' split
    rcases List.append_eq_append_iff.mp split with
      ⟨c, rfl, same⟩ | ⟨c, rfl, same⟩
    · exact after c x b' same
    · cases c with
      | nil =>
          simpa using after [] x b' same.symm
      | cons head tail =>
          obtain ⟨rfl, rfl⟩ := List.cons_eq_cons.mp same
          exact before a' x tail rfl

end Splits

section Lists

variable {srv srv' : QueuePtr → Bool} {a b : List QueuePtr}
  {q x y : QueuePtr}

def nearest (srv : QueuePtr → Bool) (b : List QueuePtr) : Option QueuePtr :=
  (b.find? srv).or b.getLast?

def lastSrv (srv : QueuePtr → Bool) (a : List QueuePtr) : Option QueuePtr :=
  a.reverse.find? srv

def fromLast (srv : QueuePtr → Bool) : List QueuePtr → List QueuePtr
  | [] => []
  | x :: rest =>
      if rest.any srv then fromLast srv rest
      else if srv x then x :: rest else []

def upToFirst (srv : QueuePtr → Bool) : List QueuePtr → List QueuePtr
  | [] => []
  | y :: rest => if srv y then [y] else y :: upToFirst srv rest

theorem find?_none (clear : a.any srv = false) : a.find? srv = none := by
  rw [List.find?_eq_none]
  exact List.any_eq_false.mp clear

theorem nearest_append_of_any (found : a.any srv = true) :
    nearest srv (a ++ b) = a.find? srv := by
  obtain ⟨x, member, has⟩ := List.any_eq_true.mp found
  have some : (a.find? srv).isSome := List.find?_isSome.mpr ⟨x, member, has⟩
  obtain ⟨y, eq⟩ := Option.isSome_iff_exists.mp some
  rw [nearest, List.find?_append, eq]
  rfl

theorem nearest_append_of_clear (clear : a.any srv = false) (inner : b ≠ []) :
    nearest srv (a ++ b) = nearest srv b := by
  rw [nearest, nearest, List.find?_append, find?_none clear, Option.none_or,
    List.getLast?_append_of_ne_nil _ inner]

theorem nearest_cons : nearest srv (q :: b) =
    if srv q = true ∨ b = [] then some q else nearest srv b := by
  cases has : srv q with
  | true => simp [nearest, has]
  | false =>
      cases b with
      | nil => simp [nearest, has]
      | cons y rest => simp [nearest, has]

theorem lastSrv_append :
    lastSrv srv (a ++ b) = (lastSrv srv b).or (lastSrv srv a) := by
  rw [lastSrv, List.reverse_append, List.find?_append]
  rfl

theorem lastSrv_cons : lastSrv srv (q :: b) =
    (lastSrv srv b).or (if srv q then some q else none) := by
  have same : lastSrv srv ([q] ++ b) =
      (lastSrv srv b).or (lastSrv srv [q]) := lastSrv_append
  rw [List.singleton_append] at same
  rw [same, lastSrv, lastSrv]
  cases has : srv q <;> simp [has]

theorem lastSrv_none : lastSrv srv a = none ↔ a.any srv = false := by
  rw [lastSrv, List.find?_eq_none, List.any_eq_false]
  simp

theorem find?_congr {l : List QueuePtr} (same : ∀ z ∈ l, srv' z = srv z) :
    l.find? srv' = l.find? srv := by
  induction l with
  | nil => rfl
  | cons z rest ih =>
      rw [List.find?_cons, List.find?_cons, same z List.mem_cons_self,
        ih fun w member => same w (List.mem_cons_of_mem _ member)]

theorem lastSrv_congr (same : ∀ z ∈ a, srv' z = srv z) :
    lastSrv srv' a = lastSrv srv a :=
  find?_congr fun z member => same z (List.mem_reverse.mp member)

theorem nearest_congr (same : ∀ z ∈ b, srv' z = srv z) :
    nearest srv' b = nearest srv b := by
  rw [nearest, nearest, find?_congr same]

theorem head?_fromLast : (fromLast srv a).head? = lastSrv srv a := by
  induction a with
  | nil => rfl
  | cons x rest ih =>
      rw [fromLast, lastSrv_cons, ← ih]
      split
      case isTrue found =>
        cases some : (fromLast srv rest).head? with
        | none =>
            rw [ih, lastSrv_none] at some
            exact nomatch some.symm.trans found
        | some t => rfl
      case isFalse clear =>
        rw [ih, lastSrv_none.mpr (Bool.eq_false_iff.mpr clear)]
        split <;> rfl

theorem fromLast_suffix (srv : QueuePtr → Bool) (a : List QueuePtr) :
    ∃ front, a = front ++ fromLast srv a := by
  induction a with
  | nil => exact ⟨[], rfl⟩
  | cons x rest ih =>
      obtain ⟨front, same⟩ := ih
      rw [fromLast]
      split
      · exact ⟨x :: front, by rw [List.cons_append, ← same]⟩
      · split
        · exact ⟨[], rfl⟩
        · exact ⟨x :: rest, (List.append_nil _).symm⟩

theorem mem_fromLast {a₁ a₂ : List QueuePtr}
    (once : (a₁ ++ x :: a₂).Nodup) : x ∈ fromLast srv (a₁ ++ x :: a₂) ↔
      (a₁ ++ [x]).any srv = true ∧ a₂.any srv = false := by
  induction a₁ with
  | nil =>
      obtain ⟨strange, _⟩ := List.nodup_cons.mp once
      obtain ⟨front, same⟩ := fromLast_suffix srv a₂
      have outside : x ∉ fromLast srv a₂ := by
        intro member
        rw [same] at strange
        exact strange (List.mem_append_right _ member)
      rw [List.nil_append, List.nil_append, fromLast, List.any_cons,
        List.any_nil, Bool.or_false]
      cases a₂.any srv <;> cases srv x <;> simp [outside]
  | cons z rest ih =>
      obtain ⟨strange, once⟩ := List.nodup_cons.mp once
      have different : x ≠ z := by
        rintro rfl
        exact strange (List.mem_append_right _ List.mem_cons_self)
      have inner := ih once
      rw [List.cons_append, List.cons_append, fromLast, List.any_cons]
      cases all : (rest ++ x :: a₂).any srv with
      | true =>
          rw [if_pos rfl, inner]
          simp only [List.any_append, List.any_cons, List.any_nil,
            Bool.or_false] at all ⊢
          revert all
          cases rest.any srv <;> cases srv x <;> cases srv z <;>
            cases a₂.any srv <;> simp
      | false =>
          simp only [List.any_append, List.any_cons, List.any_nil,
            Bool.or_false, Bool.or_eq_false_iff] at all ⊢
          obtain ⟨clear, hasNot, after⟩ := all
          rw [clear, hasNot, after]
          cases srv z <;> simp

theorem getLast?_upToFirst : (upToFirst srv b).getLast? = nearest srv b := by
  induction b with
  | nil => rfl
  | cons y rest ih =>
      rw [upToFirst, nearest_cons]
      cases has : srv y with
      | true => rfl
      | false =>
          cases rest with
          | nil => rfl
          | cons z rest =>
              have more : upToFirst srv (z :: rest) ≠ [] := by
                rw [upToFirst]
                split <;> exact List.cons_ne_nil _ _
              simp only [Bool.false_eq_true, if_false, false_or,
                List.cons_ne_nil, ← ih]
              exact List.getLast?_append_of_ne_nil [y] more

theorem upToFirst_prefix (srv : QueuePtr → Bool) (b : List QueuePtr) :
    ∃ back, b = upToFirst srv b ++ back := by
  induction b with
  | nil => exact ⟨[], rfl⟩
  | cons y rest ih =>
      obtain ⟨back, same⟩ := ih
      rw [upToFirst]
      split
      · exact ⟨rest, rfl⟩
      · exact ⟨back, by rw [List.cons_append, ← same]⟩

theorem mem_upToFirst {b₁ b₂ : List QueuePtr}
    (once : (b₁ ++ y :: b₂).Nodup) :
    y ∈ upToFirst srv (b₁ ++ y :: b₂) ↔ b₁.any srv = false := by
  induction b₁ with
  | nil =>
      rw [List.nil_append, upToFirst]
      split <;> simp
  | cons z rest ih =>
      obtain ⟨strange, once⟩ := List.nodup_cons.mp once
      have different : y ≠ z := by
        rintro rfl
        exact strange (List.mem_append_right _ List.mem_cons_self)
      rw [List.cons_append, upToFirst]
      cases has : srv z with
      | true => simp [different, has]
      | false => simp [different, has, ih once]

/-- Where `q_nfsrv` of a queue points: past all service procedures when there
is none up to the queue itself. -/
def forward (srv : QueuePtr → Bool) (a : List QueuePtr) (q : QueuePtr)
    (b : List QueuePtr) : Option QueuePtr :=
  if (a ++ [q]).any srv then nearest srv b else b.getLast?

def Edge (srv : QueuePtr → Bool) (a b : List QueuePtr) : Prop :=
  (∃ y, b = [y]) ∨ ∃ x, a = [x] ∧ srv x = true

/-- A queue that `qprocson` makes the others point at. -/
def Works (srv : QueuePtr → Bool) (q : QueuePtr) (b : List QueuePtr) : Prop :=
  srv q = true ∨ b = []

instance (srv : QueuePtr → Bool) (q : QueuePtr) (b : List QueuePtr) :
    Decidable (Works srv q b) :=
  inferInstanceAs (Decidable (_ ∨ _))

theorem forward_congr (same : ∀ z ∈ a ++ q :: b, srv' z = srv z) :
    forward srv' a q b = forward srv a q b := by
  have upTo : ∀ z ∈ a ++ [q], srv' z = srv z := by
    intro z member
    apply same z
    rw [List.append_cons]
    exact List.mem_append_left _ member
  have front : (a ++ [q]).any srv' = (a ++ [q]).any srv := by
    rw [← List.isSome_find?, ← List.isSome_find?, find?_congr upTo]
  have back : nearest srv' b = nearest srv b :=
    nearest_congr fun z member =>
      same z (List.mem_append_right _ (List.mem_cons_of_mem _ member))
  rw [forward, forward, front, back]

theorem lastSrv_insert {b₁ b₂ : List QueuePtr}
    (once : (b₁ ++ y :: b₂).Nodup) :
    lastSrv srv (a ++ q :: b₁) =
      if Works srv q (b₁ ++ y :: b₂) ∧ y ∈ upToFirst srv (b₁ ++ y :: b₂) then
        some q
      else lastSrv srv (a ++ b₁) := by
  have works : Works srv q (b₁ ++ y :: b₂) ↔ srv q = true :=
    or_iff_left (by simp)
  simp only [works, mem_upToFirst once]
  rw [lastSrv_append, lastSrv_append, lastSrv_cons]
  cases between : b₁.any srv with
  | true =>
      obtain ⟨t, found⟩ : ∃ t, lastSrv srv b₁ = some t := by
        cases found : lastSrv srv b₁ with
        | none => exact nomatch between.symm.trans (lastSrv_none.mp found)
        | some t => exact ⟨t, rfl⟩
      rw [found]
      cases srv q <;> simp
  | false =>
      rw [lastSrv_none.mpr between]
      cases srv q <;> simp

theorem forward_insert {a₁ a₂ : List QueuePtr}
    (once : (a₁ ++ x :: a₂).Nodup) (ends : Edge srv (a₁ ++ x :: a₂) b) :
    forward srv a₁ x (a₂ ++ q :: b) =
      if Works srv q b ∧ x ∈ fromLast srv (a₁ ++ x :: a₂) then some q
      else forward srv a₁ x (a₂ ++ b) := by
  simp only [mem_fromLast once, forward]
  cases ahead : (a₁ ++ [x]).any srv with
  | true =>
      rw [if_pos rfl, if_pos rfl]
      cases between : a₂.any srv with
      | true =>
          rw [if_neg (by simp), nearest_append_of_any between,
            nearest_append_of_any between]
      | false =>
          rw [nearest_append_of_clear between (List.cons_ne_nil _ _),
            nearest_cons]
          simp only [and_true]
          by_cases works : Works srv q b
          · rw [if_pos works]
            exact if_pos works
          · rw [if_neg works,
              nearest_append_of_clear between fun no => works (.inr no)]
            exact if_neg works
  | false =>
      have inner : b ≠ [] := by
        rintro rfl
        rcases ends with ⟨_, no⟩ | ⟨z, alone, has⟩
        · cases no
        · cases a₁ with
          | nil =>
              obtain ⟨rfl, _⟩ := List.cons_eq_cons.mp alone
              simp [has] at ahead
          | cons w rest => simp at alone
      have cons : (a₂ ++ q :: b).getLast? = b.getLast? := by
        rw [List.append_cons]
        exact List.getLast?_append_of_ne_nil _ inner
      rw [if_neg Bool.false_ne_true, if_neg Bool.false_ne_true,
        if_neg (by simp), cons, List.getLast?_append_of_ne_nil _ inner]

theorem forward_behind {b₁ b₂ : List QueuePtr}
    (ends : Edge srv a (b₁ ++ y :: b₂)) :
    forward srv (a ++ q :: b₁) y b₂ = forward srv (a ++ b₁) y b₂ := by
  rw [forward, forward]
  rcases ends with ⟨z, alone⟩ | ⟨z, rfl, has⟩
  · have last : b₂ = [] := by
      cases b₁ with
      | nil => exact (List.cons_eq_cons.mp alone).2
      | cons w rest => simp at alone
    rw [last]
    simp [nearest]
  · simp [has]

theorem forward_here (ends : Edge srv a b) :
    forward srv a q b = nearest srv b := by
  rw [forward]
  split
  · rfl
  case isFalse clear =>
    rcases ends with ⟨y, rfl⟩ | ⟨z, rfl, has⟩
    · rw [nearest_cons, if_pos (.inr rfl)]
      rfl
    · exact absurd (by simp [has]) clear

theorem forward_of_mem {a₁ a₂ : List QueuePtr}
    (once : (a₁ ++ x :: a₂).Nodup) (inner : b ≠ [])
    (member : x ∈ fromLast srv (a₁ ++ x :: a₂)) :
    forward srv a₁ x (a₂ ++ b) = nearest srv b := by
  obtain ⟨ahead, between⟩ := (mem_fromLast once).mp member
  rw [forward, if_pos ahead, nearest_append_of_clear between inner]

theorem lastSrv_of_mem {b₁ b₂ : List QueuePtr}
    (once : (b₁ ++ y :: b₂).Nodup)
    (member : y ∈ upToFirst srv (b₁ ++ y :: b₂)) :
    lastSrv srv (a ++ b₁) = lastSrv srv a := by
  have between := (mem_upToFirst once).mp member
  rw [lastSrv_append, lastSrv_none.mpr between, Option.none_or]

end Lists

section Loops

variable {s : Plumbing} {q : QueuePtr} {start : Option QueuePtr}
  {seg : List QueuePtr} {fuel : Nat}

def Leads (advance : QueuePtr → Option QueuePtr) (q : QueuePtr) :
    Option QueuePtr → List QueuePtr → Prop
  | start, [] => start = some q ∨ start = none
  | start, x :: rest =>
      start = some x ∧ x ≠ q ∧ Leads advance q (advance x) rest

namespace Plumbing

theorem loop_eq {advance : Plumbing → QueuePtr → Option QueuePtr}
    {body : Plumbing → QueuePtr → Plumbing}
    (fixed : ∀ s x, advance (body s x) = advance s)
    (leads : Leads (advance s) q start seg) (enough : seg.length ≤ fuel) :
    loop advance body q fuel s start = some (seg.foldl body s) := by
  induction seg generalizing s start fuel with
  | nil =>
      rcases leads with rfl | rfl
      · cases fuel <;> simp [loop]
      · simp [loop]
  | cons x rest ih =>
      obtain ⟨rfl, different, leads⟩ := leads
      cases fuel with
      | zero => exact absurd enough (Nat.not_succ_le_zero _)
      | succ fuel =>
          rw [loop, if_neg different]
          rw [← fixed s x] at leads
          have eq := ih leads (Nat.le_of_succ_le_succ enough)
          simp only
          rw [fixed] at eq
          rw [fixed, List.foldl_cons]
          exact eq

theorem foldl_setNfsrv (p : Option QueuePtr) :
    seg.foldl (fun s bq => s.setNfsrv bq p) s =
      { s with qNfsrv := fun x => if x ∈ seg then p else s.qNfsrv x } := by
  induction seg generalizing s with
  | nil => simp
  | cons b rest ih =>
      rw [List.foldl_cons, ih]
      simp only [setNfsrv, mk.injEq, true_and, and_true]
      funext x
      by_cases here : x = b <;> by_cases member : x ∈ rest <;>
        simp [here, member, List.mem_cons]

theorem foldl_setNbsrv (p : Option QueuePtr) :
    seg.foldl (fun s bq => s.setNbsrv bq p) s =
      { s with qNbsrv := fun x => if x ∈ seg then p else s.qNbsrv x } := by
  induction seg generalizing s with
  | nil => simp
  | cons b rest ih =>
      rw [List.foldl_cons, ih]
      simp only [setNbsrv, mk.injEq, true_and, and_true]
      funext x
      by_cases here : x = b <;> by_cases member : x ∈ rest <;>
        simp [here, member, List.mem_cons]

theorem foldl_bypassNfsrv (outside : q ∉ seg) :
    (seg.foldl (fun s bq =>
        if s.qNfsrv bq = some q then s.setNfsrv bq (s.qNfsrv q) else s) s) =
      { s with qNfsrv := fun x =>
          if x ∈ seg ∧ s.qNfsrv x = some q then s.qNfsrv q
          else s.qNfsrv x } := by
  induction seg generalizing s with
  | nil => simp
  | cons b rest ih =>
      rw [List.mem_cons, not_or] at outside
      rw [List.foldl_cons, ih outside.2]
      split
      case isTrue points =>
        simp only [setNfsrv, mk.injEq, true_and, and_true]
        funext x
        by_cases here : x = b
        · by_cases same : s.qNfsrv q = some q <;>
            simp [here, points, same, Function.update_of_ne outside.1]
        · simp [here, Function.update_of_ne outside.1]
      case isFalse other =>
        simp only [mk.injEq, true_and, and_true]
        funext x
        by_cases here : x = b
        · simp [here, other]
        · simp [here]

theorem foldl_bypassNbsrv (outside : q ∉ seg) :
    (seg.foldl (fun s bq =>
        if s.qNbsrv bq = some q then s.setNbsrv bq (s.qNbsrv q) else s) s) =
      { s with qNbsrv := fun x =>
          if x ∈ seg ∧ s.qNbsrv x = some q then s.qNbsrv q
          else s.qNbsrv x } := by
  induction seg generalizing s with
  | nil => simp
  | cons b rest ih =>
      rw [List.mem_cons, not_or] at outside
      rw [List.foldl_cons, ih outside.2]
      split
      case isTrue points =>
        simp only [setNbsrv, mk.injEq, true_and, and_true]
        funext x
        by_cases here : x = b
        · by_cases same : s.qNbsrv q = some q <;>
            simp [here, points, same, Function.update_of_ne outside.1]
        · simp [here, Function.update_of_ne outside.1]
      case isFalse other =>
        simp only [mk.injEq, true_and, and_true]
        funext x
        by_cases here : x = b
        · simp [here, other]
        · simp [here]

theorem loop_setNfsrv (leads : Leads s.qNext q start seg)
    (enough : seg.length ≤ fuel) (p : Option QueuePtr) :
    loop qNext (fun s bq => s.setNfsrv bq p) q fuel s start =
      some { s with
        qNfsrv := fun x => if x ∈ seg then p else s.qNfsrv x } := by
  rw [← foldl_setNfsrv]
  exact loop_eq (fun _ _ => rfl) leads enough

theorem loop_setNbsrv (leads : Leads s.backq q start seg)
    (enough : seg.length ≤ fuel) (p : Option QueuePtr) :
    loop backq (fun s bq => s.setNbsrv bq p) q fuel s start =
      some { s with
        qNbsrv := fun x => if x ∈ seg then p else s.qNbsrv x } := by
  rw [← foldl_setNbsrv]
  exact loop_eq (fun _ _ => rfl) leads enough

theorem loop_bypassNfsrv (leads : Leads s.qNext q start seg)
    (outside : q ∉ seg) (enough : seg.length ≤ fuel) :
    loop qNext (fun s bq =>
        if s.qNfsrv bq = some q then s.setNfsrv bq (s.qNfsrv q) else s)
        q fuel s start =
      some { s with qNfsrv := fun x =>
        if x ∈ seg ∧ s.qNfsrv x = some q then s.qNfsrv q
        else s.qNfsrv x } := by
  rw [← foldl_bypassNfsrv outside]
  refine loop_eq (fun s x => ?_) leads enough
  split <;> rfl

theorem loop_bypassNbsrv (leads : Leads s.backq q start seg)
    (outside : q ∉ seg) (enough : seg.length ≤ fuel) :
    loop backq (fun s bq =>
        if s.qNbsrv bq = some q then s.setNbsrv bq (s.qNbsrv q) else s)
        q fuel s start =
      some { s with qNbsrv := fun x =>
        if x ∈ seg ∧ s.qNbsrv x = some q then s.qNbsrv q
        else s.qNbsrv x } := by
  rw [← foldl_bypassNbsrv outside]
  refine loop_eq (fun s x => ?_) leads enough
  split <;> rfl

/-- `q_next` leads along the list, and `backq` back. -/
def Links (s : Plumbing) (l : List QueuePtr) : Prop :=
  ∀ a q b, l = a ++ q :: b → s.qNext q = b.head? ∧ s.backq q = a.getLast?

def Caches (s : Plumbing) (l : List QueuePtr) : Prop :=
  ∀ a q b, l = a ++ q :: b → s.qNbsrv q = lastSrv s.qsrvp a ∧
    s.qNfsrv q = forward s.qsrvp a q b

structure Frame (s s' : Plumbing) (l : List QueuePtr) : Prop where
  head : s'.sdRq = s.sdRq
  next : s'.qNext = s.qNext
  srv : s'.qsrvp = s.qsrvp
  procs : s'.qprocs = s.qprocs
  nfsrv : ∀ x, x ∉ l → s'.qNfsrv x = s.qNfsrv x
  nbsrv : ∀ x, x ∉ l → s'.qNbsrv x = s.qNbsrv x

variable {l a b : List QueuePtr}

theorem leads_next {pre : List QueuePtr} (links : s.Links l)
    (place : l = pre ++ seg ++ q :: b) (outside : q ∉ seg) :
    Leads s.qNext q (seg ++ [q]).head? seg := by
  induction seg generalizing pre with
  | nil => exact .inl rfl
  | cons x rest ih =>
      rw [List.mem_cons, not_or] at outside
      refine ⟨rfl, Ne.symm outside.1, ?_⟩
      have split : l = pre ++ x :: (rest ++ q :: b) := by
        rw [place, List.append_assoc, List.cons_append]
      have same : (rest ++ q :: b).head? = (rest ++ [q]).head? := by
        cases rest <;> rfl
      rw [(links _ _ _ split).1, same]
      have more : l = (pre ++ [x]) ++ rest ++ q :: b := by
        rw [place]
        simp
      exact ih more outside.2

theorem leads_back {post : List QueuePtr} (links : s.Links l)
    (place : l = a ++ q :: (seg ++ post)) (outside : q ∉ seg) :
    Leads s.backq q (q :: seg).getLast? seg.reverse := by
  induction seg using List.reverseRecOn generalizing post with
  | nil => exact .inl rfl
  | append_singleton rest y ih =>
      rw [List.mem_append, not_or, List.mem_singleton] at outside
      rw [List.reverse_append, List.reverse_singleton, List.singleton_append]
      refine ⟨?_, Ne.symm outside.2, ?_⟩
      · rw [← List.cons_append, List.getLast?_append]
        rfl
      · have split : l = (a ++ q :: rest) ++ y :: post := by
          rw [place]
          simp
        rw [(links _ _ _ split).2, List.getLast?_append_of_ne_nil _
          (List.cons_ne_nil _ _)]
        have more : l = a ++ q :: (rest ++ y :: post) := by
          rw [place]
          simp
        exact ih more outside.1

theorem mem_of_fromLast {srv : QueuePtr → Bool} {x : QueuePtr}
    (member : x ∈ fromLast srv a) : x ∈ a := by
  obtain ⟨front, suffix⟩ := fromLast_suffix srv a
  rw [suffix]
  exact List.mem_append_right _ member

theorem mem_of_upToFirst {srv : QueuePtr → Bool} {y : QueuePtr}
    (member : y ∈ upToFirst srv b) : y ∈ b := by
  obtain ⟨back, initial⟩ := upToFirst_prefix srv b
  rw [initial]
  exact List.mem_append_left _ member

theorem caches_on {s' : Plumbing} (srv : s'.qsrvp = s.qsrvp)
    (caches : s.Caches (a ++ b))
    (nbsrv : s.qNbsrv q = lastSrv s.qsrvp a)
    (nfsrv : s.qNfsrv q = nearest s.qsrvp b) (once : (a ++ q :: b).Nodup)
    (ends : Edge s.qsrvp a b)
    (forth : ∀ x, s'.qNfsrv x =
      if Works s.qsrvp q b ∧ x ∈ fromLast s.qsrvp a then some q
      else s.qNfsrv x)
    (back : ∀ x, s'.qNbsrv x =
      if Works s.qsrvp q b ∧ x ∈ upToFirst s.qsrvp b then some q
      else s.qNbsrv x) :
    s'.Caches (a ++ q :: b) := by
  obtain ⟨onceA, onceQb, apart⟩ := List.nodup_append'.mp once
  obtain ⟨strange, onceB⟩ := List.nodup_cons.mp onceQb
  obtain ⟨before, after⟩ := forall_split_append.mp caches
  refine forall_split_insert.mpr ⟨?_, ?_, ?_⟩
  · rintro a₁ x a₂ rfl
    obtain ⟨left, right⟩ := before a₁ x a₂ rfl
    have outside : x ∉ upToFirst s.qsrvp b := fun other =>
      apart (by simp) (List.mem_cons_of_mem _ (mem_of_upToFirst other))
    rw [back, if_neg (fun all => outside all.2), left, forth, right, srv,
      forward_insert onceA ends]
    exact ⟨rfl, rfl⟩
  · have outA : q ∉ fromLast s.qsrvp a := fun member =>
      apart (mem_of_fromLast member) List.mem_cons_self
    have outB : q ∉ upToFirst s.qsrvp b := fun member =>
      strange (mem_of_upToFirst member)
    rw [back, if_neg (fun all => outB all.2), nbsrv, forth,
      if_neg (fun all => outA all.2), nfsrv, srv, forward_here ends]
    exact ⟨rfl, rfl⟩
  · rintro b₁ y b₂ rfl
    obtain ⟨left, right⟩ := after b₁ y b₂ rfl
    have outside : y ∉ fromLast s.qsrvp a := fun other =>
      apart (mem_of_fromLast other) (by simp)
    refine ⟨?_, ?_⟩
    · rw [back, left, srv, lastSrv_insert onceB]
    · rw [forth, if_neg (fun all => outside all.2), right, srv,
        forward_behind ends]

theorem leads_fromLast (links : s.Links (a ++ q :: b))
    (nbsrv : s.qNbsrv q = lastSrv s.qsrvp a)
    (outside : q ∉ fromLast s.qsrvp a) :
    Leads s.qNext q (s.qNbsrv q) (fromLast s.qsrvp a) := by
  obtain ⟨front, suffix⟩ := fromLast_suffix s.qsrvp a
  rw [nbsrv, ← head?_fromLast]
  cases seg : fromLast s.qsrvp a with
  | nil => exact .inr rfl
  | cons x rest =>
      rw [seg] at outside suffix
      exact leads_next links (by rw [← suffix]) outside

theorem leads_upToFirst (links : s.Links (a ++ q :: b))
    (nfsrv : s.qNfsrv q = nearest s.qsrvp b)
    (outside : q ∉ upToFirst s.qsrvp b) :
    Leads s.backq q (s.qNfsrv q) (upToFirst s.qsrvp b).reverse := by
  obtain ⟨post, initial⟩ := upToFirst_prefix s.qsrvp b
  rw [nfsrv, ← getLast?_upToFirst]
  cases seg : upToFirst s.qsrvp b with
  | nil => exact .inr rfl
  | cons x rest =>
      rw [seg] at outside initial
      have leads := leads_back (q := q) links (by rw [← initial]) outside
      rw [List.getLast?_cons_cons] at leads
      exact leads

theorem length_fromLast (srv : QueuePtr → Bool) (a : List QueuePtr) :
    (fromLast srv a).length ≤ a.length := by
  obtain ⟨front, suffix⟩ := fromLast_suffix srv a
  have length := congrArg List.length suffix
  rw [List.length_append] at length
  omega

theorem length_upToFirst (srv : QueuePtr → Bool) (b : List QueuePtr) :
    (upToFirst srv b).reverse.length ≤ b.length := by
  obtain ⟨back, initial⟩ := upToFirst_prefix srv b
  have length := congrArg List.length initial
  rw [List.length_append] at length
  rw [List.length_reverse]
  omega

theorem cacheOn_spec (links : s.Links (a ++ q :: b))
    (caches : s.Caches (a ++ b)) (nbsrv : s.qNbsrv q = lastSrv s.qsrvp a)
    (nfsrv : s.qNfsrv q = nearest s.qsrvp b) (once : (a ++ q :: b).Nodup)
    (ends : Edge s.qsrvp a b) (enough : (a ++ q :: b).length ≤ fuel) :
    ∃ s', s.cacheOn fuel q = some s' ∧ s'.Caches (a ++ q :: b) ∧
      Frame s s' (a ++ q :: b) := by
  obtain ⟨_, onceQb, apart⟩ := List.nodup_append'.mp once
  obtain ⟨strange, _⟩ := List.nodup_cons.mp onceQb
  have next : s.qNext q = none ↔ b = [] := by
    rw [(links a q b rfl).1, List.head?_eq_none_iff]
  have outA : q ∉ fromLast s.qsrvp a := fun member =>
    apart (mem_of_fromLast member) List.mem_cons_self
  have outB : q ∉ upToFirst s.qsrvp b := fun member =>
    strange (mem_of_upToFirst member)
  rw [List.length_append, List.length_cons] at enough
  have shortA := Nat.le_trans (length_fromLast s.qsrvp a)
    (by omega : a.length ≤ fuel)
  have shortB := Nat.le_trans (length_upToFirst s.qsrvp b)
    (by omega : b.length ≤ fuel)
  have forth := leads_fromLast links nbsrv outA
  have back := leads_upToFirst links nfsrv outB
  by_cases works : Works s.qsrvp q b
  · have works' : s.qsrvp q = true ∨ s.qNext q = none := by
      rw [next]
      exact works
    have first := loop_setNfsrv forth shortA (some q)
    have second := loop_setNbsrv (s := { s with
      qNfsrv := fun x => if x ∈ fromLast s.qsrvp a then some q
        else s.qNfsrv x }) back shortB (some q)
    have done : s.cacheOn fuel q = some { s with
        qNfsrv := fun x => if x ∈ fromLast s.qsrvp a then some q
          else s.qNfsrv x
        qNbsrv := fun x => if x ∈ (upToFirst s.qsrvp b).reverse then some q
          else s.qNbsrv x } := by
      refine (if_pos works').trans ?_
      simp only [first, Option.bind_eq_bind, Option.bind_some, if_neg outA]
      exact second
    refine ⟨_, done, ?_, ⟨rfl, rfl, rfl, rfl, ?_, ?_⟩⟩
    · refine caches_on ?_ caches nbsrv nfsrv once ends ?_ ?_
      · rfl
      · intro x
        simp only [works, true_and]
      · intro x
        simp only [works, true_and, List.mem_reverse]
    · intro x outside
      apply if_neg
      intro member
      exact outside (List.mem_append_left _ (mem_of_fromLast member))
    · intro x outside
      apply if_neg
      intro member
      exact outside (List.mem_append_right _ (List.mem_cons_of_mem _
        (mem_of_upToFirst (List.mem_reverse.mp member))))
  · refine ⟨s, ?_, ?_, ⟨rfl, rfl, rfl, rfl, fun _ _ => rfl, fun _ _ => rfl⟩⟩
    · unfold cacheOn
      simp only [next]
      exact if_neg works
    · apply caches_on rfl caches nbsrv nfsrv once ends
      · exact fun x => (if_neg fun all => works all.1).symm
      · exact fun x => (if_neg fun all => works all.1).symm

theorem caches_off {s' : Plumbing} (srv : s'.qsrvp = s.qsrvp)
    (caches : s.Caches (a ++ q :: b)) (once : (a ++ q :: b).Nodup)
    (ends : Edge s.qsrvp a b) (inner : b ≠ [])
    (forth : ∀ x, s'.qNfsrv x =
      if Works s.qsrvp q b ∧ x ∈ fromLast s.qsrvp a ∧
        s.qNfsrv x = some q then s.qNfsrv q else s.qNfsrv x)
    (back : ∀ x, s'.qNbsrv x =
      if Works s.qsrvp q b ∧ x ∈ upToFirst s.qsrvp b ∧
        s.qNbsrv x = some q then s.qNbsrv q else s.qNbsrv x) :
    s'.Caches (a ++ b) := by
  obtain ⟨onceA, onceQb, apart⟩ := List.nodup_append'.mp once
  obtain ⟨strange, onceB⟩ := List.nodup_cons.mp onceQb
  obtain ⟨before, ⟨nbsrv, nfsrv⟩, after⟩ := forall_split_insert.mp caches
  rw [forward_here ends] at nfsrv
  refine forall_split_append.mpr ⟨?_, ?_⟩
  · rintro a₁ x a₂ rfl
    obtain ⟨left, right⟩ := before a₁ x a₂ rfl
    rw [forward_insert onceA ends] at right
    have outside : x ∉ upToFirst s.qsrvp b := fun other =>
      apart (by simp) (List.mem_cons_of_mem _ (mem_of_upToFirst other))
    refine ⟨?_, ?_⟩
    · rw [back, if_neg (fun all => outside all.2.1), left, srv]
    · rw [forth, srv]
      by_cases points : Works s.qsrvp q b ∧ x ∈ fromLast s.qsrvp (a₁ ++ x :: a₂)
      · rw [if_pos points] at right
        rw [if_pos ⟨points.1, points.2, right⟩, nfsrv,
          forward_of_mem onceA inner points.2]
      · rw [if_neg points] at right
        rw [if_neg (fun all => points ⟨all.1, all.2.1⟩), right]
  · rintro b₁ y b₂ rfl
    obtain ⟨left, right⟩ := after b₁ y b₂ rfl
    rw [lastSrv_insert onceB] at left
    rw [forward_behind ends] at right
    have outside : y ∉ fromLast s.qsrvp a := fun other =>
      apart (mem_of_fromLast other) (by simp)
    refine ⟨?_, ?_⟩
    · rw [back, srv]
      by_cases points : Works s.qsrvp q (b₁ ++ y :: b₂) ∧
          y ∈ upToFirst s.qsrvp (b₁ ++ y :: b₂)
      · rw [if_pos points] at left
        rw [if_pos ⟨points.1, points.2, left⟩, nbsrv,
          lastSrv_of_mem onceB points.2]
      · rw [if_neg points] at left
        rw [if_neg (fun all => points ⟨all.1, all.2.1⟩), left]
    · rw [forth, if_neg (fun all => outside all.2.1), right, srv]

theorem cacheOff_spec (links : s.Links (a ++ q :: b))
    (caches : s.Caches (a ++ q :: b)) (once : (a ++ q :: b).Nodup)
    (ends : Edge s.qsrvp a b) (inner : b ≠ [])
    (enough : (a ++ q :: b).length ≤ fuel) :
    ∃ s', s.cacheOff fuel q = some s' ∧ s'.Caches (a ++ b) ∧
      Frame s s' (a ++ b) := by
  obtain ⟨_, onceQb, apart⟩ := List.nodup_append'.mp once
  obtain ⟨strange, _⟩ := List.nodup_cons.mp onceQb
  obtain ⟨nbsrv, nfsrv⟩ := caches a q b rfl
  rw [forward_here ends] at nfsrv
  have next : s.qNext q = none ↔ b = [] := by
    rw [(links a q b rfl).1, List.head?_eq_none_iff]
  have outA : q ∉ fromLast s.qsrvp a := fun member =>
    apart (mem_of_fromLast member) List.mem_cons_self
  have outB : q ∉ upToFirst s.qsrvp b := fun member =>
    strange (mem_of_upToFirst member)
  rw [List.length_append, List.length_cons] at enough
  have shortA := Nat.le_trans (length_fromLast s.qsrvp a)
    (by omega : a.length ≤ fuel)
  have shortB := Nat.le_trans (length_upToFirst s.qsrvp b)
    (by omega : b.length ≤ fuel)
  have forth := leads_fromLast links nbsrv outA
  have back := leads_upToFirst links nfsrv outB
  by_cases works : Works s.qsrvp q b
  · have works' : s.qsrvp q = true ∨ s.qNext q = none := by
      rw [next]
      exact works
    have first := loop_bypassNfsrv forth outA shortA
    have second := loop_bypassNbsrv (s := { s with
      qNfsrv := fun x => if x ∈ fromLast s.qsrvp a ∧ s.qNfsrv x = some q then
        s.qNfsrv q else s.qNfsrv x }) back
      (fun member => outB (List.mem_reverse.mp member)) shortB
    have done : s.cacheOff fuel q = some { s with
        qNfsrv := fun x => if x ∈ fromLast s.qsrvp a ∧ s.qNfsrv x = some q then
          s.qNfsrv q else s.qNfsrv x
        qNbsrv := fun x => if x ∈ (upToFirst s.qsrvp b).reverse ∧
          s.qNbsrv x = some q then s.qNbsrv q else s.qNbsrv x } := by
      refine (if_pos works').trans ?_
      simp only [first, Option.bind_eq_bind, Option.bind_some,
        if_neg (fun all : q ∈ fromLast s.qsrvp a ∧ _ => outA all.1)]
      exact second
    refine ⟨_, done, ?_, ⟨rfl, rfl, rfl, rfl, ?_, ?_⟩⟩
    · refine caches_off ?_ caches once ends inner ?_ ?_
      · rfl
      · intro x
        simp only [works, true_and]
      · intro x
        simp only [works, true_and, List.mem_reverse]
    · intro x outside
      apply if_neg
      intro member
      exact outside (List.mem_append_left _ (mem_of_fromLast member.1))
    · intro x outside
      apply if_neg
      intro member
      exact outside (List.mem_append_right _
        (mem_of_upToFirst (List.mem_reverse.mp member.1)))
  · refine ⟨s, ?_, ?_, ⟨rfl, rfl, rfl, rfl, fun _ _ => rfl, fun _ _ => rfl⟩⟩
    · unfold cacheOff
      simp only [next]
      exact if_neg works
    · apply caches_off rfl caches once ends inner
      · exact fun x => (if_neg fun all => works all.1).symm
      · exact fun x => (if_neg fun all => works all.1).symm

end Plumbing

end Loops

end OpenSS7.Streams
