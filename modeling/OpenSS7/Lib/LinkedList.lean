import Mathlib.Data.List.Nodup

/-!
Intrusive doubly linked lists: nodes of any type whose links are read through
two functions `next` and `prev`.
-/

namespace LinkedList

variable {α : Type*} {next prev next' prev' : α → Option α}
  {before after first last : Option α} {l a b : List α}

/-- The nodes of the list are linked in order, entered from `before` and left
towards `after`. -/
def Segment (next prev : α → Option α) : Option α → List α → Option α → Prop
  | _, [], _ => True
  | before, node :: rest, after =>
      prev node = before ∧ next node = rest.head?.or after ∧
        Segment next prev (some node) rest after

theorem head?_append_or (a b : List α) (after : Option α) :
    (a ++ b).head?.or after = a.head?.or (b.head?.or after) := by
  cases a <;> simp

theorem getLast?_cons_or (node : α) (rest : List α) (before : Option α) :
    (node :: rest).getLast?.or before = rest.getLast?.or (some node) := by
  cases rest with
  | nil => simp
  | cons head tail =>
      rw [List.getLast?_cons_cons,
        List.getLast?_eq_some_getLast (List.cons_ne_nil head tail)]
      rfl

theorem segment_append :
    Segment next prev before (a ++ b) after ↔
      Segment next prev before a (b.head?.or after) ∧
        Segment next prev (a.getLast?.or before) b after := by
  induction a generalizing before with
  | nil => simp [Segment]
  | cons node rest ih =>
      simp only [List.cons_append, Segment, ih, head?_append_or,
        getLast?_cons_or]
      tauto

theorem segment_congr
    (hnext : ∀ node ∈ l, next' node = next node)
    (hprev : ∀ node ∈ l, prev' node = prev node)
    (segment : Segment next prev before l after) :
    Segment next' prev' before l after := by
  induction l generalizing before with
  | nil => trivial
  | cons node rest ih =>
      obtain ⟨hbefore, hafter, hrest⟩ := segment
      refine ⟨?_, ?_, ?_⟩
      · rw [hprev node (by simp), hbefore]
      · rw [hnext node (by simp), hafter]
      · exact ih (fun other member => hnext other (by simp [member]))
          (fun other member => hprev other (by simp [member])) hrest

theorem segment_setAfter {after' : Option α} (nodup : l.Nodup)
    (hother : ∀ node ∈ l, l.getLast? ≠ some node → next' node = next node)
    (hlast : ∀ node, l.getLast? = some node → next' node = after')
    (hprev : ∀ node ∈ l, prev' node = prev node)
    (segment : Segment next prev before l after) :
    Segment next' prev' before l after' := by
  induction l generalizing before with
  | nil => trivial
  | cons node rest ih =>
      obtain ⟨hbefore, hafter, hrest⟩ := segment
      rw [List.nodup_cons] at nodup
      have lastRest : ∀ other ∈ rest,
          (node :: rest).getLast? = some other ↔ rest.getLast? = some other := by
        intro other member
        cases rest with
        | nil => simp at member
        | cons head tail => simp [List.getLast?_cons_cons]
      refine ⟨?_, ?_, ?_⟩
      · rw [hprev node (by simp), hbefore]
      · cases rest with
        | nil => simpa using hlast node (by simp)
        | cons head tail =>
            rw [hother node (by simp) ?_, hafter]
            · simp
            · intro eq
              rw [List.getLast?_cons_cons] at eq
              exact nodup.1 (List.mem_of_getLast? eq)
      · refine ih nodup.2 ?_ ?_ ?_ hrest
        · intro other member different
          exact hother other (by simp [member])
            (fun eq => different ((lastRest other member).1 eq))
        · intro other eq
          exact hlast other
            ((lastRest other (List.mem_of_getLast? eq)).2 eq)
        · exact fun other member => hprev other (by simp [member])

theorem segment_setBefore {before' : Option α} (nodup : l.Nodup)
    (hother : ∀ node ∈ l, l.head? ≠ some node → prev' node = prev node)
    (hfirst : ∀ node, l.head? = some node → prev' node = before')
    (hnext : ∀ node ∈ l, next' node = next node)
    (segment : Segment next prev before l after) :
    Segment next' prev' before' l after := by
  cases l with
  | nil => trivial
  | cons node rest =>
      obtain ⟨_, hafter, hrest⟩ := segment
      rw [List.nodup_cons] at nodup
      refine ⟨hfirst node (by simp), ?_, ?_⟩
      · rw [hnext node (by simp), hafter]
      · refine segment_congr ?_ ?_ hrest
        · exact fun other member => hnext other (by simp [member])
        · intro other member
          refine hother other (by simp [member]) ?_
          simp only [List.head?_cons, ne_eq, Option.some.injEq]
          rintro rfl
          exact nodup.1 member

theorem segment_unique {other : List α} {before' : Option α}
    (heads : l.head? = other.head?)
    (segment : Segment next prev before l none)
    (segment' : Segment next prev' before' other none) : l = other := by
  induction l generalizing before before' other with
  | nil => exact (List.head?_eq_none_iff.1 heads.symm).symm
  | cons node rest ih =>
      cases other with
      | nil => cases heads
      | cons node' rest' =>
          obtain rfl : node = node' := Option.some.inj heads
          obtain ⟨_, hafter, hrest⟩ := segment
          obtain ⟨_, hafter', hrest'⟩ := segment'
          rw [Option.or_none] at hafter hafter'
          rw [ih (hafter.symm.trans hafter') hrest hrest']

structure Linked (next prev : α → Option α) (first last : Option α)
    (l : List α) : Prop where
  nodup : l.Nodup
  first_eq : first = l.head?
  last_eq : last = l.getLast?
  segment : Segment next prev none l none

theorem linked_nil : Linked next prev none none [] :=
  ⟨List.nodup_nil, rfl, rfl, trivial⟩

namespace Linked

theorem next_eq {node : α}
    (linked : Linked next prev first last (a ++ node :: b)) :
    next node = b.head? := by
  have segment := (segment_append.1 linked.segment).2
  simpa using segment.2.1

theorem prev_eq {node : α}
    (linked : Linked next prev first last (a ++ node :: b)) :
    prev node = a.getLast? := by
  have segment := (segment_append.1 linked.segment).2
  simpa using segment.1

theorem unique {other : List α} {last' : Option α}
    (linked : Linked next prev first last l)
    (linked' : Linked next prev' first last' other) : l = other := by
  have heads : l.head? = other.head? := by
    rw [← linked.first_eq, ← linked'.first_eq]
  exact segment_unique heads linked.segment linked'.segment

theorem last_eq_iff (linked : Linked next prev first last (a ++ b)) :
    last = a.getLast? ↔ b = [] := by
  rw [linked.last_eq]
  constructor
  · intro eq
    by_contra nonempty
    obtain ⟨node, hnode⟩ : ∃ node, b.getLast? = some node :=
      ⟨b.getLast nonempty, List.getLast?_eq_some_getLast nonempty⟩
    rw [List.getLast?_append, hnode] at eq
    exact (List.disjoint_of_nodup_append linked.nodup)
      (List.mem_of_getLast? eq.symm) (List.mem_of_getLast? hnode)
  · rintro rfl
    simp

theorem first_eq_iff (linked : Linked next prev first last (a ++ b)) :
    first = b.head? ↔ a = [] := by
  rw [linked.first_eq]
  constructor
  · intro eq
    cases a with
    | nil => rfl
    | cons node rest =>
        rw [List.cons_append, List.head?_cons] at eq
        have member : node ∈ b := List.mem_of_head? eq.symm
        exact absurd member
          ((List.disjoint_of_nodup_append linked.nodup) (by simp))
  · rintro rfl
    simp

theorem insert {node : α} [DecidableEq α]
    (linked : Linked next prev first last (a ++ b)) (fresh : node ∉ a ++ b)
    (hnode : next' node = b.head? ∧ prev' node = a.getLast?)
    (hnext : ∀ other, other ≠ node → next' other =
      if a.getLast? = some other then some node else next other)
    (hprev : ∀ other, other ≠ node → prev' other =
      if b.head? = some other then some node else prev other) :
    Linked next' prev' (if first = b.head? then some node else first)
      (if last = a.getLast? then some node else last) (a ++ node :: b) := by
  have parts := segment_append.1 linked.segment
  have disjoint := List.disjoint_of_nodup_append linked.nodup
  have hne : ∀ other ∈ a ++ b, other ≠ node :=
    fun other member eq => fresh (eq ▸ member)
  refine ⟨?_, ?_, ?_, ?_⟩
  · rw [List.nodup_middle, List.nodup_cons]
    exact ⟨fresh, linked.nodup⟩
  · by_cases empty : a = []
    · rw [if_pos (linked.first_eq_iff.2 empty), empty]
      rfl
    · rw [if_neg (fun eq => empty (linked.first_eq_iff.1 eq)),
        linked.first_eq]
      cases a with
      | nil => exact absurd rfl empty
      | cons head tail => rfl
  · by_cases empty : b = []
    · rw [if_pos (linked.last_eq_iff.2 empty), empty]
      simp
    · rw [if_neg (fun eq => empty (linked.last_eq_iff.1 eq)), linked.last_eq]
      cases b with
      | nil => exact absurd rfl empty
      | cons head tail =>
          rw [List.getLast?_append, List.getLast?_append,
            List.getLast?_cons_cons]
  · rw [segment_append]
    constructor
    · refine segment_setAfter (List.Nodup.of_append_left linked.nodup)
        ?_ ?_ ?_ parts.1
      · intro other member different
        rw [hnext other (hne other (by simp [member])), if_neg different]
      · intro other eq
        have member := List.mem_of_getLast? eq
        rw [hnext other (hne other (by simp [member])), if_pos eq]
        simp
      · intro other member
        rw [hprev other (hne other (by simp [member])), if_neg]
        intro eq
        exact disjoint member (List.mem_of_head? eq)
    · refine ⟨by simpa using hnode.2, by simpa using hnode.1, ?_⟩
      refine segment_setBefore (List.Nodup.of_append_right linked.nodup)
        ?_ ?_ ?_ parts.2
      · intro other member different
        rw [hprev other (hne other (by simp [member])), if_neg different]
      · intro other eq
        have member := List.mem_of_head? eq
        rw [hprev other (hne other (by simp [member])), if_pos eq]
      · intro other member
        rw [hnext other (hne other (by simp [member])), if_neg]
        intro eq
        exact disjoint (List.mem_of_getLast? eq) member

theorem removeRun {r : List α} [DecidableEq α]
    (linked : Linked next prev first last (a ++ (r ++ b)))
    (nonempty : r ≠ [])
    (hnext : ∀ other, other ∉ r → next' other =
      if a.getLast? = some other then b.head? else next other)
    (hprev : ∀ other, other ∉ r → prev' other =
      if b.head? = some other then a.getLast? else prev other) :
    Linked next' prev' (if first = r.head? then b.head? else first)
      (if last = r.getLast? then a.getLast? else last) (a ++ b) := by
  have parts := segment_append.1 linked.segment
  have back := (segment_append.1 parts.2).2
  obtain ⟨nodupA, nodupRest, apart⟩ := List.nodup_append.1 linked.nodup
  obtain ⟨_, nodupB, apart'⟩ := List.nodup_append.1 nodupRest
  have outA : ∀ other ∈ a, other ∉ r := fun other member member' =>
    apart other member other (List.mem_append_left b member') rfl
  have outB : ∀ other ∈ b, other ∉ r := fun other member member' =>
    apart' other member' other member rfl
  have split : ∀ other ∈ a, other ∉ b := fun other member member' =>
    apart other member other (List.mem_append_right r member') rfl
  have heads : (r ++ b).head? = r.head? := by
    cases r with
    | nil => exact absurd rfl nonempty
    | cons head tail => rfl
  have lasts : (a ++ r).getLast? = r.getLast? := by
    rw [List.getLast?_append, List.getLast?_eq_some_getLast nonempty]
    rfl
  refine ⟨?_, ?_, ?_, ?_⟩
  · exact List.nodup_append.2 ⟨nodupA, nodupB, fun other member other' member'
      eq => split other member (eq ▸ member')⟩
  · have here := linked.first_eq_iff
    rw [heads] at here
    by_cases empty : a = []
    · rw [if_pos (here.2 empty), empty]
      rfl
    · rw [if_neg (fun eq => empty (here.1 eq)), linked.first_eq]
      cases a with
      | nil => exact absurd rfl empty
      | cons head tail => rfl
  · have linked' := linked
    rw [← List.append_assoc] at linked'
    have here := linked'.last_eq_iff
    rw [lasts] at here
    by_cases empty : b = []
    · rw [if_pos (here.2 empty), empty, List.append_nil]
    · rw [if_neg (fun eq => empty (here.1 eq)), linked'.last_eq]
      have final := List.getLast?_eq_some_getLast empty
      rw [List.getLast?_append, @List.getLast?_append _ a b, final]
      rfl
  · rw [segment_append]
    constructor
    · refine segment_setAfter nodupA ?_ ?_ ?_ parts.1
      · intro other member different
        rw [hnext other (outA other member), if_neg different]
      · intro other eq
        have member := List.mem_of_getLast? eq
        rw [hnext other (outA other member), if_pos eq, Option.or_none]
      · intro other member
        rw [hprev other (outA other member), if_neg]
        intro eq
        exact split other member (List.mem_of_head? eq)
    · refine segment_setBefore nodupB ?_ ?_ ?_ back
      · intro other member different
        rw [hprev other (outB other member), if_neg different]
      · intro other eq
        have member := List.mem_of_head? eq
        rw [hprev other (outB other member), if_pos eq, Option.or_none]
      · intro other member
        rw [hnext other (outB other member), if_neg]
        intro eq
        exact split other (List.mem_of_getLast? eq) member

theorem remove {node : α} [DecidableEq α]
    (linked : Linked next prev first last (a ++ node :: b))
    (hnext : ∀ other, other ≠ node → next' other =
      if a.getLast? = some other then b.head? else next other)
    (hprev : ∀ other, other ≠ node → prev' other =
      if b.head? = some other then a.getLast? else prev other) :
    Linked next' prev' (if first = some node then b.head? else first)
      (if last = some node then a.getLast? else last) (a ++ b) := by
  apply removeRun (r := [node]) linked (List.cons_ne_nil node [])
  · intro other outside
    exact hnext other (List.ne_of_not_mem_cons outside)
  · intro other outside
    exact hprev other (List.ne_of_not_mem_cons outside)

end Linked

/-- Follow `next` while `p` holds, remembering the node last passed; `none`
when the fuel does not reach the end of the walk. -/
def walk (next : α → Option α) (p : α → Bool) :
    Nat → Option α → Option α → Option (Option α × Option α)
  | _, before, none => some (before, none)
  | fuel, before, some node =>
      if p node then
        match fuel with
        | 0 => none
        | fuel + 1 => walk next p fuel (some node) (next node)
      else
        some (before, some node)

theorem walk_segment {p : α → Bool} {fuel : Nat} (enough : l.length ≤ fuel)
    (segment : Segment next prev before l none) :
    walk next p fuel before l.head? =
      some ((l.takeWhile p).getLast?.or before, (l.dropWhile p).head?) := by
  induction l generalizing before fuel with
  | nil => simp [walk]
  | cons node rest ih =>
      obtain ⟨_, hafter, hrest⟩ := segment
      cases hp : p node with
      | false => cases fuel <;> simp [walk, hp]
      | true =>
          cases fuel with
          | zero => simp at enough
          | succ fuel =>
              have bound : rest.length ≤ fuel := by simpa using enough
              have tail := ih bound hrest
              rw [Option.or_none] at hafter
              simp only [List.head?_cons, walk, hp, if_true, hafter, tail,
                List.takeWhile_cons_of_pos, List.dropWhile_cons_of_pos,
                getLast?_cons_or]

theorem Linked.walk_eq {p : α → Bool} {fuel : Nat}
    (linked : Linked next prev first last (a ++ b)) (enough : b.length ≤ fuel) :
    walk next p fuel a.getLast? b.head? =
      some ((a ++ b.takeWhile p).getLast?, (b.dropWhile p).head?) := by
  have segment := (segment_append.1 linked.segment).2
  rw [Option.or_none] at segment
  rw [walk_segment enough segment, List.getLast?_append]

end LinkedList
