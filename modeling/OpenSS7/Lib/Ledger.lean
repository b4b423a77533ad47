import Mathlib.Algebra.BigOperators.Group.List.Basic

/-!
Books kept about a list of entries. What is written in the books is balanced
against the total weight of the entries; a pass over the list keeps it so when
its treatment of one entry does, whatever else is entered.
-/

namespace Ledger

variable {α β M : Type*} [AddCommMonoid M]

def total (weigh : α → M) (entries : List α) : M := (entries.map weigh).sum

section Total

variable (weigh : α → M)

@[simp] theorem total_nil : total weigh [] = 0 := rfl

@[simp] theorem total_cons (x : α) (l : List α) :
    total weigh (x :: l) = weigh x + total weigh l := by
  simp [total]

@[simp] theorem total_append (l r : List α) :
    total weigh (l ++ r) = total weigh l + total weigh r := by
  simp [total]

theorem total_map {f : α → α} {l : List α}
    (same : ∀ x ∈ l, weigh (f x) = weigh x) :
    total weigh (l.map f) = total weigh l := by
  unfold total
  rw [List.map_map]
  exact congrArg List.sum (List.map_congr_left same)

end Total

def sweep (act : β → α → β × Option α) : β → List α → β × List α
  | b, [] => (b, [])
  | b, x :: rest =>
      match act b x with
      | (b, none) => (b, x :: rest)
      | (b, some x) => ((sweep act b rest).1, x :: (sweep act b rest).2)

def drain (act : β → α → Option β) : β → List α → β × List α
  | b, [] => (b, [])
  | b, x :: rest =>
      match act b x with
      | none => (b, x :: rest)
      | some b => drain act b rest

variable {weigh : α → M} {Balanced : β → M → Prop} {ok : α → Prop}

theorem sweep_balanced {act : β → α → β × Option α}
    (fair : ∀ b x other, ok x → Balanced b (weigh x + other) →
      Balanced (act b x).1 (weigh ((act b x).2.getD x) + other))
    {b : β} {l : List α} (other : M) (all : ∀ x ∈ l, ok x)
    (balanced : Balanced b (total weigh l + other)) :
    Balanced (sweep act b l).1 (total weigh (sweep act b l).2 + other) := by
  induction l generalizing b other with
  | nil => exact balanced
  | cons x rest ih =>
      rw [total_cons, add_assoc] at balanced
      have next := fair _ _ _ (all x List.mem_cons_self) balanced
      rw [sweep]
      generalize act b x = out at next ⊢
      obtain ⟨b', changed⟩ := out
      cases changed with
      | none =>
          rw [Option.getD_none, ← add_assoc, ← total_cons] at next
          exact next
      | some x' =>
          rw [Option.getD_some, add_left_comm] at next
          have whole := ih _ (fun y member =>
            all y (List.mem_cons_of_mem _ member)) next
          rw [add_left_comm, ← add_assoc, ← total_cons] at whole
          exact whole

theorem drain_balanced {act : β → α → Option β}
    (fair : ∀ {b x b'} other, Balanced b (weigh x + other) →
      act b x = some b' → Balanced b' other)
    {b : β} {l : List α} (balanced : Balanced b (total weigh l)) :
    Balanced (drain act b l).1 (total weigh (drain act b l).2) := by
  induction l generalizing b with
  | nil => exact balanced
  | cons x rest ih =>
      rw [drain]
      cases acted : act b x with
      | none => exact balanced
      | some b' =>
          rw [total_cons] at balanced
          exact ih (fair _ balanced acted)

theorem sweep_keeps {γ : Type*} (read : β → γ)
    {act : β → α → β × Option α}
    (keeps : ∀ b x, read (act b x).1 = read b) (b : β) (l : List α) :
    read (sweep act b l).1 = read b := by
  induction l generalizing b with
  | nil => rfl
  | cons x rest ih =>
      have first := keeps b x
      rw [sweep]
      generalize act b x = out at first ⊢
      obtain ⟨b', changed⟩ := out
      cases changed with
      | none => exact first
      | some x' => exact (ih b').trans first

theorem sweep_map {γ : Type*} (read : α → γ)
    {act : β → α → β × Option α}
    (keeps : ∀ b x, read ((act b x).2.getD x) = read x)
    (b : β) (l : List α) : (sweep act b l).2.map read = l.map read := by
  induction l generalizing b with
  | nil => rfl
  | cons x rest ih =>
      have first := keeps b x
      rw [sweep]
      generalize act b x = out at first ⊢
      obtain ⟨b', changed⟩ := out
      cases changed with
      | none => rfl
      | some x' =>
          simp only [List.map_cons, ih b']
          rw [← first, Option.getD_some]

theorem sweep_same {act : β → α → β × Option α} {b : β} {l : List α}
    (same : ∀ x ∈ l, act b x = (b, some x)) : sweep act b l = (b, l) := by
  induction l with
  | nil => rfl
  | cons x rest ih =>
      rw [sweep, same x List.mem_cons_self]
      simp only
      rw [ih fun y member => same y (List.mem_cons_of_mem _ member)]

end Ledger
