/-!
Runs of a system that takes a list of events, and conditions on their steps.
-/

namespace Runs

variable {σ ε : Type} {step : σ → ε → σ} {met : σ → ε → Prop}

def Along (step : σ → ε → σ) (met : σ → ε → Prop) : σ → List ε → Prop
  | _, [] => True
  | s, event :: events => met s event ∧ Along step met (step s event) events

instance decideAlong [∀ s event, Decidable (met s event)] :
    ∀ (s : σ) (events : List ε), Decidable (Along step met s events)
  | _, [] => .isTrue True.intro
  | s, event :: events =>
      have : Decidable (Along step met (step s event) events) :=
        decideAlong (step s event) events
      inferInstanceAs (Decidable (_ ∧ _))

theorem Along.foldl {kept : σ → Prop}
    (keeps : ∀ {s} event, kept s → met s event → kept (step s event))
    {s : σ} {events : List ε} (start : kept s)
    (along : Along step met s events) : kept (events.foldl step s) := by
  induction events generalizing s with
  | nil => exact start
  | cons event events ih => exact ih (keeps event start along.1) along.2

theorem along_append {s : σ} (first rest : List ε) :
    Along step met s (first ++ rest) ↔
      Along step met s first ∧ Along step met (first.foldl step s) rest := by
  induction first generalizing s with
  | nil => exact ⟨fun rest => ⟨True.intro, rest⟩, And.right⟩
  | cons event first ih =>
      rw [List.cons_append, List.foldl_cons, Along, Along, ih, and_assoc]

theorem Along.and {p : ε → Prop} {s : σ} {events : List ε}
    (all : ∀ event ∈ events, p event) (along : Along step met s events) :
    Along step (fun s event => p event ∧ met s event) s events := by
  induction events generalizing s with
  | nil => exact True.intro
  | cons event events ih =>
      obtain ⟨first, rest⟩ := List.forall_mem_cons.mp all
      exact ⟨⟨first, along.1⟩, ih rest along.2⟩

theorem along_congr {sound : σ → Prop} {met' : σ → ε → Prop}
    (keeps : ∀ s event, sound s → sound (step s event))
    (agree : ∀ s event, sound s → (met s event ↔ met' s event))
    {s : σ} (start : sound s) (events : List ε) :
    Along step met s events ↔ Along step met' s events := by
  induction events generalizing s with
  | nil => rfl
  | cons event events ih =>
      rw [Along, Along, agree s event start, ih (keeps s event start)]

theorem Along.take {s : σ} {events : List ε} (along : Along step met s events)
    (n : Nat) : Along step met s (events.take n) :=
  ((along_append _ _).mp ((events.take_append_drop n).symm ▸ along)).1

theorem Along.get {s : σ} {events : List ε} (along : Along step met s events)
    {n : Nat} {event : ε} (there : events[n]? = some event) :
    met ((events.take n).foldl step s) event := by
  rw [← events.take_append_drop n, along_append] at along
  obtain ⟨inside, rfl⟩ := List.getElem?_eq_some_iff.mp there
  rw [List.drop_eq_getElem_cons inside] at along
  exact along.2.1

theorem along_iff_while {sound kept : σ → Prop}
    (exact_step : ∀ s event, sound s → kept s →
      (kept (step s event) ↔ met s event) ∧
        (met s event → sound (step s event)))
    {s : σ} (events : List ε) (start : sound s) (holds : kept s) :
    (∀ n, kept ((events.take n).foldl step s)) ↔
      Along step met s events := by
  induction events generalizing s with
  | nil => simpa [Along] using holds
  | cons event events ih =>
      have next := exact_step s event start holds
      constructor
      · intro all
        have first : kept (step s event) := by simpa using all 1
        have meets := next.1.mp first
        refine ⟨meets, (ih (next.2 meets) first).mp fun n => ?_⟩
        simpa using all (n + 1)
      · rintro ⟨meets, along⟩ n
        cases n with
        | zero => simpa using holds
        | succ n =>
            simpa using
              (ih (next.2 meets) (next.1.mpr meets)).mpr along n

theorem along_iff {sound kept : σ → Prop}
    (keeps : ∀ s event, sound s → sound (step s event))
    (exact_step : ∀ s event, sound s → kept s →
      (kept (step s event) ↔ met s event))
    {s : σ} (events : List ε) (start : sound s) (holds : kept s) :
    (∀ n, kept ((events.take n).foldl step s)) ↔
      Along step met s events :=
  along_iff_while (fun s event sound kept =>
    ⟨exact_step s event sound kept, fun _ => keeps s event sound⟩)
    events start holds

end Runs
