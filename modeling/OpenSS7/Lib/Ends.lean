import OpenSS7.Lib.Program

/-!
Rules for programs where it matters with which error they stop.
-/

namespace Program

variable {σ ε α β : Type}

/-- From a state in `P` the program returns into `Q` or stops into `E`. -/
def Ends (P : σ → Prop) (m : Program σ ε α) (Q : α → σ → Prop)
    (E : ε → σ → Prop) : Prop :=
  ∀ s, P s → match m.exec s with
    | (.ok a, s') => Q a s'
    | (.error e, s') => E e s'

section Rules

variable {P P' : σ → Prop} {Q Q' : α → σ → Prop} {E E' : ε → σ → Prop}

theorem ends_bind {R : α → σ → Prop} {Q : β → σ → Prop}
    {m : Program σ ε α} {f : α → Program σ ε β} (first : Ends P m R E)
    (second : ∀ a, Ends (R a) (f a) Q E) : Ends P (m >>= f) Q E := by
  intro s holds
  have middle := first s holds
  rw [exec_bind]
  cases run : m.exec s with
  | mk result s' =>
      rw [run] at middle
      cases result with
      | error e => exact middle
      | ok a => exact second a s' middle

theorem ends_pure {a : α} (holds : ∀ s, P s → Q a s) :
    Ends P (pure a : Program σ ε α) Q E :=
  fun s h => holds s h

theorem ends_modify {f : σ → σ} {Q : PUnit → σ → Prop}
    (holds : ∀ s, P s → Q ⟨⟩ (f s)) :
    Ends P (modify f : Program σ ε PUnit) Q E :=
  fun s h => holds s h

theorem ends_set {s' : σ} {Q : PUnit → σ → Prop}
    (holds : ∀ s, P s → Q ⟨⟩ s') :
    Ends P (set s' : Program σ ε PUnit) Q E :=
  fun s h => holds s h

theorem ends_throw {e : ε} (holds : ∀ s, P s → E e s) :
    Ends P (throw e : Program σ ε α) Q E :=
  fun s h => holds s h

theorem ends_ite {c : Prop} [Decidable c] {m n : Program σ ε α}
    (yes : c → Ends P m Q E) (no : ¬ c → Ends P n Q E) :
    Ends P (if c then m else n) Q E := by
  by_cases h : c
  · rw [if_pos h]
    exact yes h
  · rw [if_neg h]
    exact no h

theorem ends_when {c : Prop} [Decidable c] {m : Program σ ε Unit}
    {Q : Unit → σ → Prop} (yes : c → Ends P m Q E)
    (no : ¬ c → ∀ s, P s → Q () s) : Ends P (when c m) Q E :=
  ends_ite yes fun h => ends_pure (no h)

theorem ends_conseq {m : Program σ ε α} (ends : Ends P m Q E)
    (pre : ∀ s, P' s → P s) (post : ∀ a s, Q a s → Q' a s)
    (error : ∀ e s, E e s → E' e s) : Ends P' m Q' E' := by
  intro s holds
  have after := ends s (pre s holds)
  cases run : m.exec s with
  | mk result s' =>
      rw [run] at after
      cases result with
      | error e => exact error e s' after
      | ok a => exact post a s' after

theorem ends_get_bind {f : σ → Program σ ε α}
    (each : ∀ s₀, P s₀ → Ends (fun s => s₀ = s) (f s₀) Q E) :
    Ends P (get >>= f) Q E :=
  fun s holds => each s holds s rfl

theorem ends_get_any {f : σ → Program σ ε α}
    (each : ∀ s₀, Ends P (f s₀) Q E) : Ends P (get >>= f) Q E :=
  fun s holds => each s s holds

theorem ends_restoring {f : σ → σ} {m : Program σ ε α}
    (ends : Ends P m Q fun e s => E e (f s)) :
    Ends P (tryCatch m fun e => do
      modify f
      throw e) Q E := by
  intro s holds
  have after := ends s holds
  rw [exec_tryCatch]
  cases ended : m.exec s with
  | mk result s' =>
      rw [ended] at after
      cases result with
      | error e => exact after
      | ok a => exact after

theorem ends_focus {τ : Type} {read : σ → τ} {write : τ → σ → σ}
    {m : Program τ ε α} (holds : ∀ s, P s →
      match m.exec (read s) with
      | (.ok a, t) => Q a (write t s)
      | (.error e, t) => E e (write t s)) :
    Ends P (focus read write m) Q E := by
  intro s pre
  have after := holds s pre
  rw [exec_focus]
  cases ended : m.exec (read s) with
  | mk result t =>
      rw [ended] at after
      cases result with
      | error e => exact after
      | ok a => exact after

theorem ends_of_keeps {I : σ → Prop} {m : Program σ ε α} (keeps : Keeps I m) :
    Ends I m (fun _ => I) fun _ => I :=
  keeps

theorem ends_and {m : Program σ ε α} (one : Ends P m Q E)
    (two : Ends P m Q' E') :
    Ends P m (fun a s => Q a s ∧ Q' a s) fun e s => E e s ∧ E' e s := by
  intro s holds
  have first := one s holds
  have second := two s holds
  cases run : m.exec s with
  | mk result s' =>
      rw [run] at first second
      cases result with
      | error e => exact ⟨first, second⟩
      | ok a => exact ⟨first, second⟩

theorem ends_of_each {m : Program σ ε α}
    (each : ∀ s, P s → Ends (fun s' => s = s') m Q E) : Ends P m Q E :=
  fun s holds => each s holds s rfl

end Rules

section Spares

def Spares (e : ε) (m : Program σ ε α) : Prop :=
  Ends (fun _ => True) m (fun _ _ => True) fun e' _ => e' ≠ e

variable {e : ε}

@[grind ←] theorem spares_bind {m : Program σ ε α} {f : α → Program σ ε β}
    (first : Spares e m) (second : ∀ a, Spares e (f a)) :
    Spares e (m >>= f) :=
  ends_bind first second

@[grind ←] theorem spares_pure (a : α) : Spares e (pure a : Program σ ε α) :=
  fun _ _ => trivial

@[grind ←] theorem spares_get : Spares e (get : Program σ ε σ) :=
  fun _ _ => trivial

@[grind ←] theorem spares_set (s : σ) : Spares e (set s : Program σ ε PUnit) :=
  fun _ _ => trivial

@[grind ←] theorem spares_modify (f : σ → σ) :
    Spares e (modify f : Program σ ε PUnit) :=
  fun _ _ => trivial

@[grind ←] theorem spares_throw {e' : ε} (other : e' ≠ e) :
    Spares e (throw e' : Program σ ε α) :=
  fun _ _ => other

theorem spares_ite {c : Prop} [Decidable c] {m n : Program σ ε α}
    (yes : c → Spares e m) (no : ¬ c → Spares e n) :
    Spares e (if c then m else n) :=
  ends_ite yes no

@[grind ←] theorem spares_when {c : Prop} [Decidable c] {m : Program σ ε Unit}
    (spares : c → Spares e m) : Spares e (when c m) :=
  ends_when spares fun _ _ _ => trivial

theorem Spares.error {m : Program σ ε α} (spares : Spares e m) {s s' : σ}
    {e' : ε} (ran : m.exec s = (.error e', s')) : e' ≠ e := by
  have after := spares s trivial
  rw [ran] at after
  exact after

end Spares

end Program
