/-!
Programs that work on one state and may stop early with an error, keeping the
state they have reached, and rules of pre- and postconditions for them.
-/

/-- A program over a state `σ` that returns an `α` or an error `ε`. -/
abbrev Program (σ ε : Type) := ExceptT ε (StateM σ)

namespace Program

variable {σ ε α β : Type}

def exec (m : Program σ ε α) (s : σ) : Except ε α × σ := StateT.run m.run s

def after (m : Program σ ε α) (s : σ) : σ := (m.exec s).2

def when (c : Prop) [Decidable c] (m : Program σ ε Unit) : Program σ ε Unit :=
  if c then m else pure ()

def focus {τ : Type} (read : σ → τ) (write : τ → σ → σ) (m : Program τ ε α) :
    Program σ ε α := do
  let s ← get
  let (result, t) := m.exec (read s)
  set (write t s)
  match result with
  | .ok a => pure a
  | .error e => throw e

/-- From a state in `P` the program returns into `Q` or stops in `E`. -/
def Triple (P : σ → Prop) (m : Program σ ε α) (Q : α → σ → Prop)
    (E : σ → Prop) : Prop :=
  ∀ s, P s → match m.exec s with
    | (.ok a, s') => Q a s'
    | (.error _, s') => E s'

def Keeps (I : σ → Prop) (m : Program σ ε α) : Prop :=
  Triple I m (fun _ => I) I

def Sustains (I : σ → Prop) (m : Program σ ε α) : Prop :=
  Triple I m (fun _ => I) fun _ => True

section Rules

variable {P P' : σ → Prop} {Q Q' : α → σ → Prop} {E E' : σ → Prop}

theorem exec_bind (m : Program σ ε α) (f : α → Program σ ε β) (s : σ) :
    (m >>= f).exec s = match m.exec s with
      | (.ok a, s') => (f a).exec s'
      | (.error e, s') => (.error e, s') := by
  show StateT.run (ExceptT.run (m >>= f)) s = _
  rw [ExceptT.run_bind, StateT.run_bind]
  show (match StateT.run (ExceptT.run m) s with | (x, s') => _) = _
  unfold exec
  cases StateT.run (ExceptT.run m) s with
  | mk result s' => cases result <;> rfl

theorem exec_get (s : σ) :
    (get : Program σ ε σ).exec s = (.ok s, s) := rfl

theorem exec_modify (f : σ → σ) (s : σ) :
    (modify f : Program σ ε PUnit).exec s = (.ok ⟨⟩, f s) := rfl

theorem triple_bind {R : α → σ → Prop} {Q : β → σ → Prop}
    {m : Program σ ε α} {f : α → Program σ ε β} (first : Triple P m R E)
    (second : ∀ a, Triple (R a) (f a) Q E) : Triple P (m >>= f) Q E := by
  intro s holds
  have middle := first s holds
  rw [exec_bind]
  cases run : m.exec s with
  | mk result s' =>
      rw [run] at middle
      cases result with
      | error e => exact middle
      | ok a => exact second a s' middle

theorem triple_pure {a : α} (holds : ∀ s, P s → Q a s) :
    Triple P (pure a : Program σ ε α) Q E :=
  fun s h => holds s h

theorem triple_get {Q : σ → σ → Prop} (holds : ∀ s, P s → Q s s) :
    Triple P (get : Program σ ε σ) Q E :=
  fun s h => holds s h

theorem triple_modify {f : σ → σ} {Q : PUnit → σ → Prop}
    (holds : ∀ s, P s → Q ⟨⟩ (f s)) :
    Triple P (modify f : Program σ ε PUnit) Q E :=
  fun s h => holds s h

theorem triple_throw {e : ε} (holds : ∀ s, P s → E s) :
    Triple P (throw e : Program σ ε α) Q E :=
  fun s h => holds s h

theorem triple_ite {c : Prop} [Decidable c] {m n : Program σ ε α}
    (yes : c → Triple P m Q E) (no : ¬ c → Triple P n Q E) :
    Triple P (if c then m else n) Q E := by
  by_cases h : c
  · rw [if_pos h]
    exact yes h
  · rw [if_neg h]
    exact no h

theorem triple_when {c : Prop} [Decidable c] {m : Program σ ε Unit}
    {Q : Unit → σ → Prop} (yes : c → Triple P m Q E)
    (no : ¬ c → ∀ s, P s → Q () s) : Triple P (when c m) Q E :=
  triple_ite yes fun h => triple_pure (no h)

theorem triple_conseq {m : Program σ ε α} (triple : Triple P m Q E)
    (pre : ∀ s, P' s → P s) (post : ∀ a s, Q a s → Q' a s)
    (error : ∀ s, E s → E' s) : Triple P' m Q' E' := by
  intro s holds
  have after := triple s (pre s holds)
  cases run : m.exec s with
  | mk result s' =>
      rw [run] at after
      cases result with
      | error e => exact error s' after
      | ok a => exact post a s' after

theorem triple_map {f : α → β} {Q : β → σ → Prop} {m : Program σ ε α}
    (triple : Triple P m (fun a => Q (f a)) E) : Triple P (f <$> m) Q E := by
  rw [map_eq_pure_bind]
  exact triple_bind triple fun a => triple_pure fun _ h => h

theorem exec_tryCatch (m : Program σ ε α) (handler : ε → Program σ ε α)
    (s : σ) : (tryCatch m handler).exec s = match m.exec s with
      | (.ok a, s') => (.ok a, s')
      | (.error e, s') => (handler e).exec s' := by
  show StateT.run (ExceptT.run (tryCatch m handler)) s = _
  rw [show ExceptT.run (tryCatch m handler) = (ExceptT.run m >>= fun
      | .ok a => pure (.ok a)
      | .error e => ExceptT.run (handler e)) from rfl, StateT.run_bind]
  unfold exec
  cases StateT.run (ExceptT.run m) s with
  | mk result s' => cases result <;> rfl

theorem triple_tryCatch {m : Program σ ε α} {handler : ε → Program σ ε α}
    {R : σ → Prop} (body : Triple P m Q R)
    (handled : ∀ e, Triple R (handler e) Q E) :
    Triple P (tryCatch m handler) Q E := by
  intro s holds
  have result := body s holds
  rw [exec_tryCatch]
  cases ended : m.exec s with
  | mk outcome s' =>
      rw [ended] at result
      cases outcome with
      | error e => exact handled e s' result
      | ok a => exact result

theorem exec_focus {τ : Type} (read : σ → τ) (write : τ → σ → σ)
    (m : Program τ ε α) (s : σ) :
    (focus read write m).exec s =
      ((m.exec (read s)).1, write (m.exec (read s)).2 s) := by
  unfold focus
  rw [exec_bind]
  show ((do set (write (m.exec (read s)).2 s)
            match (m.exec (read s)).1 with
            | .ok a => pure a
            | .error e => throw e) : Program σ ε α).exec s = _
  rw [exec_bind]
  show ((match (m.exec (read s)).1 with
    | .ok a => pure a
    | .error e => throw e) : Program σ ε α).exec
      (write (m.exec (read s)).2 s) = _
  cases (m.exec (read s)).1 <;> rfl

theorem triple_focus {τ : Type} {read : σ → τ} {write : τ → σ → σ}
    {m : Program τ ε α} (holds : ∀ s, P s →
      match m.exec (read s) with
      | (.ok a, t) => Q a (write t s)
      | (.error _, t) => E (write t s)) :
    Triple P (focus read write m) Q E := by
  intro s pre
  have after := holds s pre
  rw [exec_focus]
  cases ended : m.exec (read s) with
  | mk result t =>
      rw [ended] at after
      cases result <;> exact after

theorem triple_get_bind {f : σ → Program σ ε α}
    (each : ∀ s₀, P s₀ → Triple (fun s => s₀ = s) (f s₀) Q E) :
    Triple P (get >>= f) Q E :=
  fun s holds => each s holds s rfl

theorem triple_get_any {f : σ → Program σ ε α}
    (each : ∀ s₀, Triple P (f s₀) Q E) : Triple P (get >>= f) Q E :=
  fun s holds => each s s holds

theorem triple_after {m : Program σ ε α} {R : σ → Prop}
    (triple : Triple P m (fun _ => R) R) {s : σ} (holds : P s) :
    R (m.after s) := by
  have result := triple s holds
  unfold after
  cases run : m.exec s with
  | mk result' s' =>
      rw [run] at result
      cases result' with
      | error e => exact result
      | ok a => exact result

end Rules

section Keeps

variable {I : σ → Prop}

theorem keeps_bind {m : Program σ ε α} {f : α → Program σ ε β}
    (first : Keeps I m) (second : ∀ a, Keeps I (f a)) : Keeps I (m >>= f) :=
  triple_bind first second

theorem keeps_of_each {m : Program σ ε α}
    (each : ∀ s, I s → Triple (fun s' => s = s') m (fun _ => I) I) :
    Keeps I m :=
  fun s holds => each s holds s rfl

theorem keeps_pure (a : α) : Keeps I (pure a : Program σ ε α) :=
  triple_pure fun _ h => h

theorem keeps_get : Keeps I (get : Program σ ε σ) :=
  triple_get fun _ h => h

theorem keeps_modify {f : σ → σ} (holds : ∀ s, I s → I (f s)) :
    Keeps I (modify f : Program σ ε PUnit) :=
  triple_modify holds

theorem keeps_throw (e : ε) : Keeps I (throw e : Program σ ε α) :=
  triple_throw fun _ h => h

theorem keeps_map {f : α → β} {m : Program σ ε α} (keeps : Keeps I m) :
    Keeps I (f <$> m) :=
  triple_map keeps

theorem keeps_tryCatch {m : Program σ ε α} {handler : ε → Program σ ε α}
    (body : Keeps I m) (handled : ∀ e, Keeps I (handler e)) :
    Keeps I (tryCatch m handler) :=
  triple_tryCatch body handled

theorem keeps_ite {c : Prop} [Decidable c] {m n : Program σ ε α}
    (yes : Keeps I m) (no : Keeps I n) : Keeps I (if c then m else n) :=
  triple_ite (fun _ => yes) (fun _ => no)

theorem keeps_when {c : Prop} [Decidable c] {m : Program σ ε Unit}
    (keeps : Keeps I m) : Keeps I (when c m) :=
  keeps_ite keeps (keeps_pure _)

end Keeps

section Sustains

variable {I : σ → Prop}

theorem triple_fails {P E : σ → Prop} {Q : β → σ → Prop}
    {m : Program σ ε α} (e : ε) (holds : ∀ s, E s) :
    Triple P (m >>= fun _ => (throw e : Program σ ε β)) Q E := by
  intro s _
  rw [exec_bind]
  cases m.exec s with
  | mk result s' => cases result <;> exact holds s'

theorem sustains_bind {m : Program σ ε α} {f : α → Program σ ε β}
    (first : Sustains I m) (second : ∀ a, Sustains I (f a)) :
    Sustains I (m >>= f) :=
  triple_bind first second

theorem sustains_pure (a : α) : Sustains I (pure a : Program σ ε α) :=
  triple_pure fun _ h => h

theorem sustains_get_bind {f : σ → Program σ ε α}
    (second : ∀ s, Sustains I (f s)) : Sustains I (get >>= f) :=
  triple_get_any second

theorem sustains_modify {f : σ → σ} (holds : ∀ s, I s → I (f s)) :
    Sustains I (modify f : Program σ ε PUnit) :=
  triple_modify holds

theorem sustains_throw (e : ε) : Sustains I (throw e : Program σ ε α) :=
  triple_throw fun _ _ => trivial

theorem sustains_when {c : Prop} [Decidable c] {m : Program σ ε Unit}
    (sustains : Sustains I m) : Sustains I (when c m) :=
  triple_when (fun _ => sustains) fun _ _ h => h

theorem sustains_ite {c : Prop} [Decidable c] {m n : Program σ ε α}
    (yes : Sustains I m) (no : Sustains I n) :
    Sustains I (if c then m else n) :=
  triple_ite (fun _ => yes) (fun _ => no)

theorem sustains_focus {τ : Type} {read : σ → τ} {write : τ → σ → σ}
    {m : Program τ ε α} (apart : ∀ s t, I s → I (write t s)) :
    Sustains I (focus read write m) := by
  refine triple_focus fun s held => ?_
  cases m.exec (read s) with
  | mk result t =>
      cases result with
      | ok a => exact apart s t held
      | error e => trivial

end Sustains

section Simulates

variable {τ : Type} {read : σ → τ} {P P' E E' : σ → Prop}
  {Q Q' : α → β → σ → Prop}

def Simulates (read : σ → τ) (P : σ → Prop) (p : Program σ ε α)
    (m : Program τ ε β) (Q : α → β → σ → Prop) (E : σ → Prop) : Prop :=
  ∀ s, P s → match p.exec s, m.exec (read s) with
    | (.ok a, s'), (.ok b, t) => read s' = t ∧ Q a b s'
    | (.error e, s'), (.error e', t) => read s' = t ∧ e = e' ∧ E s'
    | _, _ => False

theorem simulates_bind {γ δ : Type} {R : α → β → σ → Prop}
    {Q : γ → δ → σ → Prop} {p : Program σ ε α} {m : Program τ ε β}
    {f : α → Program σ ε γ} {g : β → Program τ ε δ}
    (first : Simulates read P p m R E)
    (second : ∀ a b, Simulates read (R a b) (f a) (g b) Q E) :
    Simulates read P (p >>= f) (m >>= g) Q E := by
  intro s holds
  have middle := first s holds
  rw [exec_bind, exec_bind]
  cases left : p.exec s with
  | mk a s' =>
      cases right : m.exec (read s) with
      | mk b t =>
          rw [left, right] at middle
          cases a with
          | error e =>
              cases b with
              | error e' => exact middle
              | ok b => exact middle.elim
          | ok a =>
              cases b with
              | error e' => exact middle.elim
              | ok b =>
                  obtain ⟨rfl, after⟩ := middle
                  exact second a b s' after

theorem simulates_conseq {p : Program σ ε α} {m : Program τ ε β}
    (simulates : Simulates read P p m Q E) (pre : ∀ s, P' s → P s)
    (post : ∀ a b s, Q a b s → Q' a b s) (error : ∀ s, E s → E' s) :
    Simulates read P' p m Q' E' := by
  intro s holds
  have after := simulates s (pre s holds)
  cases left : p.exec s with
  | mk a s' =>
      cases right : m.exec (read s) with
      | mk b t =>
          rw [left, right] at after
          cases a <;> cases b
          · exact ⟨after.1, after.2.1, error _ after.2.2⟩
          · exact after
          · exact after
          · exact ⟨after.1, post _ _ _ after.2⟩

theorem simulates_pure {a : α} {b : β} (holds : ∀ s, P s → Q a b s) :
    Simulates read P (pure a : Program σ ε α) (pure b) Q E :=
  fun s h => ⟨rfl, holds s h⟩

theorem simulates_throw {e : ε} (holds : ∀ s, P s → E s) :
    Simulates read P (throw e : Program σ ε α)
      (throw e : Program τ ε β) Q E :=
  fun s h => ⟨rfl, rfl, holds s h⟩

theorem simulates_get_bind {f : σ → Program σ ε α} {g : τ → Program τ ε β}
    (each : ∀ s₀, P s₀ →
      Simulates read (fun s => s₀ = s) (f s₀) (g (read s₀)) Q E) :
    Simulates read P (get >>= f) (get >>= g) Q E :=
  fun s holds => each s holds s rfl

theorem simulates_peek {f : σ → Program σ ε α} {m : Program τ ε β}
    (each : ∀ s₀, P s₀ → Simulates read (fun s => s₀ = s) (f s₀) m Q E) :
    Simulates read P (get >>= f) m Q E :=
  fun s holds => each s holds s rfl

theorem simulates_aside {f : σ → σ} {k : PUnit → Program σ ε α}
    {m : Program τ ε β} {R : σ → Prop}
    (unseen : ∀ s, P s → read (f s) = read s ∧ R (f s))
    (rest : Simulates read R (k ⟨⟩) m Q E) :
    Simulates read P (modify f >>= k) m Q E := by
  intro s holds
  obtain ⟨same, after⟩ := unseen s holds
  have next := rest (f s) after
  rw [same] at next
  exact next

theorem simulates_congr {p : Program σ ε α} {m n : Program τ ε β}
    (same : ∀ s, P s → m.exec (read s) = n.exec (read s))
    (simulates : Simulates read P p n Q E) : Simulates read P p m Q E := by
  intro s holds
  rw [same s holds]
  exact simulates s holds

theorem simulates_ite {c : Prop} [Decidable c] {p q : Program σ ε α}
    {m n : Program τ ε β} (yes : c → Simulates read P p m Q E)
    (no : ¬ c → Simulates read P q n Q E) :
    Simulates read P (if c then p else q) (if c then m else n) Q E := by
  by_cases h : c
  · rw [if_pos h, if_pos h]
    exact yes h
  · rw [if_neg h, if_neg h]
    exact no h

theorem simulates_when {c : Prop} [Decidable c] {p : Program σ ε Unit}
    {m : Program τ ε Unit} {Q : Unit → Unit → σ → Prop}
    (yes : c → Simulates read P p m Q E)
    (no : ¬ c → ∀ s, P s → Q () () s) :
    Simulates read P (when c p) (when c m) Q E :=
  simulates_ite yes fun h => simulates_pure (no h)

theorem simulates_focus {write : τ → σ → σ} {m : Program τ ε α}
    {Q : α → α → σ → Prop} (lawful : ∀ t s, read (write t s) = t)
    (returns : ∀ a t s, P s → Q a a (write t s))
    (stops : ∀ t s, P s → E (write t s)) :
    Simulates read P (focus read write m) m Q E := by
  intro s holds
  rw [exec_focus]
  cases ran : m.exec (read s) with
  | mk result t =>
      cases result with
      | ok a => exact ⟨lawful t s, returns a t s holds⟩
      | error e => exact ⟨lawful t s, rfl, stops t s holds⟩

theorem simulates_restoring {f : σ → σ} {p : Program σ ε α}
    {m : Program τ ε β} (unseen : ∀ s, read (f s) = read s)
    (simulates : Simulates read P p m Q fun s => E (f s)) :
    Simulates read P (tryCatch p fun e => do
      modify f
      throw e) m Q E := by
  intro s holds
  have after := simulates s holds
  rw [exec_tryCatch]
  cases left : p.exec s with
  | mk a s' =>
      cases right : m.exec (read s) with
      | mk b t =>
          rw [left, right] at after
          cases a <;> cases b
          · exact ⟨(unseen s').trans after.1, after.2.1, after.2.2⟩
          · exact after
          · exact after
          · exact after

end Simulates

end Program
