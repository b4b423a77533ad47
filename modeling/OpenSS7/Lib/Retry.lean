/-!
Requests that are made again until they succeed, and what all the attempts
tell together.
-/

namespace Retry

variable {σ ε Env τ : Type}

inductive Retried (attempt : Env → σ → Except ε Unit × σ)
    (tells : σ → List τ) : σ → List Env → List τ → σ → Prop
  | done {s t : σ} {env : Env} (ran : attempt env s = (.ok (), t)) :
      Retried attempt tells s [env] (tells t) t
  | again {s t u : σ} {env : Env} {e : ε} {envs : List Env} {told : List τ}
      (ran : attempt env s = (.error e, t))
      (later : Retried attempt tells t envs told u) :
      Retried attempt tells s (env :: envs) (tells t ++ told) u

structure Lossless (attempt : Env → σ → Except ε Unit × σ)
    (tells : σ → List τ) (Ready : σ → Prop) (owed : σ → List τ) : Prop where
  succeeds : ∀ {env s t}, Ready s → attempt env s = (.ok (), t) →
    tells t = owed s
  fails : ∀ {env s e t}, Ready s → attempt env s = (.error e, t) →
    Ready t ∧ tells t ++ owed t = owed s

variable {attempt : Env → σ → Except ε Unit × σ} {tells : σ → List τ}

theorem Lossless.told {Ready : σ → Prop} {owed : σ → List τ}
    (lossless : Lossless attempt tells Ready owed) {s t : σ}
    {envs : List Env} {told : List τ}
    (retried : Retried attempt tells s envs told t) :
    Ready s → told = owed s := by
  induction retried with
  | done ran => exact fun ready => lossless.succeeds ready ran
  | again ran later ih =>
      intro ready
      obtain ⟨ready', rest⟩ := lossless.fails ready ran
      rw [ih ready', rest]

theorem Retried.succeeded {s : σ} {env : Env}
    (ran : (attempt env s).1 = .ok ()) :
    Retried attempt tells s [env] (tells (attempt env s).2)
      (attempt env s).2 :=
  .done (Prod.ext ran rfl)

theorem Retried.failed {s t : σ} {env : Env} {e : ε} {envs : List Env}
    {told : List τ} (ran : (attempt env s).1 = .error e)
    (later : Retried attempt tells (attempt env s).2 envs told t) :
    Retried attempt tells s (env :: envs) (tells (attempt env s).2 ++ told)
      t :=
  .again (Prod.ext ran rfl) later

end Retry
