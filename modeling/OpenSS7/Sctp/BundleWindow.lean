import OpenSS7.Sctp.Bundle

/-!
How much data `sctp_bundle_more` puts in a packet against what `sctp_avail`
allows: the window left is a `size_t`, and what is taken beyond it comes back
as room for more.
-/

namespace OpenSS7.Sctp

open Serial Ledger

namespace Sp

variable {danum : Nat} {d : Fin danum} {sp sp' sp'' : Sp danum}
  {ckp ckp' ckp'' : BundleCookie} {fits fits' : Prop} {dlen dups : Nat}

def Bundle.Fits (b : Bundle danum) (ready : Sp danum → Bool)
    (fits : Sp danum → BundleCookie → Prop) : Prop :=
  b.ckp.mrem ≠ 0 ∧ ready b.sp → fits b.sp b.ckp

def extent (sp : Sp danum) (ckp : BundleCookie) : Nat := ckp.swnd + sp.inFlight

structure Draws (sp : Sp danum) (ckp : BundleCookie) (sp' : Sp danum)
    (ckp' : BundleCookie) (fits : Prop) : Prop where
  bound : ckp'.swnd < 2 ^ 64
  sends : sp.inFlight ≤ sp'.inFlight
  grows : extent sp ckp ≤ extent sp' ckp'
  exact : extent sp' ckp' = extent sp ckp ↔ fits

namespace Draws

theorem still (bound : ckp.swnd < 2 ^ 64) (swnd : ckp'.swnd = ckp.swnd)
    (inFlight : sp'.inFlight = sp.inFlight) (holds : fits) :
    Draws sp ckp sp' ckp' fits where
  bound := swnd ▸ bound
  sends := inFlight.ge
  grows := by rw [extent, extent, swnd, inFlight]
  exact := by simp only [extent, swnd, inFlight, holds]

theorem trans (first : Draws sp ckp sp' ckp' fits)
    (second : Draws sp' ckp' sp'' ckp'' fits') :
    Draws sp ckp sp'' ckp'' (fits ∧ fits') where
  bound := second.bound
  sends := first.sends.trans second.sends
  grows := first.grows.trans second.grows
  exact := by
    rw [← first.exact, ← second.exact]
    have := first.grows
    have := second.grows
    omega

theorem requeue (draws : Draws sp ckp sp' ckp' fits)
    (inFlight : sp''.inFlight = sp'.inFlight) :
    Draws sp ckp sp'' ckp' fits where
  bound := draws.bound
  sends := inFlight ▸ draws.sends
  grows := by simpa only [extent, inFlight] using draws.grows
  exact := by simpa only [extent, inFlight] using draws.exact

theorem congr (draws : Draws sp ckp sp' ckp' fits) (same : fits ↔ fits') :
    Draws sp ckp sp' ckp' fits' :=
  ⟨draws.bound, draws.sends, draws.grows, draws.exact.trans same⟩

theorem attach (bound : ckp.swnd < 2 ^ 64)
    (inFlight : sp'.inFlight = sp.inFlight + dlen) :
    Draws sp ckp sp' (ckp.attachData dlen) (dlen ≤ ckp.swnd) := by
  have swnd : (ckp.attachData dlen).swnd =
      (ckp.swnd + 2 ^ 64 - dlen % 2 ^ 64) % 2 ^ 64 := rfl
  refine ⟨?_, ?_, ?_, ?_⟩
  · rw [swnd]
    omega
  · omega
  · rw [extent, extent, swnd, inFlight]
    omega
  · rw [extent, extent, swnd, inFlight]
    omega

end Draws

def Still (sp : Sp danum) (ckp : BundleCookie) (sp' : Sp danum)
    (ckp' : BundleCookie) : Prop :=
  ckp'.swnd = ckp.swnd ∧ sp'.inFlight = sp.inFlight

theorem Still.trans (first : Still sp ckp sp' ckp')
    (second : Still sp' ckp' sp'' ckp'') : Still sp ckp sp'' ckp'' :=
  ⟨second.1.trans first.1, second.2.trans first.2⟩

theorem Still.refl (sp : Sp danum) (ckp : BundleCookie) :
    Still sp ckp sp ckp := ⟨rfl, rfl⟩

end Sp

end OpenSS7.Sctp
