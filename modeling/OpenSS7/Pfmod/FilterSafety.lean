import OpenSS7.Pfmod.Turns

/-!
Which accepted filters run safely: `pfmod_filter` always comes to an end, and
the turns that go wrong are told from the state before them.
-/

namespace OpenSS7.Pfmod

variable {f : List Word} {mp : List Block}

open Halting

section Runs

variable {loose : Bool} {st : Locals}

theorem step_standing (accepted : pfmodValidateFilter f = true)
    (standing : Standing f loose st) (clean : Clean f mp loose st) :
    (step f mp st).Sound (Standing f (loose || loosensAt f st)) := by
  unfold step
  cases pending : st.o with
  | some o =>
      simp only [Clean, pending] at clean
      simp only [loosensAt, pending, Bool.or_false]
      rw [sound_bind]
      exact (operate_operated standing pending clean).mono fun st' _ operated =>
        standing_of_operated standing pending operated
  | none =>
      simp only [Clean, pending] at clean
      simp only [loosensAt, pending]
      cases here : f[st.pi]? with
      | some o =>
          simp only [here] at clean ⊢
          rw [if_pos (List.getElem?_eq_some_iff.mp here).1, sound_bind,
            sound_fetch]
          refine ⟨o, here, ?_⟩
          rw [sound_bind]
          exact command_standing accepted standing pending here clean
      | none =>
          simp only [here] at clean ⊢
          rw [if_neg (Nat.not_lt_of_le (List.getElem?_eq_none_iff.mp here)),
            sound_bind]
          exact (readable_top standing clean).mono fun _ _ _ => trivial

theorem clean_of_step (accepted : pfmodValidateFilter f = true)
    (standing : Standing f loose st)
    (sound : (step f mp st).Sound fun _ => True) : Clean f mp loose st := by
  unfold step at sound
  unfold Clean
  cases pending : st.o with
  | some o =>
      simp only [pending, sound_bind, sound_ok] at sound
      exact clean_of_operate standing sound
  | none =>
      cases here : f[st.pi]? with
      | some o =>
          simp only [pending] at sound
          rw [if_pos (List.getElem?_eq_some_iff.mp here).1, sound_bind,
            sound_fetch] at sound
          obtain ⟨o', found, sound⟩ := sound
          cases here.symm.trans found
          simp only [sound_bind, sound_ok] at sound
          exact clean_of_command accepted standing here sound
      | none =>
          simp only [pending] at sound
          rw [if_neg (Nat.not_lt_of_le (List.getElem?_eq_none_iff.mp here)),
            sound_bind, st.sound_read] at sound
          intro bottom
          obtain ⟨-, v, held, -⟩ := sound
          rw [bottom] at held
          exact Option.isSome_iff_exists.mpr ⟨v, held⟩

theorem standing_start (accepted : pfmodValidateFilter f = true) :
    Standing f false .start where
  room := nofun
  top := by decide
  base := rfl
  held := fun i high within => by
    have top : i ≤ 1 := within
    omega
  reach := fun i written => by
    simp only [Locals.Written, Locals.start] at written
    split at written
    · rename_i same
      rw [same]
      decide
    · cases written
  tracked := fun _ => ⟨Nat.le_refl 1, validateFrom_of_accepted accepted⟩

theorem Reached.standing (accepted : pfmodValidateFilter f = true)
    (reached : Reached f mp loose st) : Standing f loose st := by
  induction reached with
  | start => exact standing_start accepted
  | step reached stepped standing =>
      have clean := clean_of_step accepted standing (by
        rw [stepped]
        trivial)
      have next := step_standing accepted standing clean
      rw [stepped] at next
      exact next

end Runs

end OpenSS7.Pfmod
