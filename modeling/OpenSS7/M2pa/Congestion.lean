import OpenSS7.Mtp2.Congestion
import OpenSS7.M2pa.Moves

/-!
Transmit congestion of an M2PA link, and of both kinds of link: the status
follows the occupancy except where the occupancy creeps.
-/

namespace OpenSS7.M2pa

open Program
open Mtp2 (Historyless Creeps ladder ladder_snoc historyless_iff)

structure Load where
  env : Env
  tb : List Msg
  rtb : List Sent

def Load.occupancy (l : Load) : Nat :=
  qCount l.tb + qCount (l.rtb.map Sent.msg)

namespace Sl

def status (s : Sl) : Nat × Nat := (s.congStatus, s.discStatus)

def load (s : Sl) (l : Load) : Sl :=
  { s with env := l.env, tb := l.tb, rtb := l.rtb }

/-- `sl_check_congestion` at each of the loads. -/
def checks (s : Sl) (loads : List Load) : Sl :=
  loads.foldl (fun s l => slCheckCongestion.after (s.load l)) s

end Sl

/-- The status is as given, and the settings of the ladder as in `s`. -/
structure Settled (status : Nat × Nat) (s s' : Sl) : Prop where
  status : s'.status = status
  config : s'.config = s.config
  mplev : s'.mplev = s.mplev

section Checks

variable (status : Nat × Nat) (s : Sl)

theorem ind_settled (i : Ind) : Keeps (Settled status s) (ind i) :=
  keeps_bind keeps_get fun _ =>
    keeps_bind (keeps_modify fun _ h => ⟨h.status, h.config, h.mplev⟩)
      fun _ => keeps_ite
        (keeps_modify fun _ h => ⟨h.status, h.config, h.mplev⟩)
        (keeps_throw _)

theorem slCongestionNotice_settled (onset : Bool) (cong disc : Nat) :
    Keeps (Settled status s) (slCongestionNotice onset cong disc) := by
  refine keeps_bind keeps_get fun _ => keeps_ite ?_ ?_
  · exact keeps_when (keeps_bind
      (keeps_modify fun _ h => ⟨h.status, h.config, h.mplev⟩) fun _ =>
        keeps_when (ind_settled status s _))
  · exact keeps_when (keeps_bind
      (keeps_modify fun _ h => ⟨h.status, h.config, h.mplev⟩) fun _ =>
        keeps_when (ind_settled status s _))

theorem slCheckCongestion_settled :
    Settled (Mtp2.congestion s.config s.mplev
        (qCount s.tb + qCount (s.rtb.map Sent.msg)) s.congStatus s.discStatus)
      s (slCheckCongestion.after s) := by
  have checked : Triple (fun s' => s' = s) slCheckCongestion
      (fun _ => Settled (Mtp2.congestion s.config s.mplev
        (qCount s.tb + qCount (s.rtb.map Sent.msg)) s.congStatus s.discStatus)
        s)
      (Settled (Mtp2.congestion s.config s.mplev
        (qCount s.tb + qCount (s.rtb.map Sent.msg)) s.congStatus s.discStatus)
        s) := by
    refine triple_get_bind fun s' same => ?_
    subst same
    refine triple_bind (triple_modify fun _ same => ?_) fun _ =>
      keeps_when (keeps_ite (ignoring_keeps (ind_settled _ _ _))
        (keeps_bind (slCongestionNotice_settled _ _ _ _ _) fun _ =>
          ignoring_keeps (ind_settled _ _ _)))
    subst same
    exact ⟨rfl, rfl, rfl⟩
  exact triple_after checked rfl

theorem status_checks (loads : List Load) (free : s.status = (0, 0)) :
    (s.checks loads).status =
        ladder s.config s.mplev Load.occupancy loads ∧
      (s.checks loads).config = s.config ∧
      (s.checks loads).mplev = s.mplev := by
  induction loads using List.reverseRecOn with
  | nil => exact ⟨free, rfl, rfl⟩
  | append_singleton before last ih =>
      obtain ⟨status, config, mplev⟩ := ih
      have settled := slCheckCongestion_settled ((s.checks before).load last)
      have row : s.checks (before ++ [last]) =
          slCheckCongestion.after ((s.checks before).load last) := by
        unfold Sl.checks
        rw [List.foldl_append]
        rfl
      rw [row]
      refine ⟨?_, settled.config.trans config, settled.mplev.trans mplev⟩
      rw [settled.status, ladder_snoc, ← status]
      show Mtp2.congestion (s.checks before).config (s.checks before).mplev
        last.occupancy _ _ = _
      rw [config, mplev]
      rfl

end Checks

section Links

def NeverCreeps {Load : Type} (c : Mtp2.Config) (multi : Bool)
    (occupancy : Load → Nat) (status : List Load → Nat × Nat)
    (loads : List Load) : Prop :=
  ∀ before last, before ++ [last] <+: loads →
    ¬ Creeps c multi (status before) (occupancy last)

/-- On either kind of link, from no congestion, the status follows the
occupancy along a row of checks just where no check creeps. -/
theorem congestion_follows_iff (c : Mtp2.Config) (ordered : c.Thresholds)
    (multi : Bool) :
    (∀ (s : Mtp2.Sl) (loads : List Mtp2.Load), s.config = c →
        s.option.mplev = multi → s.status = (0, 0) →
        (Historyless c multi Mtp2.Load.occupancy
            (fun loads => (s.checks loads).status) loads ↔
          NeverCreeps c multi Mtp2.Load.occupancy
            (fun loads => (s.checks loads).status) loads)) ∧
      ∀ (s : Sl) (loads : List Load), s.config = c → s.mplev = multi →
        s.status = (0, 0) →
        (Historyless c multi Load.occupancy
            (fun loads => (s.checks loads).status) loads ↔
          NeverCreeps c multi Load.occupancy
            (fun loads => (s.checks loads).status) loads) := by
  constructor
  · intro s loads config mplev free
    have rows : (fun loads => (s.checks loads).status) =
        ladder c multi Mtp2.Load.occupancy := by
      funext loads
      rw [(Mtp2.status_checks loads s free).1, config, mplev]
    rw [rows]
    exact historyless_iff ordered loads
  · intro s loads config mplev free
    have rows : (fun loads => (s.checks loads).status) =
        ladder c multi Load.occupancy := by
      funext loads
      rw [(status_checks s loads free).1, config, mplev]
    rw [rows]
    exact historyless_iff ordered loads

def defaultLink : Mtp2.Sl :=
  .allocated ⟨SS7_PVAR_ITUT_93, false, false, false⟩ slDefault (.taking 0)

def waiting (octets : Nat) : Mtp2.Load :=
  { env := { Mtp2.Env.taking 0 with iqCount := octets }, tb := [], rtb := [] }

theorem thresholds_default : slDefault.Thresholds where
  abate := fun i =>
    match i with
    | 1 => (by decide : slDefault.tbAbate1 ≤ slDefault.tbOnset1)
    | 2 => (by decide : slDefault.tbAbate2 ≤ slDefault.tbOnset2)
    | 0 | _ + 3 => (by decide : slDefault.tbAbate3 ≤ slDefault.tbOnset3)
  onset := fun i =>
    match i with
    | 1 => (by decide : slDefault.tbOnset1 ≤ slDefault.tbDiscd1)
    | 2 => (by decide : slDefault.tbOnset2 ≤ slDefault.tbDiscd2)
    | 0 | _ + 3 => (by decide : slDefault.tbOnset3 ≤ slDefault.tbDiscd3)
  discd := fun i either => by
    rcases either with rfl | rfl <;> decide

theorem congestion_follows_default :
    Historyless slDefault false Mtp2.Load.occupancy
        (fun loads => (defaultLink.checks loads).status) [waiting 104448] ↔
      NeverCreeps slDefault false Mtp2.Load.occupancy
        (fun loads => (defaultLink.checks loads).status) [waiting 104448] :=
  (congestion_follows_iff slDefault thresholds_default false).1 defaultLink
    [waiting 104448] rfl rfl rfl

theorem congestion_creeps :
    (defaultLink.checks [waiting 69632, waiting 104448]).status = (1, 0) ∧
      (defaultLink.checks [waiting 104448]).status = (1, 1) ∧
      ¬ Historyless slDefault false Mtp2.Load.occupancy
        (fun loads => (defaultLink.checks loads).status)
        [waiting 69632, waiting 104448] := by
  have crept : (defaultLink.checks [waiting 69632, waiting 104448]).status =
      (1, 0) := rfl
  have direct : (defaultLink.checks [waiting 104448]).status = (1, 1) := rfl
  refine ⟨crept, direct, fun follows => ?_⟩
  have kept := (follows [waiting 69632] (waiting 104448)
    (List.prefix_refl _)).direct (by decide)
  rw [show (defaultLink.checks ([waiting 69632] ++ [waiting 104448])).status =
    (1, 0) from crept, direct] at kept
  cases kept

end Links

end OpenSS7.M2pa
