import Mathlib.Data.List.Forall2
import OpenSS7.Mtp2.Header
import OpenSS7.Sdt.Reception

/-!
Signal units of the basic format on a line between two SDT modules.
-/

namespace OpenSS7.Mtp2

/-- The octets that a unit has on the line. -/
def unitOctets (sent : Header × SignalUnit) : List UInt8 :=
  sent.2.octets false sent.1

def SignalUnit.payload : SignalUnit → List UInt8
  | .fisu => []
  | .lssu status => [status.code.toUInt8]
  | .msu sdu => sdu

/-- The header, the kind and the payload that `sl_rc_signal_unit` reads. -/
def SignalUnit.ReadFrom (sent : Header × SignalUnit) (octets : List UInt8) :
    Prop :=
  let d := slRcDecode false octets
  d.header = sent.1 ∧ sent.2.Classified octets d ∧
    octets.drop d.rptr = sent.2.payload

theorem readFrom_octets {m : Nat} {sent : Header × SignalUnit}
    (range : sent.1.InRange false) (legal : sent.2.Legal m) :
    SignalUnit.ReadFrom sent (unitOctets sent) := by
  obtain ⟨-, header, kind, rptr⟩ := headerAgrees_basic range legal
  refine ⟨header, kind, ?_⟩
  rw [unitOctets, rptr]
  cases sent.2 <;> rfl

/-- Units sent between idle flags in whatever turns are read on the other side
once each and in order. -/
theorem signal_units_cross (m : Nat) (f : Sdt.Flags)
    (turns : List (Option (Header × SignalUnit)))
    (sound : ∀ sent ∈ turns.filterMap id,
      sent.1.InRange false ∧ sent.2.Legal m) :
    List.Forall₂ SignalUnit.ReadFrom (turns.filterMap id)
      ((Sdt.octetsOf ((turns.map (Option.map unitOctets) ++
          [none, none]).flatMap (Sdt.sdtTxTurn f))).foldl
            (Sdt.sdtRxOctet false m) .fresh).received := by
  have sent : (turns.map (Option.map unitOctets)).filterMap id =
      (turns.filterMap id).map unitOctets := by
    rw [List.filterMap_map, List.map_filterMap]
    rfl
  rw [Sdt.received_sent, sent, List.filter_eq_self.mpr]
  · rw [List.forall₂_map_right_iff, List.forall₂_same]
    exact fun sent member =>
      readFrom_octets (sound sent member).1 (sound sent member).2
  · intro octets member
    obtain ⟨unit, there, rfl⟩ := List.mem_map.mp member
    exact (headerAgrees_basic (sound unit there).1 (sound unit there).2).1

theorem signal_units_cross_alignment :
    List.Forall₂ SignalUnit.ReadFrom [(⟨0x7f, 0x80, 0x7f, 0x80⟩, .lssu .sio)]
      ((Sdt.octetsOf (([some (unitOctets (⟨0x7f, 0x80, 0x7f, 0x80⟩,
          .lssu .sio))] ++ [none, none]).flatMap (Sdt.sdtTxTurn .one))).foldl
            (Sdt.sdtRxOctet false 272) .fresh).received :=
  signal_units_cross 272 .one [some (⟨0x7f, 0x80, 0x7f, 0x80⟩, .lssu .sio)]
    (by simp [Header.InRange, SignalUnit.Legal])

end OpenSS7.Mtp2
