import OpenSS7.Sctp.BundleWindow

/-!
How long the packets of `sctp_bundle_more` are against what the leading
control block says of them, by which `sctp_send_msg` decides.
-/

namespace OpenSS7.Sctp

open Serial Ledger

/-! ### What is sent -/

variable {base : Tsn} {rx : Rx}

theorem trimSack_le (ngaps ndups dmps mrem : Nat) :
    (trimSack ngaps ndups dmps mrem).ngaps ≤ ngaps ∧
      (trimSack ngaps ndups dmps mrem).ndups ≤ ndups := by
  unfold trimSack
  simp only
  split
  · split
    · exact ⟨Nat.sub_le .., Nat.sub_le ..⟩
    · exact ⟨le_rfl, Nat.sub_le ..⟩
  · exact ⟨le_rfl, le_rfl⟩

theorem Rx.Tracks.octets (tracks : Tracks base rx) (ecne : Option Tsn)
    (dmps mrem : Nat) :
    (rx.sack ecne (trimSack rx.ngaps rx.ndups dmps mrem)).octets =
      sackLen (trimSack rx.ngaps rx.ndups dmps mrem).ngaps
        (trimSack rx.ngaps rx.ndups dmps mrem).ndups + ecneLen ecne := by
  have near : rx.count + HALF - rx.count ≤ HALF := by omega
  have count := tracks.runs.length_runs near
  obtain ⟨gaps, dups⟩ := trimSack_le rx.ngaps rx.ndups dmps mrem
  generalize trimSack rx.ngaps rx.ndups dmps mrem = trimmed at gaps dups ⊢
  have blocks : (gapBlocks rx.rAck trimmed.ngaps rx.gaps).length =
      trimmed.ngaps := by
    rw [tracks.runs.gapBlocks_eq near, List.length_map, List.length_take,
      count]
    omega
  have reported : ((rx.dups.take trimmed.ndups).map Cb.tsn).length =
      trimmed.ndups := by
    rw [List.length_map, List.length_take, ← tracks.ndups]
    omega
  simp only [Sack.octets, Rx.sack, blocks, reported]

def BundleCookie.surplus (ckp : BundleCookie) : Int :=
  ckp.mlen - total padc ckp.chain

namespace BundleCookie

variable {ckp ckp' : BundleCookie} {plen octets dlen : Nat}

@[simp] theorem total_attach :
    total padc (ckp.attach plen octets).chain =
      total padc ckp.chain + padc octets := by
  simp [attach]

theorem surplus_attach :
    (ckp.attach plen octets).surplus = ckp.surplus + plen - padc octets := by
  simp only [surplus, total_attach]
  simp only [attach]
  omega

theorem attachData_mlen :
    (ckp.attachData dlen).mlen = ckp.mlen + padc (dataLen dlen) := rfl

theorem attachData_chain :
    (ckp.attachData dlen).chain = ckp.chain ++ [dataLen dlen] := rfl

def Written (ckp ckp' : BundleCookie) : Prop :=
  total padc ckp.chain ≤ total padc ckp'.chain ∧ ckp'.surplus = ckp.surplus

namespace Written

theorem refl (ckp : BundleCookie) : Written ckp ckp := ⟨le_rfl, rfl⟩

theorem trans {ckp'' : BundleCookie} (first : Written ckp ckp')
    (second : Written ckp' ckp'') : Written ckp ckp'' :=
  ⟨first.1.trans second.1, second.2.trans first.2⟩

theorem attach : Written ckp (ckp.attach (padc octets) octets) := by
  refine ⟨?_, ?_⟩
  · rw [total_attach]
    omega
  · rw [surplus_attach]
    omega

theorem attachData : Written ckp (ckp.attachData dlen) := by
  simp only [Written, surplus, attachData_mlen, attachData_chain,
    total_append, total_cons, total_nil]
  omega

end Written

end BundleCookie

open BundleCookie

namespace Sp

variable {danum : Nat} {d : Fin danum} {sp sp' : Sp danum}
  {ckp : BundleCookie} {g : Grants} {b : Bundle danum} {dups : Nat}

/-! ### Data and control chunks -/

structure Unsacked (sp sp' : Sp danum) : Prop where
  state : sp'.state = sp.state
  daddr : sp'.daddr = sp.daddr
  errq : sp'.errq = sp.errq
  sndq : sp'.sndq = sp.sndq
  cwr : sp'.sackf &&& sackfCwr = sp.sackf &&& sackfCwr

theorem Unsacked.refl (sp : Sp danum) : Unsacked sp sp :=
  ⟨rfl, rfl, rfl, rfl, rfl⟩

structure Consistent (sp : Sp danum) : Prop where
  received : ∃ rAck nIstr aRwnd events,
    sp.rx = (Rx.initial rAck nIstr aRwnd).run events
  errors : ∀ clen ∈ sp.errq, 0 < clen

/-- What `sctp_bundle_more` makes of a packet with a chunk of `clen` octets in
its leading block, or with the header alone. -/
def packet (sp : Sp danum) (d : Fin danum) (clen nonagle : Nat)
    (g : Grants) : Packet danum :=
  sp.sctpBundleMore d (headerLen + padc clen) nonagle g

end Sp

end OpenSS7.Sctp
