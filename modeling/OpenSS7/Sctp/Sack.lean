import OpenSS7.Sctp.Tracking

/-!
The SACK chunk that reports the state of the receiver: how `sctp_bundle_sack`
builds it, what a peer reads out of it, and when that is what was received.
-/

namespace OpenSS7.Sctp

open Serial

variable {base : Tsn} {rx : Rx} {cb head : Cb} {low high i j : Int}
  {k n : Nat} {body l : List Cb}

structure BundleCookie where
  mrem : Nat
  mlen : Nat
  swnd : Nat
  chain : List Nat
deriving DecidableEq

inductive Bundled (α : Type) where
  | outstate
  | wait
  | attached (chunk : α) (ckp : BundleCookie)
deriving DecidableEq

def padc (len : Nat) : Nat := (len + 3) / 4 * 4

def BundleCookie.attach (ckp : BundleCookie) (plen octets : Nat) :
    BundleCookie :=
  { ckp with
    mrem := ckp.mrem - plen
    mlen := ckp.mlen + plen
    chain := ckp.chain ++ [octets] }

structure Sack where
  len : BitVec 16
  cTsn : Tsn
  aRwnd : BitVec 32
  ngaps : BitVec 16
  ndups : BitVec 16
  gaps : List (BitVec 16 × BitVec 16)
  dups : List Tsn
  ecne : Option Tsn
deriving DecidableEq

/-- `sizeof(struct sctp_sack)` with the blocks and duplicates. -/
def sackLen (ngaps ndups : Nat) : Nat := 16 + 4 * ngaps + 4 * ndups

def ecneLen : Option Tsn → Nat
  | none => 0
  | some _ => 8

def Sack.octets (m : Sack) : Nat :=
  sackLen m.gaps.length m.dups.length + ecneLen m.ecne

structure Trimmed where
  ngaps : Nat
  ndups : Nat
  clen : Nat

/-- The chunk is trimmed to the room in the packet where it is longer than any
packet. The room is at most `dmps`, so that the differences are exact. -/
def trimSack (ngaps ndups dmps mrem : Nat) : Trimmed :=
  let clen := sackLen ngaps ndups
  if dmps < clen then
    let tooManyDups := (clen - mrem + 3) / 4
    let ndups := ndups - tooManyDups
    let clen := sackLen ngaps ndups
    if mrem < clen then
      let tooManyGaps := (clen - mrem + 3) / 4
      let ngaps := ngaps - tooManyGaps
      ⟨ngaps, ndups, sackLen ngaps 0⟩
    else ⟨ngaps, ndups, clen⟩
  else ⟨ngaps, ndups, clen⟩

def gapBlocks (rAck : Tsn) : Nat → List Cb → List (BitVec 16 × BitVec 16)
  | 0, _ => []
  | _ + 1, [] => []
  | n + 1, head :: rest =>
      ((head.tsn - rAck).setWidth 16, (head.tail - rAck).setWidth 16) ::
        gapBlocks rAck n (afterTail head.tail (head :: rest))

namespace Rx

def queued (rx : Rx) : Nat :=
  rx.oooqCount + size rx.dups + size rx.rcvq + size rx.expq

def sack (rx : Rx) (ecne : Option Tsn) (trimmed : Trimmed) : Sack where
  len := BitVec.ofNat 16 trimmed.clen
  cTsn := rx.rAck
  aRwnd := BitVec.ofNat 32 (rx.aRwnd - rx.queued)
  ngaps := BitVec.ofNat 16 trimmed.ngaps
  ndups := BitVec.ofNat 16 trimmed.ndups
  gaps := gapBlocks rx.rAck trimmed.ngaps rx.gaps
  dups := (rx.dups.take trimmed.ndups).map Cb.tsn
  ecne := ecne

/-- `sctp_bundle_sack`; `ecne` is the TSN of a pending ECNE. -/
def sctpBundleSack (rx : Rx) (ecne : Option Tsn) (dmps : Nat)
    (ckp : BundleCookie) : Bundled Sack :=
  let plen := padc (sackLen rx.ngaps rx.ndups) + padc (ecneLen ecne)
  if !rx.receiving then .outstate
  else
    let trimmed := trimSack rx.ngaps rx.ndups dmps ckp.mrem
    if ckp.mrem < plen ∧ plen ≤ dmps then .wait
    else
      .attached (rx.sack ecne trimmed)
        (ckp.attach plen (rx.sack ecne trimmed).octets)

end Rx

/-- The TSNs that `sctp_recv_sack` makes of a block. -/
def Sack.decode (m : Sack) (block : BitVec 16 × BitVec 16) : Tsn × Tsn :=
  (m.cTsn + block.1.setWidth 32, m.cTsn + block.2.setWidth 32)

def Covers (block : Tsn × Tsn) (tsn : Tsn) : Prop :=
  before block.2 block.1 = false ∧ before tsn block.1 = false ∧
    after tsn block.2 = false

instance (block : Tsn × Tsn) (tsn : Tsn) : Decidable (Covers block tsn) := by
  unfold Covers
  infer_instance

structure Truthful (rx : Rx) (ckp : BundleCookie) (m : Sack)
    (ckp' : BundleCookie) : Prop where
  length : ckp'.mlen = ckp.mlen + m.len.toNat + ecneLen m.ecne
  cumulative : ∀ i, 0 < i → i ≤ rx.place m.cTsn → i ∈ rx.heard
  received : ∀ block ∈ m.gaps, ∀ tsn, Covers (m.decode block) tsn →
    rx.place tsn ∈ rx.heard
  counted : m.gaps.length = m.ngaps.toNat
  first : m.gaps.map m.decode =
    (runs (rx.gaps.map Cb.tsn)).take m.gaps.length

/-- Whatever `sctp_bundle_sack` attaches is truthful. -/
def SackTruthful (rx : Rx) (ecne : Option Tsn) (dmps : Nat)
    (ckp : BundleCookie) : Prop :=
  ∀ m ckp', rx.sctpBundleSack ecne dmps ckp = .attached m ckp' →
    Truthful rx ckp m ckp'

/-! ### The runs of the gap list -/

theorem Steps.runs_append {r : List Tsn} (steps : Steps base i (cb :: body))
    (apart : ∀ p ∈ (runs r).head?,
      p.1 ≠ number base (i + body.length + 1)) :
    runs ((cb :: body).map Cb.tsn ++ r) =
      (number base i, number base (i + body.length)) :: runs r := by
  induction body generalizing i cb with
  | nil =>
      rw [List.map_singleton, List.singleton_append, steps.1, runs_apart]
      · simp
      · intro p first
        rw [← number_succ]
        simpa using apart p first
  | cons next body ih =>
      have length : i + 1 + (body.length : Int) =
          i + (next :: body).length := by
        simp only [List.length_cons]
        push_cast
        omega
      have later := ih steps.2 (by rwa [length])
      rw [length, number_succ] at later
      rw [List.map_cons, List.cons_append, steps.1]
      exact runs_joined later

def Spans (base : Tsn) (low high : Int) (l : List Cb) (p : Tsn × Tsn) : Prop :=
  ∃ i j, p = (number base i, number base j) ∧ low < i ∧ i ≤ j ∧ j ≤ high ∧
    ∀ m, i ≤ m → m ≤ j → ∃ cb ∈ l, cb.tsn = number base m

namespace Runs

theorem runs_eq (above : low < i) (below : i + body.length ≤ high)
    (near : high - low ≤ HALF) (steps : Steps base i (head :: body))
    (spans : ∀ p ∈ runs (l.map Cb.tsn),
      Spans base (i + body.length + 1) high l p) :
    runs ((head :: (body ++ l)).map Cb.tsn) =
      (number base i, number base (i + body.length)) ::
        runs (l.map Cb.tsn) := by
  rw [← List.cons_append, List.map_append]
  apply steps.runs_append
  intro p first
  obtain ⟨i', j', rfl, above', order, below', -⟩ :=
    spans p (List.mem_of_mem_head? first)
  simp only [HALF] at near
  rw [Ne, number_inj base (by omega) (by omega)]
  omega

theorem spans (found : Runs base low high l k) (near : high - low ≤ HALF) :
    ∀ p ∈ runs (l.map Cb.tsn), Spans base low high l p := by
  induction found with
  | nil => simp [Serial.runs]
  | @run low high i k head body rest above below steps last found ih =>
      have later := ih (by omega)
      intro p member
      rw [runs_eq above below near steps later] at member
      rcases List.mem_cons.1 member with rfl | member
      · refine ⟨i, i + body.length, rfl, above, by omega, below, ?_⟩
        intro m first final
        obtain ⟨cb, member, here⟩ := steps.get (show (m - i).toNat <
          (head :: body).length by simp only [List.length_cons]; omega)
        refine ⟨cb, List.mem_append_left rest member, ?_⟩
        rw [here]
        congr 1
        omega
      · obtain ⟨i', j', rfl, above', order, below', held⟩ := later p member
        refine ⟨i', j', rfl, by omega, order, below', ?_⟩
        intro m first final
        obtain ⟨cb, member, here⟩ := held m first final
        exact ⟨cb, by simp [member], here⟩

theorem spanned (found : Runs base low high l k) (near : high - low ≤ HALF)
    (member : cb ∈ l) :
    ∃ i m j, cb.tsn = number base m ∧ low < m ∧ i ≤ m ∧ m ≤ j ∧ j ≤ high ∧
      (number base i, number base j) ∈ runs (l.map Cb.tsn) := by
  induction found with
  | nil => cases member
  | @run low high i k head body rest above below steps last found ih =>
      rw [runs_eq above below near steps (found.spans (by omega))]
      rcases List.mem_append.1 (List.cons_append ▸ member) with here | later
      · obtain ⟨m, bound, place⟩ := steps.mem here
        simp only [List.length_cons] at bound
        exact ⟨i, i + m, i + body.length, place, by omega, by omega, by omega,
          below, List.mem_cons_self⟩
      · obtain ⟨i', m, j', place, above', first, final, below', listed⟩ :=
          ih (by omega) later
        exact ⟨i', m, j', place, by omega, first, final, below',
          List.mem_cons_of_mem _ listed⟩

theorem length_runs (found : Runs base low high l k)
    (near : high - low ≤ HALF) : (runs (l.map Cb.tsn)).length = k := by
  induction found with
  | nil => rfl
  | @run low high i k head body rest above below steps last found ih =>
      rw [runs_eq above below near steps (found.spans (by omega)),
        List.length_cons, ih (by omega)]

theorem gapBlocks_eq {rAck : Tsn} (found : Runs base low high l k)
    (near : high - low ≤ HALF) :
    gapBlocks rAck n l = ((runs (l.map Cb.tsn)).take n).map fun p =>
      ((p.1 - rAck).setWidth 16, (p.2 - rAck).setWidth 16) := by
  induction found generalizing n with
  | nil => cases n <;> simp [gapBlocks, Serial.runs]
  | @run low high i k head body rest above below steps last found ih =>
      cases n with
      | zero => simp [gapBlocks]
      | succ n =>
          have ends := run_ends steps last (by
            simp only [HALF] at near
            omega)
          rw [runs_eq above below near steps (found.spans (by omega)),
            gapBlocks, ← List.cons_append, ends.afterTail, ih (by omega),
            steps.1, last]
          rfl

end Runs

/-! ### What the chunk says -/

theorem le_padc (len : Nat) : len ≤ padc len := by
  unfold padc
  omega

theorem padc_sackLen (ngaps ndups : Nat) :
    padc (sackLen ngaps ndups) = sackLen ngaps ndups := by
  unfold padc sackLen
  omega

theorem padc_ecneLen (ecne : Option Tsn) :
    padc (ecneLen ecne) = ecneLen ecne := by
  cases ecne <;> simp [padc, ecneLen]

theorem trimSack_whole {ngaps ndups dmps mrem : Nat}
    (fits : sackLen ngaps ndups ≤ dmps ∨ ngaps = 0 ∧ ndups = 0) :
    trimSack ngaps ndups dmps mrem =
      ⟨ngaps, ndups, sackLen ngaps ndups⟩ := by
  unfold trimSack
  rcases fits with fits | ⟨rfl, rfl⟩
  · rw [if_neg (by omega)]
  · simp

theorem trimSack_clen_lt {ngaps ndups dmps mrem : Nat} (room : mrem ≤ dmps)
    (long : dmps < sackLen ngaps ndups) (some : 0 < ngaps + ndups) :
    (trimSack ngaps ndups dmps mrem).clen < sackLen ngaps ndups := by
  unfold trimSack
  simp only [if_pos long]
  split <;> simp only [sackLen] at * <;> omega

theorem offset_exact (rAck tsn : Tsn) :
    rAck + ((tsn - rAck).setWidth 16).setWidth 32 = tsn ↔
      (tsn - rAck).toNat < 2 ^ 16 := by
  have split : rAck + ((tsn - rAck).setWidth 16).setWidth 32 = tsn ↔
      ((tsn - rAck).setWidth 16).setWidth 32 = tsn - rAck := by
    constructor
    · intro same
      rw [eq_sub_iff_add_eq, add_comm]
      exact same
    · intro same
      rw [same, add_sub_cancel]
  rw [split, ← BitVec.toNat_inj]
  simp only [BitVec.toNat_setWidth]
  have := (tsn - rAck).isLt
  omega

def SackFits (rx : Rx) (dmps : Nat) : Prop :=
  (sackLen rx.ngaps rx.ndups ≤ dmps ∨ rx.ngaps = 0 ∧ rx.ndups = 0) ∧
    sackLen rx.ngaps rx.ndups < 2 ^ 16 ∧
    ∀ cb ∈ rx.gaps, (cb.tsn - rx.rAck).toNat < 2 ^ 16

def SackWaits (rx : Rx) (ecne : Option Tsn) (dmps : Nat)
    (ckp : BundleCookie) : Prop :=
  ckp.mrem < sackLen rx.ngaps rx.ndups + ecneLen ecne ∧
    sackLen rx.ngaps rx.ndups + ecneLen ecne ≤ dmps

instance (rx : Rx) (ecne : Option Tsn) (dmps : Nat) (ckp : BundleCookie) :
    Decidable (SackWaits rx ecne dmps ckp) :=
  inferInstanceAs (Decidable (_ ∧ _))

namespace Rx.Tracks

variable (tracks : Tracks base rx)

include tracks

theorem offset (above : rx.count < i) (below : i ≤ rx.count + HALF) :
    ((number base i - rx.rAck).toNat : Int) = i - rx.count := by
  rw [tracks.ack]
  simp only [HALF] at below
  exact toNat_number_sub base (by omega) (by omega)

theorem offsets_iff :
    (∀ p ∈ Serial.runs (rx.gaps.map Cb.tsn),
      (p.1 - rx.rAck).toNat < 2 ^ 16 ∧ (p.2 - rx.rAck).toNat < 2 ^ 16) ↔
      ∀ cb ∈ rx.gaps, (cb.tsn - rx.rAck).toNat < 2 ^ 16 := by
  constructor
  · intro short cb member
    obtain ⟨i, m, j, here, above, first, final, below, listed⟩ :=
      tracks.runs.spanned (by omega) member
    have last := (short _ listed).2
    have offsetM := tracks.offset above (by omega)
    have offsetJ := tracks.offset (show rx.count < j by omega) below
    simp only at last
    rw [here]
    omega
  · intro short p member
    obtain ⟨i, j, rfl, above, order, below, held⟩ :=
      tracks.runs.spans (by omega) p member
    obtain ⟨first, memberI, hereI⟩ := held i le_rfl order
    obtain ⟨last, memberJ, hereJ⟩ := held j order le_rfl
    exact ⟨hereI ▸ short first memberI, hereJ ▸ short last memberJ⟩

theorem covered {p : Tsn × Tsn} {tsn : Tsn}
    (member : p ∈ Serial.runs (rx.gaps.map Cb.tsn)) (covers : Covers p tsn) :
    rx.place tsn ∈ rx.heard := by
  obtain ⟨i, j, rfl, above, order, below, held⟩ :=
    tracks.runs.spans (by omega) p member
  simp only [HALF] at below
  obtain ⟨m, first, final, rfl⟩ :=
    within base order (by omega) covers.2.1 covers.2.2
  obtain ⟨cb, gap, here⟩ := held m first final
  have place := place_number tracks.ack (show rx.count < m by omega)
    (by simp only [HALF]; omega)
  refine (tracks.held _ (by omega)).2 ?_
  exact List.mem_map.2 ⟨cb, gap, by rw [here]⟩

end Rx.Tracks

theorem sctpBundleSack_eq (rx : Rx) (ecne : Option Tsn) (dmps : Nat)
    (ckp : BundleCookie) :
    rx.sctpBundleSack ecne dmps ckp =
      if rx.receiving = false then .outstate
      else if SackWaits rx ecne dmps ckp then .wait
      else .attached
        (rx.sack ecne (trimSack rx.ngaps rx.ndups dmps ckp.mrem))
        (ckp.attach (sackLen rx.ngaps rx.ndups + ecneLen ecne)
          (rx.sack ecne
            (trimSack rx.ngaps rx.ndups dmps ckp.mrem)).octets) := by
  unfold Rx.sctpBundleSack SackWaits
  rw [padc_sackLen, padc_ecneLen]
  cases rx.receiving <;> rfl

section Truthful

variable {ecne : Option Tsn} {dmps octets : Nat} {ckp : BundleCookie}

theorem length_iff (ecne : Option Tsn) (room : ckp.mrem ≤ dmps) :
    (ckp.attach (sackLen rx.ngaps rx.ndups + ecneLen ecne) octets).mlen =
      ckp.mlen + (rx.sack ecne
        (trimSack rx.ngaps rx.ndups dmps ckp.mrem)).len.toNat +
        ecneLen ecne ↔
      (sackLen rx.ngaps rx.ndups ≤ dmps ∨ rx.ngaps = 0 ∧ rx.ndups = 0) ∧
        sackLen rx.ngaps rx.ndups < 2 ^ 16 := by
  simp only [BundleCookie.attach, Rx.sack, BitVec.toNat_ofNat]
  by_cases fits :
      sackLen rx.ngaps rx.ndups ≤ dmps ∨ rx.ngaps = 0 ∧ rx.ndups = 0
  · rw [trimSack_whole fits]
    simp only [fits, true_and]
    omega
  · have shorter := trimSack_clen_lt room (show dmps < sackLen rx.ngaps
      rx.ndups by omega) (by omega)
    simp only [fits, false_and, iff_false]
    omega

theorem Sack.decode_exact (m : Sack) (p : Tsn × Tsn) :
    m.decode ((p.1 - m.cTsn).setWidth 16, (p.2 - m.cTsn).setWidth 16) = p ↔
      (p.1 - m.cTsn).toNat < 2 ^ 16 ∧ (p.2 - m.cTsn).toNat < 2 ^ 16 := by
  rw [← offset_exact, ← offset_exact]
  simp only [Sack.decode, Prod.ext_iff]

theorem Rx.Tracks.truthful_iff (tracks : Tracks base rx)
    (room : ckp.mrem ≤ dmps) :
    Truthful rx ckp (rx.sack ecne
      (trimSack rx.ngaps rx.ndups dmps ckp.mrem))
      (ckp.attach (sackLen rx.ngaps rx.ndups + ecneLen ecne) octets) ↔
      SackFits rx dmps := by
  have near : rx.count + HALF - rx.count ≤ HALF := by omega
  have count := tracks.runs.length_runs near
  have blocks : gapBlocks rx.rAck rx.ngaps rx.gaps = _ :=
    tracks.runs.gapBlocks_eq near
  rw [← count, List.take_length, count] at blocks
  constructor
  · rintro ⟨length, -, -, -, first⟩
    obtain ⟨fits, short⟩ := (length_iff ecne room).1 length
    refine ⟨fits, short, tracks.offsets_iff.1 fun p member => ?_⟩
    rw [trimSack_whole fits] at first
    simp only [Rx.sack, blocks, List.length_map, List.take_length,
      List.map_map] at first
    have same := List.map_eq_map_iff.1 (first.trans (List.map_id _).symm)
    exact (Sack.decode_exact _ p).1 (same p member)
  · rintro ⟨fits, short, offsets⟩
    have offsets := tracks.offsets_iff.2 offsets
    have length : (ckp.attach _ octets).mlen = _ :=
      (length_iff ecne room).2 ⟨fits, short⟩
    rw [trimSack_whole fits] at length ⊢
    generalize sack :
      rx.sack ecne ⟨rx.ngaps, rx.ndups, sackLen rx.ngaps rx.ndups⟩ = m
    have ack : m.cTsn = rx.rAck := sack ▸ rfl
    have gaps : m.gaps = gapBlocks rx.rAck rx.ngaps rx.gaps := sack ▸ rfl
    have decoded : ∀ p ∈ Serial.runs (rx.gaps.map Cb.tsn),
        m.decode ((p.1 - rx.rAck).setWidth 16,
          (p.2 - rx.rAck).setWidth 16) = p := by
      intro p listed
      rw [← ack, Sack.decode_exact, ack]
      exact offsets p listed
    refine ⟨sack ▸ length, ?_, ?_, ?_, ?_⟩
    · intro i positive bound
      apply tracks.behind i positive
      simpa [ack, Rx.place, ahead] using bound
    · intro block member tsn covers
      rw [gaps, blocks] at member
      obtain ⟨p, listed, rfl⟩ := List.mem_map.1 member
      rw [decoded p listed] at covers
      exact tracks.covered listed covers
    · have ngaps : m.ngaps = BitVec.ofNat 16 rx.ngaps := sack ▸ rfl
      rw [gaps, blocks, List.length_map, count, ngaps, BitVec.toNat_ofNat]
      simp only [sackLen] at short
      omega
    · rw [gaps, blocks, List.length_map, List.take_length, List.map_map]
      exact (List.map_congr_left decoded).trans (List.map_id _)

end Truthful

theorem sack_truthful_iff (rAck : Tsn) (nIstr : UInt16) (aRwnd : Nat)
    (events : List Rx.Event) (ecne : Option Tsn) (dmps : Nat)
    (ckp : BundleCookie) (room : ckp.mrem ≤ dmps) :
    SackTruthful ((Rx.initial rAck nIstr aRwnd).run events) ecne dmps ckp ↔
      ((Rx.initial rAck nIstr aRwnd).run events).receiving = false ∨
      SackWaits ((Rx.initial rAck nIstr aRwnd).run events) ecne dmps ckp ∨
      SackFits ((Rx.initial rAck nIstr aRwnd).run events) dmps := by
  have tracks := ((Rx.Good.initial rAck nIstr aRwnd).run events).tracks
  generalize (Rx.initial rAck nIstr aRwnd).run events = rx at tracks ⊢
  unfold SackTruthful
  rw [sctpBundleSack_eq]
  by_cases closed : rx.receiving = false
  · simp [closed]
  by_cases waits : SackWaits rx ecne dmps ckp
  · simp [closed, waits]
  rw [if_neg closed, if_neg waits, or_iff_right closed, or_iff_right waits,
    ← tracks.truthful_iff room]
  constructor
  · intro truthful
    exact truthful _ _ rfl
  · rintro truthful m ckp' ⟨⟩
    exact truthful

theorem sack_truthful_iff_far :
    SackTruthful ((Rx.initial 0 1 65536).run
        [.packet [.data ⟨65541, 0, 0, true, true, false, 1⟩]])
        none 1452 ⟨1452, 12, 0, []⟩ ↔
      ((Rx.initial 0 1 65536).run
        [.packet [.data ⟨65541, 0, 0, true, true, false, 1⟩]]).receiving =
          false ∨
      SackWaits ((Rx.initial 0 1 65536).run
        [.packet [.data ⟨65541, 0, 0, true, true, false, 1⟩]])
        none 1452 ⟨1452, 12, 0, []⟩ ∨
      SackFits ((Rx.initial 0 1 65536).run
        [.packet [.data ⟨65541, 0, 0, true, true, false, 1⟩]]) 1452 :=
  sack_truthful_iff 0 1 65536 _ none 1452 _ (by decide)

theorem sack_false_gap :
    ¬ SackTruthful ((Rx.initial 0 1 65536).run
      [.packet [.data ⟨65541, 0, 0, true, true, false, 1⟩]])
      none 1452 ⟨1452, 12, 0, []⟩ := by
  intro truthful
  have heard := (truthful _ _ rfl).received (5, 5) (by decide) 5 (by decide)
  revert heard
  decide

end OpenSS7.Sctp
