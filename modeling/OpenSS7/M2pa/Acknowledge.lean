import OpenSS7.M2pa.Reception

/-!
The arithmetic of acknowledgements: where `sl_rc_sn_check` accepts the backward
sequence numbers of the window and counts the messages they acknowledge.
-/

namespace OpenSS7.M2pa

open Program

section Exact

def slExactBsnCheck (bsn : Nat) : SlM Unit := do
  let s ← get
  if s.version.forward s.bsnr bsn ≤ s.version.forward s.bsnr s.fsnt then
    when (s.bsnr ≠ bsn) do
      let count := s.version.forward s.bsnr bsn
      modify fun s =>
        { s with missteps := s.missteps ++
            if count = s.version.forward s.bsnr bsn ∧
                count ≤ s.version.forward s.bsnr s.fsnt ∧
                (s.state.releases ∨ count = 0) then []
            else [.miscounted] }
      slTxcDatack bsn count
      modify fun s => { s with bsnr := bsn }
    modify fun s => { s with bbsn := 0 }
  else
    slBadBsn

/-- `sl_rc_sn_check` with the backward sequence number checked exactly. -/
def slExactSnCheck (octets : List UInt8) : SlM (List UInt8) := do
  let s ← get
  let v := s.version
  if v.bare then
    pure octets
  else if v.hlen ≤ octets.length then
    let left := octets.drop v.hlen
    slFsnCheck (v.fsnOf octets) (decide (4 < left.length))
    slExactBsnCheck (v.bsnOf octets)
    pure left
  else
    throw .EMSGSIZE

structure Version.Exact (v : Version) (bsnr fsnt bsn : Nat) : Prop where
  accepts : v.between bsn bsnr fsnt = true ↔
    v.forward bsnr bsn ≤ v.forward bsnr fsnt
  counts : v.between bsn bsnr fsnt = true →
    v.diff bsnr bsn = v.forward bsnr bsn

end Exact

section Arithmetic

variable {bsnr fsnt bsn : Nat}

theorem between24_iff : between24 bsn bsnr fsnt = true ↔
    SlidingWindow.ahead (2 ^ 24) bsnr bsn ≤
      SlidingWindow.ahead (2 ^ 24) bsnr fsnt :=
  decide_eq_true_iff

theorem diff24_of_near (near : SlidingWindow.ahead (2 ^ 24) bsnr bsn < 2 ^ 23) :
    diff24 bsnr bsn = SlidingWindow.ahead (2 ^ 24) bsnr bsn := by
  unfold SlidingWindow.ahead at near
  unfold diff24 SlidingWindow.ahead
  split <;> omega

theorem between16_iff (received : bsn < 2 ^ 16) :
    between16 bsn bsnr fsnt = true ↔ bsn ≤ fsnt % 2 ^ 16 := by
  unfold between16
  rw [decide_eq_true_iff, Nat.mod_eq_of_lt received]
  omega

theorem diff16_of_near (near : SlidingWindow.ahead (2 ^ 16) bsnr bsn < 2 ^ 15) :
    diff16 bsnr bsn = SlidingWindow.ahead (2 ^ 16) bsnr bsn := by
  unfold SlidingWindow.ahead at near
  unfold diff16 int16 SlidingWindow.ahead
  simp only [Int.bmod_def]
  split_ifs <;> omega

theorem exact16_iff (received : bsn < 2 ^ 16) :
    (bsn ≤ fsnt % 2 ^ 16 ↔ SlidingWindow.ahead (2 ^ 16) bsnr bsn ≤
        SlidingWindow.ahead (2 ^ 16) bsnr fsnt) ↔
      (bsnr % 2 ^ 16 ≤ fsnt % 2 ^ 16 ↔ bsnr % 2 ^ 16 ≤ bsn) := by
  unfold SlidingWindow.ahead
  omega

end Arithmetic

section Checks

variable {v : Version} {bsnr fsnt bsn : Nat}

theorem forward_short (short : v.short = true) (a b : Nat) :
    v.forward a b = SlidingWindow.ahead (2 ^ 16) a b := by
  rw [Version.forward, Version.space, if_pos short]

theorem forward_long (short : v.short = false) (a b : Nat) :
    v.forward a b = SlidingWindow.ahead (2 ^ 24) a b := by
  rw [Version.forward, Version.space, if_neg (by rw [short]; decide)]

theorem exact_iff (received : bsn < v.space)
    (near : 2 * v.forward bsnr fsnt < v.space) :
    v.Exact bsnr fsnt bsn ↔ (v.short = true →
      (bsnr % 2 ^ 16 ≤ fsnt % 2 ^ 16 ↔ bsnr % 2 ^ 16 ≤ bsn)) := by
  cases short : v.short with
  | false =>
      refine ⟨fun _ => nofun, fun _ => ⟨?_, ?_⟩⟩
      · rw [Version.between, if_neg (by rw [short]; decide),
          forward_long short, forward_long short]
        exact between24_iff
      · rw [Version.between, if_neg (by rw [short]; decide), between24_iff,
          Version.diff, if_neg (by rw [short]; decide), forward_long short]
        intro inside
        rw [Version.space, if_neg (by rw [short]; decide),
          forward_long short] at near
        exact diff24_of_near (by omega)
  | true =>
      rw [Version.space, if_pos short] at received near
      rw [forward_short short] at near
      have accepts : (v.between bsn bsnr fsnt = true ↔
          v.forward bsnr bsn ≤ v.forward bsnr fsnt) ↔
          (bsnr % 2 ^ 16 ≤ fsnt % 2 ^ 16 ↔ bsnr % 2 ^ 16 ≤ bsn) := by
        rw [Version.between, if_pos short, between16_iff received,
          forward_short short, forward_short short]
        exact exact16_iff received
      constructor
      · exact fun exact _ => accepts.mp exact.accepts
      · intro aside
        have accepted := accepts.mpr (aside rfl)
        refine ⟨accepted, fun inside => ?_⟩
        have within := accepted.mp inside
        rw [forward_short short, forward_short short] at within
        rw [Version.diff, if_pos short, forward_short short]
        exact diff16_of_near (by omega)

theorem bsnOf_lt (octets : List UInt8) : v.bsnOf octets < v.space := by
  unfold Version.bsnOf Version.space
  split
  · have high := (octets.getD 0 0).toNat_lt
    have low := (octets.getD 1 0).toNat_lt
    unfold ntohs
    omega
  · exact Nat.mod_lt _ (by decide)

theorem slBsnCheck_exact {s : Sl} (exact : s.version.Exact s.bsnr s.fsnt bsn) :
    (slBsnCheck bsn).exec s = (slExactBsnCheck bsn).exec s := by
  unfold slBsnCheck slExactBsnCheck
  rw [exec_bind, exec_bind]
  show ((if s.version.between bsn s.bsnr s.fsnt then _ else _ :
    SlM Unit)).exec s = ((if _ then _ else _ : SlM Unit)).exec s
  by_cases inside : s.version.between bsn s.bsnr s.fsnt = true
  · rw [if_pos inside, if_pos (exact.accepts.mp inside), exact.counts inside]
  · rw [if_neg inside, if_neg fun within => inside (exact.accepts.mpr within)]

theorem slFsnCheck_still (s : Sl) (fsn : Nat) (msu : Bool) :
    Triple (fun t => t = s) (slFsnCheck fsn msu)
      (fun _ t => t.version = s.version ∧ t.bsnr = s.bsnr ∧ t.fsnt = s.fsnt)
      (fun _ => True) := by
  refine triple_get_bind fun t same => ?_
  subst same
  refine triple_ite (fun _ => triple_ite (fun _ => triple_pure fun _ same => ?_)
    fun _ => triple_modify fun _ same => ?_) fun _ => triple_ite (fun _ =>
    triple_throw fun _ _ => trivial) fun _ => triple_ite (fun _ =>
    triple_fails SlError.EPROTO fun _ => trivial) fun _ =>
    triple_fails SlError.EPROTO fun _ => trivial
  · subst same
    exact ⟨rfl, rfl, rfl⟩
  · subst same
    exact ⟨rfl, rfl, rfl⟩

/-- On a link with sequence numbers and less than half of them outstanding,
the check is exact on a message just where the number does not have to be
compared round the end of the sixteen bits. -/
theorem sn_check_exact_iff (s : Sl) (octets : List UInt8)
    (near : 2 * s.version.forward s.bsnr s.fsnt < s.version.space) :
    (s.version.Exact s.bsnr s.fsnt (s.version.bsnOf octets) ↔
      (s.version.short = true → (s.bsnr % 2 ^ 16 ≤ s.fsnt % 2 ^ 16 ↔
        s.bsnr % 2 ^ 16 ≤ s.version.bsnOf octets))) ∧
    (s.version.Exact s.bsnr s.fsnt (s.version.bsnOf octets) →
      (slRcSnCheck octets).exec s = (slExactSnCheck octets).exec s) := by
  refine ⟨exact_iff (bsnOf_lt octets) near, fun exact => ?_⟩
  unfold slRcSnCheck slExactSnCheck
  rw [exec_bind, exec_bind]
  show ((if s.version.bare then _ else if _ then _ else _ :
      SlM (List UInt8))).exec s =
    ((if s.version.bare then _ else if _ then _ else _ :
      SlM (List UInt8))).exec s
  by_cases bare : s.version.bare = true
  · rw [if_pos bare, if_pos bare]
  · rw [if_neg bare, if_neg bare]
    by_cases long : s.version.hlen ≤ octets.length
    · rw [if_pos long, if_pos long, exec_bind, exec_bind]
      have still := slFsnCheck_still s (s.version.fsnOf octets)
        (decide (4 < (octets.drop s.version.hlen).length)) s rfl
      cases ran : (slFsnCheck (s.version.fsnOf octets)
          (decide (4 < (octets.drop s.version.hlen).length))).exec s with
      | mk result t =>
          rw [ran] at still
          cases result with
          | error _ => rfl
          | ok _ =>
              obtain ⟨version, bsnr, fsnt⟩ := still
              rw [← version, ← bsnr, ← fsnt] at exact
              show ((do
                  slBsnCheck (s.version.bsnOf octets)
                  pure (octets.drop s.version.hlen) :
                    SlM (List UInt8))).exec t =
                ((do
                  slExactBsnCheck (s.version.bsnOf octets)
                  pure (octets.drop s.version.hlen) :
                    SlM (List UInt8))).exec t
              rw [exec_bind, exec_bind, ← version, slBsnCheck_exact exact]
    · rw [if_neg long, if_neg long]

end Checks

section Wrap

/-- A link of draft 4 whose window runs from `bsnr` to `fsnt`. -/
def shortLink (bsnr fsnt : Nat) : Sl :=
  { Sl.allocated .draft4 0 true false slDefault (fun _ => false) with
    bsnr := bsnr, fsnt := fsnt }

theorem sn_check_exact_short :
    ((shortLink 3 9).version.Exact 3 9 5 ↔
        ((shortLink 3 9).version.short = true → (3 ≤ 9 ↔ 3 ≤ 5))) ∧
      ((shortLink 3 9).version.Exact 3 9 5 →
        (slRcSnCheck [0, 5, 0, 7]).exec (shortLink 3 9) =
          (slExactSnCheck [0, 5, 0, 7]).exec (shortLink 3 9)) :=
  sn_check_exact_iff (shortLink 3 9) [0, 5, 0, 7] (by decide)

theorem short_numbers_inexact :
    (¬ Version.draft4.Exact 0xfffe 0x10001 0xffff ∧
      Version.draft4.between 0xffff 0xfffe 0x10001 = false ∧
      Version.draft4.forward 0xfffe 0xffff = 1 ∧
      Version.draft4.forward 0xfffe 0x10001 = 3) ∧
    (¬ Version.draft4.Exact 10 20 5 ∧
      Version.draft4.between 5 10 20 = true ∧
      Version.draft4.forward 10 5 = 0xfffb ∧
      Version.draft4.diff 10 5 = 5) := by
  refine ⟨⟨fun exact => ?_, by decide, by decide, by decide⟩,
    ⟨fun exact => ?_, by decide, by decide, by decide⟩⟩
  · exact absurd (exact.accepts.mpr (by decide)) (by decide)
  · exact absurd (exact.accepts.mp (by decide)) (by decide)

end Wrap

end OpenSS7.M2pa
