import Mathlib.Data.List.GetD
import OpenSS7.Sctp.Sender

/-!
The chunks of a received packet and the loop that hands them on, and a packet
whose SACK is behind what has been acknowledged.
-/

namespace OpenSS7.Sctp

/-- The octets of a packet behind the SCTP header, from `b_rptr` to
`b_wptr`. -/
abbrev Octets := List UInt8

def ntohs (mp : Octets) (i : Nat) : BitVec 16 :=
  (mp.getD i 0).toBitVec ++ (mp.getD (i + 1) 0).toBitVec

def ntohl (mp : Octets) (i : Nat) : BitVec 32 := ntohs mp i ++ ntohs mp (i + 2)

/-! ### `struct sctpchdr` -/

def chType (mp : Octets) : UInt8 := mp.getD 0 0

def chLen (mp : Octets) : Nat := (ntohs mp 2).toNat

/-- There is a chunk at `b_rptr` and it ends in the packet. -/
def chFits (mp : Octets) : Bool :=
  4 ≤ mp.length && 4 ≤ chLen mp && padc (chLen mp) ≤ mp.length

def emsgsize : Int := 90
def eproto : Int := 71

def sctpReturnMore (mp : Octets) : Octets × Int :=
  let mp := mp.drop (padc (chLen mp))
  (mp, if chFits mp then chLen mp else if mp ≠ [] then -emsgsize else 0)

/-- The loop of `sctp_recv_data` over the chunks, from one on. -/
def dataChunks : Nat → Octets → List Chunk
  | 0, _ => []
  | _ + 1, [] => []
  | fuel + 1, mp =>
      let clen := chLen mp
      if mp.length < 4 ∨ clen < 4 ∨ mp.length < padc clen then [.badSize]
      else if chType mp ≠ 0 then [.otherType]
      else if clen < 16 then [.badSize]
      else
        .data {
          tsn := ntohl mp 4
          sid := ⟨ntohs mp 8⟩
          ssn := ⟨ntohs mp 10⟩
          first := (mp.getD 1 0).toNat.testBit 1
          last := (mp.getD 1 0).toNat.testBit 0
          urg := (mp.getD 1 0).toNat.testBit 2
          dlen := clen - 16 } :: dataChunks fuel (mp.drop (padc clen))

/-- `struct sctp_sack` -/
def sackAt (mp : Octets) : Sack where
  len := ntohs mp 2
  cTsn := ntohl mp 4
  aRwnd := ntohl mp 8
  ngaps := ntohs mp 12
  ndups := ntohs mp 14
  gaps := (List.range (ntohs mp 12).toNat).map fun n =>
    (ntohs mp (16 + 4 * n), ntohs mp (18 + 4 * n))
  dups := (List.range (ntohs mp 14).toNat).map fun n =>
    ntohl mp (16 + 4 * ((ntohs mp 12).toNat + n))
  ecne := none

structure Assoc (danum : Nat) (ω : Type) where
  sp : Sp danum
  others : ω

/-- What a handler leaves: the association, the packet from `b_rptr` on, and
what it returned. -/
structure Outcome (danum : Nat) (ω : Type) where
  assoc : Assoc danum ω
  mp : Octets
  err : Int

structure Handlers (danum : Nat) (ω : Type) where
  known : Assoc danum ω → Bool
  chunk : UInt8 → Assoc danum ω → Octets → Outcome danum ω
  data : Assoc danum ω → Octets → State × ω × Octets × Int
  sack : Assoc danum ω → Sack → State × ω
  /-- `sctp_recv_msg_error` -/
  error : Assoc danum ω → Int → Assoc danum ω

section Receiving

variable {danum : Nat} {ω : Type} (h : Handlers danum ω)

def recvData (a : Assoc danum ω) (mp : Octets) : Outcome danum ω :=
  let (state, others, mp', err) := h.data a mp
  let rx := a.sp.rx.sctpRecvData (dataChunks mp.length mp)
  ⟨⟨{ a.sp with rx := rx, state := state }, others⟩, mp', err⟩

def sackDone (a : Assoc danum ω) (mp : Octets) : Outcome danum ω :=
  let (mp, ret) := sctpReturnMore mp
  if 0 < ret ∧ chType mp ≠ 0 ∧ chType mp ≠ 9 ∧ chType mp ≠ 6 then
    ⟨a, mp, -eproto⟩
  else ⟨a, mp, ret⟩

def recvSack (a : Assoc danum ω) (mp : Octets) : Outcome danum ω :=
  let m := sackAt mp
  if !a.sp.state.sending then sackDone a mp
  else if m.len.toNat < sackLen m.ngaps.toNat m.ndups.toNat then
    ⟨a, mp, -emsgsize⟩
  else if Serial.before m.cTsn a.sp.tAck then ⟨a, mp, 0⟩
  else
    let (state, others) := h.sack a m
    sackDone ⟨{ a.sp.sctpRecvSack m with state := state }, others⟩ mp

def recvChunk (a : Assoc danum ω) (mp : Octets) : Outcome danum ω :=
  if chType mp = 0 then recvData h a mp
  else if chType mp = 3 then recvSack h a mp
  else h.chunk (chType mp) a mp

/-- The loop goes on: `err` is compared as an unsigned number, so that a
negative one is no end of it. -/
def Outcome.goesOn (r : Outcome danum ω) : Bool :=
  (r.err < 0 || 4 ≤ r.err) && 4 ≤ r.mp.length

/-- The loop over the chunks; what does not fit is left to `short`. -/
def chunkLoop (short : Assoc danum ω → Octets → Option (Assoc danum ω)) :
    Nat → Assoc danum ω → Octets → Option (Assoc danum ω)
  | 0, _, _ => none
  | fuel + 1, a, mp =>
      if !chFits mp then short a mp
      else
        let r := recvChunk h a mp
        if r.goesOn then chunkLoop short fuel r.assoc r.mp
        else if r.err < 0 then some (h.error r.assoc r.err)
        else some r.assoc

def recvMsgSlow (fuel : Nat) (a : Assoc danum ω) (mp : Octets) :
    Option (Assoc danum ω) :=
  if a.sp.state ≠ .listen ∧ h.known a = false ∧ chType mp ≠ 1 ∧
      chType mp ≠ 2 ∧ chType mp ≠ 10 then some a
  else chunkLoop h (fun a _ => some (h.error a (-emsgsize))) fuel a mp

def recvMsg (fuel : Nat) (a : Assoc danum ω) (mp : Octets) :
    Option (Assoc danum ω) :=
  if a.sp.state ≠ .listen ∧ h.known a = false then recvMsgSlow h fuel a mp
  else chunkLoop h (recvMsgSlow h fuel) fuel a mp

/-- The packet is received and leaves the association at `a'`; a packet without
chunks is none. -/
def Receives (a : Assoc danum ω) (mp : Octets) (a' : Assoc danum ω) : Prop :=
  if mp = [] then a' = a else ∃ fuel, recvMsg h fuel a mp = some a'

end Receiving

section Fuel

variable {danum : Nat} {ω : Type} {h : Handlers danum ω}
  {a a' a'' : Assoc danum ω} {mp : Octets} {fuel fuel' : Nat}

theorem chunkLoop_mono
    {short short' : Assoc danum ω → Octets → Option (Assoc danum ω)}
    (shorter : ∀ a mp a', short a mp = some a' → short' a mp = some a')
    (le : fuel ≤ fuel') (ends : chunkLoop h short fuel a mp = some a') :
    chunkLoop h short' fuel' a mp = some a' := by
  induction fuel generalizing fuel' a mp with
  | zero => cases ends
  | succ fuel ih =>
      obtain ⟨fuel', rfl⟩ : ∃ n, fuel' = n + 1 := ⟨fuel' - 1, by omega⟩
      unfold chunkLoop at ends ⊢
      by_cases fits : chFits mp = true
      · simp only [fits, Bool.not_true, Bool.false_eq_true, if_false] at ends ⊢
        split at ends
        · next more =>
            rw [if_pos more]
            exact ih (by omega) ends
        · next done =>
            rw [if_neg done]
            exact ends
      · simp only [fits, Bool.not_false, if_true] at ends ⊢
        exact shorter a mp a' ends

theorem recvMsgSlow_mono (le : fuel ≤ fuel')
    (ends : recvMsgSlow h fuel a mp = some a') :
    recvMsgSlow h fuel' a mp = some a' := by
  unfold recvMsgSlow at ends ⊢
  split at ends
  · next blue =>
      rw [if_pos blue]
      exact ends
  · next heard =>
      rw [if_neg heard]
      exact chunkLoop_mono (fun _ _ _ same => same) le ends

theorem recvMsg_mono (le : fuel ≤ fuel')
    (ends : recvMsg h fuel a mp = some a') :
    recvMsg h fuel' a mp = some a' := by
  unfold recvMsg at ends ⊢
  split at ends
  · next unknown =>
      rw [if_pos unknown]
      exact recvMsgSlow_mono le ends
  · next known =>
      rw [if_neg known]
      exact chunkLoop_mono (fun _ _ _ slow => recvMsgSlow_mono le slow) le ends

theorem Receives.unique (one : Receives h a mp a')
    (two : Receives h a mp a'') : a' = a'' := by
  unfold Receives at one two
  split at one
  · next none =>
      rw [if_pos none] at two
      rw [one, two]
  · next some =>
      rw [if_neg some] at two
      obtain ⟨fuel, first⟩ := one
      obtain ⟨fuel', second⟩ := two
      have left := recvMsg_mono (Nat.le_max_left fuel fuel') first
      have right := recvMsg_mono (Nat.le_max_right fuel fuel') second
      exact Option.some.inj (left.symm.trans right)

end Fuel

/-! ### A SACK that is behind -/

/-- A SACK chunk whose cumulative TSN is behind `t_ack`. -/
structure BehindSack {danum : Nat} {ω : Type} (a : Assoc danum ω)
    (sack : Octets) : Prop where
  type : chType sack = 3
  whole : sack.length = padc (chLen sack)
  sized : sackLen (ntohs sack 12).toNat (ntohs sack 14).toNat ≤ chLen sack
  behind : Serial.before (ntohl sack 4) a.sp.tAck = true

def SackInert {danum : Nat} {ω : Type} (h : Handlers danum ω)
    (a : Assoc danum ω) (sack rest : Octets) : Prop :=
  ∀ a', Receives h a (sack ++ rest) a' ↔ Receives h a rest a'

section Behind

variable {danum : Nat} {ω : Type} {h : Handlers danum ω}
  {a : Assoc danum ω} {sack rest : Octets} {i : Nat}

theorem ntohs_append (inside : i + 2 ≤ sack.length) :
    ntohs (sack ++ rest) i = ntohs sack i := by
  unfold ntohs
  rw [List.getD_append _ _ _ _ (by omega), List.getD_append _ _ _ _ (by omega)]

theorem ntohl_append (inside : i + 4 ≤ sack.length) :
    ntohl (sack ++ rest) i = ntohl sack i := by
  unfold ntohl
  rw [ntohs_append (by omega), ntohs_append (by omega)]

theorem BehindSack.long (behind : BehindSack a sack) : 16 ≤ sack.length := by
  have sized := behind.sized
  have padded := le_padc (chLen sack)
  rw [behind.whole]
  unfold sackLen at sized
  omega

theorem BehindSack.recvSack (behind : BehindSack a sack)
    (sending : a.sp.state.sending = true) :
    recvSack h a (sack ++ rest) = ⟨a, sack ++ rest, 0⟩ := by
  have long := behind.long
  have sized : ¬ (sackAt (sack ++ rest)).len.toNat <
      sackLen (sackAt (sack ++ rest)).ngaps.toNat
        (sackAt (sack ++ rest)).ndups.toNat := by
    simp only [sackAt]
    rw [ntohs_append (by omega), ntohs_append (by omega),
      ntohs_append (by omega)]
    exact not_lt.2 behind.sized
  have before : Serial.before (sackAt (sack ++ rest)).cTsn a.sp.tAck =
      true := by
    simp only [sackAt]
    rw [ntohl_append (by omega)]
    exact behind.behind
  unfold OpenSS7.Sctp.recvSack
  simp only [sending, Bool.not_true, Bool.false_eq_true, if_false, sized,
    before, if_true]

theorem BehindSack.receives (behind : BehindSack a sack)
    (sending : a.sp.state.sending = true) (a' : Assoc danum ω) :
    Receives h a (sack ++ rest) a' ↔ a' = a := by
  have long := behind.long
  have some : sack ++ rest ≠ [] := by
    intro none
    rw [(List.append_eq_nil_iff.1 none).1] at long
    exact absurd long (by decide)
  have type : chType (sack ++ rest) = 3 := by
    unfold chType
    rw [List.getD_append _ _ _ _ (by omega)]
    exact behind.type
  have fits : chFits (sack ++ rest) = true := by
    have len : chLen (sack ++ rest) = chLen sack := by
      unfold chLen
      rw [ntohs_append (by omega)]
    have sized := behind.sized
    have whole := behind.whole
    unfold sackLen at sized
    simp only [chFits, len, List.length_append, Bool.and_eq_true,
      decide_eq_true_eq]
    omega
  have ends (fuel : Nat) : recvMsg h (fuel + 1) a (sack ++ rest) =
      Option.some a := by
    unfold recvMsg
    split
    · next unknown =>
        rw [recvMsgSlow, type, if_pos]
        exact ⟨unknown.1, unknown.2, by decide, by decide, by decide⟩
    · unfold chunkLoop
      simp only [fits, recvChunk, type, behind.recvSack sending, Outcome.goesOn]
      rfl
  unfold Receives
  rw [if_neg some]
  constructor
  · rintro ⟨fuel, left⟩
    have right := recvMsg_mono (Nat.le_succ fuel) left
    rw [ends fuel] at right
    exact (Option.some.inj right).symm
  · rintro rfl
    exact ⟨1, ends 0⟩

theorem sackInert_iff (h : Handlers danum ω) (rest : Octets)
    (sending : a.sp.state.sending = true) (behind : BehindSack a sack) :
    SackInert h a sack rest ↔ Receives h a rest a := by
  constructor
  · intro inert
    exact (inert a).1 ((behind.receives sending a).2 rfl)
  · intro still a'
    rw [behind.receives sending a']
    exact ⟨fun same => same ▸ still, fun left => left.unique still⟩

end Behind

def someAssoc : Assoc 1 Unit where
  sp := Sp.initial 101 .established
    (fun _ => ⟨0, 0, 0, false, 3000, 65536, 0, 1500, 1452, 3⟩) 65536 65536
    (Rx.initial 41 1 65536)
  others := ()

def someHandlers : Handlers 1 Unit where
  known := fun _ => true
  chunk := fun _ a _ => ⟨a, [], 0⟩
  data := fun a _ => (a.sp.state, (), [], 0)
  sack := fun a _ => (a.sp.state, ())
  error := fun a _ => a

def lateSack : Octets := [3, 0, 0, 16, 0, 0, 0, 99, 0, 1, 0, 0, 0, 0, 0, 0]

def nextData : Octets :=
  [0, 3, 0, 17, 0, 0, 0, 42, 0, 0, 0, 0, 0, 0, 0, 0, 7, 0, 0, 0]

theorem lateSack_behind : BehindSack someAssoc lateSack := by
  refine ⟨?_, ?_, ?_, ?_⟩ <;> decide +kernel

theorem sackInert_iff_alone :
    SackInert someHandlers someAssoc lateSack [] ↔
      Receives someHandlers someAssoc [] someAssoc :=
  sackInert_iff someHandlers [] (by decide) lateSack_behind

theorem nextData_lost :
    ¬ SackInert someHandlers someAssoc lateSack nextData := by
  intro inert
  have still : Receives someHandlers someAssoc nextData someAssoc :=
    (inert someAssoc).1 ((lateSack_behind.receives (by decide) _).2 rfl)
  have taken : Receives someHandlers someAssoc nextData
      (recvData someHandlers someAssoc nextData).assoc :=
    ⟨1, rfl⟩
  have same := congrArg (fun a => a.sp.rx.rAck) (still.unique taken)
  exact absurd same (by decide +kernel)

end OpenSS7.Sctp
