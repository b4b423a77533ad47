import OpenSS7.M2pa.Requests
import OpenSS7.M2pa.Reception
import OpenSS7.Lib.Retry
import OpenSS7.Lib.SlidingWindow

/-!
Retrieval of the messages after the last one the peer has accepted, made again
until it succeeds.
-/

namespace OpenSS7.M2pa

open Program SlidingWindow Retry

def Ind.retrieved : Ind → Option (List UInt8)
  | .retrievedMessage octets => some octets
  | _ => none

section Attempts

/-- The messages retrieved so far, and those that `rtb` and `tb` hold. -/
def Sl.told (s : Sl) : List (List UInt8) := s.inds.filterMap Ind.retrieved

def Sl.holding (s : Sl) : List (List UInt8) :=
  (s.rtb.map Sent.msg ++ s.tb).map List.flatten

def LinkState.permits : LinkState → Bool
  | .powerOff | .outOfService | .processorOutage => true
  | _ => false

/-- Nothing more is to be freed before `fsnc`. -/
def Sl.Settled (fsnc : Nat) (s : Sl) : Prop := s.rtb = [] ∨ s.fsnt = fsnc

/-- What has been told and what is still held make up `all`. -/
structure Retrieving (fsnc : Nat) (all : List (List UInt8)) (s : Sl) :
    Prop where
  permits : s.state.permits = true
  settled : s.Settled fsnc
  whole : s.told ++ s.holding = all

variable {fsnc : Nat} {all : List (List UInt8)}

theorem ind_retrieving (octets : List UInt8) (s : Sl)
    (retrieving : Retrieving fsnc all s) :
    Triple (fun t => t = s) (ind (.retrievedMessage octets))
      (fun _ t => t.state = s.state ∧ t.fsnt = s.fsnt ∧ t.rtb = s.rtb ∧
        t.tb = s.tb ∧ t.told = s.told ++ [octets])
      (Retrieving fsnc all) := by
  refine triple_get_bind fun t eq => ?_
  refine triple_bind (R := fun _ u => Retrieving fsnc all u ∧
    u.state = s.state ∧ u.fsnt = s.fsnt ∧ u.rtb = s.rtb ∧ u.tb = s.tb ∧
    u.told = s.told) (triple_modify ?_) fun _ => triple_ite (fun _ => ?_)
    fun _ => triple_throw fun _ h => h.1
  · rintro _ rfl
    rw [eq]
    exact ⟨{ retrieving with }, rfl, rfl, rfl, rfl, rfl⟩
  · refine triple_modify fun u ⟨_, state, fsnt, rtb, tb, told⟩ =>
      ⟨state, fsnt, rtb, tb, ?_⟩
    rw [← told]
    exact List.filterMap_append

theorem slRetrieveRtb_retrieves (n : Nat) (tb : List Msg) :
    Triple (fun s => Retrieving fsnc all s ∧ s.rtb.length ≤ n ∧ s.tb = tb)
      (slRetrieveRtb n)
      (fun _ s => Retrieving fsnc all s ∧ s.rtb = [] ∧ s.tb = tb)
      (Retrieving fsnc all) := by
  induction n with
  | zero =>
      exact triple_pure fun s ⟨retrieving, empty, same⟩ =>
        ⟨retrieving, List.eq_nil_of_length_eq_zero (Nat.le_zero.1 empty), same⟩
  | succ n ih =>
      refine triple_get_bind fun s ⟨retrieving, length, same⟩ => ?_
      cases held : s.rtb with
      | nil =>
          exact triple_pure fun t eq => eq ▸ ⟨retrieving, held, same⟩
      | cons m rest =>
          refine triple_bind (triple_conseq
            (ind_retrieving m.msg.flatten s retrieving)
            (fun _ eq => eq.symm) (fun _ _ h => h) fun _ h => h) fun _ => ?_
          refine triple_bind (triple_modify ?_) fun _ => ih
          intro t ⟨state, fsnt, rtb, tb, told⟩
          refine ⟨⟨state ▸ retrieving.permits, ?_, ?_⟩, ?_, tb.trans same⟩
          · rcases retrieving.settled with bare | reached
            · rw [held] at bare
              exact absurd bare (List.cons_ne_nil _ _)
            · exact .inr (fsnt.trans reached)
          · show t.told ++ (rest.map Sent.msg ++ t.tb).map List.flatten = all
            rw [← retrieving.whole, told, tb]
            unfold Sl.holding
            rw [held]
            simp
          · rw [held, List.length_cons] at length
            exact Nat.le_of_succ_le_succ length

theorem slRetrieveTb_retrieves (n : Nat) :
    Triple (fun s => Retrieving fsnc all s ∧ s.rtb = [] ∧ s.tb.length ≤ n)
      (slRetrieveTb n)
      (fun _ s => Retrieving fsnc all s ∧ s.rtb = [] ∧ s.tb = [])
      (Retrieving fsnc all) := by
  induction n with
  | zero =>
      exact triple_pure fun s ⟨retrieving, bare, empty⟩ =>
        ⟨retrieving, bare, List.eq_nil_of_length_eq_zero (Nat.le_zero.1 empty)⟩
  | succ n ih =>
      refine triple_get_bind fun s ⟨retrieving, bare, length⟩ => ?_
      cases held : s.tb with
      | nil =>
          exact triple_pure fun t eq => eq ▸ ⟨retrieving, bare, held⟩
      | cons m rest =>
          refine triple_bind (triple_conseq
            (ind_retrieving m.flatten s retrieving)
            (fun _ eq => eq.symm) (fun _ _ h => h) fun _ h => h) fun _ => ?_
          refine triple_bind (triple_modify ?_) fun _ => ih
          intro t ⟨state, fsnt, rtb, tb, told⟩
          have empty : t.rtb = [] := rtb.trans bare
          refine ⟨⟨state ▸ retrieving.permits, .inl empty, ?_⟩, empty, ?_⟩
          · show t.told ++ (t.rtb.map Sent.msg ++ rest).map List.flatten = all
            rw [← retrieving.whole, told, empty]
            unfold Sl.holding
            rw [held, bare]
            simp
          · rw [held, List.length_cons] at length
            exact Nat.le_of_succ_le_succ length

end Attempts

section Freeing

variable {fsnc : Nat}

theorem Sl.freeRetrieved_settled (n : Nat) (s : Sl) (held : s.rtb.length = n) :
    (s.freeRetrieved fsnc n).Settled fsnc := by
  induction n generalizing s with
  | zero => exact .inl (List.eq_nil_of_length_eq_zero held)
  | succ n ih =>
      unfold Sl.freeRetrieved
      split
      · apply ih
        show s.rtb.tail.length = n
        rw [List.length_tail, held, Nat.add_sub_cancel]
      · rename_i stops
        by_cases empty : s.rtb = []
        · exact .inl empty
        · exact .inr (by_contra fun other => stops ⟨empty, other⟩)

theorem Sl.freeRetrieved_of_settled {s : Sl} (settled : s.Settled fsnc)
    (n : Nat) : s.freeRetrieved fsnc n = s := by
  cases n with
  | zero => rfl
  | succ n =>
      unfold Sl.freeRetrieved
      rw [if_neg]
      rintro ⟨held, other⟩
      exact settled.elim held other

theorem Sl.freeRetrieved_keeps (fsnc n : Nat) (s : Sl) :
    (s.freeRetrieved fsnc n).state = s.state ∧
      (s.freeRetrieved fsnc n).tb = s.tb ∧
      (s.freeRetrieved fsnc n).inds = s.inds ∧
      (s.freeRetrieved fsnc n).rtb.length ≤ s.rtb.length := by
  induction n generalizing s with
  | zero => exact ⟨rfl, rfl, rfl, Nat.le_refl _⟩
  | succ n ih =>
      unfold Sl.freeRetrieved
      split
      · obtain ⟨state, tb, inds, fewer⟩ := ih _
        refine ⟨state, tb, inds, Nat.le_trans fewer ?_⟩
        rw [List.length_tail]
        exact Nat.sub_le _ _
      · exact ⟨rfl, rfl, rfl, Nat.le_refl _⟩

theorem Sl.freeRetrieved_rtb {k : Nat} (n : Nat) (s : Sl)
    (held : s.rtb.length = n) (b : Nat) (narrow : n < 2 ^ 24)
    (last : s.fsnt = (b + n) % 2 ^ 24) (within : k ≤ n)
    (target : fsnc = (b + k) % 2 ^ 24) :
    (s.freeRetrieved fsnc n).rtb = s.rtb.drop (n - k) := by
  induction n generalizing s with
  | zero => simp [Sl.freeRetrieved]
  | succ n ih =>
      by_cases all : k = n + 1
      · have settled : s.Settled fsnc := .inr (by rw [last, target, all])
        rw [Sl.freeRetrieved_of_settled settled, all, Nat.sub_self,
          List.drop_zero]
      · have present : s.rtb ≠ [] := by
          intro empty
          rw [empty] at held
          exact Nat.succ_ne_zero n held.symm
        have apart : s.fsnt ≠ fsnc := by
          rw [last, target]
          omega
        unfold Sl.freeRetrieved
        rw [if_pos ⟨present, apart⟩, ih _ _ (by omega) _ (by omega)]
        · show s.rtb.tail.drop (n - k) = _
          rw [List.drop_tail, Nat.succ_sub (by omega)]
        · show s.rtb.tail.length = n
          rw [List.length_tail, held, Nat.add_sub_cancel]
        · show (s.fsnt + 0xffffff) % 2 ^ 24 = _
          rw [last]
          omega

end Freeing

section Requests

def Sl.retrieval (fsnc : Nat) (env : Env) (s : Sl) : Except SlError Unit × Sl :=
  (slLscRetrievalRequestAndFsnc fsnc).exec (s.enter env)

/-- What is held once the messages up to `fsnc` are taken to be freed. -/
def Sl.owed (fsnc : Nat) (s : Sl) : List (List UInt8) :=
  (s.freeRetrieved fsnc s.rtb.length).holding

variable {fsnc : Nat} {all : List (List UInt8)}

theorem Sl.freeRetrieved_holding (n : Nat) (s t : Sl) (rtb : t.rtb = s.rtb)
    (tb : t.tb = s.tb) (fsnt : t.fsnt = s.fsnt) :
    (t.freeRetrieved fsnc n).holding = (s.freeRetrieved fsnc n).holding := by
  induction n generalizing s t with
  | zero =>
      show (t.rtb.map Sent.msg ++ t.tb).map List.flatten = _
      rw [rtb, tb]
      rfl
  | succ n ih =>
      unfold Sl.freeRetrieved
      rw [rtb, fsnt]
      split
      · exact ih _ _ rfl tb rfl
      · show (t.rtb.map Sent.msg ++ t.tb).map List.flatten = _
        rw [rtb, tb]
        rfl

theorem Sl.owed_congr (s t : Sl) (rtb : t.rtb = s.rtb) (tb : t.tb = s.tb)
    (fsnt : t.fsnt = s.fsnt) : t.owed fsnc = s.owed fsnc := by
  unfold Sl.owed
  rw [rtb]
  exact Sl.freeRetrieved_holding _ s t rtb tb fsnt

theorem Sl.owed_of_settled {s : Sl} (settled : s.Settled fsnc) :
    s.owed fsnc = s.holding := by
  unfold Sl.owed
  rw [Sl.freeRetrieved_of_settled settled]

theorem ind_told {i : Ind} (other : i.retrieved = none)
    (P : List Sent → List Msg → Prop) :
    Keeps (fun s => Retrieving fsnc all s ∧ P s.rtb s.tb) (ind i) := by
  refine keeps_bind keeps_get fun s => ?_
  refine keeps_bind (keeps_modify fun t h => ⟨{ h.1 with }, h.2⟩)
    fun _ => keeps_ite (keeps_modify fun t h => ⟨{ h.1 with whole := ?_ }, h.2⟩)
    (keeps_throw _)
  show (t.inds ++ [i]).filterMap Ind.retrieved ++ t.holding = all
  rw [List.filterMap_append, List.filterMap_cons_none other,
    List.filterMap_nil, List.append_nil]
  exact h.1.whole

def slRetrieve (fsnc rtb tb : Nat) : SlM Unit := do
  modify fun s =>
    { s with missteps := s.missteps ++
        if s.rtb = [] then [] else [.retrieved] }
  modify fun s => s.freeRetrieved fsnc s.rtb.length
  slRetrieveRtb rtb
  slRetrieveTb tb
  ind .retrievalComplete

theorem retrieval_exec {s : Sl} (permits : s.state.permits = true) :
    (slLscRetrievalRequestAndFsnc fsnc).exec s =
      (slRetrieve fsnc s.rtb.length s.tb.length).exec s := by
  show ((match s.state with
    | .powerOff | .outOfService | .processorOutage =>
        slRetrieve fsnc s.rtb.length s.tb.length
    | _ => do
        ind .retrievalNotPossible
        throw .EPROTO : SlM Unit)).exec s = _
  cases state : s.state <;> simp [state, LinkState.permits] at permits ⊢

theorem slRetrieve_retrieves (fsnc : Nat) {s : Sl} (permits : s.state.permits = true)
    (silent : s.told = []) :
    Triple (fun t => s = t) (slRetrieve fsnc s.rtb.length s.tb.length)
      (fun _ t => Retrieving fsnc (s.owed fsnc) t ∧ t.rtb = [] ∧ t.tb = [])
      (Retrieving fsnc (s.owed fsnc)) := by
  refine triple_bind (R := fun _ t => t.state = s.state ∧ t.inds = s.inds ∧
    t.rtb = s.rtb ∧ t.tb = s.tb ∧ t.fsnt = s.fsnt) (triple_modify ?_)
    fun _ => ?_
  · rintro _ rfl
    exact ⟨rfl, rfl, rfl, rfl, rfl⟩
  refine triple_bind (R := fun _ t => Retrieving fsnc (s.owed fsnc) t ∧
    t.rtb.length ≤ s.rtb.length ∧ t.tb = s.tb) (triple_modify ?_) fun _ => ?_
  · rintro t ⟨state, inds, rtb, tb, fsnt⟩
    obtain ⟨state', tb', inds', fewer⟩ := t.freeRetrieved_keeps fsnc
      t.rtb.length
    refine ⟨⟨?_, t.freeRetrieved_settled _ rfl, ?_⟩, rtb ▸ fewer,
      tb'.trans tb⟩
    · rw [state', state]
      exact permits
    · unfold Sl.told at silent ⊢
      rw [inds', inds, silent, ← Sl.owed_congr s t rtb tb fsnt]
      rfl
  refine triple_bind (slRetrieveRtb_retrieves _ s.tb) fun _ => ?_
  refine triple_bind (triple_conseq (slRetrieveTb_retrieves s.tb.length)
    (fun t h => ⟨h.1, h.2.1, Nat.le_of_eq (congrArg List.length h.2.2)⟩)
    (fun _ _ h => h) fun _ h => h) fun _ => ?_
  exact triple_conseq (ind_told rfl fun rtb tb => rtb = [] ∧ tb = [])
    (fun _ h => h) (fun _ _ h => h) fun _ h => h.1

theorem retrieval_lossless (fsnc : Nat) :
    Lossless (Sl.retrieval fsnc) Sl.told (fun s => s.state.permits = true)
      (Sl.owed fsnc) where
  succeeds := by
    intro env s t permits ran
    have told := slRetrieve_retrieves fsnc (s := s.enter env) permits
      rfl _ rfl
    unfold Sl.retrieval at ran
    rw [retrieval_exec (s := s.enter env) permits] at ran
    rw [ran] at told
    obtain ⟨retrieving, rtb, tb⟩ := told
    have whole := retrieving.whole
    unfold Sl.holding at whole
    rw [rtb, tb, List.map_nil, List.nil_append, List.map_nil,
      List.append_nil] at whole
    rw [whole, Sl.owed_congr s (s.enter env) rfl rfl rfl]
  fails := by
    intro env s e t permits ran
    have kept := slRetrieve_retrieves fsnc (s := s.enter env) permits
      rfl _ rfl
    unfold Sl.retrieval at ran
    rw [retrieval_exec (s := s.enter env) permits] at ran
    rw [ran] at kept
    refine ⟨kept.permits, ?_⟩
    rw [Sl.owed_of_settled kept.settled,
      ← Sl.owed_congr s (s.enter env) rfl rfl rfl]
    exact kept.whole

/-- The messages on `rtb` are those numbered from the one after `bsnr` to
`fsnt`, and they can be retrieved. -/
structure Windowed (s : Sl) : Prop where
  permits : s.state.permits = true
  narrow : s.rtb.length < 2 ^ 24
  last : s.fsnt = (s.bsnr + s.rtb.length) % 2 ^ 24

/-- How many of the messages on `rtb` have a number up to `fsnc`. -/
def Sl.place (s : Sl) (fsnc : Nat) : Nat := ahead (2 ^ 24) s.bsnr fsnc

theorem Windowed.owed {s : Sl} (window : Windowed s) (number : fsnc < 2 ^ 24)
    (within : s.place fsnc ≤ s.rtb.length) :
    s.owed fsnc = ((s.rtb.drop (s.rtb.length - s.place fsnc)).map Sent.msg ++
      s.tb).map List.flatten := by
  have target : fsnc = (s.bsnr + s.place fsnc) % 2 ^ 24 := by
    have leads : (s.bsnr + s.place fsnc) % 2 ^ 24 = fsnc % 2 ^ 24 :=
      add_ahead (by decide)
    rw [leads, Nat.mod_eq_of_lt number]
  unfold Sl.owed Sl.holding
  rw [Sl.freeRetrieved_rtb _ s rfl s.bsnr window.narrow window.last within
    target, (s.freeRetrieved_keeps _ _).2.1]

/-- The messages numbered after `fsnc` and those on `tb` are indicated in
order and once each, however often the request has to be repeated, just where
`fsnc` is half way from `bsnr` to `fsnt`. -/
theorem retrieval_exact_iff {s t : Sl} (window : Windowed s)
    (number : fsnc < 2 ^ 24) (within : s.place fsnc ≤ s.rtb.length)
    {envs : List Env} {told : List (List UInt8)}
    (retried : Retried (Sl.retrieval fsnc) Sl.told s envs told t) :
    told = ((s.rtb.drop (s.place fsnc)).map Sent.msg ++ s.tb).map
        List.flatten ↔
      2 * s.place fsnc = s.rtb.length := by
  rw [(retrieval_lossless fsnc).told retried window.permits,
    window.owed number within]
  constructor
  · intro same
    have lengths := congrArg List.length same
    simp only [List.length_map, List.length_append, List.length_drop] at lengths
    omega
  · intro half
    have place : s.rtb.length - s.place fsnc = s.place fsnc := by omega
    rw [place]

/-- A link that has failed with two messages on `rtb` and one on `tb`. -/
def outstanding : Sl :=
  { Sl.allocated .rfc4165 0 true false slDefault fun _ => false with
    state := .outOfService
    bsnr := 4
    fsnt := 6
    rtb := [⟨5, [[10]]⟩, ⟨6, [[11]]⟩]
    tb := [[[12]]]
    tack := 2 }

theorem outstanding_windowed : Windowed outstanding where
  permits := rfl
  narrow := by decide
  last := rfl

theorem retrieval_exact_half :
    ∃ told t, Retried (Sl.retrieval 5) Sl.told outstanding
        [⟨[], [true, false], [], [], []⟩, .calm] told t ∧
      told = [[11], [12]] := by
  have retried : Retried (Sl.retrieval 5) Sl.told outstanding
      [⟨[], [true, false], [], [], []⟩, .calm] _ _ :=
    .failed (e := .ENOBUFS) rfl (.succeeded rfl)
  exact ⟨_, _, retried, (retrieval_exact_iff outstanding_windowed (by decide)
    (by decide) retried).mpr (by decide)⟩

theorem retrieval_frees_unaccepted :
    ∃ told t, Retried (Sl.retrieval 4) Sl.told outstanding [.calm] told t ∧
      told = [[12]] ∧
      told ≠ ((outstanding.rtb.drop (outstanding.place 4)).map Sent.msg ++
        outstanding.tb).map List.flatten := by
  refine ⟨_, _, .succeeded rfl, ?_, ?_⟩
  · decide +kernel
  · decide +kernel

end Requests

end OpenSS7.M2pa
