import OpenSS7.Mtp3.SendRoute

/-!
The rotation of the link selection when a message is put on a link of a combined
link set, and its undoing when the message is retrieved from the link.
-/

namespace OpenSS7.Mtp3

def slsOf (p : Protocol) (octets : Octets) : Option Nat :=
  (mtpDecRl p .zero (octets.drop 1)).map fun decoded => decoded.1.sls

section Bits

theorem rotateSls_mod (sls : Nat) : rotateSls (sls % 256) = rotateSls sls := by
  have mask (bits : Nat) (small : bits < 2 ^ 8) :
      sls % 256 &&& bits = sls &&& bits := by
    rw [show 256 = 2 ^ 8 from rfl, ← Nat.and_two_pow_sub_one_eq_mod,
      Nat.and_assoc]
    congr 1
    rw [Nat.and_comm, Nat.and_two_pow_sub_one_eq_mod]
    exact Nat.mod_eq_of_lt small
  unfold rotateSls
  rw [mask _ (by decide), mask _ (by decide), mask _ (by decide)]

theorem unrotate_rotate_octet : ∀ sls < 256,
    rotateSls sls < 256 ∧ unrotateSls (rotateSls sls) = sls ∧
      unrotateSls sls < 256 ∧
      (rotateSls sls &&& 0x1f = sls &&& 0x1f ↔
        sls &&& 0x1f = 0 ∨ sls &&& 0x1f = 31) ∧
      (unrotateSls sls &&& 0x1f = sls &&& 0x1f ↔
        sls &&& 0x1f = 0 ∨ sls &&& 0x1f = 31) := by
  decide +kernel

theorem toNat_rotateSls (sls : Nat) :
    (rotateSls sls).toUInt8.toNat = rotateSls sls := by
  have bound := (unrotate_rotate_octet (sls % 256)
    (Nat.mod_lt _ (by decide))).1
  rw [rotateSls_mod] at bound
  exact (UInt8.toNat_ofNat').trans (Nat.mod_eq_of_lt bound)

theorem toNat_unrotateSls (octet : UInt8) :
    (unrotateSls octet.toNat).toUInt8.toNat = unrotateSls octet.toNat :=
  (UInt8.toNat_ofNat').trans
    (Nat.mod_eq_of_lt (unrotate_rotate_octet _ octet.toNat_lt).2.2.1)

theorem and_mod_octet (sls : Nat) :
    sls % 256 &&& 0x1f = sls &&& 0x1f := by
  rw [show 0x1f = 2 ^ 5 - 1 from rfl, Nat.and_two_pow_sub_one_eq_mod,
    Nat.and_two_pow_sub_one_eq_mod]
  exact Nat.mod_mod_of_dvd sls (by decide)

theorem unrotate_rotate (sls : Nat) :
    unrotateSls (rotateSls sls) &&& 0x1f = sls &&& 0x1f := by
  have back := (unrotate_rotate_octet (sls % 256)
    (Nat.mod_lt _ (by decide))).2.1
  rw [rotateSls_mod] at back
  rw [back, and_mod_octet]

theorem rotate_fixed (sls : Nat) :
    rotateSls sls &&& 0x1f = sls &&& 0x1f ↔
      sls &&& 0x1f = 0 ∨ sls &&& 0x1f = 31 := by
  have fixed := (unrotate_rotate_octet (sls % 256)
    (Nat.mod_lt _ (by decide))).2.2.2.1
  rwa [rotateSls_mod, and_mod_octet] at fixed

theorem unrotate_fixed (octet : UInt8) :
    unrotateSls octet.toNat &&& 0x1f = octet.toNat &&& 0x1f ↔
      octet.toNat &&& 0x1f = 0 ∨ octet.toNat &&& 0x1f = 31 :=
  (unrotate_rotate_octet _ octet.toNat_lt).2.2.2.2

end Bits

section Labels

variable {p : Protocol}

theorem rotates_iff : p.rotates = true ↔
    p.variant.wide = true ∧ p.year = .y88 := by
  simp [Protocol.rotates]

theorem slsOf_rotating (rotating : p.rotates = true) (octets : Octets) :
    slsOf p octets = octets[7]?.map fun octet => octet.toNat &&& 0x1f := by
  obtain ⟨wide, year⟩ := rotates_iff.mp rotating
  have other : ¬ Year.y88 = .y00 := by decide
  unfold slsOf mtpDecRl
  rw [wide, year]
  match octets with
  | [] | [_] | [_, _] | [_, _, _] | [_, _, _, _] | [_, _, _, _, _]
  | [_, _, _, _, _, _] | [_, _, _, _, _, _, _] => rfl
  | _ :: _ :: _ :: _ :: _ :: _ :: _ :: _ :: _ => rfl

theorem label_long (rotating : p.rotates = true) {octets : Octets} {s : Nat}
    (carried : slsOf p octets = some s) : 7 < octets.length := by
  rw [slsOf_rotating rotating] at carried
  obtain ⟨_, there, -⟩ := Option.map_eq_some_iff.mp carried
  exact (List.getElem?_eq_some_iff.mp there).1

theorem slsOf_set (rotating : p.rotates = true) {octets : Octets} {s : Nat}
    (carried : slsOf p octets = some s) (octet : UInt8) :
    slsOf p (octets.set 7 octet) = some (octet.toNat &&& 0x1f) := by
  rw [slsOf_rotating rotating,
    List.getElem?_set_self (label_long rotating carried)]
  rfl

theorem slsOf_octet (rotating : p.rotates = true) {octets : Octets} {s : Nat}
    (carried : slsOf p octets = some s) :
    (octets.getD 7 0).toNat &&& 0x1f = s := by
  rw [slsOf_rotating rotating] at carried
  obtain ⟨octet, there, rfl⟩ := Option.map_eq_some_iff.mp carried
  rw [List.getD_eq_getElem?_getD, there]
  rfl

end Labels

section Decoded

variable {p : Protocol} {m m' : MtpMsg} {octets : Octets}

theorem mtpDecCom_sls (decoded : mtpDecCom p m octets = some m') :
    m'.sls = m.sls := by
  unfold mtpDecCom at decoded
  split at decoded <;> cases decoded <;> rfl

theorem mtpDecCbm_sls (decoded : mtpDecCbm p m octets = some m') :
    m'.sls = m.sls := by
  unfold mtpDecCbm at decoded
  split at decoded <;> cases decoded <;> rfl

theorem mtpDecSlm_sls (decoded : mtpDecSlm p m octets = some m') :
    m'.sls = m.sls := by
  unfold mtpDecSlm at decoded
  split at decoded <;> cases decoded <;> rfl

theorem mtpDecTfc_sls (decoded : mtpDecTfc p m octets = some m') :
    m'.sls = m.sls := by
  unfold mtpDecTfc at decoded
  split at decoded <;> cases decoded <;> rfl

theorem mtpDecTfm_sls (decoded : mtpDecTfm p m octets = some m') :
    m'.sls = m.sls := by
  unfold mtpDecTfm at decoded
  split at decoded <;> cases decoded <;> rfl

theorem mtpDecDlc_sls (decoded : mtpDecDlc p m octets = some m') :
    m'.sls = m.sls := by
  unfold mtpDecDlc at decoded
  split at decoded <;> cases decoded <;> rfl

theorem mtpDecUpm_sls (decoded : mtpDecUpm p m octets = some m') :
    m'.sls = m.sls := by
  unfold mtpDecUpm at decoded
  split at decoded <;> cases decoded <;> rfl

theorem mtpDecSltm_sls (decoded : mtpDecSltm p m octets = some m') :
    m'.sls = m.sls := by
  unfold mtpDecSltm at decoded
  split at decoded
  · cases decoded
  · dsimp only at decoded
    split at decoded <;> split at decoded <;> cases decoded <;> rfl

theorem mtpDecSif_sls (decoded : mtpDecSif p m octets = some m') :
    m'.sls = m.sls := by
  unfold mtpDecSif at decoded
  split at decoded
  · split at decoded
    · cases decoded
    · dsimp only at decoded
      split at decoded
      any_goals exact (mtpDecCom_sls decoded :)
      any_goals exact (mtpDecCbm_sls decoded :)
      any_goals exact (mtpDecTfc_sls decoded :)
      any_goals exact (mtpDecTfm_sls decoded :)
      any_goals exact (mtpDecDlc_sls decoded :)
      any_goals exact (mtpDecSlm_sls decoded :)
      any_goals exact (mtpDecUpm_sls decoded :)
      all_goals
        cases decoded
        try rfl
  · split at decoded
    · cases decoded
    · dsimp only at decoded
      split at decoded
      any_goals exact (mtpDecSltm_sls decoded :)
      cases decoded
  · split at decoded
    · cases decoded
    · dsimp only at decoded
      split at decoded
      any_goals exact (mtpDecSltm_sls decoded :)
      cases decoded
  · cases decoded
    rfl

theorem mtpDecRl_sls {rest : Octets} (start : MtpMsg)
    (decoded : mtpDecRl p m octets = some (m', rest)) :
    (mtpDecRl p start octets).map (fun d => d.1.sls) = some m'.sls := by
  unfold mtpDecRl at decoded ⊢
  split at decoded <;> cases decoded <;> rfl

theorem mtpDecMsg_sls {before : UInt8}
    (decoded : mtpDecMsg p ⟨before, octets⟩ = some m) :
    slsOf p octets = some m.sls := by
  unfold mtpDecMsg mtpDecSio at decoded
  cases octets with
  | nil => cases decoded
  | cons head tail =>
      simp only [Option.bind_eq_bind, Option.bind_some,
        Option.bind_eq_some_iff] at decoded
      obtain ⟨⟨label, rest⟩, labelled, headed⟩ := decoded
      unfold slsOf
      rw [List.drop_one, List.tail_cons, mtpDecRl_sls .zero labelled,
        mtpDecSif_sls headed]

end Decoded

section Undoing

variable {r : Routing} {n : Net} {sl : Nat} {octets : Octets} {s : Nat}

theorem unrotated_still (still : ¬ (n.combined sl ∧ r.protocol.rotates = true))
    (octets : Octets) : unrotated r n sl octets = octets :=
  if_neg still

theorem unrotated_plain (carried : slsOf r.protocol octets = some s) :
    slsOf r.protocol (unrotated r n sl octets) = some s ↔
      (r.protocol.rotates = true → n.combined sl → s = 0 ∨ s = 31) := by
  unfold unrotated
  split
  · rename_i turns
    obtain ⟨combined, rotating⟩ := turns
    rw [slsOf_set rotating carried, toNat_unrotateSls, Option.some.injEq,
      ← slsOf_octet rotating carried, unrotate_fixed]
    exact ⟨fun fixed _ _ => fixed, fun fixed => fixed rotating combined⟩
  · rename_i still
    exact iff_of_true carried fun rotating combined =>
      absurd ⟨combined, rotating⟩ still

theorem unrotated_turned (rotating : r.protocol.rotates = true)
    (carried : slsOf r.protocol octets = some s) (written : Nat) :
    slsOf r.protocol
        (unrotated r n sl (octets.set 7 (rotateSls written).toUInt8)) =
      some (if n.combined sl then written &&& 0x1f
        else rotateSls written &&& 0x1f) := by
  have label := slsOf_set rotating carried (rotateSls written).toUInt8
  unfold unrotated
  by_cases combined : n.combined sl
  · have octet : (octets.set 7 (rotateSls written).toUInt8).getD 7 0 =
        (rotateSls written).toUInt8 := by
      rw [List.getD_eq_getElem?_getD,
        List.getElem?_set_self (label_long rotating carried)]
      rfl
    rw [if_pos ⟨combined, rotating⟩, if_pos combined,
      slsOf_set rotating label, toNat_unrotateSls, octet, toNat_rotateSls,
      unrotate_rotate]
  · rw [if_neg fun both => combined both.1, if_neg combined, label,
      toNat_rotateSls]

theorem restored_iff (carried : slsOf r.protocol octets = some s)
    (turns : Prop) [Decidable turns] (written : Nat) :
    slsOf r.protocol (unrotated r n sl
        (if turns ∧ r.protocol.rotates = true then
          octets.set 7 (rotateSls written).toUInt8 else octets)) = some s ↔
      (r.protocol.rotates = true →
        if turns then
          (if n.combined sl then written &&& 0x1f
            else rotateSls written &&& 0x1f) = s
        else n.combined sl → s = 0 ∨ s = 31) := by
  by_cases rotating : r.protocol.rotates = true
  · by_cases turned : turns
    · rw [if_pos ⟨turned, rotating⟩, if_pos turned,
        unrotated_turned rotating carried, Option.some.injEq]
      exact ⟨fun same _ => same, fun same => same rotating⟩
    · rw [if_neg fun both => turned both.1, if_neg turned,
        unrotated_plain carried]
  · rw [if_neg fun both => rotating both.2,
      unrotated_still fun both => rotating both.2]
    exact iff_of_true carried fun rotates => absurd rotates rotating

end Undoing

section Dispatching

inductive Dispatch where
  | link (canput : Bool) (mask sl : Nat)
  | route (a : Ready) (sp priority dpc sls : Nat)
  | transfer (o : Outcomes) (lk : Nat) (before : UInt8)

structure Coherent (n : Net) : Prop where
  routes : ∀ {rl i rt}, n.routing.smap rl i = .direct rt →
    (n.lk (n.rt rt).lk).ls = (n.rl rl).ls
  links : ∀ {lk i sl}, n.linking.smap lk i = .direct sl → (n.sl sl).lk = lk

variable (r : Routing) (n : Net)

def Dispatch.perform (congestion : Nat → Congestion) :
    Dispatch → Octets → List Fate × Octets
  | link canput mask sl, octets =>
      let posted := mtpSendLink r n canput mask sl octets congestion
      (posted.fates, posted.octets)
  | route a sp priority dpc sls, octets =>
      let posted := mtpSendRoute r n a sp priority dpc sls octets congestion
      (posted.fates, posted.octets)
  | transfer o lk before, octets =>
      match mtpDecMsg r.protocol ⟨before, octets⟩ with
      | none => ([], octets)
      | some m =>
          let done := mtpXferRoute r o n lk octets m
          (done.fates, done.octets)

/-- Where selections are rotated, the selection `s` of a message survives being
put on a link and retrieved from it: `mtp_send_link` keeps only the bits of its
mask, `mtp_send_route` writes its own argument, and `mtp_xfer_route` goes by the
routes of the route list and not by the link sets. -/
def Dispatch.Restores (octets : Octets) (sl s : Nat) : Dispatch → Prop
  | link _ mask _ => n.combined sl → s &&& mask = s
  | route _ _ _ _ sls => n.combined sl → sls &&& 0x1f = s
  | transfer _ lk before =>
      ∀ m rs rl, mtpDecMsg r.protocol ⟨before, octets⟩ = some m →
        r.routeSet (n.lk lk).loc m.dpc = some rs → (n.rs rs).curr = some rl →
        (1 < (n.rl rl).rts.list.length ↔ n.combined sl) ∨ s = 0 ∨ s = 31

variable {r n} {octets sent : Octets} {sl : Nat}

theorem hop_link {rs rl sls : Nat} (way : r.hop n rs sls = .link rl sl) :
    (n.rs rs).curr = some rl ∧
      (Coherent n → (n.lk (n.sl sl).lk).ls = (n.rl rl).ls) := by
  unfold Routing.hop at way
  split at way
  · cases way
  · rename_i list current
    dsimp only at way
    split at way
    · cases way
    · cases way
    · rename_i rt route
      split at way
      · cases way
      · cases way
      · rename_i link there
        cases way
        refine ⟨current, fun coherent => ?_⟩
        rw [coherent.links there, coherent.routes route]

theorem hop_buffer {rs sls : Nat} : r.hop n rs sls ≠ .buffer (.link sl) := by
  intro way
  unfold Routing.hop at way
  split at way
  · cases way
  · dsimp only at way
    split at way
    · cases way
    · cases way
    · split at way <;> cases way

theorem mtpSendLink_link {canput : Bool} {mask sl' : Nat}
    {congestion : Nat → Congestion}
    (on : (mtpSendLink r n canput mask sl' octets congestion).fates =
      [.link sl]) :
    sl' = sl ∧
      (mtpSendLink r n canput mask sl' octets congestion).octets =
        if n.combined sl' ∧ r.protocol.rotates = true then
          octets.set 7
            (rotateSls ((octets.getD 7 0).toNat &&& mask)).toUInt8
        else octets := by
  unfold mtpSendLink at on ⊢
  by_cases full : canput = false
  · rw [if_pos full] at on
    cases on
  · rw [if_neg full] at on ⊢
    by_cases turns : n.combined sl' ∧ r.protocol.rotates = true
    · rw [if_pos turns] at on ⊢
      cases on
      exact ⟨rfl, (if_pos turns).symm⟩
    · rw [if_neg turns] at on ⊢
      cases on
      exact ⟨rfl, (if_neg turns).symm⟩

theorem postLink_link {a : Ready} {rs rl sl' priority sls : Nat}
    {congestion : Nat → Congestion}
    (on : (postLink r n a rs rl sl' priority sls octets congestion).fates =
      [.link sl]) :
    sl' = sl ∧
      (postLink r n a rs rl sl' priority sls octets congestion).octets =
        if 1 < (n.ls (n.rl rl).ls).lks.list.length ∧
            r.protocol.rotates = true then
          octets.set 7 (rotateSls sls).toUInt8
        else octets := by
  unfold postLink at on ⊢
  dsimp only at on ⊢
  split at on
  · cases on
  · rename_i told
    rw [if_neg told]
    split at on
    · cases on
    · rename_i kept
      rw [if_neg kept]
      split at on
      · cases on
      · rename_i canput
        rw [if_neg canput]
        by_cases turns : 1 < (n.ls (n.rl rl).ls).lks.list.length ∧
            r.protocol.rotates = true
        · rw [if_pos turns] at on ⊢
          cases on
          exact ⟨rfl, (if_pos turns).symm⟩
        · rw [if_neg turns] at on ⊢
          cases on
          exact ⟨rfl, (if_neg turns).symm⟩

theorem mtpSendRoute_link {a : Ready} {sp priority dpc sls : Nat}
    {congestion : Nat → Congestion} (coherent : Coherent n)
    (on : (mtpSendRoute r n a sp priority dpc sls octets congestion).fates =
      [.link sl]) :
    (mtpSendRoute r n a sp priority dpc sls octets congestion).octets =
      if n.combined sl ∧ r.protocol.rotates = true then
        octets.set 7 (rotateSls sls).toUInt8
      else octets := by
  unfold mtpSendRoute at on ⊢
  cases found : r.routeSet sp dpc with
  | none =>
      simp only [found] at on
      cases on
  | some rs =>
      simp only [found] at on ⊢
      by_cases state : .restricted < (n.rs rs).state
      · rw [if_pos state] at on
        cases on
      · rw [if_neg state] at on ⊢
        cases way : r.hop n rs sls with
        | missing =>
            simp only [way] at on
            cases on
        | buffer fate =>
            simp only [way] at on
            cases on
            exact absurd way hop_buffer
        | link rl sl' =>
            simp only [way] at on ⊢
            obtain ⟨rfl, octets_eq⟩ := postLink_link on
            have same := (hop_link way).2 coherent
            simp only [octets_eq, Net.combined, same]

theorem xferLink_link {o : Outcomes} {rl sl' : Nat} {m : MtpMsg}
    (on : (xferLink r o n rl sl' octets m).fates = [.link sl]) :
    sl' = sl ∧ (xferLink r o n rl sl' octets m).octets =
      if 1 < (n.rl rl).rts.list.length ∧ r.protocol.rotates = true then
        octets.set 7 (rotateSls m.sls).toUInt8
      else octets := by
  unfold xferLink at on ⊢
  split at on
  · cases on
  · rename_i told
    rw [if_neg told]
    split at on
    · cases on
    · rename_i kept
      rw [if_neg kept]
      split at on
      · cases on
      · rename_i canput
        rw [if_neg canput]
        by_cases turns : 1 < (n.rl rl).rts.list.length ∧
            r.protocol.rotates = true
        · rw [if_pos turns] at on ⊢
          cases on
          exact ⟨rfl, (if_pos turns).symm⟩
        · rw [if_neg turns] at on ⊢
          cases on
          exact ⟨rfl, (if_neg turns).symm⟩

theorem xferOnward_link {o : Outcomes} {rs : Nat} {m : MtpMsg}
    (on : (xferOnward r o n rs octets m).fates = [.link sl]) :
    ∃ rl, (n.rs rs).curr = some rl ∧
      (xferOnward r o n rs octets m).octets =
        if 1 < (n.rl rl).rts.list.length ∧ r.protocol.rotates = true then
          octets.set 7 (rotateSls m.sls).toUInt8
        else octets := by
  unfold xferOnward at on ⊢
  cases way : r.hop n rs m.sls with
  | missing =>
      simp only [way] at on
      cases on
  | buffer fate =>
      simp only [way] at on
      cases on
      exact absurd way hop_buffer
  | link rl sl' =>
      simp only [way] at on ⊢
      exact ⟨rl, (hop_link way).1, (xferLink_link on).2⟩

theorem respond_curr (rs lk : Nat) :
    ((n.respond rs lk).rs rs).curr = (n.rs rs).curr := by
  unfold Net.respond
  split
  · rfl
  · simp [Net.withRs]

theorem respond_rl (rs lk : Nat) : (n.respond rs lk).rl = n.rl := by
  unfold Net.respond
  split <;> rfl

theorem mtpXferRoute_link {o : Outcomes} {lk : Nat} {m : MtpMsg}
    (on : (mtpXferRoute r o n lk octets m).fates = [.link sl]) :
    ∃ rs rl, r.routeSet (n.lk lk).loc m.dpc = some rs ∧
      (n.rs rs).curr = some rl ∧
      (mtpXferRoute r o n lk octets m).octets =
        if 1 < (n.rl rl).rts.list.length ∧ r.protocol.rotates = true then
          octets.set 7 (rotateSls m.sls).toUInt8
        else octets := by
  unfold mtpXferRoute at on ⊢
  by_cases restarting : .restart ≤ (n.sp (n.lk lk).loc).state
  · rw [if_pos restarting] at on
    cases on
  · rw [if_neg restarting] at on ⊢
    cases found : r.routeSet (n.lk lk).loc m.dpc with
    | none =>
        simp only [found] at on
        cases on
    | some rs =>
        simp only [found] at on ⊢
        cases state : (n.rs rs).state
        case restricted =>
            simp only [state] at on ⊢
            obtain ⟨rl, current, octets_eq⟩ := xferOnward_link on
            rw [respond_curr] at current
            rw [respond_rl] at octets_eq
            exact ⟨rs, rl, rfl, current, octets_eq⟩
        case allowed | danger | congested =>
            simp only [state] at on ⊢
            obtain ⟨rl, current, octets_eq⟩ := xferOnward_link on
            exact ⟨rs, rl, rfl, current, octets_eq⟩
        all_goals
          simp only [state] at on
          cases on

theorem transfer_restores {octet s : Nat} (label : octet &&& 0x1f = s)
    {turns combined : Prop} [Decidable turns] [Decidable combined] :
    (if turns then
        (if combined then s &&& 0x1f else rotateSls s &&& 0x1f) = s
      else combined → s = 0 ∨ s = 31) ↔
      (turns ↔ combined) ∨ s = 0 ∨ s = 31 := by
  have five : s &&& 0x1f = s := by
    rw [← label, Nat.and_assoc, Nat.and_self]
  have turned := rotate_fixed s
  rw [five] at turned ⊢
  by_cases t : turns
  · by_cases c : combined
    · simp [t, c]
    · simp [t, c, turned]
  · by_cases c : combined
    · simp [t, c]
    · simp [t, c]

theorem restores_iff {d : Dispatch} {s : Nat}
    {congestion : Nat → Congestion} (coherent : Coherent n)
    (carried : slsOf r.protocol octets = some s)
    (on : d.perform r n congestion octets = ([.link sl], sent)) :
    slsOf r.protocol (unrotated r n sl sent) = some s ↔
      (r.protocol.rotates = true → d.Restores r n octets sl s) := by
  cases d with
  | link canput mask sl' =>
      simp only [Dispatch.perform, Prod.mk.injEq] at on
      obtain ⟨fates, rfl⟩ := on
      obtain ⟨rfl, octets_eq⟩ := mtpSendLink_link fates
      rw [octets_eq, restored_iff carried]
      refine forall_congr' fun rotating => ?_
      have masked : (octets.getD 7 0).toNat &&& mask &&& 0x1f = s &&& mask := by
        rw [Nat.and_right_comm, slsOf_octet rotating carried]
      by_cases combined : n.combined sl'
      · rw [if_pos combined, if_pos combined, masked]
        exact ⟨fun kept _ => kept, fun kept => kept combined⟩
      · rw [if_neg combined]
        exact iff_of_true (fun both => absurd both combined)
          fun both => absurd both combined
  | route a sp priority dpc sls =>
      simp only [Dispatch.perform, Prod.mk.injEq] at on
      obtain ⟨fates, rfl⟩ := on
      rw [mtpSendRoute_link coherent fates, restored_iff carried]
      refine forall_congr' fun _ => ?_
      by_cases combined : n.combined sl
      · rw [if_pos combined, if_pos combined]
        exact ⟨fun kept _ => kept, fun kept => kept combined⟩
      · rw [if_neg combined]
        exact iff_of_true (fun both => absurd both combined)
          fun both => absurd both combined
  | transfer o lk before =>
      cases decoded : mtpDecMsg r.protocol ⟨before, octets⟩ with
      | none =>
          simp only [Dispatch.perform, decoded, Prod.mk.injEq] at on
          cases on.1
      | some m =>
          simp only [Dispatch.perform, decoded, Prod.mk.injEq] at on
          obtain ⟨fates, rfl⟩ := on
          obtain rfl : m.sls = s :=
            Option.some.inj ((mtpDecMsg_sls decoded).symm.trans carried)
          obtain ⟨rs, rl, found, current, octets_eq⟩ :=
            mtpXferRoute_link fates
          rw [octets_eq, restored_iff carried]
          refine forall_congr' fun rotating => ?_
          rw [transfer_restores (slsOf_octet rotating carried)]
          constructor
          · intro kept m' rs' rl' decoded' found' current'
            cases decoded.symm.trans decoded'
            cases found.symm.trans found'
            cases current.symm.trans current'
            exact kept
          · intro kept
            exact kept m rs rl decoded found current

/-- A message that was put on a link and is handed back by the link comes to the
retrieval buffer with the selection it had before exactly where that survives
the rotation. -/
theorem retrieval_restores_iff {d : Dispatch} {s : Nat}
    {congestion : Nat → Congestion} (coherent : Coherent n)
    (carried : slsOf r.protocol octets = some s)
    (on : d.perform r n congestion octets = ([.link sl], sent))
    (rbuf : List Octets) :
    ∃ back, slRetrievedMessageInd r n .wconRet sl sent rbuf =
        some (rbuf ++ [back]) ∧
      retrievalCompleteData r n .wconRet sl (some sent) rbuf =
        some (rbuf ++ [back]) ∧
      (slsOf r.protocol back = some s ↔
        (r.protocol.rotates = true → d.Restores r n octets sl s)) :=
  ⟨unrotated r n sl sent, rfl, rfl, restores_iff coherent carried on⟩

def Net.pair (routes : List Nat) : Net :=
  { Net.transit with
    ls := fun p => { Net.transit.ls p with lks := .zero [0, 1] 0 }
    rl := fun p => { Net.transit.rl p with rts := .zero routes 0 }
    linking := { Net.transit.linking with
      smap := fun lk _ => if lk = 0 then .direct 0 else .null } }

theorem pair_coherent (routes : List Nat) : Coherent (Net.pair routes) where
  routes := by
    intro rl i rt same
    cases same
    rfl
  links := by
    intro lk i sl same
    change (if lk = 0 then Slot.direct 0 else .null) = .direct sl at same
    split at same
    · rename_i zero
      cases same
      exact zero.symm
    · cases same

def Routing.rotating : Routing :=
  { Routing.transit .ansi with protocol := ⟨.ansi, .y88, false⟩ }

def passing : Octets :=
  (Routing.rotating.protocol.encode ⟨2, 2, 1, 1⟩ (mtpSendUser 0 3 [7])).octets

theorem passing_restored :
    ∃ back, slRetrievedMessageInd Routing.rotating (Net.pair [0, 1]) .wconRet 0
        (passing.set 7 16) [] = some [back] ∧
      slsOf Routing.rotating.protocol back = some 1 := by
  obtain ⟨back, given, -, restored⟩ := retrieval_restores_iff
    (pair_coherent [0, 1])
    (show slsOf Routing.rotating.protocol passing = some 1 by decide)
    (show (Dispatch.transfer ⟨0, 0, true⟩ 0 0).perform Routing.rotating
      (Net.pair [0, 1]) (fun _ => ⟨0, .stopped, .stopped⟩) passing =
        ([.link 0], passing.set 7 16) by rfl) []
  refine ⟨back, given, restored.mpr fun _ m rs rl _ _ current => Or.inl ?_⟩
  cases current
  decide

theorem passing_turned :
    let d := Dispatch.transfer ⟨0, 0, true⟩ 0 0
    slsOf Routing.rotating.protocol passing = some 1 ∧
      d.perform Routing.rotating (Net.pair [0])
        (fun _ => ⟨0, .stopped, .stopped⟩) passing = ([.link 0], passing) ∧
      ∃ back, slRetrievedMessageInd Routing.rotating (Net.pair [0]) .wconRet 0
          passing [] = some [back] ∧
        slsOf Routing.rotating.protocol back = some 2 :=
  ⟨by decide, rfl, _, rfl, by decide⟩

end Dispatching

end OpenSS7.Mtp3
