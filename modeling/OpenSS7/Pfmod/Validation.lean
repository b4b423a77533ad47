import OpenSS7.Pfmod.Filter

/-!
What acceptance by `pfmod_validate_filter` says of the words of a filter: how
the depth it counts goes with the top of the stack in `pfmod_filter`.
-/

namespace OpenSS7.Pfmod

variable {f : List Word}

section Words

theorem takesLiteral_iff (cmd : Nat) :
    takesLiteral cmd = true ↔ cmd % 32 = enfPushlit ∨ cmd % 32 = enfLoadOffset ∨
      cmd % 32 = enfBrtr ∨ cmd % 32 = enfBrfl := by
  have small : ∀ k < 32,
      (BitVec.ofNat 16 (2 ^ k) &&& enfLiterals != 0) = true ↔
        k = enfPushlit ∨ k = enfLoadOffset ∨ k = enfBrtr ∨ k = enfBrfl := by
    decide
  exact small (cmd % 32) (Nat.mod_lt _ (by decide))

theorem popsStack_iff (cmd : Nat) :
    popsStack cmd = true ↔ cmd % 32 = enfPop ∨ cmd % 32 = enfPopoffset := by
  have small : ∀ k < 32,
      (BitVec.ofNat 16 (2 ^ k) &&& enfPoppers != 0) = true ↔
        k = enfPop ∨ k = enfPopoffset := by
    decide
  exact small (cmd % 32) (Nat.mod_lt _ (by decide))

/-- The words that `pfmod_filter` and the validator count differently: the
branches, `ENF_LOAD_OFFSET`, and the packet words whose number, shifted round,
passes for a command with a literal or for a popper. -/
def loosens (o : Word) : Bool :=
  pfCmd o == enfLoadOffset || pfCmd o == enfBrtr || pfCmd o == enfBrfl ||
    (32 ≤ pfCmd o && (takesLiteral (pfCmd o) || popsStack (pfCmd o)))

theorem takesLiteral_of_steady {o : Word} (steady : loosens o = false) :
    takesLiteral (pfCmd o) = true ↔ pfCmd o = enfPushlit := by
  simp only [loosens, Bool.or_eq_false_iff, beq_eq_false_iff_ne,
    Bool.and_eq_false_iff, decide_eq_false_iff_not] at steady
  obtain ⟨⟨⟨notLoad, notBrtr⟩, notBrfl⟩, wide⟩ := steady
  constructor
  · intro takes
    have low : pfCmd o < 32 := by
      rcases wide with low | ⟨none, -⟩
      · omega
      · rw [takes] at none
        cases none
    rw [takesLiteral_iff, Nat.mod_eq_of_lt low] at takes
    rcases takes with same | same | same | same
    · exact same
    · exact absurd same notLoad
    · exact absurd same notBrtr
    · exact absurd same notBrfl
  · intro same
    rw [takesLiteral_iff, same]
    exact Or.inl rfl

theorem popsStack_of_steady {o : Word} (steady : loosens o = false) :
    popsStack (pfCmd o) = true ↔
      pfCmd o = enfPop ∨ pfCmd o = enfPopoffset := by
  simp only [loosens, Bool.or_eq_false_iff, Bool.and_eq_false_iff,
    decide_eq_false_iff_not] at steady
  obtain ⟨-, wide⟩ := steady
  constructor
  · intro pops
    have low : pfCmd o < 32 := by
      rcases wide with low | ⟨-, none⟩
      · omega
      · rw [pops] at none
        cases none
    rwa [popsStack_iff, Nat.mod_eq_of_lt low] at pops
  · intro same
    rw [popsStack_iff]
    rcases same with same | same
    · exact Or.inl (by rw [same]; rfl)
    · exact Or.inr (by rw [same]; rfl)

def movedTop (cmd si : Nat) : Nat :=
  if popsStack cmd then si - 1 else if cmd ≠ enfLoadOffset then si + 1 else si

def movedPi (cmd pi : Nat) : Nat := if takesLiteral cmd then pi + 1 else pi

def Pushes (cmd : Nat) : Prop :=
  cmd ≠ enfLoadOffset ∧ cmd ≠ enfBrtr ∧ cmd ≠ enfBrfl ∧ cmd ≠ enfPop ∧
    cmd ≠ enfPopoffset

theorem not_pushes {cmd : Nat}
    (other : cmd = enfLoadOffset ∨ cmd = enfBrtr ∨ cmd = enfBrfl ∨
      cmd = enfPop ∨ cmd = enfPopoffset) : ¬ Pushes cmd := by
  rintro ⟨load, brtr, brfl, pop, popoffset⟩
  rcases other with same | same | same | same | same
  · exact load same
  · exact brtr same
  · exact brfl same
  · exact pop same
  · exact popoffset same

theorem movedTop_of_claims {cmd si : Nat} (pops : popsStack cmd = false)
    (load : cmd ≠ enfLoadOffset) : movedTop cmd si = si + 1 := by
  rw [movedTop, if_neg (by rw [pops]; decide), if_pos load]

theorem pushes_of_claims {cmd : Nat} (pops : popsStack cmd = false)
    (load : cmd ≠ enfLoadOffset)
    (branches : ¬ (cmd = enfBrtr ∨ cmd = enfBrfl)) : Pushes cmd := by
  refine ⟨load, fun same => branches (.inl same),
    fun same => branches (.inr same), ?_, ?_⟩
  · intro same
    rw [same] at pops
    exact absurd pops (by decide)
  · intro same
    rw [same] at pops
    exact absurd pops (by decide)

theorem moved_claims_of_branch {cmd : Nat}
    (branches : cmd = enfBrtr ∨ cmd = enfBrfl) :
    popsStack cmd = false ∧ cmd ≠ enfLoadOffset ∧ takesLiteral cmd = true := by
  rcases branches with same | same <;> rw [same] <;> decide

end Words

section Validation

variable {len : Nat}

theorem validateFrom_cons {o : Word} {rest : List Word} {i s : Nat}
    (accepted : validateFrom len (o :: rest) i s = true) :
    ∃ raised settled, validateCommand len o i s = some raised ∧
      validateOperator o raised = some settled ∧
      if literalFollows o then
        validateFrom len (rest.drop 1) (i + 2) settled = true
      else validateFrom len rest (i + 1) settled = true := by
  unfold validateFrom at accepted
  cases commanded : validateCommand len o i s with
  | none =>
      rw [commanded] at accepted
      cases accepted
  | some raised =>
      cases operated : validateOperator o raised with
      | none =>
          rw [commanded] at accepted
          simp [operated] at accepted
      | some settled =>
          rw [commanded] at accepted
          refine ⟨raised, settled, rfl, operated, ?_⟩
          simp only [Option.bind_eq_bind, Option.bind_some, operated]
            at accepted
          by_cases literal : literalFollows o = true
          · rw [if_pos literal] at accepted ⊢
            cases rest with
            | nil => rfl
            | cons next rest => exact accepted
          · rw [if_neg literal] at accepted ⊢
            exact accepted

theorem raised_lt {s raised : Nat} (accepted : raiseDepth s = some raised) :
    raised = s + 1 ∧ s + 1 < pfMaxfilters := by
  unfold raiseDepth at accepted
  split at accepted
  · cases accepted
  · rename_i low
    cases accepted
    exact ⟨rfl, Nat.lt_of_not_le low⟩

theorem lowered_gt {s lowered : Nat} (accepted : lowerDepth s = some lowered) :
    lowered = s - 1 ∧ 3 ≤ s := by
  unfold lowerDepth at accepted
  split at accepted
  · cases accepted
  · cases accepted
    omega

def operatedTop (op si : Nat) : Nat :=
  if op = enfSwap then si else if consumes op then si - 2 else si - 1

theorem operated_of_validateOperator {o : Word} {s settled : Nat}
    (operated : validateOperator o s = some settled)
    (operates : pfOp o ≠ enfNop) :
    pfOp o ≤ enfSwap ∧ 4 ≤ s ∧ settled = operatedTop (pfOp o) s := by
  unfold validateOperator at operated
  rw [if_neg operates] at operated
  obtain ⟨lower, first, operated⟩ := Option.bind_eq_some_iff.mp operated
  obtain ⟨lowest, second, operated⟩ := Option.bind_eq_some_iff.mp operated
  obtain ⟨lower_eq, deep⟩ := lowered_gt first
  obtain ⟨lowest_eq, deeper⟩ := lowered_gt second
  refine ⟨?_, by omega, ?_⟩
  · split at operated
    all_goals first
      | cases operated; done
      | exact Nat.le_trans (Nat.le_of_eq ‹_›) (by decide)
  · have consumed : consumes (pfOp o) = true → pfOp o ≠ enfSwap →
        some lowest = some settled → settled = operatedTop (pfOp o) s := by
      intro consumes notSwap same
      rw [operatedTop, if_neg notSwap, if_pos consumes]
      cases same
      omega
    have resulting : consumes (pfOp o) ≠ true → pfOp o ≠ enfSwap →
        raiseDepth lowest = some settled →
        settled = operatedTop (pfOp o) s := by
      intro consumes notSwap raised
      rw [operatedTop, if_neg notSwap, if_neg consumes]
      have same := (raised_lt raised).1
      omega
    split at operated
    case h_5 same =>
      obtain ⟨raised, third, fourth⟩ := Option.bind_eq_some_iff.mp operated
      rw [operatedTop, if_pos same]
      have third := (raised_lt third).1
      have fourth := (raised_lt fourth).1
      omega
    all_goals first
      | cases operated; done
      | exact consumed (by rw [‹pfOp o = _›]; decide)
          (by rw [‹pfOp o = _›]; decide) operated
      | exact resulting (by rw [‹pfOp o = _›]; decide)
          (by rw [‹pfOp o = _›]; decide) operated

theorem pfOp_of_validateOperator {o : Word} {s settled : Nat}
    (operated : validateOperator o s = some settled) : pfOp o ≤ enfSwap := by
  by_cases nop : pfOp o = enfNop
  · rw [nop]
    decide
  · exact (operated_of_validateOperator operated nop).1

theorem head_checked {words : List Word} {i s : Nat} {o : Word}
    (accepted : validateFrom len words i s = true)
    (here : words[0]? = some o) : pfOp o ≤ enfSwap := by
  cases words with
  | nil => cases here
  | cons head rest =>
      obtain ⟨raised, settled, -, operated, -⟩ := validateFrom_cons accepted
      cases here
      exact pfOp_of_validateOperator operated

theorem operand_checked {words : List Word} {i s : Nat}
    (accepted : validateFrom len words i s = true) :
    ∀ j o operand, words[j]? = some o → literalFollows o = false →
      words[j + 1]? = some operand → pfOp operand ≤ enfSwap := by
  induction size : words.length using Nat.strongRecOn
    generalizing words i s with
  | ind size shorter =>
      intro j o operand here plain next
      cases words with
      | nil => cases here
      | cons head rest =>
          obtain ⟨raised, settled, -, -, onward⟩ := validateFrom_cons accepted
          by_cases literal : literalFollows head = true
          · rw [if_pos literal] at onward
            -- the head is an instruction and its literal comes next
            match j, here, next with
            | 0, here, next =>
                cases here
                rw [literal] at plain
                cases plain
            | 1, here, next =>
                refine head_checked onward ?_
                simpa [List.getElem?_drop] using next
            | j + 2, here, next =>
                refine shorter (rest.drop 1).length ?_ onward rfl j o operand
                  ?_ plain ?_
                · rw [← size, List.length_drop, List.length_cons]
                  omega
                · rw [List.getElem?_drop, Nat.add_comm 1 j]
                  exact here
                · rw [List.getElem?_drop, Nat.add_comm 1 (j + 1)]
                  exact next
          · rw [if_neg literal] at onward
            match j, here, next with
            | 0, here, next => exact head_checked onward next
            | j + 1, here, next =>
                refine shorter rest.length ?_ onward rfl j o operand here plain
                  next
                rw [← size, List.length_cons]
                omega

theorem length_of_accepted (accepted : pfmodValidateFilter f = true) :
    f.length ≤ pfMaxfilters := by
  unfold pfmodValidateFilter at accepted
  by_cases long : f.length > pfMaxfilters
  · rw [if_pos long] at accepted
    cases accepted
  · exact Nat.le_of_not_lt long

theorem validateFrom_of_accepted (accepted : pfmodValidateFilter f = true) :
    validateFrom f.length f 0 1 = true := by
  have short := Nat.not_lt.mpr (length_of_accepted accepted)
  unfold pfmodValidateFilter at accepted
  rwa [if_neg short] at accepted

theorem operand_lt (accepted : pfmodValidateFilter f = true) {j : Nat}
    {o operand : Word} (here : f[j]? = some o)
    (branches : pfCmd o = enfBrtr ∨ pfCmd o = enfBrfl)
    (next : f[j + 1]? = some operand) : operand.toNat < 22 * 2 ^ 10 := by
  have plain : literalFollows o = false := by
    unfold literalFollows
    rcases branches with same | same <;> rw [same] <;> rfl
  have checked : pfOp operand ≤ 21 :=
    operand_checked (validateFrom_of_accepted accepted) j o operand here plain
      next
  unfold pfOp at checked
  omega

structure Counted (cmd s raised : Nat) : Prop where
  still : cmd = enfNopush → raised = s
  moved : cmd ≠ enfNopush → raised = movedTop cmd s
  positive : 1 ≤ s → 1 ≤ raised
  deep : cmd = enfPopoffset → 3 ≤ s

theorem claim_of_validateCommand {len i s raised : Nat} {o : Word}
    (commanded : validateCommand len o i s = some raised)
    (command : pfCmd o ≠ enfNopush) (pushes : Pushes (pfCmd o)) :
    s + 1 < pfMaxfilters := by
  obtain ⟨load, brtr, brfl, pop, popoffset⟩ := pushes
  unfold validateCommand at commanded
  split at commanded
  · rename_i same
    exact absurd same command
  · split at commanded
    · cases commanded
    · exact (raised_lt commanded).2
  · rename_i same
    exact absurd same load
  · rename_i same
    exact absurd same brtr
  · rename_i same
    exact absurd same brfl
  · rename_i same
    exact absurd same popoffset
  · rename_i same
    exact absurd same pop
  · cases commanded
  · exact (raised_lt commanded).2

theorem counted_of_validateCommand {len i s raised : Nat} {o : Word}
    (steady : loosens o = false)
    (commanded : validateCommand len o i s = some raised) :
    Counted (pfCmd o) s raised := by
  have pops := popsStack_of_steady steady
  simp only [loosens, Bool.or_eq_false_iff, beq_eq_false_iff_ne] at steady
  obtain ⟨⟨⟨load, brtr⟩, brfl⟩, -⟩ := steady
  have pushing : pfCmd o ≠ enfNopush → pfCmd o ≠ enfPop →
      pfCmd o ≠ enfPopoffset → raiseDepth s = some raised →
      Counted (pfCmd o) s raised := by
    intro command notPop notPopoffset accepted
    obtain ⟨same, -⟩ := raised_lt accepted
    have noPop : ¬ popsStack (pfCmd o) = true := fun is =>
      (pops.mp is).elim notPop notPopoffset
    refine ⟨fun none => absurd none command, fun _ => ?_, fun _ => by omega,
      fun is => absurd is notPopoffset⟩
    rw [movedTop, if_neg noPop, if_pos load, same]
  have popping : pfCmd o ≠ enfNopush →
      pfCmd o = enfPop ∨ pfCmd o = enfPopoffset →
      lowerDepth s = some raised → Counted (pfCmd o) s raised := by
    intro command isPop accepted
    obtain ⟨same, deep⟩ := lowered_gt accepted
    refine ⟨fun none => absurd none command, fun _ => ?_, fun _ => by omega,
      fun _ => deep⟩
    rw [movedTop, if_pos (pops.mpr isPop), same]
  unfold validateCommand at commanded
  split at commanded
  · rename_i same
    cases commanded
    exact ⟨fun _ => rfl, fun command => absurd same command, id,
      fun is => by rw [same] at is; cases is⟩
  · rename_i same
    split at commanded
    · cases commanded
    · exact pushing (by rw [same]; decide) (by rw [same]; decide)
        (by rw [same]; decide) commanded
  · rename_i same
    exact absurd same load
  · rename_i same
    exact absurd same brtr
  · rename_i same
    exact absurd same brfl
  · rename_i same
    exact popping (by rw [same]; decide) (.inr same) commanded
  · rename_i same
    exact popping (by rw [same]; decide) (.inl same) commanded
  · cases commanded
  · rename_i nopush _ _ _ _ popoffset pop _
    exact pushing nopush pop popoffset commanded

end Validation

end OpenSS7.Pfmod
