/-!
Searches through lists that go on after they have found something, and what is
left of the results in the end.
-/

namespace Searches

variable {ι α : Type}

def overwriting (find : ι → Option α) : List ι → Option α → Option α
  | [], found => found
  | i :: rest, _ => overwriting find rest (find i)

def amending (find : ι → Option (Option α)) : List ι → Option α → Option α
  | [], found => found
  | i :: rest, found => amending find rest ((find i).getD found)

def firstOrLast (fits : α → Bool) : List α → Option α → Option α
  | [], last => last
  | a :: rest, _ => if fits a then some a else firstOrLast fits rest (some a)

theorem overwriting_cons (find : ι → Option α) (i : ι) (rest : List ι)
    (found : Option α) :
    overwriting find (i :: rest) found =
      find ((i :: rest).getLast (List.cons_ne_nil i rest)) := by
  induction rest generalizing i found with
  | nil => rfl
  | cons j rest ih =>
      rw [overwriting, ih, List.getLast_cons_cons]

theorem overwriting_eq (find : ι → Option α) (list : List ι) :
    overwriting find list none = list.getLast?.bind find := by
  cases list with
  | nil => rfl
  | cons i rest =>
      rw [overwriting_cons, List.getLast?_eq_some_getLast
        (List.cons_ne_nil i rest)]
      rfl

theorem firstOrLast_eq (fits : α → Bool) (list : List α) (last : Option α) :
    firstOrLast fits list last =
      match list.find? fits with
      | some a => some a
      | none => match list.getLast? with
        | some a => some a
        | none => last := by
  induction list generalizing last with
  | nil => rfl
  | cons a rest ih =>
      rw [firstOrLast]
      cases fit : fits a with
      | true => rw [List.find?_cons_of_pos fit, if_pos rfl]
      | false =>
          rw [List.find?_cons_of_neg (by simp [fit]), if_neg Bool.false_ne_true,
            ih]
          cases rest with
          | nil => rfl
          | cons b rest =>
              rw [List.getLast?_cons_cons]
              cases last' : (b :: rest).getLast? with
              | none => exact absurd (List.getLast?_eq_none_iff.mp last') nofun
              | some c => rfl

theorem amending_mem {find : ι → Option (Option α)} {list : List ι}
    {found : Option α} {a : α} (kept : amending find list found = some a) :
    found = some a ∨ ∃ i ∈ list, find i = some (some a) := by
  induction list generalizing found with
  | nil => exact .inl kept
  | cons i rest ih =>
      obtain here | ⟨j, listed, there⟩ := ih kept
      · cases made : find i with
        | none =>
            rw [made] at here
            exact .inl here
        | some result =>
            rw [made] at here
            exact .inr ⟨i, List.mem_cons_self, made.trans (congrArg some here)⟩
      · exact .inr ⟨j, List.mem_cons_of_mem i listed, there⟩

theorem amending_agree {find : ι → Option (Option α)} {list : List ι}
    {found result : Option α}
    (agree : ∀ i ∈ list, ∀ r ∈ find i, r = result)
    (made : found = result ∨ ∃ i ∈ list, (find i).isSome) :
    amending find list found = result := by
  induction list generalizing found with
  | nil =>
      obtain same | ⟨i, listed, -⟩ := made
      · exact same
      · exact nomatch listed
  | cons i rest ih =>
      have agrees : ∀ j ∈ rest, ∀ r ∈ find j, r = result :=
        fun j listed => agree j (List.mem_cons_of_mem i listed)
      refine ih agrees ?_
      cases here : find i with
      | some r => exact .inl (agree i List.mem_cons_self r here)
      | none =>
          obtain same | ⟨j, listed, some⟩ := made
          · exact .inl same
          · obtain rfl | listed := List.mem_cons.mp listed
            · rw [here] at some
              exact nomatch some
            · exact .inr ⟨j, listed, some⟩

end Searches
