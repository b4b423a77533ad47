import OpenSS7.Mps.Devices

/-!
When the list of open instances stays well formed and free of collisions.
-/

namespace OpenSS7.Mps

open BackLinkedList

def Comm.numbers (c : Comm) : Nat × Nat × Nat := (c.miMid, c.miSid, c.miDev)

/-- The list from the head holds these structures, in this order, and every
`mi_prev` points at the pointer that points to its structure. -/
abbrev Listed (s : Comms) (l : List Addr) : Prop :=
  Chain Place.next s.read (fun mi => (s.comm mi).miPrev) .head l

/-- The list holds exactly the structures of `linked`, and no two of them
have the same device number. -/
def WellFormed (s : Comms) (linked : List Addr) : Prop :=
  ∃ l, l.Perm linked ∧ Listed s l ∧
    l.Pairwise fun a b => (s.comm a).miDev ≠ (s.comm b).miDev

def InUse (s : Comms) (linked : List Addr) (major minor : Nat) : Prop :=
  ∃ mi ∈ linked, (s.comm mi).miDev = makedevice major minor

/-- A number not below `minor` that is not in use. -/
def Left (s : Comms) (linked : List Addr) (major minor : Nat) : Prop :=
  ∃ n, minor ≤ n ∧ n < 2 ^ 16 ∧ ¬ InUse s linked major n

namespace Op

def linked (op : Op) (outcome : Outcome) (l : List Addr) : List Addr :=
  match op with
  | .openLink (some mi) _ _ => if outcome.result = 0 then l ++ [mi] else l
  | .openLink none _ _ => l
  | .attach _ _ => l
  | .detach _ _ => l
  | .closeUnlink (some mi) => l.filter fun other => decide (other ≠ mi)
  | .closeUnlink none => l

def Legal (op : Op) (s : Comms) (l : List Addr) : Prop :=
  match op with
  | .openLink (some mi) _ _ => mi ∉ l ∧ 0 < (s.comm mi).miRefs
  | .openLink none _ _ => True
  | .attach _ _ => True
  | .detach _ (some mi) => 1 < (s.comm mi).miRefs
  | .detach _ none => True
  | .closeUnlink (some mi) => mi ∈ l ∧ 1 < (s.comm mi).miRefs
  | .closeUnlink none => True

def Answers (op : Op) (outcome : Outcome) (s : Comms) (l : List Addr) :
    Prop :=
  match op with
  | .openLink (some _) devp sflag =>
      match sflag, Comms.request devp sflag with
      | .drvopen, some (major, minor) =>
          outcome.result = ENXIO ↔ InUse s l major minor
      | .cloneopen, some (major, minor) =>
          Left s l major minor → outcome.result = 0 ∧
            ∃ n, outcome.devp = some (makedevice major n) ∧
              ¬ InUse s l major n
      | _, _ => True
  | _ => True

/-- The condition under which an open does no harm: every structure listed
carries the major number asked for in `mi_mid`, and the number to be given
comes after all those listed; or a number that is in use is found. -/
def Admits (op : Op) (s : Comms) (l : List Addr) : Prop :=
  match op with
  | .openLink (some _) devp sflag =>
      match sflag, Comms.request devp sflag with
      | .drvopen, some (major, minor) =>
          InUse s l major minor ∧
              (∀ mi ∈ l, (s.comm mi).miSid ≤ minor →
                (s.comm mi).miMid = major) ∨
            ∀ mi ∈ l, (s.comm mi).miMid = major ∧ (s.comm mi).miSid < minor
      | .cloneopen, some (major, minor) =>
          (∀ mi ∈ l, (s.comm mi).miMid = major) ∧
            (∀ mi ∈ l, ∀ n, minor ≤ n → n ≤ (s.comm mi).miSid →
              ∃ other ∈ l, (s.comm other).miSid = n) ∧
            (Left s l major minor → ∃ n, minor ≤ n ∧ n < 2 ^ 16 ∧
              ∀ mi ∈ l, (s.comm mi).miSid ≠ n)
      | .modopen, some (major, minor) =>
          (∀ mi ∈ l, (s.comm mi).miMid = major) ∧
            ∀ mi ∈ l, ∀ n, minor ≤ n → n ≤ (s.comm mi).miSid →
              ∃ other ∈ l, (s.comm other).miSid = n
      | _, _ => True
  | _ => True

end Op

structure Call where
  op : Op
  outcome : Outcome
  before : Comms
  after : Comms

def linkedRun : List Call → List Addr
  | [] => []
  | call :: earlier => call.op.linked call.outcome (linkedRun earlier)

inductive Run (start : Comms) : List Call → Comms → Prop where
  | nil : Run start [] start
  | step {trace : List Call} {s s' : Comms} {op : Op} {outcome : Outcome}
      (fuel : Nat) (run : Run start trace s)
      (legal : op.Legal s (linkedRun trace))
      (enough : (linkedRun trace).length < fuel)
      (exec : s.exec fuel op = some (s', outcome)) :
      Run start (⟨op, outcome, s, s'⟩ :: trace) s'

def AlwaysFormed : List Call → Prop
  | [] => True
  | call :: earlier =>
      (WellFormed call.after (linkedRun (call :: earlier)) ∧
        call.op.Answers call.outcome call.before (linkedRun earlier)) ∧
      AlwaysFormed earlier

def Admitted : List Call → Prop
  | [] => True
  | call :: earlier =>
      call.op.Admits call.before (linkedRun earlier) ∧ Admitted earlier

structure Sound (s : Comms) (l : List Addr) : Prop where
  listed : Listed s l
  sorted : l.Pairwise fun a b => (s.comm a).miSid < (s.comm b).miSid
  dev : ∀ mi ∈ l, getminor (s.comm mi).miDev = (s.comm mi).miSid

theorem getminor_lt (dev : Nat) : getminor dev < 2 ^ 16 :=
  Nat.mod_lt _ (by decide)

theorem getminor_makedevice {major minor : Nat} (small : minor < 2 ^ 16) :
    getminor (makedevice major minor) = minor := by
  unfold getminor makedevice
  omega

theorem request_lt {devp : Option Nat} {sflag : SFlag} {major minor : Nat}
    (asked : Comms.request devp sflag = some (major, minor)) :
    minor < 2 ^ 16 := by
  cases devp with
  | none =>
      cases sflag with
      | modopen =>
          cases asked
          decide
      | cloneopen => cases asked
      | drvopen => cases asked
      | other => cases asked
  | some dev =>
      have small := getminor_lt dev
      cases sflag with
      | cloneopen =>
          simp only [Comms.request, Option.bind_eq_bind, Option.bind_some,
            Option.some.injEq, Prod.mk.injEq] at asked
          rw [← asked.2]
          split
          · decide
          · exact small
      | drvopen =>
          simp only [Comms.request, Option.bind_eq_bind, Option.bind_some,
            Option.some.injEq, Prod.mk.injEq] at asked
          rw [← asked.2]
          exact small
      | modopen =>
          simp only [Comms.request, Option.some.injEq, Prod.mk.injEq]
            at asked
          rw [← asked.2]
          split
          · decide
          · exact small
      | other => cases asked

inductive Passes (s : Comms) (sflag : SFlag) (major : Nat) :
    Nat → List Addr → Nat → Prop where
  | nil {minor : Nat} : Passes s sflag major minor [] minor
  | under {minor n : Nat} {mi : Addr} {rest : List Addr}
      (mid : (s.comm mi).miMid = major) (sid : (s.comm mi).miSid < minor)
      (passes : Passes s sflag major minor rest n) :
      Passes s sflag major minor (mi :: rest) n
  | taken {minor n : Nat} {mi : Addr} {rest : List Addr}
      (mid : (s.comm mi).miMid = major) (sid : (s.comm mi).miSid = minor)
      (counting : sflag ≠ .drvopen) (more : minor + 1 < 2 ^ 16)
      (passes : Passes s sflag major (minor + 1) rest n) :
      Passes s sflag major minor (mi :: rest) n

inductive Ends (s : Comms) (sflag : SFlag) (major : Nat) (p : Place)
    (minor : Nat) (l : List Addr) : Search → Prop where
  | last {n : Nat} (passes : Passes s sflag major minor l n) :
      Ends s sflag major p minor l (.found (lastSlot Place.next p l) n)
  | front {a b : List Addr} {mi : Addr} {n : Nat} (split : l = a ++ mi :: b)
      (passes : Passes s sflag major minor a n)
      (stops : (s.comm mi).miMid ≠ major ∨ n < (s.comm mi).miSid) :
      Ends s sflag major p minor l (.found (lastSlot Place.next p a) n)
  | conflict {a b : List Addr} {mi : Addr} (split : l = a ++ mi :: b)
      (passes : Passes s sflag major minor a minor)
      (mid : (s.comm mi).miMid = major) (sid : (s.comm mi).miSid = minor)
      (driver : sflag = .drvopen) :
      Ends s sflag major p minor l .conflict
  | exhausted {a b : List Addr} {mi : Addr} {n : Nat}
      (split : l = a ++ mi :: b) (passes : Passes s sflag major minor a n)
      (mid : (s.comm mi).miMid = major) (sid : (s.comm mi).miSid = n)
      (counting : sflag ≠ .drvopen) (none : n + 1 = 2 ^ 16) :
      Ends s sflag major p minor l .exhausted

namespace Ends

variable {s : Comms} {sflag : SFlag} {major minor : Nat} {p : Place}
  {mi : Addr} {rest : List Addr} {r : Search}

theorem under (mid : (s.comm mi).miMid = major)
    (sid : (s.comm mi).miSid < minor)
    (ends : Ends s sflag major (.next mi) minor rest r) :
    Ends s sflag major p minor (mi :: rest) r := by
  cases ends with
  | last passes => exact .last (.under mid sid passes)
  | @front a b other n split passes stops =>
      exact .front (a := mi :: a) (by rw [split]; rfl)
        (.under mid sid passes) stops
  | @conflict a b other split passes mid' sid' driver =>
      exact .conflict (a := mi :: a) (by rw [split]; rfl)
        (.under mid sid passes) mid' sid' driver
  | @exhausted a b other n split passes mid' sid' counting none =>
      exact .exhausted (a := mi :: a) (by rw [split]; rfl)
        (.under mid sid passes) mid' sid' counting none

theorem taken (mid : (s.comm mi).miMid = major)
    (sid : (s.comm mi).miSid = minor) (counting : sflag ≠ .drvopen)
    (more : minor + 1 < 2 ^ 16)
    (ends : Ends s sflag major (.next mi) (minor + 1) rest r) :
    Ends s sflag major p minor (mi :: rest) r := by
  cases ends with
  | last passes => exact .last (.taken mid sid counting more passes)
  | @front a b other n split passes stops =>
      exact .front (a := mi :: a) (by rw [split]; rfl)
        (.taken mid sid counting more passes) stops
  | conflict _ _ _ _ driver => exact absurd driver counting
  | @exhausted a b other n split passes mid' sid' _ none =>
      exact .exhausted (a := mi :: a) (by rw [split]; rfl)
        (.taken mid sid counting more passes) mid' sid' counting none

end Ends

theorem search_spec {s : Comms} {sflag : SFlag} {major minor fuel : Nat}
    {p : Place} {l : List Addr} (small : minor < 2 ^ 16)
    (path : Path Place.next s.read (fun mi => (s.comm mi).miPrev) p l)
    (finish : s.read (lastSlot Place.next p l) = none)
    (enough : l.length < fuel) :
    ∃ r, s.search sflag major fuel p minor = some r ∧
      Ends s sflag major p minor l r := by
  induction l generalizing p minor fuel with
  | nil =>
      obtain ⟨fuel, rfl⟩ := Nat.exists_eq_add_of_lt enough
      have empty : s.read p = none := finish
      simp only [Comms.search, empty]
      exact ⟨_, rfl, .last .nil⟩
  | cons mi rest ih =>
      obtain ⟨fuel, rfl⟩ := Nat.exists_eq_add_of_lt enough
      obtain ⟨here, _, ahead⟩ := path
      have room : rest.length < (mi :: rest).length + fuel := by
        simp only [List.length_cons]
        omega
      simp only [Comms.search, here]
      by_cases mid : (s.comm mi).miMid = major
      · rw [if_neg (by simp [mid])]
        rcases Nat.lt_trichotomy minor (s.comm mi).miSid with
          less | same | more
        · rw [if_pos less]
          exact ⟨_, rfl, .front (a := []) rfl .nil (.inr less)⟩
        · rw [if_neg (by omega), if_neg (by omega)]
          by_cases driver : sflag = .drvopen
          · rw [if_pos driver]
            exact ⟨_, rfl, .conflict (a := []) rfl .nil mid same.symm driver⟩
          · rw [if_neg driver]
            by_cases full : minor + 1 = 2 ^ 16
            · rw [full, if_pos (by decide)]
              exact ⟨_, rfl,
                .exhausted (a := []) rfl .nil mid same.symm driver full⟩
            · rw [if_neg (by unfold getminor makedevice; omega)]
              obtain ⟨r, eq, ends⟩ :=
                ih (show minor + 1 < 2 ^ 16 by omega) ahead finish room
              exact ⟨r, eq, ends.taken mid same.symm driver (by omega)⟩
        · rw [if_neg (by omega), if_pos more]
          obtain ⟨r, eq, ends⟩ := ih small ahead finish room
          exact ⟨r, eq, ends.under mid more⟩
      · rw [if_pos (fun eq => mid eq.symm)]
        exact ⟨_, rfl, .front (a := []) rfl .nil (.inl mid)⟩

namespace Passes

variable {s : Comms} {sflag : SFlag} {major minor n : Nat} {l : List Addr}

theorem mid (passes : Passes s sflag major minor l n) :
    ∀ mi ∈ l, (s.comm mi).miMid = major := by
  induction passes with
  | nil => simp
  | under mid _ _ ih => simpa [mid] using ih
  | taken mid _ _ _ _ ih => simpa [mid] using ih

theorem le (passes : Passes s sflag major minor l n) : minor ≤ n := by
  induction passes with
  | nil => exact Nat.le_refl _
  | under _ _ _ ih => exact ih
  | taken _ _ _ _ _ ih => omega

theorem sid (passes : Passes s sflag major minor l n) :
    ∀ mi ∈ l, (s.comm mi).miSid < n := by
  induction passes with
  | nil => simp
  | under _ sid passes ih =>
      have := passes.le
      simp only [List.mem_cons, forall_eq_or_imp]
      exact ⟨by omega, ih⟩
  | taken _ sid _ _ passes ih =>
      have := passes.le
      simp only [List.mem_cons, forall_eq_or_imp]
      exact ⟨by omega, ih⟩

theorem counted (passes : Passes s sflag major minor l n) :
    ∀ k, minor ≤ k → k < n → ∃ mi ∈ l, (s.comm mi).miSid = k := by
  induction passes with
  | nil =>
      intro k low high
      omega
  | under _ _ _ ih =>
      intro k low high
      obtain ⟨mi, member, eq⟩ := ih k low high
      exact ⟨mi, List.mem_cons_of_mem _ member, eq⟩
  | @taken minor n mi rest _ sid _ _ _ ih =>
      intro k low high
      rcases Nat.lt_or_ge minor k with more | same
      · obtain ⟨mi, member, eq⟩ := ih k more high
        exact ⟨mi, List.mem_cons_of_mem _ member, eq⟩
      · exact ⟨mi, List.mem_cons_self, by omega⟩

theorem driver (passes : Passes s sflag major minor l n)
    (driver : sflag = .drvopen) : n = minor := by
  induction passes with
  | nil => rfl
  | under _ _ _ ih => exact ih
  | taken _ _ counting => exact absurd driver counting

theorem small (passes : Passes s sflag major minor l n)
    (low : minor < 2 ^ 16) : n < 2 ^ 16 := by
  induction passes with
  | nil => exact low
  | under _ _ _ ih => exact ih low
  | taken _ _ _ more _ ih => exact ih more

end Passes

section Access

variable {s : Comms} (mi other : Addr) (mip place : Place)
  (v : Option Addr) (major minor : Nat)

theorem modify_numbers {f : Comm → Comm}
    (same : ∀ c, (f c).numbers = c.numbers) :
    ((s.modify mi f).comm other).numbers = (s.comm other).numbers :=
  modify_field _ _ _ _ Comm.numbers same

@[simp] theorem write_numbers :
    ((s.write mip v).comm other).numbers = (s.comm other).numbers := by
  cases mip with
  | head => rfl
  | next mi =>
      rw [Comms.write, modify_numbers]
      exact fun _ => rfl
  | stack => rfl

@[simp] theorem setPrev?_numbers :
    ((s.setPrev? v mip).comm other).numbers = (s.comm other).numbers := by
  cases v with
  | none => rfl
  | some mi =>
      rw [Comms.setPrev?, modify_numbers]
      exact fun _ => rfl

theorem insert_numbers : ((s.insert mi mip major minor).comm other).numbers =
    if other = mi then (major, minor, makedevice major minor)
    else (s.comm other).numbers := by
  rw [Comms.insert, modify_numbers, write_numbers, modify_numbers,
    setPrev?_numbers, modify_comm]
  · split <;> rfl
  · exact fun _ => rfl
  · exact fun _ => rfl

theorem insert_read (mapped : mip ≠ .stack) :
    (s.insert mi mip major minor).read place =
      if place = mip then some mi
      else if place = .next mi then s.read mip
      else s.read place := by
  rw [Comms.insert, modify_read_same, write_read _ _ _ _ mapped,
    modify_read_same, setPrev?_read, modify_read]
  · exact fun _ => rfl
  · exact fun _ => rfl

theorem insert_miPrev : ((s.insert mi mip major minor).comm other).miPrev =
    if other = mi then mip
    else if s.read mip = some other then .stack
    else (s.comm other).miPrev := by
  by_cases same : other = mi
  · simp [Comms.insert, same]
  · simp [Comms.insert, same, setPrev?_miPrev]

end Access

structure Same (s s' : Comms) : Prop where
  read : ∀ p, s'.read p = s.read p
  prev : ∀ mi, (s'.comm mi).miPrev = (s.comm mi).miPrev
  sid : ∀ mi, (s'.comm mi).miSid = (s.comm mi).miSid
  dev : ∀ mi, (s'.comm mi).miDev = (s.comm mi).miDev

namespace Same

variable {s s' s'' : Comms}

theorem trans (first : Same s s') (second : Same s' s'') : Same s s'' :=
  ⟨fun p => (second.read p).trans (first.read p),
    fun mi => (second.prev mi).trans (first.prev mi),
    fun mi => (second.sid mi).trans (first.sid mi),
    fun mi => (second.dev mi).trans (first.dev mi)⟩

theorem modify {mi : Addr} {f : Comm → Comm}
    (kept : ∀ c, (f c).miNext = c.miNext ∧ (f c).miPrev = c.miPrev ∧
      (f c).miSid = c.miSid ∧ (f c).miDev = c.miDev) :
    Same s (s.modify mi f) := by
  refine ⟨?_, ?_, ?_, ?_⟩
  · exact fun p => modify_read_same _ _ _ _ fun c => (kept c).1
  · exact fun other =>
      modify_field _ _ _ _ Comm.miPrev fun c => (kept c).2.1
  · exact fun other =>
      modify_field _ _ _ _ Comm.miSid fun c => (kept c).2.2.1
  · exact fun other =>
      modify_field _ _ _ _ Comm.miDev fun c => (kept c).2.2.2

theorem setPair (q : Addr) (p : Pair) : Same s (s.setPair q p) := by
  refine ⟨?_, fun _ => rfl, fun _ => rfl, fun _ => rfl⟩
  intro place
  cases place <;> rfl

theorem grab (mi : Addr) : Same s (s.miGrab mi) :=
  modify fun _ => ⟨rfl, rfl, rfl, rfl⟩

theorem put {mi : Addr} (done : s.miPut mi = some s') : Same s s' := by
  unfold Comms.miPut at done
  split at done
  · cases done
  · cases done
    exact modify fun _ => ⟨rfl, rfl, rfl, rfl⟩

theorem attach (q mi : Addr) : Same s (s.miAttach q mi) := by
  unfold Comms.miAttach
  refine (grab mi).trans (trans ?_ (setPair _ _))
  exact modify fun _ => ⟨rfl, rfl, rfl, rfl⟩

theorem detach {q : Addr} {ptr : Option Addr}
    (done : s.miDetach q ptr = some s') : Same s s' := by
  cases ptr with
  | none =>
      cases done
      exact setPair _ _
  | some mi =>
      refine trans (trans ?_ (setPair _ _)) (put (s := s.detach q mi) done)
      exact modify fun _ => ⟨rfl, rfl, rfl, rfl⟩

theorem listed (same : Same s s') {l : List Addr} (listed : Listed s l) :
    Listed s' l := by
  have hread : s'.read = s.read := funext same.read
  have hback : (fun mi => (s'.comm mi).miPrev) =
      fun mi => (s.comm mi).miPrev := funext same.prev
  rw [Listed, hread, hback]
  exact listed

theorem sound (same : Same s s') {l : List Addr} (sound : Sound s l) :
    Sound s' l := by
  refine ⟨same.listed sound.listed, ?_, ?_⟩
  · simp only [same.sid]
    exact sound.sorted
  · simp only [same.sid, same.dev]
    exact sound.dev

end Same

namespace Sound

variable {s s' : Comms} {l a b : List Addr} {mi : Addr}

theorem nodup (sound : Sound s l) : l.Nodup :=
  (List.nodup_cons.1 sound.listed.slots).2.of_map

theorem wellFormed (sound : Sound s l) : WellFormed s l := by
  refine ⟨l, .refl l, sound.listed, ?_⟩
  refine sound.sorted.imp_of_mem ?_
  intro one two member member' less same
  rw [← sound.dev one member, ← sound.dev two member', same] at less
  exact Nat.lt_irrefl _ less

theorem unused (sound : Sound s l) {major minor : Nat}
    (small : minor < 2 ^ 16)
    (above : ∀ mi ∈ l, (s.comm mi).miSid ≠ minor) :
    ¬ InUse s l major minor := by
  rintro ⟨mi, member, eq⟩
  refine above mi member ?_
  rw [← sound.dev mi member, eq, getminor_makedevice small]

theorem slot_ne (off : mi ∉ l) :
    lastSlot Place.next .head l ≠ .stack ∧
      lastSlot Place.next .head l ≠ .next mi := by
  have member := @lastSlot_mem _ _ Place.next .head l
  constructor
  · intro eq
    rw [eq] at member
    simp at member
  · intro eq
    rw [eq] at member
    simp only [List.mem_cons, reduceCtorEq, List.mem_map, Place.next.injEq,
      exists_eq_right, false_or] at member
    exact off member

theorem insert (sound : Sound s l) (off : mi ∉ l) {major minor : Nat}
    (small : minor < 2 ^ 16)
    (above : ∀ other ∈ l, (s.comm other).miSid < minor) :
    Sound (s.insert mi (lastSlot Place.next .head l) major minor)
      (l ++ [mi]) := by
  obtain ⟨mapped, apart⟩ := slot_ne off
  have kept : ∀ other ∈ l,
      ((s.insert mi (lastSlot Place.next .head l) major minor).comm
        other).numbers = (s.comm other).numbers := by
    intro other member
    rw [insert_numbers, if_neg]
    rintro rfl
    exact off member
  have own : ((s.insert mi (lastSlot Place.next .head l) major minor).comm
      mi).numbers = (major, minor, makedevice major minor) := by
    rw [insert_numbers, if_pos rfl]
  have finish := sound.listed.finish
  simp only [Comm.numbers, Prod.mk.injEq] at kept own
  refine ⟨?_, ?_, ?_⟩
  · refine sound.listed.append ?_ off ?_ ?_ ?_ ?_ ?_
    · simpa using off
    · rw [insert_read _ _ _ _ _ mapped, if_pos rfl]
    · rw [insert_read _ _ _ _ _ mapped, if_neg (Ne.symm apart), if_pos rfl,
        finish]
    · rw [insert_miPrev, if_pos rfl]
    · intro q different different'
      rw [insert_read _ _ _ _ _ mapped, if_neg different,
        if_neg different']
    · intro other different
      rw [insert_miPrev, if_neg different, finish, if_neg (by simp)]
  · rw [List.pairwise_append]
    refine ⟨?_, List.pairwise_singleton _ _, ?_⟩
    · refine sound.sorted.imp_of_mem ?_
      intro one two member member' less
      rw [(kept one member).2.1, (kept two member').2.1]
      exact less
    · intro other member new member'
      rw [List.mem_singleton.1 member', (kept other member).2.1, own.2.1]
      exact above other member
  · intro other member
    rcases List.mem_append.1 member with member | member
    · rw [(kept other member).2.1, (kept other member).2.2]
      exact sound.dev other member
    · rw [List.mem_singleton.1 member, own.2.1, own.2.2,
        getminor_makedevice small]

theorem filter_ne (nodup : (a ++ mi :: b).Nodup) :
    (a ++ mi :: b).filter (fun other => decide (other ≠ mi)) = a ++ b := by
  rw [List.nodup_middle, List.nodup_cons, List.mem_append] at nodup
  rw [List.filter_append, List.filter_cons_of_neg (by simp),
    List.filter_eq_self.2, List.filter_eq_self.2]
  · intro other member
    simp only [decide_eq_true_eq]
    rintro rfl
    exact nodup.1 (.inr member)
  · intro other member
    simp only [decide_eq_true_eq]
    rintro rfl
    exact nodup.1 (.inl member)

theorem unlink (sound : Sound s l) (member : mi ∈ l)
    (done : s.miCloseUnlink (some mi) = some s') :
    Sound s' (l.filter fun other => decide (other ≠ mi)) := by
  obtain ⟨a, b, rfl⟩ := List.append_of_mem member
  have nodup := sound.nodup
  rw [filter_ne nodup]
  obtain ⟨_, behind, _⟩ := read_lastSlot sound.listed.path
  obtain ⟨apart, _, _⟩ := sound.listed.split
  have mapped : lastSlot Place.next .head a ≠ .stack := by
    have member := @lastSlot_mem _ _ Place.next .head a
    intro eq
    rw [eq] at member
    simp at member
  refine Same.sound (Same.put (s := s.unlink mi) done) ?_
  have kept : ∀ other,
      ((s.unlink mi).comm other).numbers = (s.comm other).numbers := by
    intro other
    rw [Comms.unlink, modify_numbers, setPrev?_numbers, write_numbers]
    exact fun _ => rfl
  simp only [Comm.numbers, Prod.mk.injEq] at kept
  refine ⟨?_, ?_, ?_⟩
  · refine sound.listed.remove nodup ?_ ?_ ?_
    · rw [Comms.unlink, modify_read, behind, if_neg apart, setPrev?_read,
        write_read _ _ _ _ mapped, if_pos rfl]
      rfl
    · intro q different different'
      rw [Comms.unlink, modify_read, behind, if_neg different',
        setPrev?_read, write_read _ _ _ _ mapped, if_neg different]
    · intro other different
      rw [Comms.unlink, modify_comm, if_neg different, setPrev?_miPrev,
        write_miPrev, write_miPrev, behind]
      rfl
  · refine List.Pairwise.imp ?_ (sound.sorted.sublist
      ((List.Sublist.refl a).append (List.sublist_cons_self mi b)))
    intro one two less
    rw [(kept one).2.1, (kept two).2.1]
    exact less
  · intro other member
    rw [(kept other).2.1, (kept other).2.2]
    refine sound.dev other ?_
    simp only [List.mem_append, List.mem_cons] at member ⊢
    tauto

end Sound

theorem not_wellFormed {s : Comms} {linked : List Addr} {mi : Addr}
    (member : mi ∈ linked) (stale : (s.comm mi).miPrev = .stack) :
    ¬ WellFormed s linked := by
  rintro ⟨l, perm, listed, _⟩
  obtain ⟨a, b, rfl⟩ := List.append_of_mem (perm.mem_iff.2 member)
  obtain ⟨_, behind, _⟩ := read_lastSlot listed.path
  have slot := @lastSlot_mem _ _ Place.next .head a
  rw [← behind, stale] at slot
  simp at slot

section Open

variable {s : Comms} {l a b : List Addr} {mi x : Addr} {devp : Option Nat}
  {sflag : SFlag} {major minor n : Nat} {o : Outcome}

theorem search_grab (fuel : Nat) (p : Place) :
    (s.miGrab mi).search sflag major fuel p minor =
      s.search sflag major fuel p minor := by
  have same := Same.grab (s := s) mi
  have mid : ∀ other, ((s.miGrab mi).comm other).miMid =
      (s.comm other).miMid := by
    intro other
    rw [Comms.miGrab, modify_comm]
    split <;> rfl
  induction fuel generalizing p minor with
  | zero => rfl
  | succ fuel ih => simp only [Comms.search, same.read, same.sid, mid, ih]

theorem sid_le (sound : Sound s (a ++ x :: b)) {other : Addr}
    (member : other ∈ a ++ x :: b) (behind : other ∉ a) :
    (s.comm x).miSid ≤ (s.comm other).miSid := by
  obtain ⟨_, back, _⟩ := List.pairwise_append.1 sound.sorted
  rcases List.mem_append.1 member with member | member
  · exact absurd member behind
  · rcases List.mem_cons.1 member with rfl | member
    · exact Nat.le_refl _
    · exact Nat.le_of_lt ((List.pairwise_cons.1 back).1 other member)

theorem sid_of_inUse (sound : Sound s l) (small : minor < 2 ^ 16)
    (inUse : InUse s l major minor) :
    ∃ other ∈ l, (s.comm other).miSid = minor := by
  obtain ⟨other, member, eq⟩ := inUse
  refine ⟨other, member, ?_⟩
  rw [← sound.dev other member, eq, getminor_makedevice small]

theorem last_answers (sound : Sound s l)
    (asked : Comms.request devp sflag = some (major, minor))
    (passes : Passes s sflag major minor l n)
    (result : o.result = 0)
    (given : sflag = .cloneopen → o.devp = some (makedevice major n)) :
    (Op.openLink (some mi) devp sflag).Answers o s l := by
  have low := request_lt asked
  have unused : ¬ InUse s l major n := by
    refine sound.unused (passes.small low) ?_
    exact fun other member => Nat.ne_of_lt (passes.sid other member)
  cases sflag with
  | cloneopen =>
      simp only [Op.Answers, asked]
      exact fun _ => ⟨result, n, given rfl, unused⟩
  | drvopen =>
      simp only [Op.Answers, asked, result]
      rw [passes.driver rfl] at unused
      exact iff_of_false (by decide) unused
  | modopen => trivial
  | other => trivial

theorem last_admits
    (asked : Comms.request devp sflag = some (major, minor))
    (passes : Passes s sflag major minor l n) :
    (Op.openLink (some mi) devp sflag).Admits s l := by
  have low := request_lt asked
  have noGap : ∀ mi ∈ l, ∀ k, minor ≤ k → k ≤ (s.comm mi).miSid →
      ∃ other ∈ l, (s.comm other).miSid = k := by
    intro mi member k from_ upto
    exact passes.counted k from_
      (Nat.lt_of_le_of_lt upto (passes.sid mi member))
  cases sflag with
  | cloneopen =>
      simp only [Op.Admits, asked]
      refine ⟨passes.mid, noGap, fun _ => ⟨n, passes.le, passes.small low, ?_⟩⟩
      exact fun other member => Nat.ne_of_lt (passes.sid other member)
  | drvopen =>
      simp only [Op.Admits, asked]
      right
      intro mi member
      rw [← passes.driver rfl]
      exact ⟨passes.mid mi member, passes.sid mi member⟩
  | modopen =>
      simp only [Op.Admits, asked]
      exact ⟨passes.mid, noGap⟩
  | other => cases asked

theorem front_admits (sound : Sound s (a ++ x :: b))
    (asked : Comms.request devp sflag = some (major, minor))
    (passes : Passes s sflag major minor a n)
    (stops : (s.comm x).miMid ≠ major ∨ n < (s.comm x).miSid) :
    ¬ (Op.openLink (some mi) devp sflag).Admits s (a ++ x :: b) := by
  have low := request_lt asked
  have here : x ∈ a ++ x :: b := by simp
  have gap : (∀ mi ∈ a ++ x :: b, (s.comm mi).miMid = major) →
      ¬ ∀ mi ∈ a ++ x :: b, ∀ k, minor ≤ k → k ≤ (s.comm mi).miSid →
        ∃ other ∈ a ++ x :: b, (s.comm other).miSid = k := by
    intro mids noGap
    have less : n < (s.comm x).miSid :=
      stops.resolve_left (fun different => different (mids x here))
    obtain ⟨other, member, eq⟩ := noGap x here n passes.le (by omega)
    have behind : other ∉ a := by
      intro passed
      have := passes.sid other passed
      omega
    have := sid_le sound member behind
    omega
  cases sflag with
  | cloneopen =>
      simp only [Op.Admits, asked]
      exact fun admitted => gap admitted.1 admitted.2.1
  | drvopen =>
      have start := passes.driver rfl
      simp only [Op.Admits, asked]
      rintro (⟨inUse, mids⟩ | above)
      · obtain ⟨other, member, eq⟩ := sid_of_inUse sound low inUse
        have behind : other ∉ a := by
          intro passed
          have := passes.sid other passed
          omega
        have le := sid_le sound member behind
        rcases stops with different | less
        · exact different (mids x here (by omega))
        · omega
      · obtain ⟨mid, less⟩ := above x here
        rcases stops with different | more
        · exact different mid
        · omega
  | modopen =>
      simp only [Op.Admits, asked]
      exact fun admitted => gap admitted.1 admitted.2
  | other => cases asked

theorem conflict_admits (sound : Sound s (a ++ x :: b))
    (asked : Comms.request devp .drvopen = some (major, minor))
    (passes : Passes s .drvopen major minor a minor)
    (mid : (s.comm x).miMid = major) (sid : (s.comm x).miSid = minor)
    (result : o.result = ENXIO) :
    (Op.openLink (some mi) devp .drvopen).Answers o s (a ++ x :: b) ↔
      (Op.openLink (some mi) devp .drvopen).Admits s (a ++ x :: b) := by
  simp only [Op.Answers, Op.Admits, asked, result, true_iff]
  constructor
  · intro inUse
    refine .inl ⟨inUse, ?_⟩
    intro other member low
    by_cases passed : other ∈ a
    · exact passes.mid other passed
    · have := sid_le sound member passed
      rcases List.mem_append.1 member with member | member
      · exact absurd member passed
      · rcases List.mem_cons.1 member with rfl | member
        · exact mid
        · obtain ⟨_, back, _⟩ := List.pairwise_append.1 sound.sorted
          have := (List.pairwise_cons.1 back).1 other member
          omega
  · rintro (⟨inUse, _⟩ | above)
    · exact inUse
    · have := (above x (by simp)).2
      omega

theorem exhausted_admits (sound : Sound s (a ++ x :: b))
    (asked : Comms.request devp sflag = some (major, minor))
    (passes : Passes s sflag major minor a n)
    (mid : (s.comm x).miMid = major) (sid : (s.comm x).miSid = n)
    (counting : sflag ≠ .drvopen) (none : n + 1 = 2 ^ 16)
    (result : o.result = EAGAIN) :
    (Op.openLink (some mi) devp sflag).Answers o s (a ++ x :: b) ↔
      (Op.openLink (some mi) devp sflag).Admits s (a ++ x :: b) := by
  have final : b = [] := by
    cases b with
    | nil => rfl
    | cons next rest =>
        obtain ⟨_, back, _⟩ := List.pairwise_append.1 sound.sorted
        have less := (List.pairwise_cons.1 back).1 next (by simp)
        have small := getminor_lt (s.comm next).miDev
        rw [sound.dev next (by simp)] at small
        omega
  subst final
  have mids : ∀ mi ∈ a ++ [x], (s.comm mi).miMid = major := by
    intro mi member
    rcases List.mem_append.1 member with member | member
    · exact passes.mid mi member
    · rw [List.mem_singleton.1 member, mid]
  have every : ∀ k, minor ≤ k → k ≤ n →
      ∃ other ∈ a ++ [x], (s.comm other).miSid = k := by
    intro k low high
    rcases Nat.lt_or_ge k n with less | more
    · obtain ⟨other, member, eq⟩ := passes.counted k low less
      exact ⟨other, List.mem_append_left _ member, eq⟩
    · exact ⟨x, by simp, by omega⟩
  have noGap : ∀ mi ∈ a ++ [x], ∀ k, minor ≤ k → k ≤ (s.comm mi).miSid →
      ∃ other ∈ a ++ [x], (s.comm other).miSid = k := by
    intro mi member k low high
    refine every k low (Nat.le_trans high ?_)
    rcases List.mem_append.1 member with member | member
    · exact Nat.le_of_lt (passes.sid mi member)
    · exact Nat.le_of_eq (by rw [List.mem_singleton.1 member, sid])
  cases sflag with
  | cloneopen =>
      simp only [Op.Answers, Op.Admits, asked, result]
      constructor
      · intro answered
        refine ⟨mids, noGap, fun left => ?_⟩
        exact absurd (answered left).1 (by decide)
      · rintro ⟨_, _, more⟩ left
        obtain ⟨k, low, high, unlisted⟩ := more left
        obtain ⟨other, member, eq⟩ := every k low (by omega)
        exact absurd eq (unlisted other member)
  | drvopen => exact absurd rfl counting
  | modopen =>
      simp only [Op.Answers, Op.Admits, asked, true_iff]
      exact ⟨mids, noGap⟩
  | other => cases asked

end Open

section Step

variable {s s' : Comms} {l : List Addr} {mi : Addr} {devp : Option Nat}
  {sflag : SFlag} {fuel : Nat} {o : Outcome} {op : Op}

def Exact (op : Op) (o : Outcome) (s s' : Comms) (l : List Addr) : Prop :=
  (WellFormed s' (op.linked o l) ∧ op.Answers o s l ↔ op.Admits s l) ∧
    (op.Admits s l → Sound s' (op.linked o l))

theorem Exact.same (sound : Sound s' (op.linked o l))
    (answers : op.Answers o s l ↔ op.Admits s l) : Exact op o s s' l :=
  ⟨⟨fun right => answers.1 right.2,
      fun admits => ⟨sound.wellFormed, answers.2 admits⟩⟩, fun _ => sound⟩

theorem openLink_exact (sound : Sound s l) (off : mi ∉ l)
    (enough : l.length < fuel)
    (done : s.exec fuel (.openLink (some mi) devp sflag) = some (s', o)) :
    Exact (.openLink (some mi) devp sflag) o s s' l := by
  simp only [Comms.exec, Option.bind_eq_bind, Option.bind_eq_some_iff]
    at done
  obtain ⟨⟨s₁, devp', result⟩, opened, done⟩ := done
  cases done
  cases asked : Comms.request devp sflag with
  | none =>
      simp only [Comms.miOpenLink, asked, Option.some.injEq,
        Prod.mk.injEq] at opened
      obtain ⟨rfl, rfl, rfl⟩ := opened
      refine Exact.same ?_ ?_
      · exact sound
      · cases sflag <;> simp [Op.Answers, Op.Admits, asked]
  | some numbers =>
      obtain ⟨major, minor⟩ := numbers
      have low := request_lt asked
      have same := Same.grab (s := s) mi
      simp only [Comms.miOpenLink, asked, Comms.linkLocked,
        Option.bind_eq_bind, search_grab] at opened
      obtain ⟨r, searched, ends⟩ :=
        @search_spec _ sflag major _ _ _ _ low sound.listed.path
          sound.listed.finish enough
      rw [searched, Option.bind_some] at opened
      cases ends with
      | @last n passes =>
          simp only [Option.some.injEq, Prod.mk.injEq] at opened
          obtain ⟨rfl, rfl, rfl⟩ := opened
          have admits := @last_admits _ _ mi _ _ _ _ _ asked passes
          have above : ∀ other ∈ l,
              ((s.miGrab mi).comm other).miSid < n := by
            simp only [same.sid]
            exact passes.sid
          have sound' := @Sound.insert _ _ _ (same.sound sound) off
            major _ (passes.small low) above
          have answers := @last_answers _ _ mi _ _ _ _ _
            ⟨0, if sflag = .cloneopen then some (makedevice major n)
              else devp⟩ sound asked passes rfl
            (fun clone => by rw [if_pos clone])
          exact ⟨iff_of_true ⟨sound'.wellFormed, answers⟩ admits,
            fun _ => sound'⟩
      | @front a b x n split passes stops =>
          simp only [Option.some.injEq, Prod.mk.injEq] at opened
          obtain ⟨rfl, rfl, rfl⟩ := opened
          subst split
          have refused := @front_admits _ _ _ mi _ _ _ _ _ _ sound
            asked passes stops
          refine ⟨iff_of_false ?_ refused, fun admits => absurd admits refused⟩
          refine fun right => @not_wellFormed _ _ x ?_ ?_ right.1
          · simp [Op.linked]
          · obtain ⟨here, _, _⟩ :=
              read_lastSlot (same.sound sound).listed.path
            have different : x ≠ mi := by
              rintro rfl
              exact off (by simp)
            rw [insert_miPrev, if_neg different, if_pos here]
      | @conflict a b x split passes mid sid driver =>
          simp only [Option.bind_eq_some_iff, Option.some.injEq,
            Prod.mk.injEq] at opened
          obtain ⟨s₂, put, rfl, rfl, rfl⟩ := opened
          subst split driver
          refine Exact.same ((same.trans (.put put)).sound sound) ?_
          exact conflict_admits sound asked passes mid sid rfl
      | @exhausted a b x n split passes mid sid counting none =>
          simp only [Option.bind_eq_some_iff, Option.some.injEq,
            Prod.mk.injEq] at opened
          obtain ⟨s₂, put, rfl, rfl, rfl⟩ := opened
          subst split
          refine Exact.same ((same.trans (.put put)).sound sound) ?_
          exact exhausted_admits sound asked passes mid sid counting none rfl

theorem exec_exact (sound : Sound s l) (legal : op.Legal s l)
    (enough : l.length < fuel) (done : s.exec fuel op = some (s', o)) :
    Exact op o s s' l := by
  cases op with
  | openLink ptr devp sflag =>
      cases ptr with
      | none =>
          simp only [Comms.exec, Comms.miOpenLink, Option.bind_eq_bind,
            Option.bind_some, Option.some.injEq, Prod.mk.injEq] at done
          obtain ⟨rfl, rfl⟩ := done
          exact .same sound Iff.rfl
      | some mi => exact openLink_exact sound legal.1 enough done
  | attach q mi =>
      cases done
      exact .same ((Same.attach q mi).sound sound) Iff.rfl
  | detach q ptr =>
      simp only [Comms.exec, Option.bind_eq_bind, Option.bind_eq_some_iff]
        at done
      obtain ⟨s₁, detached, done⟩ := done
      cases done
      exact .same ((Same.detach detached).sound sound) Iff.rfl
  | closeUnlink ptr =>
      simp only [Comms.exec, Option.bind_eq_bind, Option.bind_eq_some_iff]
        at done
      obtain ⟨s₁, unlinked, done⟩ := done
      cases done
      cases ptr with
      | none =>
          cases unlinked
          exact .same sound Iff.rfl
      | some mi => exact .same (sound.unlink legal.1 unlinked) Iff.rfl

end Step

section Returns

variable {s : Comms} {l : List Addr} {mi other : Addr} {fuel : Nat}
  {op : Op}

theorem modify_miRefs {f : Comm → Comm}
    (same : ∀ c, (f c).miRefs = c.miRefs) :
    ((s.modify mi f).comm other).miRefs = (s.comm other).miRefs :=
  modify_field _ _ _ _ Comm.miRefs same

theorem write_miRefs (mip : Place) (v : Option Addr) :
    ((s.write mip v).comm other).miRefs = (s.comm other).miRefs := by
  cases mip with
  | head => rfl
  | next mi =>
      rw [Comms.write, modify_miRefs]
      exact fun _ => rfl
  | stack => rfl

theorem setPrev?_miRefs (v : Option Addr) (mip : Place) :
    ((s.setPrev? v mip).comm other).miRefs = (s.comm other).miRefs := by
  cases v with
  | none => rfl
  | some mi =>
      rw [Comms.setPrev?, modify_miRefs]
      exact fun _ => rfl

theorem put_returns (held : 1 < (s.comm mi).miRefs) :
    ∃ s', s.miPut mi = some s' := by
  rw [Comms.miPut, if_neg (by omega)]
  exact ⟨_, rfl⟩

theorem grab_put_returns (held : 0 < (s.comm mi).miRefs) :
    ∃ s', (s.miGrab mi).miPut mi = some s' := by
  apply put_returns
  rw [Comms.miGrab, modify_comm, if_pos rfl]
  simp only
  omega

theorem exec_returns (sound : Sound s l) (legal : op.Legal s l)
    (enough : l.length < fuel) :
    ∃ s' o, s.exec fuel op = some (s', o) := by
  cases op with
  | openLink ptr devp sflag =>
      cases ptr with
      | none => exact ⟨_, _, rfl⟩
      | some mi =>
          cases asked : Comms.request devp sflag with
          | none =>
              refine ⟨s, ⟨EINVAL, devp⟩, ?_⟩
              simp only [Comms.exec, Comms.miOpenLink, asked]
              rfl
          | some numbers =>
              obtain ⟨r, searched, _⟩ :=
                @search_spec _ sflag numbers.1 _ _ _ _ (request_lt asked)
                  sound.listed.path sound.listed.finish enough
              obtain ⟨s', put⟩ := grab_put_returns legal.2
              simp only [Comms.exec, Comms.miOpenLink, asked,
                Comms.linkLocked, Option.bind_eq_bind, search_grab, searched,
                Option.bind_some]
              cases r with
              | found mip cminor => exact ⟨_, _, rfl⟩
              | conflict =>
                  simp only [put, Option.bind_some]
                  exact ⟨_, _, rfl⟩
              | exhausted =>
                  simp only [put, Option.bind_some]
                  exact ⟨_, _, rfl⟩
  | attach q mi => exact ⟨_, _, rfl⟩
  | detach q ptr =>
      cases ptr with
      | none => exact ⟨_, _, rfl⟩
      | some mi =>
          have held : 1 < ((s.detach q mi).comm mi).miRefs := by
            rw [Comms.detach, setPair_comm, modify_miRefs]
            · exact legal
            · exact fun _ => rfl
          obtain ⟨s', put⟩ := put_returns held
          simp only [Comms.exec, Comms.miDetach, put, Option.bind_eq_bind,
            Option.bind_some]
          exact ⟨_, _, rfl⟩
  | closeUnlink ptr =>
      cases ptr with
      | none => exact ⟨_, _, rfl⟩
      | some mi =>
          have held : 1 < ((s.unlink mi).comm mi).miRefs := by
            rw [Comms.unlink, modify_miRefs, setPrev?_miRefs, write_miRefs]
            · exact legal.2
            · exact fun _ => rfl
          obtain ⟨s', put⟩ := put_returns held
          simp only [Comms.exec, Comms.miCloseUnlink, put,
            Option.bind_eq_bind, Option.bind_some]
          exact ⟨_, _, rfl⟩

end Returns

theorem Sound.empty {s : Comms} (empty : s.miHead = none) : Sound s [] :=
  ⟨⟨List.nodup_singleton _, trivial, empty⟩, List.Pairwise.nil, by simp⟩

theorem Admitted.sound {start s : Comms} {trace : List Call}
    (empty : start.miHead = none) (run : Run start trace s)
    (admitted : Admitted trace) : Sound s (linkedRun trace) := by
  induction run with
  | nil => exact .empty empty
  | step fuel run legal enough exec ih =>
      exact (exec_exact (ih admitted.2) legal enough exec).2 admitted.1

/-- From an empty list, the list of instances is well formed, free of
collisions and rightly answered throughout a run exactly when every open of
the run is admitted; every further legal call then returns. -/
theorem instances_formed_iff {start s : Comms} {trace : List Call}
    (empty : start.miHead = none) (run : Run start trace s) :
    (AlwaysFormed trace ↔ Admitted trace) ∧
      (Admitted trace → ∀ op fuel, op.Legal s (linkedRun trace) →
        (linkedRun trace).length < fuel →
          ∃ s' o, s.exec fuel op = some (s', o)) := by
  refine ⟨?_, fun admitted _ _ => exec_returns (admitted.sound empty run)⟩
  induction run with
  | nil => exact Iff.rfl
  | step fuel run legal enough exec ih =>
      simp only [AlwaysFormed, Admitted, linkedRun, ih]
      rw [and_congr_left_iff]
      intro admitted
      exact (exec_exact (admitted.sound empty run) legal enough exec).1

/-- An empty list, with structures as `mi_open_obj` leaves them, and queues
of a module. -/
def Comms.fresh (miIdnum : Nat) : Comms where
  miHead := none
  comm := fun mi =>
    { miPrev := .next mi
      miHead := some (.next mi)
      miNext := none
      miMid := 0
      miSid := 0
      miBcid := 0
      miUsers := 0
      miWaitSleep := false
      miWaitRq := false
      miWaitWq := false
      miQ := none
      miRefs := 1
      miWaiter := none
      miDev := 0 }
  pair := fun _ => ⟨none, miIdnum⟩

theorem instances_formed_iff_ascending :
    ∃ trace s, Run (Comms.fresh 7) trace s ∧ trace.length = 3 ∧
      AlwaysFormed trace := by
  have one := @Run.step (Comms.fresh 7) _ _ _
    (.openLink (some 1) (some (makedevice 5 1)) .drvopen) _ 1 .nil
    ⟨by decide, by decide⟩ (by decide) rfl
  have two := @Run.step _ _ _ _
    (.openLink (some 2) (some (makedevice 5 2)) .drvopen) _ 2 one
    ⟨by decide, by decide⟩ (by decide) rfl
  have gone := @Run.step _ _ _ _ (.closeUnlink (some 1)) _ 3 two
    ⟨by decide, by decide⟩ (by decide) rfl
  refine ⟨_, _, gone, rfl, ((instances_formed_iff rfl gone).1).2 ?_⟩
  refine ⟨trivial, .inr ?_, .inr ?_, trivial⟩
  · decide
  · decide

theorem instances_collide :
    ∃ trace s, Run (Comms.fresh 7) trace s ∧
      (∃ call ∈ trace, call.op =
          .openLink (some 2) (some (makedevice 5 1)) .drvopen ∧
        call.outcome.result = 0 ∧ InUse call.before [1] 5 1) ∧
      ¬ WellFormed s (linkedRun trace) := by
  have one := @Run.step (Comms.fresh 7) _ _ _
    (.openLink (some 1) (some (makedevice 5 1)) .drvopen) _ 1 .nil
    ⟨by decide, by decide⟩ (by decide) rfl
  have attached := @Run.step _ _ _ _ (.attach 9 1) _ 2 one trivial
    (by decide) rfl
  have two := @Run.step _ _ _ _
    (.openLink (some 2) (some (makedevice 5 1)) .drvopen) _ 2 attached
    ⟨by decide, by decide⟩ (by decide) rfl
  refine ⟨_, _, two, ⟨_, List.mem_cons_self, rfl, rfl, ?_⟩, ?_⟩
  · exact ⟨1, List.mem_cons_self, rfl⟩
  · exact @not_wellFormed _ _ 1 (by decide) rfl

end OpenSS7.Mps
