import OpenSS7.M2pa.Window

/-!
The receiving side: messages are accepted once and in the order of their
numbers, and acknowledged when they have been passed upstream.
-/

namespace OpenSS7.M2pa

open Program

namespace View

/-- The messages accepted since the start, with an empty `rb` there. -/
structure Sequence (v : View) : Prop where
  numbers : v.version.bare = false
  numbered : ∀ i p, v.accepted[i]? = some p → p.1 = i % v.version.space
  queued : v.delivered ++ v.rb = v.accepted.map Prod.snd
  next : v.fsnx = v.accepted.length % 2 ^ 24
  last : v.fsnr + 1 ≡ v.delivered.length [MOD 2 ^ 24]
  told : ∀ p ∈ v.sent, ∀ bsn, p.1.numbers.bsn = some bsn →
    p.2 ≤ v.delivered.length ∧ bsn + 1 ≡ p.2 [MOD v.version.space]

theorem Sequence.send {v : View} (sequence : v.Sequence) {pdu : Pdu}
    (told : v.Told pdu) : (v.send pdu).Sequence :=
  { sequence with
    told := by
      intro p inside bsn found
      rcases List.mem_append.1 inside with before | now
      · exact sequence.told p before bsn found
      · obtain rfl := List.mem_singleton.1 now
        refine ⟨Nat.le_refl _, ?_⟩
        calc bsn + 1
            = v.fsnr % v.version.space + 1 := by rw [told bsn found]
          _ ≡ v.fsnr + 1 [MOD v.version.space] :=
              (Nat.mod_modEq _ _).add_right 1
          _ ≡ v.delivered.length [MOD v.version.space] :=
              sequence.last.of_dvd v.version.space_dvd }

theorem Sequence.accept {v : View} (sequence : v.Sequence) {fsn : Nat}
    {octets : List UInt8} (expected : fsn = v.fsnx % v.version.space) :
    (v.accept fsn octets).Sequence where
  numbers := sequence.numbers
  numbered := by
    intro i p found
    simp only [View.accept, List.getElem?_append] at found
    split at found
    case isTrue => exact sequence.numbered i p found
    case isFalse beyond =>
      rw [List.getElem?_eq_some_iff] at found
      obtain ⟨inside, rfl⟩ := found
      simp only [List.length_singleton] at inside
      have here : i = v.accepted.length := by omega
      rw [List.getElem_singleton, expected, sequence.next, here]
      exact v.version.mod_space _
  queued := by
    simp only [View.accept, List.map_append, ← sequence.queued]
    simp
  next := by
    simp only [View.accept, sequence.next, List.length_append,
      List.length_singleton]
    omega
  last := sequence.last
  told := sequence.told

theorem Sequence.deliver {v : View} (sequence : v.Sequence)
    {octets : List UInt8} {rest : List (List UInt8)}
    (held : v.rb = octets :: rest) : (v.deliver octets rest).Sequence :=
  { sequence with
    queued := by
      simp only [View.deliver, ← sequence.queued, held]
      simp
    last := by
      simp only [View.deliver, List.length_append, List.length_singleton]
      exact ((Nat.mod_modEq _ _).add_right 1).trans
        (sequence.last.add_right 1)
    told := by
      intro p inside bsn found
      obtain ⟨before, number⟩ := sequence.told p inside bsn found
      refine ⟨?_, number⟩
      simp only [View.deliver, List.length_append]
      omega }

theorem sequence_receiving : Receiving Sequence where
  send _ _ told sequence := sequence.send told
  extend _ _ sequence := { sequence with }
  congest _ _ sequence := { sequence with }
  turn _ _ _ _ _ sequence := { sequence with }
  slip _ _ _ _ _ sequence := { sequence with }
  misstep _ _ sequence := { sequence with }
  loose _ _ _ _ _ _ _ sequence := { sequence with }
  empty _ _ sequence := { sequence with }
  recover _ sequence := { sequence with }
  renumber _ _ _ sequence := { sequence with }
  acknowledge _ _ _ _ sequence := ⟨{ sequence with }, fun _ => { sequence with }⟩
  accept _ _ _ expected sequence :=
    sequence.accept (expected sequence.numbers)
  deliver _ _ _ held sequence := sequence.deliver held
  enter _ sequence := { sequence with told := nofun }

theorem Sequence.reset {v : View} (numbers : v.version.bare = false)
    (empty : v.rb = []) (sent : v.sent = []) : v.reset.Sequence where
  numbers := numbers
  numbered := nofun
  queued := empty
  next := rfl
  last := by
    show 0xffffff + 1 ≡ 0 [MOD 2 ^ 24]
    decide
  told := by
    show ∀ p ∈ v.sent, _
    simp [sent]

end View

theorem View.intake_lasting
    (P : Version → Nat → List (List UInt8) → Prop) :
    Lasting fun v => P v.version v.fsnx v.rb where
  send _ _ _ h := h
  extend _ _ h := h
  congest _ _ h := h
  turn _ _ _ _ _ h := h
  slip _ _ _ _ _ h := h
  misstep _ _ h := h
  loose _ _ _ _ _ _ _ h := h
  empty _ _ h := h
  recover _ h := h
  renumber _ _ _ h := h
  acknowledge _ _ _ _ h := ⟨h, fun _ => h⟩

theorem slRecvMsg_unchanged (s : Sl) (octets : List UInt8) :
    Triple (fun t => t.fsnx = s.fsnx ∧ t.rb = s.rb) (slRecvMsg octets)
      (fun q t => q = .done → t.fsnx = s.fsnx ∧ t.rb = s.rb)
      (fun t => t.fsnx = s.fsnx ∧ t.rb = s.rb) := by
  have lasting := View.intake_lasting fun _ fsnx rb =>
    fsnx = s.fsnx ∧ rb = s.rb
  refine slRecvMsg_leads lasting (slRcSignalUnit_leads lasting
    (fun _ fsn _ => ?_) (fun _ h _ => h) fun _ h => h) (fun _ h _ => h)
    fun _ h => h
  refine triple_get_bind fun t ⟨h, _⟩ => triple_ite (fun _ =>
    triple_ite (fun _ => triple_throw fun _ eq => eq ▸ h) fun _ =>
    triple_ite (fun _ => ?_) fun _ => triple_pure fun _ eq _ => eq ▸ h)
    fun _ => triple_throw fun _ eq => eq ▸ h
  have busying : Busying fun _ => True :=
    ⟨⟨⟨fun _ _ _ h => h⟩, fun _ _ h => h⟩, fun _ _ h => h⟩
  exact triple_bind (R := fun _ _ => True) (triple_modify fun _ _ => trivial)
    fun _ => triple_bind (ignoring_total
      (slRbCongestionFunction_keeps busying)) fun _ =>
    triple_bind (R := fun _ _ => True) (triple_modify fun _ h => h) fun _ =>
    triple_pure fun _ _ done => absurd done nofun

/-- The receiver accepts each message once and in order. From the start of a
link with an empty `rb`, whatever is received: the accepted messages carry
consecutive numbers from zero on, they have been passed upstream in that
order or wait on `rb`, `fsnx` is ahead of `fsnr` by one more than wait, a
backward sequence number tells how many had been passed upstream when it was
sent, and a message that is not queued leaves `fsnx` and `rb` alone. -/
theorem received_in_sequence (s₀ : Sl) (numbered : s₀.version.bare = false)
    (stopped : s₀.state = .outOfService) (empty : s₀.rb = []) (env : Env)
    (events : List (Env × Event))
    (receives : ∀ e ∈ events, e.2.receives = true) (s : Sl)
    (run : (s₀.handle env .start).run events = s) :
    s.accepted.map Prod.fst = (List.range s.accepted.length).map
      (fun i => i % s.version.space) ∧
    s.delivered ++ s.rb = s.accepted.map Prod.snd ∧
    s.fsnx = (s.fsnr + 1 + s.rb.length) % 2 ^ 24 ∧
    (∀ p ∈ s.sent, ∀ bsn, p.1.numbers.bsn = some bsn →
      p.2 ≤ s.delivered.length ∧
        (bsn + 1) % s.version.space = p.2 % s.version.space) ∧
    ∀ env octets result t,
      (slRecvMsg octets).exec (s.enter env) = (result, t) →
      result ≠ .ok .absorbed → t.fsnx = s.fsnx ∧ t.rb = s.rb := by
  have started : (s₀.handle env .start).view.Sequence :=
    triple_after (slLscStart_leads View.sequence_receiving.toClosed
      (s := s₀.enter env) stopped (.reset numbered empty rfl)) rfl
  have sequence : s.view.Sequence := by
    rw [← run]
    exact Sl.run_receives View.sequence_receiving started receives
  refine ⟨?_, sequence.queued, ?_, sequence.told, ?_⟩
  · apply List.ext_getElem
    · simp
    · intro i inside _
      rw [List.length_map] at inside
      simp only [List.getElem_map, List.getElem_range]
      exact sequence.numbered i _ (List.getElem?_eq_getElem inside)
  · have lengths : s.delivered.length + s.rb.length = s.accepted.length := by
      have lengths := congrArg List.length sequence.queued
      rwa [List.length_append, List.length_map] at lengths
    calc s.fsnx
        = (s.delivered.length + s.rb.length) % 2 ^ 24 := by
          rw [lengths]
          exact sequence.next
      _ = (s.fsnr + 1 + s.rb.length) % 2 ^ 24 :=
          (sequence.last.add_right s.rb.length).symm
  · intro env octets result t ended other
    have unchanged := slRecvMsg_unchanged s octets (s.enter env) ⟨rfl, rfl⟩
    rw [ended] at unchanged
    cases result with
    | error _ => exact unchanged
    | ok q =>
        cases q with
        | done => exact unchanged rfl
        | absorbed => exact absurd rfl other

/-- The link of `intoService` when it has been stopped. -/
def stoppedLink : Sl :=
  (Sl.allocated .rfc4165 0 true false slDefault fun _ => false).run
    [(.calm, .powerOn)]

/-- A message of data numbered `fsn`. -/
def dataOctets (fsn : Nat) : List UInt8 :=
  Pdu.octets ⟨.data, 24, .long 0xffffff fsn, [1, 2, 3, 4, 5, 6, 7, 8]⟩

def reception : List (Env × Event) :=
  [(.calm, .recv (statusOctets .inService)), (.calm, .recv (dataOctets 0)),
    (.calm, .recv (dataOctets 0)), (.calm, .rxWakeup),
    (.calm, .recv (dataOctets 1)), (.calm, .recv (dataOctets 1))]

theorem received_in_sequence_duplicates :
    ((stoppedLink.handle .calm .start).run reception).accepted.map Prod.fst =
      [0, 1] ∧
    ((stoppedLink.handle .calm .start).run reception).delivered ++
      ((stoppedLink.handle .calm .start).run reception).rb =
      ((stoppedLink.handle .calm .start).run reception).accepted.map
        Prod.snd :=
  ⟨by decide, (received_in_sequence stoppedLink (by decide) (by decide)
    (by decide) .calm reception (by decide) _ rfl).2.1⟩

theorem start_expects_next :
    ¬ ∀ (s₀ : Sl), s₀.version.bare = false → s₀.state = .outOfService →
      s₀.rb = [] → ∀ (env : Env) (events : List (Env × Event)),
      (∀ e ∈ events, e.2.receives = true) → ∀ s,
      (s₀.handle env .start).run events = s →
        (s.fsnx + (2 ^ 24 - s.fsnr)) % 2 ^ 24 = s.rb.length := by
  intro claim
  have equal := claim stoppedLink (by decide) (by decide) (by decide) .calm []
    (by decide) _ rfl
  exact absurd equal (by decide)

end OpenSS7.M2pa
