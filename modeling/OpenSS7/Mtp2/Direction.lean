import OpenSS7.Mtp2.Reachable

/-!
One direction of a link: the copies of messages and the acknowledgements on
their way between two modules, in the basic format.
-/

namespace OpenSS7.Mtp2

open SlidingWindow

/-- A unit as its receiver reads it, sent by a side that has submitted the
messages `sub`. -/
structure Su.Ok (sub : List (List UInt8)) (su : Su) : Prop where
  bsn : (slRcDecode false su.octets).header.bsn = (su.ack + 127) % 128
  idle : su.idx = none → (slRcDecode false su.octets).len ≤ 2
  number : ∀ i, su.idx = some i →
    (slRcDecode false su.octets).header.fsn = i % 128
  message : ∀ i, su.idx = some i → sub[i]? = some (su.octets.drop 3)

namespace Su.Ok

variable {sub : List (List UInt8)} {h : Header} (range : h.InRange false)
  {a : Nat} (acks : h.bsn = (a + 127) % 128)

include range acks

theorem fisu : Su.Ok sub ⟨slDaedtFisuOctets false h, none, a⟩ := by
  have decoded := slRcDecode_basic range (Nat.zero_le _) []
  rw [List.append_nil] at decoded
  constructor
  · exact (congrArg (·.header.bsn) decoded).trans acks
  · intro _
    exact (congrArg Decoded.len decoded).trans_le (Nat.zero_le 2)
  · intro i some_
    cases some_
  · intro i some_
    cases some_

theorem lssu (status : Lssu) :
    Su.Ok sub ⟨slDaedtLssuOctets false h status, none, a⟩ := by
  have decoded := slRcDecode_basic range (by decide : 1 ≤ 0x3f)
    [status.code.toUInt8]
  constructor
  · exact (congrArg (·.header.bsn) decoded).trans acks
  · intro _
    exact (congrArg Decoded.len decoded).trans_le (Nat.le_succ 1)
  · intro i some_
    cases some_
  · intro i some_
    cases some_

theorem msu {sdu : List UInt8} {i : Nat} (number : h.fsn = i % 128)
    (message : sub[i]? = some sdu) :
    Su.Ok sub ⟨slDaedtMsuHeader false h (3 + sdu.length) ++ sdu, some i,
      a⟩ := by
  set li := if sdu.length < 64 then sdu.length else 63 with hli
  have header : slDaedtMsuHeader false h (3 + sdu.length) =
      headerOctets false h li := by
    simp [slDaedtMsuHeader, hli]
  have short : li ≤ 0x3f := by
    rw [hli]
    split <;> omega
  have decoded := slRcDecode_basic range short sdu
  rw [header]
  constructor
  · exact (congrArg (·.header.bsn) decoded).trans acks
  · intro none_
    cases none_
  · rintro _ ⟨⟩
    exact (congrArg (·.header.fsn) decoded).trans number
  · rintro _ ⟨⟩
    rw [message]
    rfl

end Su.Ok

theorem Su.Ok.append {sub : List (List UInt8)} {su : Su} (ok : su.Ok sub)
    (sdu : List UInt8) : su.Ok (sub ++ [sdu]) :=
  { ok with
    message := fun i some_ => by
      have found := ok.message i some_
      rw [List.getElem?_append_left (List.getElem?_eq_some_iff.1 found).1]
      exact found }

/-- One direction: `f` messages acknowledged to the sender and `t` sent of
those submitted, `a` acknowledged by the receiver of those accepted, and the
units under way forward and back. -/
structure Direction (f t : Nat) (sub : List (List UInt8)) (a : Nat)
    (acc : List (List UInt8)) (fwd back : List Su) : Prop where
  flight : Flight 127 f a acc.length t (fwd.map Su.idx) (back.map Su.ack)
  units : ∀ su ∈ fwd, su.Ok sub
  accepted : acc = sub.take acc.length

namespace Direction

variable {f t a : Nat} {sub acc : List (List UInt8)} {fwd back : List Su}
  {su : Su}

theorem initial : Direction 0 0 [] 0 [] [] [] :=
  ⟨Flight.initial 127, by simp, rfl⟩

theorem lose (dir : Direction f t sub a acc fwd back) {fwd' back' : List Su}
    (fewer : fwd'.Sublist fwd) (fewerBack : back'.Sublist back) :
    Direction f t sub a acc fwd' back' :=
  ⟨dir.flight.lose (fewer.map _) (fewerBack.map _),
    fun su mem => dir.units su (fewer.subset mem), dir.accepted⟩

theorem idle (dir : Direction f t sub a acc fwd back) (ok : su.Ok sub)
    (none_ : su.idx = none) : Direction f t sub a acc (fwd ++ [su]) back := by
  refine ⟨?_, ?_, dir.accepted⟩
  · rw [List.map_append, List.map_singleton, none_]
    exact dir.flight.idle
  · intro su' mem
    rcases List.mem_append.1 mem with old | new
    · exact dir.units su' old
    · rw [List.mem_singleton.1 new]
      exact ok

theorem again (dir : Direction f t sub a acc fwd back) (ok : su.Ok sub)
    {i : Nat} (idx : su.idx = some i) (low : f ≤ i) (high : i < t) :
    Direction f t sub a acc (fwd ++ [su]) back := by
  refine ⟨?_, ?_, dir.accepted⟩
  · rw [List.map_append, List.map_singleton, idx]
    exact dir.flight.again low high
  · intro su' mem
    rcases List.mem_append.1 mem with old | new
    · exact dir.units su' old
    · rw [List.mem_singleton.1 new]
      exact ok

theorem extend (dir : Direction f t sub a acc fwd back)
    (room : t < f + 127) : Direction f (t + 1) sub a acc fwd back :=
  ⟨dir.flight.extend room, dir.units, dir.accepted⟩

theorem acknowledge (dir : Direction f t sub a acc fwd back)
    (acks : su.ack = a) : Direction f t sub a acc fwd (back ++ [su]) := by
  refine ⟨?_, dir.units, dir.accepted⟩
  rw [List.map_append, List.map_singleton, acks]
  exact dir.flight.acknowledge

theorem catchUp (dir : Direction f t sub a acc fwd back) :
    Direction f t sub acc.length acc fwd back :=
  ⟨dir.flight.catchUp, dir.units, dir.accepted⟩

theorem submit (dir : Direction f t sub a acc fwd back)
    (held : t ≤ sub.length) (sdu : List UInt8) :
    Direction f t (sub ++ [sdu]) a acc fwd back := by
  refine ⟨dir.flight, fun su mem => (dir.units su mem).append sdu, ?_⟩
  have inside := Nat.le_trans dir.flight.sent held
  rw [List.take_append_of_le_length inside]
  exact dir.accepted

theorem release (dir : Direction f t sub a acc fwd (su :: back)) {k : Nat}
    (few : k < 128) (target : f + k ≡ su.ack [MOD 128]) :
    f + k = su.ack ∧ Direction (f + k) t sub a acc fwd back := by
  obtain ⟨low, high, flight⟩ := dir.flight.release
  have window := dir.flight.window
  have exact_ : f + k = su.ack := eq_of_modEq target (by omega) (by omega)
  exact ⟨exact_, by rw [exact_]; exact flight, dir.units, dir.accepted⟩

theorem accept (dir : Direction f t sub a acc (su :: fwd) back)
    (number : (slRcDecode false su.octets).header.fsn = acc.length % 128)
    (long : 2 < (slRcDecode false su.octets).len) :
    Direction f t sub a (acc ++ [su.octets.drop 3]) fwd back := by
  have ok := dir.units su List.mem_cons_self
  cases idx : su.idx with
  | none => exact absurd (ok.idle idx) (by omega)
  | some i =>
      have same : i ≡ acc.length [MOD 128] := (ok.number i idx).symm.trans number
      have first : some i ∈ (su :: fwd).map Su.idx := by simp [idx]
      obtain rfl := dir.flight.identify first (by decide) same
      have flight := dir.flight
      rw [List.map_cons, idx] at flight
      have found := ok.message _ idx
      refine ⟨?_, fun su' mem => dir.units su' (List.mem_cons_of_mem _ mem), ?_⟩
      · rw [List.length_append, List.length_singleton]
        exact flight.accept
      · rw [List.length_append, List.length_singleton, List.take_add_one,
          found, ← dir.accepted]
        rfl

end Direction

end OpenSS7.Mtp2
