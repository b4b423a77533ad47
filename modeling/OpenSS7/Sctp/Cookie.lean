import Mathlib.Data.List.Basic

/-!
The ring of keys that signs the state cookies of the SCTP driver, and how long
a signed cookie can still be verified.
-/

namespace OpenSS7.Sctp

/-- `unsigned long` -/
abbrev ULong := UInt64

abbrev NUM_KEYS : Nat := 4

abbrev HMAC_SIZE : Nat := 20

structure Key where
  seq : Vector UInt32 16
  last : UInt32
  created : ULong
deriving DecidableEq

/-- `sctp_keys` and `sctp_current_key`. -/
structure Keys where
  keys : Vector Key NUM_KEYS
  current : Fin NUM_KEYS
deriving DecidableEq

def Keys.initial : Keys where
  keys := .replicate NUM_KEYS
    { seq := .replicate 16 0, last := 0, created := 0 }
  current := 0

def Keys.key (keys : Keys) (k : Fin NUM_KEYS) : Key := keys.keys[k]

def Keys.setKey (keys : Keys) (k : Fin NUM_KEYS) (key : Key) : Keys :=
  { keys with keys := keys.keys.set k key }

inductive Hmac where
  | none
  | sha1
  | md5
deriving DecidableEq

/-- The settings of a stream that the cookies depend on, `HZ` included. -/
structure CookieSettings where
  ckLife : ULong
  ckInc : ULong
  rtoIni : ULong
  hz : ULong
  hmac : Hmac

/-- A cookie without its authentication code. The fields that no function here
reads, the options and the addresses stand in `rest`. -/
structure Cookie where
  timestamp : ULong
  lifespan : ULong
  nIstr : UInt16
  nOstr : UInt16
  keyTag : UInt16
  rest : List UInt8
deriving DecidableEq

structure SignedCookie extends Cookie where
  hmac : Vector UInt8 HMAC_SIZE
deriving DecidableEq

structure Digests where
  hmacSha1 : Cookie → Vector UInt32 16 → Vector UInt8 20
  hmacMd5 : Cookie → Vector UInt32 16 → Vector UInt8 16

/-- The numbers `secure_sctp_sequence_number` gives when a key of the ring is
changed at a time. -/
abbrev Secure := ULong → Keys → Fin NUM_KEYS → UInt32

section Keys

variable (secure : Secure) (digests : Digests) (sp : CookieSettings)

/-- `n = (sctp_keys[k].last + 1) & 0xf` -/
def Key.word (key : Key) : Fin 16 := Fin.ofNat 16 (key.last + 1).toNat

def Key.due (key : Key) : UInt32 := key.seq[key.word]

def Key.rekey (key : Key) (number : UInt32) : Key :=
  { key with seq := key.seq.set key.word number, last := key.word.val.toUInt32 }

def sctpRekey (keys : Keys) (k : Fin NUM_KEYS) (jiffies : ULong) : Keys :=
  keys.setKey k ((keys.key k).rekey (secure jiffies keys k))

/-- `duration` of `sctp_get_key`. -/
def CookieSettings.duration : ULong :=
  (sp.ckLife + (NUM_KEYS.toUInt64 - 1)) / NUM_KEYS.toUInt64 + sp.ckInc

def sctpGetKey (keys : Keys) (jiffies : ULong) : Fin NUM_KEYS × Keys :=
  let k := keys.current
  let created := (keys.key k).created
  if created = 0 then
    (k, keys.setKey k { keys.key k with created := jiffies })
  else if created + sp.duration < jiffies then
    let k := k + 1
    (k, { sctpRekey secure keys k jiffies with current := k })
  else
    (k, keys)

def sctpHmac (ck : Cookie) (key : Vector UInt32 16) :
    Vector UInt8 HMAC_SIZE :=
  match sp.hmac with
  | .sha1 => digests.hmacSha1 ck key
  | .md5 => digests.hmacMd5 ck key ++ Vector.replicate 4 (0xff : UInt8)
  | .none => .replicate HMAC_SIZE 0xff

def sctpSignCookie (keys : Keys) (jiffies : ULong) (ck : Cookie) :
    SignedCookie × Keys :=
  let (ktag, keys) := sctpGetKey secure sp keys jiffies
  let ck := { ck with keyTag := ktag.val.toUInt16 }
  (⟨ck, sctpHmac digests sp ck (keys.key ktag).seq⟩, keys)

def Cookie.ktag (ck : Cookie) : Fin NUM_KEYS :=
  Fin.ofNat NUM_KEYS ck.keyTag.toNat

/-- `memcmp` finds no difference. -/
def sctpVerifyCookie (keys : Keys) (ck : SignedCookie) : Bool :=
  ck.hmac = sctpHmac digests sp ck.toCookie (keys.key ck.ktag).seq

/-- The cookie that `sctp_recv_init` puts together, with the increment asked
for by the peer. -/
def sctpInitCookie (jiffies : ULong) (ckInc : UInt32) (istrs ostrs : UInt16)
    (rest : List UInt8) : Cookie :=
  let inc := ckInc.toUInt64
  let inc :=
    if inc = 0 then 0
    else min ((inc * sp.hz + 999) / 1000) (sp.rtoIni + sp.ckInc)
  { timestamp := jiffies, lifespan := sp.ckLife + inc, nIstr := istrs,
    nOstr := ostrs, keyTag := 0, rest := rest }

/-- The test that sends a COOKIE-ECHO to `stale_cookie`. -/
def Cookie.stale (ck : Cookie) (jiffies : ULong) : Bool :=
  ck.timestamp + ck.lifespan < jiffies

end Keys

inductive Event where
  | sign (jiffies : ULong) (ck : Cookie)
  | verify (jiffies : ULong) (ck : SignedCookie)

namespace Keys

variable (secure : Secure) (sp : CookieSettings)

def step (keys : Keys) : Event → Keys
  | .sign jiffies _ => (sctpGetKey secure sp keys jiffies).2
  | .verify _ _ => keys

def run (keys : Keys) (events : List Event) : Keys :=
  events.foldl (step secure sp) keys

end Keys

structure Rota where
  created : Fin NUM_KEYS → ULong
  current : Fin NUM_KEYS

namespace Rota

variable (sp : CookieSettings)

def aged (rota : Rota) (jiffies : ULong) : Bool :=
  rota.created rota.current ≠ 0 ∧
    rota.created rota.current + sp.duration < jiffies

def sign (rota : Rota) (jiffies : ULong) : Rota :=
  if rota.created rota.current = 0 then
    { rota with created := Function.update rota.created rota.current jiffies }
  else if rota.aged sp jiffies then { rota with current := rota.current + 1 }
  else rota

def rotations (rota : Rota) : List Event → Nat
  | [] => 0
  | .verify _ _ :: events => rota.rotations events
  | .sign jiffies _ :: events =>
      (rota.sign sp jiffies).rotations events +
        if rota.aged sp jiffies then 1 else 0

end Rota

namespace Keys

variable {secure : Secure} {sp : CookieSettings} {keys : Keys}
  {k tag : Fin NUM_KEYS}

def rota (keys : Keys) : Rota where
  created := fun k => (keys.key k).created
  current := keys.current

theorem key_setKey (keys : Keys) (k j : Fin NUM_KEYS) (key : Key) :
    (keys.setKey k key).key j = if j = k then key else keys.key j := by
  unfold Keys.key setKey
  rw [Fin.getElem_fin, Vector.getElem_set]
  simp only [Fin.ext_iff, eq_comm]
  rfl

theorem sctpGetKey_cases (secure : Secure) (sp : CookieSettings) (keys : Keys)
    (jiffies : ULong) :
    (keys.rota.created keys.rota.current = 0 ∧
      keys.rota.aged sp jiffies = false ∧
      sctpGetKey secure sp keys jiffies = (keys.current,
        keys.setKey keys.current
          { keys.key keys.current with created := jiffies })) ∨
    (keys.rota.created keys.rota.current ≠ 0 ∧
      keys.rota.aged sp jiffies = true ∧
      sctpGetKey secure sp keys jiffies = (keys.current + 1,
        { sctpRekey secure keys (keys.current + 1) jiffies with
          current := keys.current + 1 })) ∨
    (keys.rota.created keys.rota.current ≠ 0 ∧
      keys.rota.aged sp jiffies = false ∧
      sctpGetKey secure sp keys jiffies = (keys.current, keys)) := by
  unfold sctpGetKey
  simp only [Rota.aged, rota]
  split
  case isTrue fresh => exact .inl ⟨fresh, by simp [fresh], rfl⟩
  case isFalse created =>
    split
    case isTrue aged => exact .inr (.inl ⟨created, by simp [created, aged], rfl⟩)
    case isFalse young =>
      exact .inr (.inr ⟨created, by simp [young], rfl⟩)

theorem rota_setKey (keys : Keys) (k : Fin NUM_KEYS) (key : Key) :
    (keys.setKey k key).rota =
      { keys.rota with
        created := Function.update keys.rota.created k key.created } := by
  unfold rota
  congr 1
  funext j
  rw [key_setKey, Function.update_apply]
  split <;> rfl

theorem rota_sctpRekey (secure : Secure) (keys : Keys) (k : Fin NUM_KEYS)
    (jiffies : ULong) : (sctpRekey secure keys k jiffies).rota = keys.rota := by
  unfold sctpRekey
  rw [rota_setKey]
  show Rota.mk (Function.update _ k (keys.rota.created k)) _ = _
  rw [Function.update_eq_self]

theorem rota_sctpGetKey (secure : Secure) (keys : Keys) (jiffies : ULong) :
    (sctpGetKey secure sp keys jiffies).2.rota =
      keys.rota.sign sp jiffies := by
  unfold Rota.sign
  obtain ⟨fresh, _, got⟩ | ⟨created, aged, got⟩ | ⟨created, young, got⟩ :=
    sctpGetKey_cases secure sp keys jiffies
  · rw [got, if_pos fresh, rota_setKey]
    rfl
  · rw [got, if_neg created, if_pos aged]
    show Rota.mk (sctpRekey secure keys _ jiffies).rota.created _ = _
    rw [rota_sctpRekey]
    rfl
  · rw [got, if_neg created, if_neg (by simp [young])]

theorem current_sctpGetKey (secure : Secure) (keys : Keys) (jiffies : ULong) :
    (sctpGetKey secure sp keys jiffies).1 =
      (sctpGetKey secure sp keys jiffies).2.current := by
  obtain ⟨_, _, got⟩ | ⟨_, _, got⟩ | ⟨_, _, got⟩ :=
    sctpGetKey_cases secure sp keys jiffies
  · rw [got]
    rfl
  · rw [got]
  · rw [got]

theorem current_sign (secure : Secure) (keys : Keys) (jiffies : ULong) :
    (sctpGetKey secure sp keys jiffies).2.current.val =
      (keys.current.val + if keys.rota.aged sp jiffies then 1 else 0) %
        NUM_KEYS := by
  have bound := keys.current.isLt
  obtain ⟨_, young, got⟩ | ⟨_, aged, got⟩ | ⟨_, young, got⟩ :=
    sctpGetKey_cases secure sp keys jiffies
  · rw [got, young]
    exact (Nat.mod_eq_of_lt bound).symm
  · rw [got, aged]
    rfl
  · rw [got, young]
    exact (Nat.mod_eq_of_lt bound).symm

theorem run_cons (keys : Keys) (event : Event) (events : List Event) :
    keys.run secure sp (event :: events) =
      (keys.step secure sp event).run secure sp events := rfl

theorem seq_rekey (key : Key) (number : UInt32) (n : Fin 16) :
    (key.rekey number).seq[n] =
      if n = key.word then number else key.seq[n] := by
  unfold Key.rekey
  rw [Fin.getElem_fin, Vector.getElem_set]
  simp only [Fin.ext_iff, eq_comm]
  rfl

theorem key_sign (secure : Secure) (keys : Keys) (jiffies : ULong) :
    (keys.rota.aged sp jiffies = true ∧
      (keys.current.val + 1) % NUM_KEYS = tag.val ∧
      (sctpGetKey secure sp keys jiffies).2.key tag =
        (keys.key tag).rekey (secure jiffies keys tag)) ∨
    ((keys.rota.aged sp jiffies = true →
        (keys.current.val + 1) % NUM_KEYS ≠ tag.val) ∧
      ∃ created, (sctpGetKey secure sp keys jiffies).2.key tag =
        { keys.key tag with created := created }) := by
  obtain ⟨_, young, got⟩ | ⟨_, aged, got⟩ | ⟨_, young, got⟩ :=
    sctpGetKey_cases secure sp keys jiffies
  · refine .inr ⟨fun aged => by simp [young] at aged, ?_⟩
    rw [got]
    show ∃ created, (keys.setKey _ _).key tag = _
    rw [key_setKey]
    split
    case isTrue here => exact ⟨jiffies, by rw [here]⟩
    case isFalse => exact ⟨_, rfl⟩
  · rw [got]
    show (_ ∧ _ ∧ (keys.setKey _ _).key tag = _) ∨
      (_ ∧ ∃ created, (keys.setKey _ _).key tag = _)
    rw [key_setKey]
    split
    case isTrue here => exact .inl ⟨aged, by rw [here]; rfl, by rw [here]⟩
    case isFalse away =>
      exact .inr ⟨fun _ here => away (Fin.ext here.symm), _, rfl⟩
  · rw [got]
    exact .inr ⟨fun aged => by simp [young] at aged, _, rfl⟩

theorem seq_run (events : List Event) (keys : Keys) (d : Nat)
    (place : keys.current.val = (tag.val + d) % NUM_KEYS)
    (few : d + keys.rota.rotations sp events < NUM_KEYS) :
    ((keys.run secure sp events).key tag).seq = (keys.key tag).seq := by
  induction events generalizing keys d with
  | nil => rfl
  | cons event events ih =>
      rw [run_cons]
      cases event with
      | verify jiffies ck => exact ih keys d place few
      | sign jiffies ck =>
          simp only [Rota.rotations, ← rota_sctpGetKey secure] at few
          have moved := @current_sign sp secure keys jiffies
          rw [place, Nat.mod_add_mod, Nat.add_assoc] at moved
          refine (ih _ _ moved (by omega)).trans ?_
          obtain ⟨aged, here, _⟩ | ⟨_, created, same⟩ :=
            @key_sign sp tag secure keys jiffies
          · rw [if_pos aged] at few
            simp only [NUM_KEYS] at few place here
            omega
          · rw [same]

theorem word_run (number : UInt32) (n : Fin 16) (events : List Event)
    (keys : Keys) (d : Nat)
    (place : keys.current.val = (tag.val + d) % NUM_KEYS)
    (due : (keys.key tag).seq[n] = number ∨ (keys.key tag).word = n ∧
      d < NUM_KEYS ∧ NUM_KEYS ≤ d + keys.rota.rotations sp events) :
    ((keys.run (fun _ _ _ => number) sp events).key tag).seq[n] = number := by
  induction events generalizing keys d with
  | nil =>
      obtain done | ⟨_, early, late⟩ := due
      · exact done
      · simp only [Rota.rotations] at late
        omega
  | cons event events ih =>
      rw [run_cons]
      cases event with
      | verify jiffies ck => exact ih keys d place due
      | sign jiffies ck =>
          have moved :=
            @current_sign sp (fun _ _ _ => number) keys jiffies
          rw [place, Nat.mod_add_mod, Nat.add_assoc] at moved
          apply ih _ _ moved
          rw [rota_sctpGetKey]
          obtain ⟨aged, here, changed⟩ | ⟨away, created, same⟩ :=
            @key_sign sp tag (fun _ _ _ => number) keys jiffies
          · left
            rw [changed, seq_rekey]
            split
            case isTrue => rfl
            case isFalse other =>
              exact due.resolve_right fun h => other h.1.symm
          · rw [same]
            refine due.imp_right fun ⟨next, early, late⟩ => ⟨next, ?_⟩
            simp only [Rota.rotations, NUM_KEYS] at late early place away ⊢
            cases aged : keys.rota.aged sp jiffies with
            | true =>
                have elsewhere := away aged
                rw [if_pos aged] at late
                rw [if_pos rfl]
                omega
            | false =>
                rw [if_neg (by simp [aged])] at late
                rw [if_neg nofun]
                exact ⟨early, late⟩

theorem seq_run_ne (number : UInt32) (events : List Event)
    (place : keys.current = tag)
    (fresh : (keys.key tag).due ≠ number)
    (many : NUM_KEYS ≤ keys.rota.rotations sp events) :
    ((keys.run (fun _ _ _ => number) sp events).key tag).seq ≠
      (keys.key tag).seq := by
  intro same
  apply fresh
  unfold Key.due
  rw [← same]
  refine word_run number _ events keys 0 ?_ (.inr ⟨rfl, by decide, ?_⟩)
  · rw [place]
    exact (Nat.mod_eq_of_lt tag.isLt).symm
  · rwa [Nat.zero_add]

end Keys

section Signed

variable (secure : Secure) (digests : Digests) (sp : CookieSettings)
  (keys : Keys) (jiffies : ULong) (ck : Cookie)

theorem sctpSignCookie_keys :
    (sctpSignCookie secure digests sp keys jiffies ck).2 =
      (sctpGetKey secure sp keys jiffies).2 := rfl

theorem sctpSignCookie_ktag :
    (sctpSignCookie secure digests sp keys jiffies ck).1.ktag =
      (sctpGetKey secure sp keys jiffies).1 := by
  have back : ∀ k : Fin NUM_KEYS,
      Fin.ofNat NUM_KEYS k.val.toUInt16.toNat = k := by
    decide
  exact back (sctpGetKey secure sp keys jiffies).1

theorem sctpSignCookie_hmac :
    (sctpSignCookie secure digests sp keys jiffies ck).1.hmac =
      sctpHmac digests sp
        (sctpSignCookie secure digests sp keys jiffies ck).1.toCookie
        ((sctpGetKey secure sp keys jiffies).2.key
          (sctpGetKey secure sp keys jiffies).1).seq := rfl

end Signed

theorem Key.word_rekey (key : Key) (number : UInt32) :
    (key.rekey number).word ≠ key.word := by
  have ahead : ∀ n : Fin 16, Fin.ofNat 16 (n.val.toUInt32 + 1).toNat ≠ n := by
    decide
  exact ahead key.word

def Cookie.Good (secure : Secure) (digests : Digests) (sp : CookieSettings)
    (keys : Keys) (jiffies : ULong) (ck : Cookie) (later : List Event) :
    Prop :=
  let signed := sctpSignCookie secure digests sp keys jiffies ck
  let after := signed.2.run secure sp later
  (after.key signed.1.ktag).seq = (signed.2.key signed.1.ktag).seq ∧
    sctpVerifyCookie digests sp after signed.1 = true

theorem Keys.rekeyed (sp : CookieSettings) (keys : Keys) (jiffies : ULong)
    (later : List Event)
    (many : NUM_KEYS ≤ (keys.rota.sign sp jiffies).rotations sp later) :
    ∃ secure, (((sctpGetKey secure sp keys jiffies).2.run secure sp later).key
        (sctpGetKey secure sp keys jiffies).1).seq ≠
      ((sctpGetKey secure sp keys jiffies).2.key
        (sctpGetKey secure sp keys jiffies).1).seq := by
  let tag := (keys.rota.sign sp jiffies).current
  have place (secure : Secure) :
      (sctpGetKey secure sp keys jiffies).2.current = tag :=
    congrArg Rota.current (Keys.rota_sctpGetKey secure keys jiffies)
  have turns (number : UInt32) := @Keys.key_sign sp tag
    (fun _ _ _ => number) keys jiffies
  have apart (number : UInt32) : number ≠ number + 1 := by
    intro same
    have values := congrArg UInt32.toNat same
    rw [UInt32.toNat_add] at values
    have bound := number.toNat_lt
    have one : (1 : UInt32).toNat = 1 := rfl
    omega
  -- the numbers differ from the word that the next change of the key replaces
  suffices ∃ number, ((sctpGetKey (fun _ _ _ => number) sp keys jiffies).2.key
      tag).due ≠ number by
    obtain ⟨number, other⟩ := this
    refine ⟨fun _ _ _ => number, ?_⟩
    rw [Keys.current_sctpGetKey, place]
    apply Keys.seq_run_ne number later (place _) other
    rwa [Keys.rota_sctpGetKey]
  obtain ⟨aged, here, _⟩ | ⟨away, _⟩ := turns 0
  · refine ⟨(keys.key tag).seq[((keys.key tag).rekey 0).word] + 1, ?_⟩
    obtain ⟨_, _, changed⟩ | ⟨away, _⟩ :=
      turns ((keys.key tag).seq[((keys.key tag).rekey 0).word] + 1)
    · rw [changed, Key.due, seq_rekey, if_neg (Key.word_rekey _ _)]
      exact apart _
    · exact absurd here (away aged)
  · refine ⟨(keys.key tag).due + 1, ?_⟩
    obtain ⟨aged, here, _⟩ | ⟨_, _, same⟩ := turns ((keys.key tag).due + 1)
    · exact absurd here (away aged)
    · rw [same]
      exact apart _

theorem cookie_good_iff (sp : CookieSettings) (keys : Keys) (jiffies : ULong)
    (later : List Event) :
    (∀ secure digests ck,
      Cookie.Good secure digests sp keys jiffies ck later) ↔
    (keys.rota.sign sp jiffies).rotations sp later < NUM_KEYS := by
  constructor
  · intro good
    by_contra many
    obtain ⟨secure, changed⟩ :=
      Keys.rekeyed sp keys jiffies later (Nat.le_of_not_lt many)
    have same := (good secure
      ⟨fun _ _ => .replicate 20 0, fun _ _ => .replicate 16 0⟩
      ⟨0, 0, 0, 0, 0, []⟩).1
    rw [sctpSignCookie_ktag] at same
    exact changed same
  · intro few secure digests ck
    have same : (((sctpGetKey secure sp keys jiffies).2.run secure sp
        later).key (sctpGetKey secure sp keys jiffies).1).seq =
          ((sctpGetKey secure sp keys jiffies).2.key
            (sctpGetKey secure sp keys jiffies).1).seq := by
      apply Keys.seq_run later _ 0
      · rw [Keys.current_sctpGetKey]
        exact (Nat.mod_eq_of_lt (Fin.isLt _)).symm
      · rw [Keys.rota_sctpGetKey, Nat.zero_add]
        exact few
    refine ⟨?_, ?_⟩
    · rw [sctpSignCookie_ktag]
      exact same
    · unfold sctpVerifyCookie
      rw [sctpSignCookie_ktag, sctpSignCookie_keys, same,
        sctpSignCookie_hmac]
      exact decide_eq_true rfl

def Cookie.signings (ck : Cookie) (times : List ULong) : List Event :=
  times.map fun jiffies => .sign jiffies ck

-- the cookie signed when the ring comes back to key 0 outlives that key by
-- all but four of the 6000 ticks of its lifespan
theorem key_recycled_early :
    let sp : CookieSettings := ⟨6000, 100, 300, 100, .sha1⟩
    let secure : Secure := fun jiffies _ _ => jiffies.toUInt32
    let digests : Digests :=
      ⟨fun _ key => .ofFn fun i => key[i.val % 16].toUInt8,
        fun _ _ => .replicate 16 0⟩
    let ck := sctpInitCookie sp 6408 0 1 1 []
    let keys := Keys.initial.run secure sp
      (ck.signings [1, 1602, 1603, 3204, 3205, 4806, 4807])
    let signed := sctpSignCookie secure digests sp keys 6408 ck
    let after := signed.2.run secure sp
      (ck.signings [6409, 6410, 6411, 6412])
    signed.1.stale 6412 = false ∧
      (after.key signed.1.ktag).seq ≠ (signed.2.key signed.1.ktag).seq ∧
      sctpVerifyCookie digests sp after signed.1 = false := by
  decide +kernel

end OpenSS7.Sctp
