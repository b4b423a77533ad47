import OpenSS7.Mtp3.Codec

/-!
The messages that the network level sends, and what is decoded from the octets
of each of them.
-/

namespace OpenSS7.Mtp3

inductive Body where
  | none
  | com (slc fsnl : Nat)
  | cbm (slc cbc : Nat)
  | slm (slc : Nat)
  | tfc (dest stat : Nat)
  | tfm (dest : Nat)
  | dlc (slc sdli : Nat)
  | upm (dest upi : Nat)
  | sltm (slc : Nat) (data : Octets)
  | user (data : Octets)
deriving DecidableEq

structure Signal where
  mp : Nat
  si : Nat
  heading : Option (Nat × Nat)
  body : Body
deriving DecidableEq

structure Label where
  ni : Nat
  dpc : Nat
  opc : Nat
  sls : Nat
deriving DecidableEq

section Sending

def managing (h0 h1 : Nat) (body : Body) : Signal := ⟨3, 0, some (h0, h1), body⟩

def mtpSendCoo (slc fsnl : Nat) : Signal := managing 1 1 (.com slc fsnl)
def mtpSendCoa (slc fsnl : Nat) : Signal := managing 1 2 (.com slc fsnl)
def mtpSendCbd (slc cbc : Nat) : Signal := managing 1 5 (.cbm slc cbc)
def mtpSendCba (slc cbc : Nat) : Signal := managing 1 6 (.cbm slc cbc)
def mtpSendEco (slc : Nat) : Signal := managing 2 1 (.slm slc)
def mtpSendEca (slc : Nat) : Signal := managing 2 2 (.slm slc)
def mtpSendRct (mp : Nat) : Signal := ⟨mp, 0, some (3, 1), .none⟩
def mtpSendTfc (dest stat : Nat) : Signal := managing 3 2 (.tfc dest stat)
def mtpSendTfp (dest : Nat) : Signal := managing 4 1 (.tfm dest)
def mtpSendTcp (dest : Nat) : Signal := managing 4 2 (.tfm dest)
def mtpSendTfr (dest : Nat) : Signal := managing 4 3 (.tfm dest)
def mtpSendTcr (dest : Nat) : Signal := managing 4 4 (.tfm dest)
def mtpSendTfa (dest : Nat) : Signal := managing 4 5 (.tfm dest)
def mtpSendTca (dest : Nat) : Signal := managing 4 6 (.tfm dest)
def mtpSendRst (dest : Nat) : Signal := managing 5 1 (.tfm dest)
def mtpSendRsr (dest : Nat) : Signal := managing 5 2 (.tfm dest)
def mtpSendRcp (dest : Nat) : Signal := managing 5 3 (.tfm dest)
def mtpSendRcr (dest : Nat) : Signal := managing 5 4 (.tfm dest)
def mtpSendLin (slc : Nat) : Signal := managing 6 1 (.slm slc)
def mtpSendLun (slc : Nat) : Signal := managing 6 2 (.slm slc)
def mtpSendLia (slc : Nat) : Signal := managing 6 3 (.slm slc)
def mtpSendLua (slc : Nat) : Signal := managing 6 4 (.slm slc)
def mtpSendLid (slc : Nat) : Signal := managing 6 5 (.slm slc)
def mtpSendLfu (slc : Nat) : Signal := managing 6 6 (.slm slc)
def mtpSendLlt (slc : Nat) : Signal := managing 6 7 (.slm slc)
def mtpSendLrt (slc : Nat) : Signal := managing 6 8 (.slm slc)
def mtpSendTra : Signal := managing 7 1 .none
def mtpSendTrw : Signal := managing 7 2 .none
def mtpSendDlc (slc sdli : Nat) : Signal := managing 8 1 (.dlc slc sdli)
def mtpSendCss (slc : Nat) : Signal := managing 8 2 (.slm slc)
def mtpSendCns (slc : Nat) : Signal := managing 8 3 (.slm slc)
def mtpSendCnp (slc : Nat) : Signal := managing 8 4 (.slm slc)
def mtpSendUpu (dest upi : Nat) : Signal := managing 10 1 (.upm dest upi)
def mtpSendUpa (dest upi : Nat) : Signal := managing 10 2 (.upm dest upi)
def mtpSendUpt (dest upi : Nat) : Signal := managing 10 3 (.upm dest upi)

def testing (si h1 slc : Nat) (data : Octets) : Signal :=
  ⟨3, si, some (1, h1), .sltm slc data⟩

def mtpSendSltm (slc : Nat) (data : Octets) : Signal := testing 1 1 slc data
def mtpSendSlta (slc : Nat) (data : Octets) : Signal := testing 1 2 slc data
def mtpSendSsltm (slc : Nat) (data : Octets) : Signal := testing 2 1 slc data
def mtpSendSslta (slc : Nat) (data : Octets) : Signal := testing 2 2 slc data

def mtpSendUser (mp si : Nat) (data : Octets) : Signal :=
  ⟨mp, si, none, .user data⟩

inductive Protocol.Sends (p : Protocol) : Signal → Prop
  | coo (slc fsnl : Nat) : Sends p (mtpSendCoo slc fsnl)
  | coa (slc fsnl : Nat) : Sends p (mtpSendCoa slc fsnl)
  | cbd (slc cbc : Nat) : Sends p (mtpSendCbd slc cbc)
  | cba (slc cbc : Nat) : Sends p (mtpSendCba slc cbc)
  | eco (slc : Nat) : Sends p (mtpSendEco slc)
  | eca (slc : Nat) : Sends p (mtpSendEca slc)
  | rct (mp : Nat) : Sends p (mtpSendRct mp)
  | tfc (dest stat : Nat) : Sends p (mtpSendTfc dest stat)
  | tfp (dest : Nat) : Sends p (mtpSendTfp dest)
  | tcp (dest : Nat) : Sends p (mtpSendTcp dest)
  | tfr (dest : Nat) : Sends p (mtpSendTfr dest)
  | tcr (dest : Nat) : Sends p (mtpSendTcr dest)
  | tfa (dest : Nat) : Sends p (mtpSendTfa dest)
  | tca (dest : Nat) : Sends p (mtpSendTca dest)
  | rst (dest : Nat) : Sends p (mtpSendRst dest)
  | rsr (dest : Nat) : Sends p (mtpSendRsr dest)
  | rcp (dest : Nat) : Sends p (mtpSendRcp dest)
  | rcr (dest : Nat) : Sends p (mtpSendRcr dest)
  | lin (slc : Nat) : Sends p (mtpSendLin slc)
  | lun (slc : Nat) : Sends p (mtpSendLun slc)
  | lia (slc : Nat) : Sends p (mtpSendLia slc)
  | lua (slc : Nat) : Sends p (mtpSendLua slc)
  | lid (slc : Nat) : Sends p (mtpSendLid slc)
  | lfu (slc : Nat) : Sends p (mtpSendLfu slc)
  | llt (slc : Nat) : Sends p (mtpSendLlt slc)
  | lrt (slc : Nat) : Sends p (mtpSendLrt slc)
  | tra : Sends p mtpSendTra
  | trw : Sends p mtpSendTrw
  | dlc (slc sdli : Nat) : Sends p (mtpSendDlc slc sdli)
  | css (slc : Nat) : Sends p (mtpSendCss slc)
  | cns (slc : Nat) : Sends p (mtpSendCns slc)
  | cnp (slc : Nat) : Sends p (mtpSendCnp slc)
  | upu (dest upi : Nat) : Sends p (mtpSendUpu dest upi)
  | upa (dest upi : Nat) : Sends p (mtpSendUpa dest upi)
  | upt (dest upi : Nat) : Sends p (mtpSendUpt dest upi)
  | sltm (slc : Nat) (data : Octets) : Sends p (mtpSendSltm slc data)
  | slta (slc : Nat) (data : Octets) : Sends p (mtpSendSlta slc data)
  | ssltm (slc : Nat) (data : Octets) :
      p.variant = .ansi → Sends p (mtpSendSsltm slc data)
  | sslta (slc : Nat) (data : Octets) :
      p.variant = .ansi → Sends p (mtpSendSslta slc data)
  | user (mp si : Nat) (data : Octets) :
      3 ≤ si → Sends p (mtpSendUser mp si data)

end Sending

namespace Body

def slc? : Body → Option Nat
  | com slc _ | cbm slc _ | slm slc | dlc slc _ | sltm slc _ => some slc
  | _ => Option.none

def octets (p : Protocol) : Body → Octets
  | none => []
  | com slc fsnl => mtpEncCom p slc fsnl
  | cbm slc cbc => mtpEncCbm p slc cbc
  | slm slc => mtpEncSlm p slc
  | tfc dest stat => mtpEncTfc p dest stat
  | tfm dest => mtpEncTfm p dest
  | dlc slc sdli => mtpEncDlc p slc sdli
  | upm dest upi => mtpEncUpm p dest upi
  | sltm slc data => mtpEncSltm p slc data
  | user data => mtpEncUser data

def decode (p : Protocol) (m : MtpMsg) (octets : Octets) : Body → Option MtpMsg
  | none => some m
  | com _ _ => mtpDecCom p m octets
  | cbm _ _ => mtpDecCbm p m octets
  | slm _ => mtpDecSlm p m octets
  | tfc _ _ => mtpDecTfc p m octets
  | tfm _ => mtpDecTfm p m octets
  | dlc _ _ => mtpDecDlc p m octets
  | upm _ _ => mtpDecUpm p m octets
  | sltm _ _ => mtpDecSltm p m octets
  | user _ => mtpDecUser m octets

end Body

def Signal.headingOctets (s : Signal) : Octets :=
  match s.heading with
  | some (h0, h1) => mtpEncSif h0 h1
  | none => []

namespace Protocol

variable (p : Protocol)

/-- `rl_sls`: but for ANSI the label carries the link code in the place of the
link selection. -/
def rlSls (sls : Nat) (body : Body) : Nat :=
  match p.variant, body.slc? with
  | .ansi, _ => sls
  | _, some slc => slc
  | _, none => sls

def encode (label : Label) (s : Signal) : Block :=
  let bp := mtpEncMsg p label.ni s.mp s.si label.dpc label.opc
    (p.rlSls label.sls s.body)
  { bp with octets := bp.octets ++ s.headingOctets ++ s.body.octets p }

def pcBits : Nat := if p.variant.wide = true then 24 else 14

def slsBits : Nat :=
  if p.variant.wide = true then if p.year = .y00 then 8 else 5 else 4

def sdliBits : Nat := if p.variant = .ansi then 14 else 12

def priority (mp : Nat) : Nat :=
  match p.variant with
  | .ansi | .jttc => mp
  | _ => if p.mplev = true then mp else 0

end Protocol

section Ranges

structure Label.InRange (p : Protocol) (label : Label) : Prop where
  ni : label.ni < 4
  dpc : label.dpc < 2 ^ p.pcBits
  opc : label.opc < 2 ^ p.pcBits
  sls : label.sls < 2 ^ p.slsBits

def Body.InRange (p : Protocol) : Body → Prop
  | none => True
  | com slc fsnl => slc < 16 ∧ fsnl < 128
  | cbm slc cbc => slc < 16 ∧ cbc < 256
  | slm slc => slc < 16
  | tfc dest stat => dest < 2 ^ p.pcBits ∧ stat < 4
  | tfm dest => dest < 2 ^ p.pcBits
  | dlc slc sdli => slc < 16 ∧ sdli < 2 ^ p.sdliBits
  | upm dest upi => dest < 2 ^ p.pcBits ∧ upi < 16
  | sltm slc data => slc < 16 ∧ data.length < 16
  | user _ => True

structure Signal.InRange (p : Protocol) (s : Signal) : Prop where
  mp : s.mp < 4
  si : s.si < 16
  body : s.body.InRange p

end Ranges

section Conveying

def Body.Conveyed (m : MtpMsg) : Body → Prop
  | none => True
  | com slc fsnl => m.slc = slc ∧ m.arg = fsnl
  | cbm slc cbc => m.slc = slc ∧ m.arg = cbc
  | slm slc => m.slc = slc
  | tfc dest stat => m.dest = dest ∧ m.arg = stat
  | tfm dest => m.dest = dest
  | dlc slc sdli => m.slc = slc ∧ m.arg = sdli
  | upm dest upi => m.dest = dest ∧ m.arg = upi
  | sltm slc data => m.slc = slc ∧ m.data = data
  | user data => m.data = data

structure Signal.Conveyed (p : Protocol) (label : Label) (s : Signal)
    (m : MtpMsg) : Prop where
  ni : m.ni = label.ni
  mp : m.mp = p.priority s.mp
  si : m.si = s.si
  dpc : m.dpc = label.dpc
  opc : m.opc = label.opc
  sls : m.sls = p.rlSls label.sls s.body
  heading : ∀ h ∈ s.heading, (m.h0, m.h1) = h
  body : s.body.Conveyed m

def Protocol.Decodes (p : Protocol) (label : Label) (s : Signal) : Prop :=
  ∃ m, mtpDecMsg p (p.encode label s) = some m ∧ s.Conveyed p label m

end Conveying

end OpenSS7.Mtp3
