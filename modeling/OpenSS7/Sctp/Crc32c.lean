import Mathlib.Data.List.GetD
import OpenSS7.Lib.CrcPolynomial

/-!
The checksum of an SCTP packet: `crc_table` and the two loops of `crc32c`, and
the register of the polynomial that they are to divide by.
-/

namespace OpenSS7.Sctp

open Crc

/-- `CRC32C_POLY` -/
def CRC32C_POLY : BitVec 32 := 0x1EDC6F41

def crcTable : List (BitVec 32) :=
  [0x00000000, 0xF26B8303, 0xE13B70F7, 0x1350F3F4, 0xC79A971F, 0x35F1141C,
    0x26A1E7E8, 0xD4CA64EB, 0x8AD958CF, 0x78B2DBCC, 0x6BE22838, 0x9989AB3B,
    0x4D43CFD0, 0xBF284CD3, 0xAC78BF27, 0x5E133C24, 0x105EC76F, 0xE235446C,
    0xF165B798, 0x030E349B, 0xD7C45070, 0x25AFD373, 0x36FF2087, 0xC494A384,
    0x9A879FA0, 0x68EC1CA3, 0x7BBCEF57, 0x89D76C54, 0x5D1D08BF, 0xAF768BBC,
    0xBC267848, 0x4E4DFB4B, 0x20BD8EDE, 0xD2D60DDD, 0xC186FE29, 0x33ED7D2A,
    0xE72719C1, 0x154C9AC2, 0x061C6936, 0xF477EA35, 0xAA64D611, 0x580F5512,
    0x4B5FA6E6, 0xB93425E5, 0x6DFE410E, 0x9F95C20D, 0x8CC531F9, 0x7EAEB2FA,
    0x30E349B1, 0xC288CAB2, 0xD1D83946, 0x23B3BA45, 0xF779DEAE, 0x05125DAD,
    0x1642AE59, 0xE4292D5A, 0xBA3A117E, 0x4851927D, 0x5B016189, 0xA96AE28A,
    0x7DA08661, 0x8FCB0562, 0x9C9BF696, 0x6EF07595, 0x417B1DBC, 0xB3109EBF,
    0xA0406D4B, 0x522BEE48, 0x86E18AA3, 0x748A09A0, 0x67DAFA54, 0x95B17957,
    0xCBA24573, 0x39C9C670, 0x2A993584, 0xD8F2B687, 0x0C38D26C, 0xFE53516F,
    0xED03A29B, 0x1F682198, 0x5125DAD3, 0xA34E59D0, 0xB01EAA24, 0x42752927,
    0x96BF4DCC, 0x64D4CECF, 0x77843D3B, 0x85EFBE38, 0xDBFC821C, 0x2997011F,
    0x3AC7F2EB, 0xC8AC71E8, 0x1C661503, 0xEE0D9600, 0xFD5D65F4, 0x0F36E6F7,
    0x61C69362, 0x93AD1061, 0x80FDE395, 0x72966096, 0xA65C047D, 0x5437877E,
    0x4767748A, 0xB50CF789, 0xEB1FCBAD, 0x197448AE, 0x0A24BB5A, 0xF84F3859,
    0x2C855CB2, 0xDEEEDFB1, 0xCDBE2C45, 0x3FD5AF46, 0x7198540D, 0x83F3D70E,
    0x90A324FA, 0x62C8A7F9, 0xB602C312, 0x44694011, 0x5739B3E5, 0xA55230E6,
    0xFB410CC2, 0x092A8FC1, 0x1A7A7C35, 0xE811FF36, 0x3CDB9BDD, 0xCEB018DE,
    0xDDE0EB2A, 0x2F8B6829, 0x82F63B78, 0x709DB87B, 0x63CD4B8F, 0x91A6C88C,
    0x456CAC67, 0xB7072F64, 0xA457DC90, 0x563C5F93, 0x082F63B7, 0xFA44E0B4,
    0xE9141340, 0x1B7F9043, 0xCFB5F4A8, 0x3DDE77AB, 0x2E8E845F, 0xDCE5075C,
    0x92A8FC17, 0x60C37F14, 0x73938CE0, 0x81F80FE3, 0x55326B08, 0xA759E80B,
    0xB4091BFF, 0x466298FC, 0x1871A4D8, 0xEA1A27DB, 0xF94AD42F, 0x0B21572C,
    0xDFEB33C7, 0x2D80B0C4, 0x3ED04330, 0xCCBBC033, 0xA24BB5A6, 0x502036A5,
    0x4370C551, 0xB11B4652, 0x65D122B9, 0x97BAA1BA, 0x84EA524E, 0x7681D14D,
    0x2892ED69, 0xDAF96E6A, 0xC9A99D9E, 0x3BC21E9D, 0xEF087A76, 0x1D63F975,
    0x0E330A81, 0xFC588982, 0xB21572C9, 0x407EF1CA, 0x532E023E, 0xA145813D,
    0x758FE5D6, 0x87E466D5, 0x94B49521, 0x66DF1622, 0x38CC2A06, 0xCAA7A905,
    0xD9F75AF1, 0x2B9CD9F2, 0xFF56BD19, 0x0D3D3E1A, 0x1E6DCDEE, 0xEC064EED,
    0xC38D26C4, 0x31E6A5C7, 0x22B65633, 0xD0DDD530, 0x0417B1DB, 0xF67C32D8,
    0xE52CC12C, 0x1747422F, 0x49547E0B, 0xBB3FFD08, 0xA86F0EFC, 0x5A048DFF,
    0x8ECEE914, 0x7CA56A17, 0x6FF599E3, 0x9D9E1AE0, 0xD3D3E1AB, 0x21B862A8,
    0x32E8915C, 0xC083125F, 0x144976B4, 0xE622F5B7, 0xF5720643, 0x07198540,
    0x590AB964, 0xAB613A67, 0xB831C993, 0x4A5A4A90, 0x9E902E7B, 0x6CFBAD78,
    0x7FAB5E8C, 0x8DC0DD8F, 0xE330A81A, 0x115B2B19, 0x020BD8ED, 0xF0605BEE,
    0x24AA3F05, 0xD6C1BC06, 0xC5914FF2, 0x37FACCF1, 0x69E9F0D5, 0x9B8273D6,
    0x88D28022, 0x7AB90321, 0xAE7367CA, 0x5C18E4C9, 0x4F48173D, 0xBD23943E,
    0xF36E6F75, 0x0105EC76, 0x12551F82, 0xE03E9C81, 0x34F4F86A, 0xC69F7B69,
    0xD5CF889D, 0x27A40B9E, 0x79B737BA, 0x8BDCB4B9, 0x988C474D, 0x6AE7C44E,
    0xBE2DA0A5, 0x4C4623A6, 0x5F16D052, 0xAD7D5351]

/-- `DOCRC1`, and the body of the second loop. -/
def docrc1 (buf : List (BitVec 8)) (i : Nat) (crc : BitVec 32) : BitVec 32 :=
  crc >>> 8 ^^^
    crcTable.getD ((crc ^^^ (buf.getD i 0).setWidth 32) &&& 0xff).toNat 0

def docrc2 (buf : List (BitVec 8)) (i : Nat) (crc : BitVec 32) : BitVec 32 :=
  docrc1 buf (i + 1) (docrc1 buf i crc)

def docrc4 (buf : List (BitVec 8)) (i : Nat) (crc : BitVec 32) : BitVec 32 :=
  docrc2 buf (i + 2) (docrc2 buf i crc)

def docrc8 (buf : List (BitVec 8)) (i : Nat) (crc : BitVec 32) : BitVec 32 :=
  docrc4 buf (i + 4) (docrc4 buf i crc)

def docrc16 (buf : List (BitVec 8)) (crc : BitVec 32) : BitVec 32 :=
  docrc8 buf 8 (docrc8 buf 0 crc)

/-- `while (len >= 16)`, and then the loop for the octets that are left. -/
def crcLoops (ptr : List (BitVec 8)) (crc : BitVec 32) : BitVec 32 :=
  if 16 ≤ ptr.length then
    crcLoops (ptr.drop 16) (docrc16 ptr crc)
  else
    ptr.foldl (fun crc octet => docrc1 [octet] 0 crc) crc
termination_by ptr.length
decreasing_by
  rw [List.length_drop]
  omega

def swab32 (x : BitVec 32) : BitVec 32 :=
  x.extractLsb' 0 8 ++ x.extractLsb' 8 8 ++ x.extractLsb' 16 8 ++
    x.extractLsb' 24 8

/-- `crc32c`; a null `buf` is left alone. -/
def crc32c (crc : BitVec 32) (buf : Option (List (BitVec 8))) : BitVec 32 :=
  ~~~swab32 (match buf with
    | none => crc
    | some ptr => crcLoops ptr crc)

def lineBits (octets : List (BitVec 8)) : List Bool :=
  octets.flatMap fun octet => (List.range 8).map octet.getLsbD

def castagnoli (octets : List (BitVec 8)) : BitVec 32 :=
  (lineBits octets).foldl (serial CRC32C_POLY) (BitVec.allOnes 32)

theorem crcTable_shifts : crcTable = (List.range 256).map fun i =>
    (shift CRC32C_POLY)^[8] (BitVec.ofNat 32 i) := by
  decide +kernel

theorem crcTable_entry {i : Nat} (inside : i < 256) :
    crcTable.getD i 0 = (shift CRC32C_POLY)^[8] (BitVec.ofNat 32 i) := by
  rw [crcTable_shifts, List.getD_eq_getElem _ _ (by simpa using inside),
    List.getElem_map, List.getElem_range]

theorem crcTable_low (x : BitVec 32) :
    crcTable.getD (x &&& 0xff).toNat 0 =
      (shift CRC32C_POLY)^[8] ((x.setWidth 8).setWidth 32) := by
  have low : x &&& 0xff = (x.setWidth 8).setWidth 32 := by
    apply BitVec.eq_of_getLsbD_eq
    intro i bound
    have mask : (0xff : BitVec 32).getLsbD i = decide (i < 8) := by
      revert i
      decide
    rw [BitVec.getLsbD_and, mask, BitVec.getLsbD_setWidth,
      BitVec.getLsbD_setWidth]
    by_cases low : i < 8
    · simp [low, bound]
    · simp [low]
  have small : (x &&& 0xff).toNat < 256 := by
    rw [low, BitVec.toNat_setWidth]
    omega
  have entry := crcTable_entry small
  rw [BitVec.ofNat_toNat, BitVec.setWidth_eq] at entry
  rw [entry, low]

theorem docrc1_serial (octet : BitVec 8) (crc : BitVec 32) :
    docrc1 [octet] 0 crc =
      ((List.range 8).map octet.getLsbD).foldl (serial CRC32C_POLY) crc := by
  rw [foldl_serial_octet CRC32C_POLY (by omega), docrc1, List.getD_cons_zero,
    crcTable_low]

theorem docrc16_foldl {ptr : List (BitVec 8)} (enough : 16 ≤ ptr.length)
    (crc : BitVec 32) :
    docrc16 ptr crc =
      (ptr.take 16).foldl (fun crc octet => docrc1 [octet] 0 crc) crc := by
  have unrolled : ∀ (n i : Nat) (crc : BitVec 32), i + n ≤ ptr.length →
      ((ptr.drop i).take n).foldl (fun crc octet => docrc1 [octet] 0 crc) crc =
        ((List.range n).map (i + ·)).foldl (fun crc i => docrc1 ptr i crc)
          crc := by
    intro n i crc inside
    induction n generalizing crc with
    | zero => rfl
    | succ n ih =>
        have there : i + n < ptr.length := by omega
        have last : (ptr.drop i).take (n + 1) =
            (ptr.drop i).take n ++ [ptr[i + n]] := by
          rw [List.take_add_one, List.getElem?_drop,
            List.getElem?_eq_getElem there]
          rfl
        rw [last, List.foldl_append, ih _ (by omega), List.range_succ,
          List.map_append, List.foldl_append]
        simp only [List.foldl_cons, List.foldl_nil, List.map_cons,
          List.map_nil, docrc1, List.getD_cons_zero,
          List.getD_eq_getElem ptr 0 there]
  have all := unrolled 16 0 crc (by omega)
  rw [List.drop_zero] at all
  rw [all]
  rfl

theorem crcLoops_foldl (ptr : List (BitVec 8)) (crc : BitVec 32) :
    crcLoops ptr crc =
      ptr.foldl (fun crc octet => docrc1 [octet] 0 crc) crc := by
  induction ptr, crc using crcLoops.induct with
  | case1 ptr crc enough ih =>
      rw [crcLoops, if_pos enough, ih, docrc16_foldl enough,
        ← List.foldl_append, List.take_append_drop]
  | case2 ptr crc short => rw [crcLoops, if_neg short]

theorem crcLoops_serial (ptr : List (BitVec 8)) (crc : BitVec 32) :
    crcLoops ptr crc = (lineBits ptr).foldl (serial CRC32C_POLY) crc := by
  rw [crcLoops_foldl, lineBits]
  induction ptr generalizing crc with
  | nil => rfl
  | cons octet ptr ih =>
      rw [List.foldl_cons, ih, docrc1_serial, List.flatMap_cons,
        List.foldl_append]

theorem not_octets (a b c d : BitVec 8) :
    ~~~(a ++ b ++ c ++ d) = ~~~a ++ ~~~b ++ ~~~c ++ ~~~d := by
  simp only [BitVec.not_append]

theorem swab32_not (x : BitVec 32) : swab32 (~~~x) = ~~~swab32 x := by
  have octet (start : Nat) (inside : start + 8 ≤ 32) :
      (~~~x).extractLsb' start 8 = ~~~x.extractLsb' start 8 := by
    apply BitVec.eq_of_getLsbD_eq
    intro i bound
    simp only [BitVec.getLsbD_extractLsb', BitVec.getLsbD_not]
    simp [bound, show start + i < 32 by omega]
  unfold swab32
  rw [octet 0 (by omega), octet 8 (by omega), octet 16 (by omega),
    octet 24 (by omega)]
  exact (not_octets _ _ _ _).symm

/-- The checksum of any octets is that of the Castagnoli polynomial. -/
theorem crc32c_castagnoli (buf : List (BitVec 8)) :
    crc32c 0xffffffff (some buf) = swab32 (~~~castagnoli buf) := by
  rw [swab32_not, castagnoli, ← crcLoops_serial]
  rfl

theorem swab32_swab32 (x : BitVec 32) : swab32 (swab32 x) = x := by
  apply BitVec.eq_of_getLsbD_eq
  intro i bound
  simp only [swab32, BitVec.getLsbD_append, BitVec.getLsbD_extractLsb']
  grind

/-- Bits that come damaged within thirty-two in a row change the checksum. -/
theorem crc32c_burst {crc : BitVec 32} {buf buf' : List (BitVec 8)}
    {before bits bits' after : List Bool}
    (sent : lineBits buf = before ++ bits ++ after)
    (received : lineBits buf' = before ++ bits' ++ after)
    (length : bits.length = bits'.length) (short : bits.length ≤ 32)
    (damaged : bits ≠ bits') :
    crc32c crc (some buf) ≠ crc32c crc (some buf') := by
  intro same
  have swabbed : swab32 (crcLoops buf crc) = swab32 (crcLoops buf' crc) :=
    BitVec.not_inj.mp same
  have registers := congrArg swab32 swabbed
  rw [swab32_swab32, swab32_swab32, crcLoops_serial, crcLoops_serial, sent,
    received] at registers
  exact damaged (foldl_serial_burst CRC32C_POLY (by decide) crc length short
    registers)

theorem crc32c_burst_octet :
    crc32c 0xffffffff (some [0#8]) ≠ crc32c 0xffffffff (some [0xff#8]) :=
  @crc32c_burst _ _ _ [] (List.replicate 8 false) (List.replicate 8 true) []
    (by decide) (by decide) rfl (by decide) (by decide)

end OpenSS7.Sctp
