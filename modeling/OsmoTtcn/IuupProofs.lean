import OsmoTtcn.TitanProofs
import OsmoTtcn.CrcProofs

/-! # IuUP PDUs and their checksums

    `f_enc_IuUP_PDU` encodes a PDU with the RAW codec and then overwrites the
    octets 2 and 3 with the header CRC (6 bits) and the payload CRC (10 bits).
    A PDU of type 1 has no payload CRC and a header of three octets, so there
    the patch reaches into the payload: `encIuupPdu_right_iff`.

    The control body of type 14 is coded by the RAW codec of its own type,
    which is a parameter here. -/

namespace OsmoIuup

open OsmoTitan WireOctet Crc Polynomial

-- ── Types and RAW codec ──────────────────────────────────────────────────────

/-- TS 25.415 6.6.3.2 -/
inductive IuupAckNack where
  | ctrl | ack | nack | reserved
  deriving DecidableEq, Repr

/-- TS 25.415 6.6.3.5 -/
inductive IuupFqc where
  | good | bad | badRadio | spare
  deriving DecidableEq, Repr

/-- TS 25.415 6.6.3.7 -/
inductive IuupProcedureIndicator where
  | initialization | rateControl | timeAlignment | errorEvent
  deriving DecidableEq, Repr

/-- The number of an `IuUP_AckNack`. -/
def IuupAckNack.toBits : IuupAckNack → Nat
  | .ctrl => 0 | .ack => 1 | .nack => 2 | .reserved => 3

/-- The `IuUP_AckNack` of a number. -/
def IuupAckNack.ofBits : Nat → IuupAckNack
  | 0 => .ctrl | 1 => .ack | 2 => .nack | _ => .reserved

/-- The number of an `IuUP_FQC`. -/
def IuupFqc.toBits : IuupFqc → Nat
  | .good => 0 | .bad => 1 | .badRadio => 2 | .spare => 3

/-- The `IuUP_FQC` of a number. -/
def IuupFqc.ofBits : Nat → IuupFqc
  | 0 => .good | 1 => .bad | 2 => .badRadio | _ => .spare

/-- The number of an `IuUP_ProcedureIndicator`. -/
def IuupProcedureIndicator.toBits : IuupProcedureIndicator → Nat
  | .initialization => 0 | .rateControl => 1 | .timeAlignment => 2
  | .errorEvent => 3

/-- The other values of the four bits are reserved. -/
def IuupProcedureIndicator.ofBits : Nat → Except Fault IuupProcedureIndicator
  | 0 => .ok .initialization
  | 1 => .ok .rateControl
  | 2 => .ok .timeAlignment
  | 3 => .ok .errorEvent
  | _ => .error .rawIncomplete

theorem IuupAckNack.toBits_lt (a : IuupAckNack) : a.toBits < 4 := by
  cases a <;> decide

theorem IuupFqc.toBits_lt (q : IuupFqc) : q.toBits < 4 := by
  cases q <;> decide

/-- It fits into four bits. -/
theorem IuupProcedureIndicator.toBits_lt (p : IuupProcedureIndicator) :
    p.toBits < 16 := by
  cases p <;> decide

theorem IuupAckNack.ofBits_toBits (a : IuupAckNack) : ofBits a.toBits = a := by
  cases a <;> rfl

theorem IuupFqc.ofBits_toBits (q : IuupFqc) : ofBits q.toBits = q := by
  cases q <;> rfl

theorem IuupProcedureIndicator.ofBits_toBits (p : IuupProcedureIndicator) :
    ofBits p.toBits = .ok p := by
  cases p <;> rfl

/-- TS 25.415 6.6.2.1; `pdu_type` is the tag 0. -/
structure IuupPduType0 where
  frameNr : Fin 16
  fqc : IuupFqc
  rfci : Fin 64
  headerCrc : Fin 64
  payloadCrc : Fin 1024
  payload : List UInt8
  deriving DecidableEq, Repr

/-- TS 25.415 6.6.2.2; `pdu_type` is the tag 1. -/
structure IuupPduType1 where
  frameNr : Fin 16
  fqc : IuupFqc
  rfci : Fin 64
  headerCrc : Fin 64
  spare : Fin 4
  payload : List UInt8
  deriving DecidableEq, Repr

/-- TS 25.415 6.6.2.3, with the common header; `pdu_type` is the tag 14. -/
structure IuupPduType14 (Body : Type) where
  ackNack : IuupAckNack
  frameNr : Fin 4
  iuupVersion : Fin 16
  procedureInd : IuupProcedureIndicator
  headerCrc : Fin 64
  payloadCrc : Fin 1024
  body : Body
  deriving DecidableEq, Repr

/-- `IuUP_PDU` -/
inductive IuupPdu (Body : Type) where
  | type0 (pdu : IuupPduType0)
  | type1 (pdu : IuupPduType1)
  | type14 (pdu : IuupPduType14 Body)
  deriving DecidableEq, Repr

/-- The RAW codec of what follows the common header of a control PDU; the
    alternative is chosen by the acknowledgement and the procedure. -/
structure BodyCodec (Body : Type) where
  enc : Body → List UInt8
  dec : IuupAckNack → IuupProcedureIndicator → List UInt8 → Except Fault Body

/-- Octets 2 and 3 where there are both checksums. -/
def crcOctets (headerCrc : Fin 64) (payloadCrc : Fin 1024) : List UInt8 :=
  [ UInt8.ofNat (headerCrc.val * 4 + payloadCrc.val / 256),
    UInt8.ofNat (payloadCrc.val % 256) ]

/-- `IuUP_PDU_Type0` as RAW encodes it. -/
def rawEncType0 (p : IuupPduType0) : List UInt8 :=
  UInt8.ofNat (0 * 16 + p.frameNr.val)
    :: UInt8.ofNat (p.fqc.toBits * 64 + p.rfci.val)
    :: (crcOctets p.headerCrc p.payloadCrc ++ p.payload)

/-- `IuUP_PDU_Type1` as RAW encodes it. -/
def rawEncType1 (p : IuupPduType1) : List UInt8 :=
  UInt8.ofNat (1 * 16 + p.frameNr.val)
    :: UInt8.ofNat (p.fqc.toBits * 64 + p.rfci.val)
    :: UInt8.ofNat (p.headerCrc.val * 4 + p.spare.val)
    :: p.payload

section Codec

variable {Body : Type} (codec : BodyCodec Body)

/-- `IuUP_PDU_Type14` as RAW encodes it. -/
def rawEncType14 (p : IuupPduType14 Body) : List UInt8 :=
  UInt8.ofNat (14 * 16 + (p.ackNack.toBits * 4 + p.frameNr.val))
    :: UInt8.ofNat (p.iuupVersion.val * 16 + p.procedureInd.toBits)
    :: (crcOctets p.headerCrc p.payloadCrc ++ codec.enc p.body)

/-- `enc_IuUP_PDU` -/
def rawEncIuupPdu : IuupPdu Body → List UInt8
  | .type0 p => rawEncType0 p
  | .type1 p => rawEncType1 p
  | .type14 p => rawEncType14 codec p

/-- `IuUP_PDU_Type0` as RAW decodes it. -/
def rawDecType0 (buf : List UInt8) : Except Fault IuupPduType0 :=
  match buf with
  | o0 :: o1 :: o2 :: o3 :: payload => .ok {
      frameNr := Fin.ofNat 16 o0.toNat
      fqc := .ofBits (o1.toNat / 64)
      rfci := Fin.ofNat 64 o1.toNat
      headerCrc := Fin.ofNat 64 (o2.toNat / 4)
      payloadCrc := Fin.ofNat 1024 (o2.toNat % 4 * 256 + o3.toNat)
      payload := payload }
  | _ => .error .rawIncomplete

/-- `IuUP_PDU_Type1` as RAW decodes it. -/
def rawDecType1 (buf : List UInt8) : Except Fault IuupPduType1 :=
  match buf with
  | o0 :: o1 :: o2 :: payload => .ok {
      frameNr := Fin.ofNat 16 o0.toNat
      fqc := .ofBits (o1.toNat / 64)
      rfci := Fin.ofNat 64 o1.toNat
      headerCrc := Fin.ofNat 64 (o2.toNat / 4)
      spare := Fin.ofNat 4 o2.toNat
      payload := payload }
  | _ => .error .rawIncomplete

/-- `IuUP_PDU_Type14` as RAW decodes it. -/
def rawDecType14 (buf : List UInt8) : Except Fault (IuupPduType14 Body) :=
  match buf with
  | o0 :: o1 :: o2 :: o3 :: rest => do
      let procedureInd ← IuupProcedureIndicator.ofBits (o1.toNat % 16)
      let ackNack := IuupAckNack.ofBits (o0.toNat % 16 / 4)
      let body ← codec.dec ackNack procedureInd rest
      .ok {
        ackNack := ackNack
        frameNr := Fin.ofNat 4 o0.toNat
        iuupVersion := Fin.ofNat 16 (o1.toNat / 16)
        procedureInd := procedureInd
        headerCrc := Fin.ofNat 64 (o2.toNat / 4)
        payloadCrc := Fin.ofNat 1024 (o2.toNat % 4 * 256 + o3.toNat)
        body := body }
  | _ => .error .rawIncomplete

/-- The alternative of the union is chosen by its tag `pdu_type`. -/
def decIuupPdu (buf : List UInt8) : Except Fault (IuupPdu Body) :=
  match (buf.headD 0).toNat / 16 with
  | 0 => (rawDecType0 buf).map .type0
  | 1 => (rawDecType1 buf).map .type1
  | 14 => (rawDecType14 codec buf).map .type14
  | _ => .error .rawIncomplete

end Codec

-- ── The C functions ──────────────────────────────────────────────────────────

/-- `struct osmo_crc8gen_code` and `struct osmo_crc16gen_code` -/
structure OsmoCrcgenCode where
  bits : Nat
  poly : Nat
  init : Nat
  remainder : Nat

/-- The body shared by the two widths.  The mask keeps the register below
    `bits` bits, so that neither width of the C type overflows. -/
def osmoCrcgenComputeBits (code : OsmoCrcgenCode) (inp : List Bool) : Nat :=
  inp.foldl (step code.bits code.poly) code.init ^^^ code.remainder

/-- `osmo_crc8gen_compute_bits` -/
def osmoCrc8genComputeBits (code : OsmoCrcgenCode) (inp : List Bool) : Nat :=
  osmoCrcgenComputeBits code inp

/-- `osmo_crc16gen_compute_bits` -/
def osmoCrc16genComputeBits (code : OsmoCrcgenCode) (inp : List Bool) : Nat :=
  osmoCrcgenComputeBits code inp

/-- `iuup_hdr_crc_code` -/
def iuupHdrCrcCode : OsmoCrcgenCode := ⟨6, 47, 0, 0⟩

/-- `iuup_data_crc_code` -/
def iuupDataCrcCode : OsmoCrcgenCode := ⟨10, 563, 0, 0⟩

/-- All bits of the octets, the most significant first.  (For no octets the C
    loop still unpacks one bit, which no caller looks at.) -/
def osmoPbit2ubit (inp : List UInt8) : List Bool :=
  inp.flatMap (fun o => [bitOf o 7, bitOf o 6, bitOf o 5, bitOf o 4, bitOf o 3,
    bitOf o 2, bitOf o 1, bitOf o 0])

/-- `iuup_get_payload_offset` -/
def iuupGetPayloadOffset (o0 : UInt8) : Int :=
  match o0.toNat / 16 with
  | 0 => 4
  | 14 => 4
  | 1 => 3
  | _ => -1

/-- The unpacked bits go to an array for 1024 octets. -/
def payloadCrcBits (payload : List UInt8) : Except Fault Int :=
  if 1024 < payload.length then .error .overrun
  else .ok (osmoCrc16genComputeBits iuupDataCrcCode (osmoPbit2ubit payload))

/-- `osmo_iuup_compute_payload_crc` -/
def osmoIuupComputePayloadCrc (iuupPdu : List UInt8) : Except Fault Int :=
  match iuupPdu with
  | [] => .ok (-1)
  | o0 :: _ =>
      -- Type 1 has no CRC
      if o0.toNat / 16 = 1 then .ok 0
      else if iuupGetPayloadOffset o0 < 0 then .ok (iuupGetPayloadOffset o0)
      else if (iuupPdu.length : Int) < iuupGetPayloadOffset o0 then .ok (-1)
      else payloadCrcBits (iuupPdu.drop (iuupGetPayloadOffset o0).toNat)

/-- `osmo_iuup_compute_header_crc` -/
def osmoIuupComputeHeaderCrc (iuupPdu : List UInt8) : Int :=
  if iuupPdu.length < 2 then -1
  else osmoCrc8genComputeBits iuupHdrCrcCode (osmoPbit2ubit (iuupPdu.take 2))

/-- The two octets that replace the octets 2 and 3. -/
def checksum (crcHdr crcPayload : Int) : List UInt8 :=
  [ UInt8.ofNat ((crcHdr % 64).toNat * 4 + (crcPayload % 1024).toNat / 256),
    UInt8.ofNat (crcPayload % 256).toNat ]

/-- `f_enc_IuUP_PDU` -/
def fEncIuupPdu {Body : Type} (codec : BodyCodec Body) (pdu : IuupPdu Body) :
    Except Fault (List UInt8) := do
  let retVal := rawEncIuupPdu codec pdu
  let crcHdr := osmoIuupComputeHeaderCrc retVal
  let crcPayload ← osmoIuupComputePayloadCrc retVal
  let head ← substr retVal 0 2
  let tail ← substr retVal 4 ((retVal.length : Int) - 4)
  .ok (head ++ checksum crcHdr crcPayload ++ tail)

-- ── The RAW codec round trips ────────────────────────────────────────────────

/-- The header CRC comes back from its octets. -/
theorem headerCrc_crcOctets (h : Fin 64) (p : Fin 1024) :
    Fin.ofNat 64 ((UInt8.ofNat (h.val * 4 + p.val / 256)).toNat / 4) = h := by
  have hh := h.isLt
  have hp := p.isLt
  rw [octet_div (show p.val / 256 < 4 by omega) (by omega)]
  exact Fin.ext (Nat.mod_eq_of_lt hh)

/-- The payload CRC comes back from its octets. -/
theorem payloadCrc_crcOctets (h : Fin 64) (p : Fin 1024) :
    (UInt8.ofNat (h.val * 4 + p.val / 256)).toNat % 4 * 256
      + (UInt8.ofNat (p.val % 256)).toNat = p.val := by
  have hh := h.isLt
  have hp := p.isLt
  rw [octet_mod (show p.val / 256 < 4 by omega) (by omega),
      toNat_octet (show p.val % 256 < 256 by omega)]
  omega

/-- Octet 1 of the types 0 and 1. -/
theorem fqc_octet (q : IuupFqc) (r : Fin 64) :
    IuupFqc.ofBits ((UInt8.ofNat (q.toBits * 64 + r.val)).toNat / 64) = q := by
  have hq := q.toBits_lt
  have hr := r.isLt
  rw [octet_div hr (by omega), q.ofBits_toBits]

/-- The RFCI comes back from its octet. -/
theorem rfci_octet (q : IuupFqc) (r : Fin 64) :
    Fin.ofNat 64 (UInt8.ofNat (q.toBits * 64 + r.val)).toNat = r := by
  have hq := q.toBits_lt
  have hr := r.isLt
  exact Fin.ext (octet_mod hr (by omega))

/-- A PDU of type 0 comes back. -/
theorem rawDecType0_enc (p : IuupPduType0) :
    rawDecType0 (rawEncType0 p) = .ok p := by
  obtain ⟨frameNr, fqc, rfci, h, pc, payload⟩ := p
  have hf := frameNr.isLt
  have f0 : Fin.ofNat 16 (UInt8.ofNat (0 * 16 + frameNr.val)).toNat
      = frameNr := Fin.ext (octet_mod hf (by omega))
  have f2 : Fin.ofNat 1024 pc.val = pc := Fin.ext (Nat.mod_eq_of_lt pc.isLt)
  show Except.ok (IuupPduType0.mk _ _ _ _ _ payload) = _
  rw [f0, fqc_octet, rfci_octet, headerCrc_crcOctets, payloadCrc_crcOctets, f2]

/-- A PDU of type 1 comes back. -/
theorem rawDecType1_enc (p : IuupPduType1) :
    rawDecType1 (rawEncType1 p) = .ok p := by
  obtain ⟨frameNr, fqc, rfci, h, spare, payload⟩ := p
  have hf := frameNr.isLt
  have hh := h.isLt
  have hs := spare.isLt
  have f0 : Fin.ofNat 16 (UInt8.ofNat (1 * 16 + frameNr.val)).toNat
      = frameNr := Fin.ext (octet_mod hf (by omega))
  have f2 : Fin.ofNat 4 (UInt8.ofNat (h.val * 4 + spare.val)).toNat = spare :=
    Fin.ext (octet_mod hs (by omega))
  have f3 : Fin.ofNat 64 h.val = h := Fin.ext (Nat.mod_eq_of_lt hh)
  show Except.ok (IuupPduType1.mk _ _ _ _ _ payload) = _
  rw [f0, fqc_octet, rfci_octet, octet_div hs (by omega), f3, f2]

section Codec

variable {Body : Type} {codec : BodyCodec Body}

/-- The RAW codec of the control body reads back what it wrote. -/
def BodyLaw (codec : BodyCodec Body) : IuupPdu Body → Prop
  | .type14 p =>
      codec.dec p.ackNack p.procedureInd (codec.enc p.body) = .ok p.body
  | _ => True

/-- A PDU of type 14 comes back, if its body does. -/
theorem rawDecType14_enc {p : IuupPduType14 Body}
    (hbody : BodyLaw codec (.type14 p)) :
    rawDecType14 codec (rawEncType14 codec p) = .ok p := by
  obtain ⟨ackNack, frameNr, version, procInd, h, pc, body⟩ := p
  have ha := ackNack.toBits_lt
  have hf := frameNr.isLt
  have hv := version.isLt
  have hp := procInd.toBits_lt
  have hlow : (UInt8.ofNat (14 * 16 + (ackNack.toBits * 4
      + frameNr.val))).toNat % 16 = ackNack.toBits * 4 + frameNr.val :=
    octet_mod (by omega) (by omega)
  have f0 : (ackNack.toBits * 4 + frameNr.val) / 4 = ackNack.toBits := by omega
  have f1 : Fin.ofNat 4 (UInt8.ofNat (14 * 16 + (ackNack.toBits * 4
      + frameNr.val))).toNat = frameNr :=
    Fin.ext (show _ % 4 = frameNr.val by omega)
  have f2 : Fin.ofNat 16 version.val = version :=
    Fin.ext (Nat.mod_eq_of_lt hv)
  have f3 : Fin.ofNat 1024 pc.val = pc := Fin.ext (Nat.mod_eq_of_lt pc.isLt)
  show Except.bind (IuupProcedureIndicator.ofBits ((UInt8.ofNat
    (version.val * 16 + procInd.toBits)).toNat % 16)) _ = _
  rw [octet_mod hp (by omega), procInd.ofBits_toBits]
  show Except.bind (codec.dec (IuupAckNack.ofBits ((UInt8.ofNat (14 * 16
    + (ackNack.toBits * 4 + frameNr.val))).toNat % 16 / 4)) procInd
    (codec.enc body)) _ = _
  rw [hlow, f0, ackNack.ofBits_toBits]
  have hdec : codec.dec ackNack procInd (codec.enc body) = .ok body := hbody
  rw [hdec]
  show Except.ok (IuupPduType14.mk _ _ _ _ _ _ body) = _
  rw [f1, octet_div hp (by omega), f2, headerCrc_crcOctets,
      payloadCrc_crcOctets, f3]

/-- **THE RAW CODEC ROUND TRIPS.** -/
theorem decIuupPdu_enc {x : IuupPdu Body} (hbody : BodyLaw codec x) :
    decIuupPdu codec (rawEncIuupPdu codec x) = .ok x := by
  cases x with
  | type0 p =>
      have hf := p.frameNr.isLt
      have htag : (UInt8.ofNat (0 * 16 + p.frameNr.val)).toNat / 16 = 0 :=
        octet_div hf (by omega)
      rw [decIuupPdu]
      show (match (UInt8.ofNat (0 * 16 + p.frameNr.val)).toNat / 16 with
        | 0 => _ | 1 => _ | 14 => _ | _ => _) = _
      rw [htag]
      show (rawDecType0 (rawEncType0 p)).map _ = _
      rw [rawDecType0_enc]
      rfl
  | type1 p =>
      have hf := p.frameNr.isLt
      have htag : (UInt8.ofNat (1 * 16 + p.frameNr.val)).toNat / 16 = 1 :=
        octet_div hf (by omega)
      rw [decIuupPdu]
      show (match (UInt8.ofNat (1 * 16 + p.frameNr.val)).toNat / 16 with
        | 0 => _ | 1 => _ | 14 => _ | _ => _) = _
      rw [htag]
      show (rawDecType1 (rawEncType1 p)).map _ = _
      rw [rawDecType1_enc]
      rfl
  | type14 p =>
      have ha := p.ackNack.toBits_lt
      have hf := p.frameNr.isLt
      have htag : (UInt8.ofNat (14 * 16
          + (p.ackNack.toBits * 4 + p.frameNr.val))).toNat / 16 = 14 :=
        octet_div (by omega) (by omega)
      rw [decIuupPdu]
      show (match (UInt8.ofNat (14 * 16 + (p.ackNack.toBits * 4
        + p.frameNr.val))).toNat / 16 with
        | 0 => _ | 1 => _ | 14 => _ | _ => _) = _
      rw [htag]
      show (rawDecType14 codec (rawEncType14 codec p)).map _ = _
      rw [rawDecType14_enc hbody]
      rfl

-- ── What the encoder returns ─────────────────────────────────────────────────

/-- `c` is the CRC of the octets: the remainder of their polynomial, moved up
    by the width of the CRC, divided by the generator. -/
def IsCrc (code : OsmoCrcgenCode) (octets : List UInt8) (c : Nat) : Prop :=
  c < 2 ^ code.bits ∧ wordPoly code.bits c
    = (X ^ code.bits * msgPoly (osmoPbit2ubit octets))
      %ₘ generator code.bits code.poly

/-- What the generator computes is the remainder of a division. -/
theorem isCrc_compute {code : OsmoCrcgenCode} (hbits : 0 < code.bits)
    (hpoly : code.poly < 2 ^ code.bits) (hinit : code.init = 0)
    (hrem : code.remainder = 0) (octets : List UInt8) :
    IsCrc code octets (osmoCrcgenComputeBits code (osmoPbit2ubit octets)) := by
  rw [osmoCrcgenComputeBits, hinit, hrem, Nat.xor_zero]
  exact ⟨foldl_step_lt _ (Nat.two_pow_pos _),
    register_eq_modByMonic hbits hpoly _⟩

/-- The header CRC is over the first two octets. -/
def headerCrcOf (o0 o1 : UInt8) : Nat :=
  osmoCrc8genComputeBits iuupHdrCrcCode (osmoPbit2ubit [o0, o1])

/-- The CRC of a payload. -/
def payloadCrcOf (payload : List UInt8) : Nat :=
  osmoCrc16genComputeBits iuupDataCrcCode (osmoPbit2ubit payload)

/-- The CRC of a header is one of the header's generator. -/
theorem headerCrcOf_isCrc (o0 o1 : UInt8) :
    IsCrc iuupHdrCrcCode [o0, o1] (headerCrcOf o0 o1) :=
  isCrc_compute (by decide) (by decide) rfl rfl [o0, o1]

/-- The CRC of a payload is one of the payload's generator. -/
theorem payloadCrcOf_isCrc (payload : List UInt8) :
    IsCrc iuupDataCrcCode payload (payloadCrcOf payload) :=
  isCrc_compute (by decide) (by decide) rfl rfl payload

/-- The patch of an encoding with at least four octets. -/
theorem fEncIuupPdu_of_crc {x : IuupPdu Body} {o0 o1 o2 o3 : UInt8}
    {rest : List UInt8} {crcPayload : Int}
    (hraw : rawEncIuupPdu codec x = o0 :: o1 :: o2 :: o3 :: rest)
    (hpay : osmoIuupComputePayloadCrc (o0 :: o1 :: o2 :: o3 :: rest)
      = .ok crcPayload) :
    fEncIuupPdu codec x
      = .ok (o0 :: o1 :: (checksum (headerCrcOf o0 o1) crcPayload ++ rest)) := by
  have hhead : substr (o0 :: o1 :: o2 :: o3 :: rest) 0 2 = .ok [o0, o1] :=
    @substr_ok (o0 :: o1 :: o2 :: o3 :: rest) 0 2
      (Nat.le_add_left 2 (rest.length + 2))
  have hcount : ((o0 :: o1 :: o2 :: o3 :: rest).length : Int) - 4
      = (rest.length : Nat) := by
    show ((rest.length + 4 : Nat) : Int) - 4 = _
    omega
  have htail : substr (o0 :: o1 :: o2 :: o3 :: rest) 4 (rest.length : Nat)
      = .ok rest := by
    have h := @substr_ok (o0 :: o1 :: o2 :: o3 :: rest) 4 rest.length
      (Nat.le_of_eq (Nat.add_comm 4 rest.length))
    rw [show ((4 : Nat) : Int) = 4 from rfl] at h
    rw [h]
    exact congrArg Except.ok List.take_length
  rw [fEncIuupPdu, hraw]
  show Except.bind (osmoIuupComputePayloadCrc _) _ = _
  rw [hpay]
  show Except.bind (substr _ 0 2) _ = _
  rw [hhead, hcount]
  show Except.bind (substr _ 4 (rest.length : Nat)) _ = _
  rw [htail]
  rfl

/-- The types with two checksums. -/
theorem payloadOffset_four {o0 : UInt8} (htype : o0.toNat / 16 = 0 ∨ o0.toNat / 16 = 14) :
    iuupGetPayloadOffset o0 = 4 := by
  rw [iuupGetPayloadOffset]
  rcases htype with h | h
  · rw [h]
    rfl
  · rw [h]
    rfl

/-- The payload CRC of the types that have one. -/
theorem payloadCrc_four {o0 o1 o2 o3 : UInt8} {rest : List UInt8}
    (htype : o0.toNat / 16 = 0 ∨ o0.toNat / 16 = 14) :
    osmoIuupComputePayloadCrc (o0 :: o1 :: o2 :: o3 :: rest)
      = payloadCrcBits rest := by
  have hoff := payloadOffset_four htype
  have hne : ¬ o0.toNat / 16 = 1 := by omega
  have hlen : ¬ ((o0 :: o1 :: o2 :: o3 :: rest).length : Int) < 4 := by
    show ¬ ((rest.length + 4 : Nat) : Int) < 4
    omega
  rw [osmoIuupComputePayloadCrc, if_neg hne, hoff, if_neg (by decide),
      if_neg hlen]
  rfl

/-- The two octets of the checksums. -/
theorem checksum_eq_crcOctets {h c : Nat} (hh : h < 64) (hc : c < 1024) :
    checksum h c = crcOctets ⟨h, hh⟩ ⟨c, hc⟩ := by
  have f0 : ((h : Int) % 64).toNat = h := by omega
  have f1 : ((c : Int) % 1024).toNat = c := by omega
  have f2 : ((c : Int) % 256).toNat = c % 256 := by omega
  rw [checksum, f0, f1, f2]
  rfl

-- ── The claim on one encoding ────────────────────────────────────────────────

/-- The value with other checksums. -/
def IuupPdu.setCrc (h : Fin 64) (c : Fin 1024) : IuupPdu Body → IuupPdu Body
  | .type0 p => .type0 { p with headerCrc := h, payloadCrc := c }
  | .type1 p => .type1 { p with headerCrc := h }
  | .type14 p => .type14 { p with headerCrc := h, payloadCrc := c }

/-- Bit `j` of octet `i` belongs to a checksum. -/
def IsCrcBit (i j : Nat) : IuupPdu Body → Prop
  | .type1 _ => i = 2 ∧ 2 ≤ j
  | _ => i = 2 ∨ i = 3

/-- All types but 1 have a CRC over the payload. -/
def HasPayloadCrc : IuupPdu Body → Prop
  | .type1 _ => False
  | _ => True

/-- What the encoding of `x` is to be. -/
structure EncRight (codec : BodyCodec Body) (x : IuupPdu Body)
    (o : List UInt8) : Prop where
  /-- It differs from the RAW encoding in the bits of the checksums only. -/
  length : o.length = (rawEncIuupPdu codec x).length
  octets : ∀ i j, j < 8 → ¬ IsCrcBit i j x →
    bitOf (o.getD i 0) j = bitOf ((rawEncIuupPdu codec x).getD i 0) j
  /-- These bits are the CRCs of the header and of the payload. -/
  headerCrc : IsCrc iuupHdrCrcCode (o.take 2) ((o.getD 2 0).toNat / 4)
  payloadCrc : HasPayloadCrc x → IsCrc iuupDataCrcCode (o.drop 4)
    ((o.getD 2 0).toNat % 4 * 256 + (o.getD 3 0).toNat)
  /-- Decoding gives back the value up to the checksums. -/
  decodes : ∃ h c, decIuupPdu codec o = .ok (x.setCrc h c)

/-- The body does not depend on the CRCs. -/
theorem BodyLaw.setCrc {x : IuupPdu Body} (hbody : BodyLaw codec x)
    (h : Fin 64) (c : Fin 1024) : BodyLaw codec (x.setCrc h c) := by
  cases x with
  | type0 p => exact trivial
  | type1 p => exact trivial
  | type14 p => exact hbody

/-- Octets behind the patched ones are the same. -/
theorem getD_patched {a0 a1 b2 b3 c2 c3 : UInt8} (rest : List UInt8) {i : Nat}
    (h : ¬ (i = 2 ∨ i = 3)) :
    (a0 :: a1 :: b2 :: b3 :: rest).getD i 0
      = (a0 :: a1 :: c2 :: c3 :: rest).getD i 0 := by
  match i with
  | 0 | 1 => rfl
  | 2 => exact absurd (Or.inl rfl) h
  | 3 => exact absurd (Or.inr rfl) h
  | i + 4 => rfl

/-- The low bits of an octet do not depend on its high field. -/
theorem bitOf_low {a b s j : Nat} (hj : j < 2) (ha : a * 4 + s < 256)
    (hb : b * 4 + s < 256) :
    bitOf (UInt8.ofNat (a * 4 + s)) j = bitOf (UInt8.ofNat (b * 4 + s)) j := by
  have hmod : (a * 4 + s) / 2 ^ j % 2 = (b * 4 + s) / 2 ^ j % 2 := by
    rcases (show j = 0 ∨ j = 1 by omega) with rfl | rfl <;> omega
  rw [bitOf, bitOf, toNat_octet ha, toNat_octet hb, hmod]

/-- An encoding that sets both of the checksums of the types that have them. -/
theorem encRight_patched {x : IuupPdu Body} {o0 o1 : UInt8} {rest : List UInt8}
    {h0 h : Fin 64} {c0 c : Fin 1024} (hbody : BodyLaw codec x)
    (hbits : ∀ i j, i = 2 ∨ i = 3 → IsCrcBit i j x)
    (hraw : rawEncIuupPdu codec x = o0 :: o1 :: (crcOctets h0 c0 ++ rest))
    (hset : rawEncIuupPdu codec (x.setCrc h c) = o0 :: o1 :: (crcOctets h c ++ rest))
    (hh : IsCrc iuupHdrCrcCode [o0, o1] h.val) (hc : IsCrc iuupDataCrcCode rest c.val) :
    EncRight codec x (rawEncIuupPdu codec (x.setCrc h c)) := by
  have hdec := decIuupPdu_enc (hbody.setCrc h c)
  have hhlt := h.isLt
  have hclt := c.isLt
  rw [hset] at hdec ⊢
  refine ⟨by rw [hraw]; rfl, fun i j _ hbit => ?_, ?_, fun _ => ?_, h, c, hdec⟩
  · rw [hraw]
    exact congrArg (bitOf · j) (getD_patched _ (fun hi => hbit (hbits i j hi)))
  · show IsCrc _ _ ((UInt8.ofNat (h.val * 4 + c.val / 256)).toNat / 4)
    rw [octet_div (show c.val / 256 < 4 by omega) (by omega)]
    exact hh
  · show IsCrc _ _ ((UInt8.ofNat (h.val * 4 + c.val / 256)).toNat % 4 * 256
      + (UInt8.ofNat (c.val % 256)).toNat)
    rw [payloadCrc_crcOctets]
    exact hc

/-- An encoding that sets the two checksums and nothing else is right. -/
theorem encRight_setCrc {x : IuupPdu Body} (hbody : BodyLaw codec x)
    {h : Fin 64} {c : Fin 1024}
    (hh : IsCrc iuupHdrCrcCode ((rawEncIuupPdu codec x).take 2) h.val)
    (hc : HasPayloadCrc x →
      IsCrc iuupDataCrcCode ((rawEncIuupPdu codec x).drop 4) c.val) :
    EncRight codec x (rawEncIuupPdu codec (x.setCrc h c)) := by
  cases x with
  | type0 p => exact encRight_patched hbody (fun _ _ hi => hi) rfl rfl hh (hc trivial)
  | type1 p =>
      have hdec := decIuupPdu_enc (hbody.setCrc h c)
      have hhlt := h.isLt
      have hs := p.spare.isLt
      have hp := p.headerCrc.isLt
      refine ⟨rfl, ?_, ?_, fun hp => hp.elim, h, c, hdec⟩
      · intro i j hj hbit
        match i with
        | 0 | 1 => rfl
        | 2 =>
            have hlow : j < 2 := Nat.lt_of_not_le (fun h2 => hbit ⟨rfl, h2⟩)
            exact bitOf_low hlow (by omega) (by omega)
        | i + 3 => rfl
      · show IsCrc _ _ ((UInt8.ofNat (h.val * 4 + p.spare.val)).toNat / 4)
        rw [octet_div hs (by omega)]
        exact hh
  | type14 p => exact encRight_patched hbody (fun _ _ hi => hi) rfl rfl hh (hc trivial)

/-- The PDU is encoded, and the octets are right. -/
def EncodesRight (codec : BodyCodec Body) (x : IuupPdu Body) : Prop :=
  ∃ o, fEncIuupPdu codec x = .ok o ∧ EncRight codec x o

/-- The types with both checksums are right as long as the payload fits the
    array of bits. -/
theorem encodesRight_four {x : IuupPdu Body} {o0 o1 : UInt8}
    {rest : List UInt8} {h0 : Fin 64} {c0 : Fin 1024}
    (hbody : BodyLaw codec x)
    (htype : o0.toNat / 16 = 0 ∨ o0.toNat / 16 = 14)
    (hraw : rawEncIuupPdu codec x = o0 :: o1 :: (crcOctets h0 c0 ++ rest))
    (hset : ∀ h c, rawEncIuupPdu codec (x.setCrc h c)
      = o0 :: o1 :: (crcOctets h c ++ rest)) :
    EncodesRight codec x ↔ rest.length ≤ 1024 := by
  have hpay := @payloadCrc_four o0 o1 (UInt8.ofNat (h0.val * 4 + c0.val / 256))
    (UInt8.ofNat (c0.val % 256)) rest htype
  constructor
  · rintro ⟨o, henc, -⟩
    refine Nat.le_of_not_lt (fun hover => ?_)
    have herr : payloadCrcBits rest = .error .overrun := if_pos hover
    rw [herr] at hpay
    rw [fEncIuupPdu, hraw] at henc
    have henc' : Except.bind (osmoIuupComputePayloadCrc _) _ = _ := henc
    rw [show osmoIuupComputePayloadCrc (o0 :: o1 :: (crcOctets h0 c0 ++ rest))
      = .error .overrun from hpay] at henc'
    exact nomatch henc'
  · intro hfit
    have hok : payloadCrcBits rest = .ok (payloadCrcOf rest) :=
      if_neg (Nat.not_lt.mpr hfit)
    rw [hok] at hpay
    have hhlt : headerCrcOf o0 o1 < 64 := (headerCrcOf_isCrc o0 o1).1
    have hclt : payloadCrcOf rest < 1024 := (payloadCrcOf_isCrc rest).1
    have henc := @fEncIuupPdu_of_crc Body codec x o0 o1 _ _ rest _ hraw hpay
    rw [checksum_eq_crcOctets hhlt hclt, ← hset] at henc
    refine ⟨_, henc, encRight_setCrc hbody ?_ (fun _ => ?_)⟩
    · rw [hraw]
      exact headerCrcOf_isCrc o0 o1
    · rw [hraw]
      exact payloadCrcOf_isCrc rest

/-- A payload of type 1 starts in octet 3, which the patch clears. -/
theorem fEncIuupPdu_type1 {p : IuupPduType1} {a : UInt8} {rest : List UInt8}
    (hpay : p.payload = a :: rest) :
    ∃ h : Fin 64, IsCrc iuupHdrCrcCode ((rawEncType1 p).take 2) h.val
      ∧ fEncIuupPdu codec (.type1 p) = .ok (rawEncType1
          { p with headerCrc := h, spare := 0, payload := 0 :: rest }) := by
  obtain ⟨frameNr, fqc, rfci, hc, spare, payload⟩ := p
  have hp : payload = a :: rest := hpay
  have hf := frameNr.isLt
  have htag : (UInt8.ofNat (1 * 16 + frameNr.val)).toNat / 16 = 1 :=
    octet_div hf (by omega)
  have hcrc := headerCrcOf_isCrc (UInt8.ofNat (1 * 16 + frameNr.val))
    (UInt8.ofNat (fqc.toBits * 64 + rfci.val))
  have hhlt : _ < 64 := hcrc.1
  refine ⟨⟨_, hhlt⟩, hcrc, ?_⟩
  rw [hp]
  have henc := @fEncIuupPdu_of_crc Body codec
    (.type1 ⟨frameNr, fqc, rfci, hc, spare, a :: rest⟩) _ _ _ a rest
    (0 : Nat) rfl (if_pos htag)
  rw [checksum_eq_crcOctets hhlt (by decide)] at henc
  exact henc

/-- Without payload there is no octet 3. -/
theorem fEncIuupPdu_type1_empty {p : IuupPduType1} (hpay : p.payload = []) :
    fEncIuupPdu codec (.type1 p) = .error .badIndex := by
  obtain ⟨frameNr, fqc, rfci, hc, spare, payload⟩ := p
  have hp : payload = [] := hpay
  have hf := frameNr.isLt
  have htag : (UInt8.ofNat (1 * 16 + frameNr.val)).toNat / 16 = 1 :=
    octet_div hf (by omega)
  rw [hp, fEncIuupPdu]
  show Except.bind (osmoIuupComputePayloadCrc (UInt8.ofNat (1 * 16
    + frameNr.val) :: [_, _])) _ = _
  rw [osmoIuupComputePayloadCrc, if_pos htag]
  rfl

/-- When the encoder is right. -/
def EncGuard (codec : BodyCodec Body) : IuupPdu Body → Prop
  | .type0 p => p.payload.length ≤ 1024
  | .type1 p => p.spare = 0 ∧ p.payload.head? = some 0
  | .type14 p => (codec.enc p.body).length ≤ 1024

/-- A PDU of type 1 is encoded aright if `spare` is zero and the first octet of its
    payload is. -/
theorem encodesRight_type1 (p : IuupPduType1) :
    EncodesRight codec (.type1 p)
      ↔ p.spare = 0 ∧ p.payload.head? = some 0 := by
  cases hpay : p.payload with
  | nil =>
      constructor
      · rintro ⟨o, henc, -⟩
        rw [fEncIuupPdu_type1_empty hpay] at henc
        exact nomatch henc
      · rintro ⟨-, hhead⟩
        exact nomatch hhead
  | cons a rest =>
      obtain ⟨h, hcrc, henc⟩ := @fEncIuupPdu_type1 Body codec p a rest hpay
      constructor
      · rintro ⟨o, henc', hright⟩
        have ho := Except.ok.inj (henc.symm.trans henc')
        obtain ⟨h', c', hdec⟩ := hright.decodes
        rw [← ho] at hdec
        have hdec' := @decIuupPdu_enc Body codec (.type1 { p with
          headerCrc := h, spare := 0, payload := 0 :: rest }) trivial
        have hval := Except.ok.inj (hdec'.symm.trans hdec)
        have hp : IuupPduType1.mk p.frameNr p.fqc p.rfci h 0 (0 :: rest)
            = { p with headerCrc := h' } := IuupPdu.type1.inj hval
        have hspare := congrArg IuupPduType1.spare hp
        have hpayload := congrArg IuupPduType1.payload hp
        have hsame : 0 :: rest = a :: rest := hpayload.trans hpay
        exact ⟨hspare.symm, congrArg List.head? hsame.symm⟩
      · rintro ⟨hspare, hhead⟩
        have ha : a = 0 := Option.some.inj hhead
        refine ⟨_, henc, ?_⟩
        have hset : rawEncType1 { p with
            headerCrc := h, spare := 0, payload := 0 :: rest }
            = rawEncIuupPdu codec ((IuupPdu.type1 p : IuupPdu Body).setCrc
                h 0) := by
          show _ = rawEncType1 { p with headerCrc := h }
          rw [← ha, ← hpay, ← hspare]
        rw [hset]
        exact @encRight_setCrc Body codec (.type1 p) trivial h 0 hcrc
          (fun hp => hp.elim)

/-- **WHEN `f_enc_IuUP_PDU` IS RIGHT**: for the types 0 and 14 iff the payload
    fits the array of bits, for type 1 iff the octet and the bits that the
    patch clears are zero already. -/
theorem encIuupPdu_right_iff (codec : BodyCodec Body) (x : IuupPdu Body)
    (hbody : BodyLaw codec x) : EncodesRight codec x ↔ EncGuard codec x := by
  cases x with
  | type0 p =>
      have hf := p.frameNr.isLt
      exact encodesRight_four hbody (Or.inl (octet_div hf (by omega))) rfl
        (fun _ _ => rfl)
  | type1 p => exact encodesRight_type1 p
  | type14 p =>
      have ha := p.ackNack.toBits_lt
      have hf := p.frameNr.isLt
      exact encodesRight_four hbody
        (Or.inr (octet_div (show p.ackNack.toBits * 4 + p.frameNr.val < 16 by
          omega) (by omega))) rfl (fun _ _ => rfl)

end Codec

/-- An acknowledgement is followed by spare octets, if any. -/
def ackCodec : BodyCodec (Option (List UInt8)) where
  enc := fun spareExt => spareExt.getD []
  dec := fun _ _ buf => .ok (if buf = [] then none else some buf)

/-- `ts_IuUP_INIT_ACK(1, 2)` -/
def initAck : IuupPdu (Option (List UInt8)) :=
  .type14 ⟨.ack, 1, 2, .initialization, 0, 0, none⟩

/-- An INIT ACK is encoded aright. -/
theorem encIuupPdu_right_iff_initAck : EncodesRight ackCodec initAck :=
  (encIuupPdu_right_iff ackCodec initAck rfl).mpr (Nat.zero_le 1024)

/-- `ts_IuUP_Type1(3, 1, '2A'O)` -/
def type1OneOctet : IuupPdu (Option (List UInt8)) :=
  .type1 ⟨3, .good, 1, 0, 0, [0x2a]⟩

/-- **A PAYLOAD OCTET IS ALTERED** in a PDU of type 1. -/
theorem type1OneOctet_altered :
    fEncIuupPdu ackCodec type1OneOctet = .ok [0x13, 0x01, 0xb8, 0x00]
      ∧ ¬ EncodesRight ackCodec type1OneOctet :=
  ⟨by decide, fun hright =>
    absurd (((encodesRight_type1 _).mp hright).2) (by decide)⟩

end OsmoIuup
