import OsmoTtcn.IuupProofs

/-! # The bit buffers behind the checksums of IuUP

    Both checksums are computed over bits that `osmo_pbit2ubit` unpacks into an
    array on the stack, 16 entries for the header and 1024 * 8 for the payload.
    Here the loop is modelled with its reads and writes: it looks for its limit
    after each bit, not before.

    So whole octets are unpacked exactly (`pbitLoop_ok`), a payload that is too
    long overruns the array (`pbitLoop_overrun`), and for no payload at all one
    octet behind the PDU is read: `iuupCrcs_iff`. -/

namespace OsmoIuupBits

open OsmoTitan WireOctet Crc

-- ── The loops ────────────────────────────────────────────────────────────────

/-- The bits of one octet, each written behind `cur`, until the limit is reached;
    the flag is the `break`. -/
def pbitOctet (size limit : Nat) (byte : UInt8) : List Nat → List Bool →
    Except Fault (List Bool × Bool)
  | [], out => .ok (out, false)
  | shift :: shifts, out =>
      if size ≤ out.length then .error .overrun
      else if limit ≤ (out ++ [bitOf byte shift]).length then
        .ok (out ++ [bitOf byte shift], true)
      else pbitOctet size limit byte shifts (out ++ [bitOf byte shift])

/-- Rounds of `for (i = 0; i < (num_bits/8)+1; i++)`, each of which reads the next
    octet. -/
def pbitLoop (size limit : Nat) : Nat → List UInt8 → List Bool → Except Fault (List Bool)
  | 0, _, out => .ok out
  | _ + 1, [], _ => .error .overread
  | rounds + 1, byte :: inp, out =>
      match pbitOctet size limit byte [7, 6, 5, 4, 3, 2, 1, 0] out with
      | .error e => .error e
      | .ok (out, true) => .ok out
      | .ok (out, false) => pbitLoop size limit rounds inp out

/-- Into an array of `size` entries, from the octets up to the end of the PDU. -/
def osmoPbit2ubit (size : Nat) (inp : List UInt8) (numBits : Nat) : Except Fault (List Bool) :=
  pbitLoop size numBits (numBits / 8 + 1) inp []

/-- `len` entries of an array of which some are written. -/
def ubits (buf : List Bool) (len : Nat) : Except Fault (List Bool) :=
  if buf.length < len then .error .unbound else .ok (buf.take len)

/-- `osmo_iuup_compute_payload_crc`, with the buffer it writes. -/
def osmoIuupComputePayloadCrc (iuupPdu : List UInt8) : Except Fault Int :=
  match iuupPdu with
  | [] => .ok (-1)
  | o0 :: _ =>
      -- Type 1 has no CRC
      if o0.toNat / 16 = 1 then .ok 0
      else if OsmoIuup.iuupGetPayloadOffset o0 < 0 then .ok (OsmoIuup.iuupGetPayloadOffset o0)
      else if (iuupPdu.length : Int) < OsmoIuup.iuupGetPayloadOffset o0 then .ok (-1)
      else do
        let payload := iuupPdu.drop (OsmoIuup.iuupGetPayloadOffset o0).toNat
        let buf ← osmoPbit2ubit (1024 * 8) payload (payload.length * 8)
        let bits ← ubits buf (payload.length * 8)
        .ok (OsmoIuup.osmoCrc16genComputeBits OsmoIuup.iuupDataCrcCode bits)

/-- `osmo_iuup_compute_header_crc`, with the buffer it writes. -/
def osmoIuupComputeHeaderCrc (iuupPdu : List UInt8) : Except Fault Int :=
  if iuupPdu.length < 2 then .ok (-1)
  else do
    let buf ← osmoPbit2ubit (2 * 8) iuupPdu (2 * 8)
    let bits ← ubits buf (2 * 8)
    .ok (OsmoIuup.osmoCrc8genComputeBits OsmoIuup.iuupHdrCrcCode bits)

-- ── Unpacking whole octets ───────────────────────────────────────────────────

/-- **ONE OCTET** whose bits fit: the loop ends iff its last bit is at the limit. -/
theorem pbitOctet_ok {size limit : Nat} {byte : UInt8} : ∀ {shifts : List Nat} {out : List Bool},
    shifts ≠ [] → out.length + shifts.length ≤ size → out.length + shifts.length ≤ limit →
    pbitOctet size limit byte shifts out
      = .ok (out ++ shifts.map (bitOf byte), decide (limit ≤ out.length + shifts.length)) := by
  intro shifts
  induction shifts with
  | nil => intro out h; exact absurd rfl h
  | cons shift shifts ih =>
      intro out _ hsize hlimit
      have hlen : (out ++ [bitOf byte shift]).length = out.length + 1 := List.length_append
      rw [List.length_cons] at hsize hlimit
      rw [pbitOctet, if_neg (by omega), hlen, List.length_cons]
      cases shifts with
      | nil =>
          by_cases hend : limit ≤ out.length + 1
          · rw [if_pos hend, List.length_nil, decide_eq_true hend]
            rfl
          · rw [if_neg hend, List.length_nil, decide_eq_false hend]
            rfl
      | cons shift' shifts =>
          rw [List.length_cons] at hsize hlimit
          have hidx : out.length + 1 + (shifts.length + 1)
              = out.length + (shifts.length + 1 + 1) := by
            omega
          rw [if_neg (by omega), ih (List.cons_ne_nil _ _) (by rw [hlen, List.length_cons]; omega)
            (by rw [hlen, List.length_cons]; omega), hlen, List.length_cons, hidx,
            List.append_assoc]
          rfl

/-- The eight bits of an octet. -/
theorem pbitOctet_eight {size limit : Nat} (byte : UInt8) {out : List Bool}
    (hsize : out.length + 8 ≤ size) (hlimit : out.length + 8 ≤ limit) :
    pbitOctet size limit byte [7, 6, 5, 4, 3, 2, 1, 0] out
      = .ok (out ++ OsmoIuup.osmoPbit2ubit [byte], decide (limit ≤ out.length + 8)) :=
  pbitOctet_ok (List.cons_ne_nil _ _) hsize hlimit

/-- Octets are unpacked one by one. -/
theorem osmoPbit2ubit_cons (byte : UInt8) (inp : List UInt8) :
    OsmoIuup.osmoPbit2ubit (byte :: inp)
      = OsmoIuup.osmoPbit2ubit [byte] ++ OsmoIuup.osmoPbit2ubit inp := rfl

/-- An octet is unpacked into eight bits. -/
theorem osmoPbit2ubit_length (inp : List UInt8) :
    (OsmoIuup.osmoPbit2ubit inp).length = inp.length * 8 := by
  induction inp with
  | nil => rfl
  | cons byte inp ih =>
      rw [osmoPbit2ubit_cons, List.length_append, ih, List.length_cons]
      show 8 + inp.length * 8 = (inp.length + 1) * 8
      omega

/-- **WHOLE OCTETS** that fit are unpacked, and nothing behind them is read. -/
theorem pbitLoop_ok {size : Nat} (more : List UInt8) : ∀ {octets : List UInt8} {out : List Bool}
    {limit rounds : Nat}, octets ≠ [] → octets.length ≤ rounds →
    limit = out.length + octets.length * 8 → limit ≤ size →
    pbitLoop size limit rounds (octets ++ more) out
      = .ok (out ++ OsmoIuup.osmoPbit2ubit octets) := by
  intro octets
  induction octets with
  | nil => intro out limit rounds h; exact absurd rfl h
  | cons byte octets ih =>
      intro out limit rounds _ hrounds hlimit hsize
      cases rounds with
      | zero => exact absurd hrounds (Nat.not_succ_le_zero _)
      | succ rounds =>
          rw [List.length_cons] at hrounds hlimit
          rw [List.cons_append, pbitLoop, pbitOctet_eight byte (by omega) (by omega)]
          cases octets with
          | nil =>
              rw [List.length_nil] at hlimit
              rw [decide_eq_true (by omega)]
          | cons byte' octets =>
              rw [List.length_cons] at hlimit hrounds
              rw [decide_eq_false (by omega), osmoPbit2ubit_cons byte (byte' :: octets),
                  ← List.append_assoc]
              refine ih (List.cons_ne_nil _ _) (Nat.le_of_succ_le_succ hrounds) ?_ hsize
              have hlen : (out ++ OsmoIuup.osmoPbit2ubit [byte]).length = out.length + 8 :=
                List.length_append
              rw [hlen, List.length_cons, hlimit]
              omega

/-- **TOO MANY OCTETS** are written past the end of the array. -/
theorem pbitLoop_overrun {limit : Nat} : ∀ {room rounds : Nat} {octets : List UInt8}
    {out : List Bool}, room < octets.length → octets.length ≤ rounds →
    limit = out.length + octets.length * 8 →
    pbitLoop (out.length + room * 8) limit rounds octets out = .error .overrun := by
  intro room
  induction room with
  | zero =>
      intro rounds octets out hroom hrounds _
      match rounds, octets with
      | _, [] => exact absurd hroom (Nat.lt_irrefl 0)
      | 0, _ :: _ => exact absurd hrounds (Nat.not_succ_le_zero _)
      | rounds + 1, byte :: octets => rw [pbitLoop, pbitOctet, if_pos (by omega)]
  | succ room ih =>
      intro rounds octets out hroom hrounds hlimit
      match rounds, octets with
      | _, [] => exact absurd hroom (Nat.not_lt_zero _)
      | 0, _ :: _ => exact absurd hrounds (Nat.not_succ_le_zero _)
      | rounds + 1, byte :: octets =>
          rw [List.length_cons] at hroom hrounds hlimit
          have hlen : (out ++ OsmoIuup.osmoPbit2ubit [byte]).length = out.length + 8 :=
            List.length_append
          have hsize : out.length + (room + 1) * 8
              = (out ++ OsmoIuup.osmoPbit2ubit [byte]).length + room * 8 := by
            rw [hlen]
            omega
          rw [pbitLoop, pbitOctet_eight byte (by omega) (by omega), decide_eq_false (by omega)]
          dsimp only
          rw [hsize]
          exact ih (by omega) (by omega) (by rw [hlen]; omega)

-- ── The two checksums ────────────────────────────────────────────────────────

/-- The bits of whole octets, written and read. -/
theorem ubits_octets {octets : List UInt8} {n : Nat} (h : n = octets.length * 8) :
    ubits (OsmoIuup.osmoPbit2ubit octets) n = .ok (OsmoIuup.osmoPbit2ubit octets) := by
  have hlen : (OsmoIuup.osmoPbit2ubit octets).length = n :=
    (osmoPbit2ubit_length octets).trans h.symm
  rw [ubits, hlen, if_neg (Nat.lt_irrefl n), ← hlen, List.take_length]

/-- **THE HEADER CRC** is the one of the first two octets, always. -/
theorem headerCrc_eq (iuupPdu : List UInt8) :
    osmoIuupComputeHeaderCrc iuupPdu = .ok (OsmoIuup.osmoIuupComputeHeaderCrc iuupPdu) := by
  rw [osmoIuupComputeHeaderCrc, OsmoIuup.osmoIuupComputeHeaderCrc]
  match iuupPdu with
  | [] | [_] => rfl
  | o0 :: o1 :: rest =>
      have hlen : ¬ (o0 :: o1 :: rest).length < 2 :=
        Nat.not_lt.mpr (Nat.le_add_left 2 rest.length)
      have hloop : osmoPbit2ubit (2 * 8) (o0 :: o1 :: rest) (2 * 8)
          = .ok (OsmoIuup.osmoPbit2ubit [o0, o1]) :=
        @pbitLoop_ok 16 rest [o0, o1] [] 16 3 (List.cons_ne_nil _ _) (Nat.le_succ 2) rfl
          (Nat.le_refl 16)
      have hbits : ubits (OsmoIuup.osmoPbit2ubit [o0, o1]) (2 * 8)
          = .ok (OsmoIuup.osmoPbit2ubit [o0, o1]) := rfl
      rw [if_neg hlen, if_neg hlen, hloop, ok_bind, hbits, ok_bind]
      rfl

/-- The unpacked payload, and what goes wrong with none and with too much. -/
theorem payloadBits (payload : List UInt8) :
    osmoPbit2ubit (1024 * 8) payload (payload.length * 8)
      = if payload = [] then .error .overread
        else if 1024 < payload.length then .error .overrun
        else .ok (OsmoIuup.osmoPbit2ubit payload) := by
  have hrounds : payload.length ≤ payload.length * 8 / 8 + 1 := by omega
  have hlimit : payload.length * 8 = ([] : List Bool).length + payload.length * 8 :=
    (Nat.zero_add _).symm
  by_cases hnil : payload = []
  · rw [if_pos hnil, hnil]
    rfl
  · rw [if_neg hnil, osmoPbit2ubit]
    by_cases hover : 1024 < payload.length
    · rw [if_pos hover]
      have hsize : 1024 * 8 = ([] : List Bool).length + 1024 * 8 := rfl
      rw [hsize]
      exact pbitLoop_overrun hover hrounds hlimit
    · rw [if_neg hover]
      have hloop := @pbitLoop_ok (1024 * 8) [] _ [] _ _ hnil hrounds hlimit (by omega)
      rw [List.append_nil] at hloop
      exact hloop

/-- The payload CRC of the types that have one. -/
theorem payloadCrc_four {o0 o1 o2 o3 : UInt8} {payload : List UInt8}
    (htype : o0.toNat / 16 = 0 ∨ o0.toNat / 16 = 14) :
    osmoIuupComputePayloadCrc (o0 :: o1 :: o2 :: o3 :: payload)
      = if payload = [] then .error .overread
        else if 1024 < payload.length then .error .overrun
        else .ok (OsmoIuup.payloadCrcOf payload) := by
  have hoff := OsmoIuup.payloadOffset_four htype
  have hne : ¬ o0.toNat / 16 = 1 := by omega
  have hlen : ¬ ((o0 :: o1 :: o2 :: o3 :: payload).length : Int) < 4 := by
    show ¬ ((payload.length + 4 : Nat) : Int) < 4
    omega
  have hdrop : (o0 :: o1 :: o2 :: o3 :: payload).drop (4 : Int).toNat = payload := rfl
  rw [osmoIuupComputePayloadCrc, if_neg hne, hoff, if_neg (by decide), if_neg hlen]
  dsimp only
  rw [hdrop, payloadBits]
  by_cases hnil : payload = []
  · rw [if_pos hnil, if_pos hnil]
    rfl
  · rw [if_neg hnil, if_neg hnil]
    by_cases hover : 1024 < payload.length
    · rw [if_pos hover, if_pos hover]
      rfl
    · rw [if_neg hover, if_neg hover, ok_bind, ubits_octets rfl, ok_bind]
      rfl

-- ── When the checksums are right ─────────────────────────────────────────────

/-- A PDU of a type with a payload CRC, that has all of its header. -/
def HasPayloadCrc (iuupPdu : List UInt8) : Prop :=
  ((iuupPdu.headD 0).toNat / 16 = 0 ∨ (iuupPdu.headD 0).toNat / 16 = 14) ∧ 4 ≤ iuupPdu.length

/-- A PDU with a payload CRC has four octets of header. -/
theorem HasPayloadCrc.split {iuupPdu : List UInt8} (h : HasPayloadCrc iuupPdu) :
    ∃ o0 o1 o2 o3 payload, iuupPdu = o0 :: o1 :: o2 :: o3 :: payload
      ∧ (o0.toNat / 16 = 0 ∨ o0.toNat / 16 = 14) := by
  match iuupPdu, h with
  | o0 :: o1 :: o2 :: o3 :: payload, ⟨htype, _⟩ => exact ⟨o0, o1, o2, o3, payload, rfl, htype⟩

/-- Both functions return, without a read past the PDU or a write past an array,
    and return the CRC where there is one. -/
structure CrcsRight (iuupPdu : List UInt8) : Prop where
  header : 2 ≤ iuupPdu.length → ∃ crc : Nat, osmoIuupComputeHeaderCrc iuupPdu = .ok crc
    ∧ OsmoIuup.IsCrc OsmoIuup.iuupHdrCrcCode (iuupPdu.take 2) crc
  noHeader : ¬ 2 ≤ iuupPdu.length → osmoIuupComputeHeaderCrc iuupPdu = .ok (-1)
  payload : HasPayloadCrc iuupPdu → ∃ crc : Nat, osmoIuupComputePayloadCrc iuupPdu = .ok crc
    ∧ OsmoIuup.IsCrc OsmoIuup.iuupDataCrcCode (iuupPdu.drop 4) crc
  noPayload : ¬ HasPayloadCrc iuupPdu → ∃ r, osmoIuupComputePayloadCrc iuupPdu = .ok r ∧ r ≤ 0

/-- **THE OTHER PDUs** have no payload CRC, and nothing behind the first octet is
    read. -/
theorem payloadCrc_none {iuupPdu : List UInt8} (h : ¬ HasPayloadCrc iuupPdu) :
    ∃ r, osmoIuupComputePayloadCrc iuupPdu = .ok r ∧ r ≤ 0
      ∧ OsmoIuup.osmoIuupComputePayloadCrc iuupPdu = .ok r := by
  cases iuupPdu with
  | nil => exact ⟨-1, rfl, by decide, rfl⟩
  | cons o0 rest =>
      rw [osmoIuupComputePayloadCrc, OsmoIuup.osmoIuupComputePayloadCrc]
      by_cases h1 : o0.toNat / 16 = 1
      · exact ⟨0, if_pos h1, Int.le_refl 0, if_pos h1⟩
      · rw [if_neg h1, if_neg h1]
        by_cases htype : o0.toNat / 16 = 0 ∨ o0.toNat / 16 = 14
        · have hshort : ((o0 :: rest).length : Int) < 4 :=
            Int.ofNat_lt.mpr (Nat.lt_of_not_le fun h4 => h ⟨htype, h4⟩)
          have hpos : ¬ (4 : Int) < 0 := by decide
          rw [OsmoIuup.payloadOffset_four htype, if_neg hpos, if_neg hpos, if_pos hshort,
              if_pos hshort]
          exact ⟨-1, rfl, by decide, rfl⟩
        · have hoff : OsmoIuup.iuupGetPayloadOffset o0 = -1 := by
            unfold OsmoIuup.iuupGetPayloadOffset
            split
            · exact absurd (Or.inl ‹_›) htype
            · exact absurd (Or.inr ‹_›) htype
            · exact absurd ‹_› h1
            · rfl
          have hneg : (-1 : Int) < 0 := by decide
          rw [hoff, if_pos hneg, if_pos hneg]
          exact ⟨-1, rfl, by decide, rfl⟩

/-- The function without its array is the same, but for a payload of no octets. -/
theorem payloadCrc_eq {iuupPdu : List UInt8} (h : iuupPdu.length ≠ 4) :
    osmoIuupComputePayloadCrc iuupPdu = OsmoIuup.osmoIuupComputePayloadCrc iuupPdu := by
  by_cases hcrc : HasPayloadCrc iuupPdu
  · obtain ⟨o0, o1, o2, o3, payload, rfl, htype⟩ := hcrc.split
    have hne : payload ≠ [] := by
      rintro rfl
      exact h rfl
    rw [payloadCrc_four htype, OsmoIuup.payloadCrc_four htype, if_neg hne, OsmoIuup.payloadCrcBits]
    rfl
  · obtain ⟨r, hr, -, hr'⟩ := payloadCrc_none hcrc
    rw [hr, hr']

/-- **WHEN THE CHECKSUMS ARE RIGHT**: for every PDU, iff the payload, where it has
    a CRC, has at least one octet and at most 1024. -/
theorem iuupCrcs_iff (iuupPdu : List UInt8) : CrcsRight iuupPdu
    ↔ (HasPayloadCrc iuupPdu → 4 < iuupPdu.length ∧ iuupPdu.length ≤ 1028) := by
  constructor
  · intro hright hcrc
    obtain ⟨crc, hok, -⟩ := hright.payload hcrc
    obtain ⟨o0, o1, o2, o3, payload, rfl, htype⟩ := hcrc.split
    rw [payloadCrc_four htype] at hok
    show 4 < payload.length + 4 ∧ payload.length + 4 ≤ 1028
    by_cases hnil : payload = []
    · rw [if_pos hnil] at hok
      exact nomatch hok
    · rw [if_neg hnil] at hok
      have hpos := List.length_pos_iff.mpr hnil
      by_cases hover : 1024 < payload.length
      · rw [if_pos hover] at hok
        exact nomatch hok
      · omega
  · intro hfits
    refine ⟨fun h2 => ?_, fun h2 => ?_, fun hcrc => ?_, fun hcrc => ?_⟩
    · have hlen : ¬ iuupPdu.length < 2 := Nat.not_lt.mpr h2
      rw [headerCrc_eq, OsmoIuup.osmoIuupComputeHeaderCrc, if_neg hlen]
      match iuupPdu, h2 with
      | o0 :: o1 :: rest, _ =>
          exact ⟨OsmoIuup.headerCrcOf o0 o1, rfl, OsmoIuup.headerCrcOf_isCrc o0 o1⟩
    · rw [headerCrc_eq, OsmoIuup.osmoIuupComputeHeaderCrc, if_pos (Nat.lt_of_not_le h2)]
    · obtain ⟨hmin, hmax⟩ := hfits hcrc
      obtain ⟨o0, o1, o2, o3, payload, rfl, htype⟩ := hcrc.split
      have hle : payload.length ≤ 1024 := Nat.le_of_add_le_add_right (b := 4) hmax
      refine ⟨OsmoIuup.payloadCrcOf payload, ?_, OsmoIuup.payloadCrcOf_isCrc payload⟩
      rw [payloadCrc_eq (Nat.ne_of_gt hmin), OsmoIuup.payloadCrc_four htype,
        OsmoIuup.payloadCrcBits, if_neg (Nat.not_lt.mpr hle)]
      rfl
    · obtain ⟨r, hr, hneg, -⟩ := payloadCrc_none hcrc
      exact ⟨r, hr, hneg⟩

/-- **NO PAYLOAD, AND TOO MUCH**: a PDU of type 0 that is its header, and one with
    1025 octets behind it. -/
theorem iuupCrcs_wrong : ¬ CrcsRight [0x00, 0x00, 0x00, 0x00]
    ∧ ¬ CrcsRight (0x00 :: 0x00 :: 0x00 :: 0x00 :: List.replicate 1025 0x00) := by
  constructor
  · intro hright
    obtain ⟨crc, hok, -⟩ := hright.payload ⟨Or.inl rfl, Nat.le_refl 4⟩
    rw [payloadCrc_four (Or.inl rfl), if_pos rfl] at hok
    exact nomatch hok
  · intro hright
    obtain ⟨crc, hok, -⟩ := hright.payload ⟨Or.inl rfl, Nat.le_add_left 4 _⟩
    have hover : 1024 < (List.replicate 1025 (0x00 : UInt8)).length := by
      rw [List.length_replicate]
      exact Nat.lt_succ_self 1024
    have hne : List.replicate 1025 (0x00 : UInt8) ≠ [] :=
      List.length_pos_iff.mp (Nat.lt_of_le_of_lt (Nat.zero_le 1024) hover)
    rw [payloadCrc_four (Or.inl rfl), if_neg hne, if_pos hover] at hok
    exact nomatch hok

end OsmoIuupBits
