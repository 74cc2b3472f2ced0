import OsmoTtcn.MnccProofs

/-! # The user plane of MNCC

    A data frame is a struct of eight octets with the payload behind it, and
    the primitives for RTP sockets have a struct with the address of the
    socket.  What the decoder makes of such a PDU is followed here member by
    member: the port is swapped twice, the octets of the address are where the
    address family has them, and the SDP is a string in the last array, so
    that an omitted one is read as an empty one. -/

namespace OsmoMncc

open OsmoTitan CStruct Enumerated

-- ── The types of the PDUs ────────────────────────────────────────────────────

/-- The alternative `data` of the CROSSTAG. -/
def MnccMsgType.IsData : MnccMsgType → Prop
  | .gsmTchfFrame | .gsmTchfFrameEfr | .gsmTchhFrame | .gsmTchFrameAmr => True
  | .gsmBadFrame => True
  | _ => False

/-- The alternative `rtp` of the CROSSTAG. -/
def MnccMsgType.IsRtp : MnccMsgType → Prop
  | .rtpCreate | .rtpConnect | .rtpFree => True
  | _ => False

/-- A data message is known by its type. -/
theorem MnccMsgType.IsData.label {t : MnccMsgType} (h : t.IsData) :
    (num t).toUInt32 ≠ mnccSocketHello ∧ (num t).toUInt32 ∈ gsmFrames := by
  cases t <;> first | exact h.elim | decide

/-- So is an RTP message. -/
theorem MnccMsgType.IsRtp.label {t : MnccMsgType} (h : t.IsRtp) :
    (num t).toUInt32 ≠ mnccSocketHello ∧ (num t).toUInt32 ∉ gsmFrames ∧
      (num t).toUInt32 ∈ mnccRtps := by
  cases t <;> first | exact h.elim | decide

-- ── Data frames ──────────────────────────────────────────────────────────────

/-- **A FRAME KEEPS ITS PAYLOAD**, of any length: it is all that is behind the
    eight octets of the struct. -/
theorem decData_put (x : GsmDataFrame) (data : Octets) :
    decData (x.put data) x = .ok ⟨x.callref.toInt32.toInt, data⟩ := by
  have hlen : (x.put data).length = 8 + data.length := by
    simp only [GsmDataFrame.put, putU32, List.length_cons]
    omega
  have hcount : ((x.put data).length : Int) - 8 = (data.length : Nat) := by omega
  have hdrop : (x.put data).drop 8 = data := rfl
  have hsub : substr (x.put data) 8 ((x.put data).length - 8) = .ok data := by
    rw [hcount]
    show substr (x.put data) (8 : Nat) _ = _
    rw [substr_ok (Nat.le_of_eq hlen.symm), hdrop, List.take_length]
  rw [decData, hsub]
  rfl

/-- **A DATA MESSAGE** comes back with some call reference. -/
theorem mnccData_reads (v : MnccSockVersion) {t : MnccMsgType} (htype : t.IsData)
    (d : MnccPduData) :
    ∃ callref, MnccReads v ⟨t, .data d⟩ ⟨t, .data { d with callref := callref }⟩ := by
  obtain ⟨hhello, hframe⟩ := htype.label
  have hget := GsmDataFrame.get_put { msgType := (num t).toUInt32 } d.data
  refine ⟨0, mnccReads_of rfl (readStruct_ok (getU32_putU32 _ _)) ?_⟩
  rw [decMsgUnion, if_neg hhello, if_pos hframe, readStruct_ok hget]
  show (decData _ _ >>= _) = _
  rw [decData_put]
  rfl

-- ── Numbers of the RTP struct ────────────────────────────────────────────────

/-- Swapping the octets of a port twice gives the port. -/
theorem htons_htons (n : UInt16) : htons (htons n) = n := by
  have hn : n.toNat < 65536 := n.toNat_lt_size
  have hswap : (htons n).toNat = n.toNat % 256 * 256 + n.toNat / 256 :=
    UInt16.toNat_ofNat_of_lt' (show _ < 65536 by omega)
  have hback : (n.toNat % 256 * 256 + n.toNat / 256) % 256 * 256
      + (n.toNat % 256 * 256 + n.toNat / 256) / 256 = n.toNat := by omega
  rw [htons, hswap, hback, UInt16.ofNat_toNat]

/-- A port comes back through its network order. -/
theorem port_read {n : Int} (h : 0 ≤ n ∧ n < 65536) :
    cInt n = .ok (Int32.ofInt n) ∧
      ((htons (htons (Int32.ofInt n).toUInt32.toUInt16)).toNat : Int) = n := by
  obtain ⟨k, rfl⟩ := Int.eq_ofNat_of_zero_le h.1
  refine ⟨cInt_ok ⟨by omega, by omega⟩, ?_⟩
  have hk : k < UInt16.size := by
    show k < 65536
    omega
  rw [htons_htons, Int32.ofInt_eq_ofNat, Int32.toUInt32_ofNat', UInt32.toUInt16_ofNat',
    UInt16.toNat_ofNat_of_lt' hk]

-- ── RTP sockets ──────────────────────────────────────────────────────────────

/-- An RTP primitive whose members fit the struct: an address of the length its
    family has, a port of 16 bits, numbers that the runtime converts to a C
    int, and an SDP that fits its array with the terminator. -/
structure RtpOk (r : MnccPduRtp) : Prop where
  callref : 0 ≤ r.callref ∧ r.callref < 2147483648
  ip : r.ip.length = if r.isIpv6 then 16 else 4
  rtpPort : 0 ≤ r.rtpPort ∧ r.rtpPort < 65536
  payloadType : 0 ≤ r.payloadType ∧ r.payloadType < 2147483648
  payloadMsgType : 0 ≤ r.payloadMsgType ∧ r.payloadMsgType < 2147483648
  sdp : ∀ p ∈ r.sdp, StringOk 1024 p

/-- There is no flag for the SDP. -/
def MnccPduRtp.withSdp (r : MnccPduRtp) : MnccPduRtp :=
  { r with sdp := some (r.sdp.getD []) }

/-- The struct of a primitive that fits. -/
def rtpStruct (t : MnccMsgType) (r : MnccPduRtp) : GsmMnccRtp where
  msgType := (num t).toUInt32
  callref := (Int32.ofInt r.callref).toUInt32
  ssFamily := if r.isIpv6 then afInet6 else afInet
  sinPort := htons (Int32.ofInt r.rtpPort).toUInt32.toUInt16
  ssRest := if r.isIpv6 then putArray 4 [] r.ip else r.ip
  payloadType := (Int32.ofInt r.payloadType).toUInt32
  payloadMsgType := (Int32.ofInt r.payloadMsgType).toUInt32
  sdp := r.sdp.elim [] (strncpy 1024)

/-- An RTP message is put into its structure. -/
theorem encRtp_ok {r : MnccPduRtp} (h : RtpOk r) (t : MnccMsgType) :
    encRtp t r = .ok (rtpStruct t r) := by
  have hip : copyOctets (if r.isIpv6 then 16 else 4) r.ip = .ok r.ip := by
    rw [copyOctets_ok (Nat.le_of_eq h.ip.symm), ← h.ip, List.take_length]
  rw [encRtp, (callref_read h.callref).1, hip, (port_read h.rtpPort).1,
    (callref_read h.payloadType).1, (callref_read h.payloadMsgType).1]
  rfl

/-- The octets of an array are at its start. -/
theorem copyOctets_putArray {n k : Nat} {chars : Octets} (hlen : chars.length = n)
    (hk : n ≤ k) (rest : Octets) : copyOctets n (putArray k chars rest) = .ok chars := by
  subst hlen
  rw [copyOctets_ok (Nat.le_trans hk (le_putArray_length k chars rest)),
    take_putArray hk]

/-- **THE ADDRESS IS WHERE ITS FAMILY HAS IT**: behind the port in a
    `sockaddr_in`, and four octets further in a `sockaddr_in6`. -/
theorem ip_read {r : MnccPduRtp} (h : RtpOk r) (rest : Octets) :
    (r.isIpv6 = true →
      copyOctets 16 ((putArray 124 (putArray 4 [] r.ip) rest).drop 4) = .ok r.ip) ∧
    (r.isIpv6 = false → copyOctets 4 (putArray 124 r.ip rest) = .ok r.ip) := by
  have hip := h.ip
  constructor
  · intro hv6
    rw [hv6] at hip
    rw [putArray_putArray 4 120, drop_putArray]
    exact copyOctets_putArray hip (by decide) rest
  · intro hv4
    rw [hv4] at hip
    exact copyOctets_putArray hip (by decide) rest

/-- The SDP is read up to its first zero. -/
theorem rtpSdp_read {r : MnccPduRtp} (h : RtpOk r) :
    charstring (putArray 1024 (r.sdp.elim [] (strncpy 1024)) [])
      = .ok (r.sdp.getD []) := by
  cases hsdp : r.sdp with
  | none => rfl
  | some p => exact charstring_putArray_lt (h.sdp p hsdp) []

/-- An RTP message is read from its structure, with the SDP that is there. -/
theorem decRtp_rtpStruct {r : MnccPduRtp} (h : RtpOk r) (t : MnccMsgType) :
    decRtp (rtpStruct t r).filled = .ok r.withSdp := by
  obtain ⟨hv6, hv4⟩ := ip_read h (putU32 (rtpStruct t r).payloadType
    (putU32 (rtpStruct t r).payloadMsgType (putArray 1024 (rtpStruct t r).sdp [])))
  have hsdp : charstring (rtpStruct t r).filled.sdp = .ok (r.sdp.getD []) := rtpSdp_read h
  have hnums : ((rtpStruct t r).filled.callref.toInt32.toInt = r.callref ∧
      ((htons (rtpStruct t r).filled.sinPort).toNat : Int) = r.rtpPort) ∧
      (rtpStruct t r).filled.payloadType.toInt32.toInt = r.payloadType ∧
      (rtpStruct t r).filled.payloadMsgType.toInt32.toInt = r.payloadMsgType :=
    ⟨⟨(callref_read h.callref).2, (port_read h.rtpPort).2⟩,
      (callref_read h.payloadType).2, (callref_read h.payloadMsgType).2⟩
  obtain ⟨⟨hcallref, hport⟩, hpayload, hmsgType⟩ := hnums
  cases hfam : r.isIpv6 with
  | true =>
      have hfamily : (rtpStruct t r).filled.ssFamily = afInet6 := by
        show (if r.isIpv6 then afInet6 else afInet) = _
        rw [hfam]
        rfl
      have hip : copyOctets 16 ((rtpStruct t r).filled.ssRest.drop 4) = .ok r.ip := by
        show copyOctets 16 ((putArray 124 (if r.isIpv6 then _ else _) _).drop 4) = _
        rw [hfam]
        exact hv6 hfam
      rw [decRtp, if_pos hfamily, hip, hsdp, hcallref, hport, hpayload, hmsgType]
      show Except.ok _ = _
      rw [MnccPduRtp.withSdp, ← hfam]
  | false =>
      have hfamily : (rtpStruct t r).filled.ssFamily = afInet := by
        show (if r.isIpv6 then afInet6 else afInet) = _
        rw [hfam]
        rfl
      have hip : copyOctets 4 (rtpStruct t r).filled.ssRest = .ok r.ip := by
        show copyOctets 4 (putArray 124 (if r.isIpv6 then _ else _) _) = _
        rw [hfam]
        exact hv4 hfam
      have hother : afInet ≠ afInet6 := by decide
      rw [decRtp, hfamily, if_neg hother, if_pos (Or.inr rfl), hip, hsdp, hcallref, hport,
        hpayload, hmsgType]
      show Except.ok _ = _
      rw [MnccPduRtp.withSdp, ← hfam]

/-- **AN RTP MESSAGE** comes back with the SDP that is there. -/
theorem mnccRtp_reads (v : MnccSockVersion) {t : MnccMsgType} (htype : t.IsRtp)
    {r : MnccPduRtp} (h : RtpOk r) :
    MnccReads v ⟨t, .rtp r⟩ ⟨t, .rtp r.withSdp⟩ := by
  obtain ⟨hhello, hframe, hrtp⟩ := htype.label
  have henc : encMnccPdu v ⟨t, .rtp r⟩ = .ok (rtpStruct t r).put := by
    show (encRtp t r).map GsmMnccRtp.put = _
    rw [encRtp_ok h]
    rfl
  refine mnccReads_of henc (readStruct_ok (getU32_putU32 _ _)) ?_
  rw [decMsgUnion, if_neg hhello, if_neg hframe, if_pos hrtp,
    readStruct_ok (GsmMnccRtp.get_put _)]
  show (decRtp _ >>= _) = _
  rw [decRtp_rtpStruct h]
  rfl

-- ── The round trip ───────────────────────────────────────────────────────────

/-- **THE USER PLANE SURVIVES ITS STRUCTS**: in either version a data frame
    comes back with its type and its payload, of any length, and a primitive
    for an RTP socket that fits comes back with the same members, the SDP empty
    when it was omitted. -/
theorem mnccUserPlane_roundTrip (v : MnccSockVersion) :
    (∀ t : MnccMsgType, t.IsData → ∀ d : MnccPduData, ∃ callref,
      MnccReads v ⟨t, .data d⟩ ⟨t, .data { d with callref := callref }⟩) ∧
    (∀ t : MnccMsgType, t.IsRtp → ∀ r : MnccPduRtp, RtpOk r →
      MnccReads v ⟨t, .rtp r⟩ ⟨t, .rtp r.withSdp⟩) :=
  ⟨fun _ htype d => mnccData_reads v htype d, fun _ htype _ h => mnccRtp_reads v htype h⟩

/-- `ts_MNCC_SIMPLE_RTP` -/
def tsMnccSimpleRtp (callId : Int) : MnccPduRtp where
  callref := callId
  isIpv6 := false
  ip := [0, 0, 0, 0]
  rtpPort := 0
  payloadType := 0
  payloadMsgType := 0
  sdp := none

/-- `ts_MNCC_RTP_CONNECT` to port 4002 of the address ::1. -/
def connectPdu : MnccPduRtp :=
  { tsMnccSimpleRtp 5 with
    isIpv6 := true
    ip := List.replicate 15 0 ++ [1]
    rtpPort := 4002
    payloadType := 98
    sdp := some [118, 61, 48] }

/-- A frame of a call and a message about its RTP. -/
theorem mnccUserPlane_roundTrip_call :
    (∃ callref, MnccReads mnccSockVersion ⟨.gsmTchfFrame, .data ⟨5, [208, 1]⟩⟩
      ⟨.gsmTchfFrame, .data ⟨callref, [208, 1]⟩⟩) ∧
    MnccReads mnccSockVersion ⟨.rtpConnect, .rtp connectPdu⟩
      ⟨.rtpConnect, .rtp connectPdu⟩ :=
  ⟨(mnccUserPlane_roundTrip mnccSockVersion).1 .gsmTchfFrame trivial ⟨5, [208, 1]⟩,
    (mnccUserPlane_roundTrip mnccSockVersion).2 .rtpConnect trivial connectPdu
      { callref := by decide
        ip := rfl
        rtpPort := by decide
        payloadType := by decide
        payloadMsgType := by decide
        sdp := fun p hp => Option.some.inj hp ▸ ⟨by decide, by decide⟩ }⟩

/-- A data frame loses its call reference, an omitted SDP comes back empty, one
    of 1024 characters has no terminator in the struct, and a call reference
    from 2^31 on is refused. -/
theorem userPlane_altered :
    ¬ MnccReads mnccSockVersion ⟨.gsmTchfFrame, .data ⟨5, [208]⟩⟩
        ⟨.gsmTchfFrame, .data ⟨5, [208]⟩⟩
    ∧ ¬ MnccReads mnccSockVersion ⟨.rtpCreate, .rtp (tsMnccSimpleRtp 5)⟩
        ⟨.rtpCreate, .rtp (tsMnccSimpleRtp 5)⟩
    ∧ ¬ MnccReads mnccSockVersion
        ⟨.rtpConnect, .rtp { connectPdu with sdp := some (List.replicate 1024 97) }⟩
        ⟨.rtpConnect, .rtp { connectPdu with sdp := some (List.replicate 1024 97) }⟩
    ∧ encMnccPdu mnccSockVersion ⟨.rtpCreate, .rtp (tsMnccSimpleRtp 2147483648)⟩
        = .error (.ttcnError
          "Using the value of a large integer value as an integer.") := by
  refine ⟨?_, ?_, ?_, ?_⟩
  · decide +kernel
  · decide +kernel
  · decide +kernel
  · decide +kernel

end OsmoMncc
