import OsmoTtcn.BspCryptoProofs

/-! # Bound profile packages

    A bound profile package carries four parts under one secure channel:
    ConfigureISDP, StoreMetadata, the keys that replace the session keys, and
    the profile.  One variant of `process_bound_profile_package` takes the
    ASN.1 package and goes through the segments of each part; the other takes
    each part as the octets of its segments, and hands these to the decoder of
    a single segment.  The keys are generated as 48 raw octets and parsed as
    DER.  `bppRight_iff` says for which packages the second variant returns
    what was sent and agrees with the first. -/

namespace OsmoBsp

open OsmoTitan Lockstep

-- ── Types ────────────────────────────────────────────────────────────────────

/-- `ReplaceSessionKeysRequest`, the session keys of a profile. -/
structure ReplaceSessionKeysRequest where
  ppkEnc : Octets
  ppkCmac : Octets
  initialMacChainingValue : Octets
  deriving DecidableEq, Repr

/-- `BppProcessingResult`, what the receiver makes of a package. -/
structure BppProcessingResult where
  configureIsdp : Octets
  storeMetadata : Octets
  replaceSessionKeys : ReplaceSessionKeysRequest
  profileData : Octets
  hasReplaceSessionKeys : Bool
  deriving DecidableEq, Repr

/-- `ReplaceSessionKeysRequest_ASN1`, with pointers that may be null. -/
structure ReplaceSessionKeysAsn1 where
  initialMacChainingValue : Option Octets
  ppkEnc : Option Octets
  ppkCmac : Option Octets
  deriving DecidableEq, Repr

/-- `BoundProfilePackage`, with the contents of the octet strings. -/
structure BoundProfilePackage where
  firstSequenceOf87 : Option (List Octets)
  sequenceOf88 : Option (List Octets)
  secondSequenceOf87 : Option (List Octets)
  sequenceOf86 : Option (List Octets)
  deriving DecidableEq, Repr

/-- The ASN.1 functions of OpenSSL. -/
structure Asn1 where
  /-- `d2i_ReplaceSessionKeysRequest_outer`, or the text of its error -/
  d2iReplaceSessionKeysRequest : Octets → Except String ReplaceSessionKeysAsn1
  /-- `d2i_BoundProfilePackage_tagged` -/
  d2iBoundProfilePackage : Octets → Option BoundProfilePackage
  /-- `i2d_ASN1_OCTET_STRING_TAG7` and its siblings, by their tag octet -/
  i2dOctetString : (tag : UInt8) → Octets → Octets

-- ── The code ─────────────────────────────────────────────────────────────────

/-- `asn1_octet_string_to_vector` -/
def asn1OctetStringToVector (asn1Str : Octets) : Except Fault Octets := do
  let _ ← require (0 < asn1Str.length) "Invalid ASN1_OCTET_STRING"
  .ok asn1Str

/-- `generate_replace_session_keys_data`: the three values, one after the other. -/
def generateReplaceSessionKeysData (ppkEnc ppkMac initialMcv : Octets) :
    Except Fault Octets := do
  let _ ← require (ppkEnc.length = 16 ∧ ppkMac.length = 16
    ∧ initialMcv.length = 16) "All PPK components must be 16 bytes"
  .ok (ppkEnc ++ (ppkMac ++ initialMcv))

/-- `from_replace_session_keys` -/
def fromReplaceSessionKeys (rsk : ReplaceSessionKeysRequest) :
    Except Fault BspCrypto :=
  BspCrypto.new rsk.ppkEnc rsk.ppkCmac rsk.initialMacChainingValue

/-- What a method of another instance returns. -/
def onInstance {α : Type} (x : Bsp α) (self : BspCrypto) : Except Fault α :=
  match x self with
  | .ok a _ => .ok a
  | .error e _ => .error e

section Code

variable (ssl : Openssl) (asn1 : Asn1)

/-- The checks on the three members. -/
def checkReplaceSessionKeys (mcv enc cmac : Octets) :
    Except Fault ReplaceSessionKeysRequest := do
  let _ ← require (mcv.length = 16)
    "Invalid initialMacChainingValue length: expected 16 bytes"
  let _ ← require (enc.length = 16) "Invalid ppkEnc length: expected 16 bytes"
  let _ ← require (cmac.length = 16)
    "Invalid ppkCmac length: expected 16 bytes"
  let initialMacChainingValue ← asn1OctetStringToVector mcv
  let ppkEnc ← asn1OctetStringToVector enc
  let ppkCmac ← asn1OctetStringToVector cmac
  .ok ⟨ppkEnc, ppkCmac, initialMacChainingValue⟩

/-- `parse_replace_session_keys`, which expects the ASN.1 structure. -/
def parseReplaceSessionKeys (data : Octets) :
    Except Fault ReplaceSessionKeysRequest :=
  if data = [] then .error (.thrown "Empty ReplaceSessionKeysRequest data")
  else
    match asn1.d2iReplaceSessionKeysRequest data with
    | .error err => .error (.thrown
        ("Failed to parse ReplaceSessionKeysRequest ASN.1: " ++ err))
    | .ok ⟨some mcv, some enc, some cmac⟩ => checkReplaceSessionKeys mcv enc cmac
    | .ok _ => .error (.thrown
        "Missing required fields in ReplaceSessionKeysRequest")

/-- The variant that takes the octets of each part. -/
def processBoundProfileParts (firstSequenceOf87 sequenceOf88
    secondSequenceOf87 sequenceOf86 : Octets) : Bsp BppProcessingResult := do
  let configureIsdp ← decryptAndVerify ssl firstSequenceOf87 true
  let storeMetadata ← decryptAndVerify ssl sequenceOf88 false
  if secondSequenceOf87 ≠ [] then do
    let rskData ← decryptAndVerify ssl secondSequenceOf87 true
    let rsk ← lift (parseReplaceSessionKeys asn1 rskData)
    let ppkBsp ← lift (fromReplaceSessionKeys rsk)
    let profileData ← lift
      (onInstance (decryptAndVerify ssl sequenceOf86 true) ppkBsp)
    pure ⟨configureIsdp, storeMetadata, rsk, profileData, true⟩
  else do
    let profileData ← decryptAndVerify ssl sequenceOf86 true
    pure ⟨configureIsdp, storeMetadata, ⟨[], [], []⟩, profileData, false⟩

/-- The first element of a sequence under its tag; of an empty sequence, the
    null pointer, nothing. -/
def firstSegment (tag : UInt8) (elems : List Octets) : Octets :=
  match elems with
  | [] => []
  | elem :: _ => asn1.i2dOctetString tag elem

/-- The loops over the elements of a sequence. -/
def decryptAll (tag : UInt8) (decrypt : Bool) (elems : List Octets) :
    Bsp Octets := do
  let chunks ← elems.mapM (fun elem =>
    decryptAndVerify ssl (asn1.i2dOctetString tag elem) decrypt)
  pure chunks.flatten

/-- The variant that takes the ASN.1 package.  A package that is not decoded
    is printed, and the result is returned with a member that is not set. -/
def processBoundProfilePackage (notSet : Bool) (allofit : Octets) :
    Bsp BppProcessingResult :=
  match asn1.d2iBoundProfilePackage allofit with
  | some ⟨some first, some metadata, second, some profile⟩ => do
      let configureIsdp ←
        decryptAndVerify ssl (firstSegment asn1 0x87 first) true
      let storeMetadata ← decryptAll ssl asn1 0x88 false metadata
      match second with
      | some second => do
          let rskData ←
            decryptAndVerify ssl (firstSegment asn1 0x87 second) true
          let rsk ← lift (parseReplaceSessionKeys asn1 rskData)
          let ppkBsp ← lift (fromReplaceSessionKeys rsk)
          let profileData ← lift
            (onInstance (decryptAll ssl asn1 0x86 true profile) ppkBsp)
          pure ⟨configureIsdp, storeMetadata, rsk, profileData, true⟩
      | none => do
          let profileData ← decryptAll ssl asn1 0x86 true profile
          pure ⟨configureIsdp, storeMetadata, ⟨[], [], []⟩, profileData, false⟩
  | _ => pure ⟨[], [], ⟨[], [], []⟩, [], notSet⟩

end Code

-- ── The sender ───────────────────────────────────────────────────────────────

/-- Keys of the size that the generator demands. -/
structure SessionKeys extends ReplaceSessionKeysRequest where
  ppkEnc_length : ppkEnc.length = 16
  ppkCmac_length : ppkCmac.length = 16
  mcv_length : initialMacChainingValue.length = 16

/-- What a package is made of. -/
structure Profile where
  configureIsdp : Octets
  storeMetadata : Octets
  replaceSessionKeys : Option SessionKeys
  profileData : Octets

/-- The segments of the parts. -/
structure Package where
  firstSequenceOf87 : List Octets
  sequenceOf88 : List Octets
  secondSequenceOf87 : Option (List Octets)
  sequenceOf86 : List Octets
  deriving DecidableEq, Repr

/-- The keys and the profile, under the replaced keys when there are some. -/
def protectProfile (ssl : Openssl) (p : Profile) :
    Bsp (Option (List Octets) × List Octets) :=
  match p.replaceSessionKeys with
  | none => do
      let sequenceOf86 ← encryptAndMacSeg ssl 0x86 p.profileData
      pure (none, sequenceOf86)
  | some keys => do
      let data ← lift (generateReplaceSessionKeysData keys.ppkEnc keys.ppkCmac
        keys.initialMacChainingValue)
      let secondSequenceOf87 ← encryptAndMacSeg ssl 0x87 data
      let ppkBsp ← lift (fromReplaceSessionKeys keys.toReplaceSessionKeysRequest)
      let sequenceOf86 ← lift
        (onInstance (encryptAndMacSeg ssl 0x86 p.profileData) ppkBsp)
      pure (some secondSequenceOf87, sequenceOf86)

/-- The four parts of a package, in the order in which they are made. -/
def protect (ssl : Openssl) (p : Profile) : Bsp Package := do
  let firstSequenceOf87 ← encryptAndMacSeg ssl 0x87 p.configureIsdp
  let sequenceOf88 ← macOnlySeg ssl 0x88 p.storeMetadata
  let (secondSequenceOf87, sequenceOf86) ← protectProfile ssl p
  pure ⟨firstSequenceOf87, sequenceOf88, secondSequenceOf87, sequenceOf86⟩

/-- What the receiver is to return. -/
def Profile.result (p : Profile) : BppProcessingResult where
  configureIsdp := p.configureIsdp
  storeMetadata := p.storeMetadata
  replaceSessionKeys :=
    match p.replaceSessionKeys with
    | none => ⟨[], [], []⟩
    | some keys => keys.toReplaceSessionKeysRequest
  profileData := p.profileData
  hasReplaceSessionKeys := p.replaceSessionKeys.isSome

/-- The ASN.1 package of the same segments. -/
def IsPackage (asn1 : Asn1) (allofit : Octets) (pkg : Package) : Prop :=
  ∃ first metadata second profile,
    asn1.d2iBoundProfilePackage allofit
      = some ⟨some first, some metadata, second, some profile⟩
    ∧ first.map (asn1.i2dOctetString 0x87) = pkg.firstSequenceOf87
    ∧ metadata.map (asn1.i2dOctetString 0x88) = pkg.sequenceOf88
    ∧ second.map (List.map (asn1.i2dOctetString 0x87)) = pkg.secondSequenceOf87
    ∧ profile.map (asn1.i2dOctetString 0x86) = pkg.sequenceOf86

/-- The octets of the second sequence, none of them where it is absent. -/
def Package.secondOctets (pkg : Package) : Octets :=
  (pkg.secondSequenceOf87.getD []).flatten

/-- The receiver's variant of the parts, on a package. -/
def takeParts (ssl : Openssl) (asn1 : Asn1) (pkg : Package) :
    Bsp BppProcessingResult :=
  processBoundProfileParts ssl asn1 pkg.firstSequenceOf87.flatten
    pkg.sequenceOf88.flatten pkg.secondOctets pkg.sequenceOf86.flatten

/-- The receiver gets what was sent, and the ASN.1 variant agrees. -/
def BppRight (ssl : Openssl) (asn1 : Asn1) (r : BspCrypto) (p : Profile)
    (pkg : Package) : Prop :=
  onInstance (takeParts ssl asn1 pkg) r = .ok p.result
    ∧ ∀ allofit notSet, IsPackage asn1 allofit pkg →
      onInstance (processBoundProfilePackage ssl asn1 notSet allofit) r
        = onInstance (takeParts ssl asn1 pkg) r

-- ── One part ─────────────────────────────────────────────────────────────────

/-- Data that makes exactly one segment. -/
def OneSegment (data : Octets) : Prop := 0 < data.length ∧ data.length ≤ 1010

instance (data : Octets) : Decidable (OneSegment data) :=
  inferInstanceAs (Decidable (_ ∧ _))

section Part

variable {ssl : Openssl}

/-- Data of one segment: the segment is the part. -/
theorem send_oneSegment (laws : ssl.Laws) {s r : BspCrypto} (h : InStep s r)
    (c : BspCall) (hfits : OneSegment c.data) :
    ∃ segment s' r', c.send ssl s = .ok [segment] s'
      ∧ decryptAndVerify ssl segment c.encrypted r = .ok c.data r'
      ∧ InStep s' r' := by
  obtain ⟨segment, s', r', hone, htake, hstep⟩ := c.one_step laws s r _ h hfits
  refine ⟨segment, s', r', ?_, htake, hstep⟩
  have hslices : segmentsOf c.data = [c.data] := by
    obtain ⟨n, hn⟩ := Nat.exists_eq_succ_of_ne_zero (Nat.ne_of_gt hfits.1)
    rw [segmentsOf, hn]
    exact slices_single hfits.1 hfits.2
  rw [BspCall.send_eq, hslices]
  exact mapM_cons hone rfl

/-- **THE PART VARIANT TAKES ONE SEGMENT**: a part whose data is empty or does
    not fit one segment is not returned. -/
theorem part_oneSegment (laws : ssl.Laws) {s r : BspCrypto} (h : InStep s r)
    (c : BspCall) {segments : List Octets} {s' r' : BspCrypto}
    (hsend : c.send ssl s = .ok segments s')
    (htake : decryptAndVerify ssl segments.flatten c.encrypted r
      = .ok c.data r') : OneSegment c.data := by
  obtain rfl := h.eq
  rw [BspCall.send_eq] at hsend
  cases hdata : c.data with
  | nil =>
      rw [hdata] at hsend
      obtain ⟨rfl, rfl⟩ := EStateM.Result.ok.inj hsend
      exact nomatch htake
  | cons x xs =>
      refine ⟨Nat.succ_pos _, Nat.le_of_not_lt fun hlong => ?_⟩
      have hpiece : 0 < (c.data.take 1010).length
          ∧ (c.data.take 1010).length ≤ 1010 := by
        rw [List.length_take, hdata]
        exact ⟨Nat.lt_min.mpr ⟨by decide, Nat.succ_pos _⟩, Nat.min_le_left _ _⟩
      obtain ⟨segment, t, hone, hfirst⟩ := c.one_ok laws s hpiece
      have hslices : segmentsOf c.data
          = c.data.take 1010 :: slices 1010 xs.length (c.data.drop 1010) := by
        rw [hdata]
        rfl
      rw [hslices, List.mapM_cons, bind_ok_eq hone] at hsend
      obtain ⟨rest, u, -, hsend⟩ := bind_ok_inv hsend
      obtain ⟨rfl, rfl⟩ := EStateM.Result.ok.inj hsend
      rw [List.flatten_cons, hfirst] at htake
      obtain ⟨hcut, -⟩ := EStateM.Result.ok.inj htake
      -- the first segment has 1010 octets of it
      have hlen := congrArg List.length hcut
      rw [List.length_take, hdata] at hlen
      omega

/-- A part that is returned was one segment, and leaves the receiver in
    step. -/
theorem part_step (laws : ssl.Laws) {s r : BspCrypto} (h : InStep s r)
    (c : BspCall) {segments : List Octets} {s' r' : BspCrypto}
    (hsend : c.send ssl s = .ok segments s')
    (htake : decryptAndVerify ssl segments.flatten c.encrypted r
      = .ok c.data r') : OneSegment c.data ∧ InStep s' r' := by
  have hfits := part_oneSegment laws h c hsend htake
  obtain ⟨segment, t, u, hone, hpart, hstep⟩ := send_oneSegment laws h c hfits
  rw [hone] at hsend
  obtain ⟨rfl, rfl⟩ := EStateM.Result.ok.inj hsend
  rw [List.flatten_singleton, hpart] at htake
  obtain ⟨-, rfl⟩ := EStateM.Result.ok.inj htake
  exact ⟨hfits, hstep⟩

/-- No call of a working OpenSSL throws. -/
theorem send_ok (laws : ssl.Laws) (s : BspCrypto) (c : BspCall) :
    ∃ segments s', c.send ssl s = .ok segments s' := by
  obtain ⟨s', r', ⟨sent, got, -, hsend, -⟩, -⟩ :=
    callOk laws (⟨rfl, rfl, rfl, rfl⟩ : InStep s s) c
  exact ⟨_, s', hsend⟩

/-- `encrypt_and_mac_seg` does not throw. -/
theorem encryptAndMacSeg_ok (laws : ssl.Laws) (s : BspCrypto) (tag : UInt8)
    (data : Octets) :
    ∃ segments s', encryptAndMacSeg ssl tag data s = .ok segments s' :=
  send_ok laws s ⟨true, tag, data⟩

/-- `mac_only_seg` does not throw. -/
theorem macOnlySeg_ok (laws : ssl.Laws) (s : BspCrypto) (tag : UInt8)
    (data : Octets) :
    ∃ segments s', macOnlySeg ssl tag data s = .ok segments s' :=
  send_ok laws s ⟨false, tag, data⟩

end Part

-- ── The keys ─────────────────────────────────────────────────────────────────

/-- What the code relies on in the decoder: the members lie inside the data,
    behind the tag of the request. -/
structure Asn1.Laws (asn1 : Asn1) : Prop where
  rsk_inside : ∀ data r, asn1.d2iReplaceSessionKeysRequest data = .ok r →
    (r.initialMacChainingValue.getD []).length + (r.ppkEnc.getD []).length
      + (r.ppkCmac.getD []).length < data.length

/-- A request that is accepted has more octets than its three keys. -/
theorem parseReplaceSessionKeys_length {asn1 : Asn1} (laws : asn1.Laws)
    {data : Octets} {rsk : ReplaceSessionKeysRequest}
    (h : parseReplaceSessionKeys asn1 data = .ok rsk) : 48 < data.length := by
  rw [parseReplaceSessionKeys] at h
  split at h
  · exact nomatch h
  · split at h
    · exact nomatch h
    · next mcv enc cmac hd2i =>
        obtain ⟨u, hmcv, h⟩ := bind_ok h
        obtain ⟨v, henc, h⟩ := bind_ok h
        obtain ⟨w, hcmac, -⟩ := bind_ok h
        have hinside := laws.rsk_inside data _ hd2i
        have h1 := require_inv hmcv
        have h2 := require_inv henc
        have h3 := require_inv hcmac
        simp only [Option.getD_some] at hinside
        omega
    · exact nomatch h

/-- Three keys of sixteen octets make forty-eight. -/
theorem generateReplaceSessionKeysData_ok (keys : SessionKeys) :
    ∃ data, generateReplaceSessionKeysData keys.ppkEnc keys.ppkCmac
      keys.initialMacChainingValue = .ok data ∧ data.length = 48 := by
  refine ⟨keys.ppkEnc ++ (keys.ppkCmac ++ keys.initialMacChainingValue), ?_, ?_⟩
  · show (require _ _).bind _ = _
    rw [require_ok ⟨keys.ppkEnc_length, keys.ppkCmac_length, keys.mcv_length⟩]
    rfl
  · rw [List.length_append, List.length_append, keys.ppkEnc_length,
      keys.ppkCmac_length, keys.mcv_length]

/-- Keys of the right sizes make an instance. -/
theorem fromReplaceSessionKeys_ok (keys : SessionKeys) :
    ∃ ppkBsp, fromReplaceSessionKeys keys.toReplaceSessionKeysRequest
      = .ok ppkBsp :=
  ⟨_, dif_pos ⟨keys.ppkEnc_length, keys.ppkCmac_length, keys.mcv_length⟩⟩

-- ── The sender ───────────────────────────────────────────────────────────────

section Protect

variable {ssl : Openssl}

/-- What an instance gave back, it gave back in some state. -/
theorem onInstance_ok {α : Type} {x : Bsp α} {self : BspCrypto} {a : α}
    (h : onInstance x self = .ok a) : ∃ self', x self = .ok a self' := by
  rw [onInstance] at h
  cases hx : x self with
  | error e t =>
      rw [hx] at h
      exact nomatch h
  | ok b t =>
      rw [hx] at h
      obtain rfl := Except.ok.inj h
      exact ⟨t, rfl⟩

/-- The state that is left does not matter to the caller. -/
theorem onInstance_eq {α : Type} {x : Bsp α} {self self' : BspCrypto} {a : α}
    (h : x self = .ok a self') : onInstance x self = .ok a := by
  rw [onInstance, h]

/-- The profile part can always be made. -/
theorem protectProfile_ok (laws : ssl.Laws) (p : Profile) (s : BspCrypto) :
    ∃ parts s', protectProfile ssl p s = .ok parts s' := by
  cases hkeys : p.replaceSessionKeys with
  | none =>
      obtain ⟨profile, s', hprofile⟩ :=
        encryptAndMacSeg_ok laws s 0x86 p.profileData
      refine ⟨(none, profile), s', ?_⟩
      rw [protectProfile, hkeys]
      exact bind_ok_eq hprofile
  | some keys =>
      obtain ⟨data, hdata, -⟩ := generateReplaceSessionKeysData_ok keys
      obtain ⟨second, s', hsecond⟩ := encryptAndMacSeg_ok laws s 0x87 data
      obtain ⟨ppkBsp, hppk⟩ := fromReplaceSessionKeys_ok keys
      obtain ⟨profile, t, hprofile⟩ :=
        encryptAndMacSeg_ok laws ppkBsp 0x86 p.profileData
      refine ⟨(some second, profile), s', ?_⟩
      rw [protectProfile, hkeys]
      show (lift _ >>= _) s = _
      rw [bind_ok_eq (lift_ok hdata s), bind_ok_eq hsecond,
        bind_ok_eq (lift_ok hppk s'),
        bind_ok_eq (lift_ok (onInstance_eq hprofile) s')]
      rfl

/-- Every package can be protected. -/
theorem protect_ok (laws : ssl.Laws) (p : Profile) (s : BspCrypto) :
    ∃ pkg s', protect ssl p s = .ok pkg s' := by
  obtain ⟨first, s1, hfirst⟩ := encryptAndMacSeg_ok laws s 0x87 p.configureIsdp
  obtain ⟨metadata, s2, hmeta⟩ := macOnlySeg_ok laws s1 0x88 p.storeMetadata
  obtain ⟨⟨second, profile⟩, s3, hprofile⟩ := protectProfile_ok laws p s2
  refine ⟨⟨first, metadata, second, profile⟩, s3, ?_⟩
  rw [protect, bind_ok_eq hfirst, bind_ok_eq hmeta, bind_ok_eq hprofile]
  rfl

end Protect

-- ── The receiver ─────────────────────────────────────────────────────────────

/-- No keys are replaced, and each part makes exactly one segment. -/
structure Profile.Plain (p : Profile) : Prop where
  keys : p.replaceSessionKeys = none
  configureIsdp : OneSegment p.configureIsdp
  storeMetadata : OneSegment p.storeMetadata
  profileData : OneSegment p.profileData

section Receive

variable {ssl : Openssl} {asn1 : Asn1}

/-- What `protect` did, part by part. -/
theorem protect_inv {p : Profile} {s s' : BspCrypto} {pkg : Package}
    (h : protect ssl p s = .ok pkg s') :
    ∃ s1 s2, encryptAndMacSeg ssl 0x87 p.configureIsdp s
        = .ok pkg.firstSequenceOf87 s1
      ∧ macOnlySeg ssl 0x88 p.storeMetadata s1 = .ok pkg.sequenceOf88 s2
      ∧ protectProfile ssl p s2
        = .ok (pkg.secondSequenceOf87, pkg.sequenceOf86) s' := by
  obtain ⟨first, s1, hfirst, h⟩ := bind_ok_inv h
  obtain ⟨metadata, s2, hmeta, h⟩ := bind_ok_inv h
  obtain ⟨⟨second, profile⟩, s3, hprofile, h⟩ := bind_ok_inv h
  obtain ⟨rfl, rfl⟩ := EStateM.Result.ok.inj h
  exact ⟨s1, s2, hfirst, hmeta, hprofile⟩

/-- Without session keys the profile goes under the instance at hand. -/
theorem protectProfile_none {p : Profile} {s s' : BspCrypto}
    {parts : Option (List Octets) × List Octets}
    (hkeys : p.replaceSessionKeys = none)
    (h : protectProfile ssl p s = .ok parts s') :
    parts.1 = none ∧ encryptAndMacSeg ssl 0x86 p.profileData s
      = .ok parts.2 s' := by
  rw [protectProfile, hkeys] at h
  obtain ⟨profile, t, hprofile, h⟩ := bind_ok_inv h
  obtain ⟨rfl, rfl⟩ := EStateM.Result.ok.inj h
  exact ⟨rfl, hprofile⟩

/-- With session keys it goes under an instance of its own. -/
theorem protectProfile_some {p : Profile} {s s' : BspCrypto}
    {parts : Option (List Octets) × List Octets} {keys : SessionKeys}
    (hkeys : p.replaceSessionKeys = some keys)
    (h : protectProfile ssl p s = .ok parts s') :
    ∃ data second t, data.length = 48 ∧ parts.1 = some second
      ∧ encryptAndMacSeg ssl 0x87 data s = .ok second t := by
  obtain ⟨data, hdata, hlen⟩ := generateReplaceSessionKeysData_ok keys
  rw [protectProfile, hkeys] at h
  replace h : (lift _ >>= _) s = _ := h
  rw [bind_ok_eq (lift_ok hdata s)] at h
  obtain ⟨second, t, hsecond, h⟩ := bind_ok_inv h
  obtain ⟨ppkBsp, u, -, h⟩ := bind_ok_inv h
  obtain ⟨profile, v, -, h⟩ := bind_ok_inv h
  obtain ⟨rfl, -⟩ := EStateM.Result.ok.inj h
  exact ⟨data, second, t, hlen, rfl, hsecond⟩

/-- What a result of the part variant was made from. -/
theorem processBoundProfileParts_inv {first metadata second profile : Octets}
    {r r' : BspCrypto} {res : BppProcessingResult}
    (h : processBoundProfileParts ssl asn1 first metadata second profile r
      = .ok res r') :
    ∃ r1 r2, decryptAndVerify ssl first true r = .ok res.configureIsdp r1
      ∧ decryptAndVerify ssl metadata false r1 = .ok res.storeMetadata r2
      ∧ ((res.hasReplaceSessionKeys = true ∧ ∃ rskData r3,
          decryptAndVerify ssl second true r2 = .ok rskData r3
          ∧ parseReplaceSessionKeys asn1 rskData = .ok res.replaceSessionKeys)
        ∨ (res.hasReplaceSessionKeys = false
          ∧ decryptAndVerify ssl profile true r2 = .ok res.profileData r')) := by
  obtain ⟨isdp, r1, hisdp, h⟩ := bind_ok_inv h
  obtain ⟨store, r2, hstore, h⟩ := bind_ok_inv h
  by_cases hsecond : second ≠ []
  · rw [if_pos hsecond] at h
    obtain ⟨rskData, r3, hrsk, h⟩ := bind_ok_inv h
    obtain ⟨rsk, r4, hparse, h⟩ := bind_ok_inv h
    obtain ⟨ppkBsp, r5, -, h⟩ := bind_ok_inv h
    obtain ⟨data, r6, -, h⟩ := bind_ok_inv h
    obtain ⟨rfl, -⟩ := EStateM.Result.ok.inj h
    exact ⟨r1, r2, hisdp, hstore,
      Or.inl ⟨rfl, rskData, r3, hrsk, lift_inv hparse⟩⟩
  · rw [if_neg hsecond] at h
    obtain ⟨data, r3, hdata, h⟩ := bind_ok_inv h
    obtain ⟨rfl, rfl⟩ := EStateM.Result.ok.inj h
    exact ⟨r1, r2, hisdp, hstore, Or.inr ⟨rfl, hdata⟩⟩

/-- **ONLY PLAIN PACKAGES**: what the part variant returns as it was sent had
    no keys and one segment per part. -/
theorem plain_of_right (laws : ssl.Laws) (asn1Laws : asn1.Laws) {p : Profile}
    {s s' r : BspCrypto} {pkg : Package} (hstep : InStep s r)
    (hsend : protect ssl p s = .ok pkg s')
    (h : onInstance (takeParts ssl asn1 pkg) r = .ok p.result) : p.Plain := by
  obtain ⟨s1, s2, hfirst, hmeta, hprofile⟩ := protect_inv hsend
  obtain ⟨r', htake⟩ := onInstance_ok h
  obtain ⟨r1, r2, hisdp, hstore, hrest⟩ := processBoundProfileParts_inv htake
  obtain ⟨hfits1, hstep1⟩ :=
    part_step laws hstep ⟨true, 0x87, p.configureIsdp⟩ hfirst hisdp
  obtain ⟨hfits2, hstep2⟩ :=
    part_step laws hstep1 ⟨false, 0x88, p.storeMetadata⟩ hmeta hstore
  cases hkeys : p.replaceSessionKeys with
  | none =>
      have hno : p.result.hasReplaceSessionKeys = false := by
        rw [Profile.result, hkeys]
        rfl
      rcases hrest with ⟨hyes, -⟩ | ⟨-, hdata⟩
      · rw [hno] at hyes
        exact nomatch hyes
      · obtain ⟨-, hsent⟩ := protectProfile_none hkeys hprofile
        obtain ⟨hfits3, -⟩ :=
          part_step laws hstep2 ⟨true, 0x86, p.profileData⟩ hsent hdata
        exact ⟨hkeys, hfits1, hfits2, hfits3⟩
  | some keys =>
      have hyes : p.result.hasReplaceSessionKeys = true := by
        rw [Profile.result, hkeys]
        rfl
      rcases hrest with ⟨-, rskData, r3, hrsk, hparse⟩ | ⟨hno, -⟩
      · -- the 48 octets of the generator come back and are too few
        obtain ⟨data, second, t, hlen, hsecond, hsent⟩ :=
          protectProfile_some hkeys hprofile
        have hone : OneSegment data := by
          rw [OneSegment, hlen]
          decide
        obtain ⟨segment, u, v, hseg, hpart, -⟩ :=
          send_oneSegment laws hstep2 ⟨true, 0x87, data⟩ hone
        have hsame : [segment] = second := by
          obtain ⟨heq, -⟩ := EStateM.Result.ok.inj (hseg.symm.trans hsent)
          exact heq
        have hoctets : pkg.secondOctets = segment := by
          rw [Package.secondOctets, show pkg.secondSequenceOf87 = some second
            from hsecond, ← hsame]
          exact List.flatten_singleton
        rw [hoctets, hpart] at hrsk
        obtain ⟨rfl, -⟩ := EStateM.Result.ok.inj hrsk
        have hlong := parseReplaceSessionKeys_length asn1Laws hparse
        exact absurd hlong (hlen ▸ Nat.lt_irrefl 48)
      · rw [hyes] at hno
        exact nomatch hno

/-- The loop over one element. -/
theorem decryptAll_singleton {tag : UInt8} {decrypt : Bool} {elem data : Octets}
    {r r' : BspCrypto}
    (h : decryptAndVerify ssl (asn1.i2dOctetString tag elem) decrypt r
      = .ok data r') :
    decryptAll ssl asn1 tag decrypt [elem] r = .ok data r' := by
  have hloop : [elem].mapM (fun elem =>
      decryptAndVerify ssl (asn1.i2dOctetString tag elem) decrypt) r
      = .ok [data] r' := mapM_cons h rfl
  rw [decryptAll, bind_ok_eq hloop]
  exact congrArg (fun l => EStateM.Result.ok l r') (List.append_nil data)

/-- **PLAIN PACKAGES COME THROUGH**, in both variants. -/
theorem right_of_plain (laws : ssl.Laws) {p : Profile} {s s' r : BspCrypto}
    {pkg : Package} (hstep : InStep s r)
    (hsend : protect ssl p s = .ok pkg s') (h : p.Plain) :
    BppRight ssl asn1 r p pkg := by
  obtain ⟨s1, s2, hfirst, hmeta, hprofile⟩ := protect_inv hsend
  obtain ⟨hnone, hdata⟩ := protectProfile_none h.keys hprofile
  obtain ⟨seg1, t1, r1, hseg1, htake1, hstep1⟩ :=
    send_oneSegment laws hstep ⟨true, 0x87, p.configureIsdp⟩ h.configureIsdp
  obtain ⟨h1, rfl⟩ := EStateM.Result.ok.inj (hfirst.symm.trans hseg1)
  obtain ⟨seg2, t2, r2, hseg2, htake2, hstep2⟩ :=
    send_oneSegment laws hstep1 ⟨false, 0x88, p.storeMetadata⟩ h.storeMetadata
  obtain ⟨h2, rfl⟩ := EStateM.Result.ok.inj (hmeta.symm.trans hseg2)
  obtain ⟨seg3, t3, r3, hseg3, htake3, -⟩ :=
    send_oneSegment laws hstep2 ⟨true, 0x86, p.profileData⟩ h.profileData
  obtain ⟨h3, -⟩ := EStateM.Result.ok.inj (hdata.symm.trans hseg3)
  have hresult : p.result = ⟨p.configureIsdp, p.storeMetadata, ⟨[], [], []⟩,
      p.profileData, false⟩ := by
    rw [Profile.result, h.keys]
    rfl
  have hparts : takeParts ssl asn1 pkg r = .ok p.result r3 := by
    have hsecond : ¬ pkg.secondOctets ≠ [] := by
      rw [Package.secondOctets, show pkg.secondSequenceOf87 = none from hnone]
      exact not_not_intro rfl
    rw [takeParts, h1, h2, show pkg.sequenceOf86 = [seg3] from h3,
      List.flatten_singleton, List.flatten_singleton, List.flatten_singleton,
      processBoundProfileParts, bind_ok_eq htake1, bind_ok_eq htake2,
      if_neg hsecond, bind_ok_eq htake3, hresult]
    rfl
  refine ⟨onInstance_eq hparts, ?_⟩
  rintro allofit notSet ⟨first, metadata, second, profile, hd2i, hf, hm, hs, hp⟩
  rw [h1] at hf
  rw [h2] at hm
  rw [show pkg.secondSequenceOf87 = none from hnone] at hs
  rw [show pkg.sequenceOf86 = [seg3] from h3] at hp
  obtain ⟨elem1, rfl, rfl⟩ := List.map_eq_singleton_iff.mp hf
  obtain ⟨elem2, rfl, rfl⟩ := List.map_eq_singleton_iff.mp hm
  obtain ⟨elem3, rfl, rfl⟩ := List.map_eq_singleton_iff.mp hp
  obtain rfl := Option.map_eq_none_iff.mp hs
  have hpackage : processBoundProfilePackage ssl asn1 notSet allofit r
      = .ok p.result r3 := by
    rw [processBoundProfilePackage, hd2i]
    show (decryptAndVerify ssl (asn1.i2dOctetString 0x87 elem1) true >>= _) r = _
    rw [bind_ok_eq htake1, bind_ok_eq (decryptAll_singleton htake2)]
    show (decryptAll ssl asn1 0x86 true [elem3] >>= _) r2 = _
    rw [bind_ok_eq (decryptAll_singleton htake3), hresult]
    rfl
  rw [onInstance_eq hpackage, onInstance_eq hparts]

end Receive

-- ── Two packages ─────────────────────────────────────────────────────────────

section Examples

/-- the package of `plainProfile` in DER, with a short
    initialiseSecureChannelRequest -/
def plainAllofit : Octets :=
  octetsOf 3 0xbf3663
    ++ octetsOf 28
      0xbf23198201018001aaa6098001888101108401555f4901045f370105
    ++ octetsOf 2 0xa01a
    ++ octetsOf 26 0x8718b6960997ac9629a2121393ce6878b1590b7b2cb5b348b854
    ++ octetsOf 2 0xa10d ++ octetsOf 13 0x880bbf2503d31c1827b6534591
    ++ octetsOf 2 0xa31a
    ++ octetsOf 26 0x8618194776c7f32d74c3647c08064e2206bbe45eacd3f991a5c7

/-- OpenSSL on this package, and on octets that are no request. -/
def asn1Plain : Asn1 where
  d2iReplaceSessionKeysRequest _ :=
    .error "error:0680009B:asn1 encoding routines::too long"
  d2iBoundProfilePackage octets :=
    if octets = plainAllofit then some
      ⟨some [octetsOf 24 0xb6960997ac9629a2121393ce6878b1590b7b2cb5b348b854],
       some [octetsOf 11 0xbf2503d31c1827b6534591], none,
       some [octetsOf 24 0x194776c7f32d74c3647c08064e2206bbe45eacd3f991a5c7]⟩
    else none
  i2dOctetString tag contents :=
    match encodeBertlvLength contents.length with
    | .ok lengthBytes => tag :: (lengthBytes ++ contents)
    | .error _ => []

/-- The decoder that refuses the concatenation obeys the laws. -/
theorem asn1Plain_laws : asn1Plain.Laws := ⟨fun _ _ h => nomatch h⟩

/-- A profile without session keys of its own. -/
def plainProfile : Profile :=
  ⟨octetsOf 6 0xbf24030a0b0c, octetsOf 3 0xbf2503, none, [0xa0]⟩

/-- The package of `plainProfile`. -/
def plainPackage : Package :=
  ⟨[octetsOf 26 0x8718b6960997ac9629a2121393ce6878b1590b7b2cb5b348b854],
   [octetsOf 13 0x880bbf2503d31c1827b6534591], none,
   [octetsOf 26 0x8618194776c7f32d74c3647c08064e2206bbe45eacd3f991a5c7]⟩

/-- The encryption key of the second profile. -/
def ppkEncKey : Octets := octetsOf 16 0x303132333435363738393a3b3c3d3e3f

/-- The MAC key of the second profile. -/
def ppkCmacKey : Octets := octetsOf 16 0x404142434445464748494a4b4c4d4e4f

/-- The chaining value of the second profile. -/
def ppkMcv : Octets := octetsOf 16 0x505152535455565758595a5b5c5d5e5f

/-- A profile with session keys of its own. -/
def keysProfile : Profile :=
  { plainProfile with
    replaceSessionKeys := some ⟨⟨ppkEncKey, ppkCmacKey, ppkMcv⟩, rfl, rfl, rfl⟩ }

/-- The ICV of the block 1 under the replaced key. -/
def ppkIcv : Octets := octetsOf 16 0x4cc3b0dc3c52ac775a8c4516ed79af1a

/-- The ciphertext of the forty-eight octets. -/
def keysCipher : Octets :=
  octetsOf 32 0xd599aa2ebc06a590f1e7931d35c09171ff9d5271066d8685fc24da6b3a4af1c5
    ++ octetsOf 32
      0x5cd77a92f9eef48197090043bd89977bb6cef43c79bc59b68b892e0781fd359c

/-- The vector is one block. -/
theorem ppkIcv_length : (icvBlock 1).length = ppkIcv.length := rfl

/-- Plaintext and ciphertext are one block. -/
theorem keyOctets_length :
    (octetsOf 16 0xa0800000000000000000000000000000).length
      = (octetsOf 16 0x3311b272616ba53f70645a23cc236d51).length := rfl

/-- The AES blocks of the second run. -/
def keysAes : List AesPair :=
  segmentsAes ++
  [⟨sEncKey, icv3, ppkEncKey ++ ppkCmacKey ++ ppkMcv
      ++ octetsOf 16 0x80000000000000000000000000000000, keysCipher, rfl⟩,
   ⟨ppkEncKey, zeroIv, icvBlock 1, ppkIcv, ppkIcv_length⟩,
   ⟨ppkEncKey, ppkIcv, octetsOf 16 0xa0800000000000000000000000000000,
     octetsOf 16 0x3311b272616ba53f70645a23cc236d51, keyOctets_length⟩]

/-- The MACs of the second run. -/
def keysCmac : List CmacPair :=
  segmentsCmac ++
  [⟨sMacKey, chain2 ++ octetsOf 2 0x8748 ++ keysCipher,
     octetsOf 16 0x2fa8d5870994054ef23c03b0b731281d, rfl⟩,
   ⟨ppkCmacKey, ppkMcv ++ octetsOf 18 0x86183311b272616ba53f70645a23cc236d51,
     octetsOf 16 0x7abfe228aed620e3263f1f28d89121ba, rfl⟩]

/-- The package of `keysProfile`. -/
def keysPackage : Package :=
  { plainPackage with
    secondSequenceOf87 := some
      [octetsOf 2 0x8748 ++ keysCipher ++ octetsOf 8 0x2fa8d5870994054e]
    sequenceOf86 :=
      [octetsOf 26 0x86183311b272616ba53f70645a23cc236d517abfe228aed620e3] }

end Examples

/-- **BOUND PROFILE PACKAGES**: every package can be protected, and the part
    variant returns what was sent and agrees with the ASN.1 variant exactly
    for packages without keys whose parts make one segment each. -/
theorem bppRight_iff {ssl : Openssl} (laws : ssl.Laws) {asn1 : Asn1}
    (asn1Laws : asn1.Laws) {s r : BspCrypto} (hstep : InStep s r)
    (p : Profile) :
    ∃ pkg s', protect ssl p s = .ok pkg s'
      ∧ (BppRight ssl asn1 r p pkg ↔ p.Plain) := by
  obtain ⟨pkg, s', hsend⟩ := protect_ok laws p s
  exact ⟨pkg, s', hsend,
    fun h => plain_of_right laws asn1Laws hstep hsend h.1,
    right_of_plain laws hstep hsend⟩

/-- A package without session keys, which comes back as it was. -/
theorem bppRight_iff_plainProfile :
    onInstance (protect (opensslBy segmentsAes segmentsCmac) plainProfile)
        bspFresh = .ok plainPackage
      ∧ IsPackage asn1Plain plainAllofit plainPackage
      ∧ BppRight (opensslBy segmentsAes segmentsCmac) asn1Plain bspFresh
        plainProfile plainPackage := by
  have hprotect : onInstance
      (protect (opensslBy segmentsAes segmentsCmac) plainProfile) bspFresh
      = .ok plainPackage := by decide +kernel
  obtain ⟨pkg, s', hsend, hiff⟩ := bppRight_iff
    (opensslBy_laws segmentsAes segmentsCmac) asn1Plain_laws
    (⟨rfl, rfl, rfl, rfl⟩ : InStep bspFresh bspFresh) plainProfile
  obtain rfl := Except.ok.inj ((onInstance_eq hsend).symm.trans hprotect)
  refine ⟨hprotect, ?_, hiff.mpr ⟨rfl, by decide, by decide, by decide⟩⟩
  exact ⟨_, _, _, _, rfl, by decide +kernel, by decide +kernel, rfl,
    by decide +kernel⟩

/-- Keys are generated as raw octets and refused by the parser. -/
theorem keysProfile_refused :
    onInstance (protect (opensslBy keysAes keysCmac) keysProfile) bspFresh
        = .ok keysPackage
      ∧ onInstance (takeParts (opensslBy keysAes keysCmac) asn1Plain keysPackage)
          bspFresh
        = .error (.thrown ("Failed to parse ReplaceSessionKeysRequest ASN.1: "
          ++ "error:0680009B:asn1 encoding routines::too long"))
      ∧ ¬ BppRight (opensslBy keysAes keysCmac) asn1Plain bspFresh keysProfile
        keysPackage := by
  have hrefused : onInstance
      (takeParts (opensslBy keysAes keysCmac) asn1Plain keysPackage) bspFresh
      = .error (.thrown ("Failed to parse ReplaceSessionKeysRequest ASN.1: "
        ++ "error:0680009B:asn1 encoding routines::too long")) := by
    decide +kernel
  refine ⟨by decide +kernel, hrefused, fun h => ?_⟩
  have hright := h.1
  rw [hrefused] at hright
  exact nomatch hright

end OsmoBsp
