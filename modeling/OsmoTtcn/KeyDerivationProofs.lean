import OsmoTtcn.TitanProofs
import OsmoTtcn.WireOctetProofs

/-! # Key derivation

    `library/lte_crypto/key_derivation.c` and `library/ng_crypto/key_derivation.c`
    with their wrappers.  Each function puts a string together, from a number
    that stands for the function and the parameters, and derives a key from
    another one with a keyed hash of the string.  The hash is not part of this
    development; what it is given is.

    The functions of LTE read 32 octets of the key they derive from, those of
    5G write into a buffer of 1024 octets; `Call.InBounds` says when that is
    right. -/

namespace OsmoKdf

open OsmoTitan WireOctet

/-- What `gnutls_hmac_fast` is given. -/
structure Hmac where
  key : List UInt8
  s : List UInt8
  deriving DecidableEq, Repr

/-- `htonl`, as octets -/
def be32 (n : UInt32) : List UInt8 :=
  [(n >>> 24).toUInt8, (n >>> 16).toUInt8, (n >>> 8).toUInt8, n.toUInt8]

-- ── LTE ──────────────────────────────────────────────────────────────────────

/-- `mme_kdf_nas`; the key that comes out is the second half of the hash. -/
def mmeKdfNas (algorithmTypeDistinguishers algorithmIdentity : UInt8) (kasme : List UInt8) :
    Except Fault Hmac :=
  (copyOctets 32 kasme).map fun key =>
    { key := key
      s := [0x15, algorithmTypeDistinguishers, 0x00, 0x01, algorithmIdentity, 0x00, 0x01] }

/-- `mme_kdf_enb` -/
def mmeKdfEnb (kasme : List UInt8) (ulCount : UInt32) : Except Fault Hmac :=
  (copyOctets 32 kasme).map fun key =>
    { key := key, s := [0x11] ++ be32 ulCount ++ [0x00, 0x04] }

/-- `mme_kdf_nh` -/
def mmeKdfNh (kasme : List UInt8) (syncInput : Vector UInt8 32) : Except Fault Hmac :=
  (copyOctets 32 kasme).map fun key =>
    { key := key, s := [0x12] ++ syncInput.toList ++ [0x00, 0x20] }

/-- `mme_kdf_nas_token` -/
def mmeKdfNasToken (kasme : List UInt8) (ulCount : UInt32) : Except Fault Hmac :=
  (copyOctets 32 kasme).map fun key =>
    { key := key, s := [0x17] ++ be32 ulCount ++ [0x00, 0x04] }

/-- `hss_auc_kasme` -/
def hssAucKasme (ck ik : Vector UInt8 16) (plmnId : Vector UInt8 3) (sqn ak : Vector UInt8 6) :
    Hmac :=
  { key := ck.toList ++ ik.toList
    s := [0x10] ++ plmnId.toList ++ [0x00, 0x03]
      ++ (Vector.zipWith (fun a b => a ^^^ b) sqn ak).toList ++ [0x00, 0x06] }

-- ── 5G ───────────────────────────────────────────────────────────────────────

/-- Octets behind the first `pos` ones of `s[1024]`. -/
def put (s os : List UInt8) : Except Fault (List UInt8) :=
  if s.length + os.length ≤ 1024 then .ok (s ++ os) else .error .overrun

/-- A parameter, and its length behind it.  The length is a `uint16_t`, and the
    parameter is copied as long as it says. -/
def putParam (s p : List UInt8) : Except Fault (List UInt8) := do
  let len := p.length % 65536
  let s ← put s (p.take len)
  put s (be16 len)

/-- `kdf_kausf`; six octets of the token are read. -/
def kdfKausf (ck ik : Vector UInt8 16) (servingNetworkName : List UInt8)
    (autn : Vector UInt8 16) : Except Fault Hmac := do
  let s ← put [] [0x6A]
  let s ← putParam s servingNetworkName
  let s ← putParam s (autn.toList.take 6)
  .ok { key := ck.toList ++ ik.toList, s := s }

/-- `kdf_xres_star`; the key that comes out is the second half of the hash.
    `xres_len` is a `size_t`, and only what is written of it is cut. -/
def kdfXresStar (servingNetworkName : List UInt8) (ck ik rand : Vector UInt8 16)
    (xres : List UInt8) : Except Fault Hmac := do
  let s ← put [] [0x6B]
  let s ← putParam s servingNetworkName
  let s ← putParam s rand.toList
  let s ← put s xres
  let s ← put s (be16 (xres.length % 65536))
  .ok { key := ck.toList ++ ik.toList, s := s }

/-- `kdf_kseaf` -/
def kdfKseaf (kausf : Vector UInt8 32) (servingNetworkName : List UInt8) : Except Fault Hmac := do
  let s ← put [] [0x6C]
  let s ← putParam s servingNetworkName
  .ok { key := kausf.toList, s := s }

/-- `kdf_kamf` -/
def kdfKamf (kseaf : Vector UInt8 32) (supi : List UInt8) (abba : Vector UInt8 2) :
    Except Fault Hmac := do
  let s ← put [] [0x6D]
  let s ← putParam s supi
  let s ← putParam s abba.toList
  .ok { key := kseaf.toList, s := s }

/-- `kdf_ng_nas_algo` -/
def kdfNgNasAlgo (kamf : Vector UInt8 32) (algoType algoId : UInt8) : Except Fault Hmac := do
  let s ← put [] [0x69]
  let s ← putParam s [algoType]
  let s ← putParam s [algoId]
  .ok { key := kamf.toList, s := s }

-- ── The functions of TTCN-3 ──────────────────────────────────────────────────

/-- A call of one of the external functions.  The key that an LTE function
    derives from is an octetstring that may be shorter than what is read. -/
inductive Call where
  | f_kdf_kasme (ck ik : Vector UInt8 16) (plmn_id : Vector UInt8 3) (sqn ak : Vector UInt8 6)
  | f_kdf_nas_int (alg_id : Int32) (kasme : List UInt8)
  | f_kdf_nas_enc (alg_id : Int32) (kasme : List UInt8)
  | f_kdf_enb (kasme : List UInt8) (ul_count : Int32)
  | f_kdf_nh (kasme : List UInt8) (sync_inp : Vector UInt8 32)
  | f_kdf_nas_token (kasme : List UInt8) (ul_count : Int32)
  | f_kdf_kausf (ck ik : Vector UInt8 16) (ssn : List UInt8) (autn : Vector UInt8 16)
  | f_kdf_xres_star (ssn : List UInt8) (ck ik rand : Vector UInt8 16) (xres : List UInt8)
  | f_kdf_kseaf (kausf : Vector UInt8 32) (ssn : List UInt8)
  | f_kdf_kamf (kseaf : Vector UInt8 32) (p0 : List UInt8) (abba : Vector UInt8 2)
  | f_kdf_ng_nas_algo (kamf : Vector UInt8 32) (algo_type algo_id : UInt8)

/-- `(int) alg_id` for a parameter of the type `uint8_t` -/
def algorithm (alg_id : Int32) : UInt8 := alg_id.toUInt32.toUInt8

/-- What a call has the hash compute; `0x01` and `0x02` are
    `MME_KDF_NAS_ENC_ALG` and `MME_KDF_NAS_INT_ALG`. -/
def Call.hmac : Call → Except Fault Hmac
  | .f_kdf_kasme ck ik plmn_id sqn ak => .ok (hssAucKasme ck ik plmn_id sqn ak)
  | .f_kdf_nas_int alg_id kasme => mmeKdfNas 0x02 (algorithm alg_id) kasme
  | .f_kdf_nas_enc alg_id kasme => mmeKdfNas 0x01 (algorithm alg_id) kasme
  | .f_kdf_enb kasme ul_count => mmeKdfEnb kasme ul_count.toUInt32
  | .f_kdf_nh kasme sync_inp => mmeKdfNh kasme sync_inp
  | .f_kdf_nas_token kasme ul_count => mmeKdfNasToken kasme ul_count.toUInt32
  | .f_kdf_kausf ck ik ssn autn => kdfKausf ck ik ssn autn
  | .f_kdf_xres_star ssn ck ik rand xres => kdfXresStar ssn ck ik rand xres
  | .f_kdf_kseaf kausf ssn => kdfKseaf kausf ssn
  | .f_kdf_kamf kseaf p0 abba => kdfKamf kseaf p0 abba
  | .f_kdf_ng_nas_algo kamf algo_type algo_id => kdfNgNasAlgo kamf algo_type algo_id

-- ── What a call reads ────────────────────────────────────────────────────────

/-- The number of the function, which the string begins with. -/
def Call.number : Call → UInt8
  | .f_kdf_kasme .. => 0x10
  | .f_kdf_enb .. => 0x11
  | .f_kdf_nh .. => 0x12
  | .f_kdf_nas_int .. | .f_kdf_nas_enc .. => 0x15
  | .f_kdf_nas_token .. => 0x17
  | .f_kdf_ng_nas_algo .. => 0x69
  | .f_kdf_kausf .. => 0x6A
  | .f_kdf_xres_star .. => 0x6B
  | .f_kdf_kseaf .. => 0x6C
  | .f_kdf_kamf .. => 0x6D

/-- The key that is derived from. -/
def Call.key : Call → List UInt8
  | .f_kdf_kasme ck ik _ _ _ | .f_kdf_kausf ck ik _ _ | .f_kdf_xres_star _ ck ik _ _ =>
      ck.toList ++ ik.toList
  | .f_kdf_nas_int _ kasme | .f_kdf_nas_enc _ kasme | .f_kdf_enb kasme _ | .f_kdf_nh kasme _
  | .f_kdf_nas_token kasme _ => kasme.take 32
  | .f_kdf_kseaf key _ | .f_kdf_kamf key _ _ | .f_kdf_ng_nas_algo key _ _ => key.toList

/-- A parameter whose length is a `uint16_t`, as far as it is read. -/
def cut (p : List UInt8) : List UInt8 := p.take (p.length % 65536)

/-- The parameters of the derivation. -/
def Call.params : Call → List (List UInt8)
  | .f_kdf_kasme _ _ plmn_id sqn ak =>
      [plmn_id.toList, (Vector.zipWith (fun a b => a ^^^ b) sqn ak).toList]
  | .f_kdf_nas_int alg_id _ => [[0x02], [algorithm alg_id]]
  | .f_kdf_nas_enc alg_id _ => [[0x01], [algorithm alg_id]]
  | .f_kdf_enb _ ul_count | .f_kdf_nas_token _ ul_count => [be32 ul_count.toUInt32]
  | .f_kdf_nh _ sync_inp => [sync_inp.toList]
  | .f_kdf_kausf _ _ ssn autn => [cut ssn, autn.toList.take 6]
  | .f_kdf_xres_star ssn _ _ rand xres => [cut ssn, rand.toList, xres]
  | .f_kdf_kseaf _ ssn => [cut ssn]
  | .f_kdf_kamf _ p0 abba => [cut p0, abba.toList]
  | .f_kdf_ng_nas_algo _ algo_type algo_id => [[algo_type], [algo_id]]

/-- The string of a call. -/
def Call.s (c : Call) : List UInt8 := c.number :: TrailedFields.octets c.params

/-- Nothing is read behind the key and nothing written behind the buffer. -/
def Call.InBounds (c : Call) : Prop :=
  match c with
  | .f_kdf_nas_int _ kasme | .f_kdf_nas_enc _ kasme | .f_kdf_enb kasme _ | .f_kdf_nh kasme _
  | .f_kdf_nas_token kasme _ => 32 ≤ kasme.length
  | .f_kdf_kausf .. | .f_kdf_xres_star .. | .f_kdf_kseaf .. | .f_kdf_kamf .. => c.s.length ≤ 1024
  | .f_kdf_kasme .. | .f_kdf_ng_nas_algo .. => True

instance : (c : Call) → Decidable c.InBounds
  | .f_kdf_nas_int _ kasme | .f_kdf_nas_enc _ kasme | .f_kdf_enb kasme _ | .f_kdf_nh kasme _
  | .f_kdf_nas_token kasme _ => inferInstanceAs (Decidable (32 ≤ kasme.length))
  | .f_kdf_kausf .. | .f_kdf_xres_star .. | .f_kdf_kseaf .. | .f_kdf_kamf .. =>
      inferInstanceAs (Decidable ((Call.s _).length ≤ 1024))
  | .f_kdf_kasme .. | .f_kdf_ng_nas_algo .. => inferInstanceAs (Decidable True)

/-- What is cut is as long as the length field says. -/
theorem cut_length (p : List UInt8) : (cut p).length = p.length % 65536 := by
  rw [cut, List.length_take]
  exact Nat.min_eq_left (Nat.mod_le _ _)

/-- What comes after octets are put into the buffer. -/
theorem put_then {α : Type} {s os : List UInt8} {g : List UInt8 → Except Fault α} {r : α} :
    (put s os >>= g) = .ok r ↔ (s ++ os).length ≤ 1024 ∧ g (s ++ os) = .ok r := by
  rw [put, ← List.length_append]
  by_cases h : (s ++ os).length ≤ 1024
  · rw [if_pos h]
    exact ⟨fun hg => ⟨h, hg⟩, fun hg => hg.2⟩
  · rw [if_neg h]
    exact iff_of_false (fun hg => nomatch hg) (fun hg => h hg.1)

/-- A parameter as it is in the buffer. -/
def paramOctets (p : List UInt8) : List UInt8 := cut p ++ be16 (cut p).length

/-- What comes after a parameter is put into the buffer. -/
theorem putParam_then {α : Type} {s p : List UInt8} {g : List UInt8 → Except Fault α} {r : α} :
    (putParam s p >>= g) = .ok r
      ↔ (s ++ paramOctets p).length ≤ 1024 ∧ g (s ++ paramOctets p) = .ok r := by
  have hassoc : (putParam s p >>= g)
      = (put s (cut p) >>= fun t => put t (be16 (cut p).length) >>= g) := by
    rw [putParam, cut_length]
    exact bind_assoc _ _ _
  have happ : s ++ paramOctets p = s ++ cut p ++ be16 (cut p).length :=
    (List.append_assoc _ _ _).symm
  rw [hassoc, put_then, put_then, happ]
  refine ⟨fun h => h.2, fun h => ⟨?_, h⟩⟩
  have hlen := h.1
  rw [List.length_append] at hlen
  omega

/-- A parameter that fits is not cut. -/
theorem cut_of_lt {p : List UInt8} (h : p.length < 65536) : cut p = p := by
  rw [cut, Nat.mod_eq_of_lt h, List.take_length]

/-- A key of LTE that is long enough is read. -/
theorem copy_key_ok {kasme s : List UInt8} {h : Hmac} :
    (copyOctets 32 kasme).map (fun key => (⟨key, s⟩ : Hmac)) = .ok h
      ↔ 32 ≤ kasme.length ∧ h = ⟨kasme.take 32, s⟩ := by
  rw [copyOctets]
  by_cases hlen : kasme.length < 32
  · rw [if_pos hlen]
    exact iff_of_false (fun h => nomatch h) (fun h => absurd h.1 (Nat.not_le.mpr hlen))
  · rw [if_neg hlen]
    constructor
    · intro h
      exact ⟨Nat.le_of_not_lt hlen, (Except.ok.inj h).symm⟩
    · rintro ⟨-, rfl⟩
      rfl

/-- What fits with more behind it fits. -/
theorem fits_of_append {s os : List UInt8} (h : (s ++ os).length ≤ 1024) : s.length ≤ 1024 := by
  rw [List.length_append] at h
  omega

/-- The octets of a length are those of what a `uint16_t` holds of it. -/
theorem be16_mod (n : Nat) : be16 (n % 65536) = be16 n := by
  have hhi : UInt8.ofNat (n % 65536 / 256) = UInt8.ofNat (n / 256) := by
    rw [← UInt8.toNat_inj, UInt8.toNat_ofNat', UInt8.toNat_ofNat']
    omega
  have hlo : n % 65536 % 256 = n % 256 := by omega
  rw [be16, be16, hhi, hlo]

/-- **WHAT A CALL HAS THE HASH COMPUTE**, and when it comes that far. -/
theorem hmac_eq_ok (c : Call) (h : Hmac) :
    c.hmac = .ok h ↔ c.InBounds ∧ h = ⟨c.key, c.s⟩ := by
  cases c with
  | f_kdf_kasme ck ik plmn_id sqn ak =>
      have hs : hssAucKasme ck ik plmn_id sqn ak
          = ⟨ck.toList ++ ik.toList, (Call.f_kdf_kasme ck ik plmn_id sqn ak).s⟩ := by
        simp [hssAucKasme, Call.s, Call.number, Call.params, TrailedFields.octets_cons, be16]
      rw [Call.hmac, hs]
      constructor
      · intro hok
        exact ⟨trivial, (Except.ok.inj hok).symm⟩
      · rintro ⟨-, rfl⟩
        rfl
  | f_kdf_nas_int alg_id kasme =>
      have hs : [0x15, 0x02, 0x00, 0x01, algorithm alg_id, 0x00, 0x01]
          = (Call.f_kdf_nas_int alg_id kasme).s := by
        simp [Call.s, Call.number, Call.params, TrailedFields.octets_cons, be16]
      rw [Call.hmac, mmeKdfNas, hs, copy_key_ok]
      rfl
  | f_kdf_nas_enc alg_id kasme =>
      have hs : [0x15, 0x01, 0x00, 0x01, algorithm alg_id, 0x00, 0x01]
          = (Call.f_kdf_nas_enc alg_id kasme).s := by
        simp [Call.s, Call.number, Call.params, TrailedFields.octets_cons, be16]
      rw [Call.hmac, mmeKdfNas, hs, copy_key_ok]
      rfl
  | f_kdf_enb kasme ul_count =>
      have hs : [0x11] ++ be32 ul_count.toUInt32 ++ [0x00, 0x04]
          = (Call.f_kdf_enb kasme ul_count).s := by
        simp [Call.s, Call.number, Call.params, TrailedFields.octets_cons, be16, be32]
      rw [Call.hmac, mmeKdfEnb, hs, copy_key_ok]
      rfl
  | f_kdf_nh kasme sync_inp =>
      have hs : [0x12] ++ sync_inp.toList ++ [0x00, 0x20] = (Call.f_kdf_nh kasme sync_inp).s := by
        simp [Call.s, Call.number, Call.params, TrailedFields.octets_cons, be16]
      rw [Call.hmac, mmeKdfNh, hs, copy_key_ok]
      rfl
  | f_kdf_nas_token kasme ul_count =>
      have hs : [0x17] ++ be32 ul_count.toUInt32 ++ [0x00, 0x04]
          = (Call.f_kdf_nas_token kasme ul_count).s := by
        simp [Call.s, Call.number, Call.params, TrailedFields.octets_cons, be16, be32]
      rw [Call.hmac, mmeKdfNasToken, hs, copy_key_ok]
      rfl
  | f_kdf_kausf ck ik ssn autn =>
      have hs : [] ++ [0x6A] ++ paramOctets ssn ++ paramOctets (autn.toList.take 6)
          = (Call.f_kdf_kausf ck ik ssn autn).s := by
        have hcut : cut (autn.toList.take 6) = autn.toList.take 6 := cut_of_lt (by simp)
        simp [Call.s, Call.number, Call.params, TrailedFields.octets_cons, paramOctets, hcut]
      rw [Call.hmac, kdfKausf, put_then, putParam_then, putParam_then]
      constructor
      · rintro ⟨-, -, hlen, hok⟩
        rw [hs] at hlen hok
        exact ⟨hlen, (Except.ok.inj hok).symm⟩
      · rintro ⟨hlen, rfl⟩
        have hlen₂ := hlen
        rw [Call.InBounds, ← hs] at hlen₂
        have hlen₁ := fits_of_append hlen₂
        exact ⟨fits_of_append hlen₁, hlen₁, hlen₂, by rw [hs]; rfl⟩
  | f_kdf_xres_star ssn ck ik rand xres =>
      have hs : [] ++ [0x6B] ++ paramOctets ssn ++ paramOctets rand.toList ++ xres
            ++ be16 (xres.length % 65536)
          = (Call.f_kdf_xres_star ssn ck ik rand xres).s := by
        have hcut : cut rand.toList = rand.toList := cut_of_lt (by simp)
        simp [Call.s, Call.number, Call.params, TrailedFields.octets_cons, paramOctets, hcut,
          be16_mod]
      rw [Call.hmac, kdfXresStar, put_then, putParam_then, putParam_then, put_then, put_then]
      constructor
      · rintro ⟨-, -, -, -, hlen, hok⟩
        rw [hs] at hlen hok
        exact ⟨hlen, (Except.ok.inj hok).symm⟩
      · rintro ⟨hlen, rfl⟩
        have hlen₄ := hlen
        rw [Call.InBounds, ← hs] at hlen₄
        have hlen₃ := fits_of_append hlen₄
        have hlen₂ := fits_of_append hlen₃
        have hlen₁ := fits_of_append hlen₂
        exact ⟨fits_of_append hlen₁, hlen₁, hlen₂, hlen₃, hlen₄, by rw [hs]; rfl⟩
  | f_kdf_kseaf kausf ssn =>
      have hs : [] ++ [0x6C] ++ paramOctets ssn = (Call.f_kdf_kseaf kausf ssn).s := by
        simp [Call.s, Call.number, Call.params, TrailedFields.octets_cons, paramOctets]
      rw [Call.hmac, kdfKseaf, put_then, putParam_then]
      constructor
      · rintro ⟨-, hlen, hok⟩
        rw [hs] at hlen hok
        exact ⟨hlen, (Except.ok.inj hok).symm⟩
      · rintro ⟨hlen, rfl⟩
        have hlen₁ := hlen
        rw [Call.InBounds, ← hs] at hlen₁
        exact ⟨fits_of_append hlen₁, hlen₁, by rw [hs]; rfl⟩
  | f_kdf_kamf kseaf p0 abba =>
      have hs : [] ++ [0x6D] ++ paramOctets p0 ++ paramOctets abba.toList
          = (Call.f_kdf_kamf kseaf p0 abba).s := by
        have hcut : cut abba.toList = abba.toList := cut_of_lt (by simp)
        simp [Call.s, Call.number, Call.params, TrailedFields.octets_cons, paramOctets, hcut]
      rw [Call.hmac, kdfKamf, put_then, putParam_then, putParam_then]
      constructor
      · rintro ⟨-, -, hlen, hok⟩
        rw [hs] at hlen hok
        exact ⟨hlen, (Except.ok.inj hok).symm⟩
      · rintro ⟨hlen, rfl⟩
        have hlen₂ := hlen
        rw [Call.InBounds, ← hs] at hlen₂
        have hlen₁ := fits_of_append hlen₂
        exact ⟨fits_of_append hlen₁, hlen₁, hlen₂, by rw [hs]; rfl⟩
  | f_kdf_ng_nas_algo kamf algo_type algo_id =>
      have hs : [] ++ [0x69] ++ paramOctets [algo_type] ++ paramOctets [algo_id]
          = (Call.f_kdf_ng_nas_algo kamf algo_type algo_id).s := by
        simp [Call.s, Call.number, Call.params, TrailedFields.octets_cons, paramOctets, cut_of_lt]
      have hlen : (Call.f_kdf_ng_nas_algo kamf algo_type algo_id).s.length ≤ 1024 := by
        simp [Call.s, Call.params, TrailedFields.octets_cons, be16]
      have hlen₂ := hlen
      rw [← hs] at hlen₂
      have hlen₁ := fits_of_append hlen₂
      rw [Call.hmac, kdfNgNasAlgo, put_then, putParam_then, putParam_then]
      constructor
      · rintro ⟨-, -, -, hok⟩
        rw [hs] at hok
        exact ⟨trivial, (Except.ok.inj hok).symm⟩
      · rintro ⟨-, rfl⟩
        exact ⟨fits_of_append hlen₁, hlen₁, hlen₂, by rw [hs]; rfl⟩

-- ── Two calls ────────────────────────────────────────────────────────────────

/-- In bounds every parameter fits its length. -/
theorem params_fit {c : Call} (h : c.InBounds) : TrailedFields.Fits c.params := by
  intro p hp
  cases c with
  | f_kdf_kasme ck ik plmn_id sqn ak | f_kdf_nh kasme sync_inp =>
      simp only [Call.params, List.mem_cons, List.not_mem_nil, or_false] at hp
      grind
  | f_kdf_nas_int alg_id kasme | f_kdf_nas_enc alg_id kasme
  | f_kdf_ng_nas_algo kamf algo_type algo_id =>
      simp only [Call.params, List.mem_cons, List.not_mem_nil, or_false] at hp
      grind
  | f_kdf_enb kasme ul_count | f_kdf_nas_token kasme ul_count =>
      have hlen : (be32 ul_count.toUInt32).length = 4 := rfl
      simp only [Call.params, List.mem_cons, List.not_mem_nil, or_false] at hp
      grind
  | f_kdf_kausf ck ik ssn autn | f_kdf_kseaf kausf ssn | f_kdf_kamf kseaf p0 abba =>
      simp only [Call.params, List.mem_cons, List.not_mem_nil, or_false] at hp
      grind [cut_length]
  | f_kdf_xres_star ssn ck ik rand xres =>
      -- the response is the one that is not cut
      have hxres : xres.length ≤ 1024 := by
        simp only [Call.InBounds, Call.s, Call.params, TrailedFields.octets_cons,
          List.length_cons, List.length_append] at h
        omega
      simp only [Call.params, List.mem_cons, List.not_mem_nil, or_false] at hp
      grind [cut_length]

/-- The number, and the first parameter where two share it, tell the function. -/
theorem function_of_number {c d : Call} (hn : c.number = d.number) (hp : c.params = d.params) :
    c.ctorIdx = d.ctorIdx := by
  cases c <;> cases d <;>
    first
      | rfl
      | (exfalso; revert hn; simp only [Call.number]; decide)
      | (exfalso; simp [Call.params] at hp)

/-- A function has one number. -/
theorem number_of_function {c d : Call} (h : c.ctorIdx = d.ctorIdx) : c.number = d.number := by
  cases c <;> cases d <;> first | rfl | exact absurd h (by simp [Call.ctorIdx])

/-- **KEYS ARE TOLD APART.**  Two calls that stay in bounds have the hash
    compute the same only when they are calls of the same function with the
    same key and the same parameters. -/
theorem kdf_separated (c d : Call) (hc : c.InBounds) (hd : d.InBounds) :
    c.hmac = d.hmac ↔ c.ctorIdx = d.ctorIdx ∧ c.key = d.key ∧ c.params = d.params := by
  have hcok := (hmac_eq_ok c _).2 ⟨hc, rfl⟩
  have hdok := (hmac_eq_ok d _).2 ⟨hd, rfl⟩
  rw [hcok, hdok]
  constructor
  · intro h
    obtain ⟨hkey, hs⟩ := Hmac.mk.inj (Except.ok.inj h)
    obtain ⟨hnumber, hoctets⟩ := List.cons.inj hs
    have hparams := TrailedFields.octets_inj _ _ (params_fit hc) (params_fit hd) hoctets
    exact ⟨function_of_number hnumber hparams, hkey, hparams⟩
  · rintro ⟨hfn, hkey, hparams⟩
    rw [hkey, Call.s, Call.s, hparams, number_of_function hfn]

/-- The octets of the name of a serving network. -/
def servingNetwork (name : String) : List UInt8 := name.toList.map fun c => c.toNat.toUInt8

/-- The response of the UE and the key of the home network are derived from the
    same keys, and with a name of the network and a response of any length. -/
theorem kdf_separated_serving :
    let ck := Vector.replicate 16 0xC3
    let ik := Vector.replicate 16 0x3C
    let ssn := servingNetwork "5G:mnc001.mcc001.3gppnetwork.org"
    let resStar := Call.f_kdf_xres_star ssn ck ik (Vector.replicate 16 0x11)
      [0xA5, 0x42, 0x11, 0xD5, 0xE3, 0xBA, 0x50, 0xBF]
    let kausf := Call.f_kdf_kausf ck ik (ssn ++ servingNetwork ".") (Vector.replicate 16 0x22)
    (resStar.InBounds ∧ kausf.InBounds) ∧
    (resStar.hmac = kausf.hmac ↔ resStar.ctorIdx = kausf.ctorIdx ∧ resStar.key = kausf.key
      ∧ resStar.params = kausf.params) := by
  intro ck ik ssn resStar kausf
  have hres : resStar.InBounds := by decide
  have hkausf : kausf.InBounds := by decide
  exact ⟨⟨hres, hkausf⟩, kdf_separated _ _ hres hkausf⟩

end OsmoKdf
