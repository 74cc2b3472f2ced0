import OsmoTtcn.MilenageProofs
import OsmoTtcn.TitanProofs

/-! # Authentication of the emulated UE

    `as_ngap_handle_auth` of `5gc/ConnHdlr.ttcn` answers the requests of a core
    network.  The sequence number of its card is always 0.  A token with an old
    number is answered with a synchronization failure, once; after that the
    next token has to be new. -/

namespace OsmoNgapAuth

open OctetBuffer OsmoMilenage OsmoTitan

/-- `rand` and `autn` of an AUTHENTICATION REQUEST. -/
structure AuthenticationRequest where
  rand : Vector UInt8 16
  autn : Vector UInt8 16

/-- What is sent: the failure with its token, or the response, which is derived
    from `ck`, `ik` and `res`. -/
inductive Sent where
  | authenticationFailure (auts : Option (Vector UInt8 14))
  | authenticationResponse (ck ik : Vector UInt8 16) (res : Vector UInt8 8)
  deriving DecidableEq

/-- `usim_key` and `usim_opc` of the parameters. -/
structure UePars where
  usim_key : Vector UInt8 16
  usim_opc : Vector UInt8 16

/-- `int2oct(my_sqn, 8)`, where `my_sqn` is 0 -/
def mySqn : Vector UInt8 8 := Vector.replicate 8 0

/-- `as_ngap_handle_auth` on the requests that come, in their order.  It passes
    the key where the check expects OPc, and OPc where it expects the key. -/
def asNgapHandleAuth (aes : Vector UInt8 16 → Vector UInt8 16 → Vector UInt8 16)
    (pars : UePars) (allowResync : Bool) : List AuthenticationRequest → Except Fault (List Sent)
  | [] => .ok []
  | rx :: rest =>
      let c := fMilenageCheck aes pars.usim_key pars.usim_opc mySqn rx.rand rx.autn
      if c.rc = -1 then .error (.shutdown "fx_milenage_check() failed! -1")
      else if c.rc = -2 then
        if allowResync = false then
          .error (.shutdown "fx_milenage_check() unexpected Resync!")
        else
          (asNgapHandleAuth aes pars false rest).map
            (fun sent => .authenticationFailure c.auts :: sent)
      else .ok [.authenticationResponse c.ck c.ik c.res]

variable {aes : Vector UInt8 16 → Vector UInt8 16 → Vector UInt8 16}

-- ── Tokens as the card sees them ─────────────────────────────────────────────

/-- The number of the card, as the check reads it. -/
def cardSqn : Vector UInt8 6 := slice mySqn 0 6

/-- The card starts with the sequence number zero. -/
theorem num_cardSqn : num cardSqn = 0 := by decide

/-- The centre made the token, for a number that is not 0. -/
def New (aes : Vector UInt8 16 → Vector UInt8 16 → Vector UInt8 16) (pars : UePars)
    (rx : AuthenticationRequest) : Prop :=
  ∃ sqn amf, 0 < num sqn ∧ rx.autn = autnOf aes pars.usim_key pars.usim_opc rx.rand sqn amf

/-- The token hides the number 0; who made it is open. -/
def Old (aes : Vector UInt8 16 → Vector UInt8 16 → Vector UInt8 16) (pars : UePars)
    (rx : AuthenticationRequest) : Prop :=
  num (xor (slice rx.autn 0 6) (milenageF2345 aes pars.usim_key pars.usim_opc rx.rand).ak) = 0

/-- The answer to a request with a new token. -/
def response (aes : Vector UInt8 16 → Vector UInt8 16 → Vector UInt8 16) (pars : UePars)
    (rx : AuthenticationRequest) : Sent :=
  let f2345 := milenageF2345 aes pars.usim_key pars.usim_opc rx.rand
  .authenticationResponse f2345.ck f2345.ik f2345.res

/-- The answer to the first request with an old one. -/
def failure (aes : Vector UInt8 16 → Vector UInt8 16 → Vector UInt8 16) (pars : UePars)
    (rx : AuthenticationRequest) : Sent :=
  .authenticationFailure (some (autsOf aes pars.usim_key pars.usim_opc rx.rand cardSqn))

/-- The three ways a request goes. -/
theorem handle_cons (aes : Vector UInt8 16 → Vector UInt8 16 → Vector UInt8 16) (pars : UePars)
    (allow : Bool) (rx : AuthenticationRequest) (rest : List AuthenticationRequest) :
    (New aes pars rx ∧ ¬ Old aes pars rx ∧
      asNgapHandleAuth aes pars allow (rx :: rest) = .ok [response aes pars rx]) ∨
    (Old aes pars rx ∧ ¬ New aes pars rx ∧
      asNgapHandleAuth aes pars allow (rx :: rest) =
        if allow = false then .error (.shutdown "fx_milenage_check() unexpected Resync!")
        else (asNgapHandleAuth aes pars false rest).map
          (fun sent => failure aes pars rx :: sent)) ∨
    (¬ New aes pars rx ∧ ¬ Old aes pars rx ∧
      asNgapHandleAuth aes pars allow (rx :: rest)
        = .error (.shutdown "fx_milenage_check() failed! -1")) := by
  obtain ⟨sqn, amf, mac, -, hcheck⟩ := milenageCheck_cases aes pars.usim_key
    pars.usim_opc rx.rand cardSqn rx.autn
  have hNew : (milenageCheck aes pars.usim_key pars.usim_opc cardSqn rx.rand rx.autn).rc = 0
      ↔ New aes pars rx := by
    rw [milenageCheck_accepts_iff, num_cardSqn]
    rfl
  have hOld : (milenageCheck aes pars.usim_key pars.usim_opc cardSqn rx.rand rx.autn).rc = -2
      ↔ Old aes pars rx := by
    rw [milenageCheck_old_iff, num_cardSqn, Nat.le_zero]
    rfl
  have hfold : fMilenageCheck aes pars.usim_key pars.usim_opc mySqn rx.rand rx.autn
      = milenageCheck aes pars.usim_key pars.usim_opc cardSqn rx.rand rx.autn := rfl
  rw [asNgapHandleAuth, hfold]
  by_cases h : num sqn ≤ num cardSqn
  · -- an old number: the code is not looked at
    rw [if_pos h, if_pos h] at hcheck
    rw [hcheck] at hNew hOld ⊢
    exact Or.inr (Or.inl ⟨hOld.mp rfl, fun hn => absurd (hNew.mpr hn) (by simp), rfl⟩)
  · rw [if_neg h, if_neg h] at hcheck
    by_cases hmac : mac = (milenageF1 aes pars.usim_key pars.usim_opc rx.rand sqn amf).mac_a
    · rw [if_pos hmac] at hcheck
      rw [hcheck] at hNew hOld ⊢
      exact Or.inl ⟨hNew.mp rfl, fun ho => absurd (hOld.mpr ho) (by simp), rfl⟩
    · rw [if_neg hmac] at hcheck
      rw [hcheck] at hNew hOld ⊢
      exact Or.inr (Or.inr ⟨fun hn => absurd (hNew.mpr hn) (by simp),
        fun ho => absurd (hOld.mpr ho) (by simp), rfl⟩)

/-- After a failure only a new token is answered. -/
theorem handle_resynced_iff (pars : UePars) (rs : List AuthenticationRequest)
    (sent : List Sent) :
    asNgapHandleAuth aes pars false rs = .ok sent ↔
      (rs = [] ∧ sent = []) ∨
      (∃ rx rest, rs = rx :: rest ∧ New aes pars rx ∧ sent = [response aes pars rx]) := by
  cases rs with
  | nil =>
      rw [asNgapHandleAuth]
      constructor
      · intro h
        exact Or.inl ⟨rfl, (Except.ok.inj h).symm⟩
      · rintro (⟨-, rfl⟩ | ⟨rx, rest, h, -⟩)
        · rfl
        · cases h
  | cons rx rest =>
      rcases handle_cons aes pars false rx rest with
        ⟨hn, ho, h⟩ | ⟨ho, hn, h⟩ | ⟨hn, ho, h⟩
      · rw [h]
        constructor
        · intro hs
          exact Or.inr ⟨rx, rest, rfl, hn, (Except.ok.inj hs).symm⟩
        · rintro (⟨h, -⟩ | ⟨rx', rest', h, -, rfl⟩)
          · cases h
          · rw [(List.cons.inj h).1]
      all_goals
        rw [h]
        refine iff_of_false (fun h => nomatch h) ?_
        rintro (⟨h, -⟩ | ⟨rx', rest', h, hn', -⟩)
        · cases h
        · exact hn ((List.cons.inj h).1 ▸ hn')

/-- **WHAT THE UE ANSWERS**, to requests of any network: nothing but a response
    to a new token of the centre, with the keys of the centre, or one failure
    with the number 0 for the centre to read, and then the same; anything else
    ends the test case. -/
theorem asNgapHandleAuth_iff (pars : UePars) (rs : List AuthenticationRequest)
    (sent : List Sent) :
    asNgapHandleAuth aes pars true rs = .ok sent ↔
      (rs = [] ∧ sent = []) ∨
      (∃ rx rest, rs = rx :: rest ∧ New aes pars rx ∧ sent = [response aes pars rx]) ∨
      (∃ rx, rs = [rx] ∧ Old aes pars rx ∧ sent = [failure aes pars rx]) ∨
      (∃ rx rx' rest, rs = rx :: rx' :: rest ∧ Old aes pars rx ∧ New aes pars rx' ∧
        sent = [failure aes pars rx, response aes pars rx']) := by
  cases rs with
  | nil =>
      rw [asNgapHandleAuth]
      constructor
      · intro h
        exact Or.inl ⟨rfl, (Except.ok.inj h).symm⟩
      · rintro (⟨-, rfl⟩ | ⟨rx, rest, h, -⟩ | ⟨rx, h, -⟩ | ⟨rx, rx', rest, h, -⟩)
        · rfl
        all_goals cases h
  | cons rx rest =>
      rcases handle_cons aes pars true rx rest with
        ⟨hn, ho, h⟩ | ⟨ho, hn, h⟩ | ⟨hn, ho, h⟩
      · rw [h]
        constructor
        · intro hs
          exact Or.inr (Or.inl ⟨rx, rest, rfl, hn, (Except.ok.inj hs).symm⟩)
        · rintro (⟨h, -⟩ | ⟨rx', rest', h, -, rfl⟩ | ⟨rx', h, ho', -⟩ | ⟨rx', _, _, h, ho', -⟩)
          · cases h
          · rw [(List.cons.inj h).1]
          · exact absurd ((List.cons.inj h).1 ▸ ho') ho
          · exact absurd ((List.cons.inj h).1 ▸ ho') ho
      · rw [h, if_neg (by decide)]
        constructor
        · intro hs
          obtain ⟨sent', hrest, rfl⟩ := map_ok hs
          rcases (handle_resynced_iff pars rest sent').mp hrest with
            ⟨rfl, rfl⟩ | ⟨rx', rest', rfl, hn', rfl⟩
          · exact Or.inr (Or.inr (Or.inl ⟨rx, rfl, ho, rfl⟩))
          · exact Or.inr (Or.inr (Or.inr ⟨rx, rx', rest', rfl, ho, hn', rfl⟩))
        · rintro (⟨h, -⟩ | ⟨rx', rest', h, hn', -⟩ | ⟨rx', h, -, rfl⟩ |
            ⟨rx', rx2, rest', h, -, hn', rfl⟩)
          · cases h
          · exact absurd ((List.cons.inj h).1 ▸ hn') hn
          · obtain ⟨rfl, rfl⟩ := List.cons.inj h
            rfl
          · obtain ⟨rfl, rfl⟩ := List.cons.inj h
            rw [(handle_resynced_iff pars _ _).mpr (Or.inr ⟨rx2, rest', rfl, hn', rfl⟩)]
            rfl
      · rw [h]
        refine iff_of_false (fun h => nomatch h) ?_
        rintro (⟨h, -⟩ | ⟨rx', rest', h, hn', -⟩ | ⟨rx', h, ho', -⟩ | ⟨rx', _, _, h, ho', -⟩)
        · cases h
        · exact hn ((List.cons.inj h).1 ▸ hn')
        · exact ho ((List.cons.inj h).1 ▸ ho')
        · exact ho ((List.cons.inj h).1 ▸ ho')

end OsmoNgapAuth
