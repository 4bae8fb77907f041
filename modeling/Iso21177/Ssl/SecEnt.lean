import Iso21177.Ssl.Frame

/-!
# The Security Entity

A 1609.2 endpoint holds no keys. It asks a security entity over a socket to
check certificates, to sign, and to check signatures, and this module is the
code that asks. Each request is one message and each answer one message; a
message of type FAILURE, no message, or one the receive buffer cannot hold is
an error.

The entity is any function of the record so far, so it may answer the same
request differently each time. Every exchange is added to the record with the
reply that was used.

Of a reply to VERIFY_CERTS the first eight octets are copied out without
looking at its length. A shorter reply is read past its end, which is undefined.

## Main definitions

* `secEntMsgNewType…`: The requests.
* `SecEntReply`, `secEntProcess`: One exchange.
* `ieee1609CertVerify`: Checking a certificate and learning its hash.
* `tlsConstructIeee1609CertCertVerify`: Having a CertificateVerify signed.
* `tlsProcessIeee1609CertCertVerify`: Having a CertificateVerify checked.
* `sslIsUsing1609…`: Which kind of certificate each side uses.
* `sslGet1609PsidReceived`: What the application learns of the peer.

## Theorems

* `sslGet1609PsidReceived_some`: What is handed out.
* `supported_of_keeps`: What leaves the switch alone.
* `secEntProcess_eq`: An exchange changes the record only.
* `secEntProcess_msg`: A reply that is used is not a FAILURE and fits.
* `ieee1609CertVerify_some`: What a checked certificate went through.
* `ieee1609CertVerify_note`: Checking a certificate changes the record only.
* `tlsConstructIeee1609CertCertVerify_some`: What a signature that was made is.
* `tlsProcessIeee1609CertCertVerify_true`: What an accepted signature leaves.
* `touches_tlsProcessIeee1609CertCertVerify`: The fields it may change.
-/

namespace Iso21177

open Packet

/-- `SEC_ENT_MSG_TYPE_FAILURE`. -/
def secEntMsgTypeFailure : UInt8 := 3

/-- `SEC_ENT_MSG_TYPE_GET_CERT`. -/
def secEntMsgTypeGetCert : UInt8 := 8

/-- `SEC_ENT_MSG_TYPE_TLS_VERIFY_CERTS`. -/
def secEntMsgTypeTlsVerifyCerts : UInt8 := 18

/-- `SEC_ENT_MSG_TYPE_TLS_SIGN_DATA`. -/
def secEntMsgTypeTlsSignData : UInt8 := 19

/-- `SEC_ENT_MSG_TYPE_TLS_VERIFY_DATA`. -/
def secEntMsgTypeTlsVerifyData : UInt8 := 20

/-- `SEC_ENT_MSG_TYPE_GET_AT`. -/
def secEntMsgTypeGetAt : UInt8 := 22

/-- `HASHEDID8_LEN`. -/
def hashedid8Len : Nat := 8

/-- The largest payload the receive buffer holds behind the header. -/
def secEntMaxPayload : Nat := 2048 - 5

def secEntMsgNewTypeTlsVerifyCerts (cert : Bytes) : SecEntMsg :=
  ⟨secEntMsgTypeTlsVerifyCerts, cert⟩

def secEntMsgNewTypeTlsSignData (psid : UInt64) (hashedid8 input : Bytes) : SecEntMsg :=
  ⟨secEntMsgTypeTlsSignData, beBytes 8 psid.toNat ++ hashedid8 ++ input⟩

def secEntMsgNewTypeTlsVerifyData (hashedid8 verifyData verifyInput : Bytes) : SecEntMsg :=
  ⟨secEntMsgTypeTlsVerifyData, hashedid8 ++ verifyData ++ verifyInput⟩

/-- The octet after the hash says that no verification status is wanted. -/
def secEntMsgNewTypeGetCert (hashedid8 : Bytes) : SecEntMsg :=
  ⟨secEntMsgTypeGetCert, hashedid8 ++ [0]⟩

def secEntMsgNewTypeGetAtCert : SecEntMsg :=
  ⟨secEntMsgTypeGetAt, []⟩

/-- The outcome of an exchange: nothing usable came, the entity reported a
    failure, or a message. -/
inductive SecEntReply
  | none
  | failure
  | msg (m : SecEntMsg)
  deriving DecidableEq

/-- What `send_recv_server` makes of what came over the socket. -/
def sendRecvServer (wire : Option SecEntMsg) : SecEntReply :=
  match wire with
  | none => .none
  | some m =>
    if m.data.length = 0 ∨ secEntMaxPayload < m.data.length then .none
    else if m.msgType = secEntMsgTypeFailure then .failure
    else .msg m

/-- The message of a reply, if there is one. -/
def SecEntReply.toOption : SecEntReply → Option SecEntMsg
  | .msg m => some m
  | _ => Option.none

variable {ω : Type}

/-- One exchange with the security entity. -/
def secEntProcess (env : Env ω) (req : SecEntMsg) (s : SSL ω) : SecEntReply × SSL ω :=
  let r := sendRecvServer (env.secEnt s.trace req)
  (r, s.note (.exchange req r.toOption))

/-- `IEEE1609_CERT_verify` on the certificate `c`: the certificate with its hash
    set if the entity accepts it. -/
def ieee1609CertVerify (env : Env ω) (c : Ieee1609Cert) (s : SSL ω) :
    Option (Option Ieee1609Cert × SSL ω) :=
  match secEntProcess env (secEntMsgNewTypeTlsVerifyCerts c.certData) s with
  | (.msg m, s') =>
    if m.msgType ≠ secEntMsgTypeTlsVerifyCerts then some (none, s')
    -- The copy of eight octets does not look at the length of the reply.
    else if m.data.length < hashedid8Len then none
    else some (some { c with hashedid8 := m.data.take hashedid8Len }, s')
  | (_, s') => some (none, s')

/-- `tls_construct_IEEE1609_CERT_cert_verify`: the body of a CertificateVerify,
    or `none` for a fatal error. -/
def tlsConstructIeee1609CertCertVerify (env : Env ω) (cert : Option Ieee1609Cert)
    (input : Bytes) (s : SSL ω) : Option Bytes × SSL ω :=
  match cert with
  | none => (none, sslFatal .internalError .internalError s)
  | some c =>
    match secEntProcess env
        (secEntMsgNewTypeTlsSignData s.ieee1609.psidThisSide c.hashedid8 input) s with
    | (.msg m, s') =>
      if m.msgType ≠ secEntMsgTypeTlsSignData then
        (none, sslFatal .internalError .internalError s')
      else (some m.data, s')
    | (_, s') => (none, sslFatal .internalError .internalError s')

/-- Store what a VERIFY_DATA reply says of the peer. Permissions that fill the
    buffer exactly are counted but not copied. -/
def storePeerId (data : Bytes) (r : SslIeee1609) : SslIeee1609 :=
  let ssp := data.drop 8
  { r with
    psidOtherSide := UInt64.ofNat (beVal (data.take 8))
    sspOtherSideLen := ssp.length
    sspOtherSide :=
      if 0 < ssp.length ∧ ssp.length < maxSspLen then r.sspOtherSide.store ssp
      else r.sspOtherSide }

/-- `tls_process_IEEE1609_CERT_cert_verify`. -/
def tlsProcessIeee1609CertCertVerify (env : Env ω) (cert : Option Ieee1609Cert)
    (verifyInput verifyData : Bytes) : Call (SSL ω) := fun s =>
  match cert with
  | none => sslFail .internalError .internalError s
  | some c =>
    match secEntProcess env
        (secEntMsgNewTypeTlsVerifyData c.hashedid8 verifyData verifyInput) s with
    | (.none, s') => sslFail .internalError .internalError s'
    | (.failure, s') => sslFail .insufficientSecurity .certificateVerifyFailed s'
    | (.msg m, s') =>
      if m.msgType ≠ secEntMsgTypeTlsVerifyData then sslFail .internalError .internalError s'
      else if m.data.length < 8 ∨ 8 + maxSspLen < m.data.length then
        sslFail .internalError .internalError s'
      else some (true, { s' with ieee1609 := storePeerId m.data s'.ieee1609 })

/-- `SSL_is_using_1609_client`. -/
def sslIsUsing1609Client (s : SSL ω) : Bool :=
  s.ieee1609.clnt.typeDecided = some .ieee1609Dot2

/-- `SSL_is_using_1609_server`. -/
def sslIsUsing1609Server (s : SSL ω) : Bool :=
  s.ieee1609.srv.typeDecided = some .ieee1609Dot2

/-- `SSL_is_using_1609_this_side`. -/
def sslIsUsing1609ThisSide (s : SSL ω) : Bool :=
  if s.server then sslIsUsing1609Server s else sslIsUsing1609Client s

/-- `SSL_is_using_1609_other_side`. -/
def sslIsUsing1609OtherSide (s : SSL ω) : Bool :=
  if s.server then sslIsUsing1609Client s else sslIsUsing1609Server s

/-- `SSL_is_RFC8902_supported`. -/
def sslIsRfc8902Supported (s : SSL ω) : Bool := s.ieee1609.rfc8902Support

/-- What `SSL_get_1609_psid_received` hands out. -/
structure PeerReport where
  psid : UInt64
  ssp : Bytes
  hashedid : Option Bytes
  deriving DecidableEq

/-- `SSL_get_1609_psid_received`. The inner `none` is the return value 0.
    `sspSet` says that the caller's pointer for the permissions is not null,
    `wantHash` that a place for the hash was given. When the hash cannot be
    had, the error path frees the caller's variable, which is undefined. -/
def sslGet1609PsidReceived (s : SSL ω) (sspSet wantHash : Bool) : Option (Option PeerReport) :=
  if s.ieee1609.psidOtherSide = 0 then some none
  else if sspSet then some none
  else
    let ssp := s.ieee1609.sspOtherSide.load s.ieee1609.sspOtherSideLen
    if wantHash then
      match s.session with
      | none => none
      | some sess =>
        match sess.peer with
        | none => none
        | some a =>
          match s.heap.read a with
          | none => none
          | some x =>
            match x.ieee1609 with
            | none => none
            | some c => some (some ⟨s.ieee1609.psidOtherSide, ssp, some c.hashedid8⟩)
    else some (some ⟨s.ieee1609.psidOtherSide, ssp, none⟩)

/-- What is handed out is what the record of the object holds, if it holds an identity. -/
theorem sslGet1609PsidReceived_some {s : SSL ω} {sspSet wantHash : Bool} {rep : PeerReport}
    (h : sslGet1609PsidReceived s sspSet wantHash = some (some rep)) :
    s.ieee1609.psidOtherSide ≠ 0 ∧ ∃ hash, rep = ⟨s.ieee1609.psidOtherSide,
      s.ieee1609.sspOtherSide.load s.ieee1609.sspOtherSideLen, hash⟩ := by
  unfold sslGet1609PsidReceived at h
  split at h
  · exact absurd h (by simp only [Option.some.injEq, reduceCtorEq, not_false_eq_true])
  · rename_i hz
    split at h
    · exact absurd h (by simp only [Option.some.injEq, reduceCtorEq, not_false_eq_true])
    · refine ⟨hz, ?_⟩
      simp only at h
      split at h
      · -- Every exit but the last is undefined.
        split at h
        · exact absurd h (by simp only [reduceCtorEq, not_false_eq_true])
        · split at h
          · exact absurd h (by simp only [reduceCtorEq, not_false_eq_true])
          · split at h
            · exact absurd h (by simp only [reduceCtorEq, not_false_eq_true])
            · split at h
              · exact absurd h (by simp only [reduceCtorEq, not_false_eq_true])
              · exact ⟨_, (Option.some.inj (Option.some.inj h)).symm⟩
      · exact ⟨_, (Option.some.inj (Option.some.inj h)).symm⟩

/-- Whether RFC 8902 is enabled depends on the switch only. -/
theorem supported_of_keeps {fs : List Field} {s t : SSL ω} (h : Keeps fs s t)
    (hfs : .support ∉ fs) : sslIsRfc8902Supported t = sslIsRfc8902Supported s :=
  congrArg Prod.fst (h.support hfs)

theorem secEntProcess_eq {env : Env ω} {req : SecEntMsg} {s s' : SSL ω} {r : SecEntReply}
    (h : secEntProcess env req s = (r, s')) : s' = s.note (.exchange req r.toOption) := by
  simp only [secEntProcess, Prod.mk.injEq] at h
  rw [← h.2, ← h.1]

theorem secEntProcess_msg {env : Env ω} {req m : SecEntMsg} {s s' : SSL ω}
    (h : secEntProcess env req s = (.msg m, s')) :
    m.data ≠ [] ∧ m.msgType ≠ secEntMsgTypeFailure ∧
      s' = s.note (.exchange req (some m)) := by
  have hs := secEntProcess_eq h
  simp only [secEntProcess, Prod.mk.injEq] at h
  rcases h with ⟨h, -⟩
  unfold sendRecvServer at h
  split at h
  · exact absurd h (by simp only [reduceCtorEq, not_false_eq_true])
  · split at h
    · exact absurd h (by simp only [reduceCtorEq, not_false_eq_true])
    · split at h
      · exact absurd h (by simp only [reduceCtorEq, not_false_eq_true])
      · rename_i hlen htype
        simp only [SecEntReply.msg.injEq] at h
        subst h
        refine ⟨?_, htype, hs⟩
        intro hnil
        exact hlen (Or.inl (by rw [hnil]; rfl))

/-- A certificate that was checked went through a VERIFY_CERTS exchange on its
    bytes, and its hash is the start of the reply. -/
theorem ieee1609CertVerify_some {env : Env ω} {c c' : Ieee1609Cert} {s s' : SSL ω}
    (h : ieee1609CertVerify env c s = some (some c', s')) :
    ∃ m, m.msgType = secEntMsgTypeTlsVerifyCerts ∧
      c' = { c with hashedid8 := m.data.take hashedid8Len } ∧
      s' = s.note (.exchange (secEntMsgNewTypeTlsVerifyCerts c.certData) (some m)) := by
  unfold ieee1609CertVerify at h
  split at h
  · rename_i m s'' hp
    split at h
    · exact absurd h (by simp only [Option.some.injEq, Prod.mk.injEq, reduceCtorEq, false_and,
        not_false_eq_true])
    · rename_i htype
      split at h
      · exact absurd h (by simp only [reduceCtorEq, not_false_eq_true])
      · simp only [Option.some.injEq, Prod.mk.injEq] at h
        refine ⟨m, by simpa only [ne_eq, Decidable.not_not] using htype, h.1.symm, ?_⟩
        rw [← h.2]
        exact (secEntProcess_msg hp).2.2
  · exact absurd h (by simp only [Option.some.injEq, Prod.mk.injEq, reduceCtorEq, false_and,
      not_false_eq_true])

/-- Whatever comes of it, checking a certificate adds one exchange to the
    record and changes nothing else. -/
theorem ieee1609CertVerify_note {env : Env ω} {c : Ieee1609Cert} {s s' : SSL ω}
    {r : Option Ieee1609Cert} (h : ieee1609CertVerify env c s = some (r, s')) :
    ∃ reply, s' = s.note (.exchange (secEntMsgNewTypeTlsVerifyCerts c.certData) reply) := by
  unfold ieee1609CertVerify at h
  split at h
  · rename_i m s'' hp
    have hs := secEntProcess_eq hp
    split at h
    · simp only [Option.some.injEq, Prod.mk.injEq] at h
      exact ⟨_, by rw [← h.2, hs]⟩
    · split at h
      · exact absurd h (by simp only [reduceCtorEq, not_false_eq_true])
      · simp only [Option.some.injEq, Prod.mk.injEq] at h
        exact ⟨_, by rw [← h.2, hs]⟩
  · rename_i hp
    simp only [Option.some.injEq, Prod.mk.injEq] at h
    exact ⟨_, by rw [← h.2, secEntProcess_eq hp]⟩

/-- A signature that was made is the payload of a SIGN_DATA reply, for this side's PSID, the
    certificate's hash and the data to be signed. -/
theorem tlsConstructIeee1609CertCertVerify_some {env : Env ω} {cert : Option Ieee1609Cert}
    {input body : Bytes} {s t : SSL ω}
    (h : tlsConstructIeee1609CertCertVerify env cert input s = (some body, t)) :
    ∃ c m, cert = some c ∧ m.msgType = secEntMsgTypeTlsSignData ∧ body = m.data ∧
      t = s.note (.exchange
        (secEntMsgNewTypeTlsSignData s.ieee1609.psidThisSide c.hashedid8 input) (some m)) := by
  cases cert with
  | none =>
      exact absurd (Prod.mk.inj h).1 (by simp only [reduceCtorEq, not_false_eq_true])
  | some c =>
      simp only [tlsConstructIeee1609CertCertVerify] at h
      split at h
      · rename_i m s' hp
        split at h
        · exact absurd (Prod.mk.inj h).1 (by simp only [reduceCtorEq, not_false_eq_true])
        · rename_i htype
          refine ⟨c, m, rfl, by simpa only [ne_eq, Decidable.not_not] using htype,
            (Option.some.inj (Prod.mk.inj h).1).symm, ?_⟩
          rw [← (Prod.mk.inj h).2]
          exact (secEntProcess_msg hp).2.2
      · exact absurd (Prod.mk.inj h).1 (by simp only [reduceCtorEq, not_false_eq_true])

/-- An accepted CertificateVerify went through a VERIFY_DATA exchange over the
    certificate's hash, the message and the data it signs, and what is stored
    of the peer is what the reply says. -/
theorem tlsProcessIeee1609CertCertVerify_true {env : Env ω} {cert : Option Ieee1609Cert}
    {verifyInput verifyData : Bytes} {s t : SSL ω}
    (h : tlsProcessIeee1609CertCertVerify env cert verifyInput verifyData s = some (true, t)) :
    ∃ c m, cert = some c ∧ m.msgType = secEntMsgTypeTlsVerifyData ∧
      8 ≤ m.data.length ∧ m.data.length ≤ 8 + maxSspLen ∧
      t = { s.note (.exchange (secEntMsgNewTypeTlsVerifyData c.hashedid8 verifyData verifyInput)
              (some m)) with ieee1609 := storePeerId m.data s.ieee1609 } := by
  cases cert with
  | none => exact absurd h (sslFail_ne_true _ _ _ _)
  | some c =>
    simp only [tlsProcessIeee1609CertCertVerify] at h
    split at h
    · exact absurd h (sslFail_ne_true _ _ _ _)
    · exact absurd h (sslFail_ne_true _ _ _ _)
    · -- No reply and a FAILURE are fatal, and so are another type and a length out of
      -- bounds.
      rename_i m s' hp
      split at h
      · exact absurd h (sslFail_ne_true _ _ _ _)
      · rename_i htype
        split at h
        · exact absurd h (sslFail_ne_true _ _ _ _)
        · rename_i hlen
          simp only [Option.some.injEq, Prod.mk.injEq, true_and] at h
          refine ⟨c, m, rfl, by simpa only [ne_eq, Decidable.not_not] using htype, by omega,
            by omega, ?_⟩
          rw [← h, secEntProcess_eq hp]
          rfl

theorem touches_tlsProcessIeee1609CertCertVerify (env : Env ω) (cert : Option Ieee1609Cert)
    (verifyInput verifyData : Bytes) :
    Call.Rel (Touches [.peerId, .trace])
      (tlsProcessIeee1609CertCertVerify env cert verifyInput verifyData) := by
  intro s b t h
  cases cert with
  | none => exact touches_sslFail _ _ _ s b t h
  | some c =>
    simp only [tlsProcessIeee1609CertCertVerify] at h
    -- After the exchange only the record differs; a fatal error adds nothing to that.
    have hnote : ∀ r, Touches [.peerId, .trace] s true (s.note (.exchange
        (secEntMsgNewTypeTlsVerifyData c.hashedid8 verifyData verifyInput) r)) := by
      intro r
      exact touches_mono (by decide) (touches_exchange s _ r)
    have hfail : ∀ r al reason, sslFail al reason (s.note (.exchange
        (secEntMsgNewTypeTlsVerifyData c.hashedid8 verifyData verifyInput) r)) = some (b, t) →
        Touches [.peerId, .trace] s b t :=
      fun r al reason hf => touches_trans (hnote r) (touches_sslFail _ al reason _ b t hf)
    split at h
    · rename_i hp
      rw [secEntProcess_eq hp] at h
      exact hfail _ _ _ h
    · rename_i hp
      rw [secEntProcess_eq hp] at h
      exact hfail _ _ _ h
    · rename_i m s' hp
      rw [secEntProcess_eq hp] at h
      split at h
      · exact hfail _ _ _ h
      · split at h
        · exact hfail _ _ _ h
        · simp only [Option.some.injEq, Prod.mk.injEq] at h
          rw [← h.1, ← h.2]
          refine touches_trans (hnote (some m)) (touches_update ?_ rfl rfl)
          constructor <;> intros <;> first | contradiction | rfl

end Iso21177
