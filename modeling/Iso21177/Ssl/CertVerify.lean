import Iso21177.Ssl.Certificate
import Iso21177.Ssl.Sigalg

/-!
# CertificateVerify Messages

What is signed to prove possession of a certificate's key, and how such a
signature is made and checked. A side that uses 1609.2 sends what the security
entity signed as the whole body of the message. For X.509 the body names the
algorithm in front of the signature.

The certificate of a 1609.2 peer is verified a second time here, and the hash
the security entity returns replaces the one stored when the chain was verified.

## Main definitions

* `serverContext`, `clientContext`: Whose signature it is.
* `tls13Tbs`, `getCertVerifyTbsData`: The data to be signed.
* `tlsConstructCertVerify`: Signing.
* `tlsProcessCertVerify`: Checking a signature.
* `certVerifyFields`: What the check may change.

## Theorems

* `getCertVerifyTbsData_eq`: The data is had without a change, or not at all.
* `touches_getCertVerifyTbsData`, `touches_tlsConstructIeee1609CertCertVerify`,
  `touches_tlsConstructCertVerify`: What signing touches.
* `touches_process1609CertVerify`, `touches_processX509CertVerify`,
  `touches_tlsProcessCertVerify`: What checking touches.
-/

namespace Iso21177

open Packet

variable {ω : Type}

/-- The octets of "TLS 1.3, server CertificateVerify". -/
def serverContext : Bytes :=
  [0x54, 0x4c, 0x53, 0x20, 0x31, 0x2e, 0x33, 0x2c, 0x20, 0x73, 0x65, 0x72,
   0x76, 0x65, 0x72, 0x20, 0x43, 0x65, 0x72, 0x74, 0x69, 0x66, 0x69, 0x63, 0x61, 0x74, 0x65,
   0x56, 0x65, 0x72, 0x69, 0x66, 0x79]

/-- The octets of "TLS 1.3, client CertificateVerify". -/
def clientContext : Bytes :=
  [0x54, 0x4c, 0x53, 0x20, 0x31, 0x2e, 0x33, 0x2c, 0x20, 0x63, 0x6c, 0x69,
   0x65, 0x6e, 0x74, 0x20, 0x43, 0x65, 0x72, 0x74, 0x69, 0x66, 0x69, 0x63, 0x61, 0x74, 0x65,
   0x56, 0x65, 0x72, 0x69, 0x66, 0x79]

/-- `TLS13_TBS_START_SIZE`. -/
def tls13TbsStartSize : Nat := 64

/-- The data to be signed in TLS 1.3 by a server or by a client. -/
def tls13Tbs (byServer : Bool) (hash : Bytes) : Bytes :=
  List.replicate tls13TbsStartSize 32 ++ (if byServer then serverContext else clientContext) ++
    0 :: hash

/-- The handshake state is one of the server's signature, made or checked. -/
def HandState.serverSigns (st : HandState) : Bool := st = .crCertVrfy || st = .swCertVrfy

/-- The handshake state is one of a signature being checked. -/
def HandState.checksSignature (st : HandState) : Bool := st = .crCertVrfy || st = .srCertVrfy

/-- `get_cert_verify_tbs_data`, or `none` after a fatal error. Reading, the hash
    saved with the Certificate counts, since the transcript has the
    CertificateVerify in it by now. -/
def getCertVerifyTbsData (env : Env ω) (s : SSL ω) : Option Bytes × SSL ω :=
  if s.tls13 then
    let hash :=
      if s.statem.handState.checksSignature then some s.certVerifyHash
      else env.handshakeHash s.trace s.other
    match hash with
    | none => (none, sslFatal .internalError .internalError s)
    | some h => (some (tls13Tbs s.statem.handState.serverSigns h), s)
  else
    match env.handshakeBuffer s.trace s.other with
    | none => (none, sslFatal .internalError .internalError s)
    | some b => (some b, s)

/-- The body of a CertificateVerify for X.509: the algorithm where the version
    has it, and the signature behind its length. -/
def signatureBody (withSigalg : Bool) (lu : SigalgLookup) (sig : Bytes) : Option Bytes :=
  match putSub 2 sig with
  | none => none
  | some enc => some ((if withSigalg then beBytes 2 lu.sigalg else []) ++ enc)

/-- `tls_construct_cert_verify`. -/
def tlsConstructCertVerify (env : Env ω) (s : SSL ω) : Option (Built × SSL ω) :=
  match s.tmp.sigalg, s.tmp.cert with
  | some lu, some i =>
    match getCertVerifyTbsData env s with
    | (none, s') => some (none, s')
    | (some tbs, s') =>
      -- The security entity signs, with the certificate of the chosen slot and no key.
      if sslIsUsing1609ThisSide s' then
        match (s'.cert.pkeys i).x509 with
        | none => none
        | some x =>
          match tlsConstructIeee1609CertCertVerify env x.ieee1609 tbs s' with
          | (none, s'') => some (none, s'')
          | (some body, s'') => some (some (.certificateVerify body, .signer none), s'')
      else
        match (s'.cert.pkeys i).privatekey with
        | none => some (none, sslFatal .internalError .internalError s')
        | some key =>
          if !env.lookupMd lu s'.other then some (none, sslFatal .internalError .internalError s')
          else
            match env.digestSign key lu tbs s'.trace with
            | none => some (none, sslFatal .internalError .evpLib s')
            | some sig =>
              match signatureBody (s'.tls13 || (env.rest s'.other).useSigalgs) lu sig with
              | none => some (none, sslFatal .internalError .internalError s')
              | some body =>
                match runPhase env .digestCachedRecords [] s' with
                | none => none
                | some (false, s'') => some (none, s'')
                | some (true, s'') =>
                  some (some (.certificateVerify body, .signer (some key)), s'')
  | _, _ => some (none, sslFatal .internalError .internalError s)

/-- The check of a 1609.2 peer's signature: its certificate is verified again, and
    the whole body is the signature. -/
def process1609CertVerify (env : Env ω) (a : Nat) (body : Bytes) : Call (SSL ω) := fun s =>
  match s.heap.read a with
  | none => none
  | some x =>
    match x.ieee1609 with
    | none => sslFail .insufficientSecurity .internalError s
    | some c =>
      match ieee1609CertVerify env c s with
      | none => none
      | some (none, s') => sslFail .insufficientSecurity .internalError s'
      | some (some c', s') =>
        let s'' := { s' with heap := s'.heap.write a { x with ieee1609 := some c' } }
        match getCertVerifyTbsData env s'' with
        | (none, t) => some (false, t)
        | (some tbs, t) => tlsProcessIeee1609CertCertVerify env (some c') tbs body t

/-- The check of an X.509 peer's signature. -/
def processX509CertVerify (env : Env ω) (peer : Option X509) (body : Bytes) : Call (SSL ω) :=
  fun s =>
    match peer.bind X509.pubkey with
    | none => sslFail .internalError .internalError s
    | some k =>
      if k.idx.isNone then sslFail .illegalParameter .signatureForNonSigningCertificate s
      else
        match getCertVerifyTbsData env s with
        | (none, s') => some (false, s')
        | (some tbs, s') =>
          match env.checkCertVerify k body tbs s'.other with
          | some (al, reason) => sslFail al reason s'
          | none => some (true, s')

/-- `tls_process_cert_verify`, up to freeing the cached records at its end. -/
def tlsProcessCertVerify (env : Env ω) (body : Bytes) : Call (SSL ω) :=
  Call.seq
    (fun s =>
      match s.session with
      | none => none
      | some sess =>
        if sslIsUsing1609OtherSide s then
          match sess.peer with
          | none => none
          | some a => process1609CertVerify env a body s
        else
          match sess.peer with
          | none => processX509CertVerify env none body s
          | some a =>
            match s.heap.read a with
            | none => none
            | some x => processX509CertVerify env (some x) body s)
    (runPhase env (.process .certificateVerify) body)

section Frames

variable (env : Env ω)

/-- The data to be signed is had without a change, or not at all. -/
theorem getCertVerifyTbsData_eq {s t : SSL ω} {r : Option Bytes}
    (h : getCertVerifyTbsData env s = (r, t)) :
    (r.isSome = true ∧ t = s) ∨
      (r = none ∧ t = sslFatal .internalError .internalError s) := by
  unfold getCertVerifyTbsData at h
  split at h
  · simp only at h
    split at h
    · exact Or.inr ⟨(Prod.mk.inj h).1.symm, (Prod.mk.inj h).2.symm⟩
    · exact Or.inl ⟨by rw [← (Prod.mk.inj h).1]; rfl, (Prod.mk.inj h).2.symm⟩
  · split at h
    · exact Or.inr ⟨(Prod.mk.inj h).1.symm, (Prod.mk.inj h).2.symm⟩
    · exact Or.inl ⟨by rw [← (Prod.mk.inj h).1]; rfl, (Prod.mk.inj h).2.symm⟩

theorem touches_getCertVerifyTbsData {s t : SSL ω} {r : Option Bytes}
    (h : getCertVerifyTbsData env s = (r, t)) : Touches [] s r.isSome t := by
  rcases getCertVerifyTbsData_eq env h with ⟨-, rfl⟩ | ⟨rfl, rfl⟩
  · exact touches_refl _ t _
  · exact touches_sslFatal _ _ _ s

/-- Having the entity sign adds the exchange to the record. -/
theorem touches_tlsConstructIeee1609CertCertVerify {cert : Option Ieee1609Cert} {input : Bytes}
    {s t : SSL ω} {r : Option Bytes}
    (h : tlsConstructIeee1609CertCertVerify env cert input s = (r, t)) :
    Touches [.trace] s r.isSome t := by
  unfold tlsConstructIeee1609CertCertVerify at h
  split at h
  · rw [← (Prod.mk.inj h).1, ← (Prod.mk.inj h).2]
    exact touches_sslFatal _ _ _ s
  · split at h
    · rename_i hp
      have hs' := touches_secEntProcess hp
      split at h
      · rw [← (Prod.mk.inj h).1, ← (Prod.mk.inj h).2]
        exact touches_trans hs' (touches_sslFatal _ _ _ _)
      · rw [← (Prod.mk.inj h).1, ← (Prod.mk.inj h).2]
        exact hs'
    · rename_i hp
      rw [← (Prod.mk.inj h).1, ← (Prod.mk.inj h).2]
      exact touches_trans (touches_secEntProcess hp) (touches_sslFatal _ _ _ _)

/-- A signature is asked for or made, and nothing else changes. -/
theorem touches_tlsConstructCertVerify {s t : SSL ω} {r : Built}
    (h : tlsConstructCertVerify env s = some (r, t)) :
    Touches [.trace, .other] s r.isSome t := by
  unfold tlsConstructCertVerify at h
  split at h
  · split at h
    · rename_i ht
      rw [← (Prod.mk.inj (Option.some.inj h)).1, ← (Prod.mk.inj (Option.some.inj h)).2]
      exact touches_mono (by decide) (touches_getCertVerifyTbsData env ht)
    · rename_i tbs s' ht
      have hs' : Touches [.trace, .other] s true s' :=
        touches_mono (by decide) (touches_getCertVerifyTbsData env ht)
      refine touches_trans hs' ?_
      split at h
      · split at h
        · exact absurd h (by simp only [reduceCtorEq, not_false_eq_true])
        · split at h
          · rename_i hc
            rw [← (Prod.mk.inj (Option.some.inj h)).1, ← (Prod.mk.inj (Option.some.inj h)).2]
            exact touches_mono (by decide) (touches_tlsConstructIeee1609CertCertVerify env hc)
          · rename_i hc
            have ht := touches_tlsConstructIeee1609CertCertVerify env hc
            rw [← (Prod.mk.inj (Option.some.inj h)).1, ← (Prod.mk.inj (Option.some.inj h)).2]
            exact touches_mono (by decide) ht
      · -- Every exit of the X.509 branch but the last is a fatal error.
        have hfatal : ∀ al reason, some (none, sslFatal al reason s') = some (r, t) →
            Touches [.trace, .other] s' r.isSome t := by
          intro al reason hf
          rw [← (Prod.mk.inj (Option.some.inj hf)).1, ← (Prod.mk.inj (Option.some.inj hf)).2]
          exact touches_sslFatal _ _ _ s'
        split at h
        · exact hfatal _ _ h
        · split at h
          · exact hfatal _ _ h
          · split at h
            · exact hfatal _ _ h
            · split at h
              · exact hfatal _ _ h
              · split at h
                · exact absurd h (by simp only [reduceCtorEq, not_false_eq_true])
                · rename_i hp
                  rw [← (Prod.mk.inj (Option.some.inj h)).1,
                    ← (Prod.mk.inj (Option.some.inj h)).2]
                  exact touches_mono (by decide) (touches_runOther _ _ _ _ hp)
                · rename_i hp
                  rw [← (Prod.mk.inj (Option.some.inj h)).1,
                    ← (Prod.mk.inj (Option.some.inj h)).2]
                  exact touches_mono (by decide) (touches_runOther _ _ _ _ hp)
  · rw [← (Prod.mk.inj (Option.some.inj h)).1, ← (Prod.mk.inj (Option.some.inj h)).2]
    exact touches_sslFatal _ _ _ s

/-- The fields the check of a signature may change. -/
def certVerifyFields : List Field := [.heap, .peerId, .trace, .other]

/-- Checking a signature of the entity may tell who the peer is. -/
theorem touches_process1609CertVerify (a : Nat) (body : Bytes) :
    Call.Rel (Touches certVerifyFields) (process1609CertVerify env a body) := by
  intro s b t h
  unfold process1609CertVerify at h
  split at h
  · exact absurd h (by simp only [reduceCtorEq, not_false_eq_true])
  · split at h
    · exact touches_sslFail _ _ _ s b t h
    · split at h
      · exact absurd h (by simp only [reduceCtorEq, not_false_eq_true])
      · rename_i hv
        rcases ieee1609CertVerify_note hv with ⟨reply, rfl⟩
        exact touches_trans (touches_mono (by decide) (touches_exchange s _ reply))
          (touches_sslFail _ _ _ _ b t h)
      · rename_i x _ _ c _ _ c' s' hv
        -- The hash the entity returns is written into the stored certificate.
        have hs' : Touches certVerifyFields s true
            { s' with heap := s'.heap.write a { x with ieee1609 := some c' } } := by
          rcases ieee1609CertVerify_note hv with ⟨reply, rfl⟩
          exact touches_trans (touches_mono (by decide) (touches_exchange s _ reply))
            (touches_mono (by decide) (touches_heap _ _ true))
        refine touches_trans hs' ?_
        simp only at h
        split at h
        · rename_i ht
          rw [← (Prod.mk.inj (Option.some.inj h)).1, ← (Prod.mk.inj (Option.some.inj h)).2]
          exact touches_mono (by decide) (touches_getCertVerifyTbsData env ht)
        · rename_i tbs u ht
          exact touches_trans (touches_mono (by decide) (touches_getCertVerifyTbsData env ht))
            (touches_mono (by decide)
              (touches_tlsProcessIeee1609CertCertVerify env _ _ _ u b t h))

/-- Checking one with the key of an X.509 certificate changes nothing. -/
theorem touches_processX509CertVerify (peer : Option X509) (body : Bytes) :
    Call.Rel (Touches []) (processX509CertVerify env peer body) := by
  intro s b t h
  unfold processX509CertVerify at h
  split at h
  · exact touches_sslFail _ _ _ s b t h
  · split at h
    · exact touches_sslFail _ _ _ s b t h
    · split at h
      · rename_i ht
        rw [← (Prod.mk.inj (Option.some.inj h)).1, ← (Prod.mk.inj (Option.some.inj h)).2]
        exact touches_getCertVerifyTbsData env ht
      · rename_i tbs s' ht
        refine touches_trans (touches_getCertVerifyTbsData env ht) ?_
        split at h
        · exact touches_sslFail _ _ _ s' b t h
        · exact touches_same h

theorem touches_tlsProcessCertVerify (body : Bytes) :
    Call.Rel (Touches certVerifyFields) (tlsProcessCertVerify env body) := by
  refine touches_seq (fun s b t h => ?_) (touches_weaken (by decide) (touches_runOther _))
  beta_reduce at h
  split at h
  · exact absurd h (by simp only [reduceCtorEq, not_false_eq_true])
  · split at h
    · split at h
      · exact absurd h (by simp only [reduceCtorEq, not_false_eq_true])
      · exact touches_process1609CertVerify env _ body s b t h
    · split at h
      · exact touches_mono (by decide) (touches_processX509CertVerify env none body s b t h)
      · split at h
        · exact absurd h (by simp only [reduceCtorEq, not_false_eq_true])
        · exact touches_mono (by decide) (touches_processX509CertVerify env _ body s b t h)

end Frames

end Iso21177
