import Iso21177.Ssl.SecEnt

/-!
# The Certificate-Type Extensions

A client lists the certificate types it can handle for each role, and the
server answers with the one it chose. The two extensions,
`server_certificate_type` and `client_certificate_type`, share their code; each
wrapper passes the role it is about.

Two things are easy to miss. An endpoint on which RFC 8902 was not enabled
returns failure from its parsers without raising a fatal error. And the parser
of `client_certificate_type` on a server first overwrites the verification mode
with `SSL_VERIFY_PEER`, whatever was configured and whatever follows.

## Main definitions

* `Role`: The role an extension is about.
* `sslSetVerify`: Setting the verification mode.
* `tlsParseCtosCertTypeExt`, `tlsParseStocCertTypeExt`: The shared parsers.
* `tlsConstructCtosCertTypeExt`, `tlsConstructStocCertTypeExt`: The shared
  constructors.
* `tlsParseCtosSrvTypeExt` and so on: The table's entries.

## Theorems

* `tlsParseCtosCertTypeExt_true`, `tlsParseStocCertTypeExt_true`: What a
  successful parse decides.
* `tlsParseCtosCertTypeExt_fatal`, `tlsParseStocCertTypeExt_fatal`: With RFC 8902 on, a
  parse that fails has raised a fatal error.
* `certType_decideType_self`, `certType_decideType_ne`: A decision is about its role.
* `touches_tlsParseCtosCertTypeExt`, `touches_tlsParseStocCertTypeExt`,
  `touches_tlsParseCtosClntTypeExt`: The fields the parsers may change.
-/

namespace Iso21177

open Packet

/-- The role whose certificates an extension is about. -/
inductive Role
  | srv
  | clnt
  deriving DecidableEq, Repr

/-- The extension's number. -/
def Role.extType : Role → Nat
  | .srv => 20
  | .clnt => 19

/-- `SSL_get_RFC8902_CERT_TYPE`. -/
def SslIeee1609.certType (rec : SslIeee1609) : Role → Rfc8902CertType
  | .srv => rec.srv
  | .clnt => rec.clnt

/-- Record a decision for a role. -/
def SslIeee1609.decide (rec : SslIeee1609) (r : Role) (c : CertificateType) : SslIeee1609 :=
  match r with
  | .srv => { rec with srv := { rec.srv with typeDecided := some c } }
  | .clnt => { rec with clnt := { rec.clnt with typeDecided := some c } }

/-- The mask has the bit of 1609.2 certificates. -/
def allows1609 (support : BitVec 32) : Bool := support &&& sslRfc89021609 ≠ 0

/-- The mask has the bit of X.509 certificates. -/
def allowsX509 (support : BitVec 32) : Bool := support &&& sslRfc8902X509 ≠ 0

variable {ω : Type}

/-- `SSL_VERIFY_PEER`. -/
def sslVerifyPeer : BitVec 32 := 1

/-- `SSL_VERIFY_FAIL_IF_NO_PEER_CERT`. -/
def sslVerifyFailIfNoPeerCert : BitVec 32 := 2

/-- `SSL_VERIFY_CLIENT_ONCE`. -/
def sslVerifyClientOnce : BitVec 32 := 4

/-- `SSL_VERIFY_POST_HANDSHAKE`. -/
def sslVerifyPostHandshake : BitVec 32 := 8

/-- `SSL_set_verify` without a callback. -/
def sslSetVerify (mode : BitVec 32) (s : SSL ω) : SSL ω := { s with verifyMode := mode }

/-- Record a decision and succeed. -/
def decideType (r : Role) (c : CertificateType) (s : SSL ω) : SSL ω :=
  { s with ieee1609 := s.ieee1609.decide r c }

/-- Choose from the list of a client: 1609.2 if both sides can, else X.509 if
    both sides can. -/
def chooseType (support : BitVec 32) (list : Bytes) : Option CertificateType :=
  if allows1609 support ∧ CertificateType.ieee1609Dot2.code ∈ list then some .ieee1609Dot2
  else if allowsX509 support ∧ CertificateType.x509.code ∈ list then some .x509
  else none

/-- `tls_parse_ctos_cert_type_ext`: the server reads the client's list. -/
def tlsParseCtosCertTypeExt (r : Role) (body : Bytes) : Call (SSL ω) := fun s =>
  -- Not enabled: failure, and no fatal error.
  if ¬ sslIsRfc8902Supported s then some (false, s)
  else
    match getNet 1 body with
    | none => sslFail .decodeError .internalError s
    | some (listLen, list) =>
      if list.length ≠ listLen then sslFail .decodeError .internalError s
      else
        match chooseType (s.ieee1609.certType r).support list with
        | some c => some (true, decideType r c s)
        | none => sslFail .decodeError .unsupportedCertType s

/-- `tls_parse_stoc_cert_type_ext`: the client reads the server's choice. -/
def tlsParseStocCertTypeExt (r : Role) (body : Bytes) : Call (SSL ω) := fun s =>
  if ¬ sslIsRfc8902Supported s then some (false, s)
  else
    match body with
    | [b] =>
      match chooseType (s.ieee1609.certType r).support [b] with
      | some c => some (true, decideType r c s)
      | none => sslFail .decodeError .unsupportedCertType s
    | _ => sslFail .decodeError .internalError s

/-- What a constructor does: fail, write an extension with this body, or write
    nothing. -/
inductive ExtReturn
  | fail
  | sent (body : Bytes)
  | notSent
  deriving DecidableEq

/-- `tls_construct_stoc_cert_type_ext`: the server sends its choice. If nothing
    is agreed something went very wrong. -/
def tlsConstructStocCertTypeExt (r : Role) (s : SSL ω) : ExtReturn × SSL ω :=
  if ¬ sslIsRfc8902Supported s then (.notSent, s)
  else
    match (s.ieee1609.certType r).typeDecided with
    | none => (.fail, sslFatal .internalError .internalError s)
    | some c => (.sent [c.code], s)

/-- The types of a mask, in the order they are listed. -/
def typeList (support : BitVec 32) : Bytes :=
  (if allowsX509 support then [CertificateType.x509.code] else []) ++
    (if allows1609 support then [CertificateType.ieee1609Dot2.code] else [])

/-- `tls_construct_ctos_cert_type_ext`: the client sends its list. -/
def tlsConstructCtosCertTypeExt (r : Role) (s : SSL ω) : ExtReturn × SSL ω :=
  if ¬ sslIsRfc8902Supported s then (.notSent, s)
  else
    let list := typeList (s.ieee1609.certType r).support
    (.sent (beBytes 1 list.length ++ list), s)

def tlsParseCtosSrvTypeExt (body : Bytes) : Call (SSL ω) := tlsParseCtosCertTypeExt .srv body

def tlsParseStocSrvTypeExt (body : Bytes) : Call (SSL ω) := tlsParseStocCertTypeExt .srv body

def tlsConstructStocSrvTypeExt (s : SSL ω) : ExtReturn × SSL ω :=
  tlsConstructStocCertTypeExt .srv s

def tlsConstructCtosSrvTypeExt (s : SSL ω) : ExtReturn × SSL ω :=
  tlsConstructCtosCertTypeExt .srv s

/-- The wrapper of the client's extension on a server sets the verification mode
    before anything else, so that a certificate is requested. -/
def tlsParseCtosClntTypeExt (body : Bytes) : Call (SSL ω) := fun s =>
  tlsParseCtosCertTypeExt .clnt body (sslSetVerify sslVerifyPeer s)

def tlsParseStocClntTypeExt (body : Bytes) : Call (SSL ω) := tlsParseStocCertTypeExt .clnt body

def tlsConstructStocClntTypeExt (s : SSL ω) : ExtReturn × SSL ω :=
  tlsConstructStocCertTypeExt .clnt s

def tlsConstructCtosClntTypeExt (s : SSL ω) : ExtReturn × SSL ω :=
  tlsConstructCtosCertTypeExt .clnt s

/-- The type chosen is allowed here and was named by the peer, the 1609 one first. -/
theorem chooseType_some {support : BitVec 32} {list : Bytes} {c : CertificateType}
    (h : chooseType support list = some c) :
    (c = .ieee1609Dot2 ∧ allows1609 support ∧ CertificateType.ieee1609Dot2.code ∈ list) ∨
      (c = .x509 ∧ allowsX509 support ∧ CertificateType.x509.code ∈ list) := by
  unfold chooseType at h
  split at h
  · rename_i hc
    rw [Option.some.injEq] at h
    exact Or.inl ⟨h.symm, hc⟩
  · split at h
    · rename_i hc
      rw [Option.some.injEq] at h
      exact Or.inr ⟨h.symm, hc⟩
    · exact absurd h (by simp only [reduceCtorEq, not_false_eq_true])

/-- A list that was accepted held what was decided. -/
theorem tlsParseCtosCertTypeExt_true {r : Role} {body : Bytes} {s t : SSL ω}
    (h : tlsParseCtosCertTypeExt r body s = some (true, t)) :
    sslIsRfc8902Supported s ∧ ∃ list c, getNet 1 body = some (list.length, list) ∧
      chooseType (s.ieee1609.certType r).support list = some c ∧ t = decideType r c s := by
  unfold tlsParseCtosCertTypeExt at h
  split at h
  · simp only [Option.some.injEq, Prod.mk.injEq, Bool.false_eq_true, false_and] at h
  · rename_i hsup
    split at h
    · exact absurd h (sslFail_ne_true _ _ _ _)
    · rename_i n list hget
      split at h
      · exact absurd h (sslFail_ne_true _ _ _ _)
      · rename_i hlen
        split at h
        · rename_i c hc
          simp only [Option.some.injEq, Prod.mk.injEq, true_and] at h
          refine ⟨Decidable.not_not.mp hsup, list, c, ?_, hc, h.symm⟩
          rw [hget, Decidable.not_not.mp hlen]
        · exact absurd h (sslFail_ne_true _ _ _ _)

/-- A choice that was accepted is one the mask allows. -/
theorem tlsParseStocCertTypeExt_true {r : Role} {body : Bytes} {s t : SSL ω}
    (h : tlsParseStocCertTypeExt r body s = some (true, t)) :
    sslIsRfc8902Supported s ∧ ∃ b c, body = [b] ∧
      chooseType (s.ieee1609.certType r).support [b] = some c ∧ t = decideType r c s := by
  unfold tlsParseStocCertTypeExt at h
  split at h
  · simp only [Option.some.injEq, Prod.mk.injEq, Bool.false_eq_true, false_and] at h
  · rename_i hsup
    split at h
    · rename_i b
      split at h
      · rename_i c hc
        simp only [Option.some.injEq, Prod.mk.injEq, true_and] at h
        exact ⟨Decidable.not_not.mp hsup, b, c, rfl, hc, h.symm⟩
      · exact absurd h (sslFail_ne_true _ _ _ _)
    · exact absurd h (sslFail_ne_true _ _ _ _)

/-- The decision is kept, and the mask of the side is as it was. -/
@[simp]
theorem certType_decideType_self (r : Role) (c : CertificateType) (s : SSL ω) :
    (decideType r c s).ieee1609.certType r = ⟨(s.ieee1609.certType r).support, some c⟩ := by
  cases r <;> rfl

/-- The other side is not decided by it. -/
theorem certType_decideType_ne {r r' : Role} (hne : r' ≠ r) (c : CertificateType) (s : SSL ω) :
    (decideType r c s).ieee1609.certType r' = s.ieee1609.certType r' := by
  cases r <;> cases r' <;> first | exact absurd rfl hne | rfl

theorem touches_decideType (r : Role) (c : CertificateType) (s : SSL ω) :
    Touches [.decided] s true (decideType r c s) := by
  refine touches_update ?_ rfl rfl
  cases r <;> constructor <;> intros <;> first | contradiction | rfl

theorem touches_tlsParseCtosCertTypeExt (r : Role) (body : Bytes) :
    Call.Rel (Touches [.decided]) (tlsParseCtosCertTypeExt r body : Call (SSL ω)) := by
  intro s b t h
  unfold tlsParseCtosCertTypeExt at h
  split at h
  · exact touches_same h
  · split at h
    · exact touches_sslFail _ _ _ s b t h
    · split at h
      · exact touches_sslFail _ _ _ s b t h
      · split at h
        · exact touches_some (touches_decideType r _ s) h
        · exact touches_sslFail _ _ _ s b t h

theorem touches_tlsParseStocCertTypeExt (r : Role) (body : Bytes) :
    Call.Rel (Touches [.decided]) (tlsParseStocCertTypeExt r body : Call (SSL ω)) := by
  intro s b t h
  unfold tlsParseStocCertTypeExt at h
  split at h
  · exact touches_same h
  · split at h
    · split at h
      · exact touches_some (touches_decideType r _ s) h
      · exact touches_sslFail _ _ _ s b t h
    · exact touches_sslFail _ _ _ s b t h

theorem touches_tlsParseCtosClntTypeExt (body : Bytes) :
    Call.Rel (Touches [.decided, .verifyMode]) (tlsParseCtosClntTypeExt body : Call (SSL ω)) := by
  intro s b t h
  have hset : Touches [.decided, .verifyMode] s true (sslSetVerify sslVerifyPeer s) := by
    exact touches_update (by constructor <;> intros <;> first | contradiction | rfl) rfl rfl
  exact touches_trans hset
    (touches_mono (by decide) (touches_tlsParseCtosCertTypeExt .clnt body _ b t h))

/-- A parser that fails has raised a fatal error if it is enabled, or one was there. -/
theorem tlsParseCtosCertTypeExt_fatal {r : Role} {body : Bytes} {s t : SSL ω}
    (hs : sslIsRfc8902Supported s = true ∨ s.Fatal)
    (h : tlsParseCtosCertTypeExt r body s = some (false, t)) : t.Fatal := by
  unfold tlsParseCtosCertTypeExt at h
  split at h
  · rename_i hsup
    rw [← (Prod.mk.inj (Option.some.inj h)).2]
    exact hs.resolve_left hsup
  · split at h
    · exact reports_sslFail _ _ s t h
    · split at h
      · exact reports_sslFail _ _ s t h
      · split at h
        · simp only [Option.some.injEq, Prod.mk.injEq, Bool.true_eq_false, false_and] at h
        · exact reports_sslFail _ _ s t h

/-- So does an answer that is refused. -/
theorem tlsParseStocCertTypeExt_fatal {r : Role} {body : Bytes} {s t : SSL ω}
    (hs : sslIsRfc8902Supported s = true ∨ s.Fatal)
    (h : tlsParseStocCertTypeExt r body s = some (false, t)) : t.Fatal := by
  unfold tlsParseStocCertTypeExt at h
  split at h
  · rename_i hsup
    rw [← (Prod.mk.inj (Option.some.inj h)).2]
    exact hs.resolve_left hsup
  · split at h
    · split at h
      · simp only [Option.some.injEq, Prod.mk.injEq, Bool.true_eq_false, false_and] at h
      · exact reports_sslFail _ _ s t h
    · exact reports_sslFail _ _ s t h

end Iso21177
