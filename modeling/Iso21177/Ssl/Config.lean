import Iso21177.Ssl.CertType

/-!
# Configuring a Connection

The calls an application makes on a connection object before a handshake:
certificates and keys of its own, the 1609.2 identity, RFC 8902 support, and
clearing the object for another connection.

A 1609.2 certificate is stored in an ordinary slot. The slot gets a built-in
placeholder certificate with the real one attached to it, and when the
certificate is fetched by its hash also the private key of the placeholder,
which is compiled into the library. A slot is picked by the kind of key, so all
1609.2 certificates share the slot of RSA keys.

Clearing the object resets the state machine and the scratch record. It leaves
the certificate slots and the whole 1609.2 record as they are.

## Main definitions

* `x509CheckPrivateKey`, `sslSetPkey`, `sslSetCert`: Filling a slot.
* `sslUseCertificate`, `sslUsePrivateKey`: The calls for X.509.
* `sslUse1609Cert`, `sslUse1609CertByHash`, `sslUse1609Psid`: The calls for
  1609.2.
* `secEntInitialConnection`, `sslEnableRfc8902Support`: Enabling RFC 8902.
* `sslInBefore`, `sslClear`: Clearing the object.
* `certCall`: The calls by name.

## Theorems

* `updates_sslSetPkey`, `updates_sslUseCertificate`: Filling a slot touches the
  slots only.
* `touches_secEntProcess`: An exchange touches the record only.
* `updates_sslUse1609Cert`, `updates_sslUse1609CertByHash`,
  `updates_secEntInitialConnection`, `updates_sslEnableRfc8902Support`,
  `updates_certCall`: What the other calls touch.
* `sslEnableRfc8902Support_support`: The masks are set in any case.
-/

namespace Iso21177

variable {ω : Type}

/-- `X509_check_private_key`. -/
def x509CheckPrivateKey (x : X509) (key : EvpPkey) : Bool := x.pubkey = some key.pub

/-- `ssl_set_pkey`: a key that does not match the certificate of its slot is
    refused. -/
def sslSetPkey (key : EvpPkey) : Call (SSL ω) := fun s =>
  match key.pub.idx with
  | none => some (false, s)
  | some i =>
    let slot := s.cert.pkeys i
    if slot.x509.any (fun x => !x509CheckPrivateKey x key) then some (false, s)
    else some (true, { s with
      cert := { s.cert.setPkey i { slot with privatekey := some key } with key := i } })

/-- `ssl_set_cert`: a private key in the slot that does not match is dropped. -/
def sslSetCert (env : Env ω) (x : X509) : Call (SSL ω) := fun s =>
  match x.pubkey with
  | none => some (false, s)
  | some pub =>
    match pub.idx with
    | none => some (false, s)
    | some i =>
      if i = .ecc ∧ ¬ env.canSign pub then some (false, s)
      else
        let priv := (s.cert.pkeys i).privatekey.filter (x509CheckPrivateKey x)
        some (true, { s with cert := { s.cert.setPkey i ⟨some x, priv⟩ with key := i } })

/-- `SSL_use_PrivateKey`. -/
def sslUsePrivateKey (key : EvpPkey) : Call (SSL ω) := sslSetPkey key

/-- `SSL_use_certificate`. -/
def sslUseCertificate (env : Env ω) (x : X509) : Call (SSL ω) := fun s =>
  if env.securityCert x s.other then sslSetCert env x s else some (false, s)

/-- The hash of a certificate before one is set. -/
def noHash : Bytes := List.replicate hashedid8Len 0

/-- `X509_new_IEEE1609_CERT`: the placeholder with a certificate attached. No
    memory is had for an empty one. -/
def x509NewIeee1609Cert (data : Bytes) : Option X509 :=
  if data = [] then none else some ⟨.placeholder, some ⟨data, noHash⟩⟩

/-- `SSL_use_1609_cert`: the hash comes from the security entity. -/
def sslUse1609Cert (env : Env ω) (data : Bytes) : Call (SSL ω) := fun s =>
  match x509NewIeee1609Cert data with
  | none => some (false, s)
  | some x =>
    match ieee1609CertVerify env ⟨data, noHash⟩ s with
    | none => none
    | some (none, s') => some (false, s')
    | some (some c, s') => sslUseCertificate env { x with ieee1609 := some c } s'

/-- `SSL_use_1609_PSID`. -/
def sslUse1609Psid (psid : UInt64) : Call (SSL ω) :=
  Call.ret (fun s => { s with ieee1609 := { s.ieee1609 with psidThisSide := psid } })

/-- `SSL_use_1609_cert_by_hash`. The last octet of the reply is not part of the
    certificate. The key is set as well, since without one no CertificateVerify
    would be made. -/
def sslUse1609CertByHash (env : Env ω) (hashedid : Bytes) : Call (SSL ω) := fun s =>
  match secEntProcess env (secEntMsgNewTypeGetCert hashedid) s with
  | (.msg m, s') =>
    if m.msgType ≠ secEntMsgTypeGetCert then some (false, s')
    else
      match x509NewIeee1609Cert m.data.dropLast with
      | none => some (false, s')
      | some x =>
        Call.seq (sslUsePrivateKey keyDer)
          (sslUseCertificate env { x with ieee1609 := some ⟨m.data.dropLast, hashedid⟩ }) s'
  | (_, s') => some (false, s')

/-- `sec_ent_initial_connection`: ask for the current authorisation ticket and
    use it if wanted. -/
def secEntInitialConnection (env : Env ω) (useAt : Bool) : Call (SSL ω) := fun s =>
  match secEntProcess env secEntMsgNewTypeGetAtCert s with
  | (.msg m, s') =>
    if m.msgType ≠ secEntMsgTypeGetAt then some (false, s')
    else if useAt then
      if m.data.length < hashedid8Len then some (false, s')
      else sslUse1609CertByHash env (m.data.take hashedid8Len) s'
    else some (true, s')
  | (_, s') => some (false, s')

/-- `SSL_enable_RFC8902_support`. The switch and the masks are set before
    anything can fail. -/
def sslEnableRfc8902Support (env : Env ω) (serverSupport clientSupport : BitVec 32)
    (useAt : Bool) : Call (SSL ω) := fun s =>
  let s' := { s with ieee1609 := { s.ieee1609 with
    rfc8902Support := true
    srv := { s.ieee1609.srv with support := serverSupport }
    clnt := { s.ieee1609.clnt with support := clientSupport } } }
  if allows1609 serverSupport || allows1609 clientSupport then
    secEntInitialConnection env useAt s'
  else some (true, s')

/-- The calls that set this side's certificates and identity. -/
def certCall (env : Env ω) : CertCall → Call (SSL ω)
  | .useCertificate x => sslUseCertificate env x
  | .usePrivateKey key => sslUsePrivateKey key
  | .use1609Cert data => sslUse1609Cert env data
  | .use1609CertByHash hashedid => sslUse1609CertByHash env hashedid
  | .use1609Psid psid => sslUse1609Psid psid

/-- `SSL_in_before`. -/
def sslInBefore (s : SSL ω) : Bool :=
  s.statem.handState = .before && s.statem.state = .uninited

/-- `SSL_clear`. The session is given up only if the last connection was neither
    shut down nor left in the middle of a handshake. -/
def sslClear (env : Env ω) : Call (SSL ω) := fun s =>
  let rest := env.rest s.other
  let badSession := !rest.sentShutdown && !(s.statem.inInit || sslInBefore s)
  let s' := { s with
    session := if badSession then none else s.session
    helloRetryRequest := .none }
  if rest.renegotiate then some (false, s')
  else some (true, { s' with
    statem := ⟨.uninited, .before, true, none⟩
    tmp := S3Tmp.zero
    tls13 := false
    other := env.clear s.other
    trace := .clear :: s.trace })

/-- A key goes into a slot. -/
theorem updates_sslSetPkey (key : EvpPkey) :
    Updates [.cert] (sslSetPkey key : Call (SSL ω)) := by
  intro s b t h
  unfold sslSetPkey at h
  split at h
  · rw [← (Prod.mk.inj (Option.some.inj h)).2]
    exact touches_refl _ s true
  · simp only at h
    split at h
    · rw [← (Prod.mk.inj (Option.some.inj h)).2]
      exact touches_refl _ s true
    · rw [← (Prod.mk.inj (Option.some.inj h)).2]
      exact touches_update (by constructor <;> intros <;> first | contradiction | rfl) rfl rfl

/-- A certificate goes into a slot. -/
theorem updates_sslUseCertificate (env : Env ω) (x : X509) :
    Updates [.cert] (sslUseCertificate env x) := by
  intro s b t h
  unfold sslUseCertificate sslSetCert at h
  have hsame : ∀ {c}, some (c, s) = some (b, t) → Touches [.cert] s true t := by
    intro c hc
    rw [← (Prod.mk.inj (Option.some.inj hc)).2]
    exact touches_refl _ s true
  split at h
  · split at h
    · exact hsame h
    · split at h
      · exact hsame h
      · split at h
        · exact hsame h
        · rw [← (Prod.mk.inj (Option.some.inj h)).2]
          exact touches_update (by constructor <;> intros <;> first | contradiction | rfl) rfl rfl
  · exact hsame h

/-- An exchange with the entity is recorded. -/
theorem touches_secEntProcess {env : Env ω} {req : SecEntMsg} {r : SecEntReply} {s s' : SSL ω}
    (h : secEntProcess env req s = (r, s')) : Touches [.trace] s true s' := by
  rw [secEntProcess_eq h]
  exact touches_exchange s req r.toOption

/-- A certificate that is checked first adds the exchange to the record. -/
theorem updates_sslUse1609Cert (env : Env ω) (data : Bytes) :
    Updates [.cert, .trace] (sslUse1609Cert env data) := by
  intro s b t h
  unfold sslUse1609Cert at h
  split at h
  · rw [← (Prod.mk.inj (Option.some.inj h)).2]
    exact touches_refl _ s true
  · split at h
    · exact absurd h (by simp only [reduceCtorEq, not_false_eq_true])
    · rename_i hv
      rcases ieee1609CertVerify_note hv with ⟨reply, rfl⟩
      rw [← (Prod.mk.inj (Option.some.inj h)).2]
      exact touches_mono (by decide) (touches_exchange s _ reply)
    · rename_i hv
      rcases ieee1609CertVerify_note hv with ⟨reply, rfl⟩
      exact touches_trans (touches_mono (by decide) (touches_exchange s _ reply))
        (touches_mono (by decide) (updates_sslUseCertificate env _ _ b t h))

/-- So does one that is asked for by its hash. -/
theorem updates_sslUse1609CertByHash (env : Env ω) (hashedid : Bytes) :
    Updates [.cert, .trace] (sslUse1609CertByHash env hashedid) := by
  intro s b t h
  unfold sslUse1609CertByHash at h
  split at h
  · rename_i m s' hp
    have hs' : Touches [.cert, .trace] s true s' :=
      touches_mono (by decide) (touches_secEntProcess hp)
    split at h
    · rw [← (Prod.mk.inj (Option.some.inj h)).2]
      exact hs'
    · split at h
      · rw [← (Prod.mk.inj (Option.some.inj h)).2]
        exact hs'
      · exact touches_trans hs' (touches_mono (by decide)
          (updates_seq (updates_sslSetPkey keyDer) (updates_sslUseCertificate env _) s' b t h))
  · rename_i hp
    rw [← (Prod.mk.inj (Option.some.inj h)).2]
    exact touches_mono (by decide) (touches_secEntProcess hp)

theorem updates_secEntInitialConnection (env : Env ω) (useAt : Bool) :
    Updates [.cert, .trace] (secEntInitialConnection env useAt) := by
  intro s b t h
  unfold secEntInitialConnection at h
  split at h
  · rename_i m s' hp
    have hs' : Touches [.cert, .trace] s true s' :=
      touches_mono (by decide) (touches_secEntProcess hp)
    split at h
    · rw [← (Prod.mk.inj (Option.some.inj h)).2]
      exact hs'
    · split at h
      · split at h
        · rw [← (Prod.mk.inj (Option.some.inj h)).2]
          exact hs'
        · exact touches_trans hs' (updates_sslUse1609CertByHash env _ s' b t h)
      · rw [← (Prod.mk.inj (Option.some.inj h)).2]
        exact hs'
  · rename_i hp
    rw [← (Prod.mk.inj (Option.some.inj h)).2]
    exact touches_mono (by decide) (touches_secEntProcess hp)

theorem updates_sslEnableRfc8902Support (env : Env ω) (srv clnt : BitVec 32) (useAt : Bool) :
    Updates [.support, .cert, .trace] (sslEnableRfc8902Support env srv clnt useAt) := by
  intro s b t h
  simp only [sslEnableRfc8902Support] at h
  have hset : Touches [.support, .cert, .trace] s true
      { s with ieee1609 := { s.ieee1609 with
        rfc8902Support := true
        srv := { s.ieee1609.srv with support := srv }
        clnt := { s.ieee1609.clnt with support := clnt } } } :=
    touches_update (by constructor <;> intros <;> first | contradiction | rfl) rfl rfl
  split at h
  · exact touches_trans hset
      (touches_mono (by decide) (updates_secEntInitialConnection env useAt _ b t h))
  · rw [← (Prod.mk.inj (Option.some.inj h)).2]
    exact hset

/-- The switch and the masks are set whatever comes of the rest. -/
theorem sslEnableRfc8902Support_support (env : Env ω) {srv clnt : BitVec 32} {useAt : Bool}
    {s t : SSL ω} {b : Bool} (h : sslEnableRfc8902Support env srv clnt useAt s = some (b, t)) :
    t.support = (true, srv, clnt) := by
  simp only [sslEnableRfc8902Support] at h
  split at h
  · exact (updates_secEntInitialConnection env useAt _ b t h).support (by decide)
  · rw [← (Prod.mk.inj (Option.some.inj h)).2]
    rfl

/-- The calls that set certificates change slots, the identity and the record. -/
theorem updates_certCall (env : Env ω) (c : CertCall) :
    Updates [.cert, .psidThis, .trace] (certCall env c) := by
  intro s b t h
  cases c with
  | useCertificate x =>
      exact touches_mono (by decide) (updates_sslUseCertificate env x s b t h)
  | usePrivateKey key => exact touches_mono (by decide) (updates_sslSetPkey key s b t h)
  | use1609Cert data => exact touches_mono (by decide) (updates_sslUse1609Cert env data s b t h)
  | use1609CertByHash hid =>
      exact touches_mono (by decide) (updates_sslUse1609CertByHash env hid s b t h)
  | use1609Psid psid =>
      rw [← (Prod.mk.inj (Option.some.inj h)).2]
      exact touches_update (by constructor <;> intros <;> first | contradiction | rfl) rfl rfl

end Iso21177
