import Iso21177.Ssl.Config

/-!
# Choosing This Side's Certificate

In TLS 1.3 the certificate to show follows from the signature algorithm: the
first one both sides share for which a slot has a usable certificate and key.
The choice looks at keys and digests only. Whether the slot holds a 1609.2
certificate, and which kind was negotiated, plays no part in it.

The choice becomes the current slot, so after it the slot a client sends from
(`cert.key`) and the slot that signs (`tmp.cert`) are the same.

A client that has nothing to show notes it in `certReq`: 1 while a certificate
is to be sent, 2 for an empty list.

## Main definitions

* `sigalgUsable`, `findSigAlg`: What is usable.
* `tlsChooseSigalg`: Making the choice.
* `certCalls`, `certCallback`: The application's callback.
* `ssl3CheckClientCertificate`, `tlsPrepareClientCertificate`: The client's
  preparation after a CertificateRequest.
* `prepareFields`: What the preparation may change.

## Theorems

* `tlsChooseSigalg_cases`: What a choice comes to.
* `touches_tlsChooseSigalg`, `updates_ssl3CheckClientCertificate`,
  `touches_certCalls`, `touches_certCallback`, `updates_useClientCertCb`,
  `touches_sendNoCertificate`, `touches_tlsPrepareClientCertificate`: What each
  of them touches.
-/

namespace Iso21177

variable {ω : Type}

/-- `check_cert_usable`. -/
def checkCertUsable (env : Env ω) (s : SSL ω) (lu : SigalgLookup) (x : X509) (key : EvpPkey) :
    Bool :=
  env.digestSupported key lu && env.certSigalgAllowed x s.other

/-- The conditions `find_sig_alg` puts on an algorithm: not an old hash, not DSA
    or plain RSA, a certificate and key in its slot that can be used with it, and
    the right curve or a large enough key. -/
def sigalgUsable (env : Env ω) (s : SSL ω) (lu : SigalgLookup) : Bool :=
  !(lu.weakHash || lu.sig = .dsa || lu.sig = .rsa) && env.lookupMd lu s.other &&
    match (s.cert.pkeys lu.sigIdx).x509, (s.cert.pkeys lu.sigIdx).privatekey with
    | some x, some key =>
      checkCertUsable env s lu x key &&
        (if lu.sig = .ec then lu.curve.all (fun c => env.ecCurve key = c)
         else if lu.sig = .rsaPss then env.rsaPssMinKey key lu
         else true)
    | _, _ => false

/-- `find_sig_alg`: the first shared algorithm that can be used. -/
def findSigAlg (env : Env ω) (s : SSL ω) : Option SigalgLookup :=
  (env.rest s.other).sharedSigalgs.find? (sigalgUsable env s)

/-- The slot becomes the chosen and the current one. -/
def chooseSlot (i : PkeyIdx) (lu : SigalgLookup) (s : SSL ω) : SSL ω :=
  { s with
    cert := { s.cert with key := i }
    tmp := { s.tmp with cert := some i, sigalg := some lu } }

/-- `tls_choose_sigalg`. Finding none is an error only if the caller says so. -/
def tlsChooseSigalg (env : Env ω) (fatalerrs : Bool) : Call (SSL ω) := fun s =>
  let s' := { s with tmp := { s.tmp with cert := none, sigalg := none } }
  let notFound :=
    if fatalerrs then sslFail .handshakeFailure .noSuitableSignatureAlgorithm s'
    else some (true, s')
  if s.tls13 then
    match findSigAlg env s with
    | none => notFound
    | some lu => some (true, chooseSlot lu.sigIdx lu s')
  else
    match env.legacySigalg s.cert s.other with
    | .notNeeded => some (true, s')
    | .notFound => notFound
    | .found lu i => some (true, chooseSlot i lu s')

/-- `ssl3_check_client_certificate`. -/
def ssl3CheckClientCertificate (env : Env ω) : Call (SSL ω) :=
  Call.seq (tlsChooseSigalg env false)
    (fun s => some (s.tmp.sigalg.isSome && env.checkChain s.cert s.other, s))

/-- Calls made one after the other, whether they succeed or not. -/
def certCalls (env : Env ω) : List CertCall → SSL ω → Option (SSL ω)
  | [], s => some s
  | c :: cs, s =>
    match certCall env c s with
    | none => none
    | some (_, s') => certCalls env cs s'

/-- The certificate callback: its calls, whose results it may ignore, and its
    own answer. -/
def certCallback (env : Env ω) (reason : Reason) : Call (SSL ω) := fun s =>
  match env.certCb s.trace s.other with
  | none => some (true, s)
  | some (calls, ok) =>
    match certCalls env calls s with
    | none => none
    | some s' => if ok then some (true, s') else sslFail .internalError reason s'

/-- What the client certificate callback returns is set and checked again. -/
def useClientCertCb (env : Env ω) : Call (SSL ω) := fun s =>
  match env.clientCertCb s.trace s.other with
  | none => some (false, s)
  | some (x, key) =>
    Call.seq (sslUseCertificate env x)
      (Call.seq (sslUsePrivateKey key) (ssl3CheckClientCertificate env)) s

/-- Nothing to show: an empty list will be sent. -/
def sendNoCertificate (env : Env ω) : Call (SSL ω) := fun s =>
  runPhase env .digestCachedRecords [] { s with tmp := { s.tmp with certReq := 2 } }

/-- `tls_prepare_client_certificate`. -/
def tlsPrepareClientCertificate (env : Env ω) : Call (SSL ω) :=
  Call.seq (certCallback env .callbackFailed) (fun s =>
    match ssl3CheckClientCertificate env s with
    | none => none
    | some (true, s') => some (true, s')
    | some (false, s') =>
      match useClientCertCb env s' with
      | none => none
      | some (true, s'') => some (true, s'')
      | some (false, s'') => sendNoCertificate env s'')

section Frames

variable (env : Env ω)

/-- The choice: none that is fatal, none at all, or one of the slots. -/
theorem tlsChooseSigalg_cases {env : Env ω} {fatalerrs b : Bool} {s t : SSL ω}
    (h : tlsChooseSigalg env fatalerrs s = some (b, t)) :
    (fatalerrs = true ∧ sslFail .handshakeFailure .noSuitableSignatureAlgorithm
      { s with tmp := { s.tmp with cert := none, sigalg := none } } = some (b, t)) ∨
    t = { s with tmp := { s.tmp with cert := none, sigalg := none } } ∨
    ∃ i lu, t = chooseSlot i lu { s with tmp := { s.tmp with cert := none, sigalg := none } } := by
  have hset : ∀ {u : SSL ω}, some (true, u) = some (b, t) → t = u := by
    intro u hu
    exact (Prod.mk.inj (Option.some.inj hu)).2.symm
  -- Both versions treat a choice that was not found alike.
  have hnot : (if fatalerrs then sslFail .handshakeFailure .noSuitableSignatureAlgorithm
      { s with tmp := { s.tmp with cert := none, sigalg := none } }
      else some (true, { s with tmp := { s.tmp with cert := none, sigalg := none } })) =
      some (b, t) → (fatalerrs = true ∧ sslFail .handshakeFailure .noSuitableSignatureAlgorithm
        { s with tmp := { s.tmp with cert := none, sigalg := none } } = some (b, t)) ∨
      t = { s with tmp := { s.tmp with cert := none, sigalg := none } } := by
    intro hn
    cases fatalerrs with
    | true => exact Or.inl ⟨rfl, hn⟩
    | false => exact Or.inr (hset hn)
  simp only [tlsChooseSigalg] at h
  split at h
  · split at h
    · exact (hnot h).imp_right Or.inl
    · exact Or.inr (Or.inr ⟨_, _, hset h⟩)
  · split at h
    · exact Or.inr (Or.inl (hset h))
    · exact (hnot h).imp_right Or.inl
    · exact Or.inr (Or.inr ⟨_, _, hset h⟩)

/-- A choice that fails stops the connection only if it was to. -/
theorem touches_tlsChooseSigalg (fatalerrs : Bool) :
    Call.Rel (fun s b t => Touches [.cert, .choice] s (b || !fatalerrs) t)
      (tlsChooseSigalg env fatalerrs) := by
  intro s b t h
  have hnone : Touches [.cert, .choice] s true
      { s with tmp := { s.tmp with cert := none, sigalg := none } } :=
    touches_update (by constructor <;> intros <;> first | contradiction | rfl) rfl rfl
  rcases tlsChooseSigalg_cases h with ⟨rfl, hf⟩ | rfl | ⟨i, lu, rfl⟩
  · rw [Bool.not_true, Bool.or_false]
    exact touches_trans hnone (touches_sslFail _ _ _ _ b t hf)
  · exact touches_of_true _ hnone
  · exact touches_of_true _ (touches_update
      (by constructor <;> intros <;> first | contradiction | rfl) rfl rfl)

/-- The check of a client never stops the connection. -/
theorem updates_ssl3CheckClientCertificate :
    Updates [.cert, .choice] (ssl3CheckClientCertificate env) := by
  refine updates_seq (fun s b t h => ?_) (fun s b t h => ?_)
  · have ht := touches_tlsChooseSigalg env false s b t h
    rwa [Bool.not_false, Bool.or_true] at ht
  · rw [← (Prod.mk.inj (Option.some.inj h)).2]
    exact touches_refl _ s true

/-- What the application does in its callback. -/
theorem touches_certCalls (calls : List CertCall) {s t : SSL ω}
    (h : certCalls env calls s = some t) : Touches [.cert, .psidThis, .trace] s true t := by
  induction calls generalizing s with
  | nil =>
      simp only [certCalls, Option.some.injEq] at h
      rw [h]
      exact touches_refl _ t true
  | cons c calls ih =>
      simp only [certCalls] at h
      split at h
      · exact absurd h (by simp only [reduceCtorEq, not_false_eq_true])
      · rename_i b s' hc
        exact touches_trans (updates_certCall env c s b s' hc) (ih h)

theorem touches_certCallback (reason : Reason) :
    Call.Rel (Touches [.cert, .psidThis, .trace]) (certCallback env reason) := by
  intro s b t h
  unfold certCallback at h
  split at h
  · exact touches_same h
  · split at h
    · exact absurd h (by simp only [reduceCtorEq, not_false_eq_true])
    · rename_i s' hc
      have hs' := touches_certCalls env _ hc
      split at h
      · exact touches_some hs' h
      · exact touches_trans hs' (touches_sslFail _ _ _ s' b t h)

/-- The second callback, which leaves the record alone. -/
theorem updates_useClientCertCb : Updates [.cert, .choice] (useClientCertCb env) := by
  intro s b t h
  unfold useClientCertCb at h
  split at h
  · rw [← (Prod.mk.inj (Option.some.inj h)).2]
    exact touches_refl _ s true
  · rename_i x key _
    refine updates_seq ?_ (updates_seq ?_ (updates_ssl3CheckClientCertificate env)) s b t h
    · exact fun s b t hc => touches_mono (by decide) (updates_sslUseCertificate env x s b t hc)
    · exact fun s b t hc => touches_mono (by decide) (updates_sslSetPkey key s b t hc)

/-- The fields a client's preparation may change. -/
def prepareFields : List Field := [.cert, .psidThis, .trace, .choice, .certReq, .other]

/-- Going on without a certificate is noted for the message to come. -/
theorem touches_sendNoCertificate :
    Call.Rel (Touches [.certReq, .other]) (sendNoCertificate env) := by
  intro s b t h
  have hset : Touches [.certReq, .other] s true { s with tmp := { s.tmp with certReq := 2 } } :=
    touches_update (by constructor <;> intros <;> first | contradiction | rfl) rfl rfl
  exact touches_trans hset (touches_mono (by decide) (touches_runOther _ _ b t h))

/-- All a client changes when it prepares its Certificate. -/
theorem touches_tlsPrepareClientCertificate :
    Call.Rel (Touches prepareFields) (tlsPrepareClientCertificate env) := by
  refine touches_seq (touches_weaken (by decide) (touches_certCallback env _)) ?_
  intro s b t h
  beta_reduce at h
  split at h
  · exact absurd h (by simp only [reduceCtorEq, not_false_eq_true])
  · rename_i s' hc
    exact touches_some
      (touches_mono (by decide) (updates_ssl3CheckClientCertificate env s true s' hc)) h
  · rename_i s' hc
    -- Neither the check nor the second callback raises a fatal error.
    refine touches_trans
      (touches_mono (by decide) (updates_ssl3CheckClientCertificate env s false s' hc)) ?_
    split at h
    · exact absurd h (by simp only [reduceCtorEq, not_false_eq_true])
    · rename_i s'' hu
      exact touches_some
        (touches_mono (by decide) (updates_useClientCertCb env s' true s'' hu)) h
    · rename_i s'' hu
      exact touches_trans
        (touches_mono (by decide) (updates_useClientCertCb env s' false s'' hu))
        (touches_mono (by decide) (touches_sendNoCertificate env s'' b t h))

end Frames

end Iso21177
