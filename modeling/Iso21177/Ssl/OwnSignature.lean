import Iso21177.Ssl.OwnKind

/-!
# This Side's Signature

What a side that uses 1609.2 signs with. The security entity signs, for the hash the
certificate is known by. A certificate gets its hash in one of two ways: the security
entity answers with it when it checks the certificate, or it is the hash the certificate
was asked for by (`HashBound`). Both are exchanges of the record.

An object whose certificates were all set by the calls for 1609.2 has them in the slot of
RSA keys, each with a hash it is bound to (`ownBound_run`). So the slot that signs is the
slot that was shown, and the signature is for the first entry of the Certificate that
was sent just before (`signature_bound`).

## Main definitions

* `HashBound`: A certificate and the hash it got from the security entity.
* `OwnBound`: The slots hold bound certificates only.
* `Acquires`: What slots hold was kept, or is bound.
* `SlotBound`: A slot that holds such a certificate.
* `CertCall.is1609`, `Event.only1609`, `Only1609`: Only the calls for 1609.2 are made.
* `Acquiring`: A call after which what slots hold was kept, or is bound.
* `ticketClient`: A client with a ticket.

## Theorems

* `hashBound_mono`, `hashBound_of_cons`, `slotBound_mono`: A record that grows keeps what is
  bound.
* `acquires_of_cert`, `acquires_refl`, `acquires_trans`, `acquires_note`,
  `acquires_of_touches`, `acquires_checkFatal`, `acquires_ite_checkFatal`, `acquires_seq`,
  `acquires_rel`, `acquires_same`: Calls one after the other.
* `acquires_sslSetPkey`, `acquires_sslUseCertificate`, `acquires_sslUse1609Cert`,
  `acquires_sslUse1609CertByHash`, `acquires_secEntInitialConnection`, `acquires_certCall`,
  `acquires_configCall`: The calls of the application.
* `acquires_certCalls`, `acquires_certCallback`, `acquires_tlsChooseSigalg`,
  `acquires_ssl3CheckClientCertificate`, `acquires_tlsPrepareClientCertificate`,
  `acquires_processRequest`, `acquires_prepareIfAsked`, `acquires_tlsPostProcessClientHello`,
  `acquires_processMessage`, `acquires_readEvent`, `acquires_writeEvent`, `acquires_sslClear`,
  `acquires_step`: The state machine.
* `ownBound_of_acquires`, `ownBound_run`: The slots of every run.
* `writeTransition_ownVerify`: A CertificateVerify directly follows the Certificate.
* `getCertVerifyTbsData_own`: What is signed.
* `leaf_of_signer`, `entries_head`: The certificate that signs is the first entry.
* `only1609_ticketEnv`, `signature_bound`, `signature_bound_ticket`: What the signature is for.
-/

namespace Iso21177

variable {ω : Type}

/-- The hash the certificate is known by: the start of the reply to a VERIFY_CERTS for its
    octets, or the hash its octets were fetched by. -/
def HashBound (tr : List Obs) (c : Ieee1609Cert) : Prop :=
  (∃ r, r.msgType = secEntMsgTypeTlsVerifyCerts ∧ c.hashedid8 = r.data.take hashedid8Len ∧
    .exchange (secEntMsgNewTypeTlsVerifyCerts c.certData) (some r) ∈ tr) ∨
  (∃ r, r.msgType = secEntMsgTypeGetCert ∧ c.certData = r.data.dropLast ∧
    .exchange (secEntMsgNewTypeGetCert c.hashedid8) (some r) ∈ tr)

/-- The slot holds a 1609.2 certificate with its hash. -/
def SlotBound (tr : List Obs) (p : CertPkey) : Prop :=
  ∃ x c, p.x509 = some x ∧ x.ieee1609 = some c ∧ HashBound tr c

/-- Only the slot of RSA keys holds a certificate, and it is one with its hash. -/
def OwnBound (s : SSL ω) : Prop :=
  ∀ i, (s.cert.pkeys i).x509 = none ∨ (i = .rsa ∧ SlotBound s.trace (s.cert.pkeys i))

/-- The record grows, and what a slot holds was there before, or is a 1609.2 certificate with
    its hash. -/
structure Acquires (s t : SSL ω) : Prop where
  trace : s.trace ⊆ t.trace
  slots : ∀ i, (t.cert.pkeys i).x509 = (s.cert.pkeys i).x509 ∨
    (i = .rsa ∧ SlotBound t.trace (t.cert.pkeys i))

/-- The calls for 1609.2. -/
def CertCall.is1609 : CertCall → Bool
  | .useCertificate _ | .usePrivateKey _ => false
  | .use1609Cert _ | .use1609CertByHash _ | .use1609Psid _ => true

/-- No certificate is set by a call that is not for 1609.2. -/
def Event.only1609 : Event → Bool
  | .config (.own c) => c.is1609
  | _ => true

/-- The callbacks of the application set no certificate by other calls either. -/
structure Only1609 (env : Env ω) : Prop where
  certCb : ∀ tr o calls ok, env.certCb tr o = some (calls, ok) → ∀ c ∈ calls, c.is1609 = true
  clientCertCb : ∀ tr o, env.clientCertCb tr o = none

/-- What the entity has said it has still said later. -/
theorem hashBound_mono {tr tr' : List Obs} {c : Ieee1609Cert} (hsub : tr ⊆ tr')
    (h : HashBound tr c) : HashBound tr' c := by
  rcases h with ⟨r, htype, hhash, hmem⟩ | ⟨r, htype, hdata, hmem⟩
  · exact Or.inl ⟨r, htype, hhash, hsub hmem⟩
  · exact Or.inr ⟨r, htype, hdata, hsub hmem⟩

/-- A message that was sent binds nothing. -/
theorem hashBound_of_cons {m : Msg} {src : Source} {tr : List Obs} {c : Ieee1609Cert}
    (h : HashBound (.sent m src :: tr) c) : HashBound tr c := by
  rcases h with ⟨r, htype, hhash, hmem⟩ | ⟨r, htype, hdata, hmem⟩
  · exact Or.inl ⟨r, htype, hhash, (List.mem_cons.mp hmem).resolve_left Obs.noConfusion⟩
  · exact Or.inr ⟨r, htype, hdata, (List.mem_cons.mp hmem).resolve_left Obs.noConfusion⟩

/-- The same of what is in a slot, whatever becomes of its key. -/
theorem slotBound_mono {tr tr' : List Obs} {p p' : CertPkey} (hsub : tr ⊆ tr')
    (hp : p'.x509 = p.x509) (h : SlotBound tr p) : SlotBound tr' p' := by
  rcases h with ⟨x, c, hx, hc, hb⟩
  exact ⟨x, c, by rw [hp, hx], hc, hashBound_mono hsub hb⟩

/-- The invariant goes through a call that takes certificates from the entity only. -/
theorem ownBound_of_acquires {s t : SSL ω} (hs : OwnBound s) (h : Acquires s t) : OwnBound t := by
  intro i
  rcases h.slots i with hsame | hnew
  · rcases hs i with hnone | ⟨hi, hb⟩
    · exact Or.inl (by rw [hsame, hnone])
    · exact Or.inr ⟨hi, slotBound_mono h.trace hsame hb⟩
  · exact Or.inr hnew

/-- A call that leaves the slots alone. -/
theorem acquires_of_cert {s t : SSL ω} (hcert : t.cert.pkeys = s.cert.pkeys)
    (htr : s.trace ⊆ t.trace) : Acquires s t :=
  ⟨htr, fun i => Or.inl (by rw [hcert])⟩

theorem acquires_refl (s : SSL ω) : Acquires s s :=
  acquires_of_cert rfl (List.Subset.refl _)

/-- What the first call took from the entity is still in the record after the second. -/
theorem acquires_trans {s t u : SSL ω} (hst : Acquires s t) (htu : Acquires t u) :
    Acquires s u := by
  refine ⟨List.Subset.trans hst.trace htu.trace, fun i => ?_⟩
  rcases htu.slots i with hsame | hnew
  · rcases hst.slots i with hsame' | ⟨hi, hb⟩
    · exact Or.inl (by rw [hsame, hsame'])
    · exact Or.inr ⟨hi, slotBound_mono htu.trace hsame hb⟩
  · exact Or.inr hnew

/-- An entry of the record takes nothing from it. -/
theorem acquires_note (s : SSL ω) (o : Obs) : Acquires s (s.note o) :=
  acquires_of_cert rfl (List.subset_cons_self ..)

/-- A call that leaves the certificates alone. -/
theorem acquires_of_touches {fs : List Field} {s t : SSL ω} {b : Bool} (h : Touches fs s b t)
    (hfs : .cert ∉ fs) : Acquires s t := by
  rcases h.grows with ⟨l, hl, -⟩
  refine acquires_of_cert (by rw [h.cert hfs]) ?_
  rw [hl]
  exact List.subset_append_right _ _

theorem acquires_checkFatal (s : SSL ω) : Acquires s (checkFatal s) :=
  acquires_of_touches (touches_sslFatal [] _ _ s) (by decide)

/-- A call after which a failure is noted. -/
theorem acquires_ite_checkFatal {s v : SSL ω} {b : Bool} (h : Acquires s v) :
    Acquires s (if b then v else checkFatal v) := by
  split
  · exact h
  · exact acquires_trans h (acquires_checkFatal v)

/-- A call after which what a slot holds was kept or is bound. -/
abbrev Acquiring (c : Call (SSL ω)) : Prop := Call.Rel (fun s _ t => Acquires s t) c

/-- Two calls in a row. -/
theorem acquires_seq {c d : Call (SSL ω)} (hc : Acquiring c) (hd : Acquiring d) :
    Acquiring (Call.seq c d) :=
  Call.rel_seq (R := fun s _ t => Acquires s t) (fun _ _ _ _ hst htu => acquires_trans hst htu)
    hc hd

/-- A call that is known by the fields it changes. -/
theorem acquires_rel {fs : List Field} {c : Call (SSL ω)} (hc : Call.Rel (Touches fs) c)
    (hfs : .cert ∉ fs) : Acquiring c :=
  fun s b t h => acquires_of_touches (hc s b t h) hfs

/-- A call that ends where it is known what was acquired. -/
theorem acquires_same {s t u : SSL ω} {b c : Bool} (heq : some (c, t) = some (b, u))
    (h : Acquires s t) : Acquires s u := by
  rw [← (Prod.mk.inj (Option.some.inj heq)).2]
  exact h

section Calls

variable (env : Env ω)

/-- Setting a key changes no certificate. -/
theorem acquires_sslSetPkey (key : EvpPkey) : Acquiring (sslSetPkey key : Call (SSL ω)) := by
  intro s b t h
  unfold sslSetPkey at h
  split at h
  · exact acquires_same h (acquires_refl s)
  · simp only at h
    split at h
    · exact acquires_same h (acquires_refl s)
    · rename_i i _ _
      refine acquires_same h ⟨List.Subset.refl _, fun j => Or.inl ?_⟩
      simp only [Cert.setPkey]
      by_cases hj : j = i
      · rw [if_pos hj, hj]
      · rw [if_neg hj]

/-- Setting a placeholder with a bound certificate. -/
theorem acquires_sslUseCertificate {c : Ieee1609Cert} {s t : SSL ω} {b : Bool}
    (hc : HashBound s.trace c)
    (h : sslUseCertificate env ⟨.placeholder, some c⟩ s = some (b, t)) : Acquires s t := by
  simp only [sslUseCertificate, sslSetCert, X509.pubkey, PublicKey.idx] at h
  split at h
  · split at h
    · exact acquires_same h (acquires_refl s)
    · refine acquires_same h ⟨List.Subset.refl _, fun j => ?_⟩
      simp only [Cert.setPkey]
      by_cases hj : j = .rsa
      · exact Or.inr ⟨hj, ⟨.placeholder, some c⟩, c, by rw [if_pos hj], rfl, hc⟩
      · exact Or.inl (by rw [if_neg hj])
  · exact acquires_same h (acquires_refl s)

/-- The hash is the one of the reply that confirmed the certificate. -/
theorem acquires_sslUse1609Cert (data : Bytes) : Acquiring (sslUse1609Cert env data) := by
  intro s b t h
  unfold sslUse1609Cert x509NewIeee1609Cert at h
  split at h
  · exact acquires_same h (acquires_refl s)
  · rename_i x hx
    split at h
    · exact absurd h (by simp only [reduceCtorEq, not_false_eq_true])
    · rename_i s' hv
      rcases ieee1609CertVerify_note hv with ⟨reply, rfl⟩
      exact acquires_same h (acquires_note s _)
    · rename_i c s' hv
      rcases ieee1609CertVerify_some hv with ⟨m, htype, rfl, rfl⟩
      split at hx
      · exact absurd hx (by simp only [reduceCtorEq, not_false_eq_true])
      · rw [← Option.some.inj hx] at h
        refine acquires_trans (acquires_note s _) (acquires_sslUseCertificate env ?_ h)
        exact Or.inl ⟨m, htype, rfl, List.mem_cons_self ..⟩

/-- The hash is the one the certificate was asked for by. -/
theorem acquires_sslUse1609CertByHash (hashedid : Bytes) :
    Acquiring (sslUse1609CertByHash env hashedid) := by
  intro s b t h
  unfold sslUse1609CertByHash at h
  split at h
  · rename_i m s' hp
    have hs' := (secEntProcess_msg hp).2.2
    have hnote : Acquires s s' := by
      rw [hs']
      exact acquires_note s _
    split at h
    · exact acquires_same h hnote
    · rename_i htype
      unfold x509NewIeee1609Cert at h
      split at h
      · exact acquires_same h hnote
      · rename_i x hx
        split at hx
        · exact absurd hx (by simp only [reduceCtorEq, not_false_eq_true])
        · rw [← Option.some.inj hx] at h
          refine acquires_trans hnote ?_
          -- The key comes first, and leaves the exchange in the record.
          have hbound : ∀ u : SSL ω, Acquires s' u →
              HashBound u.trace ⟨m.data.dropLast, hashedid⟩ := by
            intro u hu
            refine Or.inr ⟨m, by simpa only [ne_eq, Decidable.not_not] using htype, rfl, ?_⟩
            apply hu.trace
            rw [hs']
            exact List.mem_cons_self ..
          cases b with
          | true =>
              rcases Call.seq_true.mp h with ⟨u, hkey, hcert⟩
              have hu := acquires_sslSetPkey keyDer s' true u hkey
              exact acquires_trans hu (acquires_sslUseCertificate env (hbound u hu) hcert)
          | false =>
              rcases Call.seq_false.mp h with hkey | ⟨u, hkey, hcert⟩
              · exact acquires_sslSetPkey keyDer s' false t hkey
              · have hu := acquires_sslSetPkey keyDer s' true u hkey
                exact acquires_trans hu (acquires_sslUseCertificate env (hbound u hu) hcert)
  · rename_i hp
    rw [secEntProcess_eq hp] at h
    exact acquires_same h (acquires_note s _)

/-- The hash is the one the entity named as current. -/
theorem acquires_secEntInitialConnection (useAt : Bool) :
    Acquiring (secEntInitialConnection env useAt) := by
  intro s b t h
  unfold secEntInitialConnection at h
  split at h
  · rename_i m s' hp
    have hnote : Acquires s s' := by
      rw [secEntProcess_eq hp]
      exact acquires_note s _
    split at h
    · exact acquires_same h hnote
    · split at h
      · split at h
        · exact acquires_same h hnote
        · exact acquires_trans hnote (acquires_sslUse1609CertByHash env _ s' b t h)
      · exact acquires_same h hnote
  · rename_i hp
    rw [secEntProcess_eq hp] at h
    exact acquires_same h (acquires_note s _)

theorem acquires_certCall {c : CertCall} (hc : c.is1609 = true) : Acquiring (certCall env c) := by
  cases c with
  | useCertificate x => exact absurd hc Bool.false_ne_true
  | usePrivateKey key => exact absurd hc Bool.false_ne_true
  | use1609Cert data => exact acquires_sslUse1609Cert env data
  | use1609CertByHash hashedid => exact acquires_sslUse1609CertByHash env hashedid
  | use1609Psid psid =>
      exact Call.rel_ret (fun s => acquires_of_cert rfl (List.Subset.refl _))

/-- Of the calls that configure, those that set a certificate set a 1609 one. -/
theorem acquires_configCall {c : ConfigCall} (hc : Event.only1609 (.config c) = true) :
    Acquiring (configCall env c) := by
  cases c with
  | enableRfc8902Support srv clnt useAt =>
      intro s b t h
      simp only [configCall, sslEnableRfc8902Support] at h
      split at h
      · have ht := acquires_secEntInitialConnection env useAt _ b t h
        refine acquires_trans ?_ ht
        exact acquires_of_cert rfl (List.Subset.refl _)
      · exact acquires_same h (acquires_of_cert rfl (List.Subset.refl _))
  | own c => exact acquires_certCall env hc
  | setVerify mode => exact Call.rel_ret (fun s => acquires_of_cert rfl (List.Subset.refl _))
  | verifyClientPostHandshake =>
      intro s b t h
      simp only [configCall, sslVerifyClientPostHandshake] at h
      split at h
      · split at h
        · exact acquires_same h (acquires_of_cert rfl (List.Subset.refl _))
        · exact acquires_same h (acquires_refl s)
      · exact acquires_same h (acquires_refl s)

end Calls

section Machine

variable {env : Env ω}

/-- Any number of calls of the callback, all about 1609 certificates. -/
theorem acquires_certCalls {calls : List CertCall} (hcalls : ∀ c ∈ calls, c.is1609 = true)
    {s t : SSL ω} (h : certCalls env calls s = some t) : Acquires s t := by
  induction calls generalizing s with
  | nil =>
      simp only [certCalls, Option.some.injEq] at h
      rw [h]
      exact acquires_refl t
  | cons c calls ih =>
      simp only [certCalls] at h
      split at h
      · exact absurd h (by simp only [reduceCtorEq, not_false_eq_true])
      · rename_i b s' hc
        have hs' := acquires_certCall env (hcalls c (List.mem_cons_self ..)) s b s' hc
        exact acquires_trans hs' (ih (fun d hd => hcalls d (List.mem_cons_of_mem c hd)) h)

theorem acquires_certCallback (henv : Only1609 env) (reason : Reason) :
    Acquiring (certCallback env reason) := by
  intro s b t h
  unfold certCallback at h
  split at h
  · exact acquires_same h (acquires_refl s)
  · rename_i calls ok hcb
    split at h
    · exact absurd h (by simp only [reduceCtorEq, not_false_eq_true])
    · rename_i s' hc
      have hs' := acquires_certCalls (henv.certCb _ _ calls ok hcb) hc
      split at h
      · exact acquires_same h hs'
      · exact acquires_trans hs'
          (acquires_of_touches (touches_sslFail [] _ _ s' b t h) (by decide))

/-- A choice is one of the slots as they are. -/
theorem acquires_tlsChooseSigalg (fatalerrs : Bool) :
    Acquiring (tlsChooseSigalg env fatalerrs) := by
  intro s b t h
  rcases tlsChooseSigalg_cases h with ⟨-, hf⟩ | rfl | ⟨i, lu, rfl⟩
  · refine acquires_trans ?_ (acquires_of_touches (touches_sslFail [] _ _ _ b t hf) (by decide))
    exact acquires_of_cert rfl (List.Subset.refl _)
  · exact acquires_of_cert rfl (List.Subset.refl _)
  · exact acquires_of_cert rfl (List.Subset.refl _)

theorem acquires_ssl3CheckClientCertificate : Acquiring (ssl3CheckClientCertificate env) :=
  acquires_seq (acquires_tlsChooseSigalg false)
    (fun s _ _ h => acquires_same h (acquires_refl s))

/-- Without a client certificate callback the preparation sets nothing by itself. -/
theorem acquires_tlsPrepareClientCertificate (henv : Only1609 env) :
    Acquiring (tlsPrepareClientCertificate env) := by
  refine acquires_seq (acquires_certCallback henv _) (fun s b t h => ?_)
  beta_reduce at h
  split at h
  · exact absurd h (by simp only [reduceCtorEq, not_false_eq_true])
  · rename_i s' hc
    exact acquires_same h (acquires_ssl3CheckClientCertificate s true s' hc)
  · rename_i s' hc
    simp only [useClientCertCb, henv.clientCertCb] at h
    exact acquires_trans (acquires_ssl3CheckClientCertificate s false s' hc)
      (acquires_of_touches (touches_sendNoCertificate env s' b t h) (by decide))

theorem acquires_processRequest (henv : Only1609 env) (body : Bytes) :
    Acquiring (processRequest env body) := by
  intro s b t h
  unfold processRequest at h
  refine acquires_seq ?_ (fun u c v hv => ?_) s b t h
  · exact acquires_rel (touches_tlsProcessCertificateRequest env body) (by decide)
  · beta_reduce at hv
    split at hv
    · exact acquires_same hv (acquires_refl u)
    · exact acquires_tlsPrepareClientCertificate henv u c v hv

theorem acquires_prepareIfAsked (henv : Only1609 env) : Acquiring (prepareIfAsked env) := by
  intro s b t h
  unfold prepareIfAsked at h
  split at h
  · exact acquires_tlsPrepareClientCertificate henv s b t h
  · exact acquires_same h (acquires_refl s)

theorem acquires_tlsPostProcessClientHello (henv : Only1609 env) :
    Acquiring (tlsPostProcessClientHello env) := by
  refine acquires_seq (fun s b t h => ?_) (acquires_rel (touches_runOther _) (by decide))
  beta_reduce at h
  split at h
  · exact acquires_same h (acquires_refl s)
  · exact acquires_seq (acquires_certCallback henv _) (acquires_tlsChooseSigalg true) s b t h

/-- A ClientHello, a request and a signature may lead to calls; no other message does. -/
theorem acquires_processMessage (henv : Only1609 env) (m : Msg) :
    Acquiring (processMessage env m) := by
  intro s b t h
  unfold processMessage at h
  split at h
  · unfold serverProcessMessage at h
    split at h
    · exact acquires_seq (acquires_rel (touches_tlsProcessClientHello env _ _) (by decide))
        (acquires_tlsPostProcessClientHello henv) s b t h
    · exact acquires_of_touches (touches_tlsProcessClientCertificate env _ s b t h) (by decide)
    · exact acquires_of_touches (touches_tlsProcessCertVerify env _ s b t h) (by decide)
    all_goals first
      | exact acquires_of_touches (touches_runOther _ s b t h) (by decide)
      | exact acquires_of_touches (touches_sslFail [] _ _ s b t h) (by decide)
  · unfold clientProcessMessage at h
    split at h
    · exact acquires_of_touches (touches_tlsProcessServerHello env _ _ _ s b t h) (by decide)
    · exact acquires_of_touches (touches_tlsProcessEncryptedExtensions env _ s b t h) (by decide)
    · -- The callback may install a certificate, now or once the server has signed.
      exact acquires_processRequest henv _ s b t h
    · exact acquires_seq (acquires_rel (touches_tlsProcessServerCertificate env _) (by decide))
        (acquires_rel (touches_tlsPostProcessServerCertificate env) (by decide)) s b t h
    · exact acquires_seq (acquires_rel (touches_tlsProcessCertVerify env _) (by decide))
        (acquires_prepareIfAsked henv) s b t h
    all_goals first
      | exact acquires_of_touches (touches_runOther _ s b t h) (by decide)
      | exact acquires_of_touches (touches_sslFail [] _ _ s b t h) (by decide)

/-- A message that is read, in either role. -/
theorem acquires_readEvent (henv : Only1609 env) {m : Msg} {s t : SSL ω}
    (h : readEvent env m s = some t) : Acquires s t := by
  rcases readEvent_cases env h with ⟨u, hu, rfl⟩ | ⟨st, u, b, v, -, hu, -, hp, rfl⟩
  · exact acquires_trans (acquires_of_touches hu (by decide)) (acquires_checkFatal u)
  · have henter : Acquires u (u.enter st) := acquires_of_cert rfl (List.Subset.refl _)
    have hv : Acquires s v := acquires_trans (acquires_of_touches hu (by decide))
      (acquires_trans henter (acquires_trans (acquires_note _ _)
        (acquires_processMessage henv m _ b v hp)))
    cases b with
    | false => exact acquires_trans hv (acquires_checkFatal v)
    | true =>
        refine acquires_trans hv ?_
        rw [if_pos rfl]
        split
        · exact acquires_of_cert rfl (List.Subset.refl _)
        · exact acquires_refl v

/-- Writing takes no certificate from anywhere. -/
theorem acquires_writeEvent {s t : SSL ω} (h : writeEvent env s = some t) : Acquires s t := by
  rcases writeEvent_cases env h with rfl | ⟨-, rfl⟩ | ⟨st, -, hw⟩
  · exact acquires_of_touches (touches_sslFatal [] _ _ s) (by decide)
  · exact acquires_of_cert rfl (List.Subset.refl _)
  · have henter : Acquires s (entering s st) := acquires_of_cert rfl (List.Subset.refl _)
    refine acquires_trans henter ?_
    rcases writeStep_cases env hw with ⟨-, b, v, hf, rfl⟩ | ⟨-, b, v, hp, rfl⟩ | ⟨u, hc, rfl⟩ |
      ⟨-, m, src, u, b, v, hc, hp, rfl⟩
    · have hk := keeps_finishHandshake env hf
      refine acquires_ite_checkFatal (acquires_of_cert (by rw [hk.cert (by decide)]; rfl) ?_)
      rw [hk.trace (by decide)]
      exact List.Subset.refl _
    · exact acquires_ite_checkFatal (acquires_of_touches (touches_runOther _ _ b v hp) (by decide))
    · exact acquires_trans (acquires_of_touches (touches_constructMessage env hc) (by decide))
        (acquires_checkFatal u)
    · refine acquires_ite_checkFatal (acquires_trans
        (acquires_of_touches (touches_constructMessage env hc) (by decide)) ?_)
      exact acquires_trans (acquires_note u _)
        (acquires_of_touches (touches_runOther _ _ b v hp) (by decide))

/-- Clearing an object leaves its own certificates. -/
theorem acquires_sslClear : Acquiring (sslClear env) := by
  intro s b t h
  simp only [sslClear] at h
  split at h
  · exact acquires_same h (acquires_of_cert rfl (List.Subset.refl _))
  · exact acquires_same h (acquires_of_cert rfl (List.subset_cons_self ..))

/-- One step with calls for 1609.2 only. -/
theorem acquires_step (henv : Only1609 env) {s t : SSL ω} {ev : Event}
    (hev : ev.only1609 = true) (h : step env s ev = some t) : Acquires s t := by
  rcases step_cases env h with rfl | ⟨server, rfl, -, hs⟩ | ⟨rfl, -, rfl⟩ | ⟨m, rfl, -, hr⟩ |
    ⟨rfl, -, hw⟩ | ⟨rfl, b, hc⟩ | ⟨c, rfl, -, -, b, hc⟩
  · exact acquires_refl t
  · rcases startEvent_cases env hs with hc | ⟨u, b, v, hc, hp, rfl⟩
    · exact acquires_sslClear s false t hc
    · have hu := acquires_sslClear s true u hc
      have hv := acquires_of_touches (touches_runOther _ _ b v hp) (by decide)
      refine acquires_trans hu (acquires_trans ?_ (acquires_trans hv ?_))
      · exact acquires_of_cert rfl (List.Subset.refl _)
      · cases b with
        | true => exact acquires_of_cert rfl (List.Subset.refl _)
        | false => exact acquires_refl v
  · exact acquires_of_cert rfl (List.Subset.refl _)
  · exact acquires_readEvent henv hr
  · exact acquires_writeEvent hw
  · exact acquires_sslClear s b t hc
  · exact acquires_configCall env hev s b t hc

/-- The slots of an object whose certificates were set by calls for 1609.2 only. -/
theorem ownBound_run (henv : Only1609 env) {s0 s : SSL ω} {es : List Event}
    (hslots : ∀ i, (s0.cert.pkeys i).x509 = none) (hes : ∀ ev ∈ es, ev.only1609 = true)
    (h : run (step env) s0 es = some s) : OwnBound s :=
  run_invariant_along (step env) _ OwnBound
    (fun _ _ _ hev hs hst => ownBound_of_acquires hs (acquires_step henv hev hst)) es s0 s
    (along_of_forall (step env) _ es s0 hes) (fun i => Or.inl (hslots i)) h

end Machine

section Signature

variable {env : Env ω}

/-- In TLS 1.3 a CertificateVerify directly follows the Certificate, and a client writes one
    if it prepared a certificate. -/
theorem writeTransition_ownVerify {s : SSL ω} (h13 : s.tls13 = true)
    (h : writeTransition env s = .next (.ownVerify s.server)) :
    s.statem.handState = .ownCert s.server ∧ (s.server = false → s.tmp.certReq = 1) := by
  cases hs : s.server with
  | true =>
      refine ⟨?_, fun hno => absurd hno Bool.noConfusion⟩
      simp only [writeTransition, h13, hs, if_true, server13WriteTransition, HandState.ownVerify]
        at h
      split at h <;> (repeat' split at h) <;> first
        | assumption
        | simp_all only [WriteTran.next.injEq, reduceCtorEq]
  | false =>
      simp only [writeTransition, h13, hs, if_true, Bool.false_eq_true, if_false,
        client13WriteTransition, HandState.ownVerify] at h
      split at h <;> (repeat' split at h) <;> first
        | exact ⟨by assumption, fun _ => by assumption⟩
        | simp_all only [WriteTran.next.injEq, reduceCtorEq]

/-- What this side signs: its role, and the transcript so far. -/
theorem getCertVerifyTbsData_own {s t : SSL ω} {tbs : Bytes} (h13 : s.tls13 = true)
    (hst : s.statem.handState = .ownVerify s.server)
    (h : getCertVerifyTbsData env s = (some tbs, t)) :
    ∃ hash, env.handshakeHash s.trace s.other = some hash ∧ tbs = tls13Tbs s.server hash := by
  have hrole : s.statem.handState.checksSignature = false ∧
      s.statem.handState.serverSigns = s.server := by
    rw [hst]
    cases s.server <;> exact ⟨rfl, rfl⟩
  simp only [getCertVerifyTbsData, h13, if_true, hrole.1, Bool.false_eq_true, if_false,
    hrole.2] at h
  split at h
  · exact absurd (Prod.mk.inj h).1 (by simp only [reduceCtorEq, not_false_eq_true])
  · rename_i hash hhash
    exact ⟨hash, hhash, (Option.some.inj (Prod.mk.inj h).1).symm⟩

/-- The slot that signs is the slot that was shown. -/
theorem leaf_of_signer {s : SSL ω} {i : PkeyIdx} {x : X509} (hs : OwnBound s)
    (hreq : s.server = false → s.tmp.certReq = 1) (hi : s.tmp.cert = some i)
    (hx : (s.cert.pkeys i).x509 = some x) (hleaf : leaf s ≠ none) : leaf s = some x := by
  cases hsv : s.server with
  | true => simp only [leaf, sendingSlot, hsv, if_true, hi, Option.map_some, Option.bind_some, hx]
  | false =>
      have hslot : sendingSlot s = some (s.cert.pkeys s.cert.key) := by
        simp only [sendingSlot, hsv, Bool.false_eq_true, if_false, hreq hsv, OfNat.one_ne_ofNat]
      simp only [leaf, hslot, Option.bind_some] at hleaf ⊢
      cases hkey : (s.cert.pkeys s.cert.key).x509 with
      | none =>
          simp only [hkey, ite_self, ne_eq, not_true_eq_false] at hleaf
      | some y =>
          -- Both are the slot of RSA keys, for no other holds a certificate.
          have hrsa : ∀ j z, (s.cert.pkeys j).x509 = some z → j = .rsa := by
            intro j z hz
            rcases hs j with hnone | ⟨hj, -⟩
            · rw [hnone] at hz
              exact absurd hz (by simp only [reduceCtorEq, not_false_eq_true])
            · exact hj
          rw [hrsa i x hx] at hx
          rw [hrsa _ y hkey, hx] at hkey
          simp only [Option.some.inj hkey]

/-- The first entry of a 1609.2 Certificate is the certificate of its first object. -/
theorem entries_head {xs : List X509} {cs : List Bytes} {x : X509} {c : Ieee1609Cert}
    (h : List.Forall₂ (fun x c => entryContent env true x = .ok c) xs cs)
    (hx : xs.head? = some x) (hc : x.ieee1609 = some c) : cs.head? = some c.certData := by
  cases h with
  | nil => exact absurd hx (by simp only [List.head?_nil, reduceCtorEq, not_false_eq_true])
  | cons hfirst _ =>
      rw [List.head?_cons, Option.some.injEq] at hx
      subst hx
      simp only [entryContent, if_true, hc, Except.ok.injEq] at hfirst
      rw [List.head?_cons, hfirst]

/-- The CertificateVerify of a side that uses 1609.2 and whose certificates were set by calls
    for 1609.2 only, in every run: it is what the security entity signed, for this side's PSID,
    its role and the transcript, and for the hash bound to the certificate that is the
    first entry of the Certificate sent just before. -/
theorem signature_bound (env : Env ω) (henv : Only1609 env) {s0 s t : SSL ω} {es : List Event}
    {body : Bytes} {src : Source} {tr : List Obs} (h0 : s0.statem.state = .uninited)
    (hslots : ∀ i, (s0.cert.pkeys i).x509 = none) (hes : ∀ ev ∈ es, ev.only1609 = true)
    (hrun : run (step env) s0 es = some s)
    (hnext : run (step env) s0 (es ++ [.write]) = some t) (h13 : s.tls13 = true)
    (h1609 : sslIsUsing1609ThisSide s = true)
    (htr : t.trace = .sent (.certificateVerify body) src :: tr) (hnew : s.trace <:+ tr) :
    ∃ cert xs rest c hash r, s.trace = .sent (.certificate cert) (.chain xs) :: rest ∧
      (certificatesOf cert).head? = some c.certData ∧ HashBound rest c ∧
      env.handshakeHash s.trace s.other = some hash ∧
      tr = .exchange (secEntMsgNewTypeTlsSignData s.ieee1609.psidThisSide c.hashedid8
        (tls13Tbs s.server hash)) (some r) :: s.trace ∧
      r.msgType = secEntMsgTypeTlsSignData ∧ body = r.data := by
  have hstep : step env s .write = some t := (run_concat (step env) .write hrun).mp hnext
  rcases sent_of_write hstep htr hnew with ⟨st, u, htrans, hc, rfl, hw⟩
  have h13' : (entering s st).tls13 = true := h13
  rcases constructMessage_cases hc with hplain | ⟨-, hcert⟩ | ⟨hst, hverify⟩
  · exact absurd rfl (hplain body).2
  · rcases constructCertificate_some h13' hcert with ⟨xs, cert, -, hm, -, -⟩
    exact absurd hm Msg.noConfusion
  · change st = .ownVerify s.server at hst
    subst hst
    rcases writeTransition_ownVerify h13 htrans with ⟨hown, hreq⟩
    rcases certWritten_run env h0 hrun h13 hw hown with
      ⟨cert, xs, rest, hlast, hhead, hne, hentries⟩
    have hbound := ownBound_run henv hslots hes hrun
    rcases tlsConstructCertVerify_some hverify with
      ⟨i, body', hi, hbody, ⟨-, -, x, tbs, hx, htbs, hsign⟩ | ⟨hno, -⟩⟩
    · rw [Msg.certificateVerify.injEq] at hbody
      subst hbody
      rcases tlsConstructIeee1609CertCertVerify_some hsign with ⟨c, r, hxc, htype, hdata, rfl⟩
      rcases getCertVerifyTbsData_own h13' rfl htbs with ⟨hash, hhash, rfl⟩
      -- The certificate that signs is the leaf.
      have hleaf : leaf s = some x := by
        refine leaf_of_signer hbound hreq hi hx ?_
        rw [← hhead, ne_eq, List.head?_eq_none_iff]
        exact hne h1609
      have hcb : HashBound s.trace c := by
        rcases hbound i with hnone | ⟨-, y, d, hy, hd, hb⟩
        · exact absurd (hnone.symm.trans hx) (by simp only [reduceCtorEq, not_false_eq_true])
        · have hyx : y = x := Option.some.inj (hy.symm.trans hx)
          rw [hyx, hxc] at hd
          rw [Option.some.inj hd]
          exact hb
      rw [hleaf] at hhead
      rw [h1609] at hentries
      rw [hlast] at hcb
      exact ⟨cert, xs, rest, c, hash, r, hlast, entries_head hentries hhead hxc,
        hashBound_of_cons hcb, hhash, rfl, htype, hdata⟩
    · have hkind : sslIsUsing1609ThisSide (entering s (.ownVerify s.server)) = true := h1609
      rw [hkind] at hno
      exact absurd hno Bool.noConfusion

end Signature

/-- A client with a ticket, from which 1609.2 is wanted. -/
def ticketClient : List Event :=
  askedClient [.enableRfc8902Support sslRfc8902X509 sslRfc89021609 true]
    [0, 51, 0, 0, 0, 20, 0, 1, 0, 0, 19, 0, 1, 3]

theorem only1609_ticketEnv : Only1609 ticketEnv where
  certCb _ _ _ _ h := absurd h (by simp only [ticketEnv, plainEnv, reduceCtorEq,
    not_false_eq_true])
  clientCertCb _ _ := rfl

/-- The signature of a client with a ticket. -/
theorem signature_bound_ticket :
    ∃ s t cert xs rest c hash r, run (step ticketEnv) newClient ticketClient = some s ∧
      run (step ticketEnv) newClient (ticketClient ++ [.write]) = some t ∧
      s.trace = .sent (.certificate cert) (.chain xs) :: rest ∧
      (certificatesOf cert).head? = some c.certData ∧ HashBound rest c ∧
      t.trace = .sent (.certificateVerify r.data) (.signer none) ::
        .exchange (secEntMsgNewTypeTlsSignData psidDefault c.hashedid8 (tls13Tbs false hash))
          (some r) :: s.trace := by
  have htest : (run (step ticketEnv) newClient ticketClient).any (fun s =>
      s.tls13 && !s.server && sslIsUsing1609ThisSide s &&
        s.ieee1609.psidThisSide = psidDefault &&
        (step ticketEnv s .write).any (fun t =>
          t.trace.head? = some (.sent (.certificateVerify [5]) (.signer none)) &&
            t.trace.tail.tail = s.trace)) = true := by
    decide +kernel
  rcases (Option.any_eq_true _ _).mp htest with ⟨s, hrun, hp⟩
  simp only [Bool.and_eq_true, Bool.not_eq_true', decide_eq_true_eq] at hp
  rcases hp with ⟨⟨⟨⟨h13, hs⟩, h1609⟩, hpsid⟩, hany⟩
  rcases (Option.any_eq_true _ _).mp hany with ⟨t, ht, hp⟩
  have hnext : run (step ticketEnv) newClient (ticketClient ++ [.write]) = some t :=
    (run_concat (step ticketEnv) .write hrun).mpr ht
  rw [Bool.and_eq_true, decide_eq_true_eq, decide_eq_true_eq] at hp
  rcases List.head?_eq_some_iff.mp hp.1 with ⟨tr, htr⟩
  have hnew : s.trace <:+ tr := by
    rw [← hp.2, htr]
    exact List.tail_suffix tr
  rcases signature_bound ticketEnv only1609_ticketEnv rfl (fun _ => rfl) (by decide +kernel)
    hrun hnext h13 h1609 htr hnew with
    ⟨cert, xs, rest, c, hash, r, hlast, hhead, hbound, -, htail, -, hbody⟩
  refine ⟨s, t, cert, xs, rest, c, hash, r, hrun, hnext, hlast, hhead, hbound, ?_⟩
  rw [htr, htail, hs, hpsid, hbody]

end Iso21177
