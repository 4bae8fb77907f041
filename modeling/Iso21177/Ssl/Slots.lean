import Iso21177.Ssl.StatemFrame

/-!
# Slots That Are Filled

A slot is never emptied. A certificate that is set takes the place of the one before it,
and a key that does not fit drops itself or the other key, but not a certificate. So what
held of a slot when it was chosen holds when it is used: in TLS 1.3 the choice looks for a
certificate, and the slot still has one when the Certificate is written and when the
CertificateVerify is signed.

The calls a connection object makes are followed from one to the next (`Fills`). Below TLS
1.3 the choice is code outside, and nothing is said about it.

## Main definitions

* `SSL.SlotsFilled`: The chosen slot holds a certificate.
* `Fills`: Slots keep their certificates, and a slot newly chosen holds one.
* `Filling`, `Filling13`: A call of which this holds, in any version or in TLS 1.3.

## Theorems

* `slotsFilled_of_fills`, `slotsFilled_of_none`: What is kept of the choice.
* `fills_of_cert`, `fills_refl`, `fills_trans`, `fills_seq`, `fills_of_touches`, `fills_of_keeps`,
  `fills_same`: Calls in general.
* `fills_sslSetPkey`, `fills_sslUseCertificate`, `fills_sslUse1609Cert`,
  `fills_sslUse1609CertByHash`, `fills_secEntInitialConnection`, `fills_certCall`,
  `fills_configCall`: The calls of the application.
* `fills_certCalls`, `fills_certCallback`: The callback.
* `fills13_seq`, `fills13_of_filling`, `fills13_of_touches`: Calls in TLS 1.3.
* `fills13_certCallback`, `fills13_tlsChooseSigalg`, `fills13_ssl3CheckClientCertificate`,
  `fills13_useClientCertCb`, `fills13_tlsPrepareClientCertificate`,
  `fills13_tlsPostProcessClientHello`, `fills13_processRequest`, `fills13_prepareIfAsked`:
  Choosing a slot.
-/

namespace Iso21177

variable {ω : Type}

/-- The chosen slot, if there is one, holds a certificate. -/
def SSL.SlotsFilled (s : SSL ω) : Prop :=
  ∀ i, s.tmp.cert = some i → (s.cert.pkeys i).x509 ≠ none

/-- A slot that held a certificate holds one, and so does a slot that was chosen since. -/
structure Fills (s t : SSL ω) : Prop where
  slots : ∀ i, (s.cert.pkeys i).x509 ≠ none → (t.cert.pkeys i).x509 ≠ none
  choice : ∀ i, t.tmp.cert = some i → s.tmp.cert = some i ∨ (t.cert.pkeys i).x509 ≠ none

/-- The invariant goes through a call that keeps slots filled. -/
theorem slotsFilled_of_fills {s t : SSL ω} (hs : s.SlotsFilled) (h : Fills s t) :
    t.SlotsFilled := by
  intro i hi
  rcases h.choice i hi with hold | hnew
  · exact h.slots i (hs i hold)
  · exact hnew

/-- Before anything is chosen the invariant holds. -/
theorem slotsFilled_of_none {s : SSL ω} (h : s.tmp.cert = none) : s.SlotsFilled :=
  fun i hi => absurd (h.symm.trans hi) (Option.some_ne_none i).symm

/-- A call that leaves both the certificates and the choice as they were. -/
theorem fills_of_cert {s t : SSL ω} (hcert : t.cert.pkeys = s.cert.pkeys)
    (hchoice : t.tmp.cert = s.tmp.cert) : Fills s t where
  slots i hi := by rw [hcert]; exact hi
  choice i hi := Or.inl (by rw [← hchoice]; exact hi)

theorem fills_refl (s : SSL ω) : Fills s s := fills_of_cert rfl rfl

/-- What is chosen in the first call is still filled after the second. -/
theorem fills_trans {s t u : SSL ω} (hst : Fills s t) (htu : Fills t u) : Fills s u where
  slots i hi := htu.slots i (hst.slots i hi)
  choice i hi := by
    rcases htu.choice i hi with hold | hnew
    · exact (hst.choice i hold).imp_right (htu.slots i)
    · exact Or.inr hnew

/-- A call that leaves the certificates and the choice alone. -/
theorem fills_of_keeps {fs : List Field} {s t : SSL ω} (h : Keeps fs s t) (hcert : .cert ∉ fs)
    (hchoice : .choice ∉ fs) : Fills s t :=
  fills_of_cert (by rw [h.cert hcert]) (Prod.mk.inj (h.choice hchoice)).1

/-- A call known by its fields, when neither field is among them. -/
theorem fills_of_touches {fs : List Field} {s t : SSL ω} {b : Bool} (h : Touches fs s b t)
    (hcert : .cert ∉ fs) (hchoice : .choice ∉ fs) : Fills s t :=
  fills_of_keeps h.toKeeps hcert hchoice

/-- A call that ends where the slots are known to be filled. -/
theorem fills_same {s t u : SSL ω} {b c : Bool} (heq : some (c, t) = some (b, u))
    (h : Fills s t) : Fills s u := by
  rw [← (Prod.mk.inj (Option.some.inj heq)).2]
  exact h

/-- A call after which slots are filled as before. -/
abbrev Filling (c : Call (SSL ω)) : Prop := Call.Rel (fun s _ t => Fills s t) c

/-- Two calls in a row. -/
theorem fills_seq {c d : Call (SSL ω)} (hc : Filling c) (hd : Filling d) :
    Filling (Call.seq c d) :=
  Call.rel_seq (R := fun s _ t => Fills s t) (fun _ _ _ _ hst htu => fills_trans hst htu) hc hd

section Calls

variable (env : Env ω)

/-- Setting a key takes no certificate out of its slot. -/
theorem fills_sslSetPkey (key : EvpPkey) : Filling (sslSetPkey key : Call (SSL ω)) := by
  intro s b t h
  unfold sslSetPkey at h
  split at h
  · exact fills_same h (fills_refl s)
  · simp only at h
    split at h
    · exact fills_same h (fills_refl s)
    · rename_i i _ _
      refine fills_same h ⟨fun j hj => ?_, fun j hj => Or.inl hj⟩
      simp only [Cert.setPkey]
      by_cases hji : j = i
      · rw [if_pos hji, ← hji]
        exact hj
      · rw [if_neg hji]
        exact hj

/-- Setting a certificate fills its slot and leaves the others. -/
theorem fills_sslUseCertificate (x : X509) : Filling (sslUseCertificate env x) := by
  intro s b t h
  unfold sslUseCertificate sslSetCert at h
  split at h
  · split at h
    · exact fills_same h (fills_refl s)
    · split at h
      · exact fills_same h (fills_refl s)
      · split at h
        · exact fills_same h (fills_refl s)
        · rename_i i _ _
          refine fills_same h ⟨fun j hj => ?_, fun j hj => Or.inl hj⟩
          simp only [Cert.setPkey]
          by_cases hji : j = i
          · rw [if_pos hji]
            exact Option.some_ne_none x
          · rw [if_neg hji]
            exact hj
  · exact fills_same h (fills_refl s)

/-- A 1609 certificate is set like any other once it is confirmed. -/
theorem fills_sslUse1609Cert (data : Bytes) : Filling (sslUse1609Cert env data) := by
  intro s b t h
  unfold sslUse1609Cert at h
  split at h
  · exact fills_same h (fills_refl s)
  · split at h
    · exact absurd h (by simp only [reduceCtorEq, not_false_eq_true])
    · rename_i s' hv
      rcases ieee1609CertVerify_note hv with ⟨reply, rfl⟩
      exact fills_same h (fills_of_cert rfl rfl)
    · rename_i hv
      rcases ieee1609CertVerify_note hv with ⟨reply, rfl⟩
      have ht := fills_sslUseCertificate env _ _ b t h
      refine fills_trans ?_ ht
      exact fills_of_cert rfl rfl

/-- The placeholder key is set first, and the certificate after it. -/
theorem fills_sslUse1609CertByHash (hashedid : Bytes) :
    Filling (sslUse1609CertByHash env hashedid) := by
  intro s b t h
  unfold sslUse1609CertByHash at h
  split at h
  · rename_i m s' hp
    have hs' : Fills s s' := fills_of_touches (touches_secEntProcess hp) (by decide) (by decide)
    split at h
    · exact fills_same h hs'
    · split at h
      · exact fills_same h hs'
      · exact fills_trans hs'
          (fills_seq (fills_sslSetPkey keyDer) (fills_sslUseCertificate env _) s' b t h)
  · rename_i hp
    exact fills_same h (fills_of_touches (touches_secEntProcess hp) (by decide) (by decide))

/-- The first exchange may have the ticket put into a slot. -/
theorem fills_secEntInitialConnection (useAt : Bool) :
    Filling (secEntInitialConnection env useAt) := by
  intro s b t h
  unfold secEntInitialConnection at h
  split at h
  · rename_i m s' hp
    have hs' : Fills s s' := fills_of_touches (touches_secEntProcess hp) (by decide) (by decide)
    split at h
    · exact fills_same h hs'
    · split at h
      · split at h
        · exact fills_same h hs'
        · exact fills_trans hs' (fills_sslUse1609CertByHash env _ s' b t h)
      · exact fills_same h hs'
  · rename_i hp
    exact fills_same h (fills_of_touches (touches_secEntProcess hp) (by decide) (by decide))

/-- No call that sets a certificate or a key empties a slot. -/
theorem fills_certCall (c : CertCall) : Filling (certCall env c) := by
  cases c with
  | useCertificate x => exact fills_sslUseCertificate env x
  | usePrivateKey key => exact fills_sslSetPkey key
  | use1609Cert data => exact fills_sslUse1609Cert env data
  | use1609CertByHash hashedid => exact fills_sslUse1609CertByHash env hashedid
  | use1609Psid psid => exact Call.rel_ret (fun s => fills_of_cert rfl rfl)

/-- Nor does one that configures a connection. -/
theorem fills_configCall (c : ConfigCall) : Filling (configCall env c) := by
  cases c with
  | enableRfc8902Support srv clnt useAt =>
      intro s b t h
      simp only [configCall, sslEnableRfc8902Support] at h
      split at h
      · have ht := fills_secEntInitialConnection env useAt _ b t h
        refine fills_trans ?_ ht
        exact fills_of_cert rfl rfl
      · exact fills_same h (fills_of_cert rfl rfl)
  | own c => exact fills_certCall env c
  | setVerify mode => exact Call.rel_ret (fun s => fills_of_cert rfl rfl)
  | verifyClientPostHandshake =>
      intro s b t h
      exact fills_of_touches (touches_configCall env .verifyClientPostHandshake s b t h).1
        (by decide) (by decide)

/-- Any number of calls of the callback. -/
theorem fills_certCalls (calls : List CertCall) {s t : SSL ω}
    (h : certCalls env calls s = some t) : Fills s t := by
  induction calls generalizing s with
  | nil =>
      simp only [certCalls, Option.some.injEq] at h
      rw [h]
      exact fills_refl t
  | cons c calls ih =>
      simp only [certCalls] at h
      split at h
      · exact absurd h (by simp only [reduceCtorEq, not_false_eq_true])
      · rename_i b s' hc
        exact fills_trans (fills_certCall env c s b s' hc) (ih h)

/-- The callback may choose again what is in a slot, and never empties one. -/
theorem fills_certCallback (reason : Reason) : Filling (certCallback env reason) := by
  intro s b t h
  unfold certCallback at h
  split at h
  · exact fills_same h (fills_refl s)
  · split at h
    · exact absurd h (by simp only [reduceCtorEq, not_false_eq_true])
    · rename_i s' hc
      have hs' := fills_certCalls env _ hc
      split at h
      · exact fills_same h hs'
      · exact fills_trans hs'
          (fills_of_touches (touches_sslFail [] _ _ s' b t h) (by decide) (by decide))

end Calls

section Choice

variable {env : Env ω}

/-- A call of which the same can be said in TLS 1.3, which it does not leave. -/
abbrev Filling13 (c : Call (SSL ω)) : Prop :=
  Call.Rel (fun s _ t => s.tls13 = true → t.tls13 = true ∧ Fills s t) c

/-- Two calls in a row, the first of which stays in TLS 1.3. -/
theorem fills13_seq {c d : Call (SSL ω)} (hc : Filling13 c) (hd : Filling13 d) :
    Filling13 (Call.seq c d) := by
  refine Call.rel_seq (R := fun s _ t => s.tls13 = true → t.tls13 = true ∧ Fills s t)
    (fun s t b u hst htu h13 => ?_) hc hd
  rcases hst h13 with ⟨ht, hfst⟩
  rcases htu ht with ⟨hu, hftu⟩
  exact ⟨hu, fills_trans hfst hftu⟩

/-- A call that leaves the version alone. -/
theorem fills13_of_filling {fs : List Field} {c : Call (SSL ω)} (hc : Filling c)
    (h : Call.Rel (fun s _ t => Keeps fs s t) c) (hfs : .tls13 ∉ fs) : Filling13 c := by
  intro s b t ht h13
  refine ⟨?_, hc s b t ht⟩
  rw [(h s b t ht).tls13 hfs]
  exact h13

/-- A call known by its fields, when version, certificates and choice are not among them. -/
theorem fills13_of_touches {fs : List Field} {c : Call (SSL ω)} (h : Call.Rel (Touches fs) c)
    (hcert : .cert ∉ fs) (hchoice : .choice ∉ fs) (h13 : .tls13 ∉ fs) : Filling13 c :=
  fills13_of_filling (fun s b t ht => fills_of_touches (h s b t ht) hcert hchoice)
    (fun s b t ht => (h s b t ht).toKeeps) h13

/-- The callback does not change the version. -/
theorem fills13_certCallback (reason : Reason) : Filling13 (certCallback env reason) :=
  fills13_of_filling (fills_certCallback env reason)
    (fun s b t ht => (touches_certCallback env reason s b t ht).toKeeps) (by decide)

/-- In TLS 1.3 the slot that is chosen holds a certificate. -/
theorem fills13_tlsChooseSigalg (fatalerrs : Bool) : Filling13 (tlsChooseSigalg env fatalerrs) := by
  intro s b t h h13
  refine ⟨by rw [(touches_tlsChooseSigalg env fatalerrs s b t h).tls13 (by decide), h13], ?_⟩
  -- Without a choice there is nothing to hold.
  have hnone : Fills s { s with tmp := { s.tmp with cert := none, sigalg := none } } :=
    ⟨fun i hi => hi, fun i hi => absurd hi (by simp only [reduceCtorEq, not_false_eq_true])⟩
  simp only [tlsChooseSigalg, if_pos h13] at h
  split at h
  · split at h
    · exact fills_trans hnone
        (fills_of_touches (touches_sslFail [] _ _ _ b t h) (by decide) (by decide))
    · exact fills_same h hnone
  · rename_i lu hlu
    refine fills_same h ⟨fun i hi => hi, fun i hi => Or.inr ?_⟩
    have husable := List.find?_some hlu
    rw [← Option.some.inj hi]
    change (s.cert.pkeys lu.sigIdx).x509 ≠ none
    intro hx
    simp only [sigalgUsable, hx, Bool.and_false, Bool.false_eq_true] at husable

/-- The check of a client is a choice that may fail. -/
theorem fills13_ssl3CheckClientCertificate : Filling13 (ssl3CheckClientCertificate env) :=
  fills13_seq (fills13_tlsChooseSigalg false) (fun s _ t h h13 => by
    rw [← (Prod.mk.inj (Option.some.inj h)).2]
    exact ⟨h13, fills_refl s⟩)

/-- The second callback sets a certificate and chooses once more. -/
theorem fills13_useClientCertCb : Filling13 (useClientCertCb env) := by
  intro s b t h h13
  unfold useClientCertCb at h
  split at h
  · rw [← (Prod.mk.inj (Option.some.inj h)).2]
    exact ⟨h13, fills_refl s⟩
  · rename_i x key _
    have hcert : Filling13 (sslUseCertificate env x) :=
      fills13_of_filling (fills_sslUseCertificate env x)
        (fun s b t ht => (updates_sslUseCertificate env x s b t ht).toKeeps) (by decide)
    have hkey : Filling13 (sslUsePrivateKey key : Call (SSL ω)) :=
      fills13_of_filling (fills_sslSetPkey key)
        (fun s b t ht => (updates_sslSetPkey key s b t ht).toKeeps) (by decide)
    exact fills13_seq hcert (fills13_seq hkey fills13_ssl3CheckClientCertificate) s b t h h13

/-- A client that prepares its Certificate has chosen a slot that is filled, or none. -/
theorem fills13_tlsPrepareClientCertificate :
    Filling13 (tlsPrepareClientCertificate env) := by
  refine fills13_seq (fills13_certCallback _) (fun s b t h h13 => ?_)
  beta_reduce at h
  split at h
  · exact absurd h (by simp only [reduceCtorEq, not_false_eq_true])
  · rename_i s' hc
    rw [← (Prod.mk.inj (Option.some.inj h)).2]
    exact fills13_ssl3CheckClientCertificate s true s' hc h13
  · rename_i s' hc
    rcases fills13_ssl3CheckClientCertificate s false s' hc h13 with ⟨h13', hs'⟩
    -- The callback is the second chance.
    split at h
    · exact absurd h (by simp only [reduceCtorEq, not_false_eq_true])
    · rename_i s'' hu
      rcases fills13_useClientCertCb s' true s'' hu h13' with ⟨h13'', hs''⟩
      rw [← (Prod.mk.inj (Option.some.inj h)).2]
      exact ⟨h13'', fills_trans hs' hs''⟩
    · rename_i s'' hu
      rcases fills13_useClientCertCb s' false s'' hu h13' with ⟨h13'', hs''⟩
      have ht := fills13_of_touches (touches_sendNoCertificate env) (by decide) (by decide)
        (by decide) s'' b t h h13''
      exact ⟨ht.1, fills_trans hs' (fills_trans hs'' ht.2)⟩

/-- So has a server that has read a hello. -/
theorem fills13_tlsPostProcessClientHello : Filling13 (tlsPostProcessClientHello env) := by
  refine fills13_seq (fun s b t h h13 => ?_)
    (fills13_of_touches (touches_runOther _) (by decide) (by decide) (by decide))
  beta_reduce at h
  split at h
  · rw [← (Prod.mk.inj (Option.some.inj h)).2]
    exact ⟨h13, fills_refl s⟩
  · exact fills13_seq (fills13_certCallback _) (fills13_tlsChooseSigalg true) s b t h h13

/-- A request is read before the choice is made. -/
theorem fills13_processRequest (body : Bytes) : Filling13 (processRequest env body) := by
  intro s b t h h13
  unfold processRequest at h
  refine fills13_seq (fills13_of_touches (touches_tlsProcessCertificateRequest env body) (by decide)
    (by decide) (by decide)) (fun u c v hv hu13 => ?_) s b t h h13
  beta_reduce at hv
  split at hv
  · rw [← (Prod.mk.inj (Option.some.inj hv)).2]
    exact ⟨hu13, fills_refl u⟩
  · exact fills13_tlsPrepareClientCertificate u c v hv hu13

/-- A client that was asked earlier chooses now. -/
theorem fills13_prepareIfAsked : Filling13 (prepareIfAsked env) := by
  intro s b t h h13
  unfold prepareIfAsked at h
  split at h
  · exact fills13_tlsPrepareClientCertificate s b t h h13
  · rw [← (Prod.mk.inj (Option.some.inj h)).2]
    exact ⟨h13, fills_refl s⟩

end Choice

end Iso21177
