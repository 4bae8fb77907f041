import Iso21177.Ssl.StatemFrame

/-!
# Calls That Ask for No Signature

A 1609.2 endpoint holds no keys, so what is signed on its behalf is what it asks the
security entity to sign. Few functions do so. Whatever else a handshake is made of, from
reading a hello to the callbacks of the application and the calls it makes between
handshakes, adds to the record of the object but makes no exchange about a signature
(`Quiet`). The exchanges these functions do make are about certificates.

Most of it follows from the fields a call can change, since a record that is left alone
stays quiet. What remains are the calls that set or check certificates, and those that may
call the application.

## Main definitions

* `Obs.signing`: An exchange about a signature.
* `Quiet`, `Quieting`: No such exchange was made.

## Theorems

* `quiet_of_trace`, `quiet_refl`, `quiet_trans`, `quiet_note`, `quiet_of_keeps`,
  `quiet_of_touches`, `quiet_checkFatal`, `quiet_ite_checkFatal`, `quiet_seq`, `quiet_rel`,
  `quiet_same`: Calls one after the other.
* `quiet_secEntProcess`, `quiet_ieee1609CertVerify`: Exchanges about certificates.
* `quiet_sslUse1609Cert`, `quiet_sslUse1609CertByHash`, `quiet_secEntInitialConnection`,
  `quiet_certCall`, `quiet_configCall`: The calls of the application.
* `quiet_certCalls`, `quiet_certCallback`, `quiet_tlsPrepareClientCertificate`,
  `quiet_processRequest`, `quiet_prepareIfAsked`, `quiet_tlsPostProcessClientHello`: The
  callbacks.
* `quiet_sslVerifyCertChain`, `quiet_abandon`, `quiet_tlsProcessServerCertificate`,
  `quiet_tlsPostProcessServerCertificate`, `quiet_checkClientChain`,
  `quiet_tlsProcessClientCertificate`: Reading a Certificate.
* `quiet_sslClear`, `quiet_constructPlain`: Clearing the object, and other messages.
-/

namespace Iso21177

variable {ω : Type}

/-- The entry is an exchange that asks for a signature or about one. -/
def Obs.signing (o : Obs) : Bool :=
  o.request.any (fun req => req.msgType = secEntMsgTypeTlsSignData ||
    req.msgType = secEntMsgTypeTlsVerifyData)

/-- The record grew, by no exchange about a signature. -/
def Quiet (s t : SSL ω) : Prop := ∃ l, t.trace = l ++ s.trace ∧ ∀ o ∈ l, o.signing = false

/-- A call that makes no exchange about a signature. -/
abbrev Quieting (c : Call (SSL ω)) : Prop := Call.Rel (fun s _ t => Quiet s t) c

/-- Without a new entry in the record there was no exchange. -/
theorem quiet_of_trace {s t : SSL ω} (h : t.trace = s.trace) : Quiet s t :=
  ⟨[], h, fun _ ho => absurd ho List.not_mem_nil⟩

theorem quiet_refl (s : SSL ω) : Quiet s s := quiet_of_trace rfl

/-- One quiet stretch after another is quiet. -/
theorem quiet_trans {s t u : SSL ω} (hst : Quiet s t) (htu : Quiet t u) : Quiet s u := by
  rcases hst with ⟨l, hl, hx⟩
  rcases htu with ⟨m, hm, hy⟩
  refine ⟨m ++ l, by rw [hm, hl, List.append_assoc], fun o ho => ?_⟩
  rcases List.mem_append.mp ho with ho | ho
  · exact hy o ho
  · exact hx o ho

/-- One entry that is not about a signature. -/
theorem quiet_note (s : SSL ω) {o : Obs} (ho : o.signing = false) : Quiet s (s.note o) :=
  ⟨[o], rfl, fun o' ho' => by rw [List.mem_singleton.mp ho', ho]⟩

/-- A call that leaves the record alone. -/
theorem quiet_of_keeps {fs : List Field} {s t : SSL ω} (h : Keeps fs s t)
    (hfs : .trace ∉ fs) : Quiet s t :=
  quiet_of_trace (h.trace hfs)

theorem quiet_of_touches {fs : List Field} {s t : SSL ω} {b : Bool} (h : Touches fs s b t)
    (hfs : .trace ∉ fs) : Quiet s t :=
  quiet_of_keeps h.toKeeps hfs

/-- Noting a failure that was not reported asks nothing of the entity. -/
theorem quiet_checkFatal (s : SSL ω) : Quiet s (checkFatal s) :=
  quiet_of_keeps (keeps_checkFatal [] s) (by decide)

/-- A call after which a failure is noted. -/
theorem quiet_ite_checkFatal {s v : SSL ω} {b : Bool} (h : Quiet s v) :
    Quiet s (if b then v else checkFatal v) := by
  split
  · exact h
  · exact quiet_trans h (quiet_checkFatal v)

/-- Two calls in a row. -/
theorem quiet_seq {c d : Call (SSL ω)} (hc : Quieting c) (hd : Quieting d) :
    Quieting (Call.seq c d) :=
  Call.rel_seq (R := fun s _ t => Quiet s t) (fun _ _ _ _ hst htu => quiet_trans hst htu) hc hd

/-- A call that is known by the fields it changes. -/
theorem quiet_rel {fs : List Field} {c : Call (SSL ω)} (hc : Call.Rel (Touches fs) c)
    (hfs : .trace ∉ fs) : Quieting c :=
  fun s b t h => quiet_of_touches (hc s b t h) hfs

/-- A call that ends where it is known to be quiet. -/
theorem quiet_same {s t u : SSL ω} {b c : Bool} (heq : some (c, t) = some (b, u))
    (h : Quiet s t) : Quiet s u := by
  rw [← (Prod.mk.inj (Option.some.inj heq)).2]
  exact h

/-- An exchange of another kind. -/
theorem quiet_secEntProcess {env : Env ω} {req : SecEntMsg} {r : SecEntReply} {s s' : SSL ω}
    (hreq : ∀ reply, (Obs.exchange req reply).signing = false)
    (h : secEntProcess env req s = (r, s')) : Quiet s s' := by
  rw [secEntProcess_eq h]
  exact quiet_note s (hreq _)

/-- A certificate that is checked. -/
theorem quiet_ieee1609CertVerify {env : Env ω} {c : Ieee1609Cert} {s s' : SSL ω}
    {r : Option Ieee1609Cert} (h : ieee1609CertVerify env c s = some (r, s')) : Quiet s s' := by
  rcases ieee1609CertVerify_note h with ⟨reply, rfl⟩
  exact quiet_note s rfl

section Calls

variable (env : Env ω)

/-- Setting a 1609 certificate has it checked, and nothing signed. -/
theorem quiet_sslUse1609Cert (data : Bytes) : Quieting (sslUse1609Cert env data) := by
  intro s b t h
  unfold sslUse1609Cert at h
  split at h
  · exact quiet_same h (quiet_refl s)
  · split at h
    · exact absurd h (by simp only [reduceCtorEq, not_false_eq_true])
    · rename_i hv
      exact quiet_same h (quiet_ieee1609CertVerify hv)
    · rename_i hv
      exact quiet_trans (quiet_ieee1609CertVerify hv)
        (quiet_of_touches (updates_sslUseCertificate env _ _ b t h) (by decide))

/-- Setting a certificate by its hash asks the entity for it. -/
theorem quiet_sslUse1609CertByHash (hashedid : Bytes) :
    Quieting (sslUse1609CertByHash env hashedid) := by
  intro s b t h
  unfold sslUse1609CertByHash at h
  split at h
  · rename_i m s' hp
    have hs' : Quiet s s' := quiet_secEntProcess (fun _ => rfl) hp
    split at h
    · exact quiet_same h hs'
    · split at h
      · exact quiet_same h hs'
      · exact quiet_trans hs' (quiet_of_touches (updates_seq (updates_sslSetPkey keyDer)
          (updates_sslUseCertificate env _) s' b t h) (by decide))
  · rename_i hp
    exact quiet_same h (quiet_secEntProcess (fun _ => rfl) hp)

/-- The first exchange asks for the current ticket. -/
theorem quiet_secEntInitialConnection (useAt : Bool) :
    Quieting (secEntInitialConnection env useAt) := by
  intro s b t h
  unfold secEntInitialConnection at h
  split at h
  · rename_i m s' hp
    have hs' : Quiet s s' := quiet_secEntProcess (fun _ => rfl) hp
    split at h
    · exact quiet_same h hs'
    · split at h
      · split at h
        · exact quiet_same h hs'
        · exact quiet_trans hs' (quiet_sslUse1609CertByHash env _ s' b t h)
      · exact quiet_same h hs'
  · rename_i hp
    exact quiet_same h (quiet_secEntProcess (fun _ => rfl) hp)

/-- No call that sets a certificate has anything signed. -/
theorem quiet_certCall (c : CertCall) : Quieting (certCall env c) := by
  intro s b t h
  cases c with
  | useCertificate x =>
      exact quiet_of_touches (updates_sslUseCertificate env x s b t h) (by decide)
  | usePrivateKey key => exact quiet_of_touches (updates_sslSetPkey key s b t h) (by decide)
  | use1609Cert data => exact quiet_sslUse1609Cert env data s b t h
  | use1609CertByHash hashedid => exact quiet_sslUse1609CertByHash env hashedid s b t h
  | use1609Psid psid => exact quiet_same h (quiet_of_trace rfl)

/-- Nor does one that configures a connection. -/
theorem quiet_configCall (c : ConfigCall) : Quieting (configCall env c) := by
  intro s b t h
  cases c with
  | enableRfc8902Support srv clnt useAt =>
      simp only [configCall, sslEnableRfc8902Support] at h
      split at h
      · have ht := quiet_secEntInitialConnection env useAt _ b t h
        exact quiet_trans (quiet_of_trace rfl) ht
      · exact quiet_same h (quiet_of_trace rfl)
  | own c => exact quiet_certCall env c s b t h
  | setVerify mode =>
      exact quiet_of_touches (touches_configCall env (.setVerify mode) s b t h).1
        (by simp only [configFields]; decide)
  | verifyClientPostHandshake =>
      exact quiet_of_touches (touches_configCall env .verifyClientPostHandshake s b t h).1
        (by simp only [configFields]; decide)

/-- Any number of calls of the callback. -/
theorem quiet_certCalls (calls : List CertCall) {s t : SSL ω}
    (h : certCalls env calls s = some t) : Quiet s t := by
  induction calls generalizing s with
  | nil =>
      simp only [certCalls, Option.some.injEq] at h
      rw [h]
      exact quiet_refl t
  | cons c calls ih =>
      simp only [certCalls] at h
      split at h
      · exact absurd h (by simp only [reduceCtorEq, not_false_eq_true])
      · rename_i b s' hc
        exact quiet_trans (quiet_certCall env c s b s' hc) (ih h)

/-- Nothing is signed on behalf of the application. -/
theorem quiet_certCallback (reason : Reason) : Quieting (certCallback env reason) := by
  intro s b t h
  unfold certCallback at h
  split at h
  · exact quiet_same h (quiet_refl s)
  · split at h
    · exact absurd h (by simp only [reduceCtorEq, not_false_eq_true])
    · rename_i s' hc
      have hs' := quiet_certCalls env _ hc
      split at h
      · exact quiet_same h hs'
      · exact quiet_trans hs' (quiet_of_touches (touches_sslFail [] _ _ s' b t h) (by decide))

/-- Preparing the Certificate of a client, with both of its callbacks. -/
theorem quiet_tlsPrepareClientCertificate : Quieting (tlsPrepareClientCertificate env) := by
  refine quiet_seq (quiet_certCallback env _) (fun s b t h => ?_)
  beta_reduce at h
  split at h
  · exact absurd h (by simp only [reduceCtorEq, not_false_eq_true])
  · rename_i s' hc
    exact quiet_same h
      (quiet_of_touches (updates_ssl3CheckClientCertificate env s true s' hc) (by decide))
  · rename_i s' hc
    refine quiet_trans
      (quiet_of_touches (updates_ssl3CheckClientCertificate env s false s' hc) (by decide)) ?_
    split at h
    · exact absurd h (by simp only [reduceCtorEq, not_false_eq_true])
    · rename_i s'' hu
      exact quiet_same h (quiet_of_touches (updates_useClientCertCb env s' true s'' hu) (by decide))
    · rename_i s'' hu
      exact quiet_trans (quiet_of_touches (updates_useClientCertCb env s' false s'' hu) (by decide))
        (quiet_of_touches (touches_sendNoCertificate env s'' b t h) (by decide))

/-- A request is read, and a certificate prepared if there is to be one. -/
theorem quiet_processRequest (body : Bytes) : Quieting (processRequest env body) := by
  intro s b t h
  unfold processRequest at h
  refine quiet_seq (quiet_rel (touches_tlsProcessCertificateRequest env body) (by decide))
    (fun u c v hv => ?_) s b t h
  beta_reduce at hv
  split at hv
  · exact quiet_same hv (quiet_refl u)
  · exact quiet_tlsPrepareClientCertificate env u c v hv

/-- A certificate is prepared when it was asked for earlier. -/
theorem quiet_prepareIfAsked : Quieting (prepareIfAsked env) := by
  intro s b t h
  unfold prepareIfAsked at h
  split at h
  · exact quiet_tlsPrepareClientCertificate env s b t h
  · exact quiet_same h (quiet_refl s)

/-- A server that has read a hello lets the application choose. -/
theorem quiet_tlsPostProcessClientHello : Quieting (tlsPostProcessClientHello env) := by
  refine quiet_seq (fun s b t h => ?_) (quiet_rel (touches_runOther _) (by decide))
  beta_reduce at h
  split at h
  · exact quiet_same h (quiet_refl s)
  · refine quiet_seq (quiet_certCallback env _) (fun u c v hv => ?_) s b t h
    exact quiet_of_touches (touches_tlsChooseSigalg env true u c v hv) (by decide)

end Calls

section Certificates

variable (env : Env ω)

/-- A chain is checked: a 1609 certificate by the entity, others by code outside. -/
theorem quiet_sslVerifyCertChain (chain : List Nat) : Quieting (sslVerifyCertChain env chain) := by
  intro s b t h
  unfold sslVerifyCertChain at h
  split at h
  · exact quiet_same h (quiet_refl s)
  · split at h
    · exact absurd h (by simp only [reduceCtorEq, not_false_eq_true])
    · split at h
      · split at h
        · exact absurd h (by simp only [reduceCtorEq, not_false_eq_true])
        · rename_i hv
          exact quiet_same h (quiet_ieee1609CertVerify hv)
        · rename_i hv
          exact quiet_same h (quiet_trans (quiet_ieee1609CertVerify hv) (quiet_of_trace rfl))
      · split at h
        · exact absurd h (by simp only [reduceCtorEq, not_false_eq_true])
        · exact quiet_same h (quiet_of_trace rfl)

/-- Giving a chain back frees what was read, and no more. -/
theorem quiet_abandon {chain : List Nat} {e : Stopped ω} {s t : SSL ω} {b : Bool}
    (hs : Quiet s e.ssl) (h : abandon chain e = some (b, t)) : Quiet s t := by
  unfold abandon at h
  split at h
  · exact absurd h (by simp only [reduceCtorEq, not_false_eq_true])
  · exact quiet_same h (quiet_trans hs (quiet_of_trace rfl))

/-- Reading the Certificate of a server parses its entries. -/
theorem quiet_tlsProcessServerCertificate (body : Bytes) :
    Quieting (tlsProcessServerCertificate env body) := by
  intro s b t h
  unfold tlsProcessServerCertificate at h
  split at h
  · exact absurd h (by simp only [reduceCtorEq, not_false_eq_true])
  · simp only at h
    split at h
    · have ht := touches_sslFail [] _ _ _ b t h
      refine quiet_trans ?_ (quiet_of_touches ht (by decide))
      exact quiet_of_trace rfl
    · split at h
      · exact absurd h (by simp only [reduceCtorEq, not_false_eq_true])
      · rename_i chain e hr
        -- The session is given back without its chain, which the record does not show.
        have he : Quiet s e.ssl := quiet_of_touches (touches_readCertificates env _ hr) (by decide)
        refine quiet_abandon ?_ h
        exact quiet_trans he (quiet_of_trace rfl)
      · rename_i chain s' hr
        have hs' : Quiet s s' := quiet_of_touches (touches_readCertificates env _ hr) (by decide)
        exact quiet_same h (quiet_trans hs' (quiet_of_trace rfl))

/-- Checking it has the entity confirm the first certificate. -/
theorem quiet_tlsPostProcessServerCertificate :
    Quieting (tlsPostProcessServerCertificate env) := by
  intro s b t h
  unfold tlsPostProcessServerCertificate at h
  split at h
  · exact absurd h (by simp only [reduceCtorEq, not_false_eq_true])
  · simp only at h
    split at h
    · exact absurd h (by simp only [reduceCtorEq, not_false_eq_true])
    · rename_i ok s1 hv
      refine quiet_trans (quiet_sslVerifyCertChain env _ s ok s1 hv) ?_
      split at h
      · exact quiet_of_touches (touches_sslFail [] _ _ s1 b t h) (by decide)
      · split at h
        · exact quiet_of_touches (touches_sslFail [] _ _ s1 b t h) (by decide)
        · split at h
          · exact absurd h (by simp only [reduceCtorEq, not_false_eq_true])
          · exact quiet_seq (quiet_rel (touches_checkServerKey env _) (by decide))
              (quiet_seq (quiet_rel (touches_setPeer _) (by decide))
                (quiet_rel (touches_saveCertVerifyHash env) (by decide))) s1 b t h

/-- The Certificate of a client is checked, if it has one. -/
theorem quiet_checkClientChain (chain : List Nat) : Quieting (checkClientChain env chain) := by
  intro s b t h
  unfold checkClientChain at h
  split at h
  · split at h
    · exact quiet_of_touches (touches_sslFail [] _ _ s b t h) (by decide)
    · exact quiet_of_touches (touches_runOther _ s b t h) (by decide)
  · split at h
    · exact absurd h (by simp only [reduceCtorEq, not_false_eq_true])
    · rename_i s' hv
      exact quiet_trans (quiet_sslVerifyCertChain env _ s _ s' hv)
        (quiet_of_touches (touches_sslFail [] _ _ s' b t h) (by decide))
    · rename_i s' hv
      refine quiet_trans (quiet_sslVerifyCertChain env _ s _ s' hv) ?_
      split at h
      · exact absurd h (by simp only [reduceCtorEq, not_false_eq_true])
      · split at h
        · exact quiet_of_touches (touches_sslFail [] _ _ s' b t h) (by decide)
        · exact quiet_same h (quiet_refl s')

/-- A server reads and checks in one call. -/
theorem quiet_tlsProcessClientCertificate (body : Bytes) :
    Quieting (tlsProcessClientCertificate env body) := by
  intro s b t h
  unfold tlsProcessClientCertificate at h
  split at h
  · exact quiet_of_touches (touches_sslFail [] _ _ s b t h) (by decide)
  · split at h
    · exact absurd h (by simp only [reduceCtorEq, not_false_eq_true])
    · rename_i chain e hr
      have he : Quiet s e.ssl := quiet_of_touches (touches_readCertificates env _ hr) (by decide)
      exact quiet_abandon he h
    · rename_i chain s' hr
      have hs' : Quiet s s' := quiet_of_touches (touches_readCertificates env _ hr) (by decide)
      refine quiet_trans hs' ?_
      split at h
      · exact absurd h (by simp only [reduceCtorEq, not_false_eq_true])
      · rename_i s'' hc
        exact quiet_abandon (quiet_checkClientChain env chain s' false s'' hc) h
      · rename_i s'' hc
        refine quiet_trans (quiet_checkClientChain env chain s' true s'' hc) ?_
        refine quiet_seq (quiet_rel (touches_storeClientChain chain) (by decide))
          (quiet_seq (fun u c v hd => ?_)
            (quiet_rel (touches_saveCertVerifyHash env) (by decide))) s'' b t h
        beta_reduce at hd
        split at hd
        · exact quiet_of_touches (touches_runOther _ u c v hd) (by decide)
        · exact quiet_same hd (quiet_refl u)

/-- Clearing an object is recorded, as an entry that is no exchange. -/
theorem quiet_sslClear : Quieting (sslClear env) := by
  intro s b t h
  simp only [sslClear] at h
  split at h
  · exact quiet_same h (quiet_of_trace rfl)
  · exact quiet_same h ⟨[.clear], rfl, fun o ho => by rw [List.mem_singleton.mp ho]; rfl⟩

/-- A message whose content is not looked at. -/
theorem quiet_constructPlain {s t : SSL ω} {r : Built}
    (h : constructPlain env s = some (r, t)) : Quiet s t := by
  unfold constructPlain at h
  split at h
  · rw [← (Prod.mk.inj (Option.some.inj h)).2]
    exact quiet_of_touches (touches_sslFatal [] _ _ s) (by decide)
  · exact quiet_of_touches (touches_after (touches_runOther _) h) (by decide)

end Certificates

end Iso21177
