import Iso21177.Ssl.StatemFrame

/-!
# Calls That Are Always Defined

Most of what a connection object is put through is defined whatever the object looks
like: extensions are read and written, versions and algorithms chosen, and every step of
code outside either succeeds or fails. What is left are the places where a pointer is
followed or a reference dropped, which the certificates are about.

One call goes wrong because of the security entity. A reply that confirms a certificate
has its first eight octets copied without a look at their number. If such replies are
long enough (`WholeHash`), the calls that configure a connection are defined as well, and
with them the certificate callback.

## Main definitions

* `WholeHash`: Replies that confirm a certificate have its whole hash.

## Theorems

* `total_sslFail`, `total_runOther`, `total_runPhase`: The leaves.
* `total_extParser`, `total_tlsParseAllExtensions`, `total_collecting`: Extensions.
* `total_tlsProcessClientHello`, `total_tlsProcessServerHello`,
  `total_tlsProcessEncryptedExtensions`, `total_tlsProcessCertificateRequest`: Messages read.
* `ieee1609CertVerify_ne_none`, `total_certCall`, `total_secEntInitialConnection`,
  `total_configCall`: Configuration.
* `total_certCallback`, `total_tlsChooseSigalg`, `total_tlsPrepareClientCertificate`,
  `total_tlsPostProcessClientHello`, `total_processRequest`, `total_prepareIfAsked`: Choosing
  a certificate.
* `total_sslClear`, `startEvent_ne_none`, `total_finishHandshake`, `settle_ne_none`: Starting
  and finishing.
* `after_ne_none`, `constructPlain_ne_none`, `tlsConstructClientHello_ne_none`,
  `tlsConstructServerHello_ne_none`, `tlsConstructEncryptedExtensions_ne_none`,
  `tlsConstructCertificateRequest_ne_none`: Messages written.
-/

namespace Iso21177

open Packet

variable {ω : Type}

/-- A reply that confirms a certificate has at least as many octets as its hash. -/
def WholeHash (env : Env ω) : Prop :=
  ∀ tr req m, env.secEnt tr req = some m → m.msgType = secEntMsgTypeTlsVerifyCerts →
    hashedid8Len ≤ m.data.length

/-- Giving up with an alert is defined. -/
theorem total_sslFail (al : Alert) (reason : Reason) :
    Call.Total (sslFail al reason : Call (SSL ω)) := Call.total_fail _

/-- Code outside succeeds or fails; it follows no pointer of the object. -/
theorem total_runOther (f : List Obs → ω → Except Fault ω) : Call.Total (runOther f) := by
  intro s
  unfold runOther
  split
  · exact total_sslFail _ _ s
  · exact Option.some_ne_none _

section

variable (env : Env ω)

theorem total_runPhase (p : Phase) (body : Bytes) : Call.Total (runPhase env p body) :=
  total_runOther _

/-- An extension is reset, by this code or by code outside. -/
theorem total_initExtension (ctx : ExtCtx) (r : ExtDef × Nat) :
    Call.Total (initExtension env ctx r) := by
  intro s
  unfold initExtension
  split
  · split
    · exact Option.some_ne_none _
    · exact total_runOther _ s
  · exact Option.some_ne_none _

/-- A block of extensions is split up or refused. -/
theorem tlsCollectExtensions_ne_none (block : Bytes) (ctx : ExtCtx) (init : Bool) (s : SSL ω) :
    tlsCollectExtensions env block ctx init s ≠ none := by
  have hinit : Call.Total
      (if init then Call.each (initExtension env ctx) extRows else Call.ret id) := by
    split
    · exact Call.total_each extRows (fun r _ => total_initExtension env ctx r)
    · exact Call.total_ret id
  unfold tlsCollectExtensions
  split
  · exact Option.some_ne_none _
  · split
    · rename_i hn
      exact absurd hn (hinit s)
    · exact Option.some_ne_none _
    · exact Option.some_ne_none _

/-- What is done with a block is defined when it is for every block that splits. -/
theorem total_collecting (block : Bytes) (ctx : ExtCtx) (init : Bool)
    {k : RawExts → Call (SSL ω)} (hk : ∀ raw, Call.Total (k raw)) :
    Call.Total (collecting env block ctx init k) := by
  intro s
  unfold collecting
  split
  · rename_i hn
    exact absurd hn (tlsCollectExtensions_ne_none env block ctx init s)
  · exact Option.some_ne_none _
  · exact hk _ _

/-- The list of types in a ClientHello is read to its end or refused. -/
theorem total_tlsParseCtosCertTypeExt (r : Role) (body : Bytes) :
    Call.Total (tlsParseCtosCertTypeExt r body : Call (SSL ω)) := by
  intro s
  unfold tlsParseCtosCertTypeExt
  split
  · exact Option.some_ne_none _
  · split
    · exact total_sslFail _ _ s
    · split
      · exact total_sslFail _ _ s
      · split
        · exact Option.some_ne_none _
        · exact total_sslFail _ _ s

/-- The type in the answer of a server is read or refused. -/
theorem total_tlsParseStocCertTypeExt (r : Role) (body : Bytes) :
    Call.Total (tlsParseStocCertTypeExt r body : Call (SSL ω)) := by
  intro s
  unfold tlsParseStocCertTypeExt
  split
  · exact Option.some_ne_none _
  · split
    · split
      · exact Option.some_ne_none _
      · exact total_sslFail _ _ s
    · exact total_sslFail _ _ s

/-- The parser of an extension, one of the certificate types or another. -/
theorem total_extParser (ctx : ExtCtx) (chainidx i : Nat) (body : Bytes) :
    Call.Total (extParser env ctx chainidx i body) := by
  intro s
  unfold extParser
  split
  · split
    · exact total_tlsParseCtosCertTypeExt .srv body s
    · exact total_tlsParseStocCertTypeExt .srv body s
  · split
    · split
      · exact total_tlsParseCtosCertTypeExt .clnt body _
      · exact total_tlsParseStocCertTypeExt .clnt body s
    · split
      · split
        · unfold tlsParseCtosPostHandshakeAuth
          split
          · exact total_sslFail _ _ s
          · exact Option.some_ne_none _
        · exact Option.some_ne_none _
      · exact total_runOther _ s

/-- An extension that was not sent is not parsed, and one that was is parsed once. -/
theorem total_tlsParseExtension (ctx : ExtCtx) (raw : RawExts) (chainidx : Nat)
    (r : ExtDef × Nat) : Call.Total (tlsParseExtension env ctx raw chainidx r) := by
  intro s
  unfold tlsParseExtension
  split
  · exact Option.some_ne_none _
  · split
    · exact total_extParser env ctx chainidx r.2 _ s
    · exact Option.some_ne_none _

/-- The check on key shares, which may turn the handshake to a HelloRetryRequest. -/
theorem total_finalKeyShare (ctx : ExtCtx) (sent : Bool) :
    Call.Total (finalKeyShare env ctx sent) := by
  intro s
  simp only [finalKeyShare]
  split
  · exact Option.some_ne_none _
  · split
    · split
      · exact total_sslFail _ _ s
      · split
        · exact total_runPhase env _ _ s
        · exact Option.some_ne_none _
    · split
      · exact Option.some_ne_none _
      · split
        · exact total_sslFail _ _ s
        · split <;> exact Option.some_ne_none _

/-- What is done for an extension at the end, whether it was sent or not. -/
theorem total_finalExtension (ctx : ExtCtx) (raw : RawExts) (r : ExtDef × Nat) :
    Call.Total (finalExtension env ctx raw r) := by
  intro s
  unfold finalExtension
  split
  · split
    · exact total_finalKeyShare env ctx _ s
    · exact total_runOther _ s
  · exact Option.some_ne_none _

/-- All extensions of a message, one after the other. -/
theorem total_tlsParseAllExtensions (ctx : ExtCtx) (raw : RawExts) (chainidx : Nat)
    (fin : Bool) : Call.Total (tlsParseAllExtensions env ctx raw chainidx fin) := by
  refine Call.total_seq
    (Call.total_each extRows (fun r _ => total_tlsParseExtension env ctx raw chainidx r)) ?_
  split
  · exact Call.total_each extRows (fun r _ => total_finalExtension env ctx raw r)
  · exact Call.total_ret id

/-- A version is chosen or there is none. -/
theorem total_chooseVersion (wrong : Alert × Reason) (head : Bytes) (raw : RawExts) :
    Call.Total (chooseVersion env wrong head raw) := by
  intro s
  unfold chooseVersion
  split
  · exact total_sslFail _ _ s
  · split
    · exact total_sslFail _ _ _
    · exact Option.some_ne_none _

/-- A ClientHello is read, whatever it says. -/
theorem total_tlsProcessClientHello (head exts : Bytes) :
    Call.Total (tlsProcessClientHello env head exts) := by
  refine Call.total_seq (total_runPhase env _ _) (total_collecting env _ _ _ (fun raw => ?_))
  refine Call.total_seq (total_chooseVersion env _ _ _) ?_
  refine Call.total_seq (total_runPhase env _ _) ?_
  refine Call.total_seq (Call.total_ret _) ?_
  exact Call.total_seq (total_tlsParseAllExtensions env _ _ _ _) (total_runPhase env _ _)

/-- The part of a ServerHello that depends on the version. -/
theorem total_serverHelloIn (ctx : ExtCtx) (head : Bytes) (raw : RawExts) :
    Call.Total (serverHelloIn env ctx head raw) := by
  intro s
  unfold serverHelloIn
  split
  · refine Call.total_seq (total_runPhase env _ _) (Call.total_seq (Call.total_ret _) ?_) s
    exact Call.total_seq (total_tlsParseAllExtensions env _ _ _ _) (total_runPhase env _ _)
  · exact total_sslFail _ _ s

/-- A ServerHello or a HelloRetryRequest is read, whatever it says. -/
theorem total_tlsProcessServerHello (hrr : Bool) (head exts : Bytes) :
    Call.Total (tlsProcessServerHello env hrr head exts) := by
  intro s
  unfold tlsProcessServerHello
  split
  · split
    · exact total_sslFail _ _ s
    · refine Call.total_seq (total_runPhase env _ _) (Call.total_seq ?_ (total_runPhase env _ _)) _
      exact total_collecting env _ _ _ (fun raw => total_tlsParseAllExtensions env _ _ _ _)
  · refine Call.total_seq (total_runPhase env _ _) (total_collecting env _ _ _ (fun raw => ?_)) s
    exact Call.total_seq (total_chooseVersion env _ _ _)
      (fun t => total_serverHelloIn env _ head raw t)

/-- Of EncryptedExtensions only the block is read. -/
theorem total_tlsProcessEncryptedExtensions (exts : Bytes) :
    Call.Total (tlsProcessEncryptedExtensions env exts) :=
  total_collecting env _ _ _ (fun raw => total_tlsParseAllExtensions env _ raw _ _)

/-- A request is read in both of its forms. -/
theorem total_tlsProcessCertificateRequest (body : Bytes) :
    Call.Total (tlsProcessCertificateRequest env body) := by
  intro s
  simp only [tlsProcessCertificateRequest]
  split
  · exact Call.total_seq (total_runPhase env _ _) (Call.total_ret _) s
  · split
    · exact Option.some_ne_none _
    · split
      · exact total_sslFail _ _ _
      · split
        · exact total_sslFail _ _ _
        · refine Call.total_seq
            (total_collecting env _ _ _ (fun raw => total_tlsParseAllExtensions env _ _ _ _))
            (Call.total_seq (total_runPhase env _ _) ?_) _
          split
          · exact total_sslFail _ _
          · exact Call.total_ret _

end

section

variable {env : Env ω}

/-- A reply that was used is one the entity sent. -/
theorem secEntReply_msg {req m : SecEntMsg} {s s' : SSL ω}
    (h : secEntProcess env req s = (.msg m, s')) : env.secEnt s.trace req = some m := by
  simp only [secEntProcess, Prod.mk.injEq] at h
  rcases h with ⟨h, -⟩
  unfold sendRecvServer at h
  split at h
  · exact absurd h (by simp only [reduceCtorEq, not_false_eq_true])
  · rename_i m' hm
    split at h
    · exact absurd h (by simp only [reduceCtorEq, not_false_eq_true])
    · split at h
      · exact absurd h (by simp only [reduceCtorEq, not_false_eq_true])
      · rw [hm, SecEntReply.msg.inj h]

/-- A certificate is checked without reading past a reply that has the whole hash. -/
theorem ieee1609CertVerify_ne_none (henv : WholeHash env) (c : Ieee1609Cert) (s : SSL ω) :
    ieee1609CertVerify env c s ≠ none := by
  unfold ieee1609CertVerify
  split
  · rename_i m s' hp
    split
    · exact Option.some_ne_none _
    · rename_i htype
      split
      · rename_i hshort
        have hm := secEntReply_msg hp
        exact absurd (henv _ _ m hm (Decidable.not_not.mp htype)) (by omega)
      · exact Option.some_ne_none _
  · exact Option.some_ne_none _

/-- A key is put into its slot, or refused. -/
theorem total_sslSetPkey (key : EvpPkey) : Call.Total (sslSetPkey key : Call (SSL ω)) := by
  intro s
  unfold sslSetPkey
  split
  · exact Option.some_ne_none _
  · simp only
    split <;> exact Option.some_ne_none _

/-- A certificate is put into its slot, or refused. -/
theorem total_sslUseCertificate (x : X509) : Call.Total (sslUseCertificate env x) := by
  intro s
  unfold sslUseCertificate sslSetCert
  split
  · split
    · exact Option.some_ne_none _
    · split
      · exact Option.some_ne_none _
      · split <;> exact Option.some_ne_none _
  · exact Option.some_ne_none _

/-- A 1609 certificate is set once the entity has confirmed it, and the reply that does so has
    the whole hash. -/
theorem total_sslUse1609Cert (henv : WholeHash env) (data : Bytes) :
    Call.Total (sslUse1609Cert env data) := by
  intro s
  unfold sslUse1609Cert
  split
  · exact Option.some_ne_none _
  · split
    · rename_i hn
      exact absurd hn (ieee1609CertVerify_ne_none henv _ s)
    · exact Option.some_ne_none _
    · exact total_sslUseCertificate _ _

/-- A certificate named by its hash is asked for and not checked, so any reply will do. -/
theorem total_sslUse1609CertByHash (hashedid : Bytes) :
    Call.Total (sslUse1609CertByHash env hashedid) := by
  intro s
  unfold sslUse1609CertByHash
  split
  · split
    · exact Option.some_ne_none _
    · split
      · exact Option.some_ne_none _
      · exact Call.total_seq (total_sslSetPkey _) (total_sslUseCertificate _) _
  · exact Option.some_ne_none _

/-- The first exchange with the entity, whose ticket is then used if that is wanted. -/
theorem total_secEntInitialConnection (useAt : Bool) :
    Call.Total (secEntInitialConnection env useAt) := by
  intro s
  unfold secEntInitialConnection
  split
  · split
    · exact Option.some_ne_none _
    · split
      · split
        · exact Option.some_ne_none _
        · exact total_sslUse1609CertByHash _ _
      · exact Option.some_ne_none _
  · exact Option.some_ne_none _

/-- The calls that set a certificate or a key. -/
theorem total_certCall (henv : WholeHash env) (c : CertCall) : Call.Total (certCall env c) := by
  cases c with
  | useCertificate x => exact total_sslUseCertificate x
  | usePrivateKey key => exact total_sslSetPkey key
  | use1609Cert data => exact total_sslUse1609Cert henv data
  | use1609CertByHash hashedid => exact total_sslUse1609CertByHash hashedid
  | use1609Psid psid => exact Call.total_ret _

/-- The calls that configure a connection. -/
theorem total_configCall (henv : WholeHash env) (c : ConfigCall) :
    Call.Total (configCall env c) := by
  cases c with
  | enableRfc8902Support srv clnt useAt =>
      intro s
      simp only [configCall, sslEnableRfc8902Support]
      split
      · exact total_secEntInitialConnection _ _
      · exact Option.some_ne_none _
  | own c => exact total_certCall henv c
  | setVerify mode => exact Call.total_ret _
  | verifyClientPostHandshake =>
      intro s
      simp only [configCall, sslVerifyClientPostHandshake]
      split
      · split <;> exact Option.some_ne_none _
      · exact Option.some_ne_none _

/-- Any number of such calls. -/
theorem certCalls_ne_none (henv : WholeHash env) (calls : List CertCall) (s : SSL ω) :
    certCalls env calls s ≠ none := by
  induction calls generalizing s with
  | nil => exact Option.some_ne_none _
  | cons c calls ih =>
      simp only [certCalls]
      split
      · rename_i hn
        exact absurd hn (total_certCall henv c s)
      · exact ih _

/-- The callback of the application, which sets certificates or stops the handshake. -/
theorem total_certCallback (henv : WholeHash env) (reason : Reason) :
    Call.Total (certCallback env reason) := by
  intro s
  unfold certCallback
  split
  · exact Option.some_ne_none _
  · split
    · rename_i hn
      exact absurd hn (certCalls_ne_none henv _ s)
    · split
      · exact Option.some_ne_none _
      · exact total_sslFail _ _ _

/-- An algorithm is chosen, or there is none to choose. -/
theorem total_tlsChooseSigalg (fatalerrs : Bool) : Call.Total (tlsChooseSigalg env fatalerrs) := by
  -- Finding no algorithm is a failure at most.
  have hnot : ∀ s : SSL ω, (if fatalerrs then
      sslFail .handshakeFailure .noSuitableSignatureAlgorithm s else some (true, s)) ≠ none := by
    intro s
    split
    · exact total_sslFail _ _ s
    · exact Option.some_ne_none _
  intro s
  simp only [tlsChooseSigalg]
  split
  · split
    · exact hnot _
    · exact Option.some_ne_none _
  · split
    · exact Option.some_ne_none _
    · exact hnot _
    · exact Option.some_ne_none _

/-- The check whether a client has a certificate it can sign with. -/
theorem total_ssl3CheckClientCertificate : Call.Total (ssl3CheckClientCertificate env) :=
  Call.total_seq (total_tlsChooseSigalg false) (fun _ => Option.some_ne_none _)

/-- The second callback, which hands over a certificate and its key. -/
theorem total_useClientCertCb : Call.Total (useClientCertCb env) := by
  intro s
  unfold useClientCertCb
  split
  · exact Option.some_ne_none _
  · exact Call.total_seq (total_sslUseCertificate _)
      (Call.total_seq (total_sslSetPkey _) total_ssl3CheckClientCertificate) s

/-- A client gets its certificate ready, or none. -/
theorem total_tlsPrepareClientCertificate (henv : WholeHash env) :
    Call.Total (tlsPrepareClientCertificate env) := by
  refine Call.total_seq (total_certCallback henv _) (fun s => ?_)
  split
  · rename_i hn
    exact absurd hn (total_ssl3CheckClientCertificate s)
  · exact Option.some_ne_none _
  · split
    · rename_i hn
      exact absurd hn (total_useClientCertCb _)
    · exact Option.some_ne_none _
    · exact total_runPhase env _ _ _

/-- A server picks its certificate once the hello is read. -/
theorem total_tlsPostProcessClientHello (henv : WholeHash env) :
    Call.Total (tlsPostProcessClientHello env) := by
  refine Call.total_seq (fun s => ?_) (total_runPhase env _ _)
  split
  · exact Option.some_ne_none _
  · exact Call.total_seq (total_certCallback henv _) (total_tlsChooseSigalg true) s

/-- A request that is read and answered with a certificate or none. -/
theorem total_processRequest (henv : WholeHash env) (body : Bytes) :
    Call.Total (processRequest env body) := by
  intro s
  simp only [processRequest]
  refine Call.total_seq (total_tlsProcessCertificateRequest env body) (fun t => ?_) s
  split
  · exact Option.some_ne_none _
  · exact total_tlsPrepareClientCertificate henv t

/-- A client that was asked earlier prepares its certificate now. -/
theorem total_prepareIfAsked (henv : WholeHash env) : Call.Total (prepareIfAsked env) := by
  intro s
  unfold prepareIfAsked
  split
  · exact total_tlsPrepareClientCertificate henv s
  · exact Option.some_ne_none _

end

section

variable (env : Env ω)

/-- Clearing an object fails at most, which it does while a renegotiation is on. -/
theorem total_sslClear : Call.Total (sslClear env) := by
  intro s
  simp only [sslClear]
  split <;> exact Option.some_ne_none _

/-- A handshake can be started from any state. -/
theorem startEvent_ne_none (server : Bool) (s : SSL ω) : startEvent env server s ≠ none := by
  unfold startEvent
  split
  · rename_i hn
    exact absurd hn (total_sslClear env s)
  · exact Option.some_ne_none _
  · split
    · rename_i hn
      exact absurd hn (total_runPhase env _ _ _)
    · exact Option.some_ne_none _
    · exact Option.some_ne_none _

/-- What is left to do after the last message. -/
theorem total_finishHandshake : Call.Total (finishHandshake env) :=
  Call.total_seq (total_runPhase env _ _) (fun _ => Option.some_ne_none _)

/-- Taking note of a failure adds none that is undefined. -/
theorem settle_ne_none {r : Option (Bool × SSL ω)} (h : r ≠ none) : settle r ≠ none := by
  unfold settle
  split
  · exact absurd rfl h
  · exact Option.some_ne_none _
  · exact Option.some_ne_none _

/-- A message that is written once a call is made. -/
theorem after_ne_none (m : Msg × Source) {c : Call (SSL ω)} (hc : Call.Total c) (s : SSL ω) :
    Built.after m c s ≠ none := by
  unfold Built.after
  split
  · rename_i hn
    exact absurd hn (hc s)
  · exact Option.some_ne_none _
  · exact Option.some_ne_none _

/-- A message whose content is not looked at. -/
theorem constructPlain_ne_none (s : SSL ω) : constructPlain env s ≠ none := by
  unfold constructPlain
  split
  · exact Option.some_ne_none _
  · exact after_ne_none _ (total_runPhase env _ _) s

/-- A ClientHello is written with the extensions that are due. -/
theorem tlsConstructClientHello_ne_none (s : SSL ω) : tlsConstructClientHello env s ≠ none := by
  unfold tlsConstructClientHello
  split
  · rename_i hn
    exact absurd hn (total_runPhase env _ _ _)
  · exact Option.some_ne_none _
  · split <;> exact Option.some_ne_none _

/-- A ServerHello or a HelloRetryRequest is written. -/
theorem tlsConstructServerHello_ne_none (s : SSL ω) : tlsConstructServerHello env s ≠ none := by
  simp only [tlsConstructServerHello]
  split
  · exact Option.some_ne_none _
  · exact after_ne_none _ (fun u => total_runPhase env _ _ _) _

/-- EncryptedExtensions are written, with the types that were decided. -/
theorem tlsConstructEncryptedExtensions_ne_none (s : SSL ω) :
    tlsConstructEncryptedExtensions env s ≠ none := by
  unfold tlsConstructEncryptedExtensions
  split <;> exact Option.some_ne_none _

/-- A request is written, after a handshake with a context of its own. -/
theorem tlsConstructCertificateRequest_ne_none (s : SSL ω) :
    tlsConstructCertificateRequest env s ≠ none := by
  have hcontext : Call.Total (requestContext env) := by
    intro s
    unfold requestContext
    split
    · split
      · exact total_sslFail _ _ s
      · exact total_runPhase env _ _ _
    · exact Option.some_ne_none _
  simp only [tlsConstructCertificateRequest]
  split
  · split
    · rename_i hn
      exact absurd hn (hcontext s)
    · exact Option.some_ne_none _
    · split <;> exact Option.some_ne_none _
  · exact after_ne_none _ (Call.total_seq (total_runPhase env _ _) (Call.total_ret _)) s

end

end Iso21177
