import Iso21177.Ssl.CertVerify

/-!
# Hellos and Requests

The messages that carry extension blocks: ClientHello, ServerHello and
HelloRetryRequest, EncryptedExtensions and CertificateRequest, read and written.

A client that got a HelloRetryRequest has not chosen a version yet; TLS 1.3 is
in force on it only from the ServerHello on. On a server it is in force from the
first ClientHello. Both must end up with TLS 1.3 once there was a
HelloRetryRequest.

Sessions that are replaced are not released here, so their certificates stay on
the heap with nothing referring to them.

## Main definitions

* `tlsConstructClientHello`, `tlsConstructServerHello`: Writing the hellos.
* `tlsConstructEncryptedExtensions`, `tlsConstructCertificateRequest`: Writing
  the other two.
* `tlsProcessClientHello`, `tlsPostProcessClientHello`: Reading a ClientHello.
* `tlsProcessServerHello`, `tlsProcessAsHelloRetryRequest`: Reading a
  ServerHello.
* `tlsProcessEncryptedExtensions`, `tlsProcessCertificateRequest`: Reading the
  other two.
* `sendCertificateRequest`: Whether the server asks for a certificate.
* `helloFields`, `helloFrameFields`, `requestFields`, `readHelloFields`, `choiceFields`:
  What these may change.

## Theorems

* `touches_tlsConstructClientHello`, `touches_tlsConstructServerHello`,
  `touches_tlsConstructEncryptedExtensions`,
  `touches_tlsConstructCertificateRequest`: What writing touches.
* `touches_tlsProcessClientHello`, `touches_tlsPostProcessClientHello`,
  `touches_tlsProcessServerHello`, `touches_tlsProcessAsHelloRetryRequest`,
  `touches_tlsProcessEncryptedExtensions`,
  `touches_tlsProcessCertificateRequest`: What reading touches.
* `touches_runPhase`, `touches_after`, `touches_requestContext`,
  `touches_chooseVersion`, `touches_serverSession`, `touches_renewSession`,
  `touches_helloRetryRequest`: Their parts.
* `rel_tlsProcessClientHello`, `rel_tlsProcessServerHelloExts`,
  `rel_tlsProcessServerHello`: What holds of the parts holds of a hello.
-/

namespace Iso21177

open Packet

variable {ω : Type}

/-- A session without certificates. -/
def Session.fresh : Session := ⟨none, none⟩

/-- Follow a written message with a call that may still fail. -/
def Built.after (m : Msg × Source) (c : Call (SSL ω)) (s : SSL ω) : Option (Built × SSL ω) :=
  match c s with
  | none => none
  | some (false, s') => some (none, s')
  | some (true, s') => some (some m, s')

/-- The client's session for a new handshake: the old one if it can be resumed. -/
def clientSession (env : Env ω) (s : SSL ω) : SSL ω :=
  if (s.session.isNone || !(env.rest s.other).sessionReusable) && s.helloRetryRequest = .none then
    { s with session := some Session.fresh }
  else s

/-- `tls_construct_client_hello`. -/
def tlsConstructClientHello (env : Env ω) (s : SSL ω) : Option (Built × SSL ω) :=
  match runPhase env .helloHead [] (clientSession env s) with
  | none => none
  | some (false, s') => some (none, s')
  | some (true, s') =>
    match tlsConstructExtensions env sslExtClientHello 0 s' with
    | (none, t) => some (none, t)
    | (some exts, t) =>
      some (some (.clientHello (env.messageBody .cwClntHello s'.trace s'.other) exts, .none), t)

/-- The context of the extensions of a ServerHello. -/
def serverHelloCtx (s : SSL ω) : ExtCtx :=
  if s.helloRetryRequest = .pending then sslExtTls13HelloRetryRequest
  else if s.tls13 then sslExtTls13ServerHello
  else sslExtTls12ServerHello

/-- `tls_construct_server_hello`. A HelloRetryRequest gives up the session. -/
def tlsConstructServerHello (env : Env ω) (s : SSL ω) : Option (Built × SSL ω) :=
  let hrr : Bool := s.helloRetryRequest = .pending
  match tlsConstructExtensions env (serverHelloCtx s) 0 s with
  | (none, t) => some (none, t)
  | (some exts, t) =>
    Built.after (.serverHello hrr (env.messageBody .swSrvrHello s.trace s.other) exts, .none)
      (fun u => runPhase env (.constructed .swSrvrHello) []
        (if hrr then { u with session := none } else u)) t

/-- `tls_construct_encrypted_extensions`. -/
def tlsConstructEncryptedExtensions (env : Env ω) (s : SSL ω) : Option (Built × SSL ω) :=
  match tlsConstructExtensions env sslExtTls13EncryptedExtensions 0 s with
  | (none, t) => some (none, t)
  | (some exts, t) => some (some (.encryptedExtensions exts, .none), t)

/-- The size of the random context of a post-handshake request. -/
def phaContextLen : Nat := 32

/-- The context of a CertificateRequest, a random one after the handshake. -/
def requestContext (env : Env ω) : Call (SSL ω) := fun s =>
  if s.postHandshakeAuth = .requestPending then
    match env.random phaContextLen s.trace with
    | none => sslFail .internalError .internalError s
    | some r => runPhase env .restoreDigestForPha [] { s with phaContext := r }
  else some (true, s)

/-- `tls_construct_certificate_request`. -/
def tlsConstructCertificateRequest (env : Env ω) (s : SSL ω) : Option (Built × SSL ω) :=
  let done := fun t : SSL ω =>
    { t with certreqsSent := t.certreqsSent + 1, tmp := { t.tmp with certRequest := true } }
  if s.tls13 then
    match requestContext env s with
    | none => none
    | some (false, s') => some (none, s')
    | some (true, s') =>
      let context := if s.postHandshakeAuth = .requestPending then s'.phaContext else []
      match putSub 1 context, tlsConstructExtensions env sslExtTls13CertificateRequest 0 s' with
      | none, _ => some (none, sslFatal .internalError .internalError s')
      | some _, (none, t) => some (none, t)
      | some c, (some exts, t) =>
        some (some (.certificateRequest (c ++ beBytes 2 exts.length ++ exts), .none), done t)
  else
    let body := env.messageBody .swCertReq s.trace s.other
    Built.after (.certificateRequest body, .none)
      (Call.seq (runPhase env .legacyCertificateRequest []) (Call.ret done)) s

/-- `send_certificate_request`. -/
def sendCertificateRequest (env : Env ω) (s : SSL ω) : Bool :=
  let rest := env.rest s.other
  s.verifyMode &&& sslVerifyPeer ≠ 0
    && (!s.tls13 || s.verifyMode &&& sslVerifyPostHandshake = 0
      || s.postHandshakeAuth = .requestPending)
    && (s.certreqsSent < 1 || s.verifyMode &&& sslVerifyClientOnce = 0)
    && (!rest.anonCipher || s.verifyMode &&& sslVerifyFailIfNoPeerCert ≠ 0)
    && !rest.srpCipher && !rest.pskCipher

/-- Choose the version from a hello; after a HelloRetryRequest it must be
    TLS 1.3. -/
def chooseVersion (env : Env ω) (wrong : Alert × Reason) (head : Bytes) (raw : RawExts) :
    Call (SSL ω) := fun s =>
  match env.version s.server head raw s.trace s.other with
  | .error (al, reason) => sslFail al reason s
  | .ok (tls13, o) =>
    if s.helloRetryRequest ≠ .none ∧ ¬ tls13 then sslFail wrong.1 wrong.2 { s with other := o }
    else some (true, { s with tls13 := tls13, other := o })

/-- The server's session: the cached one if it is resumed, else a new one. -/
def serverSession (env : Env ω) (s : SSL ω) : SSL ω :=
  if (env.rest s.other).hit then
    match env.cachedPeer s.trace s.other with
    | none => { s with session := some Session.fresh }
    | some x =>
      let (a, h) := env.allocator.alloc s.heap x
      { s with heap := h, session := some ⟨some a, none⟩ }
  else { s with session := some Session.fresh }

/-- `tls_process_client_hello` with `tls_early_post_process_client_hello`. -/
def tlsProcessClientHello (env : Env ω) (head exts : Bytes) : Call (SSL ω) :=
  Call.seq (runPhase env .clientHelloHead head)
    (collecting env exts sslExtClientHello true (fun raw =>
      Call.seq (chooseVersion env (.protocolVersion, .unsupportedProtocol) head raw)
        (Call.seq (runPhase env .clientHelloBeforeParse head)
          (Call.seq (Call.ret (serverSession env))
            (Call.seq (tlsParseAllExtensions env sslExtClientHello raw 0 true)
              (runPhase env .clientHelloAfterParse head))))))

/-- `tls_post_process_client_hello`: unless a session is resumed, the callback may
    set certificates and one is chosen. -/
def tlsPostProcessClientHello (env : Env ω) : Call (SSL ω) :=
  Call.seq (fun s =>
      if (env.rest s.other).hit then some (true, s)
      else Call.seq (certCallback env .certCbError) (tlsChooseSigalg env true) s)
    (runPhase env .clientHelloAfterChoice [])

/-- `tls_process_as_hello_retry_request`. -/
def tlsProcessAsHelloRetryRequest (env : Env ω) (exts : Bytes) : Call (SSL ω) :=
  Call.seq
    (collecting env exts sslExtTls13HelloRetryRequest true
      (fun raw => tlsParseAllExtensions env sslExtTls13HelloRetryRequest raw 0 true))
    (runPhase env .helloRetryRequest [])

/-- The session of a client that is not resumed, once the answer has come. -/
def renewSession (env : Env ω) (s : SSL ω) : SSL ω :=
  if !(env.rest s.other).hit && (env.rest s.other).sessionIdSet then
    { s with session := some Session.fresh }
  else s

/-- The rest of `tls_process_server_hello` once the version is known. -/
def serverHelloIn (env : Env ω) (ctx : ExtCtx) (head : Bytes) (raw : RawExts) : Call (SSL ω) :=
  fun s =>
    if tlsValidateAllContexts ctx raw then
      Call.seq (runPhase env .serverHelloSession head)
        (Call.seq (Call.ret (renewSession env))
          (Call.seq (tlsParseAllExtensions env ctx raw 0 true)
            (runPhase env .serverHelloKeys head))) s
    else sslFail .illegalParameter .badExtension s

/-- The rest of `tls_process_server_hello` once it is no HelloRetryRequest. -/
def tlsProcessServerHelloExts (env : Env ω) (head : Bytes) (raw : RawExts) : Call (SSL ω) :=
  Call.seq (chooseVersion env (.protocolVersion, .wrongSslVersion) head raw) (fun s =>
    serverHelloIn env (if s.tls13 then sslExtTls13ServerHello else sslExtTls12ServerHello)
      head raw s)

/-- `tls_process_server_hello`. A second HelloRetryRequest is refused. -/
def tlsProcessServerHello (env : Env ω) (hrr : Bool) (head exts : Bytes) : Call (SSL ω) := fun s =>
  if hrr then
    if s.helloRetryRequest ≠ .none then sslFail .unexpectedMessage .unexpectedMessage s
    else
      Call.seq (runPhase env .serverHelloHead head) (tlsProcessAsHelloRetryRequest env exts)
        { s with helloRetryRequest := .pending }
  else
    Call.seq (runPhase env .serverHelloHead head)
      (collecting env exts (sslExtTls12ServerHello ||| sslExtTls13ServerHello) true
        (tlsProcessServerHelloExts env head)) s

/-- `tls_process_encrypted_extensions`. -/
def tlsProcessEncryptedExtensions (env : Env ω) (exts : Bytes) : Call (SSL ω) :=
  collecting env exts sslExtTls13EncryptedExtensions true
    (fun raw => tlsParseAllExtensions env sslExtTls13EncryptedExtensions raw 0 true)

/-- `tls_process_certificate_request`. One that comes after close_notify was sent is
    ignored. -/
def tlsProcessCertificateRequest (env : Env ω) (body : Bytes) : Call (SSL ω) := fun s =>
  let asked := Call.ret (fun t : SSL ω => { t with tmp := { t.tmp with certReq := 1 } })
  if !s.tls13 then Call.seq (runPhase env .legacyCertificateRequest body) asked s
  else if (env.rest s.other).sentShutdown then some (true, s)
  else
    match getLengthPrefixed 1 body with
    | none => sslFail .decodeError .lengthMismatch { s with phaContext := [] }
    | some (reqctx, p) =>
      match getLengthPrefixed 2 p with
      | none => sslFail .decodeError .badLength { s with phaContext := reqctx }
      | some (exts, rest) =>
        Call.seq
          (collecting env exts sslExtTls13CertificateRequest true
            (fun raw => tlsParseAllExtensions env sslExtTls13CertificateRequest raw 0 true))
          (Call.seq (runPhase env .processSigalgs [])
            (if rest ≠ [] then sslFail .decodeError .lengthMismatch else asked))
          { s with phaContext := reqctx }

section Frames

variable (env : Env ω)

theorem touches_runPhase {fs : List Field} (p : Phase) (body : Bytes) (hsub : [.other] ⊆ fs) :
    Call.Rel (Touches fs) (runPhase env p body) :=
  touches_weaken hsub (touches_runOther _)

/-- A message that is followed by a call touches what the call touches. -/
theorem touches_after {fs : List Field} {m : Msg × Source} {c : Call (SSL ω)} {s t : SSL ω}
    {r : Built} (hc : Call.Rel (Touches fs) c) (h : Built.after m c s = some (r, t)) :
    Touches fs s r.isSome t := by
  unfold Built.after at h
  split at h
  · exact absurd h (by simp only [reduceCtorEq, not_false_eq_true])
  · rename_i hs
    rw [← (Prod.mk.inj (Option.some.inj h)).1, ← (Prod.mk.inj (Option.some.inj h)).2]
    exact hc s _ _ hs
  · rename_i hs
    rw [← (Prod.mk.inj (Option.some.inj h)).1, ← (Prod.mk.inj (Option.some.inj h)).2]
    exact hc s _ _ hs

/-- The fields writing a hello may change. -/
def helloFields : List Field := .session :: ownFields

/-- A ClientHello starts the session the client offers, or a new one. -/
theorem touches_tlsConstructClientHello {s t : SSL ω} {r : Built}
    (h : tlsConstructClientHello env s = some (r, t)) : Touches helloFields s r.isSome t := by
  have hsess : Touches helloFields s true (clientSession env s) := by
    unfold clientSession
    split
    · exact touches_mono (by decide) (touches_session s _ true)
    · exact touches_refl _ s true
  unfold tlsConstructClientHello at h
  refine touches_trans hsess ?_
  split at h
  · exact absurd h (by simp only [reduceCtorEq, not_false_eq_true])
  · rename_i s' hp
    rw [← (Prod.mk.inj (Option.some.inj h)).1, ← (Prod.mk.inj (Option.some.inj h)).2]
    exact touches_runPhase env _ _ (by decide) _ false s' hp
  · rename_i s' hp
    refine touches_trans (touches_runPhase env _ _ (by decide) _ true s' hp) ?_
    split at h
    · rename_i hc
      rw [← (Prod.mk.inj (Option.some.inj h)).1, ← (Prod.mk.inj (Option.some.inj h)).2]
      exact touches_mono (by decide) (touches_tlsConstructExtensions env _ _ hc)
    · rename_i hc
      have ht := touches_tlsConstructExtensions env _ _ hc
      rw [← (Prod.mk.inj (Option.some.inj h)).1, ← (Prod.mk.inj (Option.some.inj h)).2]
      exact touches_mono (by decide) ht

/-- A HelloRetryRequest also gives the session up. -/
theorem touches_tlsConstructServerHello {s t : SSL ω} {r : Built}
    (h : tlsConstructServerHello env s = some (r, t)) : Touches helloFields s r.isSome t := by
  unfold tlsConstructServerHello at h
  simp only at h
  split at h
  · rename_i hc
    rw [← (Prod.mk.inj (Option.some.inj h)).1, ← (Prod.mk.inj (Option.some.inj h)).2]
    exact touches_mono (by decide) (touches_tlsConstructExtensions env _ _ hc)
  · rename_i exts u hc
    refine touches_trans (touches_mono (by decide) (touches_tlsConstructExtensions env _ _ hc)) ?_
    refine touches_after (fun v b w hv => ?_) h
    refine touches_trans ?_ (touches_runPhase env _ _ (by decide) _ b w hv)
    split
    · exact touches_mono (by decide) (touches_session v none true)
    · exact touches_refl _ v true

theorem touches_tlsConstructEncryptedExtensions {s t : SSL ω} {r : Built}
    (h : tlsConstructEncryptedExtensions env s = some (r, t)) :
    Touches ownFields s r.isSome t := by
  unfold tlsConstructEncryptedExtensions at h
  split at h
  · rename_i hc
    rw [← (Prod.mk.inj (Option.some.inj h)).1, ← (Prod.mk.inj (Option.some.inj h)).2]
    exact touches_tlsConstructExtensions env _ _ hc
  · rename_i hc
    have ht := touches_tlsConstructExtensions env _ _ hc
    rw [← (Prod.mk.inj (Option.some.inj h)).1, ← (Prod.mk.inj (Option.some.inj h)).2]
    exact ht

/-- The fields writing a CertificateRequest may change. -/
def requestFields : List Field := .phaContext :: .certreqsSent :: .certRequest :: ownFields

/-- A request after the handshake gets a context of its own. -/
theorem touches_requestContext :
    Call.Rel (Touches requestFields) (requestContext env) := by
  intro s b t h
  unfold requestContext at h
  split at h
  · split at h
    · exact touches_sslFail _ _ _ s b t h
    · rename_i r _
      have hset : Touches requestFields s true { s with phaContext := r } :=
        touches_update (by constructor <;> intros <;> first | contradiction | rfl) rfl rfl
      exact touches_trans hset (touches_runPhase env _ _ (by decide) _ b t h)
  · exact touches_same h

theorem touches_tlsConstructCertificateRequest {s t : SSL ω} {r : Built}
    (h : tlsConstructCertificateRequest env s = some (r, t)) :
    Touches requestFields s r.isSome t := by
  -- What either version notes of the request it has sent.
  have hdone : ∀ u : SSL ω, Touches requestFields u true
      { u with certreqsSent := u.certreqsSent + 1, tmp := { u.tmp with certRequest := true } } :=
    fun u => touches_update (by constructor <;> intros <;> first | contradiction | rfl) rfl rfl
  unfold tlsConstructCertificateRequest at h
  simp only at h
  split at h
  · split at h
    · exact absurd h (by simp only [reduceCtorEq, not_false_eq_true])
    · rename_i s' hr
      rw [← (Prod.mk.inj (Option.some.inj h)).1, ← (Prod.mk.inj (Option.some.inj h)).2]
      exact touches_requestContext env s false s' hr
    · rename_i s' hr
      refine touches_trans (touches_requestContext env s true s' hr) ?_
      split at h
      · rw [← (Prod.mk.inj (Option.some.inj h)).1, ← (Prod.mk.inj (Option.some.inj h)).2]
        exact touches_sslFatal _ _ _ s'
      · rename_i hc
        rw [← (Prod.mk.inj (Option.some.inj h)).1, ← (Prod.mk.inj (Option.some.inj h)).2]
        exact touches_mono (by decide) (touches_tlsConstructExtensions env _ _ hc)
      · rename_i hc
        have ht := touches_tlsConstructExtensions env _ _ hc
        rw [← (Prod.mk.inj (Option.some.inj h)).1, ← (Prod.mk.inj (Option.some.inj h)).2]
        exact touches_trans (touches_mono (by decide) ht) (hdone _)
  · exact touches_after (touches_seq (touches_runPhase env _ _ (by decide))
      (Call.rel_ret hdone)) h

/-- The fields reading a hello may change. -/
def readHelloFields : List Field :=
  [.decided, .verifyMode, .pha, .hrr, .other, .tls13, .session, .heap]

/-- The version is chosen, and with it nothing of the certificates. -/
theorem touches_chooseVersion (wrong : Alert × Reason) (head : Bytes) (raw : RawExts) :
    Call.Rel (Touches [.tls13, .other]) (chooseVersion env wrong head raw) := by
  intro s b t h
  unfold chooseVersion at h
  split at h
  · exact touches_sslFail _ _ _ s b t h
  · rename_i tls13 o _
    split at h
    · have hset : Touches [.tls13, .other] s true { s with other := o } :=
        touches_update (by constructor <;> intros <;> first | contradiction | rfl) rfl rfl
      exact touches_trans hset (touches_sslFail _ _ _ _ b t h)
    · refine touches_some ?_ h
      exact touches_update (by constructor <;> intros <;> first | contradiction | rfl) rfl rfl

/-- A server starts from a new session or the one it resumes. -/
theorem touches_serverSession (s : SSL ω) :
    Touches [.session, .heap] s true (serverSession env s) := by
  unfold serverSession
  split
  · split
    · exact touches_mono (by decide) (touches_session s _ true)
    · exact touches_update (by constructor <;> intros <;> first | contradiction | rfl) rfl rfl
  · exact touches_mono (by decide) (touches_session s _ true)

/-- The fields a hello changes besides its extensions. -/
def helloFrameFields : List Field := [.pha, .hrr, .other, .tls13, .session, .heap]

/-- Reading a ClientHello is related as parsing its extensions is, for a relation that
    takes in what comes with the version and the session. -/
theorem rel_tlsProcessClientHello {R : SSL ω → Bool → SSL ω → Prop} (head exts : Bytes)
    (htr : ∀ s t b u, R s true t → R t b u → R s b u)
    (hR : ∀ s b t, Touches helloFrameFields s b t → R s b t)
    (hp : ∀ flags raw, collectBlock flags sslExtClientHello exts = .ok raw →
      Call.Rel R (tlsParseAllExtensions env sslExtClientHello raw 0 true)) :
    Call.Rel R (tlsProcessClientHello env head exts) := by
  have hphase : ∀ p body, Call.Rel R (runPhase env p body) := fun p body s b t h =>
    hR s b t (touches_runPhase env p body (by decide) s b t h)
  refine Call.rel_seq htr (hphase _ _) ?_
  refine rel_collecting env htr (fun s b t h => hR s b t (touches_mono (by decide) h))
    (fun flags raw hraw => ?_)
  refine Call.rel_seq htr (fun s b t h =>
    hR s b t (touches_mono (by decide) (touches_chooseVersion env _ head raw s b t h))) ?_
  refine Call.rel_seq htr (hphase _ _) ?_
  refine Call.rel_seq htr (Call.rel_ret (fun s =>
    hR s true _ (touches_mono (by decide) (touches_serverSession env s)))) ?_
  exact Call.rel_seq htr (hp flags raw hraw) (hphase _ _)

/-- All a server changes when it reads a hello. -/
theorem touches_tlsProcessClientHello (head exts : Bytes) :
    Call.Rel (Touches readHelloFields) (tlsProcessClientHello env head exts) :=
  rel_tlsProcessClientHello env head exts (fun _ _ _ _ => touches_trans)
    (fun _ _ _ => touches_mono (by decide)) (fun _ raw _ =>
    touches_weaken (by decide) (touches_tlsParseAllExtensions env _ raw 0 true))

/-- The fields choosing the server's certificate may change. -/
def choiceFields : List Field := [.cert, .psidThis, .trace, .choice, .other]

theorem touches_tlsPostProcessClientHello :
    Call.Rel (Touches choiceFields) (tlsPostProcessClientHello env) := by
  refine touches_seq (fun s b t h => ?_) (touches_runPhase env _ _ (by decide))
  beta_reduce at h
  split at h
  · exact touches_same h
  · refine touches_seq (touches_weaken (by decide) (touches_certCallback env _)) ?_ s b t h
    intro u c v hv
    have ht := touches_tlsChooseSigalg env true u c v hv
    rw [Bool.not_true, Bool.or_false] at ht
    exact touches_mono (by decide) ht

theorem touches_tlsProcessAsHelloRetryRequest (exts : Bytes) :
    Call.Rel (Touches [.other]) (tlsProcessAsHelloRetryRequest env exts) :=
  touches_seq (touches_collecting_quiet env (by decide) exts true 0 true)
    (touches_runPhase env _ _ (by decide))

/-- A client that offered a session and resumes none gets a new one. -/
theorem touches_renewSession (s : SSL ω) : Touches [.session] s true (renewSession env s) := by
  unfold renewSession
  split
  · exact touches_session s _ true
  · exact touches_refl _ s true

/-- Reading a ServerHello, once it is no HelloRetryRequest. -/
theorem rel_tlsProcessServerHelloExts {R : SSL ω → Bool → SSL ω → Prop} (head : Bytes)
    (raw : RawExts) (htr : ∀ s t b u, R s true t → R t b u → R s b u)
    (hR : ∀ s b t, Touches helloFrameFields s b t → R s b t)
    (hp : ∀ ctx, Call.Rel R (tlsParseAllExtensions env ctx raw 0 true)) :
    Call.Rel R (tlsProcessServerHelloExts env head raw) := by
  have hphase : ∀ p body, Call.Rel R (runPhase env p body) := fun p body s b t h =>
    hR s b t (touches_runPhase env p body (by decide) s b t h)
  refine Call.rel_seq htr (fun s b t h =>
    hR s b t (touches_mono (by decide) (touches_chooseVersion env _ head raw s b t h))) ?_
  intro s b t h
  beta_reduce at h
  generalize (if s.tls13 = true then sslExtTls13ServerHello else sslExtTls12ServerHello) = ctx
    at h
  unfold serverHelloIn at h
  split at h
  · refine Call.rel_seq htr (hphase _ _) ?_ s b t h
    refine Call.rel_seq htr (Call.rel_ret (fun s =>
      hR s true _ (touches_mono (by decide) (touches_renewSession env s)))) ?_
    exact Call.rel_seq htr (hp ctx) (hphase _ _)
  · exact hR s b t (touches_sslFail _ _ _ s b t h)

/-- A HelloRetryRequest neither decides nor chooses a version. -/
theorem touches_helloRetryRequest (head exts : Bytes) :
    Call.Rel (Touches [.hrr, .other]) (tlsProcessServerHello env true head exts) := by
  intro s b t h
  simp only [tlsProcessServerHello, if_true] at h
  split at h
  · exact touches_sslFail _ _ _ s b t h
  · refine touches_trans (touches_update (t := { s with helloRetryRequest := .pending })
      (by constructor <;> intros <;> first | contradiction | rfl) rfl rfl) ?_
    exact touches_seq (touches_runPhase env _ _ (by decide))
      (touches_weaken (by decide) (touches_tlsProcessAsHelloRetryRequest env exts)) _ b t h

/-- Reading a ServerHello is related as parsing its extensions is. -/
theorem rel_tlsProcessServerHello {R : SSL ω → Bool → SSL ω → Prop} (hrr : Bool)
    (head exts : Bytes) (htr : ∀ s t b u, R s true t → R t b u → R s b u)
    (hR : ∀ s b t, Touches helloFrameFields s b t → R s b t)
    (hp : ∀ ctx raw, Call.Rel R (tlsParseAllExtensions env ctx raw 0 true)) :
    Call.Rel R (tlsProcessServerHello env hrr head exts) := by
  cases hrr with
  | true =>
      intro s b t h
      exact hR s b t (touches_mono (by decide) (touches_helloRetryRequest env head exts s b t h))
  | false =>
      intro s b t h
      simp only [tlsProcessServerHello, Bool.false_eq_true, if_false] at h
      refine Call.rel_seq htr (fun s b t hc =>
        hR s b t (touches_runPhase env _ _ (by decide) s b t hc)) ?_ s b t h
      refine rel_collecting env htr (fun s b t h => hR s b t (touches_mono (by decide) h))
        (fun _ raw _ => ?_)
      exact rel_tlsProcessServerHelloExts env head raw htr hR (fun ctx => hp ctx raw)

theorem touches_tlsProcessServerHello (hrr : Bool) (head exts : Bytes) :
    Call.Rel (Touches readHelloFields) (tlsProcessServerHello env hrr head exts) :=
  rel_tlsProcessServerHello env hrr head exts (fun _ _ _ _ => touches_trans)
    (fun _ _ _ => touches_mono (by decide)) (fun _ raw =>
    touches_weaken (by decide) (touches_tlsParseAllExtensions env _ raw 0 true))

theorem touches_tlsProcessEncryptedExtensions (exts : Bytes) :
    Call.Rel (Touches [.other]) (tlsProcessEncryptedExtensions env exts) :=
  touches_collecting_quiet env (by decide) exts true 0 true

theorem touches_tlsProcessCertificateRequest (body : Bytes) :
    Call.Rel (Touches [.phaContext, .certReq, .other]) (tlsProcessCertificateRequest env body) := by
  intro s b t h
  -- The context is replaced first, so a failure behind it leaves the new one.
  have hctx : ∀ c, Touches [.phaContext, .certReq, .other] s true { s with phaContext := c } :=
    fun c => touches_update (by constructor <;> intros <;> first | contradiction | rfl) rfl rfl
  have hasked : Call.Rel (Touches [.phaContext, .certReq, .other])
      (Call.ret (fun u : SSL ω => { u with tmp := { u.tmp with certReq := 1 } })) :=
    Call.rel_ret (fun u =>
      touches_update (by constructor <;> intros <;> first | contradiction | rfl) rfl rfl)
  unfold tlsProcessCertificateRequest at h
  simp only at h
  split at h
  · exact touches_seq (touches_runPhase env _ _ (by decide)) hasked s b t h
  · split at h
    · exact touches_same h
    · split at h
      · exact touches_trans (hctx _) (touches_sslFail _ _ _ _ b t h)
      · split at h
        · exact touches_trans (hctx _) (touches_sslFail _ _ _ _ b t h)
        · refine touches_trans (hctx _) (touches_seq ?_ (touches_seq ?_ ?_) _ b t h)
          · exact touches_weaken (by decide)
              (touches_collecting_quiet env (by decide) _ true 0 true)
          · exact touches_runPhase env _ _ (by decide)
          · split
            · exact touches_sslFail _ _ _
            · exact hasked

end Frames

end Iso21177
