import Iso21177.Lib.Run
import Iso21177.Ssl.PeerCert
import Iso21177.Ssl.StatemFrame

/-!
# Mandatory Client Authentication

A server that sets `SSL_VERIFY_PEER` and `SSL_VERIFY_FAIL_IF_NO_PEER_CERT` wants
no client without a certificate. The demand is looked at when the client's list of
certificates turns out to be empty, two flights after the ClientHello.

Between the two the mode may change. The parser of `client_certificate_type` sets it
to `SSL_VERIFY_PEER` alone, so a client that sends this extension and then an empty
list gets through (`empty_certificate_accepted`). Nothing else a peer sends changes
the mode. Along every run in which no ClientHello carries the extension the demand
stays in force, and a Certificate that is accepted has a certificate in it
(`client_certificate_required`).

## Main definitions

* `requiresClientCert`: The mode demands a certificate.
* `Event.keepsDemand`: The application stays a server and keeps the demand.
* `Event.offersClientType`: A ClientHello with `client_certificate_type`.
* `Demanding`: The invariant.
* `rsaCertificate`, `rsaKey`, `serverFlight`, `helloWithTypes`, `demandingServer`,
  `reusedServer`: A server's handshake.

## Theorems

* `touches_tlsParseAllExtensions_noClnt`, `touches_tlsProcessClientHello_noClnt`:
  Without the extension the mode is left alone.
* `verifyMode_serverProcessMessage`, `verifyMode_readEvent`: What a server reads
  leaves it alone.
* `demanding_start`, `demanding_step`, `demanding_run`: The demand stays in force.
* `tlsProcessClientCertificate_peer`: An accepted list is not empty.
* `readEvent_certificate`: A server reads a Certificate.
* `client_certificate_required`: The demand is met.
* `client_certificate_required_reused`: On an object that is used again.
* `empty_certificate_accepted`: With the extension it need not be.
-/

namespace Iso21177

variable {ω : Type}

/-- The mode demands a certificate of the client. -/
def requiresClientCert (mode : BitVec 32) : Bool :=
  mode &&& sslVerifyPeer ≠ 0 && mode &&& sslVerifyFailIfNoPeerCert ≠ 0

/-- The object is used as a server, and a mode that is set demands a certificate. -/
def Event.keepsDemand : Event → Bool
  | .start server => server
  | .config (.setVerify mode) => requiresClientCert mode
  | _ => true

/-- The event is a ClientHello with `client_certificate_type`. -/
def Event.offersClientType : Event → Bool
  | .read (.clientHello _ exts) => carries Role.clnt.extType exts
  | _ => false

/-- A server, or an object that may still become one, with the demand in force. -/
def Demanding (s : SSL ω) : Prop :=
  requiresClientCert s.verifyMode = true ∧ (s.statem.state = .uninited ∨ s.server = true)

section

variable (env : Env ω)

/-- The mode is written by the parser of `client_certificate_type` only. -/
theorem touches_tlsParseAllExtensions_noClnt (ctx : ExtCtx) {raw : RawExts} (chainidx : Nat)
    (fin : Bool) (hraw : raw.lookup tlsextIdxClntType = none) :
    Call.Rel (Touches [.decided, .pha, .hrr, .other])
      (tlsParseAllExtensions env ctx raw chainidx fin) := by
  refine touches_seq ?_ (touches_weaken (by decide) (touches_finals env ctx raw fin))
  refine touches_each extRows (fun r _ => ?_)
  -- Only the parser of this row writes the mode, and it does not run.
  by_cases hr : r.2 = tlsextIdxClntType
  · intro s b t h
    unfold tlsParseExtension at h
    rw [hr, hraw] at h
    exact touches_same h
  · refine touches_tlsParseExtension env ctx raw chainidx r (fun body s b t h => ?_)
    by_cases hi : 2 ≤ r.2
    · exact touches_mono (by decide)
        (touches_extParser_rest env ctx chainidx r.2 body hi s b t h)
    · have h0 : r.2 = tlsextIdxSrvType := by
        simp only [tlsextIdxClntType, tlsextIdxSrvType] at hr ⊢
        omega
      unfold extParser at h
      rw [if_pos h0] at h
      split at h
      · exact touches_mono (by decide) (touches_tlsParseCtosCertTypeExt .srv body s b t h)
      · exact touches_mono (by decide) (touches_tlsParseStocCertTypeExt .srv body s b t h)

theorem touches_tlsProcessClientHello_noClnt (head : Bytes) {exts : Bytes}
    (hexts : carries Role.clnt.extType exts = false) :
    Call.Rel (Touches [.decided, .pha, .hrr, .other, .tls13, .session, .heap])
      (tlsProcessClientHello env head exts) := by
  refine rel_tlsProcessClientHello env head exts (fun _ _ _ _ => touches_trans)
    (fun _ _ _ => touches_mono (by decide)) (fun flags raw hraw => ?_)
  have hnone : raw.lookup tlsextIdxClntType = none := by
    have hsome := collectBlock_isSome hraw (verifyExtension_certType .clnt (by decide))
    rw [hexts] at hsome
    exact Option.not_isSome_iff_eq_none.mp (by rw [← Bool.not_eq_true] at hsome; exact hsome)
  exact touches_weaken (by decide)
    (touches_tlsParseAllExtensions_noClnt env sslExtClientHello 0 true hnone)

/-- What a server processes leaves the mode alone, but for that one extension. -/
theorem verifyMode_serverProcessMessage {m : Msg} {s t : SSL ω} {b : Bool}
    (hm : Event.offersClientType (.read m) = false)
    (h : serverProcessMessage env m s = some (b, t)) : t.verifyMode = s.verifyMode := by
  unfold serverProcessMessage at h
  split at h
  · rename_i head exts _
    refine (touches_seq (touches_weaken (List.subset_append_left _ choiceFields)
      (touches_tlsProcessClientHello_noClnt env head hm))
      (touches_weaken (List.subset_append_right _ _) (touches_tlsPostProcessClientHello env))
      s b t h).verifyMode (by decide)
  · exact (touches_tlsProcessClientCertificate env _ s b t h).verifyMode (by decide)
  · exact (touches_tlsProcessCertVerify env _ s b t h).verifyMode (by decide)
  all_goals first
    | exact (touches_runOther _ s b t h).verifyMode (by decide)
    | exact (touches_sslFail [] _ _ s b t h).verifyMode (by decide)

theorem verifyMode_readEvent {m : Msg} {s t : SSL ω} (hs : s.server = true)
    (hm : Event.offersClientType (.read m) = false) (h : readEvent env m s = some t) :
    t.verifyMode = s.verifyMode := by
  rcases readEvent_cases env h with ⟨u, hu, rfl⟩ | ⟨st, u, b, v, -, hu, -, hp, rfl⟩
  · rw [(keeps_checkFatal [] u).verifyMode (by decide), hu.verifyMode (by decide)]
  · have hsv : ((u.enter st).note (.recv m)).server = true := (hu.server (by decide)).trans hs
    unfold processMessage at hp
    rw [if_pos hsv] at hp
    have hv : v.verifyMode = s.verifyMode :=
      (verifyMode_serverProcessMessage env hm hp).trans (hu.verifyMode (by decide))
    cases b with
    | false => exact ((keeps_checkFatal [] v).verifyMode (by decide)).trans hv
    | true =>
        rw [if_pos rfl]
        split
        · exact hv
        · exact hv

theorem demanding_start {s t : SSL ω} (hs : Demanding s) (hst : s.statem.state = .uninited)
    (h : startEvent env true s = some t) : Demanding t := by
  have hmode : t.verifyMode = s.verifyMode := (keeps_startEvent env h).verifyMode (by decide)
  refine ⟨by rw [hmode]; exact hs.1, ?_⟩
  rcases startEvent_cases env h with hc | ⟨u, b, v, -, hp, rfl⟩
  · left
    unfold sslClear at hc
    simp only at hc
    split at hc
    · rw [← (Prod.mk.inj (Option.some.inj hc)).2]
      exact hst
    · exact absurd hc (by simp only [Option.some.injEq, Prod.mk.injEq, Bool.true_eq_false,
        false_and, not_false_eq_true])
  · right
    have hv : v.server = true := (touches_runOther _ _ b v hp).server (by decide)
    split
    · exact hv
    · exact hv

/-- A step of a server that is not shown the extension keeps the demand. -/
theorem demanding_step {s t : SSL ω} {ev : Event} (hk : ev.keepsDemand = true)
    (ho : ev.offersClientType = false) (hs : Demanding s) (h : step env s ev = some t) :
    Demanding t := by
  -- A started object is a server, and only starting changes the side.
  have hsrv : s.statem.state ≠ .uninited → s.server = true := fun hne => hs.2.resolve_left hne
  have hkeep := keeps_step env h
  rcases step_cases env h with rfl | ⟨server, rfl, hst, hst'⟩ | ⟨rfl, hst, rfl⟩ |
    ⟨m, rfl, hst, hr⟩ | ⟨rfl, hst, -⟩ | ⟨rfl, b, hc⟩ | ⟨c, rfl, -, -, b, hc⟩
  · exact hs
  · cases hk
    exact demanding_start env hs hst hst'
  · exact ⟨hs.1, Or.inr (hsrv (by rw [hst]; exact MsgFlow.noConfusion))⟩
  · have hserver := hsrv (by rw [hst]; exact MsgFlow.noConfusion)
    refine ⟨by rw [verifyMode_readEvent env hserver ho hr]; exact hs.1, Or.inr ?_⟩
    exact (server_step env h (fun _ => Event.noConfusion)).trans hserver
  · have hserver := hsrv (by rw [hst]; exact MsgFlow.noConfusion)
    refine ⟨by rw [hkeep.verifyMode (by decide)]; exact hs.1, Or.inr ?_⟩
    exact (server_step env h (fun _ => Event.noConfusion)).trans hserver
  · refine ⟨by rw [hkeep.verifyMode (by decide)]; exact hs.1, ?_⟩
    unfold sslClear at hc
    simp only at hc
    split at hc
    · rw [← (Prod.mk.inj (Option.some.inj hc)).2]
      exact hs.2
    · rw [← (Prod.mk.inj (Option.some.inj hc)).2]
      exact Or.inl rfl
  · rcases touches_configCall env c s b t hc with ⟨hu, hflow⟩
    refine ⟨?_, ?_⟩
    · cases c with
      | setVerify mode =>
          rw [← (Prod.mk.inj (Option.some.inj hc)).2]
          exact hk
      | _ =>
          rw [hu.verifyMode (by simp only [configFields]; decide)]
          exact hs.1
    · rw [hflow, server_step env h (fun _ => Event.noConfusion)]
      exact hs.2

/-- The demand stays in force along a run. -/
theorem demanding_run {s0 s : SSL ω} {es : List Event} (h0 : Demanding s0)
    (hes : ∀ ev ∈ es, ev.keepsDemand = true ∧ ev.offersClientType = false)
    (h : run (step env) s0 es = some s) : Demanding s :=
  run_invariant_along (step env) _ Demanding
    (fun _ _ _ hok hs hst => demanding_step env hok.1 hok.2 hs hst) es s0 s
    (along_of_forall (step env) _ es s0 hes) h0 h

/-- Under a mode that demands a certificate, an accepted Certificate has one and it is
    the peer's. -/
theorem tlsProcessClientCertificate_peer {body : Bytes} {s t : SSL ω} (h13 : s.tls13 = true)
    (hmode : requiresClientCert s.verifyMode = true)
    (h : tlsProcessClientCertificate env body s = some (true, t)) :
    certificatesOf body ≠ [] ∧ (t.session.bind Session.peer).isSome = true := by
  rcases tlsProcessClientCertificate_cases h with
    ⟨list, chain, s1, s2, s3, s4, -, hr, hc, hst, h4, hsave⟩
  have hmode1 : s1.verifyMode = s.verifyMode :=
    (touches_readCertificates env _ hr).verifyMode (by decide)
  have hpeer : (t.session.bind Session.peer).isSome = true := by
    rw [(saveCertVerifyHash_true hsave).2.1, h4.session (by decide),
      (storeClientChain_true hst).1]
    cases chain with
    | nil =>
        -- The only look at the demand.
        simp only [requiresClientCert, Bool.and_eq_true, decide_eq_true_eq] at hmode
        simp only [checkClientChain, hmode1, if_pos hmode] at hc
        exact absurd hc (sslFail_ne_true _ _ _ _)
    | cons a as => rfl
  exact ⟨(tlsProcessClientCertificate_peer_iff h13 h).mp hpeer, hpeer⟩

/-- What a server reads as a Certificate is processed as one, or refused. -/
theorem readEvent_certificate {body : Bytes} {s t : SSL ω} (hs : s.server = true)
    (h13 : s.tls13 = true) (h : readEvent env (.certificate body) s = some t) (hf : ¬ t.Fatal) :
    ∃ v, tlsProcessClientCertificate env body ((s.enter .srCert).note (.recv (.certificate body))) =
      some (true, v) ∧ t.session = v.session := by
  rcases readEvent_cases env h with ⟨u, -, rfl⟩ | ⟨st, u, b, v, htr, -, hu, hp, rfl⟩
  · exact absurd (fatal_checkFatal u) hf
  · have hst : st = .srCert := by
      simpa only [hs, if_true] using readTransition_certificate h13 htr
    subst hst
    rw [hu HandState.noConfusion] at hp
    have hsv : ((s.enter .srCert).note (.recv (.certificate body))).server = true := hs
    simp only [processMessage, hsv, if_true] at hp
    cases b with
    | false => exact absurd (fatal_checkFatal v) hf
    | true =>
        refine ⟨v, hp, ?_⟩
        rw [if_pos rfl]
        split <;> rfl

/-- Along a run in which no ClientHello carries `client_certificate_type`, a server that
    demands a certificate gets past the client's Certificate only with one. -/
theorem client_certificate_required {s0 s t : SSL ω} {es : List Event} {body : Bytes}
    (hs0 : s0.statem.state = .uninited ∨ s0.server = true)
    (hmode : requiresClientCert s0.verifyMode = true)
    (hes : ∀ ev ∈ es, ev.keepsDemand = true)
    (hno : ∀ ev ∈ es, ev.offersClientType = false)
    (hrun : run (step env) s0 es = some s) (hread : s.statem.state = .reading)
    (h13 : s.tls13 = true) (h : step env s (.read (.certificate body)) = some t)
    (hf : ¬ t.Fatal) :
    certificatesOf body ≠ [] ∧ (t.session.bind Session.peer).isSome = true := by
  -- The mode is still the one that was configured.
  have hd : Demanding s :=
    demanding_run env ⟨hmode, hs0⟩ (fun ev hev => ⟨hes ev hev, hno ev hev⟩) hrun
  have hserver : s.server = true := by
    refine hd.2.resolve_left ?_
    rw [hread]
    exact MsgFlow.noConfusion
  have hr : readEvent env (.certificate body) s = some t := by
    simpa only [step, hread] using h
  rcases readEvent_certificate env hserver h13 hr hf with ⟨v, hv, hsess⟩
  rw [hsess]
  refine tlsProcessClientCertificate_peer env ?_ ?_ hv
  · exact h13
  · exact hd.1

end

/-- An X.509 certificate with an RSA key. -/
def rsaCertificate : X509 := ⟨.parsed [1] (some (.other (some .rsa) [1])), none⟩

/-- Its private key. -/
def rsaKey : EvpPkey := ⟨.other (some .rsa) [1]⟩

/-- A server's handshake up to where the client's Certificate is awaited. -/
def serverFlight (exts : Bytes) : List Event :=
  [.config (.own (.useCertificate rsaCertificate)), .config (.own (.usePrivateKey rsaKey)),
    .start true, .write, .read (.clientHello [] exts)] ++ List.replicate 8 .write

/-- Both certificate-type extensions, each listing X.509. -/
def helloWithTypes : Bytes := [0, 20, 0, 2, 1, 0, 0, 19, 0, 2, 1, 0]

/-- A server object whose mode demands a certificate, with RFC 8902 enabled for X.509. -/
def demandingServer : SSL Unit :=
  { sslNew SspBuffer.zero (sslVerifyPeer ||| sslVerifyFailIfNoPeerCert) Cert.empty () with
    ieee1609 := { cryptoExSslIeee1609New SspBuffer.zero with rfc8902Support := true } }

/-- The same object after a handshake that decided both roles. -/
def reusedServer : SSL Unit :=
  { demandingServer with
    ieee1609 := (demandingServer.ieee1609.decide .srv .x509).decide .clnt .x509 }

/-- A list with one certificate of one octet is accepted. -/
theorem client_certificate_required_reused :
    ∃ s t, run (step plainEnv) reusedServer (serverFlight []) = some s ∧
      step plainEnv s (.read (.certificate [0, 0, 0, 6, 0, 0, 1, 7, 0, 0])) = some t ∧
      certificatesOf [0, 0, 0, 6, 0, 0, 1, 7, 0, 0] ≠ [] ∧
      (t.session.bind Session.peer).isSome = true := by
  have hrun : (run (step plainEnv) reusedServer (serverFlight [])).any (fun s =>
      s.statem.state = .reading && s.tls13 &&
        (step plainEnv s (.read (.certificate [0, 0, 0, 6, 0, 0, 1, 7, 0, 0]))).any
          (fun t => ¬ t.Fatal)) = true := by decide +kernel
  rcases (Option.any_eq_true _ _).mp hrun with ⟨s, hs, hp⟩
  rw [Bool.and_eq_true, Bool.and_eq_true] at hp
  rcases (Option.any_eq_true _ _).mp hp.2 with ⟨t, ht, hf⟩
  refine ⟨s, t, hs, ht, ?_⟩
  exact client_certificate_required plainEnv (Or.inl rfl) (by decide) (by decide +kernel)
    (by decide +kernel) hs (of_decide_eq_true hp.1.1) hp.1.2 ht (of_decide_eq_true hf)

/-- A ClientHello with `client_certificate_type` and an empty list two flights later:
    the server goes on without a peer. -/
theorem empty_certificate_accepted :
    ¬ ∀ (s0 s t : SSL Unit) (es : List Event) (body : Bytes),
      s0.statem.state = .uninited ∨ s0.server = true →
      requiresClientCert s0.verifyMode = true → (∀ ev ∈ es, ev.keepsDemand = true) →
      run (step plainEnv) s0 es = some s → s.statem.state = .reading → s.tls13 = true →
      step plainEnv s (.read (.certificate body)) = some t → ¬ t.Fatal →
      certificatesOf body ≠ [] ∧ (t.session.bind Session.peer).isSome = true := by
  intro h
  have hrun : (run (step plainEnv) demandingServer (serverFlight helloWithTypes)).any (fun s =>
      s.statem.state = .reading && s.tls13 &&
        (step plainEnv s (.read (.certificate [0, 0, 0, 0]))).any (fun t => ¬ t.Fatal)) = true := by
    decide +kernel
  rcases (Option.any_eq_true _ _).mp hrun with ⟨s, hs, hp⟩
  rw [Bool.and_eq_true, Bool.and_eq_true] at hp
  rcases (Option.any_eq_true _ _).mp hp.2 with ⟨t, ht, hf⟩
  have hcert := h demandingServer s t _ [0, 0, 0, 0] (Or.inl rfl) (by decide) (by decide +kernel) hs
    (of_decide_eq_true hp.1.1) hp.1.2 ht (of_decide_eq_true hf)
  exact hcert.1 (by decide +kernel)

end Iso21177
