import Iso21177.Lib.Run
import Iso21177.Ssl.PeerCert
import Iso21177.Ssl.StatemFrame

/-!
# Who a 1609.2 Peer Is

A 1609.2 peer is known by the hash of its certificate and by the identity its
signature proves. Both come from the security entity: the certificate is shown to it
when the chain is verified and again when the signature is checked, and the signature
is checked against the hash returned the second time.

What ties the two to the message the peer sent is the object in the session. Between
the Certificate and the CertificateVerify it holds the first entry, and the hash of
the transcript is the one saved with it (`CertHeld`). An accepted signature therefore
went through a VERIFY_CERTS exchange on the first entry and a VERIFY_DATA exchange on
the hash it returned (`peer_bound`).

A first entry without octets breaks the tie. No certificate can be made from it, its
object is released while the chain still refers to it, and the next entry may move
into its place. The peer is then whoever the second entry says
(`second_entry_accepted`).

## Main definitions

* `Event.emptyFirstEntry`: A Certificate whose first entry is empty.
* `HandState.afterCertificate`: The states a Certificate leads to.
* `CertHeld`: The invariant.
* `verifyingEntity`, `verifyingEnv`, `serverHelloTypes`, `clientFlight`, `newClient`,
  `accepts`: A client's handshake.
* `Obs.certificateRead`: A Certificate that was read.

## Theorems

* `processMessage_certificate`, `certAccepted_process`: What reading a Certificate
  leaves.
* `writeTransition_afterCertificate`, `certHeld_step`, `certHeld_run`: The invariant.
* `process1609CertVerify_true`: What an accepted signature went through.
* `sslIsUsing1609OtherSide_of_touches`, `serverSigns_of_transition`: Whose it is.
* `peer_bound`: It belongs to the first entry.
* `accepts_run`, `peer_bound_one_entry`: On a Certificate with one entry.
* `second_entry_accepted`: With an empty first entry it need not.
-/

namespace Iso21177

variable {ω : Type}

/-- The event is a Certificate whose first entry is empty. -/
def Event.emptyFirstEntry : Event → Bool
  | .read (.certificate body) => (certificatesOf body).head? = some []
  | _ => false

/-- The states a Certificate leads to. -/
def HandState.afterCertificate (st : HandState) : Bool := st = .crCert || st = .srCert

/-- The object stands right behind a Certificate of TLS 1.3: the last message read is
    one, and what it left is there. -/
def CertHeld (env : Env ω) (s : SSL ω) : Prop :=
  s.statem.state = .reading → s.tls13 = true → s.statem.handState.afterCertificate = true →
    ∃ body l tr, s.trace = l ++ .recv (.certificate body) :: tr ∧
      (∀ o ∈ l, o.isExchange = true) ∧ (certificatesOf body).head? ≠ some [] ∧
      CertAccepted env (sslIsUsing1609OtherSide s) body s

section

variable (env : Env ω)

/-- In these states only a Certificate is processed. -/
theorem processMessage_certificate {m : Msg} {s t : SSL ω}
    (hst : s.statem.handState.afterCertificate = true)
    (h : processMessage env m s = some (true, t)) :
    ∃ body, m = .certificate body ∧
      (s.server = true ∧ tlsProcessClientCertificate env body s = some (true, t) ∨
        s.server = false ∧ Call.seq (tlsProcessServerCertificate env body)
          (tlsPostProcessServerCertificate env) s = some (true, t)) := by
  simp only [HandState.afterCertificate, Bool.or_eq_true, decide_eq_true_eq] at hst
  -- Each side reads a Certificate in one of the two states, and refuses everything in the
  -- other.
  cases hs : s.server with
  | true =>
      simp only [processMessage, hs, if_true] at h
      rcases hst with hst | hst
      · simp only [serverProcessMessage, hst] at h
        exact absurd h (sslFail_ne_true _ _ _ _)
      · cases m with
        | certificate body =>
            simp only [serverProcessMessage, hst] at h
            exact ⟨body, rfl, Or.inl ⟨rfl, h⟩⟩
        | _ =>
            simp only [serverProcessMessage, hst] at h
            exact absurd h (sslFail_ne_true _ _ _ _)
  | false =>
      simp only [processMessage, hs, Bool.false_eq_true, if_false] at h
      rcases hst with hst | hst
      · cases m with
        | certificate body =>
            simp only [clientProcessMessage, hst] at h
            exact ⟨body, rfl, Or.inr ⟨rfl, h⟩⟩
        | _ =>
            simp only [clientProcessMessage, hst] at h
            exact absurd h (sslFail_ne_true _ _ _ _)
      · simp only [clientProcessMessage, hst] at h
        exact absurd h (sslFail_ne_true _ _ _ _)

/-- The kind of certificate the peer uses depends on the side and the decisions. -/
theorem sslIsUsing1609OtherSide_of_touches {fs : List Field} {s t : SSL ω} {b : Bool}
    (h : Touches fs s b t) (hsv : .server ∉ fs) (hd : .decided ∉ fs) :
    sslIsUsing1609OtherSide t = sslIsUsing1609OtherSide s := by
  have hdec := h.decided hd
  simp only [SSL.decided, Prod.mk.injEq] at hdec
  simp only [sslIsUsing1609OtherSide, sslIsUsing1609Client, sslIsUsing1609Server, h.server hsv,
    hdec.1, hdec.2]

/-- What processing a Certificate leaves on either side. -/
theorem certAccepted_process {m : Msg} {s t : SSL ω} (h13 : t.tls13 = true)
    (hst : t.statem.handState.afterCertificate = true)
    (h : processMessage env m s = some (true, t)) :
    ∃ body, m = .certificate body ∧ CertAccepted env (sslIsUsing1609OtherSide t) body t := by
  obtain ⟨body, rfl, hb⟩ := processMessage_certificate env
    (by rw [← (touches_processMessage env m s true t h).handState]; exact hst) h
  have ht : Touches (touchedBy .certificate) s true t := touches_processMessage env _ s true t h
  have h13s : s.tls13 = true := by
    rw [← ht.tls13 (by decide)]
    exact h13
  refine ⟨body, rfl, ?_⟩
  rw [sslIsUsing1609OtherSide_of_touches ht (by decide) (by decide)]
  rcases hb with ⟨hs, hb⟩ | ⟨hs, hb⟩
  · simp only [sslIsUsing1609OtherSide, hs, if_true]
    exact tlsProcessClientCertificate_true h13s hb
  · simp only [sslIsUsing1609OtherSide, hs, Bool.false_eq_true, if_false]
    exact tlsProcessServerCertificate_true h13s hb

/-- Reading does not start in these states: in TLS 1.3 nothing is written there. -/
theorem writeTransition_afterCertificate {s : SSL ω} (h13 : s.tls13 = true)
    (hst : s.statem.handState.afterCertificate = true) :
    writeTransition env s ≠ .finished := by
  simp only [HandState.afterCertificate, Bool.or_eq_true, decide_eq_true_eq] at hst
  intro hw
  rcases hst with hst | hst <;> cases hs : s.server <;>
    simp only [writeTransition, h13, hs, hst, if_true, Bool.false_eq_true, if_false,
      client13WriteTransition, server13WriteTransition, reduceCtorEq] at hw

/-- A step keeps the invariant unless it reads a Certificate with an empty first
    entry. -/
theorem certHeld_step {s t : SSL ω} {ev : Event} (hev : ev.emptyFirstEntry = false)
    (hs : CertHeld env s) (h : step env s ev = some t) : CertHeld env t := by
  intro hread h13 hst
  rcases reading_cases env h hread with rfl | hc | ⟨m, st, u, rfl, -, hu, -, hp, -⟩ | ⟨-, hw, rfl⟩
  · exact hs hread h13 hst
  · -- A refused clearing takes the session away at most.
    unfold sslClear at hc
    simp only at hc
    split at hc
    · rw [Option.some.injEq, Prod.mk.injEq] at hc
      rcases hc with ⟨-, rfl⟩
      rcases hs hread h13 hst with ⟨body, l, tr, htr, hl, hne, hacc⟩
      refine ⟨body, l, tr, htr, hl, hne, ⟨fun a ha => ?_, hacc.hash⟩⟩
      refine hacc.peer a ?_
      dsimp only at ha
      split at ha
      · exact absurd ha (by simp only [Option.bind_none, reduceCtorEq, not_false_eq_true])
      · exact ha
    · exact absurd hc (by simp only [Option.some.injEq, Prod.mk.injEq, Bool.true_eq_false,
        false_and, not_false_eq_true])
  · rcases certAccepted_process env h13 hst hp with ⟨body, rfl, hacc⟩
    rcases (touches_processMessage env _ _ true t hp).grows with ⟨l, hl, hx⟩
    exact ⟨body, l, u.trace, hl, hx, of_decide_eq_false hev, hacc⟩
  · exact absurd hw (writeTransition_afterCertificate env h13 hst)

theorem certHeld_run {s0 s : SSL ω} {es : List Event} (h0 : s0.statem.state ≠ .reading)
    (hes : ∀ ev ∈ es, ev.emptyFirstEntry = false) (h : run (step env) s0 es = some s) :
    CertHeld env s :=
  run_invariant_along (step env) _ (CertHeld env)
    (fun _ _ _ hok hs hst => certHeld_step env hok hs hst) es s0 s
    (along_of_forall (step env) _ es s0 hes) (fun hr => absurd hr h0) h

/-- What the check of a signature went through, and what it left. -/
theorem process1609CertVerify_true {a : Nat} {body : Bytes} {s t : SSL ω} (h13 : s.tls13 = true)
    (hst : s.statem.handState.checksSignature = true)
    (h : process1609CertVerify env a body s = some (true, t)) :
    ∃ x c vc vd, s.heap.read a = some x ∧ x.ieee1609 = some c ∧
      vc.msgType = secEntMsgTypeTlsVerifyCerts ∧ vd.msgType = secEntMsgTypeTlsVerifyData ∧
      t.trace = .exchange (secEntMsgNewTypeTlsVerifyData (vc.data.take hashedid8Len) body
          (tls13Tbs s.statem.handState.serverSigns s.certVerifyHash)) (some vd) ::
        .exchange (secEntMsgNewTypeTlsVerifyCerts c.certData) (some vc) :: s.trace ∧
      t.ieee1609 = storePeerId vd.data s.ieee1609 ∧ t.session = s.session ∧
      t.heap.read a =
        some { x with ieee1609 := some { c with hashedid8 := vc.data.take hashedid8Len } } := by
  unfold process1609CertVerify at h
  split at h
  · exact absurd h (by simp only [reduceCtorEq, not_false_eq_true])
  · rename_i x hx
    split at h
    · exact absurd h (sslFail_ne_true _ _ _ _)
    · rename_i c hc
      split at h
      · exact absurd h (by simp only [reduceCtorEq, not_false_eq_true])
      · exact absurd h (sslFail_ne_true _ _ _ _)
      · rename_i c' s' hv
        rcases ieee1609CertVerify_some hv with ⟨vc, hvc, rfl, rfl⟩
        -- The exchange left the version, the state and the saved hash as they were.
        simp only [getCertVerifyTbsData, SSL.note, h13, hst, if_true] at h
        rcases tlsProcessIeee1609CertCertVerify_true h with ⟨c1, vd, hc1, hvd, -, -, rfl⟩
        rw [Option.some.injEq] at hc1
        subst hc1
        exact ⟨x, c, vc, vd, hx, hc, hvc, hvd, rfl, rfl, rfl, Heap.read_write_self _ hx⟩

/-- The states of a signature being checked, and whose signature it is. -/
theorem serverSigns_of_transition {s : SSL ω} {st : HandState} (h13 : s.tls13 = true)
    (h : readTransition env s .certificateVerify = some st) :
    s.statem.handState.afterCertificate = true ∧ st.checksSignature = true ∧
      st.serverSigns = !s.server := by
  rcases readTransition_certificateVerify h13 h with ⟨hhs, rfl⟩
  cases hs : s.server <;> rw [hs] at hhs <;>
    simp only [Bool.false_eq_true, if_false, if_true] at hhs
  · exact ⟨by rw [hhs]; decide, by decide, by decide⟩
  · exact ⟨by rw [hhs]; decide, by decide, by decide⟩

/-- Along a run that reads no Certificate with an empty first entry, a CertificateVerify
    of a 1609.2 peer that is accepted was checked for the first entry of its
    Certificate: the security entity was shown these octets and returned a hash, and it
    was then shown that hash, the message, and the data the peer signs over the
    transcript up to the Certificate. The identity it returned is the one stored, and
    the hash is the one handed out. -/
theorem peer_bound {s0 s t : SSL ω} {es : List Event} {cv : Bytes} {st : HandState}
    (h0 : s0.statem.state = .uninited) (hes : ∀ ev ∈ es, ev.emptyFirstEntry = false)
    (hrun : run (step env) s0 es = some s) (hread : s.statem.state = .reading)
    (h13 : s.tls13 = true) (h1609 : sslIsUsing1609OtherSide s = true)
    (htr : readTransition env s .certificateVerify = some st)
    (h : tlsProcessCertVerify env cv ((s.enter st).note (.recv (.certificateVerify cv))) =
      some (true, t)) :
    ∃ body l tr e hash vc vd,
      s.trace = l ++ .recv (.certificate body) :: tr ∧ (∀ o ∈ l, o.isExchange = true) ∧
      (certificatesOf body).head? = some e ∧ env.handshakeHash s.trace s.other = some hash ∧
      vc.msgType = secEntMsgTypeTlsVerifyCerts ∧ vd.msgType = secEntMsgTypeTlsVerifyData ∧
      t.trace = .exchange (secEntMsgNewTypeTlsVerifyData (vc.data.take hashedid8Len) cv
          (tls13Tbs (!s.server) hash)) (some vd) ::
        .exchange (secEntMsgNewTypeTlsVerifyCerts e) (some vc) ::
        .recv (.certificateVerify cv) :: s.trace ∧
      t.ieee1609.psidOtherSide = UInt64.ofNat (Packet.beVal (vd.data.take 8)) ∧
      (t.ieee1609.psidOtherSide ≠ 0 → ∃ ssp, sslGet1609PsidReceived t false true =
        some (some ⟨t.ieee1609.psidOtherSide, ssp, some (vc.data.take hashedid8Len)⟩)) := by
  rcases serverSigns_of_transition env h13 htr with ⟨hafter, hchecks, hsigns⟩
  -- The state before the signature is the one the Certificate left.
  have hheld := certHeld_run env (by rw [h0]; exact MsgFlow.noConfusion) hes hrun
  rcases hheld hread h13 hafter with ⟨body, l, tr, htrace, hl, hne, hacc⟩
  rcases Call.seq_true.mp h with ⟨u, hcheck, hphase⟩
  have hother := touches_runOther _ u true t hphase
  have huse : sslIsUsing1609OtherSide ((s.enter st).note (.recv (.certificateVerify cv))) = true :=
    h1609
  split at hcheck
  · exact absurd hcheck (by simp only [reduceCtorEq, not_false_eq_true])
  · rename_i sess hsess
    rw [if_pos huse] at hcheck
    split at hcheck
    · exact absurd hcheck (by simp only [reduceCtorEq, not_false_eq_true])
    · rename_i a ha
      obtain ⟨x, c, vc, vd, hx, hc, hvc, hvd, htrace', hid, hsess', hheap⟩ :=
        process1609CertVerify_true (s := (s.enter st).note (.recv (.certificateVerify cv))) env
          h13 hchecks hcheck
      have hpeer : s.session.bind Session.peer = some a := by
        have hss : s.session = some sess := hsess
        rw [hss]
        exact ha
      rcases hacc.peer a hpeer with ⟨e, he, hold⟩
      have hene : e ≠ [] := fun hnil => hne (by rw [he, hnil])
      -- The object the signature is checked with still holds the first entry.
      rcases hold h1609 hene x hx with ⟨c', hc', hdata⟩
      rw [hc, Option.some.injEq] at hc'
      subst hc'
      have hpsid : t.ieee1609.psidOtherSide = UInt64.ofNat (Packet.beVal (vd.data.take 8)) := by
        have hp := hother.peerId (by decide)
        simp only [SSL.peerId, Prod.mk.injEq, hid] at hp
        exact hp.1
      refine ⟨body, l, tr, e, s.certVerifyHash, vc, vd, htrace, hl, he, hacc.hash h13, hvc, hvd,
        ?_, hpsid, fun hnz => ?_⟩
      · rw [hother.trace (by decide), htrace', ← hdata, ← hsigns]
        rfl
      · -- The hash is read from the object the session names, which was updated on the
        -- way.
        have hsess_t : t.session = some sess := by
          rw [hother.session (by decide), hsess']
          exact hsess
        refine ⟨t.ieee1609.sspOtherSide.load t.ieee1609.sspOtherSideLen, ?_⟩
        simp only [sslGet1609PsidReceived, if_neg hnz, Bool.false_eq_true, if_false, if_true,
          hsess_t, ha, hother.heap (by decide), hheap]

end

/-- A security entity that accepts every certificate and every signature, and names
    PSID 36. -/
def verifyingEntity (req : SecEntMsg) : Option SecEntMsg :=
  if req.msgType = secEntMsgTypeTlsVerifyCerts then
    some ⟨secEntMsgTypeTlsVerifyCerts, [1, 2, 3, 4, 5, 6, 7, 8]⟩
  else if req.msgType = secEntMsgTypeTlsVerifyData then
    some ⟨secEntMsgTypeTlsVerifyData, [0, 0, 0, 0, 0, 0, 0, 36]⟩
  else if req.msgType = secEntMsgTypeGetAt then some ⟨secEntMsgTypeGetAt, [0]⟩
  else none

def verifyingEnv : Env Unit := { plainEnv with secEnt := fun _ req => verifyingEntity req }

/-- A key share, and the choice of 1609.2 for the server and X.509 for the client. -/
def serverHelloTypes : Bytes := [0, 51, 0, 0, 0, 20, 0, 1, 3, 0, 19, 0, 1, 0]

/-- A client's handshake up to the server's Certificate. -/
def clientFlight (body : Bytes) : List Event :=
  [.config (.enableRfc8902Support sslRfc89021609 sslRfc8902X509 false), .start false, .write,
    .write, .read (.serverHello false [] serverHelloTypes), .read (.encryptedExtensions []),
    .read (.certificate body)]

/-- The body of a Certificate that was read. -/
def Obs.certificateRead : Obs → Option Bytes
  | .recv (.certificate body) => some body
  | _ => none

/-- A new object that verifies nothing on its own. -/
def newClient : SSL Unit := sslNew SspBuffer.zero 0 Cert.empty ()

/-- The client takes this CertificateVerify, and what that leaves passes a test. -/
def accepts (cv : Bytes) (P : SSL Unit → Bool) (s : SSL Unit) : Bool :=
  s.statem.state = .reading && s.tls13 && sslIsUsing1609OtherSide s &&
    readTransition verifyingEnv s .certificateVerify = some .crCertVrfy &&
    (tlsProcessCertVerify verifyingEnv cv
      ((s.enter .crCertVrfy).note (.recv (.certificateVerify cv)))).any (fun r => r.1 && P r.2)

theorem accepts_run {es : List Event} (cv : Bytes) {P : SSL Unit → Bool}
    (h : (run (step verifyingEnv) newClient es).any (accepts cv P) = true) :
    ∃ s t, run (step verifyingEnv) newClient es = some s ∧ s.statem.state = .reading ∧
      s.tls13 = true ∧ sslIsUsing1609OtherSide s = true ∧
      readTransition verifyingEnv s .certificateVerify = some .crCertVrfy ∧
      tlsProcessCertVerify verifyingEnv cv
        ((s.enter .crCertVrfy).note (.recv (.certificateVerify cv))) = some (true, t) ∧
      P t = true := by
  rcases (Option.any_eq_true _ _).mp h with ⟨s, hs, ha⟩
  simp only [accepts, Bool.and_eq_true, decide_eq_true_eq] at ha
  rcases ha with ⟨⟨⟨⟨hr, h13⟩, hu⟩, htr⟩, ht⟩
  rcases (Option.any_eq_true _ _).mp ht with ⟨⟨b, t⟩, hb, hp⟩
  rw [Bool.and_eq_true] at hp
  refine ⟨s, t, hs, hr, h13, hu, htr, ?_, hp.2⟩
  rw [hb, show b = true from hp.1]

/-- A Certificate with one entry of one octet, and a signature that is accepted. -/
theorem peer_bound_one_entry :
    ∃ s t vc, run (step verifyingEnv) newClient (clientFlight [0, 0, 0, 6, 0, 0, 1, 7, 0, 0]) =
        some s ∧
      tlsProcessCertVerify verifyingEnv [9]
        ((s.enter .crCertVrfy).note (.recv (.certificateVerify [9]))) = some (true, t) ∧
      t.trace[1]? = some (.exchange (secEntMsgNewTypeTlsVerifyCerts [7]) (some vc)) := by
  obtain ⟨s, t, hs, hr, h13, hu, htr, ht, hp⟩ := accepts_run [9]
    (P := fun t => t.trace[1]?.any (fun o => o.request = some (secEntMsgNewTypeTlsVerifyCerts [7])))
    (show (run (step verifyingEnv) newClient
      (clientFlight [0, 0, 0, 6, 0, 0, 1, 7, 0, 0])).any (accepts [9] _) = true by decide +kernel)
  obtain ⟨body, l, tr, e, hash, vc, vd, -, -, -, -, -, -, htrace, -, -⟩ :=
    peer_bound verifyingEnv rfl (by decide +kernel) hs hr h13 hu htr ht
  refine ⟨s, t, vc, hs, ht, ?_⟩
  rw [htrace] at hp ⊢
  simp only [List.getElem?_cons_succ, List.getElem?_cons_zero, Option.any_some, Obs.request,
    Option.some.injEq, decide_eq_true_eq] at hp ⊢
  rw [hp]

/-- A Certificate whose first entry is empty: the signature is accepted for the second
    entry. -/
theorem second_entry_accepted :
    ¬ ∀ (s0 s t : SSL Unit) (es : List Event) (cv : Bytes) (st : HandState),
      s0.statem.state = .uninited → run (step verifyingEnv) s0 es = some s →
      s.statem.state = .reading → s.tls13 = true → sslIsUsing1609OtherSide s = true →
      readTransition verifyingEnv s .certificateVerify = some st →
      tlsProcessCertVerify verifyingEnv cv ((s.enter st).note (.recv (.certificateVerify cv))) =
        some (true, t) →
      ∃ body l tr e vc, s.trace = l ++ .recv (.certificate body) :: tr ∧
        (∀ o ∈ l, o.isExchange = true) ∧ (certificatesOf body).head? = some e ∧
        .exchange (secEntMsgNewTypeTlsVerifyCerts e) (some vc) ∈ t.trace := by
  intro h
  obtain ⟨s, t, hs, hr, h13, hu, htr, ht, hp⟩ := accepts_run [9]
    (P := fun t => t.trace.all (fun o => o.request ≠ some (secEntMsgNewTypeTlsVerifyCerts []) &&
      o.certificateRead.all (fun body => (certificatesOf body).head? = some [])))
    (show (run (step verifyingEnv) newClient
      (clientFlight [0, 0, 0, 11, 0, 0, 0, 0, 0, 0, 0, 1, 7, 0, 0])).any (accepts [9] _) = true by
        decide +kernel)
  obtain ⟨body, l, tr, e, vc, htrace, -, he, hmem⟩ :=
    h newClient s t _ [9] .crCertVrfy rfl hs hr h13 hu htr ht
  rw [List.all_eq_true] at hp
  -- The Certificate is in the record after the check too.
  have hgrow : .recv (.certificate body) ∈ t.trace := by
    rcases (touches_tlsProcessCertVerify verifyingEnv [9] _ true t ht).grows with ⟨l', hl', -⟩
    rw [hl']
    refine List.mem_append_right _ (List.mem_cons_of_mem _ ?_)
    change _ ∈ s.trace
    rw [htrace]
    exact List.mem_append_right _ (List.mem_cons_self ..)
  have hbody := hp _ hgrow
  have hreq := hp _ hmem
  simp only [Obs.certificateRead, Option.all_some, Bool.and_eq_true, decide_eq_true_eq, he,
    Option.some.injEq] at hbody
  simp only [Obs.request, hbody.2, ne_eq, not_true_eq_false, decide_false, Bool.false_and,
    Bool.false_eq_true] at hreq

end Iso21177
