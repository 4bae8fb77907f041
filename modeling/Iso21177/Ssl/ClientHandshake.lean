import Iso21177.Ssl.Agreement
import Iso21177.Ssl.PeerReport
import Iso21177.Ssl.Questions
import Iso21177.Ssl.Safety

/-!
# What a Client's Handshake Leaves

A client that connects knows nothing of its peer until it reads the peer's signature
(`Listening`). After that only messages follow that are not about the peer (`Heard`), so the
session, the identity and the result of the verification are at the end what they were behind
the signature (`unmoved_run`).

The result of the verification is set for X.509 chains only. With a 1609.2 peer it is still
the initial one, which means success; what stands for it is that the handshake would have
failed.

## Main definitions

* `HandState.afterSignature`: The states from the server's signature on.
* `Listening`, `Heard`: A client before and behind the signature.
* `Unmoved`: What is known of the peer is as it was.
* `ProvedBy`: The exchanges that a report comes from.
* `PeerHash`: The hash that is reported.
* `Event.orderly`: The events of a handshake, with no empty certificate.

## Theorems

* `tls13_of_read`, `afterSignature_read`, `afterSignature_write`, `readTransition_ne_ok`,
  `handState_writeEvent`, `over_writeEvent`: Where a transition leads.
* `verifyResult_sslVerifyCertChain`, `verifyResult_serverCertificate`, `result_certificate`:
  The result of the verification.
* `sslIsUsing1609OtherSide_of_keeps`, `peerId_x509Signature`, `peerId_certificateVerify`,
  `session_writeEvent`, `result_held`, `result_kept`: What steps leave alone.
* `processMessage_certificateVerify`, `process1609CertVerify_known`,
  `tlsProcessCertVerify_known`, `read_certificateVerify`, `signature_read`: The signature and
  what it leaves.
* `PeerHash.congr`, `report_of_peerHash`, `sslGet1609PsidReceived_unmoved`, `provedBy_mono`:
  The report and its origin, also later on.
* `Event.inHandshake_of_orderly`, `Event.noEmptyEntry_of_orderly`,
  `Event.emptyFirstEntry_of_orderly`, `clean_of_orderly`: Orderly events.
* `listening_read`, `listening_write`, `listening_step`: Steps before the signature.
* `going_step`, `heard_step`, `unmoved_run`: Steps and runs behind it.
* `report_proved`: Whole handshakes.
-/

namespace Iso21177

variable {ω : Type}

/-- The states of a client from the server's signature on. -/
def HandState.afterSignature : HandState → Bool
  | .crCertVrfy | .crFinished | .cwChange | .cwCert | .cwCertVrfy | .cwFinished | .ok => true
  | _ => false

/-- A client that has no identity of a peer. A result of the verification comes from a chain
    that is none of 1609.2. -/
structure Listening (s : SSL ω) : Prop where
  side : s.server = false
  unknown : s.ieee1609.psidOtherSide = 0
  result : s.verifyResult ≠ 0 → s.tls13 = true ∧
    (s.statem.handState = .crCert ∨ s.statem.handState.afterSignature = true) ∧
    sslIsUsing1609OtherSide s = false
  ended : s.statem.handState = .ok → s.statem.state = .finished

/-- A client behind the server's signature. -/
structure Heard (s : SSL ω) : Prop where
  side : s.server = false
  version : s.tls13 = true
  place : s.statem.handState.afterSignature = true
  ended : s.statem.handState = .ok → s.statem.state = .finished

/-- What is known of the peer is as it was. -/
structure Unmoved (s t : SSL ω) : Prop where
  session : t.session = s.session
  heap : t.heap = s.heap
  peerId : t.peerId = s.peerId
  verifyResult : t.verifyResult = s.verifyResult

/-- The exchanges behind a report: the security entity gave a hash for the first entry of the
    Certificate that the client read last, and confirmed the signature `cv` for this hash, over
    the transcript up to that Certificate. -/
def ProvedBy (env : Env ω) (s : SSL ω) (cv : Bytes) (tr : List Obs) (rep : PeerReport) : Prop :=
  ∃ body l tr' e hash vc vd,
    s.trace = l ++ .recv (.certificate body) :: tr' ∧ (∀ o ∈ l, o.isExchange = true) ∧
    (certificatesOf body).head? = some e ∧ env.handshakeHash s.trace s.other = some hash ∧
    vc.msgType = secEntMsgTypeTlsVerifyCerts ∧ vd.msgType = secEntMsgTypeTlsVerifyData ∧
    .exchange (secEntMsgNewTypeTlsVerifyCerts e) (some vc) ∈ tr ∧
    .exchange (secEntMsgNewTypeTlsVerifyData (vc.data.take hashedid8Len) cv
      (tls13Tbs true hash)) (some vd) ∈ tr ∧
    rep.psid = UInt64.ofNat (Packet.beVal (vd.data.take 8)) ∧
    (vd.data.length ≠ 8 + maxSspLen → rep.ssp = vd.data.drop 8) ∧
    rep.hashedid = some (vc.data.take hashedid8Len)

/-- A message written, or one read that is no Certificate with an empty entry. -/
def Event.orderly : Event → Bool
  | .read (.certificate body) => decide (NoEmptyEntry true body)
  | .read _ | .write => true
  | _ => false

section Transitions

variable {env : Env ω}

/-- A client that reads has a version, or reads a ServerHello. -/
theorem tls13_of_read {s : SSL ω} {mt : MsgType} {st : HandState} (hs : Placed s)
    (hside : s.server = false) (hflow : s.statem.state = .reading)
    (h : readTransition env s mt = some st) :
    s.tls13 = true ∨ st = .crSrvrHello ∧ mt = .serverHello := by
  cases h13 : s.tls13 with
  | true => exact Or.inl rfl
  | false =>
      rcases hs.version h13 with ⟨-, hread⟩ | ⟨-, hst⟩ | ⟨-, -, hw, -⟩
      · exact absurd hflow (hread hside)
      · simp only [readTransition, h13, hside, hst, Bool.false_eq_true, if_false] at h
        split at h
        · rename_i hmt
          exact Or.inr ⟨(Option.some.inj h).symm, hmt⟩
        · exact absurd h (by simp only [reduceCtorEq, not_false_eq_true])
      · exact absurd (hflow.symm.trans hw) MsgFlow.noConfusion

/-- Behind the Certificate a client reads the signature and then the end of the server's
    messages. -/
theorem afterSignature_read {s : SSL ω} {mt : MsgType} {st : HandState} (h13 : s.tls13 = true)
    (hside : s.server = false) (hok : s.statem.handState ≠ .ok)
    (hst : s.statem.handState = .crCert ∨ s.statem.handState.afterSignature = true)
    (h : readTransition env s mt = some st) :
    st.afterSignature = true ∧ (mt = .certificateVerify ∧ s.statem.handState = .crCert ∨
      mt = .finished ∧ s.statem.handState.afterSignature = true) := by
  simp only [readTransition, h13, hside, if_true, Bool.false_eq_true, if_false,
    client13ReadTransition] at h
  split at h
  case h_7 hcr =>
    rw [← Option.some.inj h]
    exact ⟨rfl, Or.inl ⟨rfl, hcr⟩⟩
  case h_8 hcr =>
    rw [← Option.some.inj h]
    exact ⟨rfl, Or.inr ⟨rfl, by rw [hcr]; rfl⟩⟩
  all_goals first
    | exact absurd h (by simp only [reduceCtorEq, not_false_eq_true])
    | exact absurd ‹_› hok
    | (rename_i hcr
       rw [hcr] at hst
       exact absurd hst (by decide))

/-- Behind the signature a client stays behind it, and between the Certificate and the
    signature it writes nothing. -/
theorem afterSignature_write {s : SSL ω} {st : HandState} (h13 : s.tls13 = true)
    (hside : s.server = false) (hok : s.statem.handState ≠ .ok)
    (hst : s.statem.handState = .crCert ∨ s.statem.handState.afterSignature = true)
    (h : writeTransition env s = .next st) : st.afterSignature = true := by
  simp only [writeTransition, h13, hside, if_true, Bool.false_eq_true, if_false,
    client13WriteTransition] at h
  split at h
  case h_1 hcr =>
    rw [hcr] at hst
    exact absurd hst (by decide)
  case h_10 => exact absurd ‹_› hok
  all_goals first
    | exact absurd h (by simp only [reduceCtorEq, not_false_eq_true])
    | (repeat' split at h) <;> (rw [← WriteTran.next.inj h]; rfl)

end Transitions

section Verification

variable {env : Env ω}

/-- Verifying a 1609.2 chain leaves the result of the verification. -/
theorem verifyResult_sslVerifyCertChain {a : Nat} {as : List Nat} {e : Bytes} {s t : SSL ω}
    {b : Bool} (hh : Holds s.heap a e) (h : sslVerifyCertChain env (a :: as) s = some (b, t)) :
    t.verifyResult = s.verifyResult := by
  unfold sslVerifyCertChain at h
  simp only at h
  split at h
  · exact absurd h (by simp only [reduceCtorEq, not_false_eq_true])
  · rename_i x hx
    rcases hh x hx with ⟨c, hc, -⟩
    simp only [hc] at h
    split at h
    · exact absurd h (by simp only [reduceCtorEq, not_false_eq_true])
    · rename_i hv
      rcases ieee1609CertVerify_note hv with ⟨reply, rfl⟩
      rw [← (Prod.mk.inj (Option.some.inj h)).2]
      rfl
    · rename_i hv
      rcases ieee1609CertVerify_note hv with ⟨reply, rfl⟩
      rw [← (Prod.mk.inj (Option.some.inj h)).2]
      rfl

/-- So does a Certificate of a server that uses 1609.2. -/
theorem verifyResult_serverCertificate {body : Bytes} {s t : SSL ω} (h13 : s.tls13 = true)
    (h1609 : sslIsUsing1609Server s = true) (hclean : NoEmptyEntry true body)
    (h : Call.seq (tlsProcessServerCertificate env body) (tlsPostProcessServerCertificate env) s =
      some (true, t)) : t.verifyResult = s.verifyResult := by
  rcases Call.seq_true.mp h with ⟨u, hp, hq⟩
  unfold tlsProcessServerCertificate at hp
  split at hp
  · exact absurd hp (by simp only [reduceCtorEq, not_false_eq_true])
  · simp only [h13] at hp
    split at hp
    · exact absurd hp (sslFail_ne_true _ _ _ _)
    · rename_i list hlist
      rcases certificateList_of_server hlist with ⟨hbody, hne⟩
      split at hp
      · exact absurd hp (by simp only [reduceCtorEq, not_false_eq_true])
      · exact absurd hp (abandon_ne_true _ _ _)
      · rename_i chain s' hr
        rcases readCertificates_first hne hr with ⟨a, as, e, rfl, he, hold⟩
        have hentry : e ∈ certificatesOf body := by
          simp only [certificatesOf, hbody]
          exact List.mem_of_mem_head? he
        have hs' : s'.verifyResult = s.verifyResult :=
          (touches_readCertificates env _ hr).verifyResult (by decide)
        rw [Option.some.injEq, Prod.mk.injEq] at hp
        rcases hp with ⟨-, rfl⟩
        -- The head of the chain is alive with the first entry when it is verified.
        simp only [tlsPostProcessServerCertificate, Option.getD_some] at hq
        split at hq
        · exact absurd hq (by simp only [reduceCtorEq, not_false_eq_true])
        · rename_i ok s1 hv
          have h1 : s1.verifyResult = s'.verifyResult := by
            refine (verifyResult_sslVerifyCertChain (e := e) ?_ hv).trans rfl
            exact hold h1609 (hclean rfl e hentry)
          split at hq
          · exact absurd hq (sslFail_ne_true _ _ _ _)
          · split at hq
            · exact absurd hq (by simp only [reduceCtorEq, not_false_eq_true])
            · rcases Call.seq_true.mp hq with ⟨v, hkey, hq⟩
              rcases Call.seq_true.mp hq with ⟨w, hpeer, hsave⟩
              calc t.verifyResult
                  = w.verifyResult :=
                    (touches_saveCertVerifyHash env w true t hsave).verifyResult (by decide)
                _ = v.verifyResult := (touches_setPeer a v true w hpeer).verifyResult (by decide)
                _ = s1.verifyResult :=
                    (touches_checkServerKey env _ s1 true v hkey).verifyResult List.not_mem_nil
                _ = s'.verifyResult := h1
                _ = s.verifyResult := hs'

/-- The signature of an X.509 peer tells nothing of a 1609.2 identity. -/
theorem peerId_x509Signature {cv : Bytes} {s t : SSL ω}
    (hkind : sslIsUsing1609OtherSide s = false)
    (h : tlsProcessCertVerify env cv s = some (true, t)) : t.peerId = s.peerId := by
  rcases Call.seq_true.mp h with ⟨u, hcheck, hphase⟩
  have ht := (touches_runOther _ u true t hphase).peerId (by decide)
  refine ht.trans ?_
  split at hcheck
  · exact absurd hcheck (by simp only [reduceCtorEq, not_false_eq_true])
  · simp only [hkind, Bool.false_eq_true, if_false] at hcheck
    split at hcheck
    · exact (touches_processX509CertVerify env _ _ s true u hcheck).peerId List.not_mem_nil
    · split at hcheck
      · exact absurd hcheck (by simp only [reduceCtorEq, not_false_eq_true])
      · exact (touches_processX509CertVerify env _ _ s true u hcheck).peerId List.not_mem_nil

end Verification

section Steps

variable {env : Env ω}

/-- The kind of certificate the peer uses depends on the side and the decisions. -/
theorem sslIsUsing1609OtherSide_of_keeps {fs : List Field} {s t : SSL ω} (h : Keeps fs s t)
    (hside : .server ∉ fs) (hd : .decided ∉ fs) :
    sslIsUsing1609OtherSide t = sslIsUsing1609OtherSide s := by
  have hdec := h.decided hd
  simp only [SSL.decided, Prod.mk.injEq] at hdec
  simp only [sslIsUsing1609OtherSide, sslIsUsing1609Client, sslIsUsing1609Server, h.server hside,
    hdec.1, hdec.2]

/-- A CertificateVerify is processed where the signature is due, and is one. -/
theorem processMessage_certificateVerify {m : Msg} {s t : SSL ω} (hside : s.server = false)
    (hst : s.statem.handState = .crCertVrfy) (h : processMessage env m s = some (true, t)) :
    ∃ cv, m = .certificateVerify cv ∧
      Call.seq (tlsProcessCertVerify env cv) (prepareIfAsked env) s = some (true, t) := by
  simp only [processMessage, hside, Bool.false_eq_true, if_false] at h
  cases m with
  | certificateVerify cv =>
      simp only [clientProcessMessage, hst] at h
      exact ⟨cv, rfl, h⟩
  | _ =>
      simp only [clientProcessMessage, hst] at h
      exact absurd h (sslFail_ne_true _ _ _ _)

/-- Reading never ends the handshake. -/
theorem readTransition_ne_ok {s : SSL ω} {mt : MsgType} {st : HandState} (hs : Placed s)
    (hside : s.server = false) (hflow : s.statem.state = .reading)
    (h : readTransition env s mt = some st) : st ≠ .ok := by
  rintro rfl
  rcases tls13_of_read hs hside hflow h with h13 | ⟨hst, -⟩
  · simp only [readTransition, h13, hside, if_true, Bool.false_eq_true, if_false,
      client13ReadTransition] at h
    split at h <;> (repeat' split at h) <;>
      exact absurd h (by simp only [Option.some.injEq, reduceCtorEq, not_false_eq_true])
  · exact HandState.noConfusion hst

/-- The result of the verification of the certificate in a message, if it is not the initial
    one, is that of an X.509 chain. -/
theorem result_certificate {m : Msg} {s t : SSL ω} (h13 : s.tls13 = true)
    (hside : s.server = false) (hst : s.statem.handState = .crCert) (hres : s.verifyResult = 0)
    (hclean : ∀ body, m = .certificate body → NoEmptyEntry true body)
    (h : processMessage env m s = some (true, t)) (hne : t.verifyResult ≠ 0) :
    sslIsUsing1609OtherSide s = false := by
  rcases processMessage_certificate env (by rw [hst]; rfl) h with
    ⟨body, hm, ⟨hserver, -⟩ | ⟨-, hseq⟩⟩
  · exact absurd (hside.symm.trans hserver) Bool.false_ne_true
  · by_contra hno
    rw [Bool.not_eq_false] at hno
    have h1609 : sslIsUsing1609Server s = true := by
      rw [sslIsUsing1609OtherSide, hside] at hno
      exact hno
    exact hne ((verifyResult_serverCertificate h13 h1609 (hclean body hm) hseq).trans hres)

/-- A result there already was stems from an X.509 Certificate, and the handshake is behind
    it. -/
theorem result_held {mt : MsgType} {st : HandState} {s : SSL ω} (hs : Listening s)
    (hflow : s.statem.state = .reading) (htr : readTransition env s mt = some st)
    (hres : s.verifyResult ≠ 0) :
    s.tls13 = true ∧ st.afterSignature = true ∧ sslIsUsing1609OtherSide s = false ∧
      (mt = .certificateVerify ∨ mt = .finished) := by
  rcases hs.result hres with ⟨h13, hplace, hkind⟩
  have hread : s.statem.handState ≠ .ok := fun hok =>
    MsgFlow.noConfusion (hflow.symm.trans (hs.ended hok))
  rcases afterSignature_read h13 hs.side hread hplace htr with ⟨hafter, hmt⟩
  exact ⟨h13, hafter, hkind, hmt.imp And.left And.left⟩

/-- Messages that are no Certificate leave it. -/
theorem result_kept {mt : MsgType} {st : HandState} {s t : SSL ω} (hs : Listening s)
    (hflow : s.statem.state = .reading) (htr : readTransition env s mt = some st)
    (hcert : mt ≠ .certificate) (hk : Keeps (.pha :: .other :: .trace :: touchedBy mt) s t)
    (hst : t.statem.handState = st) (hne : t.verifyResult ≠ 0) :
    t.tls13 = true ∧
      (t.statem.handState = .crCert ∨ t.statem.handState.afterSignature = true) ∧
      sslIsUsing1609OtherSide t = false := by
  have hres : t.verifyResult = s.verifyResult := by
    refine hk.verifyResult ?_
    revert hcert
    cases mt <;> decide
  rw [hres] at hne
  rcases result_held hs hflow htr hne with ⟨h13, hafter, hkind, hmt⟩
  -- Behind the Certificate no message changes version or decisions.
  rcases hmt with rfl | rfl <;>
    exact ⟨(hk.tls13 (by decide)).trans h13, Or.inr (by rw [hst]; exact hafter),
      (sslIsUsing1609OtherSide_of_keeps hk (by decide) (by decide)).trans hkind⟩

/-- A client that reads an X.509 signature goes on without an identity. -/
theorem peerId_certificateVerify {m : Msg} {s v : SSL ω} (hside : s.server = false)
    (hst : s.statem.handState = .crCertVrfy) (hkind : sslIsUsing1609OtherSide s = false)
    (hp : processMessage env m s = some (true, v)) : v.peerId = s.peerId := by
  rcases processMessage_certificateVerify hside hst hp with ⟨cv, rfl, hseq⟩
  rcases Call.seq_true.mp hseq with ⟨w, hcheck, hprep⟩
  exact ((touches_prepareIfAsked env w true v hprep).peerId (by decide)).trans
    (peerId_x509Signature hkind hcheck)

/-- A client reads on without an identity, unless it was a signature of 1609.2. -/
theorem listening_read {m : Msg} {st : HandState} {s u v t : SSL ω} (hs : Listening s)
    (hplaced : Placed s) (hflow : s.statem.state = .reading)
    (hclean : ∀ body, m = .certificate body → NoEmptyEntry true body)
    (htr : readTransition env s m.mt = some st) (hu : Touches [.pha, .other] s true u)
    (hp : processMessage env m ((u.enter st).note (.recv m)) = some (true, v))
    (ht : t = if doneReading env m v then v.turn .writing else v)
    (hk : Keeps (.pha :: .other :: .trace :: touchedBy m.mt) s t) :
    Listening t ∨ (∃ cv, m = .certificateVerify cv) ∧ sslIsUsing1609OtherSide s = true := by
  have hst : t.statem.handState = st := by
    rw [ht, (keeps_turned _ v).2]
    exact (touches_processMessage env m _ true v hp).handState
  have hside : t.server = false := by
    refine (hk.server ?_).trans hs.side
    cases m.mt <;> decide
  have hsv : ((u.enter st).note (.recv m)).server = false := (hu.server (by decide)).trans hs.side
  have hku : sslIsUsing1609OtherSide u = sslIsUsing1609OtherSide s :=
    sslIsUsing1609OtherSide_of_touches hu (by decide) (by decide)
  have hversion := tls13_of_read hplaced hs.side hflow htr
  have hover : t.statem.handState = .ok → t.statem.state = .finished := by
    rw [hst]
    exact fun hok => absurd hok (readTransition_ne_ok hplaced hs.side hflow htr)
  have hturn := (keeps_turned (doneReading env m v) v).1
  by_cases hcert : m.mt = .certificate
  · -- A Certificate may leave a result, and then the peer is of 1609.2.
    have h13 : s.tls13 = true := hversion.resolve_right (fun h =>
      MsgType.noConfusion (hcert.symm.trans h.2))
    have hzero : s.verifyResult = 0 := by
      by_contra hres
      rcases (result_held hs hflow htr hres).2.2.2 with hmt | hmt <;>
        exact MsgType.noConfusion (hcert.symm.trans hmt)
    rw [hcert] at hk htr
    have hcr := readTransition_certificate h13 htr
    simp only [hs.side, Bool.false_eq_true, if_false] at hcr
    have hkt := sslIsUsing1609OtherSide_of_keeps hk (by decide) (by decide)
    refine Or.inl ⟨hside, (congrArg Prod.fst (hk.peerId (by decide))).trans hs.unknown,
      fun hres => ⟨(hk.tls13 (by decide)).trans h13, Or.inl (hst.trans hcr), ?_⟩, hover⟩
    rw [ht, hturn.verifyResult List.not_mem_nil] at hres
    have hkind := result_certificate (s := (u.enter st).note (.recv m))
      ((hu.tls13 (by decide)).trans h13) hsv hcr ((hu.verifyResult (by decide)).trans hzero)
      hclean hp hres
    exact hkt.trans (hku.symm.trans hkind)
  · have hresult := result_kept hs hflow htr hcert hk hst
    by_cases hcv : m.mt = .certificateVerify
    · -- A signature tells who the peer is if it is one of 1609.2, and not otherwise.
      have h13 : s.tls13 = true := hversion.resolve_right (fun h =>
        MsgType.noConfusion (hcv.symm.trans h.2))
      rw [hcv] at htr
      have hcr := (readTransition_certificateVerify h13 htr).2
      simp only [hs.side, Bool.false_eq_true, if_false] at hcr
      cases hkind : sslIsUsing1609OtherSide s with
      | true => exact Or.inr ⟨⟨_, (processMessage_certificateVerify hsv hcr hp).choose_spec.1⟩, rfl⟩
      | false =>
          refine Or.inl ⟨hside, ?_, hresult, hover⟩
          have hid : t.peerId = s.peerId := by
            rw [ht, hturn.peerId List.not_mem_nil,
              peerId_certificateVerify hsv hcr (hku.trans hkind) hp]
            exact hu.peerId (by decide)
          exact (congrArg Prod.fst hid).trans hs.unknown
    · -- No other message tells it.
      refine Or.inl ⟨hside, ?_, hresult, hover⟩
      refine (congrArg Prod.fst (hk.peerId ?_)).trans hs.unknown
      revert hcv
      cases m.mt <;> decide

/-- The session is left alone by what a client writes in another state than that of its
    hello. -/
theorem session_writeEvent {s t : SSL ω} (hside : s.server = false)
    (hst : t.statem.handState ≠ .cwClntHello) (h : writeEvent env s = some t) :
    t.session = s.session := by
  rcases writeEvent_cases env h with rfl | ⟨-, rfl⟩ | ⟨st, -, hw⟩
  · exact (touches_sslFatal [] _ _ s).session List.not_mem_nil
  · rfl
  · have hcr : t.statem.handState = st := handState_writeStep env hw
    have hite : ∀ (b : Bool) (v : SSL ω), v.session = s.session →
        (if b then v else checkFatal v).session = s.session := by
      intro b v hv
      exact ((keeps_ite_checkFatal (keeps_refl [] v)).session List.not_mem_nil).trans hv
    have hbuilt : ∀ {r : Built} {u : SSL ω}, constructMessage env (entering s st) = some (r, u) →
        u.session = s.session := by
      intro r u hc
      rcases session_constructMessage hc with hu | ⟨-, hcw, -⟩ | ⟨hsv, -⟩
      · exact hu
      · exact absurd (hcr.trans hcw) hst
      · exact absurd (hside.symm.trans hsv) Bool.false_ne_true
    rcases writeStep_cases env hw with ⟨-, b, v, hf, rfl⟩ | ⟨-, b, v, hp, rfl⟩ | ⟨u, hc, rfl⟩ |
      ⟨-, m, src, u, b, v, hc, hp, rfl⟩
    · exact hite b v ((keeps_finishHandshake env hf).session (by decide))
    · exact hite b v ((touches_runOther _ _ b v hp).session (by decide))
    · exact ((keeps_checkFatal [] u).session List.not_mem_nil).trans (hbuilt hc)
    · have hu : u.session = s.session := hbuilt hc
      exact hite b v (((touches_runOther _ _ b v hp).session (by decide)).trans hu)

/-- A client that writes its last message is done. -/
theorem over_writeEvent {s t : SSL ω}
    (hover : s.statem.handState = .ok → s.statem.state = .finished)
    (hflow : s.statem.state = .writing) (h : writeEvent env s = some t)
    (hgo : t.statem.state.going = true) :
    t.statem.handState = .ok → t.statem.state = .finished := by
  rcases writeEvent_cases env h with rfl | ⟨-, rfl⟩ | ⟨st, -, hw⟩
  · rw [(fatal_sslFatal _ _ s).2] at hgo
    exact absurd hgo Bool.false_ne_true
  · exact fun hok => absurd (hflow.symm.trans (hover hok)) MsgFlow.noConfusion
  · intro hok
    rw [handState_writeStep env hw] at hok
    rcases writeStep_cases env hw with ⟨-, b, v, hf, rfl⟩ | ⟨hea, -⟩ | ⟨u, -, rfl⟩ | ⟨hne, -⟩
    · cases b with
      | false => exact absurd ((going_checkFatal v).symm.trans hgo) Bool.false_ne_true
      | true =>
          rcases Call.seq_true.mp hf with ⟨u, -, hv⟩
          rw [if_pos rfl, ← (Prod.mk.inj (Option.some.inj hv)).2]
    · exact absurd (hok.symm.trans hea) HandState.noConfusion
    · exact absurd ((going_checkFatal u).symm.trans hgo) Bool.false_ne_true
    · exact absurd hok hne

/-- Writing leads to the next state, or on to reading. -/
theorem handState_writeEvent {s t : SSL ω} (h : writeEvent env s = some t) :
    t.statem.handState = s.statem.handState ∨
      writeTransition env s = .next t.statem.handState := by
  rcases writeEvent_cases env h with rfl | ⟨-, rfl⟩ | ⟨st, htr, hw⟩
  · exact Or.inl (sslFatal_handState _ _ s)
  · exact Or.inl rfl
  · exact Or.inr (by rw [handState_writeStep env hw]; exact htr)

/-- A client that writes learns nothing. -/
theorem listening_write {s t : SSL ω} (hs : Listening s) (hflow : s.statem.state = .writing)
    (h : writeEvent env s = some t) (hgo : t.statem.state.going = true) : Listening t := by
  have hk := keeps_writeEvent env h
  have hnot : s.statem.handState ≠ .ok := fun hok =>
    MsgFlow.noConfusion (hflow.symm.trans (hs.ended hok))
  refine ⟨(hk.server (by decide)).trans hs.side,
    (congrArg Prod.fst (hk.peerId (by decide))).trans hs.unknown, fun hne => ?_,
    over_writeEvent hs.ended hflow h hgo⟩
  rw [hk.verifyResult (by decide)] at hne
  rcases hs.result hne with ⟨h13, hplace, hkind⟩
  refine ⟨(hk.tls13 (by decide)).trans h13, ?_,
    (sslIsUsing1609OtherSide_of_keeps hk (by decide) (by decide)).trans hkind⟩
  rcases handState_writeEvent h with hst | htr
  · rwa [hst]
  · exact Or.inr (afterSignature_write h13 hs.side hnot hplace htr)

/-- Behind the signature nothing changes what is known of the peer. -/
theorem heard_step {s t : SSL ω} {ev : Event} (hs : Heard s) (hplaced : Placed s)
    (hev : ev.inHandshake = true) (h : step env s ev = some t)
    (hgo : t.statem.state.going = true) : Heard t ∧ Unmoved s t := by
  have hnot : s.statem.state ≠ .finished → s.statem.handState ≠ .ok := fun hne hok =>
    hne (hs.ended hok)
  rcases step_cases env h with rfl | ⟨_, rfl, -⟩ | ⟨rfl, -⟩ | ⟨m, rfl, hflow, hr⟩ |
    ⟨rfl, hflow, hw⟩ | ⟨rfl, -⟩ | ⟨_, rfl, -⟩
  · exact ⟨hs, rfl, rfl, rfl, rfl⟩
  · exact absurd hev Bool.false_ne_true
  · exact absurd hev Bool.false_ne_true
  · -- Of what is read behind the signature nothing is about the peer.
    have hk := keeps_readEvent env hr
    have hread := hnot (by rw [hflow]; exact MsgFlow.noConfusion)
    rcases readEvent_cases env hr with ⟨u, -, rfl⟩ | ⟨st, u, b, v, htr, -, -, hp, ht⟩
    · exact absurd ((going_checkFatal u).symm.trans hgo) Bool.false_ne_true
    · cases b with
      | false =>
          rw [ht, if_neg Bool.false_ne_true, going_checkFatal] at hgo
          exact absurd hgo Bool.false_ne_true
      | true =>
          rw [if_pos rfl] at ht
          have hst : t.statem.handState = st := by
            rw [ht, (keeps_turned _ v).2]
            exact (touches_processMessage env m _ true v hp).handState
          rcases afterSignature_read hs.version hs.side hread (Or.inr hs.place) htr with
            ⟨hafter, ⟨-, hcr⟩ | ⟨hmt, -⟩⟩
          · have hplace := hs.place
            rw [hcr] at hplace
            exact absurd hplace Bool.false_ne_true
          · rw [hmt] at hk
            refine ⟨⟨(hk.server (by decide)).trans hs.side, (hk.tls13 (by decide)).trans hs.version,
              hst.symm ▸ hafter, fun hok => ?_⟩, hk.session (by decide), hk.heap (by decide),
              hk.peerId (by decide), hk.verifyResult (by decide)⟩
            exact absurd (hst.symm.trans hok) (readTransition_ne_ok hplaced hs.side hflow htr)
  · -- What is written leaves the place in the flight, and the session too.
    have hk := keeps_writeEvent env hw
    have hwrite := hnot (by rw [hflow]; exact MsgFlow.noConfusion)
    have hplace : t.statem.handState.afterSignature = true := by
      rcases handState_writeEvent hw with hst | htr
      · rw [hst]
        exact hs.place
      · exact afterSignature_write hs.version hs.side hwrite (Or.inr hs.place) htr
    have hhello : t.statem.handState ≠ .cwClntHello := by
      intro hst
      rw [hst] at hplace
      exact Bool.false_ne_true hplace
    exact ⟨⟨(hk.server (by decide)).trans hs.side, (hk.tls13 (by decide)).trans hs.version, hplace,
      over_writeEvent hs.ended hflow hw hgo⟩, session_writeEvent hs.side hhello hw,
      hk.heap (by decide), hk.peerId (by decide), hk.verifyResult (by decide)⟩
  · exact absurd hev Bool.false_ne_true
  · exact absurd hev Bool.false_ne_true

end Steps

section Signature

variable {env : Env ω}

/-- What a 1609.2 signature that is accepted went through, and what it left. -/
theorem process1609CertVerify_known {a : Nat} {cv : Bytes} {s t : SSL ω} (h13 : s.tls13 = true)
    (hst : s.statem.handState.checksSignature = true)
    (h : process1609CertVerify env a cv s = some (true, t)) :
    ∃ x c vc vd, s.heap.read a = some x ∧ x.ieee1609 = some c ∧
      vc.msgType = secEntMsgTypeTlsVerifyCerts ∧ vd.msgType = secEntMsgTypeTlsVerifyData ∧
      vd.data.length ≤ 8 + maxSspLen ∧
      t.trace = .exchange (secEntMsgNewTypeTlsVerifyData (vc.data.take hashedid8Len) cv
          (tls13Tbs s.statem.handState.serverSigns s.certVerifyHash)) (some vd) ::
        .exchange (secEntMsgNewTypeTlsVerifyCerts c.certData) (some vc) :: s.trace ∧
      t.peerId = peerIdOf vd.data s.ieee1609.sspOtherSide ∧ t.session = s.session ∧
      t.heap.read a =
        some { x with ieee1609 := some { c with hashedid8 := vc.data.take hashedid8Len } } := by
  unfold process1609CertVerify at h
  split at h
  · exact absurd h (by simp only [reduceCtorEq, not_false_eq_true])
  · rename_i x hx
    split at h
    · exact absurd h (sslFail_ne_true _ _ _ _)
    · rename_i c hc
      split at h
      · exact absurd h (by simp only [reduceCtorEq, not_false_eq_true])
      · exact absurd h (sslFail_ne_true _ _ _ _)
      · rename_i c' s' hv
        rcases ieee1609CertVerify_some hv with ⟨vc, hvc, rfl, rfl⟩
        simp only [getCertVerifyTbsData, SSL.note, h13, hst, if_true] at h
        rcases tlsProcessIeee1609CertCertVerify_true h with ⟨c1, vd, hc1, hvd, -, hlen, rfl⟩
        rw [Option.some.injEq] at hc1
        subst hc1
        exact ⟨x, c, vc, vd, hx, hc, hvc, hvd, hlen, rfl, rfl, rfl, Heap.read_write_self _ hx⟩

/-- The report depends on what is known of the peer only. -/
theorem sslGet1609PsidReceived_unmoved {s t : SSL ω} (h : Unmoved s t) (sspSet wantHash : Bool) :
    sslGet1609PsidReceived t sspSet wantHash = sslGet1609PsidReceived s sspSet wantHash := by
  have hid := h.peerId
  simp only [SSL.peerId, Prod.mk.injEq] at hid
  simp only [sslGet1609PsidReceived, hid.1, hid.2.1, hid.2.2, h.session, h.heap]

/-- The session holds this hash of its peer's certificate. -/
def PeerHash (s : SSL ω) (hash : Bytes) : Prop :=
  ∃ sess a x c, s.session = some sess ∧ sess.peer = some a ∧ s.heap.read a = some x ∧
    x.ieee1609 = some c ∧ c.hashedid8 = hash

theorem PeerHash.congr {s t : SSL ω} {hash : Bytes} (h : PeerHash s hash)
    (hsess : t.session = s.session) (hheap : t.heap = s.heap) : PeerHash t hash := by
  simp only [PeerHash, hsess, hheap]
  exact h

/-- Such a session has all that a report needs. -/
theorem report_of_peerHash {s : SSL ω} {hash : Bytes} (h : PeerHash s hash) :
    sslGet1609PsidReceived s false true =
      if s.ieee1609.psidOtherSide = 0 then some none
      else some (some ⟨s.ieee1609.psidOtherSide,
        s.ieee1609.sspOtherSide.load s.ieee1609.sspOtherSideLen, some hash⟩) := by
  rcases h with ⟨sess, a, x, c, hsess, ha, hx, hc, rfl⟩
  simp only [sslGet1609PsidReceived, Bool.false_eq_true, if_false, if_true, hsess, ha, hx, hc]

theorem provedBy_mono {s : SSL ω} {cv : Bytes} {tr tr' : List Obs} {rep : PeerReport}
    (hsub : tr ⊆ tr') (h : ProvedBy env s cv tr rep) : ProvedBy env s cv tr' rep := by
  rcases h with ⟨body, l, tr₀, e, hash, vc, vd, htr, hl, he, hhash, hvc, hvd, hcert, hsig, hrep⟩
  exact ⟨body, l, tr₀, e, hash, vc, vd, htr, hl, he, hhash, hvc, hvd, hsub hcert, hsub hsig, hrep⟩

/-- So did the CertificateVerify, and the session holds the hash that was confirmed. -/
theorem tlsProcessCertVerify_known {cv : Bytes} {s t : SSL ω} (h13 : s.tls13 = true)
    (hst : s.statem.handState.checksSignature = true) (hkind : sslIsUsing1609OtherSide s = true)
    (h : tlsProcessCertVerify env cv s = some (true, t)) :
    ∃ a x c vc vd, s.session.bind Session.peer = some a ∧ s.heap.read a = some x ∧
      x.ieee1609 = some c ∧ vc.msgType = secEntMsgTypeTlsVerifyCerts ∧
      vd.msgType = secEntMsgTypeTlsVerifyData ∧ vd.data.length ≤ 8 + maxSspLen ∧
      t.trace = .exchange (secEntMsgNewTypeTlsVerifyData (vc.data.take hashedid8Len) cv
          (tls13Tbs s.statem.handState.serverSigns s.certVerifyHash)) (some vd) ::
        .exchange (secEntMsgNewTypeTlsVerifyCerts c.certData) (some vc) :: s.trace ∧
      t.peerId = peerIdOf vd.data s.ieee1609.sspOtherSide ∧
      PeerHash t (vc.data.take hashedid8Len) := by
  rcases Call.seq_true.mp h with ⟨w, hsig, hphase⟩
  have hother := touches_runOther _ w true t hphase
  split at hsig
  · exact absurd hsig (by simp only [reduceCtorEq, not_false_eq_true])
  · rename_i sess hsess
    rw [if_pos hkind] at hsig
    split at hsig
    · exact absurd hsig (by simp only [reduceCtorEq, not_false_eq_true])
    · rename_i a ha
      obtain ⟨x, c, vc, vd, hx, hc, hvc, hvd, hlen, htr, hid, hsess', hheap⟩ :=
        process1609CertVerify_known h13 hst hsig
      have hpeer : s.session.bind Session.peer = some a := by
        rw [hsess]
        exact ha
      refine ⟨a, x, c, vc, vd, hpeer, hx, hc, hvc, hvd, hlen, ?_, ?_, ?_⟩
      · rw [hother.trace (by decide), htr]
      · rw [hother.peerId (by decide), hid]
      · refine PeerHash.congr ?_ (hother.session (by decide)) (hother.heap (by decide))
        exact ⟨sess, a, _, _, hsess'.trans hsess, ha, hheap, rfl, rfl⟩

/-- What a client that reads a CertificateVerify does with it. -/
theorem read_certificateVerify {cv : Bytes} {s t : SSL ω} (hplaced : Placed s)
    (hside : s.server = false) (hflow : s.statem.state = .reading)
    (h : readEvent env (.certificateVerify cv) s = some t) (hgo : t.statem.state.going = true) :
    s.tls13 = true ∧ s.statem.handState.afterCertificate = true ∧
      t.statem.handState = .crCertVrfy ∧
      ∃ w l, tlsProcessCertVerify env cv ((s.enter .crCertVrfy).note
          (.recv (.certificateVerify cv))) = some (true, w) ∧ t.trace = l ++ w.trace ∧
        t.session = w.session ∧ t.heap = w.heap ∧ t.peerId = w.peerId := by
  rcases readEvent_cases env h with ⟨u, -, rfl⟩ | ⟨st, u, b, v, htr, -, hne, hp, ht⟩
  · exact absurd ((going_checkFatal u).symm.trans hgo) Bool.false_ne_true
  · cases b with
    | false =>
        rw [ht, if_neg Bool.false_ne_true, going_checkFatal] at hgo
        exact absurd hgo Bool.false_ne_true
    | true =>
        rw [if_pos rfl] at ht
        have h13 : s.tls13 = true := (tls13_of_read hplaced hside hflow htr).resolve_right
          (fun h => MsgType.noConfusion h.2)
        have hcr := readTransition_certificateVerify h13 htr
        simp only [hside, Bool.false_eq_true, if_false] at hcr
        rcases hcr with ⟨hcr, rfl⟩
        rw [hne HandState.noConfusion] at hp
        rcases processMessage_certificateVerify (s := (s.enter .crCertVrfy).note (.recv _)) hside
          rfl hp with ⟨cv', hcv, hseq⟩
        rw [Msg.certificateVerify.injEq] at hcv
        subst hcv
        -- The check comes first; the client's own Certificate is prepared after it.
        rcases Call.seq_true.mp hseq with ⟨w, hcheck, hprep⟩
        have hpt := touches_prepareIfAsked env w true v hprep
        rcases hpt.grows with ⟨l, hl, -⟩
        have hturn := (keeps_turned (doneReading env (.certificateVerify cv) v) v).1
        refine ⟨h13, by rw [hcr]; rfl, ?_, w, l, hcheck, ?_, ?_, ?_, ?_⟩
        · rw [ht, (keeps_turned _ v).2]
          exact (touches_processMessage env _ _ true v hp).handState
        · rw [ht, hturn.trace List.not_mem_nil, hl]
        · rw [ht, hturn.session List.not_mem_nil, hpt.session (by decide)]
        · rw [ht, hturn.heap List.not_mem_nil, hpt.heap (by decide)]
        · rw [ht, hturn.peerId List.not_mem_nil, hpt.peerId (by decide)]

/-- A client behind a 1609.2 signature can tell whose it is. -/
theorem signature_read {cv : Bytes} {s t : SSL ω} (hs : Listening s) (hplaced : Placed s)
    (hheld : CertHeld env s) (hflow : s.statem.state = .reading)
    (hkind : sslIsUsing1609OtherSide s = true)
    (h : readEvent env (.certificateVerify cv) s = some t) (hgo : t.statem.state.going = true) :
    Heard t ∧ t.verifyResult = 0 ∧ sslGet1609PsidReceived t false true ≠ none ∧
      ∀ rep, sslGet1609PsidReceived t false true = some (some rep) →
        ProvedBy env s cv t.trace rep := by
  have hk : Keeps (.pha :: .other :: .trace :: touchedBy .certificateVerify) s t :=
    keeps_readEvent env h
  rcases read_certificateVerify hplaced hs.side hflow h hgo with
    ⟨h13, hafter, hst, w, l', hcheck, htrace', hsess, hheap, hid⟩
  rcases hheld hflow h13 hafter with ⟨body, l, tr, htrace, hl, hempty, hacc⟩
  obtain ⟨a, x, c, vc, vd, hpeer, hx, hc, hvc, hvd, hlen, htr, hidw, hhash⟩ :=
    tlsProcessCertVerify_known (s := (s.enter .crCertVrfy).note (.recv (.certificateVerify cv)))
      h13 rfl hkind hcheck
  -- The object that was checked still has the first entry of the Certificate.
  rcases hacc.peer a hpeer with ⟨e, he, hold⟩
  rcases hold hkind (fun hnil => hempty (by rw [he, hnil])) x hx with ⟨c', hc', hdata⟩
  rw [hc, Option.some.injEq] at hc'
  subst hc'
  have hidt : t.peerId = peerIdOf vd.data s.ieee1609.sspOtherSide := hid.trans hidw
  have hreport := report_of_peerHash (hhash.congr hsess hheap)
  have hzero : t.verifyResult = 0 := by
    rw [hk.verifyResult (by decide)]
    by_contra hres
    exact absurd (hkind.symm.trans (hs.result hres).2.2) Bool.noConfusion
  refine ⟨⟨(hk.server (by decide)).trans hs.side, (hk.tls13 (by decide)).trans h13,
    hst.symm ▸ rfl, fun hok => absurd (hst.symm.trans hok) HandState.noConfusion⟩, hzero, ?_,
    fun rep hrep => ?_⟩
  · rw [hreport]
    split <;> exact Option.some_ne_none _
  · rw [hreport] at hrep
    split at hrep
    · exact absurd hrep (by simp only [Option.some.injEq, reduceCtorEq, not_false_eq_true])
    · rw [Option.some.injEq, Option.some.injEq] at hrep
      subst hrep
      have hsignature : .exchange (secEntMsgNewTypeTlsVerifyData
          (vc.data.take hashedid8Len) cv (tls13Tbs true s.certVerifyHash)) (some vd) ∈
            t.trace := by
        rw [htrace', htr]
        exact List.mem_append_right _ (List.mem_cons_self ..)
      have hcert : .exchange (secEntMsgNewTypeTlsVerifyCerts e) (some vc) ∈ t.trace := by
        rw [htrace', htr, ← hdata]
        exact List.mem_append_right _ (List.mem_cons_of_mem _ (List.mem_cons_self ..))
      refine ⟨body, l, tr, e, s.certVerifyHash, vc, vd, htrace, hl, he, hacc.hash h13, hvc, hvd,
        hcert, hsignature, congrArg Prod.fst hidt, fun hfull => ?_, rfl⟩
      have hload := load_peerIdOf (b := s.ieee1609.sspOtherSide) hlen hfull
      rw [← hidt] at hload
      exact hload

end Signature

section Runs

theorem Event.inHandshake_of_orderly {ev : Event} (h : ev.orderly = true) :
    ev.inHandshake = true := by
  cases ev with
  | read m => rfl
  | write => rfl
  | _ => exact absurd h Bool.false_ne_true

/-- No Certificate among the events has an empty entry. -/
theorem Event.noEmptyEntry_of_orderly {body : Bytes}
    (h : (Event.read (.certificate body)).orderly = true) : NoEmptyEntry true body :=
  of_decide_eq_true h

theorem Event.emptyFirstEntry_of_orderly {ev : Event} (h : ev.orderly = true) :
    ev.emptyFirstEntry = false := by
  unfold emptyFirstEntry
  split
  · rename_i body
    refine decide_eq_false (fun hnil => ?_)
    exact noEmptyEntry_of_orderly h rfl [] (List.mem_of_mem_head? hnil) rfl
  · rfl

theorem clean_of_orderly {ev : Event} (h : ev.orderly = true) (s : SSL ω) : s.clean ev = true := by
  unfold SSL.clean
  split
  · exact decide_eq_true (fun _ => Event.noEmptyEntry_of_orderly h rfl)
  · rfl

variable {env : Env ω}

/-- A handshake that stopped is not taken up by its messages. -/
theorem going_step {s t : SSL ω} {ev : Event} (hev : ev.inHandshake = true)
    (h : step env s ev = some t) (hgo : t.statem.state.going = true) :
    s.statem.state.going = true := by
  rcases step_cases env h with rfl | ⟨_, rfl, -⟩ | ⟨rfl, -⟩ | ⟨m, rfl, hflow, -⟩ |
    ⟨rfl, hflow, -⟩ | ⟨rfl, -⟩ | ⟨_, rfl, -⟩
  · exact hgo
  · exact absurd hev Bool.false_ne_true
  · exact absurd hev Bool.false_ne_true
  · rw [hflow]
    rfl
  · rw [hflow]
    rfl
  · exact absurd hev Bool.false_ne_true
  · exact absurd hev Bool.false_ne_true

/-- A client stays without an identity until it reads a signature of 1609.2. -/
theorem listening_step {s t : SSL ω} {ev : Event} (hs : Listening s) (hplaced : Placed s)
    (hev : ev.orderly = true) (h : step env s ev = some t) (hgo : t.statem.state.going = true) :
    Listening t ∨ ∃ cv, ev = .read (.certificateVerify cv) ∧ s.statem.state = .reading ∧
      sslIsUsing1609OtherSide s = true ∧ readEvent env (.certificateVerify cv) s = some t := by
  rcases step_cases env h with rfl | ⟨_, rfl, -⟩ | ⟨rfl, -⟩ | ⟨m, rfl, hflow, hr⟩ |
    ⟨rfl, hflow, hw⟩ | ⟨rfl, -⟩ | ⟨_, rfl, -⟩
  · exact Or.inl hs
  · exact absurd hev Bool.false_ne_true
  · exact absurd hev Bool.false_ne_true
  · rcases readEvent_cases env hr with ⟨u, -, rfl⟩ | ⟨st, u, b, v, htr, hu, -, hp, ht⟩
    · exact absurd ((going_checkFatal u).symm.trans hgo) Bool.false_ne_true
    · cases b with
      | false =>
          rw [ht, if_neg Bool.false_ne_true, going_checkFatal] at hgo
          exact absurd hgo Bool.false_ne_true
      | true =>
          rw [if_pos rfl] at ht
          have hclean : ∀ body, m = .certificate body → NoEmptyEntry true body := by
            rintro body rfl
            exact Event.noEmptyEntry_of_orderly hev
          rcases listening_read hs hplaced hflow hclean htr hu hp ht (keeps_readEvent env hr) with
            hlist | ⟨⟨cv, rfl⟩, hkind⟩
          · exact Or.inl hlist
          · exact Or.inr ⟨cv, rfl, hflow, hkind, hr⟩
  · exact Or.inl (listening_write hs hflow hw hgo)
  · exact absurd hev Bool.false_ne_true
  · exact absurd hev Bool.false_ne_true

/-- What is known of the peer behind the signature is known at the end. -/
theorem unmoved_run (hhash : WholeHash env) (henv : OnlyTls13 env) {s t : SSL ω}
    {es : List Event} (hs : Heard s) (hsound : Sound s) (hes : ∀ ev ∈ es, ev.orderly = true)
    (h : run (step env) s es = some t) (hgo : t.statem.state.going = true) : Unmoved s t := by
  refine ((run_invariant_along (step env) (fun _ ev => ev.orderly = true)
    (fun u => Sound u ∧ (u.statem.state.going = true → Heard u ∧ Unmoved s u)) ?_ es s t
    (along_of_forall (step env) _ es s hes) ⟨hsound, fun _ => ⟨hs, rfl, rfl, rfl, rfl⟩⟩ h).2 hgo).2
  rintro u ev v hev ⟨hu, hknown⟩ hstep
  refine ⟨sound_step hhash henv (clean_of_orderly hev u) hu hstep, fun hv => ?_⟩
  have hin := Event.inHandshake_of_orderly hev
  have hgou := going_step hin hstep hv
  rcases hknown hgou with ⟨hheard, hsu⟩
  rcases heard_step hheard (hu.placed hgou).1 hin hstep hv with ⟨hheard', huv⟩
  exact ⟨hheard', huv.session.trans hsu.session, huv.heap.trans hsu.heap,
    huv.peerId.trans hsu.peerId, huv.verifyResult.trans hsu.verifyResult⟩

/-- A client whose handshake goes well can always tell whether it has a 1609.2 peer, and if it
    has, the verification counts as a success and the report comes from a signature that was
    read in this handshake. -/
theorem report_proved (hhash : WholeHash env) (henv : OnlyTls13 env) {s t : SSL ω}
    {es : List Event} (hs : Listening s) (hsound : Sound s) (hst : s.statem.state ≠ .reading)
    (hes : ∀ ev ∈ es, ev.orderly = true) (h : run (step env) s es = some t)
    (hgo : t.statem.state.going = true) :
    sslGet1609PsidReceived t false true ≠ none ∧
      ∀ rep, sslGet1609PsidReceived t false true = some (some rep) → t.verifyResult = 0 ∧
        ∃ fs cv gs u, es = fs ++ .read (.certificateVerify cv) :: gs ∧
          run (step env) s fs = some u ∧ ProvedBy env u cv t.trace rep := by
  rcases run_first_break (step env) (fun u => u.statem.state.going = true → Listening u)
    (fun _ => hs) h with hlist | ⟨fs, ev, gs, u, v, rfl, hu, hlistu, hstep, hnot, hv⟩
  · have hnone : sslGet1609PsidReceived t false true = some none := by
      rw [sslGet1609PsidReceived, if_pos (hlist hgo).unknown]
    rw [hnone]
    exact ⟨Option.some_ne_none _, fun rep hrep =>
      absurd hrep (by simp only [Option.some.injEq, reduceCtorEq, not_false_eq_true])⟩
  · rw [Classical.not_imp] at hnot
    rcases hnot with ⟨hgov, hnot⟩
    have hev := hes ev (List.mem_append_right fs (List.mem_cons_self ..))
    have hfs : ∀ e ∈ fs, e.orderly = true := fun e he => hes e (List.mem_append_left _ he)
    have hsoundu : Sound u := run_invariant_along (step env) (fun _ e => e.orderly = true) Sound
      (fun w e _ he hw hwt => sound_step hhash henv (clean_of_orderly he w) hw hwt) fs s u
      (along_of_forall (step env) _ fs s hfs) hsound hu
    have hheld : CertHeld env u :=
      certHeld_run env hst (fun e he => Event.emptyFirstEntry_of_orderly (hfs e he)) hu
    have hgou := going_step (Event.inHandshake_of_orderly hev) hstep hgov
    have hplaced := (hsoundu.placed hgou).1
    -- The step that ends the waiting reads a signature.
    rcases listening_step (hlistu hgou) hplaced hev hstep hgov with
      hlist | ⟨cv, rfl, hflow, hkind, hr⟩
    · exact absurd hlist hnot
    · rcases signature_read (hlistu hgou) hplaced hheld hflow hkind hr hgov with
        ⟨hheard, hres, hdef, hrep⟩
      have hmoved := unmoved_run hhash henv hheard
        (sound_step hhash henv (clean_of_orderly hev u) hsoundu hstep)
        (fun e he => hes e (List.mem_append_right fs (List.mem_cons_of_mem _ he))) hv hgo
      rw [sslGet1609PsidReceived_unmoved hmoved]
      refine ⟨hdef, fun rep h => ⟨hmoved.verifyResult.trans hres, fs, cv, gs, u, rfl, hu, ?_⟩⟩
      rcases record_run records_step hv with ⟨l, hl⟩
      refine provedBy_mono ?_ (hrep rep h)
      rw [hl]
      exact List.subset_append_right _ _

end Runs

end Iso21177
