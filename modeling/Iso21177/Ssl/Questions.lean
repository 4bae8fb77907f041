import Iso21177.Lib.Interleave
import Iso21177.Ssl.OwnSignature
import Iso21177.Ssl.Quiet

/-!
# What the Security Entity Is Asked to Sign

The security entity signs whatever comes over the socket, so what it is asked to sign is
what counts. A request can come from one place only, where a CertificateVerify is written,
and a question about a signature from one place only, where one is read.

A step of the state machine therefore asks nothing of the kind, or it is a write with one
SIGN_DATA, or a read with one VERIFY_DATA (`step_asks`). The first is about this side, and
the reply is sent or the handshake ends: no signature is kept for later, and none is asked
for on behalf of anyone (`signature_asked`). The second is about the other side, about the
message that was read, and about the first entry of the Certificate before it
(`signature_checked`).

## Main definitions

* `ownTbs`, `checkTrace`, `peerTbs`: What this side signs, and what the other is to have
  signed.
* `SignAsked`: One signature was asked for.
* `CheckAsked`: One signature was asked about.
* `verifyingFlight`: A client's handshake up to the signature.

## Theorems

* `asks_tlsConstructIeee1609CertCertVerify`, `asks_tlsConstructCertVerify`,
  `asks_constructMessage`, `ownTbs_of_getCertVerifyTbsData`, `asks_writeStep`,
  `asks_writeEvent`: Writing.
* `ieee1609CertVerify_length`, `trace_tlsProcessIeee1609CertCertVerify`,
  `peerTbs_of_getCertVerifyTbsData`, `asks_process1609CertVerify`,
  `asks_tlsProcessCertVerify`, `asks_processMessage`, `asks_readEvent`: Reading.
* `step_asks`, `records_step`, `signing_new`, `signType_ne_verifyType`: One step.
* `CheckAsked.certificate`: The certificate a question is about.
* `request_of_any`: Requests of a record.
* `signature_asked`, `signature_asked_ticket`: What is signed in a run.
* `signature_checked`, `signature_checked_flight`: What is checked in a run.
-/

namespace Iso21177

variable {ω : Type}

/-- What this side signs next. -/
def ownTbs (env : Env ω) (s : SSL ω) : Option Bytes :=
  if s.tls13 then (env.handshakeHash s.trace s.other).map (tls13Tbs s.server)
  else env.handshakeBuffer s.trace s.other

/-- The record once the signature was read and the peer's certificate checked again. -/
def checkTrace (s : SSL ω) (cv certData : Bytes) (vc : SecEntMsg) : List Obs :=
  .exchange (secEntMsgNewTypeTlsVerifyCerts certData) (some vc) ::
    .recv (.certificateVerify cv) :: s.trace

/-- What the other side is to have signed, with the record at that point. -/
def peerTbs (env : Env ω) (tr : List Obs) (s : SSL ω) : Option Bytes :=
  if s.tls13 then some (tls13Tbs (!s.server) s.certVerifyHash)
  else env.handshakeBuffer tr s.other

/-- One signature was asked for: with the certificate `c` of the chosen slot, for this side's
    PSID and what it signs. The reply was sent, or there was an error. -/
structure SignAsked (env : Env ω) (s t : SSL ω) (c : Ieee1609Cert) (tbs : Bytes)
    (r : Option SecEntMsg) : Prop where
  transition : writeTransition env s = .next (.ownVerify s.server)
  cert : ∃ i x, s.tmp.cert = some i ∧ (s.cert.pkeys i).x509 = some x ∧ x.ieee1609 = some c
  signs : ownTbs env s = some tbs
  trace : ∃ l, t.trace = l ++ .exchange
      (secEntMsgNewTypeTlsSignData s.ieee1609.psidThisSide c.hashedid8 tbs) r :: s.trace ∧
    (l = [] ∧ t.Fatal ∧ (∀ m, r = some m → m.msgType ≠ secEntMsgTypeTlsSignData) ∨
      ∃ m, r = some m ∧ m.msgType = secEntMsgTypeTlsSignData ∧
        l = [.sent (.certificateVerify m.data) (.signer none)])

/-- One signature was asked about: the one that was read, for the hash that the certificate
    `c` of the peer was found to have just before, and what the peer is to have signed. -/
structure CheckAsked (env : Env ω) (s t : SSL ω) (cv : Bytes) (c : Ieee1609Cert)
    (vc : SecEntMsg) (tbs : Bytes) (r : Option SecEntMsg) : Prop where
  transition : ∃ st, readTransition env s .certificateVerify = some st ∧
    st = if s.server then .srCertVrfy else .crCertVrfy
  kind : sslIsUsing1609OtherSide s = true
  peer : ∃ a x, s.session.bind Session.peer = some a ∧ s.heap.read a = some x ∧
    x.ieee1609 = some c
  known : vc.msgType = secEntMsgTypeTlsVerifyCerts ∧ hashedid8Len ≤ vc.data.length
  signed : peerTbs env (checkTrace s cv c.certData vc) s = some tbs
  trace : ∃ l, t.trace = l ++ .exchange
      (secEntMsgNewTypeTlsVerifyData (vc.data.take hashedid8Len) cv tbs) r ::
        checkTrace s cv c.certData vc ∧
    ∀ o ∈ l, o.signing = false

section Signatures

variable {env : Env ω}

/-- What signing with a certificate adds to the record. -/
theorem asks_tlsConstructIeee1609CertCertVerify {cert : Option Ieee1609Cert} {input : Bytes}
    {s t : SSL ω} {body : Option Bytes}
    (h : tlsConstructIeee1609CertCertVerify env cert input s = (body, t)) :
    Quiet s t ∧ body = none ∨ ∃ c r, cert = some c ∧ t.trace = .exchange
        (secEntMsgNewTypeTlsSignData s.ieee1609.psidThisSide c.hashedid8 input) r :: s.trace ∧
      (body = none ∧ (∀ m, r = some m → m.msgType ≠ secEntMsgTypeTlsSignData) ∨
        ∃ m, r = some m ∧ m.msgType = secEntMsgTypeTlsSignData ∧ body = some m.data) := by
  cases body with
  | some body =>
      rcases tlsConstructIeee1609CertCertVerify_some h with ⟨c, m, hc, htype, rfl, rfl⟩
      exact Or.inr ⟨c, some m, hc, rfl, Or.inr ⟨m, rfl, htype, rfl⟩⟩
  | none =>
      unfold tlsConstructIeee1609CertCertVerify at h
      split at h
      · rw [← (Prod.mk.inj h).2]
        exact Or.inl ⟨quiet_of_touches (touches_sslFatal [] _ _ s) (by decide), rfl⟩
      · -- Without a signature the question was asked all the same, and the connection stops.
        rename_i c
        have hfatal : ∀ r : SecEntReply, ∀ s', s' = s.note (.exchange
            (secEntMsgNewTypeTlsSignData s.ieee1609.psidThisSide c.hashedid8 input) r.toOption) →
            (sslFatal .internalError .internalError s').trace = .exchange
              (secEntMsgNewTypeTlsSignData s.ieee1609.psidThisSide c.hashedid8 input)
              r.toOption :: s.trace := by
          intro r s' hs'
          rw [(touches_sslFatal [] _ _ s').trace (by decide), hs']
          rfl
        refine Or.inr ?_
        split at h
        · rename_i m s' hp
          split at h
          · rw [← (Prod.mk.inj h).2]
            refine ⟨c, _, rfl, hfatal _ s' (secEntProcess_eq hp), Or.inl ⟨rfl, ?_⟩⟩
            rintro m' ⟨⟩
            assumption
          · exact absurd (Prod.mk.inj h).1 (by simp only [reduceCtorEq, not_false_eq_true])
        · rename_i r s' hno hp
          rw [← (Prod.mk.inj h).2]
          refine ⟨c, _, rfl, hfatal r s' (secEntProcess_eq hp), Or.inl ⟨rfl, fun m hm => ?_⟩⟩
          cases r with
          | msg m' => exact absurd rfl (hno m')
          | _ => exact absurd hm (by simp only [SecEntReply.toOption, reduceCtorEq,
              not_false_eq_true])

/-- Writing a CertificateVerify. -/
theorem asks_tlsConstructCertVerify {s t : SSL ω} {r : Built}
    (h : tlsConstructCertVerify env s = some (r, t)) :
    Quiet s t ∨ ∃ i x c tbs reply, s.tmp.cert = some i ∧ (s.cert.pkeys i).x509 = some x ∧
      x.ieee1609 = some c ∧ getCertVerifyTbsData env s = (some tbs, s) ∧
      t.trace = .exchange
        (secEntMsgNewTypeTlsSignData s.ieee1609.psidThisSide c.hashedid8 tbs) reply :: s.trace ∧
      (r = none ∧ (∀ m, reply = some m → m.msgType ≠ secEntMsgTypeTlsSignData) ∨
        ∃ m, reply = some m ∧ m.msgType = secEntMsgTypeTlsSignData ∧
          r = some (.certificateVerify m.data, .signer none)) := by
  have hfail : ∀ {v : SSL ω} {al reason}, Quiet s v →
      some ((none : Built), sslFatal al reason v) = some (r, t) → Quiet s t := by
    intro v al reason hv heq
    rw [← (Prod.mk.inj (Option.some.inj heq)).2]
    exact quiet_trans hv (quiet_of_touches (touches_sslFatal [] al reason v) (by decide))
  unfold tlsConstructCertVerify at h
  split at h
  · rename_i lu i _ hi
    split at h
    · rename_i s' htbs
      rw [← (Prod.mk.inj (Option.some.inj h)).2]
      exact Or.inl (quiet_of_touches (touches_getCertVerifyTbsData env htbs) (by decide))
    · rename_i tbs s' htbs
      have hs' : s' = s := by
        rcases getCertVerifyTbsData_eq env htbs with ⟨-, rfl⟩ | ⟨hno, -⟩
        · rfl
        · exact absurd hno (by simp only [reduceCtorEq, not_false_eq_true])
      subst hs'
      split at h
      · split at h
        · exact absurd h (by simp only [reduceCtorEq, not_false_eq_true])
        · rename_i x hx
          split at h
          all_goals
            rename_i hsign
            rcases asks_tlsConstructIeee1609CertCertVerify hsign with
              ⟨hquiet, -⟩ | ⟨c, reply, hc, htrace, hbody⟩
            · rw [← (Prod.mk.inj (Option.some.inj h)).2]
              exact Or.inl hquiet
            · refine Or.inr ⟨i, x, c, tbs, reply, hi, hx, hc, htbs, ?_, ?_⟩
              · rw [← (Prod.mk.inj (Option.some.inj h)).2, htrace]
              · rw [← (Prod.mk.inj (Option.some.inj h)).1]
                rcases hbody with ⟨hno, hreply⟩ | ⟨m, hm, htype, hdata⟩
                · first
                  | exact Or.inl ⟨rfl, hreply⟩
                  | exact absurd hno (by simp only [reduceCtorEq, not_false_eq_true])
                · first
                  | exact absurd hdata (by simp only [reduceCtorEq, not_false_eq_true])
                  | exact Or.inr ⟨m, hm, htype, by rw [Option.some.inj hdata]⟩
      · -- With a key of its own the entity is not asked.
        left
        split at h
        · exact hfail (quiet_refl _) h
        · split at h
          · exact hfail (quiet_refl _) h
          · split at h
            · exact hfail (quiet_refl _) h
            · split at h
              · exact hfail (quiet_refl _) h
              · split at h
                · exact absurd h (by simp only [reduceCtorEq, not_false_eq_true])
                · rename_i hp
                  rw [← (Prod.mk.inj (Option.some.inj h)).2]
                  exact quiet_of_touches (touches_runOther _ _ _ _ hp) (by decide)
                · rename_i hp
                  rw [← (Prod.mk.inj (Option.some.inj h)).2]
                  exact quiet_of_touches (touches_runOther _ _ _ _ hp) (by decide)
  · exact Or.inl (hfail (quiet_refl s) h)

/-- Writing any other message. -/
theorem asks_constructMessage {s t : SSL ω} {r : Built}
    (h : constructMessage env s = some (r, t)) :
    Quiet s t ∨ s.statem.handState = .ownVerify s.server ∧
      tlsConstructCertVerify env s = some (r, t) := by
  unfold constructMessage at h
  cases hs : s.server with
  | true =>
      simp only [hs, if_true, serverConstructMessage] at h
      split at h
      · exact Or.inl (quiet_of_touches (touches_tlsConstructServerHello env h) (by decide))
      · exact Or.inl
          (quiet_of_touches (touches_tlsConstructEncryptedExtensions env h) (by decide))
      · exact Or.inl
          (quiet_of_touches (touches_tlsConstructCertificateRequest env h) (by decide))
      · exact Or.inl
          (quiet_of_touches (touches_tlsConstructServerCertificate env h) (by decide))
      · rename_i hst
        exact Or.inr ⟨hst, h⟩
      · exact Or.inl (quiet_constructPlain env h)
  | false =>
      simp only [hs, Bool.false_eq_true, if_false, clientConstructMessage] at h
      split at h
      · exact Or.inl (quiet_of_touches (touches_tlsConstructClientHello env h) (by decide))
      · exact Or.inl
          (quiet_of_touches (touches_tlsConstructClientCertificate env h) (by decide))
      · rename_i hst
        exact Or.inr ⟨hst, h⟩
      · exact Or.inl (quiet_constructPlain env h)

/-- What is signed in the state of this side's CertificateVerify. -/
theorem ownTbs_of_getCertVerifyTbsData {s t : SSL ω} {tbs : Bytes}
    (hst : s.statem.handState = .ownVerify s.server)
    (h : getCertVerifyTbsData env s = (some tbs, t)) : ownTbs env s = some tbs := by
  unfold ownTbs
  by_cases h13 : s.tls13 = true
  · rcases getCertVerifyTbsData_own h13 hst h with ⟨hash, hhash, rfl⟩
    rw [if_pos h13, hhash, Option.map_some]
  · rw [if_neg h13]
    unfold getCertVerifyTbsData at h
    rw [if_neg h13] at h
    split at h
    · exact absurd (Prod.mk.inj h).1 (by simp only [reduceCtorEq, not_false_eq_true])
    · rename_i b hb
      rw [hb, (Prod.mk.inj h).1]

theorem asks_writeStep {s t : SSL ω} {st : HandState}
    (htrans : writeTransition env s = .next st) (h : writeStep env (entering s st) = some t) :
    Quiet s t ∨ ∃ c tbs r, SignAsked env s t c tbs r := by
  have henter : Quiet s (entering s st) := quiet_of_trace rfl
  rcases writeStep_cases env h with ⟨-, b, v, hf, rfl⟩ | ⟨-, b, v, hp, rfl⟩ | ⟨u, hc, rfl⟩ |
    ⟨-, m, src, u, b, v, hc, hp, rfl⟩
  · exact Or.inl (quiet_ite_checkFatal (quiet_trans henter
      (quiet_of_keeps (keeps_finishHandshake env hf) (by decide))))
  · exact Or.inl (quiet_ite_checkFatal (quiet_trans henter
      (quiet_of_touches (touches_runOther _ _ b v hp) (by decide))))
  · rcases asks_constructMessage hc with hquiet | ⟨hst, hverify⟩
    · exact Or.inl (quiet_trans henter (quiet_trans hquiet (quiet_checkFatal u)))
    · rcases asks_tlsConstructCertVerify hverify with
        hquiet | ⟨i, x, c, tbs, reply, hi, hx, hxc, htbs, htrace, hnone⟩
      · exact Or.inl (quiet_trans henter (quiet_trans hquiet (quiet_checkFatal u)))
      · -- No message came of the reply, and that ends the handshake.
        change st = .ownVerify s.server at hst
        subst hst
        refine Or.inr ⟨c, tbs, reply, htrans, ⟨i, x, hi, hx, hxc⟩,
          ownTbs_of_getCertVerifyTbsData (s := entering s _) rfl htbs, [], ?_, ?_⟩
        swap
        · rcases hnone with ⟨-, hreply⟩ | ⟨m, -, -, hm⟩
          · exact Or.inl ⟨rfl, fatal_sslFatal _ _ u, hreply⟩
          · exact absurd hm (by simp only [reduceCtorEq, not_false_eq_true])
        rw [(keeps_checkFatal [] u).trace (by decide), htrace]
        rfl
  · have hpost : Quiet (u.note (.sent m src)) (if b then v else checkFatal v) :=
      quiet_ite_checkFatal (quiet_of_touches (touches_runOther _ _ b v hp) (by decide))
    rcases asks_constructMessage hc with hquiet | ⟨hst, hverify⟩
    · exact Or.inl (quiet_trans henter
        (quiet_trans hquiet (quiet_trans (quiet_note u rfl) hpost)))
    · rcases asks_tlsConstructCertVerify hverify with
        hquiet | ⟨i, x, c, tbs, reply, hi, hx, hxc, htbs, htrace, hsent⟩
      · exact Or.inl (quiet_trans henter
          (quiet_trans hquiet (quiet_trans (quiet_note u rfl) hpost)))
      · change st = .ownVerify s.server at hst
        subst hst
        rcases hsent with ⟨hno, -⟩ | ⟨m', hm', htype, hmsg⟩
        · exact absurd hno (by simp only [reduceCtorEq, not_false_eq_true])
        · rcases Prod.mk.inj (Option.some.inj hmsg) with ⟨rfl, rfl⟩
          refine Or.inr ⟨c, tbs, reply, htrans, ⟨i, x, hi, hx, hxc⟩,
            ownTbs_of_getCertVerifyTbsData (s := entering s _) rfl htbs,
            [.sent (.certificateVerify m'.data) (.signer none)], ?_,
            Or.inr ⟨m', hm', htype, rfl⟩⟩
          rw [(keeps_ite_checkFatal (keeps_refl [] v)).trace (by decide),
            (touches_runOther _ _ b v hp).trace (by decide)]
          change _ :: u.trace = _
          rw [htrace]
          rfl

theorem asks_writeEvent {s t : SSL ω} (h : writeEvent env s = some t) :
    Quiet s t ∨ ∃ c tbs r, SignAsked env s t c tbs r := by
  rcases writeEvent_cases env h with rfl | ⟨-, rfl⟩ | ⟨st, htrans, hw⟩
  · exact Or.inl (quiet_of_touches (touches_sslFatal [] _ _ s) (by decide))
  · exact Or.inl (quiet_of_trace rfl)
  · exact asks_writeStep htrans hw

/-- The hash of a certificate that was checked is a whole one. -/
theorem ieee1609CertVerify_length {c c' : Ieee1609Cert} {s s' : SSL ω}
    (h : ieee1609CertVerify env c s = some (some c', s')) :
    ∃ m, m.msgType = secEntMsgTypeTlsVerifyCerts ∧ hashedid8Len ≤ m.data.length ∧
      c' = { c with hashedid8 := m.data.take hashedid8Len } ∧
      s' = s.note (.exchange (secEntMsgNewTypeTlsVerifyCerts c.certData) (some m)) := by
  unfold ieee1609CertVerify at h
  split at h
  · rename_i m s'' hp
    split at h
    · exact absurd h (by simp only [Option.some.injEq, Prod.mk.injEq, reduceCtorEq, false_and,
        not_false_eq_true])
    · rename_i htype
      split at h
      · exact absurd h (by simp only [reduceCtorEq, not_false_eq_true])
      · rename_i hlen
        simp only [Option.some.injEq, Prod.mk.injEq] at h
        refine ⟨m, by simpa only [ne_eq, Decidable.not_not] using htype, by omega, h.1.symm, ?_⟩
        rw [← h.2]
        exact (secEntProcess_msg hp).2.2
  · exact absurd h (by simp only [Option.some.injEq, Prod.mk.injEq, reduceCtorEq, false_and,
      not_false_eq_true])

/-- Whatever comes of it, the check of a signature is one question. -/
theorem trace_tlsProcessIeee1609CertCertVerify {c : Ieee1609Cert} {tbs cv : Bytes} {s t : SSL ω}
    {b : Bool} (h : tlsProcessIeee1609CertCertVerify env (some c) tbs cv s = some (b, t)) :
    ∃ r, t.trace = .exchange (secEntMsgNewTypeTlsVerifyData c.hashedid8 cv tbs) r :: s.trace := by
  have hfail : ∀ {r : SecEntReply} {s' : SSL ω} {al reason}, secEntProcess env
      (secEntMsgNewTypeTlsVerifyData c.hashedid8 cv tbs) s = (r, s') →
      sslFail al reason s' = some (b, t) → ∃ r, t.trace =
        .exchange (secEntMsgNewTypeTlsVerifyData c.hashedid8 cv tbs) r :: s.trace := by
    intro r s' al reason hp hf
    refine ⟨r.toOption, ?_⟩
    rw [(touches_sslFail [] al reason s' b t hf).trace (by decide), secEntProcess_eq hp]
    rfl
  simp only [tlsProcessIeee1609CertCertVerify] at h
  split at h
  · rename_i hp
    exact hfail hp h
  · rename_i hp
    exact hfail hp h
  · rename_i m s' hp
    split at h
    · exact hfail hp h
    · split at h
      · exact hfail hp h
      · rw [← (Prod.mk.inj (Option.some.inj h)).2]
        exact ⟨some m, by rw [secEntProcess_eq hp]; rfl⟩

/-- What the other side is to have signed, in the state in which its message is read. -/
theorem peerTbs_of_getCertVerifyTbsData {s t : SSL ω} {tbs : Bytes}
    (hst : s.statem.handState = if s.server then .srCertVrfy else .crCertVrfy)
    (h : getCertVerifyTbsData env s = (some tbs, t)) :
    peerTbs env s.trace s = some tbs ∧ t = s := by
  have hrole : s.statem.handState.checksSignature = true ∧
      s.statem.handState.serverSigns = !s.server := by
    rw [hst]
    cases s.server <;> exact ⟨rfl, rfl⟩
  unfold getCertVerifyTbsData at h
  unfold peerTbs
  by_cases h13 : s.tls13 = true
  · simp only [h13, if_true, hrole.1, hrole.2, Prod.mk.injEq] at h ⊢
    exact ⟨h.1, h.2.symm⟩
  · rw [if_neg h13] at h ⊢
    split at h
    · exact absurd (Prod.mk.inj h).1 (by simp only [reduceCtorEq, not_false_eq_true])
    · rename_i b hb
      exact ⟨by rw [hb, (Prod.mk.inj h).1], (Prod.mk.inj h).2.symm⟩

theorem asks_process1609CertVerify {a : Nat} {cv : Bytes} {s t : SSL ω} {b : Bool}
    (hst : s.statem.handState = if s.server then .srCertVrfy else .crCertVrfy)
    (h : process1609CertVerify env a cv s = some (b, t)) :
    Quiet s t ∨ ∃ x c vc tbs r, s.heap.read a = some x ∧ x.ieee1609 = some c ∧
      vc.msgType = secEntMsgTypeTlsVerifyCerts ∧ hashedid8Len ≤ vc.data.length ∧
      peerTbs env (.exchange (secEntMsgNewTypeTlsVerifyCerts c.certData) (some vc) :: s.trace) s =
        some tbs ∧
      t.trace = .exchange
          (secEntMsgNewTypeTlsVerifyData (vc.data.take hashedid8Len) cv tbs) r ::
        .exchange (secEntMsgNewTypeTlsVerifyCerts c.certData) (some vc) :: s.trace := by
  unfold process1609CertVerify at h
  split at h
  · exact absurd h (by simp only [reduceCtorEq, not_false_eq_true])
  · rename_i x hx
    split at h
    · exact Or.inl (quiet_of_touches (touches_sslFail [] _ _ s b t h) (by decide))
    · rename_i c hc
      split at h
      · exact absurd h (by simp only [reduceCtorEq, not_false_eq_true])
      · -- A certificate that was refused is not asked about any further.
        rename_i s' hv
        exact Or.inl (quiet_trans (quiet_ieee1609CertVerify hv)
          (quiet_of_touches (touches_sslFail [] _ _ s' b t h) (by decide)))
      · rename_i c' s' hv
        rcases ieee1609CertVerify_length hv with ⟨vc, htype, hlen, rfl, rfl⟩
        simp only at h
        split at h
        · rename_i u htbs
          have hu := touches_getCertVerifyTbsData env htbs
          rw [← (Prod.mk.inj (Option.some.inj h)).2]
          refine Or.inl (quiet_trans (quiet_ieee1609CertVerify hv) ?_)
          refine quiet_trans ?_ (quiet_of_touches hu (by decide))
          exact quiet_of_trace rfl
        · -- The hash in the question is the one of the reply right before it.
          rename_i tbs u htbs
          rcases peerTbs_of_getCertVerifyTbsData (by exact hst) htbs with ⟨hpeer, rfl⟩
          rcases trace_tlsProcessIeee1609CertCertVerify h with ⟨r, htrace⟩
          exact Or.inr ⟨x, c, vc, tbs, r, hx, hc, htype, hlen, hpeer, htrace⟩

/-- Reading a CertificateVerify in its state. -/
theorem asks_tlsProcessCertVerify {cv : Bytes} {s t : SSL ω} {b : Bool}
    (hst : s.statem.handState = if s.server then .srCertVrfy else .crCertVrfy)
    (h : tlsProcessCertVerify env cv s = some (b, t)) :
    Quiet s t ∨ ∃ a x c vc tbs r, sslIsUsing1609OtherSide s = true ∧
      s.session.bind Session.peer = some a ∧ s.heap.read a = some x ∧ x.ieee1609 = some c ∧
      vc.msgType = secEntMsgTypeTlsVerifyCerts ∧ hashedid8Len ≤ vc.data.length ∧
      peerTbs env (.exchange (secEntMsgNewTypeTlsVerifyCerts c.certData) (some vc) :: s.trace) s =
        some tbs ∧
      t.trace = .exchange
          (secEntMsgNewTypeTlsVerifyData (vc.data.take hashedid8Len) cv tbs) r ::
        .exchange (secEntMsgNewTypeTlsVerifyCerts c.certData) (some vc) :: s.trace := by
  rcases Call.seq_some h with ⟨v, c, hv, hrest⟩
  -- The phase behind the check leaves the record alone.
  have htrace : t.trace = v.trace := by
    rcases hrest with ⟨-, -, rfl⟩ | ⟨-, hp⟩
    · rfl
    · exact (touches_runOther _ _ b t hp).trace (by decide)
  have hquiet : Quiet s v → Quiet s t := fun hq => quiet_trans hq (quiet_of_trace htrace)
  split at hv
  · exact absurd hv (by simp only [reduceCtorEq, not_false_eq_true])
  · rename_i sess hsess
    split at hv
    · rename_i hkind
      split at hv
      · exact absurd hv (by simp only [reduceCtorEq, not_false_eq_true])
      · rename_i a ha
        rcases asks_process1609CertVerify hst hv with
          hq | ⟨x, d, vc, tbs, r, hx, hd, htype, hlen, hpeer, hask⟩
        · exact Or.inl (hquiet hq)
        · refine Or.inr ⟨a, x, d, vc, tbs, r, hkind, ?_, hx, hd, htype, hlen, hpeer, by
            rw [htrace, hask]⟩
          rw [hsess]
          exact ha
    · split at hv
      · exact Or.inl (hquiet (quiet_of_touches
          (touches_processX509CertVerify env none cv s _ v hv) (by decide)))
      · split at hv
        · exact absurd hv (by simp only [reduceCtorEq, not_false_eq_true])
        · exact Or.inl (hquiet (quiet_of_touches
            (touches_processX509CertVerify env _ cv s _ v hv) (by decide)))

/-- Reading a message: only a CertificateVerify, in its state, is asked about. -/
theorem asks_processMessage {m : Msg} {s t : SSL ω} {b : Bool}
    (h : processMessage env m s = some (b, t)) :
    Quiet s t ∨ ∃ cv v c, m = .certificateVerify cv ∧
      s.statem.handState = (if s.server then .srCertVrfy else .crCertVrfy) ∧
      tlsProcessCertVerify env cv s = some (c, v) ∧ Quiet v t := by
  unfold processMessage at h
  cases hs : s.server with
  | true =>
      simp only [hs, if_true] at h
      unfold serverProcessMessage at h
      split at h
      · exact Or.inl (quiet_seq (quiet_rel (touches_tlsProcessClientHello env _ _) (by decide))
          (quiet_tlsPostProcessClientHello env) s b t h)
      · exact Or.inl (quiet_tlsProcessClientCertificate env _ s b t h)
      · rename_i cv hst
        exact Or.inr ⟨cv, t, b, rfl, hst, h, quiet_refl t⟩
      all_goals first
        | exact Or.inl (quiet_of_touches (touches_runOther _ s b t h) (by decide))
        | exact Or.inl (quiet_of_touches (touches_sslFail [] _ _ s b t h) (by decide))
  | false =>
      simp only [hs, Bool.false_eq_true, if_false] at h
      unfold clientProcessMessage at h
      split at h
      · exact Or.inl
          (quiet_of_touches (touches_tlsProcessServerHello env _ _ _ s b t h) (by decide))
      · exact Or.inl
          (quiet_of_touches (touches_tlsProcessEncryptedExtensions env _ s b t h) (by decide))
      · exact Or.inl (quiet_processRequest env _ s b t h)
      · exact Or.inl (quiet_seq (quiet_tlsProcessServerCertificate env _)
          (quiet_tlsPostProcessServerCertificate env) s b t h)
      · -- The client prepares its own certificate behind the check.
        rename_i cv hst
        refine Or.inr ⟨cv, ?_⟩
        rcases Call.seq_some h with ⟨v, c, hv, ⟨-, -, rfl⟩ | ⟨-, hp⟩⟩
        · exact ⟨t, c, rfl, hst, hv, quiet_refl t⟩
        · exact ⟨v, c, rfl, hst, hv, quiet_prepareIfAsked env v b t hp⟩
      all_goals first
        | exact Or.inl (quiet_of_touches (touches_runOther _ s b t h) (by decide))
        | exact Or.inl (quiet_of_touches (touches_sslFail [] _ _ s b t h) (by decide))

theorem asks_readEvent {m : Msg} {s t : SSL ω} (h : readEvent env m s = some t) :
    Quiet s t ∨ ∃ cv c vc tbs r, m = .certificateVerify cv ∧
      CheckAsked env s t cv c vc tbs r := by
  rcases readEvent_cases env h with ⟨u, hu, rfl⟩ | ⟨st, u, b, v, htrans, hu, hsame, hp, rfl⟩
  · exact Or.inl (quiet_trans (quiet_of_touches hu (by decide)) (quiet_checkFatal u))
  · have hread : Quiet s ((u.enter st).note (.recv m)) := by
      have henter : Quiet u (u.enter st) := quiet_of_trace rfl
      exact quiet_trans (quiet_of_touches hu (by decide))
        (quiet_trans henter (quiet_note _ rfl))
    -- What comes behind the message adds no question.
    have hdone : Quiet v (if b then (if doneReading env m v then v.turn .writing else v)
        else checkFatal v) := by
      split
      · split
        · exact quiet_of_trace rfl
        · exact quiet_refl v
      · exact quiet_checkFatal v
    rcases asks_processMessage hp with hq | ⟨cv, w, c, rfl, hst, hw, hq⟩
    · exact Or.inl (quiet_trans hread (quiet_trans hq hdone))
    · -- In front of a CertificateVerify nothing is noted.
      have hu' : u = s := by
        refine hsame (fun hreq => ?_)
        change st = _ at hst
        rw [hst] at hreq
        split at hreq <;> exact absurd hreq (by decide)
      subst hu'
      rcases asks_tlsProcessCertVerify hst hw with
        hquiet | ⟨a, x, d, vc, tbs, r, hkind, ha, hx, hd, htype, hlen, hpeer, hask⟩
      · exact Or.inl (quiet_trans hread (quiet_trans hquiet (quiet_trans hq hdone)))
      · rcases quiet_trans hq hdone with ⟨l, hl, hno⟩
        exact Or.inr ⟨cv, d, vc, tbs, r, rfl, ⟨st, htrans, hst⟩, hkind, ⟨a, x, ha, hx, hd⟩,
          ⟨htype, hlen⟩, hpeer, l, by rw [hl, hask]; rfl, hno⟩

/-- A step asks the security entity nothing about signatures, or it writes a
    CertificateVerify and asks for one, or it reads a CertificateVerify and asks about it. -/
theorem step_asks {s t : SSL ω} {ev : Event} (h : step env s ev = some t) :
    Quiet s t ∨ (ev = .write ∧ ∃ c tbs r, SignAsked env s t c tbs r) ∨
      ∃ cv c vc tbs r, ev = .read (.certificateVerify cv) ∧ s.statem.state = .reading ∧
        CheckAsked env s t cv c vc tbs r := by
  rcases step_cases env h with rfl | ⟨server, rfl, -, hs⟩ | ⟨rfl, -, rfl⟩ | ⟨m, rfl, hm, hr⟩ |
    ⟨rfl, -, hw⟩ | ⟨rfl, b, hc⟩ | ⟨c, rfl, -, -, b, hc⟩
  · exact Or.inl (quiet_refl t)
  · left
    rcases startEvent_cases env hs with hc | ⟨u, b, v, hc, hp, rfl⟩
    · exact quiet_sslClear env s false t hc
    · refine quiet_trans (quiet_sslClear env s true u hc) ?_
      have hset : Quiet u { u with
          server := server, extflags := [], tmp := { u.tmp with certReq := 0 } } :=
        quiet_of_trace rfl
      refine quiet_trans hset (quiet_trans
        (quiet_of_touches (touches_runOther _ _ b v hp) (by decide)) ?_)
      split
      · exact quiet_of_trace rfl
      · exact quiet_refl v
  · exact Or.inl (quiet_of_trace rfl)
  · rcases asks_readEvent hr with hq | ⟨cv, c, vc, tbs, r, rfl, hask⟩
    · exact Or.inl hq
    · exact Or.inr (Or.inr ⟨cv, c, vc, tbs, r, rfl, hm, hask⟩)
  · rcases asks_writeEvent hw with hq | hask
    · exact Or.inl hq
    · exact Or.inr (Or.inl ⟨rfl, hask⟩)
  · exact Or.inl (quiet_sslClear env s b t hc)
  · exact Or.inl (quiet_configCall env c s b t hc)

/-- Steps add to the record only. -/
theorem records_step : Records (step env) SSL.trace := by
  intro s ev t h
  rcases step_asks h with ⟨l, hl, -⟩ | ⟨-, c, tbs, r, hask⟩ | ⟨cv, c, vc, tbs, r, -, -, hask⟩
  · exact ⟨l, hl⟩
  · rcases hask.trace with ⟨l, hl, -⟩
    exact ⟨l ++ [_], by rw [hl, List.append_assoc, List.singleton_append]⟩
  · rcases hask.trace with ⟨l, hl, -⟩
    exact ⟨l ++ [_, _, _], by rw [hl, List.append_assoc]; rfl⟩

/-- A new exchange about a signature is the one of the step. -/
theorem signing_new {s t : SSL ω} {ev : Event} {l : List Obs} {o : Obs}
    (h : step env s ev = some t) (hl : t.trace = l ++ s.trace) (ho : o ∈ l)
    (hsign : o.signing = true) :
    (ev = .write ∧ ∃ c tbs r, SignAsked env s t c tbs r ∧ o = .exchange
      (secEntMsgNewTypeTlsSignData s.ieee1609.psidThisSide c.hashedid8 tbs) r) ∨
    ∃ cv c vc tbs r, ev = .read (.certificateVerify cv) ∧ s.statem.state = .reading ∧
      CheckAsked env s t cv c vc tbs r ∧ o = .exchange
        (secEntMsgNewTypeTlsVerifyData (vc.data.take hashedid8Len) cv tbs) r := by
  rcases step_asks h with ⟨l', hl', hq⟩ | ⟨rfl, c, tbs, r, hask⟩ |
    ⟨cv, c, vc, tbs, r, rfl, hread, hask⟩
  · rw [hl', List.append_cancel_right_eq] at hl
    subst hl
    rw [hq o ho] at hsign
    exact absurd hsign Bool.false_ne_true
  · refine Or.inl ⟨rfl, c, tbs, r, hask, ?_⟩
    rcases hask.trace with ⟨l', hl', hrest⟩
    rw [hl', ← List.singleton_append, ← List.append_assoc, List.append_cancel_right_eq] at hl
    subst hl
    rcases List.mem_append.mp ho with ho | ho
    · -- What follows the request is no exchange.
      rcases hrest with ⟨rfl, -⟩ | ⟨m, -, -, rfl⟩
      · exact absurd ho List.not_mem_nil
      · rw [List.mem_singleton.mp ho] at hsign
        exact absurd hsign Bool.false_ne_true
    · exact List.mem_singleton.mp ho
  · refine Or.inr ⟨cv, c, vc, tbs, r, rfl, hread, hask, ?_⟩
    rcases hask.trace with ⟨l', hl', hq⟩
    have hsplit : l = l' ++ [.exchange
        (secEntMsgNewTypeTlsVerifyData (vc.data.take hashedid8Len) cv tbs) r,
        .exchange (secEntMsgNewTypeTlsVerifyCerts c.certData) (some vc),
        .recv (.certificateVerify cv)] := by
      rw [← List.append_cancel_right_eq _ s.trace, ← hl, hl', List.append_assoc]
      rfl
    rw [hsplit, List.mem_append] at ho
    rcases ho with ho | ho
    · rw [hq o ho] at hsign
      exact absurd hsign Bool.false_ne_true
    · simp only [List.mem_cons, List.not_mem_nil, or_false] at ho
      rcases ho with ho | rfl | rfl
      · exact ho
      · exact absurd hsign Bool.false_ne_true
      · exact absurd hsign Bool.false_ne_true

/-- The two kinds of request are told apart by their type. -/
theorem signType_ne_verifyType : secEntMsgTypeTlsSignData ≠ secEntMsgTypeTlsVerifyData := by
  decide

end Signatures

section Runs

variable {env : Env ω}

/-- The certificate a signature is asked about is the first entry of the Certificate before
    it, and the transcript is the one up to there. -/
theorem CheckAsked.certificate {s0 s t : SSL ω} {es : List Event} {cv tbs : Bytes}
    {c : Ieee1609Cert} {vc : SecEntMsg} {r : Option SecEntMsg}
    (hask : CheckAsked env s t cv c vc tbs r) (hes : ∀ ev ∈ es, ev.emptyFirstEntry = false)
    (h0 : s0.statem.state = .uninited) (hrun : run (step env) s0 es = some s)
    (hread : s.statem.state = .reading) (h13 : s.tls13 = true) :
    ∃ body l tr hash, s.trace = l ++ .recv (.certificate body) :: tr ∧
      (∀ o ∈ l, o.isExchange = true) ∧ (certificatesOf body).head? = some c.certData ∧
      env.handshakeHash s.trace s.other = some hash ∧ tbs = tls13Tbs (!s.server) hash := by
  rcases hask.transition with ⟨st, htrans, -⟩
  have hafter := (serverSigns_of_transition env h13 htrans).1
  have hheld := certHeld_run env (by rw [h0]; exact MsgFlow.noConfusion) hes hrun
  rcases hheld hread h13 hafter with ⟨body, l, tr, htrace, hl, hne, hacc⟩
  rcases hask.peer with ⟨a, x, ha, hx, hc⟩
  rcases hacc.peer a ha with ⟨e, he, hold⟩
  have hene : e ≠ [] := fun hnil => hne (by rw [he, hnil])
  rcases hold hask.kind hene x hx with ⟨c', hc', rfl⟩
  rw [hc, Option.some.injEq] at hc'
  subst hc'
  have hsigned := hask.signed
  rw [peerTbs, if_pos h13, Option.some.injEq] at hsigned
  exact ⟨body, l, tr, s.certVerifyHash, htrace, hl, he, hacc.hash h13, hsigned.symm⟩

/-- Every SIGN_DATA of a run was made by a step that writes this side's CertificateVerify:
    with the certificate of the chosen slot, for the PSID that was configured, and for the
    data that the version has a side of this role sign over its transcript. What came back
    was sent in that step, or it was no signature and the connection is in the error
    state. -/
theorem signature_asked {s0 s : SSL ω} {es : List Event} {req : SecEntMsg}
    {reply : Option SecEntMsg} (h0 : ∀ o ∈ s0.trace, o.signing = false)
    (hrun : run (step env) s0 es = some s) (hmem : .exchange req reply ∈ s.trace)
    (htype : req.msgType = secEntMsgTypeTlsSignData) :
    ∃ es₁ es₂ u v c tbs, es = es₁ ++ .write :: es₂ ∧ run (step env) s0 es₁ = some u ∧
      step env u .write = some v ∧ run (step env) v es₂ = some s ∧
      SignAsked env u v c tbs reply ∧
      req = secEntMsgNewTypeTlsSignData u.ieee1609.psidThisSide c.hashedid8 tbs ∧
      (u.tls13 = true → u.statem.handState = .ownCert u.server ∧
        ∃ hash, env.handshakeHash u.trace u.other = some hash ∧
          tbs = tls13Tbs u.server hash) := by
  have hsign : (Obs.exchange req reply).signing = true := by
    simp only [Obs.signing, Obs.request, Option.any_some, htype, decide_true, Bool.true_or]
  rcases entry_origin records_step hrun hmem with
    hold | ⟨es₁, ev, es₂, u, v, l, rfl, hu, hstep, hv, hl, hmem⟩
  · rw [h0 _ hold] at hsign
    exact absurd hsign Bool.false_ne_true
  · rcases signing_new hstep hl hmem hsign with
      ⟨rfl, c, tbs, r, hask, heq⟩ | ⟨cv, c, vc, tbs, r, -, -, -, heq⟩
    · rcases Obs.exchange.inj heq with ⟨rfl, rfl⟩
      refine ⟨es₁, es₂, u, v, c, tbs, rfl, hu, hstep, hv, hask, rfl, fun h13 => ?_⟩
      refine ⟨(writeTransition_ownVerify h13 hask.transition).1, ?_⟩
      have hsigns := hask.signs
      rw [ownTbs, if_pos h13, Option.map_eq_some_iff] at hsigns
      rcases hsigns with ⟨hash, hhash, rfl⟩
      exact ⟨hash, hhash, rfl⟩
    · rw [(Obs.exchange.inj heq).1] at htype
      exact absurd htype.symm signType_ne_verifyType

/-- The record has a request of a type: what a test finds in it. -/
theorem request_of_any {tr : List Obs} {ty : UInt8}
    (h : tr.any (fun o => o.request.any (fun req => req.msgType = ty)) = true) :
    ∃ req reply, .exchange req reply ∈ tr ∧ req.msgType = ty := by
  rcases List.any_eq_true.mp h with ⟨o, ho, hreq⟩
  rcases (Option.any_eq_true _ _).mp hreq with ⟨req, hsome, htype⟩
  cases o with
  | exchange req' reply =>
      rw [Obs.request, Option.some.injEq] at hsome
      subst hsome
      exact ⟨req', reply, ho, of_decide_eq_true htype⟩
  | _ => exact absurd hsome (by simp only [Obs.request, reduceCtorEq, not_false_eq_true])

/-- The signature of a client with a ticket. -/
theorem signature_asked_ticket :
    ∃ es₁ es₂ u v c tbs reply, ticketClient ++ [.write] = es₁ ++ .write :: es₂ ∧
      run (step ticketEnv) newClient es₁ = some u ∧ step ticketEnv u .write = some v ∧
      SignAsked ticketEnv u v c tbs reply := by
  have htest : (run (step ticketEnv) newClient (ticketClient ++ [.write])).any (fun s =>
      s.trace.any (fun o => o.request.any
        (fun req => req.msgType = secEntMsgTypeTlsSignData))) = true := by
    decide +kernel
  rcases (Option.any_eq_true _ _).mp htest with ⟨s, hrun, hany⟩
  rcases request_of_any hany with ⟨req, reply, hmem, htype⟩
  have hnew : ∀ o ∈ newClient.trace, o.signing = false := fun _ ho => absurd ho List.not_mem_nil
  rcases signature_asked hnew hrun hmem htype with
    ⟨es₁, es₂, u, v, c, tbs, heq, hu, hv, -, hask, -⟩
  exact ⟨es₁, es₂, u, v, c, tbs, reply, heq, hu, hv, hask⟩

/-- Every VERIFY_DATA of a run that reads no Certificate with an empty first entry was made by a
    step that reads the CertificateVerify in it, whatever came of it. It is for the hash that
    the first entry of the Certificate before it was found to have in that step, and in TLS 1.3
    for the data that a peer of the other role signs over the transcript up to there. -/
theorem signature_checked {s0 s : SSL ω} {es : List Event} {req : SecEntMsg}
    {reply : Option SecEntMsg} (hst : s0.statem.state = .uninited)
    (h0 : ∀ o ∈ s0.trace, o.signing = false) (hes : ∀ ev ∈ es, ev.emptyFirstEntry = false)
    (hrun : run (step env) s0 es = some s) (hmem : .exchange req reply ∈ s.trace)
    (htype : req.msgType = secEntMsgTypeTlsVerifyData) :
    ∃ es₁ es₂ cv u v c vc tbs, es = es₁ ++ .read (.certificateVerify cv) :: es₂ ∧
      run (step env) s0 es₁ = some u ∧ step env u (.read (.certificateVerify cv)) = some v ∧
      run (step env) v es₂ = some s ∧ CheckAsked env u v cv c vc tbs reply ∧
      req = secEntMsgNewTypeTlsVerifyData (vc.data.take hashedid8Len) cv tbs ∧
      (u.tls13 = true → ∃ body l tr hash,
        u.trace = l ++ .recv (.certificate body) :: tr ∧ (∀ o ∈ l, o.isExchange = true) ∧
        (certificatesOf body).head? = some c.certData ∧
        env.handshakeHash u.trace u.other = some hash ∧ tbs = tls13Tbs (!u.server) hash) := by
  have hsign : (Obs.exchange req reply).signing = true := by
    simp only [Obs.signing, Obs.request, Option.any_some, htype, decide_true, Bool.or_true]
  rcases entry_origin records_step hrun hmem with
    hold | ⟨es₁, ev, es₂, u, v, l, rfl, hu, hstep, hv, hl, hmem⟩
  · rw [h0 _ hold] at hsign
    exact absurd hsign Bool.false_ne_true
  · rcases signing_new hstep hl hmem hsign with
      ⟨-, c, tbs, r, -, heq⟩ | ⟨cv, c, vc, tbs, r, rfl, hread, hask, heq⟩
    · rw [(Obs.exchange.inj heq).1] at htype
      exact absurd htype signType_ne_verifyType
    · rcases Obs.exchange.inj heq with ⟨rfl, rfl⟩
      refine ⟨es₁, es₂, cv, u, v, c, vc, tbs, rfl, hu, hstep, hv, hask, rfl, fun h13 => ?_⟩
      exact hask.certificate (fun e he => hes e (List.mem_append_left _ he)) hst hu hread h13

/-- A client's handshake up to the server's signature, which the entity confirms. -/
def verifyingFlight : List Event :=
  clientFlight [0, 0, 0, 6, 0, 0, 1, 7, 0, 0] ++ [.read (.certificateVerify [9])]

/-- The question is about the signature that was read. -/
theorem signature_checked_flight :
    ∃ es₁ es₂ cv u v c vc tbs reply, verifyingFlight =
        es₁ ++ .read (.certificateVerify cv) :: es₂ ∧
      run (step verifyingEnv) newClient es₁ = some u ∧
      step verifyingEnv u (.read (.certificateVerify cv)) = some v ∧
      CheckAsked verifyingEnv u v cv c vc tbs reply := by
  have htest : (run (step verifyingEnv) newClient verifyingFlight).any (fun s =>
      s.trace.any (fun o => o.request.any
        (fun req => req.msgType = secEntMsgTypeTlsVerifyData))) = true := by
    decide +kernel
  rcases (Option.any_eq_true _ _).mp htest with ⟨s, hrun, hany⟩
  rcases request_of_any hany with ⟨req, reply, hmem, htype⟩
  have hnew : ∀ o ∈ newClient.trace, o.signing = false := fun _ ho => absurd ho List.not_mem_nil
  rcases signature_checked rfl hnew (by decide +kernel) hrun hmem htype with
    ⟨es₁, es₂, cv, u, v, c, vc, tbs, heq, hu, hv, -, hask, -⟩
  exact ⟨es₁, es₂, cv, u, v, c, vc, tbs, reply, heq, hu, hv, hask⟩

end Runs

end Iso21177
