import Mathlib.Data.List.Infix
import Iso21177.Lib.Interleave
import Iso21177.SecEnt.Request
import Iso21177.Ssl.Agreement
import Iso21177.Ssl.PeerReport
import Iso21177.Ssl.Questions

/-!
# Two Ends of a Connection

Several endpoints, each with its own security entity and its own application, and no
assumption about what passes between them: a message that is read may come from anyone. All
that ties them is that the entities confirm no signature that none of them made
(`Unforgeable`).

An endpoint that hands out the identity of a peer has had a signature confirmed. So some
endpoint had asked for it, and that is the one whose identity it is: it signed for this
PSID, in the other role, with the certificate that was shown, over the same transcript, and
what it then sent is what was read (`peer_authenticated`). A signature can be replayed in no
other connection, and it cannot be turned back on the side it came from.

It takes the padding to see it. The request to check a signature has no lengths in it, so
that the entity may read it in a way it was not meant, and so has the request to sign.
There is one reading of both.

## Main definitions

* `Tls13Only`: Nothing is signed below TLS 1.3.
* `Unforgeable`: What is confirmed was signed.
* `SignedBy`: A signature as the one who made it had it.
* `Confirmed`: The identity of the peer comes from a confirmed signature.
* `keyedEntity`, `keyedHash`, `keyedEnv`, `ticketHash`, `meeting`, `meetingHash`,
  `asksAboutSigned`: A client that meets a server.

## Theorems

* `tls13Tbs_injective`: Role and hash of signed data.
* `signData_reading`, `verifyData_reading`: The requests have one reading.
* `tls13_of_signAsked`, `tls13_of_checkAsked`: The version.
* `confirmed_step`, `confirmed_run`: The identity of an endpoint in every run.
* `tls13Producible_of_hash`, `signedBy_of_signAsked`, `signedBy_of_confirmed`: Who made a
  signature.
* `unforgeable_of_asksAboutSigned`, `tls13Only_keyedEnv`: The hypotheses at the meeting.
* `peer_authenticated`, `peer_authenticated_meeting`: Whose identity it is.
-/

namespace Iso21177

open Packet

variable {ω : Type}

/-- Certificates are not used to sign below TLS 1.3, and hashes fit their buffers. -/
structure Tls13Only (env : Env ω) : Prop where
  write : ∀ st o w, env.legacyWrite st o = .next w → w.val ≠ .cwCertVrfy
  read : ∀ st mt o w, env.legacyRead st mt o = some w → w.val ≠ .srCertVrfy
  hash : ∀ tr o h, env.handshakeHash tr o = some h → h.length ≤ evpMaxMdSize

/-- A signature that was confirmed for some reading of the question was made, for a hash
    and data of that reading, and for the PSID the confirmation names. -/
def Unforgeable {ι : Type} (w : ι → SSL ω) : Prop :=
  ∀ i req vd, .exchange req (some vd) ∈ (w i).trace →
    req.msgType = secEntMsgTypeTlsVerifyData → vd.msgType = secEntMsgTypeTlsVerifyData →
    ∃ j psid h sig tbs r, h.length = hashedid8Len ∧ Tls13Producible tbs ∧
      req = secEntMsgNewTypeTlsVerifyData h sig tbs ∧
      UInt64.ofNat (beVal (vd.data.take 8)) = psid ∧
      .exchange (secEntMsgNewTypeTlsSignData psid h tbs) (some r) ∈ (w j).trace ∧
      r.msgType = secEntMsgTypeTlsSignData ∧ r.data = sig

/-- The object is about to write the signature `cv`, for this PSID and role, with a
    certificate of this hash and over a transcript of this hash. -/
def SignedBy (env : Env ω) (s : SSL ω) (psid : UInt64) (server : Bool)
    (hashedid8 hash cv : Bytes) : Prop :=
  s.ieee1609.psidThisSide = psid ∧ s.server = server ∧ s.tls13 = true ∧
    s.statem.handState = .ownCert s.server ∧
    env.handshakeHash s.trace s.other = some hash ∧
    (∃ i x c, s.tmp.cert = some i ∧ (s.cert.pkeys i).x509 = some x ∧ x.ieee1609 = some c ∧
      c.hashedid8 = hashedid8) ∧
    ∃ t tr, step env s .write = some t ∧
      t.trace = .sent (.certificateVerify cv) (.signer none) :: tr

/-- Signed data tells the role and the hash. -/
theorem tls13Tbs_injective {b b' : Bool} {h h' : Bytes} (heq : tls13Tbs b h = tls13Tbs b' h') :
    b = b' ∧ h = h' := by
  simp only [tls13Tbs, List.append_assoc] at heq
  have hrest := List.append_cancel_left heq
  rcases List.append_inj hrest (by rw [length_context, length_context]) with ⟨hctx, htail⟩
  refine ⟨?_, (List.cons.inj htail).2⟩
  cases b <;> cases b' <;> first | rfl | exact absurd hctx (by decide)

/-- The hash and the data of a request to sign can be told apart. -/
theorem signData_reading {psid psid' : UInt64} {h h' tbs tbs' : Bytes}
    (ht : Tls13Producible tbs) (ht' : Tls13Producible tbs')
    (heq : secEntMsgNewTypeTlsSignData psid h tbs = secEntMsgNewTypeTlsSignData psid' h' tbs') :
    psid = psid' ∧ h = h' ∧ tbs = tbs' := by
  simp only [secEntMsgNewTypeTlsSignData, SecEntMsg.mk.injEq, true_and, List.append_assoc] at heq
  rcases List.append_inj heq (by rw [length_beBytes, length_beBytes]) with ⟨hpsid, hrest⟩
  have hsplit := splitVerify_append h ht
  rw [hrest, splitVerify_append h' ht', Option.some.injEq, Prod.mk.injEq] at hsplit
  refine ⟨?_, hsplit.1.symm, hsplit.2.symm⟩
  have hval := congrArg beVal hpsid
  rw [beVal_beBytes 8 _ psid.toNat_lt, beVal_beBytes 8 _ psid'.toNat_lt] at hval
  exact UInt64.toNat_inj.mp hval

/-- The hash, the signature and the data of a question can be told apart. -/
theorem verifyData_reading {h h' sig sig' tbs tbs' : Bytes} (hh : h.length = hashedid8Len)
    (hh' : h'.length = hashedid8Len) (ht : Tls13Producible tbs) (ht' : Tls13Producible tbs')
    (heq : secEntMsgNewTypeTlsVerifyData h sig tbs =
      secEntMsgNewTypeTlsVerifyData h' sig' tbs') : h = h' ∧ sig = sig' ∧ tbs = tbs' := by
  simp only [secEntMsgNewTypeTlsVerifyData, SecEntMsg.mk.injEq, true_and, List.append_assoc] at heq
  rcases List.append_inj heq (hh.trans hh'.symm) with ⟨rfl, hrest⟩
  have hsplit := splitVerify_append sig ht
  rw [hrest, splitVerify_append sig' ht', Option.some.injEq, Prod.mk.injEq] at hsplit
  exact ⟨rfl, hsplit.1.symm, hsplit.2.symm⟩

section

variable {env : Env ω}

/-- A signature is asked for in TLS 1.3. -/
theorem tls13_of_signAsked (henv : Tls13Only env) {s t : SSL ω} {c : Ieee1609Cert} {tbs : Bytes}
    {r : Option SecEntMsg} (h : SignAsked env s t c tbs r) : s.tls13 = true := by
  by_contra hno
  have htrans := h.transition
  rw [Bool.not_eq_true] at hno
  -- What the older versions decide is one of their states.
  have hlegacy : ∀ st, (env.legacyWrite st s.other).ofLegacy ≠ .next (.ownVerify s.server) := by
    intro st hst
    cases hw : env.legacyWrite st s.other with
    | next w =>
        rw [hw, WriteTran.ofLegacy, WriteTran.next.injEq] at hst
        cases hs : s.server with
        | true =>
            have hafter := w.property
            rw [hst, hs] at hafter
            exact absurd hafter (by decide)
        | false => exact henv.write st s.other w hw (by rw [hst, hs]; rfl)
    | _ => rw [hw] at hst; exact absurd hst (by simp only [WriteTran.ofLegacy, reduceCtorEq,
        not_false_eq_true])
  simp only [writeTransition, hno, Bool.false_eq_true, if_false] at htrans
  split at htrans
  · exact absurd htrans (by simp only [reduceCtorEq, not_false_eq_true])
  · exact absurd htrans (by simp only [reduceCtorEq, not_false_eq_true])
  · rename_i hs _
    rw [hs, WriteTran.next.injEq] at htrans
    exact absurd htrans (by decide)
  · rename_i hs _
    rw [hs, WriteTran.next.injEq] at htrans
    exact absurd htrans (by decide)
  · exact absurd htrans (by simp only [reduceCtorEq, not_false_eq_true])
  · rename_i hs _
    rw [hs, WriteTran.next.injEq] at htrans
    split at htrans <;> exact absurd htrans (by decide)
  · rename_i hs _
    split at htrans
    · rw [hs, WriteTran.next.injEq] at htrans
      exact absurd htrans (by decide)
    · exact hlegacy _ htrans
  · exact hlegacy _ htrans

/-- A signature is asked about in TLS 1.3. -/
theorem tls13_of_checkAsked (henv : Tls13Only env) {s t : SSL ω} {cv tbs : Bytes}
    {c : Ieee1609Cert} {vc : SecEntMsg} {r : Option SecEntMsg}
    (h : CheckAsked env s t cv c vc tbs r) : s.tls13 = true := by
  by_contra hno
  rcases h.transition with ⟨st, htrans, rfl⟩
  rw [Bool.not_eq_true] at hno
  simp only [readTransition, hno, Bool.false_eq_true, if_false] at htrans
  split at htrans
  · exact absurd htrans (by simp only [reduceCtorEq, if_false, not_false_eq_true])
  · exact absurd htrans (by simp only [reduceCtorEq, if_false, not_false_eq_true])
  · rcases Option.map_eq_some_iff.mp htrans with ⟨w, hw, hst⟩
    cases hs : s.server with
    | true => exact henv.read _ _ _ w hw (by rw [hst, hs]; rfl)
    | false =>
        have hafter := w.property
        rw [hst, hs] at hafter
        exact absurd hafter (by decide)

/-- The identity of the peer, if there is one, is that of a confirmed signature. -/
def Confirmed (s : SSL ω) : Prop :=
  s.ieee1609.psidOtherSide = 0 ∨ ∃ vd, VerifiedData s.trace vd ∧
    s.ieee1609.psidOtherSide = UInt64.ofNat (beVal (vd.data.take 8))

theorem confirmed_step {s t : SSL ω} {ev : Event} (hs : Confirmed s)
    (h : step env s ev = some t) : Confirmed t := by
  rcases records_step s ev t h with ⟨l, hl⟩
  have hkeep : t.peerId = s.peerId → Confirmed t := by
    intro hid
    have hpsid : t.ieee1609.psidOtherSide = s.ieee1609.psidOtherSide := congrArg Prod.fst hid
    rcases hs with hz | ⟨vd, hvd, hp⟩
    · exact Or.inl (hpsid.trans hz)
    · refine Or.inr ⟨vd, verifiedData_mono ?_ hvd, hpsid.trans hp⟩
      rw [hl]
      exact List.subset_append_right _ _
  rcases learned_step env h with ⟨l', hl', -, hid | ⟨vd, b, hvd, -, hid⟩⟩ | ⟨hid, -⟩
  · exact hkeep hid
  · refine Or.inr ⟨vd, verifiedData_mono ?_ hvd, congrArg Prod.fst hid⟩
    rw [hl']
    exact List.subset_append_left _ _
  · exact hkeep hid

theorem confirmed_run {s0 s : SSL ω} {es : List Event} (h0 : s0.ieee1609.psidOtherSide = 0)
    (h : run (step env) s0 es = some s) : Confirmed s :=
  run_invariant (step env) Confirmed (fun _ _ _ hs hst => confirmed_step hs hst) es s0 s
    (Or.inl h0) h

end

section

variable {env : Env ω}

/-- A request that was answered with a signature. -/
theorem signedBy_of_signAsked (henv : Tls13Only env) {s t : SSL ω} {c : Ieee1609Cert}
    {server : Bool} {hash : Bytes} {r : SecEntMsg} (hstep : step env s .write = some t)
    (hask : SignAsked env s t c (tls13Tbs server hash) (some r))
    (hr : r.msgType = secEntMsgTypeTlsSignData) :
    SignedBy env s s.ieee1609.psidThisSide server c.hashedid8 hash r.data := by
  have h13 := tls13_of_signAsked henv hask
  have hsigns := hask.signs
  rw [ownTbs, if_pos h13, Option.map_eq_some_iff] at hsigns
  rcases hsigns with ⟨hash', hhash, htbs⟩
  rcases tls13Tbs_injective htbs with ⟨hserver, rfl⟩
  rcases hask.cert with ⟨i, x, hi, hx, hc⟩
  refine ⟨rfl, hserver, h13, (writeTransition_ownVerify h13 hask.transition).1, hhash,
    ⟨i, x, c, hi, hx, hc, rfl⟩, t, ?_⟩
  rcases hask.trace with ⟨l, hl, ⟨-, -, hno⟩ | ⟨m, hm, -, rfl⟩⟩
  · exact absurd hr (hno r rfl)
  · rw [Option.some.inj hm]
    exact ⟨_, hstep, hl⟩

/-- Data that may be signed: what the hash of a transcript is in. -/
theorem tls13Producible_of_hash (henv : Tls13Only env) {tr : List Obs} {o : ω} {hash : Bytes}
    (h : env.handshakeHash tr o = some hash) (server : Bool) :
    Tls13Producible (tls13Tbs server hash) :=
  ⟨server, hash, henv.hash tr o hash h, rfl⟩

end

section

variable {ι : Type} [DecidableEq ι] (env : ι → Env ω)

/-- The one who made a signature that was confirmed. -/
theorem signedBy_of_confirmed (henv : ∀ i, Tls13Only (env i)) {w0 w : ι → SSL ω}
    {es : List (ι × Event)} (h0 : ∀ i, (w0 i).trace = [])
    (hrun : run (stepAt (fun i => step (env i))) w0 es = some w) (hent : Unforgeable w) {i : ι}
    {h sig : Bytes} {server : Bool} {hash : Bytes} {vd : SecEntMsg}
    (hmem : .exchange (secEntMsgNewTypeTlsVerifyData h sig (tls13Tbs server hash)) (some vd) ∈
      (w i).trace) (hvd : vd.msgType = secEntMsgTypeTlsVerifyData)
    (hh : h.length = hashedid8Len) (ht : Tls13Producible (tls13Tbs server hash)) :
    ∃ j es₁ es₂ a, es = es₁ ++ (j, .write) :: es₂ ∧
      run (stepAt (fun i => step (env i))) w0 es₁ = some a ∧
      SignedBy (env j) (a j) (UInt64.ofNat (beVal (vd.data.take 8))) server h hash sig := by
  rcases hent i _ vd hmem rfl hvd with
    ⟨j, psid, h', sig', tbs, r, hh', ht', hread, rfl, hsign, hr, hdata⟩
  rcases verifyData_reading hh hh' ht ht' hread with ⟨rfl, rfl, rfl⟩
  rcases entry_origin_at (fun i => records_step) hrun hsign with
    hold | ⟨es₁, ev, es₂, a, t, l, rfl, ha, hstep, -, hl, hnew⟩
  · rw [h0 j] at hold
    exact absurd hold List.not_mem_nil
  · rcases signing_new hstep hl hnew rfl with
      ⟨rfl, c, tbs', r', hask, heq⟩ | ⟨cv, c, vc, tbs', r', -, -, -, heq⟩
    · rcases Obs.exchange.inj heq with ⟨hreq, rfl⟩
      -- The request is read as it was meant.
      have h13 := tls13_of_signAsked (henv j) hask
      have hsigns := hask.signs
      rw [ownTbs, if_pos h13, Option.map_eq_some_iff] at hsigns
      rcases hsigns with ⟨hash', hhash, rfl⟩
      rcases signData_reading ht (tls13Producible_of_hash (henv j) hhash _) hreq with
        ⟨hpsid, hhid, htbs⟩
      rw [← htbs] at hask
      have hsigned := signedBy_of_signAsked (henv j) hstep hask hr
      rw [← hpsid, ← hhid, hdata] at hsigned
      exact ⟨j, es₁, es₂, a, rfl, ha, hsigned⟩
    · have htype := congrArg SecEntMsg.msgType (Obs.exchange.inj heq).1
      exact absurd htype signType_ne_verifyType

/-- Endpoints that take events in any order, with no assumption about where a message that is
    read comes from. Whoever hands out the identity of a peer read a CertificateVerify that
    another write, earlier in the run, made and sent: with the PSID that is handed out, in
    the other role, with a certificate of the hash that the first entry of the Certificate
    was found to have, and over a transcript of the same hash. -/
theorem peer_authenticated (henv : ∀ i, Tls13Only (env i)) {w0 w : ι → SSL ω}
    {es : List (ι × Event)} (hst : ∀ i, (w0 i).statem.state = .uninited)
    (h0 : ∀ i, (w0 i).trace = []) (hid : ∀ i, (w0 i).ieee1609.psidOtherSide = 0)
    (hent : ∀ es₁ es₂ u, es = es₁ ++ es₂ →
      run (stepAt (fun i => step (env i))) w0 es₁ = some u → Unforgeable u)
    (hrun : run (stepAt (fun i => step (env i))) w0 es = some w) {i : ι}
    (hes : ∀ ev ∈ eventsOf i es, ev.emptyFirstEntry = false) {sspSet wantHash : Bool}
    {rep : PeerReport} (hrep : sslGet1609PsidReceived (w i) sspSet wantHash = some (some rep)) :
    ∃ j es₁ es₂ es₃ cv a b body l tr e hash vc,
      es = es₁ ++ (j, .write) :: es₂ ++ (i, .read (.certificateVerify cv)) :: es₃ ∧
      run (stepAt (fun i => step (env i))) w0 es₁ = some a ∧
      run (stepAt (fun i => step (env i))) w0 (es₁ ++ (j, .write) :: es₂) = some b ∧
      (b i).trace = l ++ .recv (.certificate body) :: tr ∧ (∀ o ∈ l, o.isExchange = true) ∧
      (certificatesOf body).head? = some e ∧
      (env i).handshakeHash (b i).trace (b i).other = some hash ∧
      vc.msgType = secEntMsgTypeTlsVerifyCerts ∧
      .exchange (secEntMsgNewTypeTlsVerifyCerts e) (some vc) ∈ (w i).trace ∧
      SignedBy (env j) (a j) rep.psid (!(b i).server) (vc.data.take hashedid8Len) hash cv := by
  have hrec : ∀ i, Records (step (env i)) (SSL.trace : SSL ω → List Obs) :=
    fun i => records_step
  -- The identity comes from a confirmed signature.
  have hconf := confirmed_run (hid i) (run_component _ hrun i)
  rcases sslGet1609PsidReceived_some hrep with ⟨hnz, ssphash, hrepeq⟩
  rcases hconf with hz | ⟨vd, ⟨hvd, h1, sig1, tbs1, hmem⟩, hpsid⟩
  · exact absurd hz hnz
  · rcases entry_origin_at hrec hrun hmem with
      hold | ⟨es₁, ev, es₃, b, t, l, rfl, hb, hstep, hrest, hl, hnew⟩
    · rw [h0 i] at hold
      exact absurd hold List.not_mem_nil
    · have hsign1 : (Obs.exchange (secEntMsgNewTypeTlsVerifyData h1 sig1 tbs1)
          (some vd)).signing = true := rfl
      rcases signing_new hstep hl hnew hsign1 with
        ⟨-, c, tbs, r, -, heq⟩ | ⟨cv, c, vc, tbs, r, rfl, hread, hask, heq⟩
      · have htype := congrArg SecEntMsg.msgType (Obs.exchange.inj heq).1
        exact absurd htype.symm signType_ne_verifyType
      · rcases Obs.exchange.inj heq with ⟨-, rfl⟩
        have h13 := tls13_of_checkAsked (henv i) hask
        have hes₁ : ∀ ev ∈ eventsOf i es₁, ev.emptyFirstEntry = false := by
          intro ev hev
          refine hes ev ?_
          rw [eventsOf, List.filterMap_append]
          exact List.mem_append_left _ hev
        rcases hask.certificate hes₁ (hst i) (run_component _ hb i) hread h13 with
          ⟨body, l', tr, hash, htrace, hl', hbody, hhash, rfl⟩
        rcases hask.trace with ⟨l'', hl'', -⟩
        have hv : run (stepAt (fun i => step (env i))) w0
            (es₁ ++ [(i, .read (.certificateVerify cv))]) = some (Function.update b i t) :=
          (run_concat _ _ hb).mpr (stepAt_some.mpr ⟨t, hstep, rfl⟩)
        have hask' : .exchange (secEntMsgNewTypeTlsVerifyData (vc.data.take hashedid8Len) cv
            (tls13Tbs (!(b i).server) hash)) (some vd) ∈ (Function.update b i t i).trace := by
          rw [Function.update_self, hl'']
          exact List.mem_append_right _ (List.mem_cons_self ..)
        have hlen : (vc.data.take hashedid8Len).length = hashedid8Len := by
          rw [List.length_take]
          exact Nat.min_eq_left hask.known.2
        rcases signedBy_of_confirmed env henv h0 hv
            (hent _ es₃ _ (by rw [List.append_assoc]; rfl) hv) hask' hvd hlen
            (tls13Producible_of_hash (henv i) hhash _) with ⟨j, fs₁, fs₂, a, hfs, ha, hsigned⟩
        -- The signature is not the last event, which is the reading.
        rcases List.eq_nil_or_concat fs₂ with rfl | ⟨es₂, x, rfl⟩
        · have hlast := (List.append_inj' hfs rfl).2
          simp only [List.cons.injEq, Prod.mk.injEq, reduceCtorEq, and_false, false_and] at hlast
        · rw [List.concat_eq_append, ← List.cons_append, ← List.append_assoc] at hfs
          rcases List.append_inj' hfs rfl with ⟨rfl, -⟩
          refine ⟨j, fs₁, es₂, es₃, cv, a, b, body, l', tr, c.certData, hash, vc, rfl, ha, hb,
            htrace, hl', hbody, hhash, hask.known.1, ?_, ?_⟩
          · rcases record_run (records_stepAt hrec i) hrest with ⟨l₃, hl₃⟩
            rw [hl₃, Function.update_self, hl'']
            refine List.mem_append_right _ (List.mem_append_right _ (List.mem_cons_of_mem _ ?_))
            exact List.mem_cons_self ..
          · rw [hrepeq]
            rw [← hpsid] at hsigned
            exact hsigned

end

/-- A security entity with one key, which confirms what it signs. -/
def keyedEntity (req : SecEntMsg) : Option SecEntMsg :=
  if req.msgType = secEntMsgTypeTlsVerifyCerts ∨ req.msgType = secEntMsgTypeTlsVerifyData then
    verifyingEntity req
  else ticketEntity req

/-- Octets that tell messages apart: their kinds, and what Certificates and signatures hold. -/
def Msg.octets : Msg → Bytes
  | .clientHello .. => [1]
  | .serverHello .. => [2]
  | .encryptedExtensions _ => [8]
  | .certificateRequest _ => [13]
  | .certificate body => 11 :: body
  | .certificateVerify body => 15 :: body
  | .plain _ _ => []

def Obs.octets : Obs → Bytes
  | .recv m => m.octets
  | .sent m _ => m.octets
  | .exchange .. | .clear => []

/-- As a hash, the first octets of the messages since the object was cleared. -/
def keyedHash (tr : List Obs) : Bytes :=
  ((sinceClear tr).reverse.flatMap Obs.octets).take evpMaxMdSize

/-- Everything succeeds, with that security entity and that hash. -/
def keyedEnv : Env Unit :=
  { plainEnv with
    secEnt := fun _ req => keyedEntity req
    handshakeHash := fun tr _ => some (keyedHash tr) }

/-- A server with a ticket and a client that asks for one, up to the signature. -/
def meeting : List (Bool × Event) :=
  [(true, .config (.enableRfc8902Support sslRfc89021609 sslRfc8902X509 true)),
    (false, .config (.enableRfc8902Support sslRfc89021609 sslRfc8902X509 false)),
    (true, .start true), (false, .start false), (true, .write), (false, .write), (false, .write),
    (true, .read listingHello), (true, .write),
    (false, .read (.serverHello false [] serverHelloTypes)), (true, .write), (true, .write),
    (false, .read (.encryptedExtensions [])), (true, .write),
    (false, .read (.certificateRequest [0, 0, 0])),
    (false, .read (.certificate [0, 0, 0, 6, 0, 0, 1, 7, 0, 0])), (true, .write),
    (false, .read (.certificateVerify [5]))]

/-- The hash of the ticket. -/
def ticketHash : Bytes := [1, 2, 3, 4, 5, 6, 7, 8]

/-- The hash of the transcript up to that Certificate. -/
def meetingHash : Bytes := [1, 2, 8, 13, 11, 0, 0, 0, 6, 0, 0, 1, 7, 0, 0]

/-- Every question in the record is the one about the server's signature, which it has in its
    own. -/
def asksAboutSigned (w : Bool → SSL Unit) : Bool :=
  [true, false].all (fun i => (w i).trace.all (fun o =>
    o.request.all (fun req => req.msgType ≠ secEntMsgTypeTlsVerifyData) ||
      (o = .exchange (secEntMsgNewTypeTlsVerifyData ticketHash [5] (tls13Tbs true meetingHash))
          (some ⟨secEntMsgTypeTlsVerifyData, [0, 0, 0, 0, 0, 0, 0, 36]⟩) &&
        (w true).trace.any (fun o => o = .exchange
          (secEntMsgNewTypeTlsSignData psidDefault ticketHash (tls13Tbs true meetingHash))
          (some ⟨secEntMsgTypeTlsSignData, [5]⟩)))))

theorem unforgeable_of_asksAboutSigned {w : Bool → SSL Unit} (h : asksAboutSigned w = true) :
    Unforgeable w := by
  intro i req vd hmem htype hvd
  have hi : i ∈ [true, false] := by cases i <;> simp only [List.mem_cons, true_or, or_true]
  have ho := List.all_eq_true.mp (List.all_eq_true.mp h i hi) _ hmem
  rw [Bool.or_eq_true] at ho
  rcases ho with ho | ho
  · rw [Obs.request, Option.all_some, decide_eq_true_eq] at ho
    exact absurd htype ho
  · rw [Bool.and_eq_true, decide_eq_true_eq, Obs.exchange.injEq, Option.some.injEq] at ho
    rcases ho with ⟨⟨rfl, rfl⟩, hany⟩
    rcases List.any_eq_true.mp hany with ⟨o, hsign, ho⟩
    rw [of_decide_eq_true ho] at hsign
    exact ⟨true, psidDefault, ticketHash, [5], tls13Tbs true meetingHash, _, rfl,
      ⟨true, meetingHash, by decide, rfl⟩, rfl, by decide, hsign, rfl, rfl⟩

theorem tls13Only_keyedEnv : Tls13Only keyedEnv where
  write _ _ _ h := absurd h (by simp only [keyedEnv, plainEnv, reduceCtorEq, not_false_eq_true])
  read _ _ _ _ h := absurd h (by simp only [keyedEnv, plainEnv, reduceCtorEq,
    not_false_eq_true])
  hash _ _ h hhash := by
    rw [← Option.some.inj hhash]
    exact List.length_take_le _ _

/-- The client of that meeting knows the server. -/
theorem peer_authenticated_meeting :
    ∃ (w a b : Bool → SSL Unit) (rep : PeerReport) (j : Bool) (hash cv hid : Bytes),
      run (stepAt (fun _ : Bool => step keyedEnv)) (fun _ => newClient) meeting = some w ∧
      sslGet1609PsidReceived (w false) false true = some (some rep) ∧
      SignedBy keyedEnv (a j) rep.psid (!(b false).server) hid hash cv := by
  have htest : (run (stepAt (fun _ : Bool => step keyedEnv)) (fun _ => newClient) meeting).any
      (fun w => (sslGet1609PsidReceived (w false) false true).any Option.isSome) = true := by
    decide +kernel
  have hall : ∀ es ∈ meeting.inits, (run (stepAt (fun _ : Bool => step keyedEnv))
      (fun _ => newClient) es).all asksAboutSigned = true := by
    decide +kernel
  rcases (Option.any_eq_true _ _).mp htest with ⟨w, hrun, hrep⟩
  rcases (Option.any_eq_true _ _).mp hrep with ⟨rep', hrep', hsome⟩
  rcases Option.isSome_iff_exists.mp hsome with ⟨rep, rfl⟩
  rcases peer_authenticated (fun _ => keyedEnv) (fun _ => tls13Only_keyedEnv) (fun _ => rfl)
    (fun _ => rfl) (fun _ => rfl) (fun es₁ es₂ u hes hu => by
      have hin := hall es₁ ((List.mem_inits _ _).mpr ⟨es₂, hes.symm⟩)
      rw [hu, Option.all_some] at hin
      exact unforgeable_of_asksAboutSigned hin) hrun (by decide +kernel) hrep' with
    ⟨j, es₁, es₂, es₃, cv, a, b, body, l, tr, e, hash, vc, -, -, -, -, -, -, -, -, -, hsigned⟩
  exact ⟨w, a, b, rep, j, hash, cv, _, hrun, hrep', hsigned⟩

end Iso21177
