import Iso21177.Ssl.ClientAuth
import Iso21177.Ssl.OwnCertificate

/-!
# Certificate and CertificateVerify

After its Certificate a TLS 1.3 client writes a CertificateVerify if `certReq` is 1 and a
Finished if it is 2. The server decides by the message itself: it waits for a
CertificateVerify if there was a certificate in it.

The two agree as long as `certReq` says whether a certificate was sent. With 1 there has
to be a certificate in the current slot. With 2 there must be none in the message, but a
side that uses 1609.2 sends its current certificate even then: it had no key for any
algorithm of the server, gave up its slot, and the message was filled from another place
(`verify_follows_iff`).

## Main definitions

* `clientMsgType`: What a client writes in a state.
* `VerifyFollows`: A CertificateVerify follows exactly if there is a certificate.
* `NextTaken`: A server takes what the client writes next.
* `ShowsAsSaid`: What `certReq` says is what is sent.
* `askedClient`, `x509Client`, `keyless1609Client`: Handshakes up to the client's Certificate.

## Theorems

* `writeTransition_cwCert`: What a client writes after its Certificate.
* `entries_eq_nil_iff`, `leaf_isSome_iff`: When the Certificate is empty.
* `nextTaken_iff`, `readTransition_srCert`: What a server waits for.
* `verify_follows_iff`, `verify_follows_x509`, `certificate_without_verify`: Certificate and
  CertificateVerify go together, or not.
-/

namespace Iso21177

variable {ω : Type}

/-- The type of the message a client writes in a state. -/
def clientMsgType : HandState → Option MsgType
  | .cwClntHello => some .clientHello
  | .cwCert => some .certificate
  | .cwCertVrfy => some .certificateVerify
  | st => plainType st

/-- After the Certificate with this body, a CertificateVerify is next exactly if there is a
    certificate in it. -/
def VerifyFollows (env : Env ω) (s : SSL ω) (body : Bytes) : Prop :=
  certificatesOf body ≠ [] ↔ writeTransition env s = .next .cwCertVrfy

/-- The server takes the message that the client writes next. -/
def NextTaken {ω' : Type} (env : Env ω) (s : SSL ω) (env' : Env ω') (t : SSL ω') : Prop :=
  ∃ st mt, writeTransition env s = .next st ∧ clientMsgType st = some mt ∧
    (readTransition env' t mt).isSome = true

/-- What `certReq` says is what is sent: there is a certificate in the current slot, or none
    is to be sent and the side does not use 1609.2. -/
def ShowsAsSaid (s : SSL ω) : Prop :=
  (s.tmp.certReq = 1 ∧ (s.cert.pkeys s.cert.key).x509.isSome = true) ∨
    (s.tmp.certReq = 2 ∧ sslIsUsing1609ThisSide s = false)

/-- What a client writes after its Certificate. -/
theorem writeTransition_cwCert (env : Env ω) {s : SSL ω} (h13 : s.tls13 = true)
    (hs : s.server = false) (hst : s.statem.handState = .cwCert) :
    writeTransition env s = .next (if s.tmp.certReq = 1 then .cwCertVrfy else .cwFinished) := by
  simp only [writeTransition, h13, if_true, hs, Bool.false_eq_true, if_false,
    client13WriteTransition, hst]

/-- A message has no certificate exactly if it was made from no object. -/
theorem entries_eq_nil_iff {env : Env ω} {using1609 : Bool} {xs : List X509} {cs : List Bytes}
    (h : List.Forall₂ (fun x c => entryContent env using1609 x = .ok c) xs cs) :
    cs = [] ↔ xs.head? = none := by
  cases h with
  | nil => exact iff_of_true rfl rfl
  | cons => exact iff_of_false (List.cons_ne_nil _ _) (by simp only [List.head?_cons, reduceCtorEq,
      not_false_eq_true])

theorem nextTaken_iff {ω' : Type} {env : Env ω} {s : SSL ω} {env' : Env ω'} {t : SSL ω'}
    {st : HandState} (h : writeTransition env s = .next st) :
    NextTaken env s env' t ↔
      ∃ mt, clientMsgType st = some mt ∧ (readTransition env' t mt).isSome = true := by
  simp only [NextTaken, h, WriteTran.next.injEq, exists_and_left, exists_eq_left']

/-- With a slot to send from, the leaf is the certificate of that slot. -/
theorem leaf_isSome_iff {s : SSL ω} (hs : s.server = false) (hreq : s.tmp.certReq = 1) :
    (leaf s).isSome = true ↔ (s.cert.pkeys s.cert.key).x509.isSome = true := by
  have hslot : sendingSlot s = some (s.cert.pkeys s.cert.key) := by
    simp only [sendingSlot, hs, Bool.false_eq_true, if_false, hreq, OfNat.one_ne_ofNat]
  simp only [leaf, hslot, Option.bind_some]
  cases hx : (s.cert.pkeys s.cert.key).x509 with
  | some x => rfl
  | none => simp only [ite_self, Option.isSome_none]

/-- After a client's Certificate a server waits for a CertificateVerify if there was a
    certificate, and for a Finished if there was none. -/
theorem readTransition_srCert {env : Env ω} {body : Bytes} {s t : SSL ω} {mt : MsgType}
    (hs : s.server = true) (h13 : s.tls13 = true) (hst : s.statem.handState = .srCert)
    (h : tlsProcessClientCertificate env body s = some (true, t)) :
    (readTransition env t mt).isSome = true ↔
      mt = if certificatesOf body = [] then .finished else .certificateVerify := by
  have hk := touches_tlsProcessClientCertificate env body s true t h
  -- The next message depends on whether there is a peer, and so on whether the list had an
  -- entry.
  have hpeer := tlsProcessClientCertificate_peer_iff h13 h
  have hs' : t.server = true := by rw [hk.server (by decide), hs]
  have h13' : t.tls13 = true := by rw [hk.tls13 (by decide), h13]
  have hst' : t.statem.handState = .srCert := by rw [hk.handState, hst]
  simp only [readTransition, h13', hs', if_true, server13ReadTransition, hst']
  by_cases hnil : certificatesOf body = []
  · have hnone : (t.session.bind Session.peer).isNone = true := by
      rw [Option.isNone_iff_eq_none, ← Option.not_isSome_iff_eq_none, hpeer]
      exact fun hne => hne hnil
    rw [if_pos hnone, if_pos hnil]
    by_cases hmt : mt = .finished
    · simp only [hmt, if_true, Option.isSome_some]
    · simp only [hmt, if_false, Option.isSome_none, Bool.false_eq_true]
  · have hsome : ¬ (t.session.bind Session.peer).isNone = true := by
      rw [Option.isNone_iff_eq_none, ← Option.not_isSome_iff_eq_none, hpeer, not_not]
      exact hnil
    rw [if_neg hsome, if_neg hnil]
    by_cases hmt : mt = .certificateVerify
    · simp only [hmt, if_true, Option.isSome_some]
    · simp only [hmt, if_false, Option.isSome_none, Bool.false_eq_true]

/-- In every state of every run in which a client has just written its Certificate in TLS 1.3,
    for a request that it prepared for: a CertificateVerify follows exactly if a certificate
    was sent, if and only if `certReq` said so, and that is also when a server that took the
    Certificate takes what comes next. -/
theorem verify_follows_iff (env : Env ω) {s0 s : SSL ω} {es : List Event}
    (h0 : s0.statem.state = .uninited) (hrun : run (step env) s0 es = some s)
    (h13 : s.tls13 = true) (hs : s.server = false) (hw : s.statem.state = .writing)
    (hst : s.statem.handState = .cwCert) (hreq : s.tmp.certReq = 1 ∨ s.tmp.certReq = 2) :
    ∃ body xs tr, s.trace = .sent (.certificate body) (.chain xs) :: tr ∧
      (VerifyFollows env s body ↔ ShowsAsSaid s) ∧
      ∀ {ω' : Type} (env' : Env ω') (u v : SSL ω'), u.server = true → u.tls13 = true →
        u.statem.handState = .srCert → tlsProcessClientCertificate env' body u = some (true, v) →
        (NextTaken env s env' v ↔ ShowsAsSaid s) := by
  have hown : s.statem.handState = .ownCert s.server := by rw [hst, hs]; rfl
  rcases certWritten_run env h0 hrun h13 hw hown with ⟨body, xs, tr, htr, hleaf, hne, hentries⟩
  have hnext := writeTransition_cwCert env h13 hs hst
  have hempty := entries_eq_nil_iff hentries
  rw [hleaf] at hempty
  -- Whether there is a certificate in the message, by what was said of it.
  have hcert : ShowsAsSaid s ↔ (certificatesOf body = [] ↔ s.tmp.certReq ≠ 1) := by
    rcases hreq with hreq | hreq
    · have hsome := leaf_isSome_iff hs hreq
      simp only [ShowsAsSaid, hreq, true_and, OfNat.one_ne_ofNat, false_and, or_false, ← hsome,
        hempty, ne_eq, not_true_eq_false, iff_false, ← Option.isSome_iff_ne_none]
    · simp only [ShowsAsSaid, false_and, false_or, hreq, true_and, ne_eq, OfNat.ofNat_ne_one,
        not_false_eq_true, iff_true]
      cases h1609 : sslIsUsing1609ThisSide s with
      | true =>
          refine iff_of_false Bool.noConfusion (fun hnil => ?_)
          rw [hempty, ← hleaf, List.head?_eq_none_iff] at hnil
          exact hne h1609 hnil
      | false =>
          refine iff_of_true rfl (hempty.mpr ?_)
          simp only [leaf, sendingSlot, hs, Bool.false_eq_true, if_false, hreq, if_true,
            Option.bind_none, h1609]
  refine ⟨body, xs, tr, htr, ?_, fun env' u v hu hu13 hust hp => ?_⟩
  · rw [VerifyFollows, hnext, hcert]
    by_cases hone : s.tmp.certReq = 1
    · simp only [hone, if_true, iff_true, ne_eq, not_true_eq_false, iff_false]
    · simp only [hone, if_false, WriteTran.next.injEq, reduceCtorEq, iff_false, ne_eq, not_not,
        not_false_eq_true, iff_true]
  · rw [hcert, nextTaken_iff hnext]
    by_cases hone : s.tmp.certReq = 1
    · simp only [hone, if_true, clientMsgType, Option.some.injEq, exists_eq_left',
        readTransition_srCert hu hu13 hust hp, ne_eq, not_true_eq_false, iff_false]
      by_cases hnil : certificatesOf body = []
      · simp only [hnil, if_true, reduceCtorEq, not_true_eq_false]
      · simp only [hnil, if_false, not_false_eq_true]
    · simp only [hone, if_false, clientMsgType, plainType, Option.some.injEq, exists_eq_left',
        readTransition_srCert hu hu13 hust hp, ne_eq, not_false_eq_true, iff_true]
      by_cases hnil : certificatesOf body = []
      · simp only [hnil, if_true]
      · simp only [hnil, if_false, reduceCtorEq]

/-- A client's handshake after these calls, up to the Certificate the server asked it for. -/
def askedClient (calls : List ConfigCall) (exts : Bytes) : List Event :=
  calls.map .config ++ [.start false, .write, .write, .read (.serverHello false [] exts),
    .read (.encryptedExtensions []), .read (.certificateRequest [0, 0, 0]),
    .read (.certificate [0, 0, 0, 6, 0, 0, 1, 7, 0, 0]), .read (.certificateVerify [9]),
    .read (.plain .finished []), .write]

/-- A client with an X.509 certificate and its key. -/
def x509Client : List Event :=
  askedClient [.own (.useCertificate rsaCertificate), .own (.usePrivateKey rsaKey)] [0, 51, 0, 0]

/-- A client with a 1609.2 certificate and no key, from which 1609.2 is wanted. -/
def keyless1609Client : List Event :=
  askedClient [.enableRfc8902Support sslRfc8902X509 sslRfc89021609 false, .own (.use1609Cert [7])]
    [0, 51, 0, 0, 0, 20, 0, 1, 0, 0, 19, 0, 1, 3]

/-- With an X.509 certificate a CertificateVerify follows. -/
theorem verify_follows_x509 :
    ∃ s body xs tr, run (step plainEnv) newClient x509Client = some s ∧
      s.trace = .sent (.certificate body) (.chain xs) :: tr ∧ VerifyFollows plainEnv s body := by
  have htest : (run (step plainEnv) newClient x509Client).any (fun s =>
      s.tls13 && !s.server && s.statem.state = .writing && s.statem.handState = .cwCert &&
        s.tmp.certReq = 1 && (s.cert.pkeys s.cert.key).x509.isSome) = true := by
    decide +kernel
  rcases (Option.any_eq_true _ _).mp htest with ⟨s, hrun, hp⟩
  simp only [Bool.and_eq_true, Bool.not_eq_true', decide_eq_true_eq] at hp
  rcases hp with ⟨⟨⟨⟨⟨h13, hs⟩, hw⟩, hst⟩, hreq⟩, hx⟩
  rcases verify_follows_iff plainEnv rfl hrun h13 hs hw hst (Or.inl hreq) with
    ⟨body, xs, tr, htr, hiff, -⟩
  exact ⟨s, body, xs, tr, hrun, htr, hiff.mpr (Or.inl ⟨hreq, hx⟩)⟩

/-- A 1609.2 client without a key sends its certificate, and then a Finished. -/
theorem certificate_without_verify :
    ¬ ∀ (s0 s : SSL Unit) (es : List Event) (body : Bytes) (xs : List X509) (tr : List Obs),
      s0.statem.state = .uninited → run (step verifyingEnv) s0 es = some s → s.tls13 = true →
      s.server = false → s.statem.state = .writing → s.statem.handState = .cwCert →
      s.tmp.certReq = 1 ∨ s.tmp.certReq = 2 →
      s.trace = .sent (.certificate body) (.chain xs) :: tr →
      VerifyFollows verifyingEnv s body := by
  intro h
  have htest : (run (step verifyingEnv) newClient keyless1609Client).any (fun s =>
      s.tls13 && !s.server && s.statem.state = .writing && s.statem.handState = .cwCert &&
        s.tmp.certReq = 2 && s.trace.head? = some (.sent
          (.certificate [0, 0, 0, 6, 0, 0, 1, 7, 0, 0])
          (.chain [⟨.placeholder, some ⟨[7], [1, 2, 3, 4, 5, 6, 7, 8]⟩⟩]))) = true := by
    decide +kernel
  rcases (Option.any_eq_true _ _).mp htest with ⟨s, hrun, hp⟩
  simp only [Bool.and_eq_true, Bool.not_eq_true', decide_eq_true_eq] at hp
  rcases hp with ⟨⟨⟨⟨⟨h13, hs⟩, hw⟩, hst⟩, hreq⟩, htr⟩
  rcases List.head?_eq_some_iff.mp htr with ⟨tr, htrace⟩
  have hfollows := h newClient s _ _ _ tr rfl hrun h13 hs hw hst (Or.inr hreq) htrace
  have hnext := hfollows.mp (by decide +kernel)
  rw [writeTransition_cwCert verifyingEnv h13 hs hst, hreq] at hnext
  exact absurd hnext (by decide)

end Iso21177
