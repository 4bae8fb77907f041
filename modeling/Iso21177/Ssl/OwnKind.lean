import Iso21177.Ssl.VerifyFollows

/-!
# The Kind of This Side's Certificate

A 1609.2 certificate is attached to a placeholder, an X.509 certificate that comes with
the library together with its private key, and both stand in an ordinary slot. Which slot
is shown is a matter of signature algorithms. Whether its content goes out as 1609.2 or as
X.509 is a matter of what was negotiated.

A side that uses 1609.2 refuses to write an object without a 1609.2 certificate. A side
that uses X.509 does not look: from a slot with a 1609.2 certificate it sends the
placeholder, and signs with the key that everyone has. So what is written is of the right
kind exactly if this side uses 1609.2 or has nothing of 1609.2 in the slot it shows
(`own_kind_iff`).

## Main definitions

* `ownObjects`: The certificates this side shows of its own.
* `chosenKey`: The key this side signs with.
* `OfKind`: A message was made from the right kind of objects.
* `ShowsKind`: What this side is about to show is of the right kind.
* `Puts`, `CertCall.Put`, `ConfigCall.Put`: The certificates that calls put into the slots.
* `ticketEntity`, `ticketEnv`: A security entity with an authorisation ticket.
* `mixedClient`: A client with a ticket, from which X.509 is wanted.
* `writesCertificate`: The next write is a Certificate.

## Theorems

* `isIeee1609Cert_of_entries`: What is written as 1609.2 is 1609.2.
* `chainToSend_objects`: What is written comes from this side's own certificates.
* `ofKind_certificate`, `ofKind_certificateVerify`: The two messages.
* `puts_of_cert`, `puts_trans`, `puts_mono`, `puts_same`: Calls in general.
* `puts_sslSetPkey`, `puts_sslUseCertificate`, `puts_placeholder`, `x509NewIeee1609Cert_some`,
  `puts_sslUse1609CertByHash`, `puts_sslUse1609Cert`, `puts_secEntInitialConnection`,
  `puts_certCall`, `puts_configCall`: Where the certificates in the slots come from.
* `slot_sslUseCertificate`, `slot_sslUse1609CertByHash`: What a call that succeeds leaves.
* `writesCertificate_run`: A run with one more write.
* `own_kind_iff`, `own_kind_x509`, `placeholder_sent`: The kind of what is sent.
-/

namespace Iso21177

variable {ω : Type}

/-- The certificates this side shows of its own: the leaf, and the extra ones behind it. -/
def ownObjects (s : SSL ω) : List X509 :=
  match leaf s with
  | none => []
  | some x => x :: s.cert.extraCerts.getD []

/-- The key this side signs with. -/
def chosenKey (s : SSL ω) : Option EvpPkey :=
  s.tmp.cert.bind (fun i => (s.cert.pkeys i).privatekey)

/-- The entries of a Certificate come from objects with a 1609.2 certificate exactly if this
    kind is used, and the key that is compiled in signs nothing for X.509. -/
def OfKind (using1609 : Bool) : Msg → Source → Prop
  | .certificate _, .chain xs => ∀ x ∈ xs, x.isIeee1609Cert = using1609
  | .certificateVerify _, .signer key => using1609 = false → key ≠ some keyDer
  | _, _ => True

/-- This side uses 1609.2, or what it is about to show or to sign with has nothing of it. How
    1609.2 comes into a slot is said in `puts_configCall`. -/
def ShowsKind (s : SSL ω) : Msg → Prop
  | .certificate _ =>
    sslIsUsing1609ThisSide s = true ∨ ∀ x ∈ ownObjects s, x.isIeee1609Cert = false
  | .certificateVerify _ => sslIsUsing1609ThisSide s = true ∨ chosenKey s ≠ some keyDer
  | _ => True

section Kinds

variable {env : Env ω}

/-- Objects that were written as 1609.2 have a 1609.2 certificate. -/
theorem isIeee1609Cert_of_entries {xs : List X509} {cs : List Bytes}
    (h : List.Forall₂ (fun x c => entryContent env true x = .ok c) xs cs) :
    ∀ x ∈ xs, x.isIeee1609Cert = true := by
  induction h with
  | nil => exact fun x hx => absurd hx List.not_mem_nil
  | @cons y c ys cs hc _ ih =>
      intro x hx
      rcases List.mem_cons.mp hx with rfl | hx
      · simp only [entryContent, if_true] at hc
        split at hc
        · exact absurd hc (by simp only [reduceCtorEq, not_false_eq_true])
        · rename_i d hd
          rw [X509.isIeee1609Cert, hd]
          rfl
      · exact ih x hx

/-- For X.509 the objects that are written are this side's own, and those a store adds to
    the leaf. -/
theorem chainToSend_objects {s : SSL ω} {xs : List X509} (h1609 : sslIsUsing1609ThisSide s = false)
    (h : chainToSend env (sendingSlot s) s = some (.ok xs)) :
    (∀ x ∈ xs, x.isIeee1609Cert = false) ↔ ∀ x ∈ ownObjects s, x.isIeee1609Cert = false := by
  unfold chainToSend at h
  unfold ownObjects leaf
  split at h
  · rename_i hslot
    simp only [h1609, Bool.false_eq_true, if_false] at h
    rw [← Except.ok.inj (Option.some.inj h), hslot]
    simp only [h1609, Bool.false_eq_true, if_false]
  · rename_i x hslot
    rw [hslot]
    simp only at h ⊢
    split at h
    · exact absurd (Option.some.inj h) (by simp only [reduceCtorEq, not_false_eq_true])
    · rw [← Except.ok.inj (Option.some.inj h)]
      cases s.cert.extraCerts with
      | some extra => exact Iff.rfl
      | none =>
          by_cases hauto : env.autoChain s.other = true
          · -- A certificate from a store is X.509.
            simp only [hauto, if_true, Option.getD_none, List.mem_cons, List.mem_map,
              List.not_mem_nil, or_false, forall_eq_or_imp, forall_eq]
            refine and_iff_left ?_
            rintro y ⟨c, -, rfl⟩
            rfl
          · simp only [hauto, Bool.false_eq_true, if_false, Option.getD_none]

/-- A Certificate is of the right kind exactly if what this side shows is. -/
theorem ofKind_certificate {s t : SSL ω} {m : Msg} {src : Source} (h13 : s.tls13 = true)
    (h : constructCertificate env s = some (some (m, src), t)) :
    OfKind (sslIsUsing1609ThisSide s) m src ↔ ShowsKind s m := by
  rcases constructCertificate_some h13 h with ⟨xs, body, hchain, rfl, rfl, hentries⟩
  simp only [OfKind, ShowsKind]
  cases h1609 : sslIsUsing1609ThisSide s with
  | true =>
      rw [h1609] at hentries
      exact iff_of_true (isIeee1609Cert_of_entries hentries) (Or.inl rfl)
  | false =>
      rw [chainToSend_objects h1609 hchain]
      simp only [Bool.false_eq_true, false_or]

/-- A CertificateVerify is of the right kind exactly if the key of this side is. -/
theorem ofKind_certificateVerify {s t : SSL ω} {m : Msg} {src : Source}
    (h : tlsConstructCertVerify env s = some (some (m, src), t)) :
    OfKind (sslIsUsing1609ThisSide s) m src ↔ ShowsKind s m := by
  rcases tlsConstructCertVerify_some h with ⟨i, body, hi, rfl, ⟨h1609, rfl, -⟩ | ⟨h1609, hkey⟩⟩
  · refine iff_of_true (fun hno => ?_) (Or.inl h1609)
    rw [h1609] at hno
    exact absurd hno Bool.noConfusion
  · rcases hkey with ⟨key, hkey, rfl⟩
    simp only [OfKind, ShowsKind, chosenKey, hi, Option.bind_some, hkey, h1609, true_imp_iff,
      Bool.false_eq_true, false_or]

end Kinds

section Slots

variable {p q : PkeyIdx → X509 → Prop} {env : Env ω}

/-- A slot holds a certificate it held before, or one that was put there. -/
def Puts (p : PkeyIdx → X509 → Prop) (s t : SSL ω) : Prop :=
  ∀ i x, (t.cert.pkeys i).x509 = some x → (s.cert.pkeys i).x509 = some x ∨ p i x

/-- The certificates that a call can put into a slot. Those that come as 1609.2 go to the slot
    of RSA keys. -/
def CertCall.Put : CertCall → PkeyIdx → X509 → Prop
  | .useCertificate x, i, y => y = x ∧ ∃ pub, x.pubkey = some pub ∧ pub.idx = some i
  | .use1609Cert data, i, y => i = .rsa ∧ ∃ hash, y = ⟨.placeholder, some ⟨data, hash⟩⟩
  | .use1609CertByHash hashedid, i, y =>
    i = .rsa ∧ ∃ data, y = ⟨.placeholder, some ⟨data, hashedid⟩⟩
  | _, _, _ => False

/-- The same of the calls of the application. The first exchange with the security entity names
    a ticket of its own. -/
def ConfigCall.Put : ConfigCall → PkeyIdx → X509 → Prop
  | .enableRfc8902Support _ _ useAt, i, y =>
    useAt = true ∧ i = .rsa ∧ ∃ data hashedid, y = ⟨.placeholder, some ⟨data, hashedid⟩⟩
  | .own c, i, y => c.Put i y
  | _, _, _ => False

/-- A call that leaves the certificates alone puts none anywhere. -/
theorem puts_of_cert {s t : SSL ω} (h : t.cert.pkeys = s.cert.pkeys) : Puts p s t :=
  fun i x hx => Or.inl (by rw [← h]; exact hx)

/-- What two calls put into slots is what either of them did. -/
theorem puts_trans {s t u : SSL ω} (hst : Puts p s t) (htu : Puts p t u) : Puts p s u := by
  intro i x hx
  rcases htu i x hx with hold | hnew
  · exact hst i x hold
  · exact Or.inr hnew

/-- What was put is among what may be put. -/
theorem puts_mono (hpq : ∀ i x, p i x → q i x) {s t : SSL ω} (h : Puts p s t) : Puts q s t :=
  fun i x hx => (h i x hx).imp_right (hpq i x)

/-- A call that ends where it is known what was put. -/
theorem puts_same {s t u : SSL ω} {b c : Bool} (heq : some (c, t) = some (b, u))
    (h : Puts p s t) : Puts p s u := by
  rw [← (Prod.mk.inj (Option.some.inj heq)).2]
  exact h

/-- Setting a key puts no certificate into a slot. -/
theorem puts_sslSetPkey (key : EvpPkey) {s t : SSL ω} {b : Bool}
    (h : sslSetPkey key s = some (b, t)) : Puts p s t := by
  unfold sslSetPkey at h
  split at h
  · exact puts_same h (puts_of_cert rfl)
  · simp only at h
    split at h
    · exact puts_same h (puts_of_cert rfl)
    · rename_i i _ _
      -- The key comes next to the certificate of its slot.
      refine puts_same h (fun j x hx => Or.inl ?_)
      simp only [Cert.setPkey] at hx
      by_cases hji : j = i
      · rw [if_pos hji] at hx
        rw [hji]
        exact hx
      · rw [if_neg hji] at hx
        exact hx

/-- A certificate goes to the slot of its public key. -/
theorem puts_sslUseCertificate {x : X509} {s t : SSL ω} {b : Bool}
    (h : sslUseCertificate env x s = some (b, t)) :
    Puts (fun i y => y = x ∧ ∃ pub, x.pubkey = some pub ∧ pub.idx = some i) s t := by
  unfold sslUseCertificate sslSetCert at h
  split at h
  · split at h
    · exact puts_same h (puts_of_cert rfl)
    · rename_i pub hpub
      split at h
      · exact puts_same h (puts_of_cert rfl)
      · rename_i i hi
        split at h
        · exact puts_same h (puts_of_cert rfl)
        · -- Only the slot of the public key is written.
          refine puts_same h (fun j y hy => ?_)
          simp only [Cert.setPkey] at hy
          by_cases hji : j = i
          · rw [if_pos hji, Option.some.injEq] at hy
            exact Or.inr ⟨hy.symm, pub, hpub, hji ▸ hi⟩
          · rw [if_neg hji] at hy
            exact Or.inl hy
  · exact puts_same h (puts_of_cert rfl)

/-- The placeholder goes to the slot of RSA keys. -/
theorem puts_placeholder {c : Ieee1609Cert} {s t : SSL ω} {b : Bool}
    (h : sslUseCertificate env ⟨.placeholder, some c⟩ s = some (b, t)) :
    Puts (fun i y => i = .rsa ∧ y = ⟨.placeholder, some c⟩) s t := by
  refine puts_mono ?_ (puts_sslUseCertificate h)
  rintro i y ⟨rfl, pub, hpub, hi⟩
  rw [← Option.some.inj hpub] at hi
  exact ⟨(Option.some.inj hi).symm, rfl⟩

/-- The object made of 1609 octets is of that kind and holds them. -/
theorem x509NewIeee1609Cert_some {data : Bytes} {x : X509} (h : x509NewIeee1609Cert data = some x) :
    x = ⟨.placeholder, some ⟨data, noHash⟩⟩ := by
  unfold x509NewIeee1609Cert at h
  split at h
  · exact absurd h (by simp only [reduceCtorEq, not_false_eq_true])
  · exact (Option.some.inj h).symm

/-- The entity names the certificate that goes into a slot. -/
theorem puts_sslUse1609CertByHash {hashedid : Bytes} {s t : SSL ω} {b : Bool}
    (h : sslUse1609CertByHash env hashedid s = some (b, t)) :
    Puts (fun i y => i = .rsa ∧ ∃ data, y = ⟨.placeholder, some ⟨data, hashedid⟩⟩) s t := by
  unfold sslUse1609CertByHash at h
  split at h
  · rename_i m s' hp
    have hs' : s'.cert.pkeys = s.cert.pkeys := by
      rw [(touches_secEntProcess hp).cert (by decide)]
    split at h
    · exact puts_same h (puts_of_cert hs')
    · split at h
      · exact puts_same h (puts_of_cert hs')
      · rename_i x hx
        rw [x509NewIeee1609Cert_some hx] at h
        -- The key is set first; only then the certificate.
        refine puts_trans (puts_of_cert hs') ?_
        rcases Call.seq_some h with ⟨u, a, hkey, ⟨-, -, rfl⟩ | ⟨-, hcert⟩⟩
        · exact puts_sslSetPkey keyDer hkey
        · refine puts_trans (puts_sslSetPkey keyDer hkey) (puts_mono ?_ (puts_placeholder hcert))
          rintro i y ⟨hi, hy⟩
          exact ⟨hi, _, hy⟩
  · rename_i hp
    exact puts_same h (puts_of_cert (by rw [(touches_secEntProcess hp).cert (by decide)]))

/-- The octets of the caller go into a slot, once they are confirmed. -/
theorem puts_sslUse1609Cert {data : Bytes} {s t : SSL ω} {b : Bool}
    (h : sslUse1609Cert env data s = some (b, t)) :
    Puts (fun i y => i = .rsa ∧ ∃ hash, y = ⟨.placeholder, some ⟨data, hash⟩⟩) s t := by
  unfold sslUse1609Cert at h
  split at h
  · exact puts_same h (puts_of_cert rfl)
  · rename_i x hx
    split at h
    · exact absurd h (by simp only [reduceCtorEq, not_false_eq_true])
    · rename_i hv
      rcases ieee1609CertVerify_note hv with ⟨reply, rfl⟩
      exact puts_same h (puts_of_cert rfl)
    · rename_i c s' hv
      -- The security entity supplies the hash, and the octets stay as they were given.
      rcases ieee1609CertVerify_some hv with ⟨m, -, rfl, rfl⟩
      rw [x509NewIeee1609Cert_some hx] at h
      intro i y hy
      rcases puts_placeholder h i y hy with hold | ⟨hi, hnew⟩
      · exact Or.inl hold
      · exact Or.inr ⟨hi, _, hnew⟩

/-- The current ticket goes into a slot if that is wanted. -/
theorem puts_secEntInitialConnection {useAt : Bool} {s t : SSL ω} {b : Bool}
    (h : secEntInitialConnection env useAt s = some (b, t)) :
    Puts (fun i y => useAt = true ∧ i = .rsa ∧
      ∃ data hashedid, y = ⟨.placeholder, some ⟨data, hashedid⟩⟩) s t := by
  unfold secEntInitialConnection at h
  split at h
  · rename_i m s' hp
    have hs' : s'.cert.pkeys = s.cert.pkeys := by
      rw [(touches_secEntProcess hp).cert (by decide)]
    split at h
    · exact puts_same h (puts_of_cert hs')
    · split at h
      · rename_i huse
        split at h
        · exact puts_same h (puts_of_cert hs')
        · refine puts_trans (puts_of_cert hs') (puts_mono ?_ (puts_sslUse1609CertByHash h))
          rintro i y ⟨hi, data, hy⟩
          exact ⟨huse, hi, data, _, hy⟩
      · exact puts_same h (puts_of_cert hs')
  · rename_i hp
    exact puts_same h (puts_of_cert (by rw [(touches_secEntProcess hp).cert (by decide)]))

/-- The calls that set certificates, each with what its arguments name. -/
theorem puts_certCall {c : CertCall} {s t : SSL ω} {b : Bool}
    (h : certCall env c s = some (b, t)) : Puts c.Put s t := by
  cases c with
  | useCertificate x => exact puts_sslUseCertificate h
  | usePrivateKey key => exact puts_sslSetPkey key h
  | use1609Cert data => exact puts_sslUse1609Cert h
  | use1609CertByHash hashedid => exact puts_sslUse1609CertByHash h
  | use1609Psid psid => exact puts_same h (puts_of_cert rfl)

/-- A call of the application puts no other certificates into the slots than those its
    arguments name. So the slot that is shown has a 1609.2 certificate only if one of the
    calls for 1609.2 put it there, or the application set an object that had one. -/
theorem puts_configCall {c : ConfigCall} {s t : SSL ω} {b : Bool}
    (h : configCall env c s = some (b, t)) : Puts c.Put s t := by
  cases c with
  | enableRfc8902Support srv clnt useAt =>
      simp only [configCall, sslEnableRfc8902Support] at h
      split at h
      · -- The switch and the masks are set before the entity is asked.
        refine puts_trans ?_ (puts_secEntInitialConnection h)
        exact puts_of_cert rfl
      · exact puts_same h (puts_of_cert rfl)
  | own c => exact puts_certCall h
  | setVerify mode => exact puts_same h (puts_of_cert rfl)
  | verifyClientPostHandshake =>
      have hcert := (touches_configCall env .verifyClientPostHandshake s b t h).1.cert (by decide)
      exact puts_of_cert (by rw [hcert])

/-- A certificate that was set is in the slot of its key. -/
theorem slot_sslUseCertificate {x : X509} {s t : SSL ω}
    (h : sslUseCertificate env x s = some (true, t)) :
    ∃ pub i, x.pubkey = some pub ∧ pub.idx = some i ∧ (t.cert.pkeys i).x509 = some x := by
  unfold sslUseCertificate sslSetCert at h
  split at h
  · split at h
    · exact absurd (Prod.mk.inj (Option.some.inj h)).1 (by decide)
    · rename_i pub hpub
      split at h
      · exact absurd (Prod.mk.inj (Option.some.inj h)).1 (by decide)
      · rename_i i hi
        split at h
        · exact absurd (Prod.mk.inj (Option.some.inj h)).1 (by decide)
        · rw [← (Prod.mk.inj (Option.some.inj h)).2]
          refine ⟨pub, i, hpub, hi, ?_⟩
          simp only [Cert.setPkey, if_true]
  · exact absurd (Prod.mk.inj (Option.some.inj h)).1 (by decide)

/-- A ticket that was fetched by its hash is in the slot of RSA keys, whatever was there. -/
theorem slot_sslUse1609CertByHash {hashedid : Bytes} {s t : SSL ω}
    (h : sslUse1609CertByHash env hashedid s = some (true, t)) :
    ∃ data, (t.cert.pkeys .rsa).x509 = some ⟨.placeholder, some ⟨data, hashedid⟩⟩ := by
  unfold sslUse1609CertByHash at h
  split at h
  · split at h
    · exact absurd (Prod.mk.inj (Option.some.inj h)).1 (by decide)
    · split at h
      · exact absurd (Prod.mk.inj (Option.some.inj h)).1 (by decide)
      · rename_i x hx
        rw [x509NewIeee1609Cert_some hx] at h
        rcases Call.seq_true.mp h with ⟨u, -, hcert⟩
        rcases slot_sslUseCertificate hcert with ⟨pub, i, hpub, hi, hslot⟩
        rw [← Option.some.inj hpub] at hi
        rw [← Option.some.inj hi] at hslot
        exact ⟨_, hslot⟩
  · exact absurd (Prod.mk.inj (Option.some.inj h)).1 (by decide)

end Slots

/-- In every run, what the last step wrote in TLS 1.3 is of the kind this side uses exactly
    if the certificates and the key it had to show were. -/
theorem own_kind_iff (env : Env ω) {s0 s t : SSL ω} {es : List Event} {m : Msg} {src : Source}
    {tr : List Obs} (hrun : run (step env) s0 es = some s)
    (hnext : run (step env) s0 (es ++ [.write]) = some t) (h13 : s.tls13 = true)
    (htr : t.trace = .sent m src :: tr) (hnew : s.trace <:+ tr) :
    OfKind (sslIsUsing1609ThisSide s) m src ↔ ShowsKind s m := by
  have hstep : step env s .write = some t := (run_concat (step env) .write hrun).mp hnext
  rcases sent_of_write hstep htr hnew with ⟨st, u, -, hc, -, -⟩
  -- Entering the state changes nothing that matters here.
  have hshow : ShowsKind (entering s st) m = ShowsKind s m := rfl
  have hkind : sslIsUsing1609ThisSide (entering s st) = sslIsUsing1609ThisSide s := rfl
  rw [← hshow, ← hkind]
  rcases constructMessage_cases hc with hplain | ⟨-, hcert⟩ | ⟨-, hverify⟩
  · cases m with
    | certificate body => exact absurd rfl (hplain body).1
    | certificateVerify body => exact absurd rfl (hplain body).2
    | _ => exact Iff.rfl
  · exact ofKind_certificate h13 hcert
  · exact ofKind_certificateVerify hverify

/-- A security entity with a ticket: it knows the hash, gives out the certificate, and
    signs. -/
def ticketEntity (req : SecEntMsg) : Option SecEntMsg :=
  if req.msgType = secEntMsgTypeGetAt then some ⟨secEntMsgTypeGetAt, [1, 2, 3, 4, 5, 6, 7, 8]⟩
  else if req.msgType = secEntMsgTypeGetCert then some ⟨secEntMsgTypeGetCert, [7, 0]⟩
  else if req.msgType = secEntMsgTypeTlsSignData then some ⟨secEntMsgTypeTlsSignData, [5]⟩
  else none

/-- Everything succeeds, with that security entity. -/
def ticketEnv : Env Unit := { plainEnv with secEnt := fun _ req => ticketEntity req }

/-- A client that supports both kinds, with a ticket, and a server that picks X.509. -/
def mixedClient : List Event :=
  askedClient [.enableRfc8902Support sslRfc8902X509 (sslRfc89021609 ||| sslRfc8902X509) true]
    [0, 51, 0, 0, 0, 20, 0, 1, 0, 0, 19, 0, 1, 0]

/-- The next write of the object is this Certificate, made from these objects. -/
def writesCertificate (env : Env Unit) (body : Bytes) (xs : List X509) (s : SSL Unit) : Bool :=
  s.tls13 && (step env s .write).any (fun t =>
    t.trace = .sent (.certificate body) (.chain xs) :: s.trace)

theorem writesCertificate_run {env : Env Unit} {s0 s : SSL Unit} {es : List Event} {body : Bytes}
    {xs : List X509} (hrun : run (step env) s0 es = some s)
    (h : writesCertificate env body xs s = true) :
    ∃ t, run (step env) s0 (es ++ [.write]) = some t ∧ s.tls13 = true ∧
      t.trace = .sent (.certificate body) (.chain xs) :: s.trace := by
  rw [writesCertificate, Bool.and_eq_true] at h
  rcases h with ⟨h13, hany⟩
  rcases (Option.any_eq_true _ _).mp hany with ⟨t, ht, htr⟩
  exact ⟨t, (run_concat (step env) .write hrun).mpr ht, h13, of_decide_eq_true htr⟩

/-- A client with an X.509 certificate sends X.509. -/
theorem own_kind_x509 :
    ∃ s t body, run (step plainEnv) newClient x509Client.dropLast = some s ∧
      run (step plainEnv) newClient (x509Client.dropLast ++ [.write]) = some t ∧
      t.trace = .sent (.certificate body) (.chain [rsaCertificate]) :: s.trace ∧
      OfKind (sslIsUsing1609ThisSide s) (.certificate body) (.chain [rsaCertificate]) := by
  have htest : (run (step plainEnv) newClient x509Client.dropLast).any (fun s =>
      writesCertificate plainEnv [0, 0, 0, 6, 0, 0, 1, 1, 0, 0] [rsaCertificate] s &&
        (ownObjects s).all (fun x => !x.isIeee1609Cert)) = true := by
    decide +kernel
  rcases (Option.any_eq_true _ _).mp htest with ⟨s, hrun, hp⟩
  rw [Bool.and_eq_true] at hp
  rcases writesCertificate_run hrun hp.1 with ⟨t, hnext, h13, htr⟩
  have hshow : ShowsKind s (.certificate [0, 0, 0, 6, 0, 0, 1, 1, 0, 0]) := by
    refine Or.inr (fun x hx => ?_)
    simpa only [Bool.not_eq_true'] using List.all_eq_true.mp hp.2 x hx
  exact ⟨s, t, _, hrun, hnext, htr,
    (own_kind_iff plainEnv hrun hnext h13 htr (List.suffix_refl _)).mpr hshow⟩

/-- A client with a ticket from which X.509 is wanted sends the placeholder. -/
theorem placeholder_sent :
    ¬ ∀ (s0 s t : SSL Unit) (es : List Event) (m : Msg) (src : Source) (tr : List Obs),
      s0.statem.state = .uninited → run (step ticketEnv) s0 es = some s →
      run (step ticketEnv) s0 (es ++ [.write]) = some t → s.tls13 = true →
      t.trace = .sent m src :: tr → s.trace <:+ tr →
      OfKind (sslIsUsing1609ThisSide s) m src := by
  intro h
  have htest : (run (step ticketEnv) newClient mixedClient.dropLast).any (fun s =>
      !sslIsUsing1609ThisSide s && writesCertificate ticketEnv [0, 0, 0, 6, 0, 0, 1, 0x30, 0, 0]
        [⟨.placeholder, some ⟨[7], [1, 2, 3, 4, 5, 6, 7, 8]⟩⟩] s) = true := by
    decide +kernel
  rcases (Option.any_eq_true _ _).mp htest with ⟨s, hrun, hp⟩
  rw [Bool.and_eq_true, Bool.not_eq_true'] at hp
  rcases writesCertificate_run hrun hp.2 with ⟨t, hnext, h13, htr⟩
  have hkind := h newClient s t _ _ _ _ rfl hrun hnext h13 htr (List.suffix_refl _)
  rw [hp.1] at hkind
  exact absurd (hkind _ (List.mem_cons_self ..)) (by decide)

end Iso21177
