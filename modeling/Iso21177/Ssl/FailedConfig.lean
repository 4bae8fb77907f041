import Iso21177.Ssl.Config

/-!
# Calls That Fail While Configuring

Whether a call that returns 0 leaves the configuration as it was: the switch for
RFC 8902, the two masks, the decisions, and this side's certificates and keys.

`SSL_use_1609_cert` does everything that can fail before it stores anything. The
other two do not. `SSL_use_1609_cert_by_hash` stores the built-in key before the
certificate is checked against the security level, and `SSL_enable_RFC8902_support`
sets the switch and the masks before it asks the security entity for anything. If
the entity does not answer, an application that goes on with plain TLS has RFC 8902
switched on.

`failed_config_iff` says exactly when a call that fails leaves no trace.

## Main definitions

* `SetupCall`, `setupCall`: The three calls.
* `SameConfig`: The configuration is the same.
* `FailsCleanly`: A call that fails leaves it the same.
* `ticketOf`, `askedForTicket`, `certificateOf`: What the security entity answers.
* `keyRefused`, `KeyInPlace`, `acceptable`: What the slot of the key holds, and
  whether the certificate is accepted.
* `HashClean`, `HashSucceeds`, `SetupClean`: When nothing is left behind.
* `askedForCert`, `Cert.withKey`, `SSL.enabled`: What the calls leave on the way.

## Theorems

* `sslUse1609CertByHash_none`, `sslUse1609CertByHash_some`, `byHash_keyRefused`,
  `byHash_unacceptable`, `byHash_accepted`, `byHash_cases`, `secEntInitialConnection_none`,
  `secEntInitialConnection_some`: The calls by what the entity answers.
* `sameConfig_note`, `sameConfig_withKey_iff`, `sameConfig_enabled_iff`: What changes the
  configuration.
* `hashClean_iff`, `failsCleanly_use1609Cert`, `failsCleanly_ticket`,
  `failsCleanly_enable`: The three calls.
* `failed_config_iff`: When a call that fails leaves no trace.
-/

namespace Iso21177

variable {ω : Type}

/-- The calls that enable RFC 8902 or set a 1609.2 certificate. -/
inductive SetupCall
  | enableRfc8902Support (serverSupport clientSupport : BitVec 32) (useAt : Bool)
  | use1609Cert (data : Bytes)
  | use1609CertByHash (hashedid : Bytes)

def setupCall (env : Env ω) : SetupCall → Call (SSL ω)
  | .enableRfc8902Support serverSupport clientSupport useAt =>
    sslEnableRfc8902Support env serverSupport clientSupport useAt
  | .use1609Cert data => sslUse1609Cert env data
  | .use1609CertByHash hashedid => sslUse1609CertByHash env hashedid

/-- The switch, the masks, the decisions, the slots and the current slot are the same. -/
structure SameConfig (s t : SSL ω) : Prop where
  support : t.support = s.support
  decided : t.decided = s.decided
  slots : ∀ i, t.cert.pkeys i = s.cert.pkeys i
  key : t.cert.key = s.cert.key

/-- A call that fails leaves the configuration as it was. -/
def FailsCleanly (env : Env ω) (c : SetupCall) (s : SSL ω) : Prop :=
  ∀ t, setupCall env c s = some (false, t) → SameConfig s t

/-- What the security entity answers when it is asked for the current ticket. -/
def ticketOf (env : Env ω) (s : SSL ω) : Option Bytes :=
  match (secEntProcess env secEntMsgNewTypeGetAtCert s).1 with
  | .msg m => if m.msgType = secEntMsgTypeGetAt then some m.data else none
  | _ => none

/-- The object after the entity was asked for the ticket. -/
def askedForTicket (env : Env ω) (s : SSL ω) : SSL ω :=
  (secEntProcess env secEntMsgNewTypeGetAtCert s).2

/-- The certificate the security entity returns for a hash. -/
def certificateOf (env : Env ω) (hashedid : Bytes) (s : SSL ω) : Option Bytes :=
  match (secEntProcess env (secEntMsgNewTypeGetCert hashedid) s).1 with
  | .msg m =>
    if m.msgType = secEntMsgTypeGetCert ∧ m.data.dropLast ≠ [] then some m.data.dropLast else none
  | _ => none

/-- The slot of the built-in key has a certificate it does not match. -/
def keyRefused (s : SSL ω) : Bool :=
  (s.cert.pkeys .rsa).x509.any (fun x => !x509CheckPrivateKey x keyDer)

/-- The built-in key is in its slot, and the slot is the current one. -/
def KeyInPlace (s : SSL ω) : Prop :=
  (s.cert.pkeys .rsa).privatekey = some keyDer ∧ s.cert.key = .rsa

/-- The security level allows the placeholder with a certificate. -/
def acceptable (env : Env ω) (data hashedid : Bytes) (s : SSL ω) : Bool :=
  env.securityCert ⟨.placeholder, some ⟨data, hashedid⟩⟩ s.other

/-- Nothing is left behind by setting a certificate by its hash: no certificate comes, or
    the key is refused, or it was in place, or the certificate is accepted. -/
def HashClean (env : Env ω) (hashedid : Bytes) (s : SSL ω) : Prop :=
  ∀ data, certificateOf env hashedid s = some data →
    keyRefused s = true ∨ KeyInPlace s ∨ acceptable env data hashedid s = true

/-- The certificate comes, the key is taken, and the certificate is accepted. -/
def HashSucceeds (env : Env ω) (hashedid : Bytes) (s : SSL ω) : Prop :=
  ∃ data, certificateOf env hashedid s = some data ∧ keyRefused s = false ∧
    acceptable env data hashedid s = true

/-- Nothing is left behind by a call that fails. Enabling RFC 8902 leaves nothing if the
    entity is not asked, or if the call succeeds, or if the switch and the masks had their
    new values and the ticket leaves nothing. -/
def SetupClean (env : Env ω) (s : SSL ω) : SetupCall → Prop
  | .enableRfc8902Support serverSupport clientSupport useAt =>
    (allows1609 serverSupport = false ∧ allows1609 clientSupport = false) ∨
    (∃ ticket, ticketOf env s = some ticket ∧ (useAt = true → hashedid8Len ≤ ticket.length ∧
      HashSucceeds env (ticket.take hashedid8Len) (askedForTicket env s))) ∨
    (s.support = (true, serverSupport, clientSupport) ∧
      (useAt = true → ∀ ticket, ticketOf env s = some ticket → hashedid8Len ≤ ticket.length →
        HashClean env (ticket.take hashedid8Len) (askedForTicket env s)))
  | .use1609Cert _ => True
  | .use1609CertByHash hashedid => HashClean env hashedid s

/-- The object after the entity was asked for a certificate. -/
def askedForCert (env : Env ω) (hashedid : Bytes) (s : SSL ω) : SSL ω :=
  (secEntProcess env (secEntMsgNewTypeGetCert hashedid) s).2

/-- The certificates with the built-in key in its slot. -/
def Cert.withKey (c : Cert) : Cert :=
  { c.setPkey .rsa { c.pkeys .rsa with privatekey := some keyDer } with key := .rsa }

section
variable {env : Env ω} {hashedid data : Bytes} {s : SSL ω}

theorem sslUsePrivateKey_keyDer (s : SSL ω) :
    sslUsePrivateKey keyDer s =
      if keyRefused s then some (false, s) else some (true, { s with cert := s.cert.withKey }) :=
  rfl

/-- A placeholder is refused by the security level only, and then nothing is stored. -/
theorem sslUseCertificate_placeholder (env : Env ω) (c : Ieee1609Cert) (s : SSL ω) :
    (env.securityCert ⟨.placeholder, some c⟩ s.other = false →
      sslUseCertificate env ⟨.placeholder, some c⟩ s = some (false, s)) ∧
    (env.securityCert ⟨.placeholder, some c⟩ s.other = true →
      ∃ t, sslUseCertificate env ⟨.placeholder, some c⟩ s = some (true, t)) := by
  unfold sslUseCertificate
  constructor
  · intro h
    rw [if_neg (by rw [h]; decide)]
  · intro h
    rw [if_pos h]
    exact ⟨_, rfl⟩

/-- No certificate comes. -/
theorem sslUse1609CertByHash_none (h : certificateOf env hashedid s = none) :
    sslUse1609CertByHash env hashedid s = some (false, askedForCert env hashedid s) := by
  unfold sslUse1609CertByHash
  unfold certificateOf at h
  unfold askedForCert
  rcases hp : secEntProcess env (secEntMsgNewTypeGetCert hashedid) s with ⟨r, s'⟩
  rw [hp] at h
  cases r with
  | none => rfl
  | failure => rfl
  | msg m =>
      simp only at h ⊢
      by_cases ht : m.msgType = secEntMsgTypeGetCert
      · have hnil : m.data.dropLast = [] := by
          by_contra hne
          rw [if_pos ⟨ht, hne⟩] at h
          exact absurd h (by simp only [reduceCtorEq, not_false_eq_true])
        rw [if_neg (fun hne => hne ht), x509NewIeee1609Cert, if_pos hnil]
      · rw [if_pos ht]

/-- A certificate comes, and the key is stored before it. -/
theorem sslUse1609CertByHash_some (h : certificateOf env hashedid s = some data) :
    sslUse1609CertByHash env hashedid s =
      Call.seq (sslUsePrivateKey keyDer)
        (sslUseCertificate env ⟨.placeholder, some ⟨data, hashedid⟩⟩)
        (askedForCert env hashedid s) := by
  unfold sslUse1609CertByHash
  unfold certificateOf at h
  unfold askedForCert
  rcases hp : secEntProcess env (secEntMsgNewTypeGetCert hashedid) s with ⟨r, s'⟩
  rw [hp] at h
  cases r with
  | none => exact absurd h (by simp only [reduceCtorEq, not_false_eq_true])
  | failure => exact absurd h (by simp only [reduceCtorEq, not_false_eq_true])
  | msg m =>
      simp only at h ⊢
      split at h
      · rename_i hm
        rw [if_neg (fun hne => hne hm.1), x509NewIeee1609Cert, if_neg hm.2,
          Option.some.inj h]
      · exact absurd h (by simp only [reduceCtorEq, not_false_eq_true])

theorem byHash_keyRefused (h : certificateOf env hashedid s = some data)
    (hk : keyRefused s = true) :
    sslUse1609CertByHash env hashedid s = some (false, askedForCert env hashedid s) := by
  have hk' : keyRefused (askedForCert env hashedid s) = true := hk
  rw [sslUse1609CertByHash_some h, Call.seq, sslUsePrivateKey_keyDer, if_pos hk']

theorem byHash_unacceptable (h : certificateOf env hashedid s = some data)
    (hk : keyRefused s = false) (ha : acceptable env data hashedid s = false) :
    sslUse1609CertByHash env hashedid s =
      some (false, { askedForCert env hashedid s with cert := s.cert.withKey }) := by
  have hk' : ¬ keyRefused (askedForCert env hashedid s) = true := by
    change ¬ keyRefused s = true
    rw [hk]
    decide
  rw [sslUse1609CertByHash_some h, Call.seq, sslUsePrivateKey_keyDer, if_neg hk']
  exact (sslUseCertificate_placeholder env _ _).1 ha

theorem byHash_accepted (h : certificateOf env hashedid s = some data)
    (hk : keyRefused s = false) (ha : acceptable env data hashedid s = true) :
    ∃ t, sslUse1609CertByHash env hashedid s = some (true, t) := by
  have hk' : ¬ keyRefused (askedForCert env hashedid s) = true := by
    change ¬ keyRefused s = true
    rw [hk]
    decide
  rw [sslUse1609CertByHash_some h, Call.seq, sslUsePrivateKey_keyDer, if_neg hk']
  exact (sslUseCertificate_placeholder env _ _).2 ha

/-- What an exchange leaves is what was there. -/
theorem sameConfig_note (s : SSL ω) (e : Obs) : SameConfig s (s.note e) :=
  ⟨rfl, rfl, fun _ => rfl, rfl⟩

/-- Storing the key changes nothing only if it was in place. -/
theorem sameConfig_withKey_iff (s t : SSL ω) (ht : SameConfig s t) :
    SameConfig s { t with cert := s.cert.withKey } ↔ KeyInPlace s := by
  constructor
  · intro h
    have hslot := h.slots .rsa
    have hkey : s.cert.withKey.key = s.cert.key := h.key
    refine ⟨?_, hkey.symm⟩
    rw [← hslot]
    rfl
  · rintro ⟨hpriv, hkey⟩
    refine ⟨ht.support, ht.decided, fun i => ?_, hkey.symm⟩
    by_cases hi : i = .rsa
    · subst hi
      have hsame : (⟨(s.cert.pkeys .rsa).x509, some keyDer⟩ : CertPkey) = s.cert.pkeys .rsa := by
        rw [← hpriv]
      exact hsame
    · exact if_neg hi

/-- Setting a certificate by its hash. -/
theorem hashClean_iff (env : Env ω) (hashedid : Bytes) (s : SSL ω) :
    (∀ t, sslUse1609CertByHash env hashedid s = some (false, t) → SameConfig s t) ↔
      HashClean env hashedid s := by
  have hasked : SameConfig s (askedForCert env hashedid s) := sameConfig_note s _
  cases hc : certificateOf env hashedid s with
  | none =>
      refine iff_of_true (fun t ht => ?_) (fun data hdata => ?_)
      · rw [sslUse1609CertByHash_none hc, Option.some.injEq, Prod.mk.injEq] at ht
        exact ht.2 ▸ hasked
      · rw [hc] at hdata
        exact absurd hdata (by simp only [reduceCtorEq, not_false_eq_true])
  | some data =>
      have hclean : HashClean env hashedid s ↔
          keyRefused s = true ∨ KeyInPlace s ∨ acceptable env data hashedid s = true := by
        constructor
        · exact fun h => h data hc
        · intro h data' hdata
          rw [hc, Option.some.injEq] at hdata
          exact hdata ▸ h
      rw [hclean]
      cases hk : keyRefused s with
      | true =>
          refine iff_of_true (fun t ht => ?_) (Or.inl rfl)
          rw [byHash_keyRefused hc hk, Option.some.injEq, Prod.mk.injEq] at ht
          exact ht.2 ▸ hasked
      | false =>
          cases ha : acceptable env data hashedid s with
          | true =>
              rcases byHash_accepted hc hk ha with ⟨u, hu⟩
              refine iff_of_true (fun t ht => ?_) (Or.inr (Or.inr rfl))
              rw [hu] at ht
              simp only [Option.some.injEq, Prod.mk.injEq, Bool.true_eq_false, false_and] at ht
          | false =>
              -- The key is stored and the certificate is not.
              rw [byHash_unacceptable hc hk ha, ← sameConfig_withKey_iff s _ hasked]
              simp only [Option.some.injEq, Prod.mk.injEq, true_and, forall_eq',
                Bool.false_eq_true, false_or, or_false]

/-- Setting a certificate by its hash always comes to an end. -/
theorem byHash_cases (env : Env ω) (hashedid : Bytes) (s : SSL ω) :
    (HashSucceeds env hashedid s ∧ ∃ t, sslUse1609CertByHash env hashedid s = some (true, t)) ∨
      (¬ HashSucceeds env hashedid s ∧
        ∃ t, sslUse1609CertByHash env hashedid s = some (false, t)) := by
  cases hc : certificateOf env hashedid s with
  | none =>
      refine Or.inr ⟨?_, _, sslUse1609CertByHash_none hc⟩
      rintro ⟨data, hdata, _⟩
      rw [hc] at hdata
      exact absurd hdata (by simp only [reduceCtorEq, not_false_eq_true])
  | some data =>
      -- Only the certificate that came can be the one that succeeds.
      have honly : HashSucceeds env hashedid s →
          keyRefused s = false ∧ acceptable env data hashedid s = true := by
        rintro ⟨data', hdata, h⟩
        rw [hc, Option.some.injEq] at hdata
        exact hdata ▸ h
      cases hk : keyRefused s with
      | true =>
          refine Or.inr ⟨fun h => ?_, _, byHash_keyRefused hc hk⟩
          have := (honly h).1
          rw [hk] at this
          exact absurd this (by decide)
      | false =>
          cases ha : acceptable env data hashedid s with
          | true => exact Or.inl ⟨⟨data, hc, hk, ha⟩, byHash_accepted hc hk ha⟩
          | false =>
              refine Or.inr ⟨fun h => ?_, _, byHash_unacceptable hc hk ha⟩
              have := (honly h).2
              rw [ha] at this
              exact absurd this (by decide)

/-- The entity has no ticket. -/
theorem secEntInitialConnection_none (h : ticketOf env s = none) (useAt : Bool) :
    secEntInitialConnection env useAt s = some (false, askedForTicket env s) := by
  unfold secEntInitialConnection
  unfold ticketOf at h
  unfold askedForTicket
  rcases hp : secEntProcess env secEntMsgNewTypeGetAtCert s with ⟨r, s'⟩
  rw [hp] at h
  cases r with
  | none => rfl
  | failure => rfl
  | msg m =>
      simp only at h ⊢
      split at h
      · exact absurd h (by simp only [reduceCtorEq, not_false_eq_true])
      · rename_i ht
        rw [if_pos ht]

/-- The entity has a ticket, whose certificate is set if wanted. -/
theorem secEntInitialConnection_some {ticket : Bytes} (h : ticketOf env s = some ticket)
    (useAt : Bool) :
    secEntInitialConnection env useAt s =
      if useAt then
        if ticket.length < hashedid8Len then some (false, askedForTicket env s)
        else sslUse1609CertByHash env (ticket.take hashedid8Len) (askedForTicket env s)
      else some (true, askedForTicket env s) := by
  unfold secEntInitialConnection
  unfold ticketOf at h
  unfold askedForTicket
  rcases hp : secEntProcess env secEntMsgNewTypeGetAtCert s with ⟨r, s'⟩
  rw [hp] at h
  cases r with
  | none => exact absurd h (by simp only [reduceCtorEq, not_false_eq_true])
  | failure => exact absurd h (by simp only [reduceCtorEq, not_false_eq_true])
  | msg m =>
      simp only at h ⊢
      split at h
      · rename_i ht
        rw [if_neg (fun hne => hne ht), Option.some.inj h]
      · exact absurd h (by simp only [reduceCtorEq, not_false_eq_true])

end

theorem failsCleanly_use1609Cert (env : Env ω) (data : Bytes) (s : SSL ω) :
    FailsCleanly env (.use1609Cert data) s := by
  intro t h
  simp only [setupCall, sslUse1609Cert, x509NewIeee1609Cert] at h
  split at h
  · rw [← (Prod.mk.inj (Option.some.inj h)).2]
    exact ⟨rfl, rfl, fun _ => rfl, rfl⟩
  · rename_i x hx
    split at h
    · exact absurd h (by simp only [reduceCtorEq, not_false_eq_true])
    · rename_i hv
      rcases ieee1609CertVerify_note hv with ⟨reply, rfl⟩
      rw [← (Prod.mk.inj (Option.some.inj h)).2]
      exact sameConfig_note s _
    · rename_i c s' hv
      rcases ieee1609CertVerify_note hv with ⟨reply, rfl⟩
      split at hx
      · exact absurd hx (by simp only [reduceCtorEq, not_false_eq_true])
      · -- The security level refuses the placeholder before it is stored.
        rw [← Option.some.inj hx] at h
        cases ha : env.securityCert ⟨.placeholder, some c⟩ s.other with
        | true =>
            rcases (sslUseCertificate_placeholder env c (s.note _)).2 ha with ⟨u, hu⟩
            rw [hu] at h
            simp only [Option.some.injEq, Prod.mk.injEq, Bool.true_eq_false, false_and] at h
        | false =>
            rw [(sslUseCertificate_placeholder env c (s.note _)).1 ha] at h
            rw [← (Prod.mk.inj (Option.some.inj h)).2]
            exact sameConfig_note s _

/-- What is set when RFC 8902 is enabled, before anything can fail. -/
def SSL.enabled (serverSupport clientSupport : BitVec 32) (s : SSL ω) : SSL ω :=
  { s with ieee1609 := { s.ieee1609 with
    rfc8902Support := true
    srv := { s.ieee1609.srv with support := serverSupport }
    clnt := { s.ieee1609.clnt with support := clientSupport } } }

/-- Nothing is left behind exactly if the switch and the masks had their values and nothing
    else is changed. -/
theorem sameConfig_enabled_iff {srv clnt : BitVec 32} {s t : SSL ω}
    (ht : t.support = (true, srv, clnt)) :
    SameConfig s t ↔ s.support = (true, srv, clnt) ∧ SameConfig (s.enabled srv clnt) t := by
  constructor
  · intro h
    exact ⟨h.support.symm.trans ht, ht, h.decided, h.slots, h.key⟩
  · rintro ⟨hs, h⟩
    exact ⟨ht.trans hs.symm, h.decided, h.slots, h.key⟩

/-- The certificate of a ticket is set after the switch and the masks. -/
theorem failsCleanly_ticket {env : Env ω} {srv clnt : BitVec 32} {s : SSL ω} {c : SetupCall}
    {hashedid : Bytes}
    (hcall : setupCall env c s =
      sslUse1609CertByHash env hashedid (askedForTicket env (s.enabled srv clnt))) :
    FailsCleanly env c s ↔ HashSucceeds env hashedid (askedForTicket env s) ∨
      (s.support = (true, srv, clnt) ∧ HashClean env hashedid (askedForTicket env s)) := by
  rcases byHash_cases env hashedid (askedForTicket env (s.enabled srv clnt)) with
    ⟨hsucc, u, hu⟩ | ⟨hfail, u, hu⟩
  · refine iff_of_true (fun t h => ?_) (Or.inl hsucc)
    rw [hcall, hu] at h
    simp only [Option.some.injEq, Prod.mk.injEq, Bool.true_eq_false, false_and] at h
  · have hno : ¬ HashSucceeds env hashedid (askedForTicket env s) := hfail
    -- What was set before is still set, so it must have been so from the start.
    have hsup : u.support = (true, srv, clnt) :=
      (updates_sslUse1609CertByHash env hashedid _ false u hu).support (by decide)
    have hasked : SameConfig (s.enabled srv clnt) u ↔
        SameConfig (askedForTicket env (s.enabled srv clnt)) u :=
      ⟨fun h => ⟨h.support, h.decided, h.slots, h.key⟩,
        fun h => ⟨h.support, h.decided, h.slots, h.key⟩⟩
    have hclean := hashClean_iff env hashedid (askedForTicket env (s.enabled srv clnt))
    rw [hu] at hclean
    unfold FailsCleanly
    rw [hcall, hu]
    simp only [Option.some.injEq, Prod.mk.injEq, true_and, forall_eq', hno, false_or] at hclean ⊢
    rw [sameConfig_enabled_iff hsup, hasked, hclean]
    exact Iff.rfl

theorem failsCleanly_enable (env : Env ω) (srv clnt : BitVec 32) (useAt : Bool) (s : SSL ω) :
    FailsCleanly env (.enableRfc8902Support srv clnt useAt) s ↔
      SetupClean env s (.enableRfc8902Support srv clnt useAt) := by
  -- The entity answers the same whether the switch is set or not.
  have hticket : ticketOf env (s.enabled srv clnt) = ticketOf env s := rfl
  have hasked : SameConfig (s.enabled srv clnt) (askedForTicket env (s.enabled srv clnt)) :=
    sameConfig_note _ _
  by_cases hbits : (allows1609 srv || allows1609 clnt) = true
  · have hcall : setupCall env (.enableRfc8902Support srv clnt useAt) s =
        secEntInitialConnection env useAt (s.enabled srv clnt) := if_pos hbits
    have hno : ¬ (allows1609 srv = false ∧ allows1609 clnt = false) := by
      rw [Bool.or_eq_true] at hbits
      rintro ⟨h1, h2⟩
      rw [h1, h2] at hbits
      exact absurd hbits (by decide)
    -- A call that ends after asking for the ticket leaves the switch and the masks.
    have hleft : setupCall env (.enableRfc8902Support srv clnt useAt) s =
          some (false, askedForTicket env (s.enabled srv clnt)) →
        (FailsCleanly env (.enableRfc8902Support srv clnt useAt) s ↔
          s.support = (true, srv, clnt)) := by
      intro heq
      unfold FailsCleanly
      rw [heq]
      simp only [Option.some.injEq, Prod.mk.injEq, true_and, forall_eq']
      rw [sameConfig_enabled_iff rfl]
      exact and_iff_left hasked
    simp only [SetupClean, hno, false_or]
    cases ht : ticketOf env s with
    | none =>
        rw [hleft (by rw [hcall, secEntInitialConnection_none (hticket.trans ht)])]
        simp only [reduceCtorEq, false_and, exists_false, false_or, false_imp_iff, implies_true,
          and_true]
    | some ticket =>
        rw [secEntInitialConnection_some (hticket.trans ht)] at hcall
        simp only [Option.some.injEq, exists_eq_left', forall_eq']
        cases useAt with
        | false =>
            refine iff_of_true (fun t h => ?_) (Or.inl (fun h => absurd h (by decide)))
            rw [hcall, if_neg (by decide)] at h
            simp only [Option.some.injEq, Prod.mk.injEq, Bool.true_eq_false, false_and] at h
        | true =>
            rw [if_pos rfl] at hcall
            by_cases hshort : ticket.length < hashedid8Len
            · rw [if_pos hshort] at hcall
              rw [hleft hcall]
              simp only [Nat.not_le.mpr hshort, false_and, imp_false, not_true_eq_false, false_or,
                false_imp_iff, implies_true, and_true]
            · rw [if_neg hshort] at hcall
              simp only [Nat.le_of_not_lt hshort, true_and, forall_const]
              exact failsCleanly_ticket hcall
  · have hcall : setupCall env (.enableRfc8902Support srv clnt useAt) s =
        some (true, s.enabled srv clnt) := if_neg hbits
    rw [Bool.not_eq_true, Bool.or_eq_false_iff] at hbits
    refine iff_of_true (fun t h => ?_) (Or.inl hbits)
    rw [hcall] at h
    simp only [Option.some.injEq, Prod.mk.injEq, Bool.true_eq_false, false_and] at h

/-- A call that fails leaves the configuration as it was exactly under this condition. -/
theorem failed_config_iff (env : Env ω) (c : SetupCall) (s : SSL ω) :
    FailsCleanly env c s ↔ SetupClean env s c := by
  cases c with
  | enableRfc8902Support srv clnt useAt => exact failsCleanly_enable env srv clnt useAt s
  | use1609Cert data => exact iff_of_true (failsCleanly_use1609Cert env data s) trivial
  | use1609CertByHash hashedid => exact hashClean_iff env hashedid s

/-- A new object and a security entity that does not answer. -/
theorem switch_left_on :
    ¬ ∀ (env : Env Unit) (c : SetupCall) (s : SSL Unit), FailsCleanly env c s := by
  intro h
  have hsup := (h plainEnv
    (.enableRfc8902Support sslRfc89021609 sslRfc89021609 true)
    (sslNew SspBuffer.zero 0 Cert.empty ()) _ rfl).support
  exact absurd hsup (by decide)

end Iso21177
