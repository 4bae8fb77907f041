import Iso21177.Ssl.ClientHandshake

/-!
# A Client That Has a Certificate

The one step of a connection object that can go wrong is the write of a client that is to show
a 1609.2 certificate and has none. A client whose current slot holds a certificate is not one
of these, and the slot stays filled through a handshake: in TLS 1.3 the choice of a signature
algorithm moves on only to a slot that is filled as well, and without callbacks nothing else
moves it.

So every handshake of such a client is defined from its first message to its last, whatever the
server sends in its place (`handshake_defined`).

## Main definitions

* `NoCallbacks`: The application sets no certificate callback.
* `SSL.Armed`: The current slot holds a certificate.
* `Arming`: A call that keeps it so in TLS 1.3.

## Theorems

* `armed_of_keeps`, `arming_seq`, `arming_of_touches`: Calls in general.
* `armed_sslUseCertificate`, `armed_sslUse1609CertByHash`, `armed_sslEnableRfc8902Support`: The
  calls that set a certificate.
* `arming_certCallback`, `arming_ssl3CheckClientCertificate`, `arming_useClientCertCb`,
  `arming_tlsChooseSigalg`, `arming_tlsPrepareClientCertificate`, `arming_processRequest`,
  `arming_prepareIfAsked`: The calls that choose a slot.
* `armed_processMessage`, `armed_step`: Messages and steps.
* `handshake_defined`: Whole handshakes.
-/

namespace Iso21177

variable {ω : Type}

/-- The application sets no callback for its certificate. -/
structure NoCallbacks (env : Env ω) : Prop where
  certCb : ∀ tr o, env.certCb tr o = none
  clientCertCb : ∀ tr o, env.clientCertCb tr o = none

/-- The current slot holds a certificate. -/
def SSL.Armed (s : SSL ω) : Prop := (s.cert.pkeys s.cert.key).x509 ≠ none

/-- A call that leaves the certificates alone. -/
theorem armed_of_keeps {fs : List Field} {s t : SSL ω} (h : Keeps fs s t) (hcert : .cert ∉ fs)
    (hs : s.Armed) : t.Armed := by
  rw [SSL.Armed, h.cert hcert]
  exact hs

section Setting

variable {env : Env ω}

/-- A certificate that is set is in the current slot. -/
theorem armed_sslUseCertificate {x : X509} {s t : SSL ω}
    (h : sslUseCertificate env x s = some (true, t)) : t.Armed := by
  unfold sslUseCertificate sslSetCert at h
  split at h
  · split at h
    · exact absurd h (by simp only [Option.some.injEq, Prod.mk.injEq, Bool.false_eq_true,
        false_and, not_false_eq_true])
    · split at h
      · exact absurd h (by simp only [Option.some.injEq, Prod.mk.injEq, Bool.false_eq_true,
          false_and, not_false_eq_true])
      · split at h
        · exact absurd h (by simp only [Option.some.injEq, Prod.mk.injEq, Bool.false_eq_true,
            false_and, not_false_eq_true])
        · rename_i i _ _
          rw [← (Prod.mk.inj (Option.some.inj h)).2]
          simp only [SSL.Armed, Cert.setPkey, if_true]
          exact Option.some_ne_none x
  · exact absurd h (by simp only [Option.some.injEq, Prod.mk.injEq, Bool.false_eq_true,
      false_and, not_false_eq_true])

theorem armed_sslUse1609CertByHash {hashedid : Bytes} {s t : SSL ω}
    (h : sslUse1609CertByHash env hashedid s = some (true, t)) : t.Armed := by
  have hfalse : ∀ {u : SSL ω}, some (false, u) ≠ some (true, t) := by
    intro u hu
    exact Bool.false_ne_true (Prod.mk.inj (Option.some.inj hu)).1
  unfold sslUse1609CertByHash at h
  split at h
  · split at h
    · exact absurd h hfalse
    · split at h
      · exact absurd h hfalse
      · rcases Call.seq_true.mp h with ⟨u, -, hu⟩
        exact armed_sslUseCertificate hu
  · exact absurd h hfalse

/-- Support that is enabled with the current ticket brings its certificate along. -/
theorem armed_sslEnableRfc8902Support {srv clnt : BitVec 32} {s t : SSL ω}
    (hmask : (allows1609 srv || allows1609 clnt) = true)
    (h : sslEnableRfc8902Support env srv clnt true s = some (true, t)) : t.Armed := by
  have hfalse : ∀ {u : SSL ω}, some (false, u) ≠ some (true, t) := by
    intro u hu
    exact Bool.false_ne_true (Prod.mk.inj (Option.some.inj hu)).1
  simp only [sslEnableRfc8902Support, hmask, if_true] at h
  unfold secEntInitialConnection at h
  split at h
  · split at h
    · exact absurd h hfalse
    · simp only [if_true] at h
      split at h
      · exact absurd h hfalse
      · exact armed_sslUse1609CertByHash h
  · exact absurd h hfalse

end Setting

section Choosing

variable {env : Env ω}

/-- A call that keeps a client armed in TLS 1.3, which it does not leave. -/
abbrev Arming (c : Call (SSL ω)) : Prop :=
  Call.Rel (fun s _ t => s.tls13 = true ∧ s.Armed → t.tls13 = true ∧ t.Armed) c

/-- Two calls in a row. -/
theorem arming_seq {c d : Call (SSL ω)} (hc : Arming c) (hd : Arming d) :
    Arming (Call.seq c d) := by
  refine Call.rel_seq (R := fun (s : SSL ω) _ t => s.tls13 = true ∧ s.Armed →
    t.tls13 = true ∧ t.Armed) (fun s t b u hst htu hs => ?_) hc hd
  exact htu (hst hs)

/-- A call known by its fields, when version and certificates are not among them. -/
theorem arming_of_touches {fs : List Field} {c : Call (SSL ω)} (h : Call.Rel (Touches fs) c)
    (hcert : .cert ∉ fs) (h13 : .tls13 ∉ fs) : Arming c := by
  rintro s b t ht ⟨hs13, hs⟩
  have hk := (h s b t ht).toKeeps
  exact ⟨(hk.tls13 h13).trans hs13, armed_of_keeps hk hcert hs⟩

/-- Without a callback nothing is changed by it. -/
theorem arming_certCallback (hcb : NoCallbacks env) (reason : Reason) :
    Arming (certCallback env reason) := by
  intro s b t h hs
  simp only [certCallback, hcb.certCb] at h
  rw [← (Prod.mk.inj (Option.some.inj h)).2]
  exact hs

/-- The slot that is chosen holds a certificate. -/
theorem arming_tlsChooseSigalg : Arming (tlsChooseSigalg env false) := by
  rintro s b t h ⟨h13, hs⟩
  simp only [tlsChooseSigalg, if_pos h13] at h
  split at h
  · rw [if_neg Bool.false_ne_true] at h
    rw [← (Prod.mk.inj (Option.some.inj h)).2]
    exact ⟨h13, hs⟩
  · rename_i lu hlu
    rw [← (Prod.mk.inj (Option.some.inj h)).2]
    refine ⟨h13, ?_⟩
    have husable := List.find?_some hlu
    change (s.cert.pkeys lu.sigIdx).x509 ≠ none
    intro hx
    simp only [sigalgUsable, hx, Bool.and_false, Bool.false_eq_true] at husable

theorem arming_ssl3CheckClientCertificate : Arming (ssl3CheckClientCertificate env) :=
  arming_seq arming_tlsChooseSigalg (fun s _ t h hs => by
    rw [← (Prod.mk.inj (Option.some.inj h)).2]
    exact hs)

theorem arming_useClientCertCb (hcb : NoCallbacks env) : Arming (useClientCertCb env) := by
  intro s b t h hs
  simp only [useClientCertCb, hcb.clientCertCb] at h
  rw [← (Prod.mk.inj (Option.some.inj h)).2]
  exact hs

/-- A client that prepares its Certificate still has it afterwards. -/
theorem arming_tlsPrepareClientCertificate (hcb : NoCallbacks env) :
    Arming (tlsPrepareClientCertificate env) := by
  refine arming_seq (arming_certCallback hcb _) (fun s b t h hs => ?_)
  beta_reduce at h
  split at h
  · exact absurd h (by simp only [reduceCtorEq, not_false_eq_true])
  · rename_i s' hc
    rw [← (Prod.mk.inj (Option.some.inj h)).2]
    exact arming_ssl3CheckClientCertificate s true s' hc hs
  · rename_i s' hc
    have hs' := arming_ssl3CheckClientCertificate s false s' hc hs
    split at h
    · exact absurd h (by simp only [reduceCtorEq, not_false_eq_true])
    · rename_i s'' hu
      rw [← (Prod.mk.inj (Option.some.inj h)).2]
      exact arming_useClientCertCb hcb s' true s'' hu hs'
    · rename_i s'' hu
      exact arming_of_touches (touches_sendNoCertificate env) (by decide) (by decide) s'' b t h
        (arming_useClientCertCb hcb s' false s'' hu hs')

theorem arming_processRequest (hcb : NoCallbacks env) (body : Bytes) :
    Arming (processRequest env body) := by
  intro s b t h hs
  unfold processRequest at h
  refine arming_seq (arming_of_touches (touches_tlsProcessCertificateRequest env body) (by decide)
    (by decide)) (fun u c v hv hu => ?_) s b t h hs
  beta_reduce at hv
  split at hv
  · rw [← (Prod.mk.inj (Option.some.inj hv)).2]
    exact hu
  · exact arming_tlsPrepareClientCertificate hcb u c v hv hu

theorem arming_prepareIfAsked (hcb : NoCallbacks env) : Arming (prepareIfAsked env) := by
  intro s b t h hs
  unfold prepareIfAsked at h
  split at h
  · exact arming_tlsPrepareClientCertificate hcb s b t h hs
  · rw [← (Prod.mk.inj (Option.some.inj h)).2]
    exact hs

end Choosing

section Steps

variable {env : Env ω}

/-- Reading leaves a client armed. -/
theorem armed_processMessage (hcb : NoCallbacks env) {m : Msg} {s t : SSL ω} {b : Bool}
    (hside : s.server = false) (hversion : s.tls13 = true ∨ m.mt = .serverHello) (hs : s.Armed)
    (h : processMessage env m s = some (b, t)) : t.Armed := by
  have hk := (touches_processMessage env m s b t h).toKeeps
  simp only [processMessage, hside, Bool.false_eq_true, if_false] at h
  have hfail : ∀ al reason, sslFail al reason s = some (b, t) → t.Armed := fun al reason hf =>
    armed_of_keeps (touches_sslFail [] al reason s b t hf).toKeeps List.not_mem_nil hs
  -- The slot can change where a certificate is prepared only.
  cases m with
  | certificateRequest body =>
      have h13 := hversion.resolve_right MsgType.noConfusion
      unfold clientProcessMessage at h
      split at h
      case h_3 => exact (arming_processRequest hcb _ s b t h ⟨h13, hs⟩).2
      all_goals first
        | exact hfail _ _ h
        | (rename_i hm; exact Msg.noConfusion hm)
  | certificateVerify cv =>
      have h13 := hversion.resolve_right MsgType.noConfusion
      unfold clientProcessMessage at h
      split at h
      case h_5 =>
        exact (arming_seq (arming_of_touches (touches_tlsProcessCertVerify env _) (by decide)
          (by decide)) (arming_prepareIfAsked hcb) s b t h ⟨h13, hs⟩).2
      all_goals first
        | exact hfail _ _ h
        | (rename_i hm; exact Msg.noConfusion hm)
  | clientHello head exts =>
      unfold clientProcessMessage at h
      split at h
      all_goals first
        | exact hfail _ _ h
        | (rename_i hm; exact Msg.noConfusion hm)
  | plain mt body =>
      unfold clientProcessMessage at h
      split at h
      all_goals first
        | exact hfail _ _ h
        | exact armed_of_keeps (touches_runOther _ s b t h).toKeeps (by decide) hs
        | (rename_i hm; exact Msg.noConfusion hm)
  | serverHello hrr head exts =>
      exact armed_of_keeps hk (show .cert ∉ touchedBy .serverHello by decide) hs
  | encryptedExtensions exts =>
      exact armed_of_keeps hk (show .cert ∉ touchedBy .encryptedExtensions by decide) hs
  | certificate body =>
      exact armed_of_keeps hk (show .cert ∉ touchedBy .certificate by decide) hs

/-- A step of a handshake leaves a client armed. -/
theorem armed_step (hcb : NoCallbacks env) {s t : SSL ω} {ev : Event} (hside : s.server = false)
    (hplaced : s.statem.state.going = true → Placed s) (hev : ev.inHandshake = true)
    (hs : s.Armed) (h : step env s ev = some t) : t.server = false ∧ t.Armed := by
  refine ⟨(server_step env h (by rintro server rfl; exact Bool.false_ne_true hev)).trans hside, ?_⟩
  have hfatal : ∀ u : SSL ω, u.Armed → (checkFatal u).Armed := fun u hu =>
    armed_of_keeps (keeps_checkFatal [] u) List.not_mem_nil hu
  rcases step_cases env h with rfl | ⟨_, rfl, -⟩ | ⟨rfl, -⟩ | ⟨m, rfl, hflow, hr⟩ |
    ⟨rfl, hflow, hw⟩ | ⟨rfl, -⟩ | ⟨_, rfl, -⟩
  · exact hs
  · exact absurd hev Bool.false_ne_true
  · exact absurd hev Bool.false_ne_true
  · rcases readEvent_cases env hr with ⟨u, hu, rfl⟩ | ⟨st, u, b, v, htr, hu, -, hp, rfl⟩
    · exact hfatal u (armed_of_keeps hu.toKeeps (by decide) hs)
    · have hversion := tls13_of_read (hplaced (by rw [hflow]; rfl)) hside hflow htr
      have hu' : u.Armed := armed_of_keeps hu.toKeeps (by decide) hs
      have hv : v.Armed := armed_processMessage hcb
        (s := (u.enter st).note (.recv m)) ((hu.server (by decide)).trans hside)
        (hversion.imp (hu.tls13 (by decide)).trans And.right) hu' hp
      cases b with
      | false => exact hfatal v hv
      | true => exact armed_of_keeps (keeps_turned _ v).1 List.not_mem_nil hv
  · exact armed_of_keeps (keeps_writeEvent env hw) (by decide) hs
  · exact absurd hev Bool.false_ne_true
  · exact absurd hev Bool.false_ne_true

/-- A handshake of an armed client is defined, whatever is read. -/
theorem handshake_defined (hhash : WholeHash env) (henv : OnlyTls13 env) (hcb : NoCallbacks env)
    {s : SSL ω} {es : List Event} (hs : Sound s) (hside : s.server = false) (harmed : s.Armed)
    (hes : ∀ ev ∈ es, ev.orderly = true) : ∃ t, run (step env) s es = some t := by
  have hstep : ∀ (u : SSL ω) (ev : Event), ev.orderly = true →
      Sound u ∧ u.server = false ∧ u.Armed →
      ∃ v, step env u ev = some v ∧ Sound v ∧ v.server = false ∧ v.Armed := by
    rintro u ev hev ⟨hu, hsu, harm⟩
    have hclean := clean_of_orderly hev u
    cases hv : step env u ev with
    | none =>
        -- The only step that could be undefined is that of a client without a certificate.
        rcases (step_none_iff hhash henv hu hclean).mp hv with ⟨-, -, -, -, -, hbare, -⟩
        exact absurd hbare harm
    | some v =>
        exact ⟨v, rfl, sound_step hhash henv hclean hu hv,
          armed_step hcb hsu (fun hgo => (hu.placed hgo).1)
            (Event.inHandshake_of_orderly hev) harm hv⟩
  rcases run_succeeds_along (step env) (fun _ ev => ev.orderly = true) _ hstep es s
    (along_of_forall (step env) _ es s hes) ⟨hs, hside, harmed⟩ with ⟨t, ht, -⟩
  exact ⟨t, ht⟩

end Steps

end Iso21177
