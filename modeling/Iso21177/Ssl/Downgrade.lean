import Iso21177.Lib.Run
import Iso21177.Ssl.Decision
import Iso21177.Ssl.PeerBinding
import Iso21177.Ssl.StatemFrame

/-!
# Certificate Types Outside the Configuration

An application enables RFC 8902 with a mask for each role, and a peer whose hello
carries the role's extension is held to it: the parser decides for a type of the mask
or stops the handshake. A hello without the extension decides nothing. What was decided
before stays, and no decision at all counts as X.509, whatever the mask says
(`x509_outside_mask`).

So the kind of certificate a side reads is one it configured as long as every hello it
reads has the extension, or finds the kind in force among those configured
(`certificate_kind_configured`).

## Main definitions

* `SSL.peerRole`: The role of the peer.
* `kindOf`, `kindAllowed`: The kind of certificate a role is read as.
* `SSL.covers`: The condition on an event.
* `Covered`: The invariant.
* `only1609Flight`: A client that wants 1609.2 of both sides.

## Theorems

* `kindAllowed_of_decides`, `kindAllowed_of_touches`: What keeps the kind in the mask.
* `kindAllowed_processMessage`: What reading a message does.
* `covers_read_of_touches`: The condition looks at the roles only.
* `covered_readEvent`, `covered_startEvent`, `covered_step`, `covered_run`: The
  invariant.
* `certificate_kind_configured`: The kind read is one that was configured.
* `certificate_kind_configured_1609`: For a server that chose 1609.2.
* `x509_outside_mask`: Without the extension it need not be.
-/

namespace Iso21177

variable {ω : Type}

/-- The role whose certificate this side reads. -/
def SSL.peerRole (s : SSL ω) : Role := if s.server then .clnt else .srv

/-- The kind of certificate a role is read as: no decision counts as X.509. -/
def kindOf (c : Rfc8902CertType) : CertificateType :=
  if c.typeDecided = some .ieee1609Dot2 then .ieee1609Dot2 else .x509

/-- The mask of a role has the kind it is read as. -/
def kindAllowed (c : Rfc8902CertType) : Bool := maskAllows c.support (kindOf c)

/-- A hello has the extension of the peer's role or finds an allowed kind in force, and
    masks set between a handshake and what follows it allow the kind in force. -/
def SSL.covers (s : SSL ω) : Event → Bool
  | .read (.clientHello _ exts) =>
    carries Role.clnt.extType exts || kindAllowed (s.ieee1609.certType .clnt)
  | .read (.serverHello false _ exts) =>
    carries Role.srv.extType exts || kindAllowed (s.ieee1609.certType .srv)
  | .config (.enableRfc8902Support srv clnt _) =>
    s.statem.state = .uninited ||
      maskAllows (if s.server then clnt else srv) (kindOf (s.ieee1609.certType s.peerRole))
  | _ => true

/-- From a hello of TLS 1.3 on, the peer's certificate is read as a kind of the mask. -/
def Covered (s : SSL ω) : Prop :=
  s.tls13 = true → s.statem.state ≠ .uninited → s.statem.state ≠ .error →
    kindAllowed (s.ieee1609.certType s.peerRole) = true

/-- A decision is for an allowed kind, and none keeps the kind in force. -/
theorem kindAllowed_of_decides {raw : RawExts} {r : Role} {s t : SSL ω} (h : Decides raw r s t)
    (hor : (raw.lookup r.extIdx).isSome = true ∨ kindAllowed (s.ieee1609.certType r) = true) :
    kindAllowed (t.ieee1609.certType r) = true := by
  rcases h with ⟨hsup, hdec⟩
  cases hl : raw.lookup r.extIdx with
  -- The extension is absent, so what was decided before still holds.
  | none =>
      rw [hl] at hdec hor
      have hk : kindAllowed (s.ieee1609.certType r) = true :=
        hor.resolve_left (by simp only [Option.isSome_none, Bool.false_eq_true, not_false_eq_true])
      simp only at hdec
      simpa only [kindAllowed, kindOf, hsup, hdec] using hk
  | some body =>
      rw [hl] at hdec
      rcases hdec with ⟨-, c, hc, hdec⟩
      have hallowed := parsedType_allowed hc
      simp only [kindAllowed, kindOf, hsup, hdec, Option.some.injEq]
      cases c with
      | ieee1609Dot2 => exact hallowed
      | x509 => exact hallowed
      | rawPublicKey => exact absurd hallowed Bool.false_ne_true

theorem kindAllowed_of_touches {fs : List Field} {s t : SSL ω} {b : Bool} (h : Touches fs s b t)
    (hfs : .support ∉ fs ∧ .decided ∉ fs ∧ .server ∉ fs)
    (hs : kindAllowed (s.ieee1609.certType s.peerRole) = true) :
    kindAllowed (t.ieee1609.certType t.peerRole) = true := by
  have hrole : t.peerRole = s.peerRole := by simp only [SSL.peerRole, h.server hfs.2.2]
  rw [hrole, certType_of_keeps h.toKeeps hfs.1 hfs.2.1]
  exact hs

section

variable (env : Env ω)

/-- A message that was processed leaves the kind among those allowed. -/
theorem kindAllowed_processMessage {m : Msg} {s t : SSL ω} (h13 : t.tls13 = true)
    (hcov : s.covers (.read m) = true)
    (hs : s.tls13 = true → kindAllowed (s.ieee1609.certType s.peerRole) = true)
    (h : processMessage env m s = some (true, t)) :
    kindAllowed (t.ieee1609.certType t.peerRole) = true := by
  -- Everything but a hello leaves the version, the masks and the decisions.
  have hrest : ∀ fs, Touches fs s true t →
      (.support ∉ fs ∧ .decided ∉ fs ∧ .server ∉ fs) ∧ .tls13 ∉ fs →
      kindAllowed (t.ieee1609.certType t.peerRole) = true := by
    intro fs hfs hn
    refine kindAllowed_of_touches hfs hn.1 (hs ?_)
    rw [← hfs.tls13 hn.2]
    exact h13
  cases hserver : s.server with
  | true =>
      have hrole : s.peerRole = .clnt := by simp only [SSL.peerRole, hserver, if_true]
      simp only [processMessage, hserver, if_true] at h
      unfold serverProcessMessage at h
      split at h
      · rename_i head exts _
        rcases Call.seq_true.mp h with ⟨u, hu, hpost⟩
        have hp := touches_tlsPostProcessClientHello env u true t hpost
        obtain ⟨raw, hraw, hdec⟩ :=
          clientHello_decided env hu (by rw [← hp.tls13 (by decide)]; exact h13)
        have hsv : u.peerRole = .clnt := by
          rw [← hrole]
          simp only [SSL.peerRole, (touches_tlsProcessClientHello env head exts s true u hu).server
            (by decide)]
        refine kindAllowed_of_touches hp (by decide) ?_
        rw [hsv]
        -- The extension is in the block that was collected if it is in the message.
        refine kindAllowed_of_decides (hdec .clnt) ?_
        rw [collectBlock_isSome hraw (verifyExtension_certType .clnt (by decide))]
        simpa only [SSL.covers, Bool.or_eq_true] using hcov
      · exact hrest _ (touches_tlsProcessClientCertificate env _ s true t h) (by decide)
      · exact hrest _ (touches_tlsProcessCertVerify env _ s true t h) (by decide)
      all_goals first
        | exact hrest _ (touches_runOther _ s true t h) (by decide)
        | exact absurd h (sslFail_ne_true _ _ _ _)
  | false =>
      have hrole : s.peerRole = .srv := by
        simp only [SSL.peerRole, hserver, Bool.false_eq_true, if_false]
      simp only [processMessage, hserver, Bool.false_eq_true, if_false] at h
      unfold clientProcessMessage at h
      split at h
      · rename_i hrr head exts _
        cases hrr with
        | true => exact hrest _ (touches_helloRetryRequest env head exts s true t h) (by decide)
        | false =>
            rcases serverHello_decided env h h13 with ⟨raw, hraw, hdec⟩
            have hsv : t.peerRole = .srv := by
              rw [← hrole]
              simp only [SSL.peerRole, (touches_tlsProcessServerHello env false head exts s true t
                h).server (by decide)]
            rw [hsv]
            refine kindAllowed_of_decides (hdec .srv) ?_
            rw [collectBlock_isSome hraw (verifyExtension_certType .srv (by decide))]
            simpa only [SSL.covers, Bool.or_eq_true] using hcov
      · exact hrest _ (touches_tlsProcessEncryptedExtensions env _ s true t h) (by decide)
      · exact hrest _ (touches_processRequest env _ s true t h) (by decide)
      · exact hrest _ (touches_seq (touches_tlsProcessServerCertificate env _)
          (touches_tlsPostProcessServerCertificate env) s true t h) (by decide)
      · exact hrest _ (touches_seq
          (touches_weaken (List.subset_append_left _ _) (touches_tlsProcessCertVerify env _))
          (touches_weaken (List.subset_append_right _ _) (touches_prepareIfAsked env)) s true t h)
          (by decide)
      all_goals first
        | exact hrest _ (touches_runOther _ s true t h) (by decide)
        | exact absurd h (sslFail_ne_true _ _ _ _)

/-- The condition on a message looks at the two roles only. -/
theorem covers_read_of_touches {fs : List Field} {s t : SSL ω} {b : Bool} (h : Touches fs s b t)
    (hfs : .support ∉ fs ∧ .decided ∉ fs) (m : Msg) :
    t.covers (.read m) = s.covers (.read m) := by
  have hrole := certType_of_keeps h.toKeeps hfs.1 hfs.2
  cases m with
  | clientHello head exts => simp only [SSL.covers, hrole]
  | serverHello hrr head exts => cases hrr <;> simp only [SSL.covers, hrole]
  | _ => rfl

theorem covered_readEvent {m : Msg} {s t : SSL ω} (hread : s.statem.state = .reading)
    (hcov : s.covers (.read m) = true) (hs : Covered s) (h : readEvent env m s = some t) :
    Covered t := by
  intro h13 hinit herr
  -- A message that is refused or fails leaves the object in the error state.
  rcases readEvent_cases env h with ⟨u, -, rfl⟩ | ⟨st, u, b, v, -, hu, -, hp, rfl⟩
  · exact absurd (fatal_checkFatal u).2 herr
  · cases b with
    | false => exact absurd (fatal_checkFatal v).2 herr
    | true =>
        -- The message itself is covered, and what was covered before it stays so.
        have hv : v.tls13 = true → kindAllowed (v.ieee1609.certType v.peerRole) = true := by
          intro h13v
          refine kindAllowed_processMessage env h13v ?_ (fun h13u => ?_) hp
          · rw [← covers_read_of_touches hu (by decide) m] at hcov
            exact hcov
          · change kindAllowed (u.ieee1609.certType u.peerRole) = true
            refine kindAllowed_of_touches hu (by decide) (hs ?_ ?_ ?_)
            · rw [← hu.tls13 (by decide)]
              exact h13u
            · rw [hread]
              exact MsgFlow.noConfusion
            · rw [hread]
              exact MsgFlow.noConfusion
        rw [if_pos rfl] at h13 ⊢
        split at h13
        · rename_i hdone
          rw [if_pos hdone]
          exact hv h13
        · rename_i hdone
          rw [if_neg hdone]
          exact hv h13

/-- A step that starts a handshake has no version yet. -/
theorem covered_startEvent {server : Bool} {s t : SSL ω} (hst : s.statem.state = .uninited)
    (h : startEvent env server s = some t) : Covered t := by
  intro h13 hinit herr
  -- Clearing forgets the version, and a refused clearing does not start anything.
  have hclear : ∀ b u, sslClear env s = some (b, u) →
      if b then u.tls13 = false else u.statem = s.statem := by
    intro b u hc
    unfold sslClear at hc
    simp only at hc
    split at hc <;>
      · rw [← (Prod.mk.inj (Option.some.inj hc)).1, ← (Prod.mk.inj (Option.some.inj hc)).2]
        rfl
  rcases startEvent_cases env h with hc | ⟨u, b, v, hc, hp, rfl⟩
  · have hu : t.statem = s.statem := hclear false t hc
    rw [hu, hst] at hinit
    exact absurd rfl hinit
  · have hu : u.tls13 = false := hclear true u hc
    have hv : v.tls13 = false := ((touches_runOther _ _ b v hp).tls13 (by decide)).trans hu
    have ht : (if b then v.turn .writing else v).tls13 = false := by
      split
      · exact hv
      · exact hv
    rw [ht] at h13
    exact absurd h13 Bool.false_ne_true

/-- A step under the condition keeps the kind among those allowed. -/
theorem covered_step {s t : SSL ω} {ev : Event} (hcov : s.covers ev = true) (hs : Covered s)
    (h : step env s ev = some t) : Covered t := by
  -- Steps that leave the masks, the decisions, the side and the version.
  have hkeep : ∀ fs, Keeps fs s t → (.support ∉ fs ∧ .decided ∉ fs ∧ .server ∉ fs) ∧ .tls13 ∉ fs →
      (t.statem.state ≠ .uninited → t.statem.state ≠ .error →
        s.statem.state ≠ .uninited ∧ s.statem.state ≠ .error) → Covered t := by
    intro fs hk hfs hflow h13 hinit herr
    have h13s : s.tls13 = true := by
      rw [← hk.tls13 hfs.2]
      exact h13
    have hallowed := hs h13s (hflow hinit herr).1 (hflow hinit herr).2
    have hsup := hk.support hfs.1.1
    have hdec := hk.decided hfs.1.2.1
    simp only [SSL.support, SSL.decided, Prod.mk.injEq] at hsup hdec
    simp only [SSL.peerRole] at hallowed ⊢
    rw [hk.server hfs.1.2.2]
    cases hsv : s.server <;>
      simpa only [hsv, SslIeee1609.certType, kindAllowed, kindOf, hsup.2.1, hsup.2.2, hdec.1,
        hdec.2, Bool.false_eq_true, if_false, if_true] using hallowed
  rcases step_cases env h with rfl | ⟨server, rfl, hst, hst'⟩ | ⟨rfl, hst, rfl⟩ |
    ⟨m, rfl, hst, hr⟩ | ⟨rfl, hst, hw⟩ | ⟨rfl, b, hc⟩ | ⟨c, rfl, -, -, b, hc⟩
  · exact hs
  · exact covered_startEvent env hst hst'
  · refine hkeep [] (keeps_step env h) (by decide) (fun _ _ => ?_)
    rw [hst]
    exact ⟨MsgFlow.noConfusion, MsgFlow.noConfusion⟩
  · exact covered_readEvent env hst hcov hs hr
  · refine hkeep _ (keeps_writeEvent env hw) (by decide) (fun _ _ => ?_)
    rw [hst]
    exact ⟨MsgFlow.noConfusion, MsgFlow.noConfusion⟩
  · unfold sslClear at hc
    simp only at hc
    split at hc <;> rw [Option.some.injEq, Prod.mk.injEq] at hc <;> obtain ⟨-, rfl⟩ := hc
    · exact hs
    · exact fun h13 => absurd h13 Bool.false_ne_true
  · rcases touches_configCall env c s b t hc with ⟨hu, hflow⟩
    cases c with
    | enableRfc8902Support srv clnt useAt =>
        intro h13 hinit _
        rw [hflow] at hinit
        have hdec := hu.decided (by simp only [configFields]; decide)
        have hsv := hu.server (by simp only [configFields]; decide)
        have hmask := sslEnableRfc8902Support_support env hc
        simp only [SSL.covers, Bool.or_eq_true, decide_eq_true_eq] at hcov
        have hm := hcov.resolve_left hinit
        simp only [SSL.support, SSL.decided, Prod.mk.injEq] at hdec hmask
        simp only [SSL.peerRole] at hm ⊢
        rw [hsv]
        cases hs' : s.server <;>
          simpa only [hs', SslIeee1609.certType, kindAllowed, kindOf, hmask.2.1, hmask.2.2, hdec.1,
            hdec.2, Bool.false_eq_true, if_false, if_true] using hm
    | own c =>
        exact hkeep _ hu.toKeeps (by simp only [configFields]; decide)
          (fun hi he => by rw [← hflow]; exact ⟨hi, he⟩)
    | setVerify mode =>
        exact hkeep _ hu.toKeeps (by simp only [configFields]; decide)
          (fun hi he => by rw [← hflow]; exact ⟨hi, he⟩)
    | verifyClientPostHandshake =>
        exact hkeep _ hu.toKeeps (by simp only [configFields]; decide)
          (fun hi he => by rw [← hflow]; exact ⟨hi, he⟩)

theorem covered_run {s0 s : SSL ω} {es : List Event} (h0 : s0.statem.state = .uninited)
    (hes : Along (step env) (fun s ev => s.covers ev = true) s0 es)
    (h : run (step env) s0 es = some s) : Covered s :=
  run_invariant_along (step env) _ Covered
    (fun _ _ _ hok hs hst => covered_step env hok hs hst) es s0 s hes
    (fun _ hinit => absurd h0 hinit) h

/-- Along a run under the condition, a side that reads in TLS 1.3 takes a Certificate of
    the peer for a kind that it configured for the peer's role. -/
theorem certificate_kind_configured {s0 s : SSL ω} {es : List Event}
    (h0 : s0.statem.state = .uninited)
    (hes : Along (step env) (fun s ev => s.covers ev = true) s0 es)
    (hrun : run (step env) s0 es = some s) (hread : s.statem.state = .reading)
    (h13 : s.tls13 = true) :
    maskAllows (s.ieee1609.certType s.peerRole).support
      (if sslIsUsing1609OtherSide s then .ieee1609Dot2 else .x509) = true := by
  have hallowed := covered_run env h0 hes hrun h13 (by rw [hread]; exact MsgFlow.noConfusion)
    (by rw [hread]; exact MsgFlow.noConfusion)
  cases hs : s.server <;>
    simpa only [kindAllowed, kindOf, SSL.peerRole, SslIeee1609.certType, sslIsUsing1609OtherSide,
      sslIsUsing1609Client, sslIsUsing1609Server, hs, Bool.false_eq_true, if_false, if_true,
      decide_eq_true_eq] using hallowed

end

/-- A client that wants 1609.2 of both sides, up to where the server's Certificate is
    read, with the extensions of the ServerHello. -/
def only1609Flight (exts : Bytes) : List Event :=
  [.config (.enableRfc8902Support sslRfc89021609 sslRfc89021609 false), .start false, .write,
    .write, .read (.serverHello false [] exts), .read (.encryptedExtensions [])]

/-- A server that chose 1609.2 for both roles. -/
theorem certificate_kind_configured_1609 :
    ∃ s, run (step verifyingEnv) newClient
        (only1609Flight [0, 51, 0, 0, 0, 20, 0, 1, 3, 0, 19, 0, 1, 3]) = some s ∧
      s.statem.state = .reading ∧ s.tls13 = true ∧
      maskAllows (s.ieee1609.certType s.peerRole).support
        (if sslIsUsing1609OtherSide s then .ieee1609Dot2 else .x509) = true := by
  have hrun : (run (step verifyingEnv) newClient
      (only1609Flight [0, 51, 0, 0, 0, 20, 0, 1, 3, 0, 19, 0, 1, 3])).any
        (fun s => s.statem.state = .reading && s.tls13) = true := by decide +kernel
  rcases (Option.any_eq_true _ _).mp hrun with ⟨s, hs, hp⟩
  rw [Bool.and_eq_true] at hp
  exact ⟨s, hs, of_decide_eq_true hp.1, hp.2,
    certificate_kind_configured verifyingEnv rfl (along_of_check _ _ _ _ (by decide +kernel)) hs
      (of_decide_eq_true hp.1) hp.2⟩

/-- A server that leaves out the extensions: the client that wants 1609.2 only takes an
    X.509 certificate. -/
theorem x509_outside_mask :
    ¬ ∀ (s0 s t : SSL Unit) (es : List Event) (body : Bytes), s0.statem.state = .uninited →
      run (step verifyingEnv) s0 es = some s → s.statem.state = .reading → s.tls13 = true →
      step verifyingEnv s (.read (.certificate body)) = some t → ¬ t.Fatal →
      maskAllows (s.ieee1609.certType s.peerRole).support
        (if sslIsUsing1609OtherSide s then .ieee1609Dot2 else .x509) = true := by
  intro h
  have hrun : (run (step verifyingEnv) newClient (only1609Flight [0, 51, 0, 0])).any (fun s =>
      s.statem.state = .reading && s.tls13 &&
        (step verifyingEnv s (.read (.certificate [0, 0, 0, 6, 0, 0, 1, 7, 0, 0]))).any
          (fun t => ¬ t.Fatal) &&
        !maskAllows (s.ieee1609.certType s.peerRole).support
          (if sslIsUsing1609OtherSide s then .ieee1609Dot2 else .x509)) = true := by decide +kernel
  rcases (Option.any_eq_true _ _).mp hrun with ⟨s, hs, hp⟩
  rw [Bool.and_eq_true, Bool.and_eq_true, Bool.and_eq_true] at hp
  rcases (Option.any_eq_true _ _).mp hp.1.2 with ⟨t, ht, hf⟩
  have hallowed := h newClient s t _ _ rfl hs (of_decide_eq_true hp.1.1.1) hp.1.1.2 ht
    (of_decide_eq_true hf)
  rw [hallowed] at hp
  exact absurd hp.2 Bool.false_ne_true

end Iso21177
