import Iso21177.Ssl.ClientAuth
import Iso21177.Ssl.Decision
import Iso21177.Ssl.StatemFrame

/-!
# A Side that Is Not Enabled

Decisions about certificate types are made by a side on which RFC 8902 was enabled.
The parsers of the two extensions return at once on any other side, so there nothing
is ever decided, whatever is read (`undecided_step`).

The side is not indifferent to the extensions, though. The parser returns failure
without raising a fatal error, which its callers take for granted, and before that the
wrapper of the client's extension has set the verification mode. A server that is not
enabled therefore treats a ClientHello as it would without the extensions only if they
are not there (`certificate_types_inert_iff`).

## Main definitions

* `Undecided`: A side that is not enabled has decided nothing.
* `Undeciding`: A call keeps it so.
* `certTypeParsers`, `certTypeConstructors`: The functions of the two rows.
* `withoutCertTypes`: A ClientHello with the two extensions removed.
* `plainServer`: A server that is not enabled.

## Theorems

* `undeciding_trans`, `undeciding_of_touches`: Calls one after the other, and those that
  decide nothing.
* `undeciding_extParser`, `undeciding_tlsParseAllExtensions`, `undeciding_processMessage`,
  `undeciding_readEvent`: Reading.
* `undecided_step`: Decisions along a step.
* `parsers_fatal_iff`, `constructors_fatal`: Which failures are fatal errors.
* `withoutCertTypes_self`, `lookup_withoutCertTypes`: What is removed.
* `reports_extParser_rest`, `reports_finalExtension`, `reports_tlsParseAllExtensions`:
  Without the two extensions every failure is a fatal error.
* `tlsParseAllExtensions_present`: With them it is not.
* `certificate_types_inert_iff`: When they make no difference.
* `certificate_types_inert_plain`, `certificate_types_not_inert`: A ClientHello without
  them, and one with the client's.
-/

namespace Iso21177

open Packet

variable {ω : Type}

/-- A side that is not enabled has decided nothing. -/
def Undecided (s : SSL ω) : Prop := sslIsRfc8902Supported s = false → s.decided = (none, none)

/-- The switch is kept, and a side that is not enabled keeps its decisions. -/
def Undeciding (s : SSL ω) (_ : Bool) (t : SSL ω) : Prop :=
  sslIsRfc8902Supported t = sslIsRfc8902Supported s ∧
    (sslIsRfc8902Supported s = false → t.decided = s.decided)

/-- Two calls that decide nothing while the switch is off. -/
theorem undeciding_trans (s t : SSL ω) (b : Bool) (u : SSL ω) (hst : Undeciding s true t)
    (htu : Undeciding t b u) : Undeciding s b u :=
  ⟨htu.1.trans hst.1, fun h => (htu.2 (hst.1.trans h)).trans (hst.2 h)⟩

/-- A call that changes neither the switch nor a decision. -/
theorem undeciding_of_touches {fs : List Field} {s t : SSL ω} {b : Bool} (h : Touches fs s b t)
    (hfs : .support ∉ fs ∧ .decided ∉ fs) : Undeciding s b t :=
  ⟨supported_of_keeps h.toKeeps hfs.1, fun _ => h.decided hfs.2⟩

section

variable (env : Env ω)

/-- The parsers of the two extensions decide nothing while the switch is off. -/
theorem undeciding_extParser (ctx : ExtCtx) (chainidx i : Nat) (body : Bytes) :
    Call.Rel Undeciding (extParser env ctx chainidx i body) := by
  intro s b t h
  have hk := touches_extParser env ctx chainidx i body s b t h
  refine ⟨supported_of_keeps hk.toKeeps (by decide), fun hsup => ?_⟩
  by_cases hi : 2 ≤ i
  · exact (touches_extParser_rest env ctx chainidx i body hi s b t h).decided (by decide)
  · -- A parser that is not enabled returns at once, the mode of the server aside.
    have hctos : ∀ (r : Role) (u : SSL ω), sslIsRfc8902Supported u = false →
        tlsParseCtosCertTypeExt r body u = some (b, t) → t.decided = u.decided := by
      intro r u hu hp
      simp only [tlsParseCtosCertTypeExt, hu, Bool.false_eq_true, not_false_eq_true, if_true,
        Option.some.injEq, Prod.mk.injEq] at hp
      rw [← hp.2]
    have hstoc : ∀ r : Role, tlsParseStocCertTypeExt r body s = some (b, t) →
        t.decided = s.decided := by
      intro r hp
      simp only [tlsParseStocCertTypeExt, hsup, Bool.false_eq_true, not_false_eq_true, if_true,
        Option.some.injEq, Prod.mk.injEq] at hp
      rw [← hp.2]
    unfold extParser at h
    split at h
    · split at h
      · exact hctos .srv s hsup h
      · exact hstoc .srv h
    · rename_i h0
      rw [if_pos (by simp only [tlsextIdxSrvType] at h0; simp only [tlsextIdxClntType]; omega)]
        at h
      split at h
      · exact hctos .clnt (sslSetVerify sslVerifyPeer s) hsup h
      · exact hstoc .clnt h

theorem undeciding_tlsParseAllExtensions (ctx : ExtCtx) (raw : RawExts) (chainidx : Nat)
    (fin : Bool) : Call.Rel Undeciding (tlsParseAllExtensions env ctx raw chainidx fin) := by
  refine Call.rel_seq undeciding_trans ?_ (fun s b t h =>
    undeciding_of_touches (touches_finals env ctx raw fin s b t h) (by decide))
  refine Call.rel_each (fun s => ⟨rfl, fun _ => rfl⟩) undeciding_trans extRows (fun r _ => ?_)
  intro s b t h
  unfold tlsParseExtension at h
  split at h
  · exact undeciding_of_touches (show Touches [] s b t from touches_same h) (by decide)
  · split at h
    · exact undeciding_extParser env ctx chainidx r.2 _ s b t h
    · exact undeciding_of_touches (show Touches [] s b t from touches_same h) (by decide)

/-- Whatever is read, a side that is not enabled decides nothing. -/
theorem undeciding_processMessage (m : Msg) :
    Call.Rel Undeciding (processMessage env m) := by
  have hframe : ∀ (s : SSL ω) b t, Touches helloFrameFields s b t → Undeciding s b t :=
    fun s b t h => undeciding_of_touches h (by decide)
  intro s b t h
  -- Only the hellos reach the parsers of the two extensions.
  by_cases hm : m.mt = .clientHello ∨ m.mt = .serverHello
  · unfold processMessage at h
    split at h
    · unfold serverProcessMessage at h
      split at h
      case h_1 head exts _ =>
        exact Call.rel_seq undeciding_trans
          (rel_tlsProcessClientHello env head exts undeciding_trans hframe
            (fun _ raw _ => undeciding_tlsParseAllExtensions env _ raw 0 true))
          (fun s b t h => undeciding_of_touches
            (touches_tlsPostProcessClientHello env s b t h) (by decide)) s b t h
      all_goals first
        | exact undeciding_of_touches (touches_runOther _ s b t h) (by decide)
        | exact undeciding_of_touches (touches_sslFail [] _ _ s b t h) (by decide)
        | exact absurd hm (by simp only [Msg.mt, reduceCtorEq, or_self, not_false_eq_true])
    · unfold clientProcessMessage at h
      split at h
      case h_1 hrr head exts _ =>
        exact rel_tlsProcessServerHello env hrr head exts undeciding_trans hframe
          (fun ctx raw => undeciding_tlsParseAllExtensions env ctx raw 0 true) s b t h
      all_goals first
        | exact undeciding_of_touches (touches_runOther _ s b t h) (by decide)
        | exact undeciding_of_touches (touches_sslFail [] _ _ s b t h) (by decide)
        | exact absurd hm (by simp only [Msg.mt, reduceCtorEq, or_self, not_false_eq_true])
  · refine undeciding_of_touches (touches_processMessage env m s b t h) ?_
    revert hm
    cases m.mt <;> decide

theorem undeciding_readEvent {m : Msg} {s t : SSL ω} (h : readEvent env m s = some t) :
    Undeciding s true t := by
  have hfatal : ∀ u : SSL ω, Undeciding u true (checkFatal u) := fun u =>
    ⟨supported_of_keeps (keeps_checkFatal [] u) (by decide),
      fun _ => (keeps_checkFatal [] u).decided (by decide)⟩
  rcases readEvent_cases env h with ⟨u, hu, rfl⟩ | ⟨st, u, b, v, -, hu, -, hp, rfl⟩
  · have hs : Undeciding s true u :=
      ⟨supported_of_keeps hu.toKeeps (by decide), fun _ => hu.decided (by decide)⟩
    exact undeciding_trans s u true _ hs (hfatal u)
  · have hsu : Undeciding s true u := undeciding_of_touches hu (by decide)
    have hv : Undeciding s true v := undeciding_trans s ((u.enter st).note (.recv m)) true v hsu
      (undeciding_processMessage env m _ b v hp)
    cases b with
    | false => exact undeciding_trans s v true _ hv (hfatal v)
    | true =>
        rw [if_pos rfl]
        split
        · exact hv
        · exact hv

theorem undecided_step {s t : SSL ω} {ev : Event} (hs : Undecided s)
    (h : step env s ev = some t) : Undecided t := by
  intro hsup
  have hk := keeps_step env h
  rcases step_cases env h with rfl | ⟨server, rfl, -, -⟩ | ⟨rfl, -, -⟩ | ⟨m, rfl, -, hr⟩ |
    ⟨rfl, -, -⟩ | ⟨rfl, -⟩ | ⟨c, rfl, -, -, b, hc⟩
  · exact hs hsup
  · rw [hk.decided (by simp only [stepFields]; decide)]
    exact hs (by rw [← hsup, supported_of_keeps hk (by simp only [stepFields]; decide)])
  · rw [hk.decided (by decide)]
    exact hs (by rw [← hsup, supported_of_keeps hk (by decide)])
  · have hu := undeciding_readEvent env hr
    rw [hu.2 (hu.1.symm.trans hsup)]
    exact hs (hu.1.symm.trans hsup)
  · rw [hk.decided (by decide)]
    exact hs (by rw [← hsup, supported_of_keeps hk (by decide)])
  · rw [hk.decided (by decide)]
    exact hs (by rw [← hsup, supported_of_keeps hk (by decide)])
  · cases c with
    | enableRfc8902Support srv clnt useAt =>
        -- Enabling is the one step after which nothing is to be shown.
        have henabled : sslIsRfc8902Supported t = true :=
          congrArg Prod.fst (sslEnableRfc8902Support_support env hc)
        rw [henabled] at hsup
        exact absurd hsup.symm Bool.false_ne_true
    | _ =>
        rw [hk.decided (by simp only [stepFields, configFields]; decide)]
        exact hs (by
          rw [← hsup, supported_of_keeps hk (by simp only [stepFields, configFields]; decide)])

end

/-- The parsers of the two extensions, of either side. -/
def certTypeParsers : List (Bytes → Call (SSL ω)) :=
  [tlsParseCtosSrvTypeExt, tlsParseStocSrvTypeExt, tlsParseCtosClntTypeExt,
    tlsParseStocClntTypeExt]

/-- The constructors of the two extensions, of either side. -/
def certTypeConstructors : List (SSL ω → ExtReturn × SSL ω) :=
  [tlsConstructStocSrvTypeExt, tlsConstructCtosSrvTypeExt, tlsConstructStocClntTypeExt,
    tlsConstructCtosClntTypeExt]

/-- A ClientHello with the two extensions removed. -/
def withoutCertTypes (raw : RawExts) : RawExts :=
  raw.filter (fun x => x.1 != tlsextIdxSrvType && x.1 != tlsextIdxClntType)

/-- The parsers report their failures exactly if the side is enabled, or stopped. -/
theorem parsers_fatal_iff (s : SSL ω) (body : Bytes) :
    (∀ p ∈ certTypeParsers, ∀ t, p body s = some (false, t) → t.Fatal) ↔
      sslIsRfc8902Supported s = true ∨ s.Fatal := by
  constructor
  · intro h
    cases hsup : sslIsRfc8902Supported s with
    | true => exact Or.inl rfl
    | false =>
        refine Or.inr (h tlsParseCtosSrvTypeExt (List.mem_cons_self ..) s ?_)
        simp only [tlsParseCtosSrvTypeExt, tlsParseCtosCertTypeExt, hsup, Bool.false_eq_true,
          not_false_eq_true, if_true]
  · intro hs p hp t h
    simp only [certTypeParsers, List.mem_cons, List.not_mem_nil, or_false] at hp
    rcases hp with rfl | rfl | rfl | rfl
    · exact tlsParseCtosCertTypeExt_fatal hs h
    · exact tlsParseStocCertTypeExt_fatal hs h
    · -- The mode is no part of the condition.
      exact tlsParseCtosCertTypeExt_fatal (s := sslSetVerify sslVerifyPeer s) hs h
    · exact tlsParseStocCertTypeExt_fatal hs h

theorem constructors_fatal (s : SSL ω) :
    ∀ c ∈ certTypeConstructors, ∀ t, c s = (.fail, t) → t.Fatal := by
  -- A server has to have decided; a client can always write its list.
  have hstoc : ∀ (r : Role) t, tlsConstructStocCertTypeExt r s = (.fail, t) → t.Fatal := by
    intro r t h
    unfold tlsConstructStocCertTypeExt at h
    split at h
    · exact absurd (Prod.mk.inj h).1 (by simp only [reduceCtorEq, not_false_eq_true])
    · split at h
      · rw [← (Prod.mk.inj h).2]
        exact fatal_sslFatal _ _ s
      · exact absurd (Prod.mk.inj h).1 (by simp only [reduceCtorEq, not_false_eq_true])
  have hctos : ∀ (r : Role) t, tlsConstructCtosCertTypeExt r s ≠ (.fail, t) := by
    intro r t h
    unfold tlsConstructCtosCertTypeExt at h
    split at h
    · exact absurd (Prod.mk.inj h).1 (by simp only [reduceCtorEq, not_false_eq_true])
    · exact absurd (Prod.mk.inj h).1 (by simp only [reduceCtorEq, not_false_eq_true])
  intro c hc t h
  simp only [certTypeConstructors, List.mem_cons, List.not_mem_nil, or_false] at hc
  rcases hc with rfl | rfl | rfl | rfl
  · exact hstoc .srv t h
  · exact absurd h (hctos .srv t)
  · exact hstoc .clnt t h
  · exact absurd h (hctos .clnt t)

/-- Where neither extension was sent, removing them changes nothing. -/
theorem withoutCertTypes_self {raw : RawExts} (habs : ∀ r : Role, raw.lookup r.extIdx = none) :
    withoutCertTypes raw = raw := by
  have hsrv := List.lookup_eq_none_iff.mp (habs .srv)
  have hclnt := List.lookup_eq_none_iff.mp (habs .clnt)
  refine List.filter_eq_self.mpr (fun x hx => ?_)
  rw [Bool.and_eq_true, bne_comm, bne_comm (b := tlsextIdxClntType)]
  exact ⟨hsrv x hx, hclnt x hx⟩

/-- The two extensions are not among what is left. -/
theorem lookup_withoutCertTypes (raw : RawExts) (r : Role) :
    (withoutCertTypes raw).lookup r.extIdx = none := by
  rw [List.lookup_eq_none_iff]
  intro x hx
  have hne := (List.mem_filter.mp hx).2
  rw [Bool.and_eq_true] at hne
  cases r with
  | srv => rw [bne_comm]; exact hne.1
  | clnt => rw [bne_comm]; exact hne.2

section

variable (env : Env ω)

theorem reports_extParser_rest (ctx : ExtCtx) (chainidx i : Nat) (body : Bytes) (hi : 2 ≤ i) :
    Call.Reports SSL.Fatal (extParser env ctx chainidx i body) := by
  intro s t h
  unfold extParser at h
  rw [if_neg (by simp only [tlsextIdxSrvType]; omega),
    if_neg (by simp only [tlsextIdxClntType]; omega)] at h
  split at h
  · split at h
    · unfold tlsParseCtosPostHandshakeAuth at h
      split at h
      · exact reports_sslFail _ _ s t h
      · simp only [Option.some.injEq, Prod.mk.injEq, Bool.true_eq_false, false_and] at h
    · simp only [Option.some.injEq, Prod.mk.injEq, Bool.true_eq_false, false_and] at h
  · exact reports_runOther _ s t h

/-- What is done for an extension at the end reports its failures. -/
theorem reports_finalExtension (ctx : ExtCtx) (raw : RawExts) (r : ExtDef × Nat) :
    Call.Reports SSL.Fatal (finalExtension env ctx raw r) := by
  intro s t h
  unfold finalExtension at h
  split at h
  · split at h
    · simp only [finalKeyShare] at h
      repeat' split at h
      all_goals first
        | exact reports_sslFail _ _ s t h
        | exact reports_runOther _ s t h
        | simp only [Option.some.injEq, Prod.mk.injEq, Bool.true_eq_false, false_and] at h
    · exact reports_runOther _ s t h
  · simp only [Option.some.injEq, Prod.mk.injEq, Bool.true_eq_false, false_and] at h

/-- Without the two extensions every failure is a fatal error. -/
theorem reports_tlsParseAllExtensions {ctx : ExtCtx} {raw : RawExts}
    (habs : ∀ r : Role, raw.lookup r.extIdx = none) (chainidx : Nat) (fin : Bool) :
    Call.Reports SSL.Fatal (tlsParseAllExtensions env ctx raw chainidx fin) := by
  refine Call.reports_seq (Call.reports_each extRows (fun r hr => ?_)) ?_
  · intro s t h
    unfold tlsParseExtension at h
    split at h
    · simp only [Option.some.injEq, Prod.mk.injEq, Bool.true_eq_false, false_and] at h
    · rename_i body hbody
      split at h
      · refine reports_extParser_rest env ctx chainidx r.2 body ?_ s t h
        by_contra hi
        -- A failure without an alert could only come from the first two rows.
        have hidx : r.2 = Role.srv.extIdx ∨ r.2 = Role.clnt.extIdx := by
          simp only [Role.extIdx, tlsextIdxSrvType, tlsextIdxClntType]
          omega
        rcases hidx with hidx | hidx
        · rw [hidx, habs .srv] at hbody
          exact absurd hbody (by simp only [reduceCtorEq, not_false_eq_true])
        · rw [hidx, habs .clnt] at hbody
          exact absurd hbody (by simp only [reduceCtorEq, not_false_eq_true])
      · simp only [Option.some.injEq, Prod.mk.injEq, Bool.true_eq_false, false_and] at h
  · split
    · exact Call.reports_each extRows (fun r _ => reports_finalExtension env ctx raw r)
    · intro s t h
      simp only [Call.ret, Option.some.injEq, Prod.mk.injEq, Bool.true_eq_false, false_and] at h

/-- A server that is not enabled fails at the first of the two extensions, with no fatal
    error, and possibly in another verification mode. -/
theorem tlsParseAllExtensions_present {raw : RawExts} {s : SSL ω} (hserver : s.server = true)
    (h13 : s.tls13 = true) (hsup : sslIsRfc8902Supported s = false)
    (hraw : ¬ ∀ r : Role, raw.lookup r.extIdx = none) (ctx : ExtCtx) (chainidx : Nat)
    (fin : Bool) : ∃ mode, tlsParseAllExtensions env ctx raw chainidx fin s =
      some (false, sslSetVerify mode s) := by
  rcases extRows_eq with ⟨rest, hrows, -⟩
  have hrel := extensionIsRelevant_certType env h13 ctx
  -- The rows of the two extensions come first, so no other parser has run by then.
  have hfirst : ∀ u, tlsParseExtension env ctx raw chainidx Role.srv.row s = some (false, u) →
      tlsParseAllExtensions env ctx raw chainidx fin s = some (false, u) := by
    intro u hu
    refine Call.seq_false.mpr (Or.inl ?_)
    rw [hrows]
    exact Call.seq_false.mpr (Or.inl hu)
  cases hsrv : raw.lookup Role.srv.extIdx with
  | some body =>
      refine ⟨s.verifyMode, hfirst s ?_⟩
      simp only [tlsParseExtension, Role.row, hsrv, hrel, if_true]
      simp only [extParser, Role.extIdx, if_true, hserver, tlsParseCtosSrvTypeExt,
        tlsParseCtosCertTypeExt, hsup, Bool.false_eq_true, not_false_eq_true]
  | none =>
      cases hclnt : raw.lookup Role.clnt.extIdx with
      | none => exact absurd (fun r => by cases r <;> assumption) hraw
      | some body =>
          -- The parser of the second one sets the mode before it looks at the switch.
          refine ⟨sslVerifyPeer, Call.seq_false.mpr (Or.inl ?_)⟩
          rw [hrows]
          refine Call.seq_false.mpr (Or.inr ⟨s, ?_, Call.seq_false.mpr (Or.inl ?_)⟩)
          · simp only [tlsParseExtension, Role.row, hsrv]
          · have hsup' : sslIsRfc8902Supported (sslSetVerify sslVerifyPeer s) = false := hsup
            simp only [tlsParseExtension, Role.row, hclnt, hrel, if_true]
            simp only [extParser, Role.extIdx, tlsextIdxClntType, tlsextIdxSrvType,
              Nat.one_ne_zero, if_false, if_true, hserver, tlsParseCtosClntTypeExt,
              tlsParseCtosCertTypeExt, hsup', Bool.false_eq_true, not_false_eq_true]

/-- What removing the two extensions changes for a server that is not enabled: nothing
    exactly if they were not sent. Whatever the side, a parser that fails has raised a
    fatal error exactly if RFC 8902 is enabled or there was one before, and a constructor
    that fails always has. -/
theorem certificate_types_inert_iff (raw : RawExts) {s : SSL ω} (hserver : s.server = true)
    (h13 : s.tls13 = true) (hsup : sslIsRfc8902Supported s = false) (hok : ¬ s.Fatal)
    (u : SSL ω) (body : Bytes) :
    (tlsParseAllExtensions env sslExtClientHello raw 0 true s =
        tlsParseAllExtensions env sslExtClientHello (withoutCertTypes raw) 0 true s ↔
      ∀ r : Role, raw.lookup r.extIdx = none) ∧
    ((∀ p ∈ certTypeParsers, ∀ t, p body u = some (false, t) → t.Fatal) ↔
      sslIsRfc8902Supported u = true ∨ u.Fatal) ∧
    (∀ c ∈ certTypeConstructors, ∀ t, c u = (.fail, t) → t.Fatal) := by
  refine ⟨⟨fun heq => ?_, fun habs => ?_⟩, parsers_fatal_iff u body, constructors_fatal u⟩
  · by_contra hraw
    obtain ⟨mode, hp⟩ := tlsParseAllExtensions_present env hserver h13 hsup hraw
      sslExtClientHello 0 true
    rw [hp] at heq
    -- The failure is silent, but without the extensions it would be fatal.
    have hfatal : (sslSetVerify mode s).Fatal :=
      reports_tlsParseAllExtensions env (lookup_withoutCertTypes raw) 0 true s _ heq.symm
    exact hok hfatal
  · rw [withoutCertTypes_self habs]

end

/-- A server that is about to parse a ClientHello of TLS 1.3, with a mode that demands a
    certificate and RFC 8902 not enabled. -/
def plainServer : SSL Unit :=
  { sslNew SspBuffer.zero (sslVerifyPeer ||| sslVerifyFailIfNoPeerCert) Cert.empty () with
    server := true, tls13 := true, statem := ⟨.reading, .srClntHello, true, none⟩ }

/-- A ClientHello with a key share only, to a server that is not enabled, and an empty
    extension to one that is. -/
theorem certificate_types_inert_plain :
    (tlsParseAllExtensions plainEnv sslExtClientHello [(tlsextIdxKeyShare, [])] 0 true
        plainServer =
      tlsParseAllExtensions plainEnv sslExtClientHello
        (withoutCertTypes [(tlsextIdxKeyShare, [])]) 0 true plainServer) ∧
      ∀ p ∈ certTypeParsers, ∀ t, p [] demandingServer = some (false, t) → t.Fatal := by
  have h := certificate_types_inert_iff plainEnv [(tlsextIdxKeyShare, [])] (s := plainServer)
    rfl rfl rfl (by decide) demandingServer []
  exact ⟨h.1.mpr (fun r => by cases r <;> rfl), h.2.1.mpr (Or.inl rfl)⟩

/-- The client's extension alone: the server fails without a fatal error, and its mode no
    longer demands a certificate. Without the extension the ClientHello is accepted. -/
theorem certificate_types_not_inert :
    (∃ t, tlsParseAllExtensions plainEnv sslExtClientHello
        [(tlsextIdxClntType, [1, 0]), (tlsextIdxKeyShare, [])] 0 true plainServer =
          some (false, t) ∧ ¬ t.Fatal ∧ t.verifyMode = sslVerifyPeer) ∧
      ∃ t, tlsParseAllExtensions plainEnv sslExtClientHello
        (withoutCertTypes [(tlsextIdxClntType, [1, 0]), (tlsextIdxKeyShare, [])]) 0 true
          plainServer = some (true, t) ∧ t.verifyMode = plainServer.verifyMode := by
  have hwith : (tlsParseAllExtensions plainEnv sslExtClientHello
      [(tlsextIdxClntType, [1, 0]), (tlsextIdxKeyShare, [])] 0 true plainServer).any
        (fun r => r.1 = false ∧ ¬ r.2.Fatal ∧ r.2.verifyMode = sslVerifyPeer) = true := by
    decide +kernel
  have hwithout : (tlsParseAllExtensions plainEnv sslExtClientHello
      (withoutCertTypes [(tlsextIdxClntType, [1, 0]), (tlsextIdxKeyShare, [])]) 0 true
        plainServer).any (fun r => r.1 = true ∧ r.2.verifyMode = plainServer.verifyMode) =
          true := by
    decide +kernel
  rcases (Option.any_eq_true _ _).mp hwith with ⟨⟨b, t⟩, ht, hp⟩
  rcases (Option.any_eq_true _ _).mp hwithout with ⟨⟨b', t'⟩, ht', hp'⟩
  rcases of_decide_eq_true hp with ⟨rfl, hfatal, hmode⟩
  rcases of_decide_eq_true hp' with ⟨rfl, hmode'⟩
  exact ⟨⟨t, ht, hfatal, hmode⟩, t', ht', hmode'⟩

end Iso21177
