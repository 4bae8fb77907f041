import Iso21177.Ssl.Hello

/-!
# What a Hello Decides

The effect of a hello's extensions on the decisions about certificate types. The two
rows come first in the table and nothing after them writes a decision, so the decision
for a role follows from its own extension alone: if it was sent the parser chose from
its body, and if it was not the decision is what it was before
(`tlsParseAllExtensions_decided`).

## Main definitions

* `parsedType`: What a parser makes of an extension's body.
* `maskAllows`: The mask allows a type.
* `Decides`: What a block of extensions decided for a role.

## Theorems

* `chooseType_allowed`, `parsedType_allowed`: A choice is a type the mask allows.
* `extensionIsRelevant_certType`: The two rows apply in TLS 1.3.
* `extParser_certType`, `tlsParseExtension_certType`: One row.
* `certType_of_keeps`, `decides_between`: What leaves a role alone.
* `tlsParseAllExtensions_decided`: All rows.
* `tlsProcessClientHello_true`, `tlsProcessServerHello_true`: The parts of a hello that
  was accepted.
* `clientHello_decided`, `serverHello_decided`: What such a hello decides.
-/

namespace Iso21177

open Packet

variable {ω : Type}

/-- What the parser of a certificate-type extension chooses: a server from the list of
    the client, a client the one type of the server if it allows it. -/
def parsedType (server : Bool) (support : BitVec 32) (body : Bytes) : Option CertificateType :=
  if server then
    match getNet 1 body with
    | none => none
    | some (listLen, list) => if list.length = listLen then chooseType support list else none
  else
    match body with
    | [b] => chooseType support [b]
    | _ => none

/-- The mask allows a type of certificate. -/
def maskAllows (support : BitVec 32) : CertificateType → Bool
  | .ieee1609Dot2 => allows1609 support
  | .x509 => allowsX509 support
  | .rawPublicKey => false

theorem chooseType_allowed {support : BitVec 32} {list : Bytes} {c : CertificateType}
    (h : chooseType support list = some c) : maskAllows support c = true := by
  rcases chooseType_some h with ⟨rfl, ha, -⟩ | ⟨rfl, ha, -⟩
  · exact ha
  · exact ha

theorem parsedType_allowed {server : Bool} {support : BitVec 32} {body : Bytes}
    {c : CertificateType} (h : parsedType server support body = some c) :
    maskAllows support c = true := by
  unfold parsedType at h
  split at h
  · split at h
    · exact absurd h (by simp only [reduceCtorEq, not_false_eq_true])
    · split at h
      · exact chooseType_allowed h
      · exact absurd h (by simp only [reduceCtorEq, not_false_eq_true])
  · split at h
    · exact chooseType_allowed h
    · exact absurd h (by simp only [reduceCtorEq, not_false_eq_true])

section

variable (env : Env ω)

/-- The parsers of the two rows, up to the verification mode, which only the server's
    parser of `client_certificate_type` writes. -/
theorem extParser_certType {ctx : ExtCtx} {chainidx : Nat} {r : Role} {body : Bytes}
    {s t : SSL ω} (h : extParser env ctx chainidx r.extIdx body s = some (true, t)) :
    sslIsRfc8902Supported s = true ∧ ∃ c mode,
      parsedType s.server (s.ieee1609.certType r).support body = some c ∧
      t = decideType r c (sslSetVerify mode s) := by
  -- A server picks from a list, a client takes the one octet of the answer.
  have hctos : ∀ u : SSL ω, tlsParseCtosCertTypeExt r body u = some (true, t) →
      sslIsRfc8902Supported u = true ∧ ∃ c,
        parsedType true (u.ieee1609.certType r).support body = some c ∧ t = decideType r c u := by
    intro u hu
    rcases tlsParseCtosCertTypeExt_true hu with ⟨hsup, list, c, hlist, hc, ht⟩
    exact ⟨hsup, c, by simp only [parsedType, if_true, hlist, hc], ht⟩
  have hstoc : tlsParseStocCertTypeExt r body s = some (true, t) →
      sslIsRfc8902Supported s = true ∧ ∃ c,
        parsedType false (s.ieee1609.certType r).support body = some c ∧ t = decideType r c s := by
    intro hu
    rcases tlsParseStocCertTypeExt_true hu with ⟨hsup, b, c, hb, hc, ht⟩
    exact ⟨hsup, c, by simp only [parsedType, Bool.false_eq_true, if_false, hb, hc], ht⟩
  cases hs : s.server with
  | true =>
      cases r with
      | srv =>
          simp only [extParser, Role.extIdx, if_true, hs] at h
          rcases hctos s h with ⟨hsup, c, hc, ht⟩
          exact ⟨hsup, c, s.verifyMode, hc, ht⟩
      | clnt =>
          simp only [extParser, Role.extIdx, tlsextIdxClntType, tlsextIdxSrvType,
            Nat.one_ne_zero, if_false, if_true, hs] at h
          -- The mode is overwritten before anything is parsed.
          rcases hctos _ h with ⟨hsup, c, hc, ht⟩
          exact ⟨hsup, c, sslVerifyPeer, hc, ht⟩
  | false =>
      have h' : tlsParseStocCertTypeExt r body s = some (true, t) := by
        cases r with
        | srv =>
            simpa only [extParser, Role.extIdx, if_true, hs, Bool.false_eq_true, if_false,
              tlsParseStocSrvTypeExt] using h
        | clnt =>
            simpa only [extParser, Role.extIdx, tlsextIdxClntType, tlsextIdxSrvType,
              Nat.one_ne_zero, if_false, if_true, hs, Bool.false_eq_true,
              tlsParseStocClntTypeExt] using h
      rcases hstoc h' with ⟨hsup, c, hc, ht⟩
      exact ⟨hsup, c, s.verifyMode, hc, ht⟩

/-- In TLS 1.3 the two rows always apply. -/
theorem extensionIsRelevant_certType {s : SSL ω} (h13 : s.tls13 = true) (ctx : ExtCtx) :
    extensionIsRelevant env s certTypeCtx ctx = true := by
  have h12 : certTypeCtx.meets sslExtTls12AndBelowOnly = false := by decide
  have hres : certTypeCtx.meets sslExtIgnoreOnResumption = false := by decide
  simp only [extensionIsRelevant, h13, Bool.or_true, h12, hres, Bool.and_false, Bool.not_true,
    Bool.false_and, Bool.or_self, Bool.not_false]

/-- The part of the record that is about one role. -/
theorem certType_of_keeps {fs : List Field} {s t : SSL ω} (h : Keeps fs s t)
    (hsup : .support ∉ fs) (hdec : .decided ∉ fs) (r : Role) :
    t.ieee1609.certType r = s.ieee1609.certType r := by
  have hs := h.support hsup
  have hd := h.decided hdec
  simp only [SSL.support, SSL.decided, Prod.mk.injEq] at hs hd
  cases r with
  | srv => exact congrArg₂ Rfc8902CertType.mk hs.2.1 hd.1
  | clnt => exact congrArg₂ Rfc8902CertType.mk hs.2.2 hd.2

/-- Parsing one of the two rows: nothing if the extension was not sent, and a decision
    otherwise. -/
theorem tlsParseExtension_certType {ctx : ExtCtx} {raw : RawExts} {chainidx : Nat} {r : Role}
    {s t : SSL ω} (h13 : s.tls13 = true)
    (h : tlsParseExtension env ctx raw chainidx r.row s = some (true, t)) :
    (raw.lookup r.extIdx = none ∧ t = s) ∨
    ∃ body c mode, raw.lookup r.extIdx = some body ∧ sslIsRfc8902Supported s = true ∧
      parsedType s.server (s.ieee1609.certType r).support body = some c ∧
      t = decideType r c (sslSetVerify mode s) := by
  unfold tlsParseExtension at h
  simp only [Role.row, extensionIsRelevant_certType env h13, if_true] at h
  split at h
  · rename_i hnone
    exact Or.inl ⟨hnone, ((Prod.mk.inj (Option.some.inj h)).2).symm⟩
  · rename_i body hbody
    rcases extParser_certType env h with ⟨hsup, c, mode, hc, ht⟩
    exact Or.inr ⟨body, c, mode, hbody, hsup, hc, ht⟩

/-- What a block of extensions decided for one role. -/
def Decides (raw : RawExts) (r : Role) (s t : SSL ω) : Prop :=
  (t.ieee1609.certType r).support = (s.ieee1609.certType r).support ∧
  match raw.lookup r.extIdx with
  | none => (t.ieee1609.certType r).typeDecided = (s.ieee1609.certType r).typeDecided
  | some body => sslIsRfc8902Supported s = true ∧ ∃ c,
      parsedType s.server (s.ieee1609.certType r).support body = some c ∧
      (t.ieee1609.certType r).typeDecided = some c

theorem tlsParseAllExtensions_decided {ctx : ExtCtx} {raw : RawExts} {chainidx : Nat} {fin : Bool}
    {s t : SSL ω} (h13 : s.tls13 = true)
    (h : tlsParseAllExtensions env ctx raw chainidx fin s = some (true, t)) (r : Role) :
    Decides raw r s t := by
  rcases extRows_eq with ⟨rest, hrows, hrest⟩
  rcases Call.seq_true.mp h with ⟨s3, heach, hfin⟩
  rw [hrows] at heach
  rcases Call.seq_true.mp heach with ⟨s1, hsrv, heach⟩
  rcases Call.seq_true.mp heach with ⟨s2, hclnt, heach⟩
  -- Nothing behind the first two rows is about a role.
  have h3 : Touches [.pha, .other] s2 true s3 :=
    touches_each rest (fun x hx => touches_tlsParseExtension env ctx raw chainidx x
      (fun body => touches_extParser_rest env ctx chainidx x.2 body (hrest x hx).1)) s2 true s3
      heach
  have ht : t.ieee1609.certType r = s2.ieee1609.certType r := by
    rw [certType_of_keeps (touches_finals env ctx raw fin s3 true t hfin).toKeeps (by decide)
      (by decide), certType_of_keeps h3.toKeeps (by decide) (by decide)]
  unfold Decides
  rw [ht]
  cases r with
  | srv =>
      have h2 : s2.ieee1609.certType .srv = s1.ieee1609.certType .srv := by
        have h13' : s1.tls13 = true := by
          rcases tlsParseExtension_certType env h13 hsrv with ⟨-, rfl⟩ | ⟨_, _, _, -, -, -, rfl⟩
          · exact h13
          · exact h13
        rcases tlsParseExtension_certType env h13' hclnt with ⟨-, rfl⟩ | ⟨_, c, mode, -, -, -, rfl⟩
        · rfl
        · exact certType_decideType_ne (by decide) c _
      rw [h2]
      rcases tlsParseExtension_certType env h13 hsrv with
        ⟨hnone, rfl⟩ | ⟨body, c, mode, hbody, hsup, hc, rfl⟩
      · rw [hnone]
        exact ⟨rfl, rfl⟩
      · rw [hbody, certType_decideType_self]
        exact ⟨rfl, hsup, c, hc, rfl⟩
  | clnt =>
      -- The first row left the client's role, the switch and the side.
      have h1 : s1.ieee1609.certType .clnt = s.ieee1609.certType .clnt ∧ s1.tls13 = true ∧
          sslIsRfc8902Supported s1 = sslIsRfc8902Supported s ∧ s1.server = s.server := by
        rcases tlsParseExtension_certType env h13 hsrv with
          ⟨-, rfl⟩ | ⟨_, c, mode, -, -, -, rfl⟩
        · exact ⟨rfl, h13, rfl, rfl⟩
        · exact ⟨certType_decideType_ne (by decide) c _, h13, rfl, rfl⟩
      rcases h1 with ⟨h1, h13', hsup1, hserver⟩
      rw [← h1, ← hsup1, ← hserver]
      rcases tlsParseExtension_certType env h13' hclnt with
        ⟨hnone, rfl⟩ | ⟨body, c, mode, hbody, hsup, hc, rfl⟩
      · rw [hnone]
        exact ⟨rfl, rfl⟩
      · rw [hbody, certType_decideType_self]
        exact ⟨rfl, hsup, c, hc, rfl⟩

/-- What leaves the support and the decisions alone may come before and after. -/
theorem decides_between {fs gs : List Field} {raw : RawExts} {r : Role} {s u v t : SSL ω}
    {b c : Bool} (hsu : Touches fs s b u) (hfs : .support ∉ fs ∧ .decided ∉ fs ∧ .server ∉ fs)
    (h : Decides raw r u v) (hvt : Touches gs v c t) (hgs : .support ∉ gs ∧ .decided ∉ gs) :
    Decides raw r s t := by
  have hsup := supported_of_keeps hsu.toKeeps hfs.1
  unfold Decides at h ⊢
  rw [certType_of_keeps hvt.toKeeps hgs.1 hgs.2,
    ← certType_of_keeps hsu.toKeeps hfs.1 hfs.2.1, ← hsup,
    ← hsu.server hfs.2.2]
  exact h

theorem tlsProcessClientHello_true {head exts : Bytes} {s t : SSL ω}
    (h : tlsProcessClientHello env head exts s = some (true, t)) :
    ∃ raw u v, collectBlock s.extflags sslExtClientHello exts = .ok raw ∧
      Touches [.pha, .other, .tls13, .session, .heap] s true u ∧
      tlsParseAllExtensions env sslExtClientHello raw 0 true u = some (true, v) ∧
      Touches [.other] v true t := by
  rcases Call.seq_true.mp h with ⟨s1, hhead, h⟩
  have h1 := touches_runOther _ s true s1 hhead
  rcases collecting_true env h with ⟨raw, s2, hraw, h2, h⟩
  rcases Call.seq_true.mp h with ⟨s3, hver, h⟩
  rcases Call.seq_true.mp h with ⟨s4, hbefore, h⟩
  rcases Call.seq_true.mp h with ⟨s5, hsess, h⟩
  rcases Call.seq_true.mp h with ⟨v, hparse, hafter⟩
  rw [h1.extflags (by decide)] at hraw
  refine ⟨raw, s5, v, hraw, ?_, hparse, touches_runOther _ v true t hafter⟩
  refine touches_trans (touches_mono (by decide) h1) ?_
  refine touches_trans (touches_mono (by decide) h2) ?_
  refine touches_trans (touches_mono (by decide) (touches_chooseVersion env _ head raw s2 true s3
    hver)) ?_
  refine touches_trans (touches_mono (by decide) (touches_runOther _ s3 true s4 hbefore)) ?_
  rw [← (Prod.mk.inj (Option.some.inj hsess)).2]
  exact touches_mono (by decide) (touches_serverSession env s4)

/-- What an accepted ClientHello decides in TLS 1.3. -/
theorem clientHello_decided {head exts : Bytes} {s t : SSL ω}
    (h : tlsProcessClientHello env head exts s = some (true, t)) (h13 : t.tls13 = true) :
    ∃ raw, collectBlock s.extflags sslExtClientHello exts = .ok raw ∧ ∀ r, Decides raw r s t := by
  rcases tlsProcessClientHello_true env h with ⟨raw, u, v, hraw, hu, hparse, ht⟩
  have hv := touches_tlsParseAllExtensions env _ raw 0 true u true v hparse
  have h13u : u.tls13 = true := by
    rw [← hv.tls13 (by decide), ← ht.tls13 (by decide)]
    exact h13
  exact ⟨raw, hraw, fun r => decides_between hu (by decide)
    (tlsParseAllExtensions_decided env h13u hparse r) ht (by decide)⟩

theorem tlsProcessServerHello_true {head exts : Bytes} {s t : SSL ω}
    (h : tlsProcessServerHello env false head exts s = some (true, t)) :
    ∃ raw ctx u v,
      collectBlock s.extflags (sslExtTls12ServerHello ||| sslExtTls13ServerHello) exts = .ok raw ∧
      Touches [.pha, .other, .tls13, .session] s true u ∧
      tlsParseAllExtensions env ctx raw 0 true u = some (true, v) ∧
      Touches [.other] v true t := by
  simp only [tlsProcessServerHello, Bool.false_eq_true, if_false] at h
  rcases Call.seq_true.mp h with ⟨s1, hhead, h⟩
  have h1 := touches_runOther _ s true s1 hhead
  rcases collecting_true env h with ⟨raw, s2, hraw, h2, h⟩
  rcases Call.seq_true.mp h with ⟨s3, hver, h⟩
  rw [h1.extflags (by decide)] at hraw
  generalize (if s3.tls13 = true then sslExtTls13ServerHello else sslExtTls12ServerHello) = ctx
    at h
  -- The context of the block depends on the version the head has just fixed.
  unfold serverHelloIn at h
  split at h
  · rcases Call.seq_true.mp h with ⟨s4, hsess, h⟩
    rcases Call.seq_true.mp h with ⟨s5, hrenew, h⟩
    rcases Call.seq_true.mp h with ⟨v, hparse, hafter⟩
    refine ⟨raw, ctx, s5, v, hraw, ?_, hparse, touches_runOther _ v true t hafter⟩
    refine touches_trans (touches_mono (by decide) h1) ?_
    refine touches_trans (touches_mono (by decide) h2) ?_
    refine touches_trans (touches_mono (by decide) (touches_chooseVersion env _ head raw s2 true s3
      hver)) ?_
    refine touches_trans (touches_mono (by decide) (touches_runOther _ s3 true s4 hsess)) ?_
    rw [← (Prod.mk.inj (Option.some.inj hrenew)).2]
    exact touches_mono (by decide) (touches_renewSession env s4)
  · exact absurd h (sslFail_ne_true _ _ _ _)

/-- What an accepted ServerHello decides in TLS 1.3. -/
theorem serverHello_decided {head exts : Bytes} {s t : SSL ω}
    (h : tlsProcessServerHello env false head exts s = some (true, t)) (h13 : t.tls13 = true) :
    ∃ raw, collectBlock s.extflags (sslExtTls12ServerHello ||| sslExtTls13ServerHello) exts =
      .ok raw ∧ ∀ r, Decides raw r s t := by
  rcases tlsProcessServerHello_true env h with ⟨raw, ctx, u, v, hraw, hu, hparse, ht⟩
  have hv := touches_tlsParseAllExtensions env _ raw 0 true u true v hparse
  have h13u : u.tls13 = true := by
    rw [← hv.tls13 (by decide), ← ht.tls13 (by decide)]
    exact h13
  exact ⟨raw, hraw, fun r => decides_between hu (by decide)
    (tlsParseAllExtensions_decided env h13u hparse r) ht (by decide)⟩

end

end Iso21177
