import Iso21177.Ssl.CertType

/-!
# Extension Processing

The table of extensions and the functions that run over it. A received block is
first collected: each extension must be allowed in the message, must not be
repeated, and in an answer must have been asked for. The collected extensions
are then parsed in the order of the table, not of the message, and the
finalisers run after that. Constructing a block goes over the same table.

The two certificate-type extensions come first in the table. They have no
initialiser and no finaliser, so nothing runs for them when they are absent.
Post-handshake authentication and the key share are written out because they
set fields the state machine reads; every other extension is a parameter.

There are no custom extensions, and the highest version allowed is at least
TLS 1.3.

## Main definitions

* `ExtDef`, `extDefs`: The table.
* `extensionIsRelevant`, `validateContext`, `verifyExtension`: Its lookups.
* `RawExts`, `tlsCollectExtensions`: Collecting a block.
* `tlsValidateAllContexts`: The second look once the version is known.
* `tlsParseExtension`, `tlsParseAllExtensions`: Parsing what was collected.
* `finalKeyShare`: The finaliser that decides on a HelloRetryRequest.
* `tlsConstructExtensions`: Writing a block.

## Theorems

* `tlsCollectExtensions_some`, `collecting_true`, `rel_collecting`: What collecting a
  block leaves.
* `touches_tlsCollectExtensions`, `touches_tlsParseExtension`, `touches_finals`,
  `touches_tlsParseAllExtensions`: What each part of the processing touches.
-/

namespace Iso21177

open Packet

/-- A place an extension may appear, or a restriction on it: a set of flags. -/
abbrev ExtCtx := Nat

def sslExtDtlsOnly : ExtCtx := 0x0002
def sslExtTlsImplementationOnly : ExtCtx := 0x0004
def sslExtSsl3Allowed : ExtCtx := 0x0008
def sslExtTls12AndBelowOnly : ExtCtx := 0x0010
def sslExtTls13Only : ExtCtx := 0x0020
def sslExtIgnoreOnResumption : ExtCtx := 0x0040
def sslExtClientHello : ExtCtx := 0x0080
def sslExtTls12ServerHello : ExtCtx := 0x0100
def sslExtTls13ServerHello : ExtCtx := 0x0200
def sslExtTls13EncryptedExtensions : ExtCtx := 0x0400
def sslExtTls13HelloRetryRequest : ExtCtx := 0x0800
def sslExtTls13Certificate : ExtCtx := 0x1000
def sslExtTls13NewSessionTicket : ExtCtx := 0x2000
def sslExtTls13CertificateRequest : ExtCtx := 0x4000

/-- The two sets of flags have one in common. -/
def ExtCtx.meets (a b : ExtCtx) : Bool := a &&& b ≠ 0

/-- One row of the table: the extension's number and where it may appear. -/
structure ExtDef where
  type : Nat
  context : ExtCtx
  deriving DecidableEq

/-- Where the two certificate-type extensions may appear. -/
def certTypeCtx : ExtCtx := sslExtTls13ServerHello ||| sslExtClientHello ||| sslExtTls13Only

/-- `ext_defs`, with the row of the extension that is compiled out. -/
def extDefs : List ExtDef :=
  let ch12 := sslExtClientHello ||| sslExtTls12ServerHello
  [ ⟨Role.srv.extType, certTypeCtx⟩,
    ⟨Role.clnt.extType, certTypeCtx⟩,
    ⟨0xff01, ch12 ||| sslExtSsl3Allowed ||| sslExtTls12AndBelowOnly⟩,
    ⟨0, ch12 ||| sslExtTls13EncryptedExtensions⟩,
    ⟨1, ch12 ||| sslExtTls13EncryptedExtensions⟩,
    ⟨0x10000, 0⟩,
    ⟨11, ch12 ||| sslExtTls12AndBelowOnly⟩,
    ⟨10, sslExtClientHello ||| sslExtTls13EncryptedExtensions ||| sslExtTls12ServerHello⟩,
    ⟨35, ch12 ||| sslExtTls12AndBelowOnly⟩,
    ⟨5, ch12 ||| sslExtTls13Certificate ||| sslExtTls13CertificateRequest⟩,
    ⟨13172, ch12 ||| sslExtTls12AndBelowOnly⟩,
    ⟨16, ch12 ||| sslExtTls13EncryptedExtensions⟩,
    ⟨14, ch12 ||| sslExtTls13EncryptedExtensions ||| sslExtDtlsOnly⟩,
    ⟨22, ch12 ||| sslExtTls12AndBelowOnly⟩,
    ⟨18, ch12 ||| sslExtTls13Certificate ||| sslExtTls13CertificateRequest⟩,
    ⟨23, ch12 ||| sslExtTls12AndBelowOnly⟩,
    ⟨50, sslExtClientHello ||| sslExtTls13CertificateRequest⟩,
    ⟨49, sslExtClientHello ||| sslExtTls13Only⟩,
    ⟨13, sslExtClientHello ||| sslExtTls13CertificateRequest⟩,
    ⟨43, sslExtClientHello ||| sslExtTls13ServerHello ||| sslExtTls13HelloRetryRequest |||
      sslExtTlsImplementationOnly⟩,
    ⟨45, sslExtClientHello ||| sslExtTlsImplementationOnly ||| sslExtTls13Only⟩,
    ⟨51, sslExtClientHello ||| sslExtTls13ServerHello ||| sslExtTls13HelloRetryRequest |||
      sslExtTlsImplementationOnly ||| sslExtTls13Only⟩,
    ⟨44, sslExtClientHello ||| sslExtTls13HelloRetryRequest ||| sslExtTlsImplementationOnly |||
      sslExtTls13Only⟩,
    ⟨0xfde8, ch12 ||| sslExtTls12AndBelowOnly⟩,
    ⟨42, sslExtClientHello ||| sslExtTls13EncryptedExtensions |||
      sslExtTls13NewSessionTicket ||| sslExtTls13Only⟩,
    ⟨47, sslExtClientHello ||| sslExtTls13CertificateRequest ||| sslExtTls13Only⟩,
    ⟨21, sslExtClientHello⟩,
    ⟨41, sslExtClientHello ||| sslExtTls13ServerHello ||| sslExtTlsImplementationOnly |||
      sslExtTls13Only⟩ ]

/-- The rows with their indices. -/
def extRows : List (ExtDef × Nat) := extDefs.zipIdx

/-- Index of `server_certificate_type`. -/
def tlsextIdxSrvType : Nat := 0

/-- Index of `client_certificate_type`. -/
def tlsextIdxClntType : Nat := 1

/-- Index of `post_handshake_auth`. -/
def tlsextIdxPostHandshakeAuth : Nat := 17

/-- Index of `key_share`. -/
def tlsextIdxKeyShare : Nat := 21

/-- The index of a role's extension. -/
def Role.extIdx : Role → Nat
  | .srv => tlsextIdxSrvType
  | .clnt => tlsextIdxClntType

variable {ω : Type}

/-- `extension_is_relevant`. In a HelloRetryRequest the version is not chosen
    yet but known to be TLS 1.3. -/
def extensionIsRelevant (env : Env ω) (s : SSL ω) (extctx thisctx : ExtCtx) : Bool :=
  let isTls13 := thisctx.meets sslExtTls13HelloRetryRequest || s.tls13
  !((isTls13 && extctx.meets sslExtTls12AndBelowOnly)
    || (!isTls13 && extctx.meets sslExtTls13Only && !thisctx.meets sslExtClientHello)
    || (s.server && !isTls13 && extctx.meets sslExtTls13Only)
    || ((env.rest s.other).hit && extctx.meets sslExtIgnoreOnResumption))

/-- `validate_context`. -/
def validateContext (extctx thisctx : ExtCtx) : Bool :=
  thisctx.meets extctx && !extctx.meets sslExtDtlsOnly

/-- The row of an extension number. -/
def findExt (type : Nat) : Option (ExtDef × Nat) := extRows.find? (fun r => r.1.type == type)

/-- `verify_extension`: `none` if the extension is not allowed here, else its
    index, or `none` inside for one that is not known. -/
def verifyExtension (ctx : ExtCtx) (type : Nat) : Option (Option Nat) :=
  match findExt type with
  | none => some none
  | some (d, i) => if validateContext d.context ctx then some (some i) else none

/-- The extensions found in a block, by index. -/
abbrev RawExts := List (Nat × Bytes)

/-- Messages in which an extension need not have been asked for. -/
def unaskedCtx : ExtCtx :=
  sslExtClientHello ||| sslExtTls13CertificateRequest ||| sslExtTls13NewSessionTicket

/-- The extension answers nothing this side sent. -/
def isUnsolicited (extflags : List Nat) (ctx : ExtCtx) (type i : Nat) : Bool :=
  !ctx.meets unaskedCtx && type != 44 && type != 0xff01 && type != 18
    && !extflags.contains i
    && !(ctx.meets sslExtTls12ServerHello && type == 0xfde8)

/-- One item of the block. -/
def collectOne (extflags : List Nat) (ctx : ExtCtx) (raw : RawExts) (t : Tlv) :
    Except Fault RawExts :=
  match verifyExtension ctx t.type with
  | none => .error (.illegalParameter, .badExtension)
  | some none =>
    -- The pre-shared key extension is known, so the check on its place is below.
    .ok raw
  | some (some i) =>
    if (raw.lookup i).isSome then .error (.illegalParameter, .badExtension)
    else if t.type = 41 ∧ ctx.meets sslExtClientHello ∧ t.rest ≠ [] then
      .error (.illegalParameter, .badExtension)
    else if isUnsolicited extflags ctx t.type i then
      .error (.unsupportedExtension, .unsolicitedExtension)
    else .ok ((i, t.body) :: raw)

/-- All items of the block, up to the first that is refused. -/
def collectItems (extflags : List Nat) (ctx : ExtCtx) (raw : RawExts) :
    List Tlv → Except Fault RawExts
  | [] => .ok raw
  | t :: ts =>
    match collectOne extflags ctx raw t with
    | .error e => .error e
    | .ok raw' => collectItems extflags ctx raw' ts

/-- The items of a block and the framing error that may end it. -/
def collectBlock (extflags : List Nat) (ctx : ExtCtx) (block : Bytes) : Except Fault RawExts :=
  match collectItems extflags ctx [] (tlvs block.length block).1 with
  | .error e => .error e
  | .ok raw =>
    if (tlvs block.length block).2 then .ok raw else .error (.decodeError, .badExtension)

/-- The initialiser of one row. -/
def initExtension (env : Env ω) (ctx : ExtCtx) (r : ExtDef × Nat) : Call (SSL ω) := fun s =>
  if r.1.context.meets ctx && extensionIsRelevant env s r.1.context ctx then
    if r.2 = tlsextIdxPostHandshakeAuth then some (true, { s with postHandshakeAuth := .none })
    else runOther (fun _ o => env.extInit r.2 ctx o) s
  else some (true, s)

/-- `tls_collect_extensions`: what was found, if nothing was wrong with it. -/
def tlsCollectExtensions (env : Env ω) (block : Bytes) (ctx : ExtCtx) (init : Bool)
    (s : SSL ω) : Option (Option RawExts × SSL ω) :=
  match collectBlock s.extflags ctx block with
  | .error (al, reason) => some (none, sslFatal al reason s)
  | .ok raw =>
    match (if init then Call.each (initExtension env ctx) extRows else Call.ret id) s with
    | none => none
    | some (false, s') => some (none, s')
    | some (true, s') => some (some raw, s')

/-- Collect a block and go on with what was found. -/
def collecting (env : Env ω) (block : Bytes) (ctx : ExtCtx) (init : Bool)
    (k : RawExts → Call (SSL ω)) : Call (SSL ω) := fun s =>
  match tlsCollectExtensions env block ctx init s with
  | none => none
  | some (none, s') => some (false, s')
  | some (some raw, s') => k raw s'

/-- `tls_validate_all_contexts`. -/
def tlsValidateAllContexts (ctx : ExtCtx) (raw : RawExts) : Bool :=
  extRows.all (fun r => (raw.lookup r.2).isNone || validateContext r.1.context ctx)

/-- `tls_parse_ctos_post_handshake_auth`. -/
def tlsParseCtosPostHandshakeAuth (body : Bytes) : Call (SSL ω) := fun s =>
  if body ≠ [] then sslFail .decodeError .postHandshakeAuthEncodingErr s
  else some (true, { s with postHandshakeAuth := .extReceived })

/-- The parser of one row on this side. -/
def extParser (env : Env ω) (ctx : ExtCtx) (chainidx i : Nat) (body : Bytes) : Call (SSL ω) :=
  fun s =>
    if i = tlsextIdxSrvType then
      (if s.server then tlsParseCtosSrvTypeExt body else tlsParseStocSrvTypeExt body) s
    else if i = tlsextIdxClntType then
      (if s.server then tlsParseCtosClntTypeExt body else tlsParseStocClntTypeExt body) s
    else if i = tlsextIdxPostHandshakeAuth then
      if s.server then tlsParseCtosPostHandshakeAuth body s else some (true, s)
    else runOther (env.extParse i ctx chainidx body) s

/-- `tls_parse_extension`: nothing to do for one that is absent or that does not
    apply to the version. -/
def tlsParseExtension (env : Env ω) (ctx : ExtCtx) (raw : RawExts) (chainidx : Nat)
    (r : ExtDef × Nat) : Call (SSL ω) := fun s =>
  match raw.lookup r.2 with
  | none => some (true, s)
  | some body =>
    if extensionIsRelevant env s r.1.context ctx then extParser env ctx chainidx r.2 body s
    else some (true, s)

/-- `final_key_share`. A server without a usable key share asks for another one
    once; a server that has one does not ask any more. What it does for
    `SSL_stateless`, which is not called, is left out. -/
def finalKeyShare (env : Env ω) (ctx : ExtCtx) (sent : Bool) : Call (SSL ω) := fun s =>
  let rest := env.rest s.other
  if !s.tls13 || ctx.meets sslExtTls13HelloRetryRequest then some (true, s)
  else if !s.server then
    if !sent && rest.keyShareRequired then sslFail .missingExtension .noSuitableKeyShare s
    else if !sent then runPhase env .handshakeSecret [] s
    else some (true, s)
  else if !rest.suitableKeyShare && s.helloRetryRequest = .none && sent && rest.keyShareRetry then
    some (true, { s with helloRetryRequest := .pending })
  else if !rest.suitableKeyShare && rest.keyShareRequired then
    sslFail (if sent then .handshakeFailure else .missingExtension) .noSuitableKeyShare s
  else if s.helloRetryRequest = .pending then
    some (true, { s with helloRetryRequest := .complete })
  else some (true, s)

/-- The finaliser of one row. -/
def finalExtension (env : Env ω) (ctx : ExtCtx) (raw : RawExts) (r : ExtDef × Nat) :
    Call (SSL ω) := fun s =>
  if r.1.context.meets ctx then
    if r.2 = tlsextIdxKeyShare then finalKeyShare env ctx (raw.lookup r.2).isSome s
    else runOther (env.extFinal r.2 ctx (raw.lookup r.2).isSome) s
  else some (true, s)

/-- `tls_parse_all_extensions`. -/
def tlsParseAllExtensions (env : Env ω) (ctx : ExtCtx) (raw : RawExts) (chainidx : Nat)
    (fin : Bool) : Call (SSL ω) :=
  Call.seq (Call.each (tlsParseExtension env ctx raw chainidx) extRows)
    (if fin then Call.each (finalExtension env ctx raw) extRows else Call.ret id)

/-- `should_add_extension`. -/
def shouldAddExtension (env : Env ω) (s : SSL ω) (extctx thisctx : ExtCtx) : Bool :=
  extctx.meets thisctx && extensionIsRelevant env s extctx thisctx

/-- The constructor of one row on this side. -/
def extConstructor (env : Env ω) (ctx : ExtCtx) (chainidx i : Nat) (s : SSL ω) :
    ExtReturn × SSL ω :=
  if i = tlsextIdxSrvType then
    if s.server then tlsConstructStocSrvTypeExt s else tlsConstructCtosSrvTypeExt s
  else if i = tlsextIdxClntType then
    if s.server then tlsConstructStocClntTypeExt s else tlsConstructCtosClntTypeExt s
  else if i = tlsextIdxPostHandshakeAuth then
    if s.server || !(env.rest s.other).phaEnabled then (.notSent, s)
    else (.sent [], { s with postHandshakeAuth := .extSent })
  else
    match env.extConstruct i ctx chainidx s.trace s.other with
    | .error (al, reason) => (.fail, sslFatal al reason s)
    | .ok (none, o) => (.notSent, { s with other := o })
    | .ok (some body, o) => (.sent body, { s with other := o })

/-- Remember that an extension was sent, in the messages an answer refers to. -/
def markSent (ctx : ExtCtx) (i : Nat) (s : SSL ω) : SSL ω :=
  if ctx.meets unaskedCtx then { s with extflags := i :: s.extflags } else s

/-- Write the extensions of the rows, up to the first that fails. -/
def constructRows (env : Env ω) (ctx : ExtCtx) (chainidx : Nat) :
    List (ExtDef × Nat) → SSL ω → Option (List (Nat × Bytes)) × SSL ω
  | [], s => (some [], s)
  | r :: rs, s =>
    if shouldAddExtension env s r.1.context ctx then
      match extConstructor env ctx chainidx r.2 s with
      | (.fail, s') => (none, s')
      | (.notSent, s') => constructRows env ctx chainidx rs s'
      | (.sent body, s') =>
        match constructRows env ctx chainidx rs (markSent ctx r.2 s') with
        | (none, s'') => (none, s'')
        | (some l, s'') => (some ((r.1.type, body) :: l), s'')
    else constructRows env ctx chainidx rs s

/-- `tls_construct_extensions`: the block, without the length in front of it. -/
def tlsConstructExtensions (env : Env ω) (ctx : ExtCtx) (chainidx : Nat) (s : SSL ω) :
    Option Bytes × SSL ω :=
  match constructRows env ctx chainidx extRows s with
  | (none, s') => (none, s')
  | (some items, s') =>
    match putTlvs items with
    | none => (none, sslFatal .internalError .internalError s')
    | some enc =>
      if enc.length < 256 ^ 2 then (some enc, s')
      else (none, sslFatal .internalError .internalError s')

section Frames

variable (env : Env ω)

theorem touches_initExtension (ctx : ExtCtx) (r : ExtDef × Nat) :
    Call.Rel (Touches [.pha, .other]) (initExtension env ctx r) := by
  intro s b t h
  unfold initExtension at h
  split at h
  · split at h
    · refine touches_some ?_ h
      exact touches_update (by constructor <;> intros <;> first | contradiction | rfl) rfl rfl
    · exact touches_mono (by decide) (touches_runOther _ s b t h)
  · exact touches_same h

/-- Collecting touches what the initialisers touch. -/
theorem touches_tlsCollectExtensions {block : Bytes} {ctx : ExtCtx} {init : Bool} {s t : SSL ω}
    {res : Option RawExts} (h : tlsCollectExtensions env block ctx init s = some (res, t)) :
    Touches [.pha, .other] s res.isSome t := by
  have hinit : Call.Rel (Touches [.pha, .other])
      (if init then Call.each (initExtension env ctx) extRows else Call.ret id) := by
    split
    · exact touches_each extRows (fun r _ => touches_initExtension env ctx r)
    · exact Call.rel_ret (fun s => touches_refl _ s true)
  unfold tlsCollectExtensions at h
  split at h
  · simp only [Option.some.injEq, Prod.mk.injEq] at h
    rw [← h.1, ← h.2]
    exact touches_sslFatal _ _ _ s
  · split at h
    · exact absurd h (by simp only [reduceCtorEq, not_false_eq_true])
    · rename_i s' hs
      simp only [Option.some.injEq, Prod.mk.injEq] at h
      rw [← h.1, ← h.2]
      exact hinit s false s' hs
    · rename_i s' hs
      simp only [Option.some.injEq, Prod.mk.injEq] at h
      rw [← h.1, ← h.2]
      exact hinit s true s' hs

/-- What was collected is a property of the block and of what was asked for. -/
theorem tlsCollectExtensions_some {block : Bytes} {ctx : ExtCtx} {init : Bool} {s t : SSL ω}
    {raw : RawExts} (h : tlsCollectExtensions env block ctx init s = some (some raw, t)) :
    collectBlock s.extflags ctx block = .ok raw := by
  unfold tlsCollectExtensions at h
  split at h
  · exact absurd h (by simp only [Option.some.injEq, Prod.mk.injEq, reduceCtorEq, false_and,
      not_false_eq_true])
  · rename_i raw' hraw
    split at h
    · exact absurd h (by simp only [reduceCtorEq, not_false_eq_true])
    · exact absurd h (by simp only [Option.some.injEq, Prod.mk.injEq, reduceCtorEq, false_and,
        not_false_eq_true])
    · simp only [Option.some.injEq, Prod.mk.injEq] at h
      rw [hraw, h.1]

/-- Collecting and going on is related as going on with an accepted block is, for a
    relation that takes in what the initialisers touch. -/
theorem rel_collecting {R : SSL ω → Bool → SSL ω → Prop} {block : Bytes} {ctx : ExtCtx}
    {init : Bool} {k : RawExts → Call (SSL ω)}
    (htr : ∀ s t b u, R s true t → R t b u → R s b u)
    (hR : ∀ s b t, Touches [.pha, .other] s b t → R s b t)
    (hk : ∀ flags raw, collectBlock flags ctx block = .ok raw → Call.Rel R (k raw)) :
    Call.Rel R (collecting env block ctx init k) := by
  intro s b t h
  unfold collecting at h
  split at h
  · exact absurd h (by simp only [reduceCtorEq, not_false_eq_true])
  · rename_i s' hc
    simp only [Option.some.injEq, Prod.mk.injEq] at h
    rw [← h.1, ← h.2]
    exact hR s _ s' (touches_tlsCollectExtensions env hc)
  · rename_i raw s' hc
    exact htr s s' b t (hR s true s' (touches_tlsCollectExtensions env hc))
      (hk _ raw (tlsCollectExtensions_some env hc) s' b t h)

/-- A successful collection and what followed it. -/
theorem collecting_true {block : Bytes} {ctx : ExtCtx} {init : Bool}
    {k : RawExts → Call (SSL ω)} {s t : SSL ω}
    (h : collecting env block ctx init k s = some (true, t)) :
    ∃ raw u, collectBlock s.extflags ctx block = .ok raw ∧ Touches [.pha, .other] s true u ∧
      k raw u = some (true, t) := by
  unfold collecting at h
  split at h
  · exact absurd h (by simp only [reduceCtorEq, not_false_eq_true])
  · simp only [Option.some.injEq, Prod.mk.injEq, Bool.false_eq_true, false_and] at h
  · rename_i raw u hc
    exact ⟨raw, u, tlsCollectExtensions_some env hc, touches_tlsCollectExtensions env hc, h⟩

/-- The extensions other than the certificate types decide nothing. -/
theorem touches_extParser_rest (ctx : ExtCtx) (chainidx i : Nat) (body : Bytes) (hi : 2 ≤ i) :
    Call.Rel (Touches [.pha, .other]) (extParser env ctx chainidx i body) := by
  intro s b t h
  unfold extParser at h
  rw [if_neg (by simp only [tlsextIdxSrvType]; omega),
    if_neg (by simp only [tlsextIdxClntType]; omega)] at h
  split at h
  · split at h
    · unfold tlsParseCtosPostHandshakeAuth at h
      split at h
      · exact touches_sslFail _ _ _ s b t h
      · refine touches_some ?_ h
        exact touches_update (by constructor <;> intros <;> first | contradiction | rfl) rfl rfl
    · exact touches_same h
  · exact touches_mono (by decide) (touches_runOther _ s b t h)

theorem touches_extParser (ctx : ExtCtx) (chainidx i : Nat) (body : Bytes) :
    Call.Rel (Touches [.decided, .verifyMode, .pha, .other])
      (extParser env ctx chainidx i body) := by
  intro s b t h
  by_cases hi : 2 ≤ i
  · exact touches_mono (by decide) (touches_extParser_rest env ctx chainidx i body hi s b t h)
  · unfold extParser at h
    split at h
    · split at h
      · exact touches_mono (by decide) (touches_tlsParseCtosCertTypeExt .srv body s b t h)
      · exact touches_mono (by decide) (touches_tlsParseStocCertTypeExt .srv body s b t h)
    · rename_i h0
      rw [if_pos (by simp only [tlsextIdxSrvType] at h0; simp only [tlsextIdxClntType]; omega)]
        at h
      split at h
      · exact touches_mono (by decide) (touches_tlsParseCtosClntTypeExt body s b t h)
      · exact touches_mono (by decide) (touches_tlsParseStocCertTypeExt .clnt body s b t h)

/-- Parsing one row touches what its parser touches. -/
theorem touches_tlsParseExtension {fs : List Field} (ctx : ExtCtx) (raw : RawExts)
    (chainidx : Nat) (r : ExtDef × Nat)
    (hp : ∀ body, Call.Rel (Touches fs) (extParser env ctx chainidx r.2 body)) :
    Call.Rel (Touches fs) (tlsParseExtension env ctx raw chainidx r) := by
  intro s b t h
  unfold tlsParseExtension at h
  split at h
  · exact touches_same h
  · rename_i body hb
    split at h
    · exact hp body s b t h
    · exact touches_same h

theorem touches_finalKeyShare (ctx : ExtCtx) (sent : Bool) :
    Call.Rel (Touches [.hrr, .other]) (finalKeyShare env ctx sent) := by
  intro s b t h
  -- The finaliser only moves the state of the retry.
  have hset : ∀ v, Touches [.hrr, .other] s true { s with helloRetryRequest := v } := by
    intro v
    exact touches_update (by constructor <;> intros <;> first | contradiction | rfl) rfl rfl
  simp only [finalKeyShare] at h
  split at h
  · exact touches_same h
  · split at h
    · split at h
      · exact touches_sslFail _ _ _ s b t h
      · split at h
        · exact touches_mono (by decide) (touches_runOther _ s b t h)
        · exact touches_same h
    · split at h
      · exact touches_some (hset _) h
      · split at h
        · exact touches_sslFail _ _ _ s b t h
        · split at h
          · exact touches_some (hset _) h
          · exact touches_same h

theorem touches_finalExtension (ctx : ExtCtx) (raw : RawExts) (r : ExtDef × Nat) :
    Call.Rel (Touches [.hrr, .other]) (finalExtension env ctx raw r) := by
  intro s b t h
  unfold finalExtension at h
  split at h
  · split at h
    · exact touches_finalKeyShare env ctx _ s b t h
    · exact touches_mono (by decide) (touches_runOther _ s b t h)
  · exact touches_same h

theorem touches_finals (ctx : ExtCtx) (raw : RawExts) (fin : Bool) :
    Call.Rel (Touches [.hrr, .other])
      (if fin then Call.each (finalExtension env ctx raw) extRows else Call.ret id) := by
  split
  · exact touches_each extRows (fun r _ => touches_finalExtension env ctx raw r)
  · exact Call.rel_ret (fun s => touches_refl _ s true)

theorem touches_tlsParseAllExtensions (ctx : ExtCtx) (raw : RawExts) (chainidx : Nat)
    (fin : Bool) :
    Call.Rel (Touches [.decided, .verifyMode, .pha, .hrr, .other])
      (tlsParseAllExtensions env ctx raw chainidx fin) := by
  refine touches_seq ?_ (touches_weaken (by decide) (touches_finals env ctx raw fin))
  refine touches_weaken (by decide : [Field.decided, .verifyMode, .pha, .other] ⊆ _) ?_
  exact touches_each extRows (fun r _ =>
    touches_tlsParseExtension env ctx raw chainidx r (touches_extParser env ctx chainidx r.2))

end Frames

end Iso21177
