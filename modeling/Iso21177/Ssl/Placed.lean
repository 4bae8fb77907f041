import Iso21177.Ssl.CertMemory
import Iso21177.Ssl.PeerBinding

/-!
# Where There Is a Session

Most of a handshake runs with a session and in TLS 1.3. The exceptions are few. Before the
first message there may be no session, and no version is chosen until the answer to the
ClientHello; a server gives its session up with a HelloRetryRequest and has none until
the next ClientHello (`Placed`). Every step keeps it so, as long as no other version can be
chosen and no handshake is renegotiated (`OnlyTls13`).

So wherever a Certificate or a CertificateVerify is read there is a session to read it
into, and where a client reads a CertificateVerify the session has a peer.

## Main definitions

* `OnlyTls13`: No other version, and no renegotiation.
* `Retains`, `Retaining`: What reading a hello keeps of session and references.
* `SSL.Unversioned`, `SSL.Sessionless`: Where no version is chosen, and where there need not
  be a session.
* `Placed`: Where there is a session, a peer and a version.
* `MsgFlow.going`: A handshake that goes on or is over.

## Theorems

* `retains_trans`, `retains_of_touches`, `retains_rel`, `retains_seq`, `backed_fresh`,
  `retains_fresh`: Calls in general.
* `retains_runPhase`, `serverSession_opens`, `retains_renewSession`, `retains_parse`,
  `retains_collecting`, `retains_chooseVersion`, `retains_serverHelloIn`: The parts of a hello.
* `retains_tlsProcessClientHello`, `retains_tlsProcessServerHello`: Reading a hello.
* `chooseVersion_tls13`, `clientHello_opens`, `serverHello_version`,
  `helloRetryRequest_pending`: What a hello that was accepted leaves.
* `readTransition_placed`, `writeTransition_unversioned`, `writeTransition_sessionless`,
  `writeTransition_finished_unversioned`: Where a transition leads.
* `session_tlsConstructClientHello`, `session_tlsConstructServerHello`,
  `session_constructMessage`, `clientSession_cases`, `clientSession_ne_none`,
  `backed_constructMessage`, `constructMessage_state`: Writing.
-/

namespace Iso21177

variable {ω : Type}

/-- Peers that speak another version are refused, and no handshake is renegotiated. -/
structure OnlyTls13 (env : Env ω) : Prop where
  version : ∀ server head raw tr o v o', env.version server head raw tr o = .ok (v, o') → v = true
  renegotiate : ∀ o, (env.rest o).renegotiate = false

/-- References stay backed, and a session stays one. -/
structure Retains (s t : SSL ω) : Prop where
  backed : s.Backed → t.Backed
  session : s.session ≠ none → t.session ≠ none

theorem retains_trans {s t u : SSL ω} (hst : Retains s t) (htu : Retains t u) : Retains s u where
  backed hs := htu.backed (hst.backed hs)
  session hs := htu.session (hst.session hs)

theorem retains_of_touches {fs : List Field} {s t : SSL ω} {b : Bool} (h : Touches fs s b t)
    (hheap : .heap ∉ fs) (hsess : .session ∉ fs) : Retains s t where
  backed hs := backed_of_touches hs h hheap hsess
  session hs := by rw [h.session hsess]; exact hs

/-- A call that keeps references backed and sessions in place. -/
abbrev Retaining (c : Call (SSL ω)) : Prop := Call.Rel (fun s _ t => Retains s t) c

theorem retains_rel {fs : List Field} {c : Call (SSL ω)} (hc : Call.Rel (Touches fs) c)
    (hheap : .heap ∉ fs) (hsess : .session ∉ fs) : Retaining c :=
  fun s b t h => retains_of_touches (hc s b t h) hheap hsess

theorem retains_seq {c d : Call (SSL ω)} (hc : Retaining c) (hd : Retaining d) :
    Retaining (Call.seq c d) :=
  Call.rel_seq (R := fun s _ t => Retains s t) (fun _ _ _ _ hst htu => retains_trans hst htu) hc hd

/-- A session without certificates holds nothing. -/
theorem backed_fresh (s : SSL ω) : ({ s with session := some Session.fresh } : SSL ω).Backed :=
  Heap.backs_nil s.heap

theorem retains_fresh (s : SSL ω) : Retains s { s with session := some Session.fresh } where
  backed _ := backed_fresh s
  session _ := Option.some_ne_none _

section Hellos

variable (env : Env ω)

theorem retains_runPhase (p : Phase) (body : Bytes) : Retaining (runPhase env p body) :=
  retains_rel (touches_runOther _) (by decide) (by decide)

/-- The server's session: its peer, if it was cached, is a new object. -/
theorem serverSession_opens (s : SSL ω) :
    Retains s (serverSession env s) ∧ (serverSession env s).session ≠ none := by
  unfold serverSession
  split
  · split
    · exact ⟨retains_fresh s, Option.some_ne_none _⟩
    · rename_i x _
      refine ⟨⟨fun _ => ?_, fun _ => Option.some_ne_none _⟩, Option.some_ne_none _⟩
      exact Heap.backs_alloc env.allocator (Heap.backs_nil s.heap) x
  · exact ⟨retains_fresh s, Option.some_ne_none _⟩

theorem retains_renewSession (s : SSL ω) : Retains s (renewSession env s) := by
  unfold renewSession
  split
  · exact retains_fresh s
  · exact retains_of_touches (touches_refl [] s true) List.not_mem_nil List.not_mem_nil

theorem retains_parse (ctx : ExtCtx) (raw : RawExts) (chainidx : Nat) (fin : Bool) :
    Retaining (tlsParseAllExtensions env ctx raw chainidx fin) :=
  retains_rel (touches_tlsParseAllExtensions env ctx raw chainidx fin) (by decide) (by decide)

/-- Collecting a block of extensions and going on. -/
theorem retains_collecting {block : Bytes} {ctx : ExtCtx} {init : Bool}
    {k : RawExts → Call (SSL ω)} (hk : ∀ raw, Retaining (k raw)) :
    Retaining (collecting env block ctx init k) :=
  rel_collecting (R := fun s _ t => Retains s t) env (fun _ _ _ _ hst htu => retains_trans hst htu)
    (fun _ _ _ h => retains_of_touches h (by decide) (by decide)) (fun _ raw _ => hk raw)

theorem retains_chooseVersion (wrong : Alert × Reason) (head : Bytes) (raw : RawExts) :
    Retaining (chooseVersion env wrong head raw) :=
  retains_rel (touches_chooseVersion env wrong head raw) (by decide) (by decide)

theorem retains_tlsProcessClientHello (head exts : Bytes) :
    Retaining (tlsProcessClientHello env head exts) := by
  refine retains_seq (retains_runPhase env _ _) (retains_collecting env (fun raw => ?_))
  refine retains_seq (retains_chooseVersion env _ _ _) (retains_seq (retains_runPhase env _ _) ?_)
  refine retains_seq (Call.rel_ret (fun s => (serverSession_opens env s).1)) ?_
  exact retains_seq (retains_parse env _ _ _ _) (retains_runPhase env _ _)

theorem retains_serverHelloIn (ctx : ExtCtx) (head : Bytes) (raw : RawExts) :
    Retaining (serverHelloIn env ctx head raw) := by
  intro s b t h
  unfold serverHelloIn at h
  split at h
  · refine retains_seq (retains_runPhase env _ _) ?_ s b t h
    refine retains_seq (Call.rel_ret (retains_renewSession env)) ?_
    exact retains_seq (retains_parse env _ _ _ _) (retains_runPhase env _ _)
  · exact retains_of_touches (touches_sslFail [] _ _ s b t h) List.not_mem_nil List.not_mem_nil

theorem retains_tlsProcessServerHello (hrr : Bool) (head exts : Bytes) :
    Retaining (tlsProcessServerHello env hrr head exts) := by
  cases hrr with
  | true => exact retains_rel (touches_helloRetryRequest env head exts) (by decide) (by decide)
  | false =>
      intro s b t h
      simp only [tlsProcessServerHello, Bool.false_eq_true, if_false] at h
      refine retains_seq (retains_runPhase env _ _) (retains_collecting env (fun raw => ?_)) s b t h
      exact retains_seq (retains_chooseVersion env _ _ _)
        (fun s b t h => retains_serverHelloIn env _ head raw s b t h)

variable {env}

theorem chooseVersion_tls13 (henv : OnlyTls13 env) {wrong : Alert × Reason} {head : Bytes}
    {raw : RawExts} {s t : SSL ω} (h : chooseVersion env wrong head raw s = some (true, t)) :
    t.tls13 = true := by
  unfold chooseVersion at h
  split at h
  · exact absurd h (sslFail_ne_true _ _ _ _)
  · rename_i v o hv
    split at h
    · exact absurd h (sslFail_ne_true _ _ _ _)
    · rw [← (Prod.mk.inj (Option.some.inj h)).2]
      exact henv.version _ _ _ _ _ v o hv

/-- A ClientHello that was accepted opens a session in TLS 1.3. -/
theorem clientHello_opens (henv : OnlyTls13 env) {head exts : Bytes} {s t : SSL ω}
    (h : tlsProcessClientHello env head exts s = some (true, t)) :
    t.tls13 = true ∧ t.session ≠ none := by
  rcases Call.seq_true.mp h with ⟨s1, -, h⟩
  rcases collecting_true env h with ⟨raw, s2, -, -, h⟩
  rcases Call.seq_true.mp h with ⟨s3, hver, h⟩
  rcases Call.seq_true.mp h with ⟨s4, hbefore, h⟩
  rcases Call.seq_true.mp h with ⟨s5, hsess, h⟩
  rcases Call.seq_true.mp h with ⟨v, hparse, hafter⟩
  have h4 := touches_runOther _ s3 true s4 hbefore
  have hv := touches_tlsParseAllExtensions env _ raw 0 true s5 true v hparse
  have ht := touches_runOther _ v true t hafter
  have h5 : s5 = serverSession env s4 := (Prod.mk.inj (Option.some.inj hsess)).2.symm
  constructor
  · rw [ht.tls13 (by decide), hv.tls13 (by decide), h5,
      (touches_serverSession env s4).tls13 (by decide), h4.tls13 (by decide)]
    exact chooseVersion_tls13 henv hver
  · rw [ht.session (by decide), hv.session (by decide), h5]
    exact (serverSession_opens env s4).2

theorem serverHello_version (henv : OnlyTls13 env) {head exts : Bytes} {s t : SSL ω}
    (h : tlsProcessServerHello env false head exts s = some (true, t)) : t.tls13 = true := by
  simp only [tlsProcessServerHello, Bool.false_eq_true, if_false] at h
  rcases Call.seq_true.mp h with ⟨s1, -, h⟩
  rcases collecting_true env h with ⟨raw, s2, -, -, h⟩
  rcases Call.seq_true.mp h with ⟨s3, hver, h⟩
  have h3 := chooseVersion_tls13 henv hver
  generalize (if s3.tls13 = true then sslExtTls13ServerHello else sslExtTls12ServerHello) = ctx
    at h
  unfold serverHelloIn at h
  split at h
  · rcases Call.seq_true.mp h with ⟨s4, hsess, h⟩
    rcases Call.seq_true.mp h with ⟨s5, hrenew, h⟩
    rcases Call.seq_true.mp h with ⟨v, hparse, hafter⟩
    have h5 : s5 = renewSession env s4 := (Prod.mk.inj (Option.some.inj hrenew)).2.symm
    rw [(touches_runOther _ v true t hafter).tls13 (by decide),
      (touches_tlsParseAllExtensions env ctx raw 0 true s5 true v hparse).tls13 (by decide), h5,
      (touches_renewSession env s4).tls13 (by decide),
      (touches_runOther _ s3 true s4 hsess).tls13 (by decide)]
    exact h3
  · exact absurd h (sslFail_ne_true _ _ _ _)

/-- After a HelloRetryRequest that was accepted the next ClientHello is still to come. -/
theorem helloRetryRequest_pending {head exts : Bytes} {s t : SSL ω}
    (h : tlsProcessServerHello env true head exts s = some (true, t)) :
    t.helloRetryRequest = .pending := by
  simp only [tlsProcessServerHello, if_true] at h
  split at h
  · exact absurd h (sslFail_ne_true _ _ _ _)
  · have ht := touches_seq (touches_runPhase env _ _ (by decide))
      (touches_tlsProcessAsHelloRetryRequest env exts) _ true t h
    rw [ht.hrr (by decide)]

end Hellos

/-- No version is chosen: before the first message, after the client's hello, or once it
    was sent back to write another one. -/
def SSL.Unversioned (s : SSL ω) : Prop :=
  s.statem.handState = .before ∧ (s.server = false → s.statem.state ≠ .reading) ∨
  s.server = false ∧ s.statem.handState = .cwClntHello ∨
  s.server = false ∧ s.helloRetryRequest = .pending ∧ s.statem.state = .writing ∧
    (s.statem.handState = .crSrvrHello ∨ s.statem.handState = .cwChange)

/-- There need be no session: before the first message, or on a server that sent the client
    back. -/
def SSL.Sessionless (s : SSL ω) : Prop :=
  s.statem.handState = .before ∨
  s.server = true ∧ s.helloRetryRequest = .pending ∧ (s.statem.handState = .swSrvrHello ∨
    s.statem.handState = .swChange ∨ s.statem.handState = .earlyData)

/-- Where there is a session, a peer and a version. -/
structure Placed (s : SSL ω) : Prop where
  session : s.session = none → s.Sessionless
  peer : s.statem.handState = .crCert → s.session.bind Session.peer ≠ none
  version : s.tls13 = false → s.Unversioned
  fresh : s.statem.handState = .before → s.helloRetryRequest = .none

/-- Messages are read or written, or the handshake is over. -/
def MsgFlow.going : MsgFlow → Bool
  | .reading | .writing | .finished => true
  | .uninited | .error => false

section Transitions

variable {env : Env ω}

/-- What is read without a session opens one, and what is read without a version chooses
    one. -/
theorem readTransition_placed {s : SSL ω} {mt : MsgType} {st : HandState} (hs : Placed s)
    (hflow : s.statem.state = .reading) (h : readTransition env s mt = some st) :
    st = .srClntHello ∨ s.session ≠ none ∧ (s.tls13 = true ∨ st = .crSrvrHello) := by
  cases h13 : s.tls13 with
  | false =>
      rcases hs.version h13 with ⟨hst, hread⟩ | ⟨hsv, hst⟩ | ⟨-, -, hw, -⟩
      · -- Before the first message only a server reads.
        cases hsv : s.server with
        | false => exact absurd hflow (hread hsv)
        | true =>
            simp only [readTransition, h13, hsv, hst, Bool.false_eq_true, if_false] at h
            split at h
            · exact Or.inl (Option.some.inj h).symm
            · exact absurd h (by simp only [reduceCtorEq, not_false_eq_true])
      · refine Or.inr ⟨fun hnone => ?_, Or.inr ?_⟩
        · rcases hs.session hnone with hb | ⟨hsv', -⟩
          · exact absurd (hst.symm.trans hb) HandState.noConfusion
          · exact absurd (hsv.symm.trans hsv') Bool.noConfusion
        · simp only [readTransition, h13, hsv, hst, Bool.false_eq_true, if_false] at h
          split at h
          · exact (Option.some.inj h).symm
          · exact absurd h (by simp only [reduceCtorEq, not_false_eq_true])
      · exact absurd (hflow.symm.trans hw) MsgFlow.noConfusion
  | true =>
      by_cases hsess : s.session = none
      · refine Or.inl ?_
        rcases hs.session hsess with hst | ⟨hsv, hp, hst⟩
        · cases hsv : s.server <;>
            simp only [readTransition, h13, hsv, hst, server13ReadTransition,
              client13ReadTransition, if_true, Bool.false_eq_true, if_false, reduceCtorEq] at h
        · -- A server that sent the client back waits for its next hello.
          rcases hst with hst | hst | hst <;>
            simp only [readTransition, h13, hsv, hst, hp, server13ReadTransition, if_true,
              reduceCtorEq] at h
          split at h
          · exact (Option.some.inj h).symm
          · exact absurd h (by simp only [reduceCtorEq, not_false_eq_true])
      · exact Or.inr ⟨hsess, Or.inl rfl⟩

/-- What is written without a version leads to a ClientHello. -/
theorem writeTransition_unversioned {s : SSL ω} {st : HandState} (hs : Placed s)
    (h13 : s.tls13 = false) (h : writeTransition env s = .next st) :
    s.server = false ∧ (st = .cwClntHello ∨ st = .cwChange ∧ s.helloRetryRequest = .pending) := by
  rcases hs.version h13 with ⟨hst, -⟩ | ⟨hsv, hst⟩ | ⟨hsv, hp, -, hst⟩
  · cases hsv : s.server with
    | true => simp only [writeTransition, h13, hsv, hst, Bool.false_eq_true, if_false,
        reduceCtorEq] at h
    | false =>
        simp only [writeTransition, h13, hsv, hst, Bool.false_eq_true, if_false,
          WriteTran.next.injEq] at h
        exact ⟨rfl, Or.inl h.symm⟩
  · simp only [writeTransition, h13, hsv, hst, Bool.false_eq_true, if_false, reduceCtorEq] at h
  · refine ⟨hsv, ?_⟩
    rcases hst with hst | hst
    · simp only [writeTransition, h13, hsv, hst, Bool.false_eq_true, if_false,
        WriteTran.next.injEq] at h
      split at h
      · exact Or.inr ⟨h.symm, hp⟩
      · exact Or.inl h.symm
    · simp only [writeTransition, h13, hsv, hst, hp, Bool.false_eq_true, if_false, if_true,
        WriteTran.next.injEq] at h
      exact Or.inl h.symm

/-- What is written without a session is the first ClientHello, or goes on from a
    HelloRetryRequest. -/
theorem writeTransition_sessionless {s : SSL ω} {st : HandState} (hs : Placed s)
    (hsess : s.session = none) (h : writeTransition env s = .next st) :
    s.server = false ∧ s.helloRetryRequest = .none ∧ st = .cwClntHello ∨
      s.server = true ∧ s.helloRetryRequest = .pending ∧ (st = .swChange ∨ st = .earlyData) := by
  cases h13 : s.tls13 with
  | false =>
      rcases writeTransition_unversioned hs h13 h with ⟨hsv, hst⟩
      rcases hs.session hsess with hb | ⟨hsv', -⟩
      · refine Or.inl ⟨hsv, hs.fresh hb, ?_⟩
        rcases hst with hst | ⟨-, hp⟩
        · exact hst
        · exact absurd ((hs.fresh hb).symm.trans hp) HrrState.noConfusion
      · exact absurd (hsv.symm.trans hsv') Bool.noConfusion
  | true =>
      rcases hs.session hsess with hst | ⟨hsv, hp, hst⟩
      · cases hsv : s.server <;>
          simp only [writeTransition, h13, hsv, hst, server13WriteTransition,
            client13WriteTransition, if_true, Bool.false_eq_true, if_false, reduceCtorEq] at h
      · refine Or.inr ⟨hsv, hp, ?_⟩
        rcases hst with hst | hst | hst
        · simp only [writeTransition, h13, hsv, hst, hp, server13WriteTransition, if_true] at h
          split at h
          · exact Or.inl (WriteTran.next.inj h).symm
          · exact Or.inr (WriteTran.next.inj h).symm
        · simp only [writeTransition, h13, hsv, hst, hp, server13WriteTransition, if_true,
            WriteTran.next.injEq] at h
          exact Or.inr h.symm
        · simp only [writeTransition, h13, hsv, hst, server13WriteTransition, if_true,
            reduceCtorEq] at h

/-- Without a version there is always something left to write, unless the other side is to
    answer. -/
theorem writeTransition_finished_unversioned {s : SSL ω} (hs : Placed s) (h13 : s.tls13 = false)
    (h : writeTransition env s = .finished) :
    s.statem.handState = .before ∧ s.server = true ∨
      s.server = false ∧ s.statem.handState = .cwClntHello := by
  rcases hs.version h13 with ⟨hst, -⟩ | ⟨hsv, hst⟩ | ⟨hsv, hp, -, hst⟩
  · cases hsv : s.server with
    | true => exact Or.inl ⟨hst, rfl⟩
    | false => simp only [writeTransition, h13, hsv, hst, Bool.false_eq_true, if_false,
        reduceCtorEq] at h
  · exact Or.inr ⟨hsv, hst⟩
  · rcases hst with hst | hst
    · simp only [writeTransition, h13, hsv, hst, Bool.false_eq_true, if_false, reduceCtorEq] at h
    · simp only [writeTransition, h13, hsv, hst, hp, Bool.false_eq_true, if_false, if_true,
        reduceCtorEq] at h

end Transitions

section Writing

variable {env : Env ω}

/-- Writing a ClientHello leaves the session that was made for it. -/
theorem session_tlsConstructClientHello {s t : SSL ω} {r : Built}
    (h : tlsConstructClientHello env s = some (r, t)) :
    t.session = (clientSession env s).session := by
  unfold tlsConstructClientHello at h
  split at h
  · exact absurd h (by simp only [reduceCtorEq, not_false_eq_true])
  · rename_i s' hp
    rw [← (Prod.mk.inj (Option.some.inj h)).2]
    exact (touches_runOther _ _ false s' hp).session (by decide)
  · rename_i s' hp
    have hs' := (touches_runOther _ _ true s' hp).session (by decide)
    split at h
    all_goals
      rename_i hc
      rw [← (Prod.mk.inj (Option.some.inj h)).2, ← hs']
      exact (touches_tlsConstructExtensions env _ _ hc).session (by decide)

/-- A ServerHello leaves the session, unless it sends the client back. -/
theorem session_tlsConstructServerHello {s t : SSL ω} {r : Built}
    (h : tlsConstructServerHello env s = some (r, t)) :
    t.session = s.session ∨ t.session = none ∧ s.helloRetryRequest = .pending := by
  simp only [tlsConstructServerHello] at h
  split at h
  · rename_i hc
    rw [← (Prod.mk.inj (Option.some.inj h)).2]
    exact Or.inl ((touches_tlsConstructExtensions env _ _ hc).session (by decide))
  · rename_i exts u hc
    have hu := (touches_tlsConstructExtensions env _ _ hc).session (by decide)
    -- What follows leaves the session as it is by then.
    have hafter : ∀ v : SSL ω, runPhase env (.constructed .swSrvrHello) [] v = some (r.isSome, t) →
        t.session = v.session := fun v hv => (touches_runOther _ _ _ t hv).session (by decide)
    unfold Built.after at h
    by_cases hp : s.helloRetryRequest = .pending
    · refine Or.inr ⟨?_, hp⟩
      simp only [hp, decide_true, if_true] at h
      split at h
      · exact absurd h (by simp only [reduceCtorEq, not_false_eq_true])
      all_goals
        rename_i hv
        rw [← (Prod.mk.inj (Option.some.inj h)).2]
        exact (touches_runOther _ _ _ _ hv).session (by decide)
    · refine Or.inl ?_
      simp only [hp, decide_false, Bool.false_eq_true, if_false] at h
      split at h
      · exact absurd h (by simp only [reduceCtorEq, not_false_eq_true])
      all_goals
        rename_i hv
        rw [← (Prod.mk.inj (Option.some.inj h)).2, ← hu]
        exact (touches_runOther _ _ _ _ hv).session (by decide)

/-- What writing does to the session: a client may take a new one, a server may give its up,
    and otherwise it stays. -/
theorem session_constructMessage {s t : SSL ω} {r : Built}
    (h : constructMessage env s = some (r, t)) :
    t.session = s.session ∨
      s.server = false ∧ s.statem.handState = .cwClntHello ∧
        t.session = (clientSession env s).session ∨
      s.server = true ∧ s.statem.handState = .swSrvrHello ∧ t.session = none ∧
        s.helloRetryRequest = .pending := by
  -- A message whose content is not looked at leaves the session.
  have hplain : constructPlain env s = some (r, t) → t.session = s.session := by
    intro hp
    unfold constructPlain at hp
    split at hp
    · rw [← (Prod.mk.inj (Option.some.inj hp)).2]
      exact (touches_sslFatal [] _ _ s).session List.not_mem_nil
    · exact (touches_after (touches_runOther _) hp).session (by decide)
  unfold constructMessage at h
  split at h
  · rename_i hsv
    unfold serverConstructMessage at h
    split at h
    · rename_i hst
      exact (session_tlsConstructServerHello h).imp_right
        (fun hp => Or.inr ⟨hsv, hst, hp.1, hp.2⟩)
    · exact Or.inl ((touches_tlsConstructEncryptedExtensions env h).session (by decide))
    · exact Or.inl ((touches_tlsConstructCertificateRequest env h).session (by decide))
    · exact Or.inl ((touches_tlsConstructServerCertificate env h).session (by decide))
    · exact Or.inl ((touches_tlsConstructCertVerify env h).session (by decide))
    · exact Or.inl (hplain h)
  · rename_i hsv
    unfold clientConstructMessage at h
    split at h
    · rename_i hst
      exact Or.inr (Or.inl ⟨Bool.not_eq_true _ ▸ hsv, hst, session_tlsConstructClientHello h⟩)
    · exact Or.inl ((touches_tlsConstructClientCertificate env h).session (by decide))
    · exact Or.inl ((touches_tlsConstructCertVerify env h).session (by decide))
    · exact Or.inl (hplain h)

/-- The client's session is the one it had, or a new one without certificates. -/
theorem clientSession_cases (s : SSL ω) :
    (clientSession env s).session = s.session ∨
      (clientSession env s).session = some Session.fresh := by
  unfold clientSession
  split
  · exact Or.inr rfl
  · exact Or.inl rfl

/-- Before a HelloRetryRequest the client's session is there. -/
theorem clientSession_ne_none {s : SSL ω} (h : s.session ≠ none ∨ s.helloRetryRequest = .none) :
    (clientSession env s).session ≠ none := by
  unfold clientSession
  split
  · exact Option.some_ne_none _
  · rename_i hc
    intro hnone
    rcases h with h | h
    · exact h hnone
    · simp only [hnone, h, Option.isNone_none, Bool.true_or, decide_true, Bool.and_true,
        not_true_eq_false] at hc

/-- Writing keeps references backed. -/
theorem backed_constructMessage {s t : SSL ω} {r : Built} (hs : s.Backed)
    (h : constructMessage env s = some (r, t)) : t.Backed := by
  have hheap : t.heap = s.heap := (touches_constructMessage env h).heap (by decide)
  have hnew : ∀ sess : Option Session, t.session = sess →
      (sess = s.session ∨ sess = some Session.fresh ∨ sess = none) → t.Backed := by
    intro sess ht hsess
    rcases hsess with rfl | rfl | rfl
    · exact backed_of_eq hs hheap ht
    · simp only [SSL.Backed, SSL.held, ht]
      exact Heap.backs_nil t.heap
    · simp only [SSL.Backed, SSL.held, ht]
      exact Heap.backs_nil t.heap
  rcases session_constructMessage h with ht | ⟨-, -, ht⟩ | ⟨-, -, ht, -⟩
  · exact hnew _ ht (Or.inl rfl)
  · exact hnew _ ht ((clientSession_cases s).imp_right Or.inl)
  · exact hnew _ ht (Or.inr (Or.inr rfl))

/-- Nothing is written before the first message or where the peer's Certificate was read. -/
theorem constructMessage_state {s t : SSL ω} {m : Msg × Source}
    (h : constructMessage env s = some (some m, t)) :
    s.statem.handState ≠ .before ∧ s.statem.handState ≠ .crCert := by
  constructor <;>
  · intro hst
    cases hsv : s.server <;>
      simp only [constructMessage, hsv, clientConstructMessage, serverConstructMessage, hst,
        constructPlain, plainType, if_true, Bool.false_eq_true, if_false] at h <;>
      exact absurd h (unbuilt_ne _ _ _)

end Writing

end Iso21177
