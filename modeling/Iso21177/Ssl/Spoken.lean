import Iso21177.Ssl.Dialogue

/-!
# What Each State Says and Takes Down

A state of the handshake has one type of message to write (`writtenType`), and what an object
remembers for the dialogue changes with few messages. That a certificate of the client was
asked for is noted where the request is written, and where it is read. Whether a request after
the handshake may still be answered is left alone by the messages, but for the extension with
which a client offers to answer one (`Advertised`, `Settling`). And a ClientHello that is
accepted asks for another one if none was asked for before.

## Main definitions

* `serverMsgType`, `writtenType`: The type of the message of a state.
* `PhaState.settled`: No request is on its way.
* `Advertised`, `Settling`: What writing, and reading, does to that.

## Theorems

* `mt_constructMessage`, `retry_serverHello`: Which message is written.
* `advertised_constructMessage`, `certRequest_constructMessage`: What writing leaves.
* `settling_tlsProcessClientHello`, `settling_tlsProcessServerHello`: What reading leaves.
* `hrr_tlsProcessClientHello`: A retry is asked for once.
* `certReq_processRequest`, `certReq_prepareIfAsked`: A request is noted.
-/

namespace Iso21177

variable {ω : Type}

/-- The type of the message a server writes in a state. -/
def serverMsgType : HandState → Option MsgType
  | .swSrvrHello => some .serverHello
  | .swEncryptedExtensions => some .encryptedExtensions
  | .swCertReq => some .certificateRequest
  | .swCert => some .certificate
  | .swCertVrfy => some .certificateVerify
  | st => plainType st

/-- The type of the message a side writes in a state. -/
def writtenType (server : Bool) (st : HandState) : Option MsgType :=
  if server then serverMsgType st else clientMsgType st

/-- A request after the handshake is not on its way: none was made, or none was heard of. -/
def PhaState.settled : PhaState → Bool
  | .requestPending | .requested => false
  | _ => true

/-- The side stays, and post-handshake authentication too, unless a client offers it. -/
def Advertised (s t : SSL ω) : Prop :=
  t.server = s.server ∧
    (t.postHandshakeAuth = s.postHandshakeAuth ∨
      s.server = false ∧ t.postHandshakeAuth = .extSent)

theorem advertised_refl (s : SSL ω) : Advertised s s := ⟨rfl, Or.inl rfl⟩

/-- One stretch of writing after another. -/
theorem advertised_trans {s t u : SSL ω} (hst : Advertised s t) (htu : Advertised t u) :
    Advertised s u := by
  refine ⟨htu.1.trans hst.1, ?_⟩
  rcases htu.2 with h | ⟨hsv, h⟩
  · rw [h]
    exact hst.2
  · exact Or.inr ⟨hst.1.symm.trans hsv, h⟩

/-- A call that leaves the side and post-handshake authentication alone. -/
theorem advertised_of_touches {fs : List Field} {s t : SSL ω} {b : Bool} (h : Touches fs s b t)
    (hsv : .server ∉ fs) (hpha : .pha ∉ fs) : Advertised s t :=
  ⟨h.server hsv, Or.inl (h.pha hpha)⟩

/-- What is settled stays so while messages are written. -/
theorem settled_of_advertised {s t : SSL ω} (h : Advertised s t)
    (hs : s.postHandshakeAuth.settled = true) : t.postHandshakeAuth.settled = true := by
  rcases h.2 with heq | ⟨-, heq⟩
  · rw [heq]
    exact hs
  · rw [heq]
    rfl

section Writing

variable {env : Env ω}

/-- A message whose content is not looked at has the type its state asks for. -/
theorem mt_constructPlain {s t : SSL ω} {m : Msg} {src : Source}
    (h : constructPlain env s = some (some (m, src), t)) :
    plainType s.statem.handState = some m.mt ∧ m.retry = false := by
  unfold constructPlain at h
  split at h
  · exact absurd h (unbuilt_ne _ _ _)
  · rename_i mt hmt
    rw [(Prod.mk.inj (after_some h)).1]
    exact ⟨hmt, rfl⟩

theorem mt_tlsConstructEncryptedExtensions {s t : SSL ω} {m : Msg} {src : Source}
    (h : tlsConstructEncryptedExtensions env s = some (some (m, src), t)) :
    m.mt = .encryptedExtensions := by
  unfold tlsConstructEncryptedExtensions at h
  split at h
  · exact absurd h (unbuilt_ne _ _ _)
  · rw [← (Prod.mk.inj (Option.some.inj (Prod.mk.inj (Option.some.inj h)).1)).1]
    rfl

theorem mt_tlsConstructClientHello {s t : SSL ω} {m : Msg} {src : Source}
    (h : tlsConstructClientHello env s = some (some (m, src), t)) : m.mt = .clientHello := by
  unfold tlsConstructClientHello at h
  split at h
  · exact absurd h (by simp only [reduceCtorEq, not_false_eq_true])
  · exact absurd h (unbuilt_ne _ _ _)
  · split at h
    · exact absurd h (unbuilt_ne _ _ _)
    · rw [← (Prod.mk.inj (Option.some.inj (Prod.mk.inj (Option.some.inj h)).1)).1]
      rfl

/-- A CertificateRequest of TLS 1.3 notes that it was written. -/
theorem tlsConstructCertificateRequest_some {s t : SSL ω} {m : Msg} {src : Source}
    (h : tlsConstructCertificateRequest env s = some (some (m, src), t)) :
    m.mt = .certificateRequest ∧ t.tmp.certRequest = true := by
  simp only [tlsConstructCertificateRequest] at h
  split at h
  · split at h
    · exact absurd h (by simp only [reduceCtorEq, not_false_eq_true])
    · exact absurd h (unbuilt_ne _ _ _)
    · split at h
      · exact absurd h (unbuilt_ne _ _ _)
      · exact absurd h (unbuilt_ne _ _ _)
      · rw [← (Prod.mk.inj (Option.some.inj (Prod.mk.inj (Option.some.inj h)).1)).1,
          ← (Prod.mk.inj (Option.some.inj h)).2]
        exact ⟨rfl, rfl⟩
  · rw [(Prod.mk.inj (after_some h)).1]
    refine ⟨rfl, ?_⟩
    unfold Built.after at h
    split at h
    · exact absurd h (by simp only [reduceCtorEq, not_false_eq_true])
    · exact absurd h (unbuilt_ne _ _ _)
    · rename_i u hc
      rcases Call.seq_true.mp hc with ⟨v, -, hv⟩
      rw [← (Prod.mk.inj (Option.some.inj h)).2, ← (Prod.mk.inj (Option.some.inj hv)).2]

/-- With certificates or without, it is a Certificate. -/
theorem mt_ssl3OutputCertChain {context : Bytes} {cpk : Option CertPkey} {s t : SSL ω} {m : Msg}
    {src : Source} (h : ssl3OutputCertChain env context cpk s = some (some (m, src), t)) :
    m.mt = .certificate := by
  unfold ssl3OutputCertChain at h
  split at h
  · exact absurd h (by simp only [reduceCtorEq, not_false_eq_true])
  · exact absurd h (unbuilt_ne _ _ _)
  · split at h
    · exact absurd h (unbuilt_ne _ _ _)
    · split at h
      · exact absurd h (unbuilt_ne _ _ _)
      · rw [← (Prod.mk.inj (Option.some.inj (Prod.mk.inj (Option.some.inj h)).1)).1]
        rfl

theorem mt_constructCertificate {s t : SSL ω} {m : Msg} {src : Source}
    (h : constructCertificate env s = some (some (m, src), t)) : m.mt = .certificate := by
  unfold constructCertificate at h
  split at h
  · unfold tlsConstructServerCertificate at h
    split at h
    · exact absurd h (unbuilt_ne _ _ _)
    · exact mt_ssl3OutputCertChain h
  · unfold tlsConstructClientCertificate at h
    split at h
    · exact absurd h (unbuilt_ne _ _ _)
    · simp only at h
      split at h
      · exact absurd h (by simp only [reduceCtorEq, not_false_eq_true])
      · exact absurd h (unbuilt_ne _ _ _)
      · rename_i hc
        have hm := mt_ssl3OutputCertChain hc
        split at h
        · split at h
          · exact absurd h (by simp only [reduceCtorEq, not_false_eq_true])
          · exact absurd h (unbuilt_ne _ _ _)
          · rw [← (Prod.mk.inj (Option.some.inj (Prod.mk.inj (Option.some.inj h)).1)).1]
            exact hm
        · rw [← (Prod.mk.inj (Option.some.inj (Prod.mk.inj (Option.some.inj h)).1)).1]
          exact hm

/-- The type of a message is that of its state. -/
theorem mt_constructMessage {s t : SSL ω} {m : Msg} {src : Source}
    (h : constructMessage env s = some (some (m, src), t)) :
    writtenType s.server s.statem.handState = some m.mt := by
  cases hsv : s.server with
  | true =>
      simp only [constructMessage, hsv, if_true, serverConstructMessage] at h
      simp only [writtenType, if_true]
      split at h
      · rename_i hst
        rcases tlsConstructServerHello_some env h with ⟨exts, u, rfl, -⟩
        simp only [hst, serverMsgType, Msg.mt]
      · rename_i hst
        simp only [hst, serverMsgType, mt_tlsConstructEncryptedExtensions h]
      · rename_i hst
        simp only [hst, serverMsgType, (tlsConstructCertificateRequest_some h).1]
      · rename_i hst
        have hc : constructCertificate env s = some (some (m, src), t) := by
          simpa only [constructCertificate, hsv, if_true] using h
        simp only [hst, serverMsgType, mt_constructCertificate hc]
      · rename_i hst
        rcases tlsConstructCertVerify_some h with ⟨i, body, -, rfl, -⟩
        simp only [hst, serverMsgType, Msg.mt]
      · -- In the other states of a server the content is not looked at.
        rename_i h1 h2 h3 h4 h5
        have hm := (mt_constructPlain h).1
        unfold serverMsgType
        split
        · rename_i hst
          exact (h1 hst).elim
        · rename_i hst
          exact (h2 hst).elim
        · rename_i hst
          exact (h3 hst).elim
        · rename_i hst
          exact (h4 hst).elim
        · rename_i hst
          exact (h5 hst).elim
        · exact hm
  | false =>
      simp only [constructMessage, hsv, Bool.false_eq_true, if_false, clientConstructMessage] at h
      simp only [writtenType, Bool.false_eq_true, if_false]
      split at h
      · rename_i hst
        simp only [hst, clientMsgType, mt_tlsConstructClientHello h]
      · rename_i hst
        have hc : constructCertificate env s = some (some (m, src), t) := by
          simpa only [constructCertificate, hsv, Bool.false_eq_true, if_false] using h
        simp only [hst, clientMsgType, mt_constructCertificate hc]
      · rename_i hst
        rcases tlsConstructCertVerify_some h with ⟨i, body, -, rfl, -⟩
        simp only [hst, clientMsgType, Msg.mt]
      · -- In the other states of a client the content is not looked at.
        rename_i h1 h2 h3
        have hm := (mt_constructPlain h).1
        unfold clientMsgType
        split
        · rename_i hst
          exact (h1 hst).elim
        · rename_i hst
          exact (h2 hst).elim
        · rename_i hst
          exact (h3 hst).elim
        · exact hm

/-- A ServerHello sends the client back if a retry is pending. -/
theorem retry_serverHello {s t : SSL ω} {m : Msg} {src : Source} (hsv : s.server = true)
    (hst : s.statem.handState = .swSrvrHello)
    (h : constructMessage env s = some (some (m, src), t)) :
    m.retry = decide (s.helloRetryRequest = .pending) := by
  simp only [constructMessage, hsv, if_true, serverConstructMessage, hst] at h
  rcases tlsConstructServerHello_some env h with ⟨exts, u, rfl, -⟩
  rfl

/-- A client makes its offer in the extension for it, and no other constructor does. -/
theorem advertised_extConstructor {ctx : ExtCtx} {chainidx i : Nat} {s t : SSL ω} {r : ExtReturn}
    (h : extConstructor env ctx chainidx i s = (r, t)) (hr : r ≠ .fail) : Advertised s t := by
  -- The certificate types are written by constructors of their own.
  by_cases h0 : i = tlsextIdxSrvType
  · subst h0
    rcases extConstructor_certType env (r := .srv) h with hf | ⟨rfl, -⟩
    · exact absurd hf hr
    · exact advertised_refl t
  by_cases h1 : i = tlsextIdxClntType
  · subst h1
    rcases extConstructor_certType env (r := .clnt) h with hf | ⟨rfl, -⟩
    · exact absurd hf hr
    · exact advertised_refl t
  simp only [extConstructor, h0, h1, if_false] at h
  split at h
  · split at h
    · rw [(Prod.mk.inj h).2.symm]
      exact advertised_refl s
    · -- The client offers post-handshake authentication.
      rename_i hoff
      simp only [Bool.or_eq_true, Bool.not_eq_true', not_or, Bool.not_eq_true,
        Bool.not_eq_false] at hoff
      rw [(Prod.mk.inj h).2.symm]
      exact ⟨rfl, Or.inr ⟨hoff.1, rfl⟩⟩
  · split at h
    · exact absurd (Prod.mk.inj h).1.symm hr
    all_goals
      rw [(Prod.mk.inj h).2.symm]
      exact ⟨rfl, Or.inl rfl⟩

theorem advertised_markSent (ctx : ExtCtx) (i : Nat) (s : SSL ω) :
    Advertised s (markSent ctx i s) :=
  advertised_of_touches (touches_markSent ctx i s) (by decide) (by decide)

/-- All extensions of a message, by induction on the rows. -/
theorem advertised_constructRows {ctx : ExtCtx} {chainidx : Nat} {rows : List (ExtDef × Nat)}
    {s t : SSL ω} {items : List (Nat × Bytes)}
    (h : constructRows env ctx chainidx rows s = (some items, t)) : Advertised s t := by
  induction rows generalizing s t items with
  | nil =>
      simp only [constructRows, Prod.mk.injEq] at h
      rw [← h.2]
      exact advertised_refl s
  | cons row rows ih =>
      simp only [constructRows] at h
      split at h
      · split at h
        · exact absurd (Prod.mk.inj h).1 (by simp only [reduceCtorEq, not_false_eq_true])
        · rename_i s' hc
          exact advertised_trans (advertised_extConstructor hc ExtReturn.noConfusion) (ih h)
        · rename_i body s' hc
          have hs' := advertised_trans (advertised_extConstructor hc ExtReturn.noConfusion)
            (advertised_markSent ctx row.2 s')
          split at h
          · exact absurd (Prod.mk.inj h).1 (by simp only [reduceCtorEq, not_false_eq_true])
          · rename_i l s'' hr
            rw [← (Prod.mk.inj h).2]
            exact advertised_trans hs' (ih hr)
      · exact ih h

theorem advertised_tlsConstructExtensions {ctx : ExtCtx} {chainidx : Nat} {s t : SSL ω}
    {exts : Bytes} (h : tlsConstructExtensions env ctx chainidx s = (some exts, t)) :
    Advertised s t := by
  unfold tlsConstructExtensions at h
  split at h
  · exact absurd (Prod.mk.inj h).1 (by simp only [reduceCtorEq, not_false_eq_true])
  · rename_i items s' hr
    split at h
    · exact absurd (Prod.mk.inj h).1 (by simp only [reduceCtorEq, not_false_eq_true])
    · split at h
      · rw [← (Prod.mk.inj h).2]
        exact advertised_constructRows hr
      · exact absurd (Prod.mk.inj h).1 (by simp only [reduceCtorEq, not_false_eq_true])

theorem advertised_addCerts {xs : List X509} {i : Nat} {s t : SSL ω} {list : Bytes}
    (h : addCerts env i xs s = (some list, t)) : Advertised s t := by
  induction xs generalizing i s t list with
  | nil =>
      simp only [addCerts, Prod.mk.injEq] at h
      rw [← h.2]
      exact advertised_refl s
  | cons x xs ih =>
      simp only [addCerts] at h
      split at h
      · exact absurd (Prod.mk.inj h).1 (by simp only [reduceCtorEq, not_false_eq_true])
      · rename_i c s' hc
        -- An entry is written with its extensions, which offer nothing but in a ClientHello.
        have hs' : Advertised s s' := by
          unfold sslAddCertToWpacket at hc
          split at hc
          · exact absurd (Prod.mk.inj hc).1 (by simp only [reduceCtorEq, not_false_eq_true])
          · split at hc
            · exact absurd (Prod.mk.inj hc).1 (by simp only [reduceCtorEq, not_false_eq_true])
            · split at hc
              · split at hc
                · exact absurd (Prod.mk.inj hc).1
                    (by simp only [reduceCtorEq, not_false_eq_true])
                · rename_i he
                  rw [← (Prod.mk.inj hc).2]
                  exact advertised_tlsConstructExtensions he
              · rw [← (Prod.mk.inj hc).2]
                exact advertised_refl s
        split at h
        · exact absurd (Prod.mk.inj h).1 (by simp only [reduceCtorEq, not_false_eq_true])
        · rename_i hr
          rw [← (Prod.mk.inj h).2]
          exact advertised_trans hs' (ih hr)

theorem advertised_runPhase {p : Phase} {body : Bytes} {b : Bool} {s t : SSL ω}
    (h : runPhase env p body s = some (b, t)) : Advertised s t :=
  advertised_of_touches (touches_runOther _ s b t h) (by decide) (by decide)

/-- What follows a message that was written leaves what the message left. -/
theorem advertised_after {m : Msg × Source} {c : Call (SSL ω)} {s t : SSL ω} {r : Msg × Source}
    (hc : ∀ u, c s = some (true, u) → Advertised s u)
    (h : Built.after m c s = some (some r, t)) : Advertised s t := by
  unfold Built.after at h
  split at h
  · exact absurd h (by simp only [reduceCtorEq, not_false_eq_true])
  · exact absurd h (unbuilt_ne _ _ _)
  · rename_i u hu
    rw [← (Prod.mk.inj (Option.some.inj h)).2]
    exact hc u hu

/-- Writing a Certificate offers nothing. -/
theorem advertised_ssl3OutputCertChain {context : Bytes} {cpk : Option CertPkey} {s t : SSL ω}
    {m : Msg × Source} (h : ssl3OutputCertChain env context cpk s = some (some m, t)) :
    Advertised s t := by
  unfold ssl3OutputCertChain at h
  split at h
  · exact absurd h (by simp only [reduceCtorEq, not_false_eq_true])
  · exact absurd h (unbuilt_ne _ _ _)
  · split at h
    · exact absurd h (unbuilt_ne _ _ _)
    · rename_i hadd
      split at h
      · exact absurd h (unbuilt_ne _ _ _)
      · rw [← (Prod.mk.inj (Option.some.inj h)).2]
        exact advertised_addCerts hadd

theorem advertised_constructCertificate {s t : SSL ω} {m : Msg × Source}
    (h : constructCertificate env s = some (some m, t)) : Advertised s t := by
  unfold constructCertificate at h
  split at h
  · unfold tlsConstructServerCertificate at h
    split at h
    · exact absurd h (unbuilt_ne _ _ _)
    · exact advertised_ssl3OutputCertChain h
  · unfold tlsConstructClientCertificate at h
    split at h
    · exact absurd h (unbuilt_ne _ _ _)
    · simp only at h
      split at h
      · exact absurd h (by simp only [reduceCtorEq, not_false_eq_true])
      · exact absurd h (unbuilt_ne _ _ _)
      · rename_i hc
        have hu := advertised_ssl3OutputCertChain hc
        split at h
        · split at h
          · exact absurd h (by simp only [reduceCtorEq, not_false_eq_true])
          · exact absurd h (unbuilt_ne _ _ _)
          · rename_i hp
            rw [← (Prod.mk.inj (Option.some.inj h)).2]
            exact advertised_trans hu (advertised_runPhase hp)
        · rw [← (Prod.mk.inj (Option.some.inj h)).2]
          exact hu

theorem advertised_tlsConstructClientHello {s t : SSL ω} {m : Msg × Source}
    (h : tlsConstructClientHello env s = some (some m, t)) : Advertised s t := by
  have hsess : Advertised s (clientSession env s) := by
    unfold clientSession
    split
    · exact ⟨rfl, Or.inl rfl⟩
    · exact advertised_refl s
  unfold tlsConstructClientHello at h
  split at h
  · exact absurd h (by simp only [reduceCtorEq, not_false_eq_true])
  · exact absurd h (unbuilt_ne _ _ _)
  · rename_i hp
    split at h
    · exact absurd h (unbuilt_ne _ _ _)
    · rename_i hc
      rw [← (Prod.mk.inj (Option.some.inj h)).2]
      exact advertised_trans hsess
        (advertised_trans (advertised_runPhase hp) (advertised_tlsConstructExtensions hc))

theorem advertised_tlsConstructServerHello {s t : SSL ω} {m : Msg × Source}
    (h : tlsConstructServerHello env s = some (some m, t)) : Advertised s t := by
  simp only [tlsConstructServerHello] at h
  split at h
  · exact absurd h (unbuilt_ne _ _ _)
  · rename_i hc
    refine advertised_trans (advertised_tlsConstructExtensions hc)
      (advertised_after (fun v hv => ?_) h)
    refine advertised_trans ?_ (advertised_runPhase hv)
    split
    · exact ⟨rfl, Or.inl rfl⟩
    · exact advertised_refl _

theorem advertised_tlsConstructCertificateRequest {s t : SSL ω} {m : Msg × Source}
    (h : tlsConstructCertificateRequest env s = some (some m, t)) : Advertised s t := by
  simp only [tlsConstructCertificateRequest] at h
  split at h
  · split at h
    · exact absurd h (by simp only [reduceCtorEq, not_false_eq_true])
    · exact absurd h (unbuilt_ne _ _ _)
    · rename_i u hctx
      have hu : Advertised s u := by
        unfold requestContext at hctx
        split at hctx
        · split at hctx
          · exact absurd hctx (sslFail_ne_true _ _ _ _)
          · rename_i r _
            exact advertised_trans (t := { s with phaContext := r }) ⟨rfl, Or.inl rfl⟩
              (advertised_runPhase hctx)
        · rw [← (Prod.mk.inj (Option.some.inj hctx)).2]
          exact advertised_refl s
      split at h
      · exact absurd h (unbuilt_ne _ _ _)
      · exact absurd h (unbuilt_ne _ _ _)
      · rename_i hc
        rw [← (Prod.mk.inj (Option.some.inj h)).2]
        exact advertised_trans hu
          (advertised_trans (advertised_tlsConstructExtensions hc) ⟨rfl, Or.inl rfl⟩)
  · refine advertised_after (fun v hv => ?_) h
    rcases Call.seq_true.mp hv with ⟨u, hp, hu⟩
    rw [← (Prod.mk.inj (Option.some.inj hu)).2]
    exact advertised_trans (advertised_runPhase hp) ⟨rfl, Or.inl rfl⟩

theorem advertised_constructPlain {s t : SSL ω} {m : Msg × Source}
    (h : constructPlain env s = some (some m, t)) : Advertised s t := by
  unfold constructPlain at h
  split at h
  · exact absurd h (unbuilt_ne _ _ _)
  · exact advertised_after (fun _ hv => advertised_runPhase hv) h

/-- Writing changes post-handshake authentication on a client that offers it only. -/
theorem advertised_constructMessage {s t : SSL ω} {m : Msg × Source}
    (h : constructMessage env s = some (some m, t)) : Advertised s t := by
  cases hsv : s.server with
  | true =>
      simp only [constructMessage, hsv, if_true, serverConstructMessage] at h
      split at h
      · exact advertised_tlsConstructServerHello h
      · unfold tlsConstructEncryptedExtensions at h
        split at h
        · exact absurd h (unbuilt_ne _ _ _)
        · rename_i hc
          rw [← (Prod.mk.inj (Option.some.inj h)).2]
          exact advertised_tlsConstructExtensions hc
      · exact advertised_tlsConstructCertificateRequest h
      · exact advertised_constructCertificate
          (by simpa only [constructCertificate, hsv, if_true] using h)
      · exact advertised_of_touches (touches_tlsConstructCertVerify env h) (by decide) (by decide)
      · exact advertised_constructPlain h
  | false =>
      simp only [constructMessage, hsv, Bool.false_eq_true, if_false, clientConstructMessage] at h
      split at h
      · exact advertised_tlsConstructClientHello h
      · exact advertised_constructCertificate
          (by simpa only [constructCertificate, hsv, Bool.false_eq_true, if_false] using h)
      · exact advertised_of_touches (touches_tlsConstructCertVerify env h) (by decide) (by decide)
      · exact advertised_constructPlain h

/-- A message whose content is not looked at changes what is outside. -/
theorem keeps_constructPlain {s t : SSL ω} {r : Built}
    (h : constructPlain env s = some (r, t)) : Touches [.other] s r.isSome t := by
  unfold constructPlain at h
  split at h
  · rw [← (Prod.mk.inj (Option.some.inj h)).1, ← (Prod.mk.inj (Option.some.inj h)).2]
    exact touches_sslFatal _ _ _ s
  · exact touches_after (touches_runOther _) h

/-- Only a CertificateRequest notes that a certificate was asked for. -/
theorem certRequest_constructMessage {s t : SSL ω} {m : Msg} {src : Source}
    (h : constructMessage env s = some (some (m, src), t)) :
    t.tmp.certRequest = (s.tmp.certRequest ||
      (s.server && s.statem.handState = .swCertReq)) := by
  -- In any other state the note stays as it was.
  have hkept : ∀ {fs : List Field}, Touches fs s true t → .certRequest ∉ fs →
      (s.server && s.statem.handState = .swCertReq) = false →
      t.tmp.certRequest = (s.tmp.certRequest ||
        (s.server && s.statem.handState = .swCertReq)) := by
    intro fs ht hfs hno
    rw [hno, Bool.or_false]
    exact ht.certRequest hfs
  cases hsv : s.server with
  | true =>
      simp only [constructMessage, hsv, if_true, serverConstructMessage] at h
      rw [hsv] at hkept
      split at h
      · rename_i hst
        exact hkept (touches_tlsConstructServerHello env h) (by decide) (by rw [hst]; rfl)
      · rename_i hst
        exact hkept (touches_tlsConstructEncryptedExtensions env h) (by decide) (by rw [hst]; rfl)
      · rename_i hst
        rw [(tlsConstructCertificateRequest_some h).2, hst, Bool.true_and, decide_eq_true rfl,
          Bool.or_true]
      · rename_i hst
        exact hkept (touches_tlsConstructServerCertificate env h) (by decide) (by rw [hst]; rfl)
      · rename_i hst
        exact hkept (touches_tlsConstructCertVerify env h) (by decide) (by rw [hst]; rfl)
      · rename_i h3 _ _
        exact hkept (keeps_constructPlain h) (by decide)
          (by rw [Bool.true_and, decide_eq_false_iff_not]; exact h3)
  | false =>
      simp only [constructMessage, hsv, Bool.false_eq_true, if_false, clientConstructMessage] at h
      rw [hsv] at hkept
      split at h
      · exact hkept (touches_tlsConstructClientHello env h) (by decide) rfl
      · exact hkept (touches_tlsConstructClientCertificate env h) (by decide) rfl
      · exact hkept (touches_tlsConstructCertVerify env h) (by decide) rfl
      · exact hkept (keeps_constructPlain h) (by decide) rfl

end Writing

section Reading

variable {env : Env ω}

/-- A call after which no request is on its way if none was before. -/
abbrev Settling (c : Call (SSL ω)) : Prop :=
  Call.Rel (fun s _ t => s.postHandshakeAuth.settled = true →
    t.postHandshakeAuth.settled = true) c

/-- Two calls in a row. -/
theorem settling_seq {c d : Call (SSL ω)} (hc : Settling c) (hd : Settling d) :
    Settling (Call.seq c d) :=
  Call.rel_seq (R := fun (s : SSL ω) _ t => s.postHandshakeAuth.settled = true →
    t.postHandshakeAuth.settled = true) (fun _ _ _ _ hst htu hs => htu (hst hs)) hc hd

/-- A loop. -/
theorem settling_each {α : Type} {f : α → Call (SSL ω)} (l : List α)
    (hf : ∀ a ∈ l, Settling (f a)) : Settling (Call.each f l) :=
  Call.rel_each (R := fun (s : SSL ω) _ t => s.postHandshakeAuth.settled = true →
    t.postHandshakeAuth.settled = true) (fun _ hs => hs) (fun _ _ _ _ hst htu hs => htu (hst hs))
    l hf

/-- A call that leaves post-handshake authentication alone. -/
theorem settling_of_touches {fs : List Field} {c : Call (SSL ω)} (hc : Call.Rel (Touches fs) c)
    (hpha : .pha ∉ fs) : Settling c := by
  intro s b t h hs
  rw [(hc s b t h).pha hpha]
  exact hs

theorem settling_ret (f : SSL ω → SSL ω)
    (hf : ∀ s, (f s).postHandshakeAuth = s.postHandshakeAuth) : Settling (Call.ret f) := by
  refine Call.rel_ret (fun s hs => ?_)
  rw [hf s]
  exact hs

/-- Resetting an extension puts no request on its way. -/
theorem settling_initExtension (ctx : ExtCtx) (r : ExtDef × Nat) :
    Settling (initExtension env ctx r) := by
  intro s b t h hs
  unfold initExtension at h
  split at h
  · split at h
    · rw [← (Prod.mk.inj (Option.some.inj h)).2]
      rfl
    · rw [(touches_runOther _ s b t h).pha (by decide)]
      exact hs
  · rw [← (Prod.mk.inj (Option.some.inj h)).2]
    exact hs

theorem settling_collecting {block : Bytes} {ctx : ExtCtx} {init : Bool}
    {k : RawExts → Call (SSL ω)} (hk : ∀ raw, Settling (k raw)) :
    Settling (collecting env block ctx init k) := by
  -- Collecting begins with what each extension is initialised to.
  have hinit : Settling
      (if init then Call.each (initExtension env ctx) extRows else Call.ret id) := by
    split
    · exact settling_each extRows (fun r _ => settling_initExtension ctx r)
    · exact settling_ret id (fun _ => rfl)
  intro s b t h hs
  unfold collecting tlsCollectExtensions at h
  split at h
  · exact absurd h (by simp only [reduceCtorEq, not_false_eq_true])
  · rename_i u hu
    rw [← (Prod.mk.inj (Option.some.inj h)).2]
    split at hu
    · rw [← (Prod.mk.inj (Option.some.inj hu)).2,
        (touches_sslFatal [] _ _ s).pha List.not_mem_nil]
      exact hs
    · split at hu
      · exact absurd hu (by simp only [reduceCtorEq, not_false_eq_true])
      · rename_i hi
        rw [← (Prod.mk.inj (Option.some.inj hu)).2]
        exact hinit s _ _ hi hs
      · rename_i hi
        rw [← (Prod.mk.inj (Option.some.inj hu)).2]
        exact hinit s _ _ hi hs
  · rename_i raw u hu
    refine hk raw u b t h ?_
    split at hu
    · exact absurd hu (unbuilt_ne _ _ _)
    · split at hu
      · exact absurd hu (by simp only [reduceCtorEq, not_false_eq_true])
      · exact absurd hu (unbuilt_ne _ _ _)
      · rename_i hi
        rw [← (Prod.mk.inj (Option.some.inj hu)).2]
        exact hinit s _ _ hi hs

/-- A server that reads the offer keeps it, which is no request. -/
theorem settling_extParser (ctx : ExtCtx) (chainidx i : Nat) (body : Bytes) :
    Settling (extParser env ctx chainidx i body) := by
  intro s b t h hs
  -- Only the parser of the extension itself looks at it.
  by_cases hi : i = tlsextIdxPostHandshakeAuth
  · subst hi
    simp only [extParser, tlsextIdxPostHandshakeAuth, tlsextIdxSrvType, tlsextIdxClntType,
      Nat.reduceEqDiff, if_false, if_true] at h
    split at h
    · unfold tlsParseCtosPostHandshakeAuth at h
      split at h
      · rw [(touches_sslFail [] _ _ s b t h).pha List.not_mem_nil]
        exact hs
      · rw [← (Prod.mk.inj (Option.some.inj h)).2]
        rfl
    · rw [← (Prod.mk.inj (Option.some.inj h)).2]
      exact hs
  · have hkept : Touches [.decided, .verifyMode, .other] s b t := by
      simp only [extParser, hi, if_false] at h
      split at h
      · split at h
        · exact touches_mono (by decide) (touches_tlsParseCtosCertTypeExt .srv body s b t h)
        · exact touches_mono (by decide) (touches_tlsParseStocCertTypeExt .srv body s b t h)
      · split at h
        · split at h
          · exact touches_mono (by decide) (touches_tlsParseCtosClntTypeExt body s b t h)
          · exact touches_mono (by decide) (touches_tlsParseStocCertTypeExt .clnt body s b t h)
        · exact touches_mono (by decide) (touches_runOther _ s b t h)
    rw [hkept.pha (by decide)]
    exact hs

theorem settling_tlsParseAllExtensions (ctx : ExtCtx) (raw : RawExts) (chainidx : Nat)
    (fin : Bool) : Settling (tlsParseAllExtensions env ctx raw chainidx fin) := by
  refine settling_seq (settling_each extRows (fun r _ => ?_))
    (settling_of_touches (touches_finals env ctx raw fin) (by decide))
  intro s b t h hs
  unfold tlsParseExtension at h
  split at h
  · rw [← (Prod.mk.inj (Option.some.inj h)).2]
    exact hs
  · split at h
    · exact settling_extParser ctx chainidx r.2 _ s b t h hs
    · rw [← (Prod.mk.inj (Option.some.inj h)).2]
      exact hs

theorem settling_runPhase (p : Phase) (body : Bytes) : Settling (runPhase env p body) :=
  settling_of_touches (touches_runOther _) (by decide)

theorem settling_tlsProcessClientHello (head exts : Bytes) :
    Settling (tlsProcessClientHello env head exts) := by
  refine settling_seq (settling_runPhase _ _) (settling_collecting (fun raw => ?_))
  refine settling_seq (settling_of_touches (touches_chooseVersion env _ _ _) (by decide)) ?_
  refine settling_seq (settling_runPhase _ _) (settling_seq (settling_ret _ (fun s => ?_)) ?_)
  · exact (touches_serverSession env s).pha (by decide)
  · exact settling_seq (settling_tlsParseAllExtensions _ _ _ _) (settling_runPhase _ _)

theorem settling_tlsProcessServerHello (hrr : Bool) (head exts : Bytes) :
    Settling (tlsProcessServerHello env hrr head exts) := by
  cases hrr with
  | true => exact settling_of_touches (touches_helloRetryRequest env head exts) (by decide)
  | false =>
      intro s b t h
      simp only [tlsProcessServerHello, Bool.false_eq_true, if_false] at h
      refine settling_seq (settling_runPhase _ _) (settling_collecting (fun raw => ?_)) s b t h
      refine settling_seq (settling_of_touches (touches_chooseVersion env _ _ _) (by decide)) ?_
      intro s b t h
      beta_reduce at h
      generalize (if s.tls13 = true then sslExtTls13ServerHello else sslExtTls12ServerHello) = ctx
        at h
      unfold serverHelloIn at h
      split at h
      · refine settling_seq (settling_runPhase _ _) (settling_seq (settling_ret _ (fun u => ?_))
          (settling_seq (settling_tlsParseAllExtensions _ _ _ _) (settling_runPhase _ _))) s b t h
        exact (touches_renewSession env u).pha (by decide)
      · intro hs
        rw [(touches_sslFail [] _ _ s b t h).pha List.not_mem_nil]
        exact hs

/-- A server with a version, after the finaliser of its key shares: a retry is asked for once,
    and one that was asked for is over. -/
theorem hrr_finalKeyShare {sent : Bool} {s t : SSL ω} (h13 : s.tls13 = true)
    (hsv : s.server = true) (h : finalKeyShare env sslExtClientHello sent s = some (true, t)) :
    (s.helloRetryRequest = .none → t.helloRetryRequest = .none ∨ t.helloRetryRequest = .pending) ∧
      (s.helloRetryRequest ≠ .none → t.helloRetryRequest = .complete) := by
  have hctx : ExtCtx.meets sslExtClientHello sslExtTls13HelloRetryRequest = false := by decide
  simp only [finalKeyShare, h13, hsv, hctx, Bool.not_true, Bool.or_false, Bool.false_eq_true,
    if_false] at h
  split at h
  · -- The server asks for another hello, which it has not done before.
    rename_i hretry
    simp only [Bool.and_eq_true, decide_eq_true_eq] at hretry
    rw [← (Prod.mk.inj (Option.some.inj h)).2]
    exact ⟨fun _ => Or.inr rfl, fun hne => absurd hretry.1.1.2 hne⟩
  · split at h
    · exact absurd h (sslFail_ne_true _ _ _ _)
    · split at h
      · -- The hello that it asked for has come.
        rename_i hp
        rw [← (Prod.mk.inj (Option.some.inj h)).2]
        exact ⟨fun hn => absurd (hn.symm.trans hp) HrrState.noConfusion, fun _ => rfl⟩
      · rename_i hnp
        rw [← (Prod.mk.inj (Option.some.inj h)).2]
        refine ⟨Or.inl, fun hne => ?_⟩
        cases hs : s.helloRetryRequest with
        | none => exact absurd hs hne
        | pending => exact absurd hs hnp
        | complete => rfl

/-- A server with a version, after all finalisers of a ClientHello. -/
theorem hrr_finals {raw : RawExts} {s t : SSL ω} (h13 : s.tls13 = true) (hsv : s.server = true)
    (h : Call.each (finalExtension env sslExtClientHello raw) extRows s = some (true, t)) :
    (s.helloRetryRequest = .none → t.helloRetryRequest = .none ∨ t.helloRetryRequest = .pending) ∧
      (s.helloRetryRequest ≠ .none → t.helloRetryRequest = .complete) := by
  -- The finalisers of the other rows leave the retry.
  have hrest : ∀ rows : List (ExtDef × Nat), (∀ r ∈ rows, r.2 ≠ tlsextIdxKeyShare) →
      Call.Rel (Touches [.other]) (Call.each (finalExtension env sslExtClientHello raw) rows) := by
    intro rows hrows
    refine touches_each rows (fun r hr => ?_)
    intro u b v hv
    unfold finalExtension at hv
    split at hv
    · rw [if_neg (hrows r hr)] at hv
      exact touches_runOther _ u b v hv
    · exact touches_same hv
  have hsplit : ∃ d : ExtDef, d.context.meets sslExtClientHello = true ∧
      extRows = extRows.take tlsextIdxKeyShare ++
        (d, tlsextIdxKeyShare) :: extRows.drop (tlsextIdxKeyShare + 1) := ⟨_, by decide, rfl⟩
  rcases hsplit with ⟨d, hd, hrows⟩
  rw [hrows, Call.each_append] at h
  rcases Call.seq_true.mp h with ⟨u, hu, h⟩
  rcases Call.seq_true.mp h with ⟨v, hv, h⟩
  have hut := hrest _ (by decide) s true u hu
  have hvt := hrest _ (by decide) v true t h
  simp only [finalExtension, hd, if_true] at hv
  have hmove := hrr_finalKeyShare ((hut.tls13 (by decide)).trans h13)
    ((hut.server (by decide)).trans hsv) hv
  rw [hut.hrr (by decide)] at hmove
  rw [hvt.hrr (by decide)]
  exact hmove

/-- A ClientHello that was accepted asks for another one at most once. -/
theorem hrr_tlsProcessClientHello (henv : OnlyTls13 env) {head exts : Bytes} {s t : SSL ω}
    (hsv : s.server = true) (h : tlsProcessClientHello env head exts s = some (true, t)) :
    (s.helloRetryRequest = .none → t.helloRetryRequest = .none ∨ t.helloRetryRequest = .pending) ∧
      (s.helloRetryRequest ≠ .none → t.helloRetryRequest = .complete) := by
  rcases Call.seq_true.mp h with ⟨s1, hhead, h⟩
  rcases collecting_true env h with ⟨raw, s2, -, hcoll, h⟩
  rcases Call.seq_true.mp h with ⟨s3, hver, h⟩
  rcases Call.seq_true.mp h with ⟨s4, hbefore, h⟩
  rcases Call.seq_true.mp h with ⟨s5, hsess, h⟩
  rcases Call.seq_true.mp h with ⟨v, hparse, hafter⟩
  rcases Call.seq_true.mp hparse with ⟨s6, hrows, hfin⟩
  have h1 := touches_runOther _ s true s1 hhead
  have h3 := touches_chooseVersion env _ head raw s2 true s3 hver
  have h4 := touches_runOther _ s3 true s4 hbefore
  have h5 : Touches [.session, .heap] s4 true s5 := by
    rw [← (Prod.mk.inj (Option.some.inj hsess)).2]
    exact touches_serverSession env s4
  have h6 : Touches [.decided, .verifyMode, .pha, .other] s5 true s6 :=
    touches_each extRows (fun r _ => touches_tlsParseExtension env _ raw 0 r
      (touches_extParser env _ 0 r.2)) s5 true s6 hrows
  -- Up to the finalisers the retry is what it was, and the version is known.
  have hsv6 : s6.server = true := by
    rw [h6.server (by decide), h5.server (by decide), h4.server (by decide),
      h3.server (by decide), hcoll.server (by decide), h1.server (by decide), hsv]
  have h136 : s6.tls13 = true := by
    rw [h6.tls13 (by decide), h5.tls13 (by decide), h4.tls13 (by decide)]
    exact chooseVersion_tls13 henv hver
  have hhrr6 : s6.helloRetryRequest = s.helloRetryRequest := by
    rw [h6.hrr (by decide), h5.hrr (by decide), h4.hrr (by decide), h3.hrr (by decide),
      hcoll.hrr (by decide), h1.hrr (by decide)]
  rw [if_pos rfl] at hfin
  have hmove := hrr_finals h136 hsv6 hfin
  rw [hhrr6] at hmove
  rw [(touches_runOther _ v true t hafter).hrr (by decide)]
  exact hmove

/-- Preparing the client's certificate still answers that one was asked for. -/
theorem certReq_tlsPrepareClientCertificate {s t : SSL ω} (hs : s.tmp.certReq ≠ 0)
    (h : tlsPrepareClientCertificate env s = some (true, t)) : t.tmp.certReq ≠ 0 := by
  rcases Call.seq_true.mp h with ⟨u, hcb, h⟩
  have hu : u.tmp.certReq ≠ 0 := by
    rw [(touches_certCallback env _ s true u hcb).certReq (by decide)]
    exact hs
  have hcheck : ∀ {v w : SSL ω} {b : Bool}, ssl3CheckClientCertificate env v = some (b, w) →
      w.tmp.certReq = v.tmp.certReq :=
    fun hw => (updates_ssl3CheckClientCertificate env _ _ _ hw).certReq (by decide)
  have hcall : ∀ {v w : SSL ω} {b : Bool}, useClientCertCb env v = some (b, w) →
      w.tmp.certReq = v.tmp.certReq :=
    fun hw => (updates_useClientCertCb env _ _ _ hw).certReq (by decide)
  split at h
  · exact absurd h (by simp only [reduceCtorEq, not_false_eq_true])
  · rename_i v hv
    rw [← (Prod.mk.inj (Option.some.inj h)).2, hcheck hv]
    exact hu
  · rename_i v hv
    split at h
    · exact absurd h (by simp only [reduceCtorEq, not_false_eq_true])
    · rename_i w hw
      rw [← (Prod.mk.inj (Option.some.inj h)).2, hcall hw, hcheck hv]
      exact hu
    · -- A client without a certificate still has to answer.
      rename_i w hw
      unfold sendNoCertificate at h
      rw [(touches_runOther _ _ true t h).certReq (by decide)]
      exact Nat.succ_ne_zero 1

/-- A request that is not ignored is noted. -/
theorem certReq_processRequest {body : Bytes} {s t : SSL ω} (h13 : s.tls13 = true)
    (hopen : (env.rest s.other).sentShutdown = false)
    (h : processRequest env body s = some (true, t)) : t.tmp.certReq ≠ 0 := by
  unfold processRequest at h
  rcases Call.seq_true.mp h with ⟨u, hreq, h⟩
  have hu : u.tmp.certReq ≠ 0 := by
    simp only [tlsProcessCertificateRequest, h13, hopen, Bool.not_true, Bool.false_eq_true,
      if_false] at hreq
    split at hreq
    · exact absurd hreq (sslFail_ne_true _ _ _ _)
    · split at hreq
      · exact absurd hreq (sslFail_ne_true _ _ _ _)
      · rcases Call.seq_true.mp hreq with ⟨v, -, hreq⟩
        rcases Call.seq_true.mp hreq with ⟨w, -, hreq⟩
        split at hreq
        · exact absurd hreq (sslFail_ne_true _ _ _ _)
        · rw [← (Prod.mk.inj (Option.some.inj hreq)).2]
          exact Nat.succ_ne_zero 0
  split at h
  · rw [← (Prod.mk.inj (Option.some.inj h)).2]
    exact hu
  · exact certReq_tlsPrepareClientCertificate hu h

/-- Whether a certificate was asked for is no different after the server's signature was
    checked. -/
theorem certReq_prepareIfAsked {s t : SSL ω} (h : prepareIfAsked env s = some (true, t)) :
    t.tmp.certReq ≠ 0 ↔ s.tmp.certReq ≠ 0 := by
  unfold prepareIfAsked at h
  split at h
  · rename_i hc
    simp only [Bool.and_eq_true, decide_eq_true_eq] at hc
    have hs : s.tmp.certReq ≠ 0 := by
      rw [hc.2]
      exact Nat.succ_ne_zero 0
    exact iff_of_true (certReq_tlsPrepareClientCertificate hs h) hs
  · rw [← (Prod.mk.inj (Option.some.inj h)).2]

end Reading

end Iso21177
