import Iso21177.Ssl.Spoken

/-!
# Poised for the Next Line

An object agrees with a stage of the dialogue if its state stands for that stage and what it
remembers fits (`Poised`): before the answer to the hellos a client has no version, before the
request nobody has asked for a certificate, and a server that asks for another ClientHello has
not asked before. From such an object the transitions of the code are read as those of the
dialogue: which message it may read or write next, and at which stage.

A handshake that is started agrees with the beginning of the dialogue, if no request for a
certificate is left over from the one before it. Going on after a handshake, and what the
application does by then, is no line and leaves the object where it was.

## Main definitions

* `Poised`: An object that agrees with a stage.
* `StaysOpen`: No close_notify is sent.

## Theorems

* `unversioned_cases`: Where there is no version.
* `client_writes`, `server_writes`, `client_reads`, `server_reads`: What comes next.
* `phaTransition_eq`, `flight_cases`: Parts of them.
* `poised_started`, `poised_reentered`, `poised_configured`: Steps that are no lines.
-/

namespace Iso21177

variable {ω : Type}

/-- The state of an object agrees with the stage of its handshake. -/
structure Poised (s : SSL ω) (q : Stage) : Prop where
  placed : Placed s
  ended : s.statem.state = .finished → s.statem.handState = .ok
  stage : s.stage = some q
  asked : ∀ b, q.asked = some b → s.asked = b
  settled : q.early = true → s.postHandshakeAuth.settled = true
  pending : s.server = true → s.helloRetryRequest = .pending → q = .hello false ∨ q = .retry
  unversioned : s.server = false → q.unversioned = true → s.tls13 = false
  later : s.server = false → q = .laterRequest → s.statem.state = .writing

/-- No close_notify is sent, at any time. -/
def StaysOpen (env : Env ω) : Prop := ∀ o, (env.rest o).sentShutdown = false

section Transitions

variable {env : Env ω}

theorem unversioned_cases {s : SSL ω} {q : Stage} (hs : Poised s q) (h13 : s.tls13 = false) :
    s.statem.handState = .before ∨ s.server = false ∧ (s.statem.handState = .cwClntHello ∨
      s.helloRetryRequest = .pending ∧
        (s.statem.handState = .crSrvrHello ∨ s.statem.handState = .cwChange)) := by
  rcases hs.placed.version h13 with ⟨hst, -⟩ | ⟨hsv, hst⟩ | ⟨hsv, hp, -, hst⟩
  · exact Or.inl hst
  · exact Or.inr ⟨hsv, Or.inl hst⟩
  · exact Or.inr ⟨hsv, Or.inr ⟨hp, hst⟩⟩

/-- What a client writes next. -/
theorem client_writes {s : SSL ω} {q : Stage} {st : HandState} (hs : Poised s q)
    (hsv : s.server = false) (hopen : StaysOpen env) (h : writeTransition env s = .next st) :
    (q = .start ∧ st = .cwClntHello ∧ s.helloRetryRequest = .none) ∨
    (q = .retry ∧ s.helloRetryRequest = .pending ∧ s.tls13 = false ∧
      (st = .cwChange ∨ st = .cwClntHello)) ∨
    (q = .serverFinished s.asked ∧ s.tls13 = true ∧
      (st = .cwChange ∨ st = if s.asked then .cwCert else .cwFinished)) ∨
    (q = .laterRequest ∧ st = .cwCert) ∨
    (q = .clientCert ∧ (st = .cwCertVrfy ∨ st = .cwFinished)) ∨
    (q = .clientVerify ∧ st = .cwFinished) ∨
    (q = .connected ∧ (st = .ok ∨ st = .cwKeyUpdate)) := by
  have hq := hs.stage
  simp only [SSL.stage, hsv, Bool.false_eq_true, if_false] at hq
  have hasked : s.asked = decide (s.tmp.certReq ≠ 0) := by
    simp only [SSL.asked, hsv, Bool.false_eq_true, if_false]
  cases h13 : s.tls13 with
  | false =>
      -- Without a version only the hellos are written.
      rcases writeTransition_unversioned hs.placed h13 h with ⟨-, hst⟩
      rcases unversioned_cases hs h13 with hb | ⟨-, hch | ⟨hp, hcr⟩⟩
      · simp only [hb, clientStage, Option.some.injEq] at hq
        rcases hst with hst | ⟨-, hp⟩
        · exact Or.inl ⟨hq.symm, hst, hs.placed.fresh hb⟩
        · exact absurd ((hs.placed.fresh hb).symm.trans hp) HrrState.noConfusion
      · simp only [writeTransition, h13, hsv, hch, Bool.false_eq_true, if_false, reduceCtorEq] at h
      · have hretry : q = .retry := by
          rcases hcr with hcr | hcr <;>
            simp only [hcr, h13, clientStage, Bool.false_eq_true, if_false,
              Option.some.injEq] at hq <;> exact hq.symm
        exact Or.inr (Or.inl ⟨hretry, hp, rfl, hst.symm.imp And.left id⟩)
  | true =>
      simp only [writeTransition, h13, hsv, if_true, Bool.false_eq_true, if_false,
        client13WriteTransition] at h
      rw [h13] at hq
      have hcert : (if s.tmp.certReq ≠ 0 then HandState.cwCert else .cwFinished) =
          if s.asked then .cwCert else .cwFinished := by
        simp only [hasked, decide_eq_true_eq]
      rw [hcert] at h
      split at h
      · rename_i hst
        simp only [hst, clientStage] at hq
        split at h
        · rename_i hreq
          simp only [hreq, if_true, Option.some.injEq] at hq
          exact Or.inr (Or.inr (Or.inr (Or.inl ⟨hq.symm, (WriteTran.next.inj h).symm⟩)))
        · rw [if_neg (by rw [hopen]; exact Bool.false_ne_true)] at h
          exact absurd h (by simp only [reduceCtorEq, not_false_eq_true])
      · rename_i hst
        simp only [hst, clientStage, Option.some.injEq] at hq
        refine Or.inr (Or.inr (Or.inl ⟨hq.symm, rfl, ?_⟩))
        split at h
        · exact Or.inl (WriteTran.next.inj h).symm
        · exact Or.inr (WriteTran.next.inj h).symm
      · rename_i hst
        simp only [hst, clientStage, if_true, Option.some.injEq] at hq
        exact Or.inr (Or.inr (Or.inl ⟨hq.symm, rfl, Or.inr (WriteTran.next.inj h).symm⟩))
      · rename_i hst
        simp only [hst, clientStage, Option.some.injEq] at hq
        refine Or.inr (Or.inr (Or.inr (Or.inr (Or.inl ⟨hq.symm, ?_⟩))))
        rw [← WriteTran.next.inj h]
        split
        · exact Or.inl rfl
        · exact Or.inr rfl
      · rename_i hst
        simp only [hst, clientStage, Option.some.injEq] at hq
        exact Or.inr (Or.inr (Or.inr (Or.inr (Or.inr (Or.inl
          ⟨hq.symm, (WriteTran.next.inj h).symm⟩)))))
      all_goals
        rename_i hst
        try simp only [hst, clientStage, Option.some.injEq] at hq
        first
          | exact Or.inr (Or.inr (Or.inr (Or.inr (Or.inr (Or.inr
              ⟨hq.symm, Or.inl (WriteTran.next.inj h).symm⟩)))))
          | (split at h
             · exact Or.inr (Or.inr (Or.inr (Or.inr (Or.inr (Or.inr
                 ⟨hq.symm, Or.inr (WriteTran.next.inj h).symm⟩)))))
             · exact absurd h (by simp only [reduceCtorEq, not_false_eq_true]))
          | exact absurd h (by simp only [reduceCtorEq, not_false_eq_true])

/-- A write transition changes post-handshake authentication in two states only. -/
theorem phaTransition_eq {s : SSL ω} (hreq : s.statem.handState ≠ .swCertReq)
    (hfin : s.statem.handState ≠ .srFinished) : phaTransition s = s.postHandshakeAuth := by
  unfold phaTransition
  split
  · split
    · rename_i hst _
      exact absurd hst hreq
    · rename_i hst _
      exact absurd hst hfin
    · rfl
  · rfl

/-- What a server writes next. -/
theorem server_writes {s : SSL ω} {q : Stage} {st : HandState} (hs : Poised s q)
    (hsv : s.server = true) (h : writeTransition env s = .next st) :
    (phaTransition s = s.postHandshakeAuth ∧
      (q = .hello (s.helloRetryRequest = .complete) ∧ st = .swSrvrHello ∨
        q = .retry ∧ s.helloRetryRequest = .pending ∧ (st = .swChange ∨ st = .earlyData) ∨
        q = .answer ∧ s.helloRetryRequest ≠ .pending ∧
          (st = .swChange ∨ st = .swEncryptedExtensions) ∨
        q = .extensions ∧ (st = .swFinished ∨ st = .swCertReq ∨ st = .swCert))) ∨
    (q = .request ∧ st = .swCert) ∨
    (q = .serverCert s.asked ∧ st = .swCertVrfy) ∨
    (q = .serverVerify s.asked ∧ st = .swFinished) ∨
    (q = .serverFinished s.asked ∧ st = .earlyData) ∨
    (q = .connected ∧ phaTransition s = .requestPending ∧ st = .swCertReq) ∨
    (q = (if phaTransition s = .requested then .laterRequest else .connected) ∧
      (st = .ok ∨ st = .swSessionTicket ∨ st = .swKeyUpdate)) := by
  have hq := hs.stage
  simp only [SSL.stage, hsv, if_true] at hq
  have h13 : s.tls13 = true := by
    by_contra hne
    rw [Bool.not_eq_true] at hne
    exact absurd (hsv.symm.trans (writeTransition_unversioned hs.placed hne h).1)
      Bool.noConfusion
  have hpha : ∀ st', s.statem.handState = st' → st' ≠ .swCertReq → st' ≠ .srFinished →
      phaTransition s = s.postHandshakeAuth := by
    rintro st' rfl h1 h2
    exact phaTransition_eq h1 h2
  simp only [writeTransition, h13, hsv, if_true, server13WriteTransition] at h
  split at h
  · -- With the handshake over there are new keys, a request or tickets to write.
    rename_i hst
    have hp := hpha _ hst HandState.noConfusion HandState.noConfusion
    simp only [hst, serverStage, Option.some.injEq] at hq
    split at h
    · refine Or.inr (Or.inr (Or.inr (Or.inr (Or.inr (Or.inr ⟨?_, ?_⟩)))))
      · rw [hp]; exact hq.symm
      · exact Or.inr (Or.inr (WriteTran.next.inj h).symm)
    · split at h
      · rename_i hreq
        rw [hreq, if_neg PhaState.noConfusion] at hq
        exact Or.inr (Or.inr (Or.inr (Or.inr (Or.inr (Or.inl
          ⟨hq.symm, hp.trans hreq, (WriteTran.next.inj h).symm⟩)))))
      · split at h
        · refine Or.inr (Or.inr (Or.inr (Or.inr (Or.inr (Or.inr ⟨?_, ?_⟩)))))
          · rw [hp]; exact hq.symm
          · exact Or.inr (Or.inl (WriteTran.next.inj h).symm)
        · exact absurd h (by simp only [reduceCtorEq, not_false_eq_true])
  · rename_i hst
    have hp := hpha _ hst HandState.noConfusion HandState.noConfusion
    simp only [hst, serverStage, Option.some.injEq] at hq
    exact Or.inl ⟨hp, Or.inl ⟨hq.symm, (WriteTran.next.inj h).symm⟩⟩
  · -- A server that sends the client back waits for its next hello.
    rename_i hst
    have hp := hpha _ hst HandState.noConfusion HandState.noConfusion
    simp only [hst, serverStage, Option.some.injEq] at hq
    refine Or.inl ⟨hp, ?_⟩
    by_cases hpend : s.helloRetryRequest = .pending
    · rw [if_pos hpend] at hq
      refine Or.inr (Or.inl ⟨hq.symm, hpend, ?_⟩)
      rw [if_pos hpend] at h
      split at h
      · exact Or.inl (WriteTran.next.inj h).symm
      · exact Or.inr (WriteTran.next.inj h).symm
    · rw [if_neg hpend] at hq
      refine Or.inr (Or.inr (Or.inl ⟨hq.symm, hpend, ?_⟩))
      rw [if_neg hpend] at h
      split at h
      · exact Or.inl (WriteTran.next.inj h).symm
      · exact Or.inr (WriteTran.next.inj h).symm
  · rename_i hst
    have hp := hpha _ hst HandState.noConfusion HandState.noConfusion
    simp only [hst, serverStage, Option.some.injEq] at hq
    refine Or.inl ⟨hp, ?_⟩
    by_cases hpend : s.helloRetryRequest = .pending
    · rw [if_pos hpend] at hq h
      exact Or.inr (Or.inl ⟨hq.symm, hpend, Or.inr (WriteTran.next.inj h).symm⟩)
    · rw [if_neg hpend] at hq h
      exact Or.inr (Or.inr (Or.inl ⟨hq.symm, hpend, Or.inr (WriteTran.next.inj h).symm⟩))
  · -- Behind its extensions the server finishes, asks, or shows its certificate.
    rename_i hst
    have hp := hpha _ hst HandState.noConfusion HandState.noConfusion
    simp only [hst, serverStage, Option.some.injEq] at hq
    refine Or.inl ⟨hp, Or.inr (Or.inr (Or.inr ⟨hq.symm, ?_⟩))⟩
    rw [← WriteTran.next.inj h]
    split
    · exact Or.inl rfl
    · split
      · exact Or.inr (Or.inl rfl)
      · exact Or.inr (Or.inr rfl)
  · -- A request that is out after the handshake is not followed by a certificate.
    rename_i hst
    simp only [hst, serverStage, Option.some.injEq] at hq
    by_cases hreq : s.postHandshakeAuth = .requestPending
    · have hp : phaTransition s = .requested := by
        simp only [phaTransition, h13, hsv, hst, hreq, Bool.and_self, if_true]
      rw [if_pos hreq] at hq h
      refine Or.inr (Or.inr (Or.inr (Or.inr (Or.inr (Or.inr ⟨?_, ?_⟩)))))
      · rw [hp, if_pos rfl]
        exact hq.symm
      · exact Or.inl (WriteTran.next.inj h).symm
    · rw [if_neg hreq] at hq h
      exact Or.inr (Or.inl ⟨hq.symm, (WriteTran.next.inj h).symm⟩)
  · rename_i hst
    simp only [hst, serverStage, Option.some.injEq] at hq
    exact Or.inr (Or.inr (Or.inl ⟨hq.symm, (WriteTran.next.inj h).symm⟩))
  · rename_i hst
    simp only [hst, serverStage, Option.some.injEq] at hq
    exact Or.inr (Or.inr (Or.inr (Or.inl ⟨hq.symm, (WriteTran.next.inj h).symm⟩)))
  · rename_i hst
    simp only [hst, serverStage, Option.some.injEq] at hq
    exact Or.inr (Or.inr (Or.inr (Or.inr (Or.inl ⟨hq.symm, (WriteTran.next.inj h).symm⟩))))
  · exact absurd h (by simp only [reduceCtorEq, not_false_eq_true])
  · -- The client's answer to a request ends it.
    rename_i hst
    simp only [hst, serverStage, Option.some.injEq] at hq
    have hp : phaTransition s ≠ .requested := by
      simp only [phaTransition, h13, hsv, hst, Bool.and_self, if_true]
      cases s.postHandshakeAuth <;> exact PhaState.noConfusion
    refine Or.inr (Or.inr (Or.inr (Or.inr (Or.inr (Or.inr ⟨?_, ?_⟩)))))
    · rw [if_neg hp]
      exact hq.symm
    · split at h
      · exact Or.inl (WriteTran.next.inj h).symm
      · rw [← WriteTran.next.inj h]
        split
        · exact Or.inr (Or.inl rfl)
        · exact Or.inl rfl
  · rename_i hst
    have hp := hpha _ hst HandState.noConfusion HandState.noConfusion
    simp only [hst, serverStage, Option.some.injEq] at hq
    refine Or.inr (Or.inr (Or.inr (Or.inr (Or.inr (Or.inr ⟨?_, ?_⟩)))))
    · rw [hp]
      exact hq.symm
    · exact Or.inl (WriteTran.next.inj h).symm
  · rename_i hst
    have hp := hpha _ hst HandState.noConfusion HandState.noConfusion
    simp only [hst, serverStage, Option.some.injEq] at hq
    refine Or.inr (Or.inr (Or.inr (Or.inr (Or.inr (Or.inr ⟨?_, ?_⟩)))))
    · rw [hp]
      exact hq.symm
    · exact Or.inl (WriteTran.next.inj h).symm
  · rename_i hst
    have hp := hpha _ hst HandState.noConfusion HandState.noConfusion
    simp only [hst, serverStage, Option.some.injEq] at hq
    refine Or.inr (Or.inr (Or.inr (Or.inr (Or.inr (Or.inr ⟨?_, ?_⟩)))))
    · rw [hp]
      exact hq.symm
    · split at h
      · exact Or.inr (Or.inl (WriteTran.next.inj h).symm)
      · rw [← WriteTran.next.inj h]
        split
        · exact Or.inl rfl
        · exact Or.inr (Or.inl rfl)
  · exact absurd h (by simp only [reduceCtorEq, not_false_eq_true])

/-- What a client reads next. -/
theorem client_reads {s : SSL ω} {q : Stage} {mt : MsgType} {st : HandState} (hs : Poised s q)
    (hsv : s.server = false) (hflow : s.statem.state = .reading)
    (h : readTransition env s mt = some st) :
    (s.tls13 = false ∧ q = .hello (s.helloRetryRequest ≠ .none) ∧ mt = .serverHello ∧
      st = .crSrvrHello) ∨
    (s.tls13 = true ∧
      (q = .answer ∧ mt = .encryptedExtensions ∧ st = .crEncryptedExtensions ∨
        q = .extensions ∧ (mt = .finished ∧ st = .crFinished ∨
          mt = .certificateRequest ∧ st = .crCertReq ∧ s.statem.handState ≠ .ok ∨
          mt = .certificate ∧ st = .crCert) ∨
        q = .request ∧ mt = .certificate ∧ st = .crCert ∨
        q = .serverCert s.asked ∧ mt = .certificateVerify ∧ st = .crCertVrfy ∨
        q = .serverVerify s.asked ∧ mt = .finished ∧ st = .crFinished ∨
        q = .connected ∧ (mt = .newsessionTicket ∧ st = .crSessionTicket ∨
          mt = .keyUpdate ∧ st = .crKeyUpdate ∨
          mt = .certificateRequest ∧ st = .crCertReq ∧ s.statem.handState = .ok))) := by
  have hq := hs.stage
  simp only [SSL.stage, hsv, Bool.false_eq_true, if_false] at hq
  cases h13 : s.tls13 with
  | false =>
      -- Without a version only the answer to a hello is read.
      rcases hs.placed.version h13 with ⟨-, hread⟩ | ⟨-, hst⟩ | ⟨-, -, hw, -⟩
      · exact absurd hflow (hread hsv)
      · simp only [hst, clientStage, Option.some.injEq] at hq
        simp only [readTransition, h13, hsv, hst, Bool.false_eq_true, if_false] at h
        split at h
        · rename_i hmt
          exact Or.inl ⟨rfl, hq.symm, hmt, (Option.some.inj h).symm⟩
        · exact absurd h (by simp only [reduceCtorEq, not_false_eq_true])
      · exact absurd (hflow.symm.trans hw) MsgFlow.noConfusion
  | true =>
      refine Or.inr ⟨rfl, ?_⟩
      simp only [readTransition, h13, hsv, if_true, Bool.false_eq_true, if_false,
        client13ReadTransition] at h
      rw [h13] at hq
      split at h
      · -- The version is not known before the answer.
        rename_i hst
        simp only [hst, clientStage, Option.some.injEq] at hq
        have hno := hs.unversioned hsv (by rw [← hq]; rfl)
        exact absurd (h13.symm.trans hno) Bool.noConfusion
      · rename_i hst
        simp only [hst, clientStage, if_true, Option.some.injEq] at hq
        exact Or.inl ⟨hq.symm, rfl, (Option.some.inj h).symm⟩
      · -- Behind the extensions a session that is resumed has its Finished.
        rename_i hst
        simp only [hst, clientStage, Option.some.injEq] at hq
        split at h
        · exact Or.inr (Or.inl ⟨hq.symm, Or.inl ⟨rfl, (Option.some.inj h).symm⟩⟩)
        · exact absurd h (by simp only [reduceCtorEq, not_false_eq_true])
      · rename_i hst
        simp only [hst, clientStage, Option.some.injEq] at hq
        split at h
        · exact absurd h (by simp only [reduceCtorEq, not_false_eq_true])
        · exact Or.inr (Or.inl ⟨hq.symm, Or.inr (Or.inl ⟨rfl, (Option.some.inj h).symm,
            by rw [hst]; exact HandState.noConfusion⟩)⟩)
      · rename_i hst
        simp only [hst, clientStage, Option.some.injEq] at hq
        split at h
        · exact absurd h (by simp only [reduceCtorEq, not_false_eq_true])
        · exact Or.inr (Or.inl ⟨hq.symm, Or.inr (Or.inr ⟨rfl, (Option.some.inj h).symm⟩)⟩)
      · rename_i hst
        simp only [hst, clientStage] at hq
        split at hq
        · -- A request after the handshake is answered at once.
          have hw := hs.later hsv (Option.some.inj hq).symm
          exact absurd (hflow.symm.trans hw) MsgFlow.noConfusion
        · exact Or.inr (Or.inr (Or.inl
            ⟨(Option.some.inj hq).symm, rfl, (Option.some.inj h).symm⟩))
      · rename_i hst
        simp only [hst, clientStage, Option.some.injEq] at hq
        exact Or.inr (Or.inr (Or.inr (Or.inl ⟨hq.symm, rfl, (Option.some.inj h).symm⟩)))
      · rename_i hst
        simp only [hst, clientStage, Option.some.injEq] at hq
        exact Or.inr (Or.inr (Or.inr (Or.inr (Or.inl ⟨hq.symm, rfl, (Option.some.inj h).symm⟩))))
      · rename_i hst
        simp only [hst, clientStage, Option.some.injEq] at hq
        exact Or.inr (Or.inr (Or.inr (Or.inr (Or.inr
          ⟨hq.symm, Or.inl ⟨rfl, (Option.some.inj h).symm⟩⟩))))
      · rename_i hst
        simp only [hst, clientStage, Option.some.injEq] at hq
        exact Or.inr (Or.inr (Or.inr (Or.inr (Or.inr
          ⟨hq.symm, Or.inr (Or.inl ⟨rfl, (Option.some.inj h).symm⟩)⟩))))
      · rename_i hst
        simp only [hst, clientStage, Option.some.injEq] at hq
        split at h
        · exact Or.inr (Or.inr (Or.inr (Or.inr (Or.inr
            ⟨hq.symm, Or.inr (Or.inr ⟨rfl, (Option.some.inj h).symm, hst⟩)⟩))))
        · exact absurd h (by simp only [reduceCtorEq, not_false_eq_true])
      · exact absurd h (by simp only [reduceCtorEq, not_false_eq_true])

/-- After the server's Finished the client goes on with what it was asked for. -/
theorem flight_cases {mt : MsgType} {asked : Bool} {st : HandState}
    (h : (match mt with
      | .certificate => if asked then some HandState.srCert else none
      | .finished => if asked then none else some HandState.srFinished
      | _ => none) = some st) :
    asked = true ∧ mt = .certificate ∧ st = .srCert ∨
      asked = false ∧ mt = .finished ∧ st = .srFinished := by
  split at h
  · split at h
    · rename_i hreq
      exact Or.inl ⟨hreq, rfl, (Option.some.inj h).symm⟩
    · exact absurd h (by simp only [reduceCtorEq, not_false_eq_true])
  · split at h
    · exact absurd h (by simp only [reduceCtorEq, not_false_eq_true])
    · rename_i hreq
      exact Or.inr ⟨Bool.not_eq_true _ ▸ hreq, rfl, (Option.some.inj h).symm⟩
  · exact absurd h (by simp only [reduceCtorEq, not_false_eq_true])

/-- What a server reads next. -/
theorem server_reads {s : SSL ω} {q : Stage} {mt : MsgType} {st : HandState} (hs : Poised s q)
    (hsv : s.server = true) (h : readTransition env s mt = some st) :
    (q = .start ∧ s.helloRetryRequest = .none ∧ mt = .clientHello ∧ st = .srClntHello) ∨
    (q = .retry ∧ s.helloRetryRequest = .pending ∧ mt = .clientHello ∧ st = .srClntHello) ∨
    (s.helloRetryRequest ≠ .pending ∧
      (q = .serverFinished s.asked ∧ (s.asked = true ∧ mt = .certificate ∧ st = .srCert ∨
          s.asked = false ∧ mt = .finished ∧ st = .srFinished) ∨
        q = .clientCert ∧ (mt = .finished ∧ st = .srFinished ∨
          mt = .certificateVerify ∧ st = .srCertVrfy) ∨
        q = .clientVerify ∧ mt = .finished ∧ st = .srFinished ∨
        q = .laterRequest ∧ mt = .certificate ∧ st = .srCert ∨
        q = (if s.postHandshakeAuth = .requested then .laterRequest else .connected) ∧
          mt = .keyUpdate ∧ st = .srKeyUpdate)) := by
  have hq := hs.stage
  simp only [SSL.stage, hsv, if_true] at hq
  have hnp : (q ≠ .hello false ∧ q ≠ .retry) → s.helloRetryRequest ≠ .pending :=
    fun hne hpend => (hs.pending hsv hpend).elim hne.1 hne.2
  have hasked : s.asked = s.tmp.certRequest := by
    simp only [SSL.asked, hsv, if_true]
  cases h13 : s.tls13 with
  | false =>
      rcases unversioned_cases hs h13 with hst | ⟨hclient, -⟩
      · simp only [hst, serverStage, Option.some.injEq] at hq
        simp only [readTransition, h13, hsv, hst, Bool.false_eq_true, if_false] at h
        split at h
        · rename_i hmt
          exact Or.inl ⟨hq.symm, hs.placed.fresh hst, hmt, (Option.some.inj h).symm⟩
        · exact absurd h (by simp only [reduceCtorEq, not_false_eq_true])
      · exact absurd (hsv.symm.trans hclient) Bool.noConfusion
  | true =>
      simp only [readTransition, h13, hsv, if_true, server13ReadTransition] at h
      split at h
      · -- A server that sent the client back waits for its hello, and else for its flight.
        rename_i hst
        simp only [hst, serverStage, Option.some.injEq] at hq
        split at h
        · rename_i hpend
          rw [if_pos hpend] at hq
          split at h
          · rename_i hmt
            exact Or.inr (Or.inl ⟨hq.symm, hpend, hmt, (Option.some.inj h).symm⟩)
          · exact absurd h (by simp only [reduceCtorEq, not_false_eq_true])
        · rename_i hpend
          rw [if_neg hpend] at hq
          exact Or.inr (Or.inr ⟨hpend, Or.inl ⟨hq.symm, by rw [hasked]; exact flight_cases h⟩⟩)
      · rename_i hst
        simp only [hst, serverStage, reduceCtorEq] at hq
      · rename_i hst
        simp only [hst, serverStage, Option.some.injEq] at hq
        exact Or.inr (Or.inr ⟨hnp (by rw [← hq]; exact ⟨Stage.noConfusion, Stage.noConfusion⟩),
          Or.inl ⟨hq.symm, by rw [hasked]; exact flight_cases h⟩⟩)
      · rename_i hst
        simp only [hst, serverStage, Option.some.injEq] at hq
        refine Or.inr (Or.inr ⟨hnp (by rw [← hq]; exact ⟨Stage.noConfusion, Stage.noConfusion⟩),
          Or.inr (Or.inl ⟨hq.symm, ?_⟩)⟩)
        split at h
        · split at h
          · rename_i hmt
            exact Or.inl ⟨hmt, (Option.some.inj h).symm⟩
          · exact absurd h (by simp only [reduceCtorEq, not_false_eq_true])
        · split at h
          · rename_i hmt
            exact Or.inr ⟨hmt, (Option.some.inj h).symm⟩
          · exact absurd h (by simp only [reduceCtorEq, not_false_eq_true])
      · rename_i hst
        simp only [hst, serverStage, Option.some.injEq] at hq
        refine Or.inr (Or.inr ⟨hnp (by rw [← hq]; exact ⟨Stage.noConfusion, Stage.noConfusion⟩),
          Or.inr (Or.inr (Or.inl ⟨hq.symm, ?_⟩))⟩)
        split at h
        · rename_i hmt
          exact ⟨hmt, (Option.some.inj h).symm⟩
        · exact absurd h (by simp only [reduceCtorEq, not_false_eq_true])
      · rename_i hst
        simp only [hst, serverStage, Option.some.injEq] at hq
        refine Or.inr (Or.inr ⟨hnp ?_, Or.inr (Or.inr (Or.inr ?_))⟩)
        · rw [← hq]
          split <;> exact ⟨Stage.noConfusion, Stage.noConfusion⟩
        · -- Only a request that is out has an answer.
          split at h
          · rename_i hreq
            rw [if_pos hreq.2] at hq
            exact Or.inl ⟨hq.symm, hreq.1, (Option.some.inj h).symm⟩
          · split at h
            · rename_i hmt
              exact Or.inr ⟨hq.symm, hmt, (Option.some.inj h).symm⟩
            · exact absurd h (by simp only [reduceCtorEq, not_false_eq_true])
      · exact absurd h (by simp only [reduceCtorEq, not_false_eq_true])

end Transitions

section Others

variable {env : Env ω}

/-- A handshake starts at the beginning of the dialogue, if no request is on its way. -/
theorem poised_started {server : Bool} {s u t : SSL ω}
    (hset : s.postHandshakeAuth.settled = true) (hclear : sslClear env s = some (true, u))
    (hp : runPhase env .setupHandshake [] { u with
      server := server, extflags := [], tmp := { u.tmp with certReq := 0 } } = some (true, t)) :
    Poised (t.turn .writing) .start ∧ (t.turn .writing).dialogue = [] := by
  have hplaced := (placed_started hclear hp).1
  have hst := handState_started env hclear hp
  have ht := touches_runOther _ _ true t hp
  -- Clearing takes away what the last handshake left, the offer excepted.
  have hu : u.tls13 = false ∧ u.tmp.certRequest = false ∧ u.helloRetryRequest = .none ∧
      u.postHandshakeAuth = s.postHandshakeAuth ∧ u.trace = .clear :: s.trace := by
    simp only [sslClear] at hclear
    split at hclear
    · exact absurd hclear (by simp only [Option.some.injEq, Prod.mk.injEq, Bool.false_eq_true,
        false_and, not_false_eq_true])
    · rw [← (Prod.mk.inj (Option.some.inj hclear)).2]
      exact ⟨rfl, rfl, rfl, rfl, rfl⟩
  have hhrr : t.helloRetryRequest = .none := (ht.hrr (by decide)).trans hu.2.2.1
  have h13 : t.tls13 = false := (ht.tls13 (by decide)).trans hu.1
  have hpha : t.postHandshakeAuth = s.postHandshakeAuth := (ht.pha (by decide)).trans hu.2.2.2.1
  have hreq : t.tmp.certReq = 0 := ht.certReq (by decide)
  have hrequest : t.tmp.certRequest = false := (ht.certRequest (by decide)).trans hu.2.1
  have hasked : t.asked = false := by
    simp only [SSL.asked, hreq, hrequest, ne_eq, not_true_eq_false, decide_false, ite_self]
  constructor
  · refine ⟨hplaced, fun h => absurd h MsgFlow.noConfusion, ?_, fun b hb => ?_, fun _ => ?_,
      fun _ h => ?_, fun _ _ => h13, fun _ _ => rfl⟩
    · change t.stage = some .start
      simp only [SSL.stage, hst, serverStage, clientStage, ite_self]
    · change t.asked = b
      rw [hasked]
      exact Option.some.inj hb
    · change t.postHandshakeAuth.settled = true
      rw [hpha]
      exact hset
    · exact absurd (hhrr.symm.trans h) HrrState.noConfusion
  · change t.dialogue = []
    -- Behind the clearing nothing was said yet.
    rw [dialogue_grows (s := { u with server := server, extflags := [], tmp := { u.tmp with
      certReq := 0 } }) (ht.server (by decide)) ht.grows]
    exact dialogue_cleared hu.2.2.2.2

theorem poised_reentered {s : SSL ω} {q : Stage} (hs : Poised s q)
    (hflow : s.statem.state = .finished) : Poised (reenterEvent s) q :=
  ⟨placed_reentered hs.placed hflow, fun h => absurd h MsgFlow.noConfusion, hs.stage, hs.asked,
    hs.settled, hs.pending, hs.unversioned, fun _ _ => rfl⟩

/-- The calls of the application are made before a handshake or after it. -/
theorem poised_configured {c : ConfigCall} {s t : SSL ω} {b : Bool} {q : Stage} (hs : Poised s q)
    (hflow : s.statem.state = .finished) (h : configCall env c s = some (b, t)) : Poised t q := by
  rcases touches_configCall env c s b t h with ⟨hu', hstate⟩
  have hu := touches_mono (configFields_subset c) hu'
  have hst : t.statem.handState = s.statem.handState := hu.handState
  have hok : s.statem.handState = .ok := hs.ended hflow
  have hsv : t.server = s.server := hu.server (by decide)
  have h13 : t.tls13 = s.tls13 := hu.tls13 (by decide)
  have hhrr : t.helloRetryRequest = s.helloRetryRequest := hu.hrr (by decide)
  have hasked : t.asked = s.asked :=
    asked_congr hsv (hu.certReq (by decide)) (hu.certRequest (by decide))
  -- A request that is to be made is not out yet.
  have hpha : t.postHandshakeAuth = s.postHandshakeAuth ∨
      s.postHandshakeAuth = .extReceived ∧ t.postHandshakeAuth = .requestPending := by
    cases c with
    | verifyClientPostHandshake =>
        simp only [configCall, sslVerifyClientPostHandshake] at h
        split at h
        · rename_i hcond
          simp only [Bool.and_eq_true, decide_eq_true_eq] at hcond
          split at h
          · rw [← (Prod.mk.inj (Option.some.inj h)).2]
            exact Or.inr ⟨hcond.2, rfl⟩
          · rw [← (Prod.mk.inj (Option.some.inj h)).2]
            exact Or.inl rfl
        · rw [← (Prod.mk.inj (Option.some.inj h)).2]
          exact Or.inl rfl
    | enableRfc8902Support srv clnt useAt =>
        exact Or.inl (hu'.pha (by simp only [configFields]; decide))
    | own c =>
        exact Or.inl (hu'.pha (by simp only [configFields]; decide))
    | setVerify mode =>
        exact Or.inl (hu'.pha (by simp only [configFields]; decide))
  have hstage : t.stage = s.stage := by
    rcases hpha with hsame | ⟨hrec, hpend⟩
    · simp only [SSL.stage, hsv, hst, h13, hhrr, hasked, hsame]
    · simp only [SSL.stage, hsv, hst, hok, serverStage, clientStage, hrec, hpend, reduceCtorEq,
        if_false]
  refine ⟨placed_configured hs.placed h, fun hf => ?_, hstage.trans hs.stage, fun a ha => ?_,
    fun hq => ?_, fun hv hp => ?_, fun hv hq => ?_, fun hv hq => ?_⟩
  · rw [hstate] at hf
    rw [hst]
    exact hs.ended hf
  · exact hasked.trans (hs.asked a ha)
  · -- A handshake that is over is past the early stages.
    have hq' := hs.stage
    simp only [SSL.stage, hok, serverStage, clientStage] at hq'
    split at hq' <;> (try split at hq') <;>
    · rw [← Option.some.inj hq'] at hq
      exact absurd hq Bool.false_ne_true
  · exact hs.pending (hsv.symm.trans hv) (hhrr.symm.trans hp)
  · exact h13.trans (hs.unversioned (hsv.symm.trans hv) hq)
  · rw [hstate]
    exact hs.later (hsv.symm.trans hv) hq

end Others

end Iso21177
