import Iso21177.Ssl.Poised

/-!
# Hearing the Next Line

What an object reads that agrees with a stage of the dialogue is the next line of it, and
leaves the object at the stage the line leads to. A ServerHello sends the client back or tells
it the version; a ClientHello lets the server ask for another one at most once; a request is
noted, so that the client answers it when it is its turn; and everything else leaves what the
stage needs.

## Theorems

* `pha_phaRequested`, `certReq_crCertReq`, `certReq_crCertVrfy`: What a request leaves.
* `processMessage_crSrvrHello`, `serverHello_cases`, `processMessage_srClntHello`: What a hello
  leaves.
* `server_processed`, `turned_ne_finished`: What every message leaves.
* `poised_client_read`, `poised_server_read`, `poised_read`: A message that was read.
-/

namespace Iso21177

variable {ω : Type}

section Reading

variable {env : Env ω}

/-- A request after the handshake is noted before it is looked at. -/
theorem pha_phaRequested {s u : SSL ω} (h13 : s.tls13 = true) (hsv : s.server = false)
    (h : phaRequested env .crCertReq s = some (true, u)) :
    u.postHandshakeAuth =
      if s.statem.handState = .ok then .requested else s.postHandshakeAuth := by
  simp only [phaRequested, h13, hsv, Bool.not_false, Bool.and_self, Bool.true_and, decide_true,
    Bool.and_true, decide_eq_true_eq] at h
  split at h
  · rename_i hok
    rw [if_pos hok]
    exact (touches_runOther _ _ true u h).pha (by decide)
  · rename_i hok
    rw [if_neg hok, ← (Prod.mk.inj (Option.some.inj h)).2]

/-- The request a client read asks it for a certificate. -/
theorem certReq_crCertReq (hopen : StaysOpen env) {m : Msg} {s t : SSL ω}
    (h13 : s.tls13 = true) (hsv : s.server = false) (hst : s.statem.handState = .crCertReq)
    (h : processMessage env m s = some (true, t)) : t.tmp.certReq ≠ 0 := by
  simp only [processMessage, hsv, Bool.false_eq_true, if_false, clientProcessMessage, hst] at h
  cases m with
  | certificateRequest body => exact certReq_processRequest h13 (hopen _) h
  | _ => exact absurd h (sslFail_ne_true _ _ _ _)

/-- A signature that was checked makes no difference to what was asked for. -/
theorem certReq_crCertVrfy {m : Msg} {s t : SSL ω} (hsv : s.server = false)
    (hst : s.statem.handState = .crCertVrfy) (h : processMessage env m s = some (true, t)) :
    t.tmp.certReq ≠ 0 ↔ s.tmp.certReq ≠ 0 := by
  simp only [processMessage, hsv, Bool.false_eq_true, if_false, clientProcessMessage, hst] at h
  cases m with
  | certificateVerify body =>
      rcases Call.seq_true.mp h with ⟨v, hv, hprep⟩
      have hvt := (touches_tlsProcessCertVerify env _ _ true v hv).certReq (by decide)
      rw [certReq_prepareIfAsked hprep, hvt]
  | _ => exact absurd h (sslFail_ne_true _ _ _ _)

/-- A ServerHello that was accepted is one. -/
theorem processMessage_crSrvrHello {m : Msg} {s t : SSL ω} (hst : s.statem.handState = .crSrvrHello)
    (h : processMessage env m s = some (true, t)) :
    ∃ hrr head exts, m = .serverHello hrr head exts ∧
      tlsProcessServerHello env hrr head exts s = some (true, t) := by
  rcases processMessage_cases h with ⟨-, -, -, hch, -⟩ | ⟨hrr, head, exts, rfl, -, -, hp⟩ | hcert |
    ⟨hother, -⟩
  · exact absurd (hst.symm.trans hch) HandState.noConfusion
  · exact ⟨hrr, head, exts, rfl, hp⟩
  · rw [hst] at hcert
    exact absurd hcert Bool.false_ne_true
  · rw [hst] at hother
    exact absurd hother Bool.noConfusion

/-- A client that is sent back was not before, and one that is not has its version. -/
theorem serverHello_cases (henv : OnlyTls13 env) {hrr : Bool} {head exts : Bytes} {s t : SSL ω}
    (h : tlsProcessServerHello env hrr head exts s = some (true, t)) :
    (hrr = true ∧ s.helloRetryRequest = .none ∧ t.tls13 = s.tls13) ∨
      (hrr = false ∧ t.tls13 = true) := by
  cases hrr with
  | true =>
      refine Or.inl ⟨rfl, ?_,
        (touches_helloRetryRequest env head exts s true t h).tls13 (by decide)⟩
      simp only [tlsProcessServerHello, if_true] at h
      split at h
      · exact absurd h (sslFail_ne_true _ _ _ _)
      · rename_i hn
        exact not_not.mp hn
  | false => exact Or.inr ⟨rfl, serverHello_version henv h⟩

/-- Processing a message leaves the side. -/
theorem server_processed {m : Msg} {st : HandState} {s u t : SSL ω} {b : Bool}
    (hu : Touches [.pha, .other] s true u)
    (hp : processMessage env m ((u.enter st).note (.recv m)) = some (b, t)) :
    t.server = s.server := by
  refine ((touches_processMessage env m _ b t hp).server ?_).trans (hu.server (by decide))
  cases m.mt <;> decide

theorem turned_ne_finished {b : Bool} {s : SSL ω} (hs : s.statem.state = .reading) :
    (if b then s.turn .writing else s).statem.state ≠ .finished := by
  split
  · exact MsgFlow.noConfusion
  · rw [hs]
    exact MsgFlow.noConfusion

/-- A message that a client read is the next line, and the client agrees with where it leads. -/
theorem poised_client_read (henv : OnlyTls13 env) (hopen : StaysOpen env) {m : Msg}
    {st : HandState} {s u t : SSL ω} {q : Stage} (hs : Poised s q) (hside : s.server = false)
    (hflow : s.statem.state = .reading) (htr : readTransition env s m.mt = some st)
    (hph : phaRequested env st s = some (true, u))
    (hp : processMessage env m ((u.enter st).note (.recv m)) = some (true, t)) :
    ∃ q', Stage.next q (true, m) = some q' ∧
      Poised (if doneReading env m t then t.turn .writing else t) q' := by
  have hu := (phaRequested_cases env hph).1
  have hsame := fun hne : st ≠ .crCertReq => ((phaRequested_cases env hph).2 hne).2
  have hplaced := placed_processed henv hs.placed hflow htr hu hp
  rcases statem_processed env hflow hu hp with ⟨hstate, hst⟩
  have ht : Touches (touchedBy m.mt) ((u.enter st).note (.recv m)) true t :=
    touches_processMessage env m _ true t hp
  have hk := (keeps_turned (doneReading env m t) t).1
  have hst' := (keeps_turned (doneReading env m t) t).2.trans hst
  have hserver : ((u.enter st).note (.recv m)).server = false :=
    (hu.server (by decide)).trans hside
  have hu13 : ((u.enter st).note (.recv m)).tls13 = s.tls13 := hu.tls13 (by decide)
  have huhrr : ((u.enter st).note (.recv m)).helloRetryRequest = s.helloRetryRequest :=
    hu.hrr (by decide)
  have hureq : ((u.enter st).note (.recv m)).tmp.certReq = s.tmp.certReq := hu.certReq (by decide)
  have htsv : t.server = false := (server_processed hu hp).trans hside
  have hnotdone := turned_ne_finished (b := doneReading env m t) hstate
  have hstage : ∀ q', clientStage st t.tls13 t.helloRetryRequest t.postHandshakeAuth t.asked =
      some q' → (if doneReading env m t then t.turn .writing else t).stage = some q' := by
    intro q' h
    have hsv := hk.server List.not_mem_nil
    simp only [SSL.stage, SSL.asked, hsv, htsv, hst', hk.tls13 List.not_mem_nil,
      hk.hrr List.not_mem_nil, hk.pha List.not_mem_nil, hk.certReq List.not_mem_nil,
      Bool.false_eq_true, if_false]
    simpa only [SSL.asked, htsv, Bool.false_eq_true, if_false] using h
  -- What is left to say of a stage that the line leads to.
  have hdone : ∀ q', (if doneReading env m t then t.turn .writing else t).stage = some q' →
      (q'.asked = none ∨ q'.asked = some t.asked) →
      (q'.early = false ∨ t.postHandshakeAuth.settled = true) →
      (q'.unversioned = false ∨ t.tls13 = false) →
      (q' ≠ .laterRequest ∨ doneReading env m t = true) →
      Poised (if doneReading env m t then t.turn .writing else t) q' := by
    intro q' hq' hask hearly hunv hlater
    have hsv := (hk.server List.not_mem_nil).trans htsv
    refine ⟨hplaced, fun h => absurd h hnotdone, hq', fun b hb => ?_, fun h => ?_, fun h => ?_,
      fun _ h => ?_, fun _ h => ?_⟩
    · rw [← Option.some.inj ((hask.resolve_left
        (by rw [hb]; exact Option.some_ne_none b)).symm.trans hb)]
      simp only [SSL.asked, hk.server List.not_mem_nil, hk.certReq List.not_mem_nil,
        hk.certRequest List.not_mem_nil]
    · rw [hk.pha List.not_mem_nil]
      exact hearly.resolve_left (by rw [h]; exact Bool.noConfusion)
    · exact absurd (hsv.symm.trans h) Bool.noConfusion
    · rw [hk.tls13 List.not_mem_nil]
      exact hunv.resolve_left (by rw [h]; exact Bool.noConfusion)
    · rw [if_pos (hlater.resolve_left (not_not.mpr h))]
      rfl
  have hasked : t.tmp.certReq = s.tmp.certReq → t.asked = s.asked := by
    intro h
    simp only [SSL.asked, htsv, hside, h, Bool.false_eq_true, if_false]
  -- Past the hellos nothing but a request changes what was asked for.
  have hlate : .certReq ∉ touchedBy m.mt → t.asked = s.asked :=
    fun h => hasked ((ht.certReq h).trans hureq)
  rcases client_reads hs hside hflow htr with ⟨hno, rfl, hm, rfl⟩ | ⟨hyes, ⟨rfl, hm, rfl⟩ |
    ⟨rfl, ⟨hm, rfl⟩ | ⟨hm, rfl, hnok⟩ | ⟨hm, rfl⟩⟩ | ⟨rfl, hm, rfl⟩ | ⟨rfl, hm, rfl⟩ |
    ⟨rfl, hm, rfl⟩ | ⟨rfl, ⟨hm, rfl⟩ | ⟨hm, rfl⟩ | ⟨hm, rfl, hok⟩⟩⟩
  · -- The ServerHello sends the client back, or the version is known.
    obtain rfl := hsame HandState.noConfusion
    rcases processMessage_crSrvrHello rfl hp with ⟨hrr, head, exts, rfl, hhello⟩
    have hask : t.asked = false :=
      (hlate (by change Field.certReq ∉ readHelloFields; decide)).trans (hs.asked false rfl)
    have hset : t.postHandshakeAuth.settled = true :=
      settling_tlsProcessServerHello hrr head exts _ true t hhello (hs.settled rfl)
    rcases serverHello_cases henv hhello with ⟨rfl, hnone, h13⟩ | ⟨rfl, h13⟩
    · have hnone' : u.helloRetryRequest = .none := hnone
      have h13' : t.tls13 = false := h13.trans hno
      refine ⟨.retry, ?_, hdone _ (hstage _ ?_) (Or.inr ?_) (Or.inr hset)
        (Or.inr h13') (Or.inl Stage.noConfusion)⟩
      · simp only [Stage.next, Msg.mt, Msg.retry, if_true, hnone', ne_eq, not_true_eq_false,
          decide_false, Bool.false_eq_true, if_false]
      · simp only [clientStage, h13', Bool.false_eq_true, if_false]
      · rw [hask]; rfl
    · refine ⟨.answer, ?_, hdone _ (hstage _ ?_) (Or.inr ?_) (Or.inr hset) (Or.inl rfl)
        (Or.inl Stage.noConfusion)⟩
      · simp only [Stage.next, Msg.mt, Msg.retry, Bool.false_eq_true, if_false]
      · simp only [clientStage, h13, if_true]
      · rw [hask]; rfl
  · -- Nothing was asked for when EncryptedExtensions come.
    obtain rfl := hsame HandState.noConfusion
    rw [hm] at ht hlate
    have hask : t.asked = false := (hlate (by decide)).trans (hs.asked false rfl)
    refine ⟨.extensions, ?_, hdone _ (hstage _ rfl) (Or.inr ?_) (Or.inr ?_) (Or.inl rfl)
      (Or.inl Stage.noConfusion)⟩
    · simp only [Stage.next, hm]
    · rw [hask]; rfl
    · rw [ht.pha (by decide)]
      exact hs.settled rfl
  · -- The Finished of a session that is resumed.
    rw [hm] at hlate
    have hask : t.asked = false := (hlate (by decide)).trans (hs.asked false rfl)
    refine ⟨.serverFinished false, ?_, hdone _ (hstage _ ?_) (Or.inr ?_) (Or.inl rfl) (Or.inl rfl)
      (Or.inl Stage.noConfusion)⟩
    · simp only [Stage.next, hm]
    · simp only [clientStage, hask]
    · rw [hask]; rfl
  · -- During the handshake a request is not one after it.
    rw [hm] at ht
    have hreq := certReq_crCertReq hopen (hu13.trans hyes) hserver rfl hp
    have hask : t.asked = true := by
      simp only [SSL.asked, htsv, hreq, Bool.false_eq_true, if_false, ne_eq, not_false_eq_true,
        decide_true]
    have hpha : t.postHandshakeAuth = s.postHandshakeAuth := by
      refine (ht.pha (by decide)).trans ((pha_phaRequested hyes hside hph).trans ?_)
      rw [if_neg hnok]
    have hnot : t.postHandshakeAuth ≠ .requested := by
      intro h
      have hset := hs.settled rfl
      rw [← hpha, h] at hset
      exact Bool.noConfusion hset
    refine ⟨.request, ?_, hdone _ (hstage _ ?_) (Or.inr ?_) (Or.inl rfl) (Or.inl rfl)
      (Or.inl Stage.noConfusion)⟩
    · simp only [Stage.next, hm]
    · simp only [clientStage, hnot, if_false]
    · rw [hask]; rfl
  · -- Certificate without a request before it, and then behind one.
    rw [hm] at hlate
    have hask : t.asked = false := (hlate (by decide)).trans (hs.asked false rfl)
    refine ⟨.serverCert false, ?_, hdone _ (hstage _ ?_) (Or.inr ?_) (Or.inl rfl) (Or.inl rfl)
      (Or.inl Stage.noConfusion)⟩
    · simp only [Stage.next, hm]
    · simp only [clientStage, hask]
    · rw [hask]; rfl
  · rw [hm] at hlate
    have hask : t.asked = true := (hlate (by decide)).trans (hs.asked true rfl)
    refine ⟨.serverCert true, ?_, hdone _ (hstage _ ?_) (Or.inr ?_) (Or.inl rfl) (Or.inl rfl)
      (Or.inl Stage.noConfusion)⟩
    · simp only [Stage.next, hm]
    · simp only [clientStage, hask]
    · rw [hask]; rfl
  · -- The client's own certificate is prepared here, if one was asked for.
    have hreq := certReq_crCertVrfy hserver rfl hp
    have hask : t.asked = s.asked := by
      simp only [SSL.asked, htsv, hside, Bool.false_eq_true, if_false, decide_eq_decide]
      rw [hreq, hureq]
    refine ⟨.serverVerify s.asked, ?_, hdone _ (hstage _ ?_) (Or.inr ?_) (Or.inl rfl) (Or.inl rfl)
      (Or.inl Stage.noConfusion)⟩
    · simp only [Stage.next, hm]
    · simp only [clientStage, hask]
    · rw [hask]; rfl
  · -- The Finished leaves what was asked for.
    rw [hm] at hlate
    have hask : t.asked = s.asked := hlate (by decide)
    refine ⟨.serverFinished s.asked, ?_, hdone _ (hstage _ ?_) (Or.inr ?_) (Or.inl rfl) (Or.inl rfl)
      (Or.inl Stage.noConfusion)⟩
    · simp only [Stage.next, hm]
    · simp only [clientStage, hask]
    · rw [hask]; rfl
  · -- Behind the handshake a ticket or new keys change no stage.
    refine ⟨.connected, ?_, hdone _ (hstage _ rfl) (Or.inl rfl) (Or.inl rfl) (Or.inl rfl)
      (Or.inl Stage.noConfusion)⟩
    simp only [Stage.next, hm]
  · refine ⟨.connected, ?_, hdone _ (hstage _ rfl) (Or.inl rfl) (Or.inl rfl) (Or.inl rfl)
      (Or.inl Stage.noConfusion)⟩
    simp only [Stage.next, hm]
  · -- A request behind the handshake is noted before it is processed.
    rw [hm] at ht
    have hpha : t.postHandshakeAuth = .requested := by
      refine (ht.pha (by decide)).trans ((pha_phaRequested hyes hside hph).trans ?_)
      rw [if_pos hok]
    have h13 : t.tls13 = true := (ht.tls13 (by decide)).trans (hu13.trans hyes)
    refine ⟨.laterRequest, ?_, hdone _ (hstage _ ?_) (Or.inl rfl) (Or.inl rfl) (Or.inl rfl)
      (Or.inr ?_)⟩
    · simp only [Stage.next, hm]
    · simp only [clientStage, hpha, if_true]
    · simp only [doneReading, htsv, hst, h13, hpha, decide_true, Bool.or_true, Bool.and_self]

/-- A ClientHello that was accepted leaves a retry to be asked for once, and no request on its
    way. -/
theorem processMessage_srClntHello (henv : OnlyTls13 env) {m : Msg} {s t : SSL ω}
    (hsv : s.server = true) (hst : s.statem.handState = .srClntHello)
    (h : processMessage env m s = some (true, t)) :
    (s.helloRetryRequest = .none → t.helloRetryRequest = .none ∨ t.helloRetryRequest = .pending) ∧
      (s.helloRetryRequest ≠ .none → t.helloRetryRequest = .complete) ∧
      (s.postHandshakeAuth.settled = true → t.postHandshakeAuth.settled = true) := by
  rcases processMessage_cases h with ⟨head, exts, -, -, hp⟩ | ⟨-, -, -, -, hclient, -⟩ | hcert |
    ⟨hother, -⟩
  · rcases Call.seq_true.mp hp with ⟨v, hv, hpost⟩
    have hvt := touches_tlsPostProcessClientHello env v true t hpost
    rcases hrr_tlsProcessClientHello henv hsv hv with ⟨hfirst, hagain⟩
    rw [hvt.hrr (by decide), hvt.pha (by decide)]
    exact ⟨hfirst, hagain, settling_tlsProcessClientHello head exts s true v hv⟩
  · exact absurd (hsv.symm.trans hclient) Bool.noConfusion
  · rw [hst] at hcert
    exact absurd hcert Bool.false_ne_true
  · rw [hst] at hother
    exact absurd hother Bool.noConfusion

/-- A message that a server read is the next line, and the server agrees with where it leads. -/
theorem poised_server_read (henv : OnlyTls13 env) {m : Msg} {st : HandState} {s u t : SSL ω}
    {q : Stage} (hs : Poised s q) (hside : s.server = true) (hflow : s.statem.state = .reading)
    (htr : readTransition env s m.mt = some st) (hph : phaRequested env st s = some (true, u))
    (hp : processMessage env m ((u.enter st).note (.recv m)) = some (true, t)) :
    ∃ q', Stage.next q (false, m) = some q' ∧
      Poised (if doneReading env m t then t.turn .writing else t) q' := by
  have hu := (phaRequested_cases env hph).1
  have hplaced := placed_processed henv hs.placed hflow htr hu hp
  rcases statem_processed env hflow hu hp with ⟨hstate, hst⟩
  have ht : Touches (touchedBy m.mt) ((u.enter st).note (.recv m)) true t :=
    touches_processMessage env m _ true t hp
  have hk := (keeps_turned (doneReading env m t) t).1
  have hst' := (keeps_turned (doneReading env m t) t).2.trans hst
  have hserver : ((u.enter st).note (.recv m)).server = true :=
    (hu.server (by decide)).trans hside
  have huhrr : ((u.enter st).note (.recv m)).helloRetryRequest = s.helloRetryRequest :=
    hu.hrr (by decide)
  have hurequest : ((u.enter st).note (.recv m)).tmp.certRequest = s.tmp.certRequest :=
    hu.certRequest (by decide)
  -- A server notes no request that it reads.
  have hupha : ((u.enter st).note (.recv m)).postHandshakeAuth = s.postHandshakeAuth := by
    simp only [phaRequested, hside, Bool.not_true, Bool.and_false, Bool.false_and,
      Bool.false_eq_true, if_false] at hph
    rw [← (Prod.mk.inj (Option.some.inj hph)).2]
    rfl
  have htsv : t.server = true := (server_processed hu hp).trans hside
  have hasked : t.asked = s.asked := by
    have hrequest : t.tmp.certRequest = s.tmp.certRequest := by
      refine (ht.certRequest ?_).trans hurequest
      cases m.mt <;> decide
    simp only [SSL.asked, htsv, hside, hrequest, if_true]
  have hnotdone := turned_ne_finished (b := doneReading env m t) hstate
  have hstage : ∀ q', serverStage st t.helloRetryRequest t.postHandshakeAuth s.asked = some q' →
      (if doneReading env m t then t.turn .writing else t).stage = some q' := by
    intro q' h
    rw [← hasked] at h
    simp only [SSL.stage, SSL.asked, hk.server List.not_mem_nil, htsv, hst',
      hk.hrr List.not_mem_nil, hk.pha List.not_mem_nil, hk.certRequest List.not_mem_nil, if_true]
    simpa only [SSL.asked, htsv, if_true] using h
  -- What is left to say of a stage that the line leads to.
  have hdone : ∀ q', (if doneReading env m t then t.turn .writing else t).stage = some q' →
      (q'.asked = none ∨ q'.asked = some s.asked) →
      (q'.early = false ∨ t.postHandshakeAuth.settled = true) →
      (t.helloRetryRequest = .pending → q' = .hello false ∨ q' = .retry) →
      Poised (if doneReading env m t then t.turn .writing else t) q' := by
    intro q' hq' hask hearly hpend
    have hsv := (hk.server List.not_mem_nil).trans htsv
    refine ⟨hplaced, fun h => absurd h hnotdone, hq', fun b hb => ?_, fun h => ?_, fun _ h => ?_,
      fun h _ => ?_, fun h _ => ?_⟩
    · rw [← Option.some.inj ((hask.resolve_left
        (by rw [hb]; exact Option.some_ne_none b)).symm.trans hb), ← hasked]
      simp only [SSL.asked, hk.server List.not_mem_nil, hk.certReq List.not_mem_nil,
        hk.certRequest List.not_mem_nil]
    · rw [hk.pha List.not_mem_nil]
      exact hearly.resolve_left (by rw [h]; exact Bool.noConfusion)
    · rw [hk.hrr List.not_mem_nil] at h
      exact hpend h
    · exact absurd (h.symm.trans hsv) Bool.noConfusion
    · exact absurd (h.symm.trans hsv) Bool.noConfusion
  -- Past the hellos a retry is out of the way.
  have hno : .hrr ∉ touchedBy m.mt → s.helloRetryRequest ≠ .pending →
      ∀ {q' : Stage}, t.helloRetryRequest = .pending → q' = .hello false ∨ q' = .retry := by
    intro hmt hnp q' h
    rw [ht.hrr hmt, huhrr] at h
    exact absurd h hnp
  rcases server_reads hs hside htr with ⟨rfl, hfirst, hm, rfl⟩ | ⟨rfl, hpend, hm, rfl⟩ |
    ⟨hnp, ⟨rfl, ⟨hask, hm, rfl⟩ | ⟨hask, hm, rfl⟩⟩ | ⟨rfl, ⟨hm, rfl⟩ | ⟨hm, rfl⟩⟩ |
      ⟨rfl, hm, rfl⟩ | ⟨rfl, hm, rfl⟩ | ⟨hq, hm, rfl⟩⟩
  · -- The first ClientHello: a retry may be asked for, but none is behind.
    rcases processMessage_srClntHello henv hserver rfl hp with ⟨hnone, -, hset⟩
    rw [huhrr] at hnone
    rw [hupha] at hset
    have hnot : t.helloRetryRequest ≠ .complete := by
      rcases hnone hfirst with h | h <;>
      · rw [h]
        exact HrrState.noConfusion
    refine ⟨.hello false, ?_, hdone _ (hstage _ ?_) (Or.inr ?_) (Or.inr (hset (hs.settled rfl)))
      (fun _ => Or.inl rfl)⟩
    · simp only [Stage.next, hm]
    · simp only [serverStage, hnot, decide_false]
    · rw [hs.asked false rfl]; rfl
  · -- The second ClientHello completes the retry.
    rcases processMessage_srClntHello henv hserver rfl hp with ⟨-, hagain, hset⟩
    rw [huhrr] at hagain
    rw [hupha] at hset
    have hcomplete : t.helloRetryRequest = .complete :=
      hagain (by rw [hpend]; exact HrrState.noConfusion)
    refine ⟨.hello true, ?_, hdone _ (hstage _ ?_) (Or.inr ?_) (Or.inr (hset (hs.settled rfl)))
      (fun h => ?_)⟩
    · simp only [Stage.next, hm]
    · simp only [serverStage, hcomplete, decide_true]
    · rw [hs.asked false rfl]; rfl
    · exact absurd (hcomplete.symm.trans h) HrrState.noConfusion
  · -- The client answers a request with its Certificate, or finishes without one.
    rw [hm] at hno
    refine ⟨.clientCert, ?_, hdone _ (hstage _ rfl) (Or.inl rfl) (Or.inl rfl)
      (hno (by decide) hnp)⟩
    simp only [Stage.next, hm, hask]
  · rw [hm] at hno
    refine ⟨.connected, ?_, hdone _ (hstage _ rfl) (Or.inl rfl) (Or.inl rfl)
      (hno (by decide) hnp)⟩
    simp only [Stage.next, hm, hask]
  · -- The Finished may follow the Certificate at once.
    rw [hm] at hno
    refine ⟨.connected, ?_, hdone _ (hstage _ rfl) (Or.inl rfl) (Or.inl rfl)
      (hno (by decide) hnp)⟩
    simp only [Stage.next, hm]
  · -- Or a CertificateVerify comes between them.
    rw [hm] at hno
    refine ⟨.clientVerify, ?_, hdone _ (hstage _ rfl) (Or.inl rfl) (Or.inl rfl)
      (hno (by decide) hnp)⟩
    simp only [Stage.next, hm]
  · rw [hm] at hno
    refine ⟨.connected, ?_, hdone _ (hstage _ rfl) (Or.inl rfl) (Or.inl rfl)
      (hno (by decide) hnp)⟩
    simp only [Stage.next, hm]
  · rw [hm] at hno
    refine ⟨.clientCert, ?_, hdone _ (hstage _ rfl) (Or.inl rfl) (Or.inl rfl)
      (hno (by decide) hnp)⟩
    simp only [Stage.next, hm]
  · -- New keys may come whether a request is out or not.
    rw [hm] at hno ht
    have hpha : t.postHandshakeAuth = s.postHandshakeAuth := (ht.pha (by decide)).trans hupha
    have hboth : q = .connected ∨ q = .laterRequest := by
      rw [hq]
      split
      · exact Or.inr rfl
      · exact Or.inl rfl
    refine ⟨q, ?_, hdone _ (hstage _ ?_) ?_ ?_ (hno (by decide) hnp)⟩
    · rcases hboth with rfl | rfl <;> simp only [Stage.next, hm]
    · simp only [serverStage, hpha, hq]
    all_goals rcases hboth with rfl | rfl <;> exact Or.inl rfl

/-- A message that was read is the next line, and the object agrees with where it leads. -/
theorem poised_read (henv : OnlyTls13 env) (hopen : StaysOpen env) {m : Msg} {st : HandState}
    {s u t : SSL ω} {q : Stage} (hs : Poised s q) (hflow : s.statem.state = .reading)
    (htr : readTransition env s m.mt = some st) (hph : phaRequested env st s = some (true, u))
    (hp : processMessage env m ((u.enter st).note (.recv m)) = some (true, t)) :
    ∃ q', Stage.next q (!s.server, m) = some q' ∧
      Poised (if doneReading env m t then t.turn .writing else t) q' := by
  cases hside : s.server with
  | true => exact poised_server_read henv hs hside hflow htr hph hp
  | false => exact poised_client_read henv hopen hs hside hflow htr hph hp

end Reading

end Iso21177
