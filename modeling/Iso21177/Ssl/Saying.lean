import Iso21177.Ssl.Poised

/-!
# Saying the Next Line

What an object writes that agrees with a stage of the dialogue is the next line of it, and
leaves the object at the stage the line leads to. A change of cipher specification is no line,
nor are the other steps of writing: waiting, finishing, and turning to read.

## Theorems

* `written_keeps`: What writing leaves.
* `poised_client_written`, `poised_server_written`, `poised_written`: A message that was written.
* `poised_early`, `poised_finished`, `poised_turned`: The other steps.
-/

namespace Iso21177

variable {ω : Type}

section Writing

variable {env : Env ω}

/-- What writing a message leaves: the side, the version and the retry, what a client was asked
    for, and on a server that it asked. -/
theorem written_keeps {st : HandState} {m : Msg} {src : Source} {s u t : SSL ω}
    (hc : constructMessage env (entering s st) = some (some (m, src), u))
    (hp : runPhase env (.postWork st) [] (u.note (.sent m src)) = some (true, t)) :
    t.server = s.server ∧ t.tls13 = s.tls13 ∧ t.helloRetryRequest = s.helloRetryRequest ∧
      t.tmp.certReq = s.tmp.certReq ∧
      t.tmp.certRequest = (s.tmp.certRequest || (s.server && st = .swCertReq)) ∧
      Advertised (entering s st) t := by
  have hu := touches_constructMessage env hc
  have ht := touches_runOther _ _ true t hp
  refine ⟨(ht.server (by decide)).trans (hu.server (by decide)),
    (ht.tls13 (by decide)).trans (hu.tls13 (by decide)),
    (ht.hrr (by decide)).trans (hu.hrr (by decide)),
    (ht.certReq (by decide)).trans (hu.certReq (by decide)),
    (ht.certRequest (by decide)).trans (certRequest_constructMessage hc), ?_⟩
  exact advertised_trans (advertised_constructMessage hc)
    (advertised_of_touches (s := u.note (.sent m src)) ht (by decide) (by decide))

/-- A message that a client wrote is the next line, and the client agrees with where it leads. -/
theorem poised_client_written (hopen : StaysOpen env) {st : HandState} {m : Msg}
    {src : Source} {s u t : SSL ω} {q : Stage} (hs : Poised s q) (hside : s.server = false)
    (hflow : s.statem.state = .writing) (htr : writeTransition env s = .next st)
    (hc : constructMessage env (entering s st) = some (some (m, src), u))
    (hp : runPhase env (.postWork st) [] (u.note (.sent m src)) = some (true, t)) :
    ∃ q', (if m.mt = .changeCipherSpec then q' = q else Stage.next q (false, m) = some q') ∧
      Poised t q' := by
  have hplaced := placed_written hs.placed hflow htr hc hp
  rcases statem_written env hc hp with ⟨hstate, hst⟩
  rcases written_keeps hc hp with ⟨hsv, h13, hhrr, hreq, -, hadv⟩
  have hmt : writtenType s.server st = some m.mt := mt_constructMessage hc
  have hnotdone : t.statem.state ≠ .finished := by
    rw [hstate, hflow]
    exact MsgFlow.noConfusion
  have hpha : phaTransition s = s.postHandshakeAuth := by
    simp only [phaTransition, hside, Bool.and_false, Bool.false_eq_true, if_false]
  have hasked : t.asked = s.asked := by
    simp only [SSL.asked, hsv, hside, hreq, Bool.false_eq_true, if_false]
  have hstage : ∀ q', clientStage st s.tls13 s.helloRetryRequest t.postHandshakeAuth s.asked =
      some q' → t.stage = some q' := by
    intro q' h
    simp only [SSL.stage, hsv, hside, hst, h13, hhrr, hasked, Bool.false_eq_true, if_false]
    exact h
  simp only [writtenType, hside, Bool.false_eq_true, if_false] at hmt
  -- What is left to say of a stage that the line leads to.
  have hdone : ∀ q', t.stage = some q' → (q'.asked = none ∨ q'.asked = q.asked) →
      (q'.early = false ∨ q.early = true) → (q'.unversioned = false ∨ q.unversioned = true) →
      Poised t q' := by
    intro q' hq' hask hearly hunv
    refine ⟨hplaced, fun h => absurd h hnotdone, hq', fun b hb => ?_, fun h => ?_, fun h => ?_,
      fun _ h => ?_, fun _ _ => hstate.trans hflow⟩
    · rcases hask with hask | hask
      · exact absurd (hask.symm.trans hb) (Option.some_ne_none b).symm
      · rw [hasked]
        exact hs.asked b (hask.symm.trans hb)
    · refine settled_of_advertised hadv ?_
      change (phaTransition s).settled = true
      rw [hpha]
      exact hs.settled (hearly.resolve_left (by rw [h]; exact Bool.noConfusion))
    · exact absurd (hsv.symm.trans h) (by rw [hside]; exact Bool.noConfusion)
    · rw [h13]
      exact hs.unversioned hside (hunv.resolve_left (by rw [h]; exact Bool.noConfusion))
  rcases client_writes hs hside hopen htr with ⟨rfl, rfl, hnone⟩ |
    ⟨rfl, hpend, hno, rfl | rfl⟩ | ⟨hq, hyes, rfl | hst'⟩ | ⟨rfl, rfl⟩ | ⟨rfl, rfl | rfl⟩ |
    ⟨rfl, rfl⟩ | ⟨rfl, rfl | rfl⟩
  · -- The first ClientHello.
    have hm : m.mt = .clientHello := (Option.some.inj hmt).symm
    refine ⟨.hello false, ?_, hdone _ (hstage _ ?_) (Or.inr rfl) (Or.inr rfl) (Or.inr rfl)⟩
    · simp only [hm, reduceCtorEq, if_false, Stage.next]
    · simp only [clientStage, hnone, ne_eq, not_true_eq_false, decide_false]
  · -- A client that is sent back may write ChangeCipherSpec first, which is no line.
    have hm : m.mt = .changeCipherSpec := (Option.some.inj hmt).symm
    refine ⟨.retry, by rw [if_pos hm], hdone _ (hstage _ ?_) (Or.inr rfl) (Or.inr rfl)
      (Or.inr rfl)⟩
    simp only [clientStage, hno, Bool.false_eq_true, if_false]
  · -- The second ClientHello.
    have hm : m.mt = .clientHello := (Option.some.inj hmt).symm
    refine ⟨.hello true, ?_, hdone _ (hstage _ ?_) (Or.inr rfl) (Or.inr rfl) (Or.inr rfl)⟩
    · simp only [hm, reduceCtorEq, if_false, Stage.next]
    · simp only [clientStage, hpend, ne_eq, reduceCtorEq, not_false_eq_true, decide_true]
  · -- ChangeCipherSpec before the flight is no line either.
    have hm : m.mt = .changeCipherSpec := (Option.some.inj hmt).symm
    refine ⟨q, by rw [if_pos hm], hdone _ (hstage _ ?_) (Or.inr rfl)
      (Or.inl (by rw [hq]; rfl)) (Or.inl (by rw [hq]; rfl))⟩
    simp only [clientStage, hyes, if_true, hq]
  · -- The flight begins with a Certificate if one was asked for.
    subst hq
    rw [hst'] at hmt hstage
    cases hask : s.asked with
    | true =>
        rw [hask, if_pos rfl] at hmt hstage
        have hm : m.mt = .certificate := (Option.some.inj hmt).symm
        refine ⟨.clientCert, ?_, hdone _ (hstage _ rfl) (Or.inl rfl) (Or.inl rfl) (Or.inl rfl)⟩
        simp only [hm, reduceCtorEq, if_false, Stage.next]
    | false =>
        rw [hask, if_neg Bool.false_ne_true] at hmt hstage
        have hm : m.mt = .finished := (Option.some.inj hmt).symm
        refine ⟨.connected, ?_, hdone _ (hstage _ rfl) (Or.inl rfl) (Or.inl rfl) (Or.inl rfl)⟩
        simp only [hm, reduceCtorEq, if_false, Stage.next]
  · have hm : m.mt = .certificate := (Option.some.inj hmt).symm
    refine ⟨.clientCert, ?_, hdone _ (hstage _ rfl) (Or.inl rfl) (Or.inl rfl) (Or.inl rfl)⟩
    simp only [hm, reduceCtorEq, if_false, Stage.next]
  · have hm : m.mt = .certificateVerify := (Option.some.inj hmt).symm
    refine ⟨.clientVerify, ?_, hdone _ (hstage _ rfl) (Or.inl rfl) (Or.inl rfl) (Or.inl rfl)⟩
    simp only [hm, reduceCtorEq, if_false, Stage.next]
  · have hm : m.mt = .finished := (Option.some.inj hmt).symm
    refine ⟨.connected, ?_, hdone _ (hstage _ rfl) (Or.inl rfl) (Or.inl rfl) (Or.inl rfl)⟩
    simp only [hm, reduceCtorEq, if_false, Stage.next]
  · have hm : m.mt = .finished := (Option.some.inj hmt).symm
    refine ⟨.connected, ?_, hdone _ (hstage _ rfl) (Or.inl rfl) (Or.inl rfl) (Or.inl rfl)⟩
    simp only [hm, reduceCtorEq, if_false, Stage.next]
  · exact absurd hmt (Option.some_ne_none _).symm
  · have hm : m.mt = .keyUpdate := (Option.some.inj hmt).symm
    refine ⟨.connected, ?_, hdone _ (hstage _ rfl) (Or.inl rfl) (Or.inl rfl) (Or.inl rfl)⟩
    simp only [hm, reduceCtorEq, if_false, Stage.next]

/-- A message that a server wrote is the next line, and the server agrees with where it leads. -/
theorem poised_server_written {st : HandState} {m : Msg}
    {src : Source} {s u t : SSL ω} {q : Stage} (hs : Poised s q) (hside : s.server = true)
    (hflow : s.statem.state = .writing) (htr : writeTransition env s = .next st)
    (hc : constructMessage env (entering s st) = some (some (m, src), u))
    (hp : runPhase env (.postWork st) [] (u.note (.sent m src)) = some (true, t)) :
    ∃ q', (if m.mt = .changeCipherSpec then q' = q else Stage.next q (true, m) = some q') ∧
      Poised t q' := by
  have hplaced := placed_written hs.placed hflow htr hc hp
  rcases statem_written env hc hp with ⟨hstate, hst⟩
  rcases written_keeps hc hp with ⟨hsv, -, hhrr, -, hrequest, hadv⟩
  have hmt : writtenType s.server st = some m.mt := mt_constructMessage hc
  have hnotdone : t.statem.state ≠ .finished := by
    rw [hstate, hflow]
    exact MsgFlow.noConfusion
  have hpha : t.postHandshakeAuth = phaTransition s := by
    rcases hadv.2 with h | ⟨h, -⟩
    · exact h
    · exact absurd (hside.symm.trans h) Bool.noConfusion
  have hasked : t.asked = (s.asked || decide (st = .swCertReq)) := by
    simp only [SSL.asked, hsv, hside, hrequest, Bool.true_and, if_true]
  have hstage : ∀ q', serverStage st s.helloRetryRequest (phaTransition s)
      (s.asked || decide (st = .swCertReq)) = some q' → t.stage = some q' := by
    intro q' h
    simp only [SSL.stage, hsv, hside, hst, hhrr, hasked, hpha, if_true]
    exact h
  simp only [writtenType, hside, if_true] at hmt
  have hdone : ∀ q', t.stage = some q' →
      (q'.asked = none ∨ q'.asked = some (s.asked || decide (st = .swCertReq))) →
      (q'.early = false ∨ phaTransition s = s.postHandshakeAuth ∧ q.early = true) →
      (s.helloRetryRequest = .pending → q' = .hello false ∨ q' = .retry) →
      Poised t q' := by
    intro q' hq' hask hearly hpend
    refine ⟨hplaced, fun h => absurd h hnotdone, hq', fun b hb => ?_, fun h => ?_,
      fun _ h => hpend (hhrr.symm.trans h), fun h _ => ?_, fun h _ => ?_⟩
    · rcases hask with hask | hask
      · exact absurd (hask.symm.trans hb) (Option.some_ne_none b).symm
      · rw [hasked]
        exact Option.some.inj (hask.symm.trans hb)
    · have hq := hearly.resolve_left (by rw [h]; exact Bool.noConfusion)
      rw [hpha, hq.1]
      exact hs.settled hq.2
    · exact absurd (h.symm.trans (hsv.trans hside)) Bool.noConfusion
    · exact absurd (h.symm.trans (hsv.trans hside)) Bool.noConfusion
  -- Once a retry is out of the way it stays so.
  have hover : (q ≠ .hello false ∧ q ≠ .retry) → s.helloRetryRequest ≠ .pending :=
    fun hne hpend => (hs.pending hside hpend).elim hne.1 hne.2
  have hno : ∀ {q' : Stage}, (q ≠ .hello false ∧ q ≠ .retry) →
      s.helloRetryRequest = .pending → q' = .hello false ∨ q' = .retry :=
    fun hne hpend => absurd hpend (hover hne)
  rcases server_writes hs hside htr with ⟨hsame, ⟨hq, rfl⟩ | ⟨rfl, hpend, rfl | rfl⟩ |
      ⟨rfl, hnp, rfl | rfl⟩ | ⟨rfl, rfl | rfl | rfl⟩⟩ | ⟨rfl, rfl⟩ | ⟨hq, rfl⟩ | ⟨hq, rfl⟩ |
    ⟨hq, rfl⟩ | ⟨rfl, hreqp, rfl⟩ | ⟨hq, rfl | rfl | rfl⟩
  · -- The ServerHello sends the client back exactly if a retry is to be asked for.
    have hm : m.mt = .serverHello := (Option.some.inj hmt).symm
    have hretry : m.retry = decide (s.helloRetryRequest = .pending) :=
      retry_serverHello (s := entering s .swSrvrHello) hside rfl hc
    have hask : s.asked = false := hs.asked false (by rw [hq]; rfl)
    by_cases hpend : s.helloRetryRequest = .pending
    · have hq' : q = .hello false := by rw [hq, hpend]; rfl
      refine ⟨.retry, ?_, hdone _ (hstage _ ?_) (Or.inr ?_)
        (Or.inr ⟨hsame, by rw [hq']; rfl⟩) (fun _ => Or.inr rfl)⟩
      · simp only [hm, hq', reduceCtorEq, if_false, Stage.next, hretry, hpend, decide_true,
          if_true, Bool.false_eq_true]
      · simp only [serverStage, hpend, if_true]
      · rw [hask]; rfl
    · refine ⟨.answer, ?_, hdone _ (hstage _ ?_) (Or.inr ?_)
        (Or.inr ⟨hsame, by rw [hq]; rfl⟩) (fun h => absurd h hpend)⟩
      · simp only [hm, hq, reduceCtorEq, if_false, Stage.next, hretry, hpend, decide_false,
          Bool.false_eq_true]
      · simp only [serverStage, hpend, if_false]
      · rw [hask]; rfl
  · -- ChangeCipherSpec behind either hello is no line.
    have hm : m.mt = .changeCipherSpec := (Option.some.inj hmt).symm
    have hask : s.asked = false := hs.asked false rfl
    refine ⟨.retry, by rw [if_pos hm], hdone _ (hstage _ ?_) (Or.inr ?_)
      (Or.inr ⟨hsame, rfl⟩) (fun _ => Or.inr rfl)⟩
    · simp only [serverStage, hpend, if_true]
    · rw [hask]; rfl
  · exact absurd hmt (Option.some_ne_none _).symm
  · have hm : m.mt = .changeCipherSpec := (Option.some.inj hmt).symm
    have hask : s.asked = false := hs.asked false rfl
    refine ⟨.answer, by rw [if_pos hm], hdone _ (hstage _ ?_) (Or.inr ?_)
      (Or.inr ⟨hsame, rfl⟩) (fun h => absurd h hnp)⟩
    · simp only [serverStage, hnp, if_false]
    · rw [hask]; rfl
  · have hm : m.mt = .encryptedExtensions := (Option.some.inj hmt).symm
    have hask : s.asked = false := hs.asked false rfl
    refine ⟨.extensions, ?_, hdone _ (hstage _ rfl) (Or.inr ?_) (Or.inr ⟨hsame, rfl⟩)
      (fun h => absurd h hnp)⟩
    · simp only [hm, reduceCtorEq, if_false, Stage.next]
    · rw [hask]; rfl
  · -- A session that is resumed goes without a Certificate.
    have hm : m.mt = .finished := (Option.some.inj hmt).symm
    have hask : s.asked = false := hs.asked false rfl
    refine ⟨.serverFinished false, ?_, hdone _ (hstage _ ?_) (Or.inr ?_) (Or.inl rfl)
      (hno ⟨Stage.noConfusion, Stage.noConfusion⟩)⟩
    · simp only [hm, reduceCtorEq, if_false, Stage.next]
    · simp only [serverStage, hask, reduceCtorEq, decide_false, Bool.or_self]
    · rw [hask]; rfl
  · -- No request is pending during the handshake, so this one is part of it.
    have hm : m.mt = .certificateRequest := (Option.some.inj hmt).symm
    have hpha' : phaTransition s ≠ .requestPending := by
      intro h
      have hset := hs.settled rfl
      rw [← hsame, h] at hset
      exact Bool.noConfusion hset
    refine ⟨.request, ?_, hdone _ (hstage _ ?_) (Or.inr ?_) (Or.inl rfl)
      (hno ⟨Stage.noConfusion, Stage.noConfusion⟩)⟩
    · simp only [hm, reduceCtorEq, if_false, Stage.next]
    · simp only [serverStage, hpha', if_false]
    · simp only [Stage.asked, decide_true, Bool.or_true]
  · have hm : m.mt = .certificate := (Option.some.inj hmt).symm
    have hask : s.asked = false := hs.asked false rfl
    refine ⟨.serverCert false, ?_, hdone _ (hstage _ ?_) (Or.inr ?_) (Or.inl rfl)
      (hno ⟨Stage.noConfusion, Stage.noConfusion⟩)⟩
    · simp only [hm, reduceCtorEq, if_false, Stage.next]
    · simp only [serverStage, hask, reduceCtorEq, decide_false, Bool.or_self]
    · rw [hask]; rfl
  · have hm : m.mt = .certificate := (Option.some.inj hmt).symm
    have hask : s.asked = true := hs.asked true rfl
    refine ⟨.serverCert true, ?_, hdone _ (hstage _ ?_) (Or.inr ?_) (Or.inl rfl)
      (hno ⟨Stage.noConfusion, Stage.noConfusion⟩)⟩
    · simp only [hm, reduceCtorEq, if_false, Stage.next]
    · simp only [serverStage, hask, Bool.true_or]
    · rw [hask]; rfl
  · have hm : m.mt = .certificateVerify := (Option.some.inj hmt).symm
    subst hq
    refine ⟨.serverVerify s.asked, ?_, hdone _ (hstage _ ?_) (Or.inr ?_) (Or.inl rfl)
      (hno ⟨Stage.noConfusion, Stage.noConfusion⟩)⟩
    · simp only [hm, reduceCtorEq, if_false, Stage.next]
    · simp only [serverStage, reduceCtorEq, decide_false, Bool.or_false]
    · simp only [Stage.asked, reduceCtorEq, decide_false, Bool.or_false]
  · have hm : m.mt = .finished := (Option.some.inj hmt).symm
    subst hq
    refine ⟨.serverFinished s.asked, ?_, hdone _ (hstage _ ?_) (Or.inr ?_) (Or.inl rfl)
      (hno ⟨Stage.noConfusion, Stage.noConfusion⟩)⟩
    · simp only [hm, reduceCtorEq, if_false, Stage.next]
    · simp only [serverStage, reduceCtorEq, decide_false, Bool.or_false]
    · simp only [Stage.asked, reduceCtorEq, decide_false, Bool.or_false]
  · exact absurd hmt (Option.some_ne_none _).symm
  · -- A request that was pending is written behind the handshake.
    have hm : m.mt = .certificateRequest := (Option.some.inj hmt).symm
    refine ⟨.laterRequest, ?_, hdone _ (hstage _ ?_) (Or.inl rfl) (Or.inl rfl)
      (hno ⟨Stage.noConfusion, Stage.noConfusion⟩)⟩
    · simp only [hm, reduceCtorEq, if_false, Stage.next]
    · simp only [serverStage, hreqp, if_true]
  · exact absurd hmt (Option.some_ne_none _).symm
  all_goals
    have hm := (Option.some.inj hmt).symm
    have hboth : q = .connected ∨ q = .laterRequest := by
      rw [hq]
      split
      · exact Or.inr rfl
      · exact Or.inl rfl
    refine ⟨q, ?_, hdone _ (hstage _ ?_) ?_ ?_ (hno ?_)⟩
    · rcases hboth with rfl | rfl <;>
        simp only [hm, reduceCtorEq, if_false, Stage.next]
    · rw [hq]
      rfl
    all_goals rcases hboth with rfl | rfl
    · exact Or.inl rfl
    · exact Or.inl rfl
    · exact Or.inl rfl
    · exact Or.inl rfl
    · exact ⟨Stage.noConfusion, Stage.noConfusion⟩
    · exact ⟨Stage.noConfusion, Stage.noConfusion⟩

/-- A message that was written is the next line, and the object agrees with where it leads. -/
theorem poised_written (hopen : StaysOpen env) {st : HandState} {m : Msg} {src : Source}
    {s u t : SSL ω} {q : Stage} (hs : Poised s q) (hflow : s.statem.state = .writing)
    (htr : writeTransition env s = .next st)
    (hc : constructMessage env (entering s st) = some (some (m, src), u))
    (hp : runPhase env (.postWork st) [] (u.note (.sent m src)) = some (true, t)) :
    ∃ q', (if m.mt = .changeCipherSpec then q' = q else Stage.next q (s.server, m) = some q') ∧
      Poised t q' := by
  cases hside : s.server with
  | true => exact poised_server_written hs hside hflow htr hc hp
  | false => exact poised_client_written hopen hs hside hflow htr hc hp

/-- A server that waits is where it was. -/
theorem poised_early {s t : SSL ω} {q : Stage} (hopen : StaysOpen env) (hs : Poised s q)
    (hflow : s.statem.state = .writing) (htr : writeTransition env s = .next .earlyData)
    (hp : runPhase env (.postWork .earlyData) [] (entering s .earlyData) = some (true, t)) :
    Poised t q := by
  have hplaced := placed_early hs.placed htr hp
  have ht := touches_runOther _ _ true t hp
  have hst : t.statem.handState = .earlyData := ht.handState
  have hstate : t.statem.state = .writing := by
    rw [ht.statem rfl]
    exact hflow
  have hsv : t.server = s.server := ht.server (by decide)
  have h13 : t.tls13 = s.tls13 := ht.tls13 (by decide)
  have hhrr : t.helloRetryRequest = s.helloRetryRequest := ht.hrr (by decide)
  have hpha : t.postHandshakeAuth = phaTransition s := ht.pha (by decide)
  have hasked : t.asked = s.asked :=
    asked_congr hsv (ht.certReq (by decide)) (ht.certRequest (by decide))
  have hnotdone : t.statem.state ≠ .finished := by
    rw [hstate]
    exact MsgFlow.noConfusion
  have hdone : t.stage = some q → (q.early = true → phaTransition s = s.postHandshakeAuth) →
      Poised t q := by
    intro hq hearly
    refine ⟨hplaced, fun h => absurd h hnotdone, hq, fun b hb => hasked.trans (hs.asked b hb),
      fun h => ?_, fun hv h => hs.pending (hsv.symm.trans hv) (hhrr.symm.trans h),
      fun hv h => h13.trans (hs.unversioned (hsv.symm.trans hv) h), fun _ _ => hstate⟩
    rw [hpha, hearly h]
    exact hs.settled h
  cases hside : s.server with
  | false =>
      -- A client has no such state.
      rcases client_writes hs hside hopen htr with ⟨-, h, -⟩ | ⟨-, -, -, h | h⟩ | ⟨-, -, h | h⟩ |
        ⟨-, h⟩ | ⟨-, h | h⟩ | ⟨-, h⟩ | ⟨-, h | h⟩
      case inr.inr.inl.inr =>
        split at h <;> exact absurd h HandState.noConfusion
      all_goals exact absurd h HandState.noConfusion
  | true =>
      have hstage : t.stage =
          serverStage .earlyData s.helloRetryRequest (phaTransition s) s.asked := by
        simp only [SSL.stage, hsv, hside, hst, hhrr, hpha, hasked, if_true]
      rcases server_writes hs hside htr with ⟨hsame, ⟨-, h⟩ | ⟨rfl, hpend, -⟩ |
          ⟨-, -, h | h⟩ | ⟨-, h | h | h⟩⟩ | ⟨-, h⟩ | ⟨-, h⟩ | ⟨-, h⟩ |
        ⟨hq, -⟩ | ⟨-, -, h⟩ | ⟨-, h | h | h⟩
      case true.inl.inr.inl =>
        refine hdone ?_ (fun _ => hsame)
        rw [hstage]
        simp only [serverStage, hpend, if_true]
      case true.inr.inr.inr.inr.inl =>
        have hnp : s.helloRetryRequest ≠ .pending := by
          intro hpend
          rcases hs.pending hside hpend with h | h <;>
            exact absurd (hq.symm.trans h) Stage.noConfusion
        refine hdone ?_ (fun h => ?_)
        · rw [hstage, hq]
          simp only [serverStage, hnp, if_false]
        · rw [hq] at h
          exact absurd h Bool.false_ne_true
      all_goals exact absurd h HandState.noConfusion

/-- A handshake that is over is where it was. -/
theorem poised_finished {s t : SSL ω} {q : Stage} (hopen : StaysOpen env) (hs : Poised s q)
    (htr : writeTransition env s = .next .ok)
    (h : finishHandshake env (entering s .ok) = some (true, t)) : Poised t q := by
  have hplaced := placed_finished hs.placed htr h
  have hk := keeps_finishHandshake env h
  rcases Call.seq_true.mp h with ⟨u, hp, hv⟩
  have hu := touches_runOther _ _ true u hp
  have hst : t.statem.handState = .ok ∧ t.statem.state = .finished := by
    rw [← (Prod.mk.inj (Option.some.inj hv)).2]
    exact ⟨hu.handState, rfl⟩
  have hsv : t.server = s.server := hk.server (by decide)
  have hhrr : t.helloRetryRequest = s.helloRetryRequest := hk.hrr (by decide)
  have hasked : t.asked = s.asked :=
    asked_congr hsv (hk.certReq (by decide)) (hk.certRequest (by decide))
  -- What is said after the handshake leaves little to agree on.
  have hdone : t.stage = some q → (q = .connected ∨ s.server = true ∧ q = .laterRequest) →
      Poised t q := by
    intro hq hlate
    have hend : q.asked = none ∧ q.early = false ∧ q.unversioned = false ∧ q ≠ .hello false ∧
        q ≠ .retry := by
      rcases hlate with rfl | ⟨-, rfl⟩ <;>
        exact ⟨rfl, rfl, rfl, Stage.noConfusion, Stage.noConfusion⟩
    rcases hend with ⟨hask, hearly, hunv, hhello, hretry⟩
    refine ⟨hplaced, fun _ => hst.1, hq, fun b hb => ?_, fun h => ?_, fun hv h => ?_,
      fun _ h => ?_, fun hv h => ?_⟩
    · exact absurd (hask.symm.trans hb) (Option.some_ne_none b).symm
    · exact absurd (hearly.symm.trans h) Bool.false_ne_true
    · rcases hs.pending (hsv.symm.trans hv) (hhrr.symm.trans h) with h | h
      · exact absurd h hhello
      · exact absurd h hretry
    · exact absurd (hunv.symm.trans h) Bool.false_ne_true
    · rcases hlate with hc | ⟨hserver, -⟩
      · exact absurd (hc.symm.trans h) Stage.noConfusion
      · exact absurd (hv.symm.trans (hsv.trans hserver)) Bool.noConfusion
  cases hside : s.server with
  | false =>
      rcases client_writes hs hside hopen htr with ⟨-, h, -⟩ | ⟨-, -, -, h | h⟩ | ⟨-, -, h | h⟩ |
        ⟨-, h⟩ | ⟨-, h | h⟩ | ⟨-, h⟩ | ⟨rfl, -⟩
      case inr.inr.inr.inr.inr.inr =>
        refine hdone ?_ (Or.inl rfl)
        simp only [SSL.stage, hsv, hside, hst.1, clientStage, Bool.false_eq_true, if_false]
      case inr.inr.inl.inr =>
        split at h <;> exact absurd h HandState.noConfusion
      all_goals exact absurd h HandState.noConfusion
  | true =>
      have hpha : t.postHandshakeAuth = phaTransition s := by
        have husv : u.server = true := (hu.server (by decide)).trans hside
        rw [← (Prod.mk.inj (Option.some.inj hv)).2]
        simp only [husv, Bool.not_true, Bool.and_false, Bool.false_and, Bool.false_eq_true,
          if_false]
        exact hu.pha (by decide)
      rcases server_writes hs hside htr with ⟨-, ⟨-, h⟩ | ⟨-, -, h | h⟩ |
          ⟨-, -, h | h⟩ | ⟨-, h | h | h⟩⟩ | ⟨-, h⟩ | ⟨-, h⟩ | ⟨-, h⟩ |
        ⟨-, h⟩ | ⟨-, -, h⟩ | ⟨hq, -⟩
      case inr.inr.inr.inr.inr.inr =>
        refine hdone ?_ ?_
        · simp only [SSL.stage, hsv, hside, hst.1, hpha, serverStage, if_true, hq]
        · rw [hq]
          split
          · exact Or.inr ⟨hside, rfl⟩
          · exact Or.inl rfl
      all_goals exact absurd h HandState.noConfusion

/-- Turning to reading is no line. -/
theorem poised_turned {s : SSL ω} {q : Stage} (hs : Poised s q)
    (htr : writeTransition env s = .finished) : Poised (s.turn .reading) q := by
  refine ⟨placed_turned hs.placed htr, fun h => absurd h MsgFlow.noConfusion, hs.stage, hs.asked,
    hs.settled, hs.pending, hs.unversioned, fun hsv hq => ?_⟩
  -- A client that is to answer a request has something to write.
  have hstage := hs.stage
  change s.server = false at hsv
  simp only [SSL.stage, hsv, Bool.false_eq_true, if_false, hq] at hstage
  have hreq : s.statem.handState = .crCertReq ∧ s.postHandshakeAuth = .requested := by
    unfold clientStage at hstage
    split at hstage <;> (try split at hstage) <;> first
      | (rename_i hst hpha
         exact ⟨hst, hpha⟩)
      | exact absurd hstage (by simp only [reduceCtorEq, Option.some.injEq, not_false_eq_true])
  cases h13 : s.tls13 with
  | false =>
      rcases unversioned_cases hs h13 with h | ⟨-, h | ⟨-, h | h⟩⟩ <;>
        exact absurd (hreq.1.symm.trans h) HandState.noConfusion
  | true =>
      simp only [writeTransition, h13, hsv, Bool.false_eq_true, if_false, if_true,
        client13WriteTransition, hreq.1, hreq.2, reduceCtorEq] at htr

end Writing

end Iso21177
