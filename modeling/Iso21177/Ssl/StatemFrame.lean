import Iso21177.Ssl.Statem

/-!
# What One Step Can Change

The effect of each event on the fields told apart. `touchedBy` lists what
processing a message of a given type may change and `stepFields` what an event
may change; outside these lists a step leaves the object as it was
(`keeps_step`). Invariants that are about one field only look at the events that
have it in their list.

The inversion lemmas say what a step consists of: a message read is a transition,
an entry in the record and the processing of the message, and a message written
is a transition, a construction and an entry in the record.

## Main definitions

* `touchedBy`: The fields of a message read.
* `writeFields`: The fields of a message written.
* `clearFields`, `configFields`, `stepFields`: The fields of clearing, of a call and
  of an event.
* `entering`: The object in its next state.
* `Flows`: The steps after which messages are still to be read or written.
* `FinishedOk`: A handshake ends in the state `ok`.

## Theorems

* `touches_processMessage`, `touches_constructMessage`: Reading and writing.
* `processMessage_written`: Nothing is read where a hello was written.
* `readEvent_cases`, `writeEvent_cases`: What reading and writing consist of.
* `writeStep_cases`, `startEvent_cases`, `step_cases`: What the other steps consist
  of.
* `keeps_readEvent`, `keeps_writeEvent`, `keeps_startEvent`, `keeps_sslClear`,
  `touches_configCall`: The events one by one.
* `keeps_step`: A step changes the fields of its event only.
* `server_step`: Only starting changes the side.
* `flows_writeEvent`, `flows_of_step`: What a step is after which messages are still
  to be read or written.
* `refused_sslClear`, `statem_cleared`, `handState_started`, `keeps_turned`,
  `handState_writeStep`, `statem_processed`, `statem_written`: The state after it.
* `reading_cases`: Which steps end in reading.
* `finishedOk_of_ne`, `finishedOk_checkFatal`, `finishedOk_step`: A handshake ends in
  the state `ok`.
-/

namespace Iso21177

variable {ω : Type}

/-- What processing a message of this type may change. -/
def touchedBy : MsgType → List Field
  | .clientHello => readHelloFields ++ choiceFields
  | .serverHello => readHelloFields
  | .certificateRequest => .phaContext :: prepareFields
  | .certificate => peerCertFields
  | .certificateVerify => certVerifyFields ++ prepareFields
  | _ => [.other]

/-- Code outside may have its say on every message. -/
theorem other_touchedBy (mt : MsgType) : [.other] ⊆ touchedBy mt := by
  cases mt <;> decide

section

variable (env : Env ω)

theorem touches_processRequest (body : Bytes) :
    Call.Rel (Touches (touchedBy .certificateRequest)) (processRequest env body) := by
  intro s b t h
  unfold processRequest at h
  refine touches_seq (touches_weaken (by decide) (touches_tlsProcessCertificateRequest env body))
    (fun u c v hv => ?_) s b t h
  beta_reduce at hv
  split at hv
  · exact touches_same hv
  · exact touches_mono (by decide) (touches_tlsPrepareClientCertificate env u c v hv)

theorem touches_prepareIfAsked :
    Call.Rel (Touches prepareFields) (prepareIfAsked env) := by
  intro s b t h
  unfold prepareIfAsked at h
  split at h
  · exact touches_tlsPrepareClientCertificate env s b t h
  · exact touches_same h

/-- What a client changes when it reads, by the type of the message. -/
theorem touches_clientProcessMessage (m : Msg) :
    Call.Rel (Touches (touchedBy m.mt)) (clientProcessMessage env m) := by
  intro s b t h
  have hplain : ∀ mt body, runPhase env (.process mt) body s = some (b, t) →
      Touches (touchedBy mt) s b t :=
    fun mt body hp => touches_runPhase env _ _ (other_touchedBy mt) s b t hp
  unfold clientProcessMessage at h
  split at h
  · exact touches_tlsProcessServerHello env _ _ _ s b t h
  · exact touches_tlsProcessEncryptedExtensions env _ s b t h
  · exact touches_processRequest env _ s b t h
  · exact touches_seq (touches_tlsProcessServerCertificate env _)
      (touches_tlsPostProcessServerCertificate env) s b t h
  · exact touches_seq
      (touches_weaken (List.subset_append_left _ _) (touches_tlsProcessCertVerify env _))
      (touches_weaken (List.subset_append_right _ _) (touches_prepareIfAsked env)) s b t h
  all_goals first
    | exact hplain _ _ h
    | exact touches_sslFail _ _ _ s b t h

/-- What a server changes when it reads, by the type of the message. -/
theorem touches_serverProcessMessage (m : Msg) :
    Call.Rel (Touches (touchedBy m.mt)) (serverProcessMessage env m) := by
  intro s b t h
  have hplain : ∀ mt body, runPhase env (.process mt) body s = some (b, t) →
      Touches (touchedBy mt) s b t :=
    fun mt body hp => touches_runPhase env _ _ (other_touchedBy mt) s b t hp
  unfold serverProcessMessage at h
  split at h
  · exact touches_seq
      (touches_weaken (List.subset_append_left _ _) (touches_tlsProcessClientHello env _ _))
      (touches_weaken (List.subset_append_right _ _) (touches_tlsPostProcessClientHello env))
      s b t h
  · exact touches_tlsProcessClientCertificate env _ s b t h
  · exact touches_mono (List.subset_append_left _ _) (touches_tlsProcessCertVerify env _ s b t h)
  all_goals first
    | exact hplain _ _ h
    | exact touches_sslFail _ _ _ s b t h

theorem touches_processMessage (m : Msg) :
    Call.Rel (Touches (touchedBy m.mt)) (processMessage env m) := by
  intro s b t h
  unfold processMessage at h
  split at h
  · exact touches_serverProcessMessage env m s b t h
  · exact touches_clientProcessMessage env m s b t h

/-- Nothing is processed in a state that a hello was written in. -/
theorem processMessage_written {m : Msg} {s t : SSL ω}
    (hst : s.statem.handState = .cwClntHello ∨ s.statem.handState = .swSrvrHello) :
    processMessage env m s ≠ some (true, t) := by
  intro h
  unfold processMessage at h
  rcases hst with hst | hst
  · split at h
    · unfold serverProcessMessage at h
      rw [hst] at h
      exact sslFail_ne_true _ _ _ _ h
    · unfold clientProcessMessage at h
      rw [hst] at h
      exact sslFail_ne_true _ _ _ _ h
  · split at h
    · unfold serverProcessMessage at h
      rw [hst] at h
      exact sslFail_ne_true _ _ _ _ h
    · unfold clientProcessMessage at h
      rw [hst] at h
      exact sslFail_ne_true _ _ _ _ h

/-- What writing a message may change. -/
def writeFields : List Field :=
  [.trace, .session, .pha, .extflags, .other, .phaContext, .certreqsSent, .certRequest]

theorem touches_constructPlain {s t : SSL ω} {r : Built}
    (h : constructPlain env s = some (r, t)) : Touches writeFields s r.isSome t := by
  unfold constructPlain at h
  split at h
  · rw [← (Prod.mk.inj (Option.some.inj h)).1, ← (Prod.mk.inj (Option.some.inj h)).2]
    exact touches_sslFatal _ _ _ s
  · exact touches_after (touches_runPhase env _ _ (by decide)) h

/-- What may change when a message is written. -/
theorem touches_constructMessage {s t : SSL ω} {r : Built}
    (h : constructMessage env s = some (r, t)) : Touches writeFields s r.isSome t := by
  unfold constructMessage at h
  split at h
  · unfold serverConstructMessage at h
    split at h
    · exact touches_mono (by decide) (touches_tlsConstructServerHello env h)
    · exact touches_mono (by decide) (touches_tlsConstructEncryptedExtensions env h)
    · exact touches_mono (by decide) (touches_tlsConstructCertificateRequest env h)
    · exact touches_mono (by decide) (touches_tlsConstructServerCertificate env h)
    · exact touches_mono (by decide) (touches_tlsConstructCertVerify env h)
    · exact touches_constructPlain env h
  · unfold clientConstructMessage at h
    split at h
    · exact touches_mono (by decide) (touches_tlsConstructClientHello env h)
    · exact touches_mono (by decide) (touches_tlsConstructClientCertificate env h)
    · exact touches_mono (by decide) (touches_tlsConstructCertVerify env h)
    · exact touches_constructPlain env h

/-- Noting a request touches post-handshake authentication, and only a request
    does so. -/
theorem phaRequested_cases {st : HandState} {s t : SSL ω} {b : Bool}
    (h : phaRequested env st s = some (b, t)) :
    Touches [.pha, .other] s b t ∧ (st ≠ .crCertReq → b = true ∧ t = s) := by
  unfold phaRequested at h
  split at h
  · rename_i hc
    have hset : Touches [.pha, .other] s true { s with postHandshakeAuth := .requested } :=
      touches_update (by constructor <;> intros <;> first | contradiction | rfl) rfl rfl
    refine ⟨touches_trans hset (touches_runPhase env _ _ (by decide) _ b t h), fun hne => ?_⟩
    simp only [Bool.and_eq_true, decide_eq_true_eq] at hc
    exact absurd hc.2 hne
  · refine ⟨touches_same h, fun _ => ?_⟩
    exact ⟨((Prod.mk.inj (Option.some.inj h)).1).symm, ((Prod.mk.inj (Option.some.inj h)).2).symm⟩

/-- Reading a message: it is refused before it is looked at, or the transition is
    made, the message noted, and then processed. -/
theorem readEvent_cases {m : Msg} {s t : SSL ω} (h : readEvent env m s = some t) :
    (∃ u, Touches [.pha, .other] s false u ∧ t = checkFatal u) ∨
      ∃ st u b v, readTransition env s m.mt = some st ∧ Touches [.pha, .other] s true u ∧
        (st ≠ .crCertReq → u = s) ∧
        processMessage env m ((u.enter st).note (.recv m)) = some (b, v) ∧
        t = if b then (if doneReading env m v then v.turn .writing else v) else checkFatal v := by
  unfold readEvent readStep at h
  cases htr : readTransition env s m.mt with
  | none =>
      simp only [htr, sslFail, Call.fail, Option.some.injEq] at h
      exact Or.inl ⟨_, touches_sslFatal _ _ _ s, h.symm⟩
  -- A request after the handshake may first have to restore the transcript.
  | some st =>
      simp only [htr] at h
      cases hp : phaRequested env st s with
      | none => simp only [Call.seq, hp, reduceCtorEq] at h
      | some r =>
          rcases r with ⟨ok, u⟩
          rcases phaRequested_cases env hp with ⟨hu, hne⟩
          cases ok with
          | false =>
              simp only [Call.seq, hp, Option.some.injEq] at h
              exact Or.inl ⟨u, hu, h.symm⟩
          | true =>
              simp only [Call.seq, hp] at h
              right
              cases hm : processMessage env m ((u.enter st).note (.recv m)) with
              | none => simp only [hm, reduceCtorEq] at h
              | some w =>
                  rcases w with ⟨b, v⟩
                  refine ⟨st, u, b, v, rfl, hu, fun hst => (hne hst).2, hm, ?_⟩
                  cases b <;> · simp only [hm, Option.some.injEq] at h
                                exact h.symm

/-- A fatal error leaves every field. -/
theorem keeps_checkFatal (fs : List Field) (s : SSL ω) : Keeps fs s (checkFatal s) :=
  (touches_sslFatal fs _ _ s).toKeeps

/-- Which way a machine is turned is no field of its own. -/
theorem keeps_turn (fs : List Field) (s : SSL ω) (flow : MsgFlow) : Keeps fs s (s.turn flow) := by
  constructor <;> intros <;> rfl

/-- Nor is the state it enters. -/
theorem keeps_enter (fs : List Field) (s : SSL ω) (st : HandState) : Keeps fs s (s.enter st) := by
  constructor <;> intros <;> rfl

theorem keeps_note (s : SSL ω) (o : Obs) : Keeps [.trace] s (s.note o) := by
  constructor <;> intros <;> first | contradiction | rfl

/-- A message that is read and recorded. -/
theorem keeps_readEvent {m : Msg} {s t : SSL ω} (h : readEvent env m s = some t) :
    Keeps (.pha :: .other :: .trace :: touchedBy m.mt) s t := by
  rcases readEvent_cases env h with ⟨u, hu, rfl⟩ | ⟨st, u, b, v, -, hu, -, hm, rfl⟩
  · refine keeps_trans (keeps_mono ?_ hu.toKeeps) (keeps_checkFatal _ u)
    intro f hf
    simp only [List.mem_cons, List.not_mem_nil, or_false] at hf ⊢
    exact hf.elim Or.inl (fun hf => Or.inr (Or.inl hf))
  · have hsub : ∀ gs : List Field, gs ⊆ [.pha, .other, .trace] →
        gs ⊆ .pha :: .other :: .trace :: touchedBy m.mt :=
      fun gs hgs => List.Subset.trans hgs (by simp)
    refine keeps_trans (keeps_mono (hsub _ (by decide)) hu.toKeeps) ?_
    refine keeps_trans (keeps_enter _ u st) ?_
    refine keeps_trans (keeps_mono (hsub _ (by decide)) (keeps_note _ (.recv m))) ?_
    have hv : Keeps (.pha :: .other :: .trace :: touchedBy m.mt)
        ((u.enter st).note (.recv m)) v :=
      keeps_mono (fun f hf => by simp [hf]) (touches_processMessage env m _ b v hm).toKeeps
    refine keeps_trans hv ?_
    split
    · split
      · exact keeps_turn _ v _
      · exact keeps_refl _ v
    · exact keeps_checkFatal _ v

/-- A call that was settled either succeeded or has its failure noted. -/
theorem settle_some {r : Option (Bool × SSL ω)} {t : SSL ω} (h : settle r = some t) :
    ∃ b v, r = some (b, v) ∧ t = if b then v else checkFatal v := by
  unfold settle at h
  split at h
  · exact absurd h (by simp only [reduceCtorEq, not_false_eq_true])
  · exact ⟨true, _, rfl, (Option.some.inj h).symm⟩
  · exact ⟨false, _, rfl, (Option.some.inj h).symm⟩

/-- What is written in a state just entered. -/
theorem writeStep_cases {s t : SSL ω} (h : writeStep env s = some t) :
    (s.statem.handState = .ok ∧
      ∃ b v, finishHandshake env s = some (b, v) ∧ t = if b then v else checkFatal v) ∨
    (s.statem.handState = .earlyData ∧ ∃ b v, runPhase env (.postWork .earlyData) [] s = some (b, v)
      ∧ t = if b then v else checkFatal v) ∨
    (∃ u, constructMessage env s = some (none, u) ∧ t = checkFatal u) ∨
    (s.statem.handState ≠ .ok ∧ ∃ m src u b v, constructMessage env s = some (some (m, src), u) ∧
      runPhase env (.postWork s.statem.handState) [] (u.note (.sent m src)) = some (b, v) ∧
      t = if b then v else checkFatal v) := by
  unfold writeStep at h
  split at h
  · rename_i hst
    exact Or.inl ⟨hst, settle_some h⟩
  · rename_i hst
    exact Or.inr (Or.inl ⟨hst, settle_some h⟩)
  · rename_i st hok hearly
    split at h
    · exact absurd h (by simp only [reduceCtorEq, not_false_eq_true])
    · rename_i u hc
      exact Or.inr (Or.inr (Or.inl ⟨u, hc, (Option.some.inj h).symm⟩))
    · rename_i m src u hc
      rcases settle_some h with ⟨b, v, hp, ht⟩
      exact Or.inr (Or.inr (Or.inr ⟨hok, m, src, u, b, v, hc, hp, ht⟩))

/-- Writing: an error, a turn to reading, or a message in the next state. -/
theorem writeEvent_cases {s t : SSL ω} (h : writeEvent env s = some t) :
    (t = sslFatal .internalError .internalError s) ∨
    (writeTransition env s = .finished ∧ t = s.turn .reading) ∨
    (∃ st, writeTransition env s = .next st ∧
      writeStep env ({ s with postHandshakeAuth := phaTransition s }.enter st) = some t) := by
  unfold writeEvent at h
  split at h
  · exact Or.inl (Option.some.inj h).symm
  · rename_i hw
    exact Or.inr (Or.inl ⟨hw, (Option.some.inj h).symm⟩)
  · rename_i st hw
    exact Or.inr (Or.inr ⟨st, hw, h⟩)

/-- A call after which a failure is noted. -/
theorem keeps_ite_checkFatal {fs : List Field} {s v : SSL ω} {b : Bool} (h : Keeps fs s v) :
    Keeps fs s (if b then v else checkFatal v) := by
  split
  · exact h
  · exact keeps_trans h (keeps_checkFatal _ v)

theorem keeps_finishHandshake {s t : SSL ω} {b : Bool}
    (h : finishHandshake env s = some (b, t)) : Keeps [.pha, .other] s t := by
  unfold finishHandshake Call.seq at h
  split at h
  · exact absurd h (by simp only [reduceCtorEq, not_false_eq_true])
  · rename_i u hp
    rw [← (Prod.mk.inj (Option.some.inj h)).2]
    exact keeps_mono (by decide) (touches_runOther _ s _ u hp).toKeeps
  · rename_i u hp
    rw [← (Prod.mk.inj (Option.some.inj h)).2]
    refine keeps_trans (keeps_mono (by decide) (touches_runOther _ s _ u hp).toKeeps) ?_
    constructor <;> intros <;> first | contradiction | rfl

/-- A step of the writing machine. -/
theorem keeps_writeStep {s t : SSL ω} (h : writeStep env s = some t) :
    Keeps writeFields s t := by
  rcases writeStep_cases env h with ⟨-, b, v, hf, rfl⟩ | ⟨-, b, v, hp, rfl⟩ | ⟨u, hc, rfl⟩ |
    ⟨-, m, src, u, b, v, hc, hp, rfl⟩
  · exact keeps_ite_checkFatal (keeps_mono (by decide) (keeps_finishHandshake env hf))
  · exact keeps_ite_checkFatal (keeps_mono (by decide) (touches_runOther _ s b v hp).toKeeps)
  · exact keeps_trans (touches_constructMessage env hc).toKeeps (keeps_checkFatal _ u)
  · refine keeps_ite_checkFatal (keeps_trans (touches_constructMessage env hc).toKeeps ?_)
    exact keeps_trans (keeps_mono (by decide) (keeps_note u _))
      (keeps_mono (by decide) (touches_runOther _ _ b v hp).toKeeps)

theorem keeps_writeEvent {s t : SSL ω} (h : writeEvent env s = some t) :
    Keeps writeFields s t := by
  rcases writeEvent_cases env h with rfl | ⟨-, rfl⟩ | ⟨st, -, hw⟩
  · exact (touches_sslFatal _ _ _ s).toKeeps
  · exact keeps_turn _ s _
  · refine keeps_trans ?_ (keeps_writeStep env hw)
    constructor <;> intros <;> first | contradiction | rfl

/-- What clearing the object may change. -/
def clearFields : List Field :=
  [.session, .hrr, .certReq, .certRequest, .choice, .tls13, .other, .trace]

/-- Clearing an object leaves its certificates, masks and decided types. -/
theorem keeps_sslClear {s t : SSL ω} {b : Bool} (h : sslClear env s = some (b, t)) :
    Keeps clearFields s t := by
  unfold sslClear at h
  simp only at h
  split at h <;>
    · rw [← (Prod.mk.inj (Option.some.inj h)).2]
      constructor <;> intros <;> first | contradiction | rfl

/-- Starting: clearing failed, setting up failed, or the first message is next. -/
theorem startEvent_cases {server : Bool} {s t : SSL ω} (h : startEvent env server s = some t) :
    sslClear env s = some (false, t) ∨
    ∃ u b v, sslClear env s = some (true, u) ∧ runPhase env .setupHandshake []
        { u with server := server, extflags := [], tmp := { u.tmp with certReq := 0 } } =
          some (b, v) ∧ t = if b then v.turn .writing else v := by
  unfold startEvent at h
  split at h
  · exact absurd h (by simp only [reduceCtorEq, not_false_eq_true])
  · rename_i u hc
    rw [← Option.some.inj h]
    exact Or.inl hc
  · rename_i u hc
    refine Or.inr ?_
    split at h
    · exact absurd h (by simp only [reduceCtorEq, not_false_eq_true])
    · rename_i v hp
      exact ⟨u, false, v, hc, hp, (Option.some.inj h).symm⟩
    · rename_i v hp
      exact ⟨u, true, v, hc, hp, (Option.some.inj h).symm⟩

theorem keeps_startEvent {server : Bool} {s t : SSL ω} (h : startEvent env server s = some t) :
    Keeps (.server :: .extflags :: clearFields) s t := by
  rcases startEvent_cases env h with hc | ⟨u, b, v, hc, hp, rfl⟩
  · exact keeps_mono (by decide) (keeps_sslClear env hc)
  · refine keeps_trans (keeps_mono (by decide) (keeps_sslClear env hc)) ?_
    have hset : Keeps (.server :: .extflags :: clearFields) u
        { u with server := server, extflags := [], tmp := { u.tmp with certReq := 0 } } := by
      constructor <;> intros <;> first | contradiction | rfl
    refine keeps_trans hset
      (keeps_trans (keeps_mono (by decide) (touches_runOther _ _ b v hp).toKeeps) ?_)
    split
    · exact keeps_turn _ v _
    · exact keeps_refl _ v

/-- What a configuration call may change. -/
def configFields : ConfigCall → List Field
  | .enableRfc8902Support .. => [.support, .cert, .trace]
  | .own _ => [.cert, .psidThis, .trace]
  | .setVerify _ => [.verifyMode]
  | .verifyClientPostHandshake => [.pha]

/-- Asking a client again also sets the flag of the state machine that a handshake goes on. -/
theorem touches_configCall (c : ConfigCall) :
    Call.Rel (fun s _ t => Touches (configFields c) s false t ∧ t.statem.state = s.statem.state)
      (configCall env c) := by
  intro s b t h
  have hsame : ∀ {fs}, Touches fs s true t →
      Touches fs s false t ∧ t.statem.state = s.statem.state :=
    fun ht => ⟨touches_of_true false ht, by rw [ht.statem rfl]⟩
  cases c with
  | enableRfc8902Support srv clnt useAt =>
      exact hsame (updates_sslEnableRfc8902Support env srv clnt useAt s b t h)
  | own c => exact hsame (updates_certCall env c s b t h)
  | setVerify mode =>
      refine hsame ?_
      rw [← (Prod.mk.inj (Option.some.inj h)).2]
      change Touches [.verifyMode] s true (sslSetVerify mode s)
      exact touches_update (by constructor <;> intros <;> first | contradiction | rfl) rfl rfl
  | verifyClientPostHandshake =>
      simp only [configCall, sslVerifyClientPostHandshake] at h
      split at h
      · split at h
        · rw [← (Prod.mk.inj (Option.some.inj h)).2]
          refine ⟨⟨?_, fun hb => absurd hb Bool.false_ne_true, rfl, grows_refl rfl⟩, rfl⟩
          constructor <;> intros <;> first | contradiction | rfl
        · rw [← (Prod.mk.inj (Option.some.inj h)).2]
          exact ⟨touches_refl _ s false, rfl⟩
      · rw [← (Prod.mk.inj (Option.some.inj h)).2]
        exact ⟨touches_refl _ s false, rfl⟩

/-- What an event may change. -/
def stepFields : Event → List Field
  | .start _ => .server :: .extflags :: clearFields
  | .reenter => []
  | .read m => .pha :: .other :: .trace :: touchedBy m.mt
  | .write => writeFields
  | .clear => clearFields
  | .config c => configFields c

/-- What a step is, event by event. -/
theorem step_cases {s t : SSL ω} {ev : Event} (h : step env s ev = some t) :
    t = s ∨
    (∃ server, ev = .start server ∧ s.statem.state = .uninited ∧
      startEvent env server s = some t) ∨
    (ev = .reenter ∧ s.statem.state = .finished ∧ t = reenterEvent s) ∨
    (∃ m, ev = .read m ∧ s.statem.state = .reading ∧ readEvent env m s = some t) ∨
    (ev = .write ∧ s.statem.state = .writing ∧ writeEvent env s = some t) ∨
    (ev = .clear ∧ ∃ b, sslClear env s = some (b, t)) ∨
    (∃ c, ev = .config c ∧ s.statem.state ≠ .reading ∧ s.statem.state ≠ .writing ∧
      ∃ b, configCall env c s = some (b, t)) := by
  have hsnd : ∀ r : Option (Bool × SSL ω), r.map Prod.snd = some t → ∃ b, r = some (b, t) := by
    intro r hr
    rcases Option.map_eq_some_iff.mp hr with ⟨v, hv, rfl⟩
    exact ⟨v.1, hv⟩
  -- Events that do not fit the state, and calls during a handshake, do nothing.
  unfold step at h
  split at h
  · rename_i server hs
    exact Or.inr (Or.inl ⟨server, rfl, hs, h⟩)
  · rename_i hs
    exact Or.inr (Or.inr (Or.inl ⟨rfl, hs, (Option.some.inj h).symm⟩))
  · rename_i m hs
    exact Or.inr (Or.inr (Or.inr (Or.inl ⟨m, rfl, hs, h⟩)))
  · rename_i hs
    exact Or.inr (Or.inr (Or.inr (Or.inr (Or.inl ⟨rfl, hs, h⟩))))
  · exact Or.inr (Or.inr (Or.inr (Or.inr (Or.inr (Or.inl ⟨rfl, hsnd _ h⟩)))))
  · exact Or.inl (Option.some.inj h).symm
  · exact Or.inl (Option.some.inj h).symm
  · rename_i c hr hw
    exact Or.inr (Or.inr (Or.inr (Or.inr (Or.inr (Or.inr ⟨c, rfl, hr, hw, hsnd _ h⟩)))))
  · exact Or.inl (Option.some.inj h).symm

/-- A step changes the fields of its event only. -/
theorem keeps_step {s t : SSL ω} {ev : Event} (h : step env s ev = some t) :
    Keeps (stepFields ev) s t := by
  rcases step_cases env h with rfl | ⟨server, rfl, -, hs⟩ | ⟨rfl, -, rfl⟩ | ⟨m, rfl, -, hr⟩ |
    ⟨rfl, -, hw⟩ | ⟨rfl, b, hc⟩ | ⟨c, rfl, -, -, b, hc⟩
  · exact keeps_refl _ t
  · exact keeps_startEvent env hs
  · constructor <;> intros <;> rfl
  · exact keeps_readEvent env hr
  · exact keeps_writeEvent env hw
  · exact keeps_sslClear env hc
  · exact (touches_configCall env c s b t hc).1.toKeeps

/-- Only starting changes the side. -/
theorem server_step {s t : SSL ω} {ev : Event} (h : step env s ev = some t)
    (hne : ∀ server, ev ≠ .start server) : t.server = s.server := by
  refine (keeps_step env h).server ?_
  cases ev with
  | start server => exact absurd rfl (hne server)
  | read m =>
      simp only [stepFields]
      cases m.mt <;> decide
  | config c => cases c <;> (simp only [stepFields, configFields]; decide)
  | reenter => decide
  | write => decide
  | clear => decide

theorem fatal_checkFatal (s : SSL ω) : (checkFatal s).Fatal := fatal_sslFatal _ _ s

/-- Clearing that is refused leaves the state machine and the record. -/
theorem refused_sslClear {s t : SSL ω} (h : sslClear env s = some (false, t)) :
    t.statem = s.statem ∧ t.trace = s.trace ∧ t.tls13 = s.tls13 ∧ t.server = s.server ∧
      t.helloRetryRequest = .none := by
  simp only [sslClear] at h
  split at h
  · rw [← (Prod.mk.inj (Option.some.inj h)).2]
    exact ⟨rfl, rfl, rfl, rfl, rfl⟩
  · exact absurd h (by simp only [Option.some.injEq, Prod.mk.injEq, Bool.true_eq_false,
      false_and, not_false_eq_true])

/-- Clearing that is not refused resets the state machine. -/
theorem statem_cleared {s t : SSL ω} (h : sslClear env s = some (true, t)) :
    t.statem = ⟨.uninited, .before, true, none⟩ := by
  simp only [sslClear] at h
  split at h
  · exact absurd h (by simp only [Option.some.injEq, Prod.mk.injEq, Bool.false_eq_true,
      false_and, not_false_eq_true])
  · rw [← (Prod.mk.inj (Option.some.inj h)).2]

/-- A handshake starts before the first message. -/
theorem handState_started {server : Bool} {s u t : SSL ω} (hclear : sslClear env s = some (true, u))
    (hp : runPhase env .setupHandshake [] { u with
      server := server, extflags := [], tmp := { u.tmp with certReq := 0 } } = some (true, t)) :
    t.statem.handState = .before := by
  rw [(touches_runOther _ _ true t hp).handState]
  exact congrArg Statem.handState (statem_cleared env hclear)

/-- The object as it enters the next state to write in. -/
def entering (s : SSL ω) (st : HandState) : SSL ω :=
  { s with postHandshakeAuth := phaTransition s }.enter st

/-- A step after which messages are still to be read or written: nothing happened,
    clearing was refused, a handshake was started or is gone on with, a message was
    processed, there is nothing left to write, or a message was written. -/
inductive Flows (s : SSL ω) : Event → SSL ω → Prop
  | same {ev : Event} : Flows s ev s
  | refused {ev : Event} {t : SSL ω} (h : sslClear env s = some (false, t)) : Flows s ev t
  | started {server : Bool} {u t : SSL ω} (hclear : sslClear env s = some (true, u))
      (hp : runPhase env .setupHandshake [] { u with
        server := server, extflags := [], tmp := { u.tmp with certReq := 0 } } =
          some (true, t)) : Flows s (.start server) (t.turn .writing)
  | reentered (hs : s.statem.state = .finished) : Flows s .reenter (reenterEvent s)
  | read {m : Msg} {st : HandState} {u t : SSL ω} (hs : s.statem.state = .reading)
      (htr : readTransition env s m.mt = some st) (hu : Touches [.pha, .other] s true u)
      (hne : st ≠ .crCertReq → u = s)
      (hp : processMessage env m ((u.enter st).note (.recv m)) = some (true, t)) :
      Flows s (.read m) (if doneReading env m t then t.turn .writing else t)
  | turned (hs : s.statem.state = .writing) (htr : writeTransition env s = .finished) :
      Flows s .write (s.turn .reading)
  | early {t : SSL ω} (hs : s.statem.state = .writing)
      (htr : writeTransition env s = .next .earlyData)
      (hp : runPhase env (.postWork .earlyData) [] (entering s .earlyData) = some (true, t)) :
      Flows s .write t
  | written {st : HandState} {m : Msg} {src : Source} {u t : SSL ω}
      (hs : s.statem.state = .writing) (htr : writeTransition env s = .next st)
      (hc : constructMessage env (entering s st) = some (some (m, src), u))
      (hp : runPhase env (.postWork st) [] (u.note (.sent m src)) = some (true, t)) :
      Flows s .write t

/-- A connection that has noted a failure neither reads nor writes. -/
theorem stopped_checkFatal {s : SSL ω}
    (h : (checkFatal s).statem.state = .reading ∨ (checkFatal s).statem.state = .writing) :
    False := by
  rw [(fatal_checkFatal s).2] at h
  exact h.elim MsgFlow.noConfusion MsgFlow.noConfusion

/-- A machine that goes on after writing does so by one of the steps of `Flows`. -/
theorem flows_writeEvent {s t : SSL ω} (hs : s.statem.state = .writing)
    (h : writeEvent env s = some t) (ht : t.statem.state = .reading ∨ t.statem.state = .writing) :
    Flows env s .write t := by
  rcases writeEvent_cases env h with rfl | ⟨hf, rfl⟩ | ⟨st, htr, hws⟩
  · rw [(fatal_sslFatal _ _ s).2] at ht
    exact (ht.elim MsgFlow.noConfusion MsgFlow.noConfusion)
  · exact .turned hs hf
  · rcases writeStep_cases env hws with ⟨-, b, v, hf, rfl⟩ | ⟨hst, b, v, hp, rfl⟩ |
      ⟨u, -, rfl⟩ | ⟨-, m, src, u, b, v, hc, hp, rfl⟩
    · cases b with
      | false => exact (stopped_checkFatal ht).elim
      | true =>
          -- The handshake is over, so nothing more is read or written.
          rcases Call.seq_true.mp hf with ⟨u, -, hv⟩
          rw [if_pos rfl, ← (Prod.mk.inj (Option.some.inj hv)).2] at ht
          exact (ht.elim MsgFlow.noConfusion MsgFlow.noConfusion)
    · cases b with
      | false => exact (stopped_checkFatal ht).elim
      | true =>
          change st = .earlyData at hst
          subst hst
          exact .early hs htr hp
    · exact (stopped_checkFatal ht).elim
    · cases b with
      | false => exact (stopped_checkFatal ht).elim
      | true => exact .written hs htr hc hp

/-- What a step is after which messages are still to be read or written. -/
theorem flows_of_step {s t : SSL ω} {ev : Event} (h : step env s ev = some t)
    (ht : t.statem.state = .reading ∨ t.statem.state = .writing) : Flows env s ev t := by
  rcases step_cases env h with rfl | ⟨server, rfl, hst, hs⟩ | ⟨rfl, hst, rfl⟩ |
    ⟨m, rfl, hst, hr⟩ | ⟨rfl, hst, hw⟩ | ⟨rfl, b, hc⟩ | ⟨c, rfl, hr, hw, b, hc⟩
  · exact .same
  · rcases startEvent_cases env hs with hc | ⟨u, b, v, hc, hp, rfl⟩
    · exact .refused hc
    · cases b with
      | true => exact .started hc hp
      | false =>
          -- A phase that fails stops the machine, which is then in neither flow.
          have hv := reports_runOther _ _ v hp
          rw [if_neg Bool.false_ne_true, hv.2] at ht
          exact (ht.elim MsgFlow.noConfusion MsgFlow.noConfusion)
  · exact .reentered hst
  · rcases readEvent_cases env hr with ⟨u, -, rfl⟩ | ⟨st, u, b, v, htr, hu, hne, hm, rfl⟩
    · exact (stopped_checkFatal ht).elim
    · cases b with
      | false => exact (stopped_checkFatal ht).elim
      | true => exact .read hst htr hu hne hm
  · exact flows_writeEvent env hst hw ht
  · cases b with
    | false => exact .refused hc
    | true =>
        rw [statem_cleared env hc] at ht
        exact (ht.elim MsgFlow.noConfusion MsgFlow.noConfusion)
  · rw [(touches_configCall env c s b t hc).2] at ht
    exact (ht.elim hr hw).elim

/-- Turning to writing or not makes no difference to the fields. -/
theorem keeps_turned (b : Bool) (s : SSL ω) :
    Keeps [] s (if b then s.turn .writing else s) ∧
      (if b then s.turn .writing else s).statem.handState = s.statem.handState := by
  cases b with
  | true => exact ⟨keeps_turn _ s _, rfl⟩
  | false => exact ⟨keeps_refl _ s, rfl⟩

/-- Writing ends in the state that was entered, also when it fails. -/
theorem handState_writeStep {s t : SSL ω} (h : writeStep env s = some t) :
    t.statem.handState = s.statem.handState := by
  have hsettled : ∀ (b : Bool) (v : SSL ω),
      (if b then v else checkFatal v).statem.handState = v.statem.handState := by
    intro b v
    cases b with
    | false => exact sslFatal_handState _ _ v
    | true => rfl
  rcases writeStep_cases env h with ⟨-, b, v, hf, rfl⟩ | ⟨-, b, v, hp, rfl⟩ | ⟨u, hc, rfl⟩ |
    ⟨-, m, src, u, b, v, hc, hp, rfl⟩
  · rw [hsettled]
    unfold finishHandshake Call.seq at hf
    split at hf
    · exact absurd hf (by simp only [reduceCtorEq, not_false_eq_true])
    · rename_i u hp
      rw [← (Prod.mk.inj (Option.some.inj hf)).2]
      exact (touches_runOther _ s _ u hp).handState
    · rename_i u hp
      rw [← (Prod.mk.inj (Option.some.inj hf)).2]
      exact (touches_runOther _ s _ u hp).handState
  · rw [hsettled, (touches_runOther _ s b v hp).handState]
  · rw [checkFatal, sslFatal_handState, (touches_constructMessage env hc).handState]
  · rw [hsettled, (touches_runOther _ _ b v hp).handState]
    exact (touches_constructMessage env hc).handState

/-- A message that was processed leaves the state it led to. -/
theorem statem_processed {m : Msg} {st : HandState} {s u t : SSL ω}
    (hs : s.statem.state = .reading) (hu : Touches [.pha, .other] s true u)
    (hp : processMessage env m ((u.enter st).note (.recv m)) = some (true, t)) :
    t.statem.state = .reading ∧ t.statem.handState = st := by
  have hstate : u.statem.state = .reading := by rw [hu.statem rfl, hs]
  rw [(touches_processMessage env m _ true t hp).statem rfl]
  exact ⟨hstate, rfl⟩

/-- A message that was written leaves the state it was written in. -/
theorem statem_written {st : HandState} {m : Msg} {src : Source} {s u t : SSL ω}
    (hc : constructMessage env (entering s st) = some (some (m, src), u))
    (hp : runPhase env (.postWork st) [] (u.note (.sent m src)) = some (true, t)) :
    t.statem.state = s.statem.state ∧ t.statem.handState = st := by
  have ht : t.statem = (entering s st).statem :=
    ((touches_runOther _ _ true t hp).statem rfl).trans
      ((touches_constructMessage env hc).statem rfl)
  rw [ht]
  exact ⟨rfl, rfl⟩

/-- A step that ends in reading: nothing happened, clearing was refused, a message
    was processed and more are expected, or there is nothing left to write. -/
theorem reading_cases {s t : SSL ω} {ev : Event} (h : step env s ev = some t)
    (ht : t.statem.state = .reading) :
    t = s ∨ sslClear env s = some (false, t) ∨
    (∃ m st u, ev = .read m ∧ readTransition env s m.mt = some st ∧
      Touches [.pha, .other] s true u ∧ (st ≠ .crCertReq → u = s) ∧
      processMessage env m ((u.enter st).note (.recv m)) = some (true, t) ∧
      doneReading env m t = false) ∨
    (ev = .write ∧ writeTransition env s = .finished ∧ t = s.turn .reading) := by
  -- Of the steps that keep the machine going, those that end with writing are out.
  cases flows_of_step env h (Or.inl ht) with
  | same => exact Or.inl rfl
  | refused hc => exact Or.inr (Or.inl hc)
  | started => exact absurd ht MsgFlow.noConfusion
  | reentered => exact absurd ht MsgFlow.noConfusion
  | @read m st u v hs htr hu hne hp =>
      cases hd : doneReading env m v with
      | true =>
          rw [hd, if_pos rfl] at ht
          exact absurd ht MsgFlow.noConfusion
      | false =>
          rw [if_neg Bool.false_ne_true]
          exact Or.inr (Or.inr (Or.inl ⟨m, st, u, rfl, htr, hu, hne, hp, hd⟩))
  | turned hs htr => exact Or.inr (Or.inr (Or.inr ⟨rfl, htr, rfl⟩))
  | early hs htr hp =>
      rw [(touches_runOther _ _ true t hp).statem rfl] at ht
      exact absurd (hs.symm.trans ht) MsgFlow.noConfusion
  | written hs htr hc hp =>
      rw [(statem_written env hc hp).1] at ht
      exact absurd (hs.symm.trans ht) MsgFlow.noConfusion

/-- A handshake ends in the state `ok`. -/
def FinishedOk (s : SSL ω) : Prop := s.statem.state = .finished → s.statem.handState = .ok

theorem finishedOk_of_ne {s : SSL ω} (h : s.statem.state ≠ .finished) : FinishedOk s :=
  fun hs => absurd hs h

theorem finishedOk_checkFatal (s : SSL ω) : FinishedOk (checkFatal s) :=
  finishedOk_of_ne (by rw [(fatal_checkFatal s).2]; exact MsgFlow.noConfusion)

/-- The invariant of a machine that is done, through every step. -/
theorem finishedOk_step {s t : SSL ω} {ev : Event} (hs : FinishedOk s)
    (h : step env s ev = some t) : FinishedOk t := by
  -- Clearing the object either fails and changes nothing, or takes it out of this state.
  have hclear : ∀ {b}, sslClear env s = some (b, t) → FinishedOk t := by
    intro b hc
    cases b with
    | false => rw [FinishedOk, (refused_sslClear env hc).1]; exact hs
    | true => exact finishedOk_of_ne (by rw [statem_cleared env hc]; exact MsgFlow.noConfusion)
  rcases step_cases env h with rfl | ⟨server, rfl, -, hst⟩ | ⟨rfl, -, rfl⟩ |
    ⟨m, rfl, hst, hr⟩ | ⟨rfl, hst, hw⟩ | ⟨rfl, b, hc⟩ | ⟨c, rfl, -, -, b, hc⟩
  · exact hs
  · rcases startEvent_cases env hst with hc | ⟨u, b, v, -, hp, rfl⟩
    · exact hclear hc
    · cases b with
      | true => exact finishedOk_of_ne MsgFlow.noConfusion
      | false =>
          refine finishedOk_of_ne ?_
          rw [if_neg Bool.false_ne_true, (reports_runOther _ _ v hp).2]
          exact MsgFlow.noConfusion
  · exact finishedOk_of_ne MsgFlow.noConfusion
  · rcases readEvent_cases env hr with ⟨u, -, rfl⟩ | ⟨st, u, b, v, -, hu, -, hm, rfl⟩
    · exact finishedOk_checkFatal u
    · cases b with
      | false => exact finishedOk_checkFatal v
      | true =>
          refine finishedOk_of_ne ?_
          rw [if_pos rfl]
          split
          · exact MsgFlow.noConfusion
          · rw [(statem_processed env hst hu hm).1]
            exact MsgFlow.noConfusion
  · -- Writing ends in the state `ok`, or messages are still to come.
    by_cases hflow : t.statem.state = .reading ∨ t.statem.state = .writing
    · refine finishedOk_of_ne (fun hf => ?_)
      rw [hf] at hflow
      exact hflow.elim MsgFlow.noConfusion MsgFlow.noConfusion
    · rcases writeEvent_cases env hw with rfl | ⟨-, rfl⟩ | ⟨st, -, hws⟩
      · exact finishedOk_of_ne (by rw [(fatal_sslFatal _ _ s).2]; exact MsgFlow.noConfusion)
      · exact absurd (Or.inl rfl) hflow
      · rcases writeStep_cases env hws with ⟨hok, b, v, hf, rfl⟩ | ⟨-, b, v, hp, rfl⟩ |
          ⟨u, -, rfl⟩ | ⟨-, m, src, u, b, v, hc, hp, rfl⟩
        · cases b with
          | false => exact finishedOk_checkFatal v
          | true =>
              rcases Call.seq_true.mp hf with ⟨u, hp, hv⟩
              intro _
              rw [if_pos rfl, ← (Prod.mk.inj (Option.some.inj hv)).2, ← hok]
              exact (touches_runOther _ _ true u hp).handState
        · cases b with
          | false => exact finishedOk_checkFatal v
          | true =>
              rw [if_pos rfl, (touches_runOther _ _ true v hp).statem rfl] at hflow
              exact absurd (Or.inr hst) hflow
        · exact finishedOk_checkFatal u
        · cases b with
          | false => exact finishedOk_checkFatal v
          | true => exact absurd (Or.inr ((statem_written env hc hp).1.trans hst)) hflow
  · exact hclear hc
  · rcases touches_configCall env c s b t hc with ⟨hu, hflow⟩
    rw [FinishedOk, hflow, hu.handState]
    exact hs

end

end Iso21177
