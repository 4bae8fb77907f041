import Iso21177.Ssl.Inert
import Iso21177.Ssl.Offer

/-!
# Agreement on Certificate Types

A client and a server that run this code agree on the type of certificate for each
role. The client lists its types in every ClientHello, so a server that is enabled
decides anew in every handshake, and what it sends is a type both masks have. A side
that is not enabled never decides anything. The mixed cases stop the handshake: each
side refuses the extensions of the other unless it is enabled itself.

The two runs are taken apart. Whatever happened on either object before, a client that
has read a ServerHello decided by it, and its last ClientHello lists its types
(`AnswerRead`); a server that has written one decided by the ClientHello it read last,
and its answer has these decisions (`AnswerSent`). Agreement follows when the two
objects mean the same two messages (`certificate_types_agree`). What is read and
written later in the handshake changes no decision (`settled_run`).

## Main definitions

* `Obs.sentMsg`, `Obs.recvMsg`, `lastSent`, `lastRead`: The last message of either
  direction.
* `Chosen`: The extensions of a hello decided the types.
* `answerCtx`: Where a ServerHello's extensions may appear.
* `HelloSent`, `HelloRead`: What the last ClientHello says, to a client that waits for
  the answer and to a server that is about to give it.
* `AnswerSent`, `AnswerRead`: What the last ServerHello says.
* `Negotiating`: All of these.
* `Event.inHandshake`: Reading and writing.
* `Settled`, `Stays`: The hellos are done, and what does not change then.
* `ParsedAnswer`, `ConstructedAnswer`: The states after a ServerHello.
* `Agree`: The two sides hold the same type for a role.
* `listingHello`, `choosingAnswer`, `listingFlight`, `choosingFlight`: A handshake.

## Theorems

* `lastRead_append`, `lastSent_append`: Exchanges do not count as messages.
* `chosen_of_keeps`, `chosen_of_decides`, `chosen_clientHello`, `chosen_serverHello`: What
  a hello decided.
* `helloSent_step`, `helloRead_step`, `answerSent_step`, `answerRead_step`: One step.
* `negotiating_new`, `negotiating_step`, `negotiating_run`: All invariants along a run.
* `settled_readTransition`, `touches_processMessage_settled`, `settled_of_keeps`,
  `settled_readEvent`, `settled_writeEvent`, `settled_run`: Decisions stay until the
  handshake ends.
* `parsedType_list`, `chooseType_typeList`, `chooseType_code`: What is chosen from the
  lists sent.
* `agree_of_answer`, `agree_of_stays`, `certificate_types_agree`: Agreement.
* `certificate_types_agree_listed`: The handshake above.
-/

namespace Iso21177

open Packet

variable {ω : Type}

/-- The message of an entry for a message that was sent. -/
def Obs.sentMsg : Obs → Option Msg
  | .sent m _ => some m
  | _ => none

/-- The message of an entry for a message that was read. -/
def Obs.recvMsg : Obs → Option Msg
  | .recv m => some m
  | _ => none

/-- The last message that was sent. -/
def lastSent (tr : List Obs) : Option Msg := tr.findSome? Obs.sentMsg

/-- The last message that was read. -/
def lastRead (tr : List Obs) : Option Msg := tr.findSome? Obs.recvMsg

theorem lastRead_append {l tr : List Obs} (hl : ∀ o ∈ l, o.isExchange = true) :
    lastRead (l ++ tr) = lastRead tr := by
  have hnone : l.findSome? Obs.recvMsg = none := by
    rw [List.findSome?_eq_none_iff]
    intro o ho
    have hx := hl o ho
    cases o with
    | recv m => exact absurd hx Bool.false_ne_true
    | _ => rfl
  rw [lastRead, List.findSome?_append, hnone, Option.none_or, lastRead]

theorem lastSent_append {l tr : List Obs} (hl : ∀ o ∈ l, o.isExchange = true) :
    lastSent (l ++ tr) = lastSent tr := by
  have hnone : l.findSome? Obs.sentMsg = none := by
    rw [List.findSome?_eq_none_iff]
    intro o ho
    have hx := hl o ho
    cases o with
    | sent m src => exact absurd hx Bool.false_ne_true
    | _ => rfl
  rw [lastSent, List.findSome?_append, hnone, Option.none_or, lastSent]

/-- Where the extensions of a hello name a role, they decided the type for it. -/
def Chosen (ctx : ExtCtx) (exts : Bytes) (s : SSL ω) : Prop :=
  ∃ flags raw, collectBlock flags ctx exts = .ok raw ∧
    ∀ (r : Role) (body : Bytes), raw.lookup r.extIdx = some body →
      sslIsRfc8902Supported s = true ∧ ∃ c,
        parsedType s.server (s.ieee1609.certType r).support body = some c ∧
        (s.ieee1609.certType r).typeDecided = some c

/-- Where the extensions of a ServerHello may appear, before the version is known. -/
def answerCtx : ExtCtx := sslExtTls12ServerHello ||| sslExtTls13ServerHello

/-- The last ClientHello of a client that waits for the answer lists its types. -/
def HelloSent (s : SSL ω) : Prop :=
  s.server = false → (s.statem.state = .reading ∨ s.statem.state = .writing) →
    s.statem.handState = .cwClntHello →
      ∃ head exts, lastSent s.trace = some (.clientHello head exts) ∧
        Offers sslExtClientHello exts s

/-- The types of a server that is about to answer are those of the last ClientHello. -/
def HelloRead (s : SSL ω) : Prop :=
  s.server = true → (s.statem.state = .reading ∨ s.statem.state = .writing) →
    s.statem.handState = .srClntHello → s.tls13 = true →
      ∃ head exts, lastRead s.trace = some (.clientHello head exts) ∧
        Chosen sslExtClientHello exts s

/-- A server that has answered decided by the last ClientHello, and its answer has the
    decisions unless it asks for another ClientHello. -/
def AnswerSent (s : SSL ω) : Prop :=
  s.server = true → (s.statem.state = .reading ∨ s.statem.state = .writing) →
    s.statem.handState = .swSrvrHello → s.tls13 = true →
      ∃ head exts hrr hd ans, lastRead s.trace = some (.clientHello head exts) ∧
        lastSent s.trace = some (.serverHello hrr hd ans) ∧
        Chosen sslExtClientHello exts s ∧
        (hrr = false → Offers answerCtx ans s ∧ s.helloRetryRequest ≠ .pending)

/-- A client that has read the answer decided by it, and its last ClientHello lists its
    types. -/
def AnswerRead (s : SSL ω) : Prop :=
  s.server = false → s.statem.state = .reading → s.statem.handState = .crSrvrHello →
    s.tls13 = true →
      ∃ head exts hd ans, lastSent s.trace = some (.clientHello head exts) ∧
        lastRead s.trace = some (.serverHello false hd ans) ∧
        Offers sslExtClientHello exts s ∧ Chosen answerCtx ans s

theorem chosen_of_keeps {fs : List Field} {ctx : ExtCtx} {exts : Bytes} {s t : SSL ω}
    (h : Keeps fs s t) (hfs : .support ∉ fs ∧ .decided ∉ fs ∧ .server ∉ fs)
    (hs : Chosen ctx exts s) : Chosen ctx exts t := by
  rcases hs with ⟨flags, raw, hraw, hc⟩
  refine ⟨flags, raw, hraw, fun r => ?_⟩
  rw [certType_of_keeps h hfs.1 hfs.2.1, supported_of_keeps h hfs.1, h.server hfs.2.2]
  exact hc r

theorem chosen_of_decides {fs : List Field} {ctx : ExtCtx} {exts : Bytes} {s t : SSL ω}
    {raw : RawExts} (h : Keeps fs s t) (hfs : .support ∉ fs ∧ .server ∉ fs)
    (hraw : collectBlock s.extflags ctx exts = .ok raw) (hdec : ∀ r, Decides raw r s t) :
    Chosen ctx exts t := by
  refine ⟨_, raw, hraw, fun r body hbody => ?_⟩
  have hd := hdec r
  unfold Decides at hd
  rw [hbody] at hd
  rw [supported_of_keeps h hfs.1, h.server hfs.2, hd.1]
  exact hd.2

section

variable (env : Env ω)

/-- What a ClientHello that was processed decided. -/
theorem chosen_clientHello {m : Msg} {s t : SSL ω} (hs : s.server = true)
    (hstate : s.statem.handState = .srClntHello) (h13 : t.tls13 = true)
    (h : processMessage env m s = some (true, t)) :
    ∃ head exts, m = .clientHello head exts ∧ Chosen sslExtClientHello exts t := by
  rw [processMessage, hs, if_pos rfl] at h
  unfold serverProcessMessage at h
  rw [hstate] at h
  split at h
  case h_1 head exts _ =>
    rcases Call.seq_true.mp h with ⟨u, hhello, hpost⟩
    have hk := touches_tlsPostProcessClientHello env u true t hpost
    have h13u : u.tls13 = true := by rw [← h13, hk.tls13 (by decide)]
    rcases clientHello_decided env hhello h13u with ⟨raw, hraw, hdec⟩
    have hread := touches_tlsProcessClientHello env head exts s true u hhello
    exact ⟨head, exts, rfl, chosen_of_keeps hk.toKeeps (by decide)
      (chosen_of_decides hread.toKeeps (by decide) hraw hdec)⟩
  all_goals first
    | exact absurd h (sslFail_ne_true _ _ _ _)
    | contradiction

/-- What a ServerHello that was processed decided, unless it asks for another
    ClientHello. -/
theorem chosen_serverHello {m : Msg} {s t : SSL ω} (hs : s.server = false)
    (hstate : s.statem.handState = .crSrvrHello) (h13 : t.tls13 = true)
    (h : processMessage env m s = some (true, t)) :
    ∃ hrr hd ans, m = .serverHello hrr hd ans ∧ (hrr = false → Chosen answerCtx ans t) := by
  rw [processMessage, hs, if_neg Bool.false_ne_true] at h
  unfold clientProcessMessage at h
  rw [hstate] at h
  split at h
  case h_1 hrr hd ans _ =>
    refine ⟨hrr, hd, ans, rfl, ?_⟩
    rintro rfl
    rcases serverHello_decided env h h13 with ⟨raw, hraw, hdec⟩
    have hread := touches_tlsProcessServerHello env false hd ans s true t h
    exact chosen_of_decides hread.toKeeps (by decide) hraw hdec
  all_goals first
    | exact absurd h (sslFail_ne_true _ _ _ _)
    | contradiction

theorem helloSent_step {s t : SSL ω} {ev : Event} (hok : FinishedOk s) (hs : HelloSent s)
    (h : step env s ev = some t) : HelloSent t := by
  intro hserver hflow hstate
  -- Only writing a ClientHello leads to this state, and every other step keeps what was
  -- written.
  cases flows_of_step env h hflow with
  | same => exact hs hserver hflow hstate
  | refused hc =>
      rcases refused_sslClear env hc with ⟨hm, htr, -, hsv, -⟩
      rw [hm] at hflow hstate
      rw [hsv] at hserver
      rcases hs hserver hflow hstate with ⟨head, exts, hlast, hoff⟩
      exact ⟨head, exts, htr ▸ hlast, offers_of_keeps (keeps_sslClear env hc) (by decide) hoff⟩
  | started hclear hp =>
      exact absurd ((handState_started env hclear hp).symm.trans hstate) HandState.noConfusion
  | reentered hf => exact absurd ((hok hf).symm.trans hstate) HandState.noConfusion
  -- A state of the writing side accepts no message.
  | @read m st u v hread htr hu hne hp =>
      rw [(keeps_turned _ v).2, (statem_processed env hread hu hp).2] at hstate
      exact absurd hp (processMessage_written env (Or.inl hstate))
  | turned hw htr => exact hs hserver (Or.inr hw) hstate
  | early hw htr hp =>
      rw [(touches_runOther _ _ true t hp).handState] at hstate
      exact absurd hstate HandState.noConfusion
  | @written st m src u _ hw htr hc hp =>
      have hst : st = .cwClntHello := (statem_written env hc hp).2.symm.trans hstate
      subst hst
      have hk := touches_constructMessage env hc
      have hpost := touches_runOther _ _ true t hp
      have hclient : (entering s .cwClntHello).server = false := by
        rw [← hserver, hpost.server (by decide)]
        exact (hk.server (by decide)).symm
      -- Writing touches neither the side nor the switch, so the object still offers what
      -- it wrote.
      have hhello : tlsConstructClientHello env (entering s .cwClntHello) =
          some (some (m, src), u) := by
        rw [constructMessage, hclient, if_neg Bool.false_ne_true] at hc
        exact hc
      rcases clientHello_offers env hclient hhello with ⟨head, exts, rfl, hoff⟩
      refine ⟨head, exts, by rw [hpost.trace (by decide)]; rfl, ?_⟩
      refine offers_of_keeps hpost.toKeeps (by decide) ?_
      exact offers_of_keeps (keeps_note u _) (by decide)
        (offers_of_keeps hk.toKeeps (by decide) hoff)

theorem helloRead_step {s t : SSL ω} {ev : Event} (hok : FinishedOk s) (hs : HelloRead s)
    (h : step env s ev = some t) : HelloRead t := by
  intro hserver hflow hstate h13
  -- The same for the ClientHello a server has read.
  cases flows_of_step env h hflow with
  | same => exact hs hserver hflow hstate h13
  | refused hc =>
      rcases refused_sslClear env hc with ⟨hm, htr, hver, hsv, -⟩
      rw [hm] at hflow hstate
      rw [hsv] at hserver
      rw [hver] at h13
      rcases hs hserver hflow hstate h13 with ⟨head, exts, hlast, hch⟩
      exact ⟨head, exts, htr ▸ hlast, chosen_of_keeps (keeps_sslClear env hc) (by decide) hch⟩
  | started hclear hp =>
      exact absurd ((handState_started env hclear hp).symm.trans hstate) HandState.noConfusion
  | reentered hf => exact absurd ((hok hf).symm.trans hstate) HandState.noConfusion
  | @read m st u v hread htr hu hne hp =>
      rcases keeps_turned (doneReading env m v) v with ⟨hk, hhs⟩
      rw [hk.server (by decide)] at hserver
      rw [hk.tls13 (by decide)] at h13
      rw [hhs, (statem_processed env hread hu hp).2] at hstate
      subst hstate
      have hproc := touches_processMessage env m _ true v hp
      have hsrv : ((u.enter .srClntHello).note (.recv m)).server = true := by
        rw [← hserver, hproc.server (by cases m.mt <;> decide)]
      rcases chosen_clientHello env hsrv rfl h13 hp with ⟨head, exts, rfl, hch⟩
      refine ⟨head, exts, ?_, chosen_of_keeps hk (by decide) hch⟩
      -- Processing adds exchanges to the record but no messages.
      rcases hproc.grows with ⟨l, hl, hex⟩
      rw [hk.trace (by decide), hl, lastRead_append hex]
      rfl
  | turned hw htr => exact hs hserver (Or.inr hw) hstate h13
  | early hw htr hp =>
      rw [(touches_runOther _ _ true t hp).handState] at hstate
      exact absurd hstate HandState.noConfusion
  | @written st m src u _ hw htr hc hp =>
      exact absurd ((statem_written env hc hp).2.symm.trans hstate)
        (writeTransition_ne_srClntHello htr)

/-- The answer is written from the state in which the ClientHello was read. -/
theorem answerSent_step {s t : SSL ω} {ev : Event} (hok : FinishedOk s) (hr : HelloRead s)
    (hs : AnswerSent s) (h : step env s ev = some t) : AnswerSent t := by
  intro hserver hflow hstate h13
  cases flows_of_step env h hflow with
  | same => exact hs hserver hflow hstate h13
  | refused hc =>
      rcases refused_sslClear env hc with ⟨hm, htr, hver, hsv, hhrr⟩
      rw [hm] at hflow hstate
      rw [hsv] at hserver
      rw [hver] at h13
      rcases hs hserver hflow hstate h13 with ⟨head, exts, hrr, hd, ans, hlast, hsent, hch, hoff⟩
      have hk := keeps_sslClear env hc
      refine ⟨head, exts, hrr, hd, ans, htr ▸ hlast, htr ▸ hsent,
        chosen_of_keeps hk (by decide) hch, fun hno => ?_⟩
      exact ⟨offers_of_keeps hk (by decide) (hoff hno).1, by rw [hhrr]; exact HrrState.noConfusion⟩
  | started hclear hp =>
      exact absurd ((handState_started env hclear hp).symm.trans hstate) HandState.noConfusion
  | reentered hf => exact absurd ((hok hf).symm.trans hstate) HandState.noConfusion
  | @read m st u v hread htr hu hne hp =>
      rw [(keeps_turned _ v).2, (statem_processed env hread hu hp).2] at hstate
      exact absurd hp (processMessage_written env (Or.inr hstate))
  | turned hw htr => exact hs hserver (Or.inr hw) hstate h13
  | early hw htr hp =>
      rw [(touches_runOther _ _ true t hp).handState] at hstate
      exact absurd hstate HandState.noConfusion
  | @written st m src u _ hw htr hc hp =>
      have hst : st = .swSrvrHello := (statem_written env hc hp).2.symm.trans hstate
      subst hst
      have hk := touches_constructMessage env hc
      have hpost := touches_runOther _ _ true t hp
      -- What is read here of the object was there before the message was written.
      have hst' : Keeps writeFields (entering s .swSrvrHello) t :=
        keeps_trans hk.toKeeps (keeps_trans (keeps_mono (by decide) (keeps_note u _))
          (keeps_mono (by decide) hpost.toKeeps))
      have hsrv : s.server = true := (hst'.server (by decide)).symm.trans hserver
      have h13s : s.tls13 = true := (hst'.tls13 (by decide)).symm.trans h13
      have hhello : tlsConstructServerHello env (entering s .swSrvrHello) =
          some (some (m, src), u) := by
        have hsrv' : (entering s .swSrvrHello).server = true := hsrv
        rw [constructMessage, hsrv', if_pos rfl] at hc
        exact hc
      obtain ⟨head, exts, hlast, hch⟩ := hr hsrv (Or.inr hw)
        (writeTransition_swSrvrHello h13s hsrv htr) h13s
      obtain ⟨hrr, hd, ans, rfl, hoff⟩ :=
        serverHello_offers env (s := entering s .swSrvrHello) h13s hhello
      have htrace : t.trace = .sent (.serverHello hrr hd ans) src :: u.trace :=
        hpost.trace (by decide)
      rcases hk.grows with ⟨l, hl, hex⟩
      refine ⟨head, exts, hrr, hd, ans, ?_, by rw [htrace]; rfl,
        chosen_of_keeps hst' (by decide) hch, fun hno => ?_⟩
      · rw [← hlast]
        have hu : lastRead u.trace = lastRead s.trace := by
          rw [hl, lastRead_append hex]
          rfl
        rw [htrace, ← hu]
        rfl
      · rw [hst'.hrr (by decide)]
        exact ⟨offers_of_keeps hst' (by decide) (hoff hno).1, (hoff hno).2⟩

/-- The answer is read in the state in which the ClientHello was written. -/
theorem answerRead_step {s t : SSL ω} {ev : Event} (hr : HelloSent s) (hs : AnswerRead s)
    (h : step env s ev = some t) : AnswerRead t := by
  intro hserver hflow hstate h13
  rcases reading_cases env h hflow with rfl | hc | ⟨m, st, u, rfl, htr, hu, hne, hp, hdone⟩ |
    ⟨rfl, htr, rfl⟩
  · exact hs hserver hflow hstate h13
  · rcases refused_sslClear env hc with ⟨hm, htr, hver, hsv, -⟩
    rw [hm] at hflow hstate
    rw [hsv] at hserver
    rw [hver] at h13
    rcases hs hserver hflow hstate h13 with ⟨head, exts, hd, ans, hlast, hread, hoff, hch⟩
    have hk := keeps_sslClear env hc
    exact ⟨head, exts, hd, ans, htr ▸ hlast, htr ▸ hread, offers_of_keeps hk (by decide) hoff,
      chosen_of_keeps hk (by decide) hch⟩
  · have hproc := touches_processMessage env m _ true t hp
    have hst : st = .crSrvrHello := by
      rw [← hstate, hproc.handState]
      rfl
    subst hst
    have hus : u = s := hne HandState.noConfusion
    subst hus
    have hclient : u.server = false := by
      rw [← hserver, hproc.server (by cases m.mt <;> decide)]
      rfl
    have hreading : u.statem.state = .reading := by
      rw [← hflow, hproc.statem rfl]
      rfl
    obtain ⟨head, exts, hlast, hoff⟩ :=
      hr hclient (Or.inl hreading) (readTransition_crSrvrHello htr)
    obtain ⟨hrr, hd, ans, rfl, hch⟩ :=
      chosen_serverHello env (s := (u.enter .crSrvrHello).note (.recv m)) hclient rfl h13 hp
    have hno : hrr = false := by
      rw [← hdone, doneReading, hserver, hstate]
    rcases hproc.grows with ⟨l, hl, hex⟩
    refine ⟨head, exts, hd, ans, ?_, ?_, ?_, hch hno⟩
    · rw [hl, lastSent_append hex, ← hlast]
      rfl
    · rw [hl, lastRead_append hex, hno]
      rfl
    · exact offers_of_support (s := u) hclient hserver
        (hproc.support (by simp only [Msg.mt]; decide)) hoff
  · -- In TLS 1.3 nothing is written in this state.
    have h13s : s.tls13 = true := h13
    have hstate' : s.statem.handState = .crSrvrHello := hstate
    have hclient : s.server = false := hserver
    simp only [writeTransition, h13s, hclient, if_true, Bool.false_eq_true, if_false,
      client13WriteTransition, hstate', reduceCtorEq] at htr

/-- What holds of an object at any time. -/
structure Negotiating (s : SSL ω) : Prop where
  undecided : Undecided s
  finishedOk : FinishedOk s
  helloSent : HelloSent s
  helloRead : HelloRead s
  answerSent : AnswerSent s
  answerRead : AnswerRead s

theorem negotiating_new (mem : SspBuffer) (mode : BitVec 32) (cert : Cert) (o : ω) :
    Negotiating (sslNew mem mode cert o) where
  undecided _ := rfl
  finishedOk := finishedOk_of_ne MsgFlow.noConfusion
  helloSent _ _ h := absurd h HandState.noConfusion
  helloRead _ _ h := absurd h HandState.noConfusion
  answerSent _ _ h := absurd h HandState.noConfusion
  answerRead _ _ h := absurd h HandState.noConfusion

theorem negotiating_step {s t : SSL ω} {ev : Event} (hs : Negotiating s)
    (h : step env s ev = some t) : Negotiating t where
  undecided := undecided_step env hs.undecided h
  finishedOk := finishedOk_step env hs.finishedOk h
  helloSent := helloSent_step env hs.finishedOk hs.helloSent h
  helloRead := helloRead_step env hs.finishedOk hs.helloRead h
  answerSent := answerSent_step env hs.finishedOk hs.helloRead hs.answerSent h
  answerRead := answerRead_step env hs.helloSent hs.answerRead h

theorem negotiating_run {s0 s : SSL ω} {es : List Event} (h0 : Negotiating s0)
    (h : run (step env) s0 es = some s) : Negotiating s :=
  run_invariant (step env) Negotiating (fun _ _ _ hs hst => negotiating_step env hs hst)
    es s0 s h0 h

/-- The events of a handshake that is going on. -/
def Event.inHandshake : Event → Bool
  | .read _ | .write => true
  | _ => false

/-- The hellos of a TLS 1.3 handshake are done. -/
structure Settled (s : SSL ω) : Prop where
  tls13 : s.tls13 = true
  noRetry : s.server = true → s.helloRetryRequest ≠ .pending
  answered : s.server = false → s.statem.handState ≠ .cwClntHello

/-- No hello is read any more. -/
theorem settled_readTransition {s : SSL ω} {mt : MsgType} {st : HandState} (hs : Settled s)
    (h : readTransition env s mt = some st) :
    st ≠ .srClntHello ∧ st ≠ .crSrvrHello ∧ st ≠ .cwClntHello := by
  cases hsv : s.server with
  | true =>
      have hno := hs.noRetry hsv
      simp only [readTransition, hs.tls13, hsv, if_true, server13ReadTransition, hno,
        if_false] at h
      split at h <;> (repeat' split at h) <;> first
        | exact absurd h (by simp only [reduceCtorEq, not_false_eq_true])
        | (rw [← Option.some.inj h]; decide)
  | false =>
      have hno := hs.answered hsv
      simp only [readTransition, hs.tls13, hsv, if_true, Bool.false_eq_true, if_false,
        client13ReadTransition] at h
      split at h <;> (repeat' split at h) <;> first
        | exact absurd ‹_› hno
        | exact absurd h (by simp only [reduceCtorEq, not_false_eq_true])
        | (rw [← Option.some.inj h]; decide)

/-- A hello that is not due is not processed. -/
theorem touches_processMessage_settled {m : Msg} {s t : SSL ω} {b : Bool}
    (hsr : s.statem.handState ≠ .srClntHello) (hcr : s.statem.handState ≠ .crSrvrHello)
    (hm : m.mt = .clientHello ∨ m.mt = .serverHello)
    (h : processMessage env m s = some (b, t)) : Touches [.other] s b t := by
  -- Each parser of a hello is bound to the state in which it is expected.
  unfold processMessage at h
  split at h
  · unfold serverProcessMessage at h
    split at h
    all_goals first
      | exact touches_runOther _ s b t h
      | exact touches_sslFail _ _ _ s b t h
      | exact absurd ‹_› hsr
      | exact absurd hm (by simp only [Msg.mt, reduceCtorEq, or_self, not_false_eq_true])
  · unfold clientProcessMessage at h
    split at h
    all_goals first
      | exact touches_runOther _ s b t h
      | exact touches_sslFail _ _ _ s b t h
      | exact absurd ‹_› hcr
      | exact absurd hm (by simp only [Msg.mt, reduceCtorEq, or_self, not_false_eq_true])

/-- What a settled object keeps. -/
def Stays (s t : SSL ω) : Prop :=
  t.server = s.server ∧ t.support = s.support ∧ t.decided = s.decided

theorem settled_of_keeps {fs : List Field} {s t : SSL ω} (hs : Settled s) (h : Keeps fs s t)
    (hfs : .server ∉ fs ∧ .support ∉ fs ∧ .decided ∉ fs ∧ .tls13 ∉ fs ∧ .hrr ∉ fs)
    (hst : s.server = false → t.statem.handState ≠ .cwClntHello) : Settled t ∧ Stays s t := by
  rcases hfs with ⟨hserver, hsup, hdec, h13, hhrr⟩
  refine ⟨⟨(h.tls13 h13).trans hs.tls13, fun hsv => ?_, fun hsv => ?_⟩,
    h.server hserver, h.support hsup, h.decided hdec⟩
  · rw [h.hrr hhrr]
    exact hs.noRetry ((h.server hserver).symm.trans hsv)
  · exact hst ((h.server hserver).symm.trans hsv)

theorem settled_readEvent {m : Msg} {s t : SSL ω} (hs : Settled s)
    (h : readEvent env m s = some t) : Settled t ∧ Stays s t := by
  have hk := keeps_readEvent env h
  rcases readEvent_cases env h with ⟨u, hu, rfl⟩ | ⟨st, u, b, v, htr, hu, -, hp, rfl⟩
  · refine settled_of_keeps hs (keeps_trans hu.toKeeps (keeps_checkFatal _ u)) (by decide)
      (fun hsv => ?_)
    rw [checkFatal, sslFatal_handState, hu.handState]
    exact hs.answered hsv
  · rcases settled_readTransition env hs htr with ⟨hsr, hcr, hcw⟩
    have hlast : (if b then (if doneReading env m v then v.turn .writing else v)
        else checkFatal v).statem.handState = st := by
      have hv : v.statem.handState = st := (touches_processMessage env m _ b v hp).handState
      cases b with
      | false => exact (sslFatal_handState _ _ v).trans hv
      | true =>
          rw [if_pos rfl, (keeps_turned _ v).2]
          exact hv
    by_cases hm : m.mt = .clientHello ∨ m.mt = .serverHello
    · have hv := touches_processMessage_settled env
        (s := (u.enter st).note (.recv m)) hsr hcr hm hp
      have hsv : Keeps [.pha, .other, .trace] s v := by
        refine keeps_trans (keeps_mono (by decide) hu.toKeeps) ?_
        refine keeps_trans (keeps_enter _ u st) ?_
        refine keeps_trans (keeps_mono (by decide) (keeps_note _ (.recv m))) ?_
        exact keeps_mono (by decide) hv.toKeeps
      refine settled_of_keeps hs (keeps_trans hsv ?_) (by decide)
        (fun _ => by rw [hlast]; exact hcw)
      cases b with
      | false => exact keeps_checkFatal _ v
      | true => exact keeps_mono (by decide) (keeps_turned (doneReading env m v) v).1
    · -- Other messages touch nothing of this.
      refine settled_of_keeps hs hk ?_ (fun _ => by rw [hlast]; exact hcw)
      revert hm
      cases m.mt <;> decide

theorem settled_writeEvent {s t : SSL ω} (hs : Settled s) (h : writeEvent env s = some t) :
    Settled t ∧ Stays s t := by
  refine settled_of_keeps hs (keeps_writeEvent env h) (by decide) (fun hsv => ?_)
  rcases writeEvent_cases env h with rfl | ⟨-, rfl⟩ | ⟨st, htr, hw⟩
  · rw [sslFatal_handState]
    exact hs.answered hsv
  · exact hs.answered hsv
  · have hst : t.statem.handState = st := handState_writeStep env hw
    rw [hst]
    rintro rfl
    simp only [writeTransition, hs.tls13, hsv, if_true, Bool.false_eq_true, if_false,
      client13WriteTransition] at htr
    split at htr <;> (repeat' split at htr) <;>
      exact absurd htr (by simp only [WriteTran.next.injEq, reduceCtorEq, not_false_eq_true])

/-- No decision changes in the rest of a handshake. -/
theorem settled_run {s t : SSL ω} {es : List Event} (hs : Settled s)
    (hes : ∀ ev ∈ es, ev.inHandshake = true) (h : run (step env) s es = some t) :
    Stays s t := by
  refine (run_invariant_along (step env) (fun _ ev => ev.inHandshake = true)
    (fun u => Settled u ∧ Stays s u) ?_ es s t (along_of_forall (step env) _ es s hes)
    ⟨hs, rfl, rfl, rfl⟩ h).2
  rintro u ev v hev ⟨hu, hst⟩ hstep
  have hnext : Settled v ∧ Stays u v := by
    rcases step_cases env hstep with rfl | ⟨_, rfl, -⟩ | ⟨rfl, -⟩ | ⟨m, rfl, -, hr⟩ |
      ⟨rfl, -, hw⟩ | ⟨rfl, -⟩ | ⟨_, rfl, -⟩
    · exact ⟨hu, rfl, rfl, rfl⟩
    · exact absurd hev Bool.false_ne_true
    · exact absurd hev Bool.false_ne_true
    · exact settled_readEvent env hu hr
    · exact settled_writeEvent env hu hw
    · exact absurd hev Bool.false_ne_true
    · exact absurd hev Bool.false_ne_true
  exact ⟨hnext.1, hnext.2.1.trans hst.1, hnext.2.2.1.trans hst.2.1,
    hnext.2.2.2.trans hst.2.2⟩

end

/-- A server reads the list that a client wrote. -/
theorem parsedType_list (mask mask' : BitVec 32) :
    parsedType true mask (beBytes 1 (typeList mask').length ++ typeList mask') =
      chooseType mask (typeList mask') := by
  have hlen : (typeList mask').length < 256 ^ 1 := by
    unfold typeList
    split <;> split <;> decide
  simp only [parsedType, if_true, getNet_beBytes 1 _ _ hlen]

/-- What is chosen from the list of a mask. -/
theorem chooseType_typeList {mask mask' : BitVec 32} {c : CertificateType}
    (h : chooseType mask (typeList mask') = some c) :
    (c = .ieee1609Dot2 ↔ allows1609 mask' = true ∧ allows1609 mask = true) ∧
      (c ≠ .ieee1609Dot2 → allowsX509 mask' = true ∧ allowsX509 mask = true) := by
  unfold chooseType typeList at h
  cases ha : allows1609 mask <;> cases ha' : allows1609 mask' <;> cases hx : allowsX509 mask <;>
    cases hx' : allowsX509 mask' <;> rw [ha, ha', hx, hx'] at h <;> revert h <;> cases c <;> decide

/-- A client takes the type that a server sent. -/
theorem chooseType_code {mask : BitVec 32} {c c' : CertificateType}
    (h : chooseType mask [c.code] = some c') : c' = c := by
  rcases chooseType_some h with ⟨rfl, -, hc⟩ | ⟨rfl, -, hc⟩ <;>
    · rw [List.mem_singleton] at hc
      revert hc
      cases c <;> decide

/-- A client of a TLS 1.3 handshake that has parsed the ServerHello. -/
def ParsedAnswer (c : SSL ω) : Prop :=
  c.server = false ∧ c.tls13 = true ∧ c.statem.state = .reading ∧
    c.statem.handState = .crSrvrHello

/-- A server of a TLS 1.3 handshake that has constructed a ServerHello. -/
def ConstructedAnswer (s : SSL ω) : Prop :=
  s.server = true ∧ s.tls13 = true ∧ s.statem.state = .writing ∧
    s.statem.handState = .swSrvrHello

instance (c : SSL ω) : Decidable (ParsedAnswer c) := inferInstanceAs (Decidable (_ ∧ _))

instance (s : SSL ω) : Decidable (ConstructedAnswer s) := inferInstanceAs (Decidable (_ ∧ _))

/-- The two sides hold the same type for a role, and if the client is enabled it is
    1609.2 exactly if both masks have it, and X.509 only if both masks have that. -/
def Agree {ω₁ ω₂ : Type} (c : SSL ω₁) (s : SSL ω₂) (r : Role) : Prop :=
  let ct := c.ieee1609.certType r
  let st := s.ieee1609.certType r
  ct.typeDecided = st.typeDecided ∧
    (sslIsRfc8902Supported c = true →
      (ct.typeDecided = some .ieee1609Dot2 ↔
        allows1609 ct.support = true ∧ allows1609 st.support = true) ∧
      (ct.typeDecided ≠ some .ieee1609Dot2 →
        allowsX509 ct.support = true ∧ allowsX509 st.support = true))

/-- Two sides that mean the same hellos agree. -/
theorem agree_of_answer {ω₁ ω₂ : Type} {c : SSL ω₁} {s : SSL ω₂} {exts ans : Bytes}
    (hc : c.server = false) (hs : s.server = true) (huc : Undecided c) (hus : Undecided s)
    (hoffC : Offers sslExtClientHello exts c) (hchS : Chosen sslExtClientHello exts s)
    (hoffS : Offers answerCtx ans s) (hchC : Chosen answerCtx ans c) (r : Role) :
    Agree c s r := by
  rcases hchS with ⟨flags, raw, hraw, hchosen⟩
  rcases hchC with ⟨flags', raw', hraw', hchosen'⟩
  rcases hoffC flags raw hraw r with ⟨hlist, hlistSome⟩
  rcases hoffS flags' raw' hraw' r with ⟨hans, hansSome⟩
  unfold Agree
  cases hsup : sslIsRfc8902Supported c with
  | true =>
      -- The list is there, so the server chose from it and sent its choice back.
      have hbody : certTypeBody c r =
          some (beBytes 1 (typeList (c.ieee1609.certType r).support).length
            ++ typeList (c.ieee1609.certType r).support) := by
        simp only [certTypeBody, hsup, if_true, hc, Bool.false_eq_true, if_false]
      rcases hchosen r _ (hlist.trans hbody) with ⟨hsupS, t, ht, hdec⟩
      rw [hs, parsedType_list] at ht
      have hbodyS : certTypeBody s r = some [t.code] := by
        simp only [certTypeBody, hsupS, if_true, hs, hdec, Option.map_some]
      rcases hchosen' r _ (hans.trans hbodyS) with ⟨-, t', ht', hdec'⟩
      rw [hc] at ht'
      have hsame : t' = t := chooseType_code ht'
      subst hsame
      rcases chooseType_typeList ht with ⟨h1609, hx509⟩
      simp only [hdec, hdec', ne_eq, Option.some.injEq, true_and]
      exact fun _ => ⟨h1609, hx509⟩
  | false =>
      -- The client refuses any answer, so the server sent none and is not enabled either.
      have hnone : raw'.lookup r.extIdx = none := by
        cases hl : raw'.lookup r.extIdx with
        | none => rfl
        | some body =>
            have hsup' := (hchosen' r body hl).1
            rw [hsup] at hsup'
            exact absurd hsup' Bool.false_ne_true
      have hsupS : sslIsRfc8902Supported s = false := by
        rw [← hansSome, ← hans, hnone]
        rfl
      have hdc := huc hsup
      have hds := hus hsupS
      simp only [SSL.decided, Prod.mk.injEq] at hdc hds
      refine ⟨?_, fun h => absurd h Bool.false_ne_true⟩
      cases r with
      | srv => exact hdc.1.trans hds.1.symm
      | clnt => exact hdc.2.trans hds.2.symm

theorem agree_of_stays {ω₁ ω₂ : Type} {c c' : SSL ω₁} {s s' : SSL ω₂} {r : Role}
    (hc : Stays c c') (hs : Stays s s') (h : Agree c s r) : Agree c' s' r := by
  have hrole : ∀ {ω : Type} {u u' : SSL ω}, Stays u u' →
      u'.ieee1609.certType r = u.ieee1609.certType r := by
    intro ω u u' hu
    rcases hu with ⟨-, hsup, hdec⟩
    simp only [SSL.support, SSL.decided, Prod.mk.injEq] at hsup hdec
    cases r with
    | srv => exact congrArg₂ Rfc8902CertType.mk hsup.2.1 hdec.1
    | clnt => exact congrArg₂ Rfc8902CertType.mk hsup.2.2 hdec.2
  have hsup : sslIsRfc8902Supported c' = sslIsRfc8902Supported c := congrArg Prod.fst hc.2.1
  unfold Agree
  rw [hrole hc, hrole hs, hsup]
  exact h

/-- A client and a server, each after any run on an object of its own: once the server
    has constructed its answer to the client's last ClientHello and the client has parsed
    that answer, they agree for the rest of the handshake. -/
theorem certificate_types_agree {ω₁ ω₂ : Type} (envC : Env ω₁) (envS : Env ω₂)
    {memC memS : SspBuffer} {modeC modeS : BitVec 32} {certC certS : Cert} {oC : ω₁} {oS : ω₂}
    {esC esS esC' esS' : List Event} {c c' : SSL ω₁} {s s' : SSL ω₂}
    (hrunC : run (step envC) (sslNew memC modeC certC oC) esC = some c)
    (hrunS : run (step envS) (sslNew memS modeS certS oS) esS = some s)
    (hc : ParsedAnswer c) (hs : ConstructedAnswer s)
    (hhello : lastSent c.trace = lastRead s.trace) (hanswer : lastSent s.trace = lastRead c.trace)
    (hC' : ∀ ev ∈ esC', ev.inHandshake = true) (hrunC' : run (step envC) c esC' = some c')
    (hS' : ∀ ev ∈ esS', ev.inHandshake = true) (hrunS' : run (step envS) s esS' = some s')
    (r : Role) : Agree c' s' r := by
  rcases hc with ⟨hsvC, h13C, hflowC, hstC⟩
  rcases hs with ⟨hsvS, h13S, hflowS, hstS⟩
  have hnC := negotiating_run envC (negotiating_new memC modeC certC oC) hrunC
  have hnS := negotiating_run envS (negotiating_new memS modeS certS oS) hrunS
  obtain ⟨head, exts, hd, ans, hsentC, hreadC, hoffC, hchC⟩ :=
    hnC.answerRead hsvC hflowC hstC h13C
  obtain ⟨head', exts', hrr, hd', ans', hreadS, hsentS, hchS, hoffS⟩ :=
    hnS.answerSent hsvS (Or.inr hflowS) hstS h13S
  -- Both sides mean the same two messages.
  rw [hsentC, hreadS, Option.some.injEq, Msg.clientHello.injEq] at hhello
  rw [hsentS, hreadC, Option.some.injEq, Msg.serverHello.injEq] at hanswer
  rcases hhello with ⟨-, rfl⟩
  rcases hanswer with ⟨rfl, -, rfl⟩
  have hsettledC : Settled c := by
    refine ⟨h13C, fun h => absurd (hsvC.symm.trans h) Bool.false_ne_true, fun _ => ?_⟩
    rw [hstC]
    exact HandState.noConfusion
  have hsettledS : Settled s :=
    ⟨h13S, fun _ => (hoffS rfl).2, fun h => absurd (h.symm.trans hsvS) Bool.false_ne_true⟩
  exact agree_of_stays (settled_run envC hsettledC hC' hrunC')
    (settled_run envS hsettledS hS' hrunS')
    (agree_of_answer hsvC hsvS hnC.undecided hnS.undecided hoffC hchS (hoffS rfl).1 hchC r)

/-- A ClientHello that lists both types for both roles, and a key share. -/
def listingHello : Msg :=
  .clientHello [] [0, 20, 0, 3, 2, 0, 3, 0, 19, 0, 3, 2, 0, 3, 0, 51, 0, 0]

/-- An answer with 1609.2 for the server and X.509 for the client, and a key share. -/
def choosingAnswer : Msg := .serverHello false [] [0, 20, 0, 1, 3, 0, 19, 0, 1, 0, 0, 51, 0, 0]

/-- A client that supports everything, up to the answer. -/
def listingFlight : List Event :=
  [.config (.enableRfc8902Support (sslRfc89021609 ||| sslRfc8902X509)
      (sslRfc89021609 ||| sslRfc8902X509) false),
    .start false, .write, .write, .read choosingAnswer]

/-- A server that supports 1609.2 for itself and X.509 for clients, up to its answer. -/
def choosingFlight : List Event :=
  [.config (.enableRfc8902Support sslRfc89021609 sslRfc8902X509 false),
    .config (.own (.useCertificate rsaCertificate)), .config (.own (.usePrivateKey rsaKey)),
    .start true, .write, .read listingHello, .write]

/-- The two of them agree after the next message of the server. -/
theorem certificate_types_agree_listed :
    ∃ c s, run (step plainEnv) (sslNew SspBuffer.zero 0 Cert.empty ())
        (listingFlight ++ [.read (.encryptedExtensions [])]) = some c ∧
      run (step plainEnv) (sslNew SspBuffer.zero 0 Cert.empty ())
        (choosingFlight ++ [.write]) = some s ∧
      sslIsRfc8902Supported c = true ∧ ∀ r, Agree c s r := by
  have hrunC : (run (step plainEnv) (sslNew SspBuffer.zero 0 Cert.empty ()) listingFlight).any
      (fun c => ParsedAnswer c ∧ lastSent c.trace = some listingHello ∧
        lastRead c.trace = some choosingAnswer) = true := by decide +kernel
  have hrunS : (run (step plainEnv) (sslNew SspBuffer.zero 0 Cert.empty ()) choosingFlight).any
      (fun s => ConstructedAnswer s ∧ lastRead s.trace = some listingHello ∧
        lastSent s.trace = some choosingAnswer) = true := by decide +kernel
  have hrunC' : (run (step plainEnv) (sslNew SspBuffer.zero 0 Cert.empty ())
      (listingFlight ++ [.read (.encryptedExtensions [])])).any
        (fun c => sslIsRfc8902Supported c) = true := by decide +kernel
  have hrunS' : (run (step plainEnv) (sslNew SspBuffer.zero 0 Cert.empty ())
      (choosingFlight ++ [.write])).isSome = true := by decide +kernel
  rcases (Option.any_eq_true _ _).mp hrunC with ⟨c, hc, hpc⟩
  rcases (Option.any_eq_true _ _).mp hrunS with ⟨s, hs, hps⟩
  rcases (Option.any_eq_true _ _).mp hrunC' with ⟨c', hc', hsup⟩
  rcases Option.isSome_iff_exists.mp hrunS' with ⟨s', hs'⟩
  rcases of_decide_eq_true hpc with ⟨hpc, hsentC, hreadC⟩
  rcases of_decide_eq_true hps with ⟨hps, hreadS, hsentS⟩
  refine ⟨c', s', hc', hs', hsup, fun r => ?_⟩
  rw [run_append _ _ _ _ _ hc] at hc'
  rw [run_append _ _ _ _ _ hs] at hs'
  exact certificate_types_agree plainEnv plainEnv hc hs hpc hps (hsentC.trans hreadS.symm)
    (hsentS.trans hreadC.symm) (by decide) hc' (by decide) hs' r

end Iso21177
