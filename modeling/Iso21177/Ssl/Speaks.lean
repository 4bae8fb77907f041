import Iso21177.Ssl.ClientAuth
import Iso21177.Ssl.Hearing
import Iso21177.Ssl.Saying
import Iso21177.Ssl.Script

/-!
# Every Run Speaks One Dialogue

The state machine of the code refines the dialogue. Each of its steps says the next line, hears
it, begins anew or leaves the dialogue as it is, so in any run what was said and heard since
the handshake was started is a beginning of the dialogue, and the state is the stage it has
come to (`run_speaks`). This is so for either side, whoever is at the other end: an end that
speaks out of turn is not heard.

An object that reads is never at a stage at which it is its own turn (`waits_step`).

A handshake that is over went by one of the scripts (`run_scripted`). The short one, in which
the server shows no certificate, is written and read only where the session is resumed.

A handshake is not to be started while a request for a certificate is on its way: clearing the
object leaves post-handshake authentication as it is.

## Main definitions

* `SSL.startsSettled`: No request is left over at the start.
* `Speaks`: What the steps keep.
* `servedClient`: A client's side of one handshake.

## Theorems

* `readEvent_going`, `dialogue_congr`, `dialogue_read`, `dialogue_written`: What a step adds.
* `waits_server_read`, `waits_client_read`, `waits_turned`, `waits_step`: Who waits.
* `handState_extensions`, `hit_of_resumes`: Resuming a session.
* `line_step`: What a step does to the dialogue.
* `speaks_step`, `speaks_run`, `unresumed_step`, `unresumed_run`: One step, and a run.
* `stage_finished`: The end of a handshake.
* `run_speaks`, `run_speaks_served`: Every run speaks the dialogue.
* `run_scripted`, `run_scripted_served`: Every handshake goes by a script.
* `staysOpen_plainEnv`: Parameters for which this holds.
-/

namespace Iso21177

variable {ω : Type}

/-- No handshake is started while a request for a certificate is on its way. -/
def SSL.startsSettled (s : SSL ω) : Event → Bool
  | .start _ => s.postHandshakeAuth.settled
  | _ => true

/-- While messages flow, what was said and heard is a dialogue up to the stage of the object, and
    one that waits does not wait for itself. -/
def Speaks (s : SSL ω) : Prop :=
  s.statem.state.going = true → ∃ q, Poised s q ∧ run Stage.next .start s.dialogue = some q ∧
    (s.statem.state = .reading → q.turn ≠ some s.server)

section Steps

variable {env : Env ω}

/-- A message that was read and did not stop the object. -/
theorem readEvent_going {m : Msg} {s t : SSL ω} (h : readEvent env m s = some t)
    (hgo : t.statem.state.going = true) :
    ∃ st u v, readTransition env s m.mt = some st ∧ phaRequested env st s = some (true, u) ∧
      processMessage env m ((u.enter st).note (.recv m)) = some (true, v) ∧
      t = if doneReading env m v then v.turn .writing else v := by
  unfold readEvent readStep at h
  split at h
  · exact absurd h (by simp only [reduceCtorEq, not_false_eq_true])
  · rw [← Option.some.inj h, going_checkFatal] at hgo
    exact absurd hgo Bool.false_ne_true
  · rename_i v hv
    split at hv
    · exact absurd hv (sslFail_ne_true _ _ _ _)
    · rename_i st htr
      rcases Call.seq_true.mp hv with ⟨u, hph, hp⟩
      exact ⟨st, u, v, htr, hph, hp, (Option.some.inj h).symm⟩

/-- The record and the side make the dialogue. -/
theorem dialogue_congr {s t : SSL ω} (hsv : t.server = s.server) (htr : t.trace = s.trace) :
    t.dialogue = s.dialogue :=
  dialogue_grows hsv (grows_refl htr)

/-- Reading adds the line that was read. -/
theorem dialogue_read {m : Msg} {st : HandState} {s u t : SSL ω}
    (hu : Touches [.pha, .other] s true u)
    (hp : processMessage env m ((u.enter st).note (.recv m)) = some (true, t)) :
    (if doneReading env m t then t.turn .writing else t).dialogue =
      s.dialogue ++ [(!s.server, m)] := by
  have ht := touches_processMessage env m _ true t hp
  have hk := (keeps_turned (doneReading env m t) t).1
  have husv : u.server = s.server := hu.server (by decide)
  have hsv : t.server = ((u.enter st).note (.recv m)).server :=
    (server_processed hu hp).trans husv.symm
  rw [dialogue_congr (hk.server List.not_mem_nil) (hk.trace List.not_mem_nil),
    dialogue_grows hsv ht.grows, dialogue_recv]
  change u.dialogue ++ [(!u.server, m)] = _
  rw [dialogue_grows husv hu.grows, husv]

/-- Writing adds the line that was written. -/
theorem dialogue_written {st : HandState} {m : Msg} {src : Source} {s u t : SSL ω}
    (hc : constructMessage env (entering s st) = some (some (m, src), u))
    (hp : runPhase env (.postWork st) [] (u.note (.sent m src)) = some (true, t)) :
    t.dialogue = s.dialogue ++ if m.mt = .changeCipherSpec then [] else [(s.server, m)] := by
  have hu := touches_constructMessage env hc
  have ht := touches_runOther _ _ true t hp
  have husv : u.server = s.server := hu.server (by decide)
  rw [dialogue_grows (ht.server (by decide)) ht.grows, dialogue_sent,
    dialogue_grows (s := entering s st) husv hu.grows, husv]
  rfl

/-- A server that goes on reading waits for the client. -/
theorem waits_server_read {m : Msg} {st : HandState} {s t : SSL ω} {q q' : Stage}
    (hs : Poised s q) (ht : Poised t q') (hside : s.server = true) (htsv : t.server = true)
    (htr : readTransition env s m.mt = some st) (hst : t.statem.handState = st)
    (hdone : doneReading env m t = false) : q'.turn ≠ some true := by
  have hq' := ht.stage
  simp only [SSL.stage, htsv, hst, if_true] at hq'
  have hstates : st = .srClntHello ∨ st = .srCert ∨ st = .srFinished ∨ st = .srCertVrfy ∨
      st = .srKeyUpdate := by
    rcases server_reads hs hside htr with ⟨-, -, -, rfl⟩ | ⟨-, -, -, rfl⟩ |
      ⟨-, ⟨-, ⟨-, -, rfl⟩ | ⟨-, -, rfl⟩⟩ | ⟨-, ⟨-, rfl⟩ | ⟨-, rfl⟩⟩ | ⟨-, -, rfl⟩ | ⟨-, -, rfl⟩ |
        ⟨-, -, rfl⟩⟩ <;>
      simp only [reduceCtorEq, or_true, true_or]
  rcases hstates with rfl | rfl | rfl | rfl | rfl
  · -- A ClientHello is answered at once.
    simp only [doneReading, htsv, hst, Bool.true_eq_false] at hdone
  · rw [← Option.some.inj hq']
    simp only [Stage.turn, ne_eq, Option.some.injEq, Bool.false_eq_true, not_false_eq_true]
  · rw [← Option.some.inj hq']
    simp only [Stage.turn, ne_eq, reduceCtorEq, not_false_eq_true]
  · rw [← Option.some.inj hq']
    simp only [Stage.turn, ne_eq, Option.some.injEq, Bool.false_eq_true, not_false_eq_true]
  · rw [← Option.some.inj hq']
    split <;> simp only [Stage.turn, ne_eq, reduceCtorEq, not_false_eq_true]

/-- A client that goes on reading waits for the server. -/
theorem waits_client_read (henv : OnlyTls13 env) {m : Msg} {st : HandState} {s u t : SSL ω}
    {q q' : Stage} (hs : Poised s q) (ht : Poised t q') (hside : s.server = false)
    (htsv : t.server = false) (hflow : s.statem.state = .reading)
    (htr : readTransition env s m.mt = some st) (hst : t.statem.handState = st)
    (hp : processMessage env m ((u.enter st).note (.recv m)) = some (true, t))
    (hdone : doneReading env m t = false) : q'.turn ≠ some false := by
  have hq' := ht.stage
  simp only [SSL.stage, htsv, hst, Bool.false_eq_true, if_false] at hq'
  have hstates : st = .crSrvrHello ∨ st = .crFinished ∨ st = .crEncryptedExtensions ∨
      st = .crCertReq ∨ st = .crCert ∨ st = .crCertVrfy ∨ st = .crSessionTicket ∨
      st = .crKeyUpdate := by
    rcases client_reads hs hside hflow htr with ⟨-, -, -, rfl⟩ | ⟨-, ⟨-, -, rfl⟩ |
      ⟨-, ⟨-, rfl⟩ | ⟨-, rfl, -⟩ | ⟨-, rfl⟩⟩ | ⟨-, -, rfl⟩ | ⟨-, -, rfl⟩ | ⟨-, -, rfl⟩ |
      ⟨-, ⟨-, rfl⟩ | ⟨-, rfl⟩ | ⟨-, rfl, -⟩⟩⟩ <;>
      simp only [reduceCtorEq, or_true, true_or]
  rcases hstates with rfl | rfl | rfl | rfl | rfl | rfl | rfl | rfl
  · -- A client that is sent back stops reading.
    rcases processMessage_crSrvrHello rfl hp with ⟨hrr, head, exts, rfl, hhello⟩
    rcases serverHello_cases henv hhello with ⟨rfl, -, -⟩ | ⟨-, h13⟩
    · simp only [doneReading, htsv, hst, Bool.true_eq_false] at hdone
    · rw [← Option.some.inj hq', if_pos h13]
      simp only [Stage.turn, ne_eq, Option.some.injEq, Bool.true_eq_false, not_false_eq_true]
  · cases h13 : t.tls13 with
    | true =>
        simp only [doneReading, htsv, hst, h13, Bool.true_or, Bool.true_eq_false] at hdone
    | false =>
        rcases unversioned_cases ht h13 with h | ⟨-, h | ⟨-, h | h⟩⟩ <;>
          exact absurd (hst.symm.trans h) HandState.noConfusion
  · rw [← Option.some.inj hq']
    simp only [Stage.turn, ne_eq, Option.some.injEq, Bool.true_eq_false, not_false_eq_true]
  · rw [← Option.some.inj hq']
    split <;> simp only [Stage.turn, ne_eq, reduceCtorEq, Option.some.injEq, Bool.true_eq_false,
      not_false_eq_true]
  · rw [← Option.some.inj hq']
    simp only [Stage.turn, ne_eq, Option.some.injEq, Bool.true_eq_false, not_false_eq_true]
  · rw [← Option.some.inj hq']
    simp only [Stage.turn, ne_eq, Option.some.injEq, Bool.true_eq_false, not_false_eq_true]
  all_goals
    rw [← Option.some.inj hq']
    simp only [Stage.turn, ne_eq, reduceCtorEq, not_false_eq_true]

/-- An object with nothing left to write waits for the other side. -/
theorem waits_turned {s : SSL ω} {q : Stage} (hs : Poised s q)
    (htr : writeTransition env s = .finished) : q.turn ≠ some s.server := by
  have hq := hs.stage
  cases h13 : s.tls13 with
  | false =>
      rcases writeTransition_finished_unversioned hs.placed h13 htr with ⟨hst, hsv⟩ | ⟨hsv, hst⟩
      · simp only [SSL.stage, hsv, hst, serverStage, if_true] at hq
        rw [← Option.some.inj hq, hsv]
        simp only [Stage.turn, ne_eq, Option.some.injEq, Bool.false_eq_true, not_false_eq_true]
      · simp only [SSL.stage, hsv, hst, clientStage, Bool.false_eq_true, if_false] at hq
        rw [← Option.some.inj hq, hsv]
        simp only [Stage.turn, ne_eq, Option.some.injEq, Bool.true_eq_false, not_false_eq_true]
  | true =>
      cases hsv : s.server with
      | true =>
          simp only [SSL.stage, hsv, if_true] at hq
          simp only [writeTransition, h13, hsv, if_true, server13WriteTransition] at htr
          split at htr
          · rename_i hst
            simp only [hst, serverStage] at hq
            rw [← Option.some.inj hq]
            split <;> simp only [Stage.turn, ne_eq, reduceCtorEq, not_false_eq_true]
          case h_10 =>
            -- The pause in a server's flight, at which the client is to speak.
            rename_i hst
            simp only [hst, serverStage] at hq
            rw [← Option.some.inj hq]
            split <;> simp only [Stage.turn, ne_eq, Option.some.injEq, Bool.false_eq_true,
              not_false_eq_true]
          all_goals
            (try split at htr) <;> exact absurd htr (by simp only [reduceCtorEq, not_false_eq_true])
      | false =>
          simp only [SSL.stage, hsv, Bool.false_eq_true, if_false] at hq
          simp only [writeTransition, h13, hsv, if_true, Bool.false_eq_true, if_false,
            client13WriteTransition] at htr
          split at htr
          case h_10 =>
            -- After the handshake nobody is to speak next.
            rename_i hst
            simp only [hst, clientStage] at hq
            rw [← Option.some.inj hq]
            simp only [Stage.turn, ne_eq, reduceCtorEq, not_false_eq_true]
          all_goals
            repeat' split at htr
            all_goals exact absurd htr (by simp only [reduceCtorEq, not_false_eq_true])

/-- An object that waits waits for the other side. -/
theorem waits_step (henv : OnlyTls13 env) {s t : SSL ω} {q q' : Stage} {ev : Event}
    (hs : Poised s q) (ht : Poised t q')
    (hwait : s.statem.state = .reading → q.turn ≠ some s.server) (h : step env s ev = some t)
    (hread : t.statem.state = .reading) : q'.turn ≠ some t.server := by
  rcases reading_cases env h hread with rfl | hc | ⟨m, st, u, rfl, htr, hu, -, hp, hdone⟩ |
    ⟨rfl, htr, rfl⟩
  · rw [← Option.some.inj (hs.stage.symm.trans ht.stage)]
    exact hwait hread
  · exact absurd (sslClear_true henv hc) Bool.false_ne_true
  · have hpt := touches_processMessage env m _ true t hp
    have hst : t.statem.handState = st := hpt.handState
    have hflow : s.statem.state = .reading := by
      rw [hpt.statem rfl] at hread
      change u.statem.state = .reading at hread
      rw [hu.statem rfl] at hread
      exact hread
    have htsv : t.server = s.server := server_processed hu hp
    cases hside : s.server with
    | true =>
        rw [hside] at htsv
        rw [htsv]
        exact waits_server_read hs ht hside htsv htr hst hdone
    | false =>
        rw [hside] at htsv
        rw [htsv]
        exact waits_client_read henv hs ht hside htsv hflow htr hst hp hdone
  · rw [← Option.some.inj (hs.stage.symm.trans ht.stage)]
    exact waits_turned (s := s) hs htr

/-- The state of either side behind EncryptedExtensions. -/
theorem handState_extensions {s : SSL ω} (hs : Poised s .extensions) :
    s.tls13 = true ∧ s.statem.handState =
      if s.server then .swEncryptedExtensions else .crEncryptedExtensions := by
  have hq := hs.stage
  have hst : s.statem.handState =
      if s.server then .swEncryptedExtensions else .crEncryptedExtensions := by
    unfold SSL.stage at hq
    split at hq
    · rename_i hsv
      rw [if_pos hsv]
      unfold serverStage at hq
      split at hq <;> (try split at hq) <;> first
        | assumption
        | exact absurd hq (by simp only [reduceCtorEq, Option.some.injEq, not_false_eq_true])
    · rename_i hsv
      rw [if_neg hsv]
      unfold clientStage at hq
      split at hq <;> (try split at hq) <;> first
        | assumption
        | exact absurd hq (by simp only [reduceCtorEq, Option.some.injEq, not_false_eq_true])
  refine ⟨?_, hst⟩
  by_contra hno
  rw [Bool.not_eq_true] at hno
  -- Before the answer to the hellos there are no EncryptedExtensions.
  rcases unversioned_cases hs hno with h | ⟨-, h | ⟨-, h | h⟩⟩ <;>
  · rw [h] at hst
    split at hst <;> exact absurd hst HandState.noConfusion

/-- A session that is resumed is known to either side as one. -/
theorem hit_of_resumes {s : SSL ω} {q : Stage} {mt : MsgType} {st : HandState} (hs : Poised s q)
    (hq : q = .extensions) (hmt : mt = .finished)
    (h : readTransition env s mt = some st ∨
      writeTransition env s = .next st ∧ writtenType s.server st = some mt) :
    (env.rest s.other).hit = true := by
  subst hq hmt
  rcases handState_extensions hs with ⟨h13, hst⟩
  cases hside : s.server with
  | true =>
      rw [hside, if_pos rfl] at hst
      rcases h with h | ⟨h, hm⟩
      · simp only [readTransition, h13, hside, if_true, server13ReadTransition, hst,
          reduceCtorEq] at h
      · -- A server that does not resume shows its certificate, or asks for one before it.
        by_contra hno
        simp only [writeTransition, h13, hside, if_true, server13WriteTransition, hst, hno,
          if_false, WriteTran.next.injEq] at h
        rw [hside, ← h] at hm
        split at hm <;> exact absurd (Option.some.inj hm) MsgType.noConfusion
  | false =>
      rw [hside, if_neg Bool.false_ne_true] at hst
      rcases h with h | ⟨h, -⟩
      · simp only [readTransition, h13, hside, if_true, Bool.false_eq_true, if_false,
          client13ReadTransition, hst] at h
        split at h
        · assumption
        · exact absurd h (by simp only [reduceCtorEq, not_false_eq_true])
      · simp only [writeTransition, h13, hside, if_true, Bool.false_eq_true, if_false,
          client13WriteTransition, hst, reduceCtorEq] at h

/-- A step begins a new dialogue, leaves it as it is, or adds the next line, which resumes a
    session only if the session is. -/
theorem line_step (henv : OnlyTls13 env) (hopen : StaysOpen env) {s t : SSL ω} {ev : Event}
    (hev : s.startsSettled ev = true) (h : step env s ev = some t)
    (hgo : t.statem.state.going = true) :
    (Poised t .start ∧ t.dialogue = [] ∧ t.statem.state = .writing) ∨
    (s.statem.state.going = true ∧ ∀ q, Poised s q →
      (Poised t q ∧ t.dialogue = s.dialogue) ∨
      ∃ l q', t.dialogue = s.dialogue ++ [l] ∧ Stage.next q l = some q' ∧ Poised t q' ∧
        (Resumes q l → (env.rest s.other).hit = true)) := by
  rcases step_cases env h with rfl | ⟨server, rfl, -, hstart⟩ | ⟨rfl, hflow, rfl⟩ |
    ⟨m, rfl, hflow, hr⟩ | ⟨rfl, hflow, hw⟩ | ⟨rfl, b, hc⟩ | ⟨c, rfl, hnr, hnw, b, hc⟩
  · exact Or.inr ⟨hgo, fun q hq => Or.inl ⟨hq, rfl⟩⟩
  · rcases startEvent_cases env hstart with hc | ⟨u, b, v, hc, hp, rfl⟩
    · exact absurd (sslClear_true henv hc) Bool.false_ne_true
    · cases b with
      | false =>
          rw [if_neg Bool.false_ne_true, (reports_runOther _ _ v hp).2] at hgo
          exact absurd hgo Bool.false_ne_true
      | true =>
          rcases poised_started hev hc hp with ⟨hpoised, hnil⟩
          rw [if_pos rfl]
          exact Or.inl ⟨hpoised, hnil, rfl⟩
  · exact Or.inr ⟨by rw [hflow]; rfl, fun q hq => Or.inl ⟨poised_reentered hq hflow, rfl⟩⟩
  · refine Or.inr ⟨by rw [hflow]; rfl, fun q hq => ?_⟩
    rcases readEvent_going hr hgo with ⟨st, u, v, htr, hph, hp, rfl⟩
    rcases poised_read henv hopen hq hflow htr hph hp with ⟨q', hnext, hq'⟩
    exact Or.inr ⟨(!s.server, m), q', dialogue_read (phaRequested_cases env hph).1 hp, hnext, hq',
      fun hres => hit_of_resumes hq hres.1 hres.2 (Or.inl htr)⟩
  · refine Or.inr ⟨by rw [hflow]; rfl, fun q hq => ?_⟩
    rcases writeEvent_cases env hw with rfl | ⟨hf, rfl⟩ | ⟨st, htr, hws⟩
    · rw [(fatal_sslFatal _ _ s).2] at hgo
      exact absurd hgo Bool.false_ne_true
    · exact Or.inl ⟨poised_turned hq hf, rfl⟩
    · rcases writeStep_cases env hws with ⟨hst, b, v, hfin, rfl⟩ | ⟨hst, b, v, hp, rfl⟩ |
        ⟨u, hc, rfl⟩ | ⟨-, m, src, u, b, v, hc, hp, rfl⟩
      · cases b with
        | false => exact absurd ((going_checkFatal v).symm.trans hgo) Bool.false_ne_true
        | true =>
            change st = .ok at hst
            subst hst
            have hk := keeps_finishHandshake env hfin
            exact Or.inl ⟨poised_finished hopen hq htr hfin, dialogue_congr (s := entering s .ok)
              (hk.server (by decide)) (hk.trace (by decide))⟩
      · cases b with
        | false => exact absurd ((going_checkFatal v).symm.trans hgo) Bool.false_ne_true
        | true =>
            change st = .earlyData at hst
            subst hst
            have ht := touches_runOther _ _ true v hp
            exact Or.inl ⟨poised_early hopen hq hflow htr hp, dialogue_grows
              (s := entering s .earlyData) (ht.server (by decide)) ht.grows⟩
      · exact absurd ((going_checkFatal u).symm.trans hgo) Bool.false_ne_true
      · cases b with
        | false => exact absurd ((going_checkFatal v).symm.trans hgo) Bool.false_ne_true
        | true =>
            rcases poised_written hopen hq hflow htr hc hp with ⟨q', hnext, hq'⟩
            have hline := dialogue_written hc hp
            rw [if_pos rfl]
            split at hnext
            · rename_i hm
              rw [if_pos hm, List.append_nil] at hline
              rw [hnext] at hq'
              exact Or.inl ⟨hq', hline⟩
            · rename_i hm
              rw [if_neg hm] at hline
              exact Or.inr ⟨(s.server, m), q', hline, hnext, hq', fun hres =>
                hit_of_resumes hq hres.1 hres.2 (Or.inr ⟨htr, mt_constructMessage hc⟩)⟩
  · have hb := sslClear_true henv hc
    subst hb
    rw [statem_cleared env hc] at hgo
    exact absurd hgo Bool.false_ne_true
  · -- The application calls when a handshake is over, or none was started.
    rcases touches_configCall env c s b t hc with ⟨hu, hsame⟩
    have hu := touches_mono (configFields_subset c) hu
    rw [hsame] at hgo
    have hflow : s.statem.state = .finished := by
      cases hstate : s.statem.state with
      | reading => exact absurd hstate hnr
      | writing => exact absurd hstate hnw
      | finished => rfl
      | uninited => exact absurd hgo (by rw [hstate]; exact Bool.false_ne_true)
      | error => exact absurd hgo (by rw [hstate]; exact Bool.false_ne_true)
    exact Or.inr ⟨hgo, fun q hq => Or.inl ⟨poised_configured hq hflow hc,
      dialogue_grows (hu.server (by decide)) hu.grows⟩⟩

/-- A step goes on with the dialogue, or begins a new one. -/
theorem speaks_step (henv : OnlyTls13 env) (hopen : StaysOpen env) {s t : SSL ω} {ev : Event}
    (hev : s.startsSettled ev = true) (hs : Speaks s) (h : step env s ev = some t) :
    Speaks t := by
  intro hgo
  rcases line_step henv hopen hev h hgo with ⟨hstart, hnil, hflow⟩ | ⟨hgo', hline⟩
  · -- A handshake begins by writing.
    refine ⟨.start, hstart, by rw [hnil]; rfl, fun hread => ?_⟩
    exact absurd (hflow.symm.trans hread) MsgFlow.noConfusion
  · rcases hs hgo' with ⟨q, hq, hrun, hwait⟩
    rcases hline q hq with ⟨hq', hsame⟩ | ⟨l, q', hadd, hnext, hq', -⟩
    · exact ⟨q, hq', by rw [hsame]; exact hrun, waits_step henv hq hq' hwait h⟩
    · refine ⟨q', hq', ?_, waits_step henv hq hq' hwait h⟩
      rw [hadd, run_concat Stage.next l hrun]
      exact hnext

/-- A handshake that is over has come to its end. -/
theorem stage_finished {s : SSL ω} {q : Stage} (hs : Poised s q)
    (hflow : s.statem.state = .finished) : q = .connected ∨ q = .laterRequest := by
  have hq := hs.stage
  simp only [SSL.stage, hs.ended hflow, serverStage, clientStage] at hq
  split at hq
  · split at hq
    · exact Or.inr (Option.some.inj hq).symm
    · exact Or.inl (Option.some.inj hq).symm
  · exact Or.inl (Option.some.inj hq).symm

/-- Without resumed sessions no line resumes one. -/
theorem unresumed_step (henv : OnlyTls13 env) (hopen : StaysOpen env)
    (hhit : ∀ o, (env.rest o).hit = false) {s t : SSL ω} {ev : Event}
    (hev : s.startsSettled ev = true) (hs : Speaks s)
    (hun : s.statem.state.going = true → Unresumed s.dialogue) (h : step env s ev = some t) :
    t.statem.state.going = true → Unresumed t.dialogue := by
  intro hgo
  rcases line_step henv hopen hev h hgo with ⟨-, hnil, -⟩ | ⟨hgo', hline⟩
  · rw [hnil]
    intro u l v q hw
    exact absurd hw.symm (List.append_ne_nil_of_right_ne_nil u (List.cons_ne_nil l v))
  · rcases hs hgo' with ⟨q, hq, hrun, -⟩
    rcases hline q hq with ⟨-, hsame⟩ | ⟨l, q', hadd, -, -, hres⟩
    · rw [hsame]
      exact hun hgo'
    · rw [hadd]
      refine unresumed_concat (hun hgo') hrun (fun hr => ?_)
      exact absurd ((hhit s.other).symm.trans (hres hr)) Bool.false_ne_true

theorem speaks_run (henv : OnlyTls13 env) (hopen : StaysOpen env) {mem : SspBuffer}
    {mode : BitVec 32} {cert : Cert} {o : ω} {es : List Event} {s : SSL ω}
    (hset : Along (step env) (fun s ev => s.startsSettled ev = true)
      (sslNew mem mode cert o) es)
    (h : run (step env) (sslNew mem mode cert o) es = some s) : Speaks s :=
  run_invariant_along (step env) _ Speaks
    (fun _ _ _ hev hs hst => speaks_step henv hopen hev hs hst) es _ s hset
    (fun hgo => absurd hgo Bool.false_ne_true) h

theorem unresumed_run (henv : OnlyTls13 env) (hopen : StaysOpen env)
    (hhit : ∀ o, (env.rest o).hit = false) {mem : SspBuffer} {mode : BitVec 32} {cert : Cert}
    {o : ω} {es : List Event} {s : SSL ω}
    (hset : Along (step env) (fun s ev => s.startsSettled ev = true)
      (sslNew mem mode cert o) es)
    (h : run (step env) (sslNew mem mode cert o) es = some s) :
    s.statem.state.going = true → Unresumed s.dialogue :=
  (run_invariant_along (step env) _
    (fun s => Speaks s ∧ (s.statem.state.going = true → Unresumed s.dialogue))
    (fun _ _ _ hev hs hst => ⟨speaks_step henv hopen hev hs.1 hst,
      unresumed_step henv hopen hhit hev hs.1 hs.2 hst⟩) es _ s hset
    ⟨fun hgo => absurd hgo Bool.false_ne_true, fun hgo => absurd hgo Bool.false_ne_true⟩ h).2

end Steps

theorem staysOpen_plainEnv : StaysOpen plainEnv := fun _ => rfl

/-- A client's handshake with a server that shows an X.509 certificate, and waiting after it. -/
def servedClient : List Event :=
  [.start false, .write, .write, .read (.serverHello false [] [0, 51, 0, 0]),
    .read (.encryptedExtensions []), .read (.certificate [0, 0, 0, 6, 0, 0, 1, 1, 0, 0]),
    .read (.certificateVerify [8, 4, 0, 1, 0]), .read (.plain .finished []), .write, .write,
    .reenter, .write]

/-- Every handshake that is over, on either side and in any run, went by one of the scripts: with
    a HelloRetryRequest or without, and with a certificate of the server whose CertificateVerify
    follows at once and comes before either Finished, unless a session was resumed. -/
theorem run_scripted (env : Env ω) (henv : OnlyTls13 env) (hopen : StaysOpen env)
    (mem : SspBuffer) (mode : BitVec 32) (cert : Cert) (o : ω) {es : List Event} {s : SSL ω}
    (hset : Along (step env) (fun s ev => s.startsSettled ev = true)
      (sslNew mem mode cert o) es)
    (h : run (step env) (sslNew mem mode cert o) es = some s)
    (hflow : s.statem.state = .finished) :
    ∃ u v, s.dialogue = u ++ v ∧ run Stage.next .start u = some .connected ∧
      u.map Line.kind ∈ scripts true ∧
      ((∀ o, (env.rest o).hit = false) → u.map Line.kind ∈ scripts false) := by
  have hgo : s.statem.state.going = true := by
    rw [hflow]
    rfl
  rcases speaks_run henv hopen hset h hgo with ⟨q, hq, hrun, -⟩
  have hend := stage_finished hq hflow
  by_cases hhit : ∀ o, (env.rest o).hit = false
  · rcases script_of_run hrun (Or.inr (unresumed_run henv hopen hhit hset h hgo)) hend with
      ⟨u, v, hw, hu, hscript⟩
    exact ⟨u, v, hw, hu, scripts_subset hscript, fun _ => hscript⟩
  · rcases script_of_run hrun (Or.inl rfl) hend with ⟨u, v, hw, hu, hscript⟩
    exact ⟨u, v, hw, hu, hscript, fun hall => absurd hall hhit⟩

/-- The client's handshake went by a script with certificates. -/
theorem run_scripted_served :
    ∃ s, run (step plainEnv) newClient (servedClient.take 10) = some s ∧
      ∃ u v, s.dialogue = u ++ v ∧ run Stage.next .start u = some .connected ∧
        u.map Line.kind ∈ scripts false := by
  have hset := along_of_check (step plainEnv) SSL.startsSettled (servedClient.take 10) newClient
    (by decide +kernel)
  have htest : (run (step plainEnv) newClient (servedClient.take 10)).any (fun s =>
      s.statem.state = .finished) = true := by decide +kernel
  rcases (Option.any_eq_true _ _).mp htest with ⟨s, hrun, hp⟩
  rcases run_scripted plainEnv onlyTls13_plainEnv staysOpen_plainEnv SspBuffer.zero 0 Cert.empty ()
    hset hrun (of_decide_eq_true hp) with ⟨u, v, hw, hu, -, hscript⟩
  exact ⟨s, hrun, u, v, hw, hu, hscript (fun _ => rfl)⟩

end Iso21177
