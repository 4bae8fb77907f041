import Iso21177.Ssl.Placed
import Iso21177.Ssl.Slots

/-!
# Steps Leave the Session in Place

Each kind of step keeps the session, the peer and the version where they are to be
(`Placed`). A hello that is accepted opens a session and chooses TLS 1.3, or sends the client
back; a Certificate that is accepted leaves a peer; every other message leaves all three as
they were, and so does what is written, but for the hellos.

## Main definitions

* `HandState.establishes`: Where a session, a version or a peer is established.

## Theorems

* `processMessage_cases`: Which messages matter to session, version and slots.
* `session_tlsProcessServerCertificate`, `session_storeClientChain`, `peer_setPeer`,
  `peer_tlsPostProcessServerCertificate`, `certificate_peer`: What a Certificate leaves.
* `placed_processed`, `slotsFilled_processed`: Reading.
* `placed_written`, `placed_early`, `placed_finished`, `placed_turned`: Writing.
* `placed_started`, `placed_reentered`, `placed_configured`: The other steps.
* `configFields_subset`: What the application's calls may change.
-/

namespace Iso21177

variable {ω : Type}

/-- The states in which a session, a version or a peer is established. -/
def HandState.establishes : HandState → Bool
  | .before | .srClntHello | .crSrvrHello | .crCert | .srCert => true
  | _ => false

section Reading

variable {env : Env ω}

/-- A message that was processed is a hello, a Certificate, or one that leaves session and
    version alone. -/
theorem processMessage_cases {m : Msg} {s t : SSL ω}
    (h : processMessage env m s = some (true, t)) :
    (∃ head exts, s.server = true ∧ s.statem.handState = .srClntHello ∧
      Call.seq (tlsProcessClientHello env head exts) (tlsPostProcessClientHello env) s =
        some (true, t)) ∨
    (∃ hrr head exts, m = .serverHello hrr head exts ∧ s.server = false ∧
      s.statem.handState = .crSrvrHello ∧
      tlsProcessServerHello env hrr head exts s = some (true, t)) ∨
    s.statem.handState.afterCertificate = true ∨
    (s.statem.handState.establishes = false ∧
      ∃ fs, Touches fs s true t ∧ .session ∉ fs ∧ .tls13 ∉ fs ∧ .hrr ∉ fs ∧
        (s.tls13 = true → Fills s t)) := by
  -- A message left to code outside changes what is outside.
  have hplain : ∀ {p body}, runPhase env p body s = some (true, t) →
      ∃ fs, Touches fs s true t ∧ .session ∉ fs ∧ .tls13 ∉ fs ∧ .hrr ∉ fs ∧
        (s.tls13 = true → Fills s t) := by
    intro p body hp
    have ht := touches_runOther _ s true t hp
    exact ⟨[.other], ht, by decide, by decide, by decide,
      fun _ => fills_of_touches ht (by decide) (by decide)⟩
  unfold processMessage at h
  split at h
  · rename_i hsv
    unfold serverProcessMessage at h
    split at h
    · rename_i head exts hst
      exact Or.inl ⟨head, exts, hsv, hst, h⟩
    · rename_i hst
      exact Or.inr (Or.inr (Or.inl (by rw [hst]; rfl)))
    · rename_i hst
      have ht := touches_tlsProcessCertVerify env _ s true t h
      exact Or.inr (Or.inr (Or.inr ⟨by rw [hst]; rfl, certVerifyFields, ht, by decide, by decide,
        by decide, fun _ => fills_of_touches ht (by decide) (by decide)⟩))
    all_goals first
      | exact absurd h (sslFail_ne_true _ _ _ _)
      | (rename_i hst
         exact Or.inr (Or.inr (Or.inr ⟨by rw [hst]; rfl, hplain h⟩)))
  · rename_i hsv
    unfold clientProcessMessage at h
    split at h
    · rename_i hrr head exts hst
      exact Or.inr (Or.inl ⟨hrr, head, exts, rfl, Bool.not_eq_true _ ▸ hsv, hst, h⟩)
    · rename_i hst
      have ht := touches_tlsProcessEncryptedExtensions env _ s true t h
      exact Or.inr (Or.inr (Or.inr ⟨by rw [hst]; rfl, [.other], ht, by decide, by decide,
        by decide, fun _ => fills_of_touches ht (by decide) (by decide)⟩))
    · rename_i hst
      have ht := touches_processRequest env _ s true t h
      exact Or.inr (Or.inr (Or.inr ⟨by rw [hst]; rfl, touchedBy .certificateRequest, ht,
        by decide, by decide, by decide, fun h13 => (fills13_processRequest _ s true t h h13).2⟩))
    · rename_i hst
      exact Or.inr (Or.inr (Or.inl (by rw [hst]; rfl)))
    · rename_i hst
      -- The signature is checked, and the client's own Certificate prepared after it.
      have ht : Touches (touchedBy .certificateVerify) s true t :=
        touches_seq
          (touches_weaken (List.subset_append_left _ _) (touches_tlsProcessCertVerify env _))
          (touches_weaken (List.subset_append_right _ _) (touches_prepareIfAsked env)) s true t h
      have hfill : s.tls13 = true → Fills s t := fun h13 =>
        (fills13_seq (fills13_of_touches (touches_tlsProcessCertVerify env _) (by decide)
          (by decide) (by decide)) fills13_prepareIfAsked s true t h h13).2
      exact Or.inr (Or.inr (Or.inr ⟨by rw [hst]; rfl, touchedBy .certificateVerify, ht, by decide,
        by decide, by decide, hfill⟩))
    all_goals first
      | exact absurd h (sslFail_ne_true _ _ _ _)
      | (rename_i hst
         exact Or.inr (Or.inr (Or.inr ⟨by rw [hst]; rfl, hplain h⟩)))

/-- A client that read a chain has a session for it. -/
theorem session_tlsProcessServerCertificate {body : Bytes} {s t : SSL ω}
    (h : tlsProcessServerCertificate env body s = some (true, t)) : t.session ≠ none := by
  unfold tlsProcessServerCertificate at h
  split at h
  · exact absurd h (by simp only [reduceCtorEq, not_false_eq_true])
  · simp only at h
    split at h
    · exact absurd h (sslFail_ne_true _ _ _ _)
    · split at h
      · exact absurd h (by simp only [reduceCtorEq, not_false_eq_true])
      · exact absurd h (abandon_ne_true _ _ _)
      · rw [← (Prod.mk.inj (Option.some.inj h)).2]
        exact Option.some_ne_none _

theorem session_storeClientChain {chain : List Nat} {s t : SSL ω}
    (h : storeClientChain chain s = some (true, t)) : t.session ≠ none := by
  unfold storeClientChain at h
  split at h
  · exact absurd h (by simp only [reduceCtorEq, not_false_eq_true])
  · split at h
    · exact absurd h (by simp only [reduceCtorEq, not_false_eq_true])
    · rw [← (Prod.mk.inj (Option.some.inj h)).2]
      exact Option.some_ne_none _

theorem peer_setPeer {a : Nat} {s t : SSL ω} (h : setPeer a s = some (true, t)) :
    t.session.bind Session.peer = some a := by
  unfold setPeer at h
  split at h
  · exact absurd h (by simp only [reduceCtorEq, not_false_eq_true])
  · split at h
    · exact absurd h (by simp only [reduceCtorEq, not_false_eq_true])
    · split at h
      · exact absurd h (by simp only [reduceCtorEq, not_false_eq_true])
      · rw [← (Prod.mk.inj (Option.some.inj h)).2]
        rfl

/-- A client that accepts the chain has a peer. -/
theorem peer_tlsPostProcessServerCertificate {s t : SSL ω}
    (h : tlsPostProcessServerCertificate env s = some (true, t)) :
    t.session.bind Session.peer ≠ none := by
  unfold tlsPostProcessServerCertificate at h
  split at h
  · exact absurd h (by simp only [reduceCtorEq, not_false_eq_true])
  · simp only at h
    split at h
    · exact absurd h (by simp only [reduceCtorEq, not_false_eq_true])
    · split at h
      · exact absurd h (sslFail_ne_true _ _ _ _)
      · split at h
        · exact absurd h (sslFail_ne_true _ _ _ _)
        · split at h
          · exact absurd h (by simp only [reduceCtorEq, not_false_eq_true])
          · rcases Call.seq_true.mp h with ⟨u, -, h⟩
            rcases Call.seq_true.mp h with ⟨v, hset, hsave⟩
            rw [(saveCertVerifyHash_true hsave).2.1, peer_setPeer hset]
            exact Option.some_ne_none _

/-- A Certificate that was processed leaves a session, and the client has a peer. -/
theorem certificate_peer {m : Msg} {s t : SSL ω}
    (hst : s.statem.handState.afterCertificate = true)
    (h : processMessage env m s = some (true, t)) :
    t.session ≠ none ∧ (s.statem.handState = .crCert → t.session.bind Session.peer ≠ none) := by
  obtain ⟨body, rfl, ⟨hsv, hp⟩ | ⟨hsv, hp⟩⟩ := processMessage_certificate env hst h
  · rcases tlsProcessClientCertificate_cases hp with
      ⟨list, chain, s1, s2, s3, s4, -, -, -, hstore, h4, hsave⟩
    refine ⟨?_, fun hcr => ?_⟩
    · rw [(saveCertVerifyHash_true hsave).2.1, h4.session (by decide)]
      exact session_storeClientChain hstore
    · -- Only a client reads a Certificate in this state.
      simp only [processMessage, hsv, if_true, serverProcessMessage, hcr] at h
      exact absurd h (sslFail_ne_true _ _ _ _)
  · rcases Call.seq_true.mp hp with ⟨u, -, hpost⟩
    have hpeer := peer_tlsPostProcessServerCertificate hpost
    refine ⟨fun hnone => hpeer ?_, fun _ => hpeer⟩
    rw [hnone]
    rfl

/-- A message that was processed leaves everything in its place. -/
theorem placed_processed (henv : OnlyTls13 env) {m : Msg} {st : HandState} {s u t : SSL ω}
    (hs : Placed s) (hflow : s.statem.state = .reading)
    (htr : readTransition env s m.mt = some st) (hu : Touches [.pha, .other] s true u)
    (hp : processMessage env m ((u.enter st).note (.recv m)) = some (true, t)) :
    Placed (if doneReading env m t then t.turn .writing else t) := by
  have hst := (statem_processed env hflow hu hp).2
  have hready := readTransition_placed hs hflow htr
  -- Turning to writing is no different from reading on, except without a version.
  have hplace : t.session ≠ none → (st = .crCert → t.session.bind Session.peer ≠ none) →
      st ≠ .before → (t.tls13 = true ∨ t.server = false ∧ t.helloRetryRequest = .pending ∧
        doneReading env m t = true ∧ st = .crSrvrHello) →
      Placed (if doneReading env m t then t.turn .writing else t) := by
    intro hsess hpeer hbefore hver
    have hk := (keeps_turned (doneReading env m t) t).1
    have hst' := (keeps_turned (doneReading env m t) t).2.trans hst
    refine ⟨fun hnone => ?_, fun hcr => ?_, fun h13 => ?_, fun hb => ?_⟩
    · rw [hk.session List.not_mem_nil] at hnone
      exact absurd hnone hsess
    · rw [hk.session List.not_mem_nil]
      exact hpeer (hst'.symm.trans hcr)
    · rw [hk.tls13 List.not_mem_nil] at h13
      rcases hver with htrue | ⟨hsv, hpend, hdone, hcr⟩
      · exact absurd (h13.symm.trans htrue) Bool.noConfusion
      · refine Or.inr (Or.inr ⟨?_, ?_, ?_, Or.inl (hst'.trans hcr)⟩)
        · rw [hk.server List.not_mem_nil, hsv]
        · rw [hk.hrr List.not_mem_nil, hpend]
        · rw [hdone]
          rfl
    · exact absurd (hst'.symm.trans hb) hbefore
  -- What was read before the message was processed.
  have hsess : ((u.enter st).note (.recv m)).session = s.session := hu.session (by decide)
  have h13 : ((u.enter st).note (.recv m)).tls13 = s.tls13 := hu.tls13 (by decide)
  have hold : st ≠ .srClntHello → s.session ≠ none ∧ (s.tls13 = true ∨ st = .crSrvrHello) :=
    fun hne => hready.resolve_left hne
  rcases processMessage_cases hp with ⟨head, exts, hsv, hch, hp⟩ | ⟨hrr, head, exts, rfl, hsv, hsh,
    hp⟩ | hcert | ⟨hother, fs, ht, hfsess, hf13, hfhrr, -⟩
  · change st = .srClntHello at hch
    rcases Call.seq_true.mp hp with ⟨v, hv, hpost⟩
    rcases clientHello_opens henv hv with ⟨hv13, hvsess⟩
    have ht := touches_tlsPostProcessClientHello env v true t hpost
    refine hplace ?_ (fun hcr => ?_) ?_ (Or.inl ?_)
    · rw [ht.session (by decide)]
      exact hvsess
    · exact absurd (hch.symm.trans hcr) HandState.noConfusion
    · rw [hch]
      exact HandState.noConfusion
    · rw [ht.tls13 (by decide)]
      exact hv13
  · change st = .crSrvrHello at hsh
    have hne : st ≠ .srClntHello := by
      rw [hsh]
      exact HandState.noConfusion
    have hkept := retains_tlsProcessServerHello env hrr head exts _ true t hp
    have ht := touches_tlsProcessServerHello env hrr head exts _ true t hp
    have htsv : t.server = false := (ht.server (by decide)).trans hsv
    refine hplace ?_ (fun hcr => ?_) ?_ ?_
    · refine hkept.session ?_
      rw [hsess]
      exact (hold hne).1
    · exact absurd (hsh.symm.trans hcr) HandState.noConfusion
    · rw [hsh]
      exact HandState.noConfusion
    · cases hrr with
      | false => exact Or.inl (serverHello_version henv hp)
      | true =>
          refine Or.inr ⟨htsv, helloRetryRequest_pending hp, ?_, hsh⟩
          simp only [doneReading, htsv, hst, hsh]
  · rcases certificate_peer hcert hp with ⟨htsess, htpeer⟩
    have hcert' : st.afterCertificate = true := hcert
    have hne : st ≠ .srClntHello ∧ st ≠ .before ∧ st ≠ .crSrvrHello := by
      refine ⟨?_, ?_, ?_⟩ <;>
      · rintro rfl
        exact absurd hcert' Bool.false_ne_true
    refine hplace htsess htpeer hne.2.1 (Or.inl ?_)
    obtain ⟨body, rfl, -⟩ := processMessage_certificate env hcert hp
    have ht : Touches (touchedBy .certificate) _ true t := touches_processMessage env _ _ true t hp
    rw [ht.tls13 (by decide), h13]
    exact (hold hne.1).2.resolve_right hne.2.2
  · have hother' : st.establishes = false := hother
    have hne : st ≠ .srClntHello ∧ st ≠ .before ∧ st ≠ .crSrvrHello ∧ st ≠ .crCert := by
      refine ⟨?_, ?_, ?_, ?_⟩ <;>
      · rintro rfl
        exact absurd hother' Bool.noConfusion
    refine hplace ?_ (fun hcr => absurd hcr hne.2.2.2) hne.2.1 (Or.inl ?_)
    · rw [ht.session hfsess, hsess]
      exact (hold hne.1).1
    · rw [ht.tls13 hf13, h13]
      exact (hold hne.1).2.resolve_right hne.2.2.1

/-- After a message was processed the chosen slot is filled. -/
theorem slotsFilled_processed (henv : OnlyTls13 env) {m : Msg} {st : HandState} {s u t : SSL ω}
    (hs : Placed s) (hflow : s.statem.state = .reading) (hslots : s.SlotsFilled)
    (htr : readTransition env s m.mt = some st) (hu : Touches [.pha, .other] s true u)
    (hp : processMessage env m ((u.enter st).note (.recv m)) = some (true, t)) :
    t.SlotsFilled := by
  have hready := readTransition_placed hs hflow htr
  have hslots' : u.SlotsFilled :=
    slotsFilled_of_fills hslots (fills_of_touches hu (by decide) (by decide))
  have h13 : ((u.enter st).note (.recv m)).tls13 = s.tls13 := hu.tls13 (by decide)
  refine slotsFilled_of_fills (s := (u.enter st).note (.recv m)) hslots' ?_
  rcases processMessage_cases hp with ⟨head, exts, -, -, hp⟩ | ⟨hrr, head, exts, rfl, -, -, hp⟩ |
    hcert | ⟨hother, fs, -, -, -, -, hfills⟩
  · -- The slot is chosen once the version is known.
    rcases Call.seq_true.mp hp with ⟨v, hv, hpost⟩
    have hv13 := (clientHello_opens henv hv).1
    exact fills_trans (fills_of_touches (touches_tlsProcessClientHello env head exts _ true v hv)
      (by decide) (by decide)) (fills13_tlsPostProcessClientHello v true t hpost hv13).2
  · exact fills_of_touches (touches_tlsProcessServerHello env hrr head exts _ true t hp)
      (by decide) (by decide)
  · obtain ⟨body, rfl, -⟩ := processMessage_certificate env hcert hp
    have ht : Touches (touchedBy .certificate) _ true t := touches_processMessage env _ _ true t hp
    exact fills_of_touches ht (by decide) (by decide)
  · have hother' : st.establishes = false := hother
    have hne : st ≠ .srClntHello ∧ st ≠ .crSrvrHello := by
      constructor <;>
      · rintro rfl
        exact absurd hother' Bool.noConfusion
    refine hfills ?_
    rw [h13]
    exact (hready.resolve_left hne.1).2.resolve_right hne.2

end Reading

section Steps

variable {env : Env ω}

/-- A message that was written leaves everything in its place. -/
theorem placed_written {st : HandState} {m : Msg} {src : Source} {s u t : SSL ω} (hs : Placed s)
    (hflow : s.statem.state = .writing) (htr : writeTransition env s = .next st)
    (hc : constructMessage env (entering s st) = some (some (m, src), u))
    (hp : runPhase env (.postWork st) [] (u.note (.sent m src)) = some (true, t)) :
    Placed t := by
  rcases statem_written env hc hp with ⟨hstate, hst⟩
  have hu := touches_constructMessage env hc
  have ht := touches_runOther _ _ true t hp
  have hsess : t.session = u.session := ht.session (by decide)
  have h13 : t.tls13 = s.tls13 := (ht.tls13 (by decide)).trans (hu.tls13 (by decide))
  have hsv : t.server = s.server := (ht.server (by decide)).trans (hu.server (by decide))
  have hhrr : t.helloRetryRequest = s.helloRetryRequest :=
    (ht.hrr (by decide)).trans (hu.hrr (by decide))
  have hstates : st ≠ .before ∧ st ≠ .crCert := constructMessage_state hc
  refine ⟨fun hnone => ?_, fun hcr => ?_, fun hf => ?_, fun hb => ?_⟩
  · rw [hsess] at hnone
    by_cases hno : s.session = none
    · rcases writeTransition_sessionless hs hno htr with ⟨hclient, hfirst, rfl⟩ |
        ⟨hserver, hpend, hst'⟩
      · -- The first ClientHello comes with a session.
        have hclient' : (entering s .cwClntHello).server = false := hclient
        simp only [constructMessage, hclient', Bool.false_eq_true, if_false] at hc
        have hnew := session_tlsConstructClientHello hc
        exact absurd (hnew.symm.trans hnone) (clientSession_ne_none (Or.inr hfirst))
      · refine Or.inr ⟨hsv.trans hserver, hhrr.trans hpend, Or.inr ?_⟩
        rw [hst]
        exact hst'
    · rcases session_constructMessage hc with hsame | ⟨-, -, hsame⟩ | ⟨hserver, hsh, -, hpend⟩
      · exact absurd (hsame.symm.trans hnone) hno
      · exact absurd (hsame.symm.trans hnone) (clientSession_ne_none (Or.inl hno))
      · exact Or.inr ⟨hsv.trans hserver, hhrr.trans hpend, Or.inl (hst.trans hsh)⟩
  · exact absurd (hst.symm.trans hcr) hstates.2
  · rcases writeTransition_unversioned hs (h13.symm.trans hf) htr with ⟨hclient, hst'⟩
    rcases hst' with hst' | ⟨hst', hpend⟩
    · exact Or.inr (Or.inl ⟨hsv.trans hclient, hst.trans hst'⟩)
    · exact Or.inr (Or.inr ⟨hsv.trans hclient, hhrr.trans hpend, hstate.trans hflow,
        Or.inr (hst.trans hst')⟩)
  · exact absurd (hst.symm.trans hb) hstates.1

/-- A step of code outside in a state just entered. -/
theorem placed_early {s t : SSL ω} (hs : Placed s)
    (htr : writeTransition env s = .next .earlyData)
    (hp : runPhase env (.postWork .earlyData) [] (entering s .earlyData) = some (true, t)) :
    Placed t := by
  have ht := touches_runOther _ _ true t hp
  have hst : t.statem.handState = .earlyData := ht.handState
  refine ⟨fun hnone => ?_, fun hcr => ?_, fun h13 => ?_, fun hb => ?_⟩
  · rw [ht.session (by decide)] at hnone
    rcases writeTransition_sessionless hs hnone htr with ⟨-, -, hch⟩ | ⟨hsv, hpend, -⟩
    · exact absurd hch HandState.noConfusion
    · exact Or.inr ⟨(ht.server (by decide)).trans hsv, (ht.hrr (by decide)).trans hpend,
        Or.inr (Or.inr hst)⟩
  · exact absurd (hst.symm.trans hcr) HandState.noConfusion
  · rw [ht.tls13 (by decide)] at h13
    rcases (writeTransition_unversioned hs h13 htr).2 with hst' | ⟨hst', -⟩ <;>
      exact absurd hst' HandState.noConfusion
  · exact absurd (hst.symm.trans hb) HandState.noConfusion

/-- A handshake that is over left everything in its place. -/
theorem placed_finished {s t : SSL ω} (hs : Placed s) (htr : writeTransition env s = .next .ok)
    (h : finishHandshake env (entering s .ok) = some (true, t)) : Placed t := by
  have hk := keeps_finishHandshake env h
  have hst : t.statem.handState = .ok := by
    rcases Call.seq_true.mp h with ⟨u, hp, hv⟩
    rw [← (Prod.mk.inj (Option.some.inj hv)).2]
    exact (touches_runOther _ _ true u hp).handState
  refine ⟨fun hnone => ?_, fun hcr => ?_, fun h13 => ?_, fun hb => ?_⟩
  · rw [hk.session (by decide)] at hnone
    rcases writeTransition_sessionless hs hnone htr with ⟨-, -, hok⟩ | ⟨-, -, hok | hok⟩ <;>
      exact absurd hok HandState.noConfusion
  · exact absurd (hst.symm.trans hcr) HandState.noConfusion
  · rw [hk.tls13 (by decide)] at h13
    rcases (writeTransition_unversioned hs h13 htr).2 with hok | ⟨hok, -⟩ <;>
      exact absurd hok HandState.noConfusion
  · exact absurd (hst.symm.trans hb) HandState.noConfusion

/-- Turning to reading is done where the other side is to go on. -/
theorem placed_turned {s : SSL ω} (hs : Placed s) (htr : writeTransition env s = .finished) :
    Placed (s.turn .reading) := by
  refine ⟨hs.session, hs.peer, fun h13 => ?_, hs.fresh⟩
  rcases writeTransition_finished_unversioned hs h13 htr with ⟨hst, hsv⟩ | hst
  · exact Or.inl ⟨hst, fun hsv' => absurd (hsv.symm.trans hsv') Bool.noConfusion⟩
  · exact Or.inr (Or.inl hst)

/-- A handshake starts with everything in its place. -/
theorem placed_started {server : Bool} {s u t : SSL ω} (hclear : sslClear env s = some (true, u))
    (hp : runPhase env .setupHandshake [] { u with
      server := server, extflags := [], tmp := { u.tmp with certReq := 0 } } = some (true, t)) :
    Placed (t.turn .writing) ∧ t.tmp.cert = none := by
  have hst := handState_started env hclear hp
  have ht := touches_runOther _ _ true t hp
  have hu : u.helloRetryRequest = .none ∧ u.tmp.cert = none := by
    simp only [sslClear] at hclear
    split at hclear
    · exact absurd hclear (by simp only [Option.some.injEq, Prod.mk.injEq, Bool.false_eq_true,
        false_and, not_false_eq_true])
    · rw [← (Prod.mk.inj (Option.some.inj hclear)).2]
      exact ⟨rfl, rfl⟩
  refine ⟨⟨fun _ => Or.inl hst, fun hcr => ?_, fun _ => ?_, fun _ => ?_⟩, ?_⟩
  · exact absurd (hst.symm.trans hcr) HandState.noConfusion
  · exact Or.inl ⟨hst, fun _ => MsgFlow.noConfusion⟩
  · exact (ht.hrr (by decide)).trans hu.1
  · exact (Prod.mk.inj (ht.choice (by decide))).1.trans hu.2

theorem placed_reentered {s : SSL ω} (hs : Placed s) (hflow : s.statem.state = .finished) :
    Placed (reenterEvent s) := by
  refine ⟨hs.session, hs.peer, fun h13 => ?_, hs.fresh⟩
  rcases hs.version h13 with ⟨hst, -⟩ | hst | ⟨-, -, hw, -⟩
  · exact Or.inl ⟨hst, fun _ => MsgFlow.noConfusion⟩
  · exact Or.inr (Or.inl hst)
  · exact absurd (hflow.symm.trans hw) MsgFlow.noConfusion

theorem configFields_subset (c : ConfigCall) :
    configFields c ⊆ [.support, .cert, .psidThis, .trace, .verifyMode, .pha] := by
  cases c <;> simp only [configFields] <;> decide

/-- The calls of the application move nothing. -/
theorem placed_configured {c : ConfigCall} {s t : SSL ω} {b : Bool} (hs : Placed s)
    (h : configCall env c s = some (b, t)) : Placed t := by
  rcases touches_configCall env c s b t h with ⟨hu, hflow⟩
  have hu := touches_mono (configFields_subset c) hu
  have hsess : t.session = s.session := hu.session (by decide)
  have h13 : t.tls13 = s.tls13 := hu.tls13 (by decide)
  have hsv : t.server = s.server := hu.server (by decide)
  have hhrr : t.helloRetryRequest = s.helloRetryRequest := hu.hrr (by decide)
  have hst : t.statem.handState = s.statem.handState := hu.handState
  refine ⟨fun hnone => ?_, fun hcr => ?_, fun hf => ?_, fun hb => ?_⟩
  · simp only [SSL.Sessionless, hsv, hhrr, hst]
    exact hs.session (hsess.symm.trans hnone)
  · rw [hsess]
    rw [hst] at hcr
    exact hs.peer hcr
  · simp only [SSL.Unversioned, hsv, hhrr, hst, hflow]
    exact hs.version (h13.symm.trans hf)
  · rw [hhrr]
    rw [hst] at hb
    exact hs.fresh hb

end Steps

end Iso21177
