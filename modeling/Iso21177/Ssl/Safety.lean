import Iso21177.Ssl.InPlace
import Iso21177.Ssl.VerifyFollows

/-!
# Which Steps Are Undefined

A step is undefined if it follows a dead address or a null pointer, or drops a reference
that is not there. The steps of a connection object that speaks TLS 1.3 only keep the
references backed, the session in its place and the chosen slot filled (`Sound`), and a
sound object has one step that is undefined: a client that is to use 1609.2 writes its
Certificate without having one (`BareClient`).

This takes two things for granted that the code does not check. The peer sends no empty
entry in a 1609.2 list (`SSL.clean`), and the security entity's confirmations have the whole
hash.

## Main definitions

* `SSL.clean`: No Certificate with an empty entry is read.
* `BareClient`: A client that has no certificate to write.
* `Sound`: What the steps keep.
* `bareClient`: A run of such a client.

## Theorems

* `processMessage_safe`, `peer_of_readTransition`, `readEvent_safe`: Reading.
* `chainToSend_none_iff`, `ssl3OutputCertChain_none_iff`, `tlsConstructServerCertificate_ne_none`,
  `tlsConstructCertVerify_ne_none`, `tlsConstructClientCertificate_none_iff`,
  `constructMessage_none_iff`, `writeStep_none_iff`, `writeEvent_none_iff`: Writing.
* `going_checkFatal`, `sound_checkFatal`, `backed_sslClear`, `sslClear_true`, `sound_startEvent`,
  `sound_readEvent`, `sound_writeEvent`, `sound_configCall`, `sound_sslNew`: Objects that
  stay sound.
* `step_none_iff`, `sound_step`: One step.
* `wholeHash_plainEnv`, `onlyTls13_plainEnv`: Parameters for which this holds.
* `run_undefined_iff`, `run_undefined_bare`: Whole runs.
-/

namespace Iso21177

variable {ω : Type}

/-- No Certificate is read in which an entry of a 1609.2 list is empty. -/
def SSL.clean (s : SSL ω) : Event → Bool
  | .read (.certificate body) => decide (NoEmptyEntry (sslIsUsing1609OtherSide s) body)
  | _ => true

/-- A client is to write its Certificate for 1609.2, and has none. -/
def BareClient (env : Env ω) (s : SSL ω) : Prop :=
  s.server = false ∧ writeTransition env s = .next .cwCert ∧ sslIsUsing1609ThisSide s = true ∧
    (s.cert.pkeys s.cert.key).x509 = none ∧ (Packet.putSub 1 s.phaContext).isSome = true

section Reading

variable {env : Env ω}

/-- A message is processed without a mistake where it is expected. -/
theorem processMessage_safe (henv : WholeHash env) {m : Msg} {s : SSL ω} (hb : s.Backed)
    (hready : s.statem.handState = .srClntHello ∨
      s.session ≠ none ∧ (s.tls13 = true ∨ s.statem.handState = .crSrvrHello))
    (hpeer : ∀ body, m = .certificateVerify body →
      s.statem.handState.checksSignature = true → s.session.bind Session.peer ≠ none)
    (hclean : ∀ body, m = .certificate body →
      NoEmptyEntry (sslIsUsing1609OtherSide s) body) :
    Call.Safe (processMessage env m) s := by
  -- Behind the hellos there is a session, and the version is known.
  have hlater : s.statem.handState.establishes = false ∨
      s.statem.handState.afterCertificate = true → s.session ≠ none ∧ s.tls13 = true := by
    intro hst
    have hne : s.statem.handState ≠ .srClntHello ∧ s.statem.handState ≠ .crSrvrHello := by
      constructor <;>
      · intro heq
        rw [heq] at hst
        exact hst.elim Bool.noConfusion Bool.noConfusion
    exact (hready.resolve_left hne.1).imp_right (fun h => h.resolve_right hne.2)
  have hfail : ∀ al reason, Call.Safe (sslFail al reason) s := fun al reason =>
    safe_sslFail al reason hb
  have hrun : ∀ p body, Call.Safe (runPhase env p body) s := fun p body =>
    safe_runPhase env p body hb
  unfold Call.Safe processMessage
  split
  · rename_i hsv
    unfold serverProcessMessage
    split
    · rename_i head exts hst
      refine safe_seq ?_ (fun t _ ht => safe_of_total ht (total_tlsPostProcessClientHello henv)
        (touches_tlsPostProcessClientHello env) (by decide) (by decide))
      rcases Option.ne_none_iff_exists'.mp (total_tlsProcessClientHello env head exts s) with
        ⟨⟨b, t⟩, ht⟩
      exact ⟨b, t, ht, (retains_tlsProcessClientHello env head exts s b t ht).backed hb⟩
    · rename_i body hst
      rcases hlater (Or.inr (by rw [hst]; rfl)) with ⟨hsess, h13⟩
      refine tlsProcessClientCertificate_safe henv hb hsess h13 ?_
      have hc := hclean body rfl
      rw [sslIsUsing1609OtherSide, if_pos hsv] at hc
      exact hc
    · rename_i body hst
      rcases Option.ne_none_iff_exists'.mp (hpeer body rfl (by rw [hst]; rfl)) with ⟨a, ha⟩
      exact tlsProcessCertVerify_safe henv hb ha
    all_goals first
      | exact hrun _ _
      | exact hfail _ _
  · rename_i hsv
    unfold clientProcessMessage
    split
    · rename_i hrr head exts hst
      rcases Option.ne_none_iff_exists'.mp (total_tlsProcessServerHello env hrr head exts s) with
        ⟨⟨b, t⟩, ht⟩
      exact ⟨b, t, ht, (retains_tlsProcessServerHello env hrr head exts s b t ht).backed hb⟩
    · exact safe_of_total hb (total_tlsProcessEncryptedExtensions env _)
        (touches_tlsProcessEncryptedExtensions env _) (by decide) (by decide)
    · exact safe_of_total hb (total_processRequest henv _) (touches_processRequest env _)
        (by decide) (by decide)
    · rename_i body hst
      rcases hlater (Or.inr (by rw [hst]; rfl)) with ⟨hsess, h13⟩
      have hc := hclean body rfl
      rw [sslIsUsing1609OtherSide, if_neg hsv] at hc
      exact safe_seq (tlsProcessServerCertificate_safe hb hsess h13 hc) (fun t ht htb =>
        tlsPostProcessServerCertificate_safe henv htb (session_tlsProcessServerCertificate ht))
    · rename_i body hst
      rcases Option.ne_none_iff_exists'.mp (hpeer body rfl (by rw [hst]; rfl)) with ⟨a, ha⟩
      exact safe_seq (tlsProcessCertVerify_safe henv hb ha) (fun t _ ht =>
        safe_of_total ht (total_prepareIfAsked henv) (touches_prepareIfAsked env) (by decide)
          (by decide))
    all_goals first
      | exact hrun _ _
      | exact hfail _ _

/-- Where a CertificateVerify is read the session has a peer. -/
theorem peer_of_readTransition {s : SSL ω} {st : HandState} (hs : Placed s)
    (hready : st = .srClntHello ∨ s.session ≠ none ∧ (s.tls13 = true ∨ st = .crSrvrHello))
    (hst : st.checksSignature = true)
    (h : readTransition env s .certificateVerify = some st) :
    s.session.bind Session.peer ≠ none := by
  have hne : st ≠ .srClntHello ∧ st ≠ .crSrvrHello := by
    constructor <;>
    · rintro rfl
      exact absurd hst Bool.noConfusion
  have h13 := (hready.resolve_left hne.1).2.resolve_right hne.2
  have hcert := (readTransition_certificateVerify h13 h).1
  cases hsv : s.server with
  | false =>
      rw [hsv] at hcert
      exact hs.peer hcert
  | true =>
      -- A server without a peer goes on to Finished.
      rw [hsv, if_pos rfl] at hcert
      simp only [readTransition, h13, hsv, if_true, server13ReadTransition, hcert] at h
      split at h
      · exact absurd h (by simp only [reduceCtorEq, if_false, not_false_eq_true])
      · rename_i hpeer
        intro hnone
        rw [hnone] at hpeer
        exact hpeer rfl

/-- A message is read without a mistake, if no entry of a Certificate is empty. -/
theorem readEvent_safe (henv : WholeHash env) {m : Msg} {s : SSL ω} (hb : s.Backed)
    (hs : Placed s) (hflow : s.statem.state = .reading) (hclean : s.clean (.read m) = true) :
    ∃ t, readEvent env m s = some t ∧ t.Backed := by
  have hstep : Call.Safe (readStep env m) s := by
    unfold Call.Safe readStep
    split
    · exact safe_sslFail _ _ hb
    · rename_i st htr
      -- Where the machine is placed, a message that is let in finds its session.
      have hready := readTransition_placed hs hflow htr
      have hnoted : Call.Total (phaRequested env st) := by
        intro u
        unfold phaRequested
        split
        · exact total_runPhase env _ _ _
        · exact Option.some_ne_none _
      rcases Option.ne_none_iff_exists'.mp (hnoted s) with ⟨⟨b, u⟩, hu⟩
      have hut := (phaRequested_cases env hu).1
      refine safe_seq ⟨b, u, hu, backed_of_touches hb hut (by decide) (by decide)⟩ ?_
      intro v hv hvb
      have hvt := (phaRequested_cases env hv).1
      have hsess : v.session = s.session := hvt.session (by decide)
      have h13 : v.tls13 = s.tls13 := hvt.tls13 (by decide)
      have hsv : v.server = s.server := hvt.server (by decide)
      refine processMessage_safe henv (s := (v.enter st).note (.recv m)) hvb ?_ ?_ ?_
      · change st = .srClntHello ∨ v.session ≠ none ∧ (v.tls13 = true ∨ st = .crSrvrHello)
        rw [hsess, h13]
        exact hready
      · rintro body rfl hchecks
        change st.checksSignature = true at hchecks
        change v.session.bind Session.peer ≠ none
        rw [hsess]
        exact peer_of_readTransition hs hready hchecks htr
      · rintro body rfl
        change NoEmptyEntry (sslIsUsing1609OtherSide v) body
        rw [sslIsUsing1609OtherSide_of_touches hvt (by decide) (by decide)]
        exact of_decide_eq_true hclean
  rcases hstep with ⟨b, t, ht, htb⟩
  cases b with
  -- A failure is noted, and frees nothing.
  | false =>
      refine ⟨checkFatal t, by simp only [readEvent, ht], ?_⟩
      exact backed_of_keeps htb (keeps_checkFatal [] t) List.not_mem_nil List.not_mem_nil
  | true =>
      refine ⟨if doneReading env m t then t.turn .writing else t, by simp only [readEvent, ht], ?_⟩
      exact backed_of_keeps htb (keeps_turned _ t).1 List.not_mem_nil List.not_mem_nil

end Reading

section Writing

variable {env : Env ω}

/-- A chain cannot be written if there is nothing to send for 1609.2. -/
theorem chainToSend_none_iff {cpk : Option CertPkey} {s : SSL ω} :
    chainToSend env cpk s = none ↔ cpk.bind CertPkey.x509 = none ∧
      sslIsUsing1609ThisSide s = true ∧ (s.cert.pkeys s.cert.key).x509 = none := by
  unfold chainToSend
  cases hc : cpk.bind CertPkey.x509 with
  | none =>
      simp only [true_and]
      cases hu : sslIsUsing1609ThisSide s with
      | false => simp only [Bool.false_eq_true, if_false, reduceCtorEq, false_and]
      | true =>
          simp only [if_true, true_and]
          cases (s.cert.pkeys s.cert.key).x509 <;> simp only [reduceCtorEq]
  | some x =>
      simp only [reduceCtorEq, false_and, iff_false]
      split <;> exact Option.some_ne_none _

theorem ssl3OutputCertChain_none_iff {context : Bytes} {cpk : Option CertPkey} {s : SSL ω} :
    ssl3OutputCertChain env context cpk s = none ↔ chainToSend env cpk s = none := by
  unfold ssl3OutputCertChain
  split
  · rename_i hn
    exact iff_of_true rfl hn
  · rename_i hn
    exact iff_of_false (Option.some_ne_none _) (by rw [hn]; exact Option.some_ne_none _)
  · rename_i xs hn
    refine iff_of_false ?_ (by rw [hn]; exact Option.some_ne_none _)
    split
    · exact Option.some_ne_none _
    · split <;> exact Option.some_ne_none _

/-- A server whose chosen slot is filled has a Certificate to write. -/
theorem tlsConstructServerCertificate_ne_none {s : SSL ω} (hs : s.SlotsFilled) :
    tlsConstructServerCertificate env s ≠ none := by
  unfold tlsConstructServerCertificate
  split
  · exact Option.some_ne_none _
  · rename_i i hi
    rw [Ne, ssl3OutputCertChain_none_iff, chainToSend_none_iff]
    exact fun h => hs i hi h.1

/-- What is signed with the chosen slot has a certificate to go with it. -/
theorem tlsConstructCertVerify_ne_none {s : SSL ω} (hs : s.SlotsFilled) :
    tlsConstructCertVerify env s ≠ none := by
  unfold tlsConstructCertVerify
  split
  · rename_i lu i hlu hi
    split
    · exact Option.some_ne_none _
    · rename_i tbs s' htbs
      have hs' : s' = s := by
        rcases getCertVerifyTbsData_eq env htbs with ⟨-, h⟩ | ⟨h, -⟩
        · exact h
        · exact absurd h (Option.some_ne_none _)
      subst hs'
      split
      · split
        · rename_i hx
          exact absurd hx (hs i hi)
        · split <;> exact Option.some_ne_none _
      · repeat' split
        all_goals first
          | exact Option.some_ne_none _
          | (rename_i hn
             exact absurd hn (total_runPhase env _ _ _))
  · exact Option.some_ne_none _

/-- The client's Certificate cannot be written exactly if there is none for 1609.2. -/
theorem tlsConstructClientCertificate_none_iff {s : SSL ω} (h13 : s.tls13 = true) :
    tlsConstructClientCertificate env s = none ↔ sslIsUsing1609ThisSide s = true ∧
      (s.cert.pkeys s.cert.key).x509 = none ∧ (Packet.putSub 1 s.phaContext).isSome = true := by
  -- What was written is followed by a step of code outside at most.
  have hkey : ∀ cpk : Option CertPkey, (s.tmp.certReq = 2 → cpk = none) →
      (s.tmp.certReq ≠ 2 → cpk = some (s.cert.pkeys s.cert.key)) →
      (chainToSend env cpk s = none ↔ sslIsUsing1609ThisSide s = true ∧
        (s.cert.pkeys s.cert.key).x509 = none) := by
    intro cpk hnone hsome
    rw [chainToSend_none_iff]
    refine ⟨fun h => h.2, fun h => ⟨?_, h⟩⟩
    by_cases hr : s.tmp.certReq = 2
    · rw [hnone hr]
      rfl
    · rw [hsome hr]
      exact h.2
  unfold tlsConstructClientCertificate
  simp only [h13, if_true]
  cases hc : Packet.putSub 1 s.phaContext with
  | none => simp only [reduceCtorEq, Option.isSome_none, Bool.false_eq_true, and_false]
  | some context =>
      simp only [Option.isSome_some, and_true]
      rw [← hkey (if s.tmp.certReq = 2 then none else some (s.cert.pkeys s.cert.key))
        (fun hr => if_pos hr) (fun hr => if_neg hr), ← ssl3OutputCertChain_none_iff]
      split
      · rename_i hn
        exact iff_of_true rfl hn
      · rename_i hn
        exact iff_of_false (Option.some_ne_none _) (by rw [hn]; exact Option.some_ne_none _)
      · rename_i hn
        refine iff_of_false ?_ (by rw [hn]; exact Option.some_ne_none _)
        repeat' split
        all_goals first
          | exact Option.some_ne_none _
          | (rename_i hp
             exact absurd hp (total_runPhase env _ _ _))

/-- Only a client's Certificate cannot be written. -/
theorem constructMessage_none_iff {s : SSL ω} (hs : s.SlotsFilled)
    (h13 : s.server = false → s.statem.handState = .cwCert → s.tls13 = true) :
    constructMessage env s = none ↔ s.server = false ∧ s.statem.handState = .cwCert ∧
      sslIsUsing1609ThisSide s = true ∧ (s.cert.pkeys s.cert.key).x509 = none ∧
      (Packet.putSub 1 s.phaContext).isSome = true := by
  cases hsv : s.server with
  | true =>
      -- A server has chosen a slot that is filled before it shows a certificate.
      refine iff_of_false ?_ (fun h => absurd h.1 Bool.noConfusion)
      simp only [constructMessage, hsv, if_true, serverConstructMessage]
      split
      · exact tlsConstructServerHello_ne_none env s
      · exact tlsConstructEncryptedExtensions_ne_none env s
      · exact tlsConstructCertificateRequest_ne_none env s
      · exact tlsConstructServerCertificate_ne_none hs
      · exact tlsConstructCertVerify_ne_none hs
      · exact constructPlain_ne_none env s
  | false =>
      simp only [constructMessage, hsv, Bool.false_eq_true, if_false, clientConstructMessage,
        true_and]
      by_cases hst : s.statem.handState = .cwCert
      · rw [hst]
        simp only [true_and]
        exact tlsConstructClientCertificate_none_iff (h13 hsv hst)
      · refine iff_of_false ?_ (fun h => hst h.1)
        split
        · exact tlsConstructClientHello_ne_none env s
        · rename_i hcert
          exact absurd hcert hst
        · exact tlsConstructCertVerify_ne_none hs
        · exact constructPlain_ne_none env s

theorem writeStep_none_iff {s : SSL ω} :
    writeStep env s = none ↔ s.statem.handState ≠ .ok ∧ s.statem.handState ≠ .earlyData ∧
      constructMessage env s = none := by
  unfold writeStep
  split
  · rename_i hst
    exact iff_of_false (settle_ne_none (total_finishHandshake env s)) (fun h => h.1 hst)
  · rename_i hst
    exact iff_of_false (settle_ne_none (total_runPhase env _ _ s)) (fun h => h.2.1 hst)
  · rename_i st hok hearly
    split
    · rename_i hn
      exact iff_of_true rfl ⟨hok, hearly, hn⟩
    · rename_i hn
      exact iff_of_false (Option.some_ne_none _)
        (fun h => absurd (hn.symm.trans h.2.2) (Option.some_ne_none _))
    · rename_i hn
      exact iff_of_false (settle_ne_none (total_runPhase env _ _ _))
        (fun h => absurd (hn.symm.trans h.2.2) (Option.some_ne_none _))

/-- Writing is undefined exactly for a client that is to show a certificate it lacks. -/
theorem writeEvent_none_iff {s : SSL ω} (hs : Placed s) (hslots : s.SlotsFilled) :
    writeEvent env s = none ↔ BareClient env s := by
  unfold writeEvent BareClient
  split
  · rename_i hw
    rw [hw]
    exact iff_of_false (Option.some_ne_none _) (fun h => absurd h.2.1 (by
      simp only [reduceCtorEq, not_false_eq_true]))
  · rename_i hw
    rw [hw]
    exact iff_of_false (Option.some_ne_none _) (fun h => absurd h.2.1 (by
      simp only [reduceCtorEq, not_false_eq_true]))
  · rename_i st hw
    have hslots' : (entering s st).SlotsFilled := hslots
    -- A client gets to its Certificate in TLS 1.3 only.
    have h13 : (entering s st).server = false → (entering s st).statem.handState = .cwCert →
        (entering s st).tls13 = true := by
      intro _ hst
      change st = .cwCert at hst
      change s.tls13 = true
      cases h13 : s.tls13 with
      | true => rfl
      | false =>
          rcases (writeTransition_unversioned hs h13 hw).2 with h | ⟨h, -⟩ <;>
            exact absurd (hst.symm.trans h) HandState.noConfusion
    change writeStep env (entering s st) = none ↔ _
    rw [writeStep_none_iff, constructMessage_none_iff hslots' h13, hw]
    change st ≠ .ok ∧ st ≠ .earlyData ∧ s.server = false ∧ st = .cwCert ∧ _ ↔ _
    constructor
    · rintro ⟨-, -, hsv, rfl, h⟩
      exact ⟨hsv, rfl, h⟩
    · rintro ⟨hsv, hst, h⟩
      rw [WriteTran.next.inj hst]
      exact ⟨HandState.noConfusion, HandState.noConfusion, hsv, rfl, h⟩

end Writing

/-- References are backed, and while messages flow everything is in its place. -/
structure Sound (s : SSL ω) : Prop where
  backed : s.Backed
  placed : s.statem.state.going = true → Placed s ∧ s.SlotsFilled

section Steps

variable {env : Env ω}

theorem going_checkFatal (s : SSL ω) : (checkFatal s).statem.state.going = false := by
  rw [(fatal_checkFatal s).2]
  rfl

/-- A step that failed leaves a sound object if its references are backed. -/
theorem sound_checkFatal {s : SSL ω} (hs : s.Backed) : Sound (checkFatal s) where
  backed := backed_of_keeps hs (keeps_checkFatal [] s) List.not_mem_nil List.not_mem_nil
  placed h := absurd ((going_checkFatal s).symm.trans h) Bool.false_ne_true

theorem backed_sslClear {s t : SSL ω} {b : Bool} (hs : s.Backed)
    (h : sslClear env s = some (b, t)) : t.Backed := by
  have hheap : t.heap = s.heap := (keeps_sslClear env h).heap (by decide)
  have hsess : t.session = s.session ∨ t.session = none := by
    simp only [sslClear] at h
    split at h <;>
    · rw [← (Prod.mk.inj (Option.some.inj h)).2]
      simp only
      split
      · exact Or.inr rfl
      · exact Or.inl rfl
  rcases hsess with hsess | hsess
  · exact backed_of_eq hs hheap hsess
  · simp only [SSL.Backed, SSL.held, hsess]
    exact Heap.backs_nil t.heap

/-- Without renegotiation clearing always succeeds. -/
theorem sslClear_true (henv : OnlyTls13 env) {s t : SSL ω} {b : Bool}
    (h : sslClear env s = some (b, t)) : b = true := by
  simp only [sslClear, henv.renegotiate, Bool.false_eq_true, if_false] at h
  exact (Prod.mk.inj (Option.some.inj h)).1.symm

/-- Starting leaves a sound object. -/
theorem sound_startEvent (henv : OnlyTls13 env) {server : Bool} {s t : SSL ω} (hs : s.Backed)
    (h : startEvent env server s = some t) : Sound t := by
  rcases startEvent_cases env h with hc | ⟨u, b, v, hc, hp, rfl⟩
  · exact absurd (sslClear_true henv hc) Bool.false_ne_true
  · have hu : u.Backed := backed_sslClear hs hc
    have hv : v.Backed := backed_of_touches (s := { u with
      server := server, extflags := [], tmp := { u.tmp with certReq := 0 } }) hu
      (touches_runOther _ _ b v hp) (by decide) (by decide)
    cases b with
    | false =>
        refine ⟨hv, fun hgo => ?_⟩
        rw [if_neg Bool.false_ne_true, (reports_runOther _ _ v hp).2] at hgo
        exact absurd hgo Bool.false_ne_true
    | true =>
        rcases placed_started hc hp with ⟨hplaced, hcert⟩
        exact ⟨hv, fun _ => ⟨hplaced, slotsFilled_of_none hcert⟩⟩

/-- Reading leaves a sound object. -/
theorem sound_readEvent (hhash : WholeHash env) (henv : OnlyTls13 env) {m : Msg} {s : SSL ω}
    (hs : Sound s) (hflow : s.statem.state = .reading) (hclean : s.clean (.read m) = true) :
    ∃ t, readEvent env m s = some t ∧ Sound t := by
  rcases hs.placed (by rw [hflow]; rfl) with ⟨hplaced, hslots⟩
  rcases readEvent_safe hhash hs.backed hplaced hflow hclean with ⟨t, ht, htb⟩
  refine ⟨t, ht, htb, fun hgo => ?_⟩
  rcases readEvent_cases env ht with ⟨u, -, rfl⟩ | ⟨st, u, b, v, htr, hu, -, hm, rfl⟩
  · exact absurd ((going_checkFatal u).symm.trans hgo) Bool.false_ne_true
  · cases b with
    | false => exact absurd ((going_checkFatal v).symm.trans hgo) Bool.false_ne_true
    | true =>
        rw [if_pos rfl]
        refine ⟨placed_processed henv hplaced hflow htr hu hm, ?_⟩
        have hslotsv := slotsFilled_processed henv hplaced hflow hslots htr hu hm
        exact slotsFilled_of_fills hslotsv (fills_of_keeps (keeps_turned _ v).1 List.not_mem_nil
          List.not_mem_nil)

/-- Writing leaves a sound object, where it is defined. -/
theorem sound_writeEvent {s t : SSL ω} (hs : Sound s) (hflow : s.statem.state = .writing)
    (h : writeEvent env s = some t) : Sound t := by
  rcases hs.placed (by rw [hflow]; rfl) with ⟨hplaced, hslots⟩
  -- Writing empties no slot and chooses none.
  have hfilled : t.SlotsFilled := slotsFilled_of_fills hslots
    (fills_of_keeps (keeps_writeEvent env h) (by decide) (by decide))
  rcases writeEvent_cases env h with rfl | ⟨hf, rfl⟩ | ⟨st, htr, hws⟩
  · refine ⟨backed_of_touches hs.backed (touches_sslFatal [] _ _ s) List.not_mem_nil
      List.not_mem_nil, fun hgo => ?_⟩
    rw [(fatal_sslFatal _ _ s).2] at hgo
    exact absurd hgo Bool.false_ne_true
  · exact ⟨hs.backed, fun _ => ⟨placed_turned hplaced hf, hfilled⟩⟩
  · have hback : (entering s st).Backed := hs.backed
    rcases writeStep_cases env hws with ⟨hst, b, v, hfin, rfl⟩ | ⟨hst, b, v, hp, rfl⟩ |
      ⟨u, hc, rfl⟩ | ⟨-, m, src, u, b, v, hc, hp, rfl⟩
    · -- The handshake is over.
      have hv : v.Backed := backed_of_keeps hback (keeps_finishHandshake env hfin) (by decide)
        (by decide)
      cases b with
      | false => exact sound_checkFatal hv
      | true =>
          change st = .ok at hst
          subst hst
          exact ⟨hv, fun _ => ⟨placed_finished hplaced htr hfin, hfilled⟩⟩
    · -- The pause before the client's flight.
      have hv : v.Backed := backed_of_touches hback (touches_runOther _ _ b v hp) (by decide)
        (by decide)
      cases b with
      | false => exact sound_checkFatal hv
      | true =>
          change st = .earlyData at hst
          subst hst
          exact ⟨hv, fun _ => ⟨placed_early hplaced htr hp, hfilled⟩⟩
    · exact sound_checkFatal (backed_constructMessage hback hc)
    · -- A message was written.
      have hu : u.Backed := backed_constructMessage hback hc
      have hv : v.Backed := backed_of_touches (s := u.note (.sent m src)) hu
        (touches_runOther _ _ b v hp) (by decide) (by decide)
      cases b with
      | false => exact sound_checkFatal hv
      | true => exact ⟨hv, fun _ => ⟨placed_written hplaced hflow htr hc hp, hfilled⟩⟩

/-- The calls of the application leave a sound object. -/
theorem sound_configCall {c : ConfigCall} {s t : SSL ω} {b : Bool} (hs : Sound s)
    (h : configCall env c s = some (b, t)) : Sound t := by
  rcases touches_configCall env c s b t h with ⟨hu, hflow⟩
  have hu := touches_mono (configFields_subset c) hu
  refine ⟨backed_of_touches hs.backed hu (by decide) (by decide), fun hgo => ?_⟩
  rw [hflow] at hgo
  rcases hs.placed hgo with ⟨hplaced, hslots⟩
  exact ⟨placed_configured hplaced h,
    slotsFilled_of_fills hslots (fills_configCall env c s b t h)⟩

/-- The only step of a sound object that is undefined is the write of a client that lacks the
    certificate it is to show. -/
theorem step_none_iff (hhash : WholeHash env) (henv : OnlyTls13 env) {s : SSL ω} {ev : Event}
    (hs : Sound s) (hclean : s.clean ev = true) :
    step env s ev = none ↔ ev = .write ∧ s.statem.state = .writing ∧ BareClient env s := by
  have hmap : ∀ {r : Option (Bool × SSL ω)}, r ≠ none → r.map Prod.snd ≠ none := by
    intro r hr
    rw [Ne, Option.map_eq_none_iff]
    exact hr
  have hother : step env s ev ≠ none → (ev ≠ .write ∨ s.statem.state ≠ .writing) →
      (step env s ev = none ↔ ev = .write ∧ s.statem.state = .writing ∧ BareClient env s) :=
    fun hne hw => iff_of_false hne (fun h => hw.elim (absurd h.1) (absurd h.2.1))
  by_cases hwrite : ev = .write ∧ s.statem.state = .writing
  · rcases hwrite with ⟨rfl, hflow⟩
    rcases hs.placed (by rw [hflow]; rfl) with ⟨hplaced, hslots⟩
    have hstep : step env s .write = writeEvent env s := by simp only [step, hflow]
    rw [hstep, writeEvent_none_iff hplaced hslots]
    exact ⟨fun h => ⟨rfl, hflow, h⟩, fun h => h.2.2⟩
  · refine hother ?_ (not_and_or.mp hwrite)
    -- Every other event is defined, whether it applies or not.
    unfold step
    split
    · exact startEvent_ne_none env _ s
    · exact Option.some_ne_none _
    · rename_i m hflow
      rcases sound_readEvent hhash henv hs hflow hclean with ⟨t, ht, -⟩
      rw [ht]
      exact Option.some_ne_none _
    · rename_i hflow
      exact absurd ⟨rfl, hflow⟩ hwrite
    · exact hmap (total_sslClear env s)
    · exact Option.some_ne_none _
    · exact Option.some_ne_none _
    · exact hmap (total_configCall hhash _ s)
    · exact Option.some_ne_none _

/-- A step of a sound object leaves a sound object. -/
theorem sound_step (hhash : WholeHash env) (henv : OnlyTls13 env) {s t : SSL ω} {ev : Event}
    (hclean : s.clean ev = true) (hs : Sound s) (h : step env s ev = some t) : Sound t := by
  rcases step_cases env h with rfl | ⟨server, rfl, -, hstart⟩ | ⟨rfl, hflow, rfl⟩ |
    ⟨m, rfl, hflow, hr⟩ | ⟨rfl, hflow, hw⟩ | ⟨rfl, b, hc⟩ | ⟨c, rfl, -, -, b, hc⟩
  · exact hs
  · exact sound_startEvent henv hs.backed hstart
  · rcases hs.placed (by rw [hflow]; rfl) with ⟨hplaced, hslots⟩
    exact ⟨hs.backed, fun _ => ⟨placed_reentered hplaced hflow, hslots⟩⟩
  · rcases sound_readEvent hhash henv hs hflow hclean with ⟨t', ht', hsound⟩
    rw [← Option.some.inj (ht'.symm.trans hr)]
    exact hsound
  · exact sound_writeEvent hs hflow hw
  · refine ⟨backed_sslClear hs.backed hc, fun hgo => ?_⟩
    -- Clearing succeeds, and then nothing goes on.
    have hb := sslClear_true henv hc
    subst hb
    rw [statem_cleared env hc] at hgo
    exact absurd hgo Bool.false_ne_true
  · exact sound_configCall hs hc

/-- A new object is sound. -/
theorem sound_sslNew (mem : SspBuffer) (mode : BitVec 32) (cert : Cert) (o : ω) :
    Sound (sslNew mem mode cert o) :=
  ⟨Heap.backs_nil _, fun hgo => absurd hgo Bool.false_ne_true⟩

end Steps

/-- A run of a connection object that speaks TLS 1.3 only and reads no empty entry is
    undefined exactly if a client gets to write its Certificate for 1609.2 without having
    one; and whatever the session refers to at any point of it is live. -/
theorem run_undefined_iff (env : Env ω) (hhash : WholeHash env) (henv : OnlyTls13 env)
    (mem : SspBuffer) (mode : BitVec 32) (cert : Cert) (o : ω) {es : List Event}
    (hclean : Along (step env) (fun s ev => s.clean ev = true) (sslNew mem mode cert o) es) :
    (run (step env) (sslNew mem mode cert o) es = none ↔
      ∃ fs gs s, es = fs ++ .write :: gs ∧ run (step env) (sslNew mem mode cert o) fs = some s ∧
        s.statem.state = .writing ∧ BareClient env s) ∧
    ∀ fs gs s, es = fs ++ gs → run (step env) (sslNew mem mode cert o) fs = some s →
      ∀ a ∈ s.held, ∃ x, s.heap.read a = some x := by
  have hsound : ∀ {fs gs s}, es = fs ++ gs → run (step env) (sslNew mem mode cert o) fs = some s →
      Sound s ∧ Along (step env) (fun s ev => s.clean ev = true) s gs := by
    intro fs gs s hes hrun
    rw [hes] at hclean
    rcases along_append (step env) _ hclean hrun with ⟨hfs, hgs⟩
    exact ⟨run_invariant_along (step env) _ Sound
      (fun _ _ _ hev hs hst => sound_step hhash henv hev hs hst) fs _ s hfs
      (sound_sslNew mem mode cert o) hrun, hgs⟩
  constructor
  · rw [run_none_iff]
    constructor
    · rintro ⟨fs, ev, gs, s, hes, hrun, hnone⟩
      rcases hsound hes hrun with ⟨hs, hgs⟩
      rcases (step_none_iff hhash henv hs hgs.1).mp hnone with ⟨rfl, hflow, hbare⟩
      exact ⟨fs, gs, s, hes, hrun, hflow, hbare⟩
    · rintro ⟨fs, gs, s, hes, hrun, hflow, hbare⟩
      rcases hsound hes hrun with ⟨hs, hgs⟩
      exact ⟨fs, .write, gs, s, hes, hrun,
        (step_none_iff hhash henv hs hgs.1).mpr ⟨rfl, hflow, hbare⟩⟩
  · intro fs gs s hes hrun a ha
    exact Heap.read_of_backs (hsound hes hrun).1.backed ha

theorem wholeHash_plainEnv : WholeHash plainEnv :=
  fun _ _ _ h => absurd h (Option.some_ne_none _).symm

theorem onlyTls13_plainEnv : OnlyTls13 plainEnv where
  version _ _ _ _ _ _ _ h := (Prod.mk.inj (Except.ok.inj h)).1.symm
  renegotiate _ := rfl

/-- A client without a certificate, from which 1609.2 is wanted. -/
def bareClient : List Event :=
  askedClient [.enableRfc8902Support sslRfc8902X509 sslRfc89021609 false]
    [0, 51, 0, 0, 0, 20, 0, 1, 0, 0, 19, 0, 1, 3]

/-- The client holds the server's certificate up to its last step, which is undefined. -/
theorem run_undefined_bare :
    run (step plainEnv) newClient bareClient = none ∧
      ∃ s, run (step plainEnv) newClient bareClient.dropLast = some s ∧ s.held ≠ [] ∧
        ∀ a ∈ s.held, ∃ x, s.heap.read a = some x := by
  have hclean := along_of_check (step plainEnv) SSL.clean bareClient newClient (by decide +kernel)
  rcases run_undefined_iff plainEnv wholeHash_plainEnv onlyTls13_plainEnv SspBuffer.zero 0
    Cert.empty () hclean with ⟨hnone, hlive⟩
  have htest : (run (step plainEnv) newClient bareClient.dropLast).any (fun s =>
      s.statem.state = .writing && !s.server && writeTransition plainEnv s = .next .cwCert &&
        sslIsUsing1609ThisSide s && (s.cert.pkeys s.cert.key).x509 = none &&
        (Packet.putSub 1 s.phaContext).isSome && s.held ≠ []) = true := by decide +kernel
  rcases (Option.any_eq_true _ _).mp htest with ⟨s, hrun, hp⟩
  simp only [Bool.and_eq_true, Bool.not_eq_true', decide_eq_true_eq] at hp
  rcases hp with ⟨⟨⟨⟨⟨⟨hflow, hsv⟩, htr⟩, huse⟩, hkey⟩, hctx⟩, hheld⟩
  have hsplit : bareClient = bareClient.dropLast ++ [.write] := rfl
  exact ⟨hnone.mpr ⟨_, [], s, hsplit, hrun, hflow, hsv, htr, huse, hkey, hctx⟩, s, hrun, hheld,
    hlive _ _ s hsplit hrun⟩

end Iso21177
