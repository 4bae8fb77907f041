import Iso21177.Lib.Run
import Iso21177.Ssl.PeerBinding

/-!
# What Is Reported of a Peer

The identity handed out by `SSL_get_1609_psid_received` is kept in the record of the
connection object, and it is written in one place only: where a VERIFY_DATA reply is
accepted. Each step therefore either leaves it or takes it from a reply of that step
(`Learned`), and as long as the object is not cleared the reply is among the exchanges
of the current connection.

Two things break this. Clearing the object does not reset the identity, so it outlives
the connection it belongs to (`report_outlives_clear`). And permissions that fill the
buffer to its last octet are counted but not copied, so what is handed out is what the
buffer held before. Without these two a report always comes from the current
connection (`report_from_current_connection`).

## Main definitions

* `sinceClear`: The part of the record after the last clearing.
* `peerIdOf`: The identity a reply stands for.
* `VerifiedData`: An accepted VERIFY_DATA exchange.
* `Learned`: The identity is kept, or comes from a new reply.
* `Identified`: The invariant.
* `clearsUnidentified`: The object is cleared only without an identity.

## Theorems

* `verifiedData_mono`, `sinceClear_append`: A longer record.
* `learned_refl`, `learned_trans`, `learned_same`, `learned_note`,
  `learned_of_touches`, `learned_checkFatal`, `learned_ite_checkFatal`, `learned_seq`,
  `learned_rel`: How it composes.
* `learned_tlsProcessIeee1609CertCertVerify`, `learned_process1609CertVerify`,
  `learned_tlsProcessCertVerify`, `learned_processMessage`, `learned_readEvent`,
  `learned_writeStep`, `learned_writeEvent`, `learned_step`: What each part learns.
* `identified_of_learned`, `identified_step`, `identified_run`: The invariant.
* `load_peerIdOf`: What is handed out.
* `report_from_current_connection`: A report belongs to the current connection.
* `identifiedFlight`, `report_of_first_handshake`: A report of a first handshake.
* `report_outlives_clear`: Not so after a clearing.
-/

namespace Iso21177

variable {ω : Type}

/-- The record since the object was last cleared. -/
def sinceClear (tr : List Obs) : List Obs := tr.takeWhile (fun o => o ≠ .clear)

/-- The identity a reply stands for, in a buffer that held `b`. -/
def peerIdOf (data : Bytes) (b : SspBuffer) : UInt64 × Nat × SspBuffer :=
  (UInt64.ofNat (Packet.beVal (data.take 8)), (data.drop 8).length,
    if 0 < (data.drop 8).length ∧ (data.drop 8).length < maxSspLen then b.store (data.drop 8)
    else b)

/-- The record has an accepted VERIFY_DATA exchange with this reply. -/
def VerifiedData (tr : List Obs) (m : SecEntMsg) : Prop :=
  m.msgType = secEntMsgTypeTlsVerifyData ∧
    ∃ hashedid verifyData verifyInput,
      .exchange (secEntMsgNewTypeTlsVerifyData hashedid verifyData verifyInput) (some m) ∈ tr

/-- The record gained entries other than a clearing, and the identity is what it was
    or comes from a VERIFY_DATA exchange among them. -/
def Learned (s t : SSL ω) : Prop :=
  ∃ l, t.trace = l ++ s.trace ∧ .clear ∉ l ∧
    (t.peerId = s.peerId ∨
      ∃ m b, VerifiedData l m ∧ m.data.length ≤ 8 + maxSspLen ∧ t.peerId = peerIdOf m.data b)

/-- The identity, if there is one, is that of a VERIFY_DATA exchange since the last
    clearing. -/
def Identified (s : SSL ω) : Prop :=
  s.ieee1609.psidOtherSide = 0 ∨
    ∃ m b, VerifiedData (sinceClear s.trace) m ∧ m.data.length ≤ 8 + maxSspLen ∧
      s.peerId = peerIdOf m.data b

/-- What the entity has confirmed stays confirmed in a longer record. -/
theorem verifiedData_mono {tr tr' : List Obs} {m : SecEntMsg} (hsub : tr ⊆ tr')
    (h : VerifiedData tr m) : VerifiedData tr' m := by
  rcases h with ⟨htype, hid, vd, vi, hmem⟩
  exact ⟨htype, hid, vd, vi, hsub hmem⟩

/-- What is added to a record without a clear belongs to the current connection. -/
theorem sinceClear_append {l tr : List Obs} (h : .clear ∉ l) :
    sinceClear (l ++ tr) = l ++ sinceClear tr := by
  unfold sinceClear
  rw [List.takeWhile_append_of_pos]
  intro o ho
  simp only [ne_eq, decide_not, Bool.not_eq_true', decide_eq_false_iff_not]
  exact fun hc => h (hc ▸ ho)

/-- Neither the record nor the report has changed. -/
theorem learned_same {s t : SSL ω} (htr : t.trace = s.trace) (hid : t.peerId = s.peerId) :
    Learned s t :=
  ⟨[], htr, List.not_mem_nil, Or.inl hid⟩

theorem learned_refl (s : SSL ω) : Learned s s := learned_same rfl rfl

/-- A report of either call is backed by the record after both. -/
theorem learned_trans {s t u : SSL ω} (hst : Learned s t) (htu : Learned t u) : Learned s u := by
  rcases hst with ⟨l, hl, hnl, hid⟩
  rcases htu with ⟨l', hl', hnl', hid'⟩
  refine ⟨l' ++ l, by rw [hl', hl, List.append_assoc], ?_, ?_⟩
  · intro hmem
    exact (List.mem_append.mp hmem).elim hnl' hnl
  · rcases hid' with hid' | ⟨m, b, hm, hlen, hid'⟩
    · rw [hid']
      rcases hid with hid | ⟨m, b, hm, hlen, hid⟩
      · exact Or.inl hid
      · exact Or.inr ⟨m, b, verifiedData_mono (List.subset_append_right _ _) hm, hlen, hid⟩
    · exact Or.inr ⟨m, b, verifiedData_mono (List.subset_append_left _ _) hm, hlen, hid'⟩

/-- An entry that is no clear. -/
theorem learned_note (s : SSL ω) {o : Obs} (ho : o ≠ .clear) : Learned s (s.note o) :=
  ⟨[o], rfl, fun hmem => ho (List.mem_singleton.mp hmem).symm, Or.inl rfl⟩

/-- A call that leaves the identity alone learns nothing. -/
theorem learned_of_touches {fs : List Field} {s t : SSL ω} {b : Bool} (h : Touches fs s b t)
    (hfs : .peerId ∉ fs) : Learned s t := by
  rcases h.grows with ⟨l, hl, hx⟩
  refine ⟨l, hl, fun hmem => ?_, Or.inl (h.peerId hfs)⟩
  exact absurd (hx _ hmem) (by simp only [Obs.isExchange, Bool.false_eq_true, not_false_eq_true])

theorem learned_checkFatal (s : SSL ω) : Learned s (checkFatal s) :=
  learned_of_touches (touches_sslFatal [] _ _ s) (by decide)

/-- A call after which a failure is noted. -/
theorem learned_ite_checkFatal {s v : SSL ω} {b : Bool} (h : Learned s v) :
    Learned s (if b then v else checkFatal v) := by
  split
  · exact h
  · exact learned_trans h (learned_checkFatal v)

section

variable (env : Env ω)

/-- The report is taken from the reply that confirmed the signature. -/
theorem learned_tlsProcessIeee1609CertCertVerify {cert : Option Ieee1609Cert}
    {verifyInput verifyData : Bytes} {s t : SSL ω} {b : Bool}
    (h : tlsProcessIeee1609CertCertVerify env cert verifyInput verifyData s = some (b, t)) :
    Learned s t := by
  cases b with
  | true =>
      rcases tlsProcessIeee1609CertCertVerify_true h with ⟨c, m, -, htype, -, hlen, rfl⟩
      refine ⟨[.exchange (secEntMsgNewTypeTlsVerifyData c.hashedid8 verifyData verifyInput)
        (some m)], rfl, fun hmem => ?_, Or.inr ⟨m, s.ieee1609.sspOtherSide, ?_, hlen, rfl⟩⟩
      · exact absurd (List.mem_singleton.mp hmem) Obs.noConfusion
      · exact ⟨htype, _, _, _, List.mem_singleton.mpr rfl⟩
  | false =>
      -- A refused signature leaves the identity.
      cases cert with
      | none => exact learned_of_touches (touches_sslFail [] _ _ s false t h) (by decide)
      | some c =>
          have hfail : ∀ r al reason, sslFail al reason (s.note (.exchange
              (secEntMsgNewTypeTlsVerifyData c.hashedid8 verifyData verifyInput) r)) =
              some (false, t) → Learned s t :=
            fun r al reason hf => learned_trans (learned_note s Obs.noConfusion)
              (learned_of_touches (touches_sslFail [] al reason _ false t hf) (by decide))
          simp only [tlsProcessIeee1609CertCertVerify] at h
          split at h
          · rename_i hp
            rw [secEntProcess_eq hp] at h
            exact hfail _ _ _ h
          · rename_i hp
            rw [secEntProcess_eq hp] at h
            exact hfail _ _ _ h
          · rename_i m s' hp
            rw [secEntProcess_eq hp] at h
            split at h
            · exact hfail _ _ _ h
            · split at h
              · exact hfail _ _ _ h
              · exact absurd h (by simp only [Option.some.injEq, Prod.mk.injEq,
                  Bool.true_eq_false, false_and, not_false_eq_true])

theorem learned_process1609CertVerify {a : Nat} {body : Bytes} {s t : SSL ω} {b : Bool}
    (h : process1609CertVerify env a body s = some (b, t)) : Learned s t := by
  unfold process1609CertVerify at h
  split at h
  · exact absurd h (by simp only [reduceCtorEq, not_false_eq_true])
  · split at h
    · exact learned_of_touches (touches_sslFail [] _ _ s b t h) (by decide)
    · split at h
      · exact absurd h (by simp only [reduceCtorEq, not_false_eq_true])
      · rename_i s' hv
        rcases ieee1609CertVerify_note hv with ⟨reply, rfl⟩
        exact learned_trans (learned_note s Obs.noConfusion)
          (learned_of_touches (touches_sslFail [] _ _ _ b t h) (by decide))
      · rename_i c' s' hv
        -- Checking the certificate again teaches nothing of the identity; the signature
        -- does.
        rcases ieee1609CertVerify_note hv with ⟨reply, hs'⟩
        have hnote : Learned s s' := by
          rw [hs']
          exact learned_note s Obs.noConfusion
        refine learned_trans hnote ?_
        simp only at h
        split at h
        · rename_i u hg
          rw [← (Prod.mk.inj (Option.some.inj h)).2]
          refine learned_trans ?_
            (learned_of_touches (touches_getCertVerifyTbsData env hg) (by decide))
          exact learned_same rfl rfl
        · rename_i tbs u hg
          refine learned_trans ?_ (learned_trans
            (learned_of_touches (touches_getCertVerifyTbsData env hg) (by decide))
            (learned_tlsProcessIeee1609CertCertVerify env h))
          exact learned_same rfl rfl

/-- Calls made one after the other learn what either of them does. -/
theorem learned_seq {c d : Call (SSL ω)} (hc : Call.Rel (fun s _ t => Learned s t) c)
    (hd : Call.Rel (fun s _ t => Learned s t) d) :
    Call.Rel (fun s _ t => Learned s t) (Call.seq c d) :=
  Call.rel_seq (R := fun s _ t => Learned s t) (fun _ _ _ _ hst htu => learned_trans hst htu) hc hd

/-- A call that leaves the report alone. -/
theorem learned_rel {fs : List Field} {c : Call (SSL ω)} (hc : Call.Rel (Touches fs) c)
    (hfs : .peerId ∉ fs) : Call.Rel (fun s _ t => Learned s t) c :=
  fun s b t h => learned_of_touches (hc s b t h) hfs

theorem learned_tlsProcessCertVerify (body : Bytes) :
    Call.Rel (fun s _ t => Learned s t) (tlsProcessCertVerify env body) := by
  refine learned_seq (fun s b t h => ?_) (learned_rel (touches_runOther _) (by decide))
  beta_reduce at h
  split at h
  · exact absurd h (by simp only [reduceCtorEq, not_false_eq_true])
  · split at h
    · split at h
      · exact absurd h (by simp only [reduceCtorEq, not_false_eq_true])
      · exact learned_process1609CertVerify env h
    · split at h
      · exact learned_of_touches (touches_processX509CertVerify env _ _ s b t h) (by decide)
      · split at h
        · exact absurd h (by simp only [reduceCtorEq, not_false_eq_true])
        · exact learned_of_touches (touches_processX509CertVerify env _ _ s b t h) (by decide)

/-- Only a CertificateVerify tells of the peer. -/
theorem learned_processMessage (m : Msg) :
    Call.Rel (fun s _ t => Learned s t) (processMessage env m) := by
  intro s b t h
  by_cases hm : m.mt = .certificateVerify
  · unfold processMessage at h
    split at h
    · unfold serverProcessMessage at h
      split at h
      case h_3 => exact learned_tlsProcessCertVerify env _ s b t h
      all_goals first
        | exact absurd hm MsgType.noConfusion
        | exact learned_of_touches (touches_runOther _ s b t h) (by decide)
        | exact learned_of_touches (touches_sslFail [] _ _ s b t h) (by decide)
    · unfold clientProcessMessage at h
      split at h
      case h_5 =>
        exact learned_seq (learned_tlsProcessCertVerify env _)
          (learned_rel (touches_prepareIfAsked env) (by decide)) s b t h
      all_goals first
        | exact absurd hm MsgType.noConfusion
        | exact learned_of_touches (touches_runOther _ s b t h) (by decide)
        | exact learned_of_touches (touches_sslFail [] _ _ s b t h) (by decide)
  · refine learned_of_touches (touches_processMessage env m s b t h) ?_
    revert hm
    cases m.mt <;> decide

/-- A message that is read. Only a CertificateVerify may tell who the peer is. -/
theorem learned_readEvent {m : Msg} {s t : SSL ω} (h : readEvent env m s = some t) :
    Learned s t := by
  rcases readEvent_cases env h with ⟨u, hu, rfl⟩ | ⟨st, u, b, v, -, hu, -, hp, rfl⟩
  · exact learned_trans (learned_of_touches hu (by decide)) (learned_checkFatal u)
  · have hv : Learned s v := learned_trans (learned_of_touches hu (by decide))
      (learned_trans (learned_trans (t := u.enter st) (learned_same rfl rfl)
        (learned_note _ Obs.noConfusion)) (learned_processMessage env m _ b v hp))
    cases b with
    | false => exact learned_trans hv (learned_checkFatal v)
    | true =>
        refine learned_trans hv ?_
        rw [if_pos rfl]
        split
        · exact learned_same rfl rfl
        · exact learned_refl v

theorem learned_writeStep {s t : SSL ω} (h : writeStep env s = some t) : Learned s t := by
  rcases writeStep_cases env h with ⟨-, b, v, hf, rfl⟩ | ⟨-, b, v, hp, rfl⟩ | ⟨u, hc, rfl⟩ |
    ⟨-, m, src, u, b, v, hc, hp, rfl⟩
  · have hk := keeps_finishHandshake env hf
    exact learned_ite_checkFatal (learned_same (hk.trace (by decide)) (hk.peerId (by decide)))
  · exact learned_ite_checkFatal (learned_of_touches (touches_runOther _ s b v hp) (by decide))
  · exact learned_trans (learned_of_touches (touches_constructMessage env hc) (by decide))
      (learned_checkFatal u)
  · refine learned_ite_checkFatal (learned_trans
      (learned_of_touches (touches_constructMessage env hc) (by decide)) ?_)
    exact learned_trans (learned_note u Obs.noConfusion)
      (learned_of_touches (touches_runOther _ _ b v hp) (by decide))

theorem learned_writeEvent {s t : SSL ω} (h : writeEvent env s = some t) : Learned s t := by
  rcases writeEvent_cases env h with rfl | ⟨-, rfl⟩ | ⟨st, -, hw⟩
  · exact learned_of_touches (touches_sslFatal [] _ _ s) (by decide)
  · exact learned_same rfl rfl
  · refine learned_trans ?_ (learned_writeStep env hw)
    exact learned_same rfl rfl

/-- A step that does not clear the object learns from its own exchanges. -/
theorem learned_step {s t : SSL ω} {ev : Event} (h : step env s ev = some t) :
    Learned s t ∨ t.peerId = s.peerId ∧ (ev = .clear ∨ ∃ server, ev = .start server) := by
  have hk := keeps_step env h
  rcases step_cases env h with rfl | ⟨server, rfl, -, -⟩ | ⟨rfl, -, rfl⟩ | ⟨m, rfl, -, hr⟩ |
    ⟨rfl, -, hw⟩ | ⟨rfl, -⟩ | ⟨c, rfl, -, -, b, hc⟩
  · exact Or.inl (learned_refl t)
  · exact Or.inr ⟨hk.peerId (by simp only [stepFields]; decide), Or.inr ⟨server, rfl⟩⟩
  · exact Or.inl (learned_same rfl rfl)
  · exact Or.inl (learned_readEvent env hr)
  · exact Or.inl (learned_writeEvent env hw)
  · exact Or.inr ⟨hk.peerId (by simp only [stepFields]; decide), Or.inl rfl⟩
  · refine Or.inl (learned_of_touches (touches_configCall env c s b t hc).1 ?_)
    cases c <;> (simp only [configFields]; decide)

/-- The object is cleared, by itself or as a handshake starts, only while it has no
    identity of a peer. -/
def clearsUnidentified (s : SSL ω) : Event → Bool
  | .clear | .start _ => s.ieee1609.psidOtherSide = 0
  | _ => true

/-- The invariant goes through a call that learns from the entity only. -/
theorem identified_of_learned {s t : SSL ω} (hs : Identified s) (h : Learned s t) :
    Identified t := by
  rcases h with ⟨l, hl, hnl, hid⟩
  have hsince : sinceClear t.trace = l ++ sinceClear s.trace := by
    rw [hl, sinceClear_append hnl]
  rcases hid with hid | ⟨m, b, hm, hlen, hid⟩
  · rcases hs with hz | ⟨m, b, hm, hlen, hs⟩
    · left
      have hp := congrArg Prod.fst hid
      exact hp.trans hz
    · right
      refine ⟨m, b, ?_, hlen, hid.trans hs⟩
      rw [hsince]
      exact verifiedData_mono (List.subset_append_right _ _) hm
  · right
    refine ⟨m, b, ?_, hlen, hid⟩
    rw [hsince]
    exact verifiedData_mono (List.subset_append_left _ _) hm

/-- Clearing an object that has no report yet, and every other step. -/
theorem identified_step {s t : SSL ω} {ev : Event} (hev : clearsUnidentified s ev = true)
    (hs : Identified s) (h : step env s ev = some t) : Identified t := by
  rcases learned_step env h with hl | ⟨hid, hclear⟩
  · exact identified_of_learned hs hl
  · left
    have hz : s.ieee1609.psidOtherSide = 0 := by
      rcases hclear with rfl | ⟨server, rfl⟩
      · exact of_decide_eq_true hev
      · exact of_decide_eq_true hev
    exact (congrArg Prod.fst hid).trans hz

/-- In a run that never clears an object with an identity, the invariant holds throughout. -/
theorem identified_run {s0 s : SSL ω} {es : List Event} (h0 : s0.ieee1609.psidOtherSide = 0)
    (hes : Along (step env) (fun s ev => clearsUnidentified s ev = true) s0 es)
    (h : run (step env) s0 es = some s) : Identified s :=
  run_invariant_along (step env) _ Identified
    (fun _ _ _ hok hs hst => identified_step env hok hs hst) es s0 s hes (Or.inl h0) h

/-- What the buffer hands out is what the reply said, unless the permissions fill it to
    its last octet. -/
theorem load_peerIdOf {data : Bytes} {b : SspBuffer} (hlen : data.length ≤ 8 + maxSspLen)
    (hfull : data.length ≠ 8 + maxSspLen) :
    (peerIdOf data b).2.2.load (peerIdOf data b).2.1 = data.drop 8 := by
  simp only [peerIdOf]
  have hd : (data.drop 8).length = data.length - 8 := List.length_drop ..
  split
  · exact SspBuffer.load_store b _ (by omega)
  · rename_i hn
    have hz : data.drop 8 = [] := List.length_eq_zero_iff.mp (by omega)
    rw [hz]
    rfl

/-- Along a run that clears the object only while it has no identity of a peer, and in
    which no reply fills the permission buffer to its last octet, what is reported of
    the peer is what a VERIFY_DATA reply said after the last clearing. -/
theorem report_from_current_connection {s0 s : SSL ω} {es : List Event} {sspSet wantHash : Bool}
    {rep : PeerReport} (h0 : s0.ieee1609.psidOtherSide = 0)
    (hes : Along (step env) (fun s ev => clearsUnidentified s ev = true) s0 es)
    (hrun : run (step env) s0 es = some s)
    (hfull : ∀ m, VerifiedData (sinceClear s.trace) m → m.data.length ≠ 8 + maxSspLen)
    (h : sslGet1609PsidReceived s sspSet wantHash = some (some rep)) :
    ∃ m, VerifiedData (sinceClear s.trace) m ∧
      rep.psid = UInt64.ofNat (Packet.beVal (m.data.take 8)) ∧ rep.ssp = m.data.drop 8 := by
  rcases sslGet1609PsidReceived_some h with ⟨hnz, hash, rfl⟩
  rcases identified_run env h0 hes hrun with hz | ⟨m, b, hm, hlen, hid⟩
  · exact absurd hz hnz
  · have hload := load_peerIdOf (b := b) hlen (hfull m hm)
    rw [← hid] at hload
    exact ⟨m, hm, congrArg Prod.fst hid, hload⟩

end

/-- A client's first handshake, up to the accepted signature. -/
def identifiedFlight : List Event :=
  clientFlight [0, 0, 0, 6, 0, 0, 1, 7, 0, 0] ++ [.read (.certificateVerify [9])]

/-- The report of a first handshake. -/
theorem report_of_first_handshake :
    ∃ s rep m, run (step verifyingEnv) newClient identifiedFlight = some s ∧
      sslGet1609PsidReceived s false true = some (some rep) ∧
      VerifiedData (sinceClear s.trace) m ∧
      rep.psid = UInt64.ofNat (Packet.beVal (m.data.take 8)) ∧ rep.ssp = m.data.drop 8 := by
  have hrun : (run (step verifyingEnv) newClient identifiedFlight).any (fun s =>
      (sslGet1609PsidReceived s false true).any Option.isSome &&
        s.trace.all (fun o => o.reply.all (fun m => m.data.length ≠ 8 + maxSspLen))) = true := by
    decide +kernel
  rcases (Option.any_eq_true _ _).mp hrun with ⟨s, hs, hp⟩
  rw [Bool.and_eq_true] at hp
  rcases (Option.any_eq_true _ _).mp hp.1 with ⟨r, hr, hsome⟩
  rcases Option.isSome_iff_exists.mp hsome with ⟨rep, rfl⟩
  have hfull : ∀ m, VerifiedData (sinceClear s.trace) m → m.data.length ≠ 8 + maxSspLen := by
    rintro m ⟨-, hid, vd, vi, hmem⟩
    exact of_decide_eq_true (List.all_eq_true.mp hp.2 _ (List.takeWhile_subset _ hmem))
  obtain ⟨m, hm⟩ := report_from_current_connection verifyingEnv rfl
    (along_of_check _ _ _ _ (by decide +kernel)) hs hfull hr
  exact ⟨s, rep, m, hs, hr, hm⟩

/-- A handshake with a 1609.2 peer, then `SSL_clear`: the peer is still reported. -/
theorem report_outlives_clear :
    ¬ ∀ (s0 s : SSL Unit) (es : List Event) (sspSet wantHash : Bool) (rep : PeerReport),
      s0.ieee1609.psidOtherSide = 0 → run (step verifyingEnv) s0 es = some s →
      sslGet1609PsidReceived s sspSet wantHash = some (some rep) →
      ∃ m, VerifiedData (sinceClear s.trace) m ∧
        rep.psid = UInt64.ofNat (Packet.beVal (m.data.take 8)) ∧ rep.ssp = m.data.drop 8 := by
  intro h
  have hrun : (run (step verifyingEnv) newClient (identifiedFlight ++ [.clear])).any (fun s =>
      (sslGet1609PsidReceived s false false).any Option.isSome && sinceClear s.trace = []) =
        true := by decide +kernel
  rcases (Option.any_eq_true _ _).mp hrun with ⟨s, hs, hp⟩
  rw [Bool.and_eq_true] at hp
  rcases (Option.any_eq_true _ _).mp hp.1 with ⟨r, hr, hsome⟩
  rcases Option.isSome_iff_exists.mp hsome with ⟨rep, rfl⟩
  rcases h newClient s _ false false rep rfl hs hr with ⟨m, ⟨-, hid, vd, vi, hmem⟩, -⟩
  rw [of_decide_eq_true hp.2] at hmem
  exact absurd hmem List.not_mem_nil

end Iso21177
