import Iso21177.Client.Gate
import Iso21177.Client.Grant
import Iso21177.Ssl.Armed
import Iso21177.Ssl.World

/-!
# A Request and Its Connection

`http_get` makes a connection object of its own, sets it up, connects, and asks it who the peer
is. Elsewhere the results of these calls are given; here they are those of the connection
object, for any messages from the server.

No request goes wrong before it is sent: the handshake is defined to its end, the report can be
had, and a peer that is reported counts as verified, so that its permissions are not freed
twice. And what is written goes to a server that has proved itself in this very handshake: the
PSID and the permissions that were checked come from the confirmation of its signature, over
this transcript and for the certificate it sent, and this certificate's hash is the one that is
shown afterwards (`request_proved`).

## Main definitions

* `clientVerifyMode`, `newConnection`, `sslSet1609SecEntAddr`, `sslSetRfc8902ValuesOn`,
  `setUpConnection`: The connection object as it is set up.
* `Answers`: Results of the calls that look at the connection.
* `Results.peer`: What is shown of the peer.
* `servedFlight`: A handshake with a server that uses 1609.2.

## Theorems

* `touches_sslSetRfc8902ValuesOn`, `touches_setUpConnection`, `armed_sslSetRfc8902ValuesOn`,
  `armed_setUpConnection`, `listening_startEvent`: The object when the handshake starts.
* `peer_receive`, `peer_sslPrint1609Status`, `peer_httpGet`: What is shown of the peer.
* `sslConnect_of_setupError`, `sslPrint1609Status_ne_none`, `status_of_undefined`: What can go
  wrong before something is sent.
* `wholeHash_keyedEnv`, `onlyTls13_keyedEnv`, `noCallbacks_keyedEnv`: An environment as assumed.
* `request_proved`, `request_proved_ticket`: A request over a connection.
-/

namespace Iso21177

open Packet

variable {ω : Type}

/-- `SSL_VERIFY_PEER | SSL_VERIFY_FAIL_IF_NO_PEER_CERT`. -/
def clientVerifyMode : BitVec 32 := sslVerifyPeer ||| sslVerifyFailIfNoPeerCert

/-- The object that `SSL_new` makes from the context of `http_get`. -/
def newConnection (mem : SspBuffer) (other : ω) : SSL ω :=
  sslNew mem clientVerifyMode Cert.empty other

/-- `ssl_set_RFC8902_values` on an object, with the masks that `http_get` passes. -/
def sslSetRfc8902ValuesOn (env : Env ω) (o : Options) (optAtOrEcCertHash : Bytes) :
    Call (SSL ω) :=
  Call.seq (sslEnableRfc8902Support env sslRfc89021609 sslRfc89021609 o.optUseAtCert)
    (Call.seq
      (fun s => if !o.optUseAtCert then sslUse1609CertByHash env optAtOrEcCertHash s
        else some (true, s))
      (fun s => if o.optSetCertPsid then sslUse1609Psid o.optPsid s else some (true, s)))

/-- `SSL_set_1609_sec_ent_addr`. The security entity at the address is that of the
    environment. -/
def sslSet1609SecEntAddr (env : Env ω) : Call (SSL ω) := secEntInitialConnection env false

/-- What `http_get` calls on the object before it connects. -/
def setUpConnection (env : Env ω) (o : Options) (optAtOrEcCertHash : Bytes) : Call (SSL ω) :=
  Call.seq (sslSet1609SecEntAddr env) (sslSetRfc8902ValuesOn env o optAtOrEcCertHash)

/-- The calls that look at the connection return what the object says. -/
structure Answers (c : Calls) (s : SSL ω) : Prop where
  sslConnect : c.sslConnect = true → s.statem.state = .finished
  psidReceived : c.psidReceived = sslGet1609PsidReceived s false true
  verifyResult : c.verifyResult = s.verifyResult

/-- What is shown of the peer: the hash of its certificate, its PSID and its permissions. -/
def Results.peer (r : Results) : Bytes × UInt64 × Bytes :=
  (r.peerCertHash, r.peerCertPsid, r.peerCertSsp)

section Setup

variable (env : Env ω)

theorem touches_sslSetRfc8902ValuesOn (o : Options) (hash : Bytes) :
    Updates [.support, .cert, .psidThis, .trace] (sslSetRfc8902ValuesOn env o hash) := by
  have hkeep : ∀ {s u : SSL ω} {b : Bool}, some (true, s) = some (b, u) →
      Touches [.support, .cert, .psidThis, .trace] s true u := by
    intro s u b h
    rw [← (Prod.mk.inj (Option.some.inj h)).2]
    exact touches_refl _ s true
  refine updates_seq (fun s b t h => touches_mono (by decide)
    (updates_sslEnableRfc8902Support env _ _ _ s b t h)) (updates_seq (fun s b t h => ?_)
      (fun s b t h => ?_))
  · beta_reduce at h
    split at h
    · exact touches_mono (by decide) (updates_sslUse1609CertByHash env hash s b t h)
    · exact hkeep h
  · beta_reduce at h
    split at h
    · exact touches_mono (by decide) (updates_certCall env (.use1609Psid o.optPsid) s b t h)
    · exact hkeep h

theorem touches_setUpConnection (o : Options) (hash : Bytes) :
    Updates [.support, .cert, .psidThis, .trace] (setUpConnection env o hash) :=
  updates_seq
    (fun s b t h => touches_mono (by decide) (updates_secEntInitialConnection env false s b t h))
    (touches_sslSetRfc8902ValuesOn env o hash)

/-- An object that was set up has a certificate, the current ticket or one of its own. -/
theorem armed_sslSetRfc8902ValuesOn {o : Options} {hash : Bytes} {s t : SSL ω}
    (h : sslSetRfc8902ValuesOn env o hash s = some (true, t)) : t.Armed := by
  rcases Call.seq_true.mp h with ⟨u, hu, h⟩
  rcases Call.seq_true.mp h with ⟨v, hv, hw⟩
  have harm : v.Armed := by
    cases huse : o.optUseAtCert with
    | true =>
        simp only [huse, Bool.not_true, Bool.false_eq_true, if_false, Option.some.injEq,
          Prod.mk.injEq, true_and] at hu hv
        rw [← hv]
        exact armed_sslEnableRfc8902Support (by decide) hu
    | false =>
        simp only [huse, Bool.not_false, if_true] at hv
        exact armed_sslUse1609CertByHash hv
  split at hw
  · rw [← (Prod.mk.inj (Option.some.inj hw)).2]
    exact harm
  · rw [← (Prod.mk.inj (Option.some.inj hw)).2]
    exact harm

theorem armed_setUpConnection {o : Options} {hash : Bytes} {s t : SSL ω}
    (h : setUpConnection env o hash s = some (true, t)) : t.Armed := by
  rcases Call.seq_true.mp h with ⟨u, -, hset⟩
  exact armed_sslSetRfc8902ValuesOn env hset

variable {env}

/-- A client starts without an identity. -/
theorem listening_startEvent (henv : OnlyTls13 env) {s t : SSL ω}
    (hid : s.ieee1609.psidOtherSide = 0) (hres : s.verifyResult = 0)
    (h : startEvent env false s = some t) : Listening t ∧ t.statem.state ≠ .reading := by
  have hk := keeps_startEvent env h
  rcases startEvent_cases env h with hc | ⟨u, b, v, hc, hp, ht⟩
  · exact absurd (sslClear_true henv hc) Bool.false_ne_true
  · have hpt := touches_runOther _ _ b v hp
    have hside : v.server = false := hpt.server (by decide)
    have hst : v.statem.handState = .before :=
      hpt.handState.trans (congrArg Statem.handState (statem_cleared env hc))
    refine ⟨⟨?_, (congrArg Prod.fst (hk.peerId (by decide))).trans hid, fun hne => ?_,
      fun hok => ?_⟩, ?_⟩
    · rw [ht]
      split <;> exact hside
    · exact absurd ((hk.verifyResult (by decide)).trans hres) hne
    · rw [ht] at hok
      split at hok <;> exact absurd (hst.symm.trans hok) HandState.noConfusion
    · rw [ht]
      cases b with
      | true => exact MsgFlow.noConfusion
      | false =>
          rw [if_neg Bool.false_ne_true, (reports_runOther _ _ v hp).2]
          exact MsgFlow.noConfusion

end Setup

section Shown

/-- Reading the reply leaves what is shown of the peer. -/
theorem peer_receive (c : Calls) (r : Results) : (receive c r).2.peer = r.peer := by
  have hawait : ∀ (past rest : List ReadResult) (r : Results),
      (awaitShutdown c past rest r).2.peer = r.peer := by
    intro past rest r
    unfold awaitShutdown
    split
    · rfl
    · split <;> rfl
  unfold receive
  split
  · rfl
  · rfl
  · unfold receiveBody
    split
    · rfl
    · simp only
      split
      · rfl
      · split
        · rfl
        · split
          · exact hawait _ _ _
          · rfl

/-- After the check it is what was reported. -/
theorem peer_sslPrint1609Status {o : Options} {beyond : Nat → UInt8} {rep : PeerReport}
    {verifyResult : Int} {chain : Bool × List CertInfo} {r r' : Results}
    (h : sslPrint1609Status o beyond (some (some rep)) verifyResult chain r = some (true, r')) :
    r'.peer = (printHexArray (rep.hashedid.getD []), rep.psid, printHexArray rep.ssp) := by
  have hfalse : ∀ {q : Results}, some (false, q) ≠ some (true, r') := by
    intro q hq
    exact Bool.false_ne_true (Prod.mk.inj (Option.some.inj hq)).1
  simp only [sslPrint1609Status] at h
  split at h
  · split at h
    · exact absurd h hfalse
    · exact absurd h (by simp only [reduceCtorEq, not_false_eq_true])
  · repeat' split at h
    all_goals first
      | exact absurd h hfalse
      | (rw [← (Prod.mk.inj (Option.some.inj h)).2]; rfl)

/-- So it is at the end of a request. -/
theorem peer_httpGet {o : Options} {beyond : Nat → UInt8} {fileUrl : Bytes} {c : Calls}
    {r r' : Results} (hsetup : setupError o c = none)
    (hstatus : sslPrint1609Status o beyond c.psidReceived c.verifyResult c.certChain
      { r with httpResponse := [] } = some (true, r')) :
    (httpGet o beyond fileUrl c r).results.peer = r'.peer := by
  simp only [httpGet, hsetup, hstatus]
  split
  · rfl
  · rfl
  · split
    · simp only
      split <;> rfl
    · exact peer_receive c r'

end Shown

/-- The check of a report that can be had, of a peer that counts as verified, is defined. -/
theorem sslPrint1609Status_ne_none {o : Options} {beyond : Nat → UInt8}
    {received : Option (Option PeerReport)} {verifyResult : Int} (hdef : received ≠ none)
    (hres : ∀ rep, received = some (some rep) → verifyResult = 0) (chain : Bool × List CertInfo)
    (r : Results) : sslPrint1609Status o beyond received verifyResult chain r ≠ none := by
  unfold sslPrint1609Status
  split
  · exact absurd rfl hdef
  · exact Option.some_ne_none _
  · rename_i rep
    rw [if_neg (fun hne => hne (hres rep rfl))]
    simp only
    repeat' split
    all_goals exact Option.some_ne_none _

/-- If the check is defined, nothing else goes wrong before something is sent. -/
theorem status_of_undefined {o : Options} {beyond : Nat → UInt8} {fileUrl : Bytes} {c : Calls}
    {r : Results}
    (hcheck : setupError o c = none → sslPrint1609Status o beyond c.psidReceived c.verifyResult
      c.certChain { r with httpResponse := [] } ≠ none)
    (h : (httpGet o beyond fileUrl c r).outcome = .undefined) :
    .status true ∈ (httpGet o beyond fileUrl c r).events := by
  cases hsetup : setupError o c with
  | some code => simp only [httpGet, hsetup, reduceCtorEq] at h
  | none =>
      rcases Option.ne_none_iff_exists'.mp (hcheck hsetup) with ⟨⟨b, r'⟩, hstatus⟩
      cases b with
      | false => simp only [httpGet, hsetup, hstatus, reduceCtorEq] at h
      | true =>
          rw [events_passed hsetup hstatus]
          exact List.mem_cons_self ..

/-- A request is not sent unless the handshake succeeded. -/
theorem sslConnect_of_setupError {o : Options} {c : Calls} (h : setupError o c = none) :
    c.sslConnect = true := by
  rw [setupError, Option.map_eq_none_iff, List.find?_eq_none] at h
  have hlast := h (c.sslConnect, errRfc8902SslConnect)
    (by simp only [setupSteps, List.mem_cons, true_or, or_true])
  rwa [Bool.not_eq_true, Bool.not_eq_false'] at hlast

/-- A request over a connection that the client set up, with any messages from the server that
    have no Certificate with an empty entry. The handshake is defined, and so is the check of the
    peer. If anything is sent, the peer that is reported passes the check, it is the one that
    is shown afterwards, and its report comes from a signature that was read in this
    handshake. -/
theorem request_proved (env : Env ω) (hhash : WholeHash env) (henv : OnlyTls13 env)
    (hcb : NoCallbacks env) {o : Options} {hash : Bytes} {mem : SspBuffer} {other : ω} {s : SSL ω}
    (hset : setUpConnection env o hash (newConnection mem other) = some (true, s))
    {es : List Event} (hes : ∀ ev ∈ es, ev.orderly = true) :
    ∃ t, run (step env) s (.start false :: es) = some t ∧
      ∀ (beyond : Nat → UInt8) (fileUrl : Bytes) (c : Calls), Answers c t →
        ((rfc8902HttpGet o beyond fileUrl c).outcome = .undefined →
          .status true ∈ (rfc8902HttpGet o beyond fileUrl c).events) ∧
        ∀ e ∈ (rfc8902HttpGet o beyond fileUrl c).events, e ≠ .status false →
          ∃ rep fs cv gs u, c.psidReceived = some (some rep) ∧ Passes o beyond rep ∧
            (rfc8902HttpGet o beyond fileUrl c).results.peer =
              (printHexArray (rep.hashedid.getD []), rep.psid, printHexArray rep.ssp) ∧
            es = fs ++ .read (.certificateVerify cv) :: gs ∧
            run (step env) s (.start false :: fs) = some u ∧ ProvedBy env u cv t.trace rep := by
  have htouch := touches_setUpConnection env o hash _ _ _ hset
  have hstate : s.statem.state = .uninited := congrArg Statem.state (htouch.statem rfl)
  have hsound : Sound s := ⟨backed_of_touches (sound_sslNew mem clientVerifyMode Cert.empty
    other).backed htouch (by decide) (by decide), fun hgo => by rw [hstate] at hgo; cases hgo⟩
  have hstep : ∀ gs, run (step env) s (.start false :: gs) =
      (startEvent env false s).bind (fun u => run (step env) u gs) := by
    intro gs
    simp only [run, step, hstate]
    cases startEvent env false s <;> rfl
  rcases Option.ne_none_iff_exists'.mp (startEvent_ne_none env false s) with ⟨u, hu⟩
  rcases listening_startEvent henv (congrArg Prod.fst (htouch.peerId (by decide)))
    (htouch.verifyResult (by decide)) hu with ⟨hlist, hread⟩
  have hsoundu := sound_startEvent henv hsound.backed hu
  have harmed : u.Armed := armed_of_keeps (keeps_startEvent env hu) (by decide)
    (armed_setUpConnection env hset)
  rcases handshake_defined hhash henv hcb hsoundu hlist.side harmed hes with ⟨t, ht⟩
  refine ⟨t, by rw [hstep, hu]; exact ht, fun beyond fileUrl c hc => ?_⟩
  have hreport : setupError o c = none → sslGet1609PsidReceived t false true ≠ none ∧
      ∀ rep, sslGet1609PsidReceived t false true = some (some rep) → t.verifyResult = 0 ∧
        ∃ fs cv gs v, es = fs ++ .read (.certificateVerify cv) :: gs ∧
          run (step env) u fs = some v ∧ ProvedBy env v cv t.trace rep := by
    intro hsetup
    have hfin := hc.sslConnect (sslConnect_of_setupError hsetup)
    exact report_proved hhash henv hlist hsoundu hread hes ht (by rw [hfin]; rfl)
  constructor
  · refine status_of_undefined (fun hsetup => ?_)
    rcases hreport hsetup with ⟨hdef, hrep⟩
    rw [← hc.psidReceived] at hdef hrep
    refine sslPrint1609Status_ne_none hdef (fun rep h => ?_) _ _
    rw [hc.verifyResult, (hrep rep h).1]
    rfl
  · intro e he hne
    -- Something is sent only after the check succeeded.
    rcases events_httpGet o beyond fileUrl c Results.clear with hev | ⟨r', hsetup, hstatus⟩
    · exact absurd (hev e he) hne
    · rcases sslPrint1609Status_true hstatus with ⟨-, rep, hrec, hpsid, hssp⟩
      rcases (hreport hsetup).2 rep (hc.psidReceived.symm.trans hrec) with
        ⟨-, fs, cv, gs, v, hes', hv, hproved⟩
      refine ⟨rep, fs, cv, gs, v, hrec, ⟨hpsid, hssp⟩, ?_, hes', by rw [hstep, hu]; exact hv,
        hproved⟩
      have hpeer : (rfc8902HttpGet o beyond fileUrl c).results.peer = r'.peer :=
        peer_httpGet hsetup hstatus
      rw [hrec] at hstatus
      exact hpeer.trans (peer_sslPrint1609Status hstatus)

/-- The confirmations of that security entity have eight octets. -/
theorem wholeHash_keyedEnv : WholeHash keyedEnv := by
  intro tr req m h ht
  change keyedEntity req = some m at h
  unfold keyedEntity verifyingEntity ticketEntity at h
  repeat' split at h
  all_goals first
    | exact absurd h (by simp only [reduceCtorEq, not_false_eq_true])
    | (rw [← Option.some.inj h] at ht ⊢
       first
        | decide
        | exact absurd ht (by decide))

theorem onlyTls13_keyedEnv : OnlyTls13 keyedEnv where
  version := onlyTls13_plainEnv.version
  renegotiate := onlyTls13_plainEnv.renegotiate

theorem noCallbacks_keyedEnv : NoCallbacks keyedEnv where
  certCb _ _ := rfl
  clientCertCb _ _ := rfl

/-- A handshake with a server that uses 1609.2, to its end. -/
def servedFlight : List Event :=
  [.write, .write, .read (.serverHello false [] [0, 51, 0, 0, 0, 20, 0, 1, 3, 0, 19, 0, 1, 3]),
    .read (.encryptedExtensions []), .read (.certificate [0, 0, 0, 6, 0, 0, 1, 7, 0, 0]),
    .read (.certificateVerify [5]), .read (.plain .finished []), .write, .write]

/-- The client with a ticket gets through, and its request is sent to that server. -/
theorem request_proved_ticket :
    ∃ (s t u : SSL Unit) (c : Calls) (rep : PeerReport) (cv : Bytes),
      setUpConnection keyedEnv (Options.init [] 443) [] (newConnection SspBuffer.zero ()) =
        some (true, s) ∧
      run (step keyedEnv) s (.start false :: servedFlight) = some t ∧ Answers c t ∧
      .status true ∈ (rfc8902HttpGet (Options.init [] 443) (fun _ => 0) [] c).events ∧
      c.psidReceived = some (some rep) ∧ ProvedBy keyedEnv u cv t.trace rep := by
  have htest : (setUpConnection keyedEnv (Options.init [] 443) []
      (newConnection SspBuffer.zero ())).any (fun p => p.1 &&
        (run (step keyedEnv) p.2 (.start false :: servedFlight)).any (fun t =>
          t.statem.state = .finished && t.verifyResult = 0 &&
            (sslGet1609PsidReceived t false true).any (fun r =>
              r.any (fun rep => rep.psid = 36)))) = true := by
    decide +kernel
  rcases (Option.any_eq_true _ _).mp htest with ⟨⟨b, s⟩, hset, hp⟩
  simp only [Bool.and_eq_true] at hp
  rcases hp with ⟨rfl, hp⟩
  have hes : ∀ ev ∈ servedFlight, ev.orderly = true := by decide
  rcases request_proved keyedEnv wholeHash_keyedEnv onlyTls13_keyedEnv noCallbacks_keyedEnv hset hes
    with ⟨t, ht, hall⟩
  rw [ht, Option.any_some, Bool.and_eq_true, Bool.and_eq_true, decide_eq_true_eq,
    decide_eq_true_eq] at hp
  rcases hp with ⟨⟨hfin, hres⟩, hrep⟩
  rcases (Option.any_eq_true _ _).mp hrep with ⟨r, hrec, hr⟩
  rcases (Option.any_eq_true _ _).mp hr with ⟨rep, rfl, hpsid⟩
  -- The calls before and after the handshake succeed as well.
  let c : Calls := { passingCalls rep with
    psidReceived := sslGet1609PsidReceived t false true, verifyResult := t.verifyResult }
  have hsetup : setupError (Options.init [] 443) c = none :=
    setupError_passingCalls (Options.init [] 443) rep
  have hpass : Passes (Options.init [] 443) (fun _ => 0) rep :=
    ⟨of_decide_eq_true hpsid, fun hlen => absurd hlen (by decide)⟩
  rcases (sslPrint1609Status_iff _ _ _ c.certChain
    { Results.clear with httpResponse := [] }).mpr hpass with ⟨r', hstatus⟩
  have hmem : .status true ∈ (rfc8902HttpGet (Options.init [] 443) (fun _ => 0) [] c).events := by
    have hchecked : sslPrint1609Status (Options.init [] 443) (fun _ => 0) c.psidReceived
        c.verifyResult c.certChain { Results.clear with httpResponse := [] } = some (true, r') := by
      simp only [c, hrec, hres]
      exact hstatus
    rw [rfc8902HttpGet, events_passed hsetup hchecked]
    exact List.mem_cons_self ..
  have hans : Answers c t := ⟨fun _ => hfin, rfl, rfl⟩
  rcases (hall (fun _ => 0) [] c hans).2 _ hmem (by decide) with
    ⟨rep', fs, cv, gs, u, hrec', -, -, -, -, hproved⟩
  exact ⟨s, t, u, c, rep', cv, hset, ht, hans, hmem, hrec', hproved⟩

end Iso21177
