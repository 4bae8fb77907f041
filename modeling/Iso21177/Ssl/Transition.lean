import Iso21177.Ssl.Hello

/-!
# Transitions of the Handshake

Which message may come next and which one is sent next. For TLS 1.3 every
transition of client and server is written out, except those of early data: an
application that calls neither `SSL_write_early_data` nor `SSL_read_early_data`
does not get into their states, and reads no EndOfEarlyData. The older versions
share the hellos with TLS 1.3; what follows them there is a parameter that never
leads back to a hello, so renegotiation is left out.

On a client the version is not chosen before the ServerHello, so the transitions
around the ClientHello are those of the older versions, also after a
HelloRetryRequest.

## Main definitions

* `client13ReadTransition`, `client13WriteTransition`: The client in TLS 1.3.
* `server13ReadTransition`, `server13WriteTransition`: The server in TLS 1.3.
* `readTransition`, `writeTransition`: Either side in any version.

## Theorems

* `readTransition_certificate`: Where a Certificate leads.
* `readTransition_certificateVerify`: A CertificateVerify follows a Certificate.
* `readTransition_crSrvrHello`: A ServerHello follows a ClientHello.
* `ofLegacy_next`: The older versions do not lead back to a hello.
* `writeTransition_ne_srClntHello`, `writeTransition_swSrvrHello`: Writing a hello.
-/

namespace Iso21177

variable {ω : Type}

/-- `ossl_statem_client13_read_transition`. -/
def client13ReadTransition (env : Env ω) (s : SSL ω) (mt : MsgType) : Option HandState :=
  match s.statem.handState, mt with
  | .cwClntHello, .serverHello => some .crSrvrHello
  | .crSrvrHello, .encryptedExtensions => some .crEncryptedExtensions
  | .crEncryptedExtensions, .finished =>
    if (env.rest s.other).hit then some .crFinished else none
  | .crEncryptedExtensions, .certificateRequest =>
    if (env.rest s.other).hit then none else some .crCertReq
  | .crEncryptedExtensions, .certificate =>
    if (env.rest s.other).hit then none else some .crCert
  | .crCertReq, .certificate => some .crCert
  | .crCert, .certificateVerify => some .crCertVrfy
  | .crCertVrfy, .finished => some .crFinished
  | .ok, .newsessionTicket => some .crSessionTicket
  | .ok, .keyUpdate => some .crKeyUpdate
  | .ok, .certificateRequest =>
    if s.postHandshakeAuth = .extSent then some .crCertReq else none
  | _, _ => none

/-- `ossl_statem_server13_read_transition`. -/
def server13ReadTransition (s : SSL ω) (mt : MsgType) : Option HandState :=
  let flight :=
    match mt with
    | .certificate => if s.tmp.certRequest then some HandState.srCert else none
    | .finished => if s.tmp.certRequest then none else some HandState.srFinished
    | _ => none
  match s.statem.handState with
  | .earlyData =>
    if s.helloRetryRequest = .pending then
      if mt = .clientHello then some .srClntHello else none
    else flight
  | .srEndOfEarlyData | .swFinished => flight
  | .srCert =>
    if (s.session.bind Session.peer).isNone then
      if mt = .finished then some .srFinished else none
    else if mt = .certificateVerify then some .srCertVrfy else none
  | .srCertVrfy => if mt = .finished then some .srFinished else none
  | .ok =>
    if mt = .certificate ∧ s.postHandshakeAuth = .requested then some .srCert
    else if mt = .keyUpdate then some .srKeyUpdate
    else none
  | _ => none

/-- `ossl_statem_client_read_transition` and `ossl_statem_server_read_transition`. -/
def readTransition (env : Env ω) (s : SSL ω) (mt : MsgType) : Option HandState :=
  if s.tls13 then
    if s.server then server13ReadTransition s mt else client13ReadTransition env s mt
  else
    match s.server, s.statem.handState with
    | true, .before => if mt = .clientHello then some .srClntHello else none
    | false, .cwClntHello => if mt = .serverHello then some .crSrvrHello else none
    | _, st => (env.legacyRead st mt s.other).map Subtype.val

/-- `ossl_statem_client13_write_transition`. -/
def client13WriteTransition (env : Env ω) (s : SSL ω) : WriteTran HandState :=
  let certOrFinished := if s.tmp.certReq ≠ 0 then HandState.cwCert else HandState.cwFinished
  match s.statem.handState with
  | .crCertReq =>
    if s.postHandshakeAuth = .requested then .next .cwCert
    else if (env.rest s.other).sentShutdown then .next .ok
    else .error
  | .crFinished =>
    if (env.rest s.other).middleboxCompat ∧ s.helloRetryRequest = .none then .next .cwChange
    else .next certOrFinished
  | .cwChange => .next certOrFinished
  -- If a non-empty Certificate was sent, a CertificateVerify follows.
  | .cwCert => .next (if s.tmp.certReq = 1 then .cwCertVrfy else .cwFinished)
  | .cwCertVrfy => .next .cwFinished
  | .crKeyUpdate | .cwKeyUpdate | .crSessionTicket | .cwFinished => .next .ok
  | .ok => if (env.rest s.other).keyUpdate then .next .cwKeyUpdate else .finished
  | _ => .error

/-- `ossl_statem_server13_write_transition`. -/
def server13WriteTransition (env : Env ω) (s : SSL ω) : WriteTran HandState :=
  let rest := env.rest s.other
  let afterHello : HandState :=
    if s.helloRetryRequest = .pending then .earlyData else .swEncryptedExtensions
  match s.statem.handState with
  | .ok =>
    if rest.keyUpdate then .next .swKeyUpdate
    else if s.postHandshakeAuth = .requestPending then .next .swCertReq
    else if rest.extraTicketsExpected then .next .swSessionTicket
    else .finished
  | .srClntHello => .next .swSrvrHello
  | .swSrvrHello =>
    if rest.middleboxCompat ∧ s.helloRetryRequest ≠ .complete then .next .swChange
    else .next afterHello
  | .swChange => .next afterHello
  | .swEncryptedExtensions =>
    .next (if rest.hit then .swFinished
      else if sendCertificateRequest env s then .swCertReq else .swCert)
  | .swCertReq => .next (if s.postHandshakeAuth = .requestPending then .ok else .swCert)
  | .swCert => .next .swCertVrfy
  | .swCertVrfy => .next .swFinished
  | .swFinished => .next .earlyData
  -- Reading goes on until the client has finished.
  | .earlyData => .finished
  | .srFinished =>
    if s.postHandshakeAuth ≠ .requested ∧ ¬ rest.ticketExpected then .next .ok
    else .next (if rest.moreTickets then .swSessionTicket else .ok)
  | .srKeyUpdate | .swKeyUpdate => .next .ok
  | .swSessionTicket =>
    if !rest.firstHandshake && rest.extraTicketsExpected then .next .swSessionTicket
    else .next (if rest.hit || !rest.moreTickets then .ok else .swSessionTicket)
  | _ => .error

/-- A transition of the older versions as one of any version. -/
def WriteTran.ofLegacy : WriteTran LegacyState → WriteTran HandState
  | .next st => .next st.val
  | .finished => .finished
  | .error => .error

/-- `ossl_statem_client_write_transition` and `ossl_statem_server_write_transition`. -/
def writeTransition (env : Env ω) (s : SSL ω) : WriteTran HandState :=
  if s.tls13 then
    if s.server then server13WriteTransition env s else client13WriteTransition env s
  else
    match s.server, s.statem.handState with
    | _, .ok => .finished
    | true, .before => .finished
    | true, .srClntHello => .next .swSrvrHello
    | false, .before => .next .cwClntHello
    | false, .cwClntHello => .finished
    -- The client got a HelloRetryRequest.
    | false, .crSrvrHello =>
      .next (if (env.rest s.other).middleboxCompat then .cwChange else .cwClntHello)
    | false, .cwChange =>
      if s.helloRetryRequest = .pending then .next .cwClntHello
      else (env.legacyWrite .cwChange s.other).ofLegacy
    | _, st => (env.legacyWrite st s.other).ofLegacy

/-- What a write transition changes besides the state: a request made after the
    handshake is now out, or has been answered. -/
def phaTransition (s : SSL ω) : PhaState :=
  if s.tls13 && s.server then
    match s.statem.handState, s.postHandshakeAuth with
    | .swCertReq, .requestPending => .requested
    | .srFinished, .requested => .extReceived
    | _, p => p
  else s.postHandshakeAuth

/-- In TLS 1.3 a Certificate leads to the state of the side that reads it. -/
theorem readTransition_certificate {env : Env ω} {s : SSL ω} {st : HandState}
    (h13 : s.tls13 = true) (h : readTransition env s .certificate = some st) :
    st = if s.server then .srCert else .crCert := by
  cases hs : s.server <;> simp only [readTransition, h13, hs, if_true, Bool.false_eq_true,
    if_false, client13ReadTransition, server13ReadTransition] at h ⊢
  · split at h <;> simp_all
  · split at h <;> simp_all

/-- In TLS 1.3 a CertificateVerify directly follows the Certificate. -/
theorem readTransition_certificateVerify {env : Env ω} {s : SSL ω} {st : HandState}
    (h13 : s.tls13 = true) (h : readTransition env s .certificateVerify = some st) :
    (s.statem.handState = if s.server then .srCert else .crCert) ∧
      st = if s.server then .srCertVrfy else .crCertVrfy := by
  cases hs : s.server <;> simp only [readTransition, h13, hs, if_true, Bool.false_eq_true,
    if_false, client13ReadTransition, server13ReadTransition] at h ⊢
  · split at h <;> simp_all
  · split at h <;> simp_all

/-- The state of a ServerHello follows that of a ClientHello. -/
theorem readTransition_crSrvrHello {env : Env ω} {s : SSL ω} {mt : MsgType}
    (h : readTransition env s mt = some .crSrvrHello) : s.statem.handState = .cwClntHello := by
  unfold readTransition at h
  split at h
  · split at h
    · unfold server13ReadTransition at h
      simp only at h
      split at h <;> (repeat' split at h) <;>
        exact absurd h (by simp only [reduceCtorEq, Option.some.injEq, not_false_eq_true])
    · unfold client13ReadTransition at h
      split at h <;> (repeat' split at h) <;> first
        | assumption
        | exact absurd h (by simp only [reduceCtorEq, Option.some.injEq, not_false_eq_true])
  · split at h
    · split at h <;> exact absurd h (by simp only [reduceCtorEq, Option.some.injEq,
        not_false_eq_true])
    · assumption
    · rcases Option.map_eq_some_iff.mp h with ⟨st, -, hst⟩
      have hafter := st.property
      rw [hst] at hafter
      exact absurd hafter Bool.false_ne_true

theorem ofLegacy_next {w : WriteTran LegacyState} {st : HandState} (h : w.ofLegacy = .next st) :
    st.afterHello = true := by
  cases w with
  | next st' =>
      rw [WriteTran.ofLegacy, WriteTran.next.injEq] at h
      rw [← h]
      exact st'.property
  | finished => exact absurd h (by simp only [WriteTran.ofLegacy, reduceCtorEq, not_false_eq_true])
  | error => exact absurd h (by simp only [WriteTran.ofLegacy, reduceCtorEq, not_false_eq_true])

/-- Writing never leads to the state in which a ClientHello was read. -/
theorem writeTransition_ne_srClntHello {env : Env ω} {s : SSL ω} {st : HandState}
    (h : writeTransition env s = .next st) : st ≠ .srClntHello := by
  rintro rfl
  unfold writeTransition at h
  split at h
  · split at h
    · unfold server13WriteTransition at h
      simp only at h
      split at h <;> (repeat' split at h) <;>
        simp_all only [WriteTran.next.injEq, reduceCtorEq]
    · unfold client13WriteTransition at h
      simp only at h
      split at h <;> (repeat' split at h) <;>
        simp_all only [WriteTran.next.injEq, reduceCtorEq]
  · split at h <;> (repeat' split at h) <;> first
      | exact absurd (ofLegacy_next h) Bool.false_ne_true
      | simp_all only [WriteTran.next.injEq, reduceCtorEq]

/-- In TLS 1.3 a server writes its ServerHello after a ClientHello. -/
theorem writeTransition_swSrvrHello {env : Env ω} {s : SSL ω} (h13 : s.tls13 = true)
    (hs : s.server = true) (h : writeTransition env s = .next .swSrvrHello) :
    s.statem.handState = .srClntHello := by
  simp only [writeTransition, h13, hs, if_true, server13WriteTransition] at h
  split at h <;> (repeat' split at h) <;> first
    | assumption
    | simp_all only [WriteTran.next.injEq, reduceCtorEq]

end Iso21177
