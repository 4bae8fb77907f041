import Iso21177.Ssl.Transition

/-!
# The State Machine

One connection object taking one event after the other. An event is a message
read, a message written, the start of a handshake, the object being cleared, or a
configuration call of the application. The step function is `step`; a run of it
is a sequence of handshakes, with any peer, on one object.

Every failure ends in the error state: the functions called raise a fatal error,
and where one did not, the state machine does (`checkFatal`).

Configuration calls are made while no handshake is going on. During one, only the
certificate callback may make them.

## Main definitions

* `clientProcessMessage`, `serverProcessMessage`: Processing a message by state.
* `clientConstructMessage`, `serverConstructMessage`: Writing a message by state.
* `readStep`, `readEvent`: Reading one message.
* `writeEvent`: Writing one message, or turning to reading.
* `startEvent`, `reenterEvent`: Starting a handshake, going on after one.
* `ConfigCall`, `configCall`: The application's calls.
* `sslIsInitFinished`: No handshake is going on.
* `Event`, `step`: One step of the connection object.
-/

namespace Iso21177

variable {ω : Type}

/-- Move to a handshake state. -/
def SSL.enter (s : SSL ω) (st : HandState) : SSL ω :=
  { s with statem := { s.statem with handState := st } }

/-- Turn the message flow. -/
def SSL.turn (s : SSL ω) (flow : MsgFlow) : SSL ω :=
  { s with statem := { s.statem with state := flow } }

/-- The client prepares its certificate once the server's signature is checked,
    if one was asked for. -/
def prepareIfAsked (env : Env ω) : Call (SSL ω) := fun s =>
  if s.tls13 && s.tmp.certReq = 1 then tlsPrepareClientCertificate env s else some (true, s)

/-- After a CertificateRequest the client prepares at once in the older versions and
    after the handshake; during a TLS 1.3 handshake it waits. -/
def processRequest (env : Env ω) (body : Bytes) : Call (SSL ω) := fun s =>
  let ignored := s.tls13 && (env.rest s.other).sentShutdown
  Call.seq (tlsProcessCertificateRequest env body) (fun t =>
    if ignored || (t.tls13 && t.postHandshakeAuth ≠ .requested) then some (true, t)
    else tlsPrepareClientCertificate env t) s

/-- `ossl_statem_client_process_message` and its post-processing. -/
def clientProcessMessage (env : Env ω) (m : Msg) : Call (SSL ω) := fun s =>
  match s.statem.handState, m with
  | .crSrvrHello, .serverHello hrr head exts => tlsProcessServerHello env hrr head exts s
  | .crEncryptedExtensions, .encryptedExtensions exts => tlsProcessEncryptedExtensions env exts s
  | .crCertReq, .certificateRequest body => processRequest env body s
  | .crCert, .certificate body =>
    Call.seq (tlsProcessServerCertificate env body) (tlsPostProcessServerCertificate env) s
  | .crCertVrfy, .certificateVerify body =>
    Call.seq (tlsProcessCertVerify env body) (prepareIfAsked env) s
  | .crCertStatus, .plain mt body | .crKeyExch, .plain mt body | .crSrvrDone, .plain mt body
  | .crChange, .plain mt body | .crSessionTicket, .plain mt body | .crFinished, .plain mt body
  | .crHelloReq, .plain mt body | .crKeyUpdate, .plain mt body =>
    runPhase env (.process mt) body s
  -- A body that cannot be split into its fields.
  | _, _ => sslFail .decodeError .lengthMismatch s

/-- `ossl_statem_server_process_message` and its post-processing. -/
def serverProcessMessage (env : Env ω) (m : Msg) : Call (SSL ω) := fun s =>
  match s.statem.handState, m with
  | .srClntHello, .clientHello head exts =>
    Call.seq (tlsProcessClientHello env head exts) (tlsPostProcessClientHello env) s
  | .srCert, .certificate body => tlsProcessClientCertificate env body s
  | .srCertVrfy, .certificateVerify body => tlsProcessCertVerify env body s
  | .srKeyExch, .plain mt body | .srNextProto, .plain mt body | .srChange, .plain mt body
  | .srFinished, .plain mt body | .srKeyUpdate, .plain mt body
  | .srEndOfEarlyData, .plain mt body => runPhase env (.process mt) body s
  | _, _ => sslFail .decodeError .lengthMismatch s

/-- Processing a message on either side. -/
def processMessage (env : Env ω) (m : Msg) : Call (SSL ω) := fun s =>
  if s.server then serverProcessMessage env m s else clientProcessMessage env m s

/-- A processed message that ends the reading. -/
def doneReading (env : Env ω) (m : Msg) (s : SSL ω) : Bool :=
  match s.server, s.statem.handState with
  | true, .srClntHello => true
  | true, .srCert | true, .srCertVrfy => false
  | false, .crSrvrHello => match m with
    | .serverHello hrr _ _ => hrr
    | _ => false
  | false, .crCert | false, .crCertVrfy | false, .crEncryptedExtensions => false
  | false, .crCertReq =>
    s.tls13 && ((env.rest s.other).sentShutdown || s.postHandshakeAuth = .requested)
  | _, .srEndOfEarlyData => false
  | _, _ => s.tls13 || env.legacyDone m.mt s.other

/-- A request after the handshake is noted before it is read. -/
def phaRequested (env : Env ω) (st : HandState) : Call (SSL ω) := fun s =>
  if s.tls13 && !s.server && s.statem.handState = .ok && st = .crCertReq then
    runPhase env .restoreDigestForPha [] { s with postHandshakeAuth := .requested }
  else some (true, s)

/-- Read a message: make the transition it asks for and process it. -/
def readStep (env : Env ω) (m : Msg) : Call (SSL ω) := fun s =>
  match readTransition env s m.mt with
  | none => sslFail .unexpectedMessage .unexpectedMessage s
  | some st =>
    Call.seq (phaRequested env st)
      (fun t => processMessage env m ((t.enter st).note (.recv m))) s

/-- `read_state_machine` for one message. -/
def readEvent (env : Env ω) (m : Msg) (s : SSL ω) : Option (SSL ω) :=
  match readStep env m s with
  | none => none
  | some (false, t) => some (checkFatal t)
  | some (true, t) => some (if doneReading env m t then t.turn .writing else t)

/-- The type of a message written by code outside. -/
def plainType : HandState → Option MsgType
  | .cwChange | .swChange => some .changeCipherSpec
  | .cwKeyExch => some .clientKeyExchange
  | .cwNextProto => some .nextProto
  | .cwFinished | .swFinished => some .finished
  | .cwKeyUpdate | .swKeyUpdate => some .keyUpdate
  | .swHelloReq => some .helloRequest
  | .swKeyExch => some .serverKeyExchange
  | .swSrvrDone => some .serverDone
  | .swSessionTicket => some .newsessionTicket
  | .swCertStatus => some .certificateStatus
  | _ => none

/-- A message written by code outside. -/
def constructPlain (env : Env ω) (s : SSL ω) : Option (Built × SSL ω) :=
  match plainType s.statem.handState with
  | none => some (none, sslFatal .internalError .badHandshakeState s)
  | some mt =>
    Built.after (.plain mt (env.messageBody s.statem.handState s.trace s.other), .none)
      (runPhase env (.construct s.statem.handState) []) s

/-- `ossl_statem_client_construct_message`. -/
def clientConstructMessage (env : Env ω) (s : SSL ω) : Option (Built × SSL ω) :=
  match s.statem.handState with
  | .cwClntHello => tlsConstructClientHello env s
  | .cwCert => tlsConstructClientCertificate env s
  | .cwCertVrfy => tlsConstructCertVerify env s
  | _ => constructPlain env s

/-- `ossl_statem_server_construct_message`. -/
def serverConstructMessage (env : Env ω) (s : SSL ω) : Option (Built × SSL ω) :=
  match s.statem.handState with
  | .swSrvrHello => tlsConstructServerHello env s
  | .swEncryptedExtensions => tlsConstructEncryptedExtensions env s
  | .swCertReq => tlsConstructCertificateRequest env s
  | .swCert => tlsConstructServerCertificate env s
  | .swCertVrfy => tlsConstructCertVerify env s
  | _ => constructPlain env s

/-- Writing a message on either side. -/
def constructMessage (env : Env ω) (s : SSL ω) : Option (Built × SSL ω) :=
  if s.server then serverConstructMessage env s else clientConstructMessage env s

/-- The state after a call whose failure is fatal. -/
def settle (r : Option (Bool × SSL ω)) : Option (SSL ω) :=
  match r with
  | none => none
  | some (true, t) => some t
  | some (false, t) => some (checkFatal t)

/-- `tls_finish_handshake`. A client that answered a request may be asked again. -/
def finishHandshake (env : Env ω) : Call (SSL ω) :=
  Call.seq (runPhase env .finishHandshake []) (fun s =>
    let pha := if s.tls13 && !s.server && s.postHandshakeAuth = .requested then .extSent
      else s.postHandshakeAuth
    some (true, { s with
      postHandshakeAuth := pha
      statem := { s.statem with state := .finished, inInit := false } }))

/-- Write a message in the state just entered, or finish. -/
def writeStep (env : Env ω) (s : SSL ω) : Option (SSL ω) :=
  match s.statem.handState with
  | .ok => settle (finishHandshake env s)
  -- Not a real state: nothing is written.
  | .earlyData => settle (runPhase env (.postWork .earlyData) [] s)
  | st =>
    match constructMessage env s with
    | none => none
    | some (none, t) => some (checkFatal t)
    | some (some (m, src), t) =>
      settle (runPhase env (.postWork st) [] (t.note (.sent m src)))

/-- `write_state_machine` for one message. -/
def writeEvent (env : Env ω) (s : SSL ω) : Option (SSL ω) :=
  match writeTransition env s with
  | .error => some (sslFatal .internalError .internalError s)
  | .finished => some (s.turn .reading)
  | .next st => writeStep env ({ s with postHandshakeAuth := phaTransition s }.enter st)

/-- The start of `state_machine`: the object is cleared, and set up for one side. -/
def startEvent (env : Env ω) (server : Bool) (s : SSL ω) : Option (SSL ω) :=
  match sslClear env s with
  | none => none
  | some (false, t) => some t
  | some (true, t) =>
    match runPhase env .setupHandshake []
        { t with server := server, extflags := [], tmp := { t.tmp with certReq := 0 } } with
    | none => none
    | some (false, u) => some u
    | some (true, u) => some (u.turn .writing)

/-- Going on after a handshake, to read or send what comes later. -/
def reenterEvent (s : SSL ω) : SSL ω :=
  { s with statem := { s.statem with state := .writing, inInit := true } }

/-- `SSL_is_init_finished`. -/
def sslIsInitFinished (s : SSL ω) : Bool := !s.statem.inInit && s.statem.handState = .ok

/-- `SSL_verify_client_post_handshake`. -/
def sslVerifyClientPostHandshake (env : Env ω) : Call (SSL ω) := fun s =>
  if s.tls13 && s.server && sslIsInitFinished s && s.postHandshakeAuth = .extReceived then
    let s' := { s with postHandshakeAuth := .requestPending }
    if sendCertificateRequest env s' then
      some (true, { s' with statem := { s'.statem with inInit := true } })
    else some (false, s)
  else some (false, s)

/-- The calls an application makes between handshakes. -/
inductive ConfigCall
  | enableRfc8902Support (serverSupport clientSupport : BitVec 32) (useAt : Bool)
  | own (c : CertCall)
  | setVerify (mode : BitVec 32)
  | verifyClientPostHandshake

/-- The calls by name. -/
def configCall (env : Env ω) : ConfigCall → Call (SSL ω)
  | .enableRfc8902Support srv clnt useAt => sslEnableRfc8902Support env srv clnt useAt
  | .own c => certCall env c
  | .setVerify mode => Call.ret (sslSetVerify mode)
  | .verifyClientPostHandshake => sslVerifyClientPostHandshake env

/-- What can happen to a connection object. -/
inductive Event
  | start (server : Bool)
  | reenter
  | read (m : Msg)
  | write
  | clear
  | config (c : ConfigCall)

/-- One step. An event that does not apply changes nothing. -/
def step (env : Env ω) (s : SSL ω) (ev : Event) : Option (SSL ω) :=
  match ev, s.statem.state with
  | .start server, .uninited => startEvent env server s
  | .reenter, .finished => some (reenterEvent s)
  | .read m, .reading => readEvent env m s
  | .write, .writing => writeEvent env s
  | .clear, _ => (sslClear env s).map Prod.snd
  | .config _, .reading | .config _, .writing => some s
  | .config c, _ => (configCall env c s).map Prod.snd
  | _, _ => some s

end Iso21177
