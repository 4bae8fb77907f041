import Iso21177.Ssl.State

/-!
# What a Connection Runs Against

The parameters of the model and the error state. `Env` collects the code the
connection calls but this development does not contain: the security entity,
the allocator, X.509 parsing and verification, hashing and signing, the other
extensions, and the many steps of a handshake that only touch the remaining
fields (`Phase`). Each is an arbitrary function. It gets the record of the
object, so it may answer differently each time, and it returns either the
remaining fields changed or the alert and reason of a fatal error.

That a failing step raises a fatal error is therefore part of the shape of the
parameters: code outside reports through `SSLfatal`. Whether the functions of
this development do so is for the theorems to say.

## Main definitions

* `Rest`: What is read of the remaining fields.
* `Phase`: The handshake steps of code outside.
* `CertCall`: The calls a certificate callback may make.
* `LegacyChoice`, `LegacyState`: Results of the older protocol versions' code.
* `WriteTran`: What a write transition decides.
* `Env`: The parameters.
* `rsaPssRsaeSha256`, `plainRest`, `plainEnv`: Parameters under which code outside
  succeeds.
* `SSL.Fatal`: The error state.
* `sslFatal`, `sslFail`: Entering it.
* `checkFatal`: Entering it if a failure did not.
* `runOther`, `runPhase`: A step of code outside.
* `SSL.note`: Adding to the record.

## Theorems

* `fatal_sslFatal`: `sslFatal` reaches the error state.
* `sslFatal_handState`: A fatal error leaves the handshake state.
* `sslFatal_eq`: A fatal error touches the state machine only.
* `sslFail_ne_true`: A fatal error is never a success.
* `reports_sslFail`, `reports_runOther`: They fail in the error state.
-/

namespace Iso21177

/-- What the functions here read of the remaining fields. -/
structure Rest where
  hit : Bool
  sentShutdown : Bool
  middleboxCompat : Bool
  renegotiate : Bool
  firstHandshake : Bool
  keyUpdate : Bool
  extraTicketsExpected : Bool
  ticketExpected : Bool
  moreTickets : Bool
  phaEnabled : Bool
  anonCipher : Bool
  srpCipher : Bool
  pskCipher : Bool
  suitableKeyShare : Bool
  keyShareRetry : Bool
  keyShareRequired : Bool
  sessionReusable : Bool
  sessionIdSet : Bool
  useSigalgs : Bool
  sharedSigalgs : List SigalgLookup

/-- The handshake steps done by code outside. -/
inductive Phase
  | setupHandshake
  | clientHelloHead
  | clientHelloBeforeParse
  | clientHelloAfterParse
  | clientHelloAfterChoice
  | serverHelloHead
  | serverHelloSession
  | serverHelloKeys
  | helloRetryRequest
  | handshakeSecret
  | processSigalgs
  | legacyCertificateRequest
  | digestCachedRecords
  | restoreDigestForPha
  | process (mt : MsgType)
  | helloHead
  | constructed (st : HandState)
  | changeCipherState
  | construct (st : HandState)
  | postWork (st : HandState)
  | finishHandshake
  deriving DecidableEq

/-- A call by which an application sets its own certificates. -/
inductive CertCall
  | useCertificate (x : X509)
  | usePrivateKey (key : EvpPkey)
  | use1609Cert (data : Bytes)
  | use1609CertByHash (hashedid : Bytes)
  | use1609Psid (psid : UInt64)

/-- The older versions' choice of a signature algorithm: none needed, none
    found, or one with its slot. -/
inductive LegacyChoice
  | notNeeded
  | notFound
  | found (lu : SigalgLookup) (idx : PkeyIdx)

/-- The states of the older versions' handshake after the hellos. -/
abbrev LegacyState := { st : HandState // st.afterHello = true }

/-- What a write transition decides: go on in a state, read, or fail. -/
inductive WriteTran (σ : Type)
  | next (st : σ)
  | finished
  | error
  deriving DecidableEq

/-- Failure of code outside: the alert and reason of its fatal error. -/
abbrev Fault := Alert × Reason

/-- The parameters of the model. -/
structure Env (ω : Type) where
  -- The fields that are not written out, and what moves them on.
  rest : ω → Rest
  phase : Phase → Bytes → List Obs → ω → Except Fault ω
  clear : ω → ω
  -- The rest of a message, the security entity and the allocator.
  messageBody : HandState → List Obs → ω → Bytes
  secEnt : List Obs → SecEntMsg → Option SecEntMsg
  allocator : Allocator X509
  -- Certificates and keys.
  x509CertDer : Bytes
  d2iX509 : Bytes → Option (Option PublicKey × Nat)
  verifyX509 : ω → List X509 → Bool × Nat
  x509err2alert : Nat → Alert
  missingParameters : PublicKey → Bool
  canSign : PublicKey → Bool
  amaskAllows : ω → PkeyIdx → Bool
  -- The transcript, which is a function of the record.
  handshakeHash : List Obs → ω → Option Bytes
  handshakeBuffer : List Obs → ω → Option Bytes
  random : Nat → List Obs → Option Bytes
  -- The extensions other than the two, and the version and session they choose.
  extInit : Nat → Nat → ω → Except Fault ω
  extParse : Nat → Nat → Nat → Bytes → List Obs → ω → Except Fault ω
  extFinal : Nat → Nat → Bool → List Obs → ω → Except Fault ω
  extConstruct : Nat → Nat → Nat → List Obs → ω → Except Fault (Option Bytes × ω)
  version : Bool → Bytes → List (Nat × Bytes) → List Obs → ω → Except Fault (Bool × ω)
  cachedPeer : List Obs → ω → Option X509
  -- The versions below TLS 1.3.
  legacyRead : HandState → MsgType → ω → Option LegacyState
  legacyWrite : HandState → ω → WriteTran LegacyState
  legacyDone : MsgType → ω → Bool
  legacySigalg : Cert → ω → LegacyChoice
  -- What the choice of an algorithm asks of a key.
  lookupMd : SigalgLookup → ω → Bool
  digestSupported : EvpPkey → SigalgLookup → Bool
  certSigalgAllowed : X509 → ω → Bool
  ecCurve : EvpPkey → Nat
  rsaPssMinKey : EvpPkey → SigalgLookup → Bool
  checkChain : Cert → ω → Bool
  -- The callbacks of the application.
  certCb : List Obs → ω → Option (List CertCall × Bool)
  clientCertCb : List Obs → ω → Option (X509 × EvpPkey)
  -- Sending a chain, and signing.
  securityCert : X509 → ω → Bool
  securityCertChain : List X509 → ω → Option Nat
  autoChain : ω → Bool
  chainTail : X509 → ω → List (Bytes × Option PublicKey)
  digestSign : EvpPkey → SigalgLookup → Bytes → List Obs → Option Bytes
  checkCertVerify : PublicKey → Bytes → Bytes → ω → Option Fault

/-- `rsa_pss_rsae_sha256`. -/
def rsaPssRsaeSha256 : SigalgLookup := ⟨0x0804, false, .rsaPss, .rsa, none⟩

/-- A full handshake of TLS 1.3 with a usable key share. -/
def plainRest : Rest where
  hit := false
  sentShutdown := false
  middleboxCompat := false
  renegotiate := false
  firstHandshake := true
  keyUpdate := false
  extraTicketsExpected := false
  ticketExpected := false
  moreTickets := false
  phaEnabled := false
  anonCipher := false
  srpCipher := false
  pskCipher := false
  suitableKeyShare := true
  keyShareRetry := false
  keyShareRequired := true
  sessionReusable := false
  sessionIdSet := false
  useSigalgs := true
  sharedSigalgs := [rsaPssRsaeSha256]

/-- Parameters under which all code outside succeeds and changes nothing: every
    certificate parses and verifies, no callback is set, and of the other extensions
    only the key share is sent. The security entity does not answer. -/
def plainEnv : Env Unit where
  rest _ := plainRest
  phase _ _ _ o := .ok o
  clear o := o
  messageBody _ _ _ := []
  secEnt _ _ := none
  allocator := topFit
  x509CertDer := [0x30]
  d2iX509 b := some (some (.other (some .rsa) b), b.length)
  verifyX509 _ _ := (true, 0)
  x509err2alert _ := .badCertificate
  missingParameters _ := false
  canSign _ := true
  amaskAllows _ _ := true
  handshakeHash tr _ := some (List.replicate 32 (UInt8.ofNat tr.length))
  handshakeBuffer _ _ := some []
  random n _ := some (List.replicate n 0)
  extInit _ _ o := .ok o
  extParse _ _ _ _ _ o := .ok o
  extFinal _ _ _ _ o := .ok o
  -- The key share is sent wherever it may be.
  extConstruct i _ _ _ o := .ok (if i = 21 then some [] else none, o)
  version _ _ _ _ o := .ok (true, o)
  cachedPeer _ _ := none
  legacyRead _ _ _ := none
  legacyWrite _ _ := .error
  legacyDone _ _ := true
  legacySigalg _ _ := .notFound
  lookupMd _ _ := true
  digestSupported _ _ := true
  certSigalgAllowed _ _ := true
  ecCurve _ := 0
  rsaPssMinKey _ _ := true
  checkChain _ _ := true
  certCb _ _ := none
  clientCertCb _ _ := none
  securityCert _ _ := true
  securityCertChain _ _ := none
  autoChain _ := false
  chainTail _ _ := []
  digestSign _ _ _ _ := some [0]
  checkCertVerify _ _ _ _ := none

variable {ω : Type}

/-- The error state: the flow is stopped, and the handshake counts as going on
    so that nothing else is done with the connection. -/
def SSL.Fatal (s : SSL ω) : Prop :=
  s.statem.inInit = true ∧ s.statem.state = .error

instance (s : SSL ω) : Decidable s.Fatal := inferInstanceAs (Decidable (_ ∧ _))

/-- `SSLfatal`. Once is enough: a second one changes nothing. -/
def sslFatal (al : Alert) (reason : Reason) (s : SSL ω) : SSL ω :=
  if s.Fatal then s
  else { s with statem :=
          { s.statem with inInit := true, state := .error, alert := some (al, reason) } }

/-- `SSLfatal` and return failure. -/
def sslFail (al : Alert) (reason : Reason) : Call (SSL ω) := Call.fail (sslFatal al reason)

/-- `check_fatal`: a caller that got a failure makes sure of the error state. -/
def checkFatal (s : SSL ω) : SSL ω := sslFatal .internalError .missingFatal s

/-- Change the remaining fields as code outside says, or stop as it says. -/
def runOther (f : List Obs → ω → Except Fault ω) : Call (SSL ω) := fun s =>
  match f s.trace s.other with
  | .error (al, reason) => sslFail al reason s
  | .ok o => some (true, { s with other := o })

/-- A step of code outside. -/
def runPhase (env : Env ω) (p : Phase) (body : Bytes) : Call (SSL ω) :=
  runOther (env.phase p body)

/-- Add to the record. -/
def SSL.note (s : SSL ω) (o : Obs) : SSL ω := { s with trace := o :: s.trace }

/-- Giving up leaves the connection in its error state. -/
theorem fatal_sslFatal (al : Alert) (reason : Reason) (s : SSL ω) :
    (sslFatal al reason s).Fatal := by
  unfold sslFatal
  split
  · assumption
  · exact ⟨rfl, rfl⟩

/-- A fatal error touches the state machine only. -/
theorem sslFatal_eq (al : Alert) (reason : Reason) (s : SSL ω) :
    sslFatal al reason s = { s with statem := (sslFatal al reason s).statem } := by
  unfold sslFatal
  split <;> rfl

theorem sslFatal_handState (al : Alert) (reason : Reason) (s : SSL ω) :
    (sslFatal al reason s).statem.handState = s.statem.handState := by
  unfold sslFatal
  split <;> rfl

/-- A fatal error is never a success. -/
@[simp]
theorem sslFail_ne_true (al : Alert) (reason : Reason) (s t : SSL ω) :
    sslFail al reason s ≠ some (true, t) := by
  simp only [sslFail, Call.fail, ne_eq, Option.some.injEq, Prod.mk.injEq, Bool.false_eq_true,
    false_and, not_false_eq_true]

/-- A failure with an alert is reported. -/
theorem reports_sslFail (al : Alert) (reason : Reason) :
    Call.Reports SSL.Fatal (sslFail al reason : Call (SSL ω)) := by
  intro s t h
  simp only [sslFail, Call.fail, Option.some.injEq, Prod.mk.injEq, true_and] at h
  rw [← h]
  exact fatal_sslFatal al reason s

theorem reports_runOther (f : List Obs → ω → Except Fault ω) :
    Call.Reports SSL.Fatal (runOther f) := by
  intro s t h
  unfold runOther at h
  split at h
  · exact reports_sslFail _ _ s t h
  · exact absurd h (by simp only [Option.some.injEq, Prod.mk.injEq, Bool.true_eq_false,
      false_and, not_false_eq_true])

end Iso21177
