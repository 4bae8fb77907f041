import Iso21177.Client.Headers
import Iso21177.Client.Status

/-!
# The HTTP Client

`http_get` connects to the server, checks the peer, sends a request and reads the reply:
the header line by line, and then everything up to the end of the connection, in two loops
with a shutdown between them. What the calls to the socket and to the connection return is
given as a record of results; a loop that has used them all up still waits.

The results of `SSL_shutdown` may depend on what was read before. Resources that are
released on the way out, and what is only logged, are left out.

## Main definitions

* `ReadResult`, `Calls`: Results of the calls.
* `setupSteps`, `setupError`: The calls up to the handshake.
* `requestText`, `snprintfLen`, `sslSendMessage`: Sending the request.
* `errorAfter`: The error code after a read.
* `headerLoop`, `drain`: The loops that read.
* `replyFields`: The accessors that are called for the header.
* `NoReturn.outcome`: The request ends as an accessor does that does not return.
* `awaitShutdown`, `receiveBody`, `receive`: Reading the reply to its end.
* `httpGet`, `rfc8902HttpGet`: The request.
* `HeaderReads`: Results that the header loop goes through.
* `passingCalls`: Calls that all succeed.

## Theorems

* `headerReads_nil`, `headerReads_cons`, `headerLoop_append`, `headerLoop_complete`,
  `headerLoop_split`: The header loop.
* `drain_append`, `drain_end`, `drain_split`, `drain_waits`: The loops behind it.
* `awaitShutdown_end`, `awaitShutdown_waits`, `receiveBody_end`, `receiveBody_waits`: What
  they come to.
* `replyFields_incomplete`, `headerLoop_reads`, `receive_complete`, `receive_error`,
  `receive_split`: Reading the reply, by how the header ends.
* `setupError_ne_zero`, `setupError_passingCalls`: The calls up to the handshake.
-/

namespace Iso21177

open Packet HttpHeaders

/-- What a call of `SSL_read` comes to: octets, or one of the errors. -/
inductive ReadResult
  | data (first : UInt8) (rest : Bytes)
  | zeroReturn
  | wantRead
  | wantWrite
  | error
  deriving DecidableEq

/-- The octets that were read. -/
def ReadResult.bytes : ReadResult → Bytes
  | .data b bs => b :: bs
  | _ => []

/-- Something was read. -/
def ReadResult.IsData : ReadResult → Prop
  | .data _ _ => True
  | _ => False

/-- Something was read, or reading may be tried again. -/
def ReadResult.Retry : ReadResult → Prop
  | .data _ _ => True
  | .wantRead => True
  | .wantWrite => True
  | _ => False

instance : DecidablePred ReadResult.IsData
  | .data _ _ => isTrue trivial
  | .zeroReturn => isFalse id
  | .wantRead => isFalse id
  | .wantWrite => isFalse id
  | .error => isFalse id

/-- Everything that was read. -/
def dataOf (rs : List ReadResult) : Bytes := rs.flatMap ReadResult.bytes

/-- What the calls of a request return. -/
structure Calls where
  socket : Bool
  inetAddr : Bool
  gethostbyname : Bool
  connect : Bool
  sslCtxNew : Bool
  sslCtxSetMinProtoVersion : Bool
  sslNew : Bool
  sslSet1609SecEntAddr : Bool
  sslEnableRfc8902Support : Bool
  sslUse1609CertByHash : Bool
  sslUse1609Psid : Bool
  sslSetFd : Bool
  sslConnect : Bool
  psidReceived : Option (Option PeerReport)
  verifyResult : Int
  certChain : Bool × List CertInfo
  sslWrite : List Int
  sslRead : List ReadResult
  sslShutdown : List ReadResult → Int

def errSslReadError : Nat := 1001

def errSslShutdown1Error : Nat := 1002

def errSslShutdown2Error : Nat := 1003

def errRfc8902SetSecEntError : Nat := 1004

def errHttpSocketCreate : Nat := 1007

def errHttpHostDnsError : Nat := 1008

def errHttpConnectError : Nat := 1009

def errRfc8902New : Nat := 1010

def errRfc8902SetTlsV13 : Nat := 1011

def errRfc8902SetVerify : Nat := 1012

def errRfc8902SetValues : Nat := 1013

def errRfc8902SetFd : Nat := 1014

def errRfc8902SslConnect : Nat := 1015

def errRfc8902Print1609 : Nat := 1016

def errSslRecvMsg : Nat := 1017

def errSslSendMsg : Nat := 1018

/-- `ssl_set_RFC8902_values`. -/
def sslSetRfc8902Values (o : Options) (c : Calls) : Bool :=
  c.sslEnableRfc8902Support && (o.optUseAtCert || c.sslUse1609CertByHash) &&
    (!o.optSetCertPsid || c.sslUse1609Psid)

/-- The steps up to the handshake, each with the error it leaves if it fails. A host that is
    an address is not looked up. -/
def setupSteps (o : Options) (c : Calls) : List (Bool × Nat) :=
  [(c.socket, errHttpSocketCreate),
    (c.inetAddr || c.gethostbyname, errHttpHostDnsError),
    (c.connect, errHttpConnectError),
    (c.sslCtxNew, errRfc8902New),
    (c.sslCtxSetMinProtoVersion, errRfc8902SetTlsV13),
    (c.sslNew, errRfc8902SetVerify),
    (c.sslSet1609SecEntAddr, errRfc8902SetSecEntError),
    (sslSetRfc8902Values o c, errRfc8902SetValues),
    (c.sslSetFd, errRfc8902SetFd),
    (c.sslConnect, errRfc8902SslConnect)]

/-- The error of the first step that fails. -/
def setupError (o : Options) (c : Calls) : Option Nat :=
  ((setupSteps o c).find? (fun step => !step.1)).map Prod.snd

/-- The octets of a text. -/
def ascii (s : String) : Bytes := s.toList.map (fun c => UInt8.ofNat c.toNat)

/-- The request. -/
def requestText (o : Options) (fileUrl : Bytes) : Bytes :=
  ascii "GET " ++ cString fileUrl ++ ascii " HTTP/1.1\r\nHost: " ++ cString o.optServerHost ++
    ascii ":" ++ decimal 0 o.optServerPort ++ ascii "\r\n\r\n"

/-- The size of the buffer `line`. -/
def lineSize : Nat := 1024

/-- What `snprintf` returns for a text, which is negative if an `int` cannot count it. -/
def snprintfLen (text : Bytes) : Int := if text.length < 2 ^ 31 then text.length else -1

/-- What is seen from outside: the check of the peer, and the calls of `SSL_write` with the
    stretch of the buffer they are given. -/
inductive ClientEvent
  | status (ret : Bool)
  | write (start len : Int)
  deriving DecidableEq

/-- How sending ends. -/
inductive SendEnd
  | waiting
  | undefined
  | sent (processed : Int)
  deriving DecidableEq

/-- `ssl_send_message` from an offset on. The offset moves by what the call returns, whatever
    that is; writing from outside the buffer is undefined. -/
def sslSendMessage (len start processed : Int) : List Int → SendEnd × List ClientEvent
  | [] =>
    if start < len then
      if start < 0 ∨ lineSize < len then (.undefined, [.write start (len - start)])
      else (.waiting, [.write start (len - start)])
    else (.sent processed, [])
  | w :: ws =>
    if start < len then
      if start < 0 ∨ lineSize < len then (.undefined, [.write start (len - start)])
      else
        let r := sslSendMessage len (start + w) w ws
        (r.1, .write start (len - start) :: r.2)
    else (.sent processed, [])

/-- The error code after `ssl_recv_message`: everything but the end of the file is an error,
    even if reading may be tried again. -/
def errorAfter (code : Nat) : ReadResult → Nat
  | .data _ _ => code
  | .zeroReturn => code
  | _ => errSslReadError

/-- How the loop for the header ends. -/
inductive HeaderEnd
  | waiting
  | failed (code : Nat)
  | done (headers : HttpHeaders) (remaining : Bytes) (past : List ReadResult) (code : Nat)
      (rest : List ReadResult)

/-- The loop for the header. When there is nothing to read yet, `add_data` is called all the
    same and hands nothing back. -/
def headerLoop (h : HttpHeaders) (remaining : Bytes) (past : List ReadResult) (code : Nat) :
    List ReadResult → HeaderEnd
  | [] => if h.isComplete then .done h remaining past code [] else .waiting
  | r :: rs =>
    if h.isComplete then .done h remaining past code (r :: rs)
    else
      match r with
      | .zeroReturn => .done h remaining (past ++ [r]) code rs
      | .error => .failed (errorAfter code r)
      | _ => headerLoop (h.addData r.bytes).1 (h.addData r.bytes).2 (past ++ [r])
          (errorAfter code r) rs

/-- A loop that reads until something else than octets comes. -/
def drain (past : List ReadResult) (response : Bytes) (code : Nat) :
    List ReadResult → Option (List ReadResult × Bytes × Nat × List ReadResult)
  | [] => none
  | r :: rs =>
    if r.IsData then drain (past ++ [r]) (response ++ r.bytes) code rs
    else some (past ++ [r], response, errorAfter code r, rs)

/-- What is asked of the header. Each call may throw; of the values only the status is
    kept. -/
def replyFields (h : HttpHeaders) : Except NoReturn Int :=
  match h.getReplyProtocol with
  | .error e => .error e
  | .ok _ =>
    match h.getReplyStatus with
    | .error e => .error e
    | .ok status =>
      match h.getContentLength with
      | .error e => .error e
      | .ok _ => .ok status

/-- How a request ends: it still waits, it returns, something is thrown, it goes on without
    an end, or it did something undefined. -/
inductive Outcome
  | waiting
  | returned (ret : Bool)
  | thrown (e : Thrown)
  | endless
  | undefined
  deriving DecidableEq

/-- Nothing catches what is thrown. -/
def NoReturn.outcome : NoReturn → Outcome
  | .thrown e => .thrown e
  | .endless => .endless

theorem NoReturn.outcome_ne_returned (e : NoReturn) (ret : Bool) : e.outcome ≠ .returned ret := by
  cases e with
  | thrown e => exact Outcome.noConfusion
  | endless => exact Outcome.noConfusion

/-- The second loop of `http_get`, after its own shutdown, and the shutdown that ends it. -/
def awaitShutdown (c : Calls) (past rest : List ReadResult) (r : Results) : Outcome × Results :=
  match drain past r.httpResponse r.errorCode rest with
  | none => (.waiting, r)
  | some (past, response, code, _) =>
    let r := { r with errorCode := code, httpResponse := response }
    if c.sslShutdown past ≠ 1 then (.returned false, { r with errorCode := errSslShutdown2Error })
    else (.returned true, r)

/-- What `http_get` does after the header: the accessors, the first loop, and a shutdown. -/
def receiveBody (c : Calls) (h : HttpHeaders) (past rest : List ReadResult) (r : Results) :
    Outcome × Results :=
  match replyFields h with
  | .error e => (e.outcome, r)
  | .ok status =>
    let r := { r with httpResultCode := status }
    match drain past r.httpResponse r.errorCode rest with
    | none => (.waiting, r)
    | some (past, response, code, rest) =>
      let r := { r with errorCode := code, httpResponse := response }
      if c.sslShutdown past < 0 then
        (.returned false, { r with errorCode := errSslShutdown1Error })
      else if c.sslShutdown past ≠ 1 then awaitShutdown c past rest r
      else (.returned true, r)

/-- The part of `http_get` that reads the reply. -/
def receive (c : Calls) (r : Results) : Outcome × Results :=
  match headerLoop clear [] [] r.errorCode c.sslRead with
  | .waiting => (.waiting, r)
  | .failed code =>
    (.returned false, { r with errorCode := if code = 0 then errSslRecvMsg else code })
  | .done h remaining past code rest =>
    receiveBody c h past rest
      { r with errorCode := code, httpResponse := r.httpResponse ++ remaining }

/-- A request: how it ends, what it leaves, and what was seen of it. -/
structure Request where
  outcome : Outcome
  results : Results
  events : List ClientEvent

/-- `http_get`. -/
def httpGet (o : Options) (beyond : Nat → UInt8) (fileUrl : Bytes) (c : Calls) (r : Results) :
    Request :=
  let r := { r with httpResponse := [] }
  -- Nothing is sent before the peer has passed the check.
  match setupError o c with
  | some code => ⟨.returned false, { r with errorCode := code }, []⟩
  | none =>
    match sslPrint1609Status o beyond c.psidReceived c.verifyResult c.certChain r with
    | none => ⟨.undefined, r, []⟩
    | some (false, r) =>
      ⟨.returned false, if r.errorCode = 0 then { r with errorCode := errRfc8902Print1609 } else r,
        [.status false]⟩
    | some (true, r) =>
      match sslSendMessage (snprintfLen (requestText o fileUrl)) 0 0 c.sslWrite with
      | (.waiting, events) => ⟨.waiting, r, .status true :: events⟩
      | (.undefined, events) => ⟨.undefined, r, .status true :: events⟩
      | (.sent processed, events) =>
        if processed < 0 then
          ⟨.returned false, if r.errorCode = 0 then { r with errorCode := errSslSendMsg } else r,
            .status true :: events⟩
        else ⟨(receive c r).1, (receive c r).2, .status true :: events⟩

/-- The results when a request starts. -/
def Results.clear : Results := ⟨[], 0, 0, [], 0, [], []⟩

/-- `Rfc8902_httpGet`. -/
def rfc8902HttpGet (o : Options) (beyond : Nat → UInt8) (fileUrl : Bytes) (c : Calls) : Request :=
  httpGet o beyond fileUrl c Results.clear

/-- Results that the loop for the header goes through, from one state of the parser to
    another: none of them ends it, and the header is not complete before the last. -/
structure HeaderReads (h : HttpHeaders) (remaining : Bytes) (hdr : List ReadResult)
    (h' : HttpHeaders) (remaining' : Bytes) : Prop where
  retry : ∀ r ∈ hdr, r.Retry
  parsed : feed h remaining (hdr.map ReadResult.bytes) = (h', remaining', [])

theorem headerReads_nil (h : HttpHeaders) (remaining : Bytes) :
    HeaderReads h remaining [] h remaining :=
  ⟨fun _ hr => absurd hr List.not_mem_nil, rfl⟩

/-- The loop goes through one result and then the others. -/
theorem headerReads_cons {h h' : HttpHeaders} {remaining remaining' : Bytes} {r : ReadResult}
    {hdr : List ReadResult} :
    HeaderReads h remaining (r :: hdr) h' remaining' ↔ h.isComplete = false ∧ r.Retry ∧
      HeaderReads (h.addData r.bytes).1 (h.addData r.bytes).2 hdr h' remaining' := by
  constructor
  · rintro ⟨hretry, hparsed⟩
    rw [List.map_cons, feed] at hparsed
    split at hparsed
    · simp only [Prod.mk.injEq, reduceCtorEq, and_false] at hparsed
    · rename_i hc
      exact ⟨Bool.not_eq_true _ ▸ hc, hretry r (List.mem_cons_self ..),
        fun x hx => hretry x (List.mem_cons_of_mem r hx), hparsed⟩
  · rintro ⟨hc, hr, hretry, hparsed⟩
    refine ⟨fun x hx => ?_, ?_⟩
    · rcases List.mem_cons.mp hx with rfl | hx
      · exact hr
      · exact hretry x hx
    · rw [List.map_cons, feed, hc]
      exact hparsed

/-- The loop on results that it goes through. -/
theorem headerLoop_append {h h' : HttpHeaders} {remaining remaining' : Bytes}
    {hdr : List ReadResult} (hh : HeaderReads h remaining hdr h' remaining')
    (past : List ReadResult) (code : Nat) (rest : List ReadResult) :
    headerLoop h remaining past code (hdr ++ rest) =
      headerLoop h' remaining' (past ++ hdr) (hdr.foldl errorAfter code) rest := by
  induction hdr generalizing h remaining past code with
  | nil =>
      have hparsed := hh.parsed
      rw [List.map_nil, feed, Prod.mk.injEq, Prod.mk.injEq] at hparsed
      rw [List.nil_append, List.append_nil, List.foldl_nil, hparsed.1, hparsed.2.1]
  | cons r hdr ih =>
      rcases headerReads_cons.mp hh with ⟨hc, hr, hrest⟩
      have happ : past ++ r :: hdr = past ++ [r] ++ hdr := by
        rw [List.append_assoc, List.singleton_append]
      rw [List.cons_append, List.foldl_cons, happ, ← ih hrest]
      -- A result that is no error is parsed, with no octets unless it has some.
      cases r with
      | data b bs => simp only [headerLoop, hc, Bool.false_eq_true, if_false]
      | wantRead => simp only [headerLoop, hc, Bool.false_eq_true, if_false]
      | wantWrite => simp only [headerLoop, hc, Bool.false_eq_true, if_false]
      | zeroReturn => exact absurd hr id
      | error => exact absurd hr id

/-- The loop stops when the header is complete. -/
theorem headerLoop_complete {h : HttpHeaders} (hc : h.isComplete = true) (remaining : Bytes)
    (past : List ReadResult) (code : Nat) (rest : List ReadResult) :
    headerLoop h remaining past code rest = .done h remaining past code rest := by
  cases rest with
  | nil => rw [headerLoop, if_pos hc]
  | cons r rs =>
      unfold headerLoop
      rw [if_pos hc]

/-- Every list of results starts with some that the loop goes through, until the header is
    complete, or the results end, or one comes that ends the loop. -/
theorem headerLoop_split (h : HttpHeaders) (remaining : Bytes) (reads : List ReadResult) :
    ∃ hdr rest h' remaining', reads = hdr ++ rest ∧ HeaderReads h remaining hdr h' remaining' ∧
      (h'.isComplete = true ∨ (h'.isComplete = false ∧
        (rest = [] ∨ (∃ tl, rest = .zeroReturn :: tl) ∨ ∃ tl, rest = .error :: tl))) := by
  induction reads generalizing h remaining with
  | nil =>
      refine ⟨[], [], h, remaining, rfl, headerReads_nil h remaining, ?_⟩
      cases hc : h.isComplete with
      | true => exact Or.inl rfl
      | false => exact Or.inr ⟨rfl, Or.inl rfl⟩
  | cons r rs ih =>
      cases hc : h.isComplete with
      | true => exact ⟨[], r :: rs, h, remaining, rfl, headerReads_nil h remaining, Or.inl hc⟩
      | false =>
          -- A result the loop goes through belongs to the first part, even without octets.
          by_cases hr : r.Retry
          · rcases ih (h.addData r.bytes).1 (h.addData r.bytes).2 with
              ⟨hdr, rest, h', remaining', heq, hreads, hend⟩
            exact ⟨r :: hdr, rest, h', remaining', by rw [heq, List.cons_append],
              headerReads_cons.mpr ⟨hc, hr, hreads⟩, hend⟩
          · refine ⟨[], r :: rs, h, remaining, rfl, headerReads_nil h remaining,
              Or.inr ⟨hc, Or.inr ?_⟩⟩
            cases r with
            | data b bs => exact absurd trivial hr
            | wantRead => exact absurd trivial hr
            | wantWrite => exact absurd trivial hr
            | zeroReturn => exact Or.inl ⟨rs, rfl⟩
            | error => exact Or.inr ⟨rs, rfl⟩

/-- The loop on octets. -/
theorem drain_append {body : List ReadResult} (hb : ∀ r ∈ body, r.IsData)
    (past : List ReadResult) (response : Bytes) (code : Nat) (rest : List ReadResult) :
    drain past response code (body ++ rest) =
      drain (past ++ body) (response ++ dataOf body) code rest := by
  induction body generalizing past response with
  | nil => simp only [List.nil_append, List.append_nil, dataOf, List.flatMap_nil]
  | cons r body ih =>
      rw [List.cons_append, drain, if_pos (hb r (List.mem_cons_self ..)),
        ih (fun x hx => hb x (List.mem_cons_of_mem r hx))]
      simp only [dataOf, List.flatMap_cons, List.append_assoc, List.singleton_append]

theorem drain_end {e : ReadResult} (he : ¬ e.IsData) (past : List ReadResult) (response : Bytes)
    (code : Nat) (rest : List ReadResult) :
    drain past response code (e :: rest) =
      some (past ++ [e], response, errorAfter code e, rest) := by
  rw [drain, if_neg he]

/-- Every list of results starts with octets, until it ends or something else comes. -/
theorem drain_split (reads : List ReadResult) :
    (∀ r ∈ reads, r.IsData) ∨
      ∃ body e rest, reads = body ++ e :: rest ∧ (∀ r ∈ body, r.IsData) ∧ ¬ e.IsData := by
  induction reads with
  | nil => exact Or.inl (fun r hr => absurd hr List.not_mem_nil)
  | cons r rs ih =>
      by_cases hr : r.IsData
      · rcases ih with hall | ⟨body, e, rest, heq, hb, he⟩
        · exact Or.inl (List.forall_mem_cons.mpr ⟨hr, hall⟩)
        · exact Or.inr ⟨r :: body, e, rest, by rw [heq, List.cons_append],
            List.forall_mem_cons.mpr ⟨hr, hb⟩, he⟩
      · exact Or.inr ⟨[], r, rs, rfl, fun x hx => absurd hx List.not_mem_nil, hr⟩

/-- A loop on nothing but octets waits for more. -/
theorem drain_waits {body : List ReadResult} (hb : ∀ r ∈ body, r.IsData)
    (past : List ReadResult) (response : Bytes) (code : Nat) :
    drain past response code body = none := by
  have happ := drain_append hb past response code []
  rw [List.append_nil] at happ
  rw [happ, drain]

/-- A step that fails leaves an error. -/
theorem setupError_ne_zero {o : Options} {c : Calls} {code : Nat} (h : setupError o c = some code) :
    code ≠ 0 := by
  rcases Option.map_eq_some_iff.mp h with ⟨step, hstep, rfl⟩
  have hmem := List.mem_of_find?_eq_some hstep
  have hall : ∀ step ∈ setupSteps o c, step.2 ≠ 0 := by
    simp only [setupSteps, List.forall_mem_cons, List.not_mem_nil, false_imp_iff, implies_true,
      and_true]
    decide
  exact hall step hmem

/-- The second loop on octets that something else ends. -/
theorem awaitShutdown_end {body : List ReadResult} (hb : ∀ r ∈ body, r.IsData) {e : ReadResult}
    (he : ¬ e.IsData) (c : Calls) (past rest : List ReadResult) (r : Results) :
    awaitShutdown c past (body ++ e :: rest) r =
      let r := { r with
        errorCode := errorAfter r.errorCode e, httpResponse := r.httpResponse ++ dataOf body }
      if c.sslShutdown (past ++ body ++ [e]) ≠ 1 then
        (.returned false, { r with errorCode := errSslShutdown2Error })
      else (.returned true, r) := by
  rw [awaitShutdown, drain_append hb, drain_end he]

theorem awaitShutdown_waits {body : List ReadResult} (hb : ∀ r ∈ body, r.IsData) (c : Calls)
    (past : List ReadResult) (r : Results) : awaitShutdown c past body r = (.waiting, r) := by
  rw [awaitShutdown, drain_waits hb]

/-- The first loop on octets that something else ends. -/
theorem receiveBody_end {h : HttpHeaders} {status : Int} (hh : replyFields h = .ok status)
    {body : List ReadResult} (hb : ∀ r ∈ body, r.IsData) {e : ReadResult} (he : ¬ e.IsData)
    (c : Calls) (past rest : List ReadResult) (r : Results) :
    receiveBody c h past (body ++ e :: rest) r =
      let r := { r with
        httpResultCode := status
        errorCode := errorAfter r.errorCode e
        httpResponse := r.httpResponse ++ dataOf body }
      if c.sslShutdown (past ++ body ++ [e]) < 0 then
        (.returned false, { r with errorCode := errSslShutdown1Error })
      else if c.sslShutdown (past ++ body ++ [e]) ≠ 1 then
        awaitShutdown c (past ++ body ++ [e]) rest r
      else (.returned true, r) := by
  simp only [receiveBody, hh, drain_append hb, drain_end he]

theorem receiveBody_waits {h : HttpHeaders} {status : Int} (hh : replyFields h = .ok status)
    {body : List ReadResult} (hb : ∀ r ∈ body, r.IsData) (c : Calls) (past : List ReadResult)
    (r : Results) : (receiveBody c h past body r).1 = .waiting := by
  simp only [receiveBody, hh, drain_waits hb]

/-- A header that is not complete is not asked for anything without an exception. -/
theorem replyFields_incomplete {h : HttpHeaders} (hc : h.isComplete = false) :
    replyFields h = .error (.thrown (.text "Header is not complete")) := by
  have hparts : h.replyParts = .error (.thrown (.text "Header is not complete")) := by
    rw [replyParts, hc]
    rfl
  rw [replyFields, getReplyProtocol, hparts]
  rfl

section Receive

variable {c : Calls} {hdr rest : List ReadResult} {h : HttpHeaders} {remaining : Bytes}

/-- The loop for the header has gone through its results. -/
theorem headerLoop_reads (hread : c.sslRead = hdr ++ rest)
    (hreads : HeaderReads clear [] hdr h remaining) (code : Nat) :
    headerLoop clear [] [] code c.sslRead =
      headerLoop h remaining hdr (hdr.foldl errorAfter code) rest := by
  rw [hread, headerLoop_append hreads, List.nil_append]

/-- The header is complete. -/
theorem receive_complete (hread : c.sslRead = hdr ++ rest)
    (hreads : HeaderReads clear [] hdr h remaining) (hc : h.isComplete = true) (r : Results) :
    receive c r = receiveBody c h hdr rest { r with
      errorCode := hdr.foldl errorAfter r.errorCode
      httpResponse := r.httpResponse ++ remaining } := by
  simp only [receive, headerLoop_reads hread hreads, headerLoop_complete hc]

/-- Reading fails for good before the header is complete. -/
theorem receive_error (hread : c.sslRead = hdr ++ .error :: rest)
    (hreads : HeaderReads clear [] hdr h remaining) (hc : h.isComplete = false) (r : Results) :
    receive c r = (.returned false, { r with errorCode := errSslReadError }) := by
  simp only [receive, headerLoop_reads hread hreads, headerLoop, hc, Bool.false_eq_true, if_false,
    errorAfter]
  rfl

/-- Reading the reply, by how the loop for the header ends. -/
theorem receive_split (c : Calls) (r : Results) :
    ∃ hdr rest h remaining, c.sslRead = hdr ++ rest ∧ HeaderReads clear [] hdr h remaining ∧
      (h.isComplete = true ∨
        (h.isComplete = false ∧ ((receive c r).1 = .waiting ∨ ∃ e, (receive c r).1 = .thrown e)) ∨
        (h.isComplete = false ∧ ∃ tl, rest = .error :: tl)) := by
  rcases headerLoop_split clear [] c.sslRead with ⟨hdr, rest, h, remaining, hread, hreads, hend⟩
  refine ⟨hdr, rest, h, remaining, hread, hreads, ?_⟩
  have hloop := headerLoop_reads hread hreads
  rcases hend with hc | ⟨hc, rfl | ⟨tl, rfl⟩ | ⟨tl, rfl⟩⟩
  · exact Or.inl hc
  · refine Or.inr (Or.inl ⟨hc, Or.inl ?_⟩)
    simp only [receive, hloop, headerLoop, hc, Bool.false_eq_true, if_false]
  · refine Or.inr (Or.inl ⟨hc, Or.inr ⟨.text "Header is not complete", ?_⟩⟩)
    simp only [receive, hloop, headerLoop, hc, Bool.false_eq_true, if_false, receiveBody,
      replyFields_incomplete hc, NoReturn.outcome]
  · exact Or.inr (Or.inr ⟨hc, tl, rfl⟩)

end Receive

/-- Calls that all succeed, for a peer. -/
def passingCalls (peer : PeerReport) : Calls where
  socket := true
  inetAddr := true
  gethostbyname := true
  connect := true
  sslCtxNew := true
  sslCtxSetMinProtoVersion := true
  sslNew := true
  sslSet1609SecEntAddr := true
  sslEnableRfc8902Support := true
  sslUse1609CertByHash := true
  sslUse1609Psid := true
  sslSetFd := true
  sslConnect := true
  psidReceived := some (some peer)
  verifyResult := 0
  certChain := (false, [])
  sslWrite := []
  sslRead := []
  sslShutdown _ := 0

theorem setupError_passingCalls (o : Options) (peer : PeerReport) :
    setupError o (passingCalls peer) = none := by
  have hvalues : sslSetRfc8902Values o (passingCalls peer) = true := by
    simp only [sslSetRfc8902Values, passingCalls, Bool.or_true, Bool.and_self]
  simp only [setupError, setupSteps, hvalues]
  rfl

end Iso21177
