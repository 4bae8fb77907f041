import Iso21177.Lib.Turns
import Iso21177.Ssl.PeerReport
import Iso21177.Ssl.Safety

/-!
# The Dialogue of a Handshake

What a handshake of TLS 1.3 is for, apart from how either side carries it out: one dialogue of
two speakers, the client and the server. A `Stage` says how far it has come, and
`Stage.next` which line may come next and where it leads. Up to the end of the handshake it is
one side's turn at each stage (`takesTurns_next`); then tickets, new keys and requests for a
certificate may cross.

A connection object has said and heard the lines of its record since it was last cleared
(`SSL.dialogue`). A change of cipher specification is no line of it: in TLS 1.3 it says
nothing and is dropped before the handshake sees it. The states of the code are many more
than the stages, and not the same on both sides. `SSL.stage` is the stage that a state stands
for.

## Main definitions

* `Stage`, `Line`, `Stage.next`: The dialogue.
* `Stage.turn`: Whose turn it is.
* `Stage.asked`: Whether a certificate of the client was asked for.
* `Stage.unversioned`, `Stage.early`: The stages up to the answer, and up to the request.
* `Obs.line`, `SSL.dialogue`: What was said and heard.
* `SSL.asked`: Whether a side takes a certificate to be asked for.
* `clientStage`, `serverStage`, `SSL.stage`: The stage of a state.

## Theorems

* `takesTurns_next`: The turns are kept.
* `asked_congr`: What `SSL.asked` rests on.
* `dialogue_grows`, `dialogue_recv`, `dialogue_sent`, `dialogue_cleared`: What a step adds.
-/

namespace Iso21177

variable {ω : Type}

/-- How far a handshake has come. -/
inductive Stage
  | start
  | hello (again : Bool)
  | retry
  | answer
  | extensions
  | request
  | serverCert (asked : Bool)
  | serverVerify (asked : Bool)
  | serverFinished (asked : Bool)
  | clientCert
  | clientVerify
  | connected
  | laterRequest
  deriving DecidableEq, Repr

/-- A message, and whether the server said it. -/
abbrev Line := Bool × Msg

/-- A ServerHello that sends the client back. -/
def Msg.retry : Msg → Bool
  | .serverHello hrr _ _ => hrr
  | _ => false

/-- Where a line leads, if it may be said. -/
def Stage.next (q : Stage) (l : Line) : Option Stage :=
  match q, l.1, l.2.mt with
  | .start, false, .clientHello => some (.hello false)
  -- The client is sent back once at most.
  | .hello again, true, .serverHello =>
    if l.2.retry then (if again then none else some .retry) else some .answer
  | .retry, false, .clientHello => some (.hello true)
  | .answer, true, .encryptedExtensions => some .extensions
  | .extensions, true, .certificateRequest => some .request
  | .extensions, true, .certificate => some (.serverCert false)
  -- A session that is resumed needs no certificate.
  | .extensions, true, .finished => some (.serverFinished false)
  | .request, true, .certificate => some (.serverCert true)
  | .serverCert asked, true, .certificateVerify => some (.serverVerify asked)
  | .serverVerify asked, true, .finished => some (.serverFinished asked)
  | .serverFinished true, false, .certificate => some .clientCert
  | .serverFinished false, false, .finished => some .connected
  | .clientCert, false, .certificateVerify => some .clientVerify
  -- A client may answer that it has none.
  | .clientCert, false, .finished => some .connected
  | .clientVerify, false, .finished => some .connected
  | .connected, true, .newsessionTicket => some .connected
  | .connected, _, .keyUpdate => some .connected
  | .connected, true, .certificateRequest => some .laterRequest
  | .laterRequest, true, .newsessionTicket => some .laterRequest
  | .laterRequest, _, .keyUpdate => some .laterRequest
  | .laterRequest, false, .certificate => some .clientCert
  | _, _, _ => none

/-- The side whose turn it is, `true` for the server. -/
def Stage.turn : Stage → Option Bool
  | .start | .retry | .serverFinished _ | .clientCert | .clientVerify => some false
  | .hello _ | .answer | .extensions | .request | .serverCert _ | .serverVerify _ => some true
  | .connected | .laterRequest => none

/-- The stages before the version is known. -/
def Stage.unversioned : Stage → Bool
  | .start | .hello _ | .retry => true
  | _ => false

/-- The stages before a certificate of the client may be asked for. -/
def Stage.early : Stage → Bool
  | .start | .hello _ | .retry | .answer | .extensions => true
  | _ => false

/-- Whether a certificate of the client was asked for, where that matters. -/
def Stage.asked : Stage → Option Bool
  | .start | .hello _ | .retry | .answer | .extensions => some false
  | .request => some true
  | .serverCert asked | .serverVerify asked | .serverFinished asked => some asked
  | .clientCert | .clientVerify | .connected | .laterRequest => none

/-- Nobody speaks out of turn. -/
theorem takesTurns_next : TakesTurns Prod.fst Stage.next Stage.turn := by
  rintro q ⟨b, m⟩ q' c hnext hturn
  simp only [Stage.next] at hnext
  split at hnext <;> first
    | exact absurd hnext (by simp only [reduceCtorEq, not_false_eq_true])
    | (simp only [Stage.turn, Option.some.injEq] at hturn
       exact hturn)
    | exact absurd hturn (by simp only [Stage.turn, reduceCtorEq, not_false_eq_true])

/-- The line of an entry, on the server or on the client. -/
def Obs.line (server : Bool) : Obs → Option Line
  | .recv m => some (!server, m)
  | .sent m _ => if m.mt = .changeCipherSpec then none else some (server, m)
  | .exchange .. | .clear => none

/-- What was said and heard since the object was cleared, in order. -/
def SSL.dialogue (s : SSL ω) : List Line :=
  ((sinceClear s.trace).filterMap (Obs.line s.server)).reverse

/-- A certificate of the client was asked for, as this side has it. -/
def SSL.asked (s : SSL ω) : Bool :=
  if s.server then s.tmp.certRequest else s.tmp.certReq ≠ 0

theorem asked_congr {s t : SSL ω} (hsv : t.server = s.server)
    (hreq : t.tmp.certReq = s.tmp.certReq) (hrequest : t.tmp.certRequest = s.tmp.certRequest) :
    t.asked = s.asked := by
  simp only [SSL.asked, hsv, hreq, hrequest]

/-- The stage of a client. -/
def clientStage (st : HandState) (tls13 : Bool) (hrr : HrrState) (pha : PhaState) (asked : Bool) :
    Option Stage :=
  match st with
  | .before => some .start
  | .cwClntHello => some (.hello (hrr ≠ .none))
  | .crSrvrHello => some (if tls13 then .answer else .retry)
  | .cwChange => some (if tls13 then .serverFinished asked else .retry)
  | .crEncryptedExtensions => some .extensions
  | .crCertReq => some (if pha = .requested then .laterRequest else .request)
  | .crCert => some (.serverCert asked)
  | .crCertVrfy => some (.serverVerify asked)
  | .crFinished => some (.serverFinished asked)
  | .cwCert => some .clientCert
  | .cwCertVrfy => some .clientVerify
  | .cwFinished | .ok | .crSessionTicket | .crKeyUpdate | .cwKeyUpdate => some .connected
  | _ => none

/-- The stage of a server. -/
def serverStage (st : HandState) (hrr : HrrState) (pha : PhaState) (asked : Bool) :
    Option Stage :=
  match st with
  | .before => some .start
  | .srClntHello => some (.hello (hrr = .complete))
  | .swSrvrHello | .swChange => some (if hrr = .pending then .retry else .answer)
  | .swEncryptedExtensions => some .extensions
  | .swCertReq => some (if pha = .requestPending then .laterRequest else .request)
  | .swCert => some (.serverCert asked)
  | .swCertVrfy => some (.serverVerify asked)
  | .swFinished => some (.serverFinished asked)
  -- The server waits, for another ClientHello or for the client to finish.
  | .earlyData => some (if hrr = .pending then .retry else .serverFinished asked)
  | .srCert => some .clientCert
  | .srCertVrfy => some .clientVerify
  | .srFinished => some .connected
  | .ok | .swSessionTicket | .srKeyUpdate | .swKeyUpdate =>
    some (if pha = .requested then .laterRequest else .connected)
  | _ => none

/-- The stage a state stands for. -/
def SSL.stage (s : SSL ω) : Option Stage :=
  if s.server then
    serverStage s.statem.handState s.helloRetryRequest s.postHandshakeAuth s.asked
  else
    clientStage s.statem.handState s.tls13 s.helloRetryRequest s.postHandshakeAuth s.asked

section Lines

/-- Exchanges with the security entity are no lines. -/
theorem dialogue_grows {s t : SSL ω} (hsv : t.server = s.server) (h : s.Grows t) :
    t.dialogue = s.dialogue := by
  rcases h with ⟨l, hl, hex⟩
  have hclear : Obs.clear ∉ l := fun hmem => absurd (hex _ hmem) Bool.false_ne_true
  have hnone : l.filterMap (Obs.line s.server) = [] := by
    rw [List.filterMap_eq_nil_iff]
    intro o ho
    have hx := hex o ho
    cases o with
    | exchange req reply => rfl
    | _ => exact absurd hx Bool.false_ne_true
  simp only [SSL.dialogue, hsv, hl, sinceClear_append hclear, List.filterMap_append, hnone,
    List.nil_append]

theorem dialogue_note {s : SSL ω} {o : Obs} (h : o ≠ .clear) :
    (s.note o).dialogue = s.dialogue ++ (Obs.line s.server o).toList := by
  have hsince : sinceClear (s.note o).trace = o :: sinceClear s.trace :=
    sinceClear_append (l := [o]) (by simp only [List.mem_singleton]; exact h.symm)
  have hsv : (s.note o).server = s.server := rfl
  simp only [SSL.dialogue, hsv, hsince]
  cases hl : Obs.line s.server o with
  | none => simp only [List.filterMap_cons, hl, Option.toList_none, List.append_nil]
  | some l => simp only [List.filterMap_cons, hl, List.reverse_cons, Option.toList_some]

/-- A message that was read is a line of the other side. -/
theorem dialogue_recv {m : Msg} (s : SSL ω) :
    (s.note (.recv m)).dialogue = s.dialogue ++ [(!s.server, m)] :=
  dialogue_note Obs.noConfusion

/-- A message that was written is a line of this side, unless it changes the cipher
    specification. -/
theorem dialogue_sent {m : Msg} {src : Source} (s : SSL ω) :
    (s.note (.sent m src)).dialogue =
      s.dialogue ++ if m.mt = .changeCipherSpec then [] else [(s.server, m)] := by
  rw [dialogue_note Obs.noConfusion]
  simp only [Obs.line]
  split <;> rfl

theorem dialogue_cleared {s : SSL ω} {tr : List Obs} (h : s.trace = .clear :: tr) :
    s.dialogue = [] := by
  simp only [SSL.dialogue, h, sinceClear]
  rfl

end Lines

end Iso21177
