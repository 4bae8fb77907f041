import Iso21177.Ssl.Env

/-!
# What a Call Can Change

Most functions of a handshake touch a few fields of the connection object and
leave the rest alone. `Touches fs` says which: every field outside the list is
what it was, the handshake state is kept, and a call that succeeds leaves the
whole state machine as it found it (only a fatal error writes it).

The relation composes along calls made one after the other, so a frame is
proved for each leaf and put together with the rules of `Call`. A longer list
of fields says less, and lists are compared by `decide`.

## Main definitions

* `Field`: The fields told apart.
* `Keeps`: Only the listed fields may differ, the state machine aside.
* `Obs.isExchange`, `Obs.request`, `Obs.reply`: Exchanges of the record.
* `SSL.Grows`: The record gained exchanges.
* `Touches`: What a call can change.
* `Updates`: What a call without fatal errors can change.

## Theorems

* `keeps_refl`, `keeps_trans`, `keeps_mono`: Objects one after the other.
* `grows_refl`, `grows_trans`: The record over several calls.
* `touches_update`, `touches_exchange`: An update, an exchange.
* `touches_refl`, `touches_trans`: Calls made one after the other.
* `touches_of_true`, `updates_seq`: Calls without fatal errors.
* `touches_mono`, `touches_weaken`: A longer list says less.
* `touches_seq`, `touches_each`: The rules for sequences and loops.
* `touches_some`, `touches_same`: Calls whose result is written out.
* `touches_sslFatal`, `touches_sslFail`, `touches_runOther`: The leaves that code outside makes.
-/

namespace Iso21177

/-- The fields of the connection object that are told apart. -/
inductive Field
  | server | support | decided | psidThis | peerId | cert | certReq | certRequest | choice
  | session | verifyMode | verifyResult | tls13 | hrr | pha | phaContext | certreqsSent
  | extflags | hash | heap | other | trace
  deriving DecidableEq

variable {ω : Type}

/-- What is supported: the switch and the two masks. -/
def SSL.support (s : SSL ω) : Bool × BitVec 32 × BitVec 32 :=
  (s.ieee1609.rfc8902Support, s.ieee1609.srv.support, s.ieee1609.clnt.support)

/-- What was decided for the two roles. -/
def SSL.decided (s : SSL ω) : Option CertificateType × Option CertificateType :=
  (s.ieee1609.srv.typeDecided, s.ieee1609.clnt.typeDecided)

/-- What is stored of the peer's identity. -/
def SSL.peerId (s : SSL ω) : UInt64 × Nat × SspBuffer :=
  (s.ieee1609.psidOtherSide, s.ieee1609.sspOtherSideLen, s.ieee1609.sspOtherSide)

/-- The certificate and signature algorithm chosen for this side. -/
def SSL.choice (s : SSL ω) : Option PkeyIdx × Option SigalgLookup :=
  (s.tmp.cert, s.tmp.sigalg)

/-- Only the listed fields, and the state machine, may differ. -/
structure Keeps (fs : List Field) (s t : SSL ω) : Prop where
  server : .server ∉ fs → t.server = s.server
  support : .support ∉ fs → t.support = s.support
  decided : .decided ∉ fs → t.decided = s.decided
  psidThis : .psidThis ∉ fs → t.ieee1609.psidThisSide = s.ieee1609.psidThisSide
  peerId : .peerId ∉ fs → t.peerId = s.peerId
  cert : .cert ∉ fs → t.cert = s.cert
  certReq : .certReq ∉ fs → t.tmp.certReq = s.tmp.certReq
  certRequest : .certRequest ∉ fs → t.tmp.certRequest = s.tmp.certRequest
  choice : .choice ∉ fs → t.choice = s.choice
  session : .session ∉ fs → t.session = s.session
  verifyMode : .verifyMode ∉ fs → t.verifyMode = s.verifyMode
  verifyResult : .verifyResult ∉ fs → t.verifyResult = s.verifyResult
  tls13 : .tls13 ∉ fs → t.tls13 = s.tls13
  hrr : .hrr ∉ fs → t.helloRetryRequest = s.helloRetryRequest
  pha : .pha ∉ fs → t.postHandshakeAuth = s.postHandshakeAuth
  phaContext : .phaContext ∉ fs → t.phaContext = s.phaContext
  certreqsSent : .certreqsSent ∉ fs → t.certreqsSent = s.certreqsSent
  extflags : .extflags ∉ fs → t.extflags = s.extflags
  hash : .hash ∉ fs → t.certVerifyHash = s.certVerifyHash
  heap : .heap ∉ fs → t.heap = s.heap
  other : .other ∉ fs → t.other = s.other
  trace : .trace ∉ fs → t.trace = s.trace

/-- The entry is an exchange with the security entity. -/
def Obs.isExchange : Obs → Bool
  | .exchange .. => true
  | _ => false

/-- The request of an exchange. -/
def Obs.request : Obs → Option SecEntMsg
  | .exchange req _ => some req
  | _ => none

/-- The reply of an exchange that was used. -/
def Obs.reply : Obs → Option SecEntMsg
  | .exchange _ reply => reply
  | _ => none

/-- The record only gained exchanges. -/
def SSL.Grows (s t : SSL ω) : Prop :=
  ∃ l, t.trace = l ++ s.trace ∧ ∀ o ∈ l, o.isExchange = true

/-- Only the listed fields, and the state machine on failure, may differ, and the
    record gains exchanges at most. -/
structure Touches (fs : List Field) (s : SSL ω) (b : Bool) (t : SSL ω) : Prop
    extends Keeps fs s t where
  statem : b = true → t.statem = s.statem
  handState : t.statem.handState = s.statem.handState
  grows : s.Grows t

theorem keeps_refl (fs : List Field) (s : SSL ω) : Keeps fs s s := by
  constructor <;> intros <;> rfl

/-- What two calls keep is kept by both in turn. -/
theorem keeps_trans {fs : List Field} {s t u : SSL ω} (hst : Keeps fs s t)
    (htu : Keeps fs t u) : Keeps fs s u where
  server h := (htu.server h).trans (hst.server h)
  support h := (htu.support h).trans (hst.support h)
  decided h := (htu.decided h).trans (hst.decided h)
  psidThis h := (htu.psidThis h).trans (hst.psidThis h)
  peerId h := (htu.peerId h).trans (hst.peerId h)
  cert h := (htu.cert h).trans (hst.cert h)
  certReq h := (htu.certReq h).trans (hst.certReq h)
  certRequest h := (htu.certRequest h).trans (hst.certRequest h)
  choice h := (htu.choice h).trans (hst.choice h)
  session h := (htu.session h).trans (hst.session h)
  verifyMode h := (htu.verifyMode h).trans (hst.verifyMode h)
  verifyResult h := (htu.verifyResult h).trans (hst.verifyResult h)
  tls13 h := (htu.tls13 h).trans (hst.tls13 h)
  hrr h := (htu.hrr h).trans (hst.hrr h)
  pha h := (htu.pha h).trans (hst.pha h)
  phaContext h := (htu.phaContext h).trans (hst.phaContext h)
  certreqsSent h := (htu.certreqsSent h).trans (hst.certreqsSent h)
  extflags h := (htu.extflags h).trans (hst.extflags h)
  hash h := (htu.hash h).trans (hst.hash h)
  heap h := (htu.heap h).trans (hst.heap h)
  other h := (htu.other h).trans (hst.other h)
  trace h := (htu.trace h).trans (hst.trace h)

/-- A call that changes fewer fields. -/
theorem keeps_mono {fs gs : List Field} {s t : SSL ω} (hsub : fs ⊆ gs)
    (h : Keeps fs s t) : Keeps gs s t where
  server hn := h.server (fun hm => hn (hsub hm))
  support hn := h.support (fun hm => hn (hsub hm))
  decided hn := h.decided (fun hm => hn (hsub hm))
  psidThis hn := h.psidThis (fun hm => hn (hsub hm))
  peerId hn := h.peerId (fun hm => hn (hsub hm))
  cert hn := h.cert (fun hm => hn (hsub hm))
  certReq hn := h.certReq (fun hm => hn (hsub hm))
  certRequest hn := h.certRequest (fun hm => hn (hsub hm))
  choice hn := h.choice (fun hm => hn (hsub hm))
  session hn := h.session (fun hm => hn (hsub hm))
  verifyMode hn := h.verifyMode (fun hm => hn (hsub hm))
  verifyResult hn := h.verifyResult (fun hm => hn (hsub hm))
  tls13 hn := h.tls13 (fun hm => hn (hsub hm))
  hrr hn := h.hrr (fun hm => hn (hsub hm))
  pha hn := h.pha (fun hm => hn (hsub hm))
  phaContext hn := h.phaContext (fun hm => hn (hsub hm))
  certreqsSent hn := h.certreqsSent (fun hm => hn (hsub hm))
  extflags hn := h.extflags (fun hm => hn (hsub hm))
  hash hn := h.hash (fun hm => hn (hsub hm))
  heap hn := h.heap (fun hm => hn (hsub hm))
  other hn := h.other (fun hm => hn (hsub hm))
  trace hn := h.trace (fun hm => hn (hsub hm))

theorem grows_refl {s t : SSL ω} (h : t.trace = s.trace) : s.Grows t :=
  ⟨[], h, fun _ ho => absurd ho (List.not_mem_nil)⟩

/-- A record that grew twice has grown. -/
theorem grows_trans {s t u : SSL ω} (hst : s.Grows t) (htu : t.Grows u) : s.Grows u := by
  rcases hst with ⟨l, hl, hx⟩
  rcases htu with ⟨m, hm, hy⟩
  refine ⟨m ++ l, by rw [hm, hl, List.append_assoc], ?_⟩
  intro o ho
  rcases List.mem_append.mp ho with ho | ho
  · exact hy o ho
  · exact hx o ho

/-- An update of the object that leaves the state machine and the record. -/
theorem touches_update {fs : List Field} {s t : SSL ω} {b : Bool} (h : Keeps fs s t)
    (hst : t.statem = s.statem) (htr : t.trace = s.trace) : Touches fs s b t where
  toKeeps := h
  statem _ := hst
  handState := by rw [hst]
  grows := grows_refl htr

theorem touches_refl (fs : List Field) (s : SSL ω) (b : Bool) : Touches fs s b s :=
  touches_update (keeps_refl fs s) rfl rfl

/-- A call that succeeded, and one after it. -/
theorem touches_trans {fs : List Field} {s t u : SSL ω} {b : Bool}
    (hst : Touches fs s true t) (htu : Touches fs t b u) : Touches fs s b u where
  toKeeps := keeps_trans hst.toKeeps htu.toKeeps
  statem h := (htu.statem h).trans (hst.statem rfl)
  handState := htu.handState.trans hst.handState
  grows := grows_trans hst.grows htu.grows

/-- A call that changes fewer fields. -/
theorem touches_mono {fs gs : List Field} {s t : SSL ω} {b : Bool} (hsub : fs ⊆ gs)
    (h : Touches fs s b t) : Touches gs s b t where
  toKeeps := keeps_mono hsub h.toKeeps
  statem := h.statem
  handState := h.handState
  grows := h.grows

/-- An exchange is one more entry of the record. -/
theorem touches_exchange (s : SSL ω) (req : SecEntMsg) (reply : Option SecEntMsg) :
    Touches [.trace] s true (s.note (.exchange req reply)) where
  toKeeps := by constructor <;> intros <;> first | contradiction | rfl
  statem _ := rfl
  handState := rfl
  grows := ⟨[.exchange req reply], rfl, fun o ho => by rw [List.mem_singleton.mp ho]; rfl⟩

/-- What holds of a success holds of the same state given as a failure. -/
theorem touches_of_true {fs : List Field} {s t : SSL ω} (b : Bool) (h : Touches fs s true t) :
    Touches fs s b t where
  toKeeps := h.toKeeps
  statem _ := h.statem rfl
  handState := h.handState
  grows := h.grows

/-- The call touches the listed fields only, and raises no fatal error even when it
    fails. -/
def Updates (fs : List Field) (c : Call (SSL ω)) : Prop :=
  Call.Rel (fun s _ t => Touches fs s true t) c

/-- Two calls that report no failure of the connection. -/
theorem updates_seq {fs : List Field} {c d : Call (SSL ω)} (hc : Updates fs c)
    (hd : Updates fs d) : Updates fs (Call.seq c d) :=
  Call.rel_seq (R := fun s _ t => Touches fs s true t)
    (fun _ _ _ _ hst htu => touches_trans hst htu) hc hd

/-- Calls one after the other touch what either of them touches. -/
theorem touches_seq {fs : List Field} {c d : Call (SSL ω)} (hc : Call.Rel (Touches fs) c)
    (hd : Call.Rel (Touches fs) d) : Call.Rel (Touches fs) (Call.seq c d) :=
  Call.rel_seq (R := Touches fs) (fun _ _ _ _ hst htu => touches_trans hst htu) hc hd

/-- A loop. -/
theorem touches_each {α : Type} {fs : List Field} {f : α → Call (SSL ω)} (l : List α)
    (hf : ∀ a ∈ l, Call.Rel (Touches fs) (f a)) : Call.Rel (Touches fs) (Call.each f l) :=
  Call.rel_each (R := Touches fs) (fun s => touches_refl fs s true)
    (fun _ _ _ _ hst htu => touches_trans hst htu) l hf

/-- A call that succeeds with a known object touches what that object does. -/
theorem touches_some {fs : List Field} {s t u : SSL ω} {b : Bool} (hu : Touches fs s true u)
    (h : some (true, u) = some (b, t)) : Touches fs s b t := by
  rw [Option.some.injEq, Prod.mk.injEq] at h
  rw [← h.1, ← h.2]
  exact hu

/-- A call that returns the object as it is touches nothing. -/
theorem touches_same {fs : List Field} {s t : SSL ω} {b c : Bool}
    (h : some (c, s) = some (b, t)) : Touches fs s b t := by
  rw [Option.some.injEq, Prod.mk.injEq] at h
  rw [← h.2]
  exact touches_refl fs s b

theorem touches_weaken {fs gs : List Field} {c : Call (SSL ω)} (hsub : fs ⊆ gs)
    (h : Call.Rel (Touches fs) c) : Call.Rel (Touches gs) c :=
  fun s b t hc => touches_mono hsub (h s b t hc)

/-- Giving up changes the state machine only. -/
theorem touches_sslFatal (fs : List Field) (al : Alert) (reason : Reason) (s : SSL ω) :
    Touches fs s false (sslFatal al reason s) := by
  rw [sslFatal_eq]
  exact {
    toKeeps := by constructor <;> intros <;> rfl
    statem := fun h => absurd h (by simp only [Bool.false_eq_true, not_false_eq_true])
    handState := sslFatal_handState ..
    grows := grows_refl rfl }

theorem touches_sslFail (fs : List Field) (al : Alert) (reason : Reason) :
    Call.Rel (Touches fs) (sslFail al reason : Call (SSL ω)) :=
  Call.rel_fail (fun s => touches_sslFatal fs al reason s)

/-- Code outside changes its own part of the object. -/
theorem touches_runOther (f : List Obs → ω → Except Fault ω) :
    Call.Rel (Touches [.other]) (runOther f) := by
  intro s b t h
  unfold runOther at h
  split at h
  · exact touches_sslFail _ _ _ s b t h
  · simp only [Option.some.injEq, Prod.mk.injEq] at h
    rw [← h.1, ← h.2]
    exact touches_update (by constructor <;> intros <;> first | contradiction | rfl) rfl rfl

end Iso21177
