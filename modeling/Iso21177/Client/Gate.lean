import Iso21177.Client.HttpGet

/-!
# The Gate before the Request

The client writes to the connection only after it has checked the peer, and it should
accept nobody but a peer for the configured service that has one of the permissions asked
for. Which permissions those are is decided by the array that was passed last, however
the options were set before.

Up to the size of the buffer this is so. An array that is longer is compared with what lies
behind the buffer, so a peer may be accepted for a permission nobody asked for, unless the
array asks for everything there (`gate_iff`).

## Main definitions

* `Gated`: Nothing is written before the check, and the check lets the right peers through.

## Theorems

* `events_passed`, `events_httpGet`: What is seen of a request.
* `gated_of_authorised`: The gate holds if the check does.
* `not_gated`: A peer that passes and should not.
* `gate_iff`, `long_request_accepted`: The gate, for every sequence of settings.
-/

namespace Iso21177

open Packet

/-- Whatever is written is written after the check returned true, and it did so for a peer
    that is authorised. -/
def Gated (psid : UInt64) (req : Bytes) (c : Calls) (g : Request) : Prop :=
  (∀ pre post start len, g.events = pre ++ .write start len :: post → .status true ∈ pre) ∧
    (.status true ∈ g.events → ∃ peer, c.psidReceived = some (some peer) ∧ Authorised psid req peer)

/-- After the check succeeded, what is seen is that and the calls that write. -/
theorem events_passed {o : Options} {beyond : Nat → UInt8} {c : Calls} {r r' : Results}
    (hsetup : setupError o c = none)
    (hstatus : sslPrint1609Status o beyond c.psidReceived c.verifyResult c.certChain
      { r with httpResponse := [] } = some (true, r')) (fileUrl : Bytes) :
    (httpGet o beyond fileUrl c r).events = .status true ::
      (sslSendMessage (snprintfLen (requestText o fileUrl)) 0 0 c.sslWrite).2 := by
  simp only [httpGet, hsetup, hstatus]
  cases hsend : sslSendMessage (snprintfLen (requestText o fileUrl)) 0 0 c.sslWrite with
  | mk e events =>
    cases e with
    | waiting => rfl
    | undefined => rfl
    | sent processed =>
        simp only
        split <;> rfl

/-- Otherwise nothing is seen but that it failed. -/
theorem events_httpGet (o : Options) (beyond : Nat → UInt8) (fileUrl : Bytes) (c : Calls)
    (r : Results) :
    (∀ e ∈ (httpGet o beyond fileUrl c r).events, e = .status false) ∨
    ∃ r', setupError o c = none ∧
      sslPrint1609Status o beyond c.psidReceived c.verifyResult c.certChain
        { r with httpResponse := [] } = some (true, r') := by
  cases hsetup : setupError o c with
  | some code =>
      refine Or.inl (fun e he => ?_)
      simp only [httpGet, hsetup, List.not_mem_nil] at he
  | none =>
      cases hstatus : sslPrint1609Status o beyond c.psidReceived c.verifyResult c.certChain
        { r with httpResponse := [] } with
      | none =>
          refine Or.inl (fun e he => ?_)
          simp only [httpGet, hsetup, hstatus, List.not_mem_nil] at he
      | some p =>
          rcases p with ⟨b, r'⟩
          cases b with
          | true => exact Or.inr ⟨r', rfl, rfl⟩
          | false =>
              refine Or.inl (fun e he => ?_)
              simp only [httpGet, hsetup, hstatus, List.mem_singleton] at he
              exact he

/-- The gate holds if the check lets the right peers through. -/
theorem gated_of_authorised {o : Options} {beyond : Nat → UInt8} {fileUrl : Bytes} {c : Calls}
    {psid : UInt64} {req : Bytes}
    (h : ∀ r r', sslPrint1609Status o beyond c.psidReceived c.verifyResult c.certChain r =
      some (true, r') → ∃ peer, c.psidReceived = some (some peer) ∧ Authorised psid req peer) :
    Gated psid req c (rfc8902HttpGet o beyond fileUrl c) := by
  -- A refused peer: nothing is written. An accepted one: its event comes first.
  rcases events_httpGet o beyond fileUrl c Results.clear with hev | ⟨r', hsetup, hstatus⟩
  · refine ⟨fun pre post start len heq => ?_, fun hmem => ?_⟩
    · have hmem : ClientEvent.write start len ∈ (rfc8902HttpGet o beyond fileUrl c).events := by
        rw [heq]
        exact List.mem_append_right pre (List.mem_cons_self ..)
      exact absurd (hev _ hmem) (by simp only [reduceCtorEq, not_false_eq_true])
    · exact absurd (hev _ hmem) (by simp only [ClientEvent.status.injEq, Bool.true_eq_false,
        not_false_eq_true])
  · refine ⟨fun pre post start len heq => ?_, fun _ => h _ _ hstatus⟩
    rw [rfc8902HttpGet, events_passed hsetup hstatus] at heq
    cases pre with
    | nil => exact absurd heq (by simp only [List.nil_append, List.cons.injEq, reduceCtorEq,
        false_and, not_false_eq_true])
    | cons e pre =>
        rw [List.cons_append, List.cons.injEq] at heq
        rw [← heq.1]
        exact List.mem_cons_self ..

/-- A peer passes the gate that should not. -/
theorem not_gated (host : Bytes) (port : Nat) (ops : List Setter) (fileUrl : Bytes)
    (hpsid : lastPsid (Options.init host port) ops ≠ 0) (hreq : ¬ SspCovered (lastSsp ops)) :
    ∃ beyond peer, Reported peer ∧
      ¬ Gated (lastPsid (Options.init host port) ops) (lastSsp ops) (passingCalls peer)
        (rfc8902HttpGet (configure (Options.init host port) ops) beyond fileUrl
          (passingCalls peer)) := by
  rcases configure_ssp (o := Options.init host port) ⟨rfl, rfl⟩ ops with ⟨hssp, hlen⟩
  rw [← configure_psid] at hpsid ⊢
  -- Both the memory behind the buffer and the peer are chosen against the options.
  rcases unauthorised_accepted hssp hlen hpsid hreq (false, []) Results.clear with
    ⟨beyond, peer, hpeer, hno, r', hstatus⟩
  refine ⟨beyond, peer, hpeer, fun hgate => ?_⟩
  have hpassed := events_passed (r := Results.clear)
    (setupError_passingCalls (configure (Options.init host port) ops) peer) hstatus fileUrl
  have hmem : .status true ∈ (rfc8902HttpGet (configure (Options.init host port) ops) beyond
      fileUrl (passingCalls peer)).events := by
    rw [rfc8902HttpGet, hpassed]
    exact List.mem_cons_self ..
  rcases hgate.2 hmem with ⟨peer', hrec, hauth⟩
  rw [passingCalls, Option.some.injEq, Option.some.injEq] at hrec
  rw [← hrec] at hauth
  exact hno hauth

/-- However the options were set, the gate holds for every peer, every content of the memory
    and every outcome of the calls exactly if the service is zero, which no peer has, or
    everything behind the buffer is wanted. -/
theorem gate_iff (host : Bytes) (port : Nat) (ops : List Setter) :
    (∀ (beyond : Nat → UInt8) (fileUrl : Bytes) (c : Calls),
      (∀ peer, c.psidReceived = some (some peer) → Reported peer) →
      Gated (lastPsid (Options.init host port) ops) (lastSsp ops) c
        (rfc8902HttpGet (configure (Options.init host port) ops) beyond fileUrl c)) ↔
      (lastPsid (Options.init host port) ops = 0 ∨ SspCovered (lastSsp ops)) := by
  constructor
  · intro hall
    by_contra hno
    rw [not_or] at hno
    -- Otherwise one peer, one memory and calls that all succeed get through.
    rcases not_gated host port ops [] hno.1 hno.2 with ⟨beyond, peer, hpeer, hgate⟩
    refine hgate (hall beyond [] (passingCalls peer) (fun peer' hrec => ?_))
    rw [passingCalls, Option.some.injEq, Option.some.injEq] at hrec
    rw [← hrec]
    exact hpeer
  · intro hcond beyond fileUrl c hrep
    rcases configure_ssp (o := Options.init host port) ⟨rfl, rfl⟩ ops with ⟨hssp, hlen⟩
    rw [← configure_psid] at hcond ⊢
    refine gated_of_authorised (fun r r' hstatus => ?_)
    rcases sslPrint1609Status_true hstatus with ⟨-, peer, hrec, hpsid, -⟩
    refine ⟨peer, hrec, ?_⟩
    -- No peer that is reported has the service zero.
    rcases hcond with hzero | hcov
    · rw [hzero] at hpsid
      exact absurd hpsid (hrep peer hrec).1
    · rw [hrec] at hstatus
      exact authorised_of_status hssp hlen hcov (hrep peer hrec) hstatus

/-- One octet more than the buffer holds, with nothing asked for in it. -/
theorem long_request_accepted :
    ¬ ∀ (host : Bytes) (port : Nat) (ops : List Setter) (beyond : Nat → UInt8) (fileUrl : Bytes)
      (c : Calls), (∀ peer, c.psidReceived = some (some peer) → Reported peer) →
      Gated (lastPsid (Options.init host port) ops) (lastSsp ops) c
        (rfc8902HttpGet (configure (Options.init host port) ops) beyond fileUrl c) := by
  intro hall
  have hreq : ¬ SspCovered (1 :: List.replicate 32 0) := by
    intro hcov
    exact absurd (hcov 32 (by decide) (by decide) (by decide)) (by decide)
  rcases not_gated [] 443 [.ssp (some (1 :: List.replicate 32 0))] [] (by decide) hreq with
    ⟨beyond, peer, hpeer, hgate⟩
  refine hgate (hall [] 443 _ beyond [] (passingCalls peer) (fun peer' hrec => ?_))
  rw [passingCalls, Option.some.injEq, Option.some.injEq] at hrec
  rw [← hrec]
  exact hpeer

end Iso21177
