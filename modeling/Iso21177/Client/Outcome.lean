import Iso21177.Client.Grant
import Iso21177.Client.ReplyText

/-!
# Reporting the Outcome

A request should return, and return true exactly if it leaves no error code. It does
neither in general. The accessors of the header throw when the server closes before the
header is complete, when the status line has fewer than two words, and when a number is
none or is too large, and nothing catches that. A read that finds nothing yet leaves an
error code, although the loop tries again and the request may succeed. A peer that was not
verified has its permissions freed twice. The loop that sends moves back when a call fails,
and the request may be longer than its buffer.

`consistent_iff` says exactly when none of this happens, for calls that return a number of
results, and `request_consistent_iff` for endless sequences of results, of which a request
that returns uses up a finite part.

## Main definitions

* `Agrees`, `Consistent`: The request returns, and its result agrees with the error code.
* `Sends`, `SendsFrom`: The results with which the request is written, and its rest.
* `BodyEnds`, `ReplyEnds`: The results with which the reply is read to its end.
* `PeerRefused`, `PeerAccepted`: How the check of the peer ends, if it does.
* `Reportable`: The results with which the outcome is reported.
* `Calls.first`: The first results of endless sequences.

## Theorems

* `sendsFrom_zero`, `sendsFrom_past`, `sendsFrom_cons`, `sslSendMessage_sent_iff`,
  `sent_nonneg`: Sending.
* `foldl_errorAfter`, `errorAfter_eq_zero_iff`: The error code of reads.
* `agrees_true`, `agrees_false`, `not_agrees`: Results that agree.
* `awaitShutdown_agrees_iff`, `receiveBody_agrees_iff`, `receive_agrees_iff`: Reading.
* `setupError_some_iff`, `status_accepted_iff`, `status_ends`, `status_refused_iff`: The calls
  before that.
* `sslSendMessage_append`, `awaitShutdown_append`, `receiveBody_append`, `receive_append`,
  `rfc8902HttpGet_stable`: Results that come too late do not matter.
* `consistent_iff`, `request_consistent_iff`: When the outcome is reported.
* `closed_server_throws`: The server closes at once.
-/

namespace Iso21177

open Packet HttpHeaders

/-- A return value that agrees with the error code. -/
def Agrees (p : Outcome × Results) : Prop :=
  ∃ ret, p.1 = .returned ret ∧ (ret = true ↔ p.2.errorCode = 0)

/-- The request returns, and what it returns agrees with the error code. -/
def Consistent (g : Request) : Prop := Agrees (g.outcome, g.results)

/-- The calls write a text of a length: it fits the buffer, and the offset stays in it until
    the end is reached. -/
def Sends (len : Int) (ws : List Int) : Prop :=
  ∃ n ≤ ws.length, len ≤ (ws.take n).sum ∧
    ∀ k < n, len ≤ lineSize ∧ 0 ≤ (ws.take k).sum ∧ (ws.take k).sum < len

/-- After the header, the first loop ends and the shutdown fails, or it succeeds without an
    error before it, or a second loop follows and its shutdown fails or succeeds without an
    error before it. -/
def BodyEnds (sslShutdown : List ReadResult → Int) (past rest : List ReadResult) (clean : Prop) :
    Prop :=
  ∃ body e tl, rest = body ++ e :: tl ∧ (∀ r ∈ body, r.IsData) ∧ ¬ e.IsData ∧
    (sslShutdown (past ++ body ++ [e]) < 0 ∨
      (sslShutdown (past ++ body ++ [e]) = 1 ∧ clean ∧ e = .zeroReturn) ∨
      (0 ≤ sslShutdown (past ++ body ++ [e]) ∧ sslShutdown (past ++ body ++ [e]) ≠ 1 ∧
        ∃ body' e' tl', tl = body' ++ e' :: tl' ∧ (∀ r ∈ body', r.IsData) ∧ ¬ e'.IsData ∧
          (sslShutdown (past ++ body ++ [e] ++ body' ++ [e']) ≠ 1 ∨
            (clean ∧ e = .zeroReturn ∧ e' = .zeroReturn))))

/-- The reply is read to an end that is reported. Either reading fails for good before the
    header has ended, or the header is one whose fields can be had and the body ends; a
    read that found nothing before the header had ended is not clean. -/
def ReplyEnds (sslShutdown : List ReadResult → Int) (reads : List ReadResult) : Prop :=
  ∃ hdr rest, reads = hdr ++ rest ∧ (∀ r ∈ hdr, r.Retry) ∧ Unended [] hdr ∧
    ((¬ HeaderEnded (headerText [] hdr) ∧ ∃ tl, rest = .error :: tl) ∨
      (HeaderEnded (headerText [] hdr) ∧ FieldsReadable (headerLines (headerText [] hdr)) ∧
        BodyEnds sslShutdown hdr rest (∀ r ∈ hdr, r.IsData)))

/-- The peer is refused without freeing its permissions twice: nothing is known of it, or it
    was not verified and has no permissions, or it was and does not pass. -/
def PeerRefused (o : Options) (beyond : Nat → UInt8) (c : Calls) : Prop :=
  c.psidReceived = some none ∨
    ∃ peer, c.psidReceived = some (some peer) ∧
      ((c.verifyResult ≠ 0 ∧ peer.ssp = []) ∨ (c.verifyResult = 0 ∧ ¬ Passes o beyond peer))

/-- The peer was verified, and passes. -/
def PeerAccepted (o : Options) (beyond : Nat → UInt8) (c : Calls) : Prop :=
  ∃ peer, c.psidReceived = some (some peer) ∧ c.verifyResult = 0 ∧ Passes o beyond peer

/-- The outcome is reported: a step before the handshake fails, or the peer is refused, or it
    is accepted, the request is written, and the reply ends. -/
def Reportable (o : Options) (beyond : Nat → UInt8) (fileUrl : Bytes) (c : Calls) : Prop :=
  (∃ step ∈ setupSteps o c, step.1 = false) ∨
    ((∀ step ∈ setupSteps o c, step.1 = true) ∧
      (PeerRefused o beyond c ∨
        (PeerAccepted o beyond c ∧ Sends (snprintfLen (requestText o fileUrl)) c.sslWrite ∧
          ReplyEnds c.sslShutdown c.sslRead)))

/-- The calls write a text of a length from an offset on. -/
def SendsFrom (len start : Int) (ws : List Int) : Prop :=
  ∃ n ≤ ws.length, len ≤ start + (ws.take n).sum ∧
    ∀ k < n, len ≤ lineSize ∧ 0 ≤ start + (ws.take k).sum ∧ start + (ws.take k).sum < len

theorem sendsFrom_zero (len : Int) (ws : List Int) : SendsFrom len 0 ws ↔ Sends len ws := by
  simp only [SendsFrom, Sends, Int.zero_add]

/-- Past the end nothing is left to write. -/
theorem sendsFrom_past {len start : Int} (h : len ≤ start) (ws : List Int) :
    SendsFrom len start ws := by
  refine ⟨0, Nat.zero_le _, ?_, fun k hk => absurd hk (Nat.not_lt_zero k)⟩
  rw [List.take_zero, List.sum_nil]
  omega

/-- Before the end a call is made from inside the buffer, and the rest is written from the
    offset its result leads to. -/
theorem sendsFrom_cons {len start : Int} (h : start < len) (w : Int) (ws : List Int) :
    SendsFrom len start (w :: ws) ↔
      len ≤ lineSize ∧ 0 ≤ start ∧ SendsFrom len (start + w) ws := by
  constructor
  · rintro ⟨n, hn, hle, hall⟩
    cases n with
    | zero =>
        rw [List.take_zero, List.sum_nil] at hle
        omega
    | succ n =>
        have hfirst := hall 0 (Nat.succ_pos n)
        rw [List.take_zero, List.sum_nil] at hfirst
        rw [List.take_succ_cons, List.sum_cons] at hle
        refine ⟨hfirst.1, by omega, n, Nat.le_of_succ_le_succ hn, by omega, fun k hk => ?_⟩
        have hk' := hall (k + 1) (by omega)
        rw [List.take_succ_cons, List.sum_cons] at hk'
        omega
  · rintro ⟨hfits, h0, n, hn, hle, hall⟩
    -- The call before these is made at the offset itself.
    refine ⟨n + 1, Nat.succ_le_succ hn, ?_, fun k hk => ?_⟩
    · rw [List.take_succ_cons, List.sum_cons]
      omega
    · cases k with
      | zero =>
          rw [List.take_zero, List.sum_nil]
          omega
      | succ k =>
          have hk' := hall k (by omega)
          rw [List.take_succ_cons, List.sum_cons]
          omega

/-- Sending from an offset on. -/
theorem sslSendMessage_sent_iff (len start processed : Int) (ws : List Int) :
    (∃ p, (sslSendMessage len start processed ws).1 = .sent p) ↔ SendsFrom len start ws := by
  induction ws generalizing start processed with
  -- Without results left the loop has ended only if the offset is past the text.
  | nil =>
      rw [sslSendMessage]
      by_cases hlt : start < len
      · rw [if_pos hlt]
        refine iff_of_false ?_ ?_
        · rintro ⟨p, hp⟩
          split at hp <;> exact absurd hp (by simp only [reduceCtorEq, not_false_eq_true])
        · rintro ⟨n, -, hle, -⟩
          rw [List.take_nil, List.sum_nil] at hle
          omega
      · rw [if_neg hlt]
        exact iff_of_true ⟨processed, rfl⟩ (sendsFrom_past (by omega) [])
  | cons w ws ih =>
      rw [sslSendMessage]
      by_cases hlt : start < len
      · rw [if_pos hlt, sendsFrom_cons hlt]
        -- A negative offset, or a text longer than the line buffer, is outside the buffer.
        by_cases hbad : start < 0 ∨ lineSize < len
        · rw [if_pos hbad]
          refine iff_of_false ?_ ?_
          · rintro ⟨p, hp⟩
            exact absurd hp (by simp only [reduceCtorEq, not_false_eq_true])
          · rintro ⟨hfits, h0, -⟩
            omega
        · rw [if_neg hbad]
          simp only
          rw [ih]
          constructor
          · intro h
            exact ⟨by omega, by omega, h⟩
          · rintro ⟨-, -, h⟩
            exact h
      · rw [if_neg hlt]
        exact iff_of_true ⟨processed, rfl⟩ (sendsFrom_past (by omega) (w :: ws))

/-- The last call that wrote moved forward, so the result of sending is never an error. -/
theorem sent_nonneg {len start processed p : Int} {ws : List Int}
    (hp : start < len ∨ 0 ≤ processed)
    (h : (sslSendMessage len start processed ws).1 = .sent p) : 0 ≤ p := by
  induction ws generalizing start processed with
  | nil =>
      rw [sslSendMessage] at h
      split at h
      · split at h <;> exact absurd h (by simp only [reduceCtorEq, not_false_eq_true])
      · rw [SendEnd.sent.injEq] at h
        omega
  | cons w ws ih =>
      rw [sslSendMessage] at h
      split at h
      · split at h
        · exact absurd h (by simp only [reduceCtorEq, not_false_eq_true])
        · exact ih (by omega) h
      · rw [SendEnd.sent.injEq] at h
        omega

/-- Of the results without octets only the end of the file leaves no error. -/
theorem errorAfter_eq_zero_iff {code : Nat} {e : ReadResult} (he : ¬ e.IsData) :
    errorAfter code e = 0 ↔ code = 0 ∧ e = .zeroReturn := by
  cases e with
  | data b bs => exact absurd trivial he
  | zeroReturn => simp only [errorAfter, and_true]
  | wantRead => exact iff_of_false (Nat.succ_ne_zero _) (by simp only [reduceCtorEq,
      and_false, not_false_eq_true])
  | wantWrite => exact iff_of_false (Nat.succ_ne_zero _) (by simp only [reduceCtorEq,
      and_false, not_false_eq_true])
  | error => exact iff_of_false (Nat.succ_ne_zero _) (by simp only [reduceCtorEq,
      and_false, not_false_eq_true])

/-- In the loop for the header every read that found nothing leaves an error. -/
theorem foldl_errorAfter {hdr : List ReadResult} (hretry : ∀ r ∈ hdr, r.Retry) (code : Nat) :
    hdr.foldl errorAfter code = 0 ↔ code = 0 ∧ ∀ r ∈ hdr, r.IsData := by
  induction hdr generalizing code with
  | nil => simp only [List.foldl_nil, List.not_mem_nil, false_imp_iff, implies_true, and_true]
  | cons r hdr ih =>
      rw [List.foldl_cons, ih (fun x hx => hretry x (List.mem_cons_of_mem r hx)),
        List.forall_mem_cons]
      have hr := hretry r (List.mem_cons_self ..)
      cases r with
      | data b bs => simp only [errorAfter, ReadResult.IsData, true_and]
      | zeroReturn => exact absurd hr id
      | wantRead =>
          simp only [errorAfter, errSslReadError, ReadResult.IsData, false_and, and_false,
            reduceCtorEq]
      | wantWrite =>
          simp only [errorAfter, errSslReadError, ReadResult.IsData, false_and, and_false,
            reduceCtorEq]
      | error => exact absurd hr id

/-- A request that returns true agrees if it leaves no error. -/
theorem agrees_true {r : Results} : Agrees (.returned true, r) ↔ r.errorCode = 0 := by
  constructor
  · rintro ⟨ret, hret, hiff⟩
    rw [Outcome.returned.injEq] at hret
    exact hiff.mp hret.symm
  · intro hzero
    exact ⟨true, rfl, iff_of_true rfl hzero⟩

/-- One that returns false agrees if it leaves one. -/
theorem agrees_false {r : Results} (hr : r.errorCode ≠ 0) : Agrees (.returned false, r) :=
  ⟨false, rfl, iff_of_false (by decide) hr⟩

/-- Something that does not return agrees with nothing. -/
theorem not_agrees {p : Outcome × Results} (h : ∀ ret, p.1 ≠ .returned ret) : ¬ Agrees p := by
  rintro ⟨ret, hret, -⟩
  exact h ret hret

/-- The second loop and the shutdown behind it. -/
theorem awaitShutdown_agrees_iff (c : Calls) (past rest : List ReadResult) (r : Results) :
    Agrees (awaitShutdown c past rest r) ↔
      ∃ body e tl, rest = body ++ e :: tl ∧ (∀ r ∈ body, r.IsData) ∧ ¬ e.IsData ∧
        (c.sslShutdown (past ++ body ++ [e]) ≠ 1 ∨ (r.errorCode = 0 ∧ e = .zeroReturn)) := by
  -- The second call to shut down comes after the first result without octets.
  have hend : ∀ body e tl, (∀ r ∈ body, ReadResult.IsData r) → ¬ ReadResult.IsData e →
      (Agrees (awaitShutdown c past (body ++ e :: tl) r) ↔
        (c.sslShutdown (past ++ body ++ [e]) ≠ 1 ∨ (r.errorCode = 0 ∧ e = .zeroReturn))) := by
    intro body e tl hb he
    rw [awaitShutdown_end hb he]
    simp only
    by_cases hone : c.sslShutdown (past ++ body ++ [e]) = 1
    · rw [if_neg (fun hne => hne hone), agrees_true, ← errorAfter_eq_zero_iff he]
      simp only [hone, ne_eq, not_true_eq_false, false_or]
    · rw [if_pos hone]
      exact iff_of_true (agrees_false (Nat.succ_ne_zero _)) (Or.inl hone)
  constructor
  · intro hagree
    rcases drain_split rest with hall | ⟨body, e, tl, rfl, hb, he⟩
    · rw [awaitShutdown_waits hall] at hagree
      exact absurd hagree (not_agrees (fun ret => by simp only [ne_eq, reduceCtorEq,
        not_false_eq_true]))
    · exact ⟨body, e, tl, rfl, hb, he, (hend body e tl hb he).mp hagree⟩
  · rintro ⟨body, e, tl, rfl, hb, he, hcond⟩
    exact (hend body e tl hb he).mpr hcond

/-- What comes after the header. -/
theorem receiveBody_agrees_iff (c : Calls) (h : HttpHeaders) (past rest : List ReadResult)
    {r : Results} {clean : Prop} (hclean : r.errorCode = 0 ↔ clean) :
    Agrees (receiveBody c h past rest r) ↔
      (∃ status, replyFields h = .ok status) ∧ BodyEnds c.sslShutdown past rest clean := by
  cases hf : replyFields h with
  | error e =>
      refine iff_of_false (not_agrees (fun ret => ?_)) ?_
      · simp only [receiveBody, hf]
        exact e.outcome_ne_returned ret
      · rintro ⟨⟨status, hstatus⟩, -⟩
        exact absurd hstatus (by simp only [reduceCtorEq, not_false_eq_true])
  | ok status =>
      simp only [Except.ok.injEq, exists_eq', true_and]
      -- How the request ends is up to the first call to shut down, and to the second if
      -- the first did not finish.
      have hend : ∀ body e tl, (∀ r ∈ body, ReadResult.IsData r) → ¬ ReadResult.IsData e →
          (Agrees (receiveBody c h past (body ++ e :: tl) r) ↔
            (c.sslShutdown (past ++ body ++ [e]) < 0 ∨
              (c.sslShutdown (past ++ body ++ [e]) = 1 ∧ clean ∧ e = .zeroReturn) ∨
              (0 ≤ c.sslShutdown (past ++ body ++ [e]) ∧ c.sslShutdown (past ++ body ++ [e]) ≠ 1 ∧
                ∃ body' e' tl', tl = body' ++ e' :: tl' ∧ (∀ r ∈ body', r.IsData) ∧ ¬ e'.IsData ∧
                  (c.sslShutdown (past ++ body ++ [e] ++ body' ++ [e']) ≠ 1 ∨
                    (clean ∧ e = .zeroReturn ∧ e' = .zeroReturn))))) := by
        intro body e tl hb he
        rw [receiveBody_end hf hb he]
        simp only
        by_cases hneg : c.sslShutdown (past ++ body ++ [e]) < 0
        · rw [if_pos hneg]
          exact iff_of_true (agrees_false (Nat.succ_ne_zero _)) (Or.inl hneg)
        · rw [if_neg hneg]
          by_cases hone : c.sslShutdown (past ++ body ++ [e]) = 1
          · rw [if_neg (fun hne => hne hone), agrees_true, errorAfter_eq_zero_iff he, hclean]
            simp only [hone, ne_eq, not_true_eq_false, false_and, and_false, or_false, true_and]
            exact ⟨fun hok => Or.inr hok, fun hor => hor.resolve_left (by decide)⟩
          · rw [if_pos hone, awaitShutdown_agrees_iff]
            simp only [errorAfter_eq_zero_iff he, hclean, and_assoc]
            constructor
            · intro hex
              exact Or.inr (Or.inr ⟨Int.not_lt.mp hneg, hone, hex⟩)
            · rintro (hlt | ⟨heq, -⟩ | ⟨-, -, hex⟩)
              · exact absurd hlt hneg
              · exact absurd heq hone
              · exact hex
      constructor
      · intro hagree
        -- Without an end of the body the request is still waiting.
        rcases drain_split rest with hall | ⟨body, e, tl, rfl, hb, he⟩
        · refine absurd hagree (not_agrees (fun ret => ?_))
          rw [receiveBody_waits hf hall]
          simp only [ne_eq, reduceCtorEq, not_false_eq_true]
        · exact ⟨body, e, tl, rfl, hb, he, (hend body e tl hb he).mp hagree⟩
      · rintro ⟨body, e, tl, rfl, hb, he, hcond⟩
        exact (hend body e tl hb he).mpr hcond

/-- Reading the reply. -/
theorem receive_agrees_iff (c : Calls) {r : Results} (hr : r.errorCode = 0) :
    Agrees (receive c r) ↔ ReplyEnds c.sslShutdown c.sslRead := by
  -- The code is still zero behind the header if every read of it gave octets.
  have hcode : ∀ hdr : List ReadResult, (∀ x ∈ hdr, ReadResult.Retry x) →
      (hdr.foldl errorAfter r.errorCode = 0 ↔ ∀ x ∈ hdr, x.IsData) := by
    intro hdr hretry
    rw [foldl_errorAfter hretry]
    simp only [hr, true_and]
  constructor
  · intro hagree
    rcases receive_split c r with ⟨hdr, rest, h, remaining, hread, hreads, hend⟩
    have ht := taken_headerReads taken_clear hreads
    rcases (headerReads_iff taken_clear [] hdr).mp ⟨h, remaining, hreads⟩ with ⟨hretry, hun⟩
    refine ⟨hdr, rest, hread, hretry, hun, ?_⟩
    rw [← isComplete_iff ht, Bool.not_eq_true]
    -- A complete header, a request that waits or throws, and a read error.
    rcases hend with hc | ⟨-, hw | ⟨e, he⟩⟩ | ⟨hc, tl, rfl⟩
    · rw [receive_complete hread hreads hc, receiveBody_agrees_iff c h hdr rest (hcode hdr hretry),
        replyFields_ok_iff hc, ht.lines] at hagree
      exact Or.inr ⟨hc, hagree⟩
    · refine absurd hagree (not_agrees (fun ret => ?_))
      rw [hw]
      simp only [ne_eq, reduceCtorEq, not_false_eq_true]
    · refine absurd hagree (not_agrees (fun ret => ?_))
      rw [he]
      simp only [ne_eq, reduceCtorEq, not_false_eq_true]
    · exact Or.inl ⟨hc, tl, rfl⟩
  · -- The results say where the loop for the header stops, so the parser is there too.
    rintro ⟨hdr, rest, hread, hretry, hun, hend⟩
    rcases (headerReads_iff taken_clear [] hdr).mpr ⟨hretry, hun⟩ with ⟨h, remaining, hreads⟩
    have ht := taken_headerReads taken_clear hreads
    rw [← isComplete_iff ht, Bool.not_eq_true] at hend
    rcases hend with ⟨hc, tl, rfl⟩ | ⟨hc, hfields, hbody⟩
    · rw [receive_error hread hreads hc]
      exact agrees_false (Nat.succ_ne_zero _)
    · rw [receive_complete hread hreads hc, receiveBody_agrees_iff c h hdr rest (hcode hdr hretry),
        replyFields_ok_iff hc, ht.lines]
      exact ⟨hfields, hbody⟩

/-- A step before the handshake fails. -/
theorem setupError_some_iff (o : Options) (c : Calls) :
    (∃ code, setupError o c = some code) ↔ ∃ step ∈ setupSteps o c, step.1 = false := by
  rw [← Option.isSome_iff_exists, setupError, Option.isSome_map, List.find?_isSome]
  simp only [Bool.not_eq_true']

section Status

variable (o : Options) (beyond : Nat → UInt8) (c : Calls) (r : Results)

/-- The check accepts the peer. -/
theorem status_accepted_iff :
    (∃ r', sslPrint1609Status o beyond c.psidReceived c.verifyResult c.certChain r =
      some (true, r')) ↔ PeerAccepted o beyond c := by
  constructor
  · rintro ⟨r', h⟩
    rcases sslPrint1609Status_true h with ⟨-, peer, hpeer, hpass⟩
    refine ⟨peer, hpeer, ?_, hpass⟩
    by_contra hne
    rw [hpeer, sslPrint1609Status, if_pos hne] at h
    split at h
    · simp only [Option.some.injEq, Prod.mk.injEq, Bool.false_eq_true, false_and] at h
    · exact absurd h (by simp only [reduceCtorEq, not_false_eq_true])
  · rintro ⟨peer, hpeer, hzero, hpass⟩
    rw [hpeer, hzero]
    exact (sslPrint1609Status_iff o beyond peer c.certChain r).mpr hpass

/-- The check of a verified peer ends. -/
theorem status_ends (peer : PeerReport) :
    ∃ ret r', sslPrint1609Status o beyond (some (some peer)) 0 c.certChain r = some (ret, r') := by
  simp only [sslPrint1609Status, ne_eq, not_true_eq_false, if_false]
  repeat' split
  all_goals exact ⟨_, _, rfl⟩

/-- The check refuses the peer. -/
theorem status_refused_iff :
    (∃ r', sslPrint1609Status o beyond c.psidReceived c.verifyResult c.certChain r =
      some (false, r')) ↔ PeerRefused o beyond c := by
  rw [PeerRefused]
  cases hrec : c.psidReceived with
  | none =>
      simp only [sslPrint1609Status, reduceCtorEq, exists_false, false_and, or_false]
  | some received =>
      cases received with
      | none => exact iff_of_true ⟨_, rfl⟩ (Or.inl rfl)
      | some peer =>
          simp only [Option.some.injEq, reduceCtorEq, false_or, exists_eq_left']
          by_cases hzero : c.verifyResult = 0
          · -- A verified peer is accepted or refused, and accepted if it passes.
            rw [hzero, ← sslPrint1609Status_iff o beyond peer c.certChain r]
            rcases status_ends o beyond c r peer with ⟨ret, r', hret⟩
            simp only [hret, ne_eq, not_true_eq_false, false_and, true_and, false_or,
              Option.some.injEq, Prod.mk.injEq, exists_and_left, exists_eq', and_true,
              Bool.not_eq_true]
          · simp only [sslPrint1609Status, ne_eq, hzero, not_false_eq_true, if_true, true_and,
              false_and, or_false]
            split
            · exact iff_of_true ⟨_, rfl⟩ ‹_›
            · exact iff_of_false (by simp only [reduceCtorEq, exists_false, not_false_eq_true]) ‹_›

end Status

/-- The outcome of a request is reported exactly with these results of its calls. -/
theorem consistent_iff (o : Options) (beyond : Nat → UInt8) (fileUrl : Bytes) (c : Calls) :
    Consistent (rfc8902HttpGet o beyond fileUrl c) ↔ Reportable o beyond fileUrl c := by
  have hclear : ({ Results.clear with httpResponse := [] } : Results) = Results.clear := rfl
  simp only [Consistent, Reportable, rfc8902HttpGet, httpGet, hclear]
  have hstep := setupError_some_iff o c
  cases hsetup : setupError o c with
  | some code =>
      rw [hsetup] at hstep
      exact iff_of_true (agrees_false (setupError_ne_zero hsetup)) (Or.inl (hstep.mp ⟨code, rfl⟩))
  | none =>
      have hall : ∀ step ∈ setupSteps o c, step.1 = true := by
        intro step hmem
        by_contra hno
        rcases hstep.mpr ⟨step, hmem, Bool.not_eq_true _ ▸ hno⟩ with ⟨code, hcode⟩
        rw [hsetup] at hcode
        exact absurd hcode (by simp only [reduceCtorEq, not_false_eq_true])
      have hnone : ¬ ∃ step ∈ setupSteps o c, step.1 = false := by
        rintro ⟨step, hmem, hfalse⟩
        rw [hall step hmem] at hfalse
        exact absurd hfalse (by decide)
      rw [← status_refused_iff o beyond c Results.clear, ← status_accepted_iff o beyond c
        Results.clear]
      simp only [hnone, false_or, eq_true hall, true_and]
      cases hstatus : sslPrint1609Status o beyond c.psidReceived c.verifyResult c.certChain
        Results.clear with
      | none =>
          -- The permissions were freed twice.
          simp only [reduceCtorEq, exists_false, false_and, or_false, iff_false]
          exact not_agrees (fun ret => by simp only [ne_eq, reduceCtorEq, not_false_eq_true])
      | some p =>
          rcases p with ⟨b, r⟩
          cases b with
          | false =>
              simp only [Option.some.injEq, Prod.mk.injEq, true_and, exists_eq', true_or, iff_true]
              -- A refused peer has left its error code, so the general one is not set.
              have hne := sslPrint1609Status_false hstatus
              rw [if_neg hne]
              exact agrees_false hne
          | true =>
              simp only [Option.some.injEq, Prod.mk.injEq, Bool.true_eq_false, false_and,
                exists_false, true_and, exists_eq', false_or]
              have hzero : r.errorCode = 0 := (sslPrint1609Status_true hstatus).1.1
              have hsent :=
                sslSendMessage_sent_iff (snprintfLen (requestText o fileUrl)) 0 0 c.sslWrite
              rw [sendsFrom_zero] at hsent
              cases hsend : sslSendMessage (snprintfLen (requestText o fileUrl)) 0 0 c.sslWrite with
              | mk e events =>
                rw [hsend] at hsent
                cases e with
                | waiting =>
                    -- Results that do not send the whole request are not enough.
                    simp only [reduceCtorEq, exists_false] at hsent
                    refine iff_of_false (not_agrees (fun ret => ?_)) (fun hok => hsent.mpr hok.1)
                    simp only [ne_eq, reduceCtorEq, not_false_eq_true]
                | undefined =>
                    -- What is written is not all in the buffer.
                    simp only [reduceCtorEq, exists_false] at hsent
                    refine iff_of_false (not_agrees (fun ret => ?_)) (fun hok => hsent.mpr hok.1)
                    simp only [ne_eq, reduceCtorEq, not_false_eq_true]
                | sent processed =>
                    -- The test for a negative count is never met.
                    have hpos : 0 ≤ processed :=
                      sent_nonneg (Or.inr (Int.le_refl 0)) (congrArg Prod.fst hsend)
                    simp only
                    rw [if_neg (Int.not_lt.mpr hpos)]
                    have hs : Sends (snprintfLen (requestText o fileUrl)) c.sslWrite :=
                      hsent.mp ⟨processed, rfl⟩
                    simp only [hs, true_and]
                    exact receive_agrees_iff c hzero

/-- The calls with the first results of endless sequences. -/
def Calls.first (c : Calls) (writes : Nat → Int) (reads : Nat → ReadResult) (n : Nat) : Calls :=
  { c with sslWrite := (List.range n).map writes, sslRead := (List.range n).map reads }

section Stable

variable {c c' : Calls}

/-- More results do not matter to a loop that has ended. -/
theorem sslSendMessage_append {len start processed : Int} {ws : List Int}
    (h : (sslSendMessage len start processed ws).1 ≠ .waiting) (ws' : List Int) :
    sslSendMessage len start processed (ws ++ ws') = sslSendMessage len start processed ws := by
  -- The loop has ended within the results it had, so the added ones are never taken.
  induction ws generalizing start processed with
  | nil =>
      rw [sslSendMessage] at h ⊢
      by_cases hlt : start < len
      · rw [if_pos hlt] at h ⊢
        by_cases hbad : start < 0 ∨ lineSize < len
        · rw [if_pos hbad]
          cases ws' with
          | nil => rw [List.append_nil, sslSendMessage, if_pos hlt, if_pos hbad]
          | cons w ws' => rw [List.nil_append, sslSendMessage, if_pos hlt, if_pos hbad]
        · rw [if_neg hbad] at h
          exact absurd rfl h
      · rw [if_neg hlt]
        cases ws' with
        | nil => rw [List.append_nil, sslSendMessage, if_neg hlt]
        | cons w ws' => rw [List.nil_append, sslSendMessage, if_neg hlt]
  | cons w ws ih =>
      rw [List.cons_append]
      rw [sslSendMessage] at h ⊢
      rw [sslSendMessage]
      by_cases hlt : start < len
      · rw [if_pos hlt] at h
        rw [if_pos hlt, if_pos hlt]
        by_cases hbad : start < 0 ∨ lineSize < len
        · rw [if_pos hbad, if_pos hbad]
        · rw [if_neg hbad] at h
          rw [if_neg hbad, if_neg hbad, ih h]
      · rw [if_neg hlt, if_neg hlt]

/-- Results after the end of the second loop are not asked for. -/
theorem awaitShutdown_append (hs : c'.sslShutdown = c.sslShutdown) {past rest : List ReadResult}
    {r : Results} (h : (awaitShutdown c past rest r).1 ≠ .waiting) (l : List ReadResult) :
    awaitShutdown c' past (rest ++ l) r = awaitShutdown c past rest r := by
  rcases drain_split rest with hall | ⟨body, e, tl, rfl, hb, he⟩
  · rw [awaitShutdown_waits hall] at h
    exact absurd rfl h
  · rw [List.append_assoc, List.cons_append, awaitShutdown_end hb he, awaitShutdown_end hb he, hs]

/-- Nor are those after the end of the body. -/
theorem receiveBody_append (hs : c'.sslShutdown = c.sslShutdown) {h : HttpHeaders}
    {past rest : List ReadResult} {r : Results} (hw : (receiveBody c h past rest r).1 ≠ .waiting)
    (l : List ReadResult) :
    receiveBody c' h past (rest ++ l) r = receiveBody c h past rest r := by
  cases hf : replyFields h with
  | error e => simp only [receiveBody, hf]
  | ok status =>
      -- The request did not wait, so the body ended within the results it had.
      rcases drain_split rest with hall | ⟨body, e, tl, rfl, hb, he⟩
      · rw [receiveBody_waits hf hall] at hw
        exact absurd rfl hw
      · rw [List.append_assoc, List.cons_append]
        rw [receiveBody_end hf hb he] at hw ⊢
        rw [receiveBody_end hf hb he, hs]
        simp only at hw ⊢
        by_cases hneg : c.sslShutdown (past ++ body ++ [e]) < 0
        · rw [if_pos hneg, if_pos hneg]
        · rw [if_neg hneg] at hw
          rw [if_neg hneg, if_neg hneg]
          by_cases hone : c.sslShutdown (past ++ body ++ [e]) ≠ 1
          · rw [if_pos hone] at hw
            rw [if_pos hone, if_pos hone]
            exact awaitShutdown_append hs hw l
          · rw [if_neg hone, if_neg hone]

/-- Nor are those after the end of the reply. -/
theorem receive_append (hs : c'.sslShutdown = c.sslShutdown) {l : List ReadResult}
    (hl : c'.sslRead = c.sslRead ++ l) {r : Results} (hw : (receive c r).1 ≠ .waiting) :
    receive c' r = receive c r := by
  rcases headerLoop_split clear [] c.sslRead with ⟨hdr, rest, h, remaining, hread, hreads, hend⟩
  have hread' : c'.sslRead = hdr ++ (rest ++ l) := by
    rw [hl, hread, List.append_assoc]
  rcases hend with hc | ⟨hc, rfl | ⟨tl, rfl⟩ | ⟨tl, rfl⟩⟩
  · rw [receive_complete hread hreads hc] at hw ⊢
    rw [receive_complete hread' hreads hc]
    exact receiveBody_append hs hw l
  · simp only [receive, headerLoop_reads hread hreads, headerLoop, hc, Bool.false_eq_true,
      if_false, ne_eq, not_true_eq_false] at hw
  · simp only [receive, headerLoop_reads hread hreads, headerLoop_reads hread' hreads,
      List.cons_append, headerLoop, hc, Bool.false_eq_true, if_false, receiveBody,
      replyFields_incomplete hc]
  · rw [receive_error hread hreads hc]
    exact receive_error hread' hreads hc r

/-- Once a request has ended, further results of the calls do not change how. -/
theorem rfc8902HttpGet_stable (o : Options) (beyond : Nat → UInt8) (fileUrl : Bytes) (c : Calls)
    (writes : Nat → Int) (reads : Nat → ReadResult) {n m : Nat} (hnm : n ≤ m)
    (hw : (rfc8902HttpGet o beyond fileUrl (c.first writes reads n)).outcome ≠ .waiting) :
    rfc8902HttpGet o beyond fileUrl (c.first writes reads m) =
      rfc8902HttpGet o beyond fileUrl (c.first writes reads n) := by
  rcases Nat.exists_eq_add_of_le hnm with ⟨k, rfl⟩
  have hlist : ∀ {α : Type} (f : Nat → α), (List.range (n + k)).map f =
      (List.range n).map f ++ (List.range k).map (fun i => f (n + i)) := by
    intro α f
    rw [List.range_add, List.map_append, List.map_map]
    rfl
  simp only [rfc8902HttpGet, httpGet] at hw ⊢
  -- Nothing up to the peer check reads or writes, so both requests take the same way.
  have hsetup : ∀ j, setupError o (c.first writes reads j) = setupError o c := fun _ => rfl
  rw [hsetup] at hw
  rw [hsetup, hsetup]
  cases hse : setupError o c with
  | some code => rfl
  | none =>
      simp only [hse] at hw
      simp only [Calls.first] at hw ⊢
      cases hstatus : sslPrint1609Status o beyond c.psidReceived c.verifyResult c.certChain
        { Results.clear with httpResponse := [] } with
      | none => rfl
      | some p =>
          rcases p with ⟨b, r⟩
          cases b with
          | false => rfl
          | true =>
              simp only [hstatus] at hw ⊢
              have hsends := @sslSendMessage_append (snprintfLen (requestText o fileUrl)) 0 0
                ((List.range n).map writes)
              cases hsend : sslSendMessage (snprintfLen (requestText o fileUrl)) 0 0
                  ((List.range n).map writes) with
              | mk e events =>
                rw [hlist writes]
                simp only [hsend] at hw hsends
                cases e with
                -- The shorter sequence did not leave the loop waiting.
                | waiting => exact absurd rfl hw
                | undefined =>
                    rw [hsends (by simp only [ne_eq, reduceCtorEq, not_false_eq_true])]
                | sent processed =>
                    rw [hsends (by simp only [ne_eq, reduceCtorEq, not_false_eq_true])]
                    simp only at hw ⊢
                    by_cases hneg : processed < 0
                    · rw [if_pos hneg, if_pos hneg]
                    · rw [if_neg hneg] at hw
                      have hrec := @receive_append (c.first writes reads n)
                        (c.first writes reads (n + k)) rfl _ (hlist reads) _ hw
                      simp only [Calls.first] at hrec
                      rw [if_neg hneg, if_neg hneg, ← hlist writes, hrec]

end Stable

/-- Whatever the calls return, and however often, the request returns with a result that
    agrees with its error code exactly if the results that come first are such. -/
theorem request_consistent_iff (o : Options) (beyond : Nat → UInt8) (fileUrl : Bytes) (c : Calls)
    (writes : Nat → Int) (reads : Nat → ReadResult) :
    (∃ n, Consistent (rfc8902HttpGet o beyond fileUrl (c.first writes reads n))) ↔
      ∃ n, Reportable o beyond fileUrl (c.first writes reads n) :=
  exists_congr (fun _ => consistent_iff o beyond fileUrl _)

/-- A server that closes at once, without a reply. -/
theorem closed_server_throws :
    ¬ ∀ (o : Options) (beyond : Nat → UInt8) (fileUrl : Bytes) (c : Calls) (writes : Nat → Int)
      (reads : Nat → ReadResult),
      ∃ n, Consistent (rfc8902HttpGet o beyond fileUrl (c.first writes reads n)) := by
  intro hall
  rcases hall (Options.init [] 443) (fun _ => 0) [] (passingCalls ⟨36, [], none⟩) (fun _ => 29)
    (fun _ => .zeroReturn) with ⟨n, ret, hret, -⟩
  have hone : (rfc8902HttpGet (Options.init [] 443) (fun _ => 0) []
      ((passingCalls ⟨36, [], none⟩).first (fun _ => 29) (fun _ => .zeroReturn) 1)).outcome =
      .thrown (.text "Header is not complete") := by
    decide +kernel
  by_cases hn : n = 0
  · subst hn
    have hzero : (rfc8902HttpGet (Options.init [] 443) (fun _ => 0) []
        ((passingCalls ⟨36, [], none⟩).first (fun _ => 29) (fun _ => .zeroReturn) 0)).outcome =
        .waiting := by
      decide +kernel
    rw [hzero] at hret
    exact absurd hret (by simp only [reduceCtorEq, not_false_eq_true])
  · rw [rfc8902HttpGet_stable _ _ _ _ _ _ (Nat.one_le_iff_ne_zero.mpr hn)
      (by rw [hone]; simp only [ne_eq, reduceCtorEq, not_false_eq_true]), hone] at hret
    exact absurd hret (by simp only [reduceCtorEq, not_false_eq_true])

end Iso21177
