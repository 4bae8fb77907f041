import Iso21177.Client.HttpGet

/-!
# The Body of a Reply

The response of a request that succeeded is put together from three places: what the last
chunk of the header still held, and what the two loops behind it read. Each of the loops
stops at the first read that brings nothing, whatever the reason, so the body could be
short. It is not, because a request succeeds only if a shutdown says that the peer has
finished and everything it sent was read: a loop that stopped too early leaves something
for the next one, or the request fails.

The streams that start with an empty line are left out. The parser drops what follows such
a line in its chunk.

## Main definitions

* `Finishes`: A shutdown succeeds only after the whole stream was read.
* `plainReply`, `plainCalls`: A short reply, in three reads.

## Theorems

* `dataOf_append`, `dataOf_end`: Reads in sequence.
* `blankFirst_append`: A stream starts as its parts do.
* `awaitShutdown_true`, `receiveBody_true`, `receive_true`, `httpGet_true`: What a request
  that succeeded has read.
* `body_of_headerReads`: The surplus of the header is the start of the body.
* `response_intact`, `response_intact_split`: The response is the body of the stream.
-/

namespace Iso21177

open Packet HttpHeaders

/-- `SSL_shutdown` says that the peer has finished only after everything in the stream was
    read. -/
def Finishes (c : Calls) (S : Bytes) : Prop :=
  ∀ past, past <+: c.sslRead → c.sslShutdown past = 1 → dataOf past = S

theorem dataOf_append (rs ss : List ReadResult) : dataOf (rs ++ ss) = dataOf rs ++ dataOf ss :=
  List.flatMap_append

theorem dataOf_end {e : ReadResult} (he : ¬ e.IsData) : dataOf [e] = [] := by
  cases e with
  | data b bs => exact absurd trivial he
  | zeroReturn => rfl
  | wantRead => rfl
  | wantWrite => rfl
  | error => rfl

theorem blankFirst_append {S : Bytes} (h : blankFirst S) (T : Bytes) : blankFirst (S ++ T) := by
  induction S with
  | nil => exact absurd h (by decide)
  | cons b bs ih =>
      rw [List.cons_append]
      by_cases hb : b = lf
      · rw [hb]
        exact blankFirst_lf _
      · by_cases hc : b = cr
        · subst hc
          exact blankFirst_cr.mpr (ih (blankFirst_cr.mp h))
        · exact absurd h (not_blankFirst hb hc)

/-- The second loop succeeds: what it read is at the end of the response. -/
theorem awaitShutdown_true {c : Calls} {past rest : List ReadResult} {r : Results}
    (h : (awaitShutdown c past rest r).1 = .returned true) :
    ∃ tail, tail <+: rest ∧ c.sslShutdown (past ++ tail) = 1 ∧
      (awaitShutdown c past rest r).2.httpResponse = r.httpResponse ++ dataOf tail := by
  rcases drain_split rest with hall | ⟨body, e, tl, rfl, hb, he⟩
  · rw [awaitShutdown_waits hall] at h
    exact absurd h (by simp only [reduceCtorEq, not_false_eq_true])
  · rw [awaitShutdown_end hb he] at h ⊢
    simp only at h ⊢
    refine ⟨body ++ [e], ⟨tl, by rw [List.append_assoc, List.singleton_append]⟩, ?_⟩
    rw [← List.append_assoc, dataOf_append, dataOf_end he, List.append_nil]
    by_cases hshut : c.sslShutdown (past ++ body ++ [e]) = 1
    · rw [if_neg (fun hne => hne hshut)]
      exact ⟨hshut, rfl⟩
    · rw [if_pos hshut] at h
      exact absurd h (by simp only [Outcome.returned.injEq, Bool.false_eq_true, not_false_eq_true])

/-- What comes after the header succeeds: what was read there is at the end of the
    response. -/
theorem receiveBody_true {c : Calls} {h : HttpHeaders} {past rest : List ReadResult} {r : Results}
    (hret : (receiveBody c h past rest r).1 = .returned true) :
    ∃ tail, tail <+: rest ∧ c.sslShutdown (past ++ tail) = 1 ∧
      (receiveBody c h past rest r).2.httpResponse = r.httpResponse ++ dataOf tail := by
  cases hf : replyFields h with
  | error e =>
      simp only [receiveBody, hf] at hret
      exact absurd hret (e.outcome_ne_returned true)
  | ok status =>
      rcases drain_split rest with hall | ⟨body, e, tl, rfl, hb, he⟩
      · rw [receiveBody_waits hf hall] at hret
        exact absurd hret (by simp only [reduceCtorEq, not_false_eq_true])
      · rw [receiveBody_end hf hb he] at hret ⊢
        simp only at hret ⊢
        have hbody : dataOf (body ++ [e]) = dataOf body := by
          rw [dataOf_append, dataOf_end he, List.append_nil]
        by_cases hneg : c.sslShutdown (past ++ body ++ [e]) < 0
        · rw [if_pos hneg] at hret
          exact absurd hret (by simp only [Outcome.returned.injEq, Bool.false_eq_true,
            not_false_eq_true])
        · rw [if_neg hneg] at hret ⊢
          by_cases hone : c.sslShutdown (past ++ body ++ [e]) = 1
          · rw [if_neg (fun hne => hne hone)]
            refine ⟨body ++ [e], ⟨tl, by rw [List.append_assoc, List.singleton_append]⟩,
              by rw [← List.append_assoc]; exact hone, ?_⟩
            rw [hbody]
          · -- The loop may have stopped too early; the second one goes on where it did.
            rw [if_pos hone] at hret ⊢
            rcases awaitShutdown_true hret with ⟨tail, ⟨tl', rfl⟩, hshut, hresp⟩
            refine ⟨body ++ [e] ++ tail, ⟨tl', ?_⟩, ?_, ?_⟩
            · simp only [List.append_assoc, List.cons_append, List.nil_append]
            · simpa only [List.append_assoc] using hshut
            · rw [hresp, dataOf_append, hbody, List.append_assoc]

/-- Reading the reply succeeds: the header was complete, and the response is its surplus and
    what was read after it. -/
theorem receive_true {c : Calls} {r : Results} (hret : (receive c r).1 = .returned true) :
    ∃ hdr tail h remaining, HeaderReads clear [] hdr h remaining ∧ h.isComplete = true ∧
      hdr ++ tail <+: c.sslRead ∧ c.sslShutdown (hdr ++ tail) = 1 ∧
      (receive c r).2.httpResponse = r.httpResponse ++ remaining ++ dataOf tail := by
  rcases receive_split c r with ⟨hdr, rest, h, remaining, hread, hreads, hend⟩
  rcases hend with hc | ⟨-, hw | ⟨e, he⟩⟩ | ⟨hc, tl, rfl⟩
  · rw [receive_complete hread hreads hc] at hret ⊢
    rcases receiveBody_true hret with ⟨tail, htail, hshut, hresp⟩
    refine ⟨hdr, tail, h, remaining, hreads, hc, ?_, hshut, hresp⟩
    rw [hread]
    exact List.prefix_append_right_inj hdr |>.mpr htail
  · rw [hw] at hret
    exact absurd hret (by simp only [reduceCtorEq, not_false_eq_true])
  · rw [he] at hret
    exact absurd hret (by simp only [reduceCtorEq, not_false_eq_true])
  · rw [receive_error hread hreads hc] at hret
    exact absurd hret (by simp only [Outcome.returned.injEq, Bool.false_eq_true,
      not_false_eq_true])

/-- A request that succeeds has read its reply, starting with no response. -/
theorem httpGet_true {o : Options} {beyond : Nat → UInt8} {fileUrl : Bytes} {c : Calls}
    {r : Results} (hret : (httpGet o beyond fileUrl c r).outcome = .returned true) :
    ∃ r', r'.httpResponse = [] ∧ (receive c r').1 = .returned true ∧
      (httpGet o beyond fileUrl c r).results = (receive c r').2 := by
  unfold httpGet at hret ⊢
  simp only at hret ⊢
  split at hret
  · exact absurd hret (by simp only [Outcome.returned.injEq, Bool.false_eq_true,
      not_false_eq_true])
  · split at hret
    · exact absurd hret (by simp only [reduceCtorEq, not_false_eq_true])
    · exact absurd hret (by simp only [Outcome.returned.injEq, Bool.false_eq_true,
        not_false_eq_true])
    · -- Every exit before the reply is read returns false, or does not return.
      rename_i r' hstatus
      split at hret
      · exact absurd hret (by simp only [reduceCtorEq, not_false_eq_true])
      · exact absurd hret (by simp only [reduceCtorEq, not_false_eq_true])
      · split at hret
        · exact absurd hret (by simp only [Outcome.returned.injEq, Bool.false_eq_true,
            not_false_eq_true])
        · rename_i hneg
          refine ⟨r', (sslPrint1609Status_true hstatus).1.2, hret, ?_⟩
          rw [if_neg hneg]

/-- What the parser had left when the header was complete, and what was read after it, is
    what follows the first empty line of the stream. -/
theorem body_of_headerReads {hdr : List ReadResult} {h : HttpHeaders} {remaining : Bytes}
    (hreads : HeaderReads clear [] hdr h remaining) (hc : h.isComplete = true) {T : Bytes}
    (hfirst : ¬ blankFirst (dataOf hdr ++ T)) :
    afterBlankLine (dataOf hdr ++ T) true = some (remaining ++ T) := by
  have hdata : (hdr.map ReadResult.bytes).flatten = dataOf hdr := rfl
  have hs : Started clear (hdr.map ReadResult.bytes).flatten := by
    refine ⟨rfl, fun _ _ hblank => hfirst ?_⟩
    rw [hdata] at hblank
    exact blankFirst_append hblank T
  rcases feed_started [] hs with ⟨hstate, hbody⟩
  rw [hreads.parsed, hdata] at hstate hbody
  simp only [List.flatten_nil, List.append_nil] at hstate hbody
  have hflag : (clear.addData (dataOf hdr)).1.hdrIsComplete = true := by
    rw [isComplete, Bool.and_eq_true] at hc
    rw [← hstate]
    exact hc.2
  have hparse := addData_afterBlankLine (h := clear) rfl (dataOf hdr ++ T)
  rw [addData_append rfl, if_pos hflag, if_pos hflag, ← hbody hc] at hparse
  exact hparse

/-- If the request succeeds, the response is what follows the first empty line of what the
    server sent. -/
theorem response_intact (o : Options) (beyond : Nat → UInt8) (fileUrl : Bytes) {c : Calls}
    {S : Bytes} (hS : Finishes c S) (hfirst : ¬ blankFirst S)
    (hret : (rfc8902HttpGet o beyond fileUrl c).outcome = .returned true) :
    afterBlankLine S true = some (rfc8902HttpGet o beyond fileUrl c).results.httpResponse := by
  rcases httpGet_true hret with ⟨r', hnil, hrec, hres⟩
  rcases receive_true hrec with ⟨hdr, tail, h, remaining, hreads, hc, hpre, hshut, hresp⟩
  have hall : S = dataOf hdr ++ dataOf tail := by
    rw [← hS _ hpre hshut, dataOf_append]
  rw [hall] at hfirst ⊢
  rw [rfc8902HttpGet, hres, hresp, hnil, List.nil_append]
  exact body_of_headerReads hreads hc hfirst

/-- A reply with a status line and a body of two octets. -/
def plainReply : Bytes := ascii "HTTP/1.1 200\r\n\r\nok"

/-- Calls for a peer without permissions. The reply comes in three pieces, with a read that
    finds nothing in each of the loops. -/
def plainCalls : Calls :=
  { passingCalls ⟨36, [], none⟩ with
    sslWrite := [29]
    sslRead := [.data 72 (ascii "TTP/1.1 2"), .wantRead, .data 48 (ascii "0\r\n\r\no"), .wantRead,
      .data 107 [], .zeroReturn]
    sslShutdown := fun past => if past.length = 6 then 1 else 0 }

/-- The reply is read in three pieces, of which the last comes in the second loop. -/
theorem response_intact_split :
    afterBlankLine plainReply true = some [111, 107] ∧
      (rfc8902HttpGet (Options.init [] 443) (fun _ => 0) [] plainCalls).results.httpResponse =
        [111, 107] := by
  have hS : Finishes plainCalls plainReply := by
    intro past hpre hone
    have hlen : past.length = 6 := by
      by_contra hne
      simp only [plainCalls, if_neg hne] at hone
      exact absurd hone (by decide)
    rw [hpre.eq_of_length (by rw [hlen]; rfl)]
    decide
  have hbody := response_intact (Options.init [] 443) (fun _ => 0) [] hS (by decide)
    (by decide +kernel)
  have hafter : afterBlankLine plainReply true = some [111, 107] := by decide
  rw [hafter, Option.some.injEq] at hbody
  exact ⟨hafter, hbody.symm⟩

end Iso21177
