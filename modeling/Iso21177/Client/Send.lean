import Iso21177.Client.HttpGet
import Mathlib.Algebra.Order.BigOperators.Group.List

/-!
# Sending the Request

`ssl_send_message` writes the request with as many calls of `SSL_write` as it
takes. It moves its offset by whatever the last call returned. So a call that
fails with `-1` moves it back, even to before the buffer, and an octet that was
accepted is sent again. An error for which the call must not be repeated is
logged and the call is repeated. And the length is the one `snprintf` returned,
which is that of the whole text even if the buffer cuts it off.

`request_sent_iff` says exactly when the request is sent once or reported as
failed, for every text and every sequence of results the library allows.

## Main definitions

* `SslError`, `WriteResult`, `Allowed`: What `SSL_write` and `SSL_get_error` return.
* `sendRequest`: Sending a text.
* `acceptedBytes`: What the calls accepted.
* `SentOnce`: The text is sent once, or it is reported that it was not.
* `lineOf`: The buffer.
* `offset`, `callsAt`, `Within`: Where the results lead, and the calls made on the way.
* `Undisturbed`: The results with which nothing goes wrong.
* `Runs`: The three ways the loop can go.

## Theorems

* `runs_past`, `runs_before`, `sslSendMessage_run`: How the loop runs.
* `acceptedBytes_eq`, `length_acceptedBytes`: What is accepted, and how much.
* `ret_nonneg_of_sum`: Results that add up to what was accepted.
* `sentOnce_of_undisturbed`, `undisturbed_of_sentOnce`: The two directions for a text that
  fits.
* `not_sentOnce_of_long`, `sentOnce_of_huge`: Texts that do not fit.
* `request_sent_iff`: When the request is sent once or reported as failed.
-/

namespace Iso21177

open Packet

/-- What `SSL_get_error` returns. -/
inductive SslError
  | none | ssl | wantRead | wantWrite | wantX509Lookup | syscall | zeroReturn | wantConnect
  | wantAccept | wantAsync | wantAsyncJob | wantClientHelloCb | wantRetryVerify
  deriving DecidableEq

/-- What a call of `SSL_write` returns: how many octets it accepted, or a number that is
    not positive together with the error. -/
inductive WriteResult
  | wrote (n : Nat)
  | failed (ret : Int) (err : SslError)
  deriving DecidableEq

def WriteResult.ret : WriteResult → Int
  | .wrote n => n
  | .failed ret _ => ret

/-- The error is none after which the call may be repeated. -/
def WriteResult.hard : WriteResult → Bool
  | .wrote _ => false
  | .failed _ err => err ≠ .wantRead && err ≠ .wantWrite

/-- The octets of the buffer that a call at an offset accepted. -/
def WriteResult.taken (line : Bytes) (start : Int) : WriteResult → Bytes
  | .wrote n => (line.drop start.toNat).take n
  | .failed _ _ => []

/-- A result `SSL_write` may have when it is asked to write so many octets. -/
def WriteResult.Permitted (len : Int) : WriteResult → Prop
  | .wrote n => 0 < n ∧ (n : Int) ≤ len
  | .failed ret _ => ret ≤ 0

/-- The results are permitted as long as calls are made. -/
def Allowed (len : Int) : Int → List WriteResult → Prop
  | _, [] => True
  | start, r :: rs => start < len → r.Permitted (len - start) ∧ Allowed len (start + r.ret) rs

/-- Sending a text. -/
def sendRequest (text : Bytes) (rs : List WriteResult) : SendEnd × List ClientEvent :=
  sslSendMessage (snprintfLen text) 0 0 (rs.map WriteResult.ret)

/-- What the calls from an offset on accepted, one after the other. -/
def acceptedBytes (line : Bytes) (len : Int) : Int → List WriteResult → Bytes
  | _, [] => []
  | start, r :: rs =>
    if start < len then r.taken line start ++ acceptedBytes line len (start + r.ret) rs else []

/-- What `snprintf` leaves in the buffer, with some rest behind the end of the text. -/
def lineOf (text rest : Bytes) : Bytes := text.take (lineSize - 1) ++ 0 :: rest

/-- The text is sent once, or it is reported that it was not. -/
structure SentOnce (text rest : Bytes) (rs : List WriteResult) : Prop where
  /-- Every call gets a stretch of the text in the buffer. -/
  inside : ∀ start len : Int, .write start len ∈ (sendRequest text rs).2 →
    0 ≤ start ∧ start + len ≤ (text.take (lineSize - 1)).length
  /-- With a positive result the text was accepted. -/
  whole : ∀ p, (sendRequest text rs).1 = .sent p → 0 < p →
    acceptedBytes (lineOf text rest) (snprintfLen text) 0 rs = text
  /-- After a hard error there is no further call, and `http_get` sees a failure. -/
  reported : ∀ k r, rs[k]? = some r → r.hard = true → k < (sendRequest text rs).2.length →
    (sendRequest text rs).2.length = k + 1 ∧ ∃ p, (sendRequest text rs).1 = .sent p ∧ p < 0

/-- Where the first results lead from an offset. -/
def offset (start : Int) (rs : List WriteResult) (k : Nat) : Int :=
  start + ((rs.take k).map WriteResult.ret).sum

/-- No call fails for good, and either the offset reaches the end without ever moving back,
    or it has not reached the end and has not left the buffer. -/
def Undisturbed (len : Int) (rs : List WriteResult) : Prop :=
  (∃ n ≤ rs.length, len ≤ offset 0 rs n ∧ ∀ r ∈ rs.take n, 0 ≤ r.ret ∧ r.hard = false) ∨
    ((∀ n ≤ rs.length, 0 ≤ offset 0 rs n ∧ offset 0 rs n < len) ∧ ∀ r ∈ rs, r.hard = false)

@[simp]
theorem offset_zero (start : Int) (rs : List WriteResult) : offset start rs 0 = start := by
  simp only [offset, List.take_zero, List.map_nil, List.sum_nil, Int.add_zero]

@[simp]
theorem offset_succ (start : Int) (r : WriteResult) (rs : List WriteResult) (k : Nat) :
    offset start (r :: rs) (k + 1) = offset (start + r.ret) rs k := by
  simp only [offset, List.take_succ_cons, List.map_cons, List.sum_cons, Int.add_assoc]

/-- The first calls, by their offsets. -/
def callsAt (len start : Int) (rs : List WriteResult) (n : Nat) : List ClientEvent :=
  (List.range n).map fun k => .write (offset start rs k) (len - offset start rs k)

theorem callsAt_succ (len start : Int) (r : WriteResult) (rs : List WriteResult) (n : Nat) :
    callsAt len start (r :: rs) (n + 1) =
      .write start (len - start) :: callsAt len (start + r.ret) rs n := by
  simp only [callsAt, List.range_succ_eq_map, List.map_cons, List.map_map, offset_zero,
    Function.comp_def, Nat.succ_eq_add_one, offset_succ]

/-- The offset stays in the text for some calls. -/
def Within (len start : Int) (rs : List WriteResult) (n : Nat) : Prop :=
  ∀ k < n, 0 ≤ offset start rs k ∧ offset start rs k < len

theorem within_succ {len start : Int} {r : WriteResult} {rs : List WriteResult} {n : Nat}
    (h0 : 0 ≤ start) (hlt : start < len) (h : Within len (start + r.ret) rs n) :
    Within len start (r :: rs) (n + 1) := by
  intro k hk
  cases k with
  | zero => exact ⟨by rwa [offset_zero], by rwa [offset_zero]⟩
  | succ k => exact offset_succ start r rs k ▸ h k (by omega)

/-- How the loop runs: it ends behind the text, or it waits for a result within the text, or
    it leaves the buffer. Where it ends after a call, that call moved forward. -/
inductive Runs (len start processed : Int) (rs : List WriteResult) : Prop
  | ended (n : Nat) (hn : n ≤ rs.length) (hpast : len ≤ offset start rs n)
      (hin : Within len start rs n) (p : Int) (hfirst : n = 0 → p = processed)
      (hlast : 0 < n → 0 < p)
      (heq : sslSendMessage len start processed (rs.map WriteResult.ret) =
        (.sent p, callsAt len start rs n))
  | waits (hin : Within len start rs (rs.length + 1))
      (heq : sslSendMessage len start processed (rs.map WriteResult.ret) =
        (.waiting, callsAt len start rs (rs.length + 1)))
  | leaves (n : Nat) (hn : n ≤ rs.length) (hneg : offset start rs n < 0)
      (hin : Within len start rs n)
      (heq : sslSendMessage len start processed (rs.map WriteResult.ret) =
        (.undefined, callsAt len start rs (n + 1)))

theorem within_zero (len start : Int) (rs : List WriteResult) : Within len start rs 0 :=
  fun _ hk => absurd hk (Nat.not_lt_zero _)

theorem callsAt_one (len start : Int) (rs : List WriteResult) :
    callsAt len start rs 1 = [.write start (len - start)] := by
  simp only [callsAt, List.range_one, List.map_cons, List.map_nil, offset_zero]

theorem runs_past {len start : Int} (h : ¬ start < len) (processed : Int)
    (rs : List WriteResult) : Runs len start processed rs := by
  refine .ended 0 (Nat.zero_le _) (by rw [offset_zero]; omega) (within_zero len start rs) processed
    (fun _ => rfl) (fun hpos => absurd hpos (Nat.lt_irrefl 0)) ?_
  cases rs with
  | nil =>
      rw [List.map_nil, sslSendMessage, if_neg h]
      rfl
  | cons r rs =>
      rw [List.map_cons, sslSendMessage, if_neg h]
      rfl

theorem runs_before {len start : Int} (h : start < len) (hneg : start < 0) (processed : Int)
    (rs : List WriteResult) : Runs len start processed rs := by
  refine .leaves 0 (Nat.zero_le _) (by rwa [offset_zero]) (within_zero len start rs) ?_
  cases rs with
  | nil => rw [List.map_nil, sslSendMessage, if_pos h, if_pos (Or.inl hneg), callsAt_one]
  | cons r rs => rw [List.map_cons, sslSendMessage, if_pos h, if_pos (Or.inl hneg), callsAt_one]

/-- Every run is one of the three. -/
theorem sslSendMessage_run {len : Int} (hlen : len ≤ lineSize) (start processed : Int)
    (rs : List WriteResult) : Runs len start processed rs := by
  induction rs generalizing start processed with
  | nil =>
      by_cases hlt : start < len
      · by_cases hneg : start < 0
        · exact runs_before hlt hneg processed []
        · refine .waits (fun k hk => ?_) ?_
          · rw [List.length_nil, Nat.zero_add, Nat.lt_one_iff] at hk
            rw [hk, offset_zero]
            omega
          · rw [List.map_nil, sslSendMessage, if_pos hlt, if_neg (by omega), List.length_nil,
              callsAt_one]
      · exact runs_past hlt processed []
  | cons r rs ih =>
      by_cases hlt : start < len
      · by_cases hneg : start < 0
        · exact runs_before hlt hneg processed (r :: rs)
        · -- A call is made, and the rest runs from where its result leads.
          have hstep : sslSendMessage len start processed ((r :: rs).map WriteResult.ret) =
              ((sslSendMessage len (start + r.ret) r.ret (rs.map WriteResult.ret)).1,
                .write start (len - start) ::
                  (sslSendMessage len (start + r.ret) r.ret (rs.map WriteResult.ret)).2) := by
            rw [List.map_cons, sslSendMessage, if_pos hlt, if_neg (by omega)]
          have h0 : 0 ≤ start := by omega
          cases ih (start + r.ret) r.ret with
          | ended n hn hpast hin p hfirst hlast heq =>
              refine .ended (n + 1) (Nat.succ_le_succ hn) (by rwa [offset_succ])
                (within_succ h0 hlt hin) p (fun hz => absurd hz (Nat.succ_ne_zero n)) ?_ ?_
              · intro _
                rcases Nat.eq_zero_or_pos n with hz | hpos
                · rw [hfirst hz]
                  rw [hz, offset_zero] at hpast
                  omega
                · exact hlast hpos
              · rw [hstep, heq, callsAt_succ]
          | waits hin heq =>
              exact .waits (within_succ h0 hlt hin) (by rw [hstep, heq, callsAt_succ]; rfl)
          | leaves n hn hneg' hin heq =>
              exact .leaves (n + 1) (Nat.succ_le_succ hn) (by rwa [offset_succ])
                (within_succ h0 hlt hin) (by rw [hstep, heq, callsAt_succ])
      · exact runs_past hlt processed (r :: rs)

section
variable {text rest : Bytes} {len : Int}

/-- Within the text, the buffer has the text. -/
theorem taken_lineOf (htext : text.length < lineSize) {start : Int} (h0 : 0 ≤ start) {n : Nat}
    (hn : start + n ≤ text.length) :
    (WriteResult.wrote n).taken (lineOf text rest) start = (text.drop start.toNat).take n := by
  have hwhole : text.take (lineSize - 1) = text := List.take_of_length_le (by omega)
  have hstart : start.toNat ≤ text.length := by omega
  rw [WriteResult.taken, lineOf, hwhole, List.drop_append_of_le_length hstart,
    List.take_append_of_le_length (by rw [List.length_drop]; omega)]

/-- If the offset never moves back, the calls that reach the end accept what is left of the
    text. -/
theorem acceptedBytes_eq (htext : text.length < lineSize) {rs : List WriteResult} {start : Int}
    {n : Nat} (h0 : 0 ≤ start) (hend : start ≤ text.length)
    (hallow : Allowed text.length start rs) (hpast : (text.length : Int) ≤ offset start rs n)
    (hmoves : ∀ r ∈ rs.take n, 0 ≤ r.ret) :
    acceptedBytes (lineOf text rest) text.length start rs = text.drop start.toNat := by
  induction rs generalizing start n with
  | nil =>
      have hle : (text.length : Int) ≤ start := by
        simpa only [offset, List.take_nil, List.map_nil, List.sum_nil, Int.add_zero] using hpast
      rw [acceptedBytes, List.drop_of_length_le (by omega)]
  | cons r rs ih =>
      by_cases hlt : start < text.length
      · cases n with
        | zero =>
            rw [offset_zero] at hpast
            omega
        | succ n =>
            rw [offset_succ] at hpast
            rw [List.take_succ_cons] at hmoves
            have hrest : ∀ x ∈ rs.take n, 0 ≤ x.ret :=
              fun x hx => hmoves x (List.mem_cons_of_mem r hx)
            have hr := hmoves r (List.mem_cons_self ..)
            rcases hallow hlt with ⟨hper, hallow'⟩
            rw [acceptedBytes, if_pos hlt]
            cases r with
            | wrote m =>
                simp only [WriteResult.Permitted] at hper
                simp only [WriteResult.ret] at *
                rw [ih (by omega) (by omega) hallow' hpast hrest, taken_lineOf htext h0 (by omega),
                  Int.toNat_add h0 (by omega), Int.toNat_natCast, ← List.drop_drop,
                  List.take_append_drop]
            | failed ret err =>
                -- A failed call that does not move back does not move at all.
                simp only [WriteResult.Permitted, WriteResult.ret] at *
                have hzero : ret = 0 := by omega
                subst hzero
                rw [ih (by omega) (by omega) hallow' hpast hrest, Int.add_zero]
                rfl
      · have hge : text.length ≤ start.toNat := by omega
        rw [acceptedBytes, if_neg hlt, List.drop_of_length_le hge]

/-- As much is accepted as the calls moved forward. -/
theorem length_acceptedBytes (htext : text.length < lineSize) {rs : List WriteResult}
    {start : Int} {n : Nat} (hn : n ≤ rs.length) (hallow : Allowed text.length start rs)
    (hin : Within text.length start rs n) (hpast : (text.length : Int) ≤ offset start rs n) :
    ((acceptedBytes (lineOf text rest) text.length start rs).length : Int) =
      ((rs.take n).map fun r => max 0 r.ret).sum := by
  induction rs generalizing start n with
  | nil =>
      rw [List.take_nil, acceptedBytes]
      rfl
  | cons r rs ih =>
      cases n with
      | zero =>
          rw [offset_zero] at hpast
          rw [acceptedBytes, if_neg (by omega)]
          rfl
      | succ n =>
          have hfirst := hin 0 (Nat.succ_pos n)
          rw [offset_zero] at hfirst
          rw [offset_succ] at hpast
          have hin' : Within text.length (start + r.ret) rs n := by
            intro k hk
            have hk' := hin (k + 1) (by omega)
            rwa [offset_succ] at hk'
          rcases hallow hfirst.2 with ⟨hper, hallow'⟩
          have hlen := ih (Nat.le_of_succ_le_succ hn) hallow' hin' hpast
          rw [acceptedBytes, if_pos hfirst.2, List.length_append, Int.natCast_add, hlen,
            List.take_succ_cons, List.map_cons, List.sum_cons]
          -- A call moves forward by what it takes of the text, a failed one not at all.
          cases r with
          | wrote m =>
              simp only [WriteResult.Permitted] at hper
              rw [taken_lineOf htext hfirst.1 (by omega), List.length_take, List.length_drop]
              simp only [WriteResult.ret]
              omega
          | failed ret err =>
              simp only [WriteResult.Permitted] at hper
              simp only [WriteResult.taken, WriteResult.ret, List.length_nil]
              omega

end

/-- Results that add up to as much as the calls moved forward never moved back. -/
theorem ret_nonneg_of_sum {rs : List WriteResult}
    (h : (rs.map fun r => max 0 r.ret).sum ≤ (rs.map WriteResult.ret).sum) :
    ∀ r ∈ rs, 0 ≤ r.ret := by
  have hle : ∀ rs : List WriteResult,
      (rs.map WriteResult.ret).sum ≤ (rs.map fun r => max 0 r.ret).sum := by
    intro rs
    induction rs with
    | nil => exact Int.le_refl 0
    | cons r rs ih =>
        simp only [List.map_cons, List.sum_cons]
        omega
  induction rs with
  | nil => exact fun r hr => absurd hr List.not_mem_nil
  | cons r rs ih =>
      simp only [List.map_cons, List.sum_cons] at h
      have htail := hle rs
      intro x hx
      rcases List.mem_cons.mp hx with rfl | hx
      · omega
      · exact ih (by omega) x hx

theorem length_callsAt (len start : Int) (rs : List WriteResult) (n : Nat) :
    (callsAt len start rs n).length = n := by
  rw [callsAt, List.length_map, List.length_range]

/-- The calls within the text get a stretch of it. -/
theorem inside_callsAt {len : Int} {rs : List WriteResult} {n : Nat} (hin : Within len 0 rs n)
    {s l : Int} (h : .write s l ∈ callsAt len 0 rs n) : 0 ≤ s ∧ s + l ≤ len := by
  rw [callsAt, List.mem_map] at h
  rcases h with ⟨k, hk, heq⟩
  rw [ClientEvent.write.injEq] at heq
  have hpos := (hin k (List.mem_range.mp hk)).1
  omega

theorem snprintfLen_of_lt {text : Bytes} (h : text.length < 2 ^ 31) :
    snprintfLen text = text.length := if_pos h

section
variable {text rest : Bytes} {rs : List WriteResult}

theorem sentOnce_of_undisturbed (htext : text.length < lineSize)
    (hallow : Allowed text.length 0 rs) (h : Undisturbed text.length rs) :
    SentOnce text rest rs := by
  have hlen : snprintfLen text = text.length :=
    snprintfLen_of_lt (Nat.lt_trans htext (by decide))
  have hstored : (text.take (lineSize - 1)).length = text.length := by
    rw [List.take_of_length_le (by omega)]
  have hrun := @sslSendMessage_run text.length (by omega) 0 0 rs
  cases hrun with
  | ended n hn hpast hin p hfirst hlast heq =>
      rw [← hlen] at heq
      rcases h with ⟨m, hm, hpast', hgood⟩ | ⟨hall, _⟩
      · -- The loop ends at the first offset behind the text, so no later than assumed.
        have hnm : n ≤ m := by
          by_contra hlt
          have := (hin m (by omega)).2
          omega
        refine ⟨fun s l hmem => ?_, fun q hq hpos => ?_, fun k r hk hhard hcall => ?_⟩
        · rw [sendRequest, heq] at hmem
          rw [hstored]
          exact inside_callsAt hin (hlen ▸ hmem)
        · rw [hlen, acceptedBytes_eq htext (Int.le_refl 0) (by omega) hallow hpast'
            (fun r hr => (hgood r hr).1)]
          rfl
        · rw [sendRequest, heq, length_callsAt] at hcall
          have hmem : r ∈ rs.take m :=
            List.mem_iff_getElem?.mpr ⟨k, by rw [List.getElem?_take_of_lt (by omega), hk]⟩
          rw [(hgood r hmem).2] at hhard
          exact absurd hhard (by decide)
      · have := (hall n hn).2
        omega
  | waits hin heq =>
      rw [← hlen] at heq
      refine ⟨fun s l hmem => ?_, fun q hq hpos => ?_, fun k r hk hhard hcall => ?_⟩
      · rw [sendRequest, heq] at hmem
        rw [hstored]
        exact inside_callsAt hin (hlen ▸ hmem)
      · rw [sendRequest, heq] at hq
        exact absurd hq (by simp only [reduceCtorEq, not_false_eq_true])
      · rcases h with ⟨m, hm, hpast', _⟩ | ⟨_, hsoft⟩
        · have := (hin m (by omega)).2
          omega
        · rw [hsoft r (List.mem_of_getElem? hk)] at hhard
          exact absurd hhard (by decide)
  | leaves n hn hneg hin heq =>
      exfalso
      rcases h with ⟨m, hm, hpast', hgood⟩ | ⟨hall, _⟩
      · have hnm : n ≤ m := by
          by_contra hlt
          have := (hin m (by omega)).2
          omega
        -- Results that are not negative do not lead before the buffer.
        have hsum : 0 ≤ ((rs.take n).map WriteResult.ret).sum := by
          refine List.sum_nonneg fun x hx => ?_
          rcases List.mem_map.mp hx with ⟨r, hr, rfl⟩
          exact (hgood r ((List.take_subset_take_left rs hnm) hr)).1
        unfold offset at hneg
        omega
      · have := (hall n hn).1
        omega

theorem undisturbed_of_sentOnce (htext : text.length < lineSize)
    (hallow : Allowed text.length 0 rs) (h : SentOnce text rest rs) :
    Undisturbed text.length rs := by
  have hlen : snprintfLen text = text.length :=
    snprintfLen_of_lt (Nat.lt_trans htext (by decide))
  have hrun := @sslSendMessage_run text.length (by omega) 0 0 rs
  cases hrun with
  | ended n hn hpast hin p hfirst hlast heq =>
      rw [← hlen] at heq
      refine Or.inl ⟨n, hn, hpast, fun r hr => ⟨?_, ?_⟩⟩
      · -- What was accepted is as long as the text, so the calls only moved forward.
        rcases Nat.eq_zero_or_pos n with hz | hpos
        · rw [hz, List.take_zero] at hr
          exact absurd hr List.not_mem_nil
        · have hacc := h.whole p (by rw [sendRequest, heq]) (hlast hpos)
          have hsum := @length_acceptedBytes _ rest htext _ _ _ hn hallow hin hpast
          rw [← hlen, hacc] at hsum
          refine ret_nonneg_of_sum ?_ r hr
          rw [← hsum]
          unfold offset at hpast
          omega
      · rcases List.mem_iff_getElem?.mp hr with ⟨k, hk⟩
        have hkn : k < n := by
          have hlt := (List.getElem?_eq_some_iff.mp hk).1
          rw [List.length_take] at hlt
          omega
        rw [List.getElem?_take_of_lt hkn] at hk
        by_contra hhard
        rw [Bool.not_eq_false] at hhard
        obtain ⟨-, q, hq, hneg⟩ :=
          h.reported k r hk hhard (by rw [sendRequest, heq, length_callsAt]; exact hkn)
        -- The loop returns what the last call accepted, which is no failure.
        rw [sendRequest, heq, SendEnd.sent.injEq] at hq
        have hpos := hlast (by omega)
        omega
  | waits hin heq =>
      rw [← hlen] at heq
      refine Or.inr ⟨fun n hn => hin n (by omega), fun r hr => ?_⟩
      rcases List.mem_iff_getElem?.mp hr with ⟨k, hk⟩
      have hkl : k < rs.length := (List.getElem?_eq_some_iff.mp hk).1
      -- The call after this one was made.
      by_contra hhard
      rw [Bool.not_eq_false] at hhard
      have hstop := (h.reported k r hk hhard (by rw [sendRequest, heq, length_callsAt]; omega)).1
      rw [sendRequest, heq, length_callsAt] at hstop
      omega
  | leaves n hn hneg hin heq =>
      rw [← hlen] at heq
      have hmem : .write (offset 0 rs n) (snprintfLen text - offset 0 rs n) ∈
          (sendRequest text rs).2 := by
        rw [sendRequest, heq]
        exact List.mem_map.mpr ⟨n, List.mem_range.mpr (Nat.lt_succ_self n), rfl⟩
      have := (h.inside _ _ hmem).1
      omega

/-- A text that does not fit is passed on with its whole length. -/
theorem not_sentOnce_of_long (hlong : lineSize ≤ text.length) (hlt : text.length < 2 ^ 31) :
    ¬ SentOnce text rest rs := by
  intro h
  have hmem : .write 0 (snprintfLen text - 0) ∈ (sendRequest text rs).2 := by
    have hpos : (0 : Int) < snprintfLen text := by
      rw [snprintfLen_of_lt hlt]
      unfold lineSize at hlong
      omega
    unfold sendRequest
    cases rs with
    | nil =>
        rw [List.map_nil, sslSendMessage, if_pos hpos]
        split <;> exact List.mem_singleton.mpr rfl
    | cons r rs =>
        rw [List.map_cons, sslSendMessage, if_pos hpos]
        split <;> exact List.mem_cons_self ..
  have hin := (h.inside _ _ hmem).2
  rw [snprintfLen_of_lt hlt, List.length_take] at hin
  unfold lineSize at *
  omega

/-- A text that cannot be counted is not sent at all. -/
theorem sentOnce_of_huge (hhuge : 2 ^ 31 ≤ text.length) : SentOnce text rest rs := by
  have hend : sendRequest text rs = (.sent 0, []) := by
    have hneg : snprintfLen text = -1 := if_neg (Nat.not_lt.mpr hhuge)
    rw [sendRequest, hneg]
    cases rs <;> rfl
  refine ⟨fun s l hmem => ?_, fun p hp hpos => ?_, fun k r _ _ hk => ?_⟩
  · rw [hend] at hmem
    exact absurd hmem List.not_mem_nil
  · rw [hend, SendEnd.sent.injEq] at hp
    omega
  · rw [hend] at hk
    exact absurd hk (Nat.not_lt_zero k)

end

/-- For every request and all results the library allows, the request is sent once or
    reported as failed exactly if it fits the buffer and the results are undisturbed, or if
    it is so long that nothing is sent. -/
theorem request_sent_iff (o : Options) (fileUrl rest : Bytes) (rs : List WriteResult)
    (hallow : Allowed (snprintfLen (requestText o fileUrl)) 0 rs) :
    SentOnce (requestText o fileUrl) rest rs ↔
      2 ^ 31 ≤ (requestText o fileUrl).length ∨
        ((requestText o fileUrl).length < lineSize ∧
          Undisturbed (requestText o fileUrl).length rs) := by
  by_cases hhuge : 2 ^ 31 ≤ (requestText o fileUrl).length
  · exact iff_of_true (sentOnce_of_huge hhuge) (Or.inl hhuge)
  · rw [snprintfLen_of_lt (Nat.lt_of_not_le hhuge)] at hallow
    by_cases hfits : (requestText o fileUrl).length < lineSize
    · constructor
      · exact fun h => Or.inr ⟨hfits, undisturbed_of_sentOnce hfits hallow h⟩
      · rintro (h | ⟨_, h⟩)
        · exact absurd h hhuge
        · exact sentOnce_of_undisturbed hfits hallow h
    · refine iff_of_false
        (not_sentOnce_of_long (Nat.le_of_not_lt hfits) (Nat.lt_of_not_le hhuge)) ?_
      rintro (h | ⟨h, _⟩)
      · exact hhuge h
      · exact hfits h

/-- The first call accepts five octets, and the second one the rest. -/
theorem request_sent_part :
    SentOnce (requestText (Options.init [] 443) []) [] [.wrote 5, .wrote 24] ∧
      (sendRequest (requestText (Options.init [] 443) []) [.wrote 5, .wrote 24]).2 =
        [.write 0 29, .write 5 24] ∧
      acceptedBytes (lineOf (requestText (Options.init [] 443) []) []) 29 0
        [.wrote 5, .wrote 24] = ascii "GET  HTTP/1.1\r\nHost: :443\r\n\r\n" := by
  have hsent := (request_sent_iff (Options.init [] 443) [] [] [.wrote 5, .wrote 24]
    (fun _ => ⟨⟨by decide, by decide⟩, fun _ => ⟨⟨by decide, by decide⟩, trivial⟩⟩)).mpr
    (Or.inr ⟨by decide, Or.inl ⟨2, by decide, by decide, by decide⟩⟩)
  refine ⟨hsent, by decide, ?_⟩
  have hwhole := hsent.whole 24 (by decide) (by decide)
  exact hwhole.trans (by decide)

/-- The connection is broken: the call fails for good, and it is repeated from before the
    buffer. -/
theorem broken_connection_retried :
    ¬ ∀ (o : Options) (fileUrl rest : Bytes) (rs : List WriteResult),
      Allowed (snprintfLen (requestText o fileUrl)) 0 rs →
        SentOnce (requestText o fileUrl) rest rs := by
  intro h
  have hsent := h (Options.init [] 443) [] [] [.failed (-1) .syscall]
    (fun _ => ⟨(by decide : (-1 : Int) ≤ 0), trivial⟩)
  have hcalls : (sendRequest (requestText (Options.init [] 443) [])
      [.failed (-1) .syscall]).2 = [.write 0 29, .write (-1) 30] := by
    decide
  have hstop := (hsent.reported 0 _ rfl rfl (by rw [hcalls]; decide)).1
  rw [hcalls] at hstop
  exact absurd hstop (by decide)

end Iso21177
