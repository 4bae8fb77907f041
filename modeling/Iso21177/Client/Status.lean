import Iso21177.SecEnt.Handlers

/-!
# Checking the Peer's Permissions

The client keeps its options in static variables that separate calls set, and checks the
peer against them after the handshake: `ssl_print_1609_status` asks the connection for the
peer's service identifier and permissions and compares them with the options.

The permissions wanted are kept in a buffer of 32 octets, but the length next to it is
that of the array that was passed. A longer array is compared as far as that length, and
what is read behind the buffer is whatever the memory holds there: it is a parameter here.

## Main definitions

* `SspMask`, `Options`, `setPsid`, `setSsp`: The options.
* `Setter`, `configure`, `lastPsid`, `lastSsp`: Setting them.
* `Results`, `CertInfo`: What a request leaves.
* `printHexArray`, `chainText`: Texts.
* `sspAt`, `sspMatches`: Comparing permissions.
* `sslPrint1609Status`: The check.
* `Authorised`: The peer has what is wanted of it.
* `Reported`: A report that can be handed out.
* `SspCovered`: What is read behind the buffer cannot matter.

## Theorems

* `configure_psid`, `configure_ssp`: The options are those last set.
* `reported_of_received`: What the connection hands out.
* `sspAt_of_lt`, `sspMatches_pos_iff`: Comparing permissions.
* `sslPrint1609Status_true`: What a successful check went through.
* `sslPrint1609Status_false`: A check that fails leaves an error.
* `authorised_of_status`, `unauthorised_accepted`: When the check is enough.
* `soleSsp`, `length_soleSsp`, `getD_soleSsp`: Permissions that say only one thing.
-/

namespace Iso21177

open Packet

/-- The size of the buffer for the permissions wanted. -/
def certSspSize : Nat := 32

/-- The buffer for the permissions wanted. -/
structure SspMask where
  bytes : Bytes
  size : bytes.length = certSspSize
  deriving DecidableEq

/-- A buffer that starts with an array, as far as it fits, and goes on with zeros. -/
def SspMask.of (req : Bytes) : SspMask where
  bytes := (req ++ List.replicate certSspSize 0).take certSspSize
  size := by
    rw [List.length_take, List.length_append, List.length_replicate]
    omega

/-- The static options of the client. The host is what stands from its buffer of 200 octets
    on: a longer address is copied without a terminator, and then read on behind the buffer. -/
structure Options where
  optPsid : UInt64
  optSetCertPsid : Bool
  optCertSsp : SspMask
  optCertSspLen : Nat
  optUseAtCert : Bool
  optServerHost : Bytes
  optServerPort : Nat
  deriving DecidableEq

/-- The options as they are initialised, for a server. -/
def Options.init (host : Bytes) (port : Nat) : Options :=
  ⟨36, false, SspMask.of [], 0, true, host, port⟩

/-- `Rfc8902_setPsid`. -/
def setPsid (psid : UInt64) (o : Options) : Options := { o with optPsid := psid }

/-- `Rfc8902_setSsp`. The buffer is cleared even if there is no array. -/
def setSsp (ssp : Option Bytes) (o : Options) : Options :=
  let o := { o with optCertSsp := SspMask.of [], optCertSspLen := 0 }
  match ssp with
  | none => o
  | some req =>
    if req.length = 0 then o
    else { o with optCertSsp := SspMask.of req, optCertSspLen := req.length }

/-- The calls that set the options the check reads. -/
inductive Setter
  | psid (psid : UInt64)
  | ssp (ssp : Option Bytes)
  deriving DecidableEq

/-- The options after some calls, the latest first. -/
def configure (o : Options) : List Setter → Options
  | [] => o
  | .psid psid :: ops => setPsid psid (configure o ops)
  | .ssp ssp :: ops => setSsp ssp (configure o ops)

/-- The service identifier that was set last, or what it was before. -/
def lastPsid (o : Options) : List Setter → UInt64
  | [] => o.optPsid
  | .psid psid :: _ => psid
  | .ssp _ :: ops => lastPsid o ops

/-- The array that was passed last; no array is an empty one. -/
def lastSsp : List Setter → Bytes
  | [] => []
  | .psid _ :: ops => lastSsp ops
  | .ssp ssp :: _ => ssp.getD []

/-- A record of a certificate chain, with its texts as C strings. -/
structure CertInfo where
  valid : Bool
  hashedid : Bytes
  idName : Bytes
  validFrom : Bytes
  validTo : Bytes
  deriving DecidableEq

/-- The static variables that hold the outcome of a request. -/
structure Results where
  httpResponse : Bytes
  httpResultCode : Int
  errorCode : Nat
  peerCertHash : Bytes
  peerCertPsid : UInt64
  peerCertSsp : Bytes
  peerCertChain : Bytes
  deriving DecidableEq

def errRfc8902PsidMismatch : Nat := 1000

def errRfc8902PeerPsidNotFound : Nat := 1005

def errRfc8902PeerCertInvalid : Nat := 1006

def errRfc8902SspMismatch : Nat := 1020

def errRfc8902SspVsnMismatch : Nat := 1021

def errRfc8902SspMissing : Nat := 1022

/-- A digit of `%02X`. -/
def hexDigit (n : UInt8) : UInt8 := if n < 10 then 48 + n else 55 + n

/-- `print_hex_array`. -/
def printHexArray (d : Bytes) : Bytes := d.flatMap (fun b => [hexDigit (b / 16), hexDigit (b % 16)])

/-- The valid records of a chain, a line each, behind a text. -/
def chainText (certs : List CertInfo) (text : Bytes) : Bytes :=
  (certs.takeWhile CertInfo.valid).foldl (fun text c =>
    (if text = [] then [] else text ++ [13, 10]) ++ printHexArray c.hashedid ++ [32] ++
      c.validFrom ++ [32] ++ c.validTo ++ [32] ++ c.idName) text

/-- The octet `optCertSsp[i]`, which may be behind the buffer. -/
def Options.sspAt (o : Options) (beyond : Nat → UInt8) (i : Nat) : UInt8 :=
  if i < certSspSize then o.optCertSsp.bytes.getD i 0 else beyond i

/-- The count of the loop over the two arrays of permissions. -/
def sspMatches (o : Options) (beyond : Nat → UInt8) (ssp : Bytes) : Nat :=
  (List.range (min o.optCertSspLen ssp.length)).countP
    (fun i => 1 ≤ i && o.sspAt beyond i &&& ssp.getD i 0 ≠ 0)

/-- `ssl_print_1609_status`, from what the calls to the connection return. A peer that was
    not verified has its permissions freed twice, which is undefined if there are any. -/
def sslPrint1609Status (o : Options) (beyond : Nat → UInt8) (received : Option (Option PeerReport))
    (verifyResult : Int) (chain : Bool × List CertInfo) (r : Results) : Option (Bool × Results) :=
  match received with
  | none => none
  | some none => some (false, { r with errorCode := errRfc8902PeerPsidNotFound })
  | some (some peer) =>
    if verifyResult ≠ 0 then
      -- Without permissions the pointer is null, and freeing it twice does nothing.
      if peer.ssp = [] then some (false, { r with errorCode := errRfc8902PeerCertInvalid })
      else none
    else
      let r := { r with
        peerCertHash := printHexArray (peer.hashedid.getD [])
        peerCertPsid := peer.psid
        peerCertSsp := printHexArray peer.ssp
        peerCertChain := if chain.1 then chainText chain.2 r.peerCertChain else r.peerCertChain }
      if peer.psid ≠ o.optPsid then some (false, { r with errorCode := errRfc8902PsidMismatch })
      else if 0 < o.optCertSspLen then
        if peer.ssp.length = 0 then some (false, { r with errorCode := errRfc8902SspMissing })
        else if peer.ssp.getD 0 0 ≠ o.sspAt beyond 0 then
          some (false, { r with errorCode := errRfc8902SspVsnMismatch })
        else if sspMatches o beyond peer.ssp = 0 then
          some (false, { r with errorCode := errRfc8902SspMismatch })
        else some (true, r)
      else some (true, r)

/-- The peer is for the service, and if permissions are wanted it has the same version of
    them and one of them. -/
def Authorised (psid : UInt64) (req : Bytes) (peer : PeerReport) : Prop :=
  peer.psid = psid ∧ (req ≠ [] → peer.ssp ≠ [] ∧ peer.ssp.getD 0 0 = req.getD 0 0 ∧
    ∃ i, 1 ≤ i ∧ i < req.length ∧ i < peer.ssp.length ∧ req.getD i 0 &&& peer.ssp.getD i 0 ≠ 0)

/-- A report the connection can hand out: the service identifier is never zero, and the
    permissions fit their buffer. -/
def Reported (peer : PeerReport) : Prop := peer.psid ≠ 0 ∧ peer.ssp.length ≤ maxSspLen

/-- Every permission behind the buffer is wanted, so that none found there is wrong. -/
def SspCovered (req : Bytes) : Prop :=
  ∀ i, certSspSize ≤ i → i < req.length → i < maxSspLen → req.getD i 0 = 0xff

theorem configure_psid (o : Options) (ops : List Setter) :
    (configure o ops).optPsid = lastPsid o ops := by
  induction ops with
  | nil => rfl
  | cons op ops ih =>
      cases op with
      | psid psid => rfl
      | ssp ssp =>
          rw [lastPsid, configure, ← ih]
          unfold setSsp
          cases ssp with
          | none => rfl
          | some req =>
              simp only
              split <;> rfl

/-- The buffer holds the start of the array that was passed last, and its length is that of
    the array. -/
theorem configure_ssp {o : Options} (ho : o.optCertSsp = SspMask.of [] ∧ o.optCertSspLen = 0)
    (ops : List Setter) :
    (configure o ops).optCertSsp = SspMask.of (lastSsp ops) ∧
      (configure o ops).optCertSspLen = (lastSsp ops).length := by
  induction ops with
  | nil => exact ho
  | cons op ops ih =>
      cases op with
      | psid psid => exact ih
      | ssp ssp =>
          rw [configure, lastSsp]
          unfold setSsp
          cases ssp with
          -- No array resets the buffer, as an empty one does.
          | none => exact ⟨rfl, rfl⟩
          | some req =>
              by_cases hreq : req.length = 0
              · simp only [Option.getD_some, List.length_eq_zero_iff.mp hreq]
                exact ⟨rfl, rfl⟩
              · simp only [if_neg hreq]
                exact ⟨rfl, rfl⟩

/-- What the connection hands out is a report. -/
theorem reported_of_received {ω : Type} {s : SSL ω} {sspSet wantHash : Bool} {peer : PeerReport}
    (h : sslGet1609PsidReceived s sspSet wantHash = some (some peer)) : Reported peer := by
  rcases sslGet1609PsidReceived_some h with ⟨hpsid, hash, rfl⟩
  -- The permissions are read out of the buffer, so they are no longer than it.
  refine ⟨hpsid, ?_⟩
  rw [SspBuffer.load, List.length_take, s.ieee1609.sspOtherSide.size]
  omega

/-- Inside the buffer the octet is that of the array. -/
theorem sspAt_of_lt {o : Options} {req : Bytes} (ho : o.optCertSsp = SspMask.of req)
    (beyond : Nat → UInt8) {i : Nat} (hi : i < certSspSize) (hreq : i < req.length) :
    o.sspAt beyond i = req.getD i 0 := by
  rw [Options.sspAt, if_pos hi, ho, SspMask.of]
  simp only [List.getD_eq_getElem?_getD]
  rw [List.getElem?_take_of_lt hi, List.getElem?_append_left hreq]

/-- The loop counts something if a permission is found in both arrays, from the second octet
    on. -/
theorem sspMatches_pos_iff (o : Options) (beyond : Nat → UInt8) (ssp : Bytes) :
    sspMatches o beyond ssp ≠ 0 ↔ ∃ i, 1 ≤ i ∧ i < o.optCertSspLen ∧ i < ssp.length ∧
      o.sspAt beyond i &&& ssp.getD i 0 ≠ 0 := by
  rw [← Nat.pos_iff_ne_zero, sspMatches, List.countP_pos_iff]
  simp only [List.mem_range, lt_min_iff, Bool.and_eq_true, decide_eq_true_eq]
  constructor
  · rintro ⟨i, ⟨hlen, hssp⟩, hone, hbit⟩
    exact ⟨i, hone, hlen, hssp, hbit⟩
  · rintro ⟨i, hone, hlen, hssp, hbit⟩
    exact ⟨i, ⟨hlen, hssp⟩, hone, hbit⟩

/-- A successful check: the peer is for the service and, if permissions are wanted, the
    arrays have a permission in common. The error code and the response are as before. -/
theorem sslPrint1609Status_true {o : Options} {beyond : Nat → UInt8}
    {received : Option (Option PeerReport)} {verifyResult : Int} {chain : Bool × List CertInfo}
    {r r' : Results}
    (h : sslPrint1609Status o beyond received verifyResult chain r = some (true, r')) :
    (r'.errorCode = r.errorCode ∧ r'.httpResponse = r.httpResponse) ∧
      ∃ peer, received = some (some peer) ∧ peer.psid = o.optPsid ∧
      (0 < o.optCertSspLen → peer.ssp ≠ [] ∧ peer.ssp.getD 0 0 = o.sspAt beyond 0 ∧
        sspMatches o beyond peer.ssp ≠ 0) := by
  -- Each comparison that fails leaves with the result false, so all of them hold.
  unfold sslPrint1609Status at h
  split at h
  · exact absurd h (by simp only [reduceCtorEq, not_false_eq_true])
  · simp only [Option.some.injEq, Prod.mk.injEq, Bool.false_eq_true, false_and] at h
  · rename_i peer
    split at h
    · split at h
      · simp only [Option.some.injEq, Prod.mk.injEq, Bool.false_eq_true, false_and] at h
      · exact absurd h (by simp only [reduceCtorEq, not_false_eq_true])
    · simp only at h
      split at h
      · simp only [Option.some.injEq, Prod.mk.injEq, Bool.false_eq_true, false_and] at h
      · rename_i hpsid
        rw [ne_eq, Decidable.not_not] at hpsid
        split at h
        · split at h
          · simp only [Option.some.injEq, Prod.mk.injEq, Bool.false_eq_true, false_and] at h
          · rename_i hssp
            split at h
            · simp only [Option.some.injEq, Prod.mk.injEq, Bool.false_eq_true, false_and] at h
            · rename_i hvsn
              rw [ne_eq, Decidable.not_not] at hvsn
              split at h
              · simp only [Option.some.injEq, Prod.mk.injEq, Bool.false_eq_true, false_and] at h
              · rename_i hbits
                rw [Option.some.injEq, Prod.mk.injEq] at h
                refine ⟨⟨by rw [← h.2], by rw [← h.2]⟩, peer, rfl, hpsid,
                  fun _ => ⟨?_, hvsn, hbits⟩⟩
                rintro hnil
                rw [hnil] at hssp
                exact hssp rfl
        · rename_i hlen
          rw [Option.some.injEq, Prod.mk.injEq] at h
          exact ⟨⟨by rw [← h.2], by rw [← h.2]⟩, peer, rfl, hpsid, fun hpos => absurd hpos hlen⟩

/-- A check that fails leaves an error. -/
theorem sslPrint1609Status_false {o : Options} {beyond : Nat → UInt8}
    {received : Option (Option PeerReport)} {verifyResult : Int} {chain : Bool × List CertInfo}
    {r r' : Results}
    (h : sslPrint1609Status o beyond received verifyResult chain r = some (false, r')) :
    r'.errorCode ≠ 0 := by
  unfold sslPrint1609Status at h
  -- Every exit with the result false sets one of the codes.
  split at h
  · exact absurd h (by simp only [reduceCtorEq, not_false_eq_true])
  · rw [Option.some.injEq, Prod.mk.injEq] at h
    rw [← h.2]
    exact Nat.succ_ne_zero _
  · split at h
    · split at h
      · rw [Option.some.injEq, Prod.mk.injEq] at h
        rw [← h.2]
        exact Nat.succ_ne_zero _
      · exact absurd h (by simp only [reduceCtorEq, not_false_eq_true])
    · simp only at h
      repeat' split at h
      all_goals
        rw [Option.some.injEq, Prod.mk.injEq] at h
        first
          | exact absurd h.1 (by decide)
          | rw [← h.2]
            exact Nat.succ_ne_zero _

/-- With everything behind the buffer wanted, whoever passes the check is authorised. -/
theorem authorised_of_status {o : Options} {req : Bytes} (ho : o.optCertSsp = SspMask.of req)
    (hlen : o.optCertSspLen = req.length) (hreq : SspCovered req) {beyond : Nat → UInt8}
    {peer : PeerReport} (hpeer : Reported peer) {verifyResult : Int}
    {chain : Bool × List CertInfo} {r r' : Results}
    (h : sslPrint1609Status o beyond (some (some peer)) verifyResult chain r = some (true, r')) :
    Authorised o.optPsid req peer := by
  rcases sslPrint1609Status_true h with ⟨-, peer', heq, hpsid, hssp⟩
  rw [Option.some.injEq, Option.some.injEq] at heq
  subst heq
  refine ⟨hpsid, fun hne => ?_⟩
  have hpos : 0 < req.length := List.length_pos_iff.mpr hne
  obtain ⟨hnil, hvsn, hbits⟩ := hssp (by rw [hlen]; exact hpos)
  rw [sspAt_of_lt ho beyond (by decide) hpos] at hvsn
  refine ⟨hnil, hvsn, ?_⟩
  rcases (sspMatches_pos_iff o beyond peer.ssp).mp hbits with ⟨i, hone, hi, hissp, hbit⟩
  rw [hlen] at hi
  refine ⟨i, hone, hi, hissp, ?_⟩
  by_cases hin : i < certSspSize
  · rw [sspAt_of_lt ho beyond hin hi] at hbit
    exact hbit
  · -- Behind the buffer anything the peer has is wanted.
    rw [hreq i (Nat.le_of_not_lt hin) hi (Nat.lt_of_lt_of_le hissp hpeer.2)]
    intro hzero
    have hall : (0xff : UInt8) &&& peer.ssp.getD i 0 = peer.ssp.getD i 0 := UInt8.neg_one_and
    rw [hall] at hzero
    rw [hzero, UInt8.and_zero] at hbit
    exact hbit rfl

/-- Permissions of the wanted version, of which the only one is not wanted. -/
def soleSsp (req : Bytes) (k : Nat) : Bytes :=
  (List.range (k + 1)).map (fun i =>
    if i = 0 then req.getD 0 0 else if i = k then ~~~ req.getD k 0 else 0)

theorem length_soleSsp (req : Bytes) (k : Nat) : (soleSsp req k).length = k + 1 := by
  rw [soleSsp, List.length_map, List.length_range]

theorem getD_soleSsp {req : Bytes} {k i : Nat} (hi : i < k + 1) :
    (soleSsp req k).getD i 0 =
      if i = 0 then req.getD 0 0 else if i = k then ~~~ req.getD k 0 else 0 := by
  rw [List.getD_eq_getElem?_getD, soleSsp, List.getElem?_map, List.getElem?_range hi]
  rfl

/-- With something behind the buffer that is not wanted, some peer passes the check with no
    more than that. -/
theorem unauthorised_accepted {o : Options} {req : Bytes} (ho : o.optCertSsp = SspMask.of req)
    (hlen : o.optCertSspLen = req.length) (hpsid : o.optPsid ≠ 0) (hreq : ¬ SspCovered req)
    (chain : Bool × List CertInfo) (r : Results) :
    ∃ beyond peer, Reported peer ∧ ¬ Authorised o.optPsid req peer ∧
      ∃ r', sslPrint1609Status o beyond (some (some peer)) 0 chain r = some (true, r') := by
  unfold SspCovered at hreq
  push Not at hreq
  rcases hreq with ⟨k, hk, hklen, hkmax, hbyte⟩
  have hk32 : 32 ≤ k := hk
  -- The peer has the version, and behind the buffer just what is not wanted.
  have hlast : (soleSsp req k).getD k 0 = ~~~ req.getD k 0 := by
    rw [getD_soleSsp (Nat.lt_succ_self k), if_neg (by omega), if_pos rfl]
  refine ⟨fun _ => 0xff, ⟨o.optPsid, soleSsp req k, none⟩,
    ⟨hpsid, by rw [length_soleSsp]; omega⟩, ?_, ?_⟩
  · rintro ⟨-, hauth⟩
    have hne : req ≠ [] := List.ne_nil_of_length_pos (by omega)
    rcases (hauth hne).2.2 with ⟨i, hone, -, hi, hbit⟩
    rw [length_soleSsp] at hi
    apply hbit
    -- In no octet of the array does it have what is wanted.
    by_cases hik : i = k
    · rw [hik, hlast, UInt8.and_not_self]
    · rw [getD_soleSsp hi, if_neg (by omega), if_neg hik, UInt8.and_zero]
  · -- With all bits set behind the buffer, octet `k` still counts as a match.
    have hmatch : sspMatches o (fun _ => 0xff) (soleSsp req k) ≠ 0 := by
      rw [sspMatches_pos_iff, length_soleSsp]
      refine ⟨k, by omega, by omega, by omega, ?_⟩
      have hall : (0xff : UInt8) &&& ~~~ req.getD k 0 = ~~~ req.getD k 0 := UInt8.neg_one_and
      rw [Options.sspAt, if_neg (Nat.not_lt.mpr hk), hlast, hall]
      intro hzero
      rw [UInt8.not_eq_comm] at hzero
      exact hbyte hzero
    have hvsn : (soleSsp req k).getD 0 0 = o.sspAt (fun _ => 0xff) 0 := by
      rw [sspAt_of_lt ho _ (by decide) (by omega), getD_soleSsp (by omega), if_pos rfl]
    simp only [sslPrint1609Status, ne_eq, not_true_eq_false, if_false]
    rw [if_pos (by omega), if_neg (by rw [length_soleSsp]; omega), if_neg (fun hne => hne hvsn),
      if_neg hmatch]
    exact ⟨_, rfl⟩

end Iso21177
