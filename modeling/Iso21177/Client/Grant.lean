import Iso21177.Client.Status

/-!
# Who Is Granted What

How the check of the peer's permissions relates two peers, and a peer to the
request itself.

Permissions can only help: a peer that is accepted stays accepted with more of
them (`accepted_mono`), whatever lies behind the buffer for the request. A peer
that has exactly what is asked for is accepted if a permission is asked for at
all, within the buffer. The check counts the octets that have one in common, from
the second on, and refuses a count of zero; a request that has a version only is
refused to everybody.

## Main definitions

* `Passes`: The part of the check that is about the service and the permissions.
* `GrantsAtLeast`: A peer has all the permissions of another one.
* `AsksWithin`: A permission is asked for within the buffer.

## Theorems

* `sslPrint1609Status_iff`: The check of a verified peer.
* `setSsp_some`: The options after an array was passed.
* `passes_mono`: More permissions do no harm.
* `passes_self`, `asks_of_passes`: A peer that has what is asked for.
* `permissions_granted`: The two laws.
-/

namespace Iso21177

open Packet

/-- The peer is for the service and has the version and a permission if there are any
    wanted. -/
def Passes (o : Options) (beyond : Nat → UInt8) (peer : PeerReport) : Prop :=
  peer.psid = o.optPsid ∧ (0 < o.optCertSspLen → peer.ssp ≠ [] ∧
    peer.ssp.getD 0 0 = o.sspAt beyond 0 ∧ sspMatches o beyond peer.ssp ≠ 0)

/-- The same service and version, and every permission of the first. -/
structure GrantsAtLeast (a b : PeerReport) : Prop where
  psid : b.psid = a.psid
  version : a.ssp.getD 0 0 = b.ssp.getD 0 0
  length : a.ssp.length ≤ b.ssp.length
  bits : ∀ i, 1 ≤ i → i < a.ssp.length → a.ssp.getD i 0 &&& b.ssp.getD i 0 = a.ssp.getD i 0

/-- A permission is asked for within the buffer. -/
def AsksWithin (req : Bytes) : Prop := ∃ i, 1 ≤ i ∧ i < certSspSize ∧ req.getD i 0 ≠ 0

/-- A verified peer is accepted if it passes, whatever else is reported of it. -/
theorem sslPrint1609Status_iff (o : Options) (beyond : Nat → UInt8) (peer : PeerReport)
    (chain : Bool × List CertInfo) (r : Results) :
    (∃ r', sslPrint1609Status o beyond (some (some peer)) 0 chain r = some (true, r')) ↔
      Passes o beyond peer := by
  constructor
  · rintro ⟨r', h⟩
    rcases sslPrint1609Status_true h with ⟨-, peer', heq, hpsid, hssp⟩
    rw [Option.some.injEq, Option.some.injEq] at heq
    subst heq
    exact ⟨hpsid, hssp⟩
  · rintro ⟨hpsid, hssp⟩
    simp only [sslPrint1609Status, ne_eq, not_true_eq_false, if_false, hpsid]
    by_cases hpos : 0 < o.optCertSspLen
    · rcases hssp hpos with ⟨hne, hvsn, hmatch⟩
      rw [if_pos hpos, if_neg (fun hnil => hne (List.length_eq_zero_iff.mp hnil)),
        if_neg (fun hdiff => hdiff hvsn), if_neg hmatch]
      exact ⟨_, rfl⟩
    · rw [if_neg hpos]
      exact ⟨_, rfl⟩

/-- The options after an array was passed. -/
theorem setSsp_some {req : Bytes} (hreq : req ≠ []) (o : Options) :
    (setSsp (some req) o).optPsid = o.optPsid ∧
      (setSsp (some req) o).optCertSsp = SspMask.of req ∧
      (setSsp (some req) o).optCertSspLen = req.length := by
  have hlen : req.length ≠ 0 := fun hnil => hreq (List.length_eq_zero_iff.mp hnil)
  unfold setSsp
  simp only [if_neg hlen, and_self]

/-- A permission that counts for a peer counts for one that has as many. -/
theorem passes_mono {o : Options} {beyond : Nat → UInt8} {a b : PeerReport}
    (hab : GrantsAtLeast a b) (h : Passes o beyond a) : Passes o beyond b := by
  refine ⟨hab.psid.trans h.1, fun hpos => ?_⟩
  rcases h.2 hpos with ⟨hne, hvsn, hmatch⟩
  rcases (sspMatches_pos_iff o beyond a.ssp).mp hmatch with ⟨i, hone, hi, hia, hbit⟩
  refine ⟨?_, hab.version ▸ hvsn, ?_⟩
  · intro hnil
    have hlen := hab.length
    rw [hnil, List.length_nil] at hlen
    omega
  · rw [sspMatches_pos_iff]
    refine ⟨i, hone, hi, Nat.lt_of_lt_of_le hia hab.length, ?_⟩
    -- Where the octets of the second peer have nothing wanted, those of the first have nothing.
    intro hzero
    apply hbit
    rw [← hab.bits i hone hia, UInt8.and_comm (a.ssp.getD i 0), ← UInt8.and_assoc, hzero,
      UInt8.zero_and]

section
variable {o : Options} {beyond : Nat → UInt8} {req : Bytes} {peer : PeerReport}

/-- A peer that has what is asked for passes, if anything is. -/
theorem passes_self (hreq : req ≠ []) (hpsid : peer.psid = o.optPsid) (hssp : peer.ssp = req)
    (hask : AsksWithin req) : Passes (setSsp (some req) o) beyond peer := by
  rcases setSsp_some hreq o with ⟨hp, hmask, hlen⟩
  have hpos : 0 < req.length := List.length_pos_iff.mpr hreq
  refine ⟨hpsid.trans hp.symm, fun _ => ⟨by rwa [hssp], ?_, ?_⟩⟩
  · rw [sspAt_of_lt hmask beyond (by decide) hpos, hssp]
  · rcases hask with ⟨i, hone, hin, hbit⟩
    have hi : i < req.length := by
      by_contra hge
      rw [List.getD_eq_getElem?_getD, List.getElem?_eq_none (Nat.le_of_not_lt hge)] at hbit
      exact hbit rfl
    rw [sspMatches_pos_iff]
    refine ⟨i, hone, by rwa [hlen], by rwa [hssp], ?_⟩
    rwa [sspAt_of_lt hmask beyond hin hi, hssp, UInt8.and_self]

/-- A request that fits the buffer and that some peer passes asks for something. -/
theorem asks_of_passes (hreq : req ≠ []) (hfit : req.length ≤ certSspSize)
    (h : Passes (setSsp (some req) o) beyond peer) : AsksWithin req := by
  rcases setSsp_some hreq o with ⟨-, hmask, hlen⟩
  have hpos : 0 < req.length := List.length_pos_iff.mpr hreq
  rcases h.2 (by rwa [hlen]) with ⟨-, -, hmatch⟩
  rcases (sspMatches_pos_iff _ beyond peer.ssp).mp hmatch with ⟨i, hone, hi, -, hbit⟩
  rw [hlen] at hi
  have hin : i < certSspSize := Nat.lt_of_lt_of_le hi hfit
  rw [sspAt_of_lt hmask beyond hin hi] at hbit
  refine ⟨i, hone, hin, fun hzero => hbit ?_⟩
  rw [hzero, UInt8.zero_and]

end

/-- After an array was passed, a verified peer with just these permissions is accepted if
    the array asks for one within the buffer, and otherwise not unless the array is longer
    than the buffer; and a peer stays accepted with more permissions. -/
theorem permissions_granted (o : Options) (beyond : Nat → UInt8) (req : Bytes) (hreq : req ≠ []) :
    (∀ peer chain r, peer.psid = o.optPsid → peer.ssp = req →
      (AsksWithin req → ∃ r', sslPrint1609Status (setSsp (some req) o) beyond
        (some (some peer)) 0 chain r = some (true, r')) ∧
      (req.length ≤ certSspSize → ¬ AsksWithin req → ¬ ∃ r', sslPrint1609Status
        (setSsp (some req) o) beyond (some (some peer)) 0 chain r = some (true, r'))) ∧
    (∀ a b, GrantsAtLeast a b → ∀ chain r chain' r',
      (∃ t, sslPrint1609Status (setSsp (some req) o) beyond
        (some (some a)) 0 chain r = some (true, t)) →
      ∃ t, sslPrint1609Status (setSsp (some req) o) beyond
        (some (some b)) 0 chain' r' = some (true, t)) := by
  simp only [sslPrint1609Status_iff]
  refine ⟨fun peer chain r hpsid hssp => ⟨passes_self hreq hpsid hssp, ?_⟩, ?_⟩
  · intro hfit hno h
    exact hno (asks_of_passes hreq hfit h)
  · intro a b hab chain r chain' r' h
    exact passes_mono hab h

/-- A version and one permission, asked of a peer that has both. -/
theorem permissions_granted_one :
    ∃ r', sslPrint1609Status (setSsp (some [1, 4]) (Options.init [] 443)) (fun _ => 0)
      (some (some ⟨36, [1, 4], none⟩)) 0 (false, []) ⟨[], 0, 0, [], 0, [], []⟩ = some (true, r') :=
  ((permissions_granted (Options.init [] 443) (fun _ => 0) [1, 4] (by decide)).1
    ⟨36, [1, 4], none⟩ (false, []) ⟨[], 0, 0, [], 0, [], []⟩ rfl rfl).1
    ⟨1, by decide, by decide, by decide⟩

/-- A version only, asked of a peer that has the version only. -/
theorem version_only_refused :
    ¬ ∀ (o : Options) (beyond : Nat → UInt8) (req : Bytes), req ≠ [] → req.length ≤ maxSspLen →
      ∀ peer chain r, peer.psid = o.optPsid → peer.ssp = req →
        ∃ r', sslPrint1609Status (setSsp (some req) o) beyond (some (some peer)) 0 chain r =
          some (true, r') := by
  intro h
  have hself := h (Options.init [] 443) (fun _ => 0) [1] (by decide) (by decide)
    ⟨36, [1], none⟩ (false, []) ⟨[], 0, 0, [], 0, [], []⟩ rfl rfl
  rw [sslPrint1609Status_iff] at hself
  -- No octet follows the version, so nothing is counted.
  rcases asks_of_passes (by decide) (by decide) hself with ⟨i, hone, hin, hbit⟩
  rw [List.getD_eq_getElem?_getD, List.getElem?_eq_none hone] at hbit
  exact hbit rfl

end Iso21177
