import Iso21177.Ssl.CertVerify

/-!
# Reading a Request to Verify a Signature

The request that asks the security entity to check a signature is the hash of
the certificate, the signature and the signed data, one behind the other and
with no lengths in between. The signature is whatever the peer put into its
message, so the question is whether it can be chosen such that the entity
splits the request elsewhere.

It cannot, and what settles it is the padding. Two readings of one request
differ by how long their signed data is, and that varies only with the hash, by
at most as many octets as the padding has. Moved by so few, the first octet of
the context string falls on padding.

## Main definitions

* `evpMaxMdSize`: The longest hash.
* `Tls13Producible`: Data that may be signed in TLS 1.3.

## Theorems

* `tls13Producible_iff`: These are what `get_cert_verify_tbs_data` produces.
* `getElem_tls13Tbs_pad`, `getElem_tls13Tbs_context`: The padding and the octet behind it.
* `tls13Tbs_not_shifted`: Signed data does not end in other signed data.
* `verifyRequest_injective`: A request has one reading.
-/

namespace Iso21177

open Packet

/-- `EVP_MAX_MD_SIZE`. -/
def evpMaxMdSize : Nat := 64

/-- The data `get_cert_verify_tbs_data` can produce in TLS 1.3. -/
def Tls13Producible (tbs : Bytes) : Prop :=
  ∃ byServer hash, hash.length ≤ evpMaxMdSize ∧ tbs = tls13Tbs byServer hash

section
variable {ω : Type}

/-- With hashes that fit their buffers, the data of a TLS 1.3 connection is of this
    form, and every such data can occur. -/
theorem tls13Producible_iff (env : Env ω) (s0 : SSL ω)
    (hbound : ∀ tr o h, env.handshakeHash tr o = some h → h.length ≤ evpMaxMdSize)
    (tbs : Bytes) :
    Tls13Producible tbs ↔
      ∃ s t : SSL ω, s.tls13 = true ∧ s.certVerifyHash.length ≤ evpMaxMdSize ∧
        getCertVerifyTbsData env s = (some tbs, t) := by
  constructor
  · rintro ⟨byServer, hash, hlen, rfl⟩
    -- A side that checks a signature takes the hash it saved.
    let st : HandState := if byServer then .crCertVrfy else .srCertVrfy
    let s : SSL ω := { s0 with
      tls13 := true
      certVerifyHash := hash
      statem := { s0.statem with handState := st } }
    refine ⟨s, s, rfl, hlen, ?_⟩
    cases byServer <;> rfl
  · rintro ⟨s, t, h13, hlen, h⟩
    unfold getCertVerifyTbsData at h
    rw [if_pos h13] at h
    simp only at h
    split at h
    · exact absurd (Prod.mk.inj h).1 (by simp only [reduceCtorEq, not_false_eq_true])
    · rename_i hash hhash
      refine ⟨_, hash, ?_, (Option.some.inj (Prod.mk.inj h).1).symm⟩
      split at hhash
      · rwa [← Option.some.inj hhash]
      · exact hbound _ _ _ hhash

end

theorem length_context (byServer : Bool) :
    (if byServer then serverContext else clientContext).length = 33 := by
  cases byServer <;> rfl

theorem length_tls13Tbs (byServer : Bool) (hash : Bytes) :
    (tls13Tbs byServer hash).length = tls13TbsStartSize + 34 + hash.length := by
  simp only [tls13Tbs, List.length_append, List.length_replicate, List.length_cons,
    length_context]
  omega

theorem getElem_tls13Tbs_pad (byServer : Bool) (hash : Bytes) {i : Nat}
    (hi : i < tls13TbsStartSize) : (tls13Tbs byServer hash)[i]? = some 0x20 := by
  unfold tls13Tbs
  rw [List.append_assoc, List.getElem?_append_left (by rwa [List.length_replicate]),
    List.getElem?_replicate_of_lt hi]

theorem getElem_tls13Tbs_context (byServer : Bool) (hash : Bytes) :
    (tls13Tbs byServer hash)[tls13TbsStartSize]? = some 0x54 := by
  unfold tls13Tbs
  rw [List.append_assoc, List.getElem?_append_right (by rw [List.length_replicate]),
    List.length_replicate, Nat.sub_self]
  cases byServer <;> rfl

/-- Signed data does not end in other signed data: the context string would start
    on the padding. -/
theorem tls13Tbs_not_shifted {x tbs tbs' : Bytes} (h : Tls13Producible tbs)
    (h' : Tls13Producible tbs') (heq : tbs = x ++ tbs') : x = [] := by
  rcases h with ⟨b, hash, hlen, rfl⟩
  rcases h' with ⟨b', hash', _, rfl⟩
  have hx : x.length + hash'.length = hash.length := by
    have hl := congrArg List.length heq
    rw [List.length_append, length_tls13Tbs, length_tls13Tbs] at hl
    omega
  by_contra hne
  have hpos : 0 < x.length := List.length_pos_iff.mpr hne
  have hle : x.length ≤ tls13TbsStartSize := by
    unfold evpMaxMdSize at hlen
    unfold tls13TbsStartSize
    omega
  -- The same octet, read once as the context and once as the padding.
  have hcontext := getElem_tls13Tbs_context b hash
  rw [heq, List.getElem?_append_right hle, getElem_tls13Tbs_pad b' hash' (by omega)] at hcontext
  exact absurd hcontext (by decide)

/-- A request to verify a signature can be read in one way only. -/
theorem verifyRequest_injective {h h' sig sig' tbs tbs' : Bytes}
    (hh : h.length = hashedid8Len) (hh' : h'.length = hashedid8Len)
    (ht : Tls13Producible tbs) (ht' : Tls13Producible tbs')
    (heq : (secEntMsgNewTypeTlsVerifyData h sig tbs).data =
      (secEntMsgNewTypeTlsVerifyData h' sig' tbs').data) :
    h = h' ∧ sig = sig' ∧ tbs = tbs' := by
  simp only [secEntMsgNewTypeTlsVerifyData, List.append_assoc] at heq
  rcases List.append_inj heq (hh.trans hh'.symm) with ⟨rfl, hrest⟩
  refine ⟨rfl, ?_⟩
  -- One of the two signatures is the other with some octets of the data behind it.
  rcases List.append_eq_append_iff.mp hrest with ⟨x, hsig, htbs⟩ | ⟨x, hsig, htbs⟩
  · have hx := tls13Tbs_not_shifted ht ht' htbs
    rw [hx] at hsig htbs
    exact ⟨by rw [hsig, List.append_nil], htbs⟩
  · have hx := tls13Tbs_not_shifted ht' ht htbs
    rw [hx] at hsig htbs
    exact ⟨by rw [hsig, List.append_nil], htbs.symm⟩

/-- A signature that ends as signed data starts. -/
theorem verifyRequest_injective_padding :
    Tls13Producible (tls13Tbs true [7]) ∧
      ([1, 2, 3, 4, 5, 6, 7, 8] : Bytes) = [1, 2, 3, 4, 5, 6, 7, 8] ∧
      ([0x20] : Bytes) = List.replicate 1 0x20 ∧ tls13Tbs true [7] = tls13Tbs true [7] := by
  have hlen : ([1, 2, 3, 4, 5, 6, 7, 8] : Bytes).length = hashedid8Len := rfl
  have ht : Tls13Producible (tls13Tbs true [7]) := ⟨true, [7], by decide, rfl⟩
  exact ⟨ht, verifyRequest_injective hlen hlen ht ht rfl⟩

end Iso21177
