import Iso21177.SecEnt.Handlers

/-!
# Delivering the Peer's Identity

A reply to VERIFY_DATA carries the service identifier of the peer in eight octets and its
permissions behind that, a hundred octets at most. They are stored in the connection and
handed out when the application asks.

Three comparisons with the size of the buffer decide what becomes of the permissions: the
reply may be that long, the stored length may be that large, and yet only fewer are
copied. Permissions that fill the buffer are therefore handed out as whatever the buffer
held before. That is the only way in which the identity is not delivered
(`identity_delivered_iff`).

## Main definitions

* `PeerReport.Says`: A report says what a reply does.
* `Delivered`: A reply is stored and handed out, or refused without a trace.
* `SspLost`: The permissions fill the buffer and are not those it held.
* `fullSspReply`, `fullSspEnv`: Such a reply.

## Theorems

* `psid_toNat`, `psid_eq_zero_iff`: The service identifier.
* `says_storePeerId`, `sslGet1609PsidReceived_stored`: What is handed out.
* `tlsProcessIeee1609CertCertVerify_reply`, `tlsProcessIeee1609CertCertVerify_noReply`: What
  is stored.
* `not_delivered_of_sspLost`, `delivered_of_not_sspLost`, `identity_delivered_iff`: When the
  identity is delivered.
* `full_permissions_lost`: One that is not.
-/

namespace Iso21177

open Packet

section Identity

variable {ω : Type} {env : Env ω}

/-- The report says what the payload of a VERIFY_DATA reply does. -/
def PeerReport.Says (rep : PeerReport) (r : Bytes) : Prop :=
  rep.psid.toNat = beVal (r.take 8) ∧ rep.ssp = r.drop 8

/-- Checking a CertificateVerify goes as it should. With a reply of a permitted length it
    succeeds, and what is then handed out is what the reply says, unless it says that there
    is no identity. With any other outcome of the exchange it fails, and nothing that is
    stored of the peer changes. -/
def Delivered (env : Env ω) (c : Ieee1609Cert) (verifyInput verifyData : Bytes) (s : SSL ω) :
    Prop :=
  let refused := ∃ t, tlsProcessIeee1609CertCertVerify env (some c) verifyInput verifyData s =
    some (false, t) ∧ t.peerId = s.peerId
  match (secEntProcess env
    (secEntMsgNewTypeTlsVerifyData c.hashedid8 verifyData verifyInput) s).1 with
  | .msg m =>
    if m.msgType = secEntMsgTypeTlsVerifyData ∧ 8 ≤ m.data.length ∧
        m.data.length ≤ 8 + maxSspLen then
      ∃ t, tlsProcessIeee1609CertCertVerify env (some c) verifyInput verifyData s =
          some (true, t) ∧
        (m.data.take 8 ≠ List.replicate 8 0 →
          (∃ rep, sslGet1609PsidReceived t false false = some (some rep) ∧ rep.Says m.data) ∧
          ∀ rep, sslGet1609PsidReceived t false true = some (some rep) → rep.Says m.data)
    else refused
  | _ => refused

/-- Permissions that fill the buffer are not copied into it; they are there only if they
    were there before. -/
def SspLost (env : Env ω) (c : Ieee1609Cert) (verifyInput verifyData : Bytes) (s : SSL ω) :
    Prop :=
  ∃ r, (secEntProcess env
      (secEntMsgNewTypeTlsVerifyData c.hashedid8 verifyData verifyInput) s).1 =
      .msg ⟨secEntMsgTypeTlsVerifyData, r⟩ ∧ r.length = 8 + maxSspLen ∧
    r.take 8 ≠ List.replicate 8 0 ∧ s.ieee1609.sspOtherSide.bytes ≠ r.drop 8

/-- The identity is the number its octets spell. -/
theorem psid_toNat (r : Bytes) : (UInt64.ofNat (beVal (r.take 8))).toNat = beVal (r.take 8) := by
  have hlt := beVal_lt (r.take 8)
  have hpow : 256 ^ (r.take 8).length ≤ 256 ^ 8 :=
    Nat.pow_le_pow_right (by decide) (List.length_take_le 8 r)
  rw [UInt64.toNat_ofNat', Nat.mod_eq_of_lt (by omega)]

/-- The identity is zero exactly if its octets are. -/
theorem psid_eq_zero_iff {r : Bytes} (h : 8 ≤ r.length) :
    UInt64.ofNat (beVal (r.take 8)) = 0 ↔ r.take 8 = List.replicate 8 0 := by
  have hlen : (r.take 8).length = 8 := by
    rw [List.length_take]
    omega
  constructor
  · intro hz
    have hval : beVal (r.take 8) = 0 := by
      rw [← psid_toNat, hz]
      rfl
    have hbytes := beBytes_beVal (r.take 8)
    rw [hval, hlen] at hbytes
    rw [← hbytes]
    rfl
  · intro hz
    rw [hz]
    rfl

/-- What is handed out after the identity was stored. -/
theorem says_storePeerId {r : Bytes} {old : SslIeee1609} (h : 8 ≤ r.length)
    (hmax : r.length ≤ 8 + maxSspLen) (hash : Option Bytes) :
    (⟨(storePeerId r old).psidOtherSide,
      (storePeerId r old).sspOtherSide.load (storePeerId r old).sspOtherSideLen, hash⟩ :
        PeerReport).Says r ↔ (r.length = 8 + maxSspLen → old.sspOtherSide.bytes = r.drop 8) := by
  have hssp : (r.drop 8).length = r.length - 8 := List.length_drop
  simp only [PeerReport.Says, storePeerId, psid_toNat, true_and]
  by_cases hcopy : 0 < (r.drop 8).length ∧ (r.drop 8).length < maxSspLen
  · rw [if_pos hcopy, SspBuffer.load_store _ _ (by omega)]
    exact iff_of_true rfl (fun heq => absurd heq (by omega))
  · rw [if_neg hcopy]
    by_cases hfull : r.length = 8 + maxSspLen
    · -- The buffer is read whole, as it was.
      have hall : old.sspOtherSide.load (r.drop 8).length = old.sspOtherSide.bytes := by
        rw [SspBuffer.load, List.take_of_length_le]
        rw [old.sspOtherSide.size]
        omega
      rw [hall]
      exact ⟨fun heq _ => heq, fun heq => heq hfull⟩
    · -- There are no permissions.
      have hnil : r.drop 8 = [] := List.eq_nil_of_length_eq_zero (by omega)
      rw [hnil]
      exact iff_of_true rfl (fun heq => absurd heq hfull)

/-- Without an identity nothing is handed out; with one, what is stored is. -/
theorem sslGet1609PsidReceived_stored {s : SSL ω} {r : Bytes} (h : 8 ≤ r.length)
    (hne : r.take 8 ≠ List.replicate 8 0) (hs : s.ieee1609.psidOtherSide =
      UInt64.ofNat (beVal (r.take 8))) (wantHash : Bool) :
    (∀ rep, sslGet1609PsidReceived s false wantHash = some (some rep) →
      ∃ hash, rep = ⟨s.ieee1609.psidOtherSide,
        s.ieee1609.sspOtherSide.load s.ieee1609.sspOtherSideLen, hash⟩) ∧
    sslGet1609PsidReceived s false false = some (some ⟨s.ieee1609.psidOtherSide,
      s.ieee1609.sspOtherSide.load s.ieee1609.sspOtherSideLen, none⟩) := by
  have hpsid : ¬ s.ieee1609.psidOtherSide = 0 := by
    rw [hs, psid_eq_zero_iff h]
    exact hne
  refine ⟨fun rep hget => (sslGet1609PsidReceived_some hget).2, ?_⟩
  simp only [sslGet1609PsidReceived, Bool.false_eq_true, if_false]
  rw [if_neg hpsid]

/-- A reply of a permitted length is stored. -/
theorem tlsProcessIeee1609CertCertVerify_reply {c : Ieee1609Cert}
    {verifyInput verifyData : Bytes} {s : SSL ω} {m : SecEntMsg}
    (hm : (secEntProcess env
      (secEntMsgNewTypeTlsVerifyData c.hashedid8 verifyData verifyInput) s).1 = .msg m)
    (hok : m.msgType = secEntMsgTypeTlsVerifyData ∧ 8 ≤ m.data.length ∧
      m.data.length ≤ 8 + maxSspLen) :
    ∃ t, tlsProcessIeee1609CertCertVerify env (some c) verifyInput verifyData s =
      some (true, t) ∧ t.ieee1609 = storePeerId m.data s.ieee1609 := by
  rw [tlsProcessIeee1609CertCertVerify_eq_handler]
  cases hp : secEntProcess env
      (secEntMsgNewTypeTlsVerifyData c.hashedid8 verifyData verifyInput) s with
  | mk reply s' =>
    rw [hp] at hm
    have hs' := secEntProcess_eq hp
    have hnot : ¬ (m.msgType ≠ secEntMsgTypeTlsVerifyData ∨ m.data.length < 8 ∨
        8 + maxSspLen < m.data.length) := by
      rintro (htype | hlen | hlen)
      · exact htype hok.1
      · omega
      · omega
    simp only at hm
    simp only [hm, verifyDataId_eq, if_neg hnot]
    refine ⟨_, rfl, ?_⟩
    simp only [hs']
    rfl

/-- Any other outcome of the exchange is a failure that changes nothing stored of the peer. -/
theorem tlsProcessIeee1609CertCertVerify_noReply {c : Ieee1609Cert}
    {verifyInput verifyData : Bytes} {s : SSL ω}
    (hbad : ∀ m, (secEntProcess env
      (secEntMsgNewTypeTlsVerifyData c.hashedid8 verifyData verifyInput) s).1 = .msg m →
      ¬ (m.msgType = secEntMsgTypeTlsVerifyData ∧ 8 ≤ m.data.length ∧
        m.data.length ≤ 8 + maxSspLen)) :
    ∃ t, tlsProcessIeee1609CertCertVerify env (some c) verifyInput verifyData s =
      some (false, t) ∧ t.peerId = s.peerId := by
  rw [tlsProcessIeee1609CertCertVerify_eq_handler]
  cases hp : secEntProcess env
      (secEntMsgNewTypeTlsVerifyData c.hashedid8 verifyData verifyInput) s with
  | mk reply s' =>
    have hid : s'.peerId = s.peerId := by
      rw [secEntProcess_eq hp]
      rfl
    -- Each of the failures raises an alert, and an alert leaves the identity.
    have hfail : ∀ al reason, ∃ t, sslFail al reason s' = some (false, t) ∧
        t.peerId = s.peerId := by
      intro al reason
      refine ⟨sslFatal al reason s', rfl, ?_⟩
      rw [sslFatal_eq, ← hid]
      rfl
    cases reply with
    | none => exact hfail _ _
    | failure => exact hfail _ _
    | msg m =>
        have hno := hbad m (by rw [hp])
        have hor : m.msgType ≠ secEntMsgTypeTlsVerifyData ∨ m.data.length < 8 ∨
            8 + maxSspLen < m.data.length := by
          by_contra h
          rw [not_or, not_or, ne_eq, Decidable.not_not] at h
          exact hno ⟨h.1, by omega, by omega⟩
        simp only [verifyDataId_eq, if_pos hor]
        exact hfail _ _

/-- Lost permissions are not delivered. -/
theorem not_delivered_of_sspLost {c : Ieee1609Cert} {verifyInput verifyData : Bytes} {s : SSL ω}
    (h : SspLost env c verifyInput verifyData s) :
    ¬ Delivered env c verifyInput verifyData s := by
  rcases h with ⟨r, hr, hlen, hne, hold⟩
  have hok : 8 ≤ r.length ∧ r.length ≤ 8 + maxSspLen := by omega
  rcases tlsProcessIeee1609CertCertVerify_reply hr ⟨rfl, hok⟩ with ⟨t', ht', hstored⟩
  unfold Delivered
  rw [hr]
  simp only [true_and, if_pos hok]
  rintro ⟨t, ht, hrep⟩
  rw [ht', Option.some.injEq, Prod.mk.injEq] at ht
  rw [← ht.2] at hrep
  rcases (hrep hne).1 with ⟨rep, hget, hsay⟩
  have hpsid : t'.ieee1609.psidOtherSide = UInt64.ofNat (beVal (r.take 8)) := by
    rw [hstored]
    rfl
  rw [(sslGet1609PsidReceived_stored hok.1 hne hpsid false).2, Option.some.injEq,
    Option.some.injEq] at hget
  rw [← hget, hstored] at hsay
  exact hold ((says_storePeerId hok.1 hok.2 none).mp hsay hlen)

/-- Whatever else happens is delivered. -/
theorem delivered_of_not_sspLost {c : Ieee1609Cert} {verifyInput verifyData : Bytes} {s : SSL ω}
    (h : ¬ SspLost env c verifyInput verifyData s) :
    Delivered env c verifyInput verifyData s := by
  unfold Delivered
  cases hr : (secEntProcess env
      (secEntMsgNewTypeTlsVerifyData c.hashedid8 verifyData verifyInput) s).1 with
  | none =>
      refine tlsProcessIeee1609CertCertVerify_noReply (fun m hm => ?_)
      rw [hr] at hm
      exact absurd hm (by simp only [reduceCtorEq, not_false_eq_true])
  | failure =>
      refine tlsProcessIeee1609CertCertVerify_noReply (fun m hm => ?_)
      rw [hr] at hm
      exact absurd hm (by simp only [reduceCtorEq, not_false_eq_true])
  | msg m =>
      simp only
      by_cases hok : m.msgType = secEntMsgTypeTlsVerifyData ∧ 8 ≤ m.data.length ∧
          m.data.length ≤ 8 + maxSspLen
      · rw [if_pos hok]
        rcases tlsProcessIeee1609CertCertVerify_reply hr hok with ⟨t, ht, hstored⟩
        refine ⟨t, ht, fun hne => ?_⟩
        have hpsid : t.ieee1609.psidOtherSide = UInt64.ofNat (beVal (m.data.take 8)) := by
          rw [hstored]
          rfl
        -- The buffer had these permissions before, or they were copied to it.
        have hsay : ∀ hash, (⟨t.ieee1609.psidOtherSide,
            t.ieee1609.sspOtherSide.load t.ieee1609.sspOtherSideLen, hash⟩ :
              PeerReport).Says m.data := by
          intro hash
          rw [hstored]
          refine (says_storePeerId hok.2.1 hok.2.2 hash).mpr (fun hlen => ?_)
          by_contra hold
          refine h ⟨m.data, ?_, hlen, hne, hold⟩
          rw [hr, ← hok.1]
        have hget := sslGet1609PsidReceived_stored hok.2.1 hne hpsid
        refine ⟨⟨_, (hget false).2, hsay none⟩, fun rep hrep => ?_⟩
        rcases (hget true).1 rep hrep with ⟨hash, rfl⟩
        exact hsay hash
      · rw [if_neg hok]
        refine tlsProcessIeee1609CertCertVerify_noReply (fun m' hm' => ?_)
        rw [hr, SecEntReply.msg.injEq] at hm'
        rw [← hm']
        exact hok

/-- The identity of the peer is delivered exactly if no permissions are lost. -/
theorem identity_delivered_iff (c : Ieee1609Cert) (verifyInput verifyData : Bytes) (s : SSL ω) :
    Delivered env c verifyInput verifyData s ↔ ¬ SspLost env c verifyInput verifyData s :=
  ⟨fun hd hl => not_delivered_of_sspLost hl hd, delivered_of_not_sspLost⟩

end Identity

/-- The identity 36 and permissions of a hundred octets. -/
def fullSspReply : Bytes := List.replicate 7 0 ++ [36] ++ List.replicate 100 1

/-- An entity that answers everything with that. -/
def fullSspEnv : Env Unit :=
  { plainEnv with secEnt := fun _ _ => some ⟨secEntMsgTypeTlsVerifyData, fullSspReply⟩ }

/-- Permissions of a hundred octets for a connection whose buffer holds zeros: a hundred
    zeros are handed out. -/
theorem full_permissions_lost :
    ¬ ∀ (env : Env Unit) (c : Ieee1609Cert) (verifyInput verifyData : Bytes) (s : SSL Unit),
      Delivered env c verifyInput verifyData s := by
  intro h
  refine not_delivered_of_sspLost ?_ (h fullSspEnv ⟨[7], noHash⟩ [] []
    (sslNew SspBuffer.zero 0 Cert.empty ()))
  refine ⟨fullSspReply, rfl, by decide, by decide, by decide⟩

end Iso21177
