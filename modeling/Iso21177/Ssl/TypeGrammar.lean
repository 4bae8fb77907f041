import Iso21177.Ssl.CertType

/-!
# The Grammar of the Certificate-Type Extensions

Which bodies the two parsers accept, over all byte strings, and how what one
side writes fares at the other.

A server accepts a length octet with exactly that many octets behind it, as long
as one of them is a type its mask has. Only which values occur matters, so a
client of another make may list them in any order, repeat them, or put types in
between that this code has never heard of. A client accepts a single octet that
its mask has.

A client's list names the types of its mask, so the two sides agree exactly
when their masks share one of the two bits, and then on 1609.2 if they share
that one.

## Main definitions

* `Counted`: A list behind its length.
* `Agreeable`: The mask and the list have a type in common.
* `agreedType`: The type they then agree on.
* `supportBits`: The bits a support mask is made of.
* `ServerGrammar`, `ClientGrammar`, `Negotiates`: What the parsers accept and
  decide, and how the two sides meet.

## Theorems

* `chooseType_of_agreeable`, `chooseType_none`, `chooseType_congr`: The choice.
* `tlsParseCtosCertTypeExt_accepts`, `tlsParseCtosCertTypeExt_refuses`: A
  server's parser on any body.
* `tlsParseStocCertTypeExt_accepts`, `tlsParseStocCertTypeExt_refuses`: A
  client's parser on any body.
* `agreeable_typeList`: Which masks agree.
* `serverGrammar`, `clientGrammar`, `negotiates`: The three parts.
* `certTypeExt_grammar`: The two parsers and the exchange between them.
-/

namespace Iso21177

open Packet

/-- The body is one octet `n` with exactly `n` octets behind it. -/
def Counted (body list : Bytes) : Prop :=
  ∃ n : UInt8, body = n :: list ∧ list.length = n.toNat

/-- A type of the mask is in the list. -/
def Agreeable (support : BitVec 32) (list : Bytes) : Prop :=
  (allows1609 support ∧ CertificateType.ieee1609Dot2.code ∈ list) ∨
    (allowsX509 support ∧ CertificateType.x509.code ∈ list)

/-- 1609.2 if both have it, else X.509. -/
def agreedType (support : BitVec 32) (list : Bytes) : CertificateType :=
  if allows1609 support ∧ CertificateType.ieee1609Dot2.code ∈ list then .ieee1609Dot2 else .x509

/-- The bits a support mask is made of. -/
def supportBits : BitVec 32 := sslRfc89021609 ||| sslRfc8902X509

/-- Where there is a type both sides allow, one is chosen. -/
theorem chooseType_of_agreeable {support : BitVec 32} {list : Bytes}
    (h : Agreeable support list) : chooseType support list = some (agreedType support list) := by
  unfold chooseType agreedType
  by_cases h1 : allows1609 support ∧ CertificateType.ieee1609Dot2.code ∈ list
  · rw [if_pos h1, if_pos h1]
  · rw [if_neg h1, if_neg h1, if_pos (h.resolve_left h1)]

/-- Where there is none, none is. -/
theorem chooseType_none {support : BitVec 32} {list : Bytes} (h : ¬ Agreeable support list) :
    chooseType support list = none := by
  unfold chooseType
  rw [if_neg fun h1 => h (Or.inl h1), if_neg fun h1 => h (Or.inr h1)]

/-- Only which values occur in a list matters. -/
theorem chooseType_congr {support : BitVec 32} {list list' : Bytes}
    (h : ∀ v, v ∈ list ↔ v ∈ list') : chooseType support list = chooseType support list' := by
  simp only [chooseType, h]

/-- One octet is read as itself. -/
theorem getNet_one {body : Bytes} {n : Nat} {list : Bytes} (h : getNet 1 body = some (n, list)) :
    ∃ b : UInt8, body = b :: list ∧ n = b.toNat := by
  cases body with
  | nil => exact absurd h (by simp [getNet, getBytes])
  | cons b rest =>
      simp only [getNet, getBytes, List.length_cons, Nat.le_add_left, if_pos, List.take_succ_cons,
        List.take_zero, List.drop_succ_cons, List.drop_zero, Option.some.injEq, Prod.mk.injEq] at h
      refine ⟨b, by rw [h.2], ?_⟩
      rw [← h.1]
      simp [beVal]

theorem getNet_one_cons (b : UInt8) (list : Bytes) :
    getNet 1 (b :: list) = some (b.toNat, list) := by
  simp [getNet, getBytes, beVal]

variable {ω : Type}

/-- A server on a counted list: it depends on the choice alone. -/
theorem tlsParseCtosCertTypeExt_counted {r : Role} {body list : Bytes} {s : SSL ω}
    (hs : sslIsRfc8902Supported s = true) (hb : Counted body list) :
    tlsParseCtosCertTypeExt r body s =
      match chooseType (s.ieee1609.certType r).support list with
      | some c => some (true, decideType r c s)
      | none => sslFail .decodeError .unsupportedCertType s := by
  rcases hb with ⟨n, rfl, hn⟩
  unfold tlsParseCtosCertTypeExt
  rw [if_neg (by simp only [hs, not_true_eq_false, not_false_eq_true]), getNet_one_cons]
  exact if_neg (not_not_intro hn)

/-- What a server accepts, and what it then decides. -/
theorem tlsParseCtosCertTypeExt_accepts {r : Role} {body list : Bytes} {s : SSL ω}
    (hs : sslIsRfc8902Supported s = true) (hb : Counted body list)
    (ha : Agreeable (s.ieee1609.certType r).support list) :
    tlsParseCtosCertTypeExt r body s =
      some (true, decideType r (agreedType (s.ieee1609.certType r).support list) s) := by
  rw [tlsParseCtosCertTypeExt_counted hs hb, chooseType_of_agreeable ha]

/-- Everything else is a decoding error. -/
theorem tlsParseCtosCertTypeExt_refuses {r : Role} {body : Bytes} {s : SSL ω}
    (hs : sslIsRfc8902Supported s = true)
    (hn : ¬ ∃ list, Counted body list ∧ Agreeable (s.ieee1609.certType r).support list) :
    ∃ reason, tlsParseCtosCertTypeExt r body s =
      some (false, sslFatal .decodeError reason s) := by
  by_cases hb : ∃ list, Counted body list
  · rcases hb with ⟨list, hb⟩
    refine ⟨.unsupportedCertType, ?_⟩
    rw [tlsParseCtosCertTypeExt_counted hs hb, chooseType_none fun ha => hn ⟨list, hb, ha⟩]
    rfl
  · refine ⟨.internalError, ?_⟩
    unfold tlsParseCtosCertTypeExt
    rw [if_neg (by simp only [hs, not_true_eq_false, not_false_eq_true])]
    cases hget : getNet 1 body with
    | none => rfl
    | some p =>
        rcases p with ⟨n, list⟩
        rcases getNet_one hget with ⟨b, hbody, hnb⟩
        -- The length octet is there, so it is the count behind it that is wrong.
        have hlen : list.length ≠ n := by
          intro hlen
          exact hb ⟨list, b, hbody, hlen.trans hnb⟩
        simp only [hlen, ne_eq, not_false_eq_true, if_true]
        rfl

/-- What a client accepts: a single octet its mask has. -/
theorem tlsParseStocCertTypeExt_accepts {r : Role} {c : CertificateType} {s : SSL ω}
    (hs : sslIsRfc8902Supported s = true)
    (hc : Agreeable (s.ieee1609.certType r).support [c.code]) :
    tlsParseStocCertTypeExt r [c.code] s = some (true, decideType r c s) := by
  unfold tlsParseStocCertTypeExt
  rw [if_neg (by simp only [hs, not_true_eq_false, not_false_eq_true])]
  simp only
  rw [chooseType_of_agreeable hc]
  -- The list has one element, so the preferred type is the one in it.
  have ht : agreedType (s.ieee1609.certType r).support [c.code] = c := by
    cases c with
    | x509 => simp [agreedType, CertificateType.code]
    | rawPublicKey => exact absurd hc (by simp [Agreeable, CertificateType.code])
    | ieee1609Dot2 =>
        have h1 : allows1609 (s.ieee1609.certType r).support = true := by
          simpa [Agreeable, CertificateType.code] using hc
        simp [agreedType, CertificateType.code, h1]
  rw [ht]

/-- Anything but one allowed type is refused with decode_error. -/
theorem tlsParseStocCertTypeExt_refuses {r : Role} {body : Bytes} {s : SSL ω}
    (hs : sslIsRfc8902Supported s = true)
    (hn : ¬ ∃ c : CertificateType,
      body = [c.code] ∧ Agreeable (s.ieee1609.certType r).support [c.code]) :
    ∃ reason, tlsParseStocCertTypeExt r body s =
      some (false, sslFatal .decodeError reason s) := by
  unfold tlsParseStocCertTypeExt
  rw [if_neg (by simp only [hs, not_true_eq_false, not_false_eq_true])]
  split
  · rename_i b
    have hno : ¬ Agreeable (s.ieee1609.certType r).support [b] := by
      intro ha
      rcases ha with ⟨h1, hb⟩ | ⟨h1, hb⟩
      · refine hn ⟨.ieee1609Dot2, ?_, Or.inl ⟨h1, List.mem_singleton.mpr rfl⟩⟩
        rw [← List.mem_singleton.mp hb]
      · refine hn ⟨.x509, ?_, Or.inr ⟨h1, List.mem_singleton.mpr rfl⟩⟩
        rw [← List.mem_singleton.mp hb]
    rw [chooseType_none hno]
    exact ⟨_, rfl⟩
  · exact ⟨_, rfl⟩

theorem allows1609_eq (m : BitVec 32) : allows1609 m = m.getLsbD 0 := by
  have hbit : sslRfc89021609 = BitVec.twoPow 32 0 := by decide
  rw [allows1609, hbit, BitVec.and_twoPow]
  cases m.getLsbD 0 <;> decide

theorem allowsX509_eq (m : BitVec 32) : allowsX509 m = m.getLsbD 1 := by
  have hbit : sslRfc8902X509 = BitVec.twoPow 32 1 := by decide
  rw [allowsX509, hbit, BitVec.and_twoPow]
  cases m.getLsbD 1 <;> decide

/-- A mask has one of the two bits. -/
theorem and_supportBits_ne_zero (m : BitVec 32) :
    m &&& supportBits ≠ 0 ↔ allows1609 m ∨ allowsX509 m := by
  have hor : m &&& supportBits = 0#32 ↔
      m &&& sslRfc89021609 = 0#32 ∧ m &&& sslRfc8902X509 = 0#32 := by
    rw [supportBits, BitVec.and_or_distrib_left, BitVec.or_eq_zero_iff]
  simp only [allows1609, allowsX509, decide_eq_true_eq]
  exact hor.not.trans Decidable.not_and_iff_not_or_not

/-- The list sent names what the mask allows, and no other type. -/
theorem mem_typeList (m : BitVec 32) :
    (CertificateType.ieee1609Dot2.code ∈ typeList m ↔ allows1609 m) ∧
      (CertificateType.x509.code ∈ typeList m ↔ allowsX509 m) := by
  unfold typeList
  cases allows1609 m <;> cases allowsX509 m <;> decide

/-- What a client lists suits a server if the masks share one of the two bits. -/
theorem agreeable_typeList (mc ms : BitVec 32) :
    Agreeable ms (typeList mc) ↔ mc &&& ms &&& supportBits ≠ 0 := by
  rw [Agreeable, (mem_typeList mc).1, (mem_typeList mc).2, and_supportBits_ne_zero]
  simp only [allows1609_eq, allowsX509_eq, BitVec.getLsbD_and, Bool.and_eq_true]
  exact or_congr and_comm and_comm

/-- The type a server decides for a client's list is one the client's mask has. -/
theorem agreeable_agreedType {mc ms : BitVec 32} (h : Agreeable ms (typeList mc)) :
    Agreeable mc [(agreedType ms (typeList mc)).code] := by
  unfold agreedType
  by_cases h1 : allows1609 ms ∧ CertificateType.ieee1609Dot2.code ∈ typeList mc
  · rw [if_pos h1]
    exact Or.inl ⟨(mem_typeList mc).1.mp h1.2, List.mem_singleton.mpr rfl⟩
  · rw [if_neg h1]
    exact Or.inr ⟨(mem_typeList mc).2.mp (h.resolve_left h1).2, List.mem_singleton.mpr rfl⟩

/-- The list sent has its length in front. -/
theorem counted_typeList (m : BitVec 32) :
    Counted (beBytes 1 (typeList m).length ++ typeList m) (typeList m) := by
  refine ⟨UInt8.ofNat ((typeList m).length % 256), rfl, ?_⟩
  unfold typeList
  cases allows1609 m <;> cases allowsX509 m <;> decide

theorem sslFatal_ieee1609 (al : Alert) (reason : Reason) (s : SSL ω) :
    (sslFatal al reason s).ieee1609 = s.ieee1609 := by
  unfold sslFatal
  split <;> rfl

/-- A server's parser on every body. -/
structure ServerGrammar (r : Role) (s : SSL ω) : Prop where
  accepts : ∀ body, (∃ t, tlsParseCtosCertTypeExt r body s = some (true, t)) ↔
    ∃ list, Counted body list ∧ Agreeable (s.ieee1609.certType r).support list
  decides : ∀ body list t, Counted body list →
    tlsParseCtosCertTypeExt r body s = some (true, t) →
      t = decideType r (agreedType (s.ieee1609.certType r).support list) s
  setOnly : ∀ body list body' list', Counted body list → Counted body' list' →
    (∀ v, v ∈ list ↔ v ∈ list') →
      tlsParseCtosCertTypeExt r body s = tlsParseCtosCertTypeExt r body' s
  refuses : ∀ body, (¬ ∃ t, tlsParseCtosCertTypeExt r body s = some (true, t)) →
    ∃ t, tlsParseCtosCertTypeExt r body s = some (false, t) ∧ t.Fatal ∧ t.ieee1609 = s.ieee1609

/-- A client's parser on every body. -/
structure ClientGrammar (r : Role) (s : SSL ω) : Prop where
  accepts : ∀ body, (∃ t, tlsParseStocCertTypeExt r body s = some (true, t)) ↔
    ∃ c : CertificateType, body = [c.code] ∧
      ((c = .ieee1609Dot2 ∧ allows1609 (s.ieee1609.certType r).support) ∨
        (c = .x509 ∧ allowsX509 (s.ieee1609.certType r).support))
  decides : ∀ (c : CertificateType) t, tlsParseStocCertTypeExt r [c.code] s = some (true, t) →
    t = decideType r c s
  refuses : ∀ body, (¬ ∃ t, tlsParseStocCertTypeExt r body s = some (true, t)) →
    ∃ t, tlsParseStocCertTypeExt r body s = some (false, t) ∧ t.Fatal ∧ t.ieee1609 = s.ieee1609

/-- A client's list at a server, and the server's answer back at the client. -/
structure Negotiates (r : Role) (client server : SSL ω) : Prop where
  offers : ∃ body, tlsConstructCtosCertTypeExt r client = (.sent body, client)
  /-- The list is accepted exactly if the masks share one of their two bits. -/
  shares : ∀ body, tlsConstructCtosCertTypeExt r client = (.sent body, client) →
    ((∃ t, tlsParseCtosCertTypeExt r body server = some (true, t)) ↔
      (client.ieee1609.certType r).support &&& (server.ieee1609.certType r).support &&&
        supportBits ≠ 0)
  /-- Where no other bit is set this is sharing a bit. -/
  plain : (client.ieee1609.certType r).support &&& supportBits =
      (client.ieee1609.certType r).support →
    ((client.ieee1609.certType r).support &&& (server.ieee1609.certType r).support &&&
        supportBits ≠ 0 ↔
      (client.ieee1609.certType r).support &&& (server.ieee1609.certType r).support ≠ 0)
  /-- The answer is accepted, and both sides decide the same. -/
  agrees : ∀ body t, tlsConstructCtosCertTypeExt r client = (.sent body, client) →
    tlsParseCtosCertTypeExt r body server = some (true, t) →
      ∃ c answer, t = decideType r c server ∧
        tlsConstructStocCertTypeExt r t = (.sent answer, t) ∧
        tlsParseStocCertTypeExt r answer client = some (true, decideType r c client)

/-- A refusal stops the connection and decides nothing. -/
theorem refused {al : Alert} {reason : Reason} {s : SSL ω} :
    (sslFatal al reason s).Fatal ∧ (sslFatal al reason s).ieee1609 = s.ieee1609 :=
  ⟨reports_sslFail al reason s _ rfl, sslFatal_ieee1609 al reason s⟩

theorem serverGrammar (r : Role) {s : SSL ω} (hs : sslIsRfc8902Supported s = true) :
    ServerGrammar r s where
  accepts body := by
    constructor
    · rintro ⟨t, ht⟩
      by_contra hn
      rcases tlsParseCtosCertTypeExt_refuses hs hn with ⟨reason, hr⟩
      rw [hr] at ht
      simp only [Option.some.injEq, Prod.mk.injEq, Bool.false_eq_true, false_and] at ht
    · rintro ⟨list, hb, ha⟩
      exact ⟨_, tlsParseCtosCertTypeExt_accepts hs hb ha⟩
  decides body list t hb ht := by
    rw [tlsParseCtosCertTypeExt_counted hs hb] at ht
    by_cases ha : Agreeable (s.ieee1609.certType r).support list
    · rw [chooseType_of_agreeable ha] at ht
      exact (Prod.mk.inj (Option.some.inj ht)).2.symm
    · rw [chooseType_none ha] at ht
      exact absurd ht (sslFail_ne_true _ _ _ _)
  setOnly body list body' list' hb hb' hv := by
    rw [tlsParseCtosCertTypeExt_counted hs hb, tlsParseCtosCertTypeExt_counted hs hb',
      chooseType_congr hv]
  refuses body hn := by
    -- What is not accepted is no counted list with a type of the mask.
    have hno : ¬ ∃ list, Counted body list ∧ Agreeable (s.ieee1609.certType r).support list := by
      rintro ⟨list, hb, ha⟩
      exact hn ⟨_, tlsParseCtosCertTypeExt_accepts hs hb ha⟩
    rcases tlsParseCtosCertTypeExt_refuses hs hno with ⟨reason, hr⟩
    exact ⟨_, hr, refused⟩

/-- The types of a single octet that a mask has. -/
theorem agreeable_code {m : BitVec 32} {c : CertificateType} :
    Agreeable m [c.code] ↔
      (c = .ieee1609Dot2 ∧ allows1609 m) ∨ (c = .x509 ∧ allowsX509 m) := by
  unfold Agreeable
  cases c <;> simp [CertificateType.code]

theorem clientGrammar (r : Role) {s : SSL ω} (hs : sslIsRfc8902Supported s = true) :
    ClientGrammar r s where
  accepts body := by
    simp only [← agreeable_code]
    constructor
    · rintro ⟨t, ht⟩
      by_contra hn
      rcases tlsParseStocCertTypeExt_refuses hs hn with ⟨reason, hr⟩
      rw [hr] at ht
      simp only [Option.some.injEq, Prod.mk.injEq, Bool.false_eq_true, false_and] at ht
    · rintro ⟨c, rfl, ha⟩
      exact ⟨_, tlsParseStocCertTypeExt_accepts hs ha⟩
  decides c t ht := by
    by_cases ha : Agreeable (s.ieee1609.certType r).support [c.code]
    · rw [tlsParseStocCertTypeExt_accepts hs ha] at ht
      exact (Prod.mk.inj (Option.some.inj ht)).2.symm
    · rcases tlsParseStocCertTypeExt_true ht with ⟨_, b, c', hb, hc', _⟩
      rw [← List.singleton_inj.mp hb, chooseType_none ha] at hc'
      exact absurd hc' (by simp only [reduceCtorEq, not_false_eq_true])
  refuses body hn := by
    have hno : ¬ ∃ c : CertificateType,
        body = [c.code] ∧ Agreeable (s.ieee1609.certType r).support [c.code] := by
      rintro ⟨c, rfl, ha⟩
      exact hn ⟨_, tlsParseStocCertTypeExt_accepts hs ha⟩
    rcases tlsParseStocCertTypeExt_refuses hs hno with ⟨reason, hr⟩
    exact ⟨_, hr, refused⟩

/-- The body a client writes. -/
theorem tlsConstructCtosCertTypeExt_sent (r : Role) {s : SSL ω}
    (hs : sslIsRfc8902Supported s = true) :
    tlsConstructCtosCertTypeExt r s =
      (.sent (beBytes 1 (typeList (s.ieee1609.certType r).support).length ++
        typeList (s.ieee1609.certType r).support), s) := by
  unfold tlsConstructCtosCertTypeExt
  rw [if_neg (by simp only [hs, not_true_eq_false, not_false_eq_true])]

theorem negotiates (r : Role) {client server : SSL ω}
    (hc : sslIsRfc8902Supported client = true) (hs : sslIsRfc8902Supported server = true) :
    Negotiates r client server := by
  have hsent := tlsConstructCtosCertTypeExt_sent r hc
  have hcounted := counted_typeList (client.ieee1609.certType r).support
  refine ⟨⟨_, hsent⟩, ?_, ?_, ?_⟩
  · intro body hbody
    rw [hsent, Prod.mk.injEq, ExtReturn.sent.injEq] at hbody
    rw [(serverGrammar r hs).accepts, ← agreeable_typeList, ← hbody.1]
    constructor
    · rintro ⟨list, ⟨n, hl, _⟩, ha⟩
      rcases hcounted with ⟨n', hl', _⟩
      rw [hl', List.cons.injEq] at hl
      rwa [hl.2]
    · intro ha
      exact ⟨_, hcounted, ha⟩
  · intro honly
    rw [BitVec.and_assoc, BitVec.and_comm (server.ieee1609.certType r).support,
      ← BitVec.and_assoc, honly]
  · intro body t hbody ht
    rw [hsent, Prod.mk.injEq, ExtReturn.sent.injEq] at hbody
    rw [← hbody.1] at ht
    have ha : Agreeable (server.ieee1609.certType r).support
        (typeList (client.ieee1609.certType r).support) := by
      by_contra ha
      rw [tlsParseCtosCertTypeExt_counted hs hcounted, chooseType_none ha] at ht
      exact absurd ht (sslFail_ne_true _ _ _ _)
    -- What the server answers is the octet of what it decided.
    have htc := (serverGrammar r hs).decides _ _ _ hcounted ht
    refine ⟨_, _, htc, ?_, tlsParseStocCertTypeExt_accepts hc (agreeable_agreedType ha)⟩
    unfold tlsConstructStocCertTypeExt
    have hsup : sslIsRfc8902Supported t = true := by
      rw [htc]
      cases r <;> exact hs
    rw [if_neg (by simp only [hsup, not_true_eq_false, not_false_eq_true]), htc,
      certType_decideType_self]

/-- The grammar of the two extensions, and the exchange between two endpoints with
    RFC 8902 enabled. -/
theorem certTypeExt_grammar (r : Role) (client server : SSL ω)
    (hc : sslIsRfc8902Supported client = true) (hs : sslIsRfc8902Supported server = true) :
    ServerGrammar r server ∧ ClientGrammar r client ∧ Negotiates r client server :=
  ⟨serverGrammar r hs, clientGrammar r hc, negotiates r hc hs⟩

/-- An endpoint with RFC 8902 enabled for both kinds of certificates. -/
def bothKinds : SSL Unit :=
  { sslNew SspBuffer.zero 0 Cert.empty () with
    ieee1609 := { cryptoExSslIeee1609New SspBuffer.zero with
      rfc8902Support := true
      srv := ⟨supportBits, none⟩ } }

theorem certTypeExt_grammar_bothKinds :
    ServerGrammar .srv bothKinds ∧ ClientGrammar .srv bothKinds ∧
      Negotiates .srv bothKinds bothKinds :=
  certTypeExt_grammar .srv bothKinds bothKinds rfl rfl

end Iso21177
