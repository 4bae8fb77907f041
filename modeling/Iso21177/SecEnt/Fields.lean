import Mathlib.Data.List.GetD
import Iso21177.SecEnt.Handlers

/-!
# The Fields of a Certificate

Where `SSL_get_1609_cert_chain` finds the name and the validity of a certificate.
In the certificate of an authority or of a root they come behind one another, so
the validity is displaced by the length of the name. The decoder cuts that length
to what the field for the name holds, and goes on with what it cut: with a name of
64 octets or more it looks for the validity inside the name.

`fieldsDecoded_iff` says exactly when the name and the validity are those of the
certificate.

## Main definitions

* `CertKind`: The three kinds, and where their fields are.
* `CertComplete`: The certificate is of a kind and holds its fields.
* `tripleAt`, `unitKnown`: A start time, a unit and a count, and whether the unit is
  known.
* `readTriple`, `namedTriple`, `decodedTriple`, `datesOf`: What the decoder passes on, and
  the dates made of it.
* `FieldsDecoded`: The name and the validity are those of the certificate.
* `WellPlaced`: The decoder looks in the right place, or finds the same there.

## Theorems

* `readValidity_eq`, `decodeNamed_validity`, `decodedTriple_validity`: The dates are made from
  what is passed on.
* `strncpyFrom_eq`, `readName_eq`: Copying a name.
* `readTriple_eq`: Reading where there is enough.
* `unitKnown_window`, `tripleAt_window`, `tripleAt_inj`, `tripleAt_eq_iff`: Seven octets and
  what is passed on of them determine each other.
* `testOctets_kind`, `decodeNamed_eq`, `decodeCert_kind`: Decoding a certificate of a kind.
* `fieldsDecoded_iff`: When the fields are decoded.
* `longNamed_misread`: A name that is too long.
-/

namespace Iso21177

open Packet

/-- The kinds of certificates the decoder knows. -/
inductive CertKind
  | ticket
  | authority
  | root
  deriving DecidableEq

namespace CertKind

/-- The octets a kind is known by. -/
def octets : CertKind → Bytes
  | .ticket => layoutAt
  | .authority => layoutAa
  | .root => layoutRoot

/-- The length of the name. -/
def nameLength (p : Bytes) : CertKind → Nat
  | .ticket => 0
  | .authority => (p.getD 15 0).toNat
  | .root => (p.getD 7 0).toNat

/-- The name. -/
def name (p : Bytes) : CertKind → Bytes
  | .ticket => []
  | .authority => (p.drop 16).take (p.getD 15 0).toNat
  | .root => (p.drop 8).take (p.getD 7 0).toNat

/-- Where the validity is, behind a name of some length. -/
def validityAt (n : Nat) : CertKind → Nat
  | .ticket => 19
  | .authority => 21 + n
  | .root => 13 + n

end CertKind

/-- The certificate is of a kind and goes on to the end of its validity. -/
structure CertComplete (k : CertKind) (p : Bytes) : Prop where
  kind : k.octets <+: p
  fields : k.validityAt (k.nameLength p) + 7 ≤ p.length

/-- The unit of the duration behind a start time is known. -/
def unitKnown (p : Bytes) (off : Nat) : Prop :=
  0x81 ≤ p.getD (off + 4) 0 ∧ p.getD (off + 4) 0 ≤ 0x86

instance (p : Bytes) (off : Nat) : Decidable (unitKnown p off) :=
  inferInstanceAs (Decidable (_ ∧ _))

/-- The start time at an offset, and the unit and the count behind it. -/
def tripleAt (p : Bytes) (off : Nat) : Nat × Nat × Nat :=
  (beVal ((p.drop off).take 4), (p.getD (off + 4) 0 &&& 0x0f).toNat,
    beVal ((p.drop (off + 5)).take 2))

/-- What is passed to `ssl_time32_to_string` of a validity at an offset. -/
def readTriple (p : Bytes) (off : Nat) : Option (Option (Nat × Nat × Nat)) :=
  match p[off + 4]? with
  | none => none
  | some d =>
    if 0x81 ≤ d ∧ d ≤ 0x86 then
      match memcpyFrom p (off + 5) 2, memcpyFrom p off 4 with
      | some cnt, some start => some (some (beVal start, (d &&& 0x0f).toNat, beVal cnt))
      | _, _ => none
    else some none

/-- The same behind a name. -/
def namedTriple (p : Bytes) (off : Nat) : Option (Option (Nat × Nat × Nat)) :=
  match readName p off with
  | none => none
  | some (n, _) => readTriple p (off + 6 + n)

/-- What the decoder passes to `ssl_time32_to_string`. -/
def decodedTriple (p : Bytes) : Option (Option (Nat × Nat × Nat)) :=
  match testOctets p 0 layoutAt with
  | none => none
  | some true => readTriple p 19
  | some false =>
    match testOctets p 0 layoutAa with
    | none => none
    | some true => namedTriple p 15
    | some false =>
      match testOctets p 0 layoutRoot with
      | none => none
      | some true => namedTriple p 7
      | some false => some none

/-- The two dates made from a start time, a unit and a count. -/
def datesOf (v : Nat × Nat × Nat) : Bytes × Bytes :=
  (sslTime32ToString v.1 0 0, sslTime32ToString v.1 v.2.1 v.2.2)

/-- The name is the one of the certificate, as far as it fits, and if the unit is known so
    are the start time, the unit and the count. -/
def FieldsDecoded (k : CertKind) (p : Bytes) : Prop :=
  ∃ f v, decodeCert p = some f ∧ decodedTriple p = some v ∧
    f.idName = (k.name p).take (infoTextLen - 1) ∧
    (unitKnown p (k.validityAt (k.nameLength p)) →
      v = some (tripleAt p (k.validityAt (k.nameLength p))))

/-- The name fits its field, or the unit is not known, or the same octets are where the
    decoder looks. -/
def WellPlaced (k : CertKind) (p : Bytes) : Prop :=
  k.nameLength p ≤ infoTextLen - 1 ∨ ¬ unitKnown p (k.validityAt (k.nameLength p)) ∨
    (p.drop (k.validityAt (infoTextLen - 1))).take 7 =
      (p.drop (k.validityAt (k.nameLength p))).take 7

theorem readValidity_eq (p : Bytes) (off : Nat) :
    readValidity p off = (readTriple p off).map (Option.map datesOf) := by
  unfold readValidity readTriple
  cases p[off + 4]? with
  | none => rfl
  | some d =>
      simp only
      split
      · cases memcpyFrom p (off + 5) 2 with
        | none => rfl
        | some cnt =>
            cases memcpyFrom p off 4 with
            | none => rfl
            | some start => rfl
      · rfl

/-- Dates that were read are made from what is passed on. -/
theorem readTriple_of_readValidity {p : Bytes} {off : Nat} {validity : Option (Bytes × Bytes)}
    (h : readValidity p off = some validity) :
    ∃ v, readTriple p off = some v ∧ validity = v.map datesOf := by
  rw [readValidity_eq] at h
  rcases Option.map_eq_some_iff.mp h with ⟨v, hv, heq⟩
  exact ⟨v, hv, heq.symm⟩

theorem decodeNamed_validity {p : Bytes} {off : Nat} {issuer : Option Issuer} {f : CertFields}
    (h : decodeNamed p off issuer = some f) :
    ∃ v, namedTriple p off = some v ∧ f.validity = v.map datesOf := by
  rcases decodeNamed_cases h with ⟨n, hname, hv, -⟩
  unfold namedTriple
  rw [hname]
  exact readTriple_of_readValidity hv

/-- The dates of a certificate are made from what is passed on. -/
theorem decodedTriple_validity {p : Bytes} {f : CertFields} (h : decodeCert p = some f) :
    ∃ v, decodedTriple p = some v ∧ f.validity = v.map datesOf := by
  unfold decodedTriple
  cases decodeCert_cases h with
  | ticket hAt _ hv _ _ =>
      simp only [hAt]
      exact readTriple_of_readValidity hv
  | authority hAt hAa hf =>
      simp only [hAt, hAa]
      exact decodeNamed_validity hf
  | root hAt hAa hRoot hf =>
      simp only [hAt, hAa, hRoot]
      exact decodeNamed_validity hf
  | unknown hAt hAa hRoot hf =>
      simp only [hAt, hAa, hRoot]
      exact ⟨none, rfl, by rw [hf]; rfl⟩

/-- A name without zeros is copied as it is. -/
theorem strncpyFrom_eq {d : Bytes} {off n : Nat} (h : off + n ≤ d.length)
    (hz : ∀ b ∈ (d.drop off).take n, b ≠ 0) : strncpyFrom d off n = some ((d.drop off).take n) := by
  induction n generalizing off with
  | zero => rfl
  | succ n ih =>
      have hoff : off < d.length := by omega
      rw [List.drop_eq_getElem_cons hoff, List.take_succ_cons] at hz ⊢
      have htail := @ih (off + 1) (by omega) (fun b hb => hz b (List.mem_cons_of_mem _ hb))
      simp only [strncpyFrom, List.getElem?_eq_getElem hoff, if_neg (hz _ List.mem_cons_self),
        htail, Option.map_some]

/-- The name behind its length is cut, and so is the length. -/
theorem readName_eq {p : Bytes} {off : Nat} (hlen : off + 1 + (p.getD off 0).toNat ≤ p.length)
    (hz : ∀ b ∈ (p.drop (off + 1)).take (p.getD off 0).toNat, b ≠ 0) :
    readName p off = some (min (p.getD off 0).toNat (infoTextLen - 1),
      ((p.drop (off + 1)).take (p.getD off 0).toNat).take (infoTextLen - 1)) := by
  have hoff : off < p.length := by omega
  have hget : p.getD off 0 = p[off] := List.getD_eq_getElem p 0 hoff
  rw [hget] at hlen hz ⊢
  have hcut : ((p.drop (off + 1)).take p[off].toNat).take (infoTextLen - 1) =
      (p.drop (off + 1)).take (min p[off].toNat (infoTextLen - 1)) := by
    rw [List.take_take, Nat.min_comm]
  have hcopy := @strncpyFrom_eq p (off + 1) (min p[off].toNat (infoTextLen - 1)) (by omega)
    (fun b hb => hz b (List.mem_of_mem_take (hcut ▸ hb)))
  unfold readName
  simp only [List.getElem?_eq_getElem hoff, hcopy, Option.map_some, hcut]

/-- Where there is enough to read, the unit decides. -/
theorem readTriple_eq {p : Bytes} {off : Nat} (h : off + 7 ≤ p.length) :
    readTriple p off = some (if unitKnown p off then some (tripleAt p off) else none) := by
  have hoff : off + 4 < p.length := by omega
  have hcnt : memcpyFrom p (off + 5) 2 = some ((p.drop (off + 5)).take 2) :=
    memcpyFrom_eq (by decide) h
  have hstart : memcpyFrom p off 4 = some ((p.drop off).take 4) :=
    memcpyFrom_eq (by decide) (show off + 4 ≤ p.length by omega)
  unfold readTriple unitKnown tripleAt
  simp only [List.getD_eq_getElem?_getD, List.getElem?_eq_getElem hoff, Option.getD_some, hcnt,
    hstart]
  split
  · rfl
  · rfl

/-- The seven octets from an offset on decide the unit. -/
theorem unitKnown_window (p : Bytes) (off : Nat) :
    unitKnown p off ↔ unitKnown ((p.drop off).take 7) 0 := by
  unfold unitKnown
  simp only [List.getD_eq_getElem?_getD, List.getElem?_take, List.getElem?_drop, Nat.zero_add,
    Nat.reduceLT, if_true]

/-- They decide what is passed on. -/
theorem tripleAt_window (p : Bytes) (off : Nat) :
    tripleAt p off = tripleAt ((p.drop off).take 7) 0 := by
  unfold tripleAt
  simp only [List.getD_eq_getElem?_getD, List.getElem?_take, List.getElem?_drop, Nat.zero_add,
    Nat.add_zero, Nat.reduceLT, if_true, List.take_take, List.drop_take, List.drop_drop,
    Nat.reduceSub, Nat.reduceLeDiff, inf_of_le_left]

/-- The octet of a known unit is its low half, and one bit. -/
theorem unit_octet {b : UInt8} (h : 0x81 ≤ b ∧ b ≤ 0x86) : b = 0x80 + (b &&& 0x0f) := by
  have hb : b.toNat = 0x81 ∨ b.toNat = 0x82 ∨ b.toNat = 0x83 ∨ b.toNat = 0x84 ∨ b.toNat = 0x85 ∨
      b.toNat = 0x86 := by
    have hlo := UInt8.le_iff_toNat_le.mp h.1
    have hhi := UInt8.le_iff_toNat_le.mp h.2
    simp only [UInt8.reduceToNat] at hlo hhi
    omega
  have hof : ∀ n, b.toNat = n → b = UInt8.ofNat n := fun n hn => by rw [← hn, UInt8.ofNat_toNat]
  rcases hb with hb | hb | hb | hb | hb | hb
  all_goals rw [hof _ hb]; rfl

/-- What is passed on of seven octets tells them all, if the unit is known. -/
theorem tripleAt_inj {w w' : Bytes} (hw : w.length = 7) (hw' : w'.length = 7)
    (hu : unitKnown w 0) (hu' : unitKnown w' 0) (h : tripleAt w 0 = tripleAt w' 0) : w = w' := by
  simp only [tripleAt, Prod.mk.injEq, List.drop_zero, Nat.zero_add] at h
  rcases h with ⟨hstart, hunit, hcnt⟩
  have hnum : ∀ {b b' : Bytes}, b.length = b'.length → beVal b = beVal b' → b = b' := by
    intro b b' hl hv
    rw [← beBytes_beVal b, ← beBytes_beVal b', hl, hv]
  have h4 : w.take 4 = w'.take 4 := by
    refine hnum ?_ hstart
    rw [List.length_take, List.length_take, hw, hw']
  have h2 : w.drop 5 = w'.drop 5 := by
    have hall : ∀ {v : Bytes}, v.length = 7 → (v.drop 5).take 2 = v.drop 5 := by
      intro v hv
      exact List.take_of_length_le (by rw [List.length_drop, hv])
    rw [hall hw, hall hw'] at hcnt
    refine hnum ?_ hcnt
    rw [List.length_drop, List.length_drop, hw, hw']
  have h1 : w.getD 4 0 = w'.getD 4 0 := by
    rw [unit_octet hu, unit_octet hu']
    exact congrArg (0x80 + ·) (UInt8.toNat_inj.mp hunit)
  -- Seven octets are the first four, the unit, and the last two.
  have hsplit : ∀ {v : Bytes}, v.length = 7 → v = v.take 4 ++ v.getD 4 0 :: v.drop 5 := by
    intro v hv
    have h4v : 4 < v.length := by omega
    rw [List.getD_eq_getElem v 0 h4v, ← List.drop_eq_getElem_cons h4v, List.take_append_drop]
  rw [hsplit hw, hsplit hw', h4, h1, h2]

/-- What is passed on of two offsets is the same exactly if their octets are. -/
theorem tripleAt_eq_iff {p : Bytes} {off off' : Nat} (h : off + 7 ≤ p.length)
    (h' : off' + 7 ≤ p.length) (hu' : unitKnown p off') :
    (if unitKnown p off then some (tripleAt p off) else none) = some (tripleAt p off') ↔
      (p.drop off).take 7 = (p.drop off').take 7 := by
  have hlen : ∀ {o}, o + 7 ≤ p.length → ((p.drop o).take 7).length = 7 := by
    intro o ho
    rw [List.length_take, List.length_drop]
    omega
  constructor
  · intro heq
    split at heq
    · rename_i hu
      rw [Option.some.injEq, tripleAt_window p off, tripleAt_window p off'] at heq
      exact tripleAt_inj (hlen h) (hlen h') ((unitKnown_window p off).mp hu)
        ((unitKnown_window p off').mp hu') heq
    · exact absurd heq (by simp only [reduceCtorEq, not_false_eq_true])
  · intro heq
    have hu : unitKnown p off := by
      rw [unitKnown_window, heq, ← unitKnown_window]
      exact hu'
    rw [if_pos hu, tripleAt_window, heq, ← tripleAt_window]

/-- The test for a kind tells the certificates of that kind. -/
theorem testOctets_kind {k : CertKind} {p : Bytes} (h : k.octets <+: p) {l : Bytes}
    (hl : l ∈ layouts) : testOctets p 0 l = some (decide (l = k.octets)) := by
  have hk : k.octets ∈ layouts := by
    cases k with
    | ticket => decide
    | authority => decide
    | root => decide
  rw [testOctets_start]
  by_cases heq : l = k.octets
  · rw [heq, if_pos h]
    simp only [decide_true]
  · have hno : ¬ l <+: p := fun h' => heq (layout_unique hl hk h' h)
    have hno' : ¬ p <+: l := fun h' => hno (layout_whole hk hl h h' ▸ List.prefix_rfl)
    rw [if_neg hno, if_neg hno']
    simp only [heq, decide_false]

/-- A certificate with a name: the name is cut, and the validity is looked for behind the
    cut. -/
theorem decodeNamed_eq {p : Bytes} {off : Nat} (issuer : Issuer)
    (hlen : off + 6 + (p.getD off 0).toNat + 7 ≤ p.length)
    (hz : ∀ b ∈ (p.drop (off + 1)).take (p.getD off 0).toNat, b ≠ 0) :
    (∃ f, decodeNamed p off (some issuer) = some f ∧
      f.idName = ((p.drop (off + 1)).take (p.getD off 0).toNat).take (infoTextLen - 1)) ∧
    namedTriple p off =
      readTriple p (off + 6 + min (p.getD off 0).toNat (infoTextLen - 1)) := by
  have hname := readName_eq (show off + 1 + (p.getD off 0).toNat ≤ p.length by omega) hz
  have hread := @readTriple_eq p (off + 6 + min (p.getD off 0).toNat (infoTextLen - 1)) (by omega)
  constructor
  · unfold decodeNamed
    simp only [hname, readValidity_eq, hread, Option.map_some]
    exact ⟨_, rfl, rfl⟩
  · unfold namedTriple
    simp only [hname]

/-- Decoding a complete certificate: the name is cut, and the validity is looked for behind
    the cut. -/
theorem decodeCert_kind {k : CertKind} {p : Bytes} (hc : CertComplete k p)
    (hz : ∀ b ∈ k.name p, b ≠ 0) :
    (∃ f, decodeCert p = some f ∧ f.idName = (k.name p).take (infoTextLen - 1)) ∧
    decodedTriple p = readTriple p (k.validityAt (min (k.nameLength p) (infoTextLen - 1))) := by
  have hAt := testOctets_kind hc.kind (l := layoutAt) (by decide)
  have hAa := testOctets_kind hc.kind (l := layoutAa) (by decide)
  have hRoot := testOctets_kind hc.kind (l := layoutRoot) (by decide)
  have hfields := hc.fields
  -- The test for each kind is decided by the first octets.
  unfold decodeCert decodedTriple
  cases k with
  | ticket =>
      have htrue : decide (layoutAt = CertKind.ticket.octets) = true := by decide
      have hlen : 19 + 7 ≤ p.length := hfields
      have hhash : memcpyFrom p 4 hashedid8Len = some ((p.drop 4).take 8) :=
        memcpyFrom_eq (by decide) (show 4 + 8 ≤ p.length by omega)
      simp only [hAt, htrue, readValidity_eq, readTriple_eq hlen, Option.map_some, hhash]
      exact ⟨⟨_, rfl, rfl⟩, (readTriple_eq hlen).symm⟩
  | authority =>
      have hfalse : decide (layoutAt = CertKind.authority.octets) = false := by decide
      have htrue : decide (layoutAa = CertKind.authority.octets) = true := by decide
      have hlen : 21 + (p.getD 15 0).toNat + 7 ≤ p.length := hfields
      have hhash : memcpyFrom p 5 hashedid8Len = some ((p.drop 5).take 8) :=
        memcpyFrom_eq (by decide) (show 5 + 8 ≤ p.length by omega)
      simp only [hAt, hfalse, hAa, htrue, hhash, Option.map_some]
      exact decodeNamed_eq _ hlen hz
  | root =>
      have hfalse : decide (layoutAt = CertKind.root.octets) = false := by decide
      have hfalse' : decide (layoutAa = CertKind.root.octets) = false := by decide
      have htrue : decide (layoutRoot = CertKind.root.octets) = true := by decide
      have hlen : 13 + (p.getD 7 0).toNat + 7 ≤ p.length := hfields
      simp only [hAt, hfalse, hAa, hfalse', hRoot, htrue]
      exact decodeNamed_eq _ hlen hz

/-- A longer name displaces the validity further. -/
theorem validityAt_mono (k : CertKind) {m n : Nat} (h : m ≤ n) :
    k.validityAt m ≤ k.validityAt n := by
  cases k with
  | ticket => exact le_rfl
  | authority => exact Nat.add_le_add_left h 21
  | root => exact Nat.add_le_add_left h 13

/-- The name and the validity are those of the certificate exactly if the name fits its
    field, or there is no validity to read, or the same octets are where the decoder looks. -/
theorem fieldsDecoded_iff (k : CertKind) (p : Bytes) (hc : CertComplete k p)
    (hz : ∀ b ∈ k.name p, b ≠ 0) : FieldsDecoded k p ↔ WellPlaced k p := by
  rcases decodeCert_kind hc hz with ⟨⟨f, hf, hid⟩, htriple⟩
  have hfields := hc.fields
  have hcut := validityAt_mono k (Nat.min_le_left (k.nameLength p) (infoTextLen - 1))
  rw [readTriple_eq (by omega)] at htriple
  have hdecoded : FieldsDecoded k p ↔
      (unitKnown p (k.validityAt (k.nameLength p)) →
        (if unitKnown p (k.validityAt (min (k.nameLength p) (infoTextLen - 1))) then
          some (tripleAt p (k.validityAt (min (k.nameLength p) (infoTextLen - 1)))) else none) =
          some (tripleAt p (k.validityAt (k.nameLength p)))) := by
    constructor
    · rintro ⟨f', v, -, hv, -, hright⟩ hu
      rw [htriple, Option.some.injEq] at hv
      rw [hv]
      exact hright hu
    · intro hright
      exact ⟨f, _, hf, htriple, hid, hright⟩
  rw [hdecoded]
  unfold WellPlaced
  -- Without a known unit nothing is claimed; with one, a name that fits is not cut.
  by_cases hu : unitKnown p (k.validityAt (k.nameLength p))
  · rw [tripleAt_eq_iff (by omega) hfields hu]
    simp only [hu, true_implies, not_true_eq_false, false_or]
    by_cases hn : k.nameLength p ≤ infoTextLen - 1
    · rw [Nat.min_eq_left hn]
      simp only [hn, true_or]
    · rw [Nat.min_eq_right (by omega)]
      simp only [hn, false_or]
  · simp only [hu, false_implies, not_false_eq_true, true_or, or_true]

/-- The certificate of an authority with a short name, valid for a number of hours. -/
def shortNamed : Bytes :=
  layoutAa ++ List.replicate 10 0 ++ [2, 65, 65] ++ List.replicate 5 0 ++
    [32, 0, 0, 0, 0x84, 0, 24]

theorem fieldsDecoded_shortNamed :
    CertComplete .authority shortNamed ∧ FieldsDecoded .authority shortNamed := by
  have hc : CertComplete .authority shortNamed := ⟨by decide, by decide⟩
  have hname : CertKind.authority.name shortNamed = List.replicate 2 65 := by decide
  have hz : ∀ b ∈ CertKind.authority.name shortNamed, b ≠ 0 := by
    intro b hb
    rw [hname] at hb
    rw [List.eq_of_mem_replicate hb]
    decide
  exact ⟨hc, (fieldsDecoded_iff .authority shortNamed hc hz).mpr (Or.inl (by decide))⟩

/-- A root certificate whose name has one octet more than is kept of it. -/
def longNamed : Bytes :=
  layoutRoot ++ [0, 0, 64] ++ List.replicate 64 65 ++ List.replicate 5 0 ++
    [32, 0, 0, 0x84, 0x84, 0, 24]

/-- The decoder takes the end of the start time for the unit. -/
theorem longNamed_misread :
    CertComplete .root longNamed ∧ CertKind.root.nameLength longNamed = 64 ∧
      (∀ b ∈ CertKind.root.name longNamed, b ≠ 0) ∧
      decodedTriple longNamed = some (some (0x200000, 4, 0x8400)) ∧
      tripleAt longNamed 77 = (0x20000084, 4, 24) ∧ ¬ FieldsDecoded .root longNamed := by
  have hread : decodedTriple longNamed = some (some (0x200000, 4, 0x8400)) := by decide
  have hname : CertKind.root.name longNamed = List.replicate 64 65 := by decide
  refine ⟨⟨by decide, by decide⟩, by decide, fun b hb => ?_, hread, by decide, ?_⟩
  · rw [hname] at hb
    rw [List.eq_of_mem_replicate hb]
    decide
  · rintro ⟨f, v, -, hv, -, hright⟩
    rw [hread, Option.some.injEq] at hv
    have htriple := hright (by decide)
    rw [← hv] at htriple
    exact absurd htriple (by decide)

end Iso21177
