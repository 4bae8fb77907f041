import Iso21177.SecEnt.Socket
import Iso21177.Ssl.Config

/-!
# Reading Replies

What the handlers of the security entity's replies read of them, octet by octet. A reply
is a type and a payload that is not empty; every handler copies fields out of the
payload, and the one that walks a certificate chain decodes the certificate in it.

Reading outside the payload, or outside the certificate, is undefined, and so is copying
a negative number of octets. `handle` is `none` then. Most handlers look at the length
first. Two do not: `IEEE1609_CERT_verify` copies eight octets whatever the length, and
the chain decoder reads at fixed offsets and at offsets behind a name whose length is in
the certificate.

## Main definitions

* `memcpyFrom`, `strncpyFrom`, `testOctets`: Reading a buffer inside its bounds.
* `failureText`: The text of a failure.
* `verifyCertsHash`, `verifyDataId`, `getCertBytes`, `initialHash`: Fields of the replies.
* `sslTime32ToTimeT`, `gmDate`, `sslTime32ToString`: Dates.
* `readValidity`, `readName`, `decodeCert`, `DecodedAs`: Decoding a certificate.
* `Handler`, `handle`: The handlers.
* `InBounds`: The handler stays inside the reply.
* `validityEnd`, `nameLen`, `FieldsFit`, `Fits`: What a reply has to hold.

## Theorems

* `memcpyFrom_isSome`, `memcpyFrom_eq`, `strncpyFrom_isSome`, `testOctets_eq`,
  `testOctets_start`, `testOctets_some`: Reading a buffer.
* `readValidity_isSome`, `decodeNamed_isSome`, `layout_unique`, `layout_whole`,
  `fieldsFit_iff_of_layout`, `decodeCert_isSome`: When a certificate is decoded.
* `decodeNamed_cases`, `decodeCert_cases`: What was read of a certificate that is.
* `getCertBytes_eq`, `verifyDataId_eq`: Fields of the replies in one expression.
* `ieee1609CertVerify_eq_handler`, `tlsProcessIeee1609CertCertVerify_eq_handler`,
  `sslUse1609CertByHash_eq_handler`, `secEntInitialConnection_eq_handler`: The connection's
  functions read their replies this way.
* `failureText_isSome`, `verifyCertsHash_isSome`, `initialHash_isSome`,
  `handler_inBounds_iff`, `handler_inBounds_hash`, `short_hash_read`: When a handler stays
  inside its reply.
-/

namespace Iso21177

open Packet

/-- The octets `off ..< off + len` of a buffer, if they are all in it. -/
def memcpyFrom (d : Bytes) (off : Nat) (len : Int) : Option Bytes :=
  if 0 ≤ len ∧ off + len.toNat ≤ d.length then some ((d.drop off).take len.toNat) else none

/-- `strncpy` of `n` octets from an offset: no more is read behind a zero, and the rest is
    filled with zeros. -/
def strncpyFrom (d : Bytes) : Nat → Nat → Option Bytes
  | _, 0 => some []
  | off, n + 1 =>
    match d[off]? with
    | none => none
    | some b =>
      if b = 0 then some (List.replicate (n + 1) 0)
      else (strncpyFrom d (off + 1) n).map (fun bs => b :: bs)

/-- Whether the octets from an offset on are the given ones. The first that differs ends
    the test. -/
def testOctets (d : Bytes) : Nat → Bytes → Option Bool
  | _, [] => some true
  | off, b :: bs =>
    match d[off]? with
    | none => none
    | some x => if x = b then testOctets d (off + 1) bs else some false

/-- What a C string holds. -/
def cString (d : Bytes) : Bytes := d.takeWhile (fun b => b ≠ 0)

/-- The text `send_recv_server` takes from a failure. A line feed at the end is overwritten
    in place, else the text is copied to where a zero can follow it. -/
def failureText (data : Bytes) : Option Bytes :=
  match data[data.length - 1]? with
  | none => none
  | some b =>
    if b = 10 then some (cString data.dropLast)
    else (memcpyFrom data 0 data.length).map cString

/-- The hash `IEEE1609_CERT_verify` takes from a reply, if it is one it expects. -/
def verifyCertsHash (m : SecEntMsg) : Option (Option Bytes) :=
  if m.msgType ≠ secEntMsgTypeTlsVerifyCerts then some none
  else (memcpyFrom m.data 0 hashedid8Len).map some

/-- What `tls_process_IEEE1609_CERT_cert_verify` takes from a reply, if it is one it
    expects. Its length is looked at first. -/
def verifyDataId (m : SecEntMsg) (r : SslIeee1609) : Option (Option SslIeee1609) :=
  if m.msgType ≠ secEntMsgTypeTlsVerifyData then some none
  else if m.data.length < 8 ∨ 8 + maxSspLen < m.data.length then some none
  else
    match memcpyFrom m.data 0 8 with
    | none => none
    | some psid =>
      let len : Int := m.data.length - 8
      let r' := { r with psidOtherSide := UInt64.ofNat (beVal psid), sspOtherSideLen := len.toNat }
      if 0 < len ∧ len < maxSspLen then
        (memcpyFrom m.data 8 len).map (fun ssp =>
          some { r' with sspOtherSide := r.sspOtherSide.store ssp })
      else some (some r')

/-- The certificate `SSL_use_1609_cert_by_hash` and the chain decoder take from a reply,
    without its last octet. No object is made from an empty one. -/
def getCertBytes (m : SecEntMsg) : Option (Option Bytes) :=
  if m.msgType ≠ secEntMsgTypeGetCert then some none
  else
    let len : Int := m.data.length - 1
    if len = 0 then some none else (memcpyFrom m.data 0 len).map some

/-- The hash `sec_ent_initial_connection` takes from a reply, if it wants one. -/
def initialHash (useAt : Bool) (m : SecEntMsg) : Option (Option Bytes) :=
  if m.msgType ≠ secEntMsgTypeGetAt then some none
  else if useAt then
    if m.data.length < hashedid8Len then some none
    else (memcpyFrom m.data 0 hashedid8Len).map some
  else some none

/-- `EPOCH_TO_TAI_EPOCH_SEC`. -/
def epochToTaiEpochSec : Int := 1072915232

/-- `ssl_time32_to_time_t`. Sixty hours are multiplied out in an `int`. -/
def sslTime32ToTimeT (start : Int) (durType durCnt : Nat) : Int :=
  let start := start + epochToTaiEpochSec
  match durType with
  | 2 => start + durCnt
  | 3 => start + durCnt * 60
  | 4 => start + durCnt * 60 * 60
  | 5 => start + ssizeT 32 (durCnt * 60 * 60 * 60)
  | 6 => start + durCnt * 31556952
  | _ => start + 1

/-- Year, month and day of `gmtime`. Years start in March here, so that a leap day is the
    last day of one. -/
def gmDate (t : Int) : Nat × Nat × Nat :=
  let z := t / 86400 + 719468
  let doe := (z % 146097).toNat
  let yoe := (doe - doe / 1460 + doe / 36524 - doe / 146096) / 365
  let doy := doe - (365 * yoe + yoe / 4 - yoe / 100)
  let mp := (5 * doy + 2) / 153
  let month := if mp < 10 then mp + 3 else mp - 9
  let year := (yoe + z / 146097 * 400).toNat + (if month ≤ 2 then 1 else 0)
  (year, month, doy - (153 * mp + 2) / 5 + 1)

/-- A number in decimal, with zeros up to a width. -/
def decimal (w n : Nat) : Bytes :=
  let digits := (Nat.toDigits 10 n).map (fun c => UInt8.ofNat c.toNat)
  List.replicate (w - digits.length) 48 ++ digits

/-- `ssl_time32_to_string`. -/
def sslTime32ToString (start : Int) (durType durCnt : Nat) : Bytes :=
  let (year, month, day) := gmDate (sslTime32ToTimeT start durType durCnt)
  decimal 4 year ++ [45] ++ decimal 2 month ++ [45] ++ decimal 2 day

/-- The first and the last day of a certificate whose start time is at an offset, if its
    duration is of a known kind. -/
def readValidity (p : Bytes) (off : Nat) : Option (Option (Bytes × Bytes)) :=
  match p[off + 4]? with
  | none => none
  | some d =>
    if 0x81 ≤ d ∧ d ≤ 0x86 then
      match memcpyFrom p (off + 5) 2, memcpyFrom p off 4 with
      | some cnt, some start =>
        some (some (sslTime32ToString (beVal start) 0 0,
          sslTime32ToString (beVal start) (d &&& 0x0f).toNat (beVal cnt)))
      | _, _ => none
    else some none

/-- The size of the fields for texts. -/
def infoTextLen : Nat := 64

/-- The length at an offset and the name behind it, cut to what fits the field. -/
def readName (p : Bytes) (off : Nat) : Option (Nat × Bytes) :=
  match p[off]? with
  | none => none
  | some b =>
    let n := min b.toNat (infoTextLen - 1)
    (strncpyFrom p (off + 1) n).map (fun name => (n, name))

/-- Where a certificate leads: to its issuer, nowhere because it is a root, or nowhere
    because it is of another kind. -/
inductive Issuer
  | hash (h : Bytes)
  | root
  | unknown
  deriving DecidableEq

/-- What the chain decoder takes from a certificate. -/
structure CertFields where
  idName : Bytes
  validity : Option (Bytes × Bytes)
  issuer : Issuer
  deriving DecidableEq

/-- The first octets of an authorisation ticket. -/
def layoutAt : Bytes := [0x80, 0x03, 0x00, 0x80]

/-- The first octets of an authority's certificate. -/
def layoutAa : Bytes := [0x80, 0x03, 0x00, 0x82, 0x08]

/-- The first octets of a root certificate. -/
def layoutRoot : Bytes := [0x80, 0x03, 0x00, 0x81, 0x01]

/-- The octets that tell the kinds of certificates apart. -/
def layouts : List Bytes := [layoutAt, layoutAa, layoutRoot]

/-- A certificate with a name: the name, and the validity behind it. -/
def decodeNamed (p : Bytes) (off : Nat) (issuer : Option Issuer) : Option CertFields :=
  match readName p off with
  | none => none
  | some (n, name) =>
    match readValidity p (off + 6 + n), issuer with
    | some validity, some issuer => some ⟨name, validity, issuer⟩
    | _, _ => none

/-- The decoder in `SSL_get_1609_cert_chain`. -/
def decodeCert (p : Bytes) : Option CertFields :=
  match testOctets p 0 layoutAt with
  | none => none
  | some true =>
    match readValidity p 19, memcpyFrom p 4 hashedid8Len with
    | some validity, some h => some ⟨[], validity, .hash h⟩
    | _, _ => none
  | some false =>
    match testOctets p 0 layoutAa with
    | none => none
    | some true => decodeNamed p 15 ((memcpyFrom p 5 hashedid8Len).map .hash)
    | some false =>
      match testOctets p 0 layoutRoot with
      | none => none
      | some true => decodeNamed p 7 (some .root)
      | some false => some ⟨[], none, .unknown⟩

/-- Where the validity at an offset ends: its count is only there if its kind is known. -/
def validityEnd (p : Bytes) (off : Nat) : Nat :=
  if 0x81 ≤ p.getD (off + 4) 0 ∧ p.getD (off + 4) 0 ≤ 0x86 then off + 7 else off + 5

/-- The length of the name at an offset, as far as it is used. -/
def nameLen (p : Bytes) (off : Nat) : Nat := min (p.getD off 0).toNat (infoTextLen - 1)

/-- The certificate holds every field that is read of it: it does not end inside the octets
    that tell its kind, and not before its validity ends. -/
structure FieldsFit (c : Bytes) : Prop where
  kind : ∀ l ∈ layouts, c <+: l → c = l
  at' : layoutAt <+: c → validityEnd c 19 ≤ c.length
  aa : layoutAa <+: c → validityEnd c (21 + nameLen c 15) ≤ c.length
  root : layoutRoot <+: c → validityEnd c (13 + nameLen c 7) ≤ c.length

theorem memcpyFrom_isSome {d : Bytes} {off : Nat} {len : Int} :
    (memcpyFrom d off len).isSome = true ↔ 0 ≤ len ∧ off + len.toNat ≤ d.length := by
  unfold memcpyFrom
  split
  · rename_i h
    exact iff_of_true rfl h
  · rename_i h
    exact iff_of_false (by simp only [Option.isSome_none, Bool.false_eq_true, not_false_eq_true]) h

/-- Copying a name reads no further than its length. -/
theorem strncpyFrom_isSome {d : Bytes} {off n : Nat} (h : off + n ≤ d.length) :
    (strncpyFrom d off n).isSome = true := by
  induction n generalizing off with
  | zero => rfl
  | succ n ih =>
      have hoff : off < d.length := by omega
      simp only [strncpyFrom, List.getElem?_eq_getElem hoff]
      split
      · rfl
      · rw [Option.isSome_map]
        exact ih (by omega)

/-- A test succeeds, fails, or runs out of octets. -/
theorem testOctets_eq (d : Bytes) (off : Nat) (l : Bytes) :
    testOctets d off l =
      if l <+: d.drop off then some true else if d.drop off <+: l then none else some false := by
  -- The offset moves along with the octets that are wanted.
  induction l generalizing off with
  | nil => rw [if_pos List.nil_prefix, testOctets]
  | cons b bs ih =>
      rw [testOctets]
      cases hd : d.drop off with
      -- The octets end before the test is decided.
      | nil =>
          have hnone : d[off]? = none := by
            rw [List.getElem?_eq_none_iff]
            exact List.drop_eq_nil_iff.mp hd
          rw [hnone, if_neg (by simp only [List.prefix_nil, reduceCtorEq, not_false_eq_true]),
            if_pos List.nil_prefix]
      | cons x xs =>
          have hsome : d[off]? = some x := by
            have hhead := List.head?_drop (l := d) (i := off)
            rw [hd, List.head?_cons] at hhead
            exact hhead.symm
          have htail : d.drop (off + 1) = xs := by
            rw [← List.drop_drop, hd, List.drop_succ_cons, List.drop_zero]
          rw [hsome]
          simp only [ih, htail, List.cons_prefix_cons]
          by_cases hx : x = b
          · subst hx
            simp only [if_true, true_and]
          · simp only [hx, Ne.symm hx, if_false, false_and]

/-- The test at the start of a certificate. -/
theorem testOctets_start (c l : Bytes) :
    testOctets c 0 l =
      if l <+: c then some true else if c <+: l then none else some false := by
  rw [testOctets_eq, List.drop_zero]

/-- A test that was decided says whether the certificate starts that way. -/
theorem testOctets_some {c l : Bytes} {b : Bool} (h : testOctets c 0 l = some b) :
    b = true ↔ l <+: c := by
  rw [testOctets_start] at h
  split at h
  · rename_i hl
    rw [Option.some.injEq] at h
    exact iff_of_true h.symm hl
  · rename_i hl
    split at h
    · exact absurd h (by simp only [reduceCtorEq, not_false_eq_true])
    · rw [Option.some.injEq] at h
      exact iff_of_false (by rw [← h]; decide) hl

theorem readValidity_isSome {p : Bytes} {off : Nat} :
    (readValidity p off).isSome = true ↔ validityEnd p off ≤ p.length := by
  unfold readValidity validityEnd
  -- The kind of the duration is the fifth octet, and says whether two more follow.
  by_cases hoff : off + 4 < p.length
  · simp only [List.getElem?_eq_getElem hoff, List.getD_eq_getElem?_getD, Option.getD_some]
    by_cases hkind : 0x81 ≤ p[off + 4] ∧ p[off + 4] ≤ 0x86
    · simp only [if_pos hkind]
      by_cases hend : off + 7 ≤ p.length
      · rcases Option.isSome_iff_exists.mp (@memcpyFrom_isSome p (off + 5) 2 |>.mpr
          ⟨by decide, hend⟩) with ⟨cnt, hcnt⟩
        rcases Option.isSome_iff_exists.mp (@memcpyFrom_isSome p off 4 |>.mpr
          ⟨by decide, show off + 4 ≤ p.length by omega⟩) with ⟨start, hstart⟩
        simp only [hcnt, hstart]
        exact iff_of_true rfl hend
      · have hnone : memcpyFrom p (off + 5) 2 = none := by
          unfold memcpyFrom
          rw [if_neg]
          rintro ⟨-, h⟩
          exact hend h
        simp only [hnone]
        exact iff_of_false (by simp only [Option.isSome_none, Bool.false_eq_true,
          not_false_eq_true]) hend
    · simp only [if_neg hkind]
      exact iff_of_true rfl (by omega)
  · have hnone : p[off + 4]? = none := List.getElem?_eq_none_iff.mpr (by omega)
    simp only [hnone, List.getD_eq_getElem?_getD, Option.getD_none, Option.isSome_none,
      Bool.false_eq_true, false_iff]
    split <;> omega

/-- A name and the validity behind it are read exactly if the validity is there. -/
theorem decodeNamed_isSome {p : Bytes} {off : Nat} {issuer : Option Issuer}
    (hissuer : off + 5 ≤ p.length → issuer.isSome = true) :
    (decodeNamed p off issuer).isSome = true ↔
      validityEnd p (off + 6 + nameLen p off) ≤ p.length := by
  unfold decodeNamed readName nameLen
  by_cases hoff : off < p.length
  · simp only [List.getElem?_eq_getElem hoff, List.getD_eq_getElem?_getD, Option.getD_some]
    have hvalid := @readValidity_isSome p (off + 6 + min p[off].toNat (infoTextLen - 1))
    rw [← hvalid]
    constructor
    · intro h
      split at h
      · exact absurd h (by simp only [Option.isSome_none, Bool.false_eq_true, not_false_eq_true])
      · rename_i n name hname
        rcases Option.map_eq_some_iff.mp hname with ⟨name', -, heq⟩
        rw [Prod.mk.injEq] at heq
        rw [heq.1]
        cases hv : readValidity p (off + 6 + n) with
        | none =>
            simp only [hv, Option.isSome_none, Bool.false_eq_true] at h
        | some validity => rfl
    · intro h
      have hend := hvalid.mp h
      -- The validity is behind the name, so the name is there if the validity is.
      have hlong : off + 1 + min p[off].toNat (infoTextLen - 1) ≤ p.length ∧
          off + 5 ≤ p.length := by
        unfold validityEnd at hend
        split at hend <;> omega
      rcases Option.isSome_iff_exists.mp (strncpyFrom_isSome hlong.1) with ⟨name, hname⟩
      rcases Option.isSome_iff_exists.mp h with ⟨validity, hv⟩
      rcases Option.isSome_iff_exists.mp (hissuer hlong.2) with ⟨iss, hi⟩
      simp only [hname, Option.map_some, hv, hi]
      rfl
  · have hnone : p[off]? = none := List.getElem?_eq_none_iff.mpr (by omega)
    simp only [hnone, Option.isSome_none, Bool.false_eq_true, false_iff]
    unfold validityEnd
    split <;> omega

/-- No two kinds start alike. -/
theorem layout_unique {c l l' : Bytes} (hl : l ∈ layouts) (hl' : l' ∈ layouts) (h : l <+: c)
    (h' : l' <+: c) : l = l' := by
  have hall : ∀ l ∈ layouts, ∀ l' ∈ layouts, l <+: l' ∨ l' <+: l → l = l' := by decide
  exact hall l hl l' hl' (List.prefix_or_prefix_of_prefix h h')

/-- A certificate of one kind does not end inside the octets of another. -/
theorem layout_whole {c l l' : Bytes} (hl : l ∈ layouts) (hl' : l' ∈ layouts) (h : l <+: c)
    (h' : c <+: l') : c = l' := by
  have hall : ∀ l ∈ layouts, ∀ l' ∈ layouts, l <+: l' → l = l' := by decide
  have heq := hall l hl l' hl' (h.trans h')
  subst heq
  exact h'.eq_of_length_le h.length_le

/-- For a certificate of a kind only the fields of that kind matter. -/
theorem fieldsFit_iff_of_layout {c l : Bytes} {p : Prop} (hl : l ∈ layouts) (h : l <+: c)
    (hat : l = layoutAt → (validityEnd c 19 ≤ c.length ↔ p))
    (haa : l = layoutAa → (validityEnd c (21 + nameLen c 15) ≤ c.length ↔ p))
    (hroot : l = layoutRoot → (validityEnd c (13 + nameLen c 7) ≤ c.length ↔ p)) :
    FieldsFit c ↔ p := by
  constructor
  · intro hf
    simp only [layouts, List.mem_cons, List.not_mem_nil, or_false] at hl
    rcases hl with rfl | rfl | rfl
    · exact (hat rfl).mp (hf.at' h)
    · exact (haa rfl).mp (hf.aa h)
    · exact (hroot rfl).mp (hf.root h)
  · intro hp
    refine ⟨fun l' hl' h' => layout_whole hl hl' h h', fun h' => ?_, fun h' => ?_, fun h' => ?_⟩
    · exact (hat (layout_unique hl (by decide) h h')).mpr hp
    · exact (haa (layout_unique hl (by decide) h h')).mpr hp
    · exact (hroot (layout_unique hl (by decide) h h')).mpr hp

/-- The decoder reads inside the certificate exactly if every field fits. -/
theorem decodeCert_isSome {c : Bytes} : (decodeCert c).isSome = true ↔ FieldsFit c := by
  -- A certificate that ends inside the octets of a kind fits none.
  have hends : ∀ l ∈ layouts, ¬ l <+: c → c <+: l →
      ((none : Option CertFields).isSome = true ↔ FieldsFit c) := by
    intro l hl hno hpre
    refine iff_of_false (by simp only [Option.isSome_none, Bool.false_eq_true,
      not_false_eq_true]) (fun hf => hno ?_)
    exact hf.kind l hl hpre ▸ List.prefix_rfl
  have hhash : ∀ off, off + 8 ≤ c.length → (memcpyFrom c off hashedid8Len).isSome = true :=
    fun off hoff => memcpyFrom_isSome.mpr ⟨by decide, hoff⟩
  unfold decodeCert
  simp only [testOctets_start]
  by_cases hAt : layoutAt <+: c
  · rw [if_pos hAt]
    refine Iff.trans ?_ (fieldsFit_iff_of_layout (p := validityEnd c 19 ≤ c.length) (by decide) hAt
      (fun _ => Iff.rfl) (fun h => absurd h (by decide)) (fun h => absurd h (by decide))).symm
    rw [← readValidity_isSome]
    constructor
    · intro h
      cases hv : readValidity c 19 with
      | none => simp only [hv, Option.isSome_none, Bool.false_eq_true] at h
      | some validity => rfl
    · intro h
      -- The hash comes before the validity.
      have hlong : 4 + 8 ≤ c.length := by
        have hend := readValidity_isSome.mp h
        unfold validityEnd at hend
        split at hend <;> omega
      rcases Option.isSome_iff_exists.mp h with ⟨validity, hv⟩
      rcases Option.isSome_iff_exists.mp (hhash 4 hlong) with ⟨hash, hh⟩
      simp only [hv, hh]
      rfl
  · rw [if_neg hAt]
    by_cases hAt' : c <+: layoutAt
    · rw [if_pos hAt']
      exact hends _ (by decide) hAt hAt'
    · rw [if_neg hAt']
      by_cases hAa : layoutAa <+: c
      · rw [if_pos hAa]
        refine Iff.trans (decodeNamed_isSome (fun hlong => ?_)) (fieldsFit_iff_of_layout (by decide)
          hAa (fun h => absurd h (by decide)) (fun _ => Iff.rfl)
          (fun h => absurd h (by decide))).symm
        rw [Option.isSome_map]
        exact hhash 5 (by omega)
      · rw [if_neg hAa]
        by_cases hAa' : c <+: layoutAa
        · rw [if_pos hAa']
          exact hends _ (by decide) hAa hAa'
        · rw [if_neg hAa']
          by_cases hRoot : layoutRoot <+: c
          · rw [if_pos hRoot]
            exact Iff.trans (decodeNamed_isSome (fun _ => rfl)) (fieldsFit_iff_of_layout (by decide)
              hRoot (fun h => absurd h (by decide)) (fun h => absurd h (by decide))
              (fun _ => Iff.rfl)).symm
          · rw [if_neg hRoot]
            by_cases hRoot' : c <+: layoutRoot
            · rw [if_pos hRoot']
              exact hends _ (by decide) hRoot hRoot'
            · rw [if_neg hRoot']
              refine iff_of_true rfl ⟨fun l hl h => ?_, fun h => absurd h hAt,
                fun h => absurd h hAa, fun h => absurd h hRoot⟩
              simp only [layouts, List.mem_cons, List.not_mem_nil, or_false] at hl
              rcases hl with rfl | rfl | rfl
              · exact absurd h hAt'
              · exact absurd h hAa'
              · exact absurd h hRoot'

/-- What was read of a certificate with a name. -/
theorem decodeNamed_cases {p : Bytes} {off : Nat} {issuer : Option Issuer} {f : CertFields}
    (h : decodeNamed p off issuer = some f) :
    ∃ n, readName p off = some (n, f.idName) ∧ readValidity p (off + 6 + n) = some f.validity ∧
      issuer = some f.issuer := by
  unfold decodeNamed at h
  split at h
  · exact absurd h (by simp only [reduceCtorEq, not_false_eq_true])
  · rename_i n name hname
    split at h
    · rename_i validity iss hv
      rw [Option.some.injEq] at h
      subst h
      exact ⟨n, hname, hv, rfl⟩
    · exact absurd h (by simp only [reduceCtorEq, not_false_eq_true])

/-- The ways a certificate is decoded: its kind, and what was read of it. -/
inductive DecodedAs (p : Bytes) (f : CertFields) : Prop
  | ticket (hAt : testOctets p 0 layoutAt = some true) (hname : f.idName = [])
    (hv : readValidity p 19 = some f.validity) {h : Bytes}
    (hh : memcpyFrom p 4 hashedid8Len = some h) (hissuer : f.issuer = .hash h)
  | authority (hAt : testOctets p 0 layoutAt = some false)
    (hAa : testOctets p 0 layoutAa = some true)
    (hf : decodeNamed p 15 ((memcpyFrom p 5 hashedid8Len).map .hash) = some f)
  | root (hAt : testOctets p 0 layoutAt = some false)
    (hAa : testOctets p 0 layoutAa = some false) (hRoot : testOctets p 0 layoutRoot = some true)
    (hf : decodeNamed p 7 (some .root) = some f)
  | unknown (hAt : testOctets p 0 layoutAt = some false)
    (hAa : testOctets p 0 layoutAa = some false) (hRoot : testOctets p 0 layoutRoot = some false)
    (hf : f = ⟨[], none, .unknown⟩)

/-- The kinds are tried in turn: ticket, authority, root. -/
theorem decodeCert_cases {p : Bytes} {f : CertFields} (h : decodeCert p = some f) :
    DecodedAs p f := by
  unfold decodeCert at h
  split at h
  · exact absurd h (by simp only [reduceCtorEq, not_false_eq_true])
  · rename_i hAt
    split at h
    · rename_i validity hash hv hh
      rw [Option.some.injEq] at h
      subst h
      exact .ticket hAt rfl hv hh rfl
    · exact absurd h (by simp only [reduceCtorEq, not_false_eq_true])
  · rename_i hAt
    split at h
    · exact absurd h (by simp only [reduceCtorEq, not_false_eq_true])
    · rename_i hAa
      exact .authority hAt hAa h
    · rename_i hAa
      split at h
      · exact absurd h (by simp only [reduceCtorEq, not_false_eq_true])
      · rename_i hRoot
        exact .root hAt hAa hRoot h
      · rename_i hRoot
        rw [Option.some.injEq] at h
        exact .unknown hAt hAa hRoot h.symm

/-- The code that reads a reply. -/
inductive Handler
  | failureBranch
  | ieee1609CertVerify
  | tlsProcessIeee1609CertCertVerify
  | sslUse1609CertByHash
  | secEntInitialConnection (useAt : Bool)
  | sslGet1609CertChain
  deriving DecidableEq

/-- A handler reads a reply, with the record of the connection at hand. -/
def handle (r : SslIeee1609) (m : SecEntMsg) : Handler → Option Unit
  | .failureBranch => (failureText m.data).map (fun _ => ())
  | .ieee1609CertVerify => (verifyCertsHash m).map (fun _ => ())
  | .tlsProcessIeee1609CertCertVerify => (verifyDataId m r).map (fun _ => ())
  | .sslUse1609CertByHash => (getCertBytes m).map (fun _ => ())
  | .secEntInitialConnection useAt => (initialHash useAt m).map (fun _ => ())
  | .sslGet1609CertChain =>
    match getCertBytes m with
    | none => none
    | some none => some ()
    | some (some c) => (decodeCert c).map (fun _ => ())

/-- Every read of the handler is inside the reply, and inside the certificate in it, and
    every length it computes is not negative. -/
def InBounds (r : SslIeee1609) (m : SecEntMsg) (h : Handler) : Prop :=
  (handle r m h).isSome = true

/-- The reply holds what the handler reads without looking: a hash, or every field of a
    certificate. -/
def Fits (m : SecEntMsg) : Handler → Prop
  | .ieee1609CertVerify => m.msgType = secEntMsgTypeTlsVerifyCerts → hashedid8Len ≤ m.data.length
  | .sslGet1609CertChain =>
    m.msgType = secEntMsgTypeGetCert → m.data.dropLast ≠ [] → FieldsFit m.data.dropLast
  | _ => True

theorem memcpyFrom_eq {d : Bytes} {off : Nat} {len : Int} (h : 0 ≤ len)
    (hle : off + len.toNat ≤ d.length) :
    memcpyFrom d off len = some ((d.drop off).take len.toNat) := by
  rw [memcpyFrom, if_pos ⟨h, hle⟩]

/-- A reply with a payload gives its certificate, the payload without its last octet. -/
theorem getCertBytes_eq {m : SecEntMsg} (hne : m.data ≠ []) :
    getCertBytes m = some (if m.msgType ≠ secEntMsgTypeGetCert ∨ m.data.dropLast = [] then none
      else some m.data.dropLast) := by
  have hpos := List.length_pos_iff.mpr hne
  have hdrop : m.data.dropLast = m.data.take (m.data.length - 1) := List.dropLast_eq_take
  unfold getCertBytes
  by_cases htype : m.msgType ≠ secEntMsgTypeGetCert
  · rw [if_pos htype, if_pos (Or.inl htype)]
  · rw [if_neg htype]
    -- The last octet of the reply is not part of the certificate.
    by_cases hone : m.data.length = 1
    · have hnil : m.data.dropLast = [] := by
        rw [hdrop, hone]
        rfl
      simp only [hone, hnil, or_true, if_true]
      rfl
    · have hnil : m.data.dropLast ≠ [] := by
        intro h
        have hlen := congrArg List.length h
        rw [List.length_dropLast, List.length_nil] at hlen
        omega
      have hlen : ((m.data.length : Int) - 1).toNat = m.data.length - 1 := by omega
      simp only
      rw [if_neg (by omega), memcpyFrom_eq (by omega) (by omega), hlen, List.drop_zero, ← hdrop,
        if_neg (by rw [not_or]; exact ⟨htype, hnil⟩)]
      rfl

theorem verifyDataId_eq (m : SecEntMsg) (r : SslIeee1609) :
    verifyDataId m r = some (if m.msgType ≠ secEntMsgTypeTlsVerifyData ∨ m.data.length < 8 ∨
      8 + maxSspLen < m.data.length then none else some (storePeerId m.data r)) := by
  unfold verifyDataId
  by_cases htype : m.msgType ≠ secEntMsgTypeTlsVerifyData
  · rw [if_pos htype, if_pos (Or.inl htype)]
  · rw [if_neg htype]
    by_cases hlen : m.data.length < 8 ∨ 8 + maxSspLen < m.data.length
    · rw [if_pos hlen, if_pos (Or.inr hlen)]
    · rw [if_neg hlen, if_neg (by rw [not_or]; exact ⟨htype, hlen⟩)]
      rw [not_or] at hlen
      have hssp : ((m.data.length : Int) - 8).toNat = m.data.length - 8 := by omega
      rw [memcpyFrom_eq (by decide) (by omega)]
      simp only [storePeerId, List.length_drop, List.drop_zero]
      have hall : (m.data.drop 8).take (m.data.length - 8) = m.data.drop 8 :=
        List.take_of_length_le (by rw [List.length_drop])
      -- The permissions are copied unless there are none, or they fill the buffer.
      by_cases hcopy : 0 < m.data.length - 8 ∧ m.data.length - 8 < maxSspLen
      · rw [if_pos (by omega), memcpyFrom_eq (by omega) (by omega), hssp, if_pos hcopy, hall]
        rfl
      · rw [if_neg (by omega), hssp, if_neg hcopy]
        rfl

section Model

variable {ω : Type} {env : Env ω}

/-- `ieee1609CertVerify` reads its reply by `verifyCertsHash`. -/
theorem ieee1609CertVerify_eq_handler (c : Ieee1609Cert) (s : SSL ω) :
    ieee1609CertVerify env c s =
      match secEntProcess env (secEntMsgNewTypeTlsVerifyCerts c.certData) s with
      | (.msg m, s') => (verifyCertsHash m).map (fun h =>
          (h.map (fun h => { c with hashedid8 := h }), s'))
      | (_, s') => some (none, s') := by
  unfold ieee1609CertVerify
  rcases secEntProcess env (secEntMsgNewTypeTlsVerifyCerts c.certData) s with ⟨r, s'⟩
  cases r with
  | none => rfl
  | failure => rfl
  | msg m =>
      simp only [verifyCertsHash, memcpyFrom, Nat.zero_add, Int.toNat_natCast, List.drop_zero]
      by_cases htype : m.msgType ≠ secEntMsgTypeTlsVerifyCerts
      · rw [if_pos htype, if_pos htype]
        rfl
      · rw [if_neg htype, if_neg htype]
        by_cases hlen : m.data.length < hashedid8Len
        · rw [if_pos hlen, if_neg (by omega)]
          rfl
        · rw [if_neg hlen, if_pos (by omega)]
          rfl

/-- `tlsProcessIeee1609CertCertVerify` reads its reply by `verifyDataId`. -/
theorem tlsProcessIeee1609CertCertVerify_eq_handler (c : Ieee1609Cert)
    (verifyInput verifyData : Bytes) (s : SSL ω) :
    tlsProcessIeee1609CertCertVerify env (some c) verifyInput verifyData s =
      match secEntProcess env
        (secEntMsgNewTypeTlsVerifyData c.hashedid8 verifyData verifyInput) s with
      | (.none, s') => sslFail .internalError .internalError s'
      | (.failure, s') => sslFail .insufficientSecurity .certificateVerifyFailed s'
      | (.msg m, s') =>
        match verifyDataId m s'.ieee1609 with
        | none => none
        | some none => sslFail .internalError .internalError s'
        | some (some r) => some (true, { s' with ieee1609 := r }) := by
  simp only [tlsProcessIeee1609CertCertVerify]
  rcases secEntProcess env
    (secEntMsgNewTypeTlsVerifyData c.hashedid8 verifyData verifyInput) s with ⟨r, s'⟩
  cases r with
  -- Only a reply that is used gets to the handler.
  | none => rfl
  | failure => rfl
  | msg m =>
      simp only [verifyDataId_eq]
      by_cases htype : m.msgType ≠ secEntMsgTypeTlsVerifyData
      · rw [if_pos htype, if_pos (Or.inl htype)]
      · rw [if_neg htype]
        by_cases hlen : m.data.length < 8 ∨ 8 + maxSspLen < m.data.length
        · rw [if_pos hlen, if_pos (Or.inr hlen)]
        · rw [if_neg hlen, if_neg (by rw [not_or]; exact ⟨htype, hlen⟩)]

/-- `sslUse1609CertByHash` reads its reply by `getCertBytes`. -/
theorem sslUse1609CertByHash_eq_handler (hashedid : Bytes) (s : SSL ω) :
    sslUse1609CertByHash env hashedid s =
      match secEntProcess env (secEntMsgNewTypeGetCert hashedid) s with
      | (.msg m, s') =>
        match getCertBytes m with
        | none => none
        | some none => some (false, s')
        | some (some c) =>
          Call.seq (sslUsePrivateKey keyDer)
            (sslUseCertificate env ⟨.placeholder, some ⟨c, hashedid⟩⟩) s'
      | (_, s') => some (false, s') := by
  unfold sslUse1609CertByHash
  cases hp : secEntProcess env (secEntMsgNewTypeGetCert hashedid) s with
  | mk r s' =>
    cases r with
    | none => rfl
    | failure => rfl
    | msg m =>
        simp only [getCertBytes_eq (secEntProcess_msg hp).1]
        by_cases htype : m.msgType ≠ secEntMsgTypeGetCert
        · rw [if_pos htype, if_pos (Or.inl htype)]
        · rw [if_neg htype, x509NewIeee1609Cert]
          by_cases hnil : m.data.dropLast = []
          · rw [if_pos hnil, if_pos (Or.inr hnil)]
          · rw [if_neg hnil, if_neg (by rw [not_or]; exact ⟨htype, hnil⟩)]

/-- `secEntInitialConnection` reads its reply by `initialHash`. -/
theorem secEntInitialConnection_eq_handler (useAt : Bool) (s : SSL ω) :
    secEntInitialConnection env useAt s =
      match secEntProcess env secEntMsgNewTypeGetAtCert s with
      | (.msg m, s') =>
        match initialHash useAt m with
        | none => none
        | some none => some (m.msgType = secEntMsgTypeGetAt && !useAt, s')
        | some (some h) => sslUse1609CertByHash env h s'
      | (_, s') => some (false, s') := by
  unfold secEntInitialConnection
  rcases secEntProcess env secEntMsgNewTypeGetAtCert s with ⟨r, s'⟩
  cases r with
  | none => rfl
  | failure => rfl
  | msg m =>
      simp only [initialHash]
      by_cases htype : m.msgType = secEntMsgTypeGetAt
      · have hnot : ¬ m.msgType ≠ secEntMsgTypeGetAt := fun hne => hne htype
        rw [if_neg hnot, if_neg hnot]
        cases useAt with
        -- Without use of the ticket the hash is not looked at.
        | false => simp only [Bool.false_eq_true, if_false, htype, decide_true, Bool.not_false,
            Bool.and_self]
        | true =>
            simp only [if_true]
            by_cases hlen : m.data.length < hashedid8Len
            · simp only [if_pos hlen, Bool.not_true, Bool.and_false]
            · rw [if_neg hlen, if_neg hlen, memcpyFrom_eq (by decide)
                (by simpa only [Nat.zero_add, Int.toNat_natCast] using Nat.le_of_not_lt hlen)]
              rfl
      · rw [if_pos htype, if_pos htype]
        simp only [htype, decide_false, Bool.false_and]

end Model

/-- The failure branch reads the last octet, and everything up to it. -/
theorem failureText_isSome {data : Bytes} (hne : 1 ≤ data.length) :
    (failureText data).isSome = true := by
  have hlast : data.length - 1 < data.length := by omega
  rw [failureText, List.getElem?_eq_getElem hlast]
  simp only
  split
  · rfl
  · rw [memcpyFrom_eq (by omega) (by omega)]
    rfl

/-- The hash of a VERIFY_CERTS reply is copied without looking at the length. -/
theorem verifyCertsHash_isSome {m : SecEntMsg} :
    (verifyCertsHash m).isSome = true ↔
      (m.msgType = secEntMsgTypeTlsVerifyCerts → hashedid8Len ≤ m.data.length) := by
  unfold verifyCertsHash
  by_cases htype : m.msgType = secEntMsgTypeTlsVerifyCerts
  · rw [if_neg (fun hne => hne htype), Option.isSome_map, memcpyFrom_isSome]
    constructor
    · rintro ⟨-, hle⟩ _
      simpa only [Nat.zero_add, Int.toNat_natCast] using hle
    · intro hle
      refine ⟨by decide, ?_⟩
      simpa only [Nat.zero_add, Int.toNat_natCast] using hle htype
  · rw [if_pos htype]
    exact iff_of_true rfl (fun heq => absurd heq htype)

/-- The hash of a GET_AT reply is copied only if it is there. -/
theorem initialHash_isSome (useAt : Bool) (m : SecEntMsg) :
    (initialHash useAt m).isSome = true := by
  unfold initialHash
  split
  · rfl
  · split
    · split
      · rfl
      · rename_i hle
        rw [Option.isSome_map, memcpyFrom_isSome]
        refine ⟨by decide, ?_⟩
        simpa only [Nat.zero_add, Int.toNat_natCast] using Nat.le_of_not_lt hle
    · rfl

/-- Whatever reply a handler is given, it stays inside it exactly if the reply holds what is
    read without looking. -/
theorem handler_inBounds_iff (r : SslIeee1609) {m : SecEntMsg} (hne : 1 ≤ m.data.length)
    (h : Handler) : InBounds r m h ↔ Fits m h := by
  have hdata : m.data ≠ [] := List.ne_nil_of_length_pos hne
  unfold InBounds
  cases h with
  | failureBranch =>
      rw [handle, Option.isSome_map]
      exact iff_of_true (failureText_isSome hne) trivial
  | ieee1609CertVerify =>
      rw [handle, Option.isSome_map]
      exact verifyCertsHash_isSome
  | tlsProcessIeee1609CertCertVerify =>
      rw [handle, verifyDataId_eq]
      exact iff_of_true rfl trivial
  | sslUse1609CertByHash =>
      rw [handle, getCertBytes_eq hdata]
      exact iff_of_true rfl trivial
  | secEntInitialConnection useAt =>
      rw [handle, Option.isSome_map]
      exact iff_of_true (initialHash_isSome useAt m) trivial
  | sslGet1609CertChain =>
      rw [handle, getCertBytes_eq hdata, Fits]
      by_cases hcert : m.msgType ≠ secEntMsgTypeGetCert ∨ m.data.dropLast = []
      · rw [if_pos hcert]
        refine iff_of_true rfl (fun htype hnil => ?_)
        rcases hcert with hcert | hcert
        · exact absurd htype hcert
        · exact absurd hcert hnil
      · -- A certificate that was accepted is decoded without looking at its length.
        rw [if_neg hcert]
        rw [not_or, ne_eq, Decidable.not_not] at hcert
        simp only [Option.isSome_map, decodeCert_isSome]
        exact ⟨fun hf _ _ => hf, fun hf => hf hcert.1 hcert.2⟩

/-- A hash of eight octets. -/
theorem handler_inBounds_hash :
    InBounds (cryptoExSslIeee1609New SspBuffer.zero) ⟨secEntMsgTypeTlsVerifyCerts,
      [1, 2, 3, 4, 5, 6, 7, 8]⟩ .ieee1609CertVerify :=
  (handler_inBounds_iff _ (by decide) .ieee1609CertVerify).mpr (fun _ => by decide)

/-- A reply to VERIFY_CERTS of one octet, of which eight are copied. -/
theorem short_hash_read :
    ¬ ∀ (r : SslIeee1609) (m : SecEntMsg) (h : Handler), 1 ≤ m.data.length →
      m.data.length ≤ secEntMaxPayload → InBounds r m h := by
  intro h
  have hbad := h (cryptoExSslIeee1609New SspBuffer.zero) ⟨secEntMsgTypeTlsVerifyCerts, [1]⟩
    .ieee1609CertVerify (by decide) (by decide)
  exact absurd hbad (by unfold InBounds; decide)

end Iso21177
