import Iso21177.Lib.Memory
import Iso21177.SecEnt.Handlers

/-!
# Walking a Certificate Chain

`SSL_get_1609_cert_chain` asks the security entity for a certificate by its hash, notes it
in a record of the caller's array, and calls itself with the hash of the issuer and the
rest of the array. A root certificate ends the walk well. An exchange that fails, a
certificate of no known kind, and the end of the array end it badly, and the records
written so far stay.

Every level clears the whole rest of the array before it fills its own record, so the
records behind the last one are zero and the caller may stop at the first that is not
valid. The size of the rest is an `int`, compared and reduced as a `size_t`; it only
shrinks, by a record each time, which bounds the walk whatever the certificates say.

`certChain_spec` says so of every security entity whose certificates hold the fields that
are read.

## Main definitions

* `certInfoSize`, `validFlag`, `textField`, `storeFields`, `clearRecord`: A record of the
  array.
* `certChainFrom`, `sslGet1609CertChain`: The walk.
* `certAnswered`, `afterRequest`, `withRequests`: Requests.
* `IssuedBy`, `Leads`, `Walked`: What the certificates say.
* `recordValid`, `recordHash`, `Recorded`: What the records hold.
* `FullCerts`: The certificates hold every field that is read.
* `ChainResult`: The walk as it should go.
* `plainTicket`, `plainAuthority`, `plainRoot`, `chainCert`, `chainEnv`: A security entity that
  knows a chain of three certificates.

## Theorems

* `length_strncpyFrom`, `memcpyFrom_hash`, `decodeNamed_some`, `decodeCert_spec`: What is
  decoded.
* `layout_of_issuedBy`, `issuedBy_unique`, `not_root_of_issuedBy`: A certificate leads to one
  place.
* `leads_iff`, `leads_length_pos`: Chains by their first certificate.
* `framed_storeFields`, `clear_record`, `filled_record`: A record is filled.
* `recordValid_succ`, `recordHash_succ`, `recorded_cons`, `recorded_of_framed`,
  `recordValid_of_zero`: Records of the array.
* `sizeT_of_array`, `rest_of_lt`: The size of the rest.
* `certAnswered_eq`, `withRequests_afterRequest`, `withRequests_append`: Requests.
* `certChainFrom_short`, `certChainFrom_unanswered`, `certChainFrom_answered`: The walk by
  its first step.
* `chainResult_short`, `chainResult_unanswered`, `chainResult_ends`, `chainResult_next`: The
  result by the first step.
* `certChainFrom_spec`, `certChain_spec`, `certChain_ticket`: The walk goes as it should.
-/

namespace Iso21177

open Packet

/-- `sizeof(ssl_1609_cert_info_t)`: a flag, a hash and three texts. -/
def certInfoSize : Nat := 4 + hashedid8Len + 3 * infoTextLen

theorem certInfoSize_eq : certInfoSize = 204 := rfl

/-- The flag of a valid record. -/
def validFlag : Bytes := [1, 0, 0, 0]

/-- A text in a field of its own: `strncpy` fills the rest with zeros. -/
def textField (t : Bytes) : Bytes := (t ++ List.replicate infoTextLen 0).take infoTextLen

/-- A record is marked as valid, and the texts of the certificate are copied into it. -/
def storeFields (f : CertFields) (info : Nat) (m : Memory UInt8) : Memory UInt8 :=
  let m := (m.store info validFlag).store (info + 12) f.idName
  match f.validity with
  | none => m
  | some (start, stop) =>
    (m.store (info + 76) (textField start)).store (info + 140) (textField stop)

/-- What is left of the array is cleared, and the hash is noted in its first record. -/
def clearRecord (hashedid : Bytes) (info size : Nat) (m : Memory UInt8) : Memory UInt8 :=
  (m.store info (List.replicate size 0)).store (info + 4) hashedid

section Model

variable {ω : Type} {env : Env ω} {w : Nat}

/-- The walk, to a depth. The array is at `info` and has `size` octets left. -/
def certChainFrom (env : Env ω) (w : Nat) :
    Nat → Bytes → Nat → Int → Memory UInt8 → SSL ω → Option (Bool × Memory UInt8 × SSL ω)
  | 0, _, _, _, _, _ => none
  | depth + 1, hashedid, info, size, m, s =>
    if sizeT w size < certInfoSize then some (false, m, s)
    -- A negative size is a huge one here, and no array has it.
    else if size < 0 then none
    else
      let m := clearRecord hashedid info size.toNat m
      match secEntProcess env (secEntMsgNewTypeGetCert hashedid) s with
      | (.msg reply, s) =>
        match getCertBytes reply with
        | none => none
        | some none => some (false, m, s)
        | some (some c) =>
          match decodeCert c with
          | none => none
          | some f =>
            let m := storeFields f info m
            match f.issuer with
            | .hash h =>
              certChainFrom env w depth h (info + certInfoSize)
                (ssizeT 32 (sizeT w ((sizeT w size : Int) - certInfoSize))) m s
            | .root => some (true, m, s)
            | .unknown => some (false, m, s)
      | (_, s) => some (false, m, s)

/-- `SSL_get_1609_cert_chain`. Each call takes a record off the array, so that many calls
    and one more are enough. -/
def sslGet1609CertChain (env : Env ω) (w : Nat) (hashedid : Bytes) (info : Nat) (size : Int)
    (m : Memory UInt8) (s : SSL ω) : Option (Bool × Memory UInt8 × SSL ω) :=
  certChainFrom env w (size.toNat / certInfoSize + 1) hashedid info size m s

/-- The certificate that comes for a hash, if one does. -/
def certAnswered (env : Env ω) (s : SSL ω) (h : Bytes) : Option Bytes :=
  match (secEntProcess env (secEntMsgNewTypeGetCert h) s).1 with
  | .msg m =>
    if m.msgType = secEntMsgTypeGetCert ∧ m.data.dropLast ≠ [] then some m.data.dropLast else none
  | _ => none

/-- The connection after a request for a hash. -/
def afterRequest (env : Env ω) (h : Bytes) (s : SSL ω) : SSL ω :=
  (secEntProcess env (secEntMsgNewTypeGetCert h) s).2

/-- The connection after requests for hashes, the latest first. -/
def withRequests (asked : List (Bytes × Option SecEntMsg)) (s : SSL ω) : SSL ω :=
  { s with trace := asked.map (fun a => .exchange (secEntMsgNewTypeGetCert a.1) a.2) ++ s.trace }

/-- The hash of its issuer in a certificate. -/
inductive IssuedBy : Bytes → Bytes → Prop
  | ticket {c : Bytes} (h : layoutAt <+: c) : IssuedBy c ((c.drop 4).take hashedid8Len)
  | authority {c : Bytes} (h : layoutAa <+: c) : IssuedBy c ((c.drop 5).take hashedid8Len)

/-- From a hash the certificates lead to a root, by way of the given hashes. -/
inductive Leads (env : Env ω) : SSL ω → Bytes → List Bytes → Prop
  | root {s : SSL ω} {h c : Bytes} (hc : certAnswered env s h = some c) (hr : layoutRoot <+: c) :
      Leads env s h [h]
  | next {s : SSL ω} {h c h' : Bytes} {hs : List Bytes} (hc : certAnswered env s h = some c)
      (hi : IssuedBy c h') (ht : Leads env (afterRequest env h s) h' hs) : Leads env s h (h :: hs)

/-- The certificates for the given hashes come, and each names the next. -/
inductive Walked (env : Env ω) : SSL ω → Bytes → List Bytes → Prop
  | none {s : SSL ω} {h : Bytes} : Walked env s h []
  | last {s : SSL ω} {h c : Bytes} (hc : certAnswered env s h = some c) : Walked env s h [h]
  | next {s : SSL ω} {h c h' : Bytes} {hs : List Bytes} (hc : certAnswered env s h = some c)
      (hi : IssuedBy c h') (ht : Walked env (afterRequest env h s) h' hs) : Walked env s h (h :: hs)

/-- The flag of a record. -/
def recordValid (m : Memory UInt8) (info i : Nat) : Bytes := m.load (info + certInfoSize * i) 4

/-- The hash of a record. -/
def recordHash (m : Memory UInt8) (info i : Nat) : Bytes :=
  m.load (info + certInfoSize * i + 4) hashedid8Len

/-- The records from the first on are valid and for the given hashes. -/
def Recorded (m : Memory UInt8) (info : Nat) (hs : List Bytes) : Prop :=
  ∀ i (hi : i < hs.length), recordValid m info i = validFlag ∧ recordHash m info i = hs[i]

/-- Every certificate that comes holds the fields that are read of it. -/
def FullCerts (env : Env ω) : Prop :=
  ∀ (s : SSL ω) (h c : Bytes), certAnswered env s h = some c → FieldsFit c

/-- The walk as it should go, in an array of `n` records. It makes at most one request for
    each record and writes inside the array. It succeeds exactly if the certificates lead to
    a root within the array, and then the records are those of the chain and zeros. If it
    fails, the valid records come first and are those of the certificates that came. -/
structure ChainResult (env : Env ω) (hashedid : Bytes) (info size : Nat) (m : Memory UInt8)
    (s : SSL ω) (b : Bool) (m' : Memory UInt8) (s' : SSL ω) : Prop where
  requests : ∃ asked, asked.length ≤ size / certInfoSize ∧ s' = withRequests asked s
  inside : Memory.Framed info size m m'
  succeeds : b = true ↔ ∃ hs, Leads env s hashedid hs ∧ hs.length ≤ size / certInfoSize
  chain : b = true → ∀ hs, Leads env s hashedid hs → Recorded m' info hs ∧
    m'.load (info + certInfoSize * hs.length) (certInfoSize * (size / certInfoSize - hs.length)) =
      List.replicate (certInfoSize * (size / certInfoSize - hs.length)) 0
  partway : b = false → ∃ hs, Walked env s hashedid hs ∧ hs.length ≤ size / certInfoSize ∧
    Recorded m' info hs ∧
    ∀ i, hs.length ≤ i → i < size / certInfoSize → recordValid m' info i = [0, 0, 0, 0]

/-- A copied name has the length that was asked for. -/
theorem length_strncpyFrom {d bs : Bytes} {off n : Nat} (h : strncpyFrom d off n = some bs) :
    bs.length = n := by
  induction n generalizing off bs with
  | zero =>
      simp only [strncpyFrom, Option.some.injEq] at h
      rw [← h, List.length_nil]
  | succ n ih =>
      rw [strncpyFrom] at h
      split at h
      · exact absurd h (by simp only [reduceCtorEq, not_false_eq_true])
      · split at h
        · rw [Option.some.injEq] at h
          rw [← h, List.length_replicate]
        · rcases Option.map_eq_some_iff.mp h with ⟨bs', hbs', rfl⟩
          rw [List.length_cons, ih hbs']

/-- What a hash is copied from. -/
theorem memcpyFrom_hash {c h : Bytes} {off : Nat} (hh : memcpyFrom c off hashedid8Len = some h) :
    h = (c.drop off).take hashedid8Len ∧ h.length = hashedid8Len := by
  unfold memcpyFrom at hh
  split at hh
  · rename_i hle
    rw [Option.some.injEq] at hh
    have hn : (hashedid8Len : Int).toNat = hashedid8Len := rfl
    rw [hn] at hh hle
    refine ⟨hh.symm, ?_⟩
    rw [← hh, List.length_take, List.length_drop]
    omega
  · exact absurd hh (by simp only [reduceCtorEq, not_false_eq_true])

/-- A certificate with a name: the name fits its field. -/
theorem decodeNamed_some {p : Bytes} {off : Nat} {issuer : Option Issuer} {f : CertFields}
    (h : decodeNamed p off issuer = some f) :
    f.idName.length ≤ infoTextLen ∧ issuer = some f.issuer := by
  rcases decodeNamed_cases h with ⟨n, hname, -, hissuer⟩
  refine ⟨?_, hissuer⟩
  unfold readName at hname
  split at hname
  · exact absurd hname (by simp only [reduceCtorEq, not_false_eq_true])
  · rcases Option.map_eq_some_iff.mp hname with ⟨name', hcopy, heq⟩
    rw [Prod.mk.injEq] at heq
    -- The name is cut to fit its field.
    have hlen := length_strncpyFrom hcopy
    rw [heq.2] at hlen
    simp only [infoTextLen] at hlen ⊢
    omega

/-- What the decoder says of a certificate: where it leads is told by its first octets. -/
theorem decodeCert_spec {c : Bytes} {f : CertFields} (h : decodeCert c = some f) :
    f.idName.length ≤ infoTextLen ∧
      match f.issuer with
      | .hash h => IssuedBy c h ∧ h.length = hashedid8Len
      | .root => layoutRoot <+: c
      | .unknown => ∀ l ∈ layouts, ¬ l <+: c := by
  cases decodeCert_cases h with
  | ticket hAt hname hv hh hissuer =>
      rcases memcpyFrom_hash hh with ⟨heq, hlen⟩
      rw [hname, hissuer]
      refine ⟨Nat.zero_le _, ?_, hlen⟩
      rw [heq]
      exact IssuedBy.ticket ((testOctets_some hAt).mp rfl)
  | authority hAt hAa hf =>
      rcases decodeNamed_some hf with ⟨hname, hissuer⟩
      rcases Option.map_eq_some_iff.mp hissuer with ⟨hash, hh, heq⟩
      rcases memcpyFrom_hash hh with ⟨hbytes, hlen⟩
      rw [← heq]
      refine ⟨hname, ?_, hlen⟩
      rw [hbytes]
      exact IssuedBy.authority ((testOctets_some hAa).mp rfl)
  | root hAt hAa hRoot hf =>
      rcases decodeNamed_some hf with ⟨hname, hissuer⟩
      rw [Option.some.injEq] at hissuer
      rw [← hissuer]
      exact ⟨hname, (testOctets_some hRoot).mp rfl⟩
  | unknown hAt hAa hRoot hf =>
      subst hf
      -- All three tests failed.
      refine ⟨by decide, fun l hl hc => ?_⟩
      simp only [layouts, List.mem_cons, List.not_mem_nil, or_false] at hl
      rcases hl with rfl | rfl | rfl
      · exact absurd ((testOctets_some hAt).mpr hc) (by decide)
      · exact absurd ((testOctets_some hAa).mpr hc) (by decide)
      · exact absurd ((testOctets_some hRoot).mpr hc) (by decide)

/-- A certificate that names its issuer is of one of the two kinds that do. -/
theorem layout_of_issuedBy {c h : Bytes} (hi : IssuedBy c h) :
    (layoutAt <+: c ∧ h = (c.drop 4).take hashedid8Len) ∨
      (layoutAa <+: c ∧ h = (c.drop 5).take hashedid8Len) := by
  cases hi with
  | ticket hl => exact Or.inl ⟨hl, rfl⟩
  | authority hl => exact Or.inr ⟨hl, rfl⟩

theorem issuedBy_unique {c h h' : Bytes} (hi : IssuedBy c h) (hi' : IssuedBy c h') : h = h' := by
  rcases layout_of_issuedBy hi with ⟨hl, rfl⟩ | ⟨hl, rfl⟩ <;>
    rcases layout_of_issuedBy hi' with ⟨hl', rfl⟩ | ⟨hl', rfl⟩
  · rfl
  · exact absurd (layout_unique (by decide) (by decide) hl hl') (by decide)
  · exact absurd (layout_unique (by decide) (by decide) hl hl') (by decide)
  · rfl

theorem not_root_of_issuedBy {c h : Bytes} (hi : IssuedBy c h) : ¬ layoutRoot <+: c := by
  intro hr
  rcases layout_of_issuedBy hi with ⟨hl, -⟩ | ⟨hl, -⟩
  · exact absurd (layout_unique (by decide) (by decide) hl hr) (by decide)
  · exact absurd (layout_unique (by decide) (by decide) hl hr) (by decide)

/-- A chain by its first certificate. -/
theorem leads_iff {s : SSL ω} {h : Bytes} {hs : List Bytes} :
    Leads env s h hs ↔ ∃ c, certAnswered env s h = some c ∧
      ((layoutRoot <+: c ∧ hs = [h]) ∨
        ∃ h' hs', IssuedBy c h' ∧ Leads env (afterRequest env h s) h' hs' ∧ hs = h :: hs') := by
  constructor
  · intro hl
    cases hl with
    | root hc hr => exact ⟨_, hc, Or.inl ⟨hr, rfl⟩⟩
    | next hc hi ht => exact ⟨_, hc, Or.inr ⟨_, _, hi, ht, rfl⟩⟩
  · rintro ⟨c, hc, ⟨hr, rfl⟩ | ⟨h', hs', hi, ht, rfl⟩⟩
    · exact Leads.root hc hr
    · exact Leads.next hc hi ht

theorem leads_length_pos {s : SSL ω} {h : Bytes} {hs : List Bytes} (hl : Leads env s h hs) :
    1 ≤ hs.length := by
  cases hl with
  | root hc hr => exact Nat.le_refl 1
  | next hc hi ht => exact Nat.succ_le_succ (Nat.zero_le _)

/-- Filling in a certificate leaves everything but the texts of the record, once the flag is
    set. -/
theorem framed_storeFields {f : CertFields} (hf : f.idName.length ≤ infoTextLen) (info : Nat)
    (m : Memory UInt8) :
    Memory.Framed (info + 12) (3 * infoTextLen) (m.store info validFlag)
      (storeFields f info m) := by
  -- The two dates fill their fields exactly, with zeros behind the text.
  have htext : ∀ t, (textField t).length = infoTextLen := by
    intro t
    rw [textField, List.length_take, List.length_append, List.length_replicate]
    omega
  have hname : Memory.Framed (info + 12) (3 * infoTextLen) (m.store info validFlag)
      ((m.store info validFlag).store (info + 12) f.idName) :=
    Memory.framed_store (Nat.le_refl _) (by omega)
  unfold storeFields
  simp only
  split
  · exact hname
  · rename_i start stop hv
    simp only [infoTextLen] at htext ⊢
    refine (hname.trans (Memory.framed_store (by omega) ?_)).trans
      (Memory.framed_store (by omega) ?_)
    · rw [htext]
      simp only [infoTextLen]
      omega
    · rw [htext]
      simp only [infoTextLen]
      omega

/-- A record that was cleared: it is not valid, its hash is set, and zeros follow. -/
theorem clear_record {h : Bytes} (hh : h.length = hashedid8Len) (info : Nat) {size : Nat}
    (hsize : certInfoSize ≤ size) (m : Memory UInt8) :
    Memory.Framed info size m (clearRecord h info size m) ∧
      (clearRecord h info size m).load info 4 = [0, 0, 0, 0] ∧
      (clearRecord h info size m).load (info + 4) hashedid8Len = h ∧
      ∀ a n, info + 12 ≤ a → a + n ≤ info + size →
        (clearRecord h info size m).load a n = List.replicate n 0 := by
  simp only [certInfoSize_eq, hashedid8Len] at hsize hh
  unfold clearRecord
  refine ⟨?_, ?_, ?_, fun a n ha hn => ?_⟩
  · refine (Memory.framed_store (Nat.le_refl info) ?_).trans (Memory.framed_store (by omega) ?_)
    · rw [List.length_replicate]
    · omega
  · rw [Memory.load_store_apart (by omega),
      Memory.load_store_replicate (Nat.le_refl info) (by omega)]
    rfl
  · rw [hashedid8Len, ← hh]
    exact Memory.load_store_self
  · rw [Memory.load_store_apart (by omega), Memory.load_store_replicate (by omega) hn]

/-- A record that was filled in: it is valid, its hash is set, and zeros follow. -/
theorem filled_record {h : Bytes} (hh : h.length = hashedid8Len) {f : CertFields}
    (hf : f.idName.length ≤ infoTextLen) (info : Nat) {size : Nat} (hsize : certInfoSize ≤ size)
    (m : Memory UInt8) :
    Memory.Framed info size m (storeFields f info (clearRecord h info size m)) ∧
      Recorded (storeFields f info (clearRecord h info size m)) info [h] ∧
      ∀ a n, info + certInfoSize ≤ a → a + n ≤ info + size →
        (storeFields f info (clearRecord h info size m)).load a n = List.replicate n 0 := by
  have hfields := framed_storeFields hf info (clearRecord h info size m)
  rcases clear_record hh info hsize m with ⟨hframe, -, hhash, hzero⟩
  simp only [certInfoSize_eq, infoTextLen] at hsize hfields ⊢
  -- The texts are behind the hash and inside the record, so they change neither the hash
  -- nor what follows.
  refine ⟨?_, fun i hi => ?_, fun a n ha hn => ?_⟩
  · refine hframe.trans ((Memory.framed_store (Nat.le_refl info) ?_).trans
      (hfields.mono (by omega) (by omega)))
    simp only [validFlag, List.length_cons, List.length_nil]
    omega
  · rw [List.length_singleton, Nat.lt_one_iff] at hi
    subst hi
    simp only [recordValid, recordHash, Nat.mul_zero, Nat.add_zero, List.getElem_cons_zero]
    constructor
    · rw [hfields.load (by omega)]
      exact Memory.load_store_self
    · rw [hfields.load (by simp only [hashedid8Len]; omega), Memory.load_store_apart, hhash]
      simp only [validFlag, List.length_cons, List.length_nil]
      omega
  · rw [hfields.load (by omega), Memory.load_store_apart, hzero a n (by omega) hn]
    simp only [validFlag, List.length_cons, List.length_nil]
    omega

/-- Records behind the first. -/
theorem recordValid_succ (m : Memory UInt8) (info i : Nat) :
    recordValid m (info + certInfoSize) i = recordValid m info (i + 1) := by
  unfold recordValid
  congr 1
  rw [Nat.mul_succ]
  omega

theorem recordHash_succ (m : Memory UInt8) (info i : Nat) :
    recordHash m (info + certInfoSize) i = recordHash m info (i + 1) := by
  unfold recordHash
  congr 1
  rw [Nat.mul_succ]
  omega

/-- The first record and those behind it. -/
theorem recorded_cons {m : Memory UInt8} {info : Nat} {h : Bytes} {hs : List Bytes}
    (hfirst : Recorded m info [h]) (hrest : Recorded m (info + certInfoSize) hs) :
    Recorded m info (h :: hs) := by
  intro i hi
  cases i with
  | zero => exact hfirst 0 (Nat.zero_lt_one)
  | succ i =>
      rw [← recordValid_succ, ← recordHash_succ, List.getElem_cons_succ]
      exact hrest i (Nat.lt_of_succ_lt_succ hi)

/-- Records that lie apart from a frame stay. -/
theorem recorded_of_framed {m m' : Memory UInt8} {info a n : Nat} {hs : List Bytes}
    (h : Recorded m info hs) (hm : Memory.Framed a n m m')
    (ha : info + certInfoSize * hs.length ≤ a) : Recorded m' info hs := by
  intro i hi
  have hbelow : certInfoSize * (i + 1) ≤ certInfoSize * hs.length := Nat.mul_le_mul_left _ hi
  rw [Nat.mul_succ] at hbelow
  have hsize : 4 + hashedid8Len ≤ certInfoSize := by decide
  rcases h i hi with ⟨hv, hh⟩
  unfold recordValid at hv ⊢
  unfold recordHash at hh ⊢
  rw [hm.load (by omega), hm.load (by omega)]
  exact ⟨hv, hh⟩

/-- A `size_t` holds the size of an array. -/
theorem sizeT_of_array (hw : w = 32 ∨ w = 64) {n : Nat} (hn : n < 2 ^ 31) : sizeT w n = n := by
  rcases hw with rfl | rfl
  · exact sizeT_of_lt (Nat.lt_trans hn (by decide))
  · exact sizeT_of_lt (Nat.lt_trans hn (by decide))

/-- The size of the rest of the array. -/
theorem rest_of_lt (hw : w = 32 ∨ w = 64) {size : Nat} (hn : size < 2 ^ 31)
    (hsize : certInfoSize ≤ size) :
    ssizeT 32 (sizeT w ((sizeT w size : Int) - certInfoSize)) = (size - certInfoSize : Nat) := by
  have hsub : ((size : Int) - certInfoSize) = (size - certInfoSize : Nat) := by omega
  rw [sizeT_of_array hw hn, hsub, sizeT_of_array hw (by omega),
    ssizeT_of_lt (Or.inl rfl) (by omega)]

/-- The array has no room for a record. -/
theorem certChainFrom_short (hw : w = 32 ∨ w = 64) {size : Nat} (hn : size < 2 ^ 31)
    (hsize : size < certInfoSize) (depth : Nat) (h : Bytes) (info : Nat) (m : Memory UInt8)
    (s : SSL ω) : certChainFrom env w (depth + 1) h info size m s = some (false, m, s) := by
  rw [certChainFrom, sizeT_of_array hw hn, if_pos hsize]

/-- What a request comes to. -/
theorem certAnswered_eq (env : Env ω) (s : SSL ω) (h : Bytes) :
    (∃ m, secEntProcess env (secEntMsgNewTypeGetCert h) s = (.msg m, afterRequest env h s) ∧
      getCertBytes m = some (certAnswered env s h)) ∨
    (certAnswered env s h = none ∧ ∀ m, (secEntProcess env (secEntMsgNewTypeGetCert h) s).1 ≠
      .msg m) := by
  cases hp : secEntProcess env (secEntMsgNewTypeGetCert h) s with
  | mk r s' =>
    cases r with
    | none => exact Or.inr ⟨by rw [certAnswered, hp], by simp only [ne_eq, reduceCtorEq,
        not_false_eq_true, implies_true]⟩
    | failure => exact Or.inr ⟨by rw [certAnswered, hp], by simp only [ne_eq, reduceCtorEq,
        not_false_eq_true, implies_true]⟩
    | msg m =>
        refine Or.inl ⟨m, by rw [afterRequest, hp], ?_⟩
        rw [getCertBytes_eq (secEntProcess_msg hp).1, certAnswered, hp]
        by_cases htype : m.msgType = secEntMsgTypeGetCert
        · by_cases hnil : m.data.dropLast = []
          · simp only [hnil, or_true, if_true, ne_eq, not_true_eq_false, and_false, if_false]
          · simp only [htype, hnil, ne_eq, not_true_eq_false, or_self, if_false,
              not_false_eq_true, and_self, if_true]
        · simp only [htype, ne_eq, not_false_eq_true, true_or, if_true, false_and, if_false]

/-- No certificate comes. -/
theorem certChainFrom_unanswered (hw : w = 32 ∨ w = 64) {size : Nat} (hn : size < 2 ^ 31)
    (hsize : certInfoSize ≤ size) {h : Bytes} {s : SSL ω} (hc : certAnswered env s h = none)
    (depth info : Nat) (m : Memory UInt8) :
    certChainFrom env w (depth + 1) h info size m s =
      some (false, clearRecord h info size m, afterRequest env h s) := by
  rw [certChainFrom, sizeT_of_array hw hn, if_neg (by omega), if_neg (by omega), Int.toNat_natCast]
  rcases certAnswered_eq env s h with ⟨r, hr, hbytes⟩ | ⟨-, hr⟩
  · simp only [hr, hbytes, hc]
  · split
    · rename_i r _ heq
      exact absurd (congrArg Prod.fst heq) (hr r)
    · rename_i heq
      rw [afterRequest, heq]

/-- A certificate comes: its record is filled, and it says how the walk goes on. -/
theorem certChainFrom_answered (hw : w = 32 ∨ w = 64) {size : Nat} (hn : size < 2 ^ 31)
    (hsize : certInfoSize ≤ size) {h c : Bytes} {s : SSL ω} (hc : certAnswered env s h = some c)
    {f : CertFields} (hf : decodeCert c = some f) (depth info : Nat) (m : Memory UInt8) :
    certChainFrom env w (depth + 1) h info size m s =
      match f.issuer with
      | .hash h' =>
        certChainFrom env w depth h' (info + certInfoSize) (size - certInfoSize : Nat)
          (storeFields f info (clearRecord h info size m)) (afterRequest env h s)
      | .root => some (true, storeFields f info (clearRecord h info size m), afterRequest env h s)
      | .unknown =>
        some (false, storeFields f info (clearRecord h info size m), afterRequest env h s) := by
  rw [certChainFrom, rest_of_lt hw hn hsize, sizeT_of_array hw hn, if_neg (by omega),
    if_neg (by omega), Int.toNat_natCast]
  rcases certAnswered_eq env s h with ⟨r, hr, hbytes⟩ | ⟨hnone, -⟩
  · simp only [hr, hbytes, hc, hf]
  · rw [hc] at hnone
    exact absurd hnone (by simp only [reduceCtorEq, not_false_eq_true])

/-- One more request. -/
theorem withRequests_afterRequest (env : Env ω) (h : Bytes) (s : SSL ω) :
    ∃ r, afterRequest env h s = withRequests [(h, r)] s :=
  ⟨_, rfl⟩

theorem withRequests_append (asked asked' : List (Bytes × Option SecEntMsg)) (s : SSL ω) :
    withRequests asked (withRequests asked' s) = withRequests (asked ++ asked') s := by
  simp only [withRequests, List.map_append, List.append_assoc]

/-- No chain fits an array that has no room for a record. -/
theorem chainResult_short {size : Nat} (hsize : size < certInfoSize) (h : Bytes) (info : Nat)
    (m : Memory UInt8) (s : SSL ω) : ChainResult env h info size m s false m s := by
  have hn : size / certInfoSize = 0 := Nat.div_eq_of_lt hsize
  refine ⟨⟨[], Nat.zero_le _, rfl⟩, Memory.framed_refl _ _ _, ?_, fun hb => ?_, fun _ => ?_⟩
  · refine iff_of_false (by decide) ?_
    rintro ⟨hs, hl, hle⟩
    have hpos := leads_length_pos hl
    omega
  · exact absurd hb (by decide)
  · refine ⟨[], Walked.none, Nat.zero_le _, fun i hi => absurd hi (Nat.not_lt_zero i),
      fun i _ hi => absurd hi (by omega)⟩

/-- Records in cleared memory are not valid. -/
theorem recordValid_of_zero {m : Memory UInt8} {info size : Nat}
    (hzero : ∀ a n, info + certInfoSize ≤ a → a + n ≤ info + size →
      m.load a n = List.replicate n 0) {i : Nat} (hi : 1 ≤ i) (hn : i < size / certInfoSize) :
    recordValid m info i = [0, 0, 0, 0] := by
  simp only [certInfoSize_eq] at hzero hn
  rw [recordValid, certInfoSize_eq, hzero _ 4 (by omega) (by omega)]
  rfl

/-- The walk ends at once, with no certificate. -/
theorem chainResult_unanswered {size : Nat} (hsize : certInfoSize ≤ size) {h : Bytes}
    (hh : h.length = hashedid8Len) {s : SSL ω} (hc : certAnswered env s h = none) (info : Nat)
    (m : Memory UInt8) :
    ChainResult env h info size m s false (clearRecord h info size m) (afterRequest env h s) := by
  rcases clear_record hh info hsize m with ⟨hframe, hflag, -, hzero⟩
  have hn : 1 ≤ size / certInfoSize := (Nat.one_le_div_iff (by decide)).mpr hsize
  rcases withRequests_afterRequest env h s with ⟨r, hr⟩
  refine ⟨⟨[(h, r)], hn, hr⟩, hframe, ?_, fun hb => ?_, fun _ => ?_⟩
  · refine iff_of_false (by decide) ?_
    rintro ⟨hs, hl, -⟩
    rcases leads_iff.mp hl with ⟨c, hc', -⟩
    rw [hc] at hc'
    exact absurd hc' (by simp only [reduceCtorEq, not_false_eq_true])
  · exact absurd hb (by decide)
  · refine ⟨[], Walked.none, Nat.zero_le _, fun i hi => absurd hi (Nat.not_lt_zero i),
      fun i _ hi => ?_⟩
    -- Clearing the array has reset the flag of the first record, as of the others.
    by_cases hi0 : i = 0
    · subst hi0
      exact hflag
    · refine recordValid_of_zero (fun a n ha => hzero a n ?_) (by omega) hi
      have hle : 12 ≤ certInfoSize := by decide
      omega

/-- The walk ends with its first certificate, a root or one of no known kind. -/
theorem chainResult_ends {size : Nat} (hsize : certInfoSize ≤ size) {h c : Bytes}
    (hh : h.length = hashedid8Len) {s : SSL ω} (hc : certAnswered env s h = some c)
    (hnone : ∀ h', ¬ IssuedBy c h') {f : CertFields} (hf : f.idName.length ≤ infoTextLen)
    {b : Bool} (hb : b = true ↔ layoutRoot <+: c) (info : Nat) (m : Memory UInt8) :
    ChainResult env h info size m s b (storeFields f info (clearRecord h info size m))
      (afterRequest env h s) := by
  rcases filled_record hh hf info hsize m with ⟨hframe, hfirst, hzero⟩
  have hn : 1 ≤ size / certInfoSize := (Nat.one_le_div_iff (by decide)).mpr hsize
  rcases withRequests_afterRequest env h s with ⟨r, hr⟩
  -- From here the hash alone is a chain, if there is one.
  have hleads : ∀ hs, Leads env s h hs → layoutRoot <+: c ∧ hs = [h] := by
    intro hs hl
    rcases leads_iff.mp hl with ⟨c', hc', hcase⟩
    rw [hc, Option.some.injEq] at hc'
    subst hc'
    rcases hcase with hroot | ⟨h', hs', hi, -⟩
    · exact hroot
    · exact absurd hi (hnone h')
  refine ⟨⟨[(h, r)], hn, hr⟩, hframe, ?_, fun _ hs hl => ?_, fun _ => ?_⟩
  · rw [hb]
    constructor
    · intro hroot
      exact ⟨[h], Leads.root hc hroot, hn⟩
    · rintro ⟨hs, hl, -⟩
      exact (hleads hs hl).1
  · rw [(hleads hs hl).2]
    refine ⟨hfirst, hzero _ _ ?_ ?_⟩
    · rw [List.length_singleton, Nat.mul_one]
    · simp only [List.length_singleton, certInfoSize_eq] at hn ⊢
      omega
  · exact ⟨[h], Walked.last hc, hn, hfirst, fun i hi hi' => recordValid_of_zero hzero hi hi'⟩

/-- The walk goes on with the issuer. -/
theorem chainResult_next {size : Nat} (hsize : certInfoSize ≤ size) {h c h' : Bytes}
    (hh : h.length = hashedid8Len) {s : SSL ω} (hc : certAnswered env s h = some c)
    (hi : IssuedBy c h') {f : CertFields} (hf : f.idName.length ≤ infoTextLen) {b : Bool}
    {info : Nat} {m m' : Memory UInt8} {s' : SSL ω}
    (hrest : ChainResult env h' (info + certInfoSize) (size - certInfoSize)
      (storeFields f info (clearRecord h info size m)) (afterRequest env h s) b m' s') :
    ChainResult env h info size m s b m' s' := by
  rcases filled_record hh hf info hsize m with ⟨hframe, hfirst, -⟩
  have hn : (size - certInfoSize) / certInfoSize + 1 = size / certInfoSize := by
    simp only [certInfoSize_eq] at hsize ⊢
    omega
  rcases withRequests_afterRequest env h s with ⟨r, hr⟩
  rcases hrest.requests with ⟨asked, hasked, hs'⟩
  have hinside := hrest.inside
  -- The first record lies before what the rest of the walk writes.
  have hfirst' : Recorded m' info [h] := by
    refine recorded_of_framed hfirst hinside ?_
    rw [List.length_singleton, Nat.mul_one]
  have hleads : ∀ hs, Leads env s h hs ↔
      ∃ hs', hs = h :: hs' ∧ Leads env (afterRequest env h s) h' hs' := by
    intro hs
    rw [leads_iff]
    constructor
    · rintro ⟨c', hc', hcase⟩
      rw [hc, Option.some.injEq] at hc'
      subst hc'
      rcases hcase with ⟨hroot, -⟩ | ⟨h'', hs', hi', hl, rfl⟩
      · exact absurd hroot (not_root_of_issuedBy hi)
      · rw [issuedBy_unique hi hi']
        exact ⟨hs', rfl, hl⟩
    · rintro ⟨hs', rfl, hl⟩
      exact ⟨c, hc, Or.inr ⟨h', hs', hi, hl, rfl⟩⟩
  refine ⟨⟨asked ++ [(h, r)], ?_, ?_⟩, ?_, ?_, fun hb hs hl => ?_, fun hb => ?_⟩
  · rw [List.length_append, List.length_singleton]
    omega
  · rw [hs', hr, withRequests_append]
  · exact hframe.trans (hinside.mono (by omega) (by omega))
  · rw [hrest.succeeds]
    constructor
    · rintro ⟨hs, hl, hle⟩
      exact ⟨h :: hs, (hleads _).mpr ⟨hs, rfl, hl⟩, by rw [List.length_cons]; omega⟩
    · rintro ⟨hs, hl, hle⟩
      rcases (hleads hs).mp hl with ⟨hs', rfl, hl'⟩
      rw [List.length_cons] at hle
      exact ⟨hs', hl', by omega⟩
  · rcases (hleads hs).mp hl with ⟨hs', rfl, hl'⟩
    rcases hrest.chain hb hs' hl' with ⟨hrec, hzero⟩
    refine ⟨recorded_cons hfirst' hrec, ?_⟩
    have hcount : size / certInfoSize - (h :: hs').length =
        (size - certInfoSize) / certInfoSize - hs'.length := by
      rw [List.length_cons]
      omega
    have hat : info + certInfoSize * (h :: hs').length =
        info + certInfoSize + certInfoSize * hs'.length := by
      rw [List.length_cons, Nat.mul_succ]
      omega
    rw [hcount, hat]
    exact hzero
  · rcases hrest.partway hb with ⟨hs, hw, hle, hrec, hzero⟩
    refine ⟨h :: hs, Walked.next hc hi hw, by rw [List.length_cons]; omega,
      recorded_cons hfirst' hrec, fun i hi hi' => ?_⟩
    rw [List.length_cons] at hi
    cases i with
    | zero => omega
    | succ i =>
        rw [← recordValid_succ]
        exact hzero i (by omega) (by omega)

/-- The walk goes as it should, to any depth that the array allows. -/
theorem certChainFrom_spec (hw : w = 32 ∨ w = 64) (hfull : FullCerts env) {depth : Nat}
    {h : Bytes} (hh : h.length = hashedid8Len) (info : Nat) {size : Nat} (hn : size < 2 ^ 31)
    (hdepth : size / certInfoSize < depth) (m : Memory UInt8) (s : SSL ω) :
    ∃ b m' s', certChainFrom env w depth h info size m s = some (b, m', s') ∧
      ChainResult env h info size m s b m' s' := by
  -- Each turn takes one record off the array, so the depth bounds the walk.
  induction depth generalizing h info size m s with
  | zero => exact absurd hdepth (Nat.not_lt_zero _)
  | succ depth ih =>
      by_cases hsize : size < certInfoSize
      · exact ⟨_, _, _, certChainFrom_short hw hn hsize depth h info m s,
          chainResult_short hsize h info m s⟩
      · rw [Nat.not_lt] at hsize
        cases hc : certAnswered env s h with
        | none =>
            exact ⟨_, _, _, certChainFrom_unanswered hw hn hsize hc depth info m,
              chainResult_unanswered hsize hh hc info m⟩
        | some c =>
            rcases Option.isSome_iff_exists.mp (decodeCert_isSome.mpr (hfull s h c hc)) with ⟨f, hf⟩
            rw [certChainFrom_answered hw hn hsize hc hf]
            rcases decodeCert_spec hf with ⟨hname, hkind⟩
            cases hissuer : f.issuer with
            | hash h' =>
                simp only [hissuer] at hkind ⊢
                -- The issuer is looked up next, with the rest of the array.
                have hlt : (size - certInfoSize) / certInfoSize < depth := by
                  simp only [certInfoSize_eq] at hdepth hsize ⊢
                  omega
                rcases ih hkind.2 (info + certInfoSize) (by omega) hlt
                  (storeFields f info (clearRecord h info size m)) (afterRequest env h s) with
                  ⟨b, m', s', hrun, hres⟩
                exact ⟨b, m', s', hrun, chainResult_next hsize hh hc hkind.1 hname hres⟩
            | root =>
                simp only [hissuer] at hkind ⊢
                exact ⟨_, _, _, rfl, chainResult_ends hsize hh hc
                  (fun h' hi => not_root_of_issuedBy hi hkind) hname (iff_of_true rfl hkind) info m⟩
            | unknown =>
                simp only [hissuer] at hkind ⊢
                refine ⟨_, _, _, rfl, chainResult_ends hsize hh hc (fun h' hi => ?_) hname
                  (iff_of_false (by decide) (hkind _ (by decide))) info m⟩
                rcases layout_of_issuedBy hi with ⟨hl, -⟩ | ⟨hl, -⟩
                · exact hkind _ (by decide) hl
                · exact hkind _ (by decide) hl

/-- `SSL_get_1609_cert_chain` goes as it should, for every hash and every size of the
    array. -/
theorem certChain_spec (hw : w = 32 ∨ w = 64) (hfull : FullCerts env) {h : Bytes}
    (hh : h.length = hashedid8Len) (info : Nat) {size : Nat} (hn : size < 2 ^ 31)
    (m : Memory UInt8) (s : SSL ω) :
    ∃ b m' s', sslGet1609CertChain env w h info size m s = some (b, m', s') ∧
      ChainResult env h info size m s b m' s' :=
  certChainFrom_spec hw hfull hh info hn (by rw [Int.toNat_natCast]; omega) m s

end Model

/-- A ticket of an issuer, of unknown duration. -/
def plainTicket (issuer : Bytes) : Bytes := layoutAt ++ issuer ++ List.replicate 12 0

/-- The certificate of an authority without a name, of unknown duration. -/
def plainAuthority (issuer : Bytes) : Bytes := layoutAa ++ issuer ++ List.replicate 13 0

/-- A root certificate without a name, of unknown duration. -/
def plainRoot : Bytes := layoutRoot ++ List.replicate 13 0

/-- The certificate for a hash, told by its first octet. -/
def chainCert (first : UInt8) : Bytes :=
  if first = 1 then plainTicket (List.replicate 8 2)
  else if first = 2 then plainAuthority (List.replicate 8 3)
  else plainRoot

/-- A security entity that knows a ticket, its authority and the root. -/
def chainEnv : Env Unit :=
  { plainEnv with
    secEnt := fun _ req => some ⟨secEntMsgTypeGetCert, chainCert (req.data.headD 0) ++ [0]⟩ }

/-- The ticket, its authority and the root in an array of four records. -/
theorem certChain_ticket :
    ∃ m' s', sslGet1609CertChain chainEnv 64 (List.replicate 8 1) 1000 (4 * certInfoSize : Nat)
        (fun _ => 5) (sslNew SspBuffer.zero 0 Cert.empty ()) = some (true, m', s') ∧
      ChainResult chainEnv (List.replicate 8 1) 1000 (4 * certInfoSize) (fun _ => 5)
        (sslNew SspBuffer.zero 0 Cert.empty ()) true m' s' ∧
      Recorded m' 1000 [List.replicate 8 1, List.replicate 8 2, List.replicate 8 3] := by
  have hcases : ∀ b, chainCert b = plainTicket (List.replicate 8 2) ∨
      chainCert b = plainAuthority (List.replicate 8 3) ∨ chainCert b = plainRoot := by
    intro b
    unfold chainCert
    split
    · exact Or.inl rfl
    · split
      · exact Or.inr (Or.inl rfl)
      · exact Or.inr (Or.inr rfl)
  have hanswer : ∀ s h, certAnswered chainEnv s h = some (chainCert ((h ++ [0]).headD 0)) := by
    intro s h
    simp only [certAnswered, secEntProcess, chainEnv, secEntMsgNewTypeGetCert]
    rcases hcases ((h ++ [0]).headD 0) with hc | hc | hc <;>
    · rw [hc]
      rfl
  have hfull : FullCerts chainEnv := by
    intro s h c hc
    rw [hanswer, Option.some.injEq] at hc
    rw [← hc]
    refine decodeCert_isSome.mp ?_
    rcases hcases ((h ++ [0]).headD 0) with hc | hc | hc <;>
    · rw [hc]
      decide
  rcases certChain_spec (Or.inr rfl) hfull (h := List.replicate 8 1) (by decide) 1000
    (show 4 * certInfoSize < 2 ^ 31 by decide) (fun _ => 5)
    (sslNew SspBuffer.zero 0 Cert.empty ()) with ⟨b, m', s', hrun, hres⟩
  -- The ticket names the authority, and that the root.
  have hleads : ∀ s, Leads chainEnv s (List.replicate 8 1)
      [List.replicate 8 1, List.replicate 8 2, List.replicate 8 3] := by
    intro s
    refine Leads.next (hanswer _ _) (IssuedBy.ticket (by decide)) ?_
    refine Leads.next (hanswer _ _) (IssuedBy.authority (by decide)) ?_
    exact Leads.root (hanswer _ _) (by decide)
  have hb : b = true := hres.succeeds.mpr ⟨_, hleads _, by decide⟩
  subst hb
  exact ⟨m', s', hrun, hres, (hres.chain rfl _ (hleads _)).1⟩

end Iso21177
