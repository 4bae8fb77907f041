import Iso21177.Ssl.Extensions

/-!
# Facts About the Extension Table

What a collected block holds, and what the rows of the table can do in each
message. The lookup of an index in the collected extensions is the first item of
the block with that row's number (`collectBlock_lookup`), since a repeated one is
refused.

In the messages after the hellos no row is allowed that decides a certificate
type, answers to post-handshake authentication or asks for another key share.
Their extensions change the remaining fields only (`touches_collecting_quiet`).

## Main definitions

* `Role.row`: The row of a certificate-type extension.
* `carries`: A block has an item of a given number.
* `quietCtx`: The messages after the hellos.

## Theorems

* `extRows_eq`: The two certificate-type rows come first.
* `verifyExtension_some`: An index comes from its row.
* `collectItems_lookup`, `collectBlock_lookup`: What a lookup finds.
* `collectBlock_isSome`: An extension is found exactly if it was sent.
* `lookup_quiet`: What later messages cannot carry.
* `touches_tlsParseAllExtensions_quiet`, `touches_collecting_quiet`: Parsing a
  later message.
* `touches_extConstructor`, `touches_constructRows`,
  `touches_tlsConstructExtensions`: Writing a block.
-/

namespace Iso21177

open Packet

variable {ω : Type}

/-- The row of a role's extension. -/
def Role.row (r : Role) : ExtDef × Nat := (⟨r.extType, certTypeCtx⟩, r.extIdx)

/-- The table starts with the two certificate-type rows, and the others have higher
    indices and other numbers. -/
theorem extRows_eq : ∃ rest, extRows = Role.srv.row :: Role.clnt.row :: rest ∧
    ∀ r ∈ rest, 2 ≤ r.2 ∧ ∀ role : Role, r.1.type ≠ role.extType := by
  refine ⟨extRows.drop 2, rfl, fun r hr => ?_⟩
  have hrow : 2 ≤ r.2 ∧ r.1.type ≠ Role.srv.extType ∧ r.1.type ≠ Role.clnt.extType := by
    revert r
    decide
  exact ⟨hrow.1, fun role => by cases role; exacts [hrow.2.1, hrow.2.2]⟩

/-- A row of the table is the one at its index. -/
theorem extDefs_of_mem {r : ExtDef × Nat} (h : r ∈ extRows) : extDefs[r.2]? = some r.1 := by
  have hz := (List.mk_mem_zipIdx_iff_getElem? (i := r.2) (x := r.1)).mp h
  exact hz

theorem findExt_some {type : Nat} {r : ExtDef × Nat} (h : findExt type = some r) :
    r.1.type = type ∧ r ∈ extRows :=
  ⟨by simpa only [beq_iff_eq] using List.find?_some h, List.mem_of_find?_eq_some h⟩

/-- An index that was allowed comes from the row of its number. -/
theorem verifyExtension_some {ctx : ExtCtx} {type i : Nat}
    (h : verifyExtension ctx type = some (some i)) :
    ∃ d, extDefs[i]? = some d ∧ d.type = type ∧ validateContext d.context ctx = true := by
  unfold verifyExtension at h
  split at h
  · exact absurd h (by simp only [Option.some.injEq, reduceCtorEq, not_false_eq_true])
  · rename_i d j hf
    split at h
    · rename_i hv
      simp only [Option.some.injEq] at h
      subst h
      exact ⟨d, extDefs_of_mem (findExt_some hf).2, (findExt_some hf).1, hv⟩
    · exact absurd h (by simp only [reduceCtorEq, not_false_eq_true])

/-- What one accepted item adds. -/
theorem collectOne_lookup {extflags : List Nat} {ctx : ExtCtx} {raw raw' : RawExts} {t : Tlv}
    (h : collectOne extflags ctx raw t = .ok raw') (i : Nat) :
    raw'.lookup i = (raw.lookup i).or
      (if verifyExtension ctx t.type = some (some i) then some t.body else none) := by
  unfold collectOne at h
  split at h
  · exact absurd h (by simp only [reduceCtorEq, not_false_eq_true])
  · rename_i hv
    simp only [Except.ok.injEq] at h
    rw [← h, hv, if_neg (by simp only [Option.some.injEq, reduceCtorEq, not_false_eq_true]),
      Option.or_none]
  · rename_i j hv
    split at h
    · exact absurd h (by simp only [reduceCtorEq, not_false_eq_true])
    · rename_i hnew
      split at h
      · exact absurd h (by simp only [reduceCtorEq, not_false_eq_true])
      · split at h
        · exact absurd h (by simp only [reduceCtorEq, not_false_eq_true])
        · simp only [Except.ok.injEq] at h
          rw [← h, hv, List.lookup_cons]
          by_cases hi : i = j
          · -- The item's own index was free until now.
            subst hi
            have hnone : raw.lookup i = none := by
              simpa only [Option.isSome_iff_ne_none, ne_eq, Decidable.not_not] using hnew
            simp only [beq_self_eq_true, hnone, if_true, Option.none_or]
          · have hb : (i == j) = false := beq_eq_false_iff_ne.mpr hi
            rw [hb, if_neg (by simpa only [Option.some.injEq] using Ne.symm hi), Option.or_none]

/-- A lookup finds what was there before, or else the first item of its row. -/
theorem collectItems_lookup {extflags : List Nat} {ctx : ExtCtx} {ts : List Tlv}
    {raw raw' : RawExts} (h : collectItems extflags ctx raw ts = .ok raw') (i : Nat) :
    raw'.lookup i = (raw.lookup i).or
      ((ts.find? (fun t => verifyExtension ctx t.type == some (some i))).map Tlv.body) := by
  induction ts generalizing raw with
  | nil =>
      simp only [collectItems, Except.ok.injEq] at h
      rw [← h, List.find?_nil, Option.map_none, Option.or_none]
  | cons t ts ih =>
      simp only [collectItems] at h
      split at h
      · exact absurd h (by simp only [reduceCtorEq, not_false_eq_true])
      · rename_i raw1 h1
        rw [ih h, collectOne_lookup h1 i, List.find?_cons, Option.or_assoc]
        by_cases hv : verifyExtension ctx t.type = some (some i)
        · rw [hv, if_pos rfl, beq_self_eq_true, Option.map_some, Option.some_or]
        · rw [if_neg hv, beq_eq_false_iff_ne.mpr hv, Option.none_or]

theorem collectBlock_lookup {extflags : List Nat} {ctx : ExtCtx} {block : Bytes}
    {raw : RawExts} (h : collectBlock extflags ctx block = .ok raw) (i : Nat) :
    raw.lookup i = (((tlvs block.length block).1.find?
      (fun t => verifyExtension ctx t.type == some (some i))).map Tlv.body) := by
  unfold collectBlock at h
  split at h
  · exact absurd h (by simp only [reduceCtorEq, not_false_eq_true])
  · rename_i raw' hc
    split at h
    · simp only [Except.ok.injEq] at h
      rw [← h, collectItems_lookup hc i, List.lookup_nil, Option.none_or]
    · exact absurd h (by simp only [reduceCtorEq, not_false_eq_true])

/-- The block has an item with this number. -/
def carries (type : Nat) (block : Bytes) : Bool :=
  (tlvs block.length block).1.any (fun t => t.type == type)

/-- In a message that allows it, an extension is found exactly if it was sent. -/
theorem collectBlock_isSome {extflags : List Nat} {ctx : ExtCtx} {block : Bytes} {raw : RawExts}
    (h : collectBlock extflags ctx block = .ok raw) {type i : Nat}
    (hv : ∀ type', verifyExtension ctx type' = some (some i) ↔ type' = type) :
    (raw.lookup i).isSome = carries type block := by
  rw [collectBlock_lookup h i, Option.isSome_map, List.isSome_find?]
  simp only [carries, beq_eq_decide, hv]

/-- The row of a certificate-type extension is found by its number only. -/
theorem verifyExtension_certType {ctx : ExtCtx} (r : Role)
    (hctx : validateContext certTypeCtx ctx = true) (type : Nat) :
    verifyExtension ctx type = some (some r.extIdx) ↔ type = r.extType := by
  constructor
  · intro h
    rcases verifyExtension_some h with ⟨d, hd, htype, -⟩
    rw [← htype]
    cases r <;> · simp only [Role.extIdx, tlsextIdxSrvType, tlsextIdxClntType, extDefs,
      List.getElem?_cons_zero, List.getElem?_cons_succ, Option.some.injEq] at hd
                  rw [← hd]
  · intro h
    have hf : findExt r.extType = some r.row := by cases r <;> rfl
    rw [h, verifyExtension, hf]
    exact if_pos hctx

/-- The messages whose extensions are about none of the fields told apart. -/
def quietCtx : List ExtCtx :=
  [sslExtTls13EncryptedExtensions, sslExtTls13HelloRetryRequest, sslExtTls13Certificate,
    sslExtTls13CertificateRequest]

/-- The rows written out here: the certificate types and post-handshake
    authentication. -/
def loudIdx : List Nat := [tlsextIdxSrvType, tlsextIdxClntType, tlsextIdxPostHandshakeAuth]

theorem validateContext_quiet :
    ∀ ctx ∈ quietCtx, ∀ i ∈ loudIdx, ∀ d, extDefs[i]? = some d →
      validateContext d.context ctx = false ∧ d.context.meets ctx = false := by
  intro ctx hctx i hi d hd
  simp only [loudIdx, List.mem_cons, List.not_mem_nil, or_false] at hi
  rcases hi with rfl | rfl | rfl <;>
    · simp only [tlsextIdxSrvType, tlsextIdxClntType, tlsextIdxPostHandshakeAuth, extDefs,
        List.getElem?_cons_zero, List.getElem?_cons_succ, Option.some.injEq] at hd
      rw [← hd]
      revert ctx
      decide

/-- Later messages carry none of the rows written out here. -/
theorem lookup_quiet {extflags : List Nat} {ctx : ExtCtx} {block : Bytes} {raw : RawExts}
    (hctx : ctx ∈ quietCtx) (h : collectBlock extflags ctx block = .ok raw) {i : Nat}
    (hi : i ∈ loudIdx) : raw.lookup i = none := by
  rw [collectBlock_lookup h i, Option.map_eq_none_iff, List.find?_eq_none]
  intro t _ hv
  rcases verifyExtension_some (beq_iff_eq.mp hv) with ⟨d, hd, -, hval⟩
  rw [(validateContext_quiet ctx hctx i hi d hd).1] at hval
  exact Bool.false_ne_true hval

section Frames

variable (env : Env ω)

theorem touches_initExtension_quiet {ctx : ExtCtx} (hctx : ctx ∈ quietCtx) (r : ExtDef × Nat)
    (hr : r ∈ extRows) : Call.Rel (Touches [.other]) (initExtension env ctx r) := by
  intro s b t h
  unfold initExtension at h
  split at h
  · rename_i hmeet
    split at h
    · rename_i hi
      -- The row of post-handshake authentication is not allowed here.
      have hno := (validateContext_quiet ctx hctx r.2 (by rw [hi]; decide) r.1
        (extDefs_of_mem hr)).2
      rw [hno] at hmeet
      exact absurd hmeet (by simp only [Bool.false_and, Bool.false_eq_true, not_false_eq_true])
    · exact touches_runOther _ s b t h
  · exact touches_same h

theorem touches_tlsParseExtension_quiet {ctx : ExtCtx} {raw : RawExts}
    (hraw : ∀ i ∈ loudIdx, raw.lookup i = none) (chainidx : Nat) (r : ExtDef × Nat) :
    Call.Rel (Touches [.other]) (tlsParseExtension env ctx raw chainidx r) := by
  intro s b t h
  unfold tlsParseExtension at h
  split at h
  · exact touches_same h
  · rename_i body hb
    have hn : r.2 ∉ loudIdx := fun hi => by
      rw [hraw r.2 hi] at hb
      exact absurd hb (by simp only [reduceCtorEq, not_false_eq_true])
    simp only [loudIdx, List.mem_cons, List.not_mem_nil, or_false, not_or] at hn
    split at h
    · unfold extParser at h
      rw [if_neg hn.1, if_neg hn.2.1, if_neg hn.2.2] at h
      exact touches_runOther _ s b t h
    · exact touches_same h

theorem touches_finalExtension_quiet {ctx : ExtCtx} (hctx : ctx ∈ quietCtx) (raw : RawExts)
    (r : ExtDef × Nat) (hr : r ∈ extRows) :
    Call.Rel (Touches [.other]) (finalExtension env ctx raw r) := by
  intro s b t h
  unfold finalExtension at h
  split at h
  · rename_i hmeet
    split at h
    · rename_i hi
      -- A key share is only in a HelloRetryRequest, where its finaliser does nothing.
      have hhrr : ctx.meets sslExtTls13HelloRetryRequest = true := by
        have hd := extDefs_of_mem hr
        rw [hi] at hd
        simp only [tlsextIdxKeyShare, extDefs, List.getElem?_cons_zero,
          List.getElem?_cons_succ, Option.some.injEq] at hd
        rw [← hd] at hmeet
        clear h
        revert ctx
        decide
      simp only [finalKeyShare, hhrr, Bool.or_true, if_true] at h
      exact touches_same h
    · exact touches_runOther _ s b t h
  · exact touches_same h

theorem touches_tlsParseAllExtensions_quiet {ctx : ExtCtx} (hctx : ctx ∈ quietCtx)
    {raw : RawExts} (hraw : ∀ i ∈ loudIdx, raw.lookup i = none) (chainidx : Nat) (fin : Bool) :
    Call.Rel (Touches [.other]) (tlsParseAllExtensions env ctx raw chainidx fin) := by
  refine touches_seq ?_ ?_
  · exact touches_each extRows (fun r _ =>
      touches_tlsParseExtension_quiet env hraw chainidx r)
  · split
    · exact touches_each extRows (fun r hr => touches_finalExtension_quiet env hctx raw r hr)
    · exact Call.rel_ret (fun s => touches_refl _ s true)

/-- The extensions of a later message change the remaining fields only. -/
theorem touches_collecting_quiet {ctx : ExtCtx} (hctx : ctx ∈ quietCtx) (block : Bytes)
    (init : Bool) (chainidx : Nat) (fin : Bool) :
    Call.Rel (Touches [.other]) (collecting env block ctx init
      (fun raw => tlsParseAllExtensions env ctx raw chainidx fin)) := by
  intro s b t h
  have hinit : Call.Rel (Touches [.other])
      (if init then Call.each (initExtension env ctx) extRows else Call.ret id) := by
    split
    · exact touches_each extRows (fun r hr => touches_initExtension_quiet env hctx r hr)
    · exact Call.rel_ret (fun s => touches_refl _ s true)
  -- Collecting fails, initialising fails, or the block goes on to be parsed.
  unfold collecting tlsCollectExtensions at h
  cases hc : collectBlock s.extflags ctx block with
  | error e =>
      simp only [hc, Option.some.injEq, Prod.mk.injEq] at h
      rw [← h.1, ← h.2]
      exact touches_sslFatal _ _ _ s
  | ok raw =>
      simp only [hc] at h
      cases hi : (if init then Call.each (initExtension env ctx) extRows else Call.ret id) s with
      | none => simp only [hi, reduceCtorEq] at h
      | some r =>
          rcases r with ⟨ok, u⟩
          have hu := hinit s ok u hi
          cases ok with
          | false =>
              simp only [hi, Option.some.injEq, Prod.mk.injEq] at h
              rw [← h.1, ← h.2]
              exact hu
          | true =>
              simp only [hi] at h
              exact touches_trans hu (touches_tlsParseAllExtensions_quiet env hctx
                (fun i hm => lookup_quiet hctx hc hm) chainidx fin u b t h)

theorem touches_extConstructor (ctx : ExtCtx) (chainidx i : Nat) {s t : SSL ω} {r : ExtReturn}
    (h : extConstructor env ctx chainidx i s = (r, t)) :
    Touches [.pha, .other] s (r ≠ .fail) t := by
  -- The four constructors of the certificate types either stop or leave the object.
  have hstoc : ∀ role, tlsConstructStocCertTypeExt role s = (r, t) →
      Touches [.pha, .other] s (r ≠ .fail) t := by
    intro role h
    unfold tlsConstructStocCertTypeExt at h
    split at h
    · rw [(Prod.mk.inj h).2.symm]
      exact touches_refl _ s _
    · split at h
      · rw [← (Prod.mk.inj h).1, ← (Prod.mk.inj h).2]
        exact touches_sslFatal _ _ _ s
      · rw [(Prod.mk.inj h).2.symm]
        exact touches_refl _ s _
  have hctos : ∀ role, tlsConstructCtosCertTypeExt role s = (r, t) →
      Touches [.pha, .other] s (r ≠ .fail) t := by
    intro role h
    unfold tlsConstructCtosCertTypeExt at h
    split at h <;>
      · rw [(Prod.mk.inj h).2.symm]
        exact touches_refl _ s _
  unfold extConstructor at h
  split at h
  · split at h
    · exact hstoc .srv h
    · exact hctos .srv h
  · split at h
    · split at h
      · exact hstoc .clnt h
      · exact hctos .clnt h
    · split at h
      · split at h
        · rw [(Prod.mk.inj h).2.symm]
          exact touches_refl _ s _
        · rw [(Prod.mk.inj h).2.symm]
          exact touches_update (by constructor <;> intros <;> first | contradiction | rfl) rfl rfl
      · split at h
        · rw [← (Prod.mk.inj h).1, ← (Prod.mk.inj h).2]
          exact touches_sslFatal _ _ _ s
        · rw [(Prod.mk.inj h).2.symm]
          exact touches_update (by constructor <;> intros <;> first | contradiction | rfl) rfl rfl
        · rw [(Prod.mk.inj h).2.symm]
          exact touches_update (by constructor <;> intros <;> first | contradiction | rfl) rfl rfl

theorem touches_markSent (ctx : ExtCtx) (i : Nat) (s : SSL ω) :
    Touches [.extflags] s true (markSent ctx i s) := by
  unfold markSent
  split
  · exact touches_update (by constructor <;> intros <;> first | contradiction | rfl) rfl rfl
  · exact touches_refl _ s true

/-- Writing the rows touches the marks, post-handshake authentication and the
    remaining fields. -/
theorem touches_constructRows (ctx : ExtCtx) (chainidx : Nat) (rows : List (ExtDef × Nat))
    {s t : SSL ω} {r : Option (List (Nat × Bytes))}
    (h : constructRows env ctx chainidx rows s = (r, t)) :
    Touches [.pha, .extflags, .other] s r.isSome t := by
  induction rows generalizing s r t with
  | nil =>
      simp only [constructRows, Prod.mk.injEq] at h
      rw [← h.1, ← h.2]
      exact touches_refl _ s true
  | cons row rows ih =>
      simp only [constructRows] at h
      split at h
      · split at h
        · rename_i s' hc
          rw [← (Prod.mk.inj h).1, ← (Prod.mk.inj h).2]
          exact touches_mono (by decide) (touches_extConstructor env ctx chainidx row.2 hc)
        · rename_i s' hc
          exact touches_trans
            (touches_mono (by decide) (touches_extConstructor env ctx chainidx row.2 hc)) (ih h)
        · rename_i body s' hc
          -- A row that was sent is marked, so that the answer may carry it.
          have hs' : Touches [.pha, .extflags, .other] s true (markSent ctx row.2 s') :=
            touches_trans
              (touches_mono (by decide) (touches_extConstructor env ctx chainidx row.2 hc))
              (touches_mono (by decide) (touches_markSent ctx row.2 s'))
          split at h
          · rename_i s'' hr
            rw [← (Prod.mk.inj h).1, ← (Prod.mk.inj h).2]
            exact touches_trans hs' (ih hr)
          · rename_i l s'' hr
            have hl := ih hr
            rw [← (Prod.mk.inj h).1, ← (Prod.mk.inj h).2]
            exact touches_trans hs' hl
      · exact ih h

theorem touches_tlsConstructExtensions (ctx : ExtCtx) (chainidx : Nat) {s t : SSL ω}
    {r : Option Bytes} (h : tlsConstructExtensions env ctx chainidx s = (r, t)) :
    Touches [.pha, .extflags, .other] s r.isSome t := by
  unfold tlsConstructExtensions at h
  split at h
  · rename_i s' hr
    rw [← (Prod.mk.inj h).1, ← (Prod.mk.inj h).2]
    exact touches_constructRows env ctx chainidx extRows hr
  · rename_i items s' hr
    have hs' := touches_constructRows env ctx chainidx extRows hr
    split at h
    · rw [← (Prod.mk.inj h).1, ← (Prod.mk.inj h).2]
      exact touches_trans hs' (touches_sslFatal _ _ _ s')
    · split at h
      · rw [← (Prod.mk.inj h).1, ← (Prod.mk.inj h).2]
        exact hs'
      · rw [← (Prod.mk.inj h).1, ← (Prod.mk.inj h).2]
        exact touches_trans hs' (touches_sslFatal _ _ _ s')

end Frames

end Iso21177
