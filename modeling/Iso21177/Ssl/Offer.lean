import Iso21177.Ssl.Decision

/-!
# What a Hello Offers

The certificate-type extensions of a hello that was written. An enabled client lists
the types of its masks in every ClientHello, and an enabled server that has decided
sends its choices. A side that is not enabled sends neither.

Reading the block back finds exactly these bodies (`tlsConstructExtensions_lookup`).
The rows behind the first two never write an item of the same number, and a block that
was written is split into the items it was made from.

## Main definitions

* `certTypeBody`: The body of a role's extension.
* `Constructs`: What a constructor of the two rows may do.
* `Offers`: A block carries the extensions of a side.

## Theorems

* `tlsConstructStocCertTypeExt_constructs`, `tlsConstructCtosCertTypeExt_constructs`,
  `extConstructor_certType`, `constructRows_certType`: Writing one of the two rows.
* `constructRows_mem`, `constructRows_lookup`: What the items come from.
* `extType_lt`: Numbers fit two octets.
* `tlsConstructExtensions_lookup`: What the block carries.
* `certTypeBody_of_keeps`, `offers_of_support`, `offers_of_keeps`: What leaves the bodies
  alone.
* `clientHello_offers`, `tlsConstructServerHello_some`, `serverHello_offers`: The two
  hellos.
-/

namespace Iso21177

open Packet

variable {ω : Type}

/-- The body of a role's extension: the list of a client, the choice of a server, and
    none if RFC 8902 is not enabled. -/
def certTypeBody (s : SSL ω) (r : Role) : Option Bytes :=
  if sslIsRfc8902Supported s then
    if s.server then (s.ieee1609.certType r).typeDecided.map (fun c => [c.code])
    else
      let list := typeList (s.ieee1609.certType r).support
      some (beBytes 1 list.length ++ list)
  else none

section

variable (env : Env ω)

/-- What a constructor of the two rows may do: fail, or leave the object and send the
    body if there is one. -/
def Constructs (r : Role) (s : SSL ω) (res : ExtReturn) (t : SSL ω) : Prop :=
  res = .fail ∨
    t = s ∧ (res = .notSent ∧ sslIsRfc8902Supported s = false ∨
      ∃ body, res = .sent body ∧ sslIsRfc8902Supported s = true ∧ certTypeBody s r = some body)

theorem tlsConstructStocCertTypeExt_constructs {r : Role} {s t : SSL ω} {res : ExtReturn}
    (hs : s.server = true) (h : tlsConstructStocCertTypeExt r s = (res, t)) :
    Constructs r s res t := by
  unfold tlsConstructStocCertTypeExt at h
  split at h
  · rename_i hsup
    rw [Bool.not_eq_true] at hsup
    exact Or.inr ⟨(Prod.mk.inj h).2.symm, Or.inl ⟨(Prod.mk.inj h).1.symm, hsup⟩⟩
  · rename_i hsup
    have hsup' : sslIsRfc8902Supported s = true := Decidable.not_not.mp hsup
    split at h
    · exact Or.inl (Prod.mk.inj h).1.symm
    · rename_i c hd
      refine Or.inr ⟨(Prod.mk.inj h).2.symm, Or.inr ⟨_, (Prod.mk.inj h).1.symm, hsup', ?_⟩⟩
      simp only [certTypeBody, hsup', hs, if_true, hd, Option.map_some]

theorem tlsConstructCtosCertTypeExt_constructs {r : Role} {s t : SSL ω} {res : ExtReturn}
    (hs : s.server = false) (h : tlsConstructCtosCertTypeExt r s = (res, t)) :
    Constructs r s res t := by
  unfold tlsConstructCtosCertTypeExt at h
  split at h
  · rename_i hsup
    rw [Bool.not_eq_true] at hsup
    exact Or.inr ⟨(Prod.mk.inj h).2.symm, Or.inl ⟨(Prod.mk.inj h).1.symm, hsup⟩⟩
  · rename_i hsup
    have hsup' : sslIsRfc8902Supported s = true := Decidable.not_not.mp hsup
    refine Or.inr ⟨(Prod.mk.inj h).2.symm, Or.inr ⟨_, (Prod.mk.inj h).1.symm, hsup', ?_⟩⟩
    simp only [certTypeBody, hsup', hs, if_true, Bool.false_eq_true, if_false]

theorem extConstructor_certType {ctx : ExtCtx} {chainidx : Nat} {r : Role} {s t : SSL ω}
    {res : ExtReturn} (h : extConstructor env ctx chainidx r.extIdx s = (res, t)) :
    Constructs r s res t := by
  cases hs : s.server with
  | true =>
      refine tlsConstructStocCertTypeExt_constructs hs ?_
      cases r <;> simpa only [extConstructor, Role.extIdx, tlsextIdxClntType, tlsextIdxSrvType,
        Nat.one_ne_zero, if_false, if_true, hs, tlsConstructStocSrvTypeExt,
        tlsConstructStocClntTypeExt] using h
  | false =>
      refine tlsConstructCtosCertTypeExt_constructs hs ?_
      cases r <;> simpa only [extConstructor, Role.extIdx, tlsextIdxClntType, tlsextIdxSrvType,
        Nat.one_ne_zero, if_false, if_true, hs, Bool.false_eq_true, tlsConstructCtosSrvTypeExt,
        tlsConstructCtosClntTypeExt] using h

/-- Writing one of the two rows where it may appear. -/
theorem constructRows_certType {ctx : ExtCtx} {chainidx : Nat} {r : Role}
    {rows : List (ExtDef × Nat)} {s t : SSL ω} {items : List (Nat × Bytes)}
    (hadd : shouldAddExtension env s certTypeCtx ctx = true)
    (h : constructRows env ctx chainidx (r.row :: rows) s = (some items, t)) :
    (sslIsRfc8902Supported s = false ∧
      constructRows env ctx chainidx rows s = (some items, t)) ∨
    ∃ body items', sslIsRfc8902Supported s = true ∧ certTypeBody s r = some body ∧
      items = (r.extType, body) :: items' ∧
      constructRows env ctx chainidx rows (markSent ctx r.extIdx s) = (some items', t) := by
  -- The row fails, sends nothing, or sends its body.
  simp only [constructRows, Role.row, hadd, if_true] at h
  split at h
  · exact absurd (Prod.mk.inj h).1 (by simp only [reduceCtorEq, not_false_eq_true])
  · rename_i s' hc
    rcases extConstructor_certType env hc with hf | ⟨rfl, ⟨-, hsup⟩ | ⟨body, hb, -⟩⟩
    · exact absurd hf (by simp only [reduceCtorEq, not_false_eq_true])
    · exact Or.inl ⟨hsup, h⟩
    · exact absurd hb (by simp only [reduceCtorEq, not_false_eq_true])
  · rename_i body s' hc
    rcases extConstructor_certType env hc with hf | ⟨rfl, ⟨hn, -⟩ | ⟨body', hb, hsup, hbody⟩⟩
    · exact absurd hf (by simp only [reduceCtorEq, not_false_eq_true])
    · exact absurd hn (by simp only [reduceCtorEq, not_false_eq_true])
    · rw [ExtReturn.sent.injEq] at hb
      subst hb
      split at h
      · exact absurd (Prod.mk.inj h).1 (by simp only [reduceCtorEq, not_false_eq_true])
      · rename_i l s'' hr
        refine Or.inr ⟨body, l, hsup, hbody, (Option.some.inj (Prod.mk.inj h).1).symm, ?_⟩
        rw [hr, (Prod.mk.inj h).2]

/-- Every item comes from a row that may appear in the message. -/
theorem constructRows_mem {ctx : ExtCtx} {chainidx : Nat} {rows : List (ExtDef × Nat)}
    {s t : SSL ω} {items : List (Nat × Bytes)}
    (h : constructRows env ctx chainidx rows s = (some items, t)) :
    ∀ x ∈ items, ∃ row ∈ rows, x.1 = row.1.type ∧ row.1.context.meets ctx = true := by
  induction rows generalizing s t items with
  | nil =>
      simp only [constructRows, Prod.mk.injEq, Option.some.injEq] at h
      rw [← h.1]
      exact fun x hx => absurd hx List.not_mem_nil
  | cons row rows ih =>
      -- An item of the later rows comes from one of them.
      have htail : ∀ {u : SSL ω} {v l}, constructRows env ctx chainidx rows u = (some l, v) →
          ∀ x ∈ l, ∃ r ∈ row :: rows, x.1 = r.1.type ∧ r.1.context.meets ctx = true := by
        intro u v l hl x hx
        rcases ih hl x hx with ⟨r, hr, hx⟩
        exact ⟨r, List.mem_cons_of_mem _ hr, hx⟩
      simp only [constructRows] at h
      split at h
      · rename_i hadd
        split at h
        · exact absurd (Prod.mk.inj h).1 (by simp only [reduceCtorEq, not_false_eq_true])
        · exact htail h
        · split at h
          · exact absurd (Prod.mk.inj h).1 (by simp only [reduceCtorEq, not_false_eq_true])
          · rename_i l s'' hr
            rw [← Option.some.inj (Prod.mk.inj h).1]
            intro x hx
            rcases List.mem_cons.mp hx with rfl | hx
            · refine ⟨row, List.mem_cons_self .., rfl, ?_⟩
              rw [shouldAddExtension, Bool.and_eq_true] at hadd
              exact hadd.1
            · exact htail hr x hx
      · exact htail h

/-- What a lookup finds among the items: the body of the role's extension, which is
    there if RFC 8902 is enabled. -/
theorem constructRows_lookup {ctx : ExtCtx} {chainidx : Nat} {s t : SSL ω}
    {items : List (Nat × Bytes)} (hadd : ∀ u : SSL ω, u.tls13 = s.tls13 → u.server = s.server →
      u.other = s.other → shouldAddExtension env u certTypeCtx ctx = true)
    (h : constructRows env ctx chainidx extRows s = (some items, t)) (r : Role) :
    items.lookup r.extType = certTypeBody s r ∧
      (certTypeBody s r).isSome = sslIsRfc8902Supported s := by
  rcases extRows_eq with ⟨rest, hrows, hrest⟩
  rw [hrows] at h
  -- The rows behind the first two have other numbers.
  have hlater : ∀ {u v : SSL ω} {l}, constructRows env ctx chainidx rest u = (some l, v) →
      ∀ role : Role, l.lookup role.extType = none := by
    intro u v l hl role
    rw [List.lookup_eq_none_iff]
    intro x hx
    rcases constructRows_mem env hl x hx with ⟨row, hrow, hxr, -⟩
    rw [hxr]
    exact bne_iff_ne.mpr (fun he => (hrest row hrow).2 role he.symm)
  have hmark : ∀ i, shouldAddExtension env (markSent ctx i s) certTypeCtx ctx = true := by
    intro i
    have hm := touches_markSent ctx i s
    exact hadd _ (hm.tls13 (by decide)) (hm.server (by decide)) (hm.other (by decide))
  have hbody : ∀ i role, certTypeBody (markSent ctx i s) role = certTypeBody s role := by
    intro i role
    unfold markSent
    split <;> rfl
  rcases constructRows_certType (r := .srv) env (hadd s rfl rfl rfl) h with
    ⟨hsup, h1⟩ | ⟨b0, l0, hsup, hb0, hl0, h1⟩
  · -- Not enabled: neither row is written.
    have hnone : ∀ role, certTypeBody s role = none := fun role => by
      simp only [certTypeBody, hsup, Bool.false_eq_true, if_false]
    rcases constructRows_certType (r := .clnt) env (hadd s rfl rfl rfl) h1 with
      ⟨-, h2⟩ | ⟨_, _, hsup', -⟩
    · rw [hnone, hlater h2 r, hsup]
      exact ⟨rfl, rfl⟩
    · rw [hsup] at hsup'
      exact absurd hsup' Bool.false_ne_true
  · have hsame : sslIsRfc8902Supported (markSent ctx Role.srv.extIdx s) = true := by
      rw [← hsup]
      exact supported_of_keeps (touches_markSent ctx _ s).toKeeps (by decide)
    rcases constructRows_certType (r := .clnt) env (hmark Role.srv.extIdx) h1 with
      ⟨hsup', -⟩ | ⟨b1, l1, -, hb1, hl1, h2⟩
    · rw [hsame] at hsup'
      exact absurd hsup'.symm Bool.false_ne_true
    · rw [hbody] at hb1
      rw [hl0, hl1, hsup]
      cases r with
      | srv =>
          rw [hb0, List.lookup_cons, beq_self_eq_true]
          exact ⟨rfl, rfl⟩
      | clnt =>
          rw [hb1, List.lookup_cons, List.lookup_cons, beq_self_eq_true]
          exact ⟨rfl, rfl⟩

/-- A row of the table that may appear somewhere has a number of two octets. -/
theorem extType_lt {ctx : ExtCtx} {row : ExtDef × Nat} (hrow : row ∈ extRows)
    (hctx : row.1.context.meets ctx = true) : row.1.type < 256 ^ 2 := by
  have hnz : row.1.context ≠ 0 := by
    intro hz
    rw [hz] at hctx
    simp only [ExtCtx.meets, Nat.zero_and, ne_eq, not_true_eq_false, decide_false,
      Bool.false_eq_true] at hctx
  clear hctx
  revert row
  decide

/-- Collecting a block that was written finds the bodies of the two extensions. -/
theorem tlsConstructExtensions_lookup {ctx ctx' : ExtCtx} {chainidx : Nat} {s t : SSL ω}
    {block : Bytes} {flags : List Nat} {raw : RawExts}
    (hadd : ∀ u : SSL ω, u.tls13 = s.tls13 → u.server = s.server → u.other = s.other →
      shouldAddExtension env u certTypeCtx ctx = true)
    (hctx : validateContext certTypeCtx ctx' = true)
    (h : tlsConstructExtensions env ctx chainidx s = (some block, t))
    (hraw : collectBlock flags ctx' block = .ok raw) (r : Role) :
    raw.lookup r.extIdx = certTypeBody s r ∧
      (certTypeBody s r).isSome = sslIsRfc8902Supported s := by
  unfold tlsConstructExtensions at h
  split at h
  · exact absurd (Prod.mk.inj h).1 (by simp only [reduceCtorEq, not_false_eq_true])
  · rename_i items s' hr
    split at h
    · exact absurd (Prod.mk.inj h).1 (by simp only [reduceCtorEq, not_false_eq_true])
    · rename_i enc hput
      split at h
      · have henc : enc = block := Option.some.inj (Prod.mk.inj h).1
        subst henc
        -- The numbers fit their two octets, so the block parses back into the items.
        have htypes : ∀ x ∈ items, x.1 < 256 ^ 2 := by
          intro x hx
          rcases constructRows_mem env hr x hx with ⟨row, hrow, hxr, hmeets⟩
          rw [hxr]
          exact extType_lt hrow hmeets
        have hitems := (tlvs_putTlvs items enc enc.length htypes hput (Nat.le_refl _)).2
        -- Where the extension is allowed, its row is looked up by its number.
        have hpred : (fun i : Tlv => verifyExtension ctx' i.type == some (some r.extIdx)) =
            (fun i => i.type == r.extType) := by
          funext i
          rw [beq_eq_decide, beq_eq_decide]
          exact decide_eq_decide.mpr (verifyExtension_certType r hctx i.type)
        rw [collectBlock_lookup hraw, hpred, find_tlv_map, hitems]
        exact constructRows_lookup env hadd hr r
      · exact absurd (Prod.mk.inj h).1 (by simp only [reduceCtorEq, not_false_eq_true])

theorem certTypeBody_of_keeps {fs : List Field} {s t : SSL ω} (h : Keeps fs s t)
    (hfs : .support ∉ fs ∧ .decided ∉ fs ∧ .server ∉ fs) (r : Role) :
    certTypeBody t r = certTypeBody s r := by
  simp only [certTypeBody, supported_of_keeps h hfs.1, h.server hfs.2.2,
    certType_of_keeps h hfs.1 hfs.2.1]

/-- A block carries the extensions of a side as it stands. -/
def Offers (ctx : ExtCtx) (exts : Bytes) (s : SSL ω) : Prop :=
  ∀ flags raw, collectBlock flags ctx exts = .ok raw → ∀ r : Role,
    raw.lookup r.extIdx = certTypeBody s r ∧ (certTypeBody s r).isSome = sslIsRfc8902Supported s

/-- What a client lists follows from its masks. -/
theorem offers_of_support {ctx : ExtCtx} {exts : Bytes} {s t : SSL ω} (hs : s.server = false)
    (ht : t.server = false) (h : t.support = s.support) (ho : Offers ctx exts s) :
    Offers ctx exts t := by
  have hsup : sslIsRfc8902Supported t = sslIsRfc8902Supported s := congrArg Prod.fst h
  have hmask : ∀ r : Role, (t.ieee1609.certType r).support = (s.ieee1609.certType r).support := by
    intro r
    simp only [SSL.support, Prod.mk.injEq] at h
    cases r with
    | srv => exact h.2.1
    | clnt => exact h.2.2
  intro flags raw hraw r
  have hbody : certTypeBody t r = certTypeBody s r := by
    simp only [certTypeBody, hsup, hs, ht, hmask, Bool.false_eq_true, if_false]
  rw [hbody, hsup]
  exact ho flags raw hraw r

theorem offers_of_keeps {fs : List Field} {ctx : ExtCtx} {exts : Bytes} {s t : SSL ω}
    (h : Keeps fs s t) (hfs : .support ∉ fs ∧ .decided ∉ fs ∧ .server ∉ fs)
    (hs : Offers ctx exts s) : Offers ctx exts t := by
  intro flags raw hraw r
  rw [certTypeBody_of_keeps h hfs, supported_of_keeps h hfs.1]
  exact hs flags raw hraw r

/-- What a ClientHello carries. -/
theorem clientHello_offers {s t : SSL ω} {m : Msg} {src : Source} (hs : s.server = false)
    (h : tlsConstructClientHello env s = some (some (m, src), t)) :
    ∃ head exts, m = .clientHello head exts ∧ Offers sslExtClientHello exts s := by
  have hsess : Touches [.session] s true (clientSession env s) := by
    unfold clientSession
    split
    · exact touches_session s _ true
    · exact touches_refl _ s true
  unfold tlsConstructClientHello at h
  split at h
  · exact absurd h (by simp only [reduceCtorEq, not_false_eq_true])
  · exact absurd h (unbuilt_ne _ _ _)
  · rename_i s' hp
    have hs' : Touches [.session, .other] s true s' := touches_trans
      (touches_mono (by decide) hsess) (touches_runPhase env _ _ (by decide) _ true s' hp)
    split at h
    · exact absurd h (unbuilt_ne _ _ _)
    · rename_i exts u hc
      have hm := (Prod.mk.inj (Option.some.inj (Prod.mk.inj (Option.some.inj h)).1)).1
      refine ⟨_, exts, hm.symm, fun flags raw hraw r => ?_⟩
      -- A client's ClientHello has the two extensions whatever the version.
      have hadd : ∀ v : SSL ω, v.tls13 = s'.tls13 → v.server = s'.server → v.other = s'.other →
          shouldAddExtension env v certTypeCtx sslExtClientHello = true := by
        intro v _ hv _
        have hvs : v.server = false := hv.trans ((hs'.server (by decide)).trans hs)
        have h12 : certTypeCtx.meets sslExtTls12AndBelowOnly = false := by decide
        have hch : ExtCtx.meets sslExtClientHello sslExtClientHello = true := by decide
        have hres : certTypeCtx.meets sslExtIgnoreOnResumption = false := by decide
        have hin : certTypeCtx.meets sslExtClientHello = true := by decide
        simp only [shouldAddExtension, extensionIsRelevant, hvs, h12, hch, hres, hin,
          Bool.and_false, Bool.false_and, Bool.not_true, Bool.or_self, Bool.not_false,
          Bool.and_self]
      have hl := tlsConstructExtensions_lookup env hadd (by decide) hc hraw r
      rw [certTypeBody_of_keeps hs'.toKeeps (by decide),
        supported_of_keeps hs'.toKeeps (by decide)] at hl
      exact hl

/-- What a ServerHello is made of. -/
theorem tlsConstructServerHello_some {s t : SSL ω} {m : Msg} {src : Source}
    (h : tlsConstructServerHello env s = some (some (m, src), t)) :
    ∃ exts u, m = .serverHello (decide (s.helloRetryRequest = .pending))
        (env.messageBody .swSrvrHello s.trace s.other) exts ∧
      tlsConstructExtensions env (serverHelloCtx s) 0 s = (some exts, u) := by
  simp only [tlsConstructServerHello] at h
  split at h
  · exact absurd h (unbuilt_ne _ _ _)
  · rename_i exts u hc
    refine ⟨exts, u, ?_, hc⟩
    unfold Built.after at h
    split at h
    · exact absurd h (by simp only [reduceCtorEq, not_false_eq_true])
    · exact absurd h (unbuilt_ne _ _ _)
    · exact (Prod.mk.inj (Option.some.inj (Prod.mk.inj (Option.some.inj h)).1)).1.symm

/-- What a ServerHello of TLS 1.3 carries, unless it asks for another ClientHello. -/
theorem serverHello_offers {s t : SSL ω} {m : Msg} {src : Source} (h13 : s.tls13 = true)
    (h : tlsConstructServerHello env s = some (some (m, src), t)) :
    ∃ hrr hd exts, m = .serverHello hrr hd exts ∧ (hrr = false →
      Offers (sslExtTls12ServerHello ||| sslExtTls13ServerHello) exts s ∧
        s.helloRetryRequest ≠ .pending) := by
  rcases tlsConstructServerHello_some env h with ⟨exts, u, hm, hc⟩
  refine ⟨_, _, exts, hm, fun hhrr => ?_⟩
  have hno : s.helloRetryRequest ≠ .pending := of_decide_eq_false hhrr
  have hctx : serverHelloCtx s = sslExtTls13ServerHello := by
    rw [serverHelloCtx, if_neg hno, if_pos h13]
  rw [hctx] at hc
  refine ⟨fun flags raw hraw r => ?_, hno⟩
  refine tlsConstructExtensions_lookup env (fun v hv _ _ => ?_) (by decide) hc hraw r
  rw [shouldAddExtension, extensionIsRelevant_certType env (hv.trans h13), Bool.and_true]
  decide

end

end Iso21177
