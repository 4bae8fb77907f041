import Iso21177.Ssl.CertList
import Iso21177.Ssl.Offer

/-!
# This Side's Certificate

The Certificate message this side writes in TLS 1.3, whichever side it is. Its first
entry is the leaf (`leaf`): the certificate of the slot it is written from, or, without
such a slot, the current certificate of a side that uses 1609.2. Its entries are the
octets of the objects it was made from, in their order.

Between the Certificate and the message behind it nothing is read and no call is made,
so at that point the record ends with the Certificate, and the slots are still those
it was written from (`certWritten_run`).

## Main definitions

* `leaf`: The first object of this side's Certificate.
* `HandState.ownCert`, `HandState.ownVerify`: The states of this side's Certificate and
  CertificateVerify.
* `Msg.Plain`: A message that is neither.
* `CertWritten`: The Certificate is the last message of the record.

## Theorems

* `sslIsUsing1609ThisSide_of_keeps`, `leaf_of_keeps`: What is kept with the fields.
* `tlsConstructExtensions_length`, `sslAddCertToWpacket_some`, `addCerts_framed`: The list
  as it is written.
* `certificatesOf_putSub`, `ssl3OutputCertChain_some`, `constructCertificate_some`: The
  message around it.
* `chainToSend_leaf`: The leaf comes first.
* `plain_constructPlain`, `plain_tlsConstructEncryptedExtensions`,
  `plain_tlsConstructCertificateRequest`, `plain_tlsConstructClientHello`: The messages that
  are neither.
* `after_some`, `constructMessage_cases`, `tlsConstructCertVerify_some`: What a message was
  made from.
* `sent_of_write`: What a write adds to the record.
* `constructMessage_ownCert`, `processMessage_ownCert`: What happens in the state of the
  Certificate.
* `certWritten_written`, `certWritten_step`, `certWritten_run`: What the record ends with.
-/

namespace Iso21177

open Packet

variable {ω : Type}

/-- The first object of the Certificate this side writes. -/
def leaf (s : SSL ω) : Option X509 :=
  match (sendingSlot s).bind CertPkey.x509 with
  | some x => some x
  | none => if sslIsUsing1609ThisSide s then (s.cert.pkeys s.cert.key).x509 else none

/-- The state in which this side's Certificate is written. -/
def HandState.ownCert (server : Bool) : HandState := if server then .swCert else .cwCert

theorem sslIsUsing1609ThisSide_of_keeps {fs : List Field} {s t : SSL ω} (h : Keeps fs s t)
    (hserver : Field.server ∉ fs) (hdecided : Field.decided ∉ fs) :
    sslIsUsing1609ThisSide t = sslIsUsing1609ThisSide s := by
  have hdec := h.decided hdecided
  simp only [SSL.decided, Prod.mk.injEq] at hdec
  simp only [sslIsUsing1609ThisSide, sslIsUsing1609Server, sslIsUsing1609Client,
    h.server hserver, hdec]

theorem leaf_of_keeps {fs : List Field} {s t : SSL ω} (h : Keeps fs s t)
    (hserver : Field.server ∉ fs) (hdecided : Field.decided ∉ fs) (hcert : Field.cert ∉ fs)
    (hreq : Field.certReq ∉ fs) (hchoice : Field.choice ∉ fs) : leaf t = leaf s := by
  have hch := h.choice hchoice
  simp only [SSL.choice, Prod.mk.injEq] at hch
  simp only [leaf, sendingSlot, sslIsUsing1609ThisSide_of_keeps h hserver hdecided,
    h.server hserver, h.cert hcert, h.certReq hreq, hch.1]

section Writing

variable {env : Env ω}

/-- A block of extensions fits into its length of two octets. -/
theorem tlsConstructExtensions_length {ctx : ExtCtx} {chainidx : Nat} {s t : SSL ω}
    {exts : Bytes} (h : tlsConstructExtensions env ctx chainidx s = (some exts, t)) :
    exts.length < 256 ^ 2 := by
  unfold tlsConstructExtensions at h
  split at h
  · exact absurd (Prod.mk.inj h).1 (by simp only [reduceCtorEq, not_false_eq_true])
  · split at h
    · exact absurd (Prod.mk.inj h).1 (by simp only [reduceCtorEq, not_false_eq_true])
    · split at h
      · rename_i hlen
        rw [← Option.some.inj (Prod.mk.inj h).1]
        exact hlen
      · exact absurd (Prod.mk.inj h).1 (by simp only [reduceCtorEq, not_false_eq_true])

/-- An entry of TLS 1.3: the octets of the object, and a block of extensions. -/
theorem sslAddCertToWpacket_some {x : X509} {i : Nat} {s t : SSL ω} {e : Bytes}
    (h13 : s.tls13 = true) (h : sslAddCertToWpacket env x i s = (some e, t)) :
    ∃ c enc exts encExts, entryContent env (sslIsUsing1609ThisSide s) x = .ok c ∧
      putSub 3 c = some enc ∧ putSub 2 exts = some encExts ∧ e = enc ++ encExts := by
  unfold sslAddCertToWpacket at h
  split at h
  · exact absurd (Prod.mk.inj h).1 (by simp only [reduceCtorEq, not_false_eq_true])
  · rename_i c hc
    split at h
    · exact absurd (Prod.mk.inj h).1 (by simp only [reduceCtorEq, not_false_eq_true])
    · rename_i enc henc
      rw [if_pos h13] at h
      split at h
      · exact absurd (Prod.mk.inj h).1 (by simp only [reduceCtorEq, not_false_eq_true])
      · rename_i exts s' hexts
        have hlen := tlsConstructExtensions_length hexts
        refine ⟨c, enc, exts, beBytes 2 exts.length ++ exts, hc, henc, ?_, ?_⟩
        · rw [putSub, if_pos hlen]
        · rw [← Option.some.inj (Prod.mk.inj h).1, List.append_assoc]

/-- The list splits into one entry for each object, with its octets. -/
theorem addCerts_framed {xs : List X509} {i : Nat} {s t : SSL ω} {list : Bytes}
    (h13 : s.tls13 = true) (h : addCerts env i xs s = (some list, t)) :
    ∃ l, Framed list l ∧ List.Forall₂
      (fun x c => entryContent env (sslIsUsing1609ThisSide s) x = .ok c) xs (l.map Prod.fst) := by
  induction xs generalizing i s list t with
  | nil =>
      simp only [addCerts, Prod.mk.injEq, Option.some.injEq] at h
      rw [← h.1]
      exact ⟨[], Framed.nil, List.Forall₂.nil⟩
  | cons x xs ih =>
      simp only [addCerts] at h
      split at h
      · exact absurd (Prod.mk.inj h).1 (by simp only [reduceCtorEq, not_false_eq_true])
      · rename_i e s' he
        rcases sslAddCertToWpacket_some h13 he with ⟨c, enc, exts, encExts, hc, henc, hx, rfl⟩
        -- The entry leaves the version and the kind of certificate.
        have hk := (touches_sslAddCertToWpacket env he).toKeeps
        have h13' : s'.tls13 = true := by rw [hk.tls13 (by decide), h13]
        have hkind := sslIsUsing1609ThisSide_of_keeps hk (by decide) (by decide)
        split at h
        · exact absurd (Prod.mk.inj h).1 (by simp only [reduceCtorEq, not_false_eq_true])
        · rename_i es s'' hes
          rcases ih h13' hes with ⟨l, hframed, hall⟩
          rw [hkind] at hall
          refine ⟨(c, exts) :: l, ?_, List.Forall₂.cons hc hall⟩
          rw [← Option.some.inj (Prod.mk.inj h).1, List.append_assoc]
          exact Framed.cons (getLengthPrefixed_putSub _ henc) (getLengthPrefixed_putSub _ hx)
            hframed

/-- The certificates of a message are the entries of the list inside. -/
theorem certificatesOf_putSub {ctx context list enc : Bytes} {l : List (Bytes × Bytes)}
    (hctx : putSub 1 ctx = some context) (henc : putSub 3 list = some enc) (h : Framed list l) :
    certificatesOf (context ++ enc) = l.map Prod.fst := by
  have hone : getLengthPrefixed 1 (context ++ enc) = some (ctx, enc) :=
    getLengthPrefixed_putSub _ hctx
  have hthree : getLengthPrefixed 3 enc = some (list, []) := by
    have happ := getLengthPrefixed_putSub [] henc
    rwa [List.append_nil] at happ
  simp only [certificatesOf, certificateList, hone, hthree]
  exact certificateEntries_of_framed h (Nat.le_refl _)

/-- What a written list was made from. -/
theorem ssl3OutputCertChain_some {ctx context : Bytes} {cpk : Option CertPkey} {s t : SSL ω}
    {m : Msg} {src : Source} (h13 : s.tls13 = true) (hctx : putSub 1 ctx = some context)
    (h : ssl3OutputCertChain env context cpk s = some (some (m, src), t)) :
    ∃ xs body, chainToSend env cpk s = some (.ok xs) ∧ m = .certificate body ∧
      src = .chain xs ∧ List.Forall₂
        (fun x c => entryContent env (sslIsUsing1609ThisSide s) x = .ok c) xs
        (certificatesOf body) := by
  unfold ssl3OutputCertChain at h
  split at h
  · exact absurd h (by simp only [reduceCtorEq, not_false_eq_true])
  · exact absurd h (unbuilt_ne _ _ _)
  · rename_i xs hchain
    split at h
    · exact absurd h (unbuilt_ne _ _ _)
    · rename_i list s' hadd
      split at h
      · exact absurd h (unbuilt_ne _ _ _)
      · rename_i enc henc
        rcases addCerts_framed h13 hadd with ⟨l, hframed, hall⟩
        have hmsg := Option.some.inj (Prod.mk.inj (Option.some.inj h)).1
        refine ⟨xs, context ++ enc, hchain, (Prod.mk.inj hmsg).1.symm, (Prod.mk.inj hmsg).2.symm,
          ?_⟩
        rw [certificatesOf_putSub hctx henc hframed]
        exact hall

/-- What the Certificate of either side was made from. -/
theorem constructCertificate_some {s t : SSL ω} {m : Msg} {src : Source}
    (h13 : s.tls13 = true) (h : constructCertificate env s = some (some (m, src), t)) :
    ∃ xs body, chainToSend env (sendingSlot s) s = some (.ok xs) ∧ m = .certificate body ∧
      src = .chain xs ∧ List.Forall₂
        (fun x c => entryContent env (sslIsUsing1609ThisSide s) x = .ok c) xs
        (certificatesOf body) := by
  unfold constructCertificate at h
  cases hs : s.server with
  | true =>
      simp only [hs, if_true, tlsConstructServerCertificate, h13] at h
      split at h
      · exact absurd h (unbuilt_ne _ _ _)
      · rename_i i hi
        have hslot : sendingSlot s = some (s.cert.pkeys i) := by
          simp only [sendingSlot, hs, if_true, hi, Option.map_some]
        rw [hslot]
        exact ssl3OutputCertChain_some h13 (show putSub 1 [] = some [0] by rfl) h
  | false =>
      simp only [hs, Bool.false_eq_true, if_false, tlsConstructClientCertificate, h13,
        if_true] at h
      have hslot : sendingSlot s =
          if s.tmp.certReq = 2 then none else some (s.cert.pkeys s.cert.key) := by
        simp only [sendingSlot, hs, Bool.false_eq_true, if_false]
      rw [← hslot] at h
      split at h
      · exact absurd h (unbuilt_ne _ _ _)
      · rename_i context hctx
        split at h
        · exact absurd h (by simp only [reduceCtorEq, not_false_eq_true])
        · exact absurd h (unbuilt_ne _ _ _)
        · rename_i built s' hout
          -- The message stays what it is when the keys change behind it.
          have hbuilt : built = (m, src) := by
            split at h
            · split at h
              · exact absurd h (by simp only [reduceCtorEq, not_false_eq_true])
              · exact absurd h (unbuilt_ne _ _ _)
              · exact Option.some.inj (Prod.mk.inj (Option.some.inj h)).1
            · exact Option.some.inj (Prod.mk.inj (Option.some.inj h)).1
          rw [hbuilt] at hout
          exact ssl3OutputCertChain_some h13 hctx hout

/-- The leaf comes first, and a side that uses 1609.2 always has one. -/
theorem chainToSend_leaf {s : SSL ω} {xs : List X509}
    (h : chainToSend env (sendingSlot s) s = some (.ok xs)) :
    xs.head? = leaf s ∧ (sslIsUsing1609ThisSide s = true → xs ≠ []) := by
  unfold chainToSend at h
  unfold leaf
  split at h
  · -- Without a certificate in the slot a 1609.2 side sends the current one.
    rename_i hslot
    rw [hslot]
    by_cases h1609 : sslIsUsing1609ThisSide s = true
    · rw [if_pos h1609] at h
      split at h
      · exact absurd h (by simp only [reduceCtorEq, not_false_eq_true])
      · rename_i x hx
        rw [← Except.ok.inj (Option.some.inj h)]
        simp only [h1609, if_true, hx, List.head?_cons, ne_eq, List.cons_ne_nil, not_false_eq_true,
          implies_true, and_self]
    · rw [if_neg h1609] at h
      rw [← Except.ok.inj (Option.some.inj h)]
      exact ⟨by simp only [h1609, Bool.false_eq_true, if_false, List.head?_nil],
        fun hu => absurd hu h1609⟩
  · rename_i x hslot
    rw [hslot]
    simp only at h
    split at h
    · exact absurd (Option.some.inj h) (by simp only [reduceCtorEq, not_false_eq_true])
    · rw [← Except.ok.inj (Option.some.inj h)]
      -- Whatever follows the leaf, it comes first.
      cases s.cert.extraCerts with
      | some extra => exact ⟨rfl, fun _ => List.cons_ne_nil _ _⟩
      | none =>
          by_cases hauto : env.autoChain s.other = true
          · simp only [hauto, if_true]
            exact ⟨rfl, fun _ => List.cons_ne_nil _ _⟩
          · simp only [hauto, Bool.false_eq_true, if_false]
            exact ⟨rfl, fun _ => List.cons_ne_nil _ _⟩

end Writing

/-- The state in which this side's CertificateVerify is written. -/
def HandState.ownVerify (server : Bool) : HandState := if server then .swCertVrfy else .cwCertVrfy

section Sending

variable {env : Env ω}

theorem after_some {b b' : Msg × Source} {c : Call (SSL ω)} {s t : SSL ω}
    (h : Built.after b c s = some (some b', t)) : b' = b := by
  unfold Built.after at h
  split at h
  · exact absurd h (by simp only [reduceCtorEq, not_false_eq_true])
  · exact absurd h (unbuilt_ne _ _ _)
  · exact (Option.some.inj (Prod.mk.inj (Option.some.inj h)).1).symm

/-- A message that neither shows a certificate nor signs. -/
def Msg.Plain (m : Msg) : Prop := ∀ body, m ≠ .certificate body ∧ m ≠ .certificateVerify body

theorem plain_constructPlain {s t : SSL ω} {m : Msg} {src : Source}
    (h : constructPlain env s = some (some (m, src), t)) : m.Plain := by
  unfold constructPlain at h
  split at h
  · exact absurd h (unbuilt_ne _ _ _)
  · rw [(Prod.mk.inj (after_some h)).1]
    exact fun _ => ⟨Msg.noConfusion, Msg.noConfusion⟩

theorem plain_tlsConstructEncryptedExtensions {s t : SSL ω} {m : Msg} {src : Source}
    (h : tlsConstructEncryptedExtensions env s = some (some (m, src), t)) : m.Plain := by
  unfold tlsConstructEncryptedExtensions at h
  split at h
  · exact absurd h (unbuilt_ne _ _ _)
  · rw [← (Prod.mk.inj (Option.some.inj (Prod.mk.inj (Option.some.inj h)).1)).1]
    exact fun _ => ⟨Msg.noConfusion, Msg.noConfusion⟩

theorem plain_tlsConstructCertificateRequest {s t : SSL ω} {m : Msg} {src : Source}
    (h : tlsConstructCertificateRequest env s = some (some (m, src), t)) : m.Plain := by
  simp only [tlsConstructCertificateRequest] at h
  split at h
  · split at h
    · exact absurd h (by simp only [reduceCtorEq, not_false_eq_true])
    · exact absurd h (unbuilt_ne _ _ _)
    · split at h
      · exact absurd h (unbuilt_ne _ _ _)
      · exact absurd h (unbuilt_ne _ _ _)
      · rw [← (Prod.mk.inj (Option.some.inj (Prod.mk.inj (Option.some.inj h)).1)).1]
        exact fun _ => ⟨Msg.noConfusion, Msg.noConfusion⟩
  · -- Before TLS 1.3 the request has no extensions and is written like any other message.
    rw [(Prod.mk.inj (after_some h)).1]
    exact fun _ => ⟨Msg.noConfusion, Msg.noConfusion⟩

theorem plain_tlsConstructClientHello {s t : SSL ω} {m : Msg} {src : Source}
    (h : tlsConstructClientHello env s = some (some (m, src), t)) : m.Plain := by
  unfold tlsConstructClientHello at h
  split at h
  · exact absurd h (by simp only [reduceCtorEq, not_false_eq_true])
  · exact absurd h (unbuilt_ne _ _ _)
  · split at h
    · exact absurd h (unbuilt_ne _ _ _)
    · rw [← (Prod.mk.inj (Option.some.inj (Prod.mk.inj (Option.some.inj h)).1)).1]
      exact fun _ => ⟨Msg.noConfusion, Msg.noConfusion⟩

/-- What is written: this side's Certificate, its CertificateVerify, or something else. -/
theorem constructMessage_cases {s t : SSL ω} {m : Msg} {src : Source}
    (h : constructMessage env s = some (some (m, src), t)) :
    m.Plain ∨
    (s.statem.handState = .ownCert s.server ∧
      constructCertificate env s = some (some (m, src), t)) ∨
    (s.statem.handState = .ownVerify s.server ∧
      tlsConstructCertVerify env s = some (some (m, src), t)) := by
  unfold constructMessage at h
  cases hs : s.server with
  | true =>
      simp only [hs, if_true, serverConstructMessage] at h
      split at h
      · rcases tlsConstructServerHello_some env h with ⟨exts, u, rfl, -⟩
        exact Or.inl (fun _ => ⟨Msg.noConfusion, Msg.noConfusion⟩)
      · exact Or.inl (plain_tlsConstructEncryptedExtensions h)
      · exact Or.inl (plain_tlsConstructCertificateRequest h)
      · rename_i hst
        refine Or.inr (Or.inl ⟨hst, ?_⟩)
        simpa only [constructCertificate, hs, if_true] using h
      · rename_i hst
        exact Or.inr (Or.inr ⟨hst, h⟩)
      · exact Or.inl (plain_constructPlain h)
  | false =>
      simp only [hs, Bool.false_eq_true, if_false, clientConstructMessage] at h
      split at h
      · exact Or.inl (plain_tlsConstructClientHello h)
      · rename_i hst
        refine Or.inr (Or.inl ⟨hst, ?_⟩)
        simpa only [constructCertificate, hs, Bool.false_eq_true, if_false] using h
      · rename_i hst
        exact Or.inr (Or.inr ⟨hst, h⟩)
      · exact Or.inl (plain_constructPlain h)

/-- What a CertificateVerify was made from: by the security entity for the certificate of
    the chosen slot, or with the key of that slot. -/
theorem tlsConstructCertVerify_some {s t : SSL ω} {m : Msg} {src : Source}
    (h : tlsConstructCertVerify env s = some (some (m, src), t)) :
    ∃ i body, s.tmp.cert = some i ∧ m = .certificateVerify body ∧
      ((sslIsUsing1609ThisSide s = true ∧ src = .signer none ∧
        ∃ x tbs, (s.cert.pkeys i).x509 = some x ∧ getCertVerifyTbsData env s = (some tbs, s) ∧
          tlsConstructIeee1609CertCertVerify env x.ieee1609 tbs s = (some body, t)) ∨
      (sslIsUsing1609ThisSide s = false ∧
        ∃ key, (s.cert.pkeys i).privatekey = some key ∧ src = .signer (some key))) := by
  unfold tlsConstructCertVerify at h
  split at h
  · rename_i lu i hlu hi
    split at h
    · exact absurd h (unbuilt_ne _ _ _)
    · rename_i tbs s' htbs
      -- Gathering what is signed changes nothing, unless it fails.
      have hsame : s' = s := by
        rcases getCertVerifyTbsData_eq env htbs with ⟨-, heq⟩ | ⟨hnone, -⟩
        · exact heq
        · exact absurd hnone (by simp only [reduceCtorEq, not_false_eq_true])
      subst hsame
      -- Only the X.509 branch looks at the key of the slot.
      by_cases h1609 : sslIsUsing1609ThisSide s' = true
      · rw [if_pos h1609] at h
        split at h
        · exact absurd h (by simp only [reduceCtorEq, not_false_eq_true])
        · rename_i x hx
          split at h
          · exact absurd h (unbuilt_ne _ _ _)
          · rename_i body s'' hbody
            have hmsg := Prod.mk.inj (Option.some.inj (Prod.mk.inj (Option.some.inj h)).1)
            rw [(Prod.mk.inj (Option.some.inj h)).2] at hbody
            exact ⟨i, body, hi, hmsg.1.symm,
              Or.inl ⟨h1609, hmsg.2.symm, x, tbs, hx, htbs, hbody⟩⟩
      · rw [if_neg h1609] at h
        rw [Bool.not_eq_true] at h1609
        split at h
        · exact absurd h (unbuilt_ne _ _ _)
        · rename_i key hkey
          split at h
          · exact absurd h (unbuilt_ne _ _ _)
          · split at h
            · exact absurd h (unbuilt_ne _ _ _)
            · split at h
              · exact absurd h (unbuilt_ne _ _ _)
              · rename_i body hbody
                split at h
                · exact absurd h (by simp only [reduceCtorEq, not_false_eq_true])
                · exact absurd h (unbuilt_ne _ _ _)
                · have hmsg := Prod.mk.inj (Option.some.inj (Prod.mk.inj (Option.some.inj h)).1)
                  exact ⟨i, body, hi, hmsg.1.symm, Or.inr ⟨h1609, key, hkey, hmsg.2.symm⟩⟩
  · exact absurd h (unbuilt_ne _ _ _)

/-- A message that a write added to the record was constructed in the state entered. -/
theorem sent_of_write {s t : SSL ω} {m : Msg} {src : Source} {tr : List Obs}
    (h : step env s .write = some t) (htr : t.trace = .sent m src :: tr)
    (hnew : s.trace <:+ tr) :
    ∃ st u, writeTransition env s = .next st ∧
      constructMessage env (entering s st) = some (some (m, src), u) ∧ tr = u.trace ∧
      s.statem.state = .writing := by
  -- A record that is the old one, or gained exchanges only, does not end with the message.
  have hold : ∀ l, t.trace = l ++ s.trace → (∀ o ∈ l, o.isExchange = true) → False := by
    intro l hl hex
    rw [htr] at hl
    cases l with
    | nil =>
        have hlen := hnew.length_le
        rw [List.nil_append] at hl
        rw [← hl, List.length_cons] at hlen
        omega
    | cons o l =>
        have ho := hex o (List.mem_cons_self ..)
        rw [← (List.cons.inj hl).1] at ho
        exact Bool.false_ne_true ho
  have hsame : t.trace = s.trace → False := fun heq => hold [] heq (fun o ho => by
    exact absurd ho List.not_mem_nil)
  have hsettled : ∀ (b : Bool) (v : SSL ω),
      (if b then v else checkFatal v).trace = v.trace := by
    intro b v
    exact (keeps_ite_checkFatal (keeps_refl [] v)).trace (by decide)
  by_cases hw : s.statem.state = .writing
  · have hev : writeEvent env s = some t := by simpa only [step, hw] using h
    rcases writeEvent_cases env hev with rfl | ⟨-, rfl⟩ | ⟨st, hst, hws⟩
    · exact (hsame ((touches_sslFatal [] _ _ s).trace (by decide))).elim
    · exact (hsame rfl).elim
    · rcases writeStep_cases env hws with ⟨-, b, v, hf, rfl⟩ | ⟨-, b, v, hp, rfl⟩ |
        ⟨u, hc, rfl⟩ | ⟨-, m', src', u, b, v, hc, hp, rfl⟩
      · refine (hsame ?_).elim
        rw [hsettled, (keeps_finishHandshake env hf).trace (by decide)]
        rfl
      · refine (hsame ?_).elim
        rw [hsettled, (touches_runOther _ _ b v hp).trace (by decide)]
        rfl
      · rcases (touches_constructMessage env hc).grows with ⟨l, hl, hex⟩
        refine (hold l ?_ hex).elim
        rw [(keeps_checkFatal [] u).trace (by decide), hl]
        rfl
      · rw [hsettled, (touches_runOther _ _ b v hp).trace (by decide)] at htr
        rcases List.cons.inj htr with ⟨hsent, rfl⟩
        rcases Obs.sent.inj hsent with ⟨rfl, rfl⟩
        exact ⟨st, u, hst, hc, rfl, hw⟩
  · refine (hsame ?_).elim
    cases hs : s.statem.state with
    | writing => exact absurd hs hw
    | _ => simp only [step, hs, Option.some.injEq] at h; rw [h]

end Sending

/-- Once this side's Certificate was written in TLS 1.3, it is the last message of the
    record, it starts with the leaf, and its entries are the octets of its objects. -/
def CertWritten (env : Env ω) (s : SSL ω) : Prop :=
  s.tls13 = true → s.statem.state = .writing → s.statem.handState = .ownCert s.server →
    ∃ body xs tr, s.trace = .sent (.certificate body) (.chain xs) :: tr ∧ xs.head? = leaf s ∧
      (sslIsUsing1609ThisSide s = true → xs ≠ []) ∧
      List.Forall₂ (fun x c => entryContent env (sslIsUsing1609ThisSide s) x = .ok c) xs
        (certificatesOf body)

section Invariant

variable (env : Env ω)

/-- In its state the Certificate is what is written. -/
theorem constructMessage_ownCert {s : SSL ω} (hst : s.statem.handState = .ownCert s.server) :
    constructMessage env s = constructCertificate env s := by
  cases hs : s.server with
  | true =>
      rw [hs] at hst
      simp only [constructMessage, constructCertificate, hs, if_true, serverConstructMessage, hst,
        HandState.ownCert]
  | false =>
      rw [hs] at hst
      simp only [constructMessage, constructCertificate, hs, Bool.false_eq_true, if_false,
        clientConstructMessage, hst, HandState.ownCert]

/-- Nothing is read in that state. -/
theorem processMessage_ownCert {m : Msg} {s t : SSL ω}
    (hst : s.statem.handState = .ownCert s.server) :
    processMessage env m s ≠ some (true, t) := by
  intro h
  unfold processMessage at h
  cases hs : s.server with
  | true =>
      rw [hs] at hst
      simp only [hs, if_true, serverProcessMessage, hst, HandState.ownCert] at h
      exact sslFail_ne_true _ _ _ _ h
  | false =>
      rw [hs] at hst
      simp only [hs, Bool.false_eq_true, if_false, clientProcessMessage, hst,
        HandState.ownCert] at h
      exact sslFail_ne_true _ _ _ _ h

/-- A Certificate that was just written. -/
theorem certWritten_written {s u t : SSL ω} {st : HandState} {m : Msg} {src : Source}
    (hc : constructMessage env (entering s st) = some (some (m, src), u))
    (hp : runPhase env (.postWork st) [] (u.note (.sent m src)) = some (true, t)) :
    CertWritten env t := by
  intro h13 _ hst
  have hk : Keeps writeFields (entering s st) u := (touches_constructMessage env hc).toKeeps
  have hnote : Keeps writeFields u (u.note (.sent m src)) :=
    keeps_mono (by decide) (keeps_note u (.sent m src))
  have hpost := touches_runOther _ (u.note (.sent m src)) true t hp
  -- Writing, the entry in the record and the work after it leave the slots alone.
  have hall : Keeps writeFields (entering s st) t :=
    keeps_trans hk (keeps_trans hnote (keeps_mono (by decide) hpost.toKeeps))
  have hserver := hall.server (by decide)
  have hown : (entering s st).statem.handState = .ownCert (entering s st).server := by
    rw [(statem_written env hc hp).2, hserver] at hst
    exact hst
  rw [constructMessage_ownCert env hown] at hc
  have h13' : (entering s st).tls13 = true := by rw [← hall.tls13 (by decide), h13]
  rcases constructCertificate_some h13' hc with ⟨xs, body, hchain, rfl, rfl, hentries⟩
  rcases chainToSend_leaf hchain with ⟨hleaf, hne⟩
  have hkind := sslIsUsing1609ThisSide_of_keeps hall (by decide) (by decide)
  refine ⟨body, xs, u.trace, ?_, ?_, ?_, ?_⟩
  · rw [hpost.trace (by decide)]
    rfl
  · rw [leaf_of_keeps hall (by decide) (by decide) (by decide) (by decide) (by decide)]
    exact hleaf
  · rw [hkind]
    exact hne
  · rw [hkind]
    exact hentries

/-- One step: the Certificate is written, or the state of it is not reached. -/
theorem certWritten_step {s t : SSL ω} {ev : Event} (hs : FinishedOk s ∧ CertWritten env s)
    (h : step env s ev = some t) : FinishedOk t ∧ CertWritten env t := by
  refine ⟨finishedOk_step env hs.1 h, ?_⟩
  -- No state but that of the Certificate is of interest.
  have hother : t.statem.handState ≠ .swCert → t.statem.handState ≠ .cwCert →
      CertWritten env t := by
    intro hsw hcw _ _ hst
    cases hsv : t.server with
    | true => exact absurd (by rw [hst, hsv]; rfl) hsw
    | false => exact absurd (by rw [hst, hsv]; rfl) hcw
  by_cases hw : t.statem.state = .writing
  · cases flows_of_step env h (Or.inr hw) with
    | same => exact hs.2
    | refused hclear =>
        simp only [sslClear] at hclear
        split at hclear
        · rw [← (Prod.mk.inj (Option.some.inj hclear)).2]
          exact hs.2
        · exact absurd hclear (by simp only [Option.some.injEq, Prod.mk.injEq, Bool.true_eq_false,
            false_and, not_false_eq_true])
    | @started server u v hclear hp =>
        have hv : v.statem.handState = .before := handState_started env hclear hp
        have hbefore : (v.turn .writing).statem.handState = .before := hv
        exact hother (by rw [hbefore]; exact HandState.noConfusion)
          (by rw [hbefore]; exact HandState.noConfusion)
    | reentered hfin =>
        have hok : (reenterEvent s).statem.handState = .ok := hs.1 hfin
        exact hother (by rw [hok]; exact HandState.noConfusion)
          (by rw [hok]; exact HandState.noConfusion)
    | @read m st u v hr htr hu hne hp =>
        intro _ _ hst
        have hv := touches_processMessage env m _ true v hp
        have hserver : v.server = (u.enter st).server := by
          refine hv.server ?_
          cases m.mt <;> decide
        rw [(keeps_turned _ v).2, (keeps_turned _ v).1.server (by decide), hv.handState,
          hserver] at hst
        exact absurd hp (processMessage_ownCert env hst)
    | turned => exact absurd hw MsgFlow.noConfusion
    | early hws htr hp =>
        have hearly : t.statem.handState = .earlyData := by
          rw [(touches_runOther _ _ true t hp).handState]
          rfl
        exact hother (by rw [hearly]; exact HandState.noConfusion)
          (by rw [hearly]; exact HandState.noConfusion)
    | written hws htr hc hp => exact certWritten_written env hc hp
  · exact fun _ hw' => absurd hw' hw

/-- The record after this side's Certificate, in any run. -/
theorem certWritten_run {s0 s : SSL ω} {es : List Event} (h0 : s0.statem.state = .uninited)
    (h : run (step env) s0 es = some s) : CertWritten env s := by
  have hne : s0.statem.state ≠ .finished := by
    rw [h0]
    exact MsgFlow.noConfusion
  have hw : CertWritten env s0 := by
    intro _ hw
    rw [h0] at hw
    exact MsgFlow.noConfusion hw
  exact (run_invariant (step env) (fun s => FinishedOk s ∧ CertWritten env s)
    (fun _ _ _ hs hst => certWritten_step env hs hst) es s0 s ⟨finishedOk_of_ne hne, hw⟩ h).2

end Invariant

end Iso21177
