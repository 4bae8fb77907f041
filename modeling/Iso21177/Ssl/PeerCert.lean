import Iso21177.Ssl.Certificate

/-!
# The Peer's Certificate in Memory

What is known of the peer's certificate once its message was accepted. The first
entry becomes the object that is later taken for the peer, and as long as that
object is alive it holds the entry's octets (`Holds`). Reading more entries,
verifying the chain and moving it into the session keep this. It needs the entry
to have octets at all: the object of an empty one is dead from the start, and its
address may come to hold a later entry.

## Main definitions

* `certificatesOf`: The entries of a Certificate message.
* `Holds`: Whatever lives at an address carries given octets.
* `CertsRead`: A list of entries that was read to its end.
* `CertAccepted`: What an accepted Certificate leaves.

## Theorems

* `read_of_releaseAll`, `read_fillCertificate`, `read_readCertificate`,
  `read_readCertificates`: What leaves a live object alone.
* `readCertificate_ok`, `certsRead_of_readCertificates`: An accepted entry, and an accepted
  list.
* `readCertificates_initial`, `readCertificates_first`: The first object of the chain holds
  the first entry.
* `holds_sslVerifyCertChain`, `holds_releaseAll`: What keeps it.
* `saveCertVerifyHash_true`: The hash for the signature to come.
* `certificateList_of_server`, `certificateList_of_client`: The list of a message.
* `holds_setPeer`: The peer a client sets.
* `storeClientChain_true`, `holds_checkClientChain`: The peer a server stores.
* `tlsProcessServerCertificate_true`, `tlsProcessClientCertificate_cases`,
  `tlsProcessClientCertificate_true`, `tlsProcessClientCertificate_peer_iff`: What an
  accepted message leaves.
-/

namespace Iso21177

open Packet

variable {ω : Type}

/-- The certificates a Certificate message of TLS 1.3 carries. -/
def certificatesOf (body : Bytes) : List Bytes :=
  match certificateList body with
  | none => []
  | some list => certificateEntries list.length list

/-- Whatever lives at the address is a 1609.2 certificate with these octets. -/
def Holds (h : Heap X509) (a : Nat) (e : Bytes) : Prop :=
  ∀ x, h.read a = some x → ∃ c, x.ieee1609 = some c ∧ c.certData = e

theorem read_of_releaseAll {as : List Nat} {h h' : Heap X509} {a : Nat} {x : X509}
    (hr : releaseAll as h = some h') (hx : h'.read a = some x) : h.read a = some x := by
  induction as generalizing h with
  | nil =>
      simp only [releaseAll, Option.some.injEq] at hr
      rw [hr]
      exact hx
  | cons b as ih =>
      simp only [releaseAll] at hr
      split at hr
      · exact absurd hr (by simp only [reduceCtorEq, not_false_eq_true])
      · rename_i h1 hb
        exact Heap.read_of_release hb (ih hr)

theorem holds_releaseAll {as : List Nat} {h h' : Heap X509} {a : Nat} {e : Bytes}
    (hh : Holds h a e) (hr : releaseAll as h = some h') : Holds h' a e :=
  fun x hx => hh x (read_of_releaseAll hr hx)

/-- Filling another object leaves a live one alone. -/
theorem read_fillCertificate {env : Env ω} {using1609 : Bool} {a b : Nat} {entry : Bytes}
    {h h' : Heap X509} {n : Option Nat}
    (hf : fillCertificate env using1609 a entry h = some (n, h')) (hne : b ≠ a) :
    h'.read b = h.read b := by
  unfold fillCertificate at hf
  split at hf
  · split at hf
    · exact absurd hf (by simp only [reduceCtorEq, not_false_eq_true])
    · rename_i h1 hs
      rw [← (Prod.mk.inj (Option.some.inj hf)).2]
      unfold setIeee1609Cert at hs
      split at hs
      · exact Heap.read_release_ne hs hne
      · rw [← Option.some.inj hs]
        exact Heap.read_write_ne h a b _ hne
  · unfold d2iX509Into at hf
    split at hf
    · split at hf
      · exact absurd hf (by simp only [reduceCtorEq, not_false_eq_true])
      · rename_i h1 hs
        rw [← (Prod.mk.inj (Option.some.inj hf)).2]
        exact Heap.read_release_ne hs hne
    · rw [← (Prod.mk.inj (Option.some.inj hf)).2]
      exact Heap.read_write_ne h a b _ hne

/-- An accepted entry: what was read, the new object, and what follows. -/
theorem readCertificate_ok {env : Env ω} {using1609 : Bool} {badCert : Alert} {chainidx : Nat}
    {p rest : Bytes} {a : Nat} {s t : SSL ω}
    (h : readCertificate env using1609 badCert chainidx p s = some (.ok (a, rest, t))) :
    ∃ entry q n h', getLengthPrefixed 3 p = some (entry, q) ∧
      a = (env.allocator.alloc s.heap ⟨.empty, none⟩).1 ∧
      fillCertificate env using1609 a entry (env.allocator.alloc s.heap ⟨.empty, none⟩).2 =
        some (some n, h') ∧
      t.heap = h' ∧ entryExtensions env chainidx q { s with heap := h' } = some (some rest, t) := by
  -- Of its exits only the last returns an address.
  unfold readCertificate at h
  split at h
  · exact absurd h (by simp only [Option.some.injEq, reduceCtorEq, not_false_eq_true])
  · rename_i entry q hg
    simp only at h
    split at h
    · exact absurd h (by simp only [reduceCtorEq, not_false_eq_true])
    · exact absurd h (by simp only [Option.some.injEq, reduceCtorEq, not_false_eq_true])
    · rename_i n h' hf
      split at h
      · exact absurd h (by simp only [Option.some.injEq, reduceCtorEq, not_false_eq_true])
      · split at h
        · exact absurd h (by simp only [reduceCtorEq, not_false_eq_true])
        · exact absurd h (by simp only [Option.some.injEq, reduceCtorEq, not_false_eq_true])
        · rename_i rest' s' he
          simp only [Option.some.injEq, Except.ok.injEq, Prod.mk.injEq] at h
          rcases h with ⟨rfl, rfl, rfl⟩
          exact ⟨entry, q, n, h', hg, rfl, hf,
            (touches_entryExtensions env he).heap (by decide), he⟩

/-- Reading one more entry leaves live objects alone. -/
theorem read_readCertificate {env : Env ω} {using1609 : Bool} {badCert : Alert} {chainidx : Nat}
    {p rest : Bytes} {a b : Nat} {s t : SSL ω} {x : X509} (hb : s.heap.read b = some x)
    (h : readCertificate env using1609 badCert chainidx p s = some (.ok (a, rest, t))) :
    t.heap.read b = some x := by
  rcases readCertificate_ok h with ⟨entry, q, n, h', -, ha, hf, ht, -⟩
  -- The new object got an address of its own.
  have hne : b ≠ a := by
    rw [ha]
    exact env.allocator.ne_next_of_live hb
  rw [ht, read_fillCertificate hf hne]
  exact env.allocator.read_alloc_of_live _ hb

/-- A list that was read to its end: the chain and the connection before and after. -/
inductive CertsRead (env : Env ω) (using1609 : Bool) (badCert : Alert) :
    Bytes → List Nat → SSL ω → List Nat → SSL ω → Prop
  | done {chain : List Nat} {s : SSL ω} : CertsRead env using1609 badCert [] chain s chain s
  | entry {p rest : Bytes} {a : Nat} {chain chain' : List Nat} {s s' t : SSL ω}
    (hc : readCertificate env using1609 badCert chain.length p s = some (.ok (a, rest, s')))
    (h : CertsRead env using1609 badCert rest (chain ++ [a]) s' chain' t) :
    CertsRead env using1609 badCert p chain s chain' t

/-- A loop that succeeds reads entry after entry to the end of the list. -/
theorem certsRead_of_readCertificates {env : Env ω} {using1609 : Bool} {badCert : Alert}
    (fuel : Nat) {p : Bytes} {chain chain' : List Nat} {s t : SSL ω}
    (h : readCertificates env using1609 badCert fuel p chain s = some (.ok (chain', t))) :
    CertsRead env using1609 badCert p chain s chain' t := by
  induction fuel generalizing p chain s with
  | zero =>
      cases p with
      | nil =>
          simp only [readCertificates, Option.some.injEq, Except.ok.injEq, Prod.mk.injEq] at h
          rw [← h.1, ← h.2]
          exact .done
      -- The bound is used up, so the loop failed.
      | cons y p =>
          simp only [readCertificates, Option.some.injEq, reduceCtorEq] at h
  | succ fuel ih =>
      cases p with
      | nil =>
          simp only [readCertificates, Option.some.injEq, Except.ok.injEq, Prod.mk.injEq] at h
          rw [← h.1, ← h.2]
          exact .done
      | cons y p =>
          simp only [readCertificates] at h
          split at h
          · exact absurd h (by simp only [reduceCtorEq, not_false_eq_true])
          · exact absurd h (by simp only [Option.some.injEq, reduceCtorEq, not_false_eq_true])
          · rename_i a rest s' hc
            exact .entry hc (ih h)

theorem read_readCertificates {env : Env ω} {using1609 : Bool} {badCert : Alert} (fuel : Nat)
    {p : Bytes} {chain chain' : List Nat} {b : Nat} {s t : SSL ω} {x : X509}
    (hb : s.heap.read b = some x)
    (h : readCertificates env using1609 badCert fuel p chain s = some (.ok (chain', t))) :
    t.heap.read b = some x := by
  have hread := certsRead_of_readCertificates fuel h
  clear h
  induction hread with
  | done => exact hb
  | entry hc _ ih => exact ih (read_readCertificate hb hc)

/-- The chain that is read starts with the chain so far. -/
theorem readCertificates_initial {env : Env ω} {using1609 : Bool} {badCert : Alert} (fuel : Nat)
    {p : Bytes} {chain chain' : List Nat} {s t : SSL ω}
    (h : readCertificates env using1609 badCert fuel p chain s = some (.ok (chain', t))) :
    chain <+: chain' := by
  have hread := certsRead_of_readCertificates fuel h
  clear h
  induction hread with
  | done => exact List.prefix_rfl
  | entry _ _ ih => exact (List.prefix_append _ _).trans ih

/-- A list that is not empty gives a chain that is not; its head is the object of the
    first entry and holds it, if it is a 1609.2 entry with octets. -/
theorem readCertificates_first {env : Env ω} {using1609 : Bool} {badCert : Alert} {list : Bytes}
    {chain : List Nat} {s t : SSL ω} (hlist : list ≠ [])
    (h : readCertificates env using1609 badCert list.length list [] s = some (.ok (chain, t))) :
    ∃ a as e, chain = a :: as ∧ (certificateEntries list.length list).head? = some e ∧
      (using1609 = true → e ≠ [] → Holds t.heap a e) := by
  rcases List.exists_cons_of_ne_nil hlist with ⟨y, p, rfl⟩
  simp only [List.length_cons, readCertificates] at h
  split at h
  · exact absurd h (by simp only [reduceCtorEq, not_false_eq_true])
  · exact absurd h (by simp only [Option.some.injEq, reduceCtorEq, not_false_eq_true])
  · rename_i a rest s' hc
    rcases readCertificate_ok hc with ⟨entry, q, n, h', hg, ha, hf, hheap, -⟩
    rcases readCertificates_initial p.length h with ⟨as, rfl⟩
    refine ⟨a, as, entry, rfl, ?_, ?_⟩
    · simp only [List.length_cons, certificateEntries, hg]
      split <;> rfl
    · intro h1609 hne x hx
      -- The object is live with the entry in it, and stays so to the end of the list.
      have hlive : s'.heap.read a = some ⟨.placeholder, some ⟨entry, noHash⟩⟩ := by
        rw [hheap]
        simp only [fillCertificate, h1609, if_true, setIeee1609Cert, if_neg hne] at hf
        rw [← (Prod.mk.inj (Option.some.inj hf)).2, ha]
        exact Heap.read_write_self _ (env.allocator.read_alloc_self _ _)
      rw [read_readCertificates p.length hlive h, Option.some.injEq] at hx
      exact ⟨⟨entry, noHash⟩, by rw [← hx], rfl⟩

/-- Verifying a chain sets a hash at most. -/
theorem holds_sslVerifyCertChain {env : Env ω} {chain : List Nat} {a : Nat} {e : Bytes}
    {s t : SSL ω} {b : Bool} (hh : Holds s.heap a e)
    (h : sslVerifyCertChain env chain s = some (b, t)) : Holds t.heap a e := by
  unfold sslVerifyCertChain at h
  split at h
  · rw [← (Prod.mk.inj (Option.some.inj h)).2]
    exact hh
  · rename_i d as
    split at h
    · exact absurd h (by simp only [reduceCtorEq, not_false_eq_true])
    · rename_i x hx
      split at h
      · rename_i c hxc
        split at h
        · exact absurd h (by simp only [reduceCtorEq, not_false_eq_true])
        · rename_i hv
          rcases ieee1609CertVerify_note hv with ⟨reply, rfl⟩
          rw [← (Prod.mk.inj (Option.some.inj h)).2]
          exact hh
        · rename_i c' s' hv
          rcases ieee1609CertVerify_some hv with ⟨m, -, hc', rfl⟩
          rw [← (Prod.mk.inj (Option.some.inj h)).2]
          intro z hz
          change (s.heap.write d _).read a = some z at hz
          by_cases had : a = d
          · -- The verified object itself: its octets are what they were.
            subst had
            rw [Heap.read_write_self _ hx, Option.some.injEq] at hz
            rcases hh x hx with ⟨c0, hc0, hdata⟩
            rw [hxc, Option.some.injEq] at hc0
            refine ⟨c', by rw [← hz], ?_⟩
            rw [hc', hc0]
            exact hdata
          · rw [Heap.read_write_ne _ _ _ _ had] at hz
            exact hh z hz
      · split at h
        · exact absurd h (by simp only [reduceCtorEq, not_false_eq_true])
        · rw [← (Prod.mk.inj (Option.some.inj h)).2]
          exact hh

/-- What an accepted Certificate leaves: a peer that holds the first entry, if this is
    a 1609.2 entry with octets, and the hash of the transcript so far. -/
structure CertAccepted (env : Env ω) (using1609 : Bool) (body : Bytes) (t : SSL ω) : Prop where
  /-- The peer is the first entry of the message. -/
  peer : ∀ a, t.session.bind Session.peer = some a →
    ∃ e, (certificatesOf body).head? = some e ∧ (using1609 = true → e ≠ [] → Holds t.heap a e)
  /-- The hash for the signature to come is that of the transcript. -/
  hash : t.tls13 = true → env.handshakeHash t.trace t.other = some t.certVerifyHash

theorem saveCertVerifyHash_true {env : Env ω} {s t : SSL ω}
    (h : saveCertVerifyHash env s = some (true, t)) :
    (t.tls13 = true → env.handshakeHash t.trace t.other = some t.certVerifyHash) ∧
      t.session = s.session ∧ t.heap = s.heap ∧ t.tls13 = s.tls13 := by
  have hk := touches_saveCertVerifyHash env s true t h
  refine ⟨fun h13 => ?_, hk.session (by decide), hk.heap (by decide), hk.tls13 (by decide)⟩
  unfold saveCertVerifyHash at h
  rw [hk.tls13 (by decide)] at h13
  rw [if_pos h13] at h
  split at h
  · exact absurd h (sslFail_ne_true _ _ _ _)
  · rename_i hash hh
    rw [← (Prod.mk.inj (Option.some.inj h)).2]
    exact hh

/-- The list of a server's message is the list of the message. -/
theorem certificateList_of_server {body list : Bytes}
    (h : serverCertificateList true body = some list) :
    certificateList body = some list ∧ list ≠ [] := by
  simp only [serverCertificateList, if_true] at h
  cases hg : getNet 1 body with
  | none => simp only [hg, reduceCtorEq] at h
  | some r =>
      rcases r with ⟨n, p⟩
      cases n with
      | succ n => simp only [hg, reduceCtorEq] at h
      | zero =>
          simp only [hg] at h
          split at h
          · exact absurd h (by simp only [reduceCtorEq, not_false_eq_true])
          · rename_i k q hq
            split at h
            · rename_i hlen
              rw [Option.some.injEq] at h
              subst h
              refine ⟨?_, hlen.2⟩
              -- An empty context, and a list of the length it says.
              have hctx : getLengthPrefixed 1 body = some ([], p) := by
                rw [getLengthPrefixed, hg]
                exact getBytes_append [] p
              have hpre : getLengthPrefixed 3 p = some (q, []) := by
                rw [getLengthPrefixed, hq]
                have hall := getBytes_append q []
                rw [List.append_nil, hlen.1] at hall
                exact hall
              simp only [certificateList, hctx, hpre]
            · exact absurd h (by simp only [reduceCtorEq, not_false_eq_true])

/-- The list of a client's message is the list of the message. -/
theorem certificateList_of_client {phaContext body list : Bytes}
    (h : clientCertificateList true phaContext body = .ok list) :
    certificateList body = some list := by
  simp only [clientCertificateList, if_true] at h
  split at h
  · rename_i context p hg
    split at h
    · split at h
      · rename_i l hl
        rw [Except.ok.injEq] at h
        simp only [certificateList, hg, hl, h]
      · exact absurd h (by simp only [reduceCtorEq, not_false_eq_true])
    · exact absurd h (by simp only [reduceCtorEq, not_false_eq_true])
  · exact absurd h (by simp only [reduceCtorEq, not_false_eq_true])

/-- Setting the peer releases the previous one, which leaves the new one as it was. -/
theorem holds_setPeer {a : Nat} {e : Bytes} {s t : SSL ω} (hh : Holds s.heap a e)
    (h : setPeer a s = some (true, t)) :
    Holds t.heap a e ∧ t.session.bind Session.peer = some a := by
  unfold setPeer at h
  split at h
  · exact absurd h (by simp only [reduceCtorEq, not_false_eq_true])
  · split at h
    · exact absurd h (by simp only [reduceCtorEq, not_false_eq_true])
    · rename_i hrel
      split at h
      · exact absurd h (by simp only [reduceCtorEq, not_false_eq_true])
      · rename_i hup
        rw [Option.some.injEq, Prod.mk.injEq] at h
        rcases h with ⟨-, rfl⟩
        refine ⟨fun x hx => ?_, rfl⟩
        rw [Heap.read_upRef _ hup] at hx
        exact holds_releaseAll hh hrel x hx

/-- A client that accepts the server's Certificate has its first entry for the peer. -/
theorem tlsProcessServerCertificate_true {env : Env ω} {body : Bytes} {s t : SSL ω}
    (h13 : s.tls13 = true)
    (h : Call.seq (tlsProcessServerCertificate env body) (tlsPostProcessServerCertificate env) s =
      some (true, t)) : CertAccepted env (sslIsUsing1609Server s) body t := by
  rcases Call.seq_true.mp h with ⟨u, hp, hq⟩
  unfold tlsProcessServerCertificate at hp
  split at hp
  · exact absurd hp (by simp only [reduceCtorEq, not_false_eq_true])
  · rename_i sess hsess
    simp only [h13] at hp
    split at hp
    · exact absurd hp (sslFail_ne_true _ _ _ _)
    · rename_i list hlist
      rcases certificateList_of_server hlist with ⟨hbody, hne⟩
      split at hp
      · exact absurd hp (by simp only [reduceCtorEq, not_false_eq_true])
      · exact absurd hp (abandon_ne_true _ _ _)
      · rename_i chain s' hr
        rcases readCertificates_first hne hr with ⟨a, as, e, rfl, he, hold⟩
        rw [Option.some.injEq, Prod.mk.injEq] at hp
        rcases hp with ⟨-, rfl⟩
        simp only [tlsPostProcessServerCertificate, Option.getD_some] at hq
        split at hq
        · exact absurd hq (by simp only [reduceCtorEq, not_false_eq_true])
        · rename_i ok s1 hv
          split at hq
          · exact absurd hq (sslFail_ne_true _ _ _ _)
          · split at hq
            · exact absurd hq (by simp only [reduceCtorEq, not_false_eq_true])
            · rename_i x hx
              rcases Call.seq_true.mp hq with ⟨s2, hk, hq⟩
              rcases Call.seq_true.mp hq with ⟨s3, hset, hsave⟩
              rcases saveCertVerifyHash_true hsave with ⟨hhash, hsess3, hheap3, -⟩
              refine ⟨fun b hb => ?_, hhash⟩
              refine ⟨e, by simp only [certificatesOf, hbody, he], fun h1609 hene => ?_⟩
              -- The first object holds the first entry through the calls of the check.
              have h1 : Holds s1.heap a e := by
                refine holds_sslVerifyCertChain ?_ hv
                exact hold h1609 hene
              have h2 : Holds s2.heap a e := by
                rw [(touches_checkServerKey env x s1 true s2 hk).heap (by decide)]
                exact h1
              rcases holds_setPeer h2 hset with ⟨h3, hpeer⟩
              rw [hsess3, hpeer, Option.some.injEq] at hb
              rw [hheap3, ← hb]
              exact h3

/-- What the server does with a Certificate it accepts. -/
theorem tlsProcessClientCertificate_cases {env : Env ω} {body : Bytes} {s t : SSL ω}
    (h : tlsProcessClientCertificate env body s = some (true, t)) :
    ∃ list chain s1 s2 s3 s4, clientCertificateList s.tls13 s.phaContext body = .ok list ∧
      readCertificates env (sslIsUsing1609Client s) .decodeError list.length list [] s =
        some (.ok (chain, s1)) ∧
      checkClientChain env chain s1 = some (true, s2) ∧
      storeClientChain chain s2 = some (true, s3) ∧ Touches [.other] s3 true s4 ∧
      saveCertVerifyHash env s4 = some (true, t) := by
  unfold tlsProcessClientCertificate at h
  split at h
  · exact absurd h (sslFail_ne_true _ _ _ _)
  · rename_i list hlist
    -- The loop and the check of the chain fail through the same error exit.
    split at h
    · exact absurd h (by simp only [reduceCtorEq, not_false_eq_true])
    · exact absurd h (abandon_ne_true _ _ _)
    · rename_i chain s1 hr
      split at h
      · exact absurd h (by simp only [reduceCtorEq, not_false_eq_true])
      · exact absurd h (abandon_ne_true _ _ _)
      · rename_i s2 hc
        rcases Call.seq_true.mp h with ⟨s3, hst, h⟩
        rcases Call.seq_true.mp h with ⟨s4, hd, hsave⟩
        refine ⟨list, chain, s1, s2, s3, s4, hlist, hr, hc, hst, ?_, hsave⟩
        split at hd
        · exact touches_runOther _ s3 true s4 hd
        · exact touches_same hd

/-- Storing a chain makes its head the peer, and releases what was stored before. -/
theorem storeClientChain_true {chain : List Nat} {s t : SSL ω}
    (h : storeClientChain chain s = some (true, t)) :
    t.session.bind Session.peer = chain.head? ∧
      ∃ as, releaseAll as s.heap = some t.heap := by
  unfold storeClientChain at h
  split at h
  · exact absurd h (by simp only [reduceCtorEq, not_false_eq_true])
  · split at h
    · exact absurd h (by simp only [reduceCtorEq, not_false_eq_true])
    · rename_i hrel
      rw [← (Prod.mk.inj (Option.some.inj h)).2]
      exact ⟨rfl, _, hrel⟩

/-- A chain that passes the check of the server holds what it held. -/
theorem holds_checkClientChain {env : Env ω} {a : Nat} {as : List Nat} {e : Bytes} {s t : SSL ω}
    (hh : Holds s.heap a e) (h : checkClientChain env (a :: as) s = some (true, t)) :
    Holds t.heap a e := by
  simp only [checkClientChain] at h
  split at h
  · exact absurd h (by simp only [reduceCtorEq, not_false_eq_true])
  · exact absurd h (sslFail_ne_true _ _ _ _)
  · rename_i s' hv
    -- Behind the verification the object is only looked at.
    have hs' := holds_sslVerifyCertChain hh hv
    split at h
    · exact absurd h (by simp only [reduceCtorEq, not_false_eq_true])
    · split at h
      · exact absurd h (sslFail_ne_true _ _ _ _)
      · rw [← (Prod.mk.inj (Option.some.inj h)).2]
        exact hs'

/-- A server that accepts a Certificate has a peer exactly if there is a certificate in
    it. -/
theorem tlsProcessClientCertificate_peer_iff {env : Env ω} {body : Bytes} {s t : SSL ω}
    (h13 : s.tls13 = true) (h : tlsProcessClientCertificate env body s = some (true, t)) :
    (t.session.bind Session.peer).isSome = true ↔ certificatesOf body ≠ [] := by
  rcases tlsProcessClientCertificate_cases h with
    ⟨list, chain, s1, s2, s3, s4, hlist, hr, -, hst, h4, hsave⟩
  rw [h13] at hlist
  have hbody : certificatesOf body = certificateEntries list.length list := by
    rw [certificatesOf, certificateList_of_client hlist]
  have hpeer : t.session.bind Session.peer = chain.head? := by
    rw [(saveCertVerifyHash_true hsave).2.1, h4.session (by decide)]
    exact (storeClientChain_true hst).1
  rw [hpeer, hbody]
  by_cases hne : list = []
  · rw [hne] at hr ⊢
    simp only [List.length_nil, readCertificates, Option.some.injEq, Except.ok.injEq,
      Prod.mk.injEq] at hr
    rw [← hr.1]
    exact iff_of_false (by simp only [List.head?_nil, Option.isSome_none, Bool.false_eq_true,
      not_false_eq_true]) (fun hno => hno rfl)
  · rcases readCertificates_first hne hr with ⟨a, as, e, rfl, he, -⟩
    refine iff_of_true rfl (fun hnil => ?_)
    rw [hnil] at he
    exact absurd he (by simp only [List.head?_nil, reduceCtorEq, not_false_eq_true])

/-- A server that accepts the client's Certificate has its first entry for the peer,
    and no peer if there is no entry. -/
theorem tlsProcessClientCertificate_true {env : Env ω} {body : Bytes} {s t : SSL ω}
    (h13 : s.tls13 = true) (h : tlsProcessClientCertificate env body s = some (true, t)) :
    CertAccepted env (sslIsUsing1609Client s) body t := by
  obtain ⟨list, chain, s1, s2, s3, s4, hlist, hr, hc, hst, h4, hsave⟩ :=
    tlsProcessClientCertificate_cases h
  rcases saveCertVerifyHash_true hsave with ⟨hhash, hsess, hheap, -⟩
  refine ⟨fun a ha => ?_, hhash⟩
  rw [h13] at hlist
  have hbody := certificateList_of_client hlist
  rcases storeClientChain_true hst with ⟨hpeer, released, hrel⟩
  rw [hsess, h4.session (by decide), hpeer] at ha
  -- Without entries there would be no peer.
  have hne : list ≠ [] := by
    intro hnil
    rw [hnil] at hr
    simp only [List.length_nil, readCertificates, Option.some.injEq, Except.ok.injEq,
      Prod.mk.injEq] at hr
    rw [← hr.1] at ha
    exact absurd ha (by simp only [List.head?_nil, reduceCtorEq, not_false_eq_true])
  rcases readCertificates_first hne hr with ⟨d, as, e, rfl, he, hold⟩
  rw [List.head?_cons, Option.some.injEq] at ha
  subst ha
  refine ⟨e, by simp only [certificatesOf, hbody, he], fun h1609 hene => ?_⟩
  have h2 := holds_checkClientChain (hold h1609 hene) hc
  rw [hheap, h4.heap (by decide)]
  exact holds_releaseAll h2 hrel

end Iso21177
