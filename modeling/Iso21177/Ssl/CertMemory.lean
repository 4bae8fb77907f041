import Iso21177.Lib.RefCount
import Iso21177.Ssl.CertList
import Iso21177.Ssl.Defined

/-!
# The Peer's Certificates and Their References

A session refers to the peer's certificates: to the peer itself, and to the objects of its
chain. The object is `Backed` if the heap counts at least the references its session has.
Reading a Certificate keeps this, whatever the message is and however it ends, as long as
no entry of a 1609.2 list is empty. The address of an empty entry is dead and yet on the
chain, and no count backs it.

An object that is backed is safe to use. Its certificates can be read when they are
verified, and released when they are replaced: none of the functions here is undefined
on it.

## Main definitions

* `SSL.held`, `SSL.Backed`: What the session refers to, and that it is counted.
* `FillBacked`, `EntryBacked`, `ListBacked`: The outcomes of the readers.
* `NoEmptyEntry`: No entry of a 1609.2 list is empty.
* `Call.Safe`: A call that is defined and keeps the object backed.

## Theorems

* `held_of_session`, `backed_of_eq`, `backed_of_keeps`, `backed_of_touches`, `backed_write`: What
  leaves the references alone.
* `safe_of_total`, `safe_seq`, `safe_sslFail`, `safe_runPhase`: Calls in general.
* `backs_releaseAll`: Releasing a list.
* `fillCertificate_backs`, `entryExtensions_ne_none`, `readCertificate_backs`,
  `certificateEntries_head`, `readCertificates_backs`: Reading.
* `abandon_safe`, `mapM_read_ne_none`, `sslVerifyCertChain_backs`: The error exit, and
  verifying.
* `tlsProcessServerCertificate_safe`, `setPeer_safe`, `total_saveCertVerifyHash`,
  `total_checkServerKey`, `tlsPostProcessServerCertificate_safe`: The client.
* `checkClientChain_backs`, `storeClientChain_safe`, `tlsProcessClientCertificate_safe`: The
  server.
* `total_tlsProcessIeee1609CertCertVerify`, `total_processX509CertVerify`,
  `process1609CertVerify_safe`, `tlsProcessCertVerify_safe`: Checking a signature.
-/

namespace Iso21177

open Packet

variable {ω : Type}

/-- The addresses the session refers to, one for each reference. -/
def SSL.held (s : SSL ω) : List Nat :=
  match s.session with
  | none => []
  | some sess => sess.peer.toList ++ sess.peerChain.getD []

/-- What the session refers to is counted. -/
def SSL.Backed (s : SSL ω) : Prop := s.heap.Backs s.held

/-- The call is defined here and keeps the object backed. -/
def Call.Safe (c : Call (SSL ω)) (s : SSL ω) : Prop := ∃ b t, c s = some (b, t) ∧ t.Backed

/-- No entry of the list of a 1609.2 peer is empty. -/
def NoEmptyEntry (using1609 : Bool) (body : Bytes) : Prop :=
  using1609 = true → ∀ e ∈ certificatesOf body, e ≠ []

instance (using1609 : Bool) (body : Bytes) : Decidable (NoEmptyEntry using1609 body) :=
  inferInstanceAs (Decidable (_ → ∀ e ∈ certificatesOf body, e ≠ []))

theorem held_of_session {s : SSL ω} {sess : Session} (h : s.session = some sess) :
    s.held = sess.peer.toList ++ sess.peerChain.getD [] := by
  simp only [SSL.held, h]

theorem backed_of_eq {s t : SSL ω} (hs : s.Backed) (hheap : t.heap = s.heap)
    (hsess : t.session = s.session) : t.Backed := by
  simp only [SSL.Backed, SSL.held, hheap, hsess]
  exact hs

theorem backed_of_keeps {fs : List Field} {s t : SSL ω} (hs : s.Backed) (h : Keeps fs s t)
    (hheap : .heap ∉ fs) (hsess : .session ∉ fs) : t.Backed :=
  backed_of_eq hs (h.heap hheap) (h.session hsess)

theorem backed_of_touches {fs : List Field} {s t : SSL ω} {b : Bool} (hs : s.Backed)
    (h : Touches fs s b t) (hheap : .heap ∉ fs) (hsess : .session ∉ fs) : t.Backed :=
  backed_of_keeps hs h.toKeeps hheap hsess

theorem backed_write {s : SSL ω} (hs : s.Backed) (a : Nat) (x : X509) :
    ({ s with heap := s.heap.write a x } : SSL ω).Backed :=
  Heap.backs_write hs a x

/-- A call that is always defined and leaves session and heap alone. -/
theorem safe_of_total {fs : List Field} {c : Call (SSL ω)} {s : SSL ω} (hs : s.Backed)
    (hc : Call.Total c) (h : Call.Rel (Touches fs) c) (hheap : .heap ∉ fs)
    (hsess : .session ∉ fs) : Call.Safe c s := by
  rcases Option.ne_none_iff_exists'.mp (hc s) with ⟨⟨b, t⟩, ht⟩
  exact ⟨b, t, ht, backed_of_touches hs (h s b t ht) hheap hsess⟩

theorem safe_seq {c d : Call (SSL ω)} {s : SSL ω} (hc : Call.Safe c s)
    (hd : ∀ t, c s = some (true, t) → t.Backed → Call.Safe d t) : Call.Safe (Call.seq c d) s := by
  rcases hc with ⟨b, t, ht, hback⟩
  cases b with
  | false => exact ⟨false, t, by simp only [Call.seq, ht], hback⟩
  | true =>
      rcases hd t ht hback with ⟨b, u, hu, hu'⟩
      exact ⟨b, u, by simp only [Call.seq, ht, hu], hu'⟩

theorem safe_sslFail (al : Alert) (reason : Reason) {s : SSL ω} (hs : s.Backed) :
    Call.Safe (sslFail al reason) s :=
  safe_of_total hs (total_sslFail al reason) (touches_sslFail [] al reason)
    List.not_mem_nil List.not_mem_nil

/-- A step of code outside. -/
theorem safe_runPhase (env : Env ω) (p : Phase) (body : Bytes) {s : SSL ω} (hs : s.Backed) :
    Call.Safe (runPhase env p body) s :=
  safe_of_total hs (total_runPhase env p body) (touches_runOther _) (by decide) (by decide)

/-- References that are held can be dropped one after the other. -/
theorem backs_releaseAll {as bs : List Nat} {h : Heap X509} (hb : h.Backs (as ++ bs)) :
    ∃ h', releaseAll as h = some h' ∧ h'.Backs bs := by
  induction as generalizing h with
  | nil => exact ⟨h, rfl, hb⟩
  | cons a as ih =>
      rcases Heap.backs_release hb with ⟨h1, hr, h1b⟩
      rcases ih h1b with ⟨h2, hr2, h2b⟩
      exact ⟨h2, by simp only [releaseAll, hr, hr2], h2b⟩

/-- The references after an object was filled: an object that could not be is gone. -/
def FillBacked (a : Nat) (as : List Nat) : Option Nat × Heap X509 → Prop
  | (none, h) => h.Backs as
  | (some _, h) => h.Backs (a :: as)

/-- The references after an entry was read. -/
def EntryBacked (as : List Nat) : Except (Stopped ω) (Nat × Bytes × SSL ω) → Prop
  | .error e => e.ssl.heap.Backs (e.pending.toList ++ as)
  | .ok (a, _, t) => t.heap.Backs (a :: as)

/-- The references after a list was read, those to `held` among them. -/
def ListBacked (held : List Nat) : Except (List Nat × Stopped ω) (List Nat × SSL ω) → Prop
  | .error (chain, e) => e.ssl.heap.Backs (e.pending.toList ++ (chain ++ held))
  | .ok (chain, t) => t.heap.Backs (chain ++ held)

section Reading

variable (env : Env ω) {using1609 : Bool} (badCert : Alert)

theorem fillCertificate_backs {a : Nat} {as : List Nat} {entry : Bytes} {h : Heap X509}
    (hb : h.Backs (a :: as)) (hne : using1609 = true → entry ≠ []) :
    ∃ r, fillCertificate env using1609 a entry h = some r ∧ FillBacked a as r := by
  unfold fillCertificate
  split
  · rename_i hu
    have hset : setIeee1609Cert a entry h =
        some (h.write a ⟨.placeholder, some ⟨entry, noHash⟩⟩) := by
      rw [setIeee1609Cert, if_neg (hne hu)]
    rw [hset]
    exact ⟨_, rfl, Heap.backs_write hb a _⟩
  · unfold d2iX509Into
    cases hd : env.d2iX509 entry with
    | none =>
        -- What cannot be parsed is released at once.
        rcases Heap.backs_release hb with ⟨h', hr, hb'⟩
        simp only [hr]
        exact ⟨_, rfl, hb'⟩
    | some r => exact ⟨_, rfl, Heap.backs_write hb a _⟩

theorem entryExtensions_ne_none (chainidx : Nat) (p : Bytes) (s : SSL ω) :
    entryExtensions env chainidx p s ≠ none := by
  unfold entryExtensions
  split
  · split
    · exact Option.some_ne_none _
    · split
      · rename_i hn
        exact absurd hn (total_collecting env _ _ _
          (fun raw => total_tlsParseAllExtensions env _ raw _ _) s)
      · exact Option.some_ne_none _
      · exact Option.some_ne_none _
  · exact Option.some_ne_none _

/-- An entry that is not empty becomes an object with a reference, or none at all. -/
theorem readCertificate_backs (chainidx : Nat) {p : Bytes} {as : List Nat} {s : SSL ω}
    (hb : s.heap.Backs as)
    (hne : using1609 = true → ∀ entry q, getLengthPrefixed 3 p = some (entry, q) → entry ≠ []) :
    ∃ r, readCertificate env using1609 badCert chainidx p s = some r ∧ EntryBacked as r := by
  have hfatal : ∀ (al : Alert) (reason : Reason) (t : SSL ω),
      (sslFatal al reason t).heap = t.heap :=
    fun al reason t => (touches_sslFatal [] al reason t).heap List.not_mem_nil
  unfold readCertificate
  cases hg : getLengthPrefixed 3 p with
  | none =>
      refine ⟨_, rfl, ?_⟩
      simp only [EntryBacked, hfatal, Option.toList_none, List.nil_append]
      exact hb
  | some r =>
      rcases r with ⟨entry, q⟩
      simp only
      rcases fillCertificate_backs env
        (Heap.backs_alloc env.allocator hb (⟨.empty, none⟩ : X509))
        (fun hu => hne hu entry q hg) with ⟨f, hf, hfb⟩
      rcases f with ⟨n, h'⟩
      rw [hf]
      cases n with
      | none =>
          refine ⟨_, rfl, ?_⟩
          simp only [EntryBacked, hfatal, Option.toList_none, List.nil_append]
          exact hfb
      | some n =>
          simp only
          split
          · refine ⟨_, rfl, ?_⟩
            simp only [EntryBacked, hfatal, Option.toList_some, List.cons_append, List.nil_append]
            exact hfb
          · -- The extensions of the entry leave the heap alone.
            have hext : ∀ {r : Option Bytes} {t : SSL ω},
                entryExtensions env chainidx q { s with heap := h' } = some (r, t) →
                  t.heap = h' :=
              fun he => (touches_entryExtensions env he).heap (by decide)
            cases he : entryExtensions env chainidx q { s with heap := h' } with
            | none => exact absurd he (entryExtensions_ne_none env _ _ _)
            | some r =>
                rcases r with ⟨rest, t⟩
                cases rest with
                | none =>
                    refine ⟨_, rfl, ?_⟩
                    simp only [EntryBacked, hext he, Option.toList_some, List.cons_append,
                      List.nil_append]
                    exact hfb
                | some rest =>
                    refine ⟨_, rfl, ?_⟩
                    simp only [EntryBacked, hext he]
                    exact hfb

/-- The first entry of a list is one of its entries, and what follows it are the others. -/
theorem certificateEntries_head {fuel : Nat} {p entry q : Bytes}
    (hg : getLengthPrefixed 3 p = some (entry, q)) :
    entry ∈ certificateEntries (fuel + 1) p ∧
      ∀ x rest, getLengthPrefixed 2 q = some (x, rest) →
        certificateEntries fuel rest ⊆ certificateEntries (fuel + 1) p := by
  simp only [certificateEntries, hg]
  cases hx : getLengthPrefixed 2 q with
  | none => exact ⟨List.mem_singleton_self _, fun x rest h => absurd h (by
      simp only [reduceCtorEq, not_false_eq_true])⟩
  | some r =>
      refine ⟨List.mem_cons_self .., fun x rest h => ?_⟩
      rw [Option.some.inj h]
      exact List.subset_cons_self _ _

/-- A list without empty entries becomes a chain of objects with a reference each. -/
theorem readCertificates_backs {held : List Nat} (fuel : Nat) {p : Bytes} {s : SSL ω}
    (chain : List Nat) (h13 : s.tls13 = true) (hb : s.heap.Backs (chain ++ held))
    (hne : using1609 = true → ∀ e ∈ certificateEntries fuel p, e ≠ []) :
    ∃ r, readCertificates env using1609 badCert fuel p chain s = some r ∧ ListBacked held r := by
  induction fuel generalizing p chain s with
  | zero =>
      cases p with
      | nil => exact ⟨_, rfl, hb⟩
      | cons x p => exact ⟨_, rfl, hb⟩
  | succ fuel ih =>
      cases p with
      | nil => exact ⟨_, rfl, hb⟩
      | cons x p =>
          rcases readCertificate_backs env badCert chain.length hb
            (fun hu entry q hg => hne hu entry (certificateEntries_head hg).1) with ⟨r, hr, hrb⟩
          simp only [readCertificates, hr]
          cases r with
          | error e => exact ⟨_, rfl, hrb⟩
          | ok v =>
              rcases v with ⟨a, rest, t⟩
              have hkeep := touches_readCertificate env hr
              have h13' : t.tls13 = true := by
                rw [← h13]
                exact hkeep.tls13 (by decide)
              -- The new object joins the chain.
              have hperm : (a :: (chain ++ held)).Perm (chain ++ [a] ++ held) := by
                rw [List.append_assoc]
                exact List.perm_middle.symm
              refine ih _ h13' (Heap.Backs.perm hrb hperm) (fun hu e he => ?_)
              rcases readCertificate_ok hr with ⟨entry, q, n, h', hg, -, -, -, hext⟩
              have h13' : ({ s with heap := h' } : SSL ω).tls13 = true := h13
              rcases entryExtensions_framed h13' hext with ⟨y, hy⟩
              exact hne hu e ((certificateEntries_head hg).2 y rest hy he)

end Reading

/-- What was read can be released, and what was held before is still backed. -/
theorem abandon_safe (chain : List Nat) {e : Stopped ω}
    (hb : e.ssl.heap.Backs (e.pending.toList ++ (chain ++ e.ssl.held))) :
    ∃ t, abandon chain e = some (false, t) ∧ t.Backed := by
  rw [← List.append_assoc] at hb
  rcases backs_releaseAll hb with ⟨h', hr, hb'⟩
  have ht : abandon chain e = some (false, { e.ssl with heap := h' }) := by
    simp only [abandon, hr]
  exact ⟨_, ht, hb'⟩

section

variable {env : Env ω}

/-- Reading several objects is reading each of them. -/
theorem mapM_read_ne_none {as : List Nat} {h : Heap X509}
    (hr : ∀ a ∈ as, ∃ x, h.read a = some x) : as.mapM h.read ≠ none := by
  induction as with
  | nil => exact Option.some_ne_none _
  | cons a as ih =>
      rcases hr a (List.mem_cons_self ..) with ⟨x, hx⟩
      rcases Option.ne_none_iff_exists'.mp (ih (fun b hb => hr b (List.mem_cons_of_mem a hb))) with
        ⟨xs, hxs⟩
      rw [List.mapM_cons, hx, hxs]
      exact Option.some_ne_none _

/-- A chain is verified by reading objects that are held. -/
theorem sslVerifyCertChain_backs (henv : WholeHash env) {chain as : List Nat} {s : SSL ω}
    (hb : s.heap.Backs as) (hsub : ∀ a ∈ chain, a ∈ as) :
    ∃ b t, sslVerifyCertChain env chain s = some (b, t) ∧ t.heap.Backs as ∧
      t.session = s.session := by
  cases chain with
  | nil => exact ⟨false, s, rfl, hb, rfl⟩
  | cons a chain =>
      rcases Heap.read_of_backs hb (hsub a (List.mem_cons_self ..)) with ⟨x, hx⟩
      simp only [sslVerifyCertChain, hx]
      cases hc : x.ieee1609 with
      | some c =>
          simp only
          rcases Option.ne_none_iff_exists'.mp (ieee1609CertVerify_ne_none henv c s) with
            ⟨⟨r, t⟩, ht⟩
          rcases ieee1609CertVerify_note ht with ⟨reply, rfl⟩
          rw [ht]
          cases r with
          | none => exact ⟨_, _, rfl, hb, rfl⟩
          | some c' => exact ⟨_, _, rfl, Heap.backs_write hb a _, rfl⟩
      | none =>
          -- The whole chain is read.
          rcases Option.ne_none_iff_exists'.mp (mapM_read_ne_none
            (fun b hb' => Heap.read_of_backs hb (hsub b hb'))) with ⟨xs, hxs⟩
          simp only [hxs]
          exact ⟨_, _, rfl, hb, rfl⟩

/-- A client reads the server's Certificate without losing or misusing a reference. -/
theorem tlsProcessServerCertificate_safe {body : Bytes} {s : SSL ω} (hb : s.Backed)
    (hsess : s.session ≠ none) (h13 : s.tls13 = true)
    (hclean : NoEmptyEntry (sslIsUsing1609Server s) body) :
    Call.Safe (tlsProcessServerCertificate env body) s := by
  rcases Option.ne_none_iff_exists'.mp hsess with ⟨sess, hs⟩
  have hheap : s.heap.Backs (sess.peer.toList ++ sess.peerChain.getD []) := by
    rw [← held_of_session hs]
    exact hb
  -- The old chain is forgotten before anything is read.
  have hpeer : ∀ as : List Nat, (as ++ (sess.peer.toList ++ [])).Sublist
      (as ++ (sess.peer.toList ++ sess.peerChain.getD [])) := fun as =>
    ((List.nil_sublist _).append_left _).append_left as
  unfold Call.Safe tlsProcessServerCertificate
  simp only [hs]
  cases hl : serverCertificateList s.tls13 body with
  | none =>
      refine safe_sslFail (s := { s with session := some { sess with peerChain := none } }) _ _ ?_
      exact hheap.sublist (hpeer [])
  | some list =>
      rw [h13] at hl
      have hne : sslIsUsing1609Server s = true →
          ∀ e ∈ certificateEntries list.length list, e ≠ [] := by
        intro hu e he
        refine hclean hu e ?_
        rw [certificatesOf, (certificateList_of_server hl).1]
        exact he
      rcases readCertificates_backs env .badCertificate list.length [] h13 hheap hne with
        ⟨r, hr, hrb⟩
      simp only [hr]
      cases r with
      | error v =>
          rcases v with ⟨chain, e⟩
          rcases abandon_safe chain
            (e := { e with ssl := { e.ssl with session := some { sess with peerChain := none } } })
            (by
              refine Heap.Backs.sublist hrb ?_
              exact (((List.nil_sublist _).append_left _).append_left _).append_left _) with
            ⟨t, ht, htb⟩
          exact ⟨_, t, ht, htb⟩
      | ok v =>
          rcases v with ⟨chain, t⟩
          refine ⟨_, _, rfl, ?_⟩
          -- The peer is held as before, and the new chain takes the place of the old one.
          have hsub : (chain ++ sess.peer.toList).Sublist
              (chain ++ (sess.peer.toList ++ sess.peerChain.getD [])) :=
            (List.sublist_append_left _ _).append_left _
          exact (Heap.Backs.sublist hrb hsub).perm List.perm_append_comm

/-- The head of the chain becomes the peer, and the previous peer is let go. -/
theorem setPeer_safe {a : Nat} {sess : Session} {s : SSL ω} (hb : s.Backed)
    (hs : s.session = some sess) (ha : a ∈ sess.peerChain.getD []) :
    ∃ t, setPeer a s = some (true, t) ∧ t.Backed := by
  rw [SSL.Backed, held_of_session hs] at hb
  rcases backs_releaseAll hb with ⟨h, hr, hb1⟩
  rcases Heap.backs_upRef hb1 ha with ⟨h', hu, hb2⟩
  exact ⟨{ s with heap := h', session := some { sess with peer := some a } },
    by simp only [setPeer, hs, hr, hu], hb2⟩

theorem total_saveCertVerifyHash : Call.Total (saveCertVerifyHash env) := by
  intro s
  unfold saveCertVerifyHash
  split
  · split
    · exact total_sslFail _ _ s
    · exact Option.some_ne_none _
  · exact Option.some_ne_none _

theorem total_checkServerKey (x : X509) : Call.Total (checkServerKey env x) := by
  intro s
  unfold checkServerKey
  split
  · exact Option.some_ne_none _
  · split
    · exact total_sslFail _ _ s
    · split
      · exact total_sslFail _ _ s
      · split
        · exact total_sslFail _ _ s
        · split
          · exact total_sslFail _ _ s
          · exact Option.some_ne_none _

/-- A client verifies the chain and takes its head for the peer. -/
theorem tlsPostProcessServerCertificate_safe (henv : WholeHash env) {s : SSL ω} (hb : s.Backed)
    (hsess : s.session ≠ none) : Call.Safe (tlsPostProcessServerCertificate env) s := by
  rcases Option.ne_none_iff_exists'.mp hsess with ⟨sess, hs⟩
  have hheap := hb
  rw [SSL.Backed, held_of_session hs] at hheap
  -- The chain is one of the things the session holds.
  have hsub : ∀ a ∈ sess.peerChain.getD [], a ∈ sess.peer.toList ++ sess.peerChain.getD [] :=
    fun a ha => List.mem_append_right _ ha
  rcases sslVerifyCertChain_backs henv hheap hsub with ⟨ok, s1, hv, hb1, hs1⟩
  have hback : s1.Backed := by
    rw [SSL.Backed, held_of_session (hs1.trans hs)]
    exact hb1
  unfold Call.Safe tlsPostProcessServerCertificate
  simp only [hs, hv]
  split
  · exact safe_sslFail _ _ hback
  · cases hchain : sess.peerChain.getD [] with
    | nil => exact safe_sslFail _ _ hback
    | cons a as =>
        have ha : a ∈ sess.peerChain.getD [] := by
          rw [hchain]
          exact List.mem_cons_self ..
        -- What is held can be read.
        rcases Heap.read_of_backs hb1 (hsub a ha) with ⟨x, hx⟩
        simp only [hx]
        refine safe_seq (safe_of_total hback (total_checkServerKey x)
          (touches_checkServerKey env x) (by decide) (by decide)) (fun u hu hub => ?_)
        have hsu : u.session = some sess :=
          ((touches_checkServerKey env x s1 true u hu).session (by decide)).trans (hs1.trans hs)
        refine safe_seq ?_ (fun v _ hvb => safe_of_total hvb total_saveCertVerifyHash
          (touches_saveCertVerifyHash env) (by decide) (by decide))
        rcases setPeer_safe hub hsu ha with ⟨w, hw, hwb⟩
        exact ⟨true, w, hw, hwb⟩

/-- What a server makes of a chain that is held. -/
theorem checkClientChain_backs (henv : WholeHash env) {chain as : List Nat} {s : SSL ω}
    (hb : s.heap.Backs as) (hsub : ∀ a ∈ chain, a ∈ as) :
    ∃ b t, checkClientChain env chain s = some (b, t) ∧ t.heap.Backs as ∧
      t.session = s.session := by
  -- A failure and a step of code outside leave heap and session as they are.
  have hfail : ∀ (al : Alert) (reason : Reason) (t : SSL ω), t.heap.Backs as →
      t.session = s.session → ∃ b u, sslFail al reason t = some (b, u) ∧ u.heap.Backs as ∧
        u.session = s.session := by
    intro al reason t ht hst
    have hu := touches_sslFatal [] al reason t
    refine ⟨false, _, rfl, ?_, (hu.session List.not_mem_nil).trans hst⟩
    rw [hu.heap List.not_mem_nil]
    exact ht
  cases chain with
  | nil =>
      simp only [checkClientChain]
      split
      · exact hfail _ _ s hb rfl
      · rcases Option.ne_none_iff_exists'.mp (total_runPhase env .digestCachedRecords [] s) with
          ⟨⟨b, t⟩, ht⟩
        have hu := touches_runOther _ s b t ht
        refine ⟨b, t, ht, ?_, hu.session (by decide)⟩
        rw [hu.heap (by decide)]
        exact hb
  | cons a chain =>
      rcases sslVerifyCertChain_backs henv hb hsub with ⟨ok, s1, hv, hb1, hs1⟩
      simp only [checkClientChain, hv]
      cases ok with
      | false => exact hfail _ _ s1 hb1 hs1
      | true =>
          rcases Heap.read_of_backs hb1 (hsub a (List.mem_cons_self ..)) with ⟨x, hx⟩
          simp only [hx]
          split
          · exact hfail _ _ s1 hb1 hs1
          · exact ⟨true, s1, rfl, hb1, hs1⟩

/-- A new chain takes the place of what the session held. -/
theorem storeClientChain_safe (chain : List Nat) {s : SSL ω} (hsess : s.session ≠ none)
    (hb : s.heap.Backs (chain ++ s.held)) :
    ∃ t, storeClientChain chain s = some (true, t) ∧ t.Backed := by
  rcases Option.ne_none_iff_exists'.mp hsess with ⟨sess, hs⟩
  rw [held_of_session hs] at hb
  rcases backs_releaseAll (hb.perm List.perm_append_comm) with ⟨h, hr, hb'⟩
  refine ⟨{ s with heap := h, session := some ⟨chain.head?, some chain.tail⟩ },
    by simp only [storeClientChain, hs, hr], ?_⟩
  -- The head is the peer and the tail its chain.
  cases chain with
  | nil => exact hb'
  | cons a chain => exact hb'

/-- A server reads the client's Certificate without losing or misusing a reference. -/
theorem tlsProcessClientCertificate_safe (henv : WholeHash env) {body : Bytes} {s : SSL ω}
    (hb : s.Backed) (hsess : s.session ≠ none) (h13 : s.tls13 = true)
    (hclean : NoEmptyEntry (sslIsUsing1609Client s) body) :
    Call.Safe (tlsProcessClientCertificate env body) s := by
  unfold Call.Safe tlsProcessClientCertificate
  simp only [h13]
  cases hl : clientCertificateList true s.phaContext body with
  | error reason => exact safe_sslFail _ _ hb
  | ok list =>
      have hne : sslIsUsing1609Client s = true →
          ∀ e ∈ certificateEntries list.length list, e ≠ [] := by
        intro hu e he
        refine hclean hu e ?_
        rw [certificatesOf, certificateList_of_client hl]
        exact he
      rcases readCertificates_backs env .decodeError list.length [] h13 hb hne with ⟨r, hr, hrb⟩
      -- Each entry that was read is held by the list, besides what the session holds.
      have hkeep := touches_readCertificates env list.length hr
      simp only [hr]
      cases r with
      -- An entry that fails gives the list back.
      | error v =>
          rcases v with ⟨chain, e⟩
          have hheld : e.ssl.held = s.held := by
            have hes : e.ssl.session = s.session := hkeep.session (by decide)
            simp only [SSL.held, hes]
          rcases abandon_safe chain (e := e) (by rw [hheld]; exact hrb) with
            ⟨t, ht, htb⟩
          exact ⟨_, t, ht, htb⟩
      | ok v =>
          rcases v with ⟨chain, s1⟩
          have hs1 : s1.session = s.session := hkeep.session (by decide)
          have hheld : ∀ t : SSL ω, t.session = s1.session → t.held = s.held := by
            intro t ht
            simp only [SSL.held, ht, hs1]
          rcases checkClientChain_backs henv hrb
            (fun a ha => List.mem_append_left _ ha) with ⟨ok, s2, hc, hb2, hs2⟩
          simp only [hc]
          cases ok with
          | false =>
              rcases abandon_safe chain (e := ⟨none, s2⟩)
                (by rw [hheld s2 hs2]; exact hb2) with ⟨t, ht, htb⟩
              exact ⟨_, t, ht, htb⟩
          -- What the list held is held by the session from here on.
          | true =>
              have hstored := storeClientChain_safe chain (s := s2)
                (by rw [hs2, hs1]; exact hsess) (by rw [hheld s2 hs2]; exact hb2)
              rcases hstored with ⟨u, hu, hub⟩
              refine safe_seq ⟨true, u, hu, hub⟩ (fun v hv hvb => ?_)
              refine safe_seq ?_ (fun w _ hwb => safe_of_total hwb total_saveCertVerifyHash
                (touches_saveCertVerifyHash env) (by decide) (by decide))
              unfold Call.Safe
              beta_reduce
              split
              · exact safe_runPhase env _ _ hvb
              · exact ⟨true, v, rfl, hvb⟩

theorem total_tlsProcessIeee1609CertCertVerify (cert : Option Ieee1609Cert)
    (verifyInput verifyData : Bytes) :
    Call.Total (tlsProcessIeee1609CertCertVerify env cert verifyInput verifyData) := by
  intro s
  unfold tlsProcessIeee1609CertCertVerify
  split
  · exact total_sslFail _ _ s
  · split
    · exact total_sslFail _ _ _
    · exact total_sslFail _ _ _
    · split
      · exact total_sslFail _ _ _
      · split
        · exact total_sslFail _ _ _
        · exact Option.some_ne_none _

theorem total_processX509CertVerify (peer : Option X509) (body : Bytes) :
    Call.Total (processX509CertVerify env peer body) := by
  intro s
  unfold processX509CertVerify
  split
  · exact total_sslFail _ _ s
  · split
    · exact total_sslFail _ _ s
    · split
      · exact Option.some_ne_none _
      · split
        · exact total_sslFail _ _ _
        · exact Option.some_ne_none _

/-- The signature of a 1609.2 peer that is held is checked. -/
theorem process1609CertVerify_safe (henv : WholeHash env) {a : Nat} {body : Bytes} {s : SSL ω}
    (hb : s.Backed) (ha : a ∈ s.held) : Call.Safe (process1609CertVerify env a body) s := by
  rcases Heap.read_of_backs hb ha with ⟨x, hx⟩
  unfold Call.Safe process1609CertVerify
  simp only [hx]
  cases hc : x.ieee1609 with
  | none => exact safe_sslFail _ _ hb
  | some c =>
      rcases Option.ne_none_iff_exists'.mp (ieee1609CertVerify_ne_none henv c s) with
        ⟨⟨r, s1⟩, hr⟩
      rcases ieee1609CertVerify_note hr with ⟨reply, rfl⟩
      have hb1 : (s.note (.exchange (secEntMsgNewTypeTlsVerifyCerts c.certData) reply)).Backed := hb
      simp only [hr]
      cases r with
      | none => exact safe_sslFail _ _ hb1
      | some c' =>
          simp only
          have hb2 := backed_write hb1 a { x with ieee1609 := some c' }
          split
          · rename_i t ht
            exact ⟨false, t, rfl, backed_of_touches hb2 (touches_getCertVerifyTbsData env ht)
              List.not_mem_nil List.not_mem_nil⟩
          · rename_i tbs t ht
            exact safe_of_total (backed_of_touches hb2 (touches_getCertVerifyTbsData env ht)
                List.not_mem_nil List.not_mem_nil)
              (total_tlsProcessIeee1609CertCertVerify _ _ _)
              (touches_tlsProcessIeee1609CertCertVerify env _ _ _) (by decide) (by decide)

/-- A signature is checked with the certificate of a peer that is held. -/
theorem tlsProcessCertVerify_safe (henv : WholeHash env) {body : Bytes} {s : SSL ω} {a : Nat}
    (hb : s.Backed) (hpeer : s.session.bind Session.peer = some a) :
    Call.Safe (tlsProcessCertVerify env body) s := by
  rcases Option.bind_eq_some_iff.mp hpeer with ⟨sess, hs, hp⟩
  have ha : a ∈ s.held := by
    rw [held_of_session hs, hp]
    exact List.mem_cons_self ..
  refine safe_seq ?_ (fun t _ htb => safe_runPhase env _ _ htb)
  unfold Call.Safe
  simp only [hs, hp]
  split
  · exact process1609CertVerify_safe henv hb ha
  · rcases Heap.read_of_backs hb ha with ⟨x, hx⟩
    simp only [hx]
    exact safe_of_total hb (total_processX509CertVerify _ _)
      (touches_processX509CertVerify env _ _) (by decide) (by decide)

end

end Iso21177
