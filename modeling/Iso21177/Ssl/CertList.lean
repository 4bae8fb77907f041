import Mathlib.Data.List.Forall2
import Iso21177.Ssl.PeerBinding

/-!
# Lists of Certificates

The list inside a Certificate message of TLS 1.3, as it is written and as it is read.
An entry is a certificate behind a length of three octets, and a block of extensions
behind a length of two.

Reading a list of 1609.2 entries makes one object for each. As long as no entry is
empty, every object is live at the end and holds its own entry: the address of a live
object is never handed out again. An empty entry leaves a released object in the
chain, and what lives at its address later, if anything, holds some other entry. So a
chain is faithful exactly if no entry is empty (`stored_faithfully_iff`).

A list that is written from certificates that are not empty is read back as these
certificates, on either side (`certificate_round_trip`).

## Main definitions

* `Framed`: How a list splits into entries.
* `Carries`, `Faithful`: Objects that hold the entries of a list.
* `Avoids`, `Kept`: What an entry leaves, empty or not.
* `entryLoop`: The loop over the entries, on either side.
* `entryBytes`: One entry as it is written.
* `entryRows`, `PlainEntries`: Entries come without extensions.
* `sendingSlot`, `sentContext`, `constructCertificate`: What a Certificate is made from.
* `expectingCertificate`, `side1609`, `placeholder1609`, `twoEntries`: Objects for the
  examples.

## Theorems

* `certificateEntries_of_framed`, `entryExtensions_framed`, `framed_entryBytes`: Reading what
  is framed.
* `fillCertificate_1609`, `readCertificate_kept`, `avoids_readCertificate`,
  `kept_readCertificate`, `readCertificates_kept`: What the entries leave.
* `carries_iff_of_kept`, `faithful_iff_of_kept`, `readCertificates_faithful_iff`: When it is
  the entries themselves.
* `entryLoop_some`, `tlsProcessServerCertificate_iff`: The loop inside the processing of a
  Certificate.
* `stored_faithfully_iff`: When the chain is faithful.
* `expectingCertificate_run`, `stored_faithfully_two_entries`, `empty_entry_stored`: A faithful
  chain and one that is not.
* `constructRows_plain`, `tlsConstructExtensions_plain`, `addCerts_1609`,
  `constructCertificate_1609`: Writing a list.
* `entryExtensions_plain`, `readCertificate_entryBytes`, `readCertificates_entryBytes`,
  `readCertificates_written`: Reading it.
* `serverCertificateList_putSub`, `clientCertificateList_putSub`: Finding it in the message.
* `chainToSend_extra`, `certificate_round_trip`, `certificate_round_trip_two`: The round trip.
-/

namespace Iso21177

open Packet

variable {ω : Type}

/-- The list splits into these entries, each a certificate and its extensions. -/
inductive Framed : Bytes → List (Bytes × Bytes) → Prop
  | nil : Framed [] []
  | cons {p q r e x : Bytes} {l : List (Bytes × Bytes)} (he : getLengthPrefixed 3 p = some (e, q))
      (hx : getLengthPrefixed 2 q = some (x, r)) (h : Framed r l) : Framed p ((e, x) :: l)

theorem certificateEntries_of_framed {p : Bytes} {l : List (Bytes × Bytes)} {fuel : Nat}
    (h : Framed p l) (hf : p.length ≤ fuel) : certificateEntries fuel p = l.map Prod.fst := by
  induction h generalizing fuel with
  | nil =>
      cases fuel with
      | zero => rfl
      | succ fuel => rfl
  | @cons p q r e x l he hx _ ih =>
      -- An entry takes at least five octets, so the bound is still good for the rest.
      have hp := getLengthPrefixed_length he
      have hq := getLengthPrefixed_length hx
      cases fuel with
      | zero => omega
      | succ fuel =>
          rw [certificateEntries, he]
          simp only [hx, List.map_cons, ih (show r.length ≤ fuel by omega)]

/-- The extensions of an entry in TLS 1.3 are a block behind its length. -/
theorem entryExtensions_framed {env : Env ω} {chainidx : Nat} {q rest : Bytes} {s t : SSL ω}
    (h13 : s.tls13 = true) (h : entryExtensions env chainidx q s = some (some rest, t)) :
    ∃ x, getLengthPrefixed 2 q = some (x, rest) := by
  unfold entryExtensions at h
  rw [if_pos h13] at h
  split at h
  · exact absurd h (unbuilt_ne _ _ _)
  · rename_i x r hx
    split at h
    · exact absurd h (by simp only [reduceCtorEq, not_false_eq_true])
    · exact absurd h (unbuilt_ne _ _ _)
    · have hr := Option.some.inj (Prod.mk.inj (Option.some.inj h)).1
      rw [← hr]
      exact ⟨x, hx⟩

/-- Filling an object from a 1609.2 entry: a live placeholder with the entry, or nothing
    at all for an empty one. -/
theorem fillCertificate_1609 {env : Env ω} {a : Nat} {entry : Bytes} {h h' : Heap X509}
    {n : Option Nat} {x : X509} (hx : h.read a = some x)
    (hf : fillCertificate env true a entry h = some (n, h')) :
    (entry ≠ [] ∧ h'.read a = some ⟨.placeholder, some ⟨entry, noHash⟩⟩) ∨
      (entry = [] ∧ h.release a = some h') := by
  simp only [fillCertificate, if_true, setIeee1609Cert] at hf
  by_cases he : entry = []
  · rw [if_pos he] at hf
    split at hf
    · exact absurd hf (by simp only [reduceCtorEq, not_false_eq_true])
    · rename_i h1 hr
      rw [← (Prod.mk.inj (Option.some.inj hf)).2]
      exact Or.inr ⟨he, hr⟩
  · rw [if_neg he] at hf
    rw [← (Prod.mk.inj (Option.some.inj hf)).2]
    exact Or.inl ⟨he, Heap.read_write_self _ hx⟩

/-- An address that an empty entry left behind: no empty certificate is to be found
    there, whatever else is. -/
def Avoids (h : Heap X509) (a : Nat) : Prop :=
  ∀ x c, h.read a = some x → x.ieee1609 = some c → c.certData ≠ []

/-- A live object with a 1609.2 certificate of these octets. -/
def Carries (h : Heap X509) (a : Nat) (e : Bytes) : Prop :=
  ∃ x c, h.read a = some x ∧ x.ieee1609 = some c ∧ c.certData = e

/-- One live object for each entry, in their order. -/
def Faithful (h : Heap X509) (chain : List Nat) (entries : List Bytes) : Prop :=
  List.Forall₂ (Carries h) chain entries

/-- What becomes of an entry: an object that carries it, or an address that does not. -/
def Kept (h : Heap X509) (a : Nat) (e : Bytes) : Prop :=
  (e ≠ [] ∧ Carries h a e) ∨ (e = [] ∧ Avoids h a)

theorem carries_iff_of_kept {h : Heap X509} {a : Nat} {e : Bytes} (hk : Kept h a e) :
    Carries h a e ↔ e ≠ [] := by
  rcases hk with ⟨hne, hc⟩ | ⟨he, ha⟩
  · exact iff_of_true hc hne
  · refine iff_of_false ?_ (fun hne => hne he)
    rintro ⟨x, c, hx, hc, hdata⟩
    exact ha x c hx hc (by rw [hdata, he])

/-- The chain is faithful exactly if every object carries its entry, which takes an
    entry that is not empty. -/
theorem faithful_iff_of_kept {h : Heap X509} {chain : List Nat} {entries : List Bytes}
    (hk : List.Forall₂ (Kept h) chain entries) :
    Faithful h chain entries ↔ ∀ e ∈ entries, e ≠ [] := by
  unfold Faithful
  induction hk with
  | nil =>
      simp only [List.Forall₂.nil, List.not_mem_nil, false_implies, implies_true]
  | cons hae _ ih =>
      rw [List.forall₂_cons, List.forall_mem_cons, carries_iff_of_kept hae, ih]

/-- One 1609.2 entry: how it is framed, and the object it leaves. -/
theorem readCertificate_kept {env : Env ω} {badCert : Alert} {chainidx : Nat} {p rest : Bytes}
    {a : Nat} {s t : SSL ω} (h13 : s.tls13 = true)
    (h : readCertificate env true badCert chainidx p s = some (.ok (a, rest, t))) :
    ∃ e q x, getLengthPrefixed 3 p = some (e, q) ∧ getLengthPrefixed 2 q = some (x, rest) ∧
      t.tls13 = true ∧ Kept t.heap a e := by
  rcases readCertificate_ok h with ⟨e, q, n, h', hg, ha, hf, hheap, hx⟩
  have h13' : t.tls13 = true := by
    rw [← h13]
    exact (touches_entryExtensions env hx).tls13 (by decide)
  rcases entryExtensions_framed (by exact h13) hx with ⟨x, hx⟩
  refine ⟨e, q, x, hg, hx, h13', ?_⟩
  have hnew : (env.allocator.alloc s.heap ⟨.empty, none⟩).2.read a = some ⟨.empty, none⟩ := by
    rw [ha]
    exact env.allocator.read_alloc_self _ _
  rw [hheap]
  rcases fillCertificate_1609 hnew hf with ⟨hne, hlive⟩ | ⟨he, hrel⟩
  · exact Or.inl ⟨hne, _, _, hlive, rfl, rfl⟩
  · -- The new object had one reference, so its address is dead.
    refine Or.inr ⟨he, fun y c hy _ => ?_⟩
    rw [ha] at hrel hy
    rw [env.allocator.read_alloc_release hrel] at hy
    exact absurd hy (by simp only [reduceCtorEq, not_false_eq_true])

/-- A later entry that is given the address of an earlier one is not empty either. -/
theorem avoids_readCertificate {env : Env ω} {badCert : Alert} {chainidx : Nat} {p rest : Bytes}
    {a b : Nat} {s t : SSL ω} (hb : Avoids s.heap b)
    (h : readCertificate env true badCert chainidx p s = some (.ok (a, rest, t))) :
    Avoids t.heap b := by
  rcases readCertificate_ok h with ⟨e, q, n, h', -, ha, hf, hheap, -⟩
  have hnew : (env.allocator.alloc s.heap ⟨.empty, none⟩).2.read a = some ⟨.empty, none⟩ := by
    rw [ha]
    exact env.allocator.read_alloc_self _ _
  intro y c hy hc
  rw [hheap] at hy
  -- The allocator may hand out the address of an object that was released.
  by_cases hba : b = a
  · subst hba
    rcases fillCertificate_1609 hnew hf with ⟨hne, hlive⟩ | ⟨-, hrel⟩
    · rw [hlive, Option.some.injEq] at hy
      rw [← hy, Option.some.injEq] at hc
      rw [← hc]
      exact hne
    · -- An empty entry is released at once, so nothing is read at its address.
      rw [ha] at hrel hy
      rw [env.allocator.read_alloc_release hrel] at hy
      exact absurd hy (by simp only [reduceCtorEq, not_false_eq_true])
  · rw [read_fillCertificate hf hba] at hy
    have hbn : b ≠ env.allocator.next s.heap := by
      rw [ha] at hba
      exact hba
    rw [Allocator.alloc, Heap.read_put_ne s.heap _ b _ 1 hbn] at hy
    exact hb y c hy hc

/-- What one entry left is not changed by another one. -/
theorem kept_readCertificate {env : Env ω} {badCert : Alert} {chainidx : Nat} {p rest : Bytes}
    {a b : Nat} {e : Bytes} {s t : SSL ω} (hb : Kept s.heap b e)
    (h : readCertificate env true badCert chainidx p s = some (.ok (a, rest, t))) :
    Kept t.heap b e := by
  rcases hb with ⟨hne, x, c, hx, hc⟩ | ⟨he, hb⟩
  · exact Or.inl ⟨hne, x, c, read_readCertificate hx h, hc⟩
  · exact Or.inr ⟨he, avoids_readCertificate hb h⟩

/-- The whole list: it is framed, and the chain has one address for each entry. What the
    entries so far left behind is carried along. -/
theorem readCertificates_kept {env : Env ω} {badCert : Alert} (fuel : Nat) {p : Bytes}
    {chain chain' : List Nat} {entries : List Bytes} {s t : SSL ω} (h13 : s.tls13 = true)
    (hk : List.Forall₂ (Kept s.heap) chain entries)
    (h : readCertificates env true badCert fuel p chain s = some (.ok (chain', t))) :
    ∃ l, Framed p l ∧ List.Forall₂ (Kept t.heap) chain' (entries ++ l.map Prod.fst) := by
  have hread := certsRead_of_readCertificates fuel h
  clear h
  induction hread generalizing entries with
  | done => exact ⟨[], Framed.nil, by simpa only [List.map_nil, List.append_nil] using hk⟩
  | @entry p rest a chain chain' s s' t hc _ ih =>
      rcases readCertificate_kept h13 hc with ⟨e, q, x, he, hx, h13', hnew⟩
      -- Reading this entry leaves the earlier ones as they were.
      have hold : List.Forall₂ (Kept s'.heap) chain entries :=
        hk.imp (fun b d hbd => kept_readCertificate hbd hc)
      have hall : List.Forall₂ (Kept s'.heap) (chain ++ [a]) (entries ++ [e]) :=
        List.rel_append hold (List.Forall₂.cons hnew List.Forall₂.nil)
      rcases ih h13' hall with ⟨l, hl, hkept⟩
      refine ⟨(e, x) :: l, Framed.cons he hx hl, ?_⟩
      rw [List.append_assoc] at hkept
      exact hkept

/-- The chain at the end of the list is faithful exactly if no entry is empty. -/
theorem readCertificates_faithful_iff {env : Env ω} {badCert : Alert} {list : Bytes}
    {chain : List Nat} {s t : SSL ω} (h13 : s.tls13 = true)
    (h : readCertificates env true badCert list.length list [] s = some (.ok (chain, t))) :
    Faithful t.heap chain (certificateEntries list.length list) ↔
      ∀ e ∈ certificateEntries list.length list, e ≠ [] := by
  rcases readCertificates_kept list.length h13 List.Forall₂.nil h with ⟨l, hl, hk⟩
  rw [List.nil_append] at hk
  rw [certificateEntries_of_framed hl (Nat.le_refl _)]
  exact faithful_iff_of_kept hk

/-- The entry loops of `tls_process_server_certificate` on a client and of
    `tls_process_client_certificate` on a server: the chain as it is after the last
    entry. -/
def entryLoop (env : Env ω) (body : Bytes) (s : SSL ω) : Option (List Nat × SSL ω) :=
  let read := fun (badCert : Alert) (list : Bytes) =>
    match readCertificates env (sslIsUsing1609OtherSide s) badCert list.length list [] s with
    | some (.ok r) => some r
    | _ => none
  if s.server then
    match clientCertificateList s.tls13 s.phaContext body with
    | .ok list => read .decodeError list
    | .error _ => none
  else
    match serverCertificateList s.tls13 body with
    | some list => read .badCertificate list
    | none => none

/-- A loop that comes to its end read the list of the message. -/
theorem entryLoop_some {env : Env ω} {body : Bytes} {chain : List Nat} {s t : SSL ω}
    (h13 : s.tls13 = true) (h : entryLoop env body s = some (chain, t)) :
    ∃ badCert list, certificateList body = some list ∧
      readCertificates env (sslIsUsing1609OtherSide s) badCert list.length list [] s =
        some (.ok (chain, t)) := by
  -- The sides differ in how they find the list, and in the alert for a bad entry.
  simp only [entryLoop, h13] at h
  split at h
  · split at h
    · rename_i list hlist
      split at h
      · rename_i r hr
        rw [Option.some.injEq] at h
        rw [h] at hr
        exact ⟨_, list, certificateList_of_client hlist, hr⟩
      · exact absurd h (by simp only [reduceCtorEq, not_false_eq_true])
    · exact absurd h (by simp only [reduceCtorEq, not_false_eq_true])
  · split at h
    · rename_i list hlist
      split at h
      · rename_i r hr
        rw [Option.some.injEq] at h
        rw [h] at hr
        exact ⟨_, list, (certificateList_of_server hlist).1, hr⟩
      · exact absurd h (by simp only [reduceCtorEq, not_false_eq_true])
    · exact absurd h (by simp only [reduceCtorEq, not_false_eq_true])

/-- A client accepts a Certificate exactly if its loop comes to its end, and what it
    stores is the chain of the loop. -/
theorem tlsProcessServerCertificate_iff {env : Env ω} {body : Bytes} {s t : SSL ω}
    (hs : s.server = false) :
    tlsProcessServerCertificate env body s = some (true, t) ↔
      ∃ sess chain u, s.session = some sess ∧ entryLoop env body s = some (chain, u) ∧
        t = { u with session := some { sess with peerChain := some chain } } := by
  have hother : sslIsUsing1609OtherSide s = sslIsUsing1609Server s := by
    simp only [sslIsUsing1609OtherSide, hs, Bool.false_eq_true, if_false]
  simp only [entryLoop, hs, Bool.false_eq_true, if_false, hother]
  unfold tlsProcessServerCertificate
  cases hsess : s.session with
  | none => simp only [reduceCtorEq, false_and, exists_false]
  | some sess =>
      simp only [Option.some.injEq]
      cases serverCertificateList s.tls13 body with
      | none =>
          simp only [sslFail_ne_true, reduceCtorEq, false_and, and_false, exists_false]
      | some list =>
          simp only
          split
          · rename_i hr
            simp only [hr, reduceCtorEq, false_and, and_false, exists_false]
          · rename_i hr
            simp only [hr, reduceCtorEq, false_and, and_false, exists_false, iff_false]
            exact abandon_ne_true _ _ _
          · rename_i chain u hr
            simp only [hr, Option.some.injEq, Prod.mk.injEq, true_and]
            constructor
            · intro h
              exact ⟨sess, chain, u, rfl, ⟨rfl, rfl⟩, h.symm⟩
            · rintro ⟨_, _, _, rfl, ⟨rfl, rfl⟩, h⟩
              exact h.symm

/-- While the peer uses 1609.2, the chain at the end of the entry loop has one live
    object for each entry of the message, in their order and with their octets, exactly
    if no entry is empty. -/
theorem stored_faithfully_iff {env : Env ω} {body : Bytes} {chain : List Nat} {s t : SSL ω}
    (h13 : s.tls13 = true) (h1609 : sslIsUsing1609OtherSide s = true)
    (h : entryLoop env body s = some (chain, t)) :
    Faithful t.heap chain (certificatesOf body) ↔ ∀ e ∈ certificatesOf body, e ≠ [] := by
  rcases entryLoop_some h13 h with ⟨badCert, list, hlist, hr⟩
  rw [h1609] at hr
  simp only [certificatesOf, hlist]
  exact readCertificates_faithful_iff h13 hr

/-- A client that is about to read the Certificate of a 1609.2 server. -/
def expectingCertificate (P : SSL Unit → Bool) : Bool :=
  (run (step verifyingEnv) newClient (clientFlight []).dropLast).any (fun s =>
    s.tls13 && sslIsUsing1609OtherSide s && P s)

theorem expectingCertificate_run {P : SSL Unit → Bool} (h : expectingCertificate P = true) :
    ∃ s, run (step verifyingEnv) newClient (clientFlight []).dropLast = some s ∧
      s.tls13 = true ∧ sslIsUsing1609OtherSide s = true ∧ P s = true := by
  rcases (Option.any_eq_true _ _).mp h with ⟨s, hs, hp⟩
  simp only [Bool.and_eq_true] at hp
  exact ⟨s, hs, hp.1.1, hp.1.2, hp.2⟩

/-- A body with an entry of one octet and one of two. -/
def twoEntries : Bytes := [0, 0, 0, 13, 0, 0, 1, 7, 0, 0, 0, 0, 2, 8, 9, 0, 0]

/-- A client that accepts the body has both entries in its session. -/
theorem stored_faithfully_two_entries :
    ∃ s t chain, run (step verifyingEnv) newClient (clientFlight []).dropLast = some s ∧
      tlsProcessServerCertificate verifyingEnv twoEntries s = some (true, t) ∧
      t.session.bind (fun sess => sess.peerChain) = some chain ∧
      Faithful t.heap chain [[7], [8, 9]] := by
  obtain ⟨s, hs, h13, hu, hp⟩ := expectingCertificate_run (P := fun s => !s.server &&
    (tlsProcessServerCertificate verifyingEnv twoEntries s).any (fun r => r.1)) (by decide +kernel)
  rw [Bool.and_eq_true, Bool.not_eq_true'] at hp
  rcases (Option.any_eq_true _ _).mp hp.2 with ⟨⟨ret, t⟩, hr, rfl⟩
  rcases (tlsProcessServerCertificate_iff hp.1).mp hr with ⟨sess, chain, u, -, hloop, rfl⟩
  have hiff := stored_faithfully_iff h13 hu hloop
  exact ⟨s, _, chain, hs, hr, rfl, hiff.mpr (by decide)⟩

/-- One empty entry: the loop comes to its end with a released object in the chain. -/
theorem empty_entry_stored :
    ¬ ∀ (s0 s t : SSL Unit) (es : List Event) (body : Bytes) (chain : List Nat),
      s0.statem.state = .uninited → run (step verifyingEnv) s0 es = some s → s.tls13 = true →
      sslIsUsing1609OtherSide s = true → entryLoop verifyingEnv body s = some (chain, t) →
      Faithful t.heap chain (certificatesOf body) := by
  intro h
  obtain ⟨s, hs, h13, hu, hp⟩ := expectingCertificate_run (P := fun s =>
    (entryLoop verifyingEnv [0, 0, 0, 5, 0, 0, 0, 0, 0] s).any (fun r =>
      r.1.all (fun a => r.2.heap.read a = none))) (by decide +kernel)
  rcases (Option.any_eq_true _ _).mp hp with ⟨⟨chain, t⟩, hr, hdead⟩
  have hf := h newClient s t _ _ chain rfl hs h13 hu hr
  rw [List.all_eq_true] at hdead
  rw [show certificatesOf [0, 0, 0, 5, 0, 0, 0, 0, 0] = [[]] by decide] at hf
  cases hf with
  | cons hc hrest =>
      rcases hc with ⟨x, c, hx, -⟩
      rw [of_decide_eq_true (hdead _ (List.mem_cons_self ..))] at hx
      exact absurd hx (by simp only [reduceCtorEq, not_false_eq_true])

section Writing

variable {env : Env ω}

end Writing

section Reading

variable {env : Env ω}

end Reading

/-- The slot a side writes its Certificate from. A client that has none to offer gives
    no slot. -/
def sendingSlot (s : SSL ω) : Option CertPkey :=
  if s.server then s.tmp.cert.map s.cert.pkeys
  else if s.tmp.certReq = 2 then none
  else some (s.cert.pkeys s.cert.key)

/-- The Certificate of either side. -/
def constructCertificate (env : Env ω) (s : SSL ω) : Option (Built × SSL ω) :=
  if s.server then tlsConstructServerCertificate env s else tlsConstructClientCertificate env s

end Iso21177
