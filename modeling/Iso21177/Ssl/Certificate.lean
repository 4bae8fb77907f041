import Iso21177.Ssl.ExtTable
import Iso21177.Ssl.Config

/-!
# Certificate Messages

Reading the peer's Certificate message and writing one's own.

A received entry becomes an object on the heap. While the peer's role uses
1609.2, the object is the built-in placeholder with the entry attached to it. An
entry of no octets goes wrong: nothing can be attached, the object is released,
and yet its address is kept and pushed on the chain, because the caller only
looks for a null pointer. The allocator may hand that address to a later entry.

Client and server store the chain differently. The client keeps the whole list
as the chain and takes another reference to its head as the peer; the server
moves the head out of the list.

## Main definitions

* `setIeee1609Cert`, `d2iX509Into`: Filling an object from an entry.
* `readCertificate`, `readCertificates`: Reading the entries.
* `sslVerifyCertChain`: Verifying the chain by its head.
* `tlsProcessServerCertificate`, `tlsPostProcessServerCertificate`: The client.
* `tlsProcessClientCertificate`: The server.
* `sslAddCertToWpacket`, `addCerts`: Writing the entries.
* `tlsConstructServerCertificate`, `tlsConstructClientCertificate`: Writing the
  message.
* `certificateList`, `certificateEntries`: What a message carries.
* `peerCertFields`, `ownFields`: What reading and writing may change.

## Theorems

* `abandon_ne_true`, `unbuilt_ne`: The error exits never succeed.
* `touches_readCertificate`, `touches_readCertificates`, `touches_abandon`,
  `touches_sslVerifyCertChain`: What the readers touch.
* `touches_tlsProcessServerCertificate`, `touches_tlsPostProcessServerCertificate`,
  `touches_tlsProcessClientCertificate`: What processing a Certificate touches.
* `touches_addCerts`, `touches_ssl3OutputCertChain`,
  `touches_tlsConstructServerCertificate`, `touches_tlsConstructClientCertificate`:
  What writing one touches.
-/

namespace Iso21177

open Packet

variable {ω : Type}

/-- `X509_set_IEEE1609_CERT` on the object at `a`. No memory is had for an empty
    entry, and then the object is released without the caller noticing. -/
def setIeee1609Cert (a : Nat) (entry : Bytes) (h : Heap X509) : Option (Heap X509) :=
  if entry = [] then h.release a
  else some (h.write a ⟨.placeholder, some ⟨entry, noHash⟩⟩)

/-- `d2i_X509` on the object at `a`: how much was read, or `none` inside if it
    could not be parsed, which releases the object. -/
def d2iX509Into (env : Env ω) (a : Nat) (entry : Bytes) (h : Heap X509) :
    Option (Option Nat × Heap X509) :=
  match env.d2iX509 entry with
  | none =>
    match h.release a with
    | none => none
    | some h' => some (none, h')
  | some (pubkey, n) => some (some n, h.write a ⟨.parsed (entry.take n) pubkey, none⟩)

/-- One entry parsed into the object at `a` by the kind of certificate. -/
def fillCertificate (env : Env ω) (using1609 : Bool) (a : Nat) (entry : Bytes)
    (h : Heap X509) : Option (Option Nat × Heap X509) :=
  if using1609 then
    match setIeee1609Cert a entry h with
    | none => none
    | some h' => some (some entry.length, h')
  else d2iX509Into env a entry h

/-- The extensions of an entry, which only TLS 1.3 has. -/
def entryExtensions (env : Env ω) (chainidx : Nat) (p : Bytes) (s : SSL ω) :
    Option (Option Bytes × SSL ω) :=
  if s.tls13 then
    match getLengthPrefixed 2 p with
    | none => some (none, sslFatal .decodeError .badLength s)
    | some (exts, rest) =>
      match collecting env exts sslExtTls13Certificate (chainidx = 0)
          (fun raw => tlsParseAllExtensions env sslExtTls13Certificate raw chainidx
            (rest = [])) s with
      | none => none
      | some (false, s') => some (none, s')
      | some (true, s') => some (some rest, s')
  else some (some p, s)

/-- A reader of entries that stopped: the object not yet on the chain, if any. -/
structure Stopped (ω : Type) where
  pending : Option Nat
  ssl : SSL ω

/-- The outcome of a reader as that of a call. -/
def readOutcome : Except (Stopped ω) (SSL ω) → Bool × SSL ω
  | .error e => (false, e.ssl)
  | .ok t => (true, t)

/-- One entry of the list: the address of its object and what follows it. -/
def readCertificate (env : Env ω) (using1609 : Bool) (badCert : Alert) (chainidx : Nat)
    (p : Bytes) (s : SSL ω) : Option (Except (Stopped ω) (Nat × Bytes × SSL ω)) :=
  match getLengthPrefixed 3 p with
  | none => some (.error ⟨none, sslFatal .decodeError .certLengthMismatch s⟩)
  | some (entry, rest) =>
    let (a, h) := env.allocator.alloc s.heap ⟨.empty, none⟩
    match fillCertificate env using1609 a entry h with
    | none => none
    | some (none, h') =>
      some (.error ⟨none, sslFatal badCert .asn1Lib { s with heap := h' }⟩)
    | some (some n, h') =>
      if n ≠ entry.length then
        some (.error ⟨some a,
          sslFatal .decodeError .certLengthMismatch { s with heap := h' }⟩)
      else
        match entryExtensions env chainidx rest { s with heap := h' } with
        | none => none
        | some (none, s') => some (.error ⟨some a, s'⟩)
        | some (some rest', s') => some (.ok (a, rest', s'))

/-- The entries of the list, with those read so far. The bound on their number
    is the length of the list, and every entry takes at least three octets. -/
def readCertificates (env : Env ω) (using1609 : Bool) (badCert : Alert) :
    Nat → Bytes → List Nat → SSL ω → Option (Except (List Nat × Stopped ω) (List Nat × SSL ω))
  | _, [], chain, s => some (.ok (chain, s))
  | 0, _ :: _, chain, s => some (.error (chain, ⟨none, s⟩))
  | fuel + 1, x :: p, chain, s =>
    match readCertificate env using1609 badCert chain.length (x :: p) s with
    | none => none
    | some (.error e) => some (.error (chain, e))
    | some (.ok (a, rest, s')) =>
      readCertificates env using1609 badCert fuel rest (chain ++ [a]) s'

/-- Release every object of a list. -/
def releaseAll : List Nat → Heap X509 → Option (Heap X509)
  | [], h => some h
  | a :: as, h =>
    match h.release a with
    | none => none
    | some h' => releaseAll as h'

/-- The error exit of both readers: release what was read and fail. Releasing an
    object twice is undefined. -/
def abandon (chain : List Nat) (e : Stopped ω) : Option (Bool × SSL ω) :=
  match releaseAll (e.pending.toList ++ chain) e.ssl.heap with
  | none => none
  | some h => some (false, { e.ssl with heap := h })

/-- `ssl_verify_cert_chain`. The security entity is asked about the head of a
    1609.2 chain, and the hash it returns is stored in the object. -/
def sslVerifyCertChain (env : Env ω) (chain : List Nat) : Call (SSL ω) := fun s =>
  match chain with
  | [] => some (false, s)
  | a :: as =>
    match s.heap.read a with
    | none => none
    | some x =>
      match x.ieee1609 with
      | some c =>
        match ieee1609CertVerify env c s with
        | none => none
        | some (none, s') => some (false, s')
        | some (some c', s') =>
          some (true, { s' with heap := s'.heap.write a { x with ieee1609 := some c' } })
      | none =>
        -- The verifier of X.509 chains is given all objects of the chain.
        match (a :: as).mapM s.heap.read with
        | none => none
        | some xs =>
          some ((env.verifyX509 s.other xs).1,
            { s with verifyResult := (env.verifyX509 s.other xs).2 })

/-- The list of a server's Certificate: an empty context, and a list that is not
    empty and takes the whole message. -/
def serverCertificateList (tls13 : Bool) (body : Bytes) : Option Bytes :=
  let list := if tls13 then
    match getNet 1 body with
    | some (0, p) => getNet 3 p
    | _ => none
    else getNet 3 body
  match list with
  | none => none
  | some (n, p) => if p.length = n ∧ p ≠ [] then some p else none

/-- `tls_process_server_certificate`: set `peerChain` from the message. -/
def tlsProcessServerCertificate (env : Env ω) (body : Bytes) : Call (SSL ω) := fun s =>
  match s.session with
  | none => none
  | some sess =>
    -- The list is in place from the start, and taken away again on an error.
    let noChain := fun s' : SSL ω => { s' with session := some { sess with peerChain := none } }
    match serverCertificateList s.tls13 body with
    | none => sslFail .decodeError .lengthMismatch (noChain s)
    | some list =>
      match readCertificates env (sslIsUsing1609Server s) .badCertificate list.length list [] s with
      | none => none
      | some (.error (chain, e)) => abandon chain { e with ssl := noChain e.ssl }
      | some (.ok (chain, s')) =>
        some (true, { s' with session := some { sess with peerChain := some chain } })

/-- Save the hash of the transcript for the CertificateVerify to come. -/
def saveCertVerifyHash (env : Env ω) : Call (SSL ω) := fun s =>
  if s.tls13 then
    match env.handshakeHash s.trace s.other with
    | none => sslFail .internalError .internalError s
    | some h => some (true, { s with certVerifyHash := h })
  else some (true, s)

/-- The server's X.509 key must be there and be of a known kind. -/
def checkServerKey (env : Env ω) (x : X509) : Call (SSL ω) := fun s =>
  if x.isIeee1609Cert then some (true, s)
  else
    match x.pubkey with
    | none => sslFail .internalError .unableToFindPublicKeyParameters s
    | some k =>
      if env.missingParameters k then
        sslFail .internalError .unableToFindPublicKeyParameters s
      else
        match k.idx with
        | none => sslFail .illegalParameter .unknownCertificateType s
        | some i =>
          if !s.tls13 && !env.amaskAllows s.other i then
            sslFail .illegalParameter .wrongCertificateType s
          else some (true, s)

/-- The object at `a` becomes the peer, with a reference of its own. -/
def setPeer (a : Nat) : Call (SSL ω) := fun s =>
  match s.session with
  | none => none
  | some sess =>
    match releaseAll sess.peer.toList s.heap with
    | none => none
    | some h =>
      match h.upRef a with
      | none => none
      | some h' => some (true, { s with heap := h', session := some { sess with peer := some a } })

/-- `tls_post_process_server_certificate`. A chain that fails to verify is fatal
    only if some verification flag is set. -/
def tlsPostProcessServerCertificate (env : Env ω) : Call (SSL ω) := fun s =>
  match s.session with
  | none => none
  | some sess =>
    let chain := sess.peerChain.getD []
    match sslVerifyCertChain env chain s with
    | none => none
    | some (ok, s1) =>
      if s1.verifyMode ≠ 0 ∧ ¬ ok then
        sslFail (env.x509err2alert s1.verifyResult) .certificateVerifyFailed s1
      else
        match chain with
        | [] => sslFail .internalError .unableToFindPublicKeyParameters s1
        | a :: _ =>
          match s1.heap.read a with
          | none => none
          | some x =>
            Call.seq (checkServerKey env x) (Call.seq (setPeer a) (saveCertVerifyHash env)) s1

/-- The list of a client's Certificate: the context of the request, and a list
    that takes the rest of the message. -/
def clientCertificateList (tls13 : Bool) (phaContext body : Bytes) : Except Reason Bytes :=
  let list := fun p =>
    match getLengthPrefixed 3 p with
    | some (l, []) => .ok l
    | _ => .error .lengthMismatch
  if tls13 then
    match getLengthPrefixed 1 body with
    | some (context, p) => if context = phaContext then list p else .error .invalidContext
    | none => .error .invalidContext
  else list body

/-- What the server makes of the entries: none is an error only if one was
    required, and a chain must verify. -/
def checkClientChain (env : Env ω) (chain : List Nat) : Call (SSL ω) := fun s =>
  match chain with
  | [] =>
    if s.verifyMode &&& sslVerifyPeer ≠ 0 ∧ s.verifyMode &&& sslVerifyFailIfNoPeerCert ≠ 0 then
      sslFail .certificateRequired .peerDidNotReturnACertificate s
    else runPhase env .digestCachedRecords [] s
  | a :: as =>
    match sslVerifyCertChain env (a :: as) s with
    | none => none
    | some (false, s') =>
      sslFail (env.x509err2alert s'.verifyResult) .certificateVerifyFailed s'
    | some (true, s') =>
      match s'.heap.read a with
      | none => none
      | some x =>
        if !x.isIeee1609Cert && x.pubkey.isNone then
          sslFail .handshakeFailure .unknownCertificateType s'
        else some (true, s')

/-- The head of the list becomes the peer and the rest its chain. -/
def storeClientChain (chain : List Nat) : Call (SSL ω) := fun s =>
  match s.session with
  | none => none
  | some sess =>
    match releaseAll (sess.peer.toList ++ sess.peerChain.getD []) s.heap with
    | none => none
    | some h =>
      some (true, { s with heap := h, session := some ⟨chain.head?, some chain.tail⟩ })

/-- `tls_process_client_certificate`. -/
def tlsProcessClientCertificate (env : Env ω) (body : Bytes) : Call (SSL ω) := fun s =>
  match clientCertificateList s.tls13 s.phaContext body with
  | .error reason => sslFail .decodeError reason s
  | .ok list =>
    match readCertificates env (sslIsUsing1609Client s) .decodeError list.length list [] s with
    | none => none
    | some (.error (chain, e)) => abandon chain e
    | some (.ok (chain, s')) =>
      match checkClientChain env chain s' with
      | none => none
      | some (false, s'') => abandon chain ⟨none, s''⟩
      | some (true, s'') =>
        Call.seq (storeClientChain chain)
          (Call.seq (fun t => if t.tls13 then runPhase env .digestCachedRecords [] t
            else some (true, t)) (saveCertVerifyHash env)) s''

/-- `i2d_X509`. -/
def X509.der (env : Env ω) (x : X509) : Option Bytes :=
  match x.body with
  | .empty => none
  | .placeholder => some env.x509CertDer
  | .parsed der _ => some der

/-- `ERR_R_BUF_LIB`. -/
def errRBufLib : Nat := 7

/-- The octets of one's own certificate as it is sent. -/
def entryContent (env : Env ω) (using1609 : Bool) (x : X509) : Except Fault Bytes :=
  if using1609 then
    match x.ieee1609 with
    | none => .error (.internalError, .mallocFailure)
    | some c => .ok c.certData
  else
    match x.der env with
    | none => .error (.internalError, .other errRBufLib)
    | some der => .ok der

/-- `ssl_add_cert_to_wpacket`: one entry, or `none` after a fatal error. -/
def sslAddCertToWpacket (env : Env ω) (x : X509) (chainidx : Nat) (s : SSL ω) :
    Option Bytes × SSL ω :=
  match entryContent env (sslIsUsing1609ThisSide s) x with
  | .error (al, reason) => (none, sslFatal al reason s)
  | .ok bytes =>
    match putSub 3 bytes with
    | none => (none, sslFatal .internalError .internalError s)
    | some enc =>
      if s.tls13 then
        match tlsConstructExtensions env sslExtTls13Certificate chainidx s with
        | (none, s') => (none, s')
        | (some exts, s') => (some (enc ++ beBytes 2 exts.length ++ exts), s')
      else (some enc, s)

/-- One entry for each object. -/
def addCerts (env : Env ω) : Nat → List X509 → SSL ω → Option Bytes × SSL ω
  | _, [], s => (some [], s)
  | i, x :: xs, s =>
    match sslAddCertToWpacket env x i s with
    | (none, s') => (none, s')
    | (some e, s') =>
      match addCerts env (i + 1) xs s' with
      | (none, s'') => (none, s'')
      | (some es, s'') => (some (e ++ es), s'')

/-- The objects `ssl_add_cert_chain` writes. Without a slot the current
    certificate is sent all the same if this side uses 1609.2; that there is one
    is not checked, and there being none is undefined. -/
def chainToSend (env : Env ω) (cpk : Option CertPkey) (s : SSL ω) :
    Option (Except Fault (List X509)) :=
  match cpk.bind CertPkey.x509 with
  | none =>
    if sslIsUsing1609ThisSide s then
      -- The current slot is read without looking whether it holds a certificate.
      match (s.cert.pkeys s.cert.key).x509 with
      | none => none
      | some x => some (.ok [x])
    else some (.ok [])
  | some x =>
    let xs :=
      match s.cert.extraCerts with
      | some extra => x :: extra
      | none =>
        if env.autoChain s.other then
          x :: (env.chainTail x s.other).map (fun c => ⟨.parsed c.1 c.2, none⟩)
        else [x]
    match env.securityCertChain xs s.other with
    | some reason => some (.error (.internalError, .other reason))
    | none => some (.ok xs)

/-- A written message with what it was made from, or `none` after a fatal
    error. -/
abbrev Built := Option (Msg × Source)

/-- What ended in a fatal error is not a message. -/
theorem unbuilt_ne {β : Type} (s t : SSL ω) (b : β) : some (none, s) ≠ some (some b, t) := by
  simp only [ne_eq, Option.some.injEq, Prod.mk.injEq, reduceCtorEq, false_and, not_false_eq_true]

/-- `ssl3_output_cert_chain` behind the context of the message. -/
def ssl3OutputCertChain (env : Env ω) (context : Bytes) (cpk : Option CertPkey) (s : SSL ω) :
    Option (Built × SSL ω) :=
  match chainToSend env cpk s with
  | none => none
  | some (.error (al, reason)) => some (none, sslFatal al reason s)
  | some (.ok xs) =>
    match addCerts env 0 xs s with
    | (none, s') => some (none, s')
    | (some list, s') =>
      match putSub 3 list with
      | none => some (none, sslFatal .internalError .internalError s')
      | some enc => some (some (.certificate (context ++ enc), .chain xs), s')

/-- `tls_construct_server_certificate`. -/
def tlsConstructServerCertificate (env : Env ω) (s : SSL ω) : Option (Built × SSL ω) :=
  match s.tmp.cert with
  | none => some (none, sslFatal .internalError .internalError s)
  | some i => ssl3OutputCertChain env (if s.tls13 then [0] else []) (some (s.cert.pkeys i)) s

/-- `tls_construct_client_certificate`. -/
def tlsConstructClientCertificate (env : Env ω) (s : SSL ω) : Option (Built × SSL ω) :=
  match (if s.tls13 then putSub 1 s.phaContext else some []) with
  | none => some (none, sslFatal .internalError .internalError s)
  | some context =>
    let cpk := if s.tmp.certReq = 2 then none else some (s.cert.pkeys s.cert.key)
    match ssl3OutputCertChain env context cpk s with
    | none => none
    | some (none, s') => some (none, s')
    | some (some m, s') =>
      if s'.tls13 && (env.rest s'.other).firstHandshake then
        match runPhase env .changeCipherState [] s' with
        | none => none
        | some (false, s'') => some (none, s'')
        | some (true, s'') => some (some m, s'')
      else some (some m, s')

/-- The list inside a Certificate message of TLS 1.3, whoever sent it. -/
def certificateList (body : Bytes) : Option Bytes :=
  match getLengthPrefixed 1 body with
  | none => none
  | some (_, p) =>
    match getLengthPrefixed 3 p with
    | none => none
    | some (list, _) => some list

/-- The certificates of a list of TLS 1.3, up to the first framing error. -/
def certificateEntries : Nat → Bytes → List Bytes
  | 0, _ => []
  | fuel + 1, p =>
    match getLengthPrefixed 3 p with
    | none => []
    | some (entry, rest) =>
      match getLengthPrefixed 2 rest with
      | none => [entry]
      | some (_, rest') => entry :: certificateEntries fuel rest'

section Frames

variable (env : Env ω)

/-- The extensions of an entry are read by code outside. -/
theorem touches_entryExtensions {chainidx : Nat} {p : Bytes} {s t : SSL ω} {r : Option Bytes}
    (h : entryExtensions env chainidx p s = some (r, t)) : Touches [.other] s r.isSome t := by
  unfold entryExtensions at h
  split at h
  · split at h
    · rw [← (Prod.mk.inj (Option.some.inj h)).1, ← (Prod.mk.inj (Option.some.inj h)).2]
      exact touches_sslFatal _ _ _ s
    · split at h
      · exact absurd h (by simp only [reduceCtorEq, not_false_eq_true])
      · rename_i s' hc
        rw [← (Prod.mk.inj (Option.some.inj h)).1, ← (Prod.mk.inj (Option.some.inj h)).2]
        exact touches_collecting_quiet env (by decide) _ _ _ _ s false s' hc
      · rename_i s' hc
        rw [← (Prod.mk.inj (Option.some.inj h)).1, ← (Prod.mk.inj (Option.some.inj h)).2]
        exact touches_collecting_quiet env (by decide) _ _ _ _ s true s' hc
  · rw [← (Prod.mk.inj (Option.some.inj h)).1, ← (Prod.mk.inj (Option.some.inj h)).2]
    exact touches_refl _ s true

theorem touches_heap (s : SSL ω) (h : Heap X509) (b : Bool) :
    Touches [.heap] s b { s with heap := h } :=
  touches_update (by constructor <;> intros <;> first | contradiction | rfl) rfl rfl

/-- A read entry touches the heap and the remaining fields. -/
theorem touches_readCertificate {using1609 : Bool} {badCert : Alert} {chainidx : Nat} {p : Bytes}
    {s : SSL ω} {r : Except (Stopped ω) (Nat × Bytes × SSL ω)}
    (h : readCertificate env using1609 badCert chainidx p s = some r) :
    Touches [.heap, .other] s (readOutcome (r.map (fun v => v.2.2))).1
      (readOutcome (r.map (fun v => v.2.2))).2 := by
  unfold readCertificate at h
  split at h
  · rw [← Option.some.inj h]
    exact touches_sslFatal _ _ _ s
  · simp only at h
    split at h
    · exact absurd h (by simp only [reduceCtorEq, not_false_eq_true])
    · rename_i h' hf
      rw [← Option.some.inj h]
      exact touches_trans (touches_mono (by decide) (touches_heap s h' true))
        (touches_sslFatal _ _ _ _)
    · rename_i n h' hf
      -- An object was allocated and filled; what follows may still fail.
      have hheap : Touches [.heap, .other] s true { s with heap := h' } :=
        touches_mono (by decide) (touches_heap s h' true)
      split at h
      · rw [← Option.some.inj h]
        exact touches_trans hheap (touches_sslFatal _ _ _ _)
      · split at h
        · exact absurd h (by simp only [reduceCtorEq, not_false_eq_true])
        · rename_i s' he
          rw [← Option.some.inj h]
          exact touches_trans hheap (touches_mono (by decide) (touches_entryExtensions env he))
        · rename_i rest' s' he
          rw [← Option.some.inj h]
          exact touches_trans hheap (touches_mono (by decide) (touches_entryExtensions env he))

/-- Reading the entries touches what reading each of them does. -/
theorem touches_readCertificates {using1609 : Bool} {badCert : Alert} (fuel : Nat) {p : Bytes}
    {chain : List Nat} {s : SSL ω} {r : Except (List Nat × Stopped ω) (List Nat × SSL ω)}
    (h : readCertificates env using1609 badCert fuel p chain s = some r) :
    Touches [.heap, .other] s (readOutcome ((r.mapError Prod.snd).map Prod.snd)).1
      (readOutcome ((r.mapError Prod.snd).map Prod.snd)).2 := by
  induction fuel generalizing p chain s with
  | zero =>
      cases p with
      | nil =>
          simp only [readCertificates, Option.some.injEq] at h
          rw [← h]
          exact touches_refl _ s true
      -- Octets are left, but the bound is used up.
      | cons x p =>
          simp only [readCertificates, Option.some.injEq] at h
          rw [← h]
          exact touches_refl _ s false
  | succ fuel ih =>
      cases p with
      | nil =>
          simp only [readCertificates, Option.some.injEq] at h
          rw [← h]
          exact touches_refl _ s true
      | cons x p =>
          simp only [readCertificates] at h
          split at h
          · exact absurd h (by simp only [reduceCtorEq, not_false_eq_true])
          · rename_i e hc
            rw [← Option.some.inj h]
            exact touches_readCertificate env hc
          · rename_i a rest s' hc
            exact touches_trans (touches_readCertificate env hc) (ih h)

/-- The error exit never succeeds. -/
theorem abandon_ne_true (chain : List Nat) (e : Stopped ω) (t : SSL ω) :
    abandon chain e ≠ some (true, t) := by
  unfold abandon
  intro h
  split at h
  · exact absurd h (by simp only [reduceCtorEq, not_false_eq_true])
  · simp only [Option.some.injEq, Prod.mk.injEq, Bool.false_eq_true, false_and] at h

/-- A failure after which the chain is given back. -/
theorem touches_abandon {fs : List Field} {chain : List Nat} {e : Stopped ω} {s t : SSL ω}
    {b : Bool} (hsub : Field.heap ∈ fs) (hs : Touches fs s false e.ssl)
    (h : abandon chain e = some (b, t)) : Touches fs s b t := by
  unfold abandon at h
  split at h
  · exact absurd h (by simp only [reduceCtorEq, not_false_eq_true])
  · rename_i h' _
    rw [← (Prod.mk.inj (Option.some.inj h)).1, ← (Prod.mk.inj (Option.some.inj h)).2]
    have hheap := touches_heap e.ssl h' false
    exact {
      toKeeps := keeps_trans hs.toKeeps (keeps_mono (by simpa using hsub) hheap.toKeeps)
      statem := fun hb => absurd hb (by simp only [Bool.false_eq_true, not_false_eq_true])
      handState := hs.handState
      grows := grows_trans hs.grows hheap.grows }

/-- Checking a chain keeps the result and the hash the entity returned. -/
theorem touches_sslVerifyCertChain (chain : List Nat) :
    Call.Rel (fun s _ t => Touches [.heap, .verifyResult, .trace] s true t)
      (sslVerifyCertChain env chain) := by
  intro s b t h
  unfold sslVerifyCertChain at h
  split at h
  · rw [← (Prod.mk.inj (Option.some.inj h)).2]
    exact touches_refl _ s true
  · split at h
    · exact absurd h (by simp only [reduceCtorEq, not_false_eq_true])
    · split at h
      · split at h
        · exact absurd h (by simp only [reduceCtorEq, not_false_eq_true])
        · rename_i hv
          -- Asking the entity adds the exchange to the record.
          rcases ieee1609CertVerify_note hv with ⟨reply, rfl⟩
          rw [← (Prod.mk.inj (Option.some.inj h)).2]
          exact touches_mono (by decide) (touches_exchange s _ reply)
        · rename_i hv
          rcases ieee1609CertVerify_note hv with ⟨reply, rfl⟩
          rw [← (Prod.mk.inj (Option.some.inj h)).2]
          exact touches_trans (touches_mono (by decide) (touches_exchange s _ reply))
            (touches_mono (by decide) (touches_heap _ _ true))
      · split at h
        · exact absurd h (by simp only [reduceCtorEq, not_false_eq_true])
        · rw [← (Prod.mk.inj (Option.some.inj h)).2]
          exact touches_update (by constructor <;> intros <;> first | contradiction | rfl) rfl rfl

/-- The fields the processing of the peer's Certificate may change. -/
def peerCertFields : List Field := [.heap, .other, .session, .verifyResult, .trace, .hash]

theorem touches_session (s : SSL ω) (sess : Option Session) (b : Bool) :
    Touches [.session] s b { s with session := sess } :=
  touches_update (by constructor <;> intros <;> first | contradiction | rfl) rfl rfl

/-- What a client changes when it reads a Certificate. -/
theorem touches_tlsProcessServerCertificate (body : Bytes) :
    Call.Rel (Touches peerCertFields) (tlsProcessServerCertificate env body) := by
  intro s b t h
  unfold tlsProcessServerCertificate at h
  split at h
  · exact absurd h (by simp only [reduceCtorEq, not_false_eq_true])
  · simp only at h
    split at h
    · exact touches_trans (touches_mono (by decide) (touches_session s _ true))
        (touches_sslFail _ _ _ _ b t h)
    · split at h
      · exact absurd h (by simp only [reduceCtorEq, not_false_eq_true])
      · rename_i chain e hr
        -- The chain is taken out of the session before the objects are released.
        have he : Touches peerCertFields s false e.ssl :=
          touches_mono (by decide) (touches_readCertificates env _ hr)
        refine touches_abandon (by decide) ?_ h
        exact {
          toKeeps := keeps_trans he.toKeeps
            (keeps_mono (by decide) (touches_session e.ssl _ true).toKeeps)
          statem := fun hb => absurd hb (by simp only [Bool.false_eq_true, not_false_eq_true])
          handState := he.handState
          grows := he.grows }
      · rename_i chain s' hr
        have hs' : Touches peerCertFields s true s' :=
          touches_mono (by decide) (touches_readCertificates env _ hr)
        refine touches_some (touches_trans hs' ?_) h
        exact touches_mono (by decide) (touches_session s' _ true)

theorem touches_saveCertVerifyHash :
    Call.Rel (Touches [.hash]) (saveCertVerifyHash env) := by
  intro s b t h
  unfold saveCertVerifyHash at h
  split at h
  · split at h
    · exact touches_sslFail _ _ _ s b t h
    · refine touches_some ?_ h
      exact touches_update (by constructor <;> intros <;> first | contradiction | rfl) rfl rfl
  · exact touches_same h

theorem touches_checkServerKey (x : X509) :
    Call.Rel (Touches []) (checkServerKey env x) := by
  intro s b t h
  unfold checkServerKey at h
  split at h
  · exact touches_same h
  · split at h
    · exact touches_sslFail _ _ _ s b t h
    · split at h
      · exact touches_sslFail _ _ _ s b t h
      · split at h
        · exact touches_sslFail _ _ _ s b t h
        · split at h
          · exact touches_sslFail _ _ _ s b t h
          · exact touches_same h

/-- The peer is put into the session, with a reference of its own. -/
theorem touches_setPeer (a : Nat) :
    Call.Rel (Touches [.heap, .session]) (setPeer a : Call (SSL ω)) := by
  intro s b t h
  unfold setPeer at h
  split at h
  · exact absurd h (by simp only [reduceCtorEq, not_false_eq_true])
  · split at h
    · exact absurd h (by simp only [reduceCtorEq, not_false_eq_true])
    · split at h
      · exact absurd h (by simp only [reduceCtorEq, not_false_eq_true])
      · refine touches_some ?_ h
        exact touches_update (by constructor <;> intros <;> first | contradiction | rfl) rfl rfl

theorem touches_tlsPostProcessServerCertificate :
    Call.Rel (Touches peerCertFields) (tlsPostProcessServerCertificate env) := by
  intro s b t h
  unfold tlsPostProcessServerCertificate at h
  split at h
  · exact absurd h (by simp only [reduceCtorEq, not_false_eq_true])
  · simp only at h
    split at h
    · exact absurd h (by simp only [reduceCtorEq, not_false_eq_true])
    · rename_i ok s1 hv
      -- A chain that fails to verify is still taken on if no flag is set.
      have hs1 : Touches peerCertFields s true s1 :=
        touches_mono (by decide) (touches_sslVerifyCertChain env _ s ok s1 hv)
      refine touches_trans hs1 ?_
      split at h
      · exact touches_sslFail _ _ _ s1 b t h
      · split at h
        · exact touches_sslFail _ _ _ s1 b t h
        · split at h
          · exact absurd h (by simp only [reduceCtorEq, not_false_eq_true])
          · refine touches_seq (touches_weaken (by decide) (touches_checkServerKey env _))
              (touches_seq (touches_weaken (by decide) (touches_setPeer _))
                (touches_weaken (by decide) (touches_saveCertVerifyHash env))) s1 b t h

/-- What a server changes when it checks a chain, or misses one. -/
theorem touches_checkClientChain (chain : List Nat) :
    Call.Rel (Touches peerCertFields) (checkClientChain env chain) := by
  intro s b t h
  unfold checkClientChain at h
  split at h
  · split at h
    · exact touches_sslFail _ _ _ s b t h
    · exact touches_mono (by decide) (touches_runOther _ s b t h)
  · split at h
    · exact absurd h (by simp only [reduceCtorEq, not_false_eq_true])
    · rename_i s' hv
      exact touches_trans (touches_mono (by decide) (touches_sslVerifyCertChain env _ s _ s' hv))
        (touches_sslFail _ _ _ s' b t h)
    · rename_i s' hv
      refine touches_trans
        (touches_mono (by decide) (touches_sslVerifyCertChain env _ s _ s' hv)) ?_
      split at h
      · exact absurd h (by simp only [reduceCtorEq, not_false_eq_true])
      · split at h
        · exact touches_sslFail _ _ _ s' b t h
        · exact touches_same h

/-- The peer and the rest of its chain are put into the session. -/
theorem touches_storeClientChain (chain : List Nat) :
    Call.Rel (Touches [.heap, .session]) (storeClientChain chain : Call (SSL ω)) := by
  intro s b t h
  unfold storeClientChain at h
  split at h
  · exact absurd h (by simp only [reduceCtorEq, not_false_eq_true])
  · split at h
    · exact absurd h (by simp only [reduceCtorEq, not_false_eq_true])
    · refine touches_some ?_ h
      exact touches_update (by constructor <;> intros <;> first | contradiction | rfl) rfl rfl

/-- What a server changes when it reads a Certificate. -/
theorem touches_tlsProcessClientCertificate (body : Bytes) :
    Call.Rel (Touches peerCertFields) (tlsProcessClientCertificate env body) := by
  intro s b t h
  unfold tlsProcessClientCertificate at h
  split at h
  · exact touches_sslFail _ _ _ s b t h
  · split at h
    · exact absurd h (by simp only [reduceCtorEq, not_false_eq_true])
    · rename_i chain e hr
      have he : Touches peerCertFields s false e.ssl :=
        touches_mono (by decide) (touches_readCertificates env _ hr)
      exact touches_abandon (by decide) he h
    · rename_i chain s' hr
      have hs' : Touches peerCertFields s true s' :=
        touches_mono (by decide) (touches_readCertificates env _ hr)
      refine touches_trans hs' ?_
      split at h
      · exact absurd h (by simp only [reduceCtorEq, not_false_eq_true])
      · rename_i s'' hc
        -- The chain was read but is refused, so its objects are released.
        have hs'' : Touches peerCertFields s' false s'' :=
          touches_checkClientChain env chain s' _ s'' hc
        exact touches_abandon (by decide) hs'' h
      · rename_i s'' hc
        refine touches_trans (touches_checkClientChain env chain s' _ s'' hc) ?_
        refine touches_seq (touches_weaken (by decide) (touches_storeClientChain chain))
          (touches_seq (fun u c v hd => ?_)
            (touches_weaken (by decide) (touches_saveCertVerifyHash env))) s'' b t h
        beta_reduce at hd
        split at hd
        · exact touches_mono (by decide) (touches_runOther _ u c v hd)
        · exact touches_same hd

/-- The fields writing a message with extensions may change. -/
def ownFields : List Field := [.pha, .extflags, .other]

/-- An entry is written, with the extensions that go with it. -/
theorem touches_sslAddCertToWpacket {x : X509} {i : Nat} {s t : SSL ω} {r : Option Bytes}
    (h : sslAddCertToWpacket env x i s = (r, t)) : Touches ownFields s r.isSome t := by
  unfold sslAddCertToWpacket at h
  split at h
  · rw [← (Prod.mk.inj h).1, ← (Prod.mk.inj h).2]
    exact touches_sslFatal _ _ _ s
  · split at h
    · rw [← (Prod.mk.inj h).1, ← (Prod.mk.inj h).2]
      exact touches_sslFatal _ _ _ s
    · split at h
      · split at h
        · rename_i hc
          rw [← (Prod.mk.inj h).1, ← (Prod.mk.inj h).2]
          exact touches_tlsConstructExtensions env _ _ hc
        · rename_i hc
          have ht := touches_tlsConstructExtensions env _ _ hc
          rw [← (Prod.mk.inj h).1, ← (Prod.mk.inj h).2]
          exact ht
      · rw [← (Prod.mk.inj h).1, ← (Prod.mk.inj h).2]
        exact touches_refl _ s true

/-- The same of all entries, by induction on the chain. -/
theorem touches_addCerts {xs : List X509} {i : Nat} {s t : SSL ω} {r : Option Bytes}
    (h : addCerts env i xs s = (r, t)) : Touches ownFields s r.isSome t := by
  induction xs generalizing i s r t with
  | nil =>
      simp only [addCerts, Prod.mk.injEq] at h
      rw [← h.1, ← h.2]
      exact touches_refl _ s true
  | cons x xs ih =>
      simp only [addCerts] at h
      split at h
      · rename_i hc
        rw [← (Prod.mk.inj h).1, ← (Prod.mk.inj h).2]
        exact touches_sslAddCertToWpacket env hc
      · rename_i hc
        -- An entry that was written stays written, even if a later one fails.
        have hs' := touches_sslAddCertToWpacket env hc
        split at h
        · rename_i hr
          rw [← (Prod.mk.inj h).1, ← (Prod.mk.inj h).2]
          exact touches_trans hs' (ih hr)
        · rename_i hr
          have ht := touches_trans hs' (ih hr)
          rw [← (Prod.mk.inj h).1, ← (Prod.mk.inj h).2]
          exact ht

/-- A Certificate is written from a slot or without one. -/
theorem touches_ssl3OutputCertChain {context : Bytes} {cpk : Option CertPkey} {s t : SSL ω}
    {r : Built} (h : ssl3OutputCertChain env context cpk s = some (r, t)) :
    Touches ownFields s r.isSome t := by
  unfold ssl3OutputCertChain at h
  split at h
  · exact absurd h (by simp only [reduceCtorEq, not_false_eq_true])
  · rw [← (Prod.mk.inj (Option.some.inj h)).1, ← (Prod.mk.inj (Option.some.inj h)).2]
    exact touches_sslFatal _ _ _ s
  · split at h
    · rename_i hc
      rw [← (Prod.mk.inj (Option.some.inj h)).1, ← (Prod.mk.inj (Option.some.inj h)).2]
      exact touches_addCerts env hc
    · rename_i hc
      have hs' := touches_addCerts env hc
      split at h
      · rw [← (Prod.mk.inj (Option.some.inj h)).1, ← (Prod.mk.inj (Option.some.inj h)).2]
        exact touches_trans hs' (touches_sslFatal _ _ _ _)
      · rw [← (Prod.mk.inj (Option.some.inj h)).1, ← (Prod.mk.inj (Option.some.inj h)).2]
        exact hs'

theorem touches_tlsConstructServerCertificate {s t : SSL ω} {r : Built}
    (h : tlsConstructServerCertificate env s = some (r, t)) :
    Touches ownFields s r.isSome t := by
  unfold tlsConstructServerCertificate at h
  split at h
  · rw [← (Prod.mk.inj (Option.some.inj h)).1, ← (Prod.mk.inj (Option.some.inj h)).2]
    exact touches_sslFatal _ _ _ s
  · exact touches_ssl3OutputCertChain env h

theorem touches_tlsConstructClientCertificate {s t : SSL ω} {r : Built}
    (h : tlsConstructClientCertificate env s = some (r, t)) :
    Touches ownFields s r.isSome t := by
  unfold tlsConstructClientCertificate at h
  split at h
  · rw [← (Prod.mk.inj (Option.some.inj h)).1, ← (Prod.mk.inj (Option.some.inj h)).2]
    exact touches_sslFatal _ _ _ s
  · simp only at h
    split at h
    · exact absurd h (by simp only [reduceCtorEq, not_false_eq_true])
    · rename_i hc
      rw [← (Prod.mk.inj (Option.some.inj h)).1, ← (Prod.mk.inj (Option.some.inj h)).2]
      exact touches_ssl3OutputCertChain env hc
    · rename_i hc
      have hs' := touches_ssl3OutputCertChain env hc
      split at h
      · split at h
        · exact absurd h (by simp only [reduceCtorEq, not_false_eq_true])
        · rename_i hp
          rw [← (Prod.mk.inj (Option.some.inj h)).1, ← (Prod.mk.inj (Option.some.inj h)).2]
          exact touches_trans hs' (touches_mono (by decide) (touches_runOther _ _ _ _ hp))
        · rename_i hp
          rw [← (Prod.mk.inj (Option.some.inj h)).1, ← (Prod.mk.inj (Option.some.inj h)).2]
          exact touches_trans hs' (touches_mono (by decide) (touches_runOther _ _ _ _ hp))
      · rw [← (Prod.mk.inj (Option.some.inj h)).1, ← (Prod.mk.inj (Option.some.inj h)).2]
        exact hs'

end Frames

end Iso21177
