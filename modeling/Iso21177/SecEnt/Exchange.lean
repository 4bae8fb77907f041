import Mathlib.Data.Finset.Insert
import Mathlib.Data.Set.Finite.Basic
import Iso21177.Lib.Run
import Iso21177.SecEnt.Codec

/-!
# An Exchange from Connecting to Disconnecting

`sec_ent_process` opens a socket, connects it, sends one request, reads one reply and
closes the socket again. The handshake sees none of this: to it an exchange is one step,
in which the entity is a function of what happened before. This module is the connection
between the two.

What the socket does is anything the calls can return. The replies that can come of it are
the ones of the atomic step, no more and no fewer, and this for any number of exchanges one
after the other (`exchanges_refine`). So nothing is lost by reasoning about handshakes with
the atomic step, and nothing is assumed of the socket by it.

A descriptor is a number the system chooses among those that are not open. The code closes
what it opened on every path, with one exception: `disconnect_server` takes 0 for no
descriptor, although it is one. A process that runs with its standard input closed loses
it in the first exchange that connects. `descriptors_iff` says that this is all: nothing
else is left open, nothing is closed that was not opened here, and it happens once.

## Main definitions

* `ExchangeCalls`: What the calls of an exchange return.
* `closeFd`, `connectServer`, `disconnectServer`, `Socket.secEntProcess`: An exchange.
* `Fresh`: The system opens a descriptor that is not open.
* `FreshAlong`: It does so in each of a number of exchanges.
* `stalls`, `wireMsg`, `wireOf`: The message that came over the socket.
* `requestOctets`: What is written for a request.
* `LosesInput`, `fdsAfter`: An exchange that leaves descriptor 0 open.
* `Socket.exchanges`, `atomicReplies`: Exchanges one after the other, on either level.
* `wholeCalls`, `callsFor`: Calls by which a given message comes.
* `replay`: An entity that sends given messages.

## Theorems

* `stalls_iff`, `sendRecvServer_wireMsg`: The reply is that to the message on the wire.
* `length_requestOctets`, `disconnectServer_insert`, `secEntProcess_reply`: One exchange.
* `exchanges_replies`: Any number of them.
* `foldl_fdsAfter`, `no_loss_of_input`, `countP_losesInput_le`, `descriptors_iff`,
  `descriptors_lost`: The descriptors.
* `moves_whole`, `wireMsg_whole`, `secEntProcess_callsFor`: Every message can come.
* `atomicReplies_replay`, `exchanges_refine`, `exchanges_refine_two`: The two levels have the
  same replies.
-/

namespace Iso21177

open Packet

/-- What the calls of an exchange return: the descriptor of the socket if there is one,
    whether it connects, whether the send buffer is allocated, and how the octets move. -/
structure ExchangeCalls where
  socket : Option Nat
  connect : Bool
  malloc : Bool
  writes : List Int
  reads : List Int
  stream : Bytes

/-- `close`, which is `none` on a descriptor that is not open. -/
def closeFd (fd : Nat) (fds : Finset Nat) : Option (Finset Nat) :=
  if fd ∈ fds then some (fds.erase fd) else none

/-- `connect_server`: the descriptor, if there is a connection. -/
def connectServer (c : ExchangeCalls) (fds : Finset Nat) : Option (Option Nat × Finset Nat) :=
  match c.socket with
  | none => some (none, fds)
  | some fd =>
    if c.connect then some (some fd, insert fd fds)
    else (closeFd fd (insert fd fds)).map (fun fds => (none, fds))

/-- `disconnect_server`. -/
def disconnectServer (fd : Nat) (fds : Finset Nat) : Option (Finset Nat) :=
  if 0 < fd then closeFd fd fds else some fds

namespace Socket

/-- `sec_ent_process`. A length that does not fit its field overruns the send buffer, which
    is `none`. -/
def secEntProcess (w : Nat) (c : ExchangeCalls) (req : SecEntMsg) (fds : Finset Nat) :
    Option (SecEntReply × Finset Nat) :=
  match connectServer c fds with
  | none => none
  | some (none, fds) => some (.none, fds)
  | some (some fd, fds) =>
    if c.malloc then
      match secEntMsgGetSendBuffer req with
      | none => none
      | some (out, len) =>
        (disconnectServer fd fds).map
          (fun fds => ((sendRecvServer w (out.take len) c.writes c.reads c.stream).1, fds))
    else (disconnectServer fd fds).map (fun fds => (.none, fds))

/-- Exchanges one after the other. -/
def exchanges (w : Nat) : List (SecEntMsg × ExchangeCalls) → Finset Nat →
    Option (List SecEntReply × Finset Nat)
  | [], fds => some ([], fds)
  | (req, c) :: es, fds =>
    match Socket.secEntProcess w c req fds with
    | none => none
    | some (r, fds) => (exchanges w es fds).map (fun p => (r :: p.1, p.2))

end Socket

/-- The system hands out a descriptor that is not open. -/
def Fresh (c : ExchangeCalls) (fds : Finset Nat) : Prop := ∀ fd, c.socket = some fd → fd ∉ fds

/-- The system does so in each exchange. -/
def FreshAlong (w : Nat) : List (SecEntMsg × ExchangeCalls) → Finset Nat → Prop
  | [], _ => True
  | (req, c) :: es, fds => Fresh c fds ∧
    ∀ r fds', Socket.secEntProcess w c req fds = some (r, fds') → FreshAlong w es fds'

/-- Some call moved nothing. -/
def stalls (ms : List Bytes) : Bool := ms.any List.isEmpty

theorem stalls_iff {ms : List Bytes} : stalls ms = true ↔ [] ∈ ms := by
  simp only [stalls, List.any_eq_true, List.isEmpty_iff, exists_eq_right]

/-- The message on the socket, if one was read whole and it fits the buffer. -/
def wireMsg (writes reads : List Int) (out stream : Bytes) : Option SecEntMsg :=
  if stalls (moves writes out.length out) ∨ stalls (moves reads secEntMsgHdrLen stream) ∨
      secEntMaxPayload < headerLen stream ∨ stalls (payloadMoves reads stream) then none
  else some ⟨stream.headD 0, (stream.drop secEntMsgHdrLen).take (headerLen stream)⟩

/-- The message that came of an exchange. -/
def wireOf (c : ExchangeCalls) (out : Bytes) : Option SecEntMsg :=
  if c.socket.isSome ∧ c.connect ∧ c.malloc then wireMsg c.writes c.reads out c.stream else none

section Wire

variable {w : Nat} {out stream : Bytes} {writes reads : List Int}

/-- The reply is the one to the message that came over the socket. -/
theorem sendRecvServer_wireMsg (hw : w = 32 ∨ w = 64) (hout : out.length < 2 ^ 31) :
    (Socket.sendRecvServer w out writes reads stream).1 =
      sendRecvServer (wireMsg writes reads out stream) := by
  simp only [wireMsg, stalls_iff]
  by_cases hwrite : [] ∈ moves writes out.length out
  · rw [sendRecvServer_unwritten hout hwrite, if_pos (Or.inl hwrite)]
    rfl
  · by_cases hh : [] ∈ moves reads secEntMsgHdrLen stream
    · rw [sendRecvServer_noHeader hout hwrite hh, if_pos (Or.inr (Or.inl hh))]
      rfl
    · by_cases hlong : secEntMaxPayload < headerLen stream
      · rw [sendRecvServer_tooLong hw hout hwrite hh hlong,
          if_pos (Or.inr (Or.inr (Or.inl hlong)))]
        rfl
      · obtain ⟨k, hk, -⟩ := sendRecvServer_body hw hout hwrite hh
          (show headerLen stream ≤ secEntMaxPayload by omega)
        rw [hk, bodyReply]
        by_cases hbody : [] ∈ payloadMoves reads stream
        · rw [if_pos hbody, if_pos (Or.inr (Or.inr (Or.inr hbody)))]
          rfl
        · rw [if_neg hbody, if_neg]
          rintro (h | h | h | h)
          · exact hwrite h
          · exact hh h
          · exact hlong h
          · exact hbody h

end Wire

section Process

variable {w : Nat} {c : ExchangeCalls} {req : SecEntMsg} {fds : Finset Nat}

/-- The octets of a request that fits. -/
def requestOctets (req : SecEntMsg) : Bytes :=
  req.msgType :: beBytes 4 req.data.length ++ req.data

theorem length_requestOctets :
    (requestOctets req).length = req.data.length + secEntMsgHdrLen := by
  rw [requestOctets, List.length_append, List.length_cons, length_beBytes, secEntMsgHdrLen]
  omega

/-- An exchange leaves descriptor 0 open if it connects there. -/
def LosesInput (c : ExchangeCalls) : Prop := c.socket = some 0 ∧ c.connect = true

instance (c : ExchangeCalls) : Decidable (LosesInput c) := inferInstanceAs (Decidable (_ ∧ _))

/-- What is open after an exchange. -/
def fdsAfter (c : ExchangeCalls) (fds : Finset Nat) : Finset Nat :=
  if LosesInput c then insert 0 fds else fds

/-- Closing the descriptor an exchange has opened. -/
theorem disconnectServer_insert {fd : Nat} (h : fd ∉ fds) :
    disconnectServer fd (insert fd fds) = some (if fd = 0 then insert 0 fds else fds) := by
  unfold disconnectServer closeFd
  by_cases hfd : fd = 0
  · rw [if_neg (by omega), if_pos hfd, hfd]
  · rw [if_pos (by omega), if_pos (Finset.mem_insert_self _ _), Finset.erase_insert h,
      if_neg hfd]

/-- One exchange: the reply is that to what came over the socket, and what is open is what
    was, but for descriptor 0. -/
theorem secEntProcess_reply (hw : w = 32 ∨ w = 64)
    (hreq : req.data.length + secEntMsgHdrLen < 2 ^ 31) (hf : Fresh c fds) :
    Socket.secEntProcess w c req fds =
      some (sendRecvServer (wireOf c (requestOctets req)), fdsAfter c fds) := by
  have hbuf : secEntMsgGetSendBuffer req =
      some (requestOctets req, req.data.length + secEntMsgHdrLen) :=
    secEntMsgGetSendBuffer_eq (by omega)
  have htake : (requestOctets req).take (req.data.length + secEntMsgHdrLen) =
      requestOctets req := by
    rw [← length_requestOctets, List.take_length]
  have hsend : (Socket.sendRecvServer w (requestOctets req) c.writes c.reads c.stream).1 =
      sendRecvServer (wireMsg c.writes c.reads (requestOctets req) c.stream) :=
    sendRecvServer_wireMsg hw (by rw [length_requestOctets]; omega)
  rcases c with ⟨socket, connect, malloc, writes, reads, stream⟩
  cases socket with
  | none => rfl
  | some fd =>
      have hnew := hf fd rfl
      have hafter : fdsAfter ⟨some fd, true, malloc, writes, reads, stream⟩ fds =
          if fd = 0 then insert 0 fds else fds := by
        simp only [fdsAfter, LosesInput, Option.some.injEq, and_true]
      cases connect with
      | false =>
          -- A socket that does not connect is closed at once.
          have hclose : closeFd fd (insert fd fds) = some fds := by
            rw [closeFd, if_pos (Finset.mem_insert_self _ _), Finset.erase_insert hnew]
          have hsame : fdsAfter ⟨some fd, false, malloc, writes, reads, stream⟩ fds = fds :=
            if_neg (fun h => Bool.false_ne_true h.2)
          simp only [Socket.secEntProcess, connectServer, Bool.false_eq_true, if_false, hclose,
            Option.map_some, hsame, wireOf, false_and, and_false]
          rfl
      | true =>
          have hclose := disconnectServer_insert hnew
          cases malloc with
          | false =>
              simp only [Socket.secEntProcess, connectServer, if_true, Bool.false_eq_true,
                if_false, hclose, Option.map_some, hafter, wireOf, and_false]
              rfl
          | true =>
              simp only [Socket.secEntProcess, connectServer, if_true, hbuf, htake, hclose,
                Option.map_some, hafter, hsend, wireOf, Option.isSome_some, and_self]

end Process

/-- Exchanges one after the other: each reply is that to what came over the socket then. -/
theorem exchanges_replies {w : Nat} (hw : w = 32 ∨ w = 64) {es : List (SecEntMsg × ExchangeCalls)}
    (hreq : ∀ e ∈ es, e.1.data.length + secEntMsgHdrLen < 2 ^ 31) {fds : Finset Nat}
    (hf : FreshAlong w es fds) :
    Socket.exchanges w es fds =
      some (es.map (fun e => sendRecvServer (wireOf e.2 (requestOctets e.1))),
        es.foldl (fun fds e => fdsAfter e.2 fds) fds) := by
  induction es generalizing fds with
  | nil => rfl
  | cons e es ih =>
      have hone := secEntProcess_reply hw (hreq e (List.mem_cons_self ..)) hf.1
      have hrest := ih (fun x hx => hreq x (List.mem_cons_of_mem e hx)) (hf.2 _ _ hone)
      simp only [Socket.exchanges, hone, hrest, Option.map_some, List.map_cons, List.foldl_cons]

section Descriptors

/-- What is open after a number of exchanges. -/
theorem foldl_fdsAfter (es : List (SecEntMsg × ExchangeCalls)) (fds : Finset Nat) :
    es.foldl (fun fds e => fdsAfter e.2 fds) fds =
      if ∃ e ∈ es, LosesInput e.2 then insert 0 fds else fds := by
  induction es generalizing fds with
  | nil => simp only [List.foldl_nil, List.not_mem_nil, false_and, exists_false, if_false]
  | cons e es ih =>
      rw [List.foldl_cons, ih]
      simp only [List.mem_cons, exists_eq_or_imp, fdsAfter]
      -- A second loss would add what is open already.
      by_cases he : LosesInput e.2
      · simp only [he, if_true, true_or, Finset.insert_idem, ite_self]
      · simp only [he, if_false, false_or]

/-- Nothing is lost while descriptor 0 is open. -/
theorem no_loss_of_input {w : Nat} (hw : w = 32 ∨ w = 64)
    {es : List (SecEntMsg × ExchangeCalls)}
    (hreq : ∀ e ∈ es, e.1.data.length + secEntMsgHdrLen < 2 ^ 31) {fds : Finset Nat}
    (hf : FreshAlong w es fds) (h0 : 0 ∈ fds) : ∀ e ∈ es, ¬ LosesInput e.2 := by
  induction es generalizing fds with
  | nil => exact fun e he => absurd he List.not_mem_nil
  | cons e es ih =>
      have hhere : ¬ LosesInput e.2 := fun hl => hf.1 0 hl.1 h0
      have hone := secEntProcess_reply hw (hreq e (List.mem_cons_self ..)) hf.1
      rw [fdsAfter, if_neg hhere] at hone
      have hrest := ih (fun x hx => hreq x (List.mem_cons_of_mem e hx)) (hf.2 _ _ hone) h0
      exact List.forall_mem_cons.mpr ⟨hhere, hrest⟩

theorem countP_losesInput_le {w : Nat} (hw : w = 32 ∨ w = 64)
    {es : List (SecEntMsg × ExchangeCalls)}
    (hreq : ∀ e ∈ es, e.1.data.length + secEntMsgHdrLen < 2 ^ 31) {fds : Finset Nat}
    (hf : FreshAlong w es fds) : es.countP (fun e => LosesInput e.2) ≤ 1 := by
  induction es generalizing fds with
  | nil => exact Nat.zero_le 1
  | cons e es ih =>
      have hone := secEntProcess_reply hw (hreq e (List.mem_cons_self ..)) hf.1
      have hreq' : ∀ x ∈ es, x.1.data.length + secEntMsgHdrLen < 2 ^ 31 :=
        fun x hx => hreq x (List.mem_cons_of_mem e hx)
      rw [List.countP_cons]
      by_cases he : LosesInput e.2
      · -- From here on descriptor 0 is open.
        rw [fdsAfter, if_pos he] at hone
        have hnone := no_loss_of_input hw hreq' (hf.2 _ _ hone) (Finset.mem_insert_self 0 fds)
        have hzero : es.countP (fun e => LosesInput e.2) = 0 := by
          rw [List.countP_eq_zero]
          intro x hx
          rw [decide_eq_true_eq]
          exact hnone x hx
        rw [hzero]
        split <;> omega
      · have hrest := ih hreq' (hf.2 _ _ hone)
        rw [if_neg (by rw [decide_eq_true_eq]; exact he)]
        exact hrest

/-- After any number of exchanges that are given fresh descriptors, what was open is open,
    and nothing else is but for descriptor 0, which is left open by an exchange that connects
    on it. No more than one does. -/
theorem descriptors_iff {w : Nat} (hw : w = 32 ∨ w = 64) {es : List (SecEntMsg × ExchangeCalls)}
    (hreq : ∀ e ∈ es, e.1.data.length + secEntMsgHdrLen < 2 ^ 31) {fds : Finset Nat}
    (hf : FreshAlong w es fds) :
    ∃ rs fds', Socket.exchanges w es fds = some (rs, fds') ∧ rs.length = es.length ∧
      (fds' = fds ∨ fds' = insert 0 fds) ∧
      (fds' = fds ↔ ∀ e ∈ es, ¬ LosesInput e.2) ∧
      es.countP (fun e => LosesInput e.2) ≤ 1 := by
  refine ⟨_, _, exchanges_replies hw hreq hf, List.length_map _, ?_, ?_,
    countP_losesInput_le hw hreq hf⟩
  · rw [foldl_fdsAfter]
    split
    · exact Or.inr rfl
    · exact Or.inl rfl
  · rw [foldl_fdsAfter]
    constructor
    · intro hsame e he hl
      rw [if_pos ⟨e, he, hl⟩] at hsame
      have h0 : 0 ∈ fds := hsame ▸ Finset.mem_insert_self 0 fds
      exact no_loss_of_input hw hreq hf h0 e he hl
    · intro hno
      exact if_neg (fun ⟨e, he, hl⟩ => hno e he hl)

/-- A process whose standard input is closed. -/
theorem descriptors_lost :
    ∃ rs fds', Socket.exchanges 64 [(secEntMsgNewTypeGetAtCert, ⟨some 0, true, true, [], [], []⟩),
        (secEntMsgNewTypeGetAtCert, ⟨some 3, true, true, [], [], []⟩)] {1, 2} = some (rs, fds') ∧
      fds' = {0, 1, 2} := by
  have hf : FreshAlong 64 [(secEntMsgNewTypeGetAtCert, ⟨some 0, true, true, [], [], []⟩),
      (secEntMsgNewTypeGetAtCert, ⟨some 3, true, true, [], [], []⟩)] {1, 2} := by
    have h0 : Fresh ⟨some 0, true, true, [], [], []⟩ {1, 2} := fun fd h =>
      Option.some.inj h ▸ by decide
    refine ⟨h0, fun r fds h => ⟨?_, fun _ _ _ => trivial⟩⟩
    rw [secEntProcess_reply (Or.inr rfl) (by decide) h0] at h
    rw [← (Prod.mk.inj (Option.some.inj h)).2]
    exact fun fd h => Option.some.inj h ▸ by decide
  obtain ⟨rs, fds', hrun, -, hor, hiff, -⟩ := descriptors_iff (Or.inr rfl)
    (by simp only [List.forall_mem_cons]; decide) hf
  refine ⟨rs, fds', hrun, ?_⟩
  rcases hor with hsame | hlost
  · exact absurd ⟨rfl, rfl⟩ (hiff.mp hsame _ (List.mem_cons_self ..))
  · exact hlost

end Descriptors

/-- The replies to requests one after the other, each exchange as one step. -/
def atomicReplies {ω : Type} (env : Env ω) : List SecEntMsg → SSL ω → List SecEntReply
  | [], _ => []
  | req :: reqs, s =>
    (secEntProcess env req s).1 :: atomicReplies env reqs (secEntProcess env req s).2

section Refinement

/-- Calls by which a message comes in one piece behind its header. -/
def wholeCalls (fd : Nat) (req m : SecEntMsg) : ExchangeCalls :=
  ⟨some fd, true, true, [(requestOctets req).length], [5, m.data.length],
    m.msgType :: beBytes 4 m.data.length ++ m.data⟩

/-- Calls by which a message comes that fits the buffer, and none otherwise. -/
def callsFor (fd : Nat) (req : SecEntMsg) (wire : Option SecEntMsg) : ExchangeCalls :=
  match wire with
  | none => ⟨none, false, false, [], [], []⟩
  | some m =>
    if 0 < m.data.length ∧ m.data.length ≤ secEntMaxPayload then wholeCalls fd req m
    else ⟨none, false, false, [], [], []⟩

/-- A call that moves everything. -/
theorem moves_whole {n : Nat} {src : Bytes} (hn : 0 < n) (h : n ≤ src.length) (rs : List Int) :
    moves (n :: rs) n src = [src.take n] := by
  have hlen : (src.take n).length = n := by rw [List.length_take, Nat.min_eq_left h]
  have hne : src.take n ≠ [] := List.length_pos_iff.mp (by rw [hlen]; exact hn)
  obtain ⟨k, rfl⟩ : ∃ k, n = k + 1 := ⟨n - 1, by omega⟩
  simp only [moves, Int.toNat_natCast, Nat.min_self, if_neg hne, hlen, Nat.sub_self]

theorem wireMsg_whole {out : Bytes} (hout : out ≠ []) {m : SecEntMsg} (hpos : 0 < m.data.length)
    (hmax : m.data.length ≤ secEntMaxPayload) :
    wireMsg [out.length] [5, m.data.length] out
      (m.msgType :: beBytes 4 m.data.length ++ m.data) = some m := by
  obtain ⟨hn, ht, hbytes⟩ := header_of_message (t := m.msgType) (p := m.data)
    (by simp only [secEntMaxPayload] at hmax; omega) (List.prefix_refl _)
  have hlen : (m.msgType :: beBytes 4 m.data.length ++ m.data).length =
      m.data.length + secEntMsgHdrLen := @length_requestOctets m
  have hhead := @moves_whole secEntMsgHdrLen (m.msgType :: beBytes 4 m.data.length ++ m.data)
    (by decide) (by omega) [(m.data.length : Int)]
  have hdrop : (m.msgType :: beBytes 4 m.data.length ++ m.data).drop secEntMsgHdrLen =
      m.data := by
    rw [List.take_of_length_le (by rw [List.length_drop]; omega)] at hbytes
    exact hbytes
  -- The first read has the header, and the second the payload it announces.
  have hbody : payloadMoves [5, m.data.length] (m.msgType :: beBytes 4 m.data.length ++ m.data) =
      [m.data] := by
    unfold payloadMoves
    rw [show ((5 : Int) :: [(m.data.length : Int)]) =
      ((secEntMsgHdrLen : Nat) : Int) :: [(m.data.length : Int)] from rfl, hhead, hn, hdrop,
      List.length_singleton, List.drop_succ_cons, List.drop_zero,
      moves_whole hpos (Nat.le_refl _), List.take_length]
  have hwrite := moves_whole (List.length_pos_iff.mpr hout) (Nat.le_refl out.length) []
  rw [List.take_length] at hwrite
  have hdata : m.data ≠ [] := List.length_pos_iff.mp hpos
  have hfive : (m.msgType :: beBytes 4 m.data.length ++ m.data).take secEntMsgHdrLen ≠ [] := by
    intro hnil
    have hzero := congrArg List.length hnil
    rw [List.length_take, hlen, List.length_nil, secEntMsgHdrLen] at hzero
    omega
  simp only [wireMsg, stalls_iff]
  rw [if_neg, hn, ht, hbytes]
  -- No read stalls: neither the request, the header nor the payload is empty.
  rintro (h | h | h | h)
  · rw [hwrite, List.mem_singleton] at h
    exact hout h.symm
  · rw [show ((5 : Int) :: [(m.data.length : Int)]) =
      ((secEntMsgHdrLen : Nat) : Int) :: [(m.data.length : Int)] from rfl, hhead,
      List.mem_singleton] at h
    exact hfive h.symm
  · rw [hn] at h
    omega
  · rw [hbody, List.mem_singleton] at h
    exact hdata h.symm

/-- Any message can come, to be answered as in the atomic step. -/
theorem secEntProcess_callsFor {w : Nat} (hw : w = 32 ∨ w = 64) {req : SecEntMsg}
    (hreq : req.data.length + secEntMsgHdrLen < 2 ^ 31) (wire : Option SecEntMsg) {fd : Nat}
    {fds : Finset Nat} (hfd : fd ∉ insert 0 fds) :
    Fresh (callsFor fd req wire) fds ∧
      Socket.secEntProcess w (callsFor fd req wire) req fds = some (sendRecvServer wire, fds) := by
  rw [Finset.mem_insert, not_or] at hfd
  have hfail : Fresh ⟨none, false, false, [], [], []⟩ fds ∧
      Socket.secEntProcess w ⟨none, false, false, [], [], []⟩ req fds = some (.none, fds) :=
    ⟨fun _ h => absurd h (by simp only [reduceCtorEq, not_false_eq_true]), rfl⟩
  cases wire with
  | none => exact hfail
  | some m =>
      unfold callsFor
      by_cases hfit : 0 < m.data.length ∧ m.data.length ≤ secEntMaxPayload
      · have hfresh : Fresh (wholeCalls fd req m) fds := by
          intro x hx
          rw [← Option.some.inj hx]
          exact hfd.2
        have hout : requestOctets req ≠ [] := by
          rw [requestOctets]
          exact List.cons_ne_nil _ _
        have hkeep : fdsAfter (wholeCalls fd req m) fds = fds :=
          if_neg (fun h => hfd.1 (Option.some.inj h.1))
        have hwire : wireOf (wholeCalls fd req m) (requestOctets req) = some m := by
          rw [wireOf, if_pos ⟨rfl, rfl, rfl⟩]
          exact wireMsg_whole hout hfit.1 hfit.2
        simp only [if_pos hfit]
        exact ⟨hfresh, by rw [secEntProcess_reply hw hreq hfresh, hkeep, hwire]⟩
      · -- Neither level takes a message without a payload or one that is too long.
        have hnone : sendRecvServer (some m) = .none := by
          refine if_pos ?_
          omega
        simp only [if_neg hfit, hnone]
        exact hfail

variable {ω : Type}

/-- The messages that came, given to the atomic step one after the other. -/
def replay (n : Nat) (wires : List (Option SecEntMsg)) (tr : List Obs) (_ : SecEntMsg) :
    Option SecEntMsg := (wires[tr.length - n]?).join

theorem atomicReplies_replay (env : Env ω) (n : Nat) (wires : List (Option SecEntMsg))
    (reqs : List SecEntMsg) (s : SSL ω) (hn : n ≤ s.trace.length)
    (hlen : s.trace.length - n + reqs.length = wires.length) :
    atomicReplies { env with secEnt := replay n wires } reqs s =
      (wires.drop (s.trace.length - n)).map sendRecvServer := by
  induction reqs generalizing s with
  | nil =>
      rw [List.length_nil, Nat.add_zero] at hlen
      rw [hlen, List.drop_length]
      rfl
  | cons req reqs ih =>
      rw [List.length_cons] at hlen
      have hlt : s.trace.length - n < wires.length := by omega
      have hwire : replay n wires s.trace req = wires[s.trace.length - n] := by
        rw [replay, List.getElem?_eq_getElem hlt, Option.join_some]
      have hnext : ((secEntProcess { env with secEnt := replay n wires } req s).2).trace.length =
          s.trace.length + 1 := List.length_cons
      rw [atomicReplies, ih _ (by omega) (by omega), hnext, List.drop_eq_getElem_cons hlt,
        List.map_cons, Nat.sub_add_comm hn]
      congr 1
      exact congrArg sendRecvServer hwire

/-- For requests one after the other, the replies that can come of the calls on sockets are
    exactly those of the atomic step, with the entity an arbitrary function of the record. -/
theorem exchanges_refine {w : Nat} (hw : w = 32 ∨ w = 64) {reqs : List SecEntMsg}
    (hreq : ∀ req ∈ reqs, req.data.length + secEntMsgHdrLen < 2 ^ 31) (fds : Finset Nat)
    (env : Env ω) (s : SSL ω) (rs : List SecEntReply) :
    (∃ cs : List ExchangeCalls, cs.length = reqs.length ∧ FreshAlong w (reqs.zip cs) fds ∧
        ∃ fds', Socket.exchanges w (reqs.zip cs) fds = some (rs, fds')) ↔
      ∃ secEnt, atomicReplies { env with secEnt := secEnt } reqs s = rs := by
  constructor
  · rintro ⟨cs, hlen, hf, fds', hrun⟩
    have hzip : ∀ e ∈ reqs.zip cs, e.1.data.length + secEntMsgHdrLen < 2 ^ 31 :=
      fun e he => hreq e.1 (List.of_mem_zip he).1
    rw [exchanges_replies hw hzip hf, Option.some.injEq, Prod.mk.injEq] at hrun
    refine ⟨replay s.trace.length
      ((reqs.zip cs).map (fun e => wireOf e.2 (requestOctets e.1))), ?_⟩
    rw [atomicReplies_replay env _ _ reqs s (Nat.le_refl _)
      (by rw [List.length_map, List.length_zip, hlen]; omega), Nat.sub_self, List.drop_zero,
      List.map_map]
    exact hrun.1
  · rintro ⟨secEnt, rfl⟩
    -- The calls are chosen request by request, on descriptors that are not open.
    induction reqs generalizing s fds with
    | nil => exact ⟨[], rfl, trivial, fds, rfl⟩
    | cons req reqs ih =>
        obtain ⟨fd, hfd⟩ := Infinite.exists_notMem_finset (insert 0 fds)
        obtain ⟨hfresh, hone⟩ := secEntProcess_callsFor hw (hreq req (List.mem_cons_self ..))
          (secEnt s.trace req) hfd
        obtain ⟨cs, hlen, hf, fds', hrun⟩ := ih
          (fun x hx => hreq x (List.mem_cons_of_mem req hx)) fds
          (secEntProcess { env with secEnt := secEnt } req s).2
        refine ⟨callsFor fd req (secEnt s.trace req) :: cs, by rw [List.length_cons, hlen,
          List.length_cons], ⟨hfresh, fun r fds'' h => ?_⟩, fds', ?_⟩
        · rw [hone, Option.some.injEq, Prod.mk.injEq] at h
          rw [← h.2]
          exact hf
        · rw [List.zip_cons_cons, Socket.exchanges, hone]
          simp only [hrun, Option.map_some]
          rfl

/-- Two requests for a certificate. -/
theorem exchanges_refine_two :
    ∃ cs : List ExchangeCalls, cs.length = 2 ∧ ∃ fds',
      Socket.exchanges 32 ([secEntMsgNewTypeGetAtCert, secEntMsgNewTypeGetAtCert].zip cs) ∅ =
        some ([.msg ⟨22, [7]⟩, .failure], fds') := by
  have hreq : ∀ req ∈ [secEntMsgNewTypeGetAtCert, secEntMsgNewTypeGetAtCert],
      req.data.length + secEntMsgHdrLen < 2 ^ 31 := by
    intro req hmem
    rw [List.eq_of_mem_replicate (n := 2) hmem]
    decide
  obtain ⟨cs, hlen, -, hrun⟩ := (exchanges_refine (Or.inl rfl) hreq ∅ plainEnv
    (sslNew SspBuffer.zero 0 Cert.empty ()) [.msg ⟨22, [7]⟩, .failure]).mpr
    ⟨fun tr _ => if tr = [] then some ⟨22, [7]⟩ else some ⟨3, [1]⟩, rfl⟩
  exact ⟨cs, hlen, hrun⟩

end Refinement

end Iso21177
