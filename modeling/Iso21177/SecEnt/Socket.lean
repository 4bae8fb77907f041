import Iso21177.Lib.Transfer
import Iso21177.Ssl.SecEnt

/-!
# Framing on the Security Entity's Socket

`send_recv_server` down to the calls it makes on its socket: the request is written in
as many calls as it takes, then a header of five octets is read, and then as many octets
as the header says. A header that says more than the buffer holds is refused before
anything is read for it.

How `write` and `read` split the data is arbitrary. Each call has a result from a list;
one that is not positive is an error or the end of the stream. The calls are kept in
order with what they moved and, for a read, where in the buffer it was to go.

The length in the header is an unsigned number of 32 bits that is stored in an
`ssize_t`, of `w` bits here: with 32 bits a large length is negative, with 64 bits it is
large. Both are refused, so the result does not depend on `w`.

## Main definitions

* `SockCall`: A call on the socket.
* `Conn`: The connection: what the peer sent, the receive buffer, the calls.
* `ssizeT`, `sizeT`: Conversions to the machine's integers.
* `writeRequest`, `readNBytes`: The two loops.
* `secEntMsgParseLenFromHdrBuffer`, `secEntMsgNewFromRecvBuffer`: Parsing.
* `Socket.sendRecvServer`: The exchange.
* `writeCalls`, `readCalls`, `written`, `received`: The calls and what they moved.
* `headerLen`, `afterHeader`, `payloadMoves`, `bodyReply`: The stages of an exchange.
* `WellFramed`: An exchange as it should go.

## Theorems

* `writeRequest_eq`, `readNBytes_eq`: The loops are partial transfers.
* `headerLen_lt`, `sizeT_of_lt`, `ssizeT_of_lt`, `lengthOk_iff`: A length is accepted exactly if the
  message fits the buffer.
* `take_request`, `parse_afterHeader`, `newFromRecvBuffer_whole`: What the stages parse.
* `sendRecvServer_unwritten`, `sendRecvServer_noHeader`, `sendRecvServer_tooLong`,
  `sendRecvServer_body`: The exchange by how far it gets.
* `written_append`, `received_append`, `writeCalls_spec`, `readCalls_spec`,
  `readCalls_bounds`, `written_writeMoves`, `not_read_mem_writeCalls`: The calls of a loop.
* `header_of_message`, `message_of_header`: A message at the start of a stream.
* `wellFramed_unwritten`, `wellFramed_header`, `wellFramed_body`, `exchange_wellFramed`,
  `exchange_wellFramed_split`: Every exchange is well framed.
-/

namespace Iso21177

open Packet

/-- A call on the socket with what it moved: how much it was asked to write, or where in
    the buffer and how much it was asked to read. A call that fails moves nothing. -/
inductive SockCall
  | write (len : Nat) (sent : Bytes)
  | read (off len : Nat) (got : Bytes)
  deriving DecidableEq

/-- The connection to the security entity: what the peer sends and was not read yet, the
    start of the buffer that was filled, and the calls made. -/
structure Conn where
  stream : Bytes
  buff : Bytes
  calls : List SockCall
  deriving DecidableEq

/-- `SEC_ENT_MSG_HDR_LEN`. -/
def secEntMsgHdrLen : Nat := 5

/-- The size of the receive buffer. -/
def buffSize : Nat := 2048

/-- A number as a signed integer of `w` bits. -/
def ssizeT (w : Nat) (n : Int) : Int := n.bmod (2 ^ w)

/-- A number as an unsigned integer of `w` bits. -/
def sizeT (w : Nat) (n : Int) : Nat := (n % 2 ^ w).toNat

/-- A call that wrote. -/
def Conn.wrote (k : Conn) (len : Nat) (sent : Bytes) : Conn :=
  { k with calls := k.calls ++ [.write len sent] }

/-- A call that read to the end of what the buffer holds. -/
def Conn.took (k : Conn) (len : Nat) (got : Bytes) : Conn where
  stream := k.stream.drop got.length
  buff := k.buff ++ got
  calls := k.calls ++ [.read k.buff.length len got]

/-- The loop that writes the request. -/
def writeRequest : List Int → Bytes → Conn → Bool × Conn
  | _, [], k => (true, k)
  | [], b :: out, k => (false, k.wrote (b :: out).length [])
  | r :: rs, b :: out, k =>
    let sent := (b :: out).take r.toNat
    if sent = [] then (false, k.wrote (b :: out).length sent)
    else writeRequest rs ((b :: out).drop sent.length) (k.wrote (b :: out).length sent)

/-- `read_N_bytes`: how much was read, the results to come, and the connection. -/
def readNBytes : List Int → Nat → Conn → Nat × List Int × Conn
  | rs, 0, k => (0, rs, k)
  | [], n + 1, k => (0, [], k.took (n + 1) [])
  | r :: rs, n + 1, k =>
    let got := k.stream.take (min r.toNat (n + 1))
    if got = [] then (0, rs, k.took (n + 1) got)
    else
      let (ret, rs', k') := readNBytes rs (n + 1 - got.length) (k.took (n + 1) got)
      (got.length + ret, rs', k')

/-- `SEC_ENT_MSG_parse_len_from_hdr_buffer`. -/
def secEntMsgParseLenFromHdrBuffer (w : Nat) (data : Bytes) : Int :=
  if data.length < secEntMsgHdrLen then -1 else ssizeT w (beVal ((data.drop 1).take 4))

/-- `SEC_ENT_MSG_new_from_recv_buffer` on the first `len` octets. The sum of the length
    and the header is taken in 32 bits. -/
def secEntMsgNewFromRecvBuffer (data : Bytes) (len : Nat) : Option SecEntMsg :=
  if len ≤ secEntMsgHdrLen then none
  else
    let n := beVal ((data.drop 1).take 4)
    if sizeT 32 (n + secEntMsgHdrLen) ≠ len then none
    else some ⟨data.headD 0, (data.drop secEntMsgHdrLen).take n⟩

namespace Socket

/-- `send_recv_server`: a request, the results of the calls, and what the peer sends. The
    number of octets to write is an `int`. -/
def sendRecvServer (w : Nat) (out : Bytes) (writes reads : List Int) (stream : Bytes) :
    SecEntReply × Conn :=
  match writeRequest writes (out.take (ssizeT 32 out.length).toNat) ⟨stream, [], []⟩ with
  | (false, k) => (.none, k)
  | (true, k) =>
    match readNBytes reads secEntMsgHdrLen k with
    | (n, reads', k) =>
      if n ≠ secEntMsgHdrLen then (.none, k)
      else
        -- The length is signed, so a large one may come out negative.
        let msgLen := secEntMsgParseLenFromHdrBuffer w k.buff
        if msgLen < 0 then (.none, k)
        else if buffSize < sizeT w (msgLen + secEntMsgHdrLen) then (.none, k)
        else
          match readNBytes reads' msgLen.toNat k with
          | (n, _, k) =>
            if (n : Int) ≠ msgLen then (.none, k)
            else
              match secEntMsgNewFromRecvBuffer k.buff (n + secEntMsgHdrLen) with
              | none => (.none, k)
              | some m => (if m.msgType = secEntMsgTypeFailure then .failure else .msg m, k)

end Socket

/-- The writes of a loop, by the octets of each. -/
def writeCalls : Nat → List Bytes → List SockCall
  | _, [] => []
  | n, c :: cs => .write n c :: writeCalls (n - c.length) cs

/-- The reads of a loop that starts at an offset, by the octets of each. -/
def readCalls : Nat → Nat → List Bytes → List SockCall
  | _, _, [] => []
  | off, n, c :: cs => .read off n c :: readCalls (off + c.length) (n - c.length) cs

/-- All octets written. -/
def written (calls : List SockCall) : Bytes :=
  calls.flatMap (fun c => match c with
    | .write _ b => b
    | .read .. => [])

/-- All octets read. -/
def received (calls : List SockCall) : Bytes :=
  calls.flatMap (fun c => match c with
    | .write .. => []
    | .read _ _ b => b)

/-- The call read nothing: the end of the stream or an error. -/
def SockCall.readsNothing : SockCall → Bool
  | .write .. => false
  | .read _ _ b => b = []

/-- The call is a read. -/
def SockCall.isRead : SockCall → Bool
  | .write .. => false
  | .read .. => true

/-- Writing the request is a partial transfer of it. -/
theorem writeRequest_eq (rs : List Int) (out : Bytes) (k : Conn) :
    writeRequest rs out k = (decide ([] ∉ moves rs out.length out),
      { k with calls := k.calls ++ writeCalls out.length (moves rs out.length out) }) := by
  induction rs generalizing out k with
  | nil =>
      cases out with
      | nil => simp only [writeRequest, List.length_nil, moves, List.not_mem_nil,
          not_false_eq_true, decide_true, writeCalls, List.append_nil]
      | cons b out => simp only [writeRequest, List.length_cons, moves, List.mem_singleton,
          not_true_eq_false, decide_false, writeCalls, Conn.wrote]
  | cons r rs ih =>
      cases out with
      | nil => simp only [writeRequest, List.length_nil, moves, List.not_mem_nil,
          not_false_eq_true, decide_true, writeCalls, List.append_nil]
      | cons b out =>
          -- A result beyond the end of the request is as good as one that reaches it.
          have hsent : (b :: out).take (min r.toNat (out.length + 1)) =
              (b :: out).take r.toNat := by
            rw [← List.length_cons (a := b), List.take_eq_take_iff]
            omega
          simp only [writeRequest, List.length_cons, moves, hsent]
          by_cases hnil : (b :: out).take r.toNat = []
          · simp only [hnil, if_true, List.mem_singleton, not_true_eq_false, decide_false,
              writeCalls, Conn.wrote]
          · have hrest := ih ((b :: out).drop ((b :: out).take r.toNat).length)
              (k.wrote (out.length + 1) ((b :: out).take r.toNat))
            rw [List.length_drop, List.length_cons] at hrest
            rw [if_neg hnil, if_neg hnil, hrest]
            simp only [List.mem_cons, not_or, Ne.symm hnil, not_false_eq_true, true_and,
              writeCalls, Conn.wrote, List.append_assoc, List.singleton_append]

/-- Reading is a partial transfer of the stream to the end of the buffer. -/
theorem readNBytes_eq (rs : List Int) (n : Nat) (k : Conn) :
    readNBytes rs n k = ((moves rs n k.stream).flatten.length,
      rs.drop (moves rs n k.stream).length,
      { stream := k.stream.drop (moves rs n k.stream).flatten.length
        buff := k.buff ++ (moves rs n k.stream).flatten
        calls := k.calls ++ readCalls k.buff.length n (moves rs n k.stream) }) := by
  -- Both loops stop at the first call that moves nothing.
  induction rs generalizing n k with
  | nil =>
      cases n with
      | zero => simp only [readNBytes, moves, List.flatten_nil, List.length_nil, List.drop_zero,
          List.append_nil, readCalls]
      | succ n => simp only [readNBytes, moves, List.flatten_cons, List.flatten_nil,
          List.append_nil, List.length_nil, List.length_cons, List.drop_nil, List.drop_zero,
          readCalls, Conn.took]
  | cons r rs ih =>
      cases n with
      | zero => simp only [readNBytes, moves, List.flatten_nil, List.length_nil, List.drop_zero,
          List.append_nil, readCalls]
      | succ n =>
          simp only [readNBytes, moves]
          by_cases hnil : k.stream.take (min r.toNat (n + 1)) = []
          · simp only [hnil, if_true, List.flatten_cons, List.flatten_nil, List.append_nil,
              List.length_nil, List.length_cons, List.drop_zero, List.drop_succ_cons, readCalls,
              Conn.took]
          · rw [if_neg hnil, if_neg hnil, ih]
            simp only [Conn.took, List.flatten_cons, List.length_append, List.length_cons,
              List.drop_succ_cons, List.drop_drop, readCalls, List.append_assoc,
              List.singleton_append]

/-- The length a message starts with. -/
def headerLen (stream : Bytes) : Nat := beVal ((stream.drop 1).take 4)

theorem headerLen_lt (stream : Bytes) : headerLen stream < 2 ^ 32 := by
  have hlt := beVal_lt ((stream.drop 1).take 4)
  have hlen : ((stream.drop 1).take 4).length ≤ 4 := List.length_take_le 4 _
  exact Nat.lt_of_lt_of_le hlt (Nat.pow_le_pow_right (by decide) hlen)

/-- A number that fits is kept. -/
theorem sizeT_of_lt {w n : Nat} (h : n < 2 ^ w) : sizeT w n = n := by
  have hlt : (n : Int) < 2 ^ w := by exact_mod_cast h
  rw [sizeT, Int.emod_eq_of_lt (Int.natCast_nonneg n) hlt, Int.toNat_natCast]

theorem ssizeT_of_lt {w n : Nat} (hw : w = 32 ∨ w = 64) (hn : n < 2 ^ 31) : ssizeT w n = n := by
  rcases hw with rfl | rfl <;>
    · simp only [ssizeT]
      rw [Int.bmod_def]
      omega

/-- A length of 32 bits passes both tests exactly if the message fits the buffer. With 32
    bits one too large may come out negative, or overflow in the sum. -/
theorem lengthOk_iff {w n : Nat} (hw : w = 32 ∨ w = 64) (hn : n < 2 ^ 32) :
    (¬ ssizeT w n < 0 ∧ ¬ buffSize < sizeT w (ssizeT w n + secEntMsgHdrLen)) ↔
      n ≤ secEntMaxPayload := by
  rcases hw with rfl | rfl <;>
    · simp only [ssizeT, sizeT, buffSize, secEntMsgHdrLen, secEntMaxPayload]
      rw [Int.bmod_def]
      omega

section Exchange

variable {w : Nat} {req stream : Bytes} {writes reads : List Int}

/-- A request of fewer than 2^31 octets is written as it is. -/
theorem take_request (hreq : req.length < 2 ^ 31) :
    req.take (ssizeT 32 req.length).toNat = req := by
  rw [ssizeT_of_lt (Or.inl rfl) hreq, Int.toNat_natCast, List.take_length]

theorem sendRecvServer_unwritten (hreq : req.length < 2 ^ 31)
    (h : [] ∈ moves writes req.length req) :
    Socket.sendRecvServer w req writes reads stream =
      (.none, ⟨stream, [], writeCalls req.length (moves writes req.length req)⟩) := by
  simp only [Socket.sendRecvServer, take_request hreq, writeRequest_eq, h, not_true_eq_false,
    decide_false, List.nil_append]

/-- The connection once the request is written and the reading of a header is over. -/
def afterHeader (req stream : Bytes) (writes reads : List Int) : Conn where
  stream := stream.drop (moves reads secEntMsgHdrLen stream).flatten.length
  buff := (moves reads secEntMsgHdrLen stream).flatten
  calls := writeCalls req.length (moves writes req.length req) ++
    readCalls 0 secEntMsgHdrLen (moves reads secEntMsgHdrLen stream)

theorem sendRecvServer_noHeader (hreq : req.length < 2 ^ 31)
    (hw : [] ∉ moves writes req.length req) (h : [] ∈ moves reads secEntMsgHdrLen stream) :
    Socket.sendRecvServer w req writes reads stream =
      (.none, afterHeader req stream writes reads) := by
  have hshort : (moves reads secEntMsgHdrLen stream).flatten.length ≠ secEntMsgHdrLen := by
    intro hlen
    exact (moves_complete_iff reads secEntMsgHdrLen stream).mp hlen h
  simp only [Socket.sendRecvServer, take_request hreq, writeRequest_eq, hw, not_false_eq_true,
    decide_true, readNBytes_eq, ne_eq, hshort, if_true, List.nil_append, List.length_nil,
    afterHeader]

/-- What a header that was read says. -/
theorem parse_afterHeader (h : [] ∉ moves reads secEntMsgHdrLen stream) :
    (afterHeader req stream writes reads).buff = stream.take secEntMsgHdrLen ∧
      secEntMsgHdrLen ≤ stream.length ∧
      secEntMsgParseLenFromHdrBuffer w (afterHeader req stream writes reads).buff =
        ssizeT w (headerLen stream) := by
  rcases flatten_moves_eq_take h with ⟨htake, hlen⟩
  refine ⟨htake, hlen, ?_⟩
  have hbuff : ¬ (stream.take secEntMsgHdrLen).length < secEntMsgHdrLen := by
    rw [List.length_take]
    omega
  have hdigits : ((stream.take secEntMsgHdrLen).drop 1).take 4 = (stream.drop 1).take 4 := by
    rw [List.drop_take, List.take_take]
    rfl
  rw [afterHeader, htake, secEntMsgParseLenFromHdrBuffer, if_neg hbuff, hdigits, headerLen]

theorem sendRecvServer_tooLong (hwd : w = 32 ∨ w = 64) (hreq : req.length < 2 ^ 31)
    (hw : [] ∉ moves writes req.length req) (hh : [] ∉ moves reads secEntMsgHdrLen stream)
    (h : secEntMaxPayload < headerLen stream) :
    Socket.sendRecvServer w req writes reads stream =
      (.none, afterHeader req stream writes reads) := by
  have hparse : secEntMsgParseLenFromHdrBuffer w (afterHeader req stream writes reads).buff =
      ssizeT w (headerLen stream) := (parse_afterHeader hh).2.2
  have hfull := (moves_complete_iff reads secEntMsgHdrLen stream).mpr hh
  -- On a platform of 32 bits the length may come out negative; otherwise it is past the
  -- buffer.
  have hbad : ssizeT w (headerLen stream) < 0 ∨
      buffSize < sizeT w (ssizeT w (headerLen stream) + secEntMsgHdrLen) := by
    by_contra hno
    rw [not_or] at hno
    have hle := (lengthOk_iff hwd (headerLen_lt stream)).mp hno
    omega
  simp only [afterHeader] at hparse
  simp only [Socket.sendRecvServer, take_request hreq, writeRequest_eq, hw, not_false_eq_true,
    decide_true, readNBytes_eq, ne_eq, hfull, not_true_eq_false, if_false, List.nil_append,
    List.length_nil, hparse]
  rcases hbad with hneg | hbig
  · rw [if_pos hneg]
    simp only [afterHeader, hfull]
  · by_cases hneg : ssizeT w (headerLen stream) < 0
    · rw [if_pos hneg]
      simp only [afterHeader, hfull]
    · rw [if_neg hneg, if_pos hbig]
      simp only [afterHeader, hfull]

/-- What the reads behind a header move. -/
def payloadMoves (reads : List Int) (stream : Bytes) : List Bytes :=
  moves (reads.drop (moves reads secEntMsgHdrLen stream).length) (headerLen stream)
    (stream.drop secEntMsgHdrLen)

/-- What is made of a message that was read behind a header that fits. -/
def bodyReply (reads : List Int) (stream : Bytes) : SecEntReply :=
  if [] ∈ payloadMoves reads stream then .none
  else Iso21177.sendRecvServer (some ⟨stream.headD 0,
    (stream.drop secEntMsgHdrLen).take (headerLen stream)⟩)

/-- A message that was read whole is parsed from the buffer as it was sent, unless it has
    no payload. -/
theorem newFromRecvBuffer_whole (hlen : secEntMsgHdrLen ≤ stream.length)
    (hrest : headerLen stream ≤ (stream.drop secEntMsgHdrLen).length)
    (h : headerLen stream ≤ secEntMaxPayload) :
    secEntMsgNewFromRecvBuffer
        (stream.take secEntMsgHdrLen ++ (stream.drop secEntMsgHdrLen).take (headerLen stream))
        (headerLen stream + secEntMsgHdrLen) =
      if headerLen stream = 0 then none
      else some ⟨stream.headD 0, (stream.drop secEntMsgHdrLen).take (headerLen stream)⟩ := by
  have hhead : (stream.take secEntMsgHdrLen).length = secEntMsgHdrLen := by
    rw [List.length_take]
    omega
  -- The length is parsed once more, from the same octets.
  have hdigits : beVal (((stream.take secEntMsgHdrLen ++
      (stream.drop secEntMsgHdrLen).take (headerLen stream)).drop 1).take 4) =
        headerLen stream := by
    rw [List.drop_append_of_le_length (by rw [hhead]; decide), List.take_append_of_le_length
      (by rw [List.length_drop, hhead]; decide), List.drop_take, List.take_take]
    rfl
  have hfirst : (stream.take secEntMsgHdrLen ++
      (stream.drop secEntMsgHdrLen).take (headerLen stream)).headD 0 = stream.headD 0 := by
    obtain ⟨x, xs, rfl⟩ : ∃ x xs, stream = x :: xs := by
      cases stream with
      | nil => exact absurd hlen (by decide)
      | cons x xs => exact ⟨x, xs, rfl⟩
    rfl
  have hsum : sizeT 32 (headerLen stream + secEntMsgHdrLen) =
      headerLen stream + secEntMsgHdrLen := by
    simp only [sizeT, secEntMsgHdrLen, secEntMaxPayload] at h ⊢
    omega
  unfold secEntMsgNewFromRecvBuffer
  simp only [hdigits, hfirst, hsum]
  by_cases hzero : headerLen stream = 0
  · rw [if_pos (by omega), if_pos hzero]
  · rw [if_neg (by omega), if_neg (fun hne => hne rfl), if_neg hzero,
      List.drop_append_of_le_length (by rw [hhead]), List.drop_of_length_le (by rw [hhead]),
      List.nil_append, List.take_take, Nat.min_self]

theorem sendRecvServer_body (hwd : w = 32 ∨ w = 64) (hreq : req.length < 2 ^ 31)
    (hw : [] ∉ moves writes req.length req) (hh : [] ∉ moves reads secEntMsgHdrLen stream)
    (h : headerLen stream ≤ secEntMaxPayload) :
    ∃ k, Socket.sendRecvServer w req writes reads stream = (bodyReply reads stream, k) ∧
      k.calls = (afterHeader req stream writes reads).calls ++
        readCalls secEntMsgHdrLen (headerLen stream) (payloadMoves reads stream) := by
  have hparse : secEntMsgParseLenFromHdrBuffer w (afterHeader req stream writes reads).buff =
      ssizeT w (headerLen stream) := (parse_afterHeader hh).2.2
  have htake : (afterHeader req stream writes reads).buff = stream.take secEntMsgHdrLen :=
    (flatten_moves_eq_take hh).1
  have hlen : secEntMsgHdrLen ≤ stream.length := (flatten_moves_eq_take hh).2
  have hfull := (moves_complete_iff reads secEntMsgHdrLen stream).mpr hh
  have hsmall : headerLen stream < 2 ^ 31 := by
    simp only [secEntMaxPayload] at h
    omega
  have hval := ssizeT_of_lt hwd hsmall
  rcases (lengthOk_iff hwd (headerLen_lt stream)).mpr h with ⟨hneg, hbig⟩
  simp only [afterHeader] at htake hparse
  refine ⟨⟨(stream.drop secEntMsgHdrLen).drop (payloadMoves reads stream).flatten.length,
    stream.take secEntMsgHdrLen ++ (payloadMoves reads stream).flatten,
    (afterHeader req stream writes reads).calls ++
      readCalls secEntMsgHdrLen (headerLen stream) (payloadMoves reads stream)⟩, ?_, rfl⟩
  simp only [Socket.sendRecvServer, take_request hreq, writeRequest_eq, hw, not_false_eq_true,
    decide_true, readNBytes_eq, ne_eq, hfull, not_true_eq_false, if_false, List.nil_append,
    List.length_nil, hparse, hneg, hbig]
  have hfold : moves (reads.drop (moves reads secEntMsgHdrLen stream).length) (headerLen stream)
      (stream.drop secEntMsgHdrLen) = payloadMoves reads stream := rfl
  rw [hval, Int.toNat_natCast, htake, hfold]
  by_cases hfail : [] ∈ payloadMoves reads stream
  · -- The stream ended too early.
    have hshort : ¬ ((payloadMoves reads stream).flatten.length : Int) = headerLen stream := by
      intro heq
      have hall := (moves_complete_iff _ _ _).mp (Int.ofNat_inj.mp heq)
      exact hall hfail
    rw [if_pos hshort, bodyReply, if_pos hfail]
    rfl
  · rcases flatten_moves_eq_take hfail with ⟨hbody, hrest⟩
    have hall := (moves_complete_iff _ _ _).mpr hfail
    change (payloadMoves reads stream).flatten.length = headerLen stream at hall
    rw [if_neg (by rw [hall]; exact fun hne => hne rfl), bodyReply, if_neg hfail, hall]
    change (payloadMoves reads stream).flatten = _ at hbody
    rw [hbody]
    change headerLen stream ≤ (stream.drop secEntMsgHdrLen).length at hrest
    rw [newFromRecvBuffer_whole hlen hrest h]
    have hdata : ((stream.drop secEntMsgHdrLen).take (headerLen stream)).length =
        headerLen stream := by
      rw [List.length_take]
      omega
    simp only [Iso21177.sendRecvServer, hdata]
    by_cases hzero : headerLen stream = 0
    · rw [if_pos hzero, if_pos (Or.inl hzero)]
      rfl
    · rw [if_neg hzero, if_neg (by omega)]
      rfl

end Exchange

theorem written_append (as bs : List SockCall) : written (as ++ bs) = written as ++ written bs :=
  List.flatMap_append

theorem received_append (as bs : List SockCall) :
    received (as ++ bs) = received as ++ received bs :=
  List.flatMap_append

/-- What the calls of a writing loop are. -/
theorem writeCalls_spec (n : Nat) (cs : List Bytes) :
    written (writeCalls n cs) = cs.flatten ∧ received (writeCalls n cs) = [] ∧
      (∀ c ∈ writeCalls n cs, c.isRead = false) := by
  induction cs generalizing n with
  | nil => exact ⟨rfl, rfl, fun c hc => absurd hc List.not_mem_nil⟩
  | cons b cs ih =>
      rcases ih (n - b.length) with ⟨hw, hr, hc⟩
      refine ⟨?_, ?_, ?_⟩
      · simp only [writeCalls, written, List.flatMap_cons, List.flatten_cons] at hw ⊢
        rw [hw]
      · simp only [writeCalls, received, List.flatMap_cons, List.nil_append] at hr ⊢
        exact hr
      · intro c hmem
        rcases List.mem_cons.mp hmem with rfl | hmem
        · rfl
        · exact hc c hmem

/-- What the calls of a reading loop are. -/
theorem readCalls_spec (off n : Nat) (cs : List Bytes) :
    written (readCalls off n cs) = [] ∧ received (readCalls off n cs) = cs.flatten ∧
      (∀ c ∈ readCalls off n cs, c.isRead = true) ∧
      ((∀ c ∈ readCalls off n cs, c.readsNothing = false) ↔ [] ∉ cs) := by
  -- Each call is asked for what the ones before it left.
  induction cs generalizing off n with
  | nil =>
      exact ⟨rfl, rfl, fun c hc => absurd hc List.not_mem_nil,
        iff_of_true (fun c hc => absurd hc List.not_mem_nil) List.not_mem_nil⟩
  | cons b cs ih =>
      rcases ih (off + b.length) (n - b.length) with ⟨hw, hr, hc, hn⟩
      refine ⟨?_, ?_, ?_, ?_⟩
      · simp only [readCalls, written, List.flatMap_cons, List.nil_append] at hw ⊢
        exact hw
      · simp only [readCalls, received, List.flatMap_cons, List.flatten_cons] at hr ⊢
        rw [hr]
      · intro c hmem
        rcases List.mem_cons.mp hmem with rfl | hmem
        · rfl
        · exact hc c hmem
      · rw [readCalls, List.forall_mem_cons, hn, List.mem_cons, not_or, SockCall.readsNothing,
          decide_eq_false_iff_not, eq_comm]

/-- Every read of a loop asks for what is missing, at the end of what is there. -/
theorem readCalls_bounds {off n : Nat} {cs : List Bytes} (h : cs.flatten.length ≤ n)
    {o l : Nat} {b : Bytes} (hmem : .read o l b ∈ readCalls off n cs) :
    o + l = off + n ∧ b.length ≤ l := by
  induction cs generalizing off n with
  | nil => exact absurd hmem List.not_mem_nil
  | cons c cs ih =>
      rw [List.flatten_cons, List.length_append] at h
      rcases List.mem_cons.mp hmem with heq | hmem
      · rw [SockCall.read.injEq] at heq
        rcases heq with ⟨rfl, rfl, rfl⟩
        exact ⟨rfl, by omega⟩
      · have hrest := ih (show cs.flatten.length ≤ n - c.length by omega) hmem
        exact ⟨by omega, hrest.2⟩

/-- What a stream that starts with a message says of it. -/
theorem header_of_message {t : UInt8} {p stream : Bytes} (hp : p.length < 2 ^ 32)
    (h : t :: beBytes 4 p.length ++ p <+: stream) :
    headerLen stream = p.length ∧ stream.headD 0 = t ∧
      (stream.drop secEntMsgHdrLen).take p.length = p := by
  rcases h with ⟨rest, rfl⟩
  have hfour := length_beBytes 4 p.length
  refine ⟨?_, rfl, ?_⟩
  · -- The four octets behind the type spell the length.
    have hdigits : ((t :: beBytes 4 p.length ++ p ++ rest).drop 1).take 4 =
        beBytes 4 p.length := by
      rw [List.cons_append, List.cons_append, List.drop_succ_cons, List.drop_zero,
        List.append_assoc]
      have htake := @List.take_left _ (beBytes 4 p.length) (p ++ rest)
      rwa [hfour] at htake
    rw [headerLen, hdigits, beVal_beBytes 4 _ hp]
  · have hdrop : (t :: beBytes 4 p.length ++ p ++ rest).drop secEntMsgHdrLen = p ++ rest := by
      rw [List.cons_append, List.cons_append, secEntMsgHdrLen, List.drop_succ_cons,
        List.append_assoc]
      have hleft := @List.drop_left _ (beBytes 4 p.length) (p ++ rest)
      rwa [hfour] at hleft
    rw [hdrop, List.take_left]

/-- A stream whose header and payload were read starts with the message they make. -/
theorem message_of_header {stream : Bytes} (hlen : secEntMsgHdrLen ≤ stream.length)
    (hrest : headerLen stream ≤ (stream.drop secEntMsgHdrLen).length) :
    stream.headD 0 :: beBytes 4 (headerLen stream) ++
      (stream.drop secEntMsgHdrLen).take (headerLen stream) <+: stream := by
  obtain ⟨x, xs, rfl⟩ : ∃ x xs, stream = x :: xs := by
    cases stream with
    | nil => exact absurd hlen (by decide)
    | cons x xs => exact ⟨x, xs, rfl⟩
  have hfour : (xs.take 4).length = 4 := by
    rw [List.length_cons, secEntMsgHdrLen] at hlen
    rw [List.length_take]
    omega
  -- Four octets are the digits of the number they spell.
  have hbytes : beBytes 4 (headerLen (x :: xs)) = xs.take 4 := by
    have hspell := beBytes_beVal (xs.take 4)
    rw [hfour] at hspell
    exact hspell
  rw [hbytes]
  refine ⟨(xs.drop 4).drop (headerLen (x :: xs)), ?_⟩
  simp only [List.headD_cons, secEntMsgHdrLen, List.drop_succ_cons, List.cons_append,
    List.append_assoc, List.take_append_drop]

/-- An exchange as it should go, in terms of what the peer sent, the reply, and the calls
    that were made. -/
structure WellFramed (req stream : Bytes) (r : SecEntReply) (calls : List SockCall) : Prop where
  /-- A prefix of the request is written, and all of it before anything is read. -/
  order : ∃ ws rs, calls = ws ++ rs ∧ (∀ c ∈ ws, c.isRead = false) ∧
    (∀ c ∈ rs, c.isRead = true) ∧ written calls <+: req ∧ (rs ≠ [] → written calls = req)
  /-- The reply is the message the stream starts with, if it is one, fits, is not a
      failure, and no read came to the end of the stream or an error. -/
  reply : ∀ t p, r = .msg ⟨t, p⟩ ↔
    written calls = req ∧ t :: beBytes 4 p.length ++ p <+: stream ∧ 1 ≤ p.length ∧
      p.length ≤ secEntMaxPayload ∧ t ≠ secEntMsgTypeFailure ∧
      ∀ c ∈ calls, c.readsNothing = false
  /-- What is read is the start of the stream, no further than the message. -/
  consumed : received calls <+: stream ∧
    (received calls).length ≤ secEntMsgHdrLen + headerLen stream
  /-- Every read stays inside the buffer. -/
  stored : ∀ off len b, .read off len b ∈ calls → off + len ≤ buffSize ∧ b.length ≤ len

section Framing

variable {w : Nat} {req stream : Bytes} {writes reads : List Int}

theorem written_writeMoves (hw : [] ∉ moves writes req.length req) :
    written (writeCalls req.length (moves writes req.length req)) = req := by
  rw [(writeCalls_spec _ _).1, (flatten_moves_eq_take hw).1, List.take_length]

theorem not_read_mem_writeCalls {n off len : Nat} {cs : List Bytes} {b : Bytes} :
    .read off len b ∉ writeCalls n cs := by
  intro hmem
  exact absurd ((writeCalls_spec n cs).2.2 _ hmem) (by simp only [SockCall.isRead,
    Bool.true_eq_false, not_false_eq_true])

/-- The request was not written: nothing is read. -/
theorem wellFramed_unwritten (h : [] ∈ moves writes req.length req) :
    WellFramed req stream .none (writeCalls req.length (moves writes req.length req)) := by
  obtain ⟨hwritten, hreceived, hnoread⟩ :=
    writeCalls_spec req.length (moves writes req.length req)
  have hpre : (moves writes req.length req).flatten <+: req := flatten_moves_initial _ _ _
  refine ⟨⟨_, [], (List.append_nil _).symm, hnoread, fun c hc => absurd hc List.not_mem_nil, ?_,
    fun hne => absurd rfl hne⟩, fun t p => ?_, ?_, fun off len b hmem => ?_⟩
  · rw [hwritten]
    exact hpre
  · refine iff_of_false (fun hr => absurd hr (by simp only [reduceCtorEq, not_false_eq_true])) ?_
    rintro ⟨hall, -⟩
    rw [hwritten] at hall
    have hlen := congrArg List.length hall
    exact (moves_complete_iff _ _ _).mp hlen h
  · rw [hreceived]
    exact ⟨List.nil_prefix, Nat.zero_le _⟩
  · exact absurd hmem not_read_mem_writeCalls

/-- The header ends the exchange, because it was not read or because of the length it says. -/
theorem wellFramed_header (hw : [] ∉ moves writes req.length req)
    (h : [] ∈ moves reads secEntMsgHdrLen stream ∨ secEntMaxPayload < headerLen stream) :
    WellFramed req stream .none (afterHeader req stream writes reads).calls := by
  have hwritten := written_writeMoves hw
  rcases writeCalls_spec req.length (moves writes req.length req) with ⟨-, hreceived, hnoread⟩
  obtain ⟨hwritten', hreceived', hread, hnothing⟩ :=
    readCalls_spec 0 secEntMsgHdrLen (moves reads secEntMsgHdrLen stream)
  have hall : written (afterHeader req stream writes reads).calls = req := by
    rw [afterHeader, written_append, hwritten, hwritten', List.append_nil]
  have hpre : written (afterHeader req stream writes reads).calls <+: req := by
    simp only [hall, List.prefix_rfl]
  refine ⟨⟨_, _, rfl, hnoread, hread, hpre, fun _ => hall⟩, fun t p => ?_, ?_,
    fun off len b hmem => ?_⟩
  · refine iff_of_false (fun hr => absurd hr (by simp only [reduceCtorEq, not_false_eq_true])) ?_
    rintro ⟨-, hmsg, -, hmax, -, hok⟩
    -- A message needs a header that was read and a length that fits.
    rcases h with hfail | hlong
    · exact hnothing.mp (fun c hc => hok c (List.mem_append_right _ hc)) hfail
    · have hp : p.length < 2 ^ 32 := by
        simp only [secEntMaxPayload] at hmax
        omega
      rw [(header_of_message hp hmsg).1] at hlong
      omega
  · rw [afterHeader, received_append, hreceived, hreceived', List.nil_append]
    refine ⟨flatten_moves_initial _ _ _, ?_⟩
    have hle := length_flatten_moves_le reads secEntMsgHdrLen stream
    omega
  · rcases List.mem_append.mp hmem with hmem | hmem
    · exact absurd hmem not_read_mem_writeCalls
    · rcases readCalls_bounds (length_flatten_moves_le _ _ _) hmem with ⟨hend, hb⟩
      refine ⟨?_, hb⟩
      rw [hend]
      decide

/-- A header that fits is answered with the message of the stream, if its payload was
    read and it is not a failure. -/
theorem bodyReply_msg_iff (hlen : secEntMsgHdrLen ≤ stream.length)
    (h : headerLen stream ≤ secEntMaxPayload) {t : UInt8} {p : Bytes} :
    bodyReply reads stream = .msg ⟨t, p⟩ ↔
      t :: beBytes 4 p.length ++ p <+: stream ∧ 1 ≤ p.length ∧ p.length ≤ secEntMaxPayload ∧
        t ≠ secEntMsgTypeFailure ∧ [] ∉ payloadMoves reads stream := by
  constructor
  · intro hr
    unfold bodyReply at hr
    split at hr
    · exact absurd hr (by simp only [reduceCtorEq, not_false_eq_true])
    · rename_i hbody
      rcases flatten_moves_eq_take hbody with ⟨-, hrest⟩
      simp only [sendRecvServer] at hr
      split at hr
      · exact absurd hr (by simp only [reduceCtorEq, not_false_eq_true])
      · rename_i hdata
        split at hr
        · exact absurd hr (by simp only [reduceCtorEq, not_false_eq_true])
        · rename_i htype
          simp only [SecEntReply.msg.injEq, SecEntMsg.mk.injEq] at hr
          rcases hr with ⟨rfl, rfl⟩
          have hp : ((stream.drop secEntMsgHdrLen).take (headerLen stream)).length =
              headerLen stream := by
            rw [List.length_take]
            omega
          have hmsg := message_of_header hlen hrest
          rw [hp] at hdata ⊢
          exact ⟨hmsg, by omega, h, htype, hbody⟩
  · rintro ⟨hmsg, hpos, hmax, htype, hbody⟩
    -- The length in the header is that of the payload, so the whole of it was read.
    have hp : p.length < 2 ^ 32 := by
      simp only [secEntMaxPayload] at hmax
      omega
    rcases header_of_message hp hmsg with ⟨hn, ht, hbytes⟩
    rw [bodyReply, if_neg hbody, hn, ht, hbytes, sendRecvServer]
    simp only
    rw [if_neg (by omega), if_neg htype]

/-- The payload behind a header that fits was read, or not. -/
theorem wellFramed_body (hw : [] ∉ moves writes req.length req)
    (hh : [] ∉ moves reads secEntMsgHdrLen stream) (h : headerLen stream ≤ secEntMaxPayload) :
    WellFramed req stream (bodyReply reads stream)
      ((afterHeader req stream writes reads).calls ++
        readCalls secEntMsgHdrLen (headerLen stream) (payloadMoves reads stream)) := by
  have hwritten := written_writeMoves hw
  rcases writeCalls_spec req.length (moves writes req.length req) with ⟨-, hreceived, hnoread⟩
  obtain ⟨hwritten1, hreceived1, hread1, hnothing1⟩ :=
    readCalls_spec 0 secEntMsgHdrLen (moves reads secEntMsgHdrLen stream)
  obtain ⟨hwritten2, hreceived2, hread2, hnothing2⟩ :=
    readCalls_spec secEntMsgHdrLen (headerLen stream) (payloadMoves reads stream)
  rcases flatten_moves_eq_take hh with ⟨hhead, hlen⟩
  have hall : written ((afterHeader req stream writes reads).calls ++
      readCalls secEntMsgHdrLen (headerLen stream) (payloadMoves reads stream)) = req := by
    rw [written_append, afterHeader, written_append, hwritten, hwritten1, hwritten2,
      List.append_nil, List.append_nil]
  have hpre : written ((afterHeader req stream writes reads).calls ++
      readCalls secEntMsgHdrLen (headerLen stream) (payloadMoves reads stream)) <+: req := by
    simp only [hall, List.prefix_rfl]
  refine ⟨⟨_, _, List.append_assoc .., hnoread, ?_, hpre, fun _ => hall⟩,
    fun t p => ?_, ?_, fun off len b hmem => ?_⟩
  · intro c hc
    rcases List.mem_append.mp hc with hc | hc
    · exact hread1 c hc
    · exact hread2 c hc
  · -- No read came to nothing exactly if the payload was read as well.
    have hok : (∀ c ∈ (afterHeader req stream writes reads).calls ++
          readCalls secEntMsgHdrLen (headerLen stream) (payloadMoves reads stream),
        c.readsNothing = false) ↔ [] ∉ payloadMoves reads stream := by
      refine ⟨fun hok => hnothing2.mp (fun c hc => hok c (List.mem_append_right _ hc)),
        fun hbody c hc => ?_⟩
      rcases List.mem_append.mp hc with hc | hc
      · rcases List.mem_append.mp hc with hc | hc
        · cases c with
          | write len sent => rfl
          | read off len got => exact absurd hc not_read_mem_writeCalls
        · exact hnothing1.mpr hh c hc
      · exact hnothing2.mpr hbody c hc
    rw [bodyReply_msg_iff hlen h, hok]
    exact ⟨fun hr => ⟨hall, hr⟩, fun hr => hr.2⟩
  · rw [received_append, afterHeader, received_append, hreceived, hreceived1, hreceived2,
      List.nil_append, hhead]
    -- The payload continues the stream where the header ended.
    have hpay : (payloadMoves reads stream).flatten <+: stream.drop secEntMsgHdrLen :=
      flatten_moves_initial _ _ _
    refine ⟨?_, ?_⟩
    · rcases hpay with ⟨tail, htail⟩
      refine ⟨tail, ?_⟩
      rw [List.append_assoc, htail, List.take_append_drop]
    · have hle : (payloadMoves reads stream).flatten.length ≤ headerLen stream :=
        length_flatten_moves_le _ _ _
      rw [List.length_append, List.length_take]
      omega
  · rcases List.mem_append.mp hmem with hmem | hmem
    · rcases List.mem_append.mp hmem with hmem | hmem
      · exact absurd hmem not_read_mem_writeCalls
      · rcases readCalls_bounds (length_flatten_moves_le _ _ _) hmem with ⟨hend, hb⟩
        refine ⟨?_, hb⟩
        rw [hend]
        decide
    · rcases readCalls_bounds (length_flatten_moves_le _ _ _) hmem with ⟨hend, hb⟩
      refine ⟨?_, hb⟩
      rw [hend]
      simp only [secEntMaxPayload] at h
      simp only [secEntMsgHdrLen, buffSize]
      omega

end Framing

/-- However the calls on the socket split a request of fewer than 2^31 octets and the
    stream of the peer, and for either width of `ssize_t`, the exchange is well framed. -/
theorem exchange_wellFramed {w : Nat} (hw : w = 32 ∨ w = 64) {req : Bytes}
    (hreq : req.length < 2 ^ 31) (writes reads : List Int) (stream : Bytes) :
    WellFramed req stream (Socket.sendRecvServer w req writes reads stream).1
      (Socket.sendRecvServer w req writes reads stream).2.calls := by
  by_cases hwrite : [] ∈ moves writes req.length req
  · rw [sendRecvServer_unwritten hreq hwrite]
    exact wellFramed_unwritten hwrite
  · by_cases hhead : [] ∈ moves reads secEntMsgHdrLen stream
    · rw [sendRecvServer_noHeader hreq hwrite hhead]
      exact wellFramed_header hwrite (Or.inl hhead)
    · by_cases hlong : secEntMaxPayload < headerLen stream
      · rw [sendRecvServer_tooLong hw hreq hwrite hhead hlong]
        exact wellFramed_header hwrite (Or.inr hlong)
      · obtain ⟨k, hk, hcalls⟩ := sendRecvServer_body hw hreq hwrite hhead
          (show headerLen stream ≤ secEntMaxPayload by omega)
        rw [hk, hcalls]
        exact wellFramed_body hwrite hhead (by omega)

/-- A request of two octets written one by one, and a reply of one octet that comes in
    three parts. -/
theorem exchange_wellFramed_split :
    WellFramed [1, 2] [8, 0, 0, 0, 1, 7, 9]
        (Socket.sendRecvServer 32 [1, 2] [1, 1] [2, 3, 5] [8, 0, 0, 0, 1, 7, 9]).1
        (Socket.sendRecvServer 32 [1, 2] [1, 1] [2, 3, 5] [8, 0, 0, 0, 1, 7, 9]).2.calls ∧
      (Socket.sendRecvServer 32 [1, 2] [1, 1] [2, 3, 5] [8, 0, 0, 0, 1, 7, 9]).1 =
        .msg ⟨8, [7]⟩ :=
  ⟨exchange_wellFramed (Or.inl rfl) (by decide) _ _ _, by decide⟩

end Iso21177
