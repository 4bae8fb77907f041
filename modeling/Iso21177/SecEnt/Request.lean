import Iso21177.SecEnt.Exchange
import Iso21177.Ssl.VerifyRequest

/-!
# Reading Requests

The messages the security entity is sent, taken together as a language. There are five,
one for each constructor of the source, and the type octet tells them apart. Inside a
payload only fixed lengths do: a PSID has eight octets and so has a hash, and what is left
is one field, or two in a request to check a signature, of which the second is data that
may be signed in TLS 1.3.

`readRequest` is a reader for the other end of the socket, of which the repository has no
source. It is not how the entity reads, but it shows that the entity can: from any stream
that starts with a request it gets back the fields and what follows
(`readRequest_encode`), so no request is the start of another, and from a stream that was
cut off it gets nothing (`readRequest_cut`). Whatever the calls on the socket do, the
entity is never asked anything else than what the client meant (`request_understood`).

## Main definitions

* `Hashedid8`: A hash of eight octets.
* `SecEntRequest`, `SecEntRequest.toMsg`: The requests and the messages they are sent as.
* `SecEntRequest.Readable`: What is signed may be signed in TLS 1.3.
* `SecEntRequest.encode`: The octets of a request.
* `splitVerify`, `readHashedid8`, `readPayload`, `readRequest`: The reader.
* `paddedRequest`: A request that is hard to read.

## Theorems

* `tls13Tbs_eq_append`, `tls13Producible_iff_starts`: Deciding what may be signed.
* `splitVerify_append`: A signature and the data behind it.
* `take_append_of_length`, `drop_append_of_length`, `readHashedid8_append`: Fields of fixed
  length.
* `readPayload_toMsg`: The payloads.
* `toMsg_sendBuffer`, `length_encode`, `drop_encode`: What is written for a request.
* `readRequest_encode`, `readRequest_cut`: Streams.
* `written_exchange`: What an exchange writes.
* `request_understood`, `request_understood_padding`: The requests on the socket.
-/

namespace Iso21177

open Packet

/-- The hash a certificate is known by. -/
abbrev Hashedid8 := { b : Bytes // b.length = hashedid8Len }

/-- A request to the security entity, with the arguments of its constructor. -/
inductive SecEntRequest
  | verifyCerts (certs : Bytes)
  | signData (psid : UInt64) (hashedid8 : Hashedid8) (input : Bytes)
  | verifyData (hashedid8 : Hashedid8) (verifyData verifyInput : Bytes)
  | getCert (hashedid8 : Hashedid8)
  | getAt
  deriving DecidableEq

/-- The message of a request. -/
def SecEntRequest.toMsg : SecEntRequest → SecEntMsg
  | .verifyCerts certs => secEntMsgNewTypeTlsVerifyCerts certs
  | .signData psid h input => secEntMsgNewTypeTlsSignData psid h.1 input
  | .verifyData h sig tbs => secEntMsgNewTypeTlsVerifyData h.1 sig tbs
  | .getCert h => secEntMsgNewTypeGetCert h.1
  | .getAt => secEntMsgNewTypeGetAtCert

/-- The data whose signature is to be checked is data that may be signed in TLS 1.3. -/
def SecEntRequest.Readable : SecEntRequest → Prop
  | .verifyData _ _ tbs => Tls13Producible tbs
  | _ => True

theorem tls13Tbs_eq_append (byServer : Bool) (hash : Bytes) :
    tls13Tbs byServer hash = tls13Tbs byServer [] ++ hash := by
  simp only [tls13Tbs, List.append_assoc, List.cons_append, List.nil_append]

/-- Data that may be signed starts with one of the two contexts, and ends with a hash. -/
theorem tls13Producible_iff_starts (tbs : Bytes) :
    Tls13Producible tbs ↔ tbs.length ≤ tls13TbsStartSize + 34 + evpMaxMdSize ∧
      (tls13Tbs true [] <+: tbs ∨ tls13Tbs false [] <+: tbs) := by
  constructor
  · rintro ⟨byServer, hash, hlen, rfl⟩
    refine ⟨by rw [length_tls13Tbs]; omega, ?_⟩
    rw [tls13Tbs_eq_append]
    cases byServer with
    | true => exact Or.inl (List.prefix_append _ _)
    | false => exact Or.inr (List.prefix_append _ _)
  · rintro ⟨hlen, ⟨hash, rfl⟩ | ⟨hash, rfl⟩⟩
    · refine ⟨true, hash, ?_, (tls13Tbs_eq_append true hash).symm⟩
      rw [← tls13Tbs_eq_append, length_tls13Tbs] at hlen
      omega
    · refine ⟨false, hash, ?_, (tls13Tbs_eq_append false hash).symm⟩
      rw [← tls13Tbs_eq_append, length_tls13Tbs] at hlen
      omega

instance (tbs : Bytes) : Decidable (Tls13Producible tbs) :=
  decidable_of_iff _ (tls13Producible_iff_starts tbs).symm

/-- A signature and the signed data, split where data that may be signed starts. -/
def splitVerify (d : Bytes) : Option (Bytes × Bytes) :=
  ((List.range (d.length + 1)).find? (fun k => decide (Tls13Producible (d.drop k)))).map
    (fun k => (d.take k, d.drop k))

/-- There is one place to split, since signed data does not end in other signed data. -/
theorem splitVerify_append (sig : Bytes) {tbs : Bytes} (h : Tls13Producible tbs) :
    splitVerify (sig ++ tbs) = some (sig, tbs) := by
  have hhere : Tls13Producible ((sig ++ tbs).drop sig.length) := by rwa [List.drop_left]
  have hfind : (List.range ((sig ++ tbs).length + 1)).find?
      (fun k => decide (Tls13Producible ((sig ++ tbs).drop k))) = some sig.length := by
    rw [List.find?_range_eq_some]
    refine ⟨decide_eq_true hhere, ?_, fun k hk => ?_⟩
    · rw [List.mem_range, List.length_append]
      omega
    · rw [Bool.not_eq_true', decide_eq_false_iff_not]
      intro hearlier
      rw [List.drop_append_of_le_length (Nat.le_of_lt hk)] at hearlier
      have hnil := tls13Tbs_not_shifted hearlier h rfl
      rw [List.drop_eq_nil_iff] at hnil
      omega
  rw [splitVerify, hfind, Option.map_some, List.take_left, List.drop_left]

theorem take_append_of_length {n : Nat} {a : Bytes} (h : a.length = n) (b : Bytes) :
    (a ++ b).take n = a := by
  rw [← h, List.take_left]

theorem drop_append_of_length {n : Nat} {a : Bytes} (h : a.length = n) (b : Bytes) :
    (a ++ b).drop n = b := by
  rw [← h, List.drop_left]

/-- The first eight octets as a hash. -/
def readHashedid8 (d : Bytes) : Option (Hashedid8 × Bytes) :=
  if h : (d.take hashedid8Len).length = hashedid8Len then
    some (⟨d.take hashedid8Len, h⟩, d.drop hashedid8Len)
  else none

theorem readHashedid8_append (h : Hashedid8) (d : Bytes) :
    readHashedid8 (h.1 ++ d) = some (h, d) := by
  have htake := take_append_of_length h.2 d
  simp only [readHashedid8, htake, drop_append_of_length h.2 d]
  exact dif_pos h.2

/-- The request of a message. -/
def readPayload (m : SecEntMsg) : Option SecEntRequest :=
  if m.msgType = secEntMsgTypeTlsVerifyCerts then some (.verifyCerts m.data)
  else if m.msgType = secEntMsgTypeTlsSignData then
    (readHashedid8 (m.data.drop 8)).map
      (fun r => .signData (UInt64.ofNat (beVal (m.data.take 8))) r.1 r.2)
  else if m.msgType = secEntMsgTypeTlsVerifyData then
    (readHashedid8 m.data).bind
      (fun r => (splitVerify r.2).map (fun v => .verifyData r.1 v.1 v.2))
  else if m.msgType = secEntMsgTypeGetCert then
    (readHashedid8 m.data).bind (fun r => if r.2 = [0] then some (.getCert r.1) else none)
  else if m.msgType = secEntMsgTypeGetAt then if m.data = [] then some .getAt else none
  else none

/-- The reader gets a request back from its message. -/
theorem readPayload_toMsg {r : SecEntRequest} (hr : r.Readable) :
    readPayload r.toMsg = some r := by
  cases r with
  | verifyCerts certs => rfl
  | signData psid h input =>
      have height := length_beBytes 8 psid.toNat
      have hpsid : beVal (beBytes 8 psid.toNat) = psid.toNat :=
        beVal_beBytes 8 _ psid.toNat_lt
      simp only [SecEntRequest.toMsg, secEntMsgNewTypeTlsSignData, List.append_assoc]
      unfold readPayload
      simp only [take_append_of_length height, drop_append_of_length height,
        readHashedid8_append, hpsid, UInt64.ofNat_toNat, Option.map_some]
      rfl
  | verifyData h sig tbs =>
      have hsplit := splitVerify_append sig hr
      simp only [SecEntRequest.toMsg, secEntMsgNewTypeTlsVerifyData, List.append_assoc]
      unfold readPayload
      simp only [readHashedid8_append, Option.bind_some, hsplit, Option.map_some]
      rfl
  | getCert h =>
      simp only [SecEntRequest.toMsg, secEntMsgNewTypeGetCert]
      unfold readPayload
      simp only [readHashedid8_append, Option.bind_some, if_true]
      rfl
  | getAt => rfl

/-- The octets of a request. -/
def SecEntRequest.encode (r : SecEntRequest) : Bytes := requestOctets r.toMsg

/-- What is written for a request are its octets. -/
theorem toMsg_sendBuffer {r : SecEntRequest}
    (h : r.toMsg.data.length + secEntMsgHdrLen < 2 ^ 32) :
    secEntMsgGetSendBuffer r.toMsg = some (r.encode, r.encode.length) := by
  rw [SecEntRequest.encode, length_requestOctets]
  exact secEntMsgGetSendBuffer_eq h

/-- The request a stream starts with, and what follows it. -/
def readRequest (stream : Bytes) : Option (SecEntRequest × Bytes) :=
  let payload := stream.drop secEntMsgHdrLen
  if stream.length < secEntMsgHdrLen ∨ payload.length < headerLen stream then none
  else
    (readPayload ⟨stream.headD 0, payload.take (headerLen stream)⟩).map
      (fun r => (r, payload.drop (headerLen stream)))

section
variable {r : SecEntRequest}

theorem length_encode : r.encode.length = secEntMsgHdrLen + r.toMsg.data.length := by
  rw [SecEntRequest.encode, length_requestOctets, Nat.add_comm]

theorem drop_encode (rest : Bytes) :
    (r.encode ++ rest).drop secEntMsgHdrLen = r.toMsg.data ++ rest := by
  rw [SecEntRequest.encode, requestOctets, List.append_assoc]
  refine drop_append_of_length ?_ _
  rw [List.length_cons, length_beBytes]
  rfl

/-- From a stream that starts with a request the reader gets it back, and what follows. -/
theorem readRequest_encode (hr : r.Readable) (hlen : r.toMsg.data.length < 2 ^ 32)
    (rest : Bytes) : readRequest (r.encode ++ rest) = some (r, rest) := by
  obtain ⟨hn, ht, hbytes⟩ := header_of_message (t := r.toMsg.msgType) (p := r.toMsg.data)
    hlen (List.prefix_append r.encode rest)
  have hall : ¬ ((r.encode ++ rest).length < secEntMsgHdrLen ∨
      (r.toMsg.data ++ rest).length < r.toMsg.data.length) := by
    rw [List.length_append, List.length_append, length_encode]
    omega
  change headerLen (r.encode ++ rest) = _ at hn
  change (r.encode ++ rest).headD 0 = _ at ht
  simp only [readRequest, drop_encode, hn, if_neg hall, ht, List.take_left, List.drop_left]
  rw [show (⟨r.toMsg.msgType, r.toMsg.data⟩ : SecEntMsg) = r.toMsg from rfl,
    readPayload_toMsg hr, Option.map_some]

/-- From a stream that was cut off inside a request the reader gets nothing. -/
theorem readRequest_cut (hlen : r.toMsg.data.length < 2 ^ 32) {stream : Bytes}
    (h : stream <+: r.encode) (hne : stream ≠ r.encode) : readRequest stream = none := by
  rcases h with ⟨rest, hrest⟩
  have hpos : 0 < rest.length := by
    refine List.length_pos_iff.mpr (fun hnil => hne ?_)
    rw [← hrest, hnil, List.append_nil]
  have hsum : stream.length + rest.length = secEntMsgHdrLen + r.toMsg.data.length := by
    rw [← length_encode, ← hrest, List.length_append]
  refine if_pos ?_
  by_cases hshort : stream.length < secEntMsgHdrLen
  · exact Or.inl hshort
  · -- The header is there, so the length it says is that of the whole payload.
    refine Or.inr ?_
    have hn : headerLen (stream ++ rest) = r.toMsg.data.length := by
      rw [hrest]
      exact (header_of_message (t := r.toMsg.msgType) hlen (List.prefix_refl _)).1
    have hsame : headerLen (stream ++ rest) = headerLen stream := by
      have hfive : secEntMsgHdrLen = 5 := rfl
      rw [headerLen, headerLen, List.drop_append_of_le_length (by omega),
        List.take_append_of_le_length (by rw [List.length_drop]; omega)]
    rw [List.length_drop, ← hsame, hn]
    omega

end

/-- What an exchange writes is a start of the request, and all of it if anything is read. -/
theorem written_exchange {w : Nat} (hw : w = 32 ∨ w = 64) {req : Bytes}
    (hreq : req.length < 2 ^ 31) (writes reads : List Int) (stream : Bytes) :
    written (Socket.sendRecvServer w req writes reads stream).2.calls <+: req ∧
      ((Socket.sendRecvServer w req writes reads stream).2.calls.any SockCall.isRead = true →
        written (Socket.sendRecvServer w req writes reads stream).2.calls = req) := by
  by_cases hwrite : [] ∈ moves writes req.length req
  · rw [sendRecvServer_unwritten hreq hwrite]
    obtain ⟨hwritten, -, hnoread⟩ := writeCalls_spec req.length (moves writes req.length req)
    refine ⟨by rw [hwritten]; exact flatten_moves_initial _ _ _, fun hread => ?_⟩
    rcases List.any_eq_true.mp hread with ⟨c, hc, hcr⟩
    exact absurd hcr (by rw [hnoread c hc]; exact Bool.false_ne_true)
  · -- Once the request is written, the calls that follow are reads.
    have hall : written (Socket.sendRecvServer w req writes reads stream).2.calls = req := by
      have hhead : written (afterHeader req stream writes reads).calls = req := by
        rw [afterHeader, written_append, written_writeMoves hwrite, (readCalls_spec _ _ _).1,
          List.append_nil]
      by_cases hh : [] ∈ moves reads secEntMsgHdrLen stream
      · rw [sendRecvServer_noHeader hreq hwrite hh, hhead]
      · by_cases hlong : secEntMaxPayload < headerLen stream
        · rw [sendRecvServer_tooLong hw hreq hwrite hh hlong, hhead]
        · obtain ⟨k, hk, hcalls⟩ := sendRecvServer_body hw hreq hwrite hh
            (show headerLen stream ≤ secEntMaxPayload by omega)
          rw [hk, hcalls, written_append, hhead, (readCalls_spec _ _ _).1, List.append_nil]
    rw [hall]
    exact ⟨List.prefix_refl _, fun _ => rfl⟩

/-- However the calls on the socket go, what the security entity has received at the end of
    an exchange is the request, of which it can get back every field, or it is nothing it
    could take for a request. It is the request if anything was read. -/
theorem request_understood {w : Nat} (hw : w = 32 ∨ w = 64) {r : SecEntRequest}
    (hr : r.Readable) (hlen : r.toMsg.data.length + secEntMsgHdrLen < 2 ^ 31)
    (writes reads : List Int) (stream : Bytes) :
    ∃ out len, secEntMsgGetSendBuffer r.toMsg = some (out, len) ∧
      (readRequest (written (Socket.sendRecvServer w out writes reads stream).2.calls) =
          some (r, []) ∨
        readRequest (written (Socket.sendRecvServer w out writes reads stream).2.calls) = none) ∧
      ((Socket.sendRecvServer w out writes reads stream).2.calls.any SockCall.isRead = true →
        readRequest (written (Socket.sendRecvServer w out writes reads stream).2.calls) =
          some (r, [])) := by
  have hsize : r.encode.length < 2 ^ 31 := by
    rw [length_encode]
    omega
  have hdata : r.toMsg.data.length < 2 ^ 32 := by omega
  have hwhole : readRequest r.encode = some (r, []) := by
    have h := readRequest_encode hr hdata []
    rwa [List.append_nil] at h
  obtain ⟨hpre, hread⟩ := written_exchange hw hsize writes reads stream
  refine ⟨r.encode, _, toMsg_sendBuffer (by omega), ?_, fun h => by rw [hread h, hwhole]⟩
  by_cases hall : written (Socket.sendRecvServer w r.encode writes reads stream).2.calls =
      r.encode
  · exact Or.inl (by rw [hall, hwhole])
  · exact Or.inr (readRequest_cut hdata hpre hall)

/-- A request to check a signature that ends as signed data starts. -/
def paddedRequest : SecEntRequest :=
  .verifyData ⟨[1, 2, 3, 4, 5, 6, 7, 8], rfl⟩ [0x20] (tls13Tbs true [7])

/-- The write stops after two octets. -/
theorem request_understood_padding :
    ∃ out len, secEntMsgGetSendBuffer paddedRequest.toMsg = some (out, len) ∧
      (readRequest (written (Socket.sendRecvServer 64 out [2, 0] [] []).2.calls) =
          some (paddedRequest, []) ∨
        readRequest (written (Socket.sendRecvServer 64 out [2, 0] [] []).2.calls) = none) := by
  have hr : paddedRequest.Readable := ⟨true, [7], by decide, rfl⟩
  have hlen : paddedRequest.toMsg.data.length + secEntMsgHdrLen < 2 ^ 31 := by decide
  obtain ⟨out, len, hout, hor, -⟩ := request_understood (Or.inr rfl) hr hlen [2, 0] [] []
  exact ⟨out, len, hout, hor⟩

end Iso21177
