import Iso21177.SecEnt.Socket

/-!
# Encoding and Decoding Messages to the Security Entity

A message goes over the socket as its type, its length in four octets and its
payload. The length field holds 32 bits, and both directions add the size of the
header to it in 32 bits.

Decoding what was encoded gives the message back unless it has no payload. The
decoder refuses a buffer that is not longer than a header, although what it logs
then asks for five octets or more and although it goes on to handle a length of
zero. The other way round there is no exception: the sum of a length and the
header that wrapped around is too small to be accepted, so what is accepted is
what the encoder makes of it.

## Main definitions

* `secEntMsgNewFromTypeBuffer`: A message from its payload.
* `secEntMsgGetSendBuffer`: Encoding.
* `RoundTrips`: What is encoded is decoded.
* `Reencodes`: What is decoded is encoded.

## Theorems

* `secEntMsgGetSendBuffer_eq`: The encoding of a message that fits.
* `secEntMsgNewFromRecvBuffer_encoded`: Decoding it.
* `secEntMsgNewFromRecvBuffer_some`: A buffer that was accepted.
* `roundTrips_iff`, `reencodes`: The two directions.
* `codec_iff`: Both directions hold together unless the payload is empty.
-/

namespace Iso21177

open Packet

/-- `SEC_ENT_MSG_new_from_type_buffer`, with `SEC_ENT_MSG_new_from_type_allocate`. The
    length field keeps 32 bits of the length. -/
def secEntMsgNewFromTypeBuffer (msgType : UInt8) (data : Bytes) : SecEntMsg :=
  ⟨msgType, data.take (sizeT 32 data.length)⟩

/-- `SEC_ENT_MSG_get_send_buffer`: the buffer and its length. A sum that wraps around
    allocates too little for the copy, which is `none`. -/
def secEntMsgGetSendBuffer (m : SecEntMsg) : Option (Bytes × Nat) :=
  let msgLen := m.data.length
  let len := sizeT 32 (msgLen + secEntMsgHdrLen)
  if len < msgLen + secEntMsgHdrLen then none
  else some (m.msgType :: beBytes 4 msgLen ++ m.data, len)

/-- What is built from a type and a payload survives encoding and decoding. -/
def RoundTrips (msgType : UInt8) (payload : Bytes) : Prop :=
  ∃ b len, secEntMsgGetSendBuffer (secEntMsgNewFromTypeBuffer msgType payload) = some (b, len) ∧
    secEntMsgNewFromRecvBuffer b len = some ⟨msgType, payload⟩

/-- What is decoded from a buffer is encoded as that buffer. -/
def Reencodes (b : Bytes) : Prop :=
  ∀ m, secEntMsgNewFromRecvBuffer b b.length = some m →
    secEntMsgGetSendBuffer m = some (b, b.length)

section
variable {msgType : UInt8} {payload : Bytes}

theorem secEntMsgNewFromTypeBuffer_eq (h : payload.length < 2 ^ 32) :
    secEntMsgNewFromTypeBuffer msgType payload = ⟨msgType, payload⟩ := by
  rw [secEntMsgNewFromTypeBuffer, sizeT_of_lt h, List.take_length]

/-- The encoding of a message that fits. -/
theorem secEntMsgGetSendBuffer_eq (h : payload.length + secEntMsgHdrLen < 2 ^ 32) :
    secEntMsgGetSendBuffer ⟨msgType, payload⟩ =
      some (msgType :: beBytes 4 payload.length ++ payload, payload.length + secEntMsgHdrLen) := by
  have hsum : sizeT 32 ((payload.length : Int) + (secEntMsgHdrLen : Int)) =
      payload.length + secEntMsgHdrLen := by
    rw [← sizeT_of_lt h, Int.natCast_add]
  unfold secEntMsgGetSendBuffer
  simp only [hsum, Nat.lt_irrefl, if_false]

/-- Decoding the encoding of a message. -/
theorem secEntMsgNewFromRecvBuffer_encoded (h : payload.length + secEntMsgHdrLen < 2 ^ 32) :
    secEntMsgNewFromRecvBuffer (msgType :: beBytes 4 payload.length ++ payload)
        (payload.length + secEntMsgHdrLen) =
      if payload = [] then none else some ⟨msgType, payload⟩ := by
  obtain ⟨hlen, htype, hdata⟩ := header_of_message (t := msgType) (p := payload)
    (by omega) (List.prefix_refl _)
  have hsum : sizeT 32 ((payload.length : Int) + (secEntMsgHdrLen : Int)) =
      payload.length + secEntMsgHdrLen := by
    rw [← sizeT_of_lt h, Int.natCast_add]
  unfold secEntMsgNewFromRecvBuffer
  unfold headerLen at hlen
  simp only [hlen, htype, hdata, hsum, ne_eq, not_true_eq_false, if_false]
  -- A buffer without a payload is no longer than the header.
  by_cases hnil : payload = []
  · rw [if_pos hnil, if_pos (by rw [hnil]; decide)]
  · have hpos : 0 < payload.length := List.length_pos_iff.mpr hnil
    rw [if_neg hnil, if_neg (by omega)]

end

/-- What was accepted has a header and the payload the header announces. -/
theorem secEntMsgNewFromRecvBuffer_some {b : Bytes} {m : SecEntMsg}
    (h : secEntMsgNewFromRecvBuffer b b.length = some m) :
    b.length = headerLen b + secEntMsgHdrLen ∧ b.length < 2 ^ 32 ∧
      m = ⟨b.headD 0, (b.drop secEntMsgHdrLen).take (headerLen b)⟩ := by
  unfold secEntMsgNewFromRecvBuffer at h
  split at h
  · exact absurd h (by simp only [reduceCtorEq, not_false_eq_true])
  · rename_i hlong
    simp only at h
    split at h
    · exact absurd h (by simp only [reduceCtorEq, not_false_eq_true])
    · rename_i hsum
      -- A sum that wrapped around would be less than a header.
      have hlt := headerLen_lt b
      simp only [ne_eq, Decidable.not_not] at hsum
      change sizeT 32 ((headerLen b : Int) + (secEntMsgHdrLen : Int)) = b.length at hsum
      unfold sizeT secEntMsgHdrLen at *
      exact ⟨by omega, by omega, (Option.some.inj h).symm⟩

theorem roundTrips_iff {msgType : UInt8} {payload : Bytes}
    (h : payload.length ≤ 2 ^ 32 - 6) : RoundTrips msgType payload ↔ payload ≠ [] := by
  have hfits : payload.length + secEntMsgHdrLen < 2 ^ 32 := by
    unfold secEntMsgHdrLen
    omega
  unfold RoundTrips
  rw [secEntMsgNewFromTypeBuffer_eq (by omega), secEntMsgGetSendBuffer_eq hfits]
  constructor
  · rintro ⟨b, len, hsend, hrecv⟩ hnil
    rw [Option.some.injEq, Prod.mk.injEq] at hsend
    rw [← hsend.1, ← hsend.2, secEntMsgNewFromRecvBuffer_encoded hfits, if_pos hnil] at hrecv
    exact absurd hrecv (by simp only [reduceCtorEq, not_false_eq_true])
  · intro hne
    exact ⟨_, _, rfl, by rw [secEntMsgNewFromRecvBuffer_encoded hfits, if_neg hne]⟩

theorem reencodes (b : Bytes) : Reencodes b := by
  intro m hm
  rcases secEntMsgNewFromRecvBuffer_some hm with ⟨hlen, hlt, rfl⟩
  have hrest : (b.drop secEntMsgHdrLen).length = headerLen b := by
    rw [List.length_drop]
    omega
  have hmsg := message_of_header (by omega) (Nat.le_of_eq hrest.symm)
  have htake : (b.drop secEntMsgHdrLen).take (headerLen b) = b.drop secEntMsgHdrLen := by
    rw [← hrest, List.take_length]
  rw [htake] at hmsg ⊢
  -- The message is a start of the buffer that is as long as the buffer.
  have hwhole : b.headD 0 :: beBytes 4 (headerLen b) ++ b.drop secEntMsgHdrLen = b := by
    refine hmsg.eq_of_length ?_
    rw [List.length_append, List.length_cons, length_beBytes, hrest, hlen]
    unfold secEntMsgHdrLen
    omega
  rw [secEntMsgGetSendBuffer_eq (by omega), hrest, hwhole, hlen]

/-- The codec loses nothing exactly if there is a payload. -/
theorem codec_iff (msgType : UInt8) (payload b : Bytes) (h : payload.length ≤ 2 ^ 32 - 6) :
    RoundTrips msgType payload ∧ Reencodes b ↔ payload ≠ [] :=
  ⟨fun hr => (roundTrips_iff h).mp hr.1, fun hne => ⟨(roundTrips_iff h).mpr hne, reencodes b⟩⟩

/-- A payload of one octet. -/
theorem codec_one_octet :
    RoundTrips secEntMsgTypeFailure [1] ∧ Reencodes [3, 0, 0, 0, 1, 1] ↔ ([1] : Bytes) ≠ [] :=
  codec_iff secEntMsgTypeFailure [1] [3, 0, 0, 0, 1, 1] (by decide)

/-- The request for an authorization ticket is not decoded from its own encoding. -/
theorem request_not_decoded :
    ¬ ∀ (msgType : UInt8) (payload b : Bytes), payload.length ≤ 2 ^ 32 - 6 →
      RoundTrips msgType payload ∧ Reencodes b := by
  intro h
  obtain ⟨b, len, hsend, hrecv⟩ := (h secEntMsgNewTypeGetAtCert.msgType
    secEntMsgNewTypeGetAtCert.data [] (by decide)).1
  have hb : secEntMsgGetSendBuffer secEntMsgNewTypeGetAtCert = some ([22, 0, 0, 0, 0], 5) := by
    decide
  have hnone : secEntMsgNewFromRecvBuffer [22, 0, 0, 0, 0] 5 = none := by decide
  change secEntMsgGetSendBuffer secEntMsgNewTypeGetAtCert = _ at hsend
  rw [hb, Option.some.injEq, Prod.mk.injEq] at hsend
  rw [← hsend.1, ← hsend.2, hnone] at hrecv
  exact absurd hrecv (by simp only [reduceCtorEq, not_false_eq_true])

end Iso21177
