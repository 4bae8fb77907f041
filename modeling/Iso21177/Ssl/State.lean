import Iso21177.Lib.Call
import Iso21177.Lib.Heap
import Iso21177.Lib.Packet

/-!
# The Connection Object

The part of the `SSL` object that the 1609.2 additions read and write, with the
state machine around it. Fields follow the source: the ex_data record created
with the object (`SslIeee1609`), the certificate slots, the scratch record of
one handshake (`S3Tmp`), the session with the peer's certificates, and the
state machine's own state.

Everything else the object holds is one value of an arbitrary type `ω`. Code
outside this development works on that value only; what the functions here read
of it, and what that code does to it, are parameters (`Env`).

Certificates received from the peer live in a reference-counted heap and are
named by address, since a message can leave a released one in the chain. The
object's own certificates are held by value.

A record of what happened (`SSL.trace`, newest first) is kept beside the fields:
messages read and sent, exchanges with the security entity, and the points where
the object was cleared. The program does not read it. Parameters such as the
security entity may depend on it, so that they are free to answer differently
each time.

## Main definitions

* `CertificateType`, `Rfc8902CertType`, `SslIeee1609`: The 1609.2 record.
* `SspBuffer`: The fixed buffer for the peer's permissions.
* `PublicKey`, `EvpPkey`, `X509`: Keys and certificates.
* `PkeyIdx`, `CertPkey`, `Cert`: The certificate slots.
* `HandState`, `MsgFlow`, `Statem`: The state machine's state.
* `MsgType`, `Msg`: Handshake messages.
* `SecEntMsg`: A message to or from the security entity.
* `Obs`, `Source`: What the record keeps.
* `SigalgLookup`: A signature algorithm.
* `Session`, `S3Tmp`: The session and the scratch record.
* `SSL`: The connection object.
* `sslNew`: A new object.

## Theorems

* `SspBuffer.load_store`: A stored prefix reads back.
-/

namespace Iso21177

/-- The registered certificate types. -/
inductive CertificateType
  | x509
  | rawPublicKey
  | ieee1609Dot2
  deriving DecidableEq, Repr

/-- The number of a certificate type on the wire. -/
def CertificateType.code : CertificateType → UInt8
  | .x509 => 0
  | .rawPublicKey => 2
  | .ieee1609Dot2 => 3

/-- `SSL_RFC8902_1609`. -/
def sslRfc89021609 : BitVec 32 := 1

/-- `SSL_RFC8902_X509`. -/
def sslRfc8902X509 : BitVec 32 := 2

/-- What one role supports and what was agreed for it, `none` for no decision
    yet. -/
structure Rfc8902CertType where
  support : BitVec 32
  typeDecided : Option CertificateType
  deriving DecidableEq

/-- `MAX_SSP_LEN`. -/
def maxSspLen : Nat := 100

/-- The buffer for the peer's service-specific permissions. Its size never
    changes, and a copy into it overwrites a prefix only. -/
structure SspBuffer where
  bytes : Bytes
  size : bytes.length = maxSspLen
  deriving DecidableEq

namespace SspBuffer

/-- Copy `d` to the start of the buffer; what does not fit is not copied. -/
def store (b : SspBuffer) (d : Bytes) : SspBuffer where
  bytes := d.take maxSspLen ++ b.bytes.drop d.length
  size := by
    rw [List.length_append, List.length_take, List.length_drop, b.size]
    omega

/-- The first `n` octets. -/
def load (b : SspBuffer) (n : Nat) : Bytes := b.bytes.take n

/-- A buffer of zeros. -/
def zero : SspBuffer := ⟨List.replicate maxSspLen 0, List.length_replicate ..⟩

theorem load_store (b : SspBuffer) (d : Bytes) (h : d.length ≤ maxSspLen) :
    (b.store d).load d.length = d := by
  simp only [load, store, List.take_of_length_le h, List.take_left]

end SspBuffer

/-- `SSL_IEEE1609`, the record kept in the object's ex_data. -/
structure SslIeee1609 where
  rfc8902Support : Bool
  srv : Rfc8902CertType
  clnt : Rfc8902CertType
  psidThisSide : UInt64
  psidOtherSide : UInt64
  sspOtherSideLen : Nat
  sspOtherSide : SspBuffer
  deriving DecidableEq

/-- `PSID_DEFAULT`. -/
def psidDefault : UInt64 := 36

/-- The record as it is created with the object. The permission buffer is not
    written, so it holds whatever the memory held. -/
def cryptoExSslIeee1609New (mem : SspBuffer) : SslIeee1609 where
  rfc8902Support := false
  srv := ⟨sslRfc8902X509, none⟩
  clnt := ⟨sslRfc8902X509, none⟩
  psidThisSide := psidDefault
  psidOtherSide := 0
  sspOtherSideLen := 0
  sspOtherSide := mem

/-- The certificate slots, one for each kind of key. -/
inductive PkeyIdx
  | rsa | rsaPssSign | dsaSign | ecc | gost01 | gost12256 | gost12512 | ed25519 | ed448
  deriving DecidableEq, Repr

/-- A public key: the one that belongs to the key compiled into the library, or
    any other with its slot (`none` for a kind the library does not know) and
    what identifies it. -/
inductive PublicKey
  | keyDer
  | other (idx : Option PkeyIdx) (material : Bytes)
  deriving DecidableEq

/-- The slot a key belongs in; the compiled-in key is an RSA key. -/
def PublicKey.idx : PublicKey → Option PkeyIdx
  | .keyDer => some .rsa
  | .other idx _ => idx

/-- A private key, known by its public part. -/
structure EvpPkey where
  pub : PublicKey
  deriving DecidableEq

/-- The private key compiled into the library. -/
def keyDer : EvpPkey := ⟨.keyDer⟩

/-- An attached 1609.2 certificate: its bytes, and the hash it is known by
    (zeros until one is set). -/
structure Ieee1609Cert where
  certData : Bytes
  hashedid8 : Bytes
  deriving DecidableEq

/-- The X.509 part of a certificate object. -/
inductive X509Body
  | empty
  | placeholder
  | parsed (der : Bytes) (pubkey : Option PublicKey)
  deriving DecidableEq

/-- A certificate object, with the 1609.2 certificate attached to it if any. -/
structure X509 where
  body : X509Body
  ieee1609 : Option Ieee1609Cert
  deriving DecidableEq

/-- The public key of the X.509 part. -/
def X509.pubkey (x : X509) : Option PublicKey :=
  match x.body with
  | .empty => none
  | .placeholder => some .keyDer
  | .parsed _ k => k

/-- `X509_is_IEEE1609_CERT`. -/
def X509.isIeee1609Cert (x : X509) : Bool := x.ieee1609.isSome

/-- One certificate slot. -/
structure CertPkey where
  x509 : Option X509
  privatekey : Option EvpPkey
  deriving DecidableEq

/-- The object's own certificates: the slots, the current slot, and the extra
    certificates of its context. -/
structure Cert where
  pkeys : PkeyIdx → CertPkey
  key : PkeyIdx
  extraCerts : Option (List X509)

/-- No certificate, no key, and the first slot current. -/
def Cert.empty : Cert := ⟨fun _ => ⟨none, none⟩, .rsa, none⟩

/-- Replace one slot. -/
def Cert.setPkey (c : Cert) (i : PkeyIdx) (p : CertPkey) : Cert :=
  { c with pkeys := fun j => if j = i then p else c.pkeys j }

/-- The states of the handshake, without those of the datagram protocol. -/
inductive HandState
  | before | ok
  | crSrvrHello | crCert | crCertStatus | crKeyExch | crCertReq | crSrvrDone
  | crSessionTicket | crChange | crFinished
  | cwClntHello | cwCert | cwKeyExch | cwCertVrfy | cwChange | cwNextProto | cwFinished
  | swHelloReq | srClntHello | swSrvrHello | swCert | swKeyExch | swCertReq | swSrvrDone
  | srCert | srKeyExch | srCertVrfy | srNextProto | srChange | srFinished
  | swSessionTicket | swCertStatus | swChange | swFinished
  | swEncryptedExtensions | crEncryptedExtensions | crCertVrfy | swCertVrfy | crHelloReq
  | swKeyUpdate | cwKeyUpdate | srKeyUpdate | crKeyUpdate
  | earlyData | pendingEarlyDataEnd | cwEndOfEarlyData | srEndOfEarlyData
  deriving DecidableEq, Repr

/-- The states the older versions pass through once the hellos are done. -/
def HandState.afterHello : HandState → Bool
  | .before | .crSrvrHello | .cwClntHello | .srClntHello | .swSrvrHello
  | .swEncryptedExtensions | .crEncryptedExtensions | .crCertVrfy | .swCertVrfy
  | .swKeyUpdate | .cwKeyUpdate | .srKeyUpdate | .crKeyUpdate
  | .earlyData | .pendingEarlyDataEnd | .cwEndOfEarlyData | .srEndOfEarlyData => false
  | _ => true

/-- The direction of the message flow. -/
inductive MsgFlow
  | uninited | error | reading | writing | finished
  deriving DecidableEq, Repr

/-- Alerts raised here; `other` for those chosen by code outside. -/
inductive Alert
  | unexpectedMessage | handshakeFailure | badCertificate | illegalParameter | decodeError
  | protocolVersion | insufficientSecurity | internalError | unsupportedExtension
  | missingExtension | certificateRequired
  | other (code : Nat)
  deriving DecidableEq, Repr

/-- Error reasons raised here; `other` for those chosen by code outside. -/
inductive Reason
  | internalError | unsupportedCertType | badExtension | unsolicitedExtension
  | unexpectedMessage | lengthMismatch | certLengthMismatch | badLength | invalidContext
  | asn1Lib | certificateVerifyFailed | unableToFindPublicKeyParameters
  | unknownCertificateType | wrongCertificateType | peerDidNotReturnACertificate
  | noCertificatesReturned | missingFatal | wrongSslVersion | unsupportedProtocol
  | noSuitableKeyShare | noSuitableSignatureAlgorithm | certCbError | badHandshakeState
  | postHandshakeAuthEncodingErr | callbackFailed
  | mallocFailure | evpLib | badSignature | badPacket | signatureForNonSigningCertificate
  | other (code : Nat)
  deriving DecidableEq, Repr

/-- The state machine: its flow, its state, whether a handshake is going on, and
    the alert and reason of the error that stopped it. -/
structure Statem where
  state : MsgFlow
  handState : HandState
  inInit : Bool
  alert : Option (Alert × Reason)
  deriving DecidableEq

/-- Types of handshake messages. -/
inductive MsgType
  | helloRequest | clientHello | serverHello | newsessionTicket | endOfEarlyData
  | encryptedExtensions | certificate | serverKeyExchange | certificateRequest | serverDone
  | certificateVerify | clientKeyExchange | finished | certificateStatus | keyUpdate
  | nextProto | changeCipherSpec
  deriving DecidableEq, Repr

/-- A handshake message. The hellos are split into what precedes the extension
    block and the block itself, empty when there is none; `hrr` says whether
    the random value of a ServerHello is that of a HelloRetryRequest. Messages
    whose content is not looked at here are `plain`. -/
inductive Msg
  | clientHello (head exts : Bytes)
  | serverHello (hrr : Bool) (head exts : Bytes)
  | encryptedExtensions (exts : Bytes)
  | certificateRequest (body : Bytes)
  | certificate (body : Bytes)
  | certificateVerify (body : Bytes)
  | plain (mt : MsgType) (body : Bytes)
  deriving DecidableEq

/-- The type of a message. -/
def Msg.mt : Msg → MsgType
  | .clientHello .. => .clientHello
  | .serverHello .. => .serverHello
  | .encryptedExtensions _ => .encryptedExtensions
  | .certificateRequest _ => .certificateRequest
  | .certificate _ => .certificate
  | .certificateVerify _ => .certificateVerify
  | .plain mt _ => mt

/-- A message to or from the security entity. -/
structure SecEntMsg where
  msgType : UInt8
  data : Bytes
  deriving DecidableEq

/-- What a sent message was made from: the objects behind the entries of a
    Certificate, or the key behind a signature (`none` when the security entity
    signed). -/
inductive Source
  | none
  | chain (xs : List X509)
  | signer (key : Option EvpPkey)
  deriving DecidableEq

/-- One entry of the record of a connection object. An exchange with the
    security entity is kept with the reply that was used, if one was. -/
inductive Obs
  | recv (m : Msg)
  | sent (m : Msg) (src : Source)
  | exchange (req : SecEntMsg) (reply : Option SecEntMsg)
  | clear
  deriving DecidableEq

/-- How far a HelloRetryRequest has come. -/
inductive HrrState
  | none | pending | complete
  deriving DecidableEq, Repr

/-- The state of post-handshake authentication. -/
inductive PhaState
  | none | extSent | extReceived | requestPending | requested
  deriving DecidableEq, Repr

/-- The session's certificates of the peer, by address. -/
structure Session where
  peer : Option Nat
  peerChain : Option (List Nat)
  deriving DecidableEq

/-- The kinds of signature that are told apart. -/
inductive SigKind
  | dsa | rsa | rsaPss | ec | other
  deriving DecidableEq, Repr

/-- A signature algorithm: its number, whether its hash is SHA-1 or SHA-224, its
    kind, the slot of its key, and its curve if it names one. -/
structure SigalgLookup where
  sigalg : Nat
  weakHash : Bool
  sig : SigKind
  sigIdx : PkeyIdx
  curve : Option Nat
  deriving DecidableEq

/-- The scratch record of one handshake. -/
structure S3Tmp where
  certReq : Nat
  certRequest : Bool
  cert : Option PkeyIdx
  sigalg : Option SigalgLookup
  deriving DecidableEq

/-- The record when it is zeroed. -/
def S3Tmp.zero : S3Tmp := ⟨0, false, none, none⟩

/-- The connection object. -/
structure SSL (ω : Type) where
  server : Bool
  statem : Statem
  ieee1609 : SslIeee1609
  cert : Cert
  tmp : S3Tmp
  session : Option Session
  verifyMode : BitVec 32
  verifyResult : Nat
  tls13 : Bool
  helloRetryRequest : HrrState
  postHandshakeAuth : PhaState
  phaContext : Bytes
  certreqsSent : Nat
  extflags : List Nat
  certVerifyHash : Bytes
  heap : Heap X509
  other : ω
  trace : List Obs

/-- A new object: nothing decided, and the permission buffer as the memory was.
    The verification mode, the certificates and the remaining fields come from
    the context it was made from. -/
def sslNew {ω : Type} (mem : SspBuffer) (verifyMode : BitVec 32) (cert : Cert) (other : ω) :
    SSL ω where
  server := false
  statem := ⟨.uninited, .before, true, none⟩
  ieee1609 := cryptoExSslIeee1609New mem
  cert := cert
  tmp := S3Tmp.zero
  session := none
  verifyMode := verifyMode
  verifyResult := 0
  tls13 := false
  helloRetryRequest := .none
  postHandshakeAuth := .none
  phaContext := []
  certreqsSent := 0
  extflags := []
  certVerifyHash := []
  heap := Heap.empty
  other := other
  trace := []

end Iso21177
