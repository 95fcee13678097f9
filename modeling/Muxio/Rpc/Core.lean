import Muxio.Framing.Codec

/-!
# RPC messages

An RPC message is one logical stream: a header (message type, request id,
method id and length-prefixed metadata) followed by payload bytes.  This module
holds the data that the RPC layers exchange and the wire form of the header.
-/

namespace Muxio.Rpc

open Muxio.Encoding
open Muxio.Framing

/-! ## Wire constants -/

/-- `RPC_FRAME_MSG_TYPE_OFFSET` -/
@[simp] def rpcFrameMsgTypeOffset : Nat := 0

/-- `RPC_FRAME_ID_OFFSET` -/
@[simp] def rpcFrameIdOffset : Nat := 1

/-- `RPC_FRAME_METHOD_ID_OFFSET` -/
@[simp] def rpcFrameMethodIdOffset : Nat := 5

/-- `RPC_FRAME_METADATA_LENGTH_OFFSET` -/
@[simp] def rpcFrameMetadataLengthOffset : Nat := 13

/-- `RPC_FRAME_METADATA_LENGTH_SIZE` -/
@[simp] def rpcFrameMetadataLengthSize : Nat := 2

/-- `RPC_FRAME_FRAME_HEADER_SIZE` -/
@[simp] def rpcFrameFrameHeaderSize : Nat :=
  rpcFrameMetadataLengthOffset + rpcFrameMetadataLengthSize

/-! ## Headers -/

inductive RpcMessageType where
  | call
  | response
  | event
  deriving DecidableEq, Repr

def RpcMessageType.toUInt8 : RpcMessageType → UInt8
  | .call => 0
  | .response => 1
  | .event => 2

def RpcMessageType.tryFrom (value : UInt8) : Option RpcMessageType :=
  if value = 0 then some .call
  else if value = 1 then some .response
  else if value = 2 then some .event
  else none

@[simp]
theorem RpcMessageType.tryFrom_toUInt8 (msgType : RpcMessageType) :
    RpcMessageType.tryFrom msgType.toUInt8 = some msgType := by
  cases msgType <;> decide

structure RpcHeader where
  rpcMsgType : RpcMessageType
  rpcRequestId : UInt32
  rpcMethodId : UInt64
  rpcMetadataBytes : List UInt8
  deriving DecidableEq, Repr

/-- The bytes `RpcStreamEncoder::new` writes for a header.  The length field
keeps the low 16 bits of the metadata length. -/
def RpcHeader.toBytes (header : RpcHeader) : List UInt8 :=
  [header.rpcMsgType.toUInt8] ++
    u32ToLeBytes header.rpcRequestId ++
    u64ToLeBytes header.rpcMethodId ++
    u16ToLeBytes (UInt16.ofNat header.rpcMetadataBytes.length) ++
    header.rpcMetadataBytes

/-! ## Stream events -/

/-- What the consumer of an RPC stream is told. -/
inductive RpcStreamEvent where
  | header (rpcRequestId : UInt32) (rpcMethodId : UInt64) (rpcHeader : RpcHeader)
  | payloadChunk (rpcHeader : RpcHeader) (rpcRequestId : UInt32) (rpcMethodId : UInt64)
      (bytes : List UInt8)
  | «end» (rpcHeader : RpcHeader) (rpcRequestId : UInt32) (rpcMethodId : UInt64)
  | error (rpcHeader : Option RpcHeader) (rpcRequestId : Option UInt32)
      (rpcMethodId : Option UInt64) (frameDecodeError : FrameDecodeError)
  deriving DecidableEq, Repr

namespace RpcStreamEvent

/-- The request id an event carries. -/
def requestId : RpcStreamEvent → Option UInt32
  | header rpcRequestId _ _ => some rpcRequestId
  | payloadChunk _ rpcRequestId _ _ => some rpcRequestId
  | «end» _ rpcRequestId _ => some rpcRequestId
  | error _ rpcRequestId _ _ => rpcRequestId

def rpcHeader : RpcStreamEvent → Option RpcHeader
  | header _ _ rpcHeader => some rpcHeader
  | payloadChunk rpcHeader _ _ _ => some rpcHeader
  | «end» rpcHeader _ _ => some rpcHeader
  | error rpcHeader _ _ _ => rpcHeader

def isHeader : RpcStreamEvent → Bool
  | header .. => true
  | _ => false

def isEnd : RpcStreamEvent → Bool
  | «end» .. => true
  | _ => false

def isError : RpcStreamEvent → Bool
  | error .. => true
  | _ => false

/-- The error event of a session, which names no request. -/
def failure (frameDecodeError : FrameDecodeError) : RpcStreamEvent :=
  error none none none frameDecodeError

end RpcStreamEvent

namespace RpcHeader

/-- The events of a stream with this header. -/
def headerEvent (header : RpcHeader) : RpcStreamEvent :=
  .header header.rpcRequestId header.rpcMethodId header

@[inherit_doc headerEvent]
def chunkEvent (header : RpcHeader) (bytes : List UInt8) : RpcStreamEvent :=
  .payloadChunk header header.rpcRequestId header.rpcMethodId bytes

@[inherit_doc headerEvent]
def endEvent (header : RpcHeader) : RpcStreamEvent :=
  .end header header.rpcRequestId header.rpcMethodId

/-- The events of a whole stream: its header, chunks of payload, its end. -/
def streamEvents (header : RpcHeader) (payloads : List (List UInt8)) : List RpcStreamEvent :=
  header.headerEvent :: payloads.map header.chunkEvent ++ [header.endEvent]

@[simp]
theorem headerEvent_requestId (header : RpcHeader) :
    header.headerEvent.requestId = some header.rpcRequestId :=
  rfl

theorem mem_streamEvents {header : RpcHeader} {payloads : List (List UInt8)}
    {event : RpcStreamEvent} (member : event ∈ header.streamEvents payloads) :
    event.requestId = some header.rpcRequestId ∧ event.isError = false := by
  simp only [streamEvents, List.mem_append, List.mem_cons, List.mem_map, List.not_mem_nil,
    or_false] at member
  rcases member with (rfl | ⟨payload, -, rfl⟩) | rfl
  · exact ⟨rfl, rfl⟩
  · exact ⟨rfl, rfl⟩
  · exact ⟨rfl, rfl⟩

end RpcHeader

/-! ## Requests and responses -/

/-- An outbound request, and an inbound one as the dispatcher gathers it. -/
structure RpcRequest where
  rpcMethodId : UInt64
  rpcParamBytes : Option (List UInt8)
  rpcPrebufferedPayloadBytes : Option (List UInt8)
  isFinalized : Bool
  deriving DecidableEq, Repr

structure RpcResponse where
  rpcRequestId : UInt32
  rpcMethodId : UInt64
  rpcResultStatus : Option UInt8
  rpcPrebufferedPayloadBytes : Option (List UInt8)
  isFinalized : Bool
  deriving DecidableEq, Repr

/-! ## Reading a header -/

/-- The header fields at their fixed offsets; meaningful once the buffer holds
`rpcFrameFrameHeaderSize` bytes. -/
def readMsgType (buffer : List UInt8) : Option RpcMessageType :=
  RpcMessageType.tryFrom (buffer.getD rpcFrameMsgTypeOffset 0)

@[inherit_doc readMsgType]
def readRequestId (buffer : List UInt8) : UInt32 :=
  u32FromLeBytes (slice buffer rpcFrameIdOffset rpcFrameMethodIdOffset)

@[inherit_doc readMsgType]
def readMethodId (buffer : List UInt8) : UInt64 :=
  u64FromLeBytes (slice buffer rpcFrameMethodIdOffset rpcFrameMetadataLengthOffset)

@[inherit_doc readMsgType]
def readMetaLen (buffer : List UInt8) : Nat :=
  (u16FromLeBytes (slice buffer rpcFrameMetadataLengthOffset
    (rpcFrameMetadataLengthOffset + rpcFrameMetadataLengthSize))).toNat

namespace RpcHeader

/-- The metadata length survives its 16-bit field. -/
def Fits (header : RpcHeader) : Prop := header.rpcMetadataBytes.length ≤ 65535

instance (header : RpcHeader) : Decidable header.Fits :=
  inferInstanceAs (Decidable (_ ≤ _))

theorem toBytes_length (header : RpcHeader) :
    header.toBytes.length = rpcFrameFrameHeaderSize + header.rpcMetadataBytes.length := by
  simp [toBytes]
  omega

private theorem slice_requestId (header : RpcHeader) :
    slice header.toBytes rpcFrameIdOffset rpcFrameMethodIdOffset =
      u32ToLeBytes header.rpcRequestId := by
  have middle := slice_middle [header.rpcMsgType.toUInt8] (u32ToLeBytes header.rpcRequestId)
    (u64ToLeBytes header.rpcMethodId ++
      u16ToLeBytes (UInt16.ofNat header.rpcMetadataBytes.length) ++ header.rpcMetadataBytes)
  simpa [toBytes, List.append_assoc] using middle

private theorem slice_methodId (header : RpcHeader) :
    slice header.toBytes rpcFrameMethodIdOffset rpcFrameMetadataLengthOffset =
      u64ToLeBytes header.rpcMethodId := by
  have middle := slice_middle ([header.rpcMsgType.toUInt8] ++ u32ToLeBytes header.rpcRequestId)
    (u64ToLeBytes header.rpcMethodId)
    (u16ToLeBytes (UInt16.ofNat header.rpcMetadataBytes.length) ++ header.rpcMetadataBytes)
  simpa [toBytes, List.append_assoc] using middle

private theorem slice_metaLen (header : RpcHeader) :
    slice header.toBytes rpcFrameMetadataLengthOffset
        (rpcFrameMetadataLengthOffset + rpcFrameMetadataLengthSize) =
      u16ToLeBytes (UInt16.ofNat header.rpcMetadataBytes.length) := by
  have middle := slice_middle ([header.rpcMsgType.toUInt8] ++
    u32ToLeBytes header.rpcRequestId ++ u64ToLeBytes header.rpcMethodId)
    (u16ToLeBytes (UInt16.ofNat header.rpcMetadataBytes.length)) header.rpcMetadataBytes
  simpa [toBytes, List.append_assoc] using middle

/-- The metadata stands right after the fixed part. -/
theorem slice_metadata (header : RpcHeader) :
    slice header.toBytes rpcFrameFrameHeaderSize
        (rpcFrameFrameHeaderSize + header.rpcMetadataBytes.length) =
      header.rpcMetadataBytes := by
  have middle := slice_middle ([header.rpcMsgType.toUInt8] ++
    u32ToLeBytes header.rpcRequestId ++ u64ToLeBytes header.rpcMethodId ++
    u16ToLeBytes (UInt16.ofNat header.rpcMetadataBytes.length)) header.rpcMetadataBytes []
  simpa [toBytes, List.append_assoc] using middle

end RpcHeader

/-- Two buffers that agree where both are defined have the same slices there. -/
theorem slice_eq_of_append_eq {first second firstRest secondRest : List UInt8}
    (equal : first ++ firstRest = second ++ secondRest) {stop : Nat}
    (inFirst : stop ≤ first.length) (inSecond : stop ≤ second.length) (start : Nat) :
    slice first start stop = slice second start stop := by
  rw [← slice_append inFirst firstRest start, equal, slice_append inSecond]

namespace RpcHeader

variable {header : RpcHeader} {buffer tail data : List UInt8}

/-- A buffer that agrees with the bytes of a header and holds the fixed part
yields the fields of that header. -/
theorem readFields (agrees : buffer ++ tail = header.toBytes ++ data)
    (long : rpcFrameFrameHeaderSize ≤ buffer.length) :
    readMsgType buffer = some header.rpcMsgType ∧
      readRequestId buffer = header.rpcRequestId ∧
      readMethodId buffer = header.rpcMethodId ∧
      (header.Fits → readMetaLen buffer = header.rpcMetadataBytes.length) := by
  have headerLong : rpcFrameFrameHeaderSize ≤ header.toBytes.length := by
    rw [toBytes_length]
    omega
  have sliceEq : ∀ start stop, stop ≤ rpcFrameFrameHeaderSize →
      slice buffer start stop = slice header.toBytes start stop := fun start stop within =>
    slice_eq_of_append_eq agrees (within.trans long) (within.trans headerLong) start
  refine ⟨?_, ?_, ?_, ?_⟩
  · have firstByte : buffer.head? = header.toBytes.head? := by
      have heads := congrArg List.head? agrees
      have bufferNe : buffer ≠ [] := by
        rintro rfl
        simp at long
      have headerNe : header.toBytes ≠ [] := by simp [toBytes]
      rwa [List.head?_append_of_ne_nil _ bufferNe, List.head?_append_of_ne_nil _ headerNe] at heads
    have front : buffer.getD rpcFrameMsgTypeOffset 0 = header.rpcMsgType.toUInt8 := by
      rw [rpcFrameMsgTypeOffset, List.getD_eq_getElem?_getD, ← List.head?_eq_getElem?, firstByte]
      simp [toBytes]
    rw [readMsgType, front, RpcMessageType.tryFrom_toUInt8]
  · rw [readRequestId, sliceEq _ _ (by simp), slice_requestId, u32FromLeBytes_toLeBytes]
  · rw [readMethodId, sliceEq _ _ (by simp), slice_methodId, u64FromLeBytes_toLeBytes]
  · intro fits
    rw [readMetaLen, sliceEq _ _ (by simp), slice_metaLen, u16FromLeBytes_toLeBytes]
    exact UInt16.toNat_ofNat_of_lt' (Nat.lt_succ_of_le fits)

end RpcHeader

end Muxio.Rpc
