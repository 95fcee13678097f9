import Muxio.Transition.Fifo
import Muxio.Service.Endpoint

/-!
# Calls

`RpcServiceCallerInterface` turns the events of a response into the items of a
channel.  `call_rpc_streaming` hands the receiving end of the channel to its caller,
`call_rpc_buffered` reads it to its end, and `RpcCallPrebuffered::call` does that for
one method with encoded arguments.

A call is followed here from the side of its response handler: the state that
`recv_fn` shares with the call, and the channel.  The receiver is never dropped
before the channel closes.
-/

namespace Muxio.Service

open Std
open Muxio.Encoding
open Muxio.Framing
open Muxio.Rpc
open Muxio.Transition

universe u

/-! ## Errors -/

inductive IoErrorKind where
  | connectionAborted
  | invalidData
  | other
  deriving DecidableEq, Repr

/-- An error of `std::io` with its kind and its text. -/
structure IoError where
  kind : IoErrorKind
  message : String
  deriving DecidableEq, Repr

inductive RpcServiceError where
  | transport (error : IoError)
  | rpc (payload : RpcServiceErrorPayload)
  | aborted
  deriving DecidableEq, Repr

def displayDecodeError : FrameDecodeError → String
  | .corruptFrame => "Corrupt frame detected"
  | .readAfterEnd => "Attempted to read from a stream that has already ended"
  | .readAfterCancel => "Attempted to read from a cancelled stream"
  | .incompleteHeader => "Incomplete frame header received"
  | .transport message => "Transport error: " ++ message

def debugEncodeError : FrameEncodeError → String
  | .corruptFrame => "CorruptFrame"
  | .writeAfterEnd => "WriteAfterEnd"
  | .writeAfterCancel => "WriteAfterCancel"

/-! ## Channels -/

/-- `DEFAULT_RPC_STREAM_CHANNEL_BUFFER_SIZE`. -/
def defaultRpcStreamChannelBufferSize : Nat := 8

inductive DynamicChannelType where
  | bounded
  | unbounded
  deriving DecidableEq, Repr

/-- How many items a channel with one sender holds: its buffer and one more for the
sender, or any number. -/
def DynamicChannelType.capacity : DynamicChannelType → Option Nat
  | bounded => some (defaultRpcStreamChannelBufferSize + 1)
  | unbounded => none

abbrev StreamItem := Except RpcServiceError (List UInt8)

structure DynamicChannel where
  kind : DynamicChannelType
  /-- What has been sent and not yet received. -/
  items : List StreamItem
  senderHeld : Bool

/-- What the receiver gets when it polls. -/
inductive Poll where
  | item (item : StreamItem)
  | closed
  | pending

namespace DynamicChannel

def new (kind : DynamicChannelType) : DynamicChannel := ⟨kind, [], true⟩

def sendAndIgnore (channel : DynamicChannel) (item : StreamItem) : DynamicChannel :=
  { channel with items := Fifo.push channel.kind.capacity channel.items item }

/-- Drop the sender. -/
def close (channel : DynamicChannel) : DynamicChannel := { channel with senderHeld := false }

def pollNext (channel : DynamicChannel) : Poll × DynamicChannel :=
  match channel.items with
  | item :: rest => (.item item, { channel with items := rest })
  | [] => (if channel.senderHeld then .pending else .closed, channel)

end DynamicChannel

/-! ## The response handler -/

/-- What `recv_fn` and the call share. -/
structure ResponseState where
  channel : DynamicChannel
  status : Option RpcResultStatus
  errorBuffer : List UInt8
  /-- The first message on the readiness channel. -/
  ready : Option (Except IoError Unit)

/-- The status in the header of a response; success if there is none. -/
def responseStatus (rpcHeader : RpcHeader) : RpcResultStatus :=
  (rpcHeader.rpcMetadataBytes.head?.bind RpcResultStatus.tryFrom).getD .success

/-- The error with which a response of this status ends. -/
def finalError (payload : List UInt8) :
    Option RpcResultStatus → Option RpcServiceErrorPayload
  | some .methodNotFound =>
      let msg := fromUtf8Lossy payload
      some ⟨.notFound, if msg = "" then "RPC method not found: Some(MethodNotFound)" else msg⟩
  | some .fail => some ⟨.fail, ""⟩
  | some .systemError =>
      let msg := fromUtf8Lossy payload
      some ⟨.system, if msg = "" then "RPC failed with status: Some(SystemError)" else msg⟩
  | some .success => none
  | none => none

namespace ResponseState

def new (kind : DynamicChannelType) : ResponseState := ⟨DynamicChannel.new kind, none, [], none⟩

/-- Send an item if the sender is still there. -/
def send (state : ResponseState) (item : StreamItem) : ResponseState :=
  if state.channel.senderHeld then
    { state with channel := state.channel.sendAndIgnore item }
  else
    state

/-- Tell the readiness channel, which takes one message. -/
def signalReady (state : ResponseState) (result : Except IoError Unit) : ResponseState :=
  { state with ready := some (state.ready.getD result) }

/-- The response handler of a call. -/
def recvFn (state : ResponseState) :
    RpcStreamEvent → ResponseState
  | .header _ _ rpcHeader =>
      { state with status := some (responseStatus rpcHeader) }.signalReady (.ok ())
  | .payloadChunk _ _ _ bytes =>
      match state.status with
      | some .success => state.send (.ok bytes)
      | _ => { state with errorBuffer := state.errorBuffer ++ bytes }
  | .end .. =>
      let ended := { state with status := none, errorBuffer := [] }
      let told := match finalError state.errorBuffer state.status with
        | some payload => ended.send (.error (.rpc payload))
        | none => ended
      { told with channel := told.channel.close }
  | .error _ _ _ frameDecodeError =>
      let text := displayDecodeError frameDecodeError
      let told := (state.signalReady (.error ⟨.other, text⟩)).send
        (.error (.transport ⟨.connectionAborted, text⟩))
      { told with channel := told.channel.close }

/-- What `call_rpc_streaming` returns once it has signalled readiness itself. -/
def returned (state : ResponseState) : Except RpcServiceError Unit :=
  match state.ready with
  | some (.ok _) => .ok ()
  | some (.error error) => .error (.transport error)
  | none => .error (.transport ⟨.other, "RPC setup channel closed prematurely"⟩)

end ResponseState

/-! ## Calls that read the whole response -/

/-- The loop of `call_rpc_buffered` over what the receiver yields: the decoded
response, the first error, or no result yet. -/
def callRpcBuffered {T : Type u} (decode : List UInt8 → T) (senderHeld : Bool) :
    List UInt8 → List StreamItem → Option (Except RpcServiceError T)
  | successBuf, [] => if senderHeld then none else some (.ok (decode successBuf))
  | successBuf, .ok chunk :: rest => callRpcBuffered decode senderHeld (successBuf ++ chunk) rest
  | _, .error error :: _ => some (.error error)

/-- The request of `RpcCallPrebuffered::call`: arguments that are too long for the
metadata of a header travel as payload. -/
def prebufferedRequest (methodId : UInt64) (encodedArgs : List UInt8) : RpcRequest :=
  if encodedArgs.length ≥ defaultServiceMaxChunkSize then
    ⟨methodId, none, some encodedArgs, true⟩
  else
    ⟨methodId, some encodedArgs, none, true⟩

/-- The result of `RpcCallPrebuffered::call`. -/
def unpackResult {T : Type u} :
    Except RpcServiceError (Except IoError T) → Except RpcServiceError T
  | .ok (.ok output) => .ok output
  | .ok (.error error) => .error (.transport error)
  | .error error => .error error

end Muxio.Service
