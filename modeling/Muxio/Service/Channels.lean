import Muxio.Service.Caller

/-!
# Bounded and unbounded response channels

`call_rpc_streaming` sends the items of a response without waiting, over a channel
of the kind its caller asks for.  On a bounded channel an item that finds the
channel full is lost.  The two kinds of channel yield the same items exactly when the
consumer keeps pace with the payload chunks of a successful response.
-/

namespace Muxio.Service

open Muxio.Framing
open Muxio.Rpc
open Muxio.Transition

/-! ## What a response handler sends -/

/-- The part of the handler's state that decides what it sends. -/
structure ResponseControl where
  status : Option RpcResultStatus
  errorBuffer : List UInt8
  senderHeld : Bool

namespace ResponseControl

/-- The item sent on an event. -/
def sends (control : ResponseControl) (event : RpcStreamEvent) : Option StreamItem :=
  if control.senderHeld then
    match event with
    | .header .. => none
    | .payloadChunk _ _ _ bytes =>
        match control.status with
        | some .success => some (.ok bytes)
        | _ => none
    | .end .. =>
        (finalError control.errorBuffer control.status).map fun payload =>
          .error (.rpc payload)
    | .error _ _ _ frameDecodeError =>
        some (.error (.transport ⟨.connectionAborted, displayDecodeError frameDecodeError⟩))
  else
    none

def next (control : ResponseControl) : RpcStreamEvent → ResponseControl
  | .header _ _ rpcHeader => { control with status := some (responseStatus rpcHeader) }
  | .payloadChunk _ _ _ bytes =>
      match control.status with
      | some .success => control
      | _ => { control with errorBuffer := control.errorBuffer ++ bytes }
  | .end .. => ⟨none, [], false⟩
  | .error .. => { control with senderHeld := false }

end ResponseControl

namespace ResponseState

def control (state : ResponseState) : ResponseControl :=
  ⟨state.status, state.errorBuffer, state.channel.senderHeld⟩

/-- An event acts on the queue by the item that is sent, and on the rest of the
state in the same way for every queue. -/
theorem recvFn_spec (state : ResponseState) (event : RpcStreamEvent) :
    (state.recvFn event).channel.kind = state.channel.kind ∧
      (state.recvFn event).control = state.control.next event ∧
      (state.recvFn event).channel.items =
        (state.control.sends event).elim state.channel.items
          (Fifo.push state.channel.kind.capacity state.channel.items) := by
  obtain ⟨⟨kind, items, senderHeld⟩, status, errorBuffer, ready⟩ := state
  cases event with
  | header => cases senderHeld <;> exact ⟨rfl, rfl, rfl⟩
  | payloadChunk =>
      rcases status with _ | _ | _ | _ | _ <;> cases senderHeld <;> exact ⟨rfl, rfl, rfl⟩
  | «end» =>
      rcases status with _ | _ | _ | _ | _ <;> cases senderHeld <;> exact ⟨rfl, rfl, rfl⟩
  | error => cases senderHeld <;> exact ⟨rfl, rfl, rfl⟩

end ResponseState

/-! ## A consumer -/

/-- An event of the response is delivered, or the consumer polls. -/
inductive ConsumerStep where
  | deliver (event : RpcStreamEvent)
  | poll

structure Consumer where
  response : ResponseState
  /-- The items that polls have yielded. -/
  yielded : List StreamItem

namespace Consumer

def new (kind : DynamicChannelType) : Consumer := ⟨ResponseState.new kind, []⟩

def step (consumer : Consumer) : ConsumerStep → Consumer
  | .deliver event => { consumer with response := consumer.response.recvFn event }
  | .poll =>
      let polled := consumer.response.channel.pollNext
      let response := { consumer.response with channel := polled.2 }
      match polled.1 with
      | .item item => ⟨response, consumer.yielded ++ [item]⟩
      | _ => ⟨response, consumer.yielded⟩

def run (consumer : Consumer) (script : List ConsumerStep) : Consumer :=
  script.foldl step consumer

def queued (consumer : Consumer) : List StreamItem := consumer.response.channel.items

/-- All items that the receiver of a new channel yields, when the consumer polls on
after the script until the channel is empty. -/
def received (kind : DynamicChannelType) (script : List ConsumerStep) : List StreamItem :=
  let after := (new kind).run script
  (after.run (List.replicate after.queued.length .poll)).yielded

/-- Polling a channel until it is empty yields what is queued. -/
theorem run_polls (consumer : Consumer) :
    (consumer.run (List.replicate consumer.queued.length .poll)).yielded =
      consumer.yielded ++ consumer.queued := by
  obtain ⟨⟨⟨kind, items, senderHeld⟩, status, errorBuffer, ready⟩, yielded⟩ := consumer
  change (run _ (List.replicate items.length .poll)).yielded = yielded ++ items
  induction items generalizing yielded with
  | nil => exact (List.append_nil yielded).symm
  | cons item rest ih => exact (ih (yielded ++ [item])).trans (List.append_assoc ..)

/-- The script as a queue sees it. -/
def sendsAndPolls : ResponseControl → List ConsumerStep → List (Fifo.Op StreamItem)
  | _, [] => []
  | control, .deliver event :: rest =>
      (control.sends event).toList.map .push ++
        sendsAndPolls (control.next event) rest
  | control, .poll :: rest => .pop :: sendsAndPolls control rest

/-- A run hands on what its queue does. -/
theorem run_output (consumer : Consumer) (script : List ConsumerStep) :
    (consumer.run script).yielded ++ (consumer.run script).queued =
      consumer.yielded ++
        Fifo.output consumer.response.channel.kind.capacity consumer.queued
          (sendsAndPolls consumer.response.control script) := by
  induction script generalizing consumer with
  | nil => rfl
  | cons first rest ih =>
      refine (ih (consumer.step first)).trans ?_
      cases first with
      | deliver event =>
          obtain ⟨sameKind, control, items⟩ := consumer.response.recvFn_spec event
          simp only [step, queued, sendsAndPolls, sameKind, control, items]
          cases consumer.response.control.sends event <;> rfl
      | poll =>
          obtain ⟨⟨⟨kind, items, senderHeld⟩, status, errorBuffer, ready⟩, yielded⟩ := consumer
          cases items with
          | nil => cases senderHeld <;> rfl
          | cons item later => exact List.append_assoc ..

theorem received_eq (kind : DynamicChannelType) (script : List ConsumerStep) :
    received kind script =
      Fifo.output kind.capacity [] (sendsAndPolls ⟨none, [], true⟩ script) :=
  (run_polls _).trans (run_output (new kind) script)

/-- For any events at all, the two kinds of channel agree exactly when no send finds the
bounded one full. -/
theorem received_bounded_iff (script : List ConsumerStep) :
    received .bounded script = received .unbounded script ↔
      Fifo.Paced (defaultRpcStreamChannelBufferSize + 1) 0
        (sendsAndPolls ⟨none, [], true⟩ script) := by
  rw [received_eq, received_eq]
  change Fifo.output (some _) [] _ = Fifo.output none [] _ ↔ _
  rw [Fifo.output_unbounded]
  exact Fifo.output_bounded_eq_iff _ _ _

/-! ## Complete responses -/

/-- The events delivered by a script. -/
def delivered : List ConsumerStep → List RpcStreamEvent
  | [] => []
  | .deliver event :: rest => event :: delivered rest
  | .poll :: rest => delivered rest

/-- The script with only its payload chunks and polls. -/
def chunksAndPolls : List ConsumerStep → List (Fifo.Op StreamItem)
  | [] => []
  | .deliver (.payloadChunk _ _ _ bytes) :: rest => .push (.ok bytes) :: chunksAndPolls rest
  | .deliver _ :: rest => chunksAndPolls rest
  | .poll :: rest => .pop :: chunksAndPolls rest

/-- Without deliveries nothing is sent. -/
theorem sendsAndPolls_polls {script : List ConsumerStep} (control : ResponseControl)
    (none_delivered : delivered script = []) :
    sendsAndPolls control script = chunksAndPolls script ∧
      Fifo.pushes (sendsAndPolls control script) = [] := by
  induction script with
  | nil => exact ⟨rfl, rfl⟩
  | cons first rest ih =>
      cases first with
      | deliver event => contradiction
      | poll => exact ⟨congrArg (_ :: ·) (ih none_delivered).1, (ih none_delivered).2⟩

/-- After the header of a successful response every payload chunk is sent. -/
theorem sendsAndPolls_success {header : RpcHeader} {chunks : List (List UInt8)}
    {script : List ConsumerStep} (errorBuffer : List UInt8)
    (deliveries : delivered script = chunks.map header.chunkEvent ++ [header.endEvent]) :
    sendsAndPolls ⟨some .success, errorBuffer, true⟩ script =
      chunksAndPolls script := by
  induction script generalizing chunks with
  | nil => cases chunks <;> contradiction
  | cons first rest ih =>
      cases first with
      | poll => exact congrArg (_ :: ·) (ih deliveries)
      | deliver event =>
          cases chunks with
          | nil =>
              obtain ⟨rfl, ends⟩ := List.cons.inj deliveries
              exact (sendsAndPolls_polls _ ends).1
          | cons chunk later =>
              obtain ⟨rfl, goesOn⟩ := List.cons.inj deliveries
              exact congrArg (_ :: ·) (ih goesOn)

/-- After the header of any other response only the final error is sent. -/
theorem sendsAndPolls_failure {header : RpcHeader} {chunks : List (List UInt8)}
    {script : List ConsumerStep} {status : RpcResultStatus} (errorBuffer : List UInt8)
    (failed : status ≠ .success)
    (deliveries : delivered script = chunks.map header.chunkEvent ++ [header.endEvent]) :
    (Fifo.pushes (sendsAndPolls ⟨some status, errorBuffer, true⟩ script)).length
      ≤ 1 := by
  induction script generalizing chunks errorBuffer with
  | nil => cases chunks <;> contradiction
  | cons first rest ih =>
      cases first with
      | poll => exact ih errorBuffer deliveries
      | deliver event =>
          cases chunks with
          | nil =>
              obtain ⟨rfl, ends⟩ := List.cons.inj deliveries
              have nothing := (sendsAndPolls_polls ⟨none, [], false⟩ ends).2
              cases status with
              | success => contradiction
              | _ => exact Nat.le_of_eq (congrArg (fun sent => (_ :: sent).length) nothing)
          | cons chunk later =>
              obtain ⟨rfl, goesOn⟩ := List.cons.inj deliveries
              cases status with
              | success => contradiction
              | _ => exact ih (errorBuffer ++ chunk) goesOn

/-- What is sent for a whole response: the payload chunks of a successful one, and at
most one item for any other. -/
theorem sendsAndPolls_response {header : RpcHeader} {chunks : List (List UInt8)}
    {script : List ConsumerStep} (deliveries : delivered script = header.streamEvents chunks) :
    (responseStatus header = .success →
        sendsAndPolls ⟨none, [], true⟩ script = chunksAndPolls script) ∧
      (responseStatus header ≠ .success →
        (Fifo.pushes (sendsAndPolls ⟨none, [], true⟩ script)).length ≤ 1) := by
  induction script with
  | nil => contradiction
  | cons first rest ih =>
      cases first with
      | poll =>
          obtain ⟨success, failure⟩ := ih deliveries
          exact ⟨fun succeeded => congrArg (_ :: ·) (success succeeded), failure⟩
      | deliver event =>
          obtain ⟨rfl, body⟩ := List.cons.inj deliveries
          constructor
          · intro succeeded
            change sendsAndPolls ⟨some (responseStatus header), [], true⟩ rest = _
            rw [succeeded]
            exact sendsAndPolls_success [] body
          · intro failed
            exact sendsAndPolls_failure [] failed body

end Consumer

/-- The two kinds of channel yield the same items of a response exactly when it is not a
successful one, or each payload chunk is delivered while fewer items wait than a
bounded channel holds. -/
theorem channel_kinds_agree_iff (header : RpcHeader) (chunks : List (List UInt8))
    (script : List ConsumerStep)
    (deliveries : Consumer.delivered script = header.streamEvents chunks) :
    Consumer.received .bounded script = Consumer.received .unbounded script ↔
      responseStatus header ≠ .success ∨
        Fifo.Paced (defaultRpcStreamChannelBufferSize + 1) 0
          (Consumer.chunksAndPolls script) := by
  rw [Consumer.received_bounded_iff]
  obtain ⟨success, failure⟩ := Consumer.sendsAndPolls_response deliveries
  by_cases succeeded : responseStatus header = .success
  · rw [success succeeded, or_iff_right (not_not_intro succeeded)]
  · refine iff_of_true (Fifo.paced_of_length_le ?_) (.inl succeeded)
    exact Nat.le_trans (Nat.add_le_add_left (failure succeeded) 0) (by decide)

/-- Nine chunks may wait for the first poll. -/
theorem channel_kinds_agree_on_nine_chunks :
    let script : List ConsumerStep :=
      ((RpcHeader.mk .response 1 5 [0]).streamEvents (List.replicate 9 [7])).map .deliver
    Consumer.received .bounded script = Consumer.received .unbounded script := by
  intro script
  exact (channel_kinds_agree_iff ⟨.response, 1, 5, [0]⟩ (List.replicate 9 [7]) script
    rfl).mpr (.inr (by decide))

/-- The tenth one is lost. -/
theorem tenth_chunk_lost :
    let script : List ConsumerStep :=
      ((RpcHeader.mk .response 1 5 [0]).streamEvents (List.replicate 10 [7])).map .deliver
    Consumer.received .bounded script = List.replicate 9 (.ok [7]) ∧
      Consumer.received .unbounded script = List.replicate 10 (.ok [7]) :=
  ⟨rfl, rfl⟩

end Muxio.Service
