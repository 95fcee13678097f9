import Muxio.Service.Channels

/-!
# Two ways to call a streaming method

`open_channel` of the channel adapter has a response handler of its own.  Unlike
the one of `call_rpc_streaming` it looks neither at the status of a response nor
at the error that cuts it off: every payload chunk is data to it, and the end and
an error both just close the channel.  The readers of the two calls get the same
items exactly for a response that is successful and complete.
-/

namespace Muxio.Service

open Muxio.Framing
open Muxio.Rpc
open Muxio.Transition

/-! ## The reader of `open_channel` -/

/-- The response handler of `open_channel`. -/
def openChannelRecvFn (channel : DynamicChannel) (event : RpcStreamEvent) : DynamicChannel :=
  if channel.senderHeld then
    match event with
    | .payloadChunk _ _ _ bytes => channel.sendAndIgnore (.ok bytes)
    | .end .. => channel.close
    | .error .. => channel.close
    | .header .. => channel
  else
    channel

/-- The receiving end that `open_channel` returns; its channel is unbounded. -/
structure ChannelReader where
  channel : DynamicChannel
  /-- The items that polls have yielded. -/
  yielded : List StreamItem

namespace ChannelReader

def new : ChannelReader := ⟨DynamicChannel.new .unbounded, []⟩

def step (reader : ChannelReader) : ConsumerStep → ChannelReader
  | .deliver event => { reader with channel := openChannelRecvFn reader.channel event }
  | .poll =>
      let polled := reader.channel.pollNext
      match polled.1 with
      | .item item => ⟨polled.2, reader.yielded ++ [item]⟩
      | _ => ⟨polled.2, reader.yielded⟩

def run (reader : ChannelReader) (script : List ConsumerStep) : ChannelReader :=
  script.foldl step reader

/-- All items that the reader yields, when it polls on after the script until the channel is
empty. -/
def received (script : List ConsumerStep) : List StreamItem :=
  let after := new.run script
  (after.run (List.replicate after.channel.items.length .poll)).yielded

/-- The items yielded and those still waiting. -/
def items (reader : ChannelReader) : List StreamItem := reader.yielded ++ reader.channel.items

/-- What the handler sends for a list of events. -/
def sent : List RpcStreamEvent → List StreamItem
  | [] => []
  | .header .. :: rest => sent rest
  | .payloadChunk _ _ _ bytes :: rest => .ok bytes :: sent rest
  | .end .. :: _ => []
  | .error .. :: _ => []

/-- Over a run the reader gets what the handler sends, however its polls fall. -/
theorem run_items {reader : ChannelReader} (unbounded : reader.channel.kind = .unbounded)
    (script : List ConsumerStep) :
    (reader.run script).items = reader.items ++
      if reader.channel.senderHeld then sent (Consumer.delivered script) else [] := by
  induction script generalizing reader with
  | nil => cases reader.channel.senderHeld <;> exact (List.append_nil _).symm
  | cons first rest ih =>
      obtain ⟨⟨kind, queued, senderHeld⟩, yielded⟩ := reader
      obtain rfl : kind = .unbounded := unbounded
      cases first with
      | poll =>
          cases queued with
          | nil => cases senderHeld <;> exact ih rfl
          | cons item later =>
              refine (ih rfl).trans ?_
              exact congrArg (· ++ _) (List.append_assoc ..)
      | deliver event =>
          refine (ih ?_).trans ?_
          · cases senderHeld <;> cases event <;> rfl
          · cases senderHeld with
            | false => cases event <;> rfl
            | true =>
                cases event with
                | payloadChunk _ _ _ bytes =>
                    change (yielded ++ (queued ++ [.ok bytes])) ++ sent (Consumer.delivered rest) =
                      (yielded ++ queued) ++ .ok bytes :: sent (Consumer.delivered rest)
                    rw [← List.append_assoc, List.append_cons _ _ (sent _)]
                | header => rfl
                | «end» => rfl
                | error => rfl

theorem received_eq (script : List ConsumerStep) :
    received script = sent (Consumer.delivered script) := by
  have drained : ∀ reader : ChannelReader,
      (reader.run (List.replicate reader.channel.items.length .poll)).yielded = reader.items := by
    rintro ⟨⟨kind, queued, senderHeld⟩, yielded⟩
    change (run _ (List.replicate queued.length .poll)).yielded = yielded ++ queued
    induction queued generalizing yielded with
    | nil => exact (List.append_nil yielded).symm
    | cons item rest ih => exact (ih (yielded ++ [item])).trans (List.append_assoc ..)
  exact (drained _).trans (run_items rfl script)

end ChannelReader

/-! ## The receiver of `call_rpc_streaming` -/

namespace Consumer

/-- What the handler sends for a list of events. -/
def sent : ResponseControl → List RpcStreamEvent → List StreamItem
  | _, [] => []
  | control, event :: rest =>
      (control.sends event).toList ++ sent (control.next event) rest

theorem pushes_sendsAndPolls (control : ResponseControl) (script : List ConsumerStep) :
    Fifo.pushes (sendsAndPolls control script) =
      sent control (delivered script) := by
  induction script generalizing control with
  | nil => rfl
  | cons first rest ih =>
      cases first with
      | poll => exact ih control
      | deliver event =>
          rw [sendsAndPolls, delivered, sent, ← ih]
          cases control.sends event <;> rfl

/-- An unbounded channel yields everything that is sent. -/
theorem received_unbounded (script : List ConsumerStep) :
    received .unbounded script =
      sent ⟨none, [], true⟩ (delivered script) := by
  rw [received_eq, ← pushes_sendsAndPolls]
  exact Fifo.output_unbounded [] _

/-- The chunks of a successful response, and what its last event adds. -/
theorem sent_success (header : RpcHeader) (payloads : List (List UInt8)) (errorBuffer : List UInt8)
    (last : RpcStreamEvent) :
    sent ⟨some .success, errorBuffer, true⟩
        (payloads.map header.chunkEvent ++ [last]) =
      payloads.map .ok ++ sent ⟨some .success, errorBuffer, true⟩ [last] := by
  induction payloads with
  | nil => rfl
  | cons payload rest ih => exact congrArg (.ok payload :: ·) ih

/-- A response of any other status is one error. -/
theorem sent_failure (header : RpcHeader) (payloads : List (List UInt8))
    {status : RpcResultStatus} (failed : status ≠ .success) (errorBuffer : List UInt8)
    {last : RpcStreamEvent} (terminal : (last.isEnd || last.isError) = true) :
    ∃ error, sent ⟨some status, errorBuffer, true⟩
      (payloads.map header.chunkEvent ++ [last]) = [.error error] := by
  induction payloads generalizing errorBuffer with
  | nil =>
      cases last with
      | header => contradiction
      | payloadChunk => contradiction
      | «end» =>
          cases status with
          | success => contradiction
          | fail => exact ⟨_, rfl⟩
          | systemError => exact ⟨_, rfl⟩
          | methodNotFound => exact ⟨_, rfl⟩
      | error => exact ⟨_, rfl⟩
  | cons payload rest ih =>
      cases status with
      | success => contradiction
      | fail => exact ih (errorBuffer ++ payload)
      | systemError => exact ih (errorBuffer ++ payload)
      | methodNotFound => exact ih (errorBuffer ++ payload)

end Consumer

/-! ## Agreement -/

/-- The events of a response whose last event is given. -/
def eventsEndedBy (header : RpcHeader) (payloads : List (List UInt8)) (last : RpcStreamEvent) :
    List RpcStreamEvent :=
  header.headerEvent :: (payloads.map header.chunkEvent ++ [last])

/-- The items end with an error if the call failed or was cut off, and the text of a failed call
is not among the data. -/
def ReportsFailure (header : RpcHeader) (last : RpcStreamEvent) (items : List StreamItem) : Prop :=
  (responseStatus header ≠ .success ∨ last.isError = true →
      ∃ front error, items = front ++ [.error error]) ∧
    (responseStatus header ≠ .success → ∀ bytes, .ok bytes ∉ items)

/-- The readers of the two calls get the same items: data at the same positions, errors at the
others. -/
structure ApisAgree (header : RpcHeader) (last : RpcStreamEvent)
    (channelItems streamItems : List StreamItem) : Prop where
  same : channelItems.map Except.toOption = streamItems.map Except.toOption
  channelReports : ReportsFailure header last channelItems
  streamReports : ReportsFailure header last streamItems

theorem reportsFailure_of_complete {header : RpcHeader} {last : RpcStreamEvent}
    (succeeded : responseStatus header = .success) (complete : last.isError = false)
    (items : List StreamItem) : ReportsFailure header last items := by
  constructor
  · rintro (failed | isError)
    · exact absurd succeeded failed
    · exact absurd (complete.symm.trans isError) Bool.false_ne_true
  · intro failed
    exact absurd succeeded failed

/-- To the handler of `open_channel` every payload chunk is data. -/
theorem ChannelReader.sent_response (header : RpcHeader) (payloads : List (List UInt8))
    {last : RpcStreamEvent} (terminal : (last.isEnd || last.isError) = true) :
    sent (eventsEndedBy header payloads last) = payloads.map .ok := by
  have body : sent (payloads.map header.chunkEvent ++ [last]) = payloads.map .ok := by
    induction payloads with
    | nil =>
        cases last with
        | header => contradiction
        | payloadChunk => contradiction
        | «end» => rfl
        | error => rfl
    | cons payload rest ih => exact congrArg (.ok payload :: ·) ih
  exact body

/-- The two streaming calls agree exactly on the responses that are successful and complete. -/
theorem streaming_apis_agree_iff (header : RpcHeader) (payloads : List (List UInt8))
    (last : RpcStreamEvent) (terminal : (last.isEnd || last.isError) = true)
    (channelScript streamScript : List ConsumerStep)
    (channelEvents : Consumer.delivered channelScript = eventsEndedBy header payloads last)
    (streamEvents : Consumer.delivered streamScript = eventsEndedBy header payloads last) :
    ApisAgree header last (ChannelReader.received channelScript)
        (Consumer.received .unbounded streamScript) ↔
      responseStatus header = .success ∧ last.isEnd = true := by
  rw [ChannelReader.received_eq, channelEvents,
    ChannelReader.sent_response header payloads terminal, Consumer.received_unbounded, streamEvents]
  change ApisAgree header last _ (Consumer.sent
    ⟨some (responseStatus header), [], true⟩ (payloads.map header.chunkEvent ++ [last])) ↔ _
  by_cases succeeded : responseStatus header = .success
  · rw [succeeded, Consumer.sent_success]
    cases last with
    | header => contradiction
    | payloadChunk => contradiction
    | «end» =>
        refine iff_of_true ⟨?_, ?_, ?_⟩ ⟨rfl, rfl⟩
        · exact congrArg _ (List.append_nil _).symm
        · exact reportsFailure_of_complete succeeded rfl _
        · exact reportsFailure_of_complete succeeded rfl _
    | error rpcHeader rpcRequestId rpcMethodId frameDecodeError =>
        refine iff_of_false ?_ (fun both => Bool.false_ne_true both.2)
        intro agree
        have lengths := congrArg List.length agree.same
        simp [Consumer.sent, ResponseControl.sends] at lengths
  · obtain ⟨error, oneError⟩ := Consumer.sent_failure header payloads succeeded []
      terminal
    rw [oneError]
    refine iff_of_false ?_ (fun both => succeeded both.1)
    intro agree
    have same := agree.same
    cases payloads with
    | nil => contradiction
    | cons payload rest => exact absurd (List.cons.inj same).1 (Option.some_ne_none payload)

/-- A successful response, read late by one caller and chunk by chunk by the other. -/
theorem streaming_apis_agree_on_success :
    let header : RpcHeader := ⟨.response, 1, 5, [0]⟩
    let events := eventsEndedBy header [[7], [8]] header.endEvent
    ApisAgree header header.endEvent (ChannelReader.received (events.map .deliver))
      (Consumer.received .unbounded
        (events.flatMap fun event => [.deliver event, .poll])) := by
  intro header events
  exact (streaming_apis_agree_iff header [[7], [8]] header.endEvent rfl
    (events.map .deliver) (events.flatMap fun event => [.deliver event, .poll]) rfl rfl).mpr
    ⟨rfl, rfl⟩

/-- The text of a failed call is data to the reader of `open_channel`, and a connection that is
lost looks to it like the end of the response. -/
theorem open_channel_hides_failures :
    let failed : RpcHeader := ⟨.response, 1, 5, [1]⟩
    let failure := (eventsEndedBy failed [[98, 111, 111, 109]] failed.endEvent).map
      ConsumerStep.deliver
    let begun : RpcHeader := ⟨.response, 1, 5, [0]⟩
    let lost := (eventsEndedBy begun [[7]] (.error none (some 1) none .readAfterCancel)).map
      ConsumerStep.deliver
    ChannelReader.received failure = [.ok [98, 111, 111, 109]] ∧
      Consumer.received .unbounded failure = [.error (.rpc ⟨.fail, ""⟩)] ∧
      ChannelReader.received lost = [.ok [7]] ∧
      Consumer.received .unbounded lost =
        [.ok [7], .error (.transport ⟨.connectionAborted,
          "Attempted to read from a cancelled stream"⟩)] :=
  ⟨rfl, rfl, rfl, rfl⟩

end Muxio.Service
