import Playback.Exchange
import Playback.Json.Form

namespace Playback

open Json

namespace Message

def toJson (message : Message) : Json :=
  .object [("role", .text message.role), ("content", .text message.content)]

def form : Form [String, String] :=
  .field "role" .text .refused <|
  .field "content" .text .refused <|
  .done

def reader : Reader Message :=
  (form.reader "struct ReplayMessage").map fun (role, content, ()) => ⟨role, content⟩

end Message

namespace Request

def singleJson (value : Binary.Single) : Json := .number (.single value)

def toJson (request : Request) : Json :=
  .object
    [("model_name", .text request.modelName),
      ("model_id", .text request.modelId),
      ("provider", .text request.provider),
      ("temperature", optional singleJson request.temperature),
      ("top_p", optional singleJson request.topShare),
      ("max_tokens", optional (fun count => natural count.toNat) request.greatestTokens),
      ("input_tokens", word request.inputTokens),
      ("system_prompt", optional .text request.systemPrompt),
      ("messages", listOf Message.toJson request.messages),
      ("stop", listOf .text request.stops)]

def form :
    Form [String, String, String, Option Binary.Single, Option Binary.Single, Option UInt32,
      UInt64, Option String, List Message, List String] :=
  .field "model_name" .text (.filled "") <|
  .field "model_id" .text (.filled "") <|
  .field "provider" .text (.filled "") <|
  .field "temperature" (.optional .single) (.filled none) <|
  .field "top_p" (.optional .single) (.filled none) <|
  .field "max_tokens" (.optional .word32) (.filled none) <|
  .field "input_tokens" (.word64 "u64") (.filled 0) <|
  .field "system_prompt" (.optional .text) (.filled none) <|
  .field "messages" (.list Message.reader) (.filled []) <|
  .field "stop" (.list .text) (.filled []) <|
  .done

def reader : Reader Request :=
  (form.reader "struct ModelRequest").map
    fun (modelName, modelId, provider, temperature, topShare, greatestTokens, inputTokens,
        systemPrompt, messages, stops, ()) =>
      ⟨modelName, modelId, provider, temperature, topShare, greatestTokens, inputTokens,
        systemPrompt, messages, stops⟩

end Request

namespace Reply

def toJson (reply : Reply) : Json :=
  .object
    [("content", .text reply.content),
      ("finish_reason", optional .text reply.finishReason),
      ("input_tokens", word reply.inputTokens),
      ("output_tokens", word reply.outputTokens),
      ("total_tokens", word reply.totalTokens),
      ("cached_input_tokens", word reply.cachedTokens),
      ("stopped", .boolean reply.stopped),
      ("error", optional .text reply.error)]

def form :
    Form [String, Option String, UInt64, UInt64, UInt64, UInt64, Bool, Option String] :=
  .field "content" .text (.filled "") <|
  .field "finish_reason" (.optional .text) (.filled none) <|
  .field "input_tokens" (.word64 "u64") (.filled 0) <|
  .field "output_tokens" (.word64 "u64") (.filled 0) <|
  .field "total_tokens" (.word64 "u64") (.filled 0) <|
  .field "cached_input_tokens" (.word64 "u64") (.filled 0) <|
  .field "stopped" .boolean (.filled false) <|
  .field "error" (.optional .text) (.filled none) <|
  .done

def reader : Reader Reply :=
  (form.reader "struct ModelResponse").map
    fun (content, finishReason, inputTokens, outputTokens, totalTokens, cachedTokens, stopped,
        error, ()) =>
      ⟨content, finishReason, inputTokens, outputTokens, totalTokens, cachedTokens, stopped,
        error⟩

end Reply

end Playback
