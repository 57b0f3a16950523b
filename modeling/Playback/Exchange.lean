import Playback.Binary

namespace Playback

structure Message where
  role : String
  content : String
deriving DecidableEq

structure Request where
  modelName : String
  modelId : String
  provider : String
  temperature : Option Binary.Single
  topShare : Option Binary.Single
  greatestTokens : Option UInt32
  inputTokens : UInt64
  systemPrompt : Option String
  messages : List Message
  stops : List String
deriving DecidableEq

structure Reply where
  content : String
  finishReason : Option String
  inputTokens : UInt64
  outputTokens : UInt64
  totalTokens : UInt64
  cachedTokens : UInt64
  stopped : Bool
  error : Option String
deriving DecidableEq

end Playback
