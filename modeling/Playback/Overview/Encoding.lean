import Playback.Journal.Encoding
import Playback.Overview

namespace Playback.Overview

open Json

def toJson (overview : Overview) : Json :=
  .object
    [("id", .text overview.id),
      ("status", overview.progress.toJson),
      ("initial_prompt", optional .text overview.prompt),
      ("total_steps", natural overview.steps),
      ("model_calls", natural overview.modelCalls),
      ("input_tokens", word overview.inputTokens),
      ("output_tokens", word overview.outputTokens),
      ("file_steps", natural overview.fileSteps),
      ("has_errors", .boolean overview.hasErrors),
      ("started_at", overview.startedAt.toJson),
      ("duration_ms", optional natural overview.duration)]

def form :
    Form [String, Progress, Option String, Nat, Nat, UInt64, UInt64, Nat, Bool, Instant, Option Nat] :=
  .field "id" .text .refused <|
  .field "status" Progress.reader .refused <|
  .field "initial_prompt" (.optional .text) (.filledByName none) <|
  .field "total_steps" (.natural UInt64.size "usize") .refused <|
  .field "model_calls" (.natural UInt64.size "usize") .refused <|
  .field "input_tokens" (.word64 "u64") .refused <|
  .field "output_tokens" (.word64 "u64") .refused <|
  .field "file_steps" (.natural UInt64.size "usize") .refused <|
  .field "has_errors" .boolean .refused <|
  .field "started_at" Instant.reader .refused <|
  .field "duration_ms" (.optional (.natural UInt64.size "u64")) (.filledByName none) <|
  .done

def reader : Reader Overview :=
  (form.reader "struct ReplaySessionSummary").map
    fun (id, progress, prompt, steps, modelCalls, inputTokens, outputTokens, fileSteps,
        hasErrors, startedAt, duration, ()) =>
      ⟨id, progress, prompt, steps, modelCalls, inputTokens, outputTokens, fileSteps, hasErrors,
        startedAt, duration⟩

end Playback.Overview
