import Playback.Main
import Playback.Overview.Encoding
import Playback.Proofs.Account
import Playback.Proofs.Evidence
import Playback.Proofs.Rejection
import Playback.Proofs.Scope
import Playback.Proofs.Tracked
import Playback.Proofs.Passage
import Playback.Proofs.Rehearsal
import Playback.Proofs.Numbering
import Playback.Proofs.Composition
import Playback.Proofs.Interruption
import Playback.Proofs.Logs
import Playback.Proofs.Muting
import Playback.Proofs.Advice
import Playback.Proofs.Payload
import Playback.Proofs.Commuting
import Playback.Proofs.ExitCode
import Playback.Proofs.Removal
import Playback.Proofs.Restoring
import Playback.Proofs.Application
import Playback.Proofs.Absence
import Playback.Proofs.Pausing
import Playback.Proofs.Verdict
import Playback.Proofs.Permission
import Playback.Proofs.Extension
import Playback.Proofs.Persistence
import Playback.Proofs.Json.Grammar
import Playback.Proofs.Json.Acceptance
import Playback.Proofs.Json.Extension
import Playback.Proofs.Hexadecimal
import Playback.Proofs.Recording
import Playback.Proofs.Shortening
import Playback.Proofs.Lines
import Playback.Proofs.Compatibility
import Playback.Proofs.Json.Normal
