import CitedAnswers.Http.CrossOrigin
import CitedAnswers.Settings.Loading
import CitedAnswers.Proofs.Answering.Runs
import CitedAnswers.Proofs.Answering.Ways
import CitedAnswers.Proofs.Exchanges.Reader
import CitedAnswers.Proofs.Exchanges.RoundTrip
import CitedAnswers.Proofs.Http.Access
import CitedAnswers.Proofs.Http.MediaTypes
import CitedAnswers.Proofs.Settings.TextSettings
import CitedAnswers.Proofs.Sources.Collecting
import CitedAnswers.Proofs.Http.Gates
import CitedAnswers.Proofs.Answering.Series
import CitedAnswers.Proofs.Metrics.Counting
import CitedAnswers.Proofs.Answering.Paths
import CitedAnswers.Proofs.Answering.Accounting
import CitedAnswers.Proofs.Answering.Recording
import CitedAnswers.Proofs.Answering.Confidentiality
import CitedAnswers.Proofs.Settings.CountSettings
import CitedAnswers.Proofs.Settings.FileSettings
import CitedAnswers.Proofs.Remote.Refinement
import CitedAnswers.Proofs.Json.Integers
import CitedAnswers.Proofs.Remote.Requests
import CitedAnswers.Proofs.Exchanges.Histories
import CitedAnswers.Proofs.Exchanges.Continuing
import CitedAnswers.Proofs.Http.Effects
import CitedAnswers.Proofs.Http.Completions
import CitedAnswers.Proofs.Sources.Recollecting
import CitedAnswers.Proofs.Remote.Matches
import CitedAnswers.Proofs.Remote.Conversations
import CitedAnswers.Proofs.Remote.Entities
import CitedAnswers.Proofs.Answering.Indifference
import CitedAnswers.Proofs.Http.Origins
import CitedAnswers.Proofs.Environment.Adding
import CitedAnswers.Proofs.Settings.Precedence
import CitedAnswers.Proofs.Settings.Layering
import CitedAnswers.Proofs.Sources.Seconds
import CitedAnswers.Proofs.Sources.Suppression
import CitedAnswers.Proofs.Sources.Footers
import CitedAnswers.Proofs.Json.Successes
import CitedAnswers.Proofs.Json.LexemeSoundness
import CitedAnswers.Proofs.Json.Soundness
import CitedAnswers.Proofs.Json.Mending
import CitedAnswers.Proofs.Json.Decoders
import CitedAnswers.Proofs.Sources.Merging
import CitedAnswers.Proofs.Metrics.Exposing
import CitedAnswers.Proofs.Chat.Decoding
import CitedAnswers.Proofs.Remote.Classification
import CitedAnswers.Proofs.Settings.Serving
