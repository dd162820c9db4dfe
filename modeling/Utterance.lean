import Utterance.Assembly.Build
import Utterance.Command
import Utterance.Context
import Utterance.Conversation
import Utterance.Decimal.Layout
import Utterance.Decimal.Read
import Utterance.Envelope
import Utterance.File
import Utterance.Focus
import Utterance.Http.Exchange
import Utterance.Interpreter.Interpret
import Utterance.Interpreter.Question
import Utterance.Interpreter.Reply
import Utterance.Json.Member
import Utterance.Json.Printer
import Utterance.Json.Reader
import Utterance.Kernel.FactBase
import Utterance.Learned.Critic
import Utterance.Learned.Exemplar
import Utterance.LineReply
import Utterance.Main
import Utterance.Pattern
import Utterance.Phrasing
import Utterance.Prompt
import Utterance.Proofs.Act
import Utterance.Proofs.Interpreter.Closure
import Utterance.Proofs.Json.LowerKeys
import Utterance.Proofs.Json.Outer
import Utterance.Proofs.Stream.Following
import Utterance.Proofs.Stream.Passage
import Utterance.Proofs.Stream.Reading
import Utterance.Proofs.Stream.Response
import Utterance.Proofs.Stream.Spelling
import Utterance.Proofs.Text.Blank
import Utterance.Provider.Anthropic
import Utterance.Provider.Basic
import Utterance.Provider.Chat
import Utterance.Provider.Client
import Utterance.Provider.Completer
import Utterance.Provider.Embedding
import Utterance.Provider.Gemini
import Utterance.Provider.Usage
import Utterance.Rehearsal.Completer
import Utterance.Rehearsal.Embedder
import Utterance.Rehearsal.Kernel
import Utterance.Rehearsal.Stage
import Utterance.Rule.Validation
import Utterance.Semantic.Classifier
import Utterance.Semantic.Index
import Utterance.Stream.Reader
import Utterance.Text.Case
import Utterance.Text.Letter
import Utterance.Text.Shown
import Utterance.Text.Split
import Utterance.Understanding.Derive
import Utterance.Understanding.Override
import Utterance.Verb.Bundled
import Utterance.Verb.Corpus
import Utterance.Verb.Decision
import Utterance.Verb.Reload
import Utterance.View.Fault
import Utterance.View.Provider
import Utterance.View.Rule
import Utterance.View.Verb
import Utterance.Proofs.Decimal.Whole
import Utterance.Proofs.Rule.Lexing
import Utterance.Proofs.Intent
import Utterance.Proofs.Decimal.Bounds
import Utterance.Proofs.Confidence
import Utterance.Proofs.Interpreter.Attempts
import Utterance.Proofs.Interpreter.Faults
import Utterance.Proofs.Rule.Reading
import Utterance.Proofs.Rule.Writing
import Utterance.Proofs.Rule.Trimming
import Utterance.Proofs.Kernel.Loading
import Utterance.Proofs.Kernel.Base
import Utterance.Proofs.Kernel.History
import Utterance.Proofs.Semantic.Facts
import Utterance.Proofs.Interpreter.Recording
import Utterance.Proofs.Http.Course
import Utterance.Proofs.Http.Ending
import Utterance.Proofs.Learned.Teaching
import Utterance.Proofs.Learned.Keeping
import Utterance.Proofs.Assembly.Rebuilding
import Utterance.Proofs.Learned.Line
import Utterance.Proofs.Learned.Tearing
import Utterance.Proofs.Learned.Restating
import Utterance.Proofs.Provider.Limits
import Utterance.Proofs.Envelope.Writing
import Utterance.Proofs.Stream.Prose
import Utterance.Proofs.Semantic.Reopening
import Utterance.Proofs.Verb.Corpus
import Utterance.Proofs.Rule.Grounding
import Utterance.Proofs.Verb.Naming
import Utterance.Proofs.Interpreter.Shares
import Utterance.Proofs.Stream.Holding
import Utterance.Proofs.Rule.Grammar
import Utterance.Proofs.Rule.Layout
import Utterance.Proofs.Kernel.Refusal
import Utterance.Proofs.Verb.Decision
import Utterance.Proofs.Semantic.Merging
import Utterance.Proofs.Kernel.Verdict
import Utterance.Proofs.Learned.Extracting
import Utterance.Proofs.Envelope.Fences
import Utterance.Proofs.Stream.Frames
import Utterance.Proofs.Stream.Closing
import Utterance.Proofs.Provider.Tools
import Utterance.Proofs.Provider.Nulls
import Utterance.Proofs.Http.Waiting
import Utterance.Proofs.Provider.Selecting
import Utterance.Proofs.Verb.Widening
import Utterance.Proofs.Semantic.Searching
import Utterance.Proofs.Focus
import Utterance.Proofs.Semantic.Storing
import Utterance.Proofs.LineReply
import Utterance.Proofs.Context
import Utterance.Proofs.Semantic.Seeding
