import Questionnaire.Document.Config
import Questionnaire.Document.Event
import Questionnaire.Document.Form
import Questionnaire.Main
import Questionnaire.Proofs.Assignment.Completion
import Questionnaire.Proofs.Assignment.Finishing
import Questionnaire.Proofs.Assignment.Isolation
import Questionnaire.Proofs.Document.RoundTrip
import Questionnaire.Proofs.Graph.Walks
import Questionnaire.Proofs.Graph.WellFormed
import Questionnaire.Proofs.Response.FiniteMap
import Questionnaire.Proofs.Response.ReadBack
import Questionnaire.Proofs.Seed.Gating
import Questionnaire.Proofs.State.Integrity
import Questionnaire.Proofs.State.RetitlingAgain
import Questionnaire.State.Answering
import Questionnaire.State.Authoring
import Questionnaire.Proofs.Graph.Chain
import Questionnaire.Proofs.Seed.Validity
import Questionnaire.Proofs.Migration.Validity
import Questionnaire.Proofs.State.Routine
import Questionnaire.Proofs.State.Stages
import Questionnaire.Proofs.State.Publishing
import Questionnaire.Proofs.State.Refusal
import Questionnaire.Proofs.Store.Calls
import Questionnaire.Proofs.Store.Durability
import Questionnaire.Proofs.Store.Retention
import Questionnaire.Proofs.Graph.Ordering
import Questionnaire.Proofs.Store.Resetting
import Questionnaire.Proofs.Store.Scopes
import Questionnaire.Proofs.Graph.Ambiguity
import Questionnaire.Proofs.Graph.Renumbering
import Questionnaire.Proofs.Seed.Mirroring
import Questionnaire.Proofs.Migration.Conversion
import Questionnaire.Proofs.State.Rehydrating
import Questionnaire.Proofs.State.UniqueTitles
import Questionnaire.Proofs.Store.Rewriting
import Questionnaire.Proofs.Graph.Firing
import Questionnaire.Proofs.Form.Projection
import Questionnaire.Proofs.Graph.Locality
import Questionnaire.Proofs.Graph.Traversal
import Questionnaire.Proofs.Response.Attaching
import Questionnaire.Proofs.Graph.Editing
import Questionnaire.Proofs.Graph.LinearSearch
import Questionnaire.Proofs.State.CopyTitles
import Questionnaire.Proofs.Template.Numbering
import Questionnaire.Proofs.Title.Stripping
import Questionnaire.Proofs.State.Counting
