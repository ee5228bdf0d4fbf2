import Obligations.Engine.Several
import Obligations.Engine.Store
import Obligations.Main
import Obligations.Proofs.Bundle.Evaluation
import Obligations.Proofs.Cache.Retention
import Obligations.Proofs.Condition.Diagnosis
import Obligations.Proofs.Condition.Window
import Obligations.Proofs.DueDate.Bounds
import Obligations.Proofs.Engine.Account
import Obligations.Proofs.Engine.Cap
import Obligations.Proofs.Engine.Checked
import Obligations.Proofs.Engine.History
import Obligations.Proofs.Engine.Interleaving
import Obligations.Proofs.Engine.Merging
import Obligations.Proofs.Engine.Replacement
import Obligations.Proofs.Engine.Several
import Obligations.Proofs.Engine.Together
import Obligations.Proofs.Offset.Grammar
import Obligations.Proofs.Offset.Months
import Obligations.Proofs.Pattern.Guard
import Obligations.Proofs.Prerequisites.Search
import Obligations.Proofs.Rule.Respelling
import Obligations.Proofs.Rule.RoundTrip
import Obligations.Proofs.Source.Agreement
import Obligations.Proofs.Subject.Progress
import Obligations.Proofs.Subject.Risk
import Obligations.Proofs.Task.Order
import Obligations.Proofs.Value.Order
import Obligations.Proofs.Value.Printed
import Obligations.Proofs.Wording.Choice
import Obligations.Proofs.Wording.Deadlines
import Obligations.Proofs.Wording.Lint
import Obligations.Value.Shift
