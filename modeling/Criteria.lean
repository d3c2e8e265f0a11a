import Criteria.Command.Response
import Criteria.Main
import Criteria.Proofs.Condition.Composition
import Criteria.Proofs.Condition.DateSpellings
import Criteria.Proofs.Condition.EpochMoments
import Criteria.Proofs.Condition.EpochOrder
import Criteria.Proofs.Condition.Lifecycle
import Criteria.Proofs.Condition.Membership
import Criteria.Proofs.Condition.Ordering
import Criteria.Proofs.Condition.PatternUse
import Criteria.Proofs.Condition.Refusals
import Criteria.Proofs.Engine.World
import Criteria.Proofs.Pattern.Interleaving
import Criteria.Proofs.Predicate.Indistinguishable
import Criteria.Proofs.Predicate.Reordering
import Criteria.Proofs.Predicate.SharedEngine
import Criteria.Proofs.Predicate.SubDocument
import Criteria.Proofs.Predicate.UnknownOperator
import Criteria.Proofs.Schema.Container
import Criteria.Proofs.Schema.Normalization
import Criteria.Proofs.Source.WellFormed
import Criteria.Proofs.Specification.Conjunction
import Criteria.Proofs.Specification.Explanations
import Criteria.Proofs.Specification.Order
import Criteria.Proofs.Specification.PatternUse
import Criteria.Proofs.Specification.Reasons
import Criteria.Proofs.Specification.Reports
import Criteria.Proofs.Value.NumberedKeys
import Criteria.Proofs.Value.Resolution
import Criteria.Report.Event
import Criteria.Report.Record
import Criteria.Report.Text
import Criteria.Schema.Assembly
import Criteria.Schema.Specification
import Criteria.Source.Evaluation
import Criteria.Specification.Evaluation
