import NestedRouting.Params
import NestedRouting.Text.Quoted
import NestedRouting.Unicode.CaseFold
import NestedRouting.Regex.Search
import NestedRouting.Regex.Reader
import NestedRouting.Pattern.Build
import NestedRouting.Pattern.Cache
import NestedRouting.Pattern.Consumed
import NestedRouting.Data.Writer
import NestedRouting.Data.Reader
import NestedRouting.Route.Shown
import NestedRouting.Route.Evaluate
import NestedRouting.Navigation.Channel
import NestedRouting.Navigation.Record
import NestedRouting.Session.Perform
import NestedRouting.Config
import NestedRouting.Session.Evaluation
import NestedRouting.Session.Broadcast
import NestedRouting.Proofs.Route.Boundaries
import NestedRouting.Proofs.Regex.Meaning
import NestedRouting.Proofs.Regex.Noting
import NestedRouting.Proofs.Regex.Reading
import NestedRouting.Proofs.Regex.Continued
import NestedRouting.Proofs.Regex.Bracketed
import NestedRouting.Proofs.Regex.Nested
import NestedRouting.Proofs.Regex.Numbering
import NestedRouting.Proofs.Regex.Placing
import NestedRouting.Proofs.Pattern.Recognizer
import NestedRouting.Proofs.Pattern.Spelling
import NestedRouting.Proofs.Regex.Characters
import NestedRouting.Proofs.Pattern.Recognized
import NestedRouting.Proofs.Regex.Preference
import NestedRouting.Proofs.Pattern.Ending
import NestedRouting.Proofs.Pattern.Matching
import NestedRouting.Proofs.Pattern.Groups
import NestedRouting.Proofs.Pattern.Exec
import NestedRouting.Proofs.Regex.Moved
import NestedRouting.Proofs.Pattern.Mounted
import NestedRouting.Proofs.Pattern.Lexing
import NestedRouting.Proofs.Pattern.Tiling
import NestedRouting.Proofs.Pattern.Edits
import NestedRouting.Proofs.Pattern.Parsing
import NestedRouting.Proofs.Pattern.Prefixed
import NestedRouting.Proofs.Pattern.Custom
import NestedRouting.Proofs.Pattern.CustomGroups
import NestedRouting.Proofs.Pattern.Smuggled
import NestedRouting.Proofs.Pattern.Confined
import NestedRouting.Proofs.Pattern.Printing
import NestedRouting.Proofs.Pattern.InPlace
import NestedRouting.Proofs.Pattern.Stuck
import NestedRouting.Proofs.Pattern.Defects
import NestedRouting.Proofs.Pattern.Caching
import NestedRouting.Proofs.Pattern.Building
import NestedRouting.Proofs.Pattern.Captured
import NestedRouting.Proofs.Pattern.Validating
import NestedRouting.Proofs.Pattern.Rebuilding
import NestedRouting.Proofs.Pattern.Delimited
import NestedRouting.Proofs.Route.Mounting
import NestedRouting.Proofs.Route.Errors
import NestedRouting.Proofs.Route.Repeated
import NestedRouting.Proofs.Route.Sticky
import NestedRouting.Proofs.Route.Origins
import NestedRouting.Proofs.Route.Prefixes
import NestedRouting.Proofs.Route.Chains
import NestedRouting.Proofs.Session.Changes
import NestedRouting.Proofs.Session.Rounds
import NestedRouting.Proofs.Session.Following
import NestedRouting.Proofs.Session.Delivery
import NestedRouting.Proofs.Navigation.Zipper
import NestedRouting.Proofs.Session.Unwinding
import NestedRouting.Proofs.Session.Updates
import NestedRouting.Proofs.Session.Coalescing
import NestedRouting.Proofs.Navigation.Records
import NestedRouting.Proofs.Pattern.Splitting
import NestedRouting.Proofs.Pattern.Canonical
import NestedRouting.Proofs.Session.Enrolment
import NestedRouting.Proofs.Session.Observing
