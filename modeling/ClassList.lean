import ClassList.Arrangement.Basic
import ClassList.Arrangement.Sorting
import ClassList.Call
import ClassList.Call.Arguments
import ClassList.Catalog.Basic
import ClassList.Catalog.Standard
import ClassList.Group
import ClassList.Layout
import ClassList.Options
import ClassList.Organizer
import ClassList.Pattern
import ClassList.Proofs.Arrangement.Groups
import ClassList.Proofs.Arrangement.Inline
import ClassList.Proofs.Arrangement.Joined
import ClassList.Proofs.Arrangement.Records
import ClassList.Proofs.Arrangement.Slots
import ClassList.Proofs.Arrangement.StableOrder
import ClassList.Proofs.Call.Determined
import ClassList.Proofs.Call.Reading
import ClassList.Proofs.Call.Rows
import ClassList.Proofs.Catalog.Order
import ClassList.Proofs.Catalog.Reach
import ClassList.Proofs.Catalog.Variant
import ClassList.Proofs.Element
import ClassList.Proofs.Layout.Agreement
import ClassList.Proofs.Layout.Collapse
import ClassList.Proofs.Layout.Grouped
import ClassList.Proofs.Options.History
import ClassList.Proofs.Options.Validation
import ClassList.Proofs.Organizer.Commented
import ClassList.Proofs.Organizer.Flags
import ClassList.Proofs.Organizer.Inline
import ClassList.Proofs.Organizer.Padding
import ClassList.Proofs.Organizer.Parallel
import ClassList.Proofs.Organizer.Settled
import ClassList.Proofs.Pattern
import ClassList.Proofs.Section.Cleaning
import ClassList.Proofs.Section.Reading
import ClassList.Proofs.Section.RoundTrip
import ClassList.Proofs.Section.Segments
import ClassList.Proofs.Text.Cleaning
import ClassList.Proofs.Text.Comment
import ClassList.Proofs.Text.Join
import ClassList.Proofs.Text.Lines
import ClassList.Proofs.Text.Literal
import ClassList.Proofs.Text.Pieces
import ClassList.Proofs.Text.Trim
import ClassList.Proofs.Text.Words
import ClassList.Proofs.Utility
import ClassList.Section
import ClassList.Text.Basic
import ClassList.Text.Blank
import ClassList.Text.Comment
import ClassList.Text.Extending
import ClassList.Text.Literal
import ClassList.Text.Pieces
import ClassList.Text.Unprintable
import ClassList.Utility
