import DataSchema.Diagnostic.Form
import DataSchema.Engine
import DataSchema.Error
import DataSchema.Proofs.Compile.Lookup
import DataSchema.Proofs.Form.Rereading
import DataSchema.Proofs.Validate.Required
import DataSchema.Proofs.Validate.Sound
import DataSchema.Schema.Same
import DataSchema.Source
import DataSchema.Proofs.Validate.Settled
import DataSchema.Proofs.Compile.Order
import DataSchema.Proofs.Compile.Expand
import DataSchema.Proofs.Compile.Expanded
import DataSchema.Proofs.Compile.Macro
import DataSchema.Proofs.Validate.Terminates
import DataSchema.Proofs.Validate.Limit
import DataSchema.Proofs.Compile.Recursion
import DataSchema.Proofs.Compile.Circular
import DataSchema.Proofs.Registry.Calls
import DataSchema.Proofs.Validate.Accounted
import DataSchema.Proofs.Validate.Path
import DataSchema.Proofs.Compile.WellFormed
import DataSchema.Proofs.Compile.Listed
import DataSchema.Proofs.Compile.Complete
import DataSchema.Proofs.Validate.Distinct
import DataSchema.Proofs.Compile.Overriding
import DataSchema.Proofs.Compile.Identified
import DataSchema.Proofs.Validate.Kept
import DataSchema.Proofs.Compile.Unchanged
import DataSchema.Proofs.Validate.Rounded
import DataSchema.Proofs.Compile.Cleared
import DataSchema.Proofs.Text.Kebab
import DataSchema.Proofs.Text.Camel
import DataSchema.Proofs.Format.Ipv4
import DataSchema.Proofs.Format.Ipv6
import DataSchema.Proofs.Format.Pattern
import DataSchema.Proofs.Yaml.Tags
import DataSchema.Proofs.Source
import DataSchema.Proofs.Assembly
import DataSchema.Proofs.Text.Slices
