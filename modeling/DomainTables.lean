import DomainTables.Client.Argument
import DomainTables.Compilation
import DomainTables.Metadata.Limits
import DomainTables.Metadata.Relationship
import DomainTables.Sql.Reading
import DomainTables.Sql.Writing
import DomainTables.Proofs.Keyed
import DomainTables.Proofs.Provisioning
import DomainTables.Proofs.Levels
import DomainTables.Proofs.Classification
import DomainTables.Proofs.Derivation
import DomainTables.Proofs.Fault
import DomainTables.Proofs.FirstFault
import DomainTables.Proofs.Reading
import DomainTables.Proofs.Reach
import DomainTables.Proofs.Nesting
import DomainTables.Proofs.Generators
import DomainTables.Proofs.Depth
import DomainTables.Proofs.References
import DomainTables.Proofs.Passes
import DomainTables.Proofs.Ordering
import DomainTables.Proofs.ColumnNames
import DomainTables.Proofs.Coherence
import DomainTables.Proofs.Surroundings
import DomainTables.Proofs.Reordering
import DomainTables.Proofs.Carrying
import DomainTables.Proofs.Words
import DomainTables.Proofs.TableNames
import DomainTables.Proofs.PropertyOrder
import DomainTables.Proofs.Tokens
import DomainTables.Proofs.Values
import DomainTables.Proofs.RoundTrip
import DomainTables.Proofs.Declaration
import DomainTables.Proofs.CamelCase
import DomainTables.Proofs.Parameters
import DomainTables.Proofs.Clauses
import DomainTables.Proofs.ArrayOrder
import DomainTables.Proofs.Acceptance
import DomainTables.Proofs.Spelling
import DomainTables.Proofs.WordBreaks
import DomainTables.Proofs.WholeWords
import DomainTables.Proofs.Advice
import DomainTables.Proofs.OwnNames
import DomainTables.Proofs.NaturalKey
import DomainTables.Proofs.Updatable
import DomainTables.Proofs.Culprit
import DomainTables.Proofs.Brackets
import DomainTables.Proofs.Bracketing
import DomainTables.Proofs.Contexts
import DomainTables.Proofs.Indentation
import DomainTables.Proofs.Scopes
import DomainTables.Proofs.Shortened
