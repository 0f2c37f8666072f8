import FilterQuery.Main
import FilterQuery.Workbench
import FilterQuery.Proofs.Addressable
import FilterQuery.Proofs.Columns
import FilterQuery.Proofs.Concatenation
import FilterQuery.Proofs.Decoding
import FilterQuery.Proofs.Encoding
import FilterQuery.Proofs.Grouping
import FilterQuery.Proofs.Lists
import FilterQuery.Proofs.Meaning
import FilterQuery.Proofs.Misfits
import FilterQuery.Proofs.Obtainable
import FilterQuery.Proofs.Paths
import FilterQuery.Proofs.Patterns
import FilterQuery.Proofs.Policies
import FilterQuery.Proofs.Printing
import FilterQuery.Proofs.Reading
import FilterQuery.Proofs.Rearrangement
import FilterQuery.Proofs.Records
import FilterQuery.Proofs.Refusal
import FilterQuery.Proofs.Secrecy
import FilterQuery.Proofs.Sessions
import FilterQuery.Proofs.Slots
import FilterQuery.Proofs.Sources
import FilterQuery.Proofs.Splitting
import FilterQuery.Proofs.UniqueReading
import FilterQuery.Proofs.Walks
import FilterQuery.Proofs.Writing
