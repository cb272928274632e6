import Phrasebook.Language.Definition
import Phrasebook.BuiltIn
import Phrasebook.Invocation.Printer
import Phrasebook.Stream
import Phrasebook.Stream.Json
import Phrasebook.Toml.Document
import Phrasebook.Layout
import Phrasebook.Proofs.Writing
import Phrasebook.Proofs.Substitution
import Phrasebook.Proofs.Layout
import Phrasebook.Proofs.Profile
import Phrasebook.Proofs.Progress
import Phrasebook.Proofs.Repair
import Phrasebook.Proofs.Balance
import Phrasebook.Proofs.Composition
import Phrasebook.Proofs.Failure
import Phrasebook.Proofs.Coverage
import Phrasebook.Proofs.Definition
import Phrasebook.Proofs.Nesting
import Phrasebook.Proofs.Erasure
import Phrasebook.Proofs.PhysicalLines
import Phrasebook.Proofs.PairLoop
import Phrasebook.Proofs.Arity
import Phrasebook.Proofs.Blocks
import Phrasebook.Proofs.LoopVariables
import Phrasebook.Proofs.Sessions
import Phrasebook.Proofs.Chains
import Phrasebook.Proofs.Imports
import Phrasebook.Proofs.Identifiers
import Phrasebook.Proofs.Builders
