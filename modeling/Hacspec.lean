import Hacspec.Rustspec
import Hacspec.Typechecker.Types
import Hacspec.Typechecker.Context
import Hacspec.Typechecker.Expression
import Hacspec.Typechecker.Block
import Hacspec.Typechecker.ForwardPass
import Hacspec.Typechecker.Diagnostics
import Hacspec.Typechecker.Rules
import Hacspec.Typechecker.Linearity
import Hacspec.Typechecker.Calls
import Hacspec.Typechecker.Functions
import Hacspec.Typechecker.Ownership
import Hacspec.Typechecker.UnknownVariables
import Hacspec.Typechecker.Agreement
import Hacspec.Typechecker.Patterns
import Hacspec.Typechecker.Locations
import Hacspec.Array.Base
import Hacspec.Array.Words
import Hacspec.Array.Hex
