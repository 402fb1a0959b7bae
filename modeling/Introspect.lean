import Introspect.Demo.HostFunction
import Introspect.Main
import Introspect.Native.Array
import Introspect.Native.Context
import Introspect.Native.Library
import Introspect.Native.Sample
import Introspect.Native.Written
import Introspect.Proofs.Balance
import Introspect.Proofs.Callable
import Introspect.Proofs.CallSites
import Introspect.Proofs.Chain
import Introspect.Proofs.Closures
import Introspect.Proofs.Completion
import Introspect.Proofs.Constants
import Introspect.Proofs.Definitions
import Introspect.Proofs.Lengths
import Introspect.Proofs.Imports
import Introspect.Proofs.Resolution
import Introspect.Proofs.Caching
import Introspect.Proofs.Registry
import Introspect.Proofs.Lifecycles
import Introspect.Proofs.Edits
import Introspect.Proofs.Effects
import Introspect.Proofs.Leniency
import Introspect.Proofs.Stops
import Introspect.Proofs.Allocation
import Introspect.Proofs.Hints
import Introspect.Proofs.Ancestry
import Introspect.Proofs.Trampolines
import Introspect.Proofs.Exchange
import Introspect.Proofs.Passing
import Introspect.Proofs.Sentinels
import Introspect.Proofs.Renaming
import Introspect.Proofs.Fragments
import Introspect.Proofs.Styles
