import AspectWeaver.Logging.Filter
import AspectWeaver.Main
import AspectWeaver.Session
import AspectWeaver.Proofs.Call.Steps
import AspectWeaver.Proofs.Call.Trace
import AspectWeaver.Proofs.Call.Order
import AspectWeaver.Proofs.Call.Outcome
import AspectWeaver.Proofs.Call.Runs
import AspectWeaver.Proofs.Advice.Order
import AspectWeaver.Proofs.Weaver.Catalog
import AspectWeaver.Proofs.Weaver.Run
import AspectWeaver.Proofs.Weaver.Chains
import AspectWeaver.Proofs.Weaver.Modes
import AspectWeaver.Proofs.Weaver.AllOrNothing
import AspectWeaver.Proofs.Pointcut.Grammar
import AspectWeaver.Proofs.Pointcut.Compile
import AspectWeaver.Proofs.Pointcut.Brackets
import AspectWeaver.Proofs.Weaver.Registered
import AspectWeaver.Proofs.Pointcut.Names
import AspectWeaver.Proofs.Pointcut.Overloads
import AspectWeaver.Proofs.Pointcut.Ellipsis
import AspectWeaver.Proofs.Pointcut.OwnSignature
import AspectWeaver.Proofs.Weaver.Singletons
import AspectWeaver.Proofs.Weaver.Interceptors
import AspectWeaver.Proofs.Weaver.Kinds
import AspectWeaver.Proofs.Weaver.Intercepted
import AspectWeaver.Proofs.Call.Onion
import AspectWeaver.Proofs.Weaver.Exchange
import AspectWeaver.Proofs.Weaver.Copies
import AspectWeaver.Proofs.Call.Lifetime
import AspectWeaver.Proofs.Signature.Key
import AspectWeaver.Proofs.Pointcut.Literal
import AspectWeaver.Proofs.Call.Similar
import AspectWeaver.Proofs.Call.Alike
import AspectWeaver.Proofs.Call.ShortPaths
import AspectWeaver.Proofs.Weaver.Observers
import AspectWeaver.Proofs.Script.Similar
import AspectWeaver.Proofs.Script.Observed
import AspectWeaver.Proofs.Advice.History
import AspectWeaver.Proofs.Catalog.History
import AspectWeaver.Proofs.Pointcut.Members
import AspectWeaver.Proofs.Weaver.Log
import AspectWeaver.Proofs.Weaver.Account
import AspectWeaver.Proofs.Config.Exclusion
import AspectWeaver.Proofs.Failure.Report
