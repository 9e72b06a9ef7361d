import TokioFsm.Library.StepRuns
import TokioFsm.Library.CancellationTree
import TokioFsm.Library.Fallible
import TokioFsm.Library.FirstSeen
import TokioFsm.Library.GraphSearch
import TokioFsm.Library.WatchChannel
import TokioFsm.MacroSyntax
import TokioFsm.HandlerParsing
import TokioFsm.GraphValidation
import TokioFsm.StructureParsing
import TokioFsm.CodeGeneration
import TokioFsm.Acceptance
import TokioFsm.GeneratedLoop
import TokioFsm.Executions
import TokioFsm.StateTimer
import TokioFsm.GraphRefinement
import TokioFsm.TransitionAtomicity
import TokioFsm.EventConservation
import TokioFsm.Shutdown
import TokioFsm.StateWaiting
import TokioFsm.RunConstruction
import TokioFsm.EntryTimes
import TokioFsm.InstantRange
import TokioFsm.DeclaredTimeouts
import TokioFsm.DeadTransitions
import TokioFsm.CancellationScope
import TokioFsm.PlacedMachine
import TokioFsm.ProgramClosure
import TokioFsm.HelperMethods
import TokioFsm.MethodOrder
import TokioFsm.InternalErrors
import TokioFsm.GeneratedNames
import TokioFsm.Library.WeakBisimulation
import TokioFsm.Library.AutomatonReading
import TokioFsm.ReturnTypes
import TokioFsm.BlockSemantics
import TokioFsm.MeaningPreservation
import TokioFsm.TaskHandle
import TokioFsm.StateAutomaton
import TokioFsm.Diagnostics
import TokioFsm.Draining
import TokioFsm.ClientSession
import TokioFsm.LockStep
import TokioFsm.OrderRegistry
import TokioFsm.OrderLifecycle
import TokioFsm.OrderStopping
import TokioFsm.OrderServer
