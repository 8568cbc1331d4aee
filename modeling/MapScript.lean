import MapScript.Data.Json
import MapScript.Data.Script
import MapScript.Main
import MapScript.Proofs.Engine.DoneAction
import MapScript.Proofs.Engine.Requests
import MapScript.Proofs.Engine.StaleScope
import MapScript.Proofs.Engine.ScopeChange
import MapScript.Proofs.Engine.Life
import MapScript.Proofs.Engine.Chronicle
import MapScript.Proofs.Engine.Removing
import MapScript.Proofs.Engine.ScriptOrder
import MapScript.Proofs.Engine.Sparing
import MapScript.Proofs.Engine.FrameTiming
import MapScript.Proofs.Engine.CancelledEvents
import MapScript.Proofs.Engine.InitPool
import MapScript.Proofs.Engine.StartOrder
import MapScript.Proofs.Engine.AbortedFrame
import MapScript.Proofs.Engine.LenientFrame
import MapScript.Proofs.Engine.OneShotFrame
import MapScript.Proofs.Engine.Tracing
import MapScript.Proofs.Engine.LoneAction
import MapScript.Proofs.Engine.Explaining
import MapScript.Proofs.Engine.Forgetting
import MapScript.Proofs.Engine.Remembering
import MapScript.Proofs.Engine.Sighting
import MapScript.Proofs.Engine.DroppedEvents
import MapScript.Proofs.Engine.CancellationOrder
import MapScript.Proofs.Engine.CurrentAction
import MapScript.Proofs.Engine.DrainBound
import MapScript.Proofs.Catalog.MemoryKey
import MapScript.Proofs.Catalog.ScopeReset
import MapScript.Proofs.Catalog.VariableEdges
import MapScript.Proofs.Catalog.DeclarationOrder
import MapScript.Proofs.Script.PropertyLines
import MapScript.Proofs.Script.PropertyOrder
import MapScript.Proofs.Script.WrittenLines
import MapScript.Proofs.Script.ScopeLoading
import MapScript.Proofs.Script.LineGrammar
import MapScript.Proofs.Catalog.Counting
import MapScript.Proofs.Catalog.HighestVariable
import MapScript.Proofs.Catalog.WaitTiming
import MapScript.Proofs.Catalog.StoredPairs
import MapScript.Proofs.Catalog.CleanFailures
import MapScript.Proofs.Number.RepeatedSums
import MapScript.Proofs.Simulation.Running
import MapScript.Proofs.Simulation.ConsoleWait
import MapScript.Proofs.Text.EmbeddedNumbers
