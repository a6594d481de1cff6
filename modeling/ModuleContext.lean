import ModuleContext.Misc.LabelledRun
import ModuleContext.Foundation.Result
import ModuleContext.Misc.SortedEntries
import ModuleContext.Foundation.ConfigValue
import ModuleContext.Foundation.ConfigField
import ModuleContext.Framework.ModuleBase
import ModuleContext.Framework.Lifecycle
import ModuleContext.Misc.StringMap
import ModuleContext.Framework.ServiceRegistry
import ModuleContext.Misc.Upsert
import ModuleContext.Framework.ModuleConfig
import ModuleContext.Framework.ModuleConfigGrammar
import ModuleContext.Framework.ModuleManager
import ModuleContext.Framework.Traversal
import ModuleContext.Framework.Loading
import ModuleContext.Framework.Consistency
import ModuleContext.Framework.ManagerGuarantees
import ModuleContext.Framework.DependencyOrder
import ModuleContext.Framework.ActivePrefix
import ModuleContext.Framework.Finalisation
import ModuleContext.Framework.Restart
import ModuleContext.Misc.DeclaredObjects
import ModuleContext.Misc.Obligations
import ModuleContext.Misc.Pipe
import ModuleContext.Misc.Backoff
import ModuleContext.RabbitMqBus.Types
import ModuleContext.RabbitMqBus.AmqpFields
import ModuleContext.RabbitMqBus.AmqpValue
import ModuleContext.RabbitMqBus.ParseBusConfig
import ModuleContext.Misc.Elementwise
import ModuleContext.RabbitMqBus.ConfigElements
import ModuleContext.RabbitMqBus.ConfigSchema
import ModuleContext.RabbitMqBus.StoredTimings
import ModuleContext.RabbitMqBus.WrittenConfig
import ModuleContext.RabbitMqBus.Topology
import ModuleContext.Misc.JoinedKeys
import ModuleContext.RabbitMqBus.BindingIdentity
import ModuleContext.RabbitMqBus.CheckedParse
import ModuleContext.RabbitMqBus.OperationMeaning
import ModuleContext.RabbitMqBus.Broker
import ModuleContext.RabbitMqBus.Driver.State
import ModuleContext.RabbitMqBus.Driver.Bootstrap
import ModuleContext.RabbitMqBus.Driver.Commands
import ModuleContext.RabbitMqBus.Driver.Loop
import ModuleContext.RabbitMqBus.Driver.Operations
import ModuleContext.RabbitMqBus.Driver.Steps
import ModuleContext.RabbitMqBus.Driver.Coherence
import ModuleContext.RabbitMqBus.Driver.Untouched
import ModuleContext.RabbitMqBus.Driver.Accounting
import ModuleContext.RabbitMqBus.Driver.Publishing
import ModuleContext.RabbitMqBus.Driver.ConnectionSteps
import ModuleContext.RabbitMqBus.Driver.BootstrapOrder
import ModuleContext.RabbitMqBus.Driver.StateCoherence
import ModuleContext.RabbitMqBus.Driver.ReconnectDelay
import ModuleContext.RabbitMqBus.Driver.Escalation
import ModuleContext.RabbitMqBus.Driver.SingleAttempt
import ModuleContext.RabbitMqBus.Driver.OutboundStream
import ModuleContext.RabbitMqBus.Driver.CommandOrder
import ModuleContext.RabbitMqBus.Driver.Wiring
import ModuleContext.RabbitMqBus.Driver.Deliveries
import ModuleContext.RabbitMqBus.Driver.DisconnectReason
import ModuleContext.RabbitMqBus.Driver.SelfWait
import ModuleContext.RabbitMqBus.Driver.Refusals
import ModuleContext.RabbitMqBus.Driver.CallResults
import ModuleContext.RabbitMqBus.Driver.CallGuarantees
import ModuleContext.Misc.FrameCode
import ModuleContext.RabbitMqBus.Driver.InboundStream
import ModuleContext.Misc.Ranking
import ModuleContext.RabbitMqBus.Driver.Turns
import ModuleContext.RabbitMqBus.Driver.Progress
import ModuleContext.RabbitMqBus.Driver.DeliveryLedger
import ModuleContext.Misc.HandleTable
import ModuleContext.Misc.Simulation
import ModuleContext.Misc.Spacing
import ModuleContext.RabbitMqBus.Driver.Sockets
import ModuleContext.RabbitMqBus.Driver.Timing
import ModuleContext.RabbitMqBus.Driver.Heartbeats
import ModuleContext.RabbitMqBus.Driver.LifePhases
import ModuleContext.Misc.Interleaving
import ModuleContext.RabbitMqBus.Driver.Messages
import ModuleContext.RabbitMqBus.Driver.Network
import ModuleContext.Misc.Scopes
import ModuleContext.Framework.HookNesting
import ModuleContext.Framework.Context
import ModuleContext.Framework.HookEnvironment
import ModuleContext.RabbitMqBus.BusModule.SharedState
import ModuleContext.RabbitMqBus.BusModule.State
import ModuleContext.RabbitMqBus.BusModule.Steps
import ModuleContext.RabbitMqBus.BusModule.Invariant
import ModuleContext.RabbitMqBus.BusModule.Deliveries
import ModuleContext.RabbitMqBus.BusModule.Dispatching
import ModuleContext.RabbitMqBus.BusModule.DriverView
import ModuleContext.RabbitMqBus.BusModule.ServingDriver
import ModuleContext.RabbitMqBus.BusModule.ServiceProxy
