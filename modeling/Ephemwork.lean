import Ephemwork.Foundation.TransitionSystem
import Ephemwork.Foundation.LockedObject
import Ephemwork.Foundation.Allocation
import Ephemwork.Foundation.Fallible
import Ephemwork.Foundation.Text
import Ephemwork.Foundation.Bytes
import Ephemwork.Foundation.Decimal
import Ephemwork.Foundation.Json
import Ephemwork.Bastion.Registry
import Ephemwork.Bastion.RegistryRuns
import Ephemwork.Bastion.PortInvariant
import Ephemwork.Bastion.PairMap
import Ephemwork.Foundation.AtomicFile
import Ephemwork.Foundation.SharedFile
import Ephemwork.Foundation.Calls
import Ephemwork.Foundation.Ownership
import Ephemwork.Foundation.StopFlag
import Ephemwork.Foundation.MessageHead
import Ephemwork.Foundation.Endpoint
import Ephemwork.Foundation.Base64
import Ephemwork.Foundation.KeyedList
import Ephemwork.Foundation.HereDocument
import Ephemwork.Bastion.Nginx
import Ephemwork.Bastion.RenderedMap
import Ephemwork.Bastion.Wire
import Ephemwork.Bastion.Http
import Ephemwork.Bastion.Handlers
import Ephemwork.Bastion.ControlPlane
import Ephemwork.Bastion.Routing
import Ephemwork.Bastion.NginxFollows
import Ephemwork.Bastion.MapKeys
import Ephemwork.Bastion.CrashRecovery
import Ephemwork.Bastion.StartupRender
import Ephemwork.Bastion.RetriedRequests
import Ephemwork.Bastion.Connection
import Ephemwork.Bastion.Reading
import Ephemwork.Bastion.AnnouncedLengths
import Ephemwork.Bastion.ConcurrentServer
import Ephemwork.Bastion.LengthOverflow
import Ephemwork.Bastion.BodyEnd
import Ephemwork.Bastion.PacketBoundaries
import Ephemwork.Bastion.HeadEnds
import Ephemwork.Bastion.LineEndings
import Ephemwork.Bastion.RequestCap
import Ephemwork.Laptop.BastionClient
import Ephemwork.Laptop.Delivery
import Ephemwork.Laptop.Rpc
import Ephemwork.Laptop.Config
import Ephemwork.Laptop.Identity
import Ephemwork.Laptop.Ssm
import Ephemwork.Laptop.State
import Ephemwork.Laptop.StateFile
import Ephemwork.Laptop.Commands
import Ephemwork.Laptop.FailedUp
import Ephemwork.Laptop.Headers
import Ephemwork.Laptop.UpResources
import Ephemwork.Laptop.Deployment
import Ephemwork.Laptop.Isolation
import Ephemwork.Laptop.CommandRuns
import Ephemwork.Laptop.CommandResults
import Ephemwork.Laptop.SessionFile
import Ephemwork.Laptop.ConcurrentUpdates
import Ephemwork.Laptop.ForwardLoops
import Ephemwork.Laptop.ForwardsAgree
import Ephemwork.Laptop.ForwardOwners
import Ephemwork.Laptop.SessionStore
import Ephemwork.Laptop.Bridge
import Ephemwork.Laptop.ReverseForward
import Ephemwork.Laptop.UpWatch
import Ephemwork.Laptop.BridgeTraffic
import Ephemwork.Laptop.BridgeEnds
import Ephemwork.Laptop.Runner
import Ephemwork.Laptop.HealthStatus
import Ephemwork.Laptop.LaunchPlan
import Ephemwork.Laptop.Base64
import Ephemwork.Laptop.Provisioner
import Ephemwork.Laptop.AwsProvisioner
import Ephemwork.Laptop.Account
import Ephemwork.Laptop.AwsSpecs
import Ephemwork.Laptop.LocalAws
import Ephemwork.Laptop.BastionInit
import Ephemwork.Laptop.OneBastion
import Ephemwork.Laptop.DestroyResumed
import Ephemwork.Laptop.VpcPin
import Ephemwork.Laptop.RoleRepair
import Ephemwork.Laptop.UserData
import Ephemwork.Laptop.EndpointIngress
import Ephemwork.Foundation.ShellSyntax
import Ephemwork.Foundation.ShellRuns
import Ephemwork.Laptop.RedeployScript
import Ephemwork.Foundation.TracedCalls
import Ephemwork.Laptop.DryRun
import Ephemwork.Foundation.Polling
import Ephemwork.Laptop.HealthWait
import Ephemwork.Laptop.RedeployDelivery
import Ephemwork.Laptop.RedeploySwap
