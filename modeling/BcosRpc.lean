import BcosRpc.Machine.Basic
import BcosRpc.Event.Filter
import BcosRpc.Event.Matching
import BcosRpc.Event.Retry
import BcosRpc.Event.Queues
import BcosRpc.Event.Cancel
import BcosRpc.Event.Range
import BcosRpc.Event.Window
import BcosRpc.Event.Advance
import BcosRpc.Event.Final
import BcosRpc.Event.Finishing
import BcosRpc.Event.Acknowledged
import BcosRpc.Event.Confined
import BcosRpc.Event.Slots
import BcosRpc.Event.Atomic
import BcosRpc.Amop.Topics
import BcosRpc.Amop.Disconnect
import BcosRpc.Amop.Request
import BcosRpc.Amop.Gateway
import BcosRpc.Amop.Choice
import BcosRpc.Group.Select
import BcosRpc.Group.Latest
import BcosRpc.Group.Heights
import BcosRpc.Group.Registry
import BcosRpc.Group.Sweep
import BcosRpc.JsonRpc.Answers
import BcosRpc.JsonRpc.Errors
import BcosRpc.JsonRpc.Identity
import BcosRpc.JsonRpc.Decoders
import BcosRpc.JsonRpc.Peers
import BcosRpc.JsonRpc.Rejection
import BcosRpc.JsonRpc.Explained
import BcosRpc.JsonRpc.Lookup
import BcosRpc.Event.Cleanup
import BcosRpc.Rpc.Blocks
import BcosRpc.Rpc.Services
import BcosRpc.Rpc.NodeService
import BcosRpc.Amop.Notification
import BcosRpc.Event.Overflow
import BcosRpc.Event.Delivery
import BcosRpc.Rpc.LocalGroup
