import ZigbeeGateway.Gateway.Devices
import ZigbeeGateway.Gateway.Reports
import ZigbeeGateway.Gateway.Writes
import ZigbeeGateway.Proofs.Catalog.Handles
import ZigbeeGateway.Proofs.Events.Subscriptions
import ZigbeeGateway.Proofs.Gateway.Announcing
import ZigbeeGateway.Proofs.Gateway.Atomicity
import ZigbeeGateway.Proofs.Gateway.Bindings
import ZigbeeGateway.Proofs.Gateway.Canonical
import ZigbeeGateway.Proofs.Gateway.Commuting
import ZigbeeGateway.Proofs.Gateway.Confirmations
import ZigbeeGateway.Proofs.Gateway.Deletion
import ZigbeeGateway.Proofs.Gateway.Etags
import ZigbeeGateway.Proofs.Gateway.Expiry
import ZigbeeGateway.Proofs.Gateway.Issuing
import ZigbeeGateway.Proofs.Gateway.LightInputs
import ZigbeeGateway.Proofs.Gateway.Links
import ZigbeeGateway.Proofs.Gateway.Offset
import ZigbeeGateway.Proofs.Gateway.OffsetRoutes
import ZigbeeGateway.Proofs.Gateway.Outcomes
import ZigbeeGateway.Proofs.Gateway.PartialFailure
import ZigbeeGateway.Proofs.Gateway.Permanence
import ZigbeeGateway.Proofs.Gateway.Privacy
import ZigbeeGateway.Proofs.Gateway.Recording
import ZigbeeGateway.Proofs.Gateway.Recovery
import ZigbeeGateway.Proofs.Gateway.Routing
import ZigbeeGateway.Proofs.Registry.Numbers
import ZigbeeGateway.Proofs.Resource.ChangeHistory
import ZigbeeGateway.Proofs.Resource.Combinations
import ZigbeeGateway.Proofs.Resource.Course
import ZigbeeGateway.Proofs.Resource.EtagBytes
import ZigbeeGateway.Proofs.Resource.ItemHistory
import ZigbeeGateway.Proofs.Resource.Stranding
import ZigbeeGateway.Proofs.Setup.Applied
import ZigbeeGateway.Proofs.Setup.Pattern
import ZigbeeGateway.Proofs.Storage.Rows
import ZigbeeGateway.Proofs.Value.Json
