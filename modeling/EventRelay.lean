import EventRelay.Main
import EventRelay.Session
import EventRelay.Proofs.Listener.Calls
import EventRelay.Proofs.Listener.Steps
import EventRelay.Proofs.Listener.Balance
import EventRelay.Proofs.Listener.Laws
import EventRelay.Proofs.Listener.Lifetime
import EventRelay.Proofs.Listener.Custody
import EventRelay.Proofs.Listener.Disposal
import EventRelay.Proofs.Listener.Starts
import EventRelay.Proofs.Relay.Execution
import EventRelay.Proofs.Relay.Segments
import EventRelay.Proofs.Relay.Calls
import EventRelay.Proofs.Registry
import EventRelay.Proofs.Relay.Roster
import EventRelay.Proofs.Relay.Mirror
import EventRelay.Proofs.Relay.Upkeep
import EventRelay.Proofs.Relay.Enrolment
import EventRelay.Proofs.Relay.Delivery
import EventRelay.Proofs.Session
import EventRelay.Proofs.Mqtt.Subscription
import EventRelay.Proofs.Registry.Sharing
import EventRelay.Proofs.Registry.Steps
import EventRelay.Proofs.Basic
import EventRelay.Proofs.Registry.Balance
import EventRelay.Proofs.Registry.Closing
import EventRelay.Proofs.Registry.Turns
import EventRelay.Proofs.Json.Integers
import EventRelay.Proofs.Json.Members
import EventRelay.Proofs.Json.Values
import EventRelay.Proofs.Message.Carrying
import EventRelay.Proofs.Mqtt.Attempts
import EventRelay.Proofs.Mqtt.Closing
import EventRelay.Proofs.Json.Records
import EventRelay.Proofs.Message.Reading
import EventRelay.Proofs.Message.Handling
import EventRelay.Proofs.Mqtt.Receivers
import EventRelay.Proofs.Mqtt.Polling
import EventRelay.Proofs.Registrations
import EventRelay.Proofs.Memory.Operations
import EventRelay.Proofs.Memory.Following
import EventRelay.Proofs.Mqtt.Deliveries
import EventRelay.Proofs.Json.Wellformed
import EventRelay.Proofs.Mqtt.Lingering
import EventRelay.Proofs.Mqtt.Abandoning
import EventRelay.Proofs.Relay.Letting
import EventRelay.Proofs.Relay.Alignment
import EventRelay.Proofs.Relay.Operating
import EventRelay.Proofs.Relay.Dropping
import EventRelay.Proofs.Message.Logging
import EventRelay.Proofs.Message.Fallback
import EventRelay.Proofs.Json.Passing
import EventRelay.Proofs.Json.Trees
import EventRelay.Proofs.Json.Meaning
import EventRelay.Proofs.Json.Agreement
import EventRelay.Proofs.Json.RecordTrees
import EventRelay.Proofs.Json.Rearranging
import EventRelay.Proofs.Message.Rearranging
import EventRelay.Proofs.Server.Config
import EventRelay.Proofs.Listener.Retrying
