import Pactix.Guarantees.Accounting
import Pactix.Guarantees.Batches
import Pactix.Guarantees.Consumption
import Pactix.Guarantees.Dialects
import Pactix.Guarantees.Effects
import Pactix.Guarantees.Failures
import Pactix.Guarantees.Fairness
import Pactix.Guarantees.Keys
import Pactix.Guarantees.Ordering
import Pactix.Guarantees.Partitions
import Pactix.Guarantees.Outcomes
import Pactix.Guarantees.Passes
import Pactix.Guarantees.Polling
import Pactix.Guarantees.Progress
import Pactix.Guarantees.Receipts
import Pactix.Guarantees.Relays
import Pactix.Guarantees.Requests
import Pactix.Guarantees.Rows
import Pactix.Guarantees.Schedule
import Pactix.Guarantees.Sequences
import Pactix.Guarantees.Signals
import Pactix.Guarantees.Storage
import Pactix.Guarantees.Transport
import Pactix.Guarantees.Wakeups
import Pactix.Wakeup.Serving
