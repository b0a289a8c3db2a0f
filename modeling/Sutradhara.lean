import Sutradhara.Intake.Assembled
import Sutradhara.Intake.Registered
import Sutradhara.Receive.Exclusive
import Sutradhara.Receive.Projection
import Sutradhara.Evidence.Backing
import Sutradhara.Journal.Removal
import Sutradhara.Journal.Binding
import Sutradhara.Archive.Sealed
import Sutradhara.Archive.Owner
import Sutradhara.Archive.Staging
import Sutradhara.Archive.FlushMap
import Sutradhara.Reconcile.Sticky
import Sutradhara.Replication.Overwritten
import Sutradhara.Restore.Ordering
import Sutradhara.Restore.BlobCache
import Sutradhara.Restore.Ladder
import Sutradhara.Api.Replay
import Sutradhara.Grpc.Identity
import Sutradhara.Grpc.OneTime
import Sutradhara.Grpc.Streams
import Sutradhara.Backend.Conservation
import Sutradhara.Hdcache.Relocation
import Sutradhara.Hdcache.DeadDisk
import Sutradhara.Hdcache.Reader
import Sutradhara.Hdcache.Repopulation
import Sutradhara.Hdcache.EntryName
import Sutradhara.Hdcache.Placement
import Sutradhara.Keys.Exclusive
import Sutradhara.Jobs.Leases
import Sutradhara.Jobs.Obligations
