import Backbeat.Event
import Backbeat.Progress
import Backbeat.Producer
import Backbeat.Reader
import Backbeat.Batch
import Backbeat.Completion
import Backbeat.Run
import Backbeat.Backlog.Check
import Backbeat.Backlog.Publish
import Backbeat.Backlog.Paths
import Backbeat.Backlog.Snapshot
import Backbeat.Backlog.Measure
import Backbeat.Backlog.Runs
