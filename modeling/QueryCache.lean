import QueryCache.Config.Source
import QueryCache.Log.Startup
import QueryCache.Proofs.Session.Freshness
import QueryCache.Proofs.Session.Transparency
import QueryCache.Proofs.Staging.Crowd
import QueryCache.Proofs.Staging.Exact
import QueryCache.Scenario.Run
import QueryCache.Proofs.Session.Course
import QueryCache.Proofs.Session.Effect
import QueryCache.Proofs.Session.Marks
import QueryCache.Proofs.Session.Staged
import QueryCache.Proofs.Session.Publication
import QueryCache.Proofs.Stack.Holding
import QueryCache.Proofs.Session.Locks
import QueryCache.Proofs.Stack.Usage
import QueryCache.Proofs.Stack.Bounds
import QueryCache.Proofs.Stack.Answers
import QueryCache.Proofs.Stack.Exclusion
import QueryCache.Proofs.Session.Repeats
import QueryCache.Proofs.Session.Identity
import QueryCache.Proofs.Staging.Clears
import QueryCache.Proofs.Session.Barrier
import QueryCache.Proofs.Session.Deliveries
import QueryCache.Proofs.Session.Closed
import QueryCache.Proofs.Session.Environments
import QueryCache.Proofs.Config.Loading
import QueryCache.Proofs.Config.Inheritance
import QueryCache.Proofs.Stack.Heedless
import QueryCache.Proofs.Stack.Whole
import QueryCache.Proofs.Registry.Growth
import QueryCache.Proofs.Registry.Separation
import QueryCache.Proofs.Stack.Recency
import QueryCache.Proofs.Stack.Sweep
import QueryCache.Proofs.Stack.Tracking
import QueryCache.Proofs.Stack.Reclaim
import QueryCache.Proofs.Stack.Room
import QueryCache.Proofs.Stack.Lineup
import QueryCache.Proofs.Stack.Strays
import QueryCache.Proofs.Stack.Evictions
import QueryCache.Proofs.Key.Sequences
import QueryCache.Proofs.Key.Weights
import QueryCache.Proofs.Staging.Lookups
import QueryCache.Proofs.Session.Failing
import QueryCache.Proofs.Session.Replay
import QueryCache.Proofs.Stack.Rounds
import QueryCache.Proofs.Stack.Traffic
import QueryCache.Proofs.Stack.Hits
