import HandlePool.Expectation
import HandlePool.Proofs.Clients.Bound
import HandlePool.Proofs.Config.Loading
import HandlePool.Proofs.Facade.Apart
import HandlePool.Proofs.Facade.Building
import HandlePool.Proofs.Facade.Clearing
import HandlePool.Proofs.Facade.Deletion
import HandlePool.Proofs.Facade.Modes
import HandlePool.Proofs.Facade.Owners
import HandlePool.Proofs.Facade.Residency
import HandlePool.Proofs.Facade.Spellings
import HandlePool.Proofs.Path.Canonical
import HandlePool.Proofs.Pool.Causes
import HandlePool.Proofs.Pool.Conservation
import HandlePool.Proofs.Pool.Failure
import HandlePool.Script.Counters
import HandlePool.Script.Facade
import HandlePool.Script.Guard
import HandlePool.Script.Pool
import HandlePool.Script.Sharing
import HandlePool.Proofs.Pool.Residents
import HandlePool.Proofs.Pool.Sweeping
import HandlePool.Proofs.Facade.Reaching
import HandlePool.Proofs.Pool.Sharing
import HandlePool.Proofs.Script.Guard
import HandlePool.Proofs.FileHandle.Lifetime
import HandlePool.Proofs.Config.Partial
import HandlePool.Proofs.Counters.Figures
