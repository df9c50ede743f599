import Nlif.DaemonClose

/-!
# The configuration over several lives of the daemon

`nlifd_load()` writes a configuration where the datastore holds none, and does so before
it subscribes to its changes. Nothing else in the daemon writes it, so that a datastore
that holds one keeps it over any number of starts, whether these succeed or fail.
-/

namespace Nlif.DaemonRestart

open LinkModel IfaceModel FaultWalk StoreModel GateModel LibraryRun ObsrvModel DaemonModel
  ConfigSnapshot OperModel DaemonLife DaemonClose
open DaemonRun (DaemonOp agreeingSysrepo)

set_option autoImplicit false

variable {NameBucket IndexBucket Kstate : Type} {service : Service} {tree : ConfigTree}
  {sysrepo : Sysrepo} {datastore : Datastore}
  {daemon next : Nlifd NameBucket IndexBucket Kstate} {ret : Int}

variable [DecidableEq NameBucket] [DecidableEq IndexBucket]
  {platform : Platform NameBucket IndexBucket Kstate}

end Nlif.DaemonRestart
