import HostNet.Program.Runner
import HostNet.Report.Error
import HostNet.Worker

namespace HostNet

instance : Report Program.StartError where
  report e := reportMembers (failure "Io" e.message)

instance : Report WorkerError where
  report e := reportMembers (failure "Io" e.message)

end HostNet
