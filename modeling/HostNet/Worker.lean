namespace HostNet

inductive WorkerError where
  -- A name cannot hold the character that ends texts.
  | name
  -- The work gave up.
  | gaveUp
deriving DecidableEq, Repr

def WorkerError.message : WorkerError → String
  | .name => "thread name may not contain interior null bytes"
  | .gaveUp => "pinned thread panicked"

-- Runs work on a worker, whose name the work sees. Work without a result gave up.
def runPinned (name : String) (work : String → Option α) : Except WorkerError α :=
  if name.toList.contains '\x00' then .error .name
  else match work name with
    | some a => .ok a
    | none => .error .gaveUp

end HostNet
