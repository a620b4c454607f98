import JobContainers.Linking
import JobContainers.Rendering

set_option autoImplicit false

namespace JobContainers

def Job.withRelease (job : Job) (m : Manifest) : Job :=
  if m.hasRelease job.release then
    { job with resolved := { job.resolved with release := some job.release } }
  else job

namespace Manifest

def gatherJob (m : Manifest) (files : FileTree) (l : Linking) (job : Job) :
    Except CompileError (Job × List Warning) :=
  match l.resolveJob (job.withRelease m) with
  | (_, some e) => .error e
  | (job, none) => job.render l.specs files m.name

/-- Gathers jobs in order. Warnings about jobs before a fault are kept. -/
def gatherJobs (m : Manifest) (files : FileTree) (l : Linking) :
    List Job → Except CompileError (List Job) × List Warning
  | [] => (.ok [], [])
  | job :: jobs =>
    match m.gatherJob files l job with
    | .error e => (.error e, [])
    | .ok (job, warnings) =>
      let (rest, more) := m.gatherJobs files l jobs
      (rest.map (job :: ·), warnings ++ more)

def gather (m : Manifest) (cluster : Cluster) (files : FileTree) (group : String) :
    Except CompileError (List Job) × List Warning :=
  match Linking.empty.collect cluster files m with
  | (_, _, some e) => (.error e, [])
  | (l, collected, none) =>
    match collected.group? group with
    | none => (.error (.groupNotFound group), [])
    | some g => m.gatherJobs files l g.jobs

end Manifest

end JobContainers
