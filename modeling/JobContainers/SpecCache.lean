import JobContainers.CompileError
import JobContainers.JobSpec
import JobContainers.Registry

set_option autoImplicit false

namespace JobContainers

structure JobSource where
  release : String
  job : String
  deriving DecidableEq

namespace JobSource

def folder (s : JobSource) (base : String) : String :=
  ["jobs-src", s.release, s.job].foldl FileName.join base

def specPath (s : JobSource) (base : String) : String := FileName.join (s.folder base) "job.MF"

def templatePath (s : JobSource) (base template : String) : String :=
  ["templates", template].foldl FileName.join (s.folder base)

def fault (s : JobSource) (cause : SpecFault) : CompileError := .specLoad s.release s.job cause

def readSpec (s : JobSource) (files : FileTree) : Except CompileError JobSpec :=
  let path := s.specPath files.base
  match files.readText path with
  | .error cause => .error (s.fault (.unreadable path cause))
  | .ok text => (JobSpec.ofDocument text).mapError fun cause => s.fault (.document cause)

end JobSource

abbrev SpecCache := Registry JobSpec

namespace SpecCache

/-- The specification of a job, with the cache that keeps it. -/
def load (c : SpecCache) (files : FileTree) (release job : String) :
    Except CompileError (JobSpec × SpecCache) :=
  match c.get? (release, job) with
  | some spec => .ok (spec, c)
  | none => (JobSource.readSpec ⟨release, job⟩ files).map fun spec =>
    (spec, c.add (release, job) spec)

def collected (c : SpecCache) (release job : String) : Except CompileError JobSpec :=
  match c.get? (release, job) with
  | some spec => .ok spec
  | none => .error (.specLoad release job .notCollected)

end SpecCache

end JobContainers
