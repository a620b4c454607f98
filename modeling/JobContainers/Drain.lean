import JobContainers.Decimal
import JobContainers.Kube.Probe
import JobContainers.Shell
import JobContainers.Volume

/-!
How the containers of a pod leave together. The first container of a job drains the job and then
leaves a stamp named after it; every container, that one included, goes only when there are as many
stamps as jobs that run. The hooks are shell scripts.
-/

set_option autoImplicit false

namespace JobContainers

/-- What a container does before it stops, with the number of stamps it waits for. -/
inductive DrainHook where
  | leader (job : String) (stamps : Nat)
  | follower (stamps : Nat)
  deriving DecidableEq

namespace DrainHook

open Shell

def stampPath (job : String) : String := Volume.drainStamps ++ "/" ++ job

def drainPath (job : String) : String := Volume.job job ++ "/bin/drain"

def echo (text : String) (rest : Script) : Script :=
  .command (.call "echo" [.inQuotes text]) rest

def leave (stamps : Nat) (code : Word) (rest : Script) : Script :=
  .shortLoop
    (.fewerEntries (.bare Volume.drainStamps) (.bare (.ofList (Decimal.digitText stamps))))
    (.call "sleep" [.bare "5"])
    (.command (.call "exit" [code]) rest)

def stamp (job : String) (stamps : Nat) : Script :=
  .command (.call "touch" [.bare (stampPath job)]) <|
  echo "Waiting for other drain scripts to finish." <|
  leave stamps (.inQuotes "$e") .finish

def waitExit (job : String) (stamps : Nat) : Script :=
  .command (.assign "e" (.inQuotes "$1")) (stamp job stamps)

def callWaitExit (code : Word) : Script := .command (.call "waitExit" [code]) .finish

def failed : Script :=
  echo "$s FAILED with exit code $status" (callWaitExit (.bare "$status"))

def dynamicWait : Script :=
  echo "Sleeping dynamic draining wait time for $s..." <|
  .command (.call "sleep" [.bare "$\x7bout:1\x7d"]) <|
  echo "Running $s again" .finish

def staticWait : Script :=
  echo "Sleeping static draining wait time for $s..." <|
  .command (.call "sleep" [.bare "$out"]) <|
  echo "$s done" (callWaitExit (.bare "0"))

def checkOutput : Script :=
  .blank <|
  .choice (.compares .less (.inQuotes "$out") (.inQuotes "0")) dynamicWait staticWait .finish

def checkStatus : Script :=
  .choice (.compares .differs (.inQuotes "$status") (.inQuotes "0")) failed .finish checkOutput

/-- Runs the drain script once, and ends unless it is to be run again. -/
def round : Script :=
  .command (.capture "out" (.bare "$s")) <|
  .command (.assign "status" (.bare "$?")) <|
  .blank checkStatus

def rounds : Script := .loop .always round (echo "Done" .finish)

def guarded (job : String) : Script :=
  .choice (.notExecutable (.inQuotes "$s")) (callWaitExit (.bare "0")) .finish
    (echo ("Running drain script $s for " ++ job) rounds)

def program : DrainHook → Script
  | leader job stamps =>
    .blank <|
    .command (.call "shopt" [.bare "-s", .bare "nullglob"]) <|
    .function "waitExit" (waitExit job stamps) <|
    .command (.assign "s" (.inQuotes (drainPath job))) (guarded job)
  | follower stamps =>
    .blank <|
    echo "Wait for drain scripts in other containers to finish" <|
    leave stamps (.bare "0") <|
    echo "Done" <|
    .blank .finish

def script (h : DrainHook) : String := h.program.text

def handler (h : DrainHook) : Handler := ⟨some ⟨["/bin/sh", "-c", h.script]⟩⟩

end DrainHook

end JobContainers
