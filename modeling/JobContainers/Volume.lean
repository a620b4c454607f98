set_option autoImplicit false

namespace JobContainers.Volume

def jobs : String := "/var/vcap/jobs"

def renderingData : String := "/var/vcap/all-releases"

def sys : String := "/var/vcap/sys"

def sysName : String := "sys-dir"

/-- One stamp for each job that has drained. -/
def drainStamps : String := "/mnt/drain-stamps"

def job (name : String) : String := jobs ++ "/" ++ name

end JobContainers.Volume
