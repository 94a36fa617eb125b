/-! The deployment environment the program runs in. -/

namespace MediaTimeline

def localDeployment : String := "local"

def productionDeployment : String := "production"

def testingDeployment : String := "testing"

/-- The environment a configured name selects. -/
def deploymentOf (configured : String) : String :=
  if configured.isEmpty then localDeployment else configured

end MediaTimeline
