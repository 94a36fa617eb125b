/-! The build's version record. -/

namespace MediaTimeline.Cli

/-- What a build says about itself. -/
structure VersionInfo where
  version : String := "dev"
  commit : String := "unknown"
  built : String := "unknown"
deriving Inhabited

/-- The platform a build runs on: toolchain version, operating system and architecture. -/
structure Platform where
  toolchain : String
  os : String
  arch : String
deriving Inhabited

def VersionInfo.fields (v : VersionInfo) (p : Platform) : List (String × String) :=
  [("version", v.version), ("git_commit", v.commit), ("build_date", v.built),
    ("go_version", p.toolchain), ("os", p.os), ("arch", p.arch)]

def VersionInfo.text (v : VersionInfo) (p : Platform) : String :=
  "TAMS " ++ v.version ++ "\n" ++ "  Git commit: " ++ v.commit ++ "\n" ++
    "  Built:      " ++ v.built ++ "\n" ++ "  Go version: " ++ p.toolchain ++ "\n" ++
    "  OS/Arch:    " ++ p.os ++ "/" ++ p.arch ++ "\n"

end MediaTimeline.Cli
