/-
# The secure root of a node

The lookup of a node's directory with the settings of a provider, which are read anew for every
lookup.
-/
import Keystore.Lookup
import Keystore.Provider

namespace Keystore

/-- The lookup of an identity with the settings that a provider has now. -/
def secureRoot (fs : FileSystem) (src : Sources) (identity : Identity) (p : Provider)
    (allocate : String → Except AllocationFault String) : Resolution :=
  let config := p.read src
  let r := resolve fs identity config.value allocate
  { r with events := config.events ++ r.events }

end Keystore
