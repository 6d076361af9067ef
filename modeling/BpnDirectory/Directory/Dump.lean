import BpnDirectory.Collection.OrderedMap
import BpnDirectory.Json.Writer

namespace BpnDirectory

/-!
The dump of the directory.

The dump is the map from BPNs to DIDs as one JSON object whose members stand in
the order of their keys.  Clients that keep a copy of the directory fetch it
in compressed form; since compression loses nothing, the text stands for it.
-/

def Dump.data (entries : OrderedMap String) : Json.Data :=
  .fields (entries.entries.map fun entry => (entry.1, .string entry.2))

def Dump.write (entries : OrderedMap String) : String :=
  (Dump.data entries).toText

/-- A dump that was built.  Every build has a number of its own, so two builds of
the same text can be told apart. -/
structure Dump where
  text : String
  build : Nat
  deriving DecidableEq, Repr

end BpnDirectory
