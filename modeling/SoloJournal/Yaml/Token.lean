/-!
# YAML tokens

The marks and words of a YAML text, together with the begin and end of the
block collections that its indentation implies.
-/

namespace SoloJournal.Yaml

inductive Token where
  | version (major minor : Nat)
  | tagPrefix (handle : String) (bytes : List UInt8)
  | documentStart
  | documentEnd
  | textEnd
  | blockSequenceStart
  | blockMappingStart
  | blockEnd
  | flowSequenceStart
  | flowSequenceEnd
  | flowMappingStart
  | flowMappingEnd
  | blockEntry
  | flowEntry
  | key
  | value
  | alias (name : String)
  | anchor (name : String)
  | tag (handle : String) (bytes : List UInt8)
  | scalar (text : String) (plain : Bool)
  deriving DecidableEq

end SoloJournal.Yaml
