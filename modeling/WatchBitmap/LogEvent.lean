import WatchBitmap.Encode
import WatchBitmap.Resource

/-!
# Log events

What a build reports while it runs.  An event keeps what it is about; `LogEvent.text` words it.
-/

namespace WatchBitmap

/-- Something that a build reports. -/
inductive LogEvent where
  /-- A picture was encoded, into so many bytes. -/
  | encoded (header : Header) (size : Nat)
  /-- A resource was generated, of so many bytes. -/
  | generated (name : String) (kind : ResourceKind) (platform : String) (size : Nat)
  /-- A resource could not be generated. -/
  | failed (error : ResourceError)
deriving DecidableEq, Repr

namespace LogEvent

/-- How much attention an event calls for. -/
def level : LogEvent → String
  | encoded _ _ => "DEBUG"
  | generated _ _ _ _ => "DEBUG"
  | failed _ => "WARN"

/-- A key in a log line. -/
def keyText : Option ColorKey → String
  | none => "None"
  | some key => "Some(" ++ key.label ++ ")"

/-- A truth value in a log line. -/
def boolText (b : Bool) : String :=
  if b then "true" else "false"

/-- The wording of an event. -/
def text : LogEvent → String
  | encoded header size =>
      "encoded " ++ toString header.width.toNat ++ "x" ++ toString header.height.toNat ++ " "
        ++ header.format.name ++ " (palette " ++ toString header.paletteSize.toNat ++ ", key "
        ++ keyText header.colorKey ++ ", rle " ++ boolText header.isCompressed ++ ") -> "
        ++ toString size ++ " bytes"
  | generated name kind platform size =>
      "generated " ++ name ++ " (" ++ kind.name ++ ") for " ++ platform ++ ": "
        ++ toString size ++ " bytes"
  | failed error => error.message

/-- An event as a line of the log. -/
def line (event : LogEvent) : String :=
  event.level ++ " " ++ event.text

end LogEvent

/-- What encoding a picture reports. -/
def Encoding.event (e : Encoding) : LogEvent :=
  .encoded e.header e.toBytes.length

end WatchBitmap
