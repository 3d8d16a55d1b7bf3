import WatchBitmap.LogEvent

/-!
# Compiling resources

Each resource is generated by itself; one that fails is reported and touches no other.

* `Logged` — a result together with what was reported on the way to it.
* `ResourceDefinition.generate` — the object of one resource, from its picture.
* `Supply` — where pictures come from.  It may change with every picture that is asked for, so a
  state is passed through it.
* `compile` — the objects of a list of resources.
-/

namespace WatchBitmap

/-- A result, and the events that led to it. -/
structure Logged (α : Type) where
  result : α
  log : List LogEvent
deriving DecidableEq, Repr

namespace ResourceDefinition

/-- The object of a resource, encoded with given options. -/
def encodeObject (d : ResourceDefinition) (buffer : PixelBuffer) (options : EncodeOptions)
    (context : BuildContext) : Logged (Except ResourceError ResourceObject) :=
  match encoding buffer options with
  | .error cause => ⟨.error (.encode d.name cause), []⟩
  | .ok parts =>
      let data := parts.toBytes
      ⟨.ok ⟨d.name, data⟩, [parts.event, .generated d.name d.kind context.platform data.length]⟩

/-- **The object of a resource**, from its picture. -/
def generate (d : ResourceDefinition) (buffer : PixelBuffer) (context : BuildContext) :
    Logged (Except ResourceError ResourceObject) :=
  match d.encodeOptions context with
  | .error error => ⟨.error error, []⟩
  | .ok options => d.encodeObject buffer options context

end ResourceDefinition

/-- Where the pictures of resources come from.  The state is what the supply remembers. -/
abbrev Supply (σ : Type) :=
  ResourceDefinition → PixelMode → σ → Except DecodeError PixelBuffer × σ

/-- A supply that remembers nothing. -/
def Supply.ofFunction (f : ResourceDefinition → PixelMode → Except DecodeError PixelBuffer) :
    Supply Unit :=
  fun d mode state => (f d mode, state)

/-- Reports a failure after the events that led to it. -/
def Logged.withFailure (run : Logged (Except ResourceError ResourceObject)) :
    Logged (Except ResourceError ResourceObject) :=
  match run.result with
  | .ok _ => run
  | .error error => ⟨run.result, run.log ++ [.failed error]⟩

variable {σ : Type}

/-- Compiles one resource.  Its picture is asked for only once it is settled how to encode it. -/
def compileOne (supply : Supply σ) (context : BuildContext) (d : ResourceDefinition) (state : σ) :
    Logged (Except ResourceError ResourceObject) × σ :=
  match d.encodeOptions context with
  | .error error => (Logged.withFailure ⟨.error error, []⟩, state)
  | .ok options =>
      match supply d options.pixelMode state with
      | (.error cause, state) => (Logged.withFailure ⟨.error (.decode d.name cause), []⟩, state)
      | (.ok buffer, state) =>
          ((d.encodeObject buffer options context).withFailure, state)

/-- **Compiling a list of resources**: one result for each, in order, and all events. -/
def compile (supply : Supply σ) (context : BuildContext) :
    List ResourceDefinition → σ → Logged (List (Except ResourceError ResourceObject)) × σ
  | [], state => (⟨[], []⟩, state)
  | d :: ds, state =>
      let (one, state) := compileOne supply context d state
      let (rest, state) := compile supply context ds state
      (⟨one.result :: rest.result, one.log ++ rest.log⟩, state)

end WatchBitmap
