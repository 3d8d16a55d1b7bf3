import Mathlib.Tactic.Common
import WatchBitmap.Host
import WatchBitmap.Png
import WatchBitmap.Proofs.Isolation

/-!
# A host compiles as a build does

A host compiles one resource at a time, along a path of its own.  It settles the options to learn
which form of the picture to decode, wraps a failure of the decoder by itself, and has the options
settled once more when the resource is generated.  None of this shows: each stage fails where the
stage of a run over this one resource fails, with the same error.

Neither the decoder nor what reads a declaration is looked into.  The decoder may be that of any
library (`PictureLibrary.decode`), the one for PNG files (`Png.decode`) among them, and the
declaration may come from JSON text (`Host.readDefinition`) or from elsewhere.

* `Host.soleRun` — that run: the stock platforms, and one file for whatever is asked for.
* `Host.exists_soleRun` — a host's result is the run's, the object reduced to its blob.
* `Host.Call`, `Host.call_compileResource` — **what a call gives back and writes to the console.**
* `Host.refines_compile` — both, with the console counted.
-/

namespace WatchBitmap.Host

/-- The results of a run over one resource, if there is one file to decode. -/
def soleRun (decoder : Decoder) (png : List UInt8) (platform : String) (d : ResourceDefinition) :
    List (Except ResourceError ResourceObject) :=
  (compile (.ofPicture (decoder png)) ⟨platform, .stock⟩ [d] ()).1.result

/-- **A host's result is that of the run**, stage by stage. -/
theorem exists_soleRun (decoder : Decoder) (d : ResourceDefinition) (png : List UInt8)
    (platform : String) :
    ∃ result, soleRun decoder png platform d = [result] ∧
      compileDefinition decoder d png platform = result.map ResourceObject.data := by
  refine ⟨_, result_compile_ofPicture _ _ d, ?_⟩
  rw [compileDefinition]
  cases hoptions : d.encodeOptions ⟨platform, .stock⟩ with
  | error error => rfl
  | ok options =>
      simp only [bind, Except.bind, ResourceDefinition.generate_of_encodeOptions hoptions]
      cases decoder png options.pixelMode with
      | error cause => rfl
      | ok b =>
          simp only [Except.mapError]
          cases (d.encodeObject b options ⟨platform, .stock⟩).result with
          | error error => rfl
          | ok object => rfl

/-- **What a call can come to**: the declaration could not be read, or it could, and then the run
decides.  One message is written for a failed run, and none otherwise. -/
inductive Call (decoder : Decoder) (definition : Except String ResourceDefinition)
    (png : List UInt8) (platform : String) : Outcome (List UInt8) → Prop
  | unreadable {text : String} (hdefinition : definition = .error text) :
      Call decoder definition png platform ⟨.error (.invalidDefinition text), []⟩
  | failed {d : ResourceDefinition} {error : ResourceError} (hdefinition : definition = .ok d)
      (hrun : soleRun decoder png platform d = [.error error]) :
      Call decoder definition png platform ⟨.error (.resource error), [error.message]⟩
  | compiled {d : ResourceDefinition} {object : ResourceObject} (hdefinition : definition = .ok d)
      (hrun : soleRun decoder png platform d = [.ok object]) :
      Call decoder definition png platform ⟨.ok object.data, []⟩

theorem call_compileResource (decoder : Decoder) (definition : Except String ResourceDefinition)
    (png : List UInt8) (platform : String) :
    Call decoder definition png platform (compileResource decoder definition png platform) := by
  cases definition with
  | error text => exact .unreadable rfl
  | ok d =>
      obtain ⟨result, hrun, hcompile⟩ := exists_soleRun decoder d png platform
      simp only [compileResource, hcompile]
      cases result with
      | error error => exact .failed rfl hrun
      | ok object => exact .compiled rfl hrun

lemma Call.length_console_eq_one_iff {decoder : Decoder}
    {definition : Except String ResourceDefinition} {png : List UInt8} {platform : String}
    {outcome : Outcome (List UInt8)} (h : Call decoder definition png platform outcome) :
    outcome.console.length = 1 ↔ ∃ d error, definition = .ok d ∧
      soleRun decoder png platform d = [.error error] := by
  cases h with
  | unreadable hdefinition => simp [hdefinition]
  | failed hdefinition hrun => exact ⟨fun _ => ⟨_, _, hdefinition, hrun⟩, fun _ => rfl⟩
  | compiled hdefinition hrun => simp [hdefinition, hrun]

/-- **A host compiles as a build does**, whatever decodes and whatever reads the declaration.  Its
result is that of a run over the one resource, with the blob for the object: the same bytes, or the
same error about the same resource.  A call reports this result, and it writes one message to the
console exactly if the declaration could be read and the run fails. -/
theorem refines_compile (decoder : Decoder) (png : List UInt8) (platform : String) :
    (∀ d, (soleRun decoder png platform d).map (Except.map ResourceObject.data)
      = [compileDefinition decoder d png platform]) ∧
    ∀ definition : Except String ResourceDefinition,
      Call decoder definition png platform (compileResource decoder definition png platform) ∧
      ((compileResource decoder definition png platform).console.length = 1 ↔
        ∃ d error, definition = .ok d ∧ soleRun decoder png platform d = [.error error]) := by
  constructor
  · intro d
    obtain ⟨result, hrun, hcompile⟩ := exists_soleRun decoder d png platform
    rw [hrun, hcompile, List.map_singleton]
  · intro definition
    have hcall := call_compileResource decoder definition png platform
    exact ⟨hcall, hcall.length_console_eq_one_iff⟩

/-- A declaration in JSON, and a file that is not a PNG file. -/
example :
    (compileResource (Png.decode fun _ => "")
      (readDefinition (fun _ => "")
        "\x7b\"name\":\"IMAGE_X\",\"type\":\"pbi\",\"file\":\"x.png\"\x7d")
      [0x42, 0x4d] "aplite").console
      = ["resource IMAGE_X: Invalid or unsupported image format"] := by
  decide +kernel

end WatchBitmap.Host
