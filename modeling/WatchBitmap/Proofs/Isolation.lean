import Mathlib.Tactic.Common
import WatchBitmap.Compile
import WatchBitmap.Proofs.Reading

/-!
# Failures are isolated

A run over a list of resources takes one turn for each of them.  A turn can fail in three places:
the declaration is refused, there is no picture, or the picture cannot be encoded.  Wherever it
fails, the next turn is taken all the same, and all that a turn leaves behind for the next one is
what the supply remembers.  So results, log and requests stay aligned with the declarations, in runs
of any length.

* `Turn`, `turn_compileOne` — **what one turn can do**, case by case.
* `Account`, `account_compile` — results and log, resource by resource.
* `Supply.recorded`, `compile_recorded` — which pictures are asked for.
* `Supply.Stateless`, `compile_alone` — a supply without a memory, and what follows for one
  resource.
* `Supply.ofPicture`, `result_compile_ofPicture` — one picture, and a run over one resource.
* `isolated_compile` — **a run isolates failures.**
-/

namespace WatchBitmap

variable {σ : Type}

/-! ## One turn -/

/-- **What one turn can do.**  The supply is asked in the last three cases, once, and in each case
the log of the turn says what became of it. -/
inductive Turn (supply : Supply σ) (context : BuildContext) (d : ResourceDefinition) (state : σ) :
    Logged (Except ResourceError ResourceObject) × σ → Prop
  | refused {error : ResourceError} (hoptions : d.encodeOptions context = .error error) :
      Turn supply context d state (⟨.error error, [.failed error]⟩, state)
  | undecoded {options : EncodeOptions} {cause : DecodeError} {state' : σ}
      (hoptions : d.encodeOptions context = .ok options)
      (hsupply : supply d options.pixelMode state = (.error cause, state')) :
      Turn supply context d state
        (⟨.error (.decode d.name cause), [.failed (.decode d.name cause)]⟩, state')
  | unencoded {options : EncodeOptions} {b : PixelBuffer} {cause : EncodeError} {state' : σ}
      (hoptions : d.encodeOptions context = .ok options)
      (hsupply : supply d options.pixelMode state = (.ok b, state'))
      (hencoding : encoding b options = .error cause) :
      Turn supply context d state
        (⟨.error (.encode d.name cause), [.failed (.encode d.name cause)]⟩, state')
  | generated {options : EncodeOptions} {b : PixelBuffer} {parts : Encoding} {state' : σ}
      (hoptions : d.encodeOptions context = .ok options)
      (hsupply : supply d options.pixelMode state = (.ok b, state'))
      (hencoding : encoding b options = .ok parts) :
      Turn supply context d state
        (⟨.ok ⟨d.name, parts.toBytes⟩,
          [parts.event, .generated d.name d.kind context.platform parts.toBytes.length]⟩, state')

theorem turn_compileOne (supply : Supply σ) (context : BuildContext) (d : ResourceDefinition)
    (state : σ) : Turn supply context d state (compileOne supply context d state) := by
  rw [compileOne]
  cases hoptions : d.encodeOptions context with
  | error error => exact .refused hoptions
  | ok options =>
      rcases hsupply : supply d options.pixelMode state with ⟨cause | b, state'⟩
      · simp only [hsupply]
        exact .undecoded hoptions hsupply
      · simp only [hsupply, ResourceDefinition.encodeObject]
        cases hencoding : encoding b options with
        | error cause => exact .unencoded hoptions hsupply hencoding
        | ok parts => exact .generated hoptions hsupply hencoding

/-! ## Results and log -/

/-- **What is written to the log for one resource**, line by line, with its result: two lines about
the blob, or a warning with the error's text. -/
inductive Block (context : BuildContext) (d : ResourceDefinition) :
    Except ResourceError ResourceObject → List String → Prop
  | generated {data : List UInt8} {image : Image} (hread : Image.read data = .ok image) :
      Block context d (.ok ⟨d.name, data⟩)
        [(LogEvent.encoded image.header data.length).line,
          (LogEvent.generated d.name d.kind context.platform data.length).line]
  | failed (error : ResourceError) : Block context d (.error error) ["WARN " ++ error.message]

/-- **Results and log of a run**, resource by resource. -/
inductive Account (context : BuildContext) : List ResourceDefinition →
    List (Except ResourceError ResourceObject) → List String → Prop
  | nil : Account context [] [] []
  | cons {d : ResourceDefinition} {ds : List ResourceDefinition}
      {result : Except ResourceError ResourceObject}
      {results : List (Except ResourceError ResourceObject)} {block lines : List String}
      (hblock : Block context d result block) (hrest : Account context ds results lines) :
      Account context (d :: ds) (result :: results) (block ++ lines)

variable {supply : Supply σ} {context : BuildContext}

lemma exists_read_of_encoding {b : PixelBuffer} {options : EncodeOptions} {parts : Encoding}
    (h : encoding b options = .ok parts) :
    ∃ image, Image.read parts.toBytes = .ok image ∧ image.header = parts.header := by
  obtain ⟨key, format, hdim, -, hsettles, rfl⟩ := encoding_eq_ok h
  exact ⟨_, Image.read_encodingFor hdim hsettles _, rfl⟩

lemma Turn.block {d : ResourceDefinition} {state : σ}
    {turn : Logged (Except ResourceError ResourceObject) × σ}
    (h : Turn supply context d state turn) :
    Block context d turn.1.result (turn.1.log.map LogEvent.line) := by
  cases h with
  | refused => exact .failed _
  | undecoded => exact .failed _
  | unencoded => exact .failed _
  | generated _ _ hencoding =>
      obtain ⟨image, hread, hheader⟩ := exists_read_of_encoding hencoding
      rw [Encoding.event, ← hheader]
      exact .generated hread

lemma compile_cons (supply : Supply σ) (context : BuildContext) (d : ResourceDefinition)
    (ds : List ResourceDefinition) (state : σ) :
    compile supply context (d :: ds) state
      = (⟨(compileOne supply context d state).1.result
            :: (compile supply context ds (compileOne supply context d state).2).1.result,
          (compileOne supply context d state).1.log
            ++ (compile supply context ds (compileOne supply context d state).2).1.log⟩,
          (compile supply context ds (compileOne supply context d state).2).2) :=
  rfl

/-- **Each turn adds its block**, by induction on the turns. -/
theorem account_compile (supply : Supply σ) (context : BuildContext)
    (ds : List ResourceDefinition) (state : σ) :
    Account context ds (compile supply context ds state).1.result
      ((compile supply context ds state).1.log.map LogEvent.line) := by
  induction ds generalizing state with
  | nil => exact .nil
  | cons d ds ih =>
      rw [compile_cons, List.map_append]
      exact .cons (turn_compileOne supply context d state).block (ih _)

lemma Account.length_eq {ds : List ResourceDefinition}
    {results : List (Except ResourceError ResourceObject)} {lines : List String}
    (h : Account context ds results lines) : results.length = ds.length := by
  induction h with
  | nil => rfl
  | cons _ _ ih => rw [List.length_cons, List.length_cons, ih]

/-- **The result at a position** is that of the turn there, after the turns before it. -/
lemma getElem?_result_compile {ds : List ResourceDefinition} {i : ℕ} {d : ResourceDefinition}
    (hd : ds[i]? = some d) (supply : Supply σ) (context : BuildContext) (state : σ) :
    (compile supply context ds state).1.result[i]?
      = some (compileOne supply context d
          (compile supply context (ds.take i) state).2).1.result := by
  induction ds generalizing i state with
  | nil => exact absurd hd (by simp)
  | cons first ds ih =>
      rw [compile_cons]
      cases i with
      | zero =>
          obtain rfl := Option.some.inj hd
          rfl
      | succ i =>
          rw [List.take_succ_cons, compile_cons, List.getElem?_cons_succ]
          exact ih hd _

/-! ## Requests -/

/-- A supply that also remembers what it was asked for. -/
def Supply.recorded (supply : Supply σ) : Supply (σ × List (ResourceDefinition × PixelMode)) :=
  fun d mode memory =>
    ((supply d mode memory.1).1, (supply d mode memory.1).2, memory.2 ++ [(d, mode)])

/-- **What a resource asks its supply for**: nothing if it is not settled how to encode it,
otherwise its picture, as bits for the monochrome format and as colors for any other. -/
def ResourceDefinition.request? (context : BuildContext) (d : ResourceDefinition) :
    Option (ResourceDefinition × PixelMode) :=
  match d.encodeOptions context with
  | .error _ => none
  | .ok options => some (d, if options.format = .fixed .monochrome then .mono else .rgba)

/-- The record of a turn.  The turn itself is not changed by being recorded. -/
lemma compileOne_recorded (supply : Supply σ) (context : BuildContext) (d : ResourceDefinition)
    (state : σ) (asked : List (ResourceDefinition × PixelMode)) :
    compileOne supply.recorded context d (state, asked)
      = ((compileOne supply context d state).1, (compileOne supply context d state).2,
          asked ++ (d.request? context).toList) := by
  rw [compileOne, compileOne, ResourceDefinition.request?]
  cases d.encodeOptions context with
  | error error => simp only [Option.toList_none, List.append_nil]
  | ok options =>
      rcases hsupply : supply d options.pixelMode state with ⟨cause | b, state'⟩
      · simp only [Supply.recorded, hsupply]
        rfl
      · simp only [Supply.recorded, hsupply]
        rfl

/-- **The record of a run**, by induction on the turns. -/
theorem compile_recorded (supply : Supply σ) (context : BuildContext)
    (ds : List ResourceDefinition) (state : σ) (asked : List (ResourceDefinition × PixelMode)) :
    compile supply.recorded context ds (state, asked)
      = ((compile supply context ds state).1, (compile supply context ds state).2,
          asked ++ ds.filterMap (ResourceDefinition.request? context)) := by
  induction ds generalizing state asked with
  | nil =>
      rw [List.filterMap_nil, List.append_nil]
      rfl
  | cons d ds ih =>
      rw [compile_cons, compile_cons, compileOne_recorded, ih, List.filterMap_cons]
      cases d.request? context with
      | none => simp
      | some request => simp

/-! ## Supplies without a memory -/

/-- A supply whose answers do not depend on what it was asked before. -/
def Supply.Stateless (supply : Supply σ) : Prop :=
  ∀ d mode state state', (supply d mode state).1 = (supply d mode state').1

lemma Supply.Stateless.compileOne_eq (hsupply : supply.Stateless) (context : BuildContext)
    (d : ResourceDefinition) (state state' : σ) :
    (compileOne supply context d state).1 = (compileOne supply context d state').1 := by
  rw [compileOne, compileOne]
  cases d.encodeOptions context with
  | error error => rfl
  | ok options =>
      have hanswer := hsupply d options.pixelMode state state'
      rcases hfirst : supply d options.pixelMode state with ⟨answer, rest⟩
      rcases hsecond : supply d options.pixelMode state' with ⟨answer', rest'⟩
      rw [hfirst, hsecond] at hanswer
      obtain rfl : answer = answer' := hanswer
      simp only [hfirst, hsecond]
      cases answer with
      | error cause => rfl
      | ok b => rfl

/-- **One resource alone** has the result that it has among others. -/
lemma Supply.Stateless.compile_alone (hsupply : supply.Stateless) {ds : List ResourceDefinition}
    {i : ℕ} {d : ResourceDefinition} (hd : ds[i]? = some d) (context : BuildContext)
    (state state' : σ) :
    ∃ result, (compile supply context ds state).1.result[i]? = some result ∧
      (compile supply context [d] state').1.result = [result] := by
  refine ⟨_, getElem?_result_compile hd supply context state, ?_⟩
  rw [hsupply.compileOne_eq context d _ state']
  rfl

/-! ## Supplies of one picture -/

/-- The supply that decodes the same file for every resource. -/
def Supply.ofPicture (decode : PixelMode → Except DecodeError PixelBuffer) : Supply Unit :=
  .ofFunction fun _ mode => decode mode

@[simp] lemma Logged.result_withFailure (run : Logged (Except ResourceError ResourceObject)) :
    run.withFailure.result = run.result := by
  rw [Logged.withFailure]
  split <;> rfl

lemma ResourceDefinition.generate_of_encodeOptions {d : ResourceDefinition}
    {options : EncodeOptions} (h : d.encodeOptions context = .ok options) (b : PixelBuffer) :
    d.generate b context = d.encodeObject b options context := by
  simp only [generate, h]

/-- **A run over one resource** settles the options, then decodes, then encodes. -/
lemma result_compile_ofPicture (decode : PixelMode → Except DecodeError PixelBuffer)
    (context : BuildContext) (d : ResourceDefinition) :
    (compile (.ofPicture decode) context [d] ()).1.result
      = [do
          let options ← d.encodeOptions context
          let b ← (decode options.pixelMode).mapError (.decode d.name)
          (d.encodeObject b options context).result] := by
  rw [compile_cons, compileOne]
  cases d.encodeOptions context with
  | error error => rfl
  | ok options =>
      simp only [Supply.ofPicture, Supply.ofFunction]
      cases hdecode : decode options.pixelMode with
      | error cause => simp [hdecode, Except.mapError, bind, Except.bind, compile]
      | ok b => simp [hdecode, Except.mapError, bind, Except.bind, compile]

/-! ## The whole run -/

/-- **A run that isolates failures.** -/
structure Isolated (supply : Supply σ) (context : BuildContext) (ds : List ResourceDefinition)
    (state : σ) : Prop where
  /-- There is one result for each resource. -/
  length : (compile supply context ds state).1.result.length = ds.length
  /-- It stands where the resource stands, and the resources before it matter only for what the
  supply remembers. -/
  position : ∀ (i : ℕ) (d : ResourceDefinition), ds[i]? = some d →
    (compile supply context ds state).1.result[i]?
      = some (compileOne supply context d
          (compile supply context (ds.take i) state).2).1.result
  /-- The log is made of the lines of one block for each resource, in order. -/
  log : Account context ds (compile supply context ds state).1.result
    ((compile supply context ds state).1.log.map LogEvent.line)
  /-- The supply is asked once for each resource of which it is settled how to encode it, in order,
  and for no other. -/
  asked : compile supply.recorded context ds (state, [])
    = ((compile supply context ds state).1, (compile supply context ds state).2,
        ds.filterMap (ResourceDefinition.request? context))
  /-- If the supply has no memory, each resource might as well be compiled alone. -/
  alone : supply.Stateless → ∀ (i : ℕ) (d : ResourceDefinition) (state' : σ), ds[i]? = some d →
    ∃ result, (compile supply context ds state).1.result[i]? = some result ∧
      (compile supply context [d] state').1.result = [result]

/-- **A run isolates failures**, whatever is declared and however the supply behaves. -/
theorem isolated_compile (supply : Supply σ) (context : BuildContext)
    (ds : List ResourceDefinition) (state : σ) : Isolated supply context ds state where
  length := (account_compile supply context ds state).length_eq
  position := fun _ _ hd => getElem?_result_compile hd supply context state
  log := account_compile supply context ds state
  asked := compile_recorded supply context ds state []
  alone := fun hsupply _ _ state' hd => hsupply.compile_alone hd context state state'

end WatchBitmap
