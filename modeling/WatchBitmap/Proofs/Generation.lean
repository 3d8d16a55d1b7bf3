import Mathlib.Tactic.Common
import WatchBitmap.Proofs.Isolation

/-!
# What becomes of a resource

A resource passes four gates: its platform, the key in its name, its picture, and the encoder.  Each
gate has its own error, the first one that is closed gives the outcome, and behind the last there is
a blob of the form that kind, name and platform ask for.

* `ResourceDefinition.Unplaced`, `ResourceDefinition.Unkeyed` — declarations that are refused.
* `ResourceDefinition.Asks`, `policy_encodeOptions` — what the others ask of the encoder.
* `ResourceDefinition.Generated` — the object of a resource, with the form of its blob.
* `ResourceOutcome`, `outcome_compileOne` — **gate by gate**, for one turn.
* `settled_compile` — the same, read from the side of the results, anywhere in a run.
-/

namespace WatchBitmap

/-! ## What a declaration asks for -/

/-- The platform of a build is known and has a color display. -/
def BuildContext.HasColor (context : BuildContext) : Prop :=
  ∃ p, context.platforms.get? context.platform = some p ∧ "color" ∈ p.tags

lemma BuildContext.hasColor_iff (context : BuildContext) :
    context.HasColor ↔ context.platforms.supportsColor? context.platform = some true := by
  simp only [HasColor, PlatformTable.supportsColor?, Platform.hasTag, colorTag,
    Option.map_eq_some_iff, List.contains_iff_mem]

instance (context : BuildContext) : Decidable context.HasColor :=
  decidable_of_iff _ context.hasColor_iff.symm

namespace ResourceDefinition

section Declaration

variable (d : ResourceDefinition) (context : BuildContext)

/-- The form depends on a platform that is not in the table. -/
def Unplaced : Prop :=
  d.kind = .pbi8 ∧ context.platforms.get? context.platform = none

/-- A key is needed, and the name mentions none. -/
def Unkeyed : Prop :=
  d.kind = .pngTrans ∧ ¬ ColorKey.Mentions d.name "WHITE" ∧ ¬ ColorKey.Mentions d.name "BLACK"

/-- One bit per pixel is wanted. -/
def Monochrome : Prop :=
  d.kind = .pbi ∨ d.kind = .pbi8 ∧ ¬ context.HasColor

instance : Decidable (d.Monochrome context) :=
  inferInstanceAs (Decidable (_ ∨ _))

/-- The key that a name mentions, if it mentions one. -/
def mentionedKey : ColorKey :=
  if ColorKey.Mentions d.name "WHITE" then .white else .black

/-- The key of a resource, if its kind asks for one. -/
def key? : Option ColorKey :=
  if d.kind = .pngTrans then some d.mentionedKey else none

/-- A picture has more colors than an index of one byte can tell apart, the key's included. -/
def Overflows (b : PixelBuffer) : Prop :=
  ¬ d.Monochrome context ∧ 256 < distinctColors d.key? b.colors

/-- What the supply is asked for. -/
def mode : PixelMode :=
  if d.Monochrome context then .mono else .rgba

/-- **What a declaration asks of the encoder.** -/
inductive Asks : EncodeOptions → Prop
  | monochrome (hmono : d.Monochrome context) :
      Asks ⟨.fixed .monochrome, none, .ofBool d.compress⟩
  | color (hkind : d.kind = .pbi8) (hcolor : context.HasColor) :
      Asks ⟨.fixed .indexed8, none, .ofBool d.compress⟩
  | keyed (hkind : d.kind = .pngTrans) :
      Asks ⟨.smallestIndexed, some d.mentionedKey.name, .ofBool d.compress⟩

/-- What is settled before there is a picture. -/
inductive Policy : Except ResourceError EncodeOptions → Prop
  | unplaced (h : d.Unplaced context) :
      Policy (.error (.unknownPlatform d.name context.platform))
  | unkeyed (h : d.Unkeyed) : Policy (.error (.encode d.name (.invalidSelector d.name)))
  | settled {options : EncodeOptions} (hplaced : ¬ d.Unplaced context) (hkeyed : ¬ d.Unkeyed)
      (hasks : d.Asks context options) : Policy (.ok options)

end Declaration

variable {d : ResourceDefinition} {context : BuildContext} {options : EncodeOptions}

lemma Unkeyed.ofResourceName?_eq (h : d.Unkeyed) : ColorKey.ofResourceName? d.name = none :=
  (if_neg h.2.1).trans (if_neg h.2.2)

/-- A keyed resource that is not refused has the key that its name mentions. -/
lemma ofResourceName?_of_not_unkeyed (hkind : d.kind = .pngTrans) (h : ¬ d.Unkeyed) :
    ColorKey.ofResourceName? d.name = some d.mentionedKey := by
  rw [ColorKey.ofResourceName?, mentionedKey]
  by_cases hwhite : ColorKey.Mentions d.name "WHITE"
  · rw [if_pos hwhite]
    exact if_pos hwhite
  · have hblack : ColorKey.Mentions d.name "BLACK" := by
      by_contra hblack
      exact h ⟨hkind, hwhite, hblack⟩
    rw [if_neg hwhite]
    exact (if_neg hwhite).trans (if_pos hblack)

/-- **Settling the options**, kind by kind. -/
theorem policy_encodeOptions (d : ResourceDefinition) (context : BuildContext) :
    d.Policy context (d.encodeOptions context) := by
  cases hkind : d.kind with
  | pbi =>
      have hoptions : d.encodeOptions context
          = .ok ⟨.fixed .monochrome, none, .ofBool d.compress⟩ := by
        simp only [encodeOptions, formatChoice, colorKey, hkind]
        rfl
      rw [hoptions]
      refine .settled ?_ ?_ (.monochrome (Or.inl hkind))
      · rintro ⟨h, -⟩
        exact absurd (hkind.symm.trans h) (by decide)
      · rintro ⟨h, -⟩
        exact absurd (hkind.symm.trans h) (by decide)
  | pbi8 =>
      have hkeyed : ¬ d.Unkeyed := fun h => absurd (hkind.symm.trans h.1) (by decide)
      simp only [encodeOptions, formatChoice, colorKey, hkind]
      cases hcolor : context.platforms.supportsColor? context.platform with
      | none =>
          exact .unplaced ⟨hkind, Option.map_eq_none_iff.1 hcolor⟩
      | some color =>
          have hplaced : ¬ d.Unplaced context := by
            rintro ⟨-, hnone⟩
            rw [PlatformTable.supportsColor?, hnone] at hcolor
            exact absurd hcolor (by simp)
          cases color with
          | true => exact .settled hplaced hkeyed (.color hkind (context.hasColor_iff.2 hcolor))
          | false =>
              refine .settled hplaced hkeyed (.monochrome (Or.inr ⟨hkind, ?_⟩))
              rw [context.hasColor_iff, hcolor]
              simp
  | pngTrans =>
      have hplaced : ¬ d.Unplaced context := fun h => absurd (hkind.symm.trans h.1) (by decide)
      simp only [encodeOptions, formatChoice, colorKey, hkind]
      by_cases hkeyed : d.Unkeyed
      · rw [hkeyed.ofResourceName?_eq]
        exact .unkeyed hkeyed
      · rw [ofResourceName?_of_not_unkeyed hkind hkeyed]
        exact .settled hplaced hkeyed (.keyed hkind)

lemma asks_of_encodeOptions (h : d.encodeOptions context = .ok options) :
    ¬ d.Unplaced context ∧ ¬ d.Unkeyed ∧ d.Asks context options := by
  have hpolicy := d.policy_encodeOptions context
  rw [h] at hpolicy
  cases hpolicy with
  | settled hplaced hkeyed hasks => exact ⟨hplaced, hkeyed, hasks⟩

lemma not_monochrome_of_hasColor (hkind : d.kind = .pbi8) (hcolor : context.HasColor) :
    ¬ d.Monochrome context := by
  rintro (h | ⟨-, hno⟩)
  · exact absurd (hkind.symm.trans h) (by decide)
  · exact hno hcolor

lemma not_monochrome_of_pngTrans (hkind : d.kind = .pngTrans) : ¬ d.Monochrome context := by
  rintro (h | ⟨h, -⟩)
  · exact absurd (hkind.symm.trans h) (by decide)
  · exact absurd (hkind.symm.trans h) (by decide)

lemma Monochrome.key?_eq (hmono : d.Monochrome context) : d.key? = none :=
  if_neg fun hkind => not_monochrome_of_pngTrans hkind hmono

lemma Asks.pixelMode_eq (h : d.Asks context options) : options.pixelMode = d.mode context := by
  cases h with
  | monochrome hmono => exact (if_pos hmono).symm
  | color hkind hcolor => exact (if_neg (not_monochrome_of_hasColor hkind hcolor)).symm
  | keyed hkind => exact (if_neg (not_monochrome_of_pngTrans hkind)).symm

lemma Asks.colorKey_eq (h : d.Asks context options) :
    options.colorKey = d.key?.map ColorKey.name := by
  cases h with
  | monochrome hmono =>
      rw [hmono.key?_eq]
      rfl
  | color hkind _ =>
      rw [key?, hkind]
      rfl
  | keyed hkind =>
      rw [key?, if_pos hkind]
      rfl

lemma Asks.paletteCapacity?_eq (h : d.Asks context options) :
    options.format.paletteCapacity? = if d.Monochrome context then none else some 256 := by
  cases h with
  | monochrome hmono => exact (if_pos hmono).symm
  | color hkind hcolor => exact (if_neg (not_monochrome_of_hasColor hkind hcolor)).symm
  | keyed hkind => exact (if_neg (not_monochrome_of_pngTrans hkind)).symm

lemma Asks.compression_eq (h : d.Asks context options) :
    options.compression = .ofBool d.compress := by
  cases h with
  | monochrome => rfl
  | color => rfl
  | keyed => rfl

/-! ## The object of a resource -/

/-- **The format of a resource's blob.** -/
inductive Form (d : ResourceDefinition) (context : BuildContext) (b : PixelBuffer) : Format → Prop
  | monochrome (hmono : d.Monochrome context) : Form d context b .monochrome
  | color (hkind : d.kind = .pbi8) (hcolor : context.HasColor) : Form d context b .indexed8
  | keyed {format : Format} (hkind : d.kind = .pngTrans)
      (hsettles : FormatChoice.smallestIndexed.Settles (distinctColors d.key? b.colors) format) :
      Form d context b format

/-- **The object of a resource** whose picture is `b`. -/
structure Generated (d : ResourceDefinition) (context : BuildContext) (b : PixelBuffer)
    (object : ResourceObject) (image : Image) : Prop where
  name : object.name = d.name
  read : Image.read object.data = .ok image
  width : image.header.width = b.width
  height : image.header.height = b.height
  compressed : image.header.isCompressed = d.compress
  form : d.Form context b image.header.format
  colorKey : image.header.colorKey = d.key?

variable {b : PixelBuffer} {format : Format}

/-- The encoder settles on the format that was asked for. -/
lemma Asks.form (h : d.Asks context options)
    (hsettles : options.format.Settles (distinctColors d.key? b.colors) format) :
    d.Form context b format := by
  cases h with
  | monochrome hmono =>
      cases hsettles with
      | monochrome => exact .monochrome hmono
      | fixed => exact .monochrome hmono
  | color hkind hcolor =>
      cases hsettles with
      | fixed => exact .color hkind hcolor
  | keyed hkind => exact .keyed hkind hsettles

/-- **With room for its colors** a picture becomes an object. -/
lemma Asks.generated {parts : Encoding} (h : d.Asks context options)
    (hencoding : encoding b options = .ok parts) :
    ¬ (b.width = 0 ∨ b.height = 0) ∧ ¬ d.Overflows context b ∧
      ∃ image, d.Generated context b ⟨d.name, parts.toBytes⟩ image := by
  obtain ⟨key, format, hdim, hkey, hsettles, rfl⟩ := encoding_eq_ok hencoding
  obtain rfl : d.key? = key := map_name_injective (h.colorKey_eq.symm.trans hkey)
  refine ⟨hdim, ?fits, b.imageFor d.key? format options.compression, {
    name := rfl
    read := Image.read_encodingFor hdim hsettles _
    width := rfl
    height := rfl
    compressed := ?compressed
    form := h.form hsettles
    colorKey := Header.colorKey_ofPicture _ _ _ _ _ _ }⟩
  case fits =>
    rintro ⟨hcolors, hover⟩
    have hcapacity := h.paletteCapacity?_eq
    rw [if_neg hcolors] at hcapacity
    exact absurd hover (Nat.not_lt.2 (hsettles.le_of_paletteCapacity? hcapacity))
  case compressed =>
    refine (b.isCompressed_encodingFor d.key? format options.compression).trans ?_
    rw [h.compression_eq]
    cases d.compress <;> rfl

end ResourceDefinition

/-! ## The outcome -/

section

variable (d : ResourceDefinition) (context : BuildContext)
  (supplied : Except DecodeError PixelBuffer)

/-- **What can become of a resource.**  The cases exclude each other: the declaration comes before
the picture, and the picture before the encoder. -/
inductive ResourceOutcome : Except ResourceError ResourceObject → Prop
  | unplaced (h : d.Unplaced context) :
      ResourceOutcome (.error (.unknownPlatform d.name context.platform))
  | unkeyed (h : d.Unkeyed) :
      ResourceOutcome (.error (.encode d.name (.invalidSelector d.name)))
  | undecoded {cause : DecodeError} (hplaced : ¬ d.Unplaced context) (hkeyed : ¬ d.Unkeyed)
      (hsupplied : supplied = .error cause) : ResourceOutcome (.error (.decode d.name cause))
  | empty {b : PixelBuffer} (hplaced : ¬ d.Unplaced context) (hkeyed : ¬ d.Unkeyed)
      (hsupplied : supplied = .ok b) (hempty : b.width = 0 ∨ b.height = 0) :
      ResourceOutcome (.error (.encode d.name (.emptyBuffer b.width b.height)))
  | overflow {b : PixelBuffer} (hplaced : ¬ d.Unplaced context) (hkeyed : ¬ d.Unkeyed)
      (hsupplied : supplied = .ok b) (hdim : ¬ (b.width = 0 ∨ b.height = 0))
      (hover : d.Overflows context b) :
      ResourceOutcome (.error (.encode d.name (.paletteOverflow 257 256)))
  | generated {b : PixelBuffer} {object : ResourceObject} {image : Image}
      (hplaced : ¬ d.Unplaced context) (hkeyed : ¬ d.Unkeyed) (hsupplied : supplied = .ok b)
      (hdim : ¬ (b.width = 0 ∨ b.height = 0)) (hfits : ¬ d.Overflows context b)
      (hgenerated : d.Generated context b object image) : ResourceOutcome (.ok object)

/-- **The outcome from the side of the results.** -/
structure Settled (result : Except ResourceError ResourceObject) : Prop where
  unknownPlatform : ∀ name platform, result = .error (.unknownPlatform name platform)
    ↔ d.Unplaced context ∧ name = d.name ∧ platform = context.platform
  invalidSelector : ∀ name selector, result = .error (.encode name (.invalidSelector selector))
    ↔ d.Unkeyed ∧ name = d.name ∧ selector = d.name
  decode : ∀ name cause, result = .error (.decode name cause)
    ↔ ¬ d.Unplaced context ∧ ¬ d.Unkeyed ∧ supplied = .error cause ∧ name = d.name
  /-- With a picture in hand there are two errors left, each with its own cause. -/
  otherwise : ∀ b, ¬ d.Unplaced context → ¬ d.Unkeyed → supplied = .ok b →
    (b.width = 0 ∨ b.height = 0) ∧
        result = .error (.encode d.name (.emptyBuffer b.width b.height)) ∨
      ¬ (b.width = 0 ∨ b.height = 0) ∧ d.Overflows context b ∧
        result = .error (.encode d.name (.paletteOverflow 257 256)) ∨
      ¬ (b.width = 0 ∨ b.height = 0) ∧ ¬ d.Overflows context b ∧
        ∃ object, result = .ok object
  resourceName : ∀ error, result = .error error → error.resourceName = d.name
  generated : ∀ object, result = .ok object →
    ∃ b image, supplied = .ok b ∧ d.Generated context b object image

end

variable {d : ResourceDefinition} {context : BuildContext}
  {supplied : Except DecodeError PixelBuffer} {result : Except ResourceError ResourceObject}

/-- Asked for what a declaration asks for, the encoder has two complaints. -/
lemma ResourceDefinition.Asks.outcome_of_encoding_eq_error {options : EncodeOptions}
    {b : PixelBuffer} {cause : EncodeError} (h : d.Asks context options)
    (hplaced : ¬ d.Unplaced context) (hkeyed : ¬ d.Unkeyed) (hsupplied : supplied = .ok b)
    (hencoding : encoding b options = .error cause) :
    ResourceOutcome d context supplied (.error (.encode d.name cause)) := by
  have hout := encode_outcome b options
  rw [encode, hencoding] at hout
  cases hout with
  | empty hempty => exact .empty hplaced hkeyed hsupplied hempty
  | badSelector hdim hselector hwhite hblack =>
      exact absurd (hselector.symm.trans h.colorKey_eq) (map_name_ne hwhite hblack d.key?)
  | overflow hdim hkey hcapacity hover =>
      obtain rfl := map_name_injective (h.colorKey_eq.symm.trans hkey)
      rw [h.paletteCapacity?_eq] at hcapacity
      split_ifs at hcapacity with hcolors
      obtain rfl := Option.some.inj hcapacity
      exact .overflow hplaced hkeyed hsupplied hdim ⟨hcolors, hover⟩

/-- **The outcome of a turn**, gate by gate. -/
theorem outcome_compileOne {σ : Type} (supply : Supply σ) (context : BuildContext)
    (d : ResourceDefinition) (state : σ) :
    ResourceOutcome d context (supply d (d.mode context) state).1
      (compileOne supply context d state).1.result := by
  have hturn := turn_compileOne supply context d state
  generalize compileOne supply context d state = turn at hturn ⊢
  cases hturn with
  | refused hoptions =>
      have hpolicy := d.policy_encodeOptions context
      rw [hoptions] at hpolicy
      cases hpolicy with
      | unplaced h => exact .unplaced h
      | unkeyed h => exact .unkeyed h
  | undecoded hoptions hsupply =>
      obtain ⟨hplaced, hkeyed, hasks⟩ := ResourceDefinition.asks_of_encodeOptions hoptions
      rw [hasks.pixelMode_eq] at hsupply
      exact .undecoded hplaced hkeyed (congrArg Prod.fst hsupply)
  | unencoded hoptions hsupply hencoding =>
      obtain ⟨hplaced, hkeyed, hasks⟩ := ResourceDefinition.asks_of_encodeOptions hoptions
      rw [hasks.pixelMode_eq] at hsupply
      exact hasks.outcome_of_encoding_eq_error hplaced hkeyed (congrArg Prod.fst hsupply) hencoding
  | generated hoptions hsupply hencoding =>
      obtain ⟨hplaced, hkeyed, hasks⟩ := ResourceDefinition.asks_of_encodeOptions hoptions
      rw [hasks.pixelMode_eq] at hsupply
      obtain ⟨hdim, hfits, image, hgenerated⟩ := hasks.generated hencoding
      exact .generated hplaced hkeyed (congrArg Prod.fst hsupply) hdim hfits hgenerated

namespace ResourceOutcome

lemma unknownPlatform_iff (hout : ResourceOutcome d context supplied result)
    (name platform : String) : result = .error (.unknownPlatform name platform)
      ↔ d.Unplaced context ∧ name = d.name ∧ platform = context.platform := by
  constructor
  · rintro rfl
    cases hout with
    | unplaced h => exact ⟨h, rfl, rfl⟩
  · rintro ⟨h, rfl, rfl⟩
    cases hout with
    | unplaced _ => rfl
    | unkeyed hunkeyed => exact absurd (h.1.symm.trans hunkeyed.1) (by decide)
    | undecoded hplaced => exact absurd h hplaced
    | empty hplaced => exact absurd h hplaced
    | overflow hplaced => exact absurd h hplaced
    | generated hplaced => exact absurd h hplaced

lemma invalidSelector_iff (hout : ResourceOutcome d context supplied result)
    (name selector : String) : result = .error (.encode name (.invalidSelector selector))
      ↔ d.Unkeyed ∧ name = d.name ∧ selector = d.name := by
  constructor
  · rintro rfl
    cases hout with
    | unkeyed h => exact ⟨h, rfl, rfl⟩
  · rintro ⟨h, rfl, rfl⟩
    cases hout with
    | unplaced hunplaced => exact absurd (hunplaced.1.symm.trans h.1) (by decide)
    | unkeyed _ => rfl
    | undecoded _ hkeyed => exact absurd h hkeyed
    | empty _ hkeyed => exact absurd h hkeyed
    | overflow _ hkeyed => exact absurd h hkeyed
    | generated _ hkeyed => exact absurd h hkeyed

lemma decode_iff (hout : ResourceOutcome d context supplied result) (name : String)
    (cause : DecodeError) : result = .error (.decode name cause)
      ↔ ¬ d.Unplaced context ∧ ¬ d.Unkeyed ∧ supplied = .error cause ∧ name = d.name := by
  constructor
  · rintro rfl
    cases hout with
    | undecoded hplaced hkeyed hsupplied => exact ⟨hplaced, hkeyed, hsupplied, rfl⟩
  · rintro ⟨hplaced, hkeyed, rfl, rfl⟩
    cases hout with
    | unplaced h => exact absurd h hplaced
    | unkeyed h => exact absurd h hkeyed
    | undecoded _ _ hsupplied => rw [Except.error.inj hsupplied]
    | empty _ _ hsupplied => exact absurd hsupplied (by simp)
    | overflow _ _ hsupplied => exact absurd hsupplied (by simp)
    | generated _ _ hsupplied => exact absurd hsupplied (by simp)

lemma of_supplied {b : PixelBuffer} (hout : ResourceOutcome d context supplied result)
    (hplaced : ¬ d.Unplaced context) (hkeyed : ¬ d.Unkeyed) (hsupplied : supplied = .ok b) :
    (b.width = 0 ∨ b.height = 0) ∧
        result = .error (.encode d.name (.emptyBuffer b.width b.height)) ∨
      ¬ (b.width = 0 ∨ b.height = 0) ∧ d.Overflows context b ∧
        result = .error (.encode d.name (.paletteOverflow 257 256)) ∨
      ¬ (b.width = 0 ∨ b.height = 0) ∧ ¬ d.Overflows context b ∧
        ∃ object, result = .ok object := by
  subst hsupplied
  cases hout with
  | unplaced h => exact absurd h hplaced
  | unkeyed h => exact absurd h hkeyed
  | undecoded _ _ hfailed => exact absurd hfailed (by simp)
  | empty _ _ hsame hempty =>
      obtain rfl := Except.ok.inj hsame
      exact Or.inl ⟨hempty, rfl⟩
  | overflow _ _ hsame hdim hover =>
      obtain rfl := Except.ok.inj hsame
      exact Or.inr (Or.inl ⟨hdim, hover, rfl⟩)
  | generated _ _ hsame hdim hfits =>
      obtain rfl := Except.ok.inj hsame
      exact Or.inr (Or.inr ⟨hdim, hfits, _, rfl⟩)

lemma resourceName_eq {error : ResourceError}
    (hout : ResourceOutcome d context supplied (.error error)) :
    error.resourceName = d.name := by
  cases hout with
  | unplaced => rfl
  | unkeyed => rfl
  | undecoded => rfl
  | empty => rfl
  | overflow => rfl

lemma exists_generated {object : ResourceObject}
    (hout : ResourceOutcome d context supplied (.ok object)) :
    ∃ b image, supplied = .ok b ∧ d.Generated context b object image := by
  cases hout with
  | generated _ _ hsupplied _ _ hgenerated => exact ⟨_, _, hsupplied, hgenerated⟩

end ResourceOutcome

/-- **What becomes of a resource**, wherever it stands in a run.  Its result depends on the
declaration, the platform, and the answer that the supply gives when its turn comes. -/
theorem settled_compile {σ : Type} (supply : Supply σ) (context : BuildContext)
    (before after : List ResourceDefinition) (d : ResourceDefinition) (state : σ) :
    ∃ result,
      (compile supply context (before ++ d :: after) state).1.result[before.length]? = some result ∧
      Settled d context
        (supply d (d.mode context) (compile supply context before state).2).1 result := by
  have hplace : (before ++ d :: after)[before.length]? = some d := by
    rw [List.getElem?_append_right (Nat.le_refl _), Nat.sub_self, List.getElem?_cons_zero]
  have hresult := getElem?_result_compile hplace supply context state
  rw [List.take_left] at hresult
  have hout := outcome_compileOne supply context d (compile supply context before state).2
  refine ⟨_, hresult, {
    unknownPlatform := hout.unknownPlatform_iff
    invalidSelector := hout.invalidSelector_iff
    decode := hout.decode_iff
    otherwise := fun b => hout.of_supplied
    resourceName := fun error herror => (herror ▸ hout).resourceName_eq
    generated := fun object hobject => (hobject ▸ hout).exists_generated }⟩

end WatchBitmap
