import Mathlib.Data.Option.Basic
import DomainTables.Metadata.Relationship
import DomainTables.Proofs.Keyed
import DomainTables.Proofs.Steps
import DomainTables.Proofs.Values

/-!
# Metadata that is read back

Reading is more liberal than writing, so a text is not in general what is written for the metadata
read from it. But the metadata is read back from what is written for it, whatever text it came from
(`Metadata.read_write_of_read`): one of objects or of lists, with fields in any order, or left out.

For that, each type has to do two things in its written form (`Metadata.IsWrittenForm`). It reads
back what it writes, which is checked type by type, from the inside out. And it writes what it has
read into no more room than the reading took, since a value that is nested too deep would not be
read again. Every part that is nested in what is written comes from a part that was nested as deep
in what was read; the decorations that are written where none were read stand beside the properties
and are no deeper than these.
-/

namespace DomainTables

namespace Metadata

/-! ## Fields of records -/

namespace Fields

variable {fields : Fields} {name : String}

/-- The values of a field are those that stand under its name. -/
theorem mem_values_iff {value : Json} : value ∈ fields.values name ↔ (name, value) ∈ fields := by
  simp [values]

/-- A value that stands alone under its name is that of a field. -/
theorem mem_of_single? {value : Json} (h : fields.single? name = some (some value)) :
    (name, value) ∈ fields := by
  rw [← mem_values_iff]
  unfold single? at h
  split at h
  · cases h
  · next other hvalues =>
    cases h
    exact hvalues ▸ List.mem_singleton_self _
  · cases h

variable {α : Type} {read? : Json → Option α} {x : α}

/-- A field that has to be there is read from its value. -/
theorem exists_of_required? (h : fields.required? name read? = some x) :
    ∃ value, (name, value) ∈ fields ∧ read? value = some x := by
  obtain ⟨content, hcontent, h⟩ := Option.bind_eq_some_iff.mp h
  obtain ⟨value, rfl, hread⟩ := Option.bind_eq_some_iff.mp h
  exact ⟨value, mem_of_single? hcontent, hread⟩

/-- A field that may be left out means its default, or is read from its value. -/
theorem exists_of_withDefault? {default : α} (h : fields.withDefault? name default read? = some x) :
    x = default ∨ ∃ value, (name, value) ∈ fields ∧ read? value = some x := by
  obtain ⟨content, hcontent, h⟩ := Option.bind_eq_some_iff.mp h
  cases content with
  | none =>
    cases h
    exact Or.inl rfl
  | some value => exact Or.inr ⟨value, mem_of_single? hcontent, h⟩

/-- A field that may be left out or null is read from its value if it is something. -/
theorem exists_of_optional? (h : fields.optional? name read? = some (some x)) :
    ∃ value, (name, value) ∈ fields ∧ read? value = some x := by
  obtain ⟨content, hcontent, h⟩ := Option.bind_eq_some_iff.mp h
  split at h
  · cases h
  · cases h
  · next value _ =>
    obtain ⟨y, hread, heq⟩ := Option.map_eq_some_iff.mp h
    cases heq
    exact ⟨value, mem_of_single? hcontent, hread⟩

end Fields

/-- The entries of a map have one level less than the map. -/
theorem fits_entries {value : Json} {entries : Fields} (h : entries? value = some entries)
    {room : Nat} (hvalue : value.Fits room) :
    ∃ inner, room = inner + 1 ∧ ∀ entry ∈ entries, entry.2.Fits inner := by
  unfold entries? at h
  split at h
  · cases h
    exact hvalue.fields
  · cases h

/-- The fields of a record have one level less than the record, be it an object or a list. -/
theorem fits_fields {leading trailing : List String} {value : Json} {fields : Fields}
    (h : fields? leading trailing value = some fields) {room : Nat} (hvalue : value.Fits room) :
    ∃ inner, room = inner + 1 ∧ ∀ field ∈ fields, field.2.Fits inner := by
  unfold fields? at h
  split at h
  · cases h
    exact hvalue.fields
  · -- The values of a list stand as deep as those of the object that it means.
    obtain ⟨inner, hroom, hitems⟩ := hvalue.items
    split at h
    · cases h
      exact ⟨inner, hroom, fun field hfield => hitems field.2 (List.of_mem_zip hfield).2⟩
    · cases h
  · cases h

/-- A record takes no more room than another if its values fit wherever the values of the fields of
that other do. -/
theorem fits_record {leading trailing : List String} {value : Json} {fields written : Fields}
    (h : fields? leading trailing value = some fields) {room : Nat} (hvalue : value.Fits room)
    (hwritten : ∀ {inner}, (∀ field ∈ fields, field.2.Fits inner) →
      ∀ field ∈ written, field.2.Fits inner) :
    (Json.object written).Fits room := by
  obtain ⟨inner, rfl, hinner⟩ := fits_fields h hvalue
  exact .object (hwritten hinner)

/-! ## Written forms -/

/-- A reader and a writer of one written form. -/
structure IsWrittenForm {α : Type} (read? : Json → Option α) (write : α → Json) : Prop where
  /-- What is written is read back. -/
  read?_write : ∀ x, read? (write x) = some x
  /-- What is read is written into no more room. -/
  fits_write : ∀ {room value x}, read? value = some x → value.Fits room → (write x).Fits room
  /-- Nothing is written as null, which stands for what is absent. -/
  write_ne_null : ∀ x, write x ≠ .null

namespace IsWrittenForm

/-- Texts have a written form. -/
theorem text : IsWrittenForm text? .string where
  read?_write _ := rfl
  fits_write _ _ := .string _
  write_ne_null := nofun

/-- Truth values have a written form. -/
theorem bool : IsWrittenForm bool? .bool where
  read?_write _ := rfl
  fits_write _ _ := .bool _
  write_ne_null := nofun

variable {α : Type} {read? : Json → Option α} {write : α → Json} (h : IsWrittenForm read? write)

include h

/-- Lists of what has a written form have one. -/
theorem list : IsWrittenForm (list? read?) fun xs => .array (xs.map write) where
  read?_write xs := by
    refine mapM_some_iff.mpr (List.forall₂_map_left_iff.mpr ?_)
    exact List.forall₂_same.mpr fun x _ => h.read?_write x
  fits_write {room value xs} hread hvalue := by
    unfold list? at hread
    split at hread
    · obtain ⟨inner, rfl, hitems⟩ := hvalue.items
      refine .array (List.forall_mem_map.mpr fun x hx => ?_)
      obtain ⟨item, hitem, hx⟩ := exists_left_of_forall₂ (mapM_some_iff.mp hread) hx
      exact h.fits_write hx (hitems item hitem)
    · cases hread
  write_ne_null := nofun

section

variable {fields : Fields} {name : String} {room : Nat}
  (hfields : ∀ field ∈ fields, field.2.Fits room)

include hfields

/-- What a required field is read as is written into no more room. -/
theorem fits_of_required? {x : α} (hread : fields.required? name read? = some x) :
    (write x).Fits room := by
  obtain ⟨value, hvalue, hread⟩ := Fields.exists_of_required? hread
  exact h.fits_write hread (hfields _ hvalue)

/-- What an optional field is read as is written into no more room. -/
theorem fits_of_optional? {x : Option α} (hread : fields.optional? name read? = some x) :
    (ofOption write x).Fits room := by
  cases x with
  | none => exact .null
  | some x =>
    obtain ⟨value, hvalue, hread⟩ := Fields.exists_of_optional? hread
    exact h.fits_write hread (hfields _ hvalue)

end

/-- A required field is read back. -/
theorem required?_write {fields : Fields} {name : String} {x : α}
    (hvalues : fields.values name = [write x]) : fields.required? name read? = some x := by
  rw [Fields.required?, Fields.single?, hvalues]
  exact h.read?_write x

/-- A field with a default is read back. -/
theorem withDefault?_write {fields : Fields} {name : String} {x default : α}
    (hvalues : fields.values name = [write x]) :
    fields.withDefault? name default read? = some x := by
  rw [Fields.withDefault?, Fields.single?, hvalues]
  exact h.read?_write x

/-- An optional field is read back. -/
theorem optional?_write {fields : Fields} {name : String} {x : Option α}
    (hvalues : fields.values name = [ofOption write x]) :
    fields.optional? name read? = some x := by
  rw [Fields.optional?, Fields.single?, hvalues]
  cases x with
  | none => rfl
  | some x =>
    -- Null would be read as the absence of a value, so nothing may be written as null.
    have hne := h.write_ne_null x
    have hread := h.read?_write x
    dsimp only [ofOption, Option.bind_eq_bind, Option.bind_some]
    split
    · contradiction
    · next heq => exact absurd (Option.some.inj heq) hne
    · next value hnot heq =>
      cases heq
      rw [hread]
      rfl

end IsWrittenForm

end Metadata

open Metadata

/-! ## Domain objects -/

/-- The written form of variants. -/
theorem Variant.isWrittenForm (held : Bool) :
    IsWrittenForm (Variant.ofJson? held) Variant.toJson where
  read?_write variant := by cases variant <;> rfl
  fits_write {_ _ variant} _ _ := by cases variant <;> exact .string _
  write_ne_null variant := by cases variant <;> nofun

namespace ObjectReference

/-- A reference is read from its two fields. -/
theorem ofJson?_eq_some_iff {held : Bool} {value : Json} {reference : ObjectReference} :
    ofJson? held value = some reference ↔
      ∃ fields, fields? ["name", "variant"] [] value = some fields ∧
        fields.required? "name" text? = some reference.name ∧
        fields.required? "variant" (Variant.ofJson? held) = some reference.variant := by
  obtain ⟨name, variant⟩ := reference
  simp [ofJson?, Option.bind_eq_some_iff]

/-- The written form of references to objects. -/
theorem isWrittenForm (held : Bool) : IsWrittenForm (ofJson? held) toJson where
  read?_write reference := by
    refine ofJson?_eq_some_iff.mpr ⟨_, rfl, ?_, ?_⟩
    · exact IsWrittenForm.text.required?_write rfl
    · exact (Variant.isWrittenForm _).required?_write rfl
  fits_write {room value reference} hread hvalue := by
    obtain ⟨fields, hfields, -, hvariant⟩ := ofJson?_eq_some_iff.mp hread
    refine fits_record hfields hvalue fun hinner => ?_
    simp only [List.forall_mem_cons]
    exact ⟨.string _, (Variant.isWrittenForm _).fits_of_required? hinner hvariant,
      List.forall_mem_nil _⟩
  write_ne_null := nofun

end ObjectReference

namespace PropertyType

/-- The type that is held under `of` is read from one of the values there. -/
theorem exists_of_elementOf? {held : Bool} {fields : Fields} {type : PropertyType}
    (h : elementOf? held fields = some type) :
    ∃ value, ("of", value) ∈ fields ∧ ofJson? held value = some type := by
  induction fields with
  | nil => cases h
  | cons field fields ih =>
    obtain ⟨name, value⟩ := field
    rw [elementOf?] at h
    split at h
    · next hname => exact ⟨value, hname ▸ List.mem_cons_self, h⟩
    · obtain ⟨value, hvalue, hread⟩ := ih h
      exact ⟨value, List.mem_cons_of_mem _ hvalue, hread⟩

/-- A type that is of nothing is read as the type of its kind. -/
theorem eq_of_plain? {type other : PropertyType} {content : Option Json}
    (h : plain? type content = some other) : other = type := by
  unfold plain? at h
  split at h <;> cases h <;> rfl

/-- The type of a kind is written one level above what it is of. -/
theorem fits_of_ofKind? {held : Bool} {kind : String} {content : Option Json}
    {element : Option PropertyType} {type : PropertyType}
    (h : ofKind? held kind content element = some type) {room : Nat}
    (hcontent : ∀ value ∈ content, value.Fits room)
    (helement : ∀ type ∈ element, type.toJson.Fits room) : type.toJson.Fits (room + 1) := by
  have hplain : ∀ kind, (Json.object [("kind", .string kind)]).Fits (room + 1) :=
    fun kind => .object (List.forall_mem_singleton.mpr (.string kind))
  have hof : ∀ kind written, written.Fits room →
      (Json.object [("kind", .string kind), ("of", written)]).Fits (room + 1) :=
    fun kind written hfits => .object (List.forall_mem_cons.mpr
      ⟨.string kind, List.forall_mem_singleton.mpr hfits⟩)
  -- Four kinds are of nothing. Each of the others has its own reader for what it is of.
  unfold ofKind? at h
  split at h
  · exact eq_of_plain? h ▸ hplain "string"
  · exact eq_of_plain? h ▸ hplain "number"
  · exact eq_of_plain? h ▸ hplain "boolean"
  · exact eq_of_plain? h ▸ hplain "date"
  · obtain ⟨values, hvalues, rfl⟩ := Option.map_eq_some_iff.mp h
    obtain ⟨value, hvalue, hvalues⟩ := Option.bind_eq_some_iff.mp hvalues
    exact hof _ _ (IsWrittenForm.text.list.fits_write hvalues (hcontent value hvalue))
  · obtain ⟨target, htarget, rfl⟩ := Option.map_eq_some_iff.mp h
    obtain ⟨value, hvalue, htarget⟩ := Option.bind_eq_some_iff.mp htarget
    exact hof _ _ ((ObjectReference.isWrittenForm held).fits_write htarget (hcontent value hvalue))
  · obtain ⟨inner, hinner, rfl⟩ := Option.map_eq_some_iff.mp h
    exact hof _ _ (helement inner hinner)
  · cases h

/-- The written form of types. -/
theorem isWrittenForm (held : Bool) : IsWrittenForm (ofJson? held) toJson where
  read?_write type := by
    induction type with
    | string | number | boolean | date => rfl
    | enum values =>
      show (list? text? (ofTexts values)).map enum = some (enum values)
      rw [ofTexts, IsWrittenForm.text.list.read?_write, Option.map_some]
    | reference target =>
      show (ObjectReference.ofJson? held target.toJson).map reference = some (reference target)
      rw [(ObjectReference.isWrittenForm held).read?_write, Option.map_some]
    | array element ih =>
      show (ofJson? held element.toJson).map array = some (array element)
      rw [ih, Option.map_some]
  fits_write {room value type} hread hvalue := by
    -- What is nested may be held back where the type itself is not.
    induction value using Json.induction generalizing held room type with
    | object fields ih =>
      obtain ⟨inner, rfl, hinner⟩ := hvalue.fields
      unfold ofJson? at hread
      obtain ⟨kind, -, hread⟩ := Option.bind_eq_some_iff.mp hread
      obtain ⟨content, hcontent, hread⟩ := Option.bind_eq_some_iff.mp hread
      obtain ⟨_, -, hread⟩ := Option.bind_eq_some_iff.mp hread
      refine fits_of_ofKind? hread ?_ ?_
      · rintro value rfl
        exact hinner _ (Fields.mem_of_single? hcontent)
      · intro element helement
        obtain ⟨value, hvalue, hread⟩ := exists_of_elementOf? helement
        exact ih _ hvalue _ hread (hinner _ hvalue)
    | array items ih =>
      obtain ⟨inner, rfl, hinner⟩ := hvalue.items
      unfold ofJson? at hread
      split at hread
      · cases ‹Json.array items = .object _›
      · next kind content hitems =>
        cases hitems
        have hmem : content ∈ [kind, content] := List.mem_cons_of_mem _ (List.mem_singleton_self _)
        obtain ⟨kind, -, hread⟩ := Option.bind_eq_some_iff.mp hread
        refine fits_of_ofKind? hread ?_ fun element helement => ?_
        · rintro _ ⟨⟩
          exact hinner _ hmem
        · exact ih _ hmem _ helement (hinner _ hmem)
      · cases hread
    | null | bool | number | string | unreadable => cases hread
  write_ne_null type := by cases type <;> nofun

end PropertyType

namespace Property

/-- A property is read from its four fields. -/
theorem ofJson?_eq_some_iff {value : Json} {property : Property} :
    ofJson? value = some property ↔
      ∃ fields, fields? ["name", "type"] ["nullable", "required"] value = some fields ∧
        fields.required? "name" text? = some property.name ∧
        fields.required? "type" (PropertyType.ofJson? false) = some property.type ∧
        fields.withDefault? "nullable" false bool? = some property.nullable ∧
        fields.withDefault? "required" false bool? = some property.required := by
  obtain ⟨name, type, nullable, required⟩ := property
  simp [ofJson?, Option.bind_eq_some_iff, -Bool.exists_bool]

/-- The written form of properties. -/
theorem isWrittenForm : IsWrittenForm ofJson? toJson where
  read?_write property := by
    refine ofJson?_eq_some_iff.mpr ⟨_, rfl, ?_, ?_, ?_, ?_⟩
    · exact IsWrittenForm.text.required?_write rfl
    · exact (PropertyType.isWrittenForm _).required?_write rfl
    · exact IsWrittenForm.bool.withDefault?_write rfl
    · exact IsWrittenForm.bool.withDefault?_write rfl
  fits_write {room value property} hread hvalue := by
    obtain ⟨fields, hfields, -, htype, -, -⟩ := ofJson?_eq_some_iff.mp hread
    refine fits_record hfields hvalue fun hinner => ?_
    simp only [List.forall_mem_cons]
    exact ⟨.string _, (PropertyType.isWrittenForm _).fits_of_required? hinner htype, .bool _,
      .bool _, List.forall_mem_nil _⟩
  write_ne_null := nofun

end Property

namespace Properties

/-- Properties are read one by one, each under its key. -/
theorem ofJson?_eq_some_iff {value : Json} {properties : Properties} :
    ofJson? value = some properties ↔ ∃ entries keyed, entries? value = some entries ∧
      List.Forall₂ (fun entry pair => Property.ofJson? entry.2 = some pair.2 ∧ entry.1 = pair.1)
        entries keyed ∧
      Keyed.ofList keyed = properties := by
  have hentry : ∀ (entry : String × Json) (pair : String × Property),
      (Property.ofJson? entry.2).map (entry.1, ·) = some pair ↔
        Property.ofJson? entry.2 = some pair.2 ∧ entry.1 = pair.1 := by
    intro entry pair
    obtain ⟨key, property⟩ := pair
    simp [Option.map_eq_some_iff, and_comm]
  simp only [ofJson?, Option.bind_eq_bind, Option.bind_eq_some_iff, mapM_some_iff, hentry,
    Option.pure_def, Option.some_inj, exists_and_left]

/-- The written form of properties under their keys. -/
theorem isWrittenForm : IsWrittenForm ofJson? toJson where
  read?_write properties := by
    refine ofJson?_eq_some_iff.mpr ⟨_, properties.toList, rfl, ?_, ?_⟩
    · refine List.forall₂_map_left_iff.mpr (List.forall₂_same.mpr fun entry _ => ⟨?_, rfl⟩)
      exact Property.isWrittenForm.read?_write entry.2
    · exact Keyed.ext_toList (Keyed.toList_ofList properties.nodup)
  fits_write {room value properties} hread hvalue := by
    obtain ⟨entries, keyed, hentries, hkeyed, rfl⟩ := ofJson?_eq_some_iff.mp hread
    obtain ⟨inner, rfl, hinner⟩ := fits_entries hentries hvalue
    refine .object (List.forall_mem_map.mpr fun pair hpair => ?_)
    -- A property that is kept was read from some entry, also where its key was repeated.
    obtain ⟨entry, hentry, hproperty, -⟩ :=
      exists_left_of_forall₂ hkeyed (Keyed.mem_of_mem_ofList hpair)
    exact Property.isWrittenForm.fits_write hproperty (hinner entry hentry)
  write_ne_null := nofun

end Properties

namespace Decorations

/-- Decorations are read from their three fields. -/
theorem ofJson?_eq_some_iff {value : Json} {decorations : Decorations} :
    ofJson? value = some decorations ↔
      ∃ fields, fields? [] ["unique", "updatable", "alias"] value = some fields ∧
        fields.optional? "unique" (list? text?) = some decorations.unique ∧
        fields.optional? "updatable" (list? text?) = some decorations.updatable ∧
        fields.optional? "alias" text? = some decorations.alternativeName := by
  obtain ⟨unique, updatable, alternativeName⟩ := decorations
  simp [ofJson?, Option.bind_eq_some_iff]

/-- The written form of decorations. -/
theorem isWrittenForm : IsWrittenForm ofJson? toJson where
  read?_write decorations := by
    refine ofJson?_eq_some_iff.mpr ⟨_, rfl, ?_, ?_, ?_⟩
    · exact IsWrittenForm.text.list.optional?_write rfl
    · exact IsWrittenForm.text.list.optional?_write rfl
    · exact IsWrittenForm.text.optional?_write rfl
  fits_write {room value decorations} hread hvalue := by
    obtain ⟨fields, hfields, hunique, hupdatable, halias⟩ := ofJson?_eq_some_iff.mp hread
    refine fits_record hfields hvalue fun hinner => ?_
    simp only [List.forall_mem_cons]
    exact ⟨IsWrittenForm.text.list.fits_of_optional? hinner hunique,
      IsWrittenForm.text.list.fits_of_optional? hinner hupdatable,
      IsWrittenForm.text.fits_of_optional? hinner halias, List.forall_mem_nil _⟩
  write_ne_null := nofun

end Decorations

namespace DomainObject

/-- A domain object is read from its four fields. -/
theorem ofJson?_eq_some_iff {value : Json} {object : DomainObject} :
    ofJson? value = some object ↔
      ∃ fields, fields? ["name", "variant", "properties"] ["decorations"] value = some fields ∧
        fields.required? "name" text? = some object.name ∧
        fields.required? "variant" (Variant.ofJson? false) = some object.variant ∧
        fields.required? "properties" Properties.ofJson? = some object.properties ∧
        fields.withDefault? "decorations" .none Decorations.ofJson? = some object.decorations := by
  obtain ⟨name, variant, properties, decorations⟩ := object
  simp [ofJson?, Option.bind_eq_some_iff]

/-- The written form of domain objects. -/
theorem isWrittenForm : IsWrittenForm ofJson? toJson where
  read?_write object := by
    refine ofJson?_eq_some_iff.mpr ⟨_, rfl, ?_, ?_, ?_, ?_⟩
    · exact IsWrittenForm.text.required?_write rfl
    · exact (Variant.isWrittenForm _).required?_write rfl
    · exact Properties.isWrittenForm.required?_write rfl
    · exact Decorations.isWrittenForm.withDefault?_write rfl
  fits_write {room value object} hread hvalue := by
    obtain ⟨fields, hfields, -, hvariant, hproperties, hdecorations⟩ :=
      ofJson?_eq_some_iff.mp hread
    refine fits_record hfields hvalue fun {inner} hinner => ?_
    have hwritten := Properties.isWrittenForm.fits_of_required? hinner hproperties
    have hdecorated : object.decorations.toJson.Fits inner := by
      rcases Fields.exists_of_withDefault? hdecorations with hnone | ⟨content, hcontent, hread⟩
      · -- There is room for the properties, hence for decorations that nest nothing.
        obtain ⟨room, rfl, -⟩ := hwritten.fields
        rw [hnone]
        refine .object ?_
        simp only [List.forall_mem_cons]
        exact ⟨.null, .null, .null, List.forall_mem_nil _⟩
      · exact Decorations.isWrittenForm.fits_write hread (hinner _ hcontent)
    simp only [List.forall_mem_cons]
    exact ⟨.string _, (Variant.isWrittenForm _).fits_of_required? hinner hvariant, hwritten,
      hdecorated, List.forall_mem_nil _⟩
  write_ne_null := nofun

end DomainObject

/-! ## Relationships -/

/-- The written form of methods. -/
theorem ReferenceMethod.isWrittenForm :
    IsWrittenForm ReferenceMethod.ofJson? ReferenceMethod.toJson where
  read?_write method := by cases method <;> rfl
  fits_write {_ _ method} _ _ := by cases method <;> exact .string _
  write_ne_null method := by cases method <;> nofun

namespace ColumnReference

/-- The reference of a column is read from its two fields. -/
theorem ofJson?_eq_some_iff {value : Json} {reference : ColumnReference} :
    ofJson? value = some reference ↔
      ∃ fields, fields? ["method", "of"] [] value = some fields ∧
        fields.required? "method" ReferenceMethod.ofJson? = some reference.method ∧
        fields.required? "of" (ObjectReference.ofJson? false) = some reference.target := by
  obtain ⟨method, target⟩ := reference
  simp [ofJson?, Option.bind_eq_some_iff]

/-- The written form of references of columns. -/
theorem isWrittenForm : IsWrittenForm ofJson? toJson where
  read?_write reference := by
    refine ofJson?_eq_some_iff.mpr ⟨_, rfl, ?_, ?_⟩
    · exact ReferenceMethod.isWrittenForm.required?_write rfl
    · exact (ObjectReference.isWrittenForm _).required?_write rfl
  fits_write {room value reference} hread hvalue := by
    obtain ⟨fields, hfields, hmethod, htarget⟩ := ofJson?_eq_some_iff.mp hread
    refine fits_record hfields hvalue fun hinner => ?_
    simp only [List.forall_mem_cons]
    exact ⟨ReferenceMethod.isWrittenForm.fits_of_required? hinner hmethod,
      (ObjectReference.isWrittenForm _).fits_of_required? hinner htarget, List.forall_mem_nil _⟩
  write_ne_null := nofun

end ColumnReference

namespace Column

/-- A column is read from its five fields. -/
theorem ofJson?_eq_some_iff {value : Json} {column : Column} :
    ofJson? value = some column ↔
      ∃ fields, fields? ["name", "is_nullable", "is_updatable", "is_array", "reference"] [] value =
          some fields ∧
        fields.required? "name" text? = some column.name ∧
        fields.required? "is_nullable" bool? = some column.isNullable ∧
        fields.required? "is_updatable" bool? = some column.isUpdatable ∧
        fields.required? "is_array" bool? = some column.isArray ∧
        fields.optional? "reference" ColumnReference.ofJson? = some column.reference := by
  obtain ⟨name, isNullable, isUpdatable, isArray, reference⟩ := column
  simp [ofJson?, Option.bind_eq_some_iff, -Bool.exists_bool]

/-- The written form of columns. -/
theorem isWrittenForm : IsWrittenForm ofJson? toJson where
  read?_write column := by
    refine ofJson?_eq_some_iff.mpr ⟨_, rfl, ?_, ?_, ?_, ?_, ?_⟩
    · exact IsWrittenForm.text.required?_write rfl
    · exact IsWrittenForm.bool.required?_write rfl
    · exact IsWrittenForm.bool.required?_write rfl
    · exact IsWrittenForm.bool.required?_write rfl
    · exact ColumnReference.isWrittenForm.optional?_write rfl
  fits_write {room value column} hread hvalue := by
    obtain ⟨fields, hfields, -, -, -, -, hreference⟩ := ofJson?_eq_some_iff.mp hread
    refine fits_record hfields hvalue fun hinner => ?_
    simp only [List.forall_mem_cons]
    exact ⟨.string _, .bool _, .bool _, .bool _,
      ColumnReference.isWrittenForm.fits_of_optional? hinner hreference, List.forall_mem_nil _⟩
  write_ne_null := nofun

end Column

namespace ColumnMapping

/-- A mapping is read from its two fields. -/
theorem ofJson?_eq_some_iff {value : Json} {mapping : ColumnMapping} :
    ofJson? value = some mapping ↔
      ∃ fields, fields? ["domain_object", "sql_schema"] [] value = some fields ∧
        fields.optional? "domain_object" Property.ofJson? = some mapping.property ∧
        fields.required? "sql_schema" Column.ofJson? = some mapping.column := by
  obtain ⟨property, column⟩ := mapping
  simp [ofJson?, Option.bind_eq_some_iff]

/-- The written form of mappings. -/
theorem isWrittenForm : IsWrittenForm ofJson? toJson where
  read?_write mapping := by
    refine ofJson?_eq_some_iff.mpr ⟨_, rfl, ?_, ?_⟩
    · exact Property.isWrittenForm.optional?_write rfl
    · exact Column.isWrittenForm.required?_write rfl
  fits_write {room value mapping} hread hvalue := by
    obtain ⟨fields, hfields, hproperty, hcolumn⟩ := ofJson?_eq_some_iff.mp hread
    refine fits_record hfields hvalue fun hinner => ?_
    simp only [List.forall_mem_cons]
    exact ⟨Property.isWrittenForm.fits_of_optional? hinner hproperty,
      Column.isWrittenForm.fits_of_required? hinner hcolumn, List.forall_mem_nil _⟩
  write_ne_null := nofun

end ColumnMapping

namespace UniqueKey

/-- A natural key is read from its two fields. -/
theorem ofJson?_eq_some_iff {value : Json} {key : UniqueKey} :
    ofJson? value = some key ↔
      ∃ fields, fields? ["domain_object", "sql_schema"] [] value = some fields ∧
        fields.required? "domain_object" (list? text?) = some key.properties ∧
        fields.required? "sql_schema" (list? text?) = some key.columns := by
  obtain ⟨properties, columns⟩ := key
  simp [ofJson?, Option.bind_eq_some_iff]

/-- The written form of natural keys. -/
theorem isWrittenForm : IsWrittenForm ofJson? toJson where
  read?_write key := by
    refine ofJson?_eq_some_iff.mpr ⟨_, rfl, ?_, ?_⟩
    · exact IsWrittenForm.text.list.required?_write rfl
    · exact IsWrittenForm.text.list.required?_write rfl
  fits_write {room value key} hread hvalue := by
    obtain ⟨fields, hfields, hproperties, hcolumns⟩ := ofJson?_eq_some_iff.mp hread
    refine fits_record hfields hvalue fun hinner => ?_
    simp only [List.forall_mem_cons]
    exact ⟨IsWrittenForm.text.list.fits_of_required? hinner hproperties,
      IsWrittenForm.text.list.fits_of_required? hinner hcolumns, List.forall_mem_nil _⟩
  write_ne_null := nofun

end UniqueKey

namespace Relationship

/-- The names of a relationship have a written form. -/
theorem isWrittenForm_names : IsWrittenForm namesOfJson? fun names =>
    .object [("sql_schema", .string names.1), ("domain_object", .string names.2)] where
  read?_write names := rfl
  fits_write {room value names} hread hvalue := by
    obtain ⟨fields, hfields, -⟩ := Option.bind_eq_some_iff.mp hread
    refine fits_record hfields hvalue fun _ => ?_
    simp only [List.forall_mem_cons]
    exact ⟨.string _, .string _, List.forall_mem_nil _⟩
  write_ne_null := nofun

/-- The natural key is read from the one field of the decorations. -/
theorem uniqueOfJson?_eq_some_iff {value : Json} {key : UniqueKey} :
    uniqueOfJson? value = some key ↔
      ∃ fields, fields? ["unique"] [] value = some fields ∧
        fields.required? "unique" UniqueKey.ofJson? = some key := by
  simp [uniqueOfJson?, Option.bind_eq_some_iff]

/-- The natural key has a written form in the decorations of a relationship. -/
theorem isWrittenForm_unique :
    IsWrittenForm uniqueOfJson? fun key => .object [("unique", key.toJson)] where
  read?_write key :=
    uniqueOfJson?_eq_some_iff.mpr ⟨_, rfl, UniqueKey.isWrittenForm.required?_write rfl⟩
  fits_write {room value key} hread hvalue := by
    obtain ⟨fields, hfields, hunique⟩ := uniqueOfJson?_eq_some_iff.mp hread
    refine fits_record hfields hvalue fun hinner => List.forall_mem_singleton.mpr ?_
    exact UniqueKey.isWrittenForm.fits_of_required? hinner hunique
  write_ne_null := nofun

/-- A relationship is read from its three fields. -/
theorem ofJson?_eq_some_iff {value : Json} {relationship : Relationship} :
    ofJson? value = some relationship ↔
      ∃ fields, fields? ["name", "properties", "decorations"] [] value = some fields ∧
        fields.required? "name" namesOfJson? =
          some (relationship.table, relationship.domainObject) ∧
        fields.required? "properties" (list? ColumnMapping.ofJson?) = some relationship.mappings ∧
        fields.required? "decorations" uniqueOfJson? = some relationship.unique := by
  obtain ⟨table, domainObject, mappings, unique⟩ := relationship
  simp [ofJson?, Option.bind_eq_some_iff]

/-- The written form of relationships. -/
theorem isWrittenForm : IsWrittenForm ofJson? toJson where
  read?_write relationship := by
    refine ofJson?_eq_some_iff.mpr ⟨_, rfl, ?_, ?_, ?_⟩
    · exact isWrittenForm_names.required?_write rfl
    · exact ColumnMapping.isWrittenForm.list.required?_write rfl
    · exact isWrittenForm_unique.required?_write rfl
  fits_write {room value relationship} hread hvalue := by
    obtain ⟨fields, hfields, hnames, hmappings, hunique⟩ := ofJson?_eq_some_iff.mp hread
    refine fits_record hfields hvalue fun hinner => ?_
    simp only [List.forall_mem_cons]
    exact ⟨isWrittenForm_names.fits_of_required? hinner hnames,
      ColumnMapping.isWrittenForm.list.fits_of_required? hinner hmappings,
      isWrittenForm_unique.fits_of_required? hinner hunique, List.forall_mem_nil _⟩
  write_ne_null := nofun

end Relationship

/-! ## Texts -/

namespace Metadata

section

variable {α : Type} {read? : Json → Option α} {write : α → Json} (h : IsWrittenForm read? write)
  {x : α}

include h

/-- What is read from a text is written within the limits of reading. -/
theorem IsWrittenForm.fits_of_read {text : String}
    (hread : (do let value ← Json.parse? text; read? value) = some x) :
    (write x).Fits Json.maxDepth := by
  obtain ⟨value, hparse, hvalue⟩ := Option.bind_eq_some_iff.mp hread
  exact h.fits_write hvalue (Json.fits_of_parse? hparse)

/-- What is written is read back from its text exactly if it is within the limits of reading. -/
theorem IsWrittenForm.read_render_iff :
    (do let value ← Json.parse? (write x).render; read? value) = some x ↔
      (write x).Fits Json.maxDepth := by
  constructor
  · exact h.fits_of_read
  · intro hfits
    rw [Json.parse?_render_iff.mpr hfits]
    exact h.read?_write x

end

/-- The domain objects, or the relationship, that a text is read as are read back from what is
written for them, with the properties under the same keys in the same order. So to write what is
read from a text changes nothing in a text that has been written so. -/
theorem read_write_of_read :
    (∀ text objects, readObjects? text = some objects →
      readObjects? (writeObjects objects) = some objects) ∧
    (∀ text relationship, readRelationship? text = some relationship →
      readRelationship? (writeRelationship relationship) = some relationship) ∧
    (∀ text written, (readObjects? text).map writeObjects = some written →
      (readObjects? written).map writeObjects = some written) ∧
    ∀ text written, (readRelationship? text).map writeRelationship = some written →
      (readRelationship? written).map writeRelationship = some written := by
  have hobjects : ∀ text objects, readObjects? text = some objects →
      readObjects? (writeObjects objects) = some objects := by
    intro text objects h
    unfold readObjects? at h
    unfold readObjects? writeObjects
    exact DomainObject.isWrittenForm.list.read_render_iff.mpr
      (DomainObject.isWrittenForm.list.fits_of_read h)
  have hrelationship : ∀ text relationship, readRelationship? text = some relationship →
      readRelationship? (writeRelationship relationship) = some relationship := by
    intro text relationship h
    unfold readRelationship? at h
    unfold readRelationship? writeRelationship
    exact Relationship.isWrittenForm.read_render_iff.mpr
      (Relationship.isWrittenForm.fits_of_read h)
  -- What is written for a text is itself a text, so writing again is the first part once more.
  refine ⟨hobjects, hrelationship, fun text written h => ?_, fun text written h => ?_⟩
  · obtain ⟨objects, hread, rfl⟩ := Option.map_eq_some_iff.mp h
    rw [hobjects text objects hread, Option.map_some]
  · obtain ⟨relationship, hread, rfl⟩ := Option.map_eq_some_iff.mp h
    rw [hrelationship text relationship hread, Option.map_some]

/-- A text for two objects. In that of the seat, a name is spelled by number, a field is not known
and could not be taken in, a type is of something before its kind is given, a key is repeated, and
decorations are left out. The train is a list, its variant and a kind stand in objects of their own,
and a kind that is held back is given by its number. -/
def objectsText : String :=
  "[\x7b\"variant\":\"LITERAL\", " ++
    "\"name\":\"\\u0053eat\", \"x\":[1e999]," ++
    "\"properties\":\x7b\"row\":\x7b\"name\":\"\"," ++
    "\"type\":\x7b\"kind\":\"date\"\x7d\x7d," ++
    "\"tags\":\x7b\"type\":\x7b\"of\":\x7b" ++
    "\"kind\":\"enum\",\"of\":[\"\\ud83d\\ude82\\n\"]\x7d," ++
    "\"kind\":\"array\"\x7d,\"name\":\"tags\"\x7d," ++
    "\"row\":\x7b\"name\":\"row\"," ++
    "\"type\":\x7b\"kind\":\"number\"\x7d\x7d\x7d\x7d," ++
    "[\"Train\",\x7b\"EVENT\":null\x7d," ++
    "\x7b\"seats\":[\"seats\",\x7b\"of\":[5," ++
    "[\"Seat\",\x7b\"LITERAL\":\x7b\x7d\x7d]]," ++
    "\"kind\":\x7b\"array\":null\x7d\x7d,true]\x7d," ++
    "[[\"seats\"]]]]"

/-- The seat of the text. -/
def seat : DomainObject :=
  { DomainObject.bare "Seat" .literal with
    properties := .ofList [("row", ⟨"row", .number, false, false⟩),
      ("tags", ⟨"tags", .array (.enum ["🚂\n"]), false, false⟩)] }

/-- The train of the text. -/
def train : DomainObject :=
  { DomainObject.bare "Train" .event with
    properties := .ofList
      [("seats", ⟨"seats", .array (.reference ⟨"Seat", .literal⟩), true, false⟩)]
    decorations := ⟨some ["seats"], none, none⟩ }

/-- A text for a relationship that has one column, which stores no property. The names and the
column are lists. -/
def emptyTableText : String :=
  "\x7b\"name\":[\"seat\",\"Seat\"]," ++
    "\"properties\":[\x7b" ++
    "\"sql_schema\":[\"id\",false,false,false,null]" ++
    "\x7d],\"decorations\":\x7b" ++
    "\"unique\":\x7b\"domain_object\":[],\"sql_schema\":[]\x7d\x7d\x7d"

/-- The relationship that the text is read as. -/
def emptyTable : Relationship :=
  ⟨"seat", "Seat", [⟨none, .reserved "id"⟩], ⟨[], []⟩⟩

/-- The objects and the table are read back from what is written for them. -/
theorem read_write_seat :
    readObjects? objectsText = some [seat, train] ∧
      readObjects? (writeObjects [seat, train]) = some [seat, train] ∧
      readRelationship? emptyTableText = some emptyTable ∧
      readRelationship? (writeRelationship emptyTable) = some emptyTable := by
  obtain ⟨hobjects, hrelationship, -, -⟩ := read_write_of_read
  -- The characters of a long text are found faster line by line.
  have hread : readObjects? objectsText = some [seat, train] := by
    unfold readObjects? Json.parse? objectsText
    simp only [String.toList_append]
    decide +kernel
  have htable : readRelationship? emptyTableText = some emptyTable := by
    unfold readRelationship? Json.parse? emptyTableText
    simp only [String.toList_append]
    decide +kernel
  exact ⟨hread, hobjects _ _ hread, htable, hrelationship _ _ htable⟩

end Metadata

end DomainTables
