import DomainTables.Json.Reader
import DomainTables.Proofs.Tokens

/-!
# Values that are read back

What a JSON text is read as keeps to the limits of reading: no array or object is nested too deep,
and no number is too large (`Json.fits_of_parse?`). The parts for which this would not hold have
been replaced, and what is open while a text is read says how deep a value stands, so the limits are
an invariant of the machine (`Builder.IsWithin.step`).

The other way round, a value within the limits is read back from its text
(`Json.parse?_render_iff`). Its tokens take the machine from where the value has to come to what
follows the value, whatever arrays and objects are open around it (`Builder.leads_tokens`).
-/

namespace DomainTables.Json

/-! ## Values within the limits -/

/-- A value in which arrays and objects are nested no deeper than `room`, and numbers are finite as
doubles. What cannot be taken in may be anywhere in it. -/
inductive Fits : Nat → Json → Prop where
  /-- The absence of a value fits. -/
  | null {room : Nat} : Fits room .null
  /-- A truth value fits. -/
  | bool {room : Nat} (b : Bool) : Fits room (.bool b)
  /-- A finite number fits. -/
  | number {room : Nat} {numeral : Numeral} : numeral.isFinite = true → Fits room (.number numeral)
  /-- A text fits. -/
  | string {room : Nat} (text : String) : Fits room (.string text)
  /-- An array takes one level, and its items have what is left. -/
  | array {room : Nat} {items : List Json} :
      (∀ item ∈ items, Fits room item) → Fits (room + 1) (.array items)
  /-- An object takes one level, and its fields have what is left. -/
  | object {room : Nat} {fields : List (String × Json)} :
      (∀ field ∈ fields, Fits room field.2) → Fits (room + 1) (.object fields)
  /-- What cannot be taken in fits. -/
  | unreadable {room : Nat} : Fits room .unreadable

namespace Fits

variable {room : Nat}

/-- A number that fits is finite. -/
theorem isFinite {numeral : Numeral} (h : Fits room (.number numeral)) :
    numeral.isFinite = true := by
  cases h with
  | number hfinite => exact hfinite

/-- The items of an array that fits have one level less. -/
theorem items {items : List Json} (h : Fits room (.array items)) :
    ∃ inner, room = inner + 1 ∧ ∀ item ∈ items, Fits inner item := by
  cases h with
  | array hitems => exact ⟨_, rfl, hitems⟩

/-- The fields of an object that fits have one level less. -/
theorem fields {fields : List (String × Json)} (h : Fits room (.object fields)) :
    ∃ inner, room = inner + 1 ∧ ∀ field ∈ fields, Fits inner field.2 := by
  cases h with
  | object hfields => exact ⟨_, rfl, hfields⟩

end Fits

namespace Builder

/-! ## Reading the tokens of a value -/

/-- An array or object that is not nested too deep is kept. -/
theorem node_of_lt {frames : List Frame} (h : frames.length < maxDepth) (value : Json) :
    node frames value = some (.after frames value) := by
  rw [node, if_pos h]

/-- Tokens lead the machine on. -/
def Leads (builder : Builder) (tokens : List Token) (next : Builder) : Prop :=
  tokens.foldlM step builder = some next

/-- Tokens one after another lead the machine on step by step. -/
theorem Leads.append {builder middle next : Builder} {tokens tokens' : List Token}
    (h : builder.Leads tokens middle) (h' : middle.Leads tokens' next) :
    builder.Leads (tokens ++ tokens') next := by
  unfold Leads at h h' ⊢
  rw [List.foldlM_append, h]
  exact h'

/-- A token leads the machine on by one step. -/
theorem Leads.cons {builder middle next : Builder} {token : Token} {tokens : List Token}
    (h : builder.step token = some middle) (h' : middle.Leads tokens next) :
    builder.Leads (token :: tokens) next := by
  unfold Leads at h' ⊢
  rw [List.foldlM_cons, h]
  exact h'

/-- The first item of an array is read like any other value. -/
theorem Leads.itemOrEnd {frames : List Frame} {value : Json} {next : Builder}
    (h : (Builder.value (.array [] :: frames)).Leads value.tokens next) :
    (Builder.itemOrEnd frames).Leads value.tokens next := by
  cases value with
  | array items => cases items <;> exact h
  | object fields => cases fields <;> exact h
  | null | bool | number | string | unreadable => exact h

section

variable {frames : List Frame} (hdepth : frames.length < maxDepth)

include hdepth

/-- The further items of an array and its end lead to what follows the array. -/
theorem leads_itemTokens {items : List Json}
    (h : ∀ item ∈ items, ∀ seen, (Builder.value (.array seen :: frames)).Leads item.tokens
      (.after (.array seen :: frames) item)) (seen : List Json) (value : Json) :
    (Builder.after (.array seen :: frames) value).Leads (itemTokens items ++ [.closeArray])
      (.after frames (.array (seen.reverse ++ value :: items))) := by
  induction items generalizing seen value with
  | nil =>
    refine .cons (node_of_lt hdepth _) ?_
    rw [List.reverse_cons]
    rfl
  | cons item items ih =>
    obtain ⟨hitem, hitems⟩ := List.forall_mem_cons.mp h
    -- The item that is read becomes the last one of those seen, which are kept in reverse.
    have hrest := ih hitems (value :: seen) item
    rw [List.reverse_cons, List.append_assoc, List.singleton_append] at hrest
    rw [itemTokens, List.append_assoc]
    exact .cons rfl ((hitem _).append hrest)

/-- The further fields of an object and its end lead to what follows the object. -/
theorem leads_fieldTokens {fields : List (String × Json)}
    (h : ∀ field ∈ fields, ∀ seen,
      (Builder.value (.object (some seen) (some field.1) :: frames)).Leads field.2.tokens
        (.after (.object (some seen) (some field.1) :: frames) field.2))
    (seen : List (String × Json)) (key : String) (value : Json) :
    (Builder.after (.object (some seen) (some key) :: frames) value).Leads
      (fieldTokens fields ++ [.closeObject])
      (.after frames (.object (seen.reverse ++ (key, value) :: fields))) := by
  induction fields generalizing seen key value with
  | nil =>
    refine .cons (node_of_lt hdepth _) ?_
    rw [OpenFields.add, OpenFields.close, List.reverse_cons]
    rfl
  | cons field fields ih =>
    obtain ⟨hfield, hfields⟩ := List.forall_mem_cons.mp h
    have hrest := ih hfields ((key, value) :: seen) field.1 field.2
    rw [List.reverse_cons, List.append_assoc, List.singleton_append] at hrest
    rw [fieldTokens, List.append_assoc]
    -- A comma, a name and a colon come before each further value.
    exact .cons rfl (.cons rfl (.cons rfl ((hfield _).append hrest)))

end

/-- Within an array or object there is one level less. -/
theorem room_cons {frames : List Frame} {room : Nat} (h : maxDepth - frames.length = room + 1)
    (frame : Frame) : maxDepth - (frame :: frames).length = room := by
  rw [List.length_cons]
  omega

/-- Where a value has to come, the tokens of one that fits lead to what follows it. -/
theorem leads_tokens {frames : List Frame} {value : Json}
    (h : value.Fits (maxDepth - frames.length)) :
    (Builder.value frames).Leads value.tokens (.after frames value) := by
  induction value using Json.induction generalizing frames with
  | null => rfl
  | bool b => rfl
  | number numeral =>
    refine .cons ?_ rfl
    rw [step, stepValue, if_pos h.isFinite, leaf]
  | string text => rfl
  | array items ih =>
    obtain ⟨room, hroom, hitems⟩ := h.items
    -- There is room for the array, so its closing bracket keeps it.
    have hdepth : frames.length < maxDepth := by omega
    have hinner : ∀ item ∈ items, ∀ seen,
        (Builder.value (.array seen :: frames)).Leads item.tokens
          (.after (.array seen :: frames) item) := by
      intro item hitem seen
      exact ih item hitem (room_cons hroom _ ▸ hitems item hitem)
    cases items with
    | nil => exact .cons rfl (.cons (node_of_lt hdepth _) rfl)
    | cons item items =>
      obtain ⟨hitem, hrest⟩ := List.forall_mem_cons.mp hinner
      rw [tokens, List.append_assoc]
      exact .cons rfl ((hitem []).itemOrEnd.append (leads_itemTokens hdepth hrest [] item))
  | object fields ih =>
    obtain ⟨room, hroom, hfields⟩ := h.fields
    have hdepth : frames.length < maxDepth := by omega
    have hinner : ∀ field ∈ fields, ∀ seen,
        (Builder.value (.object (some seen) (some field.1) :: frames)).Leads field.2.tokens
          (.after (.object (some seen) (some field.1) :: frames) field.2) := by
      intro field hfield seen
      exact ih field hfield (room_cons hroom _ ▸ hfields field hfield)
    cases fields with
    | nil => exact .cons rfl (.cons (node_of_lt hdepth _) rfl)
    | cons field fields =>
      obtain ⟨hfield, hrest⟩ := List.forall_mem_cons.mp hinner
      rw [tokens, List.append_assoc]
      exact .cons rfl (.cons rfl (.cons rfl
        ((hfield []).append (leads_fieldTokens hdepth hrest [] field.1 field.2))))
  | unreadable => rfl

/-! ## What a text is read as -/

/-- What an array or object with `frames` open around it holds so far fits what is left there. -/
def OpenFieldsFit (frames : List Frame) (fields : OpenFields) : Prop :=
  ∀ known ∈ fields, ∀ field ∈ known, field.2.Fits (maxDepth - (frames.length + 1))

/-- What is open holds values that fit where they stand. -/
def FramesFit : List Frame → Prop
  | [] => True
  | .array items :: frames =>
    (∀ item ∈ items, item.Fits (maxDepth - (frames.length + 1))) ∧ FramesFit frames
  | .object fields _ :: frames => OpenFieldsFit frames fields ∧ FramesFit frames

/-- All values that the machine has read fit where they stand. -/
def IsWithin : Builder → Prop
  | .value frames => FramesFit frames
  | .itemOrEnd frames => FramesFit frames
  | .fieldOrEnd frames => FramesFit frames
  | .field frames fields => OpenFieldsFit frames fields ∧ FramesFit frames
  | .colon frames fields _ => OpenFieldsFit frames fields ∧ FramesFit frames
  | .after frames complete => complete.Fits (maxDepth - frames.length) ∧ FramesFit frames

/-- A field with a value that fits can be added. -/
theorem OpenFieldsFit.add {frames : List Frame} {fields : OpenFields}
    (h : OpenFieldsFit frames fields) {value : Json}
    (hvalue : value.Fits (maxDepth - (frames.length + 1))) (key : Option String) :
    OpenFieldsFit frames (fields.add key value) := by
  unfold OpenFields.add
  split
  · next known name =>
    rintro _ ⟨⟩ field hfield
    rcases List.mem_cons.mp hfield with rfl | hfield
    · exact hvalue
    · exact h known rfl field hfield
  · rintro _ ⟨⟩

/-- An array or object of values that fit one level deeper is kept, or is replaced where it stands
too deep. -/
theorem isWithin_node {frames : List Frame} {complete : Json}
    (hcomplete : complete.Fits (maxDepth - (frames.length + 1) + 1)) (hframes : FramesFit frames)
    {next : Builder} (h : node frames complete = some next) : next.IsWithin := by
  unfold node at h
  split at h
  · next hdepth =>
    have hroom : maxDepth - (frames.length + 1) + 1 = maxDepth - frames.length := by omega
    cases h
    exact ⟨hroom ▸ hcomplete, hframes⟩
  · cases h
    exact ⟨.unreadable, hframes⟩

/-- The fields of an object make up one that fits. -/
theorem OpenFieldsFit.close {frames : List Frame} {fields : OpenFields}
    (h : OpenFieldsFit frames fields) :
    fields.close.Fits (maxDepth - (frames.length + 1) + 1) := by
  cases fields with
  | none => exact .unreadable
  | some known =>
    exact .object fun field hfield => h known rfl field (List.mem_reverse.mp hfield)

/-- A token where a value has to come keeps the limits. -/
theorem isWithin_stepValue {frames : List Frame} (hframes : FramesFit frames) {token : Token}
    {next : Builder} (h : stepValue frames token = some next) : next.IsWithin := by
  -- One case for each token that begins a value. Only a number has a limit of its own; brackets
  -- open a frame, which holds nothing yet.
  unfold stepValue at h
  split at h
  · cases h
    exact ⟨.null, hframes⟩
  · cases h
    exact ⟨.bool _, hframes⟩
  · split at h
    · next hfinite =>
      cases h
      exact ⟨.number hfinite, hframes⟩
    · cases h
      exact ⟨.unreadable, hframes⟩
  · cases h
    exact ⟨.string _, hframes⟩
  · cases h
    exact ⟨.unreadable, hframes⟩
  · cases h
    exact hframes
  · cases h
    exact hframes
  · cases h

/-- A token after a complete value keeps the limits. -/
theorem isWithin_stepAfter {frames : List Frame} {complete : Json}
    (hcomplete : complete.Fits (maxDepth - frames.length)) (hframes : FramesFit frames)
    {token : Token} {next : Builder} (h : stepAfter frames complete token = some next) :
    next.IsWithin := by
  -- A comma adds the complete value to the innermost frame, and a closing bracket makes a value of
  -- the frame, one level further out.
  unfold stepAfter at h
  split at h
  · next items frames =>
    obtain ⟨hitems, hframes⟩ := hframes
    cases h
    exact ⟨List.forall_mem_cons.mpr ⟨hcomplete, hitems⟩, hframes⟩
  · next items frames =>
    obtain ⟨hitems, hframes⟩ := hframes
    refine isWithin_node (.array fun item hitem => ?_) hframes h
    exact List.forall_mem_cons.mpr ⟨hcomplete, hitems⟩ item (List.mem_reverse.mp hitem)
  · next fields key frames =>
    obtain ⟨hfields, hframes⟩ := hframes
    cases h
    exact ⟨hfields.add hcomplete key, hframes⟩
  · next fields key frames =>
    obtain ⟨hfields, hframes⟩ := hframes
    exact isWithin_node (hfields.add hcomplete key).close hframes h
  · cases h

/-- A step keeps the limits. -/
theorem IsWithin.step {builder : Builder} (hbuilder : builder.IsWithin) {token : Token}
    {next : Builder} (h : builder.step token = some next) : next.IsWithin := by
  have hnone : ∀ frames, OpenFieldsFit frames (some []) := by
    rintro frames _ ⟨⟩ field hfield
    cases hfield
  -- One case for each position and token. Names, colons and commas leave all values as they are.
  unfold Builder.step at h
  split at h
  · exact isWithin_stepValue hbuilder h
  · exact isWithin_node (.array (List.forall_mem_nil _)) hbuilder h
  · next frames _ =>
    have hopen : FramesFit (.array [] :: frames) := ⟨List.forall_mem_nil _, hbuilder⟩
    exact isWithin_stepValue hopen h
  · exact isWithin_node (.object (List.forall_mem_nil _)) hbuilder h
  · cases h
    exact ⟨hnone _, hbuilder⟩
  · cases h
  · cases h
    exact hbuilder
  · cases h
  · cases h
    exact hbuilder
  · cases h
  · exact isWithin_stepAfter hbuilder.1 hbuilder.2 h

/-- All steps together keep the limits. -/
theorem IsWithin.foldlM {builder : Builder} (hbuilder : builder.IsWithin) {tokens : List Token}
    {next : Builder} (h : tokens.foldlM Builder.step builder = some next) : next.IsWithin := by
  induction tokens generalizing builder with
  | nil =>
    cases h
    exact hbuilder
  | cons token tokens ih =>
    rw [List.foldlM_cons] at h
    obtain ⟨middle, hmiddle, hrest⟩ := Option.bind_eq_some_iff.mp h
    exact ih (hbuilder.step hmiddle) hrest

end Builder

/-- What a text is read as is within the limits. -/
theorem fits_of_parse? {text : String} {value : Json} (h : parse? text = some value) :
    value.Fits maxDepth := by
  obtain ⟨tokens, -, htokens⟩ := Option.bind_eq_some_iff.mp h
  obtain ⟨builder, hbuilder, hfinish⟩ := Option.bind_eq_some_iff.mp htokens
  have hstart : (Builder.value []).IsWithin := trivial
  have hend := hstart.foldlM hbuilder
  unfold Builder.finish? at hfinish
  split at hfinish
  · cases hfinish
    exact hend.1
  · cases hfinish

/-- A value is read back from its text exactly if it is within the limits. -/
theorem parse?_render_iff {value : Json} :
    parse? value.render = some value ↔ value.Fits maxDepth := by
  constructor
  · exact fits_of_parse?
  · intro h
    have hleads : (Builder.value []).Leads value.tokens (.after [] value) :=
      Builder.leads_tokens h
    unfold Builder.Leads at hleads
    rw [parse?, render, String.toList_ofList, tokens?_write]
    dsimp only [bind, Option.bind_some]
    rw [ofTokens?, hleads]
    rfl

end DomainTables.Json
