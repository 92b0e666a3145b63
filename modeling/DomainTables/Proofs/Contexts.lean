import DomainTables.Proofs.Culprit

/-!
# What an error in contexts tells

An error that was put into contexts is a chain of links, the context that was added last in front
and the root cause at the end. It displays the messages of all of them, it is of a kind as soon as
one of them is, and what it answers is what the first of them answers that has an answer
(`Error.Tells`). So no context hides the cause, but a context may answer in front of it.

A remark is a link without an answer and of no kind. Putting an error into a remark changes what is
displayed and nothing else (`Error.answersLike_inContext`), and so does putting it into any number
of remarks, one after another (`Error.answersLike_inContexts`).
-/

namespace DomainTables

/-! ## Links that answer -/

/-- The answer is that of the first link that has one. There is none if no link has one. -/
def IsFirstAnswer {α : Type} (answer : Cause → Option α) (links : List Cause) : Option α → Prop
  | some value =>
    ∃ before link after, links = before ++ link :: after ∧
      (∀ passed ∈ before, answer passed = none) ∧ answer link = some value
  | none => ∀ link ∈ links, answer link = none

/-- A search through the links finds the first answer. -/
theorem isFirstAnswer_findSome? {α : Type} (answer : Cause → Option α) (links : List Cause) :
    IsFirstAnswer answer links (links.findSome? answer) := by
  cases h : links.findSome? answer with
  | none => exact List.findSome?_eq_none_iff.mp h
  | some value =>
    obtain ⟨before, link, after, hlinks, hlink, hbefore⟩ := List.findSome?_eq_some_iff.mp h
    exact ⟨before, link, after, hlinks, hbefore, hlink⟩

/-- A link that says something and finds no fault: a message of the moment, or an error of another
program. -/
inductive Cause.IsRemark : Cause → Prop where
  /-- A message of the moment. -/
  | message (text : String) : IsRemark (.message text)
  /-- An error of another program. -/
  | foreign (text : String) : IsRemark (.foreign text)

namespace Error

/-! ## Chains that tell -/

/-- What an error tells is told by the given links, the outermost first. -/
structure Tells (error : Error) (links : List Cause) : Prop where
  /-- The messages of all links are displayed, with a colon and a blank between them. -/
  display : error.display = ": ".intercalate (links.map Cause.display)
  /-- The declarations are at fault if they are for some link. -/
  isConfiguration : error.isConfiguration = true ↔ ∃ link ∈ links, link.isConfiguration = true
  /-- A promise was broken if it was for some link. -/
  isInternalConsistency :
    error.isInternalConsistency = true ↔ ∃ link ∈ links, link.isInternalConsistency = true
  /-- References form a cycle if they do for some link. -/
  isCyclicReference :
    error.isCyclicReference = true ↔ ∃ link ∈ links, link.isCyclicReference = true
  /-- The candidates are those of the first link that has candidates. -/
  candidates : IsFirstAnswer Cause.candidates? links error.candidates?
  /-- The domain object is that of the first link that is about one. -/
  domainObject : IsFirstAnswer Cause.domainObject? links error.domainObject?
  /-- The property is that of the first link that is about one. -/
  property : IsFirstAnswer Cause.property? links error.property?

/-- What an error tells is told by its chain. -/
theorem tells_chain (error : Error) : error.Tells error.chain where
  display := rfl
  isConfiguration := List.any_eq_true
  isInternalConsistency := List.any_eq_true
  isCyclicReference := List.any_eq_true
  candidates := isFirstAnswer_findSome? Cause.candidates? error.chain
  domainObject := isFirstAnswer_findSome? Cause.domainObject? error.chain
  property := isFirstAnswer_findSome? Cause.property? error.chain

/-- Two errors give the same answers, whatever they display. -/
structure AnswersLike (error other : Error) : Prop where
  /-- The declarations are at fault for both or for none. -/
  isConfiguration : error.isConfiguration = other.isConfiguration
  /-- A promise was broken for both or for none. -/
  isInternalConsistency : error.isInternalConsistency = other.isInternalConsistency
  /-- References form a cycle for both or for none. -/
  isCyclicReference : error.isCyclicReference = other.isCyclicReference
  /-- Both have the same candidates. -/
  candidates : error.candidates? = other.candidates?
  /-- Both are about the same domain object. -/
  domainObject : error.domainObject? = other.domainObject?
  /-- Both are about the same property. -/
  property : error.property? = other.property?

/-- An error gives its own answers. -/
theorem AnswersLike.refl (error : Error) : error.AnswersLike error :=
  ⟨rfl, rfl, rfl, rfl, rfl, rfl⟩

/-- An error gives the answers of a third one if it gives those of one that does. -/
theorem AnswersLike.trans {error other third : Error} (h : error.AnswersLike other)
    (hthird : other.AnswersLike third) : error.AnswersLike third where
  isConfiguration := h.isConfiguration.trans hthird.isConfiguration
  isInternalConsistency := h.isInternalConsistency.trans hthird.isInternalConsistency
  isCyclicReference := h.isCyclicReference.trans hthird.isCyclicReference
  candidates := h.candidates.trans hthird.candidates
  domainObject := h.domainObject.trans hthird.domainObject
  property := h.property.trans hthird.property

/-- An error gives the same answers in a remark as without it. -/
theorem answersLike_inContext (error : Error) {context : Cause} (h : context.IsRemark) :
    (error.inContext context).AnswersLike error := by
  cases h with
  | message => exact ⟨rfl, rfl, rfl, rfl, rfl, rfl⟩
  | foreign => exact ⟨rfl, rfl, rfl, rfl, rfl, rfl⟩

/-- An error gives the same answers in remarks as without them. -/
theorem answersLike_inContexts (error : Error) {contexts : List Cause}
    (h : ∀ context ∈ contexts, context.IsRemark) :
    (error.inContexts contexts).AnswersLike error := by
  induction contexts generalizing error with
  | nil => exact .refl error
  | cons context rest ih =>
    obtain ⟨hcontext, hrest⟩ := List.forall_mem_cons.mp h
    -- The first context is the innermost one, so the others are put around both.
    exact (ih (error.inContext context) hrest).trans (error.answersLike_inContext hcontext)

/-- Contexts do not hide a cause: all links are displayed, the one that was added last in front, an
error is of a kind if one of its links is, and the first link with an answer is the one that
answers. Remarks leave every answer to the cause. -/
theorem tells_inContexts (root : Cause) (contexts : List Cause) :
    ((ofCause root).inContexts contexts).Tells (contexts.reverse ++ [root]) ∧
    ((∀ context ∈ contexts, context.IsRemark) →
      ((ofCause root).inContexts contexts).AnswersLike (ofCause root)) := by
  refine ⟨?_, answersLike_inContexts (ofCause root)⟩
  have hchain : ((ofCause root).inContexts contexts).chain = contexts.reverse ++ [root] :=
    chain_inContexts (ofCause root) contexts
  exact hchain ▸ tells_chain _

/-- A train that lacks a natural key. -/
def keylessTrain : Cause :=
  .configuration "Train" none (.missingUnique .entity)

/-- The remarks of the step that failed, and of the program that asked for it. -/
def stepRemarks : List Cause :=
  [.message "deriving relationships", .foreign "request 7"]

/-- Under the remarks the train is still what is at fault, and its message is at the end. -/
theorem tells_inContexts_keylessTrain :
    (∀ context ∈ stepRemarks, context.IsRemark) ∧
    ((ofCause keylessTrain).inContexts stepRemarks).display =
      "request 7: deriving relationships: invalid domain object `Train`: an entity must declare " ++
        "`unique`, the properties forming its natural key" ∧
    ((ofCause keylessTrain).inContexts stepRemarks).domainObject? = some "Train" := by
  have hremarks : ∀ context ∈ stepRemarks, context.IsRemark :=
    List.forall_mem_cons.mpr ⟨.message _, List.forall_mem_singleton.mpr (.foreign _)⟩
  obtain ⟨htells, hanswers⟩ := tells_inContexts keylessTrain stepRemarks
  exact ⟨hremarks, htells.display, (hanswers hremarks).domainObject⟩

end Error

end DomainTables
