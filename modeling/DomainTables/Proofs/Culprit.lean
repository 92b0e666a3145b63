import Mathlib.Tactic.ByContra
import DomainTables.Error

/-!
# Whom an error blames

An error reports a domain object and, where it has one, a property of it. Either report is that of
the outermost link of the chain that has one, and the two are looked for apart. A link that finds
fault with an object as a whole has the one and not the other, so it is heard about the object and
passed over for the property. Whether the property belongs to the object then depends on the links
further in (`Error.hasOneCulprit_iff`): the reports are mixed exactly if the outermost fault is with
a whole object, while the outermost fault with a property is with one of another object, and no link
from there inward finds fault with a property of that name of the first.
-/

namespace DomainTables

/-! ## Links -/

/-- The link finds fault with a property of a domain object. -/
inductive Cause.Blames : Cause → String → String → Prop where
  /-- The property breaks a rule. -/
  | configuration (domainObject property : String) (violation : Violation) :
      Blames (.configuration domainObject (some property) violation) domainObject property
  /-- The property could refer to any of several domain objects. -/
  | ambiguousReference (domainObject property : String) (candidates : List String) :
      Blames (.ambiguousReference domainObject property candidates) domainObject property

namespace Cause

/-- A link finds fault with a property of an object exactly if it answers with both. -/
theorem blames_iff {link : Cause} {domainObject property : String} :
    link.Blames domainObject property ↔
      link.domainObject? = some domainObject ∧ link.property? = some property := by
  constructor
  · intro h
    cases h with
    | configuration => exact ⟨rfl, rfl⟩
    | ambiguousReference => exact ⟨rfl, rfl⟩
  · rintro ⟨hobject, hproperty⟩
    cases link with
    | configuration name found violation =>
      obtain rfl : name = domainObject := Option.some.inj hobject
      obtain rfl : found = some property := hproperty
      exact .configuration name property violation
    | ambiguousReference name found candidates =>
      obtain rfl : name = domainObject := Option.some.inj hobject
      obtain rfl : found = property := Option.some.inj hproperty
      exact .ambiguousReference name found candidates
    -- The other links name no object to find fault with.
    | message | foreign | cyclicReference | internalConsistency => cases hobject

/-- A link that answers with a property finds fault with it. -/
theorem exists_blames {link : Cause} {property : String} (h : link.property? = some property) :
    ∃ domainObject, link.Blames domainObject property := by
  cases link with
  | configuration name found violation => exact ⟨name, blames_iff.mpr ⟨rfl, h⟩⟩
  | ambiguousReference name found candidates => exact ⟨name, blames_iff.mpr ⟨rfl, h⟩⟩
  | message | foreign | cyclicReference | internalConsistency => cases h

/-- A link that answers with an object and with no property finds fault with the whole object. -/
theorem eq_configuration {link : Cause} {domainObject : String}
    (hobject : link.domainObject? = some domainObject) (hproperty : link.property? = none) :
    ∃ violation, link = .configuration domainObject none violation := by
  cases link with
  | configuration name found violation =>
    obtain rfl : name = domainObject := Option.some.inj hobject
    obtain rfl : found = none := hproperty
    exact ⟨violation, rfl⟩
  | ambiguousReference => cases hproperty
  | message | foreign | cyclicReference | internalConsistency => cases hobject

/-- A link that answers with no object answers with no property either. -/
theorem property?_eq_none {link : Cause} (h : link.domainObject? = none) :
    link.property? = none := by
  refine Option.eq_none_iff_forall_ne_some.mpr fun property hproperty => ?_
  obtain ⟨domainObject, hblames⟩ := exists_blames hproperty
  cases h.symm.trans (blames_iff.mp hblames).1

end Cause

namespace Error

/-! ## Chains -/

/-- Puts an error into contexts, one after another. -/
def inContexts (error : Error) (contexts : List Cause) : Error :=
  contexts.foldl inContext error

/-- The context that was added last comes first. -/
theorem chain_inContexts (error : Error) (contexts : List Cause) :
    (error.inContexts contexts).chain = contexts.reverse ++ error.chain := by
  induction contexts generalizing error with
  | nil => rfl
  | cons context rest ih =>
    have hchain : (error.inContext context).chain = context :: error.chain := rfl
    have hrest : error.inContexts (context :: rest) = (error.inContext context).inContexts rest :=
      rfl
    rw [hrest, ih, hchain, List.reverse_cons, List.append_assoc, List.singleton_append]

/-- A property that is reported is that of the outermost link with a property, and this link finds
fault with it. -/
theorem exists_blames {error : Error} {property : String}
    (h : error.property? = some property) :
    ∃ before link after domainObject, error.chain = before ++ link :: after ∧
      (∀ context ∈ before, context.property? = none) ∧ link.Blames domainObject property := by
  obtain ⟨before, link, after, hchain, hlink, hbefore⟩ := List.findSome?_eq_some_iff.mp h
  obtain ⟨domainObject, hblames⟩ := Cause.exists_blames hlink
  exact ⟨before, link, after, domainObject, hchain, hbefore, hblames⟩

/-! ## Culprits -/

/-- The property that the error reports, if it reports one, is a property of the domain object that
it reports: some link of the chain finds fault with the one as a property of the other. -/
def HasOneCulprit (error : Error) : Prop :=
  ∀ property, error.property? = some property →
    ∃ domainObject, error.domainObject? = some domainObject ∧
      ∃ link ∈ error.chain, link.Blames domainObject property

/-- The outermost fault of the chain is with a whole object. The outermost fault with a property is
with that of another object, and no link from there inward finds fault with a property of the same
name of the first. -/
def MixesCulprits (error : Error) : Prop :=
  ∃ before domainObject violation between link other property after,
    error.chain =
      before ++ Cause.configuration domainObject none violation :: (between ++ link :: after) ∧
    (∀ context ∈ before, context.domainObject? = none) ∧
    (∀ context ∈ between, context.property? = none) ∧
    link.Blames other property ∧
    ∀ inner ∈ link :: after, ¬ inner.Blames domainObject property

/-- Mixed reports are those of the object in front and of the property further in. -/
theorem reports_of_mixesCulprits {error : Error} (h : error.MixesCulprits) :
    ∃ domainObject property, error.domainObject? = some domainObject ∧
      error.property? = some property ∧
      ∀ link ∈ error.chain, ¬ link.Blames domainObject property := by
  obtain ⟨before, domainObject, violation, between, link, other, property, after, hchain, hbefore,
    hbetween, hlink, hinner⟩ := h
  -- Only the link and what is further in can find fault with a property.
  have hnone : ∀ context ∈ before ++ Cause.configuration domainObject none violation :: between,
      context.property? = none := by
    intro context hcontext
    rcases List.mem_append.mp hcontext with hmem | hmem
    · exact Cause.property?_eq_none (hbefore context hmem)
    · rcases List.mem_cons.mp hmem with rfl | hmem
      · rfl
      · exact hbetween context hmem
  have hsplit : error.chain =
      (before ++ Cause.configuration domainObject none violation :: between) ++ link :: after := by
    rw [hchain, List.append_assoc, List.cons_append]
  refine ⟨domainObject, property, ?_, ?_, fun context hcontext hblames => ?_⟩
  · exact List.findSome?_eq_some_iff.mpr ⟨before, _, _, hchain, rfl, hbefore⟩
  · exact List.findSome?_eq_some_iff.mpr
      ⟨_, link, after, hsplit, (Cause.blames_iff.mp hlink).2, hnone⟩
  · rw [hsplit] at hcontext
    rcases List.mem_append.mp hcontext with hmem | hmem
    · cases (hnone context hmem).symm.trans (Cause.blames_iff.mp hblames).2
    · exact hinner context hmem hblames

/-- Mixed reports do not have one culprit. -/
theorem not_hasOneCulprit_of_mixesCulprits {error : Error} (h : error.MixesCulprits) :
    ¬ error.HasOneCulprit := by
  intro hone
  obtain ⟨domainObject, property, hobject, hproperty, hnone⟩ := reports_of_mixesCulprits h
  obtain ⟨found, hfound, link, hlink, hblames⟩ := hone property hproperty
  obtain rfl : domainObject = found := Option.some.inj (hobject.symm.trans hfound)
  exact hnone link hlink hblames

/-- Reports that are not mixed have one culprit. -/
theorem hasOneCulprit_of_not_mixesCulprits {error : Error} (h : ¬ error.MixesCulprits) :
    error.HasOneCulprit := by
  intro property hproperty
  obtain ⟨passed, link, after, other, hchain, hpassed, hlink⟩ := exists_blames hproperty
  have hmem : link ∈ error.chain := hchain ▸ List.mem_append_right passed List.mem_cons_self
  cases hfound : passed.findSome? Cause.domainObject? with
  | none =>
    -- Nothing in front of the link answers with an object, so the link is heard about both.
    refine ⟨other, ?_, link, hmem, hlink⟩
    exact List.findSome?_eq_some_iff.mpr ⟨passed, link, after, hchain,
      (Cause.blames_iff.mp hlink).1, List.findSome?_eq_none_iff.mp hfound⟩
  | some domainObject =>
    -- The object that is reported is that of a link which is passed over for the property.
    obtain ⟨before, whole, between, rfl, hwhole, hbefore⟩ := List.findSome?_eq_some_iff.mp hfound
    have hpassedWhole := hpassed whole (List.mem_append_right before List.mem_cons_self)
    obtain ⟨violation, rfl⟩ := Cause.eq_configuration hwhole hpassedWhole
    rw [List.append_assoc, List.cons_append] at hchain
    refine ⟨domainObject, List.findSome?_eq_some_iff.mpr
      ⟨before, _, _, hchain, rfl, hbefore⟩, ?_⟩
    by_contra hnone
    refine h ⟨before, domainObject, violation, between, link, other, property, after, hchain,
      hbefore, fun context hcontext => ?_, hlink, fun inner hinner hblames => hnone ?_⟩
    · exact hpassed context (List.mem_append_right before (List.mem_cons_of_mem _ hcontext))
    · refine ⟨inner, ?_, hblames⟩
      rw [hchain]
      exact List.mem_append_right before
        (List.mem_cons_of_mem _ (List.mem_append_right between hinner))

/-- The chain of an error is its root cause behind its contexts, the last one first. A property is
reported only beside a domain object, and as a link finds fault with it. It is a property of that
object unless the reports are mixed. -/
theorem hasOneCulprit_iff (root : Cause) (contexts : List Cause) :
    ((ofCause root).inContexts contexts).chain = contexts.reverse ++ [root] ∧
    (∀ property, ((ofCause root).inContexts contexts).property? = some property →
      (∃ domainObject,
        ((ofCause root).inContexts contexts).domainObject? = some domainObject) ∧
      ∃ link ∈ contexts.reverse ++ [root], ∃ other, link.Blames other property) ∧
    (((ofCause root).inContexts contexts).HasOneCulprit ↔
      ¬ ((ofCause root).inContexts contexts).MixesCulprits) := by
  have hchain : ((ofCause root).inContexts contexts).chain = contexts.reverse ++ [root] :=
    chain_inContexts (ofCause root) contexts
  -- What follows holds of any error, whatever its chain.
  generalize (ofCause root).inContexts contexts = error at hchain ⊢
  refine ⟨hchain, fun property hproperty => ?_,
    fun hone hmixed => not_hasOneCulprit_of_mixesCulprits hmixed hone,
    hasOneCulprit_of_not_mixesCulprits⟩
  obtain ⟨before, link, after, other, hsplit, -, hlink⟩ := exists_blames hproperty
  have hmem : link ∈ error.chain := hsplit ▸ List.mem_append_right before List.mem_cons_self
  refine ⟨Option.isSome_iff_exists.mp ?_, link, hchain ▸ hmem, other, hlink⟩
  refine List.findSome?_isSome_iff.mpr ⟨link, hmem, ?_⟩
  rw [(Cause.blames_iff.mp hlink).1]
  rfl

/-- A fault with the engineer of a train, in the context of a fault with a person. -/
def engineerOfPerson : Error :=
  (ofCause (.configuration "Train" (some "engineer") (.stated "is not known" none))).inContexts
    [.configuration "Person" none (.stated "cannot be derived" none)]

/-- The error reports the person, and the engineer as a property of it. -/
theorem not_hasOneCulprit_engineerOfPerson :
    engineerOfPerson.domainObject? = some "Person" ∧
      engineerOfPerson.property? = some "engineer" ∧ ¬ engineerOfPerson.HasOneCulprit := by
  have hmixed : engineerOfPerson.MixesCulprits := by
    refine ⟨[], "Person", _, [], _, "Train", "engineer", [], rfl, List.forall_mem_nil _,
      List.forall_mem_nil _, .configuration "Train" "engineer" _, fun inner hinner hblames => ?_⟩
    obtain rfl := List.mem_singleton.mp hinner
    exact absurd (Option.some.inj (Cause.blames_iff.mp hblames).1) (by decide)
  exact ⟨rfl, rfl, not_hasOneCulprit_of_mixesCulprits hmixed⟩

end Error

end DomainTables
